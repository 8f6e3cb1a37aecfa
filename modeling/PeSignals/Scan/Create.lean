import PeSignals.Scan.Basic
import PeSignals.Time.Distance

/-!
# Scans from given values

A scan made from the fields of an object, with every broken rule reported, and its times and summary
given later.
-/
namespace PeSignals.Scan

open Time (Moment)

def readPayload : Json → Except FieldRule Json
  | .object fields => .ok (.object fields)
  | _ => .error .mapping

/-- The rule that an unreadable text breaks. -/
def textRule : Moment.Unreadable → FieldRule
  | .form => .momentText
  | .yearZero => .momentNumber

/-- Reads a moment from a number, whose form is beyond doubt. -/
def numberMoment (read? : Option (Except Moment.Unreadable Moment)) : Except FieldRule Moment :=
  match read? with
  | some (.ok m) => .ok m
  | _ => .error .momentNumber

/-- Reads a moment. A whole number of more than 64 bits is taken as a double. -/
def readMoment : Json → Except FieldRule Moment
  | .string s => (Moment.ofText s).mapError textRule
  | .int n =>
    let x := Float.ofInt n
    if n.natAbs ≤ Moment.wholeLimit then numberMoment (Moment.ofNumber? n 0)
    else if x.isFinite then numberMoment (Moment.ofDouble? x)
    else .error .moment
  | .float x => numberMoment (Moment.ofDouble? x)
  | _ => .error .moment

/-- Reads a moment or `null`, which is none. -/
def readEnd : Json → Except FieldRule (Option Moment)
  | .null => .ok none
  | j => (readMoment j).map some

/-- Makes a finding from a value that must be an object. -/
def readFinding : Json → Except (List FieldFault) Finding
  | .object fields => Finding.create (.object fields)
  | _ => .error [⟨"", .record⟩]

def create (fields : Json) (now : Moment) : Except (List FieldFault) (Scan Json) :=
  let tool := Field.required fields "tool_name" (Field.readPlain 1)
  let target := Field.required fields "target" (Field.readPlain 1)
  let started := Field.optional fields "start_time" readMoment now
  let ended := Field.optional fields "end_time" readEnd none
  let findings := Field.readList fields "findings" .sequence readFinding
  let summary := Field.optional fields "summary" (Field.readPlain 0) ""
  let payload := Field.optional fields "metadata" readPayload (.object [])
  match tool, target, started, ended, findings, summary, payload with
  | .ok tool, .ok target, .ok started, .ok ended, .ok findings, .ok summary, .ok payload =>
    .ok { tool, target, started, ended, findings, summary, payload }
  | _, _, _, _, _, _, _ =>
    .error (Field.fault? "tool_name" tool ++ Field.fault? "target" target ++
      Field.fault? "start_time" started ++ Field.fault? "end_time" ended ++
      Field.faults findings ++ Field.fault? "summary" summary ++
      Field.fault? "metadata" payload)

variable {α : Type}

/-- Ends a scan with a summary given as a value, where `null` is none. A summary that is no text is
refused when the end is already noted. -/
def finalizeGiven (s : Scan α) (now : Moment) (summary : Json) : Scan α × Option FieldFault :=
  match summary with
  | .null => (s.finalize now, none)
  | .string summary => (s.finalize now (some summary), none)
  | _ => ({ s with ended := some now }, some ⟨"summary", .text⟩)

/-- Gives a scan the moment at which it began and, unless it is `null`, the one at which it ended, both in
microseconds after another moment. The first is noted even when the second is refused. -/
def retime (s : Scan α) (origin : Moment) (started ended : Json) :
    Scan α × Option Time.DistanceFault :=
  match Time.microsecondsOf started >>= origin.after, ended with
  | .error fault, _ => (s, some fault)
  | .ok started, .null => ({ s with started, ended := none }, none)
  | .ok started, ended =>
    match Time.microsecondsOf ended >>= origin.after with
    | .error fault => ({ s with started }, some fault)
    | .ok ended => ({ s with started, ended := some ended }, none)

end PeSignals.Scan
