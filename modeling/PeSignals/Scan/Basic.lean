import PeSignals.Files.Error
import PeSignals.Finding.Basic
import PeSignals.Json.Misuse
import PeSignals.Time.Moment

/-!
# Scans

The record of one run of a tool: what it looked at, when, what it found, and the payload from which
displays and reports are made. Counts and the highest severity are views of the list of findings.
-/
namespace PeSignals

open Time (Moment)

/-- The record of one run with a payload of type `α`. -/
structure Scan (α : Type) where
  tool : String
  target : String
  started : Moment
  ended : Option Moment := none
  findings : List Finding := []
  summary : String := ""
  payload : α

/-- Why there is no scan at all. -/
inductive ScanFault
  /-- Nothing was named to be scanned. -/
  | noTarget
  /-- The time limit is a whole number beyond the doubles. -/
  | limitTooLarge
  | file (cause : Files.FileError)
  deriving Repr, DecidableEq

/-- The wording of a missing scan; a missing target has none. -/
def ScanFault.message? : ScanFault → Option String
  | noTarget => none
  | limitTooLarge => some Json.Misuse.numberTooLarge.message
  | file cause => some cause.message

namespace Scan

variable {α : Type}

def count (s : Scan α) (severity : Severity) : Nat :=
  s.findings.countP fun f => f.severity = severity

/-- The number of findings of each severity, the most severe first. -/
def counts (s : Scan α) : List (Severity × Nat) :=
  Severity.all.map fun severity => (severity, s.count severity)

/-- The most severe finding's severity. -/
def highest? (s : Scan α) : Option Severity :=
  Severity.all.find? fun severity => s.findings.any fun f => f.severity = severity

def add (s : Scan α) (f : Finding) : Scan α := { s with findings := s.findings ++ [f] }

/-- The severities that occur, with their counts. -/
def occurring (s : Scan α) : List (Severity × Nat) := s.counts.filter fun c => c.2 ≠ 0

/-- One severity with its count in a summary. -/
def countText (c : Severity × Nat) : String := s!"{c.1.label}: {c.2}"

/-- The summary of a scan that was given none. -/
def defaultSummary (s : Scan α) : String :=
  let parts := s.occurring.map countText
  let shown := if parts.isEmpty then "none" else ", ".intercalate parts
  s!"Scan complete. Findings: {s.findings.length} ({shown})"

/-- Ends a scan. -/
def finalize (s : Scan α) (now : Moment) (summary : Option String := none) : Scan α :=
  { s with ended := some now, summary := summary.getD s.defaultSummary }

/-- The number of seconds that is nearest to a number of microseconds. -/
def seconds (microseconds : Int) : Float :=
  let x := Float.ofScientific microseconds.natAbs true 6
  if microseconds < 0 then -x else x

/-- Whether a scan began at a local moment and ended at another kind of moment, or the other way
round. There is no length between such moments. -/
def mixesZones (s : Scan α) : Bool := s.ended.any fun ended => ended.isLocal != s.started.isLocal

/-- The wording of a length that cannot be told. -/
def mixedZonesMessage : String := "can't subtract offset-naive and offset-aware datetimes"

/-- The length of a scan that has ended, in seconds, unless it mixes zones. -/
def duration? (s : Scan α) : Option Float :=
  if s.mixesZones then none
  else s.ended.map fun ended => seconds (ended.microseconds - s.started.microseconds)

end Scan

end PeSignals
