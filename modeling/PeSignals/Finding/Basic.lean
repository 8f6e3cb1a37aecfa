import PeSignals.Field
import PeSignals.Finding.Severity
import PeSignals.Json.Literal
import PeSignals.Json.Printer
import PeSignals.Text.Blank

/-!
# Findings

One observation of a scan. Texts are kept without blanks at their ends, and lengths are checked after
that: a title has 1 to 256 characters and a description at least one. A finding made from given
values reports every broken rule; a field assigned later is checked alone, and a refused value leaves
the finding as it was.
-/
namespace PeSignals

/-- One observation. -/
structure Finding where
  severity : Severity
  title : String
  description : String
  evidence : String := ""
  recommendation : String := ""
  deriving Repr, DecidableEq

namespace Finding

def evidenceText : Json → String
  | .array items => (Json.array items).compact
  | .object fields => (Json.object fields).compact
  | j => j.plainText

/-- A finding from values that are known to fit. -/
def make (severity : Severity) (title description : String) (evidence : Json)
    (recommendation : String := "") : Finding where
  severity
  title := Text.trim title
  description := Text.trim description
  evidence := Text.trim (evidenceText evidence)
  recommendation := Text.trim recommendation

def titleLimit : Nat := 256

/-- Reads a text with at least `least` characters and, given a limit, at most that many. -/
def readText (least : Nat) (limit : Option Nat) : Json → Except FieldRule String
  | .string s =>
    let s := Text.trim s
    if s.length < least then .error .tooShort
    else if limit.any (· < s.length) then .error .tooLong
    else .ok s
  | _ => .error .text

def readSeverity (j : Json) : Except FieldRule Severity :=
  match j.text?.bind Severity.ofLabel? with
  | some s => .ok s
  | none => .error .choice

def readTitle : Json → Except FieldRule String := readText 1 (some titleLimit)

def readDescription : Json → Except FieldRule String := readText 1 none

/-- Reads evidence, which may be of any kind that has a text. -/
def readEvidence (j : Json) : Except FieldRule String :=
  if j.isWritable then .ok (Text.trim (evidenceText j)) else .error .unwritable

def readRecommendation : Json → Except FieldRule String := readText 0 none

/-- Makes a finding from the fields of an object; fields of other names are passed over. -/
def create (fields : Json) : Except (List FieldFault) Finding :=
  let severity := Field.required fields "severity" readSeverity
  let title := Field.required fields "title" readTitle
  let description := Field.required fields "description" readDescription
  let evidence := Field.optional fields "evidence" readEvidence ""
  let recommendation := Field.optional fields "recommendation" readRecommendation ""
  match severity, title, description, evidence, recommendation with
  | .ok severity, .ok title, .ok description, .ok evidence, .ok recommendation =>
    .ok { severity, title, description, evidence, recommendation }
  | _, _, _, _, _ =>
    .error (Field.fault? "severity" severity ++ Field.fault? "title" title ++
      Field.fault? "description" description ++ Field.fault? "evidence" evidence ++
      Field.fault? "recommendation" recommendation)

/-- Why an assignment was refused. -/
inductive Refused
  | fault (fault : FieldFault)
  /-- What the name stands for follows from the fields. -/
  | derived (name : String)
  /-- The name is no text but a value of another kind. -/
  | notAName (kindName : String)
  deriving Repr, DecidableEq

/-- The wording of a refused assignment; the fault of a field has none. -/
def Refused.message? : Refused → Option String
  | fault _ => none
  | derived name => some s!"property '{name}' of 'Finding' object has no setter"
  | notAName kindName => some s!"attribute name must be string, not '{kindName}'"

/-- The names of what follows from the fields. -/
def derivedNames : List String := ["model_extra", "model_fields_set"]

/-- Puts a value that was read into a field. -/
def put (name : String) (value : Except FieldRule α) (update : α → Finding) :
    Except Refused Finding :=
  match value with
  | .ok a => .ok (update a)
  | .error rule => .error (.fault ⟨name, rule⟩)

/-- Whether a name is that of a remark that stands beside the fields. -/
def isRemark (name : String) : Bool := name.toList.head? = some '_'

/-- Assigns a value to a field. A remark changes no field. -/
def assign (f : Finding) (name : String) (j : Json) : Except Refused Finding :=
  match name with
  | "severity" => put name (readSeverity j) fun s => { f with severity := s }
  | "title" => put name (readTitle j) fun s => { f with title := s }
  | "description" => put name (readDescription j) fun s => { f with description := s }
  | "evidence" => put name (readEvidence j) fun s => { f with evidence := s }
  | "recommendation" => put name (readRecommendation j) fun s => { f with recommendation := s }
  | _ =>
    if isRemark name then .ok f
    else if derivedNames.contains name then .error (.derived name)
    else .error (.fault ⟨name, .unknownName⟩)

/-- Assigns a value to the field that a value names. -/
def assignTo (f : Finding) (name j : Json) : Except Refused Finding :=
  match name with
  | .string name => f.assign name j
  | name => .error (.notAName name.kindName)

def toJson (f : Finding) : Json :=
  .object [("severity", .string f.severity.label), ("title", .string f.title),
    ("description", .string f.description), ("evidence", .string f.evidence),
    ("recommendation", .string f.recommendation)]

end Finding

end PeSignals
