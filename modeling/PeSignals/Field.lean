import PeSignals.Json.Basic

/-!
# Field faults

Why a record could not be made from given values: one fault per field, in the order of the fields.
Readers give the value of one field or the rule that it breaks.
-/
namespace PeSignals

/-- A rule that a field value can break. -/
inductive FieldRule
  | missing
  | text
  | tooShort
  | tooLong
  | choice
  | notNegative
  | mapping
  | sequence
  /-- A value that is no list of a fixed kind of items. -/
  | row
  /-- A value that is no list of distinct items. -/
  | distinct
  /-- A value that is no whole number. -/
  | whole
  /-- A text that is no whole number. -/
  | wholeText
  /-- A number with a fraction. -/
  | fraction
  /-- An infinite value or no number. -/
  | finite
  /-- A whole double that is too large. -/
  | wholeSize
  /-- A value with a whole number that has too many digits to be written. -/
  | unwritable
  /-- There is no field of the name. -/
  | unknownName
  /-- A value that is no record. -/
  | record
  /-- A text that starts like a moment and is none. -/
  | momentText
  /-- A number that is no moment. -/
  | momentNumber
  /-- A value that cannot be a moment. -/
  | moment
  deriving Repr, DecidableEq

def FieldRule.label : FieldRule → String
  | missing => "missing"
  | text => "string_type"
  | tooShort => "string_too_short"
  | tooLong => "string_too_long"
  | choice => "enum"
  | notNegative => "greater_than_equal"
  | mapping => "dict_type"
  | sequence => "list_type"
  | row => "tuple_type"
  | distinct => "frozen_set_type"
  | whole => "int_type"
  | wholeText => "int_parsing"
  | fraction => "int_from_float"
  | finite => "finite_number"
  | wholeSize => "int_parsing_size"
  | unwritable => "value_error"
  | unknownName => "no_such_attribute"
  | record => "model_type"
  | momentText => "datetime_from_date_parsing"
  | momentNumber => "datetime_parsing"
  | moment => "datetime_type"

/-- A field and the rule that its value breaks. -/
structure FieldFault where
  field : String
  rule : FieldRule
  deriving Repr, DecidableEq

/-- A fault in a part of a record, as a fault of the record. A fault without a field is that of the
whole part. -/
def FieldFault.within (fault : FieldFault) (part : String) : FieldFault :=
  { fault with field := if fault.field = "" then part else part ++ "." ++ fault.field }

namespace Field

/-- The value of a field that must be given. -/
def required (fields : Json) (name : String) (read : Json → Except FieldRule α) :
    Except FieldRule α :=
  match fields.get? name with
  | some j => read j
  | none => .error .missing

/-- The value of a field that may be left out. -/
def optional (fields : Json) (name : String) (read : Json → Except FieldRule α) (other : α) :
    Except FieldRule α :=
  match fields.get? name with
  | some j => read j
  | none => .ok other

/-- The fault of a field, if it has one. -/
def fault? (name : String) : Except FieldRule α → List FieldFault
  | .ok _ => []
  | .error rule => [⟨name, rule⟩]

/-- Reads a text of at least `least` characters as it stands. -/
def readPlain (least : Nat) : Json → Except FieldRule String
  | .string s => if s.length < least then .error .tooShort else .ok s
  | _ => .error .text

/-- The values of all items of a part, or the faults of those that have some. -/
def readAll (part : String) (read : Json → Except (List FieldFault) α) (items : List Json) :
    Except (List FieldFault) (List α) :=
  let made := items.map read
  let faults := made.zipIdx.flatMap fun (value, i) =>
    match value with
    | .ok _ => []
    | .error faults => faults.map (·.within s!"{part}.{i}")
  if faults.isEmpty then .ok (made.filterMap Except.toOption) else .error faults

/-- The items of a part that may be left out; a value that is no list breaks a rule. -/
def readList (fields : Json) (part : String) (rule : FieldRule)
    (read : Json → Except (List FieldFault) α) : Except (List FieldFault) (List α) :=
  match fields.get? part with
  | none => .ok []
  | some (.array items) => readAll part read items
  | some _ => .error [⟨part, rule⟩]

def faults : Except (List FieldFault) α → List FieldFault
  | .ok _ => []
  | .error faults => faults

end Field

end PeSignals
