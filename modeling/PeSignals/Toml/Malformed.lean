import PeSignals.Text.Digits

/-!
# Malformed documents

Why bytes are no document. A reader stops at the first thing that is wrong, so the cause is that of the
earliest place.
-/
namespace PeSignals.Toml

inductive Malformed
  | encoding
  | document
  /-- A whole number in base ten has more digits than are read. -/
  | oversized (digits : Nat)
  deriving Repr, DecidableEq

/-- The wording of a number that is too long; other causes have no wording of their own. -/
def Malformed.message? : Malformed → Option String
  | oversized digits => some (Text.digitLimitMessage digits)
  | _ => none

/-- What was read, or a malformed document. -/
def required (read : Option α) : Except Malformed α :=
  match read with
  | some a => .ok a
  | none => .error .document

end PeSignals.Toml
