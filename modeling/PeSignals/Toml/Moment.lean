import PeSignals.Decimal.Fixed
import PeSignals.Text.Digits
import PeSignals.Time.Calendar
import PeSignals.Toml.Value

/-!
# TOML dates and times

Dates, times of day and both together with an offset. A date must exist in the calendar from year 1
on. The fraction of a second is cut after six digits.
-/
namespace PeSignals.Toml

open Decimal (padZeros)
open Text (expect fixedDigits millionths)

/-- Numbers of two digits with a sign between them. -/
def joined (sign : String) (numbers : List Nat) : String :=
  sign.intercalate (numbers.map fun n => padZeros 2 (toString n))

/-- Reads the form of a date: year, month and day. -/
def dateNumbers (cs : List Char) : Option ((Nat × Nat × Nat) × List Char) := do
  let (year, cs) ← fixedDigits 4 0 9999 cs
  let (month, cs) ← fixedDigits 2 1 12 (← expect '-' cs)
  let (day, cs) ← fixedDigits 2 1 31 (← expect '-' cs)
  return ((year, month, day), cs)

/-- The text of a date that exists. -/
def dateText : Nat × Nat × Nat → Option String
  | (year, month, day) =>
    if 1 ≤ year ∧ day ≤ Time.monthDays year month then
      some (padZeros 4 (toString year) ++ "-" ++ joined "-" [month, day])
    else none

/-- Reads a fraction of a second, as its text in millionths; a fraction of zero has no text. -/
def fractionText (cs : List Char) : String × List Char :=
  match cs with
  | '.' :: rest =>
    let digits := rest.takeWhile Char.isDigit
    if digits.isEmpty then ("", cs)
    else if millionths digits = 0 then ("", rest.drop digits.length)
    else ("." ++ padZeros 6 (toString (millionths digits)), rest.drop digits.length)
  | cs => ("", cs)

/-- Reads a time of day as its text. -/
def timeText (cs : List Char) : Option (String × List Char) := do
  let (hour, cs) ← fixedDigits 2 0 23 cs
  let (minute, cs) ← fixedDigits 2 0 59 (← expect ':' cs)
  let (second, cs) ← fixedDigits 2 0 59 (← expect ':' cs)
  let (fraction, cs) := fractionText cs
  return (joined ":" [hour, minute, second] ++ fraction, cs)

/-- Reads the hours and minutes of an offset after its sign. An offset of zero has no sign of its
own. -/
def signedOffset (sign : String) (cs : List Char) : Option (String × List Char) := do
  let (hour, cs) ← fixedDigits 2 0 23 cs
  let (minute, cs) ← fixedDigits 2 0 59 (← expect ':' cs)
  return ((if hour = 0 ∧ minute = 0 then "+" else sign) ++ joined ":" [hour, minute], cs)

/-- Reads an offset as its text, if there is one. -/
def offsetText (cs : List Char) : String × List Char :=
  match cs with
  | 'Z' :: rest | 'z' :: rest => ("+00:00", rest)
  | '+' :: rest => (signedOffset "+" rest).getD ("", cs)
  | '-' :: rest => (signedOffset "-" rest).getD ("", cs)
  | cs => ("", cs)

/-- Reads a time of day and an offset after the sign that joins them to a date. -/
def timeOfDate (cs : List Char) : Option (String × List Char) :=
  match cs with
  | 'T' :: rest | 't' :: rest | ' ' :: rest => do
    let (time, rest) ← timeText rest
    let (offset, rest) := offsetText rest
    return (time ++ offset, rest)
  | _ => none

/-- Finishes a value that has the form of a date; nothing if there is no such date. -/
def dated (numbers : Nat × Nat × Nat) (cs : List Char) : Option (Value × List Char) := do
  let date ← dateText numbers
  match timeOfDate cs with
  | some (time, rest) => return (.moment .dateTime (date ++ " " ++ time), rest)
  | none => return (.moment .date date, cs)

end PeSignals.Toml
