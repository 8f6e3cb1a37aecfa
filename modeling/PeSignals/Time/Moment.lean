import PeSignals.Decimal.Reading
import PeSignals.Decimal.Whole
import PeSignals.Time.Calendar

/-!
# Moments

A moment is a point in time to the microsecond. It is read from the text of a date, alone or with a time
of day and an offset, or from a number of seconds since the start of 1970; great numbers count as
milliseconds. What is read without an offset is a local moment.
-/
namespace PeSignals.Time

open Text (expect fixedDigits sign)

structure Moment where
  /-- Microseconds since the start of 1970. -/
  microseconds : Int
  /-- Whether the moment has no offset, so that it can be compared with local moments alone. -/
  isLocal : Bool := false
  deriving Repr, DecidableEq

namespace Moment

/-- Why a value stands for no moment. -/
inductive Unreadable
  /-- The value has the form of no moment. -/
  | form
  /-- The moment lies in the year 0, which the calendar lacks. -/
  | yearZero
  deriving Repr, DecidableEq

/-- The first and the last second that a number can stand for: the years 0 to 9999. -/
def secondRange : Int × Int := (-62167219200, 253402300799)

/-- The first microsecond of the year 1. -/
def calendarStart : Int := -62135596800000000

/-- The greatest number that counts as seconds. -/
def secondLimit : Nat := 20000000000

/-- A moment whose own clock shows `shown` microseconds, if that is in the calendar. -/
def inCalendar (shown : Int) (m : Moment) : Except Unreadable Moment :=
  if shown < calendarStart then .error .yearZero else .ok m

/-- The moment of a number of seconds or milliseconds with further microseconds. -/
def ofNumber? (n : Int) (more : Nat) : Option (Except Unreadable Moment) :=
  let microseconds := (if n.natAbs ≤ secondLimit then n * 1000000 else n * 1000) + more
  let second := microseconds / 1000000
  if secondRange.1 ≤ second ∧ second ≤ secondRange.2 then
    some (inCalendar microseconds { microseconds })
  else none

/-- The moment of a double: its whole part downwards and what is left over in microseconds. -/
def ofDouble? (x : Float) : Option (Except Unreadable Moment) := do
  let seconds := if x.abs > secondLimit.toFloat then x / 1000 else x
  let whole ← (Decimal.wholePart seconds.floor).toOption
  let more ← (Decimal.wholePart ((seconds - seconds.floor) * 1000000).round).toOption
  ofNumber? whole more.toNat

/-- Reads a date of the calendar. -/
def date (cs : List Char) : Option (Date × List Char) := do
  let (year, cs) ← fixedDigits 4 0 9999 cs
  let (month, cs) ← fixedDigits 2 1 12 (← expect '-' cs)
  let (day, cs) ← fixedDigits 2 1 (monthDays year month) (← expect '-' cs)
  return ({ year, month, day }, cs)

/-- Reads a fraction of a second in microseconds, if there is one; what is finer is cut off. -/
def fraction : List Char → Option (Nat × List Char)
  | '.' :: rest | ',' :: rest =>
    let digits := rest.takeWhile Char.isDigit
    if digits.isEmpty then none else some (Text.millionths digits, rest.drop digits.length)
  | cs => some (0, cs)

/-- Reads seconds and their fraction in microseconds, if there are any. -/
def seconds : List Char → Option (Nat × List Char)
  | ':' :: rest => do
    let (second, rest) ← fixedDigits 2 0 59 rest
    let (more, rest) ← fraction rest
    return (second * 1000000 + more, rest)
  | cs => some (0, cs)

def timeOfDay (cs : List Char) : Option (Nat × List Char) := do
  let (hour, cs) ← fixedDigits 2 0 23 cs
  let (minute, cs) ← fixedDigits 2 0 59 (← expect ':' cs)
  let (more, cs) ← seconds cs
  return ((hour * 60 + minute) * 60000000 + more, cs)

/-- Reads the size of an offset in minutes, with or without a colon; it is less than a day. -/
def offsetSize (cs : List Char) : Option (Nat × List Char) := do
  let (hour, cs) ← fixedDigits 2 0 23 cs
  let cs := match cs with
    | ':' :: rest => rest
    | cs => cs
  let (minute, cs) ← fixedDigits 2 0 59 cs
  return (hour * 60 + minute, cs)

/-- Reads an offset in minutes up to the end; without one the moment is local. -/
def offset : List Char → Option (Option Int)
  | [] => some none
  | ['Z'] | ['z'] => some (some 0)
  | mark :: rest => do
    let (size, rest) ← offsetSize rest
    if !rest.isEmpty then none
    else if mark = '+' then return some (size : Int)
    else if mark = '-' ∨ mark = '−' then return some (-(size : Int))
    else none

/-- Whether a character stands between a date and a time of day. -/
def isSeparator (c : Char) : Bool := c = 'T' || c = 't' || c = ' ' || c = '_'

def startOf (d : Date) : Int := d.toDays * 86400000000

/-- The moment of characters that are a date with a time of day. -/
def dated? (cs : List Char) : Option (Except Unreadable Moment) := do
  let (day, rest) ← date cs
  match rest with
  | [] => none
  | separator :: rest =>
    if !isSeparator separator then none
    else do
      let (time, rest) ← timeOfDay rest
      let offset ← offset rest
      let shown := startOf day + time
      return inCalendar shown { microseconds := shown - offset.getD 0 * 60000000
                                isLocal := offset.isNone }

/-- The greatest whole number that is read from a text. -/
def wholeLimit : Nat := 9223372036854775807

/-- The moment of characters that are a number. An exponent stands only behind a point. -/
def numeral? (cs : List Char) : Option (Except Unreadable Moment) :=
  let (negative, rest) := sign cs
  let whole := rest.takeWhile Char.isDigit
  let n := Text.digitsValue whole
  match rest.drop whole.length with
  | [] =>
    if whole.isEmpty ∨ wholeLimit < n then none
    else ofNumber? (if negative then -(n : Int) else n) 0
  | '.' :: _ =>
    if wholeLimit < n * 10 then none else (Decimal.magnitudeOf? negative rest).bind ofDouble?
  | _ => none

/-- The start of the day that characters are the date of. -/
def day? (cs : List Char) : Option (Except Unreadable Moment) := do
  let (day, rest) ← date cs
  if rest.isEmpty then
    return inCalendar (startOf day) { microseconds := startOf day, isLocal := true }
  else none

def ofText (text : String) : Except Unreadable Moment :=
  let cs := text.toList
  ((dated? cs).or ((numeral? cs).or (day? cs))).getD (.error .form)

end Moment

end PeSignals.Time
