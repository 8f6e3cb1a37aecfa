import PeSignals.Decimal.Fixed
import PeSignals.Text.Hexadecimal
import PeSignals.Text.Ranges
import PeSignals.Text.Table.Unprintable

/-!
# Quoted text

A text between quotes with escapes, as messages show file names and literals. Single quotes are used
unless the text holds single quotes and no double quotes.
-/
namespace PeSignals.Text

def quoteMark (text : List Char) : Char :=
  if text.contains '\'' && !text.contains '"' then '"' else '\''

/-- An escape by code point with the shortest of the three widths. -/
def codePointEscape (c : Char) : String :=
  let digits := hexadecimal c.toNat
  if c.toNat < 0x100 then "\\x" ++ Decimal.padZeros 2 digits
  else if c.toNat < 0x10000 then "\\u" ++ Decimal.padZeros 4 digits
  else "\\U" ++ Decimal.padZeros 8 digits

/-- One character inside quotes of the given mark. -/
def quoteChar (mark c : Char) : String :=
  if c = mark ∨ c = '\\' then String.ofList ['\\', c]
  else if c = '\n' then "\\n"
  else if c = '\r' then "\\r"
  else if c = '\t' then "\\t"
  else if c.toNat < 128 then
    if c.toNat < 32 ∨ c.toNat = 127 then codePointEscape c else c.toString
  else if Table.unprintable.has c then codePointEscape c
  else c.toString

def quoted (text : String) : String :=
  let mark := quoteMark text.toList
  mark.toString ++ String.join (text.toList.map (quoteChar mark)) ++ mark.toString

end PeSignals.Text
