import PeSignals.Text.Ranges

/-!
# Lines

A text cut at its line breaks. A carriage return with a line feed behind it is one break, and a break
at the end of the text starts no further line.
-/
namespace PeSignals.Text

/-- The code points that break lines in files. -/
def fileBreaks : Ranges := [(0x0A, 0x0A), (0x0D, 0x0D)]

/-- The code points that break lines in any text. -/
def allBreaks : Ranges := [(0x0A, 0x0D), (0x1C, 0x1E), (0x85, 0x85), (0x2028, 0x2029)]

/-- The lines of characters behind the part of a line, last character first, that was read before. -/
def linesFrom (breaks : Ranges) (line : List Char) : List Char → List String
  | [] => if line.isEmpty then [] else [String.ofList line.reverse]
  | '\r' :: '\n' :: rest =>
    if breaks.has '\r' then String.ofList line.reverse :: linesFrom breaks [] rest
    else linesFrom breaks ('\n' :: '\r' :: line) rest
  | c :: rest =>
    if breaks.has c then String.ofList line.reverse :: linesFrom breaks [] rest
    else linesFrom breaks (c :: line) rest

def lines (breaks : Ranges) (text : String) : List String := linesFrom breaks [] text.toList

end PeSignals.Text
