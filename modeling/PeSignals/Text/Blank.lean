import PeSignals.Text.Ranges

/-!
# Blanks

The characters that count as blank, texts without blanks at their ends, and the words of a text.
-/
namespace PeSignals.Text

/-- The code points of blanks: controls from tab to carriage return, and every kind of space. -/
def blankRanges : Ranges :=
  [(0x09, 0x0D), (0x20, 0x20), (0x85, 0x85), (0xA0, 0xA0), (0x1680, 0x1680), (0x2000, 0x200A),
    (0x2028, 0x2029), (0x202F, 0x202F), (0x205F, 0x205F), (0x3000, 0x3000)]

/-- Whether a character is a blank. -/
def isBlank (c : Char) : Bool := blankRanges.has c

/-- The characters of a text without the blanks at its ends. -/
def trimChars (text : List Char) : List Char :=
  ((text.dropWhile isBlank).reverse.dropWhile isBlank).reverse

def trim (text : String) : String :=
  String.ofList (trimChars text.toList)

/-- The code points that separate units of data. -/
def separatorRanges : Ranges := [(0x1C, 0x1F)]

/-- Whether a character stands between words: a blank or a separator. -/
def isSpacing (c : Char) : Bool := isBlank c || separatorRanges.has c

/-- The words of characters behind the part of a word, last character first, that was read before. -/
def wordsFrom (word : List Char) : List Char → List String
  | [] => if word.isEmpty then [] else [String.ofList word.reverse]
  | c :: rest =>
    if !isSpacing c then wordsFrom (c :: word) rest
    else if word.isEmpty then wordsFrom [] rest
    else String.ofList word.reverse :: wordsFrom [] rest

def words (text : String) : List String := wordsFrom [] text.toList

/-- Characters without the spacing at their ends. -/
def stripped (cs : List Char) : List Char :=
  ((cs.dropWhile isSpacing).reverse.dropWhile isSpacing).reverse

end PeSignals.Text
