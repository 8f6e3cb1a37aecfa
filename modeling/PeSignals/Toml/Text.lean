import PeSignals.Text.Hexadecimal

/-!
# TOML texts and keys

Readers of the smallest parts of a document. A reader takes characters and gives what it read with
the characters that follow, or nothing where the document is malformed. Texts of one line hold no
control character but the tab, texts of several lines also hold line feeds.
-/
namespace PeSignals.Toml

open Text (hexValue isHexDigit)

/-- A key: the names between its dots, at least one. -/
abbrev Key := List String

/-- Whether a character separates words on one line. -/
def isSpace (c : Char) : Bool := c = ' ' || c = '\t'

/-- Whether a character separates the items of an array. -/
def isGap (c : Char) : Bool := isSpace c || c = '\n'

/-- Whether a character may not stand in a comment or in a text of one line. -/
def isControl (c : Char) : Bool := (c.toNat < 32 && c ≠ '\t') || c.toNat = 127

/-- Whether a character may not stand in a text. -/
def isForbidden (multiline : Bool) (c : Char) : Bool :=
  isControl c && !(multiline && c = '\n')

/-- Whether a character may stand in a name without quotes. -/
def isBare (c : Char) : Bool := c.isAlphanum || c = '-' || c = '_'

/-- What follows the spaces at the start. -/
def skipSpaces (cs : List Char) : List Char := cs.dropWhile isSpace

/-- What follows a comment, if there is one. -/
def skipComment : List Char → Option (List Char)
  | '#' :: rest =>
    let comment := rest.takeWhile (· ≠ '\n')
    if comment.any isControl then none else some (rest.drop comment.length)
  | cs => some cs

/-- What follows gaps and comments between the items of an array. -/
def skipGaps (comment : Bool) : List Char → Option (List Char)
  | [] => some []
  | c :: rest =>
    if comment then
      if c = '\n' then skipGaps false rest
      else if isControl c then none
      else skipGaps true rest
    else if c = '#' then skipGaps true rest
    else if isGap c then skipGaps false rest
    else some (c :: rest)

/-- Reads the text of exactly `width` hexadecimal digits as the character with that code point. -/
def codePoint (width : Nat) (cs : List Char) : Option (Char × List Char) :=
  let digits := cs.take width
  let value := hexValue digits
  if digits.length = width ∧ digits.all isHexDigit then
    if h : value.isValidChar then some (Char.ofNatAux value h, cs.drop width) else none
  else none

/-- Reads what follows the end of a line inside a text of several lines: the line may end in spaces,
and the blank start of the next lines is left out. -/
def continuation (cs : List Char) : Option (List Char) :=
  match skipSpaces cs with
  | '\n' :: rest => some (rest.dropWhile isGap)
  | _ => none

/-- Reads an escape after its backslash; an escaped end of line stands for nothing. -/
def escape (multiline : Bool) : List Char → Option (Option Char × List Char)
  | 'b' :: rest => some (some '\x08', rest)
  | 't' :: rest => some (some '\t', rest)
  | 'n' :: rest => some (some '\n', rest)
  | 'f' :: rest => some (some '\x0c', rest)
  | 'r' :: rest => some (some '\x0d', rest)
  | '"' :: rest => some (some '"', rest)
  | '\\' :: rest => some (some '\\', rest)
  | 'u' :: rest => (codePoint 4 rest).map fun (c, rest) => (some c, rest)
  | 'U' :: rest => (codePoint 8 rest).map fun (c, rest) => (some c, rest)
  | cs => if multiline then (continuation cs).map fun rest => (none, rest) else none

/-- Reads a text with escapes up to the quotes that close it; `left` bounds its length. -/
def escapedText (multiline : Bool) : Nat → List Char → Option (List Char × List Char)
  | 0, _ | _ + 1, [] => none
  | left + 1, '\\' :: rest => do
    let (c, rest) ← escape multiline rest
    let (text, rest) ← escapedText multiline left rest
    return (c.toList ++ text, rest)
  | left + 1, '"' :: rest =>
    if !multiline then some ([], rest)
    else match rest with
      | '"' :: '"' :: rest => some ([], rest)
      | rest => (escapedText multiline left rest).map fun (text, rest) => ('"' :: text, rest)
  | left + 1, c :: rest =>
    if isForbidden multiline c then none
    else (escapedText multiline left rest).map fun (text, rest) => (c :: text, rest)

/-- Reads a text as it stands up to the apostrophes that close it. -/
def literalText (multiline : Bool) : List Char → Option (List Char × List Char)
  | [] => none
  | '\'' :: rest =>
    if !multiline then some ([], rest)
    else match rest with
      | '\'' :: '\'' :: rest => some ([], rest)
      | rest => (literalText multiline rest).map fun (text, rest) => ('\'' :: text, rest)
  | c :: rest =>
    if isForbidden multiline c then none
    else (literalText multiline rest).map fun (text, rest) => (c :: text, rest)

/-- One or two quotes right after the quotes that close a text of several lines belong to it. -/
def withClosing (quote : Char) : List Char × List Char → List Char × List Char
  | (text, rest) =>
    let more := (rest.take 2).takeWhile (· = quote)
    (text ++ more, rest.drop more.length)

/-- What follows a line feed right after the quotes that open a text of several lines. -/
def skipFirstLine : List Char → List Char
  | '\n' :: rest => rest
  | cs => cs

/-- Reads a text of one line after the quote that opens it. -/
def lineText (quote : Char) (cs : List Char) : Option (String × List Char) :=
  (if quote = '"' then escapedText false (cs.length + 1) cs else literalText false cs).map
    fun (text, rest) => (String.ofList text, rest)

/-- Reads a text of several lines after the quotes that open it. -/
def multilineText (quote : Char) (cs : List Char) : Option (String × List Char) :=
  let cs := skipFirstLine cs
  (if quote = '"' then escapedText true (cs.length + 1) cs else literalText true cs).map
    fun read => let (text, rest) := withClosing quote read; (String.ofList text, rest)

/-- Reads a text in any of its four forms. -/
def text : List Char → Option (String × List Char)
  | '"' :: '"' :: '"' :: rest => multilineText '"' rest
  | '\'' :: '\'' :: '\'' :: rest => multilineText '\'' rest
  | '"' :: rest => lineText '"' rest
  | '\'' :: rest => lineText '\'' rest
  | _ => none

/-- Reads one name of a key. -/
def name : List Char → Option (String × List Char)
  | '"' :: rest => lineText '"' rest
  | '\'' :: rest => lineText '\'' rest
  | cs =>
    let bare := cs.takeWhile isBare
    if bare.isEmpty then none else some (String.ofList bare, cs.drop bare.length)

/-- Reads a key and the spaces after it; `left` bounds the number of its names. -/
def keyWithin : Nat → List Char → Option (Key × List Char)
  | 0, _ => none
  | left + 1, cs => do
    let (first, rest) ← name cs
    match skipSpaces rest with
    | '.' :: rest =>
      let (others, rest) ← keyWithin left (skipSpaces rest)
      return (first :: others, rest)
    | rest => return ([first], rest)

/-- Reads a key and the spaces after it. -/
def key (cs : List Char) : Option (Key × List Char) := keyWithin (cs.length + 1) cs

end PeSignals.Toml
