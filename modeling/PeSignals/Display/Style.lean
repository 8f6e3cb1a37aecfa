import PeSignals.Decimal.Reading
import PeSignals.Text.Blank
import PeSignals.Text.Digits
import PeSignals.Text.Hexadecimal
import PeSignals.Text.Lowercase
import PeSignals.Text.Table.ColourName

/-!
# Styles

A style is written as words: traits such as bold, a colour, a colour of the ground and a link. Traits have
short names too. Two spellings of one style have the same normal form; what is no style keeps its
words, in lower case.
-/
namespace PeSignals.Display

open Text (digitsValue)

def traitNames : List String :=
  ["bold", "dim", "italic", "underline", "blink", "blink2", "reverse", "conceal", "strike",
    "underline2", "frame", "encircle", "overline"]

def shortTraits : List (String × String) :=
  [("b", "bold"), ("d", "dim"), ("i", "italic"), ("u", "underline"), ("r", "reverse"),
    ("c", "conceal"), ("s", "strike"), ("uu", "underline2"), ("o", "overline")]

/-- The trait that a word names. -/
def trait? (word : String) : Option String :=
  if traitNames.contains word then some word else shortTraits.lookup word

/-- Why the share of a colour cannot be read. -/
inductive ShareFault
  | empty
  | tooLong (digits : Nat)
  deriving Repr, DecidableEq

def ShareFault.message : ShareFault → String
  | empty => "invalid literal for int() with base 10: ''"
  | tooLong digits => Text.digitLimitMessage digits

/-- What is read of a style: nothing when it is no style, unless the share of a colour is at fault. -/
abbrev Read := OptionT (Except ShareFault)

/-- The share of a colour that digits stand for. -/
def shareOf (digits : List Char) : Except ShareFault Nat :=
  if digits.isEmpty then .error .empty
  else if Text.digitLimit < digits.length then .error (.tooLong digits.length)
  else .ok (digitsValue digits)

/-- The parts of characters between commas. -/
def cutAtCommas : List Char → List (List Char)
  | [] => [[]]
  | ',' :: rest => [] :: cutAtCommas rest
  | c :: rest =>
    match cutAtCommas rest with
    | [] => [[c]]
    | part :: parts => (c :: part) :: parts

/-- What stands in brackets behind an opening word, up to the end. -/
def inBrackets? (opening : String) (cs : List Char) : Option (List Char) :=
  let opening := opening.toList ++ ['(']
  if opening.isPrefixOf cs && cs.getLast? = some ')' then some (cs.drop opening.length).dropLast
  else none

/-- Whether what stands in brackets is three shares of a colour. Digits may be those of any script. -/
def areShares (cs : List Char) : Except ShareFault Bool := do
  let cs := cs.map Decimal.plainDigit
  if cs.isEmpty || !cs.all (fun c => c.isDigit || c = ',') then return false
  match cutAtCommas cs with
  | [red, green, blue] =>
    let shares := [← shareOf red, ← shareOf green, ← shareOf blue]
    return shares.all (· ≤ 255)
  | _ => return false

/-- Whether a word is a colour by number: six digits in base sixteen, one number, or three shares. -/
def isNumberedColour (word : String) : Except ShareFault Bool :=
  match word.toList with
  | '#' :: digits => .ok (digits.length = 6 && digits.all Text.isHexDigit)
  | cs =>
    match inBrackets? "color" cs, inBrackets? "rgb" cs with
    | some digits, _ => .ok (!digits.isEmpty && digits.length ≤ 3 && digits.all Char.isDigit &&
        digitsValue digits ≤ 255)
    | none, some shares => areShares shares
    | none, none => .ok false

/-- Whether a word in lower case is a colour. -/
def isColour (word : String) : Except ShareFault Bool :=
  if word = "default" || (Text.words Text.Table.colourNames).contains word then .ok true
  else isNumberedColour word

def colour (word : String) : Read String := do
  if ← isColour word then return word else failure

structure Style where
  /-- The traits that are asked for or excluded, the latest first. -/
  traits : List (String × Bool) := []
  colour? : Option String := none
  ground? : Option String := none
  link? : Option String := none
  deriving Repr, DecidableEq

namespace Style

/-- Adds a trait, or excludes it. -/
def withTrait (s : Style) (word : String) (on : Bool) : Option Style :=
  (trait? word).map fun name => { s with traits := (name, on) :: s.traits }

/-- Adds a trait or a colour. -/
def withWord (s : Style) (word : String) : Read Style :=
  match s.withTrait word true with
  | some s => pure s
  | none => return { s with colour? := some (← colour word) }

/-- Adds what words ask for; `left` bounds their number. -/
def readWords (s : Style) : Nat → List String → Read Style
  | 0, _ => failure
  | _ + 1, [] => pure s
  | left + 1, word :: rest => do
    match Text.lower word, rest with
    | "on", ground :: rest =>
      let ground ← colour (Text.lower ground)
      readWords { s with ground? := some ground } left rest
    | "not", word :: rest => (← OptionT.mk (pure (s.withTrait word false))).readWords left rest
    | "link", target :: rest => readWords { s with link? := some target } left rest
    | word, rest => (← s.withWord word).readWords left rest

def ofText (text : String) : Read Style :=
  let words := Text.words text
  if words = ["none"] then pure {} else readWords {} (words.length + 1) words

def traitText (s : Style) (name : String) : Option String :=
  (s.traits.lookup name).map fun on => if on then name else "not " ++ name

def text (s : Style) : String :=
  let parts := traitNames.filterMap s.traitText ++ s.colour?.toList ++
    (s.ground?.toList.map ("on " ++ ·)) ++ (s.link?.toList.map ("link " ++ ·))
  if parts.isEmpty then "none" else " ".intercalate parts

end Style

/-- The normal form of a style's text. -/
def normalStyle (text : String) : Except ShareFault String := do
  match ← (Style.ofText text).run with
  | some style => return style.text
  | none => return Text.lower (String.ofList (Text.stripped text.toList))

end PeSignals.Display
