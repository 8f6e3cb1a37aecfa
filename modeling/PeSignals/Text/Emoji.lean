import PeSignals.Text.Blank
import PeSignals.Text.Lowercase
import PeSignals.Text.Table.EmojiName

/-!
# Emoji

A name between two colons stands for an emoji, if it is the name of one. It may say whether the emoji is
to be shown as a picture or as a letter.
-/
namespace PeSignals.Text

/-- The value behind a name among names and values in turns. -/
def valueBehind? (name : String) : List String → Option String
  | key :: value :: rest => if key = name then some value else valueBehind? name rest
  | _ => none

/-- What stands before an ending. -/
def beforeEnding? (ending cs : List Char) : Option (List Char) :=
  if ending.isSuffixOf cs then some (cs.take (cs.length - ending.length)) else none

/-- The endings of names for the tones of a skin, with the characters of the tones. -/
def toneEndings : List (String × Char) :=
  [("_light_skin_tone", '🏻'), ("_medium-light_skin_tone", '🏼'), ("_medium_skin_tone", '🏽'),
    ("_medium-dark_skin_tone", '🏾'), ("_dark_skin_tone", '🏿')]

/-- An emoji with a skin tone behind its first character, where a selector gives way to it. -/
def withTone (tone : Char) (emoji : String) : String :=
  match emoji.toList with
  | first :: '\ufe0f' :: rest | first :: rest => String.ofList (first :: tone :: rest)
  | [] => emoji

/-- The emoji of a name that ends in a skin tone. -/
def tonedEmoji? (name : String) : Option String :=
  toneEndings.findSome? fun (ending, tone) => do
    let start ← beforeEnding? ending.toList name.toList
    (valueBehind? (String.ofList start) (words Table.tonedEmoji)).map (withTone tone)

/-- The flag of a country by the letters of its name. -/
def countryFlag (letters : String) : String :=
  letters.map fun c => Char.ofNat (c.toNat - 65 + 0x1F1E6)

/-- The flag of a part of a country by its letters: a black flag with tags. -/
def regionFlag (letters : String) : String :=
  "🏴" ++ letters.map (fun c => Char.ofNat (c.toNat + 0xE0000)) ++ (Char.ofNat 0xE007F).toString

/-- What stands before the name of a country where its flag is meant. -/
def flagOpening : List Char := "flag_for_".toList

/-- The name of a country, or of its flag, as the name of the country. -/
def countryOf (name : String) : String :=
  if flagOpening.isPrefixOf name.toList then String.ofList (name.toList.drop flagOpening.length)
  else name

def emoji? (name : String) : Option String :=
  (valueBehind? name (words Table.plainEmoji)).or <|
    (valueBehind? name (words Table.tonedEmoji)).or <|
    (tonedEmoji? name).or <|
    ((valueBehind? (countryOf name) (words Table.countryLetters)).map countryFlag).or <|
    (valueBehind? name (words Table.regionLetters)).map regionFlag

/-- A name without the ending that says how the emoji is shown, and the selector for that. -/
def nameAndSelector (name : List Char) : List Char × String :=
  match beforeEnding? "-emoji".toList name, beforeEnding? "-text".toList name with
  | some start, _ => (start, "\ufe0f")
  | none, some start => (start, "\ufe0e")
  | none, none => (name, "")

/-- What the name between two colons stands for; a name of nothing keeps its colons. -/
def emojiOrName (name : List Char) : String :=
  let (start, selector) := nameAndSelector name
  match emoji? (lower (String.ofList start)) with
  | some emoji => emoji ++ selector
  | none => ":" ++ String.ofList name ++ ":"

/-- Puts emoji for the names among characters behind a text; `left` bounds their number. -/
def withEmojiFrom (found : String) : Nat → List Char → String
  | 0, _ => found
  | _ + 1, [] => found
  | left + 1, ':' :: rest =>
    let name := rest.takeWhile fun c => c ≠ ':' && !isSpacing c
    match rest.drop name.length with
    | ':' :: rest => withEmojiFrom (found ++ emojiOrName name) left rest
    | _ => withEmojiFrom (found.push ':') left rest
  | left + 1, c :: rest => withEmojiFrom (found.push c) left rest

def withEmoji (text : String) : String := withEmojiFrom "" (text.length + 1) text.toList

end PeSignals.Text
