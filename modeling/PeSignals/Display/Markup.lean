import PeSignals.Display.Handler.Basic
import PeSignals.Display.Style
import PeSignals.Text.Emoji

/-!
# Markup

A text for a terminal may hold tags in brackets. A tag opens a style, and the same tag behind a slash
closes it; a slash alone closes the style that was opened last. A backslash before a tag makes it plain
text, and two of them stand for one. Closing what is not open is a fault; leaving a style open is none.
-/
namespace PeSignals.Display

/-- Why markup cannot be read. -/
inductive MarkupFault
  /-- A tag closes a style that is not open. -/
  | unmatched (tag : String) (position : Nat)
  /-- A slash alone stands where no style is open. -/
  | nothingToClose (position : Nat)
  /-- The arguments of a handler cannot be read. -/
  | handler (cause : Handler.Fault)
  /-- A colour has a share that cannot be read. -/
  | share (cause : ShareFault)
  deriving Repr, DecidableEq

def MarkupFault.message : MarkupFault → String
  | unmatched tag position => s!"closing tag '{tag}' at position {position} doesn't match any open tag"
  | nothingToClose position => s!"closing tag '[/]' at position {position} has nothing to close"
  | handler cause => cause.message
  | share cause => cause.message

def MarkupFault.category : MarkupFault → String
  | share _ => "ValueError"
  | _ => "MarkupError"

/-- A tag: its name, the value behind an equals sign, and where it stands. -/
structure Tag where
  name : String
  value? : Option String := none
  position : Nat
  deriving Repr, DecidableEq

/-- A tag as it is written. -/
def Tag.text (t : Tag) : String :=
  "[" ++ t.name ++ ((t.value?.map ("=" ++ ·)).getD "") ++ "]"

/-- A part of a markup. -/
inductive Part
  | plain (cs : List Char)
  | tag (tag : Tag)
  deriving Repr, DecidableEq

/-- Whether a character can come first in a tag. -/
def opensTag (c : Char) : Bool := ('a' ≤ c && c ≤ 'z') || c = '#' || c = '/' || c = '@'

/-- Reads a tag behind its opening bracket, up to the closing one. -/
def tagBody? : List Char → Option (List Char × List Char)
  | [] => none
  | c :: rest =>
    let more := rest.takeWhile fun c => c ≠ ']' && c ≠ '['
    match opensTag c, rest.drop more.length with
    | true, ']' :: after => some (c :: more, after)
    | _, _ => none

/-- Reads a tag with its brackets. -/
def tag? : List Char → Option (List Char × List Char)
  | '[' :: rest => tagBody? rest
  | _ => none

/-- The tag of what stands between brackets. -/
def tagOf (position : Nat) (body : List Char) : Tag :=
  let name := body.takeWhile (· ≠ '=')
  { name := String.ofList name
    value? := if name.length < body.length then some (String.ofList (body.drop (name.length + 1)))
      else none
    position }

/-- What a tag behind backslashes is: one that is left over makes it plain text. -/
def partBehind (backslashes position : Nat) (body : List Char) : Part :=
  if backslashes % 2 = 1 then .plain ('[' :: (body ++ [']'])) else .tag (tagOf position body)

/-- The parts of characters from a position on; `found` is the plain text before them, last character
first, and `left` bounds their number. -/
def partsFrom (position : Nat) (found : List Char) : Nat → List Char → List Part
  | 0, _ => []
  | _ + 1, [] => [.plain found.reverse]
  | left + 1, c :: rest =>
    let cs := c :: rest
    let backslashes := (cs.takeWhile (· = '\\')).length
    match tag? (cs.drop backslashes) with
    | some (body, after) =>
      .plain found.reverse :: .plain (List.replicate (backslashes / 2) '\\') ::
        partBehind backslashes (position + backslashes) body ::
        partsFrom (position + backslashes + body.length + 2) [] left after
    | none => partsFrom (position + 1) (c :: found) left rest

/-- The parts of a markup. -/
def partsOf (markup : String) : List Part := partsFrom 0 [] (markup.length + 1) markup.toList

/-- Takes the backslash away from brackets that are no tags. -/
def withoutBackslashes : List Char → List Char
  | '\\' :: '[' :: rest => '[' :: withoutBackslashes rest
  | c :: rest => c :: withoutBackslashes rest
  | [] => []

/-- Whether a character moves or rings instead of being shown. -/
def isUnshown (c : Char) : Bool :=
  c = '\x07' || c = '\x08' || c = '\x0b' || c = '\x0c' || c = '\r'

/-- A plain part as it is shown. -/
def shownText (cs : List Char) : String :=
  String.ofList ((Text.withEmoji (String.ofList (withoutBackslashes cs))).toList.filter (!isUnshown ·))

/-- A style that a tag has opened. -/
structure Opened where
  style : String
  value? : Option String
  /-- Where the text in the style starts. -/
  start : Nat
  deriving Repr, DecidableEq

/-- A style with its value, in words. -/
def Opened.text (o : Opened) : String := o.style ++ ((o.value?.map (" " ++ ·)).getD "")

/-- Whether a style is a handler. -/
def Opened.isHandler (o : Opened) : Bool := o.style.startsWith "@"

/-- A part of a text in a style. -/
structure Span where
  start : Nat
  stop : Nat
  style : String
  deriving Repr, DecidableEq

/-- A text as it is shown so far, with the styles that are closed and those that are open, each with the
latest first. -/
structure Shown where
  text : String := ""
  spans : List Span := []
  opened : List Opened := []
  deriving Repr, DecidableEq

namespace Shown

def opening (s : Shown) (t : Tag) : Except MarkupFault Shown := do
  let style ← (normalStyle t.name).mapError .share
  return { s with opened := { style, value? := t.value?, start := s.text.length } :: s.opened }

/-- Closes an open style. A handler gives the text no style, but its arguments are read. -/
def closing (s : Shown) (o : Opened) : Except MarkupFault Shown := do
  let s := { s with opened := s.opened.erase o }
  if o.isHandler then
    (Handler.check (o.value?.getD "")).mapError .handler
    return s
  else return { s with spans := { start := o.start, stop := s.text.length, style := o.text } :: s.spans }

/-- The open style that a closing tag closes; `name` is what follows the slash. -/
def openedBy (s : Shown) (t : Tag) (name : List Char) : Except MarkupFault Opened := do
  let name := Text.stripped name
  if name.isEmpty then
    match s.opened with
    | [] => throw (.nothingToClose t.position)
    | o :: _ => return o
  else
    let style ← (normalStyle (String.ofList name)).mapError .share
    match s.opened.find? (·.style = style) with
    | none => throw (.unmatched t.text t.position)
    | some o => return o

/-- Passes over a tag. -/
def pass (s : Shown) (t : Tag) : Except MarkupFault Shown :=
  match t.name.toList with
  | '/' :: name => s.openedBy t name >>= s.closing
  | _ => s.opening t

/-- Shows parts behind what is shown so far. -/
def behind (s : Shown) : List Part → Except MarkupFault Shown
  | [] => .ok s
  | .plain cs :: rest => { s with text := s.text ++ shownText cs }.behind rest
  | .tag t :: rest => s.pass t >>= fun s => s.behind rest

/-- Ends every open style, the latest first. -/
def finish (s : Shown) : Shown :=
  { s with opened := []
           spans := (s.opened.reverse.map fun o => ⟨o.start, s.text.length, o.text⟩) ++ s.spans }

end Shown

/-- What a markup shows, or why it cannot be read. -/
def shownOf (markup : String) : Except MarkupFault Shown :=
  (Shown.behind {} (partsOf markup)).map Shown.finish

/-- The text that a markup shows, or why it cannot be read. -/
def rendered (markup : String) : Except MarkupFault String := (shownOf markup).map (·.text)

end PeSignals.Display
