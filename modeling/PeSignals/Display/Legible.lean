import PeSignals.Display.Event
import PeSignals.Display.Markup

/-!
# Legible events

A terminal reads the markup of every text that it is asked to draw, and the styles in it once the text is
drawn. It stops at the first that cannot be read. What was drawn before stands.
-/
namespace PeSignals.Display

/-- What is done with a text. -/
inductive Use
  /-- It is measured. -/
  | measured (markup : String)
  /-- It is drawn in its styles. -/
  | drawn (markup : String)
  deriving Repr, DecidableEq

/-- Whether a style shows in a text: in a text of several lines it needs a character of a line. -/
def Span.shows (s : Span) (cs : List Char) : Bool :=
  !cs.contains '\n' || ((cs.take s.stop).drop s.start).any (· ≠ '\n')

/-- Reads the styles of a text from its start on. -/
def Shown.check (s : Shown) : Except MarkupFault Unit :=
  let spans := (s.spans.filter (·.shows s.text.toList)).mergeSort fun a b => a.start ≤ b.start
  spans.forM fun span => do discard <| ((Style.ofText span.style).run).mapError .share

/-- Reads a text as far as its use asks for. -/
def Use.check : Use → Except MarkupFault Unit
  | measured markup => do discard <| shownOf markup
  | drawn markup => shownOf markup >>= Shown.check

/-- The texts of a column, header first. -/
def Table.columnTexts (t : Table) (column : Column) (i : Nat) : List String :=
  column.header :: t.rows.filterMap (·[i]?)

/-- The texts that are read to measure a table: column by column, where the width is not set. -/
def Table.measuredTexts (t : Table) : List String :=
  t.columns.zipIdx.flatMap fun (column, i) =>
    if column.width.isSome then [] else t.columnTexts column i

/-- The texts that are drawn of a table, in order. -/
def Table.drawnTexts (t : Table) : List String :=
  t.title.toList ++ t.columns.map (·.header) ++ t.rows.flatten ++ t.caption.toList

/-- The uses of the texts of an item, in order: a table is measured before it is drawn. -/
def Item.uses : Item → List Use
  | .text markup => [.drawn markup]
  | .panel p => p.title.toList.map .measured ++ [.drawn p.body]
  | .table t => t.measuredTexts.map .measured ++ t.drawnTexts.map .drawn

/-- The uses of the texts of an event, in order. The text of a status is never drawn. -/
def Event.uses : Event → List Use
  | .print items => items.flatMap Item.uses
  | .rule title _ _ => [.drawn title]
  | .status shown _ _ => [.measured shown]

/-- Reads every text of an event. -/
def Event.check (e : Event) : Except MarkupFault Unit := e.uses.forM Use.check

/-- The events that are drawn, and the fault of the first that cannot be. -/
def legible : List Event → List Event × Option MarkupFault
  | [] => ([], none)
  | e :: rest =>
    match e.check with
    | .error fault => ([], some fault)
    | .ok _ => (e :: (legible rest).1, (legible rest).2)

end PeSignals.Display
