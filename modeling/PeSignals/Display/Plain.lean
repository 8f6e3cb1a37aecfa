import PeSignals.Display.Event
import PeSignals.Display.Markup

/-!
# Plain text

Drawing events as lines of text for a terminal without colours or frames. Markup is left out; cells
stand in columns that are as wide as their longest cell.
-/
namespace PeSignals.Display

/-- A text as it is shown; markup that cannot be read stands for itself. -/
def unmarked (markup : String) : String := (rendered markup).toOption.getD markup

def Table.widths (t : Table) (rows : List (List String)) : List Nat :=
  t.columns.zipIdx.map fun (_, i) =>
    rows.foldl (fun width row => max width ((row[i]?.map String.length).getD 0)) 0

/-- A row of a table as one line. -/
def rowLine (widths : List Nat) (row : List String) : String :=
  "  ".intercalate (row.zip widths |>.map fun (cell, width) => cell.pushn ' ' (width - cell.length))

def Table.toLines (t : Table) : List String :=
  let rows := t.columns.map (unmarked ·.header) :: t.rows.map (·.map unmarked)
  (t.title.toList.map unmarked) ++ rows.map (rowLine (t.widths rows)) ++ (t.caption.toList.map unmarked)

def Item.toLines : Item → List String
  | .text markup => [unmarked markup]
  | .panel p => (p.title.toList.map unmarked) ++ [unmarked p.body]
  | .table t => t.toLines

/-- An event as lines; an empty print is a blank line. -/
def Event.toLines : Event → List String
  | .print [] => [""]
  | .print items => items.flatMap Item.toLines
  | .rule title _ characters =>
    [String.join (List.replicate 4 characters) ++ unmarked title ++
      String.join (List.replicate 4 characters)]
  | .status shown _ _ => [unmarked shown]

end PeSignals.Display
