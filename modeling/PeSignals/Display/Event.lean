/-!
# Drawing events

What a display asks a terminal to draw, in order. Texts may carry markup; colours, borders and line
wrapping are the terminal's business.
-/
namespace PeSignals.Display

structure Column where
  header : String
  style : String := ""
  justify : String := "left"
  width : Option Nat := none
  minimumWidth : Option Nat := none
  ratio : Option Nat := none
  deriving Repr, DecidableEq

structure Table where
  title : Option String := none
  caption : Option String := none
  columns : List Column
  rows : List (List String)
  deriving Repr, DecidableEq

/-- A framed text. -/
structure Panel where
  body : String
  title : Option String := none
  borderStyle : String
  /-- Blank lines above and below, blank columns left and right. -/
  padding : Nat × Nat
  deriving Repr, DecidableEq

inductive Item
  | text (markup : String)
  | panel (panel : Panel)
  | table (table : Table)
  deriving Repr, DecidableEq

/-- One request to the terminal. -/
inductive Event
  /-- Prints items; without items, a blank line. -/
  | print (items : List Item)
  | rule (title style characters : String)
  | status (text spinner spinnerStyle : String)
  deriving Repr, DecidableEq

/-- The longest of several rows, in cells. -/
def longestRow (rows : List (List String)) : Nat :=
  rows.foldl (fun longest row => max longest row.length) 0

/-- A table of rows of any length: a row that is too long adds columns without a header, and a row
that is too short is filled with empty cells. -/
def Table.ofRows (title caption : Option String) (columns : List Column)
    (rows : List (List String)) : Table :=
  let width := max columns.length (longestRow rows)
  { title, caption
    columns := columns ++ List.replicate (width - columns.length) { header := "" }
    rows := rows.map fun row => row ++ List.replicate (width - row.length) "" }

end PeSignals.Display
