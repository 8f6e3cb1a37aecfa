import PeSignals.Toml.Text
import PeSignals.Toml.Value

/-!
# TOML trees

The tables of a document while its statements are applied. Every table remembers the section that
defined it, by its own header or by the dots of a key. It is defined once: no later header may name
it, and dotted keys extend it only within that section. Values are closed, so nothing is added to an
array or table that was written as a value.
-/
namespace PeSignals.Toml

/-- What stands behind a name. -/
inductive Node
  | value (value : Value)
  /-- A table with the section that defined it, if one has. -/
  | table (section? : Option Nat) (entries : List (String × Node))
  /-- An array of tables, of which the last one is open. -/
  | tables (closed : List (List (String × Node))) (last : List (String × Node))

/-- The entries of a table. -/
abbrev Tree := List (String × Node)

namespace Tree

/-- Changes what stands behind a name, or adds the name. -/
def alter (name : String) (f : Option Node → Option Node) : Tree → Option Tree
  | [] => (f none).map fun node => [(name, node)]
  | (other, node) :: rest =>
    if other = name then (f (some node)).map fun node => (name, node) :: rest
    else (alter name f rest).map ((other, node) :: ·)

/-- Changes the table that a header leads to, and adds the tables on the way. -/
def within : Key → (Tree → Option Tree) → Tree → Option Tree
  | [], f, tree => f tree
  | name :: rest, f, tree => tree.alter name fun
    | none => (within rest f []).map (.table none)
    | some (.table home entries) => (within rest f entries).map (.table home)
    | some (.tables closed last) => (within rest f last).map (.tables closed)
    | some (.value _) => none

/-- Adds a value under a dotted key that stands in a section. -/
def put (section_ : Nat) (value : Value) : Key → Tree → Option Tree
  | [], _ => none
  | [name], tree => tree.alter name fun
    | none => some (.value value)
    | some _ => none
  | name :: next :: rest, tree => tree.alter name fun
    | none => (put section_ value (next :: rest) []).map (.table (some section_))
    | some (.table home entries) =>
      if home.all (· = section_) then
        (put section_ value (next :: rest) entries).map (.table (some section_))
      else none
    | some _ => none

/-- Defines a table by the header of a section. -/
def define (section_ : Nat) (k : Key) (tree : Tree) : Option Tree :=
  tree.within k.dropLast fun entries => entries.alter (k.getLast?.getD "") fun
    | none => some (.table (some section_) [])
    | some (.table none entries) => some (.table (some section_) entries)
    | some _ => none

/-- Adds a table to an array of tables. -/
def extend (k : Key) (tree : Tree) : Option Tree :=
  tree.within k.dropLast fun entries => entries.alter (k.getLast?.getD "") fun
    | none => some (.tables [] [])
    | some (.tables closed last) => some (.tables (closed ++ [last]) [])
    | some _ => none

mutual

def nodeValue : Node → Value
  | .value v => v
  | .table _ entries => .table (toTable entries)
  | .tables closed last => .array (closedValues closed ++ [.table (toTable last)])

def toTable : List (String × Node) → Table
  | [] => []
  | (name, node) :: rest => (name, nodeValue node) :: toTable rest

/-- Tables as values. -/
def closedValues : List (List (String × Node)) → List Value
  | [] => []
  | entries :: rest => .table (toTable entries) :: closedValues rest

end

end Tree

end PeSignals.Toml
