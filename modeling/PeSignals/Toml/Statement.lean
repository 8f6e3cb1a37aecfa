import PeSignals.Toml.Number
import PeSignals.Toml.Text
import PeSignals.Toml.Tree

/-!
# TOML statements

A document is a list of statements, one a line: a key with its value, the header of a table, or the
header of one more table of an array. Arrays and tables in braces are values; the pairs of such a
table must agree with each other as the pairs of a document do.
-/
namespace PeSignals.Toml

open Text (expect)

def scalar : List Char → Except Malformed (Value × List Char)
  | 't' :: 'r' :: 'u' :: 'e' :: rest => .ok (.bool true, rest)
  | 'f' :: 'a' :: 'l' :: 's' :: 'e' :: rest => .ok (.bool false, rest)
  | cs =>
    if cs.head? = some '"' ∨ cs.head? = some '\'' then
      required ((text cs).map fun (s, rest) => (.text s, rest))
    else momentOrNumber cs

mutual

/-- Reads a value; `left` bounds the nesting and the number of items. -/
def valueWithin : Nat → List Char → Except Malformed (Value × List Char)
  | 0, _ => .error .document
  | left + 1, '[' :: rest => do
    match ← required (skipGaps false rest) with
    | ']' :: rest => return (.array [], rest)
    | rest =>
      let (items, rest) ← itemsWithin left rest
      return (.array items, rest)
  | left + 1, '\x7b' :: rest =>
    match skipSpaces rest with
    | '\x7d' :: rest => .ok (.table [], rest)
    | rest => do
      let (tree, rest) ← pairsWithin left [] rest
      return (.table (Tree.toTable tree), rest)
  | _ + 1, cs => scalar cs

/-- Reads the items of an array up to its end. -/
def itemsWithin : Nat → List Char → Except Malformed (List Value × List Char)
  | 0, _ => .error .document
  | left + 1, cs => do
    let (item, rest) ← valueWithin left cs
    match ← required (skipGaps false rest) with
    | ']' :: rest => return ([item], rest)
    | ',' :: rest =>
      match ← required (skipGaps false rest) with
      | ']' :: rest => return ([item], rest)
      | rest =>
        let (items, rest) ← itemsWithin left rest
        return (item :: items, rest)
    | _ => throw .document

/-- Reads the pairs of a table in braces up to its end and adds them to those before. The pairs of such
a table form one section. -/
def pairsWithin : Nat → Tree → List Char → Except Malformed (Tree × List Char)
  | 0, _, _ => .error .document
  | left + 1, tree, cs => do
    let (k, rest) ← required (key cs)
    let (value, rest) ← valueWithin left (skipSpaces (← required (expect '=' rest)))
    let tree ← required (tree.put 0 value k)
    match skipSpaces rest with
    | '\x7d' :: rest => return (tree, rest)
    | ',' :: rest => pairsWithin left tree (skipSpaces rest)
    | _ => throw .document

end

def value (cs : List Char) : Except Malformed (Value × List Char) :=
  valueWithin (2 * cs.length + 2) cs

inductive Statement
  | pair (key : Key) (value : Value)
  | table (key : Key)
  | tableOfArray (key : Key)
  deriving Repr

/-- Reads the header of one more table of an array, behind its opening brackets. -/
def arrayHeader (cs : List Char) : Option (Statement × List Char) := do
  let (k, rest) ← key (skipSpaces cs)
  return (.tableOfArray k, ← expect ']' (← expect ']' rest))

def tableHeader (cs : List Char) : Option (Statement × List Char) := do
  let (k, rest) ← key (skipSpaces cs)
  return (.table k, ← expect ']' rest)

def statement : List Char → Except Malformed (Statement × List Char)
  | '[' :: '[' :: rest => required (arrayHeader rest)
  | '[' :: rest => required (tableHeader rest)
  | cs => do
    let (k, rest) ← required (key cs)
    let (v, rest) ← value (skipSpaces (← required (expect '=' rest)))
    return (.pair k v, rest)

/-- Reads the statement of a line, if the line has one. -/
def lineStatement (cs : List Char) : Except Malformed (Option Statement × List Char) :=
  if cs.head? = some '#' ∨ cs.head? = some '\n' then .ok (none, cs)
  else (statement cs).map fun (s, rest) => (some s, rest)

/-- The characters of a document, with every line ended by a line feed alone. -/
def withLineFeeds : List Char → List Char
  | '\x0d' :: '\n' :: rest => '\n' :: withLineFeeds rest
  | c :: rest => c :: withLineFeeds rest
  | [] => []

end PeSignals.Toml
