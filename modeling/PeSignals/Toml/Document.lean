import PeSignals.Toml.Statement

/-!
# TOML documents

The statements of a document applied in order. Headers open sections; the pairs after a header belong
to the table that it leads to, and the pairs before the first header to the document itself.
-/
namespace PeSignals.Toml

/-- A document of which some statements have been applied. -/
structure Draft where
  /-- The number of headers so far. -/
  section_ : Nat := 0
  /-- The last header. -/
  header : Key := []
  tree : Tree := []

namespace Draft

/-- Applies one statement. -/
def apply (d : Draft) : Statement → Option Draft
  | .pair k value =>
    (d.tree.within d.header (Tree.put d.section_ value k)).map fun tree => { d with tree }
  | .table k =>
    (d.tree.define (d.section_ + 1) k).map fun tree => ⟨d.section_ + 1, k, tree⟩
  | .tableOfArray k =>
    (d.tree.extend k).map fun tree => ⟨d.section_ + 1, k, tree⟩

end Draft

/-- Applies the statement of a line, if the line has one. -/
def Draft.applyLine (d : Draft) : Option Statement → Option Draft
  | none => some d
  | some s => d.apply s

/-- Applies the statements from a line on to the end of a document; `left` bounds the number of lines. -/
def draftFrom : Nat → Draft → List Char → Except Malformed Draft
  | 0, _, _ => .error .document
  | left + 1, d, cs =>
    match skipSpaces cs with
    | [] => .ok d
    | cs => do
      let (found, rest) ← lineStatement cs
      let d ← required (d.applyLine found)
      match ← required (skipComment (skipSpaces rest)) with
      | [] => return d
      | '\n' :: rest => draftFrom left d rest
      | _ => throw .document

def read (document : String) : Except Malformed Table := do
  let cs := withLineFeeds document.toList
  return Tree.toTable (← draftFrom (cs.length + 1) {} cs).tree

/-- Reads a document from its bytes in UTF-8. -/
def decode (bytes : ByteArray) : Except Malformed Table :=
  match String.fromUTF8? bytes with
  | none => .error .encoding
  | some document => read document

end PeSignals.Toml
