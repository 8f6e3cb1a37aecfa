/-!
# Paths

A path is an anchor and the names on the way from it. Empty names and single dots carry no meaning
and are dropped when a path is read; double dots are kept, because what they lead to depends on the
tree.
-/
namespace PeSignals.Files

/-- Cuts a text at every slash; there is one part more than there are slashes. -/
def cutAtSlashes : List Char → List (List Char)
  | [] => [[]]
  | '/' :: rest => [] :: cutAtSlashes rest
  | c :: rest =>
    match cutAtSlashes rest with
    | [] => [[c]]
    | part :: parts => (c :: part) :: parts

/-- The parts of a text between its slashes. -/
def partsOf (text : String) : List String :=
  (cutAtSlashes text.toList).map String.ofList

/-- A path in normal form. -/
structure Path where
  /-- The slashes that a path from the top of the file system starts with: none, one or two. -/
  anchor : String := ""
  parts : List String := []
  deriving Repr, DecidableEq

namespace Path

/-- The anchor of a text: exactly two slashes stay two, more of them count as one. -/
def anchorOf (text : String) : String :=
  match (text.toList.takeWhile (· = '/')).length with
  | 0 => ""
  | 2 => "//"
  | _ => "/"

def ofText (text : String) : Path where
  anchor := anchorOf text
  parts := (partsOf text).filter fun part => part ≠ "" && part ≠ "."

/-- Writes a path; a path without names is a single dot. -/
def text (p : Path) : String :=
  if p.anchor = "" ∧ p.parts = [] then "." else p.anchor ++ "/".intercalate p.parts

/-- The last name, empty when there is none. -/
def name (p : Path) : String := p.parts.getLast?.getD ""

def parent (p : Path) : Path := { p with parts := p.parts.dropLast }

def append (p : Path) (names : List String) : Path := { p with parts := p.parts ++ names }

end Path

/-- A way down from the top of the file system with one more name: a double dot takes away the name
before it. -/
def descend (way : List String) (name : String) : List String :=
  if name = ".." then way.dropLast else way ++ [name]

/-- The names of a path from the top of the file system without double dots. -/
def withoutDots (names : List String) : List String := names.foldl descend []

/-- Cuts a name before its last dot. A dot at either end of the name does not count. -/
def cutName (name : String) : String × String :=
  let after := name.toList.reverse.takeWhile (· ≠ '.')
  let before := (name.toList.reverse.drop after.length).drop 1
  if after.isEmpty ∨ before.isEmpty then (name, "")
  else (String.ofList before.reverse, String.ofList ('.' :: after.reverse))

/-- A name without its suffix. -/
def stem (name : String) : String := (cutName name).1

/-- The suffix of a name from its last dot on, or nothing. -/
def suffix (name : String) : String := (cutName name).2

end PeSignals.Files
