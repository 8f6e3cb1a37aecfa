import PeSignals.Sorting.Merge

/-!
# Sorting

Items are cut into runs that are in order already, or in reverse order. Short runs are made longer by putting
further items at their places, and runs are merged so that the depth of the merges stays low. Items that are
equal keep their order. When a comparison fails, the whole fails, and the order in which items are compared
tells which failure it is.
-/
namespace PeSignals.Sorting

variable {α ε : Type} [Inhabited α]

/-- How many items behind `last` go on in order, or in reverse order. -/
def runFrom (less : α → α → Except ε Bool) (falling : Bool) (last : α) : List α → Except ε Nat
  | [] => .ok 0
  | item :: rest => do
    if (← less item last) = falling then return (← runFrom less falling item rest) + 1 else return 0

/-- The items at the start that are in order once they are turned around if need be, and the others. -/
def firstRun (less : α → α → Except ε Bool) : List α → Except ε (List α × List α)
  | first :: second :: rest => do
    let falling ← less second first
    let size := 2 + (← runFrom less falling second rest)
    let items := first :: second :: rest
    let run := items.take size
    return (if falling then run.reverse else run, items.drop size)
  | items => .ok (items, [])

/-- Puts items one by one at their places in a run, behind what is equal to them. -/
def insertAll (less : α → α → Except ε Bool) (run : Array α) : List α → Except ε (Array α)
  | [] => .ok run
  | item :: rest => do
    let place ← halve (fun other => return !(← less item other)) run 0 run.size (run.size + 1)
    insertAll less (run.insertIdxIfInBounds place item) rest

/-- The least length of a run for a number of items: from 32 to 64, so that the number of runs is a power of
two or a little less; `odd` says whether a rest was left over. -/
def leastRun (odd : Nat) : Nat → Nat → Nat
  | 0, n => n + odd
  | left + 1, n => if n < 64 then n + odd else leastRun (max odd (n % 2)) left (n / 2)

/-- A run that waits to be merged. -/
structure Run (α : Type) where
  /-- How many items stand before it. -/
  start : Nat
  items : Array α
  /-- How deep its border to the next run lies. -/
  depth : Nat := 0

/-- How deep the border between two runs lies: how often the whole has to be halved until a half ends
between their middles. `a` and `b` are twice the middles. -/
def borderDepth (total depth a b : Nat) : Nat → Nat
  | 0 => depth
  | left + 1 =>
    if total ≤ a then borderDepth total (depth + 1) (2 * (a - total)) (2 * (b - total)) left
    else if total ≤ b then depth + 1
    else borderDepth total (depth + 1) (2 * a) (2 * b) left

/-- The runs that wait, the latest first, and the patience for the next merge. -/
structure Pending (α : Type) where
  runs : List (Run α) := []
  patience : Nat := longStretch

namespace Pending

/-- Merges a run with the one before it. -/
def join (less : α → α → Except ε Bool) (p : Pending α) (before run : Run α) (rest : List (Run α)) :
    Except ε (Pending α) := do
  let (items, patience) ← merge less p.patience before.items run.items
  return { runs := { before with items } :: rest, patience }

/-- Merges the latest runs while their borders lie deeper than a new one. -/
def settle (less : α → α → Except ε Bool) (depth : Nat) (p : Pending α) : Nat → Except ε (Pending α)
  | 0 => .ok p
  | left + 1 =>
    match p.runs with
    | run :: before :: rest =>
      if depth < before.depth then do
        settle less depth (← p.join less before run rest) left
      else .ok { p with runs := { run with depth } :: before :: rest }
    | [run] => .ok { p with runs := [{ run with depth }] }
    | [] => .ok p

def add (less : α → α → Except ε Bool) (total : Nat) (p : Pending α) (items : Array α) :
    Except ε (Pending α) := do
  let start := (p.runs.head?.map fun run => run.start + run.items.size).getD 0
  let p ← match p.runs with
    | [] => pure p
    | run :: _ =>
      let a := 2 * run.start + run.items.size
      let depth := borderDepth total 0 a (a + run.items.size + items.size) (2 * total + 1)
      p.settle less depth (p.runs.length + 1)
  return { p with runs := { start, items } :: p.runs }

/-- Merges all runs, a short one first. -/
def collapse (less : α → α → Except ε Bool) (p : Pending α) : Nat → Except ε (Array α)
  | 0 => .ok #[]
  | left + 1 =>
    match p.runs with
    | run :: before :: earlier :: rest =>
      if earlier.items.size < run.items.size then do
        let q ← p.join less earlier before rest
        collapse less { q with runs := run :: q.runs } left
      else do collapse less (← p.join less before run (earlier :: rest)) left
    | [run, before] => do collapse less (← p.join less before run []) left
    | [run] => .ok run.items
    | [] => .ok #[]

end Pending

/-- Cuts items into runs and merges them; `left` bounds the number of runs. -/
def sortFrom (less : α → α → Except ε Bool) (total least : Nat) (p : Pending α) : Nat → List α →
    Except ε (Array α)
  | 0, _ | _, [] => p.collapse less (p.runs.length + 1)
  | left + 1, items => do
    let (run, rest) ← firstRun less items
    let more := rest.take (least - run.length)
    let p ← p.add less total (← insertAll less run.toArray more)
    sortFrom less total least p left (rest.drop more.length)

def sort (less : α → α → Except ε Bool) (items : List α) : Except ε (List α) := do
  let total := items.length
  return (← sortFrom less total (leastRun 0 total total) {} total items).toList

end PeSignals.Sorting
