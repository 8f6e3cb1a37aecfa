import PeSignals.Sorting.Gallop

/-!
# Merging

Two sorted runs become one. Items are taken one by one while the runs take turns; when one run wins again and
again, whole stretches are taken at once. How often it has to win changes with the success of that.
-/
namespace PeSignals.Sorting

variable {α ε : Type} [Inhabited α]

/-- A stretch this long makes it worth while to look for more stretches. -/
def longStretch : Nat := 7

structure Merging (α : Type) where
  /-- What is left of the first run. -/
  first : Array α
  /-- What is left of the second run. -/
  second : Array α
  /-- What was taken, in the order in which it was taken. -/
  taken : Array α := #[]
  /-- How often a run has to win before stretches are looked for. -/
  patience : Nat

/-- Merged items, and the patience for the next merge. -/
abbrev Merged (α : Type) := Array α × Nat

namespace Merging

/-- Makes a merge more patient: once when stretches are looked for first, and once when they end. -/
def patient (m : Merging α) : Merging α := { m with patience := m.patience + 1 }

/-- Makes a merge less patient, whenever stretches are looked for. -/
def eager (m : Merging α) : Merging α :=
  { m with patience := if 1 < m.patience then m.patience - 1 else m.patience }

/-! ## From the front -/

/-- Ends a merge from the front when a run is used up. -/
def finish (m : Merging α) : Merged α := (m.taken ++ m.first ++ m.second, m.patience)

/-- Ends a merge from the front when the last item of the first run comes after all others. -/
def finishLast (m : Merging α) : Merged α := (m.taken ++ m.second ++ m.first, m.patience)

/-- Takes items from the start of the first run. -/
def takeFirst (m : Merging α) (n : Nat) : Merging α :=
  { m with taken := m.taken ++ m.first.extract 0 n, first := m.first.extract n m.first.size }

/-- Takes items from the start of the second run. -/
def takeSecond (m : Merging α) (n : Nat) : Merging α :=
  { m with taken := m.taken ++ m.second.extract 0 n, second := m.second.extract n m.second.size }

/-- Takes a stretch from each run; its lengths are given with the merge that goes on. -/
def stretches (less : α → α → Except ε Bool) (m : Merging α) :
    Except ε (Merged α ⊕ (Merging α × Nat × Nat)) := do
  let ahead ← gallopRight less (m.second.getD 0 default) m.first 0
  let m := m.takeFirst ahead
  if m.first.size = 1 then return .inl m.finishLast
  if m.first.isEmpty then return .inl m.finish
  let m := m.takeSecond 1
  if m.second.isEmpty then return .inl m.finish
  let behind ← gallopLeft less (m.first.getD 0 default) m.second 0
  let m := m.takeSecond behind
  if m.second.isEmpty then return .inl m.finish
  let m := m.takeFirst 1
  if m.first.size = 1 then return .inl m.finishLast
  return .inr (m, ahead, behind)

/-- Goes on with a merge from the front. `galloping` says that stretches are looked for; else `firsts` and
`seconds` count how often the runs have won in a row. `left` bounds the number of steps. -/
def forward (less : α → α → Except ε Bool) (m : Merging α) (galloping : Bool) (firsts seconds : Nat) :
    Nat → Except ε (Merged α)
  | 0 => .ok m.finish
  | left + 1 => do
    if galloping then
      match ← m.eager.stretches less with
      | .inl merged => return merged
      | .inr (m, ahead, behind) =>
        if longStretch ≤ ahead ∨ longStretch ≤ behind then m.forward less true 0 0 left
        else m.patient.forward less false 0 0 left
    else if ← less (m.second.getD 0 default) (m.first.getD 0 default) then
      let m := m.takeSecond 1
      if m.second.isEmpty then return m.finish
      if m.patience ≤ seconds + 1 then m.patient.forward less true 0 0 left
      else m.forward less false 0 (seconds + 1) left
    else
      let m := m.takeFirst 1
      if m.first.size = 1 then return m.finishLast
      if m.patience ≤ firsts + 1 then m.patient.forward less true 0 0 left
      else m.forward less false (firsts + 1) 0 left

/-! ## From the back -/

/-- Ends a merge from the back when a run is used up. -/
def finishBack (m : Merging α) : Merged α := (m.first ++ m.second ++ m.taken.reverse, m.patience)

/-- Ends a merge from the back when the first item of the second run comes before all others. -/
def finishFirst (m : Merging α) : Merged α := (m.second ++ m.first ++ m.taken.reverse, m.patience)

/-- Takes items from the end of the first run. -/
def dropFirst (m : Merging α) (n : Nat) : Merging α :=
  let rest := m.first.size - n
  { m with taken := m.taken ++ (m.first.extract rest m.first.size).reverse, first := m.first.extract 0 rest }

/-- Takes items from the end of the second run. -/
def dropSecond (m : Merging α) (n : Nat) : Merging α :=
  let rest := m.second.size - n
  { m with taken := m.taken ++ (m.second.extract rest m.second.size).reverse
           second := m.second.extract 0 rest }

def lastFirst (m : Merging α) : α := m.first.getD (m.first.size - 1) default

def lastSecond (m : Merging α) : α := m.second.getD (m.second.size - 1) default

/-- Takes a stretch from the end of each run; its lengths are given with the merge that goes on. -/
def stretchesBack (less : α → α → Except ε Bool) (m : Merging α) :
    Except ε (Merged α ⊕ (Merging α × Nat × Nat)) := do
  let place ← gallopRight less m.lastSecond m.first (m.first.size - 1)
  let ahead := m.first.size - place
  let m := m.dropFirst ahead
  if m.first.isEmpty then return .inl m.finishBack
  let m := m.dropSecond 1
  if m.second.size = 1 then return .inl m.finishFirst
  let place ← gallopLeft less m.lastFirst m.second (m.second.size - 1)
  let behind := m.second.size - place
  let m := m.dropSecond behind
  if m.second.size = 1 then return .inl m.finishFirst
  if m.second.isEmpty then return .inl m.finishBack
  let m := m.dropFirst 1
  if m.first.isEmpty then return .inl m.finishBack
  return .inr (m, ahead, behind)

/-- Goes on with a merge from the back, as `forward` does from the front. -/
def backward (less : α → α → Except ε Bool) (m : Merging α) (galloping : Bool) (firsts seconds : Nat) :
    Nat → Except ε (Merged α)
  | 0 => .ok m.finishBack
  | left + 1 => do
    if galloping then
      match ← m.eager.stretchesBack less with
      | .inl merged => return merged
      | .inr (m, ahead, behind) =>
        if longStretch ≤ ahead ∨ longStretch ≤ behind then m.backward less true 0 0 left
        else m.patient.backward less false 0 0 left
    else if ← less m.lastSecond m.lastFirst then
      let m := m.dropFirst 1
      if m.first.isEmpty then return m.finishBack
      if m.patience ≤ firsts + 1 then m.patient.backward less true 0 0 left
      else m.backward less false (firsts + 1) 0 left
    else
      let m := m.dropSecond 1
      if m.second.size = 1 then return m.finishFirst
      if m.patience ≤ seconds + 1 then m.patient.backward less true 0 0 left
      else m.backward less false 0 (seconds + 1) left

end Merging

/-- Merges two runs of which neither is empty, the first item of the second comes before all of the first,
and the last of the first behind all of the second. It starts on the side of the shorter run. -/
def mergeRuns (less : α → α → Except ε Bool) (patience : Nat) (first second : Array α) :
    Except ε (Merged α) :=
  let m : Merging α := { first, second, patience }
  let bound := first.size + second.size
  if first.size ≤ second.size then
    let m := m.takeSecond 1
    if m.second.isEmpty then .ok m.finish
    else if m.first.size = 1 then .ok m.finishLast
    else m.forward less false 0 0 bound
  else
    let m := m.dropFirst 1
    if m.first.isEmpty then .ok m.finishBack
    else if m.second.size = 1 then .ok m.finishFirst
    else m.backward less false 0 0 bound

/-- Merges two runs. Items that stand in their places already are left alone. -/
def merge (less : α → α → Except ε Bool) (patience : Nat) (first second : Array α) :
    Except ε (Merged α) := do
  let start ← gallopRight less (second.getD 0 default) first 0
  let rest := first.extract start first.size
  if rest.isEmpty then return (first ++ second, patience)
  let stop ← gallopLeft less (rest.getD (rest.size - 1) default) second (second.size - 1)
  if stop = 0 then return (first ++ second, patience)
  let (merged, patience) ← mergeRuns less patience rest (second.extract 0 stop)
  return (first.extract 0 start ++ merged ++ second.extract stop second.size, patience)

end PeSignals.Sorting
