/-!
# Places in sorted items

Where a key belongs among sorted items. A comparison may fail, and so the order of the comparisons counts:
a search gallops away from a first guess in steps that double, and then halves what is left.
-/
namespace PeSignals.Sorting

variable {α ε : Type} [Inhabited α]

/-- The first place between two in an array whose item does not come before the key; `before` tells
which do, and `left` bounds the number of steps. -/
def halve (before : α → Except ε Bool) (items : Array α) (low high : Nat) : Nat → Except ε Nat
  | 0 => .ok high
  | left + 1 =>
    if high ≤ low then .ok high
    else do
      let middle := low + (high - low) / 2
      if ← before (items.getD middle default) then halve before items (middle + 1) high left
      else halve before items low middle left

/-- How far from a guess to look, in steps that double while `go` holds: the last distance at which it held
and the next one, which is at most `bound`. -/
def stride (go : Nat → Except ε Bool) (bound last next : Nat) : Nat → Except ε (Nat × Nat)
  | 0 => .ok (last, min next bound)
  | left + 1 =>
    if bound ≤ next then .ok (last, bound)
    else do
      if ← go next then stride go bound next (2 * next + 1) left
      else return (last, next)

/-- The place of a key among sorted items, looked for from a guess on. -/
def gallop (before : α → Except ε Bool) (items : Array α) (guess : Nat) : Except ε Nat := do
  let item (i : Nat) : α := items.getD i default
  if ← before (item guess) then
    let (last, next) ← stride (fun i => before (item (guess + i))) (items.size - guess) 0 1 items.size
    halve before items (guess + last + 1) (guess + next) items.size
  else
    let behind (i : Nat) : Except ε Bool := return !(← before (item (guess - i)))
    let (last, next) ← stride behind (guess + 1) 0 1 items.size
    halve before items (guess + 1 - next) (guess - last) items.size

/-- The place of a key before all items that are equal to it. -/
def gallopLeft (less : α → α → Except ε Bool) (key : α) (items : Array α) (guess : Nat) :
    Except ε Nat :=
  gallop (fun item => less item key) items guess

/-- The place of a key behind all items that are equal to it. -/
def gallopRight (less : α → α → Except ε Bool) (key : α) (items : Array α) (guess : Nat) :
    Except ε Nat :=
  gallop (fun item => return !(← less key item)) items guess

end PeSignals.Sorting
