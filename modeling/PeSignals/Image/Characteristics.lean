/-!
# Section characteristics

The flag bits of a section that the tables show, and their one-line text.
-/
namespace PeSignals.Image

/-- A shown flag: the position of its bit and its label, in the order of the text. -/
def shownFlags : List (Nat × String) :=
  [(30, "R"), (31, "W"), (29, "X"), (5, "CODE"), (6, "IDATA"), (7, "UDATA")]

/-- Whether bit `i` is set in the two's complement form of `n`. -/
def hasBit (n : Int) (i : Nat) : Bool :=
  n / Nat.pow 2 i % 2 = 1

/-- The labels of the set flags, one blank between them, and a dash when none is set. -/
def describeCharacteristics (characteristics : Int) : String :=
  match shownFlags.filter fun flag => hasBit characteristics flag.1 with
  | [] => "-"
  | flags => " ".intercalate (flags.map Prod.snd)

end PeSignals.Image
