import PeSignals.Bytes.Histogram

/-!
# Shannon entropy

Bits per byte of a byte string, computed from its histogram alone. The terms are added in a tree of
blocks, which keeps the rounding error of long sums small and fixes the result to the last bit.
-/
namespace PeSignals.Entropy

/-- Adds terms eight at a time to eight running sums; also returns the terms left over. -/
def addRows (lanes terms : List Float) : List Float × List Float :=
  if 8 ≤ terms.length then addRows (List.zipWith (· + ·) lanes (terms.take 8)) (terms.drop 8)
  else (lanes, terms)
termination_by terms.length

/-- Joins eight running sums in pairs. -/
def joinLanes : List Float → Float
  | [a, b, c, d, e, f, g, h] => ((a + b) + (c + d)) + ((e + f) + (g + h))
  | lanes => lanes.foldl (· + ·) 0

/-- The sum of one block of at least eight terms. -/
def blockSum (terms : List Float) : Float :=
  let (lanes, rest) := addRows (terms.take 8) (terms.drop 8)
  rest.foldl (· + ·) (joinLanes lanes)

/-- The sum of a list of terms; more than 128 of them are cut in two near the middle. -/
def pairwiseSum (terms : List Float) : Float :=
  if terms.length < 8 then terms.foldl (· + ·) 0
  else if terms.length ≤ 128 then blockSum terms
  else
    let cut := terms.length / 2 - terms.length / 2 % 8
    pairwiseSum (terms.take cut) + pairwiseSum (terms.drop cut)
termination_by terms.length
decreasing_by all_goals simp only [List.length_take, List.length_drop]; omega

/-- The share of each byte value; all zero for no data. -/
def frequencies (counts : Array Nat) : List Float :=
  let total := counts.foldl (· + ·) 0
  counts.toList.map fun n => if total = 0 then 0 else Float.ofNat n / Float.ofNat total

def ofCounts (counts : Array Nat) : Float :=
  let shares := (frequencies counts).filter (· > 0)
  let entropy := -pairwiseSum (shares.map fun p => p * p.log2)
  if entropy > 0 then entropy else 0

/-- The entropy of a byte string, between 0 and 8. -/
def shannon (data : ByteArray) : Float :=
  ofCounts (Bytes.histogram data)

end PeSignals.Entropy
