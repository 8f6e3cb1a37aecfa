import PeSignals.Decimal.Number

/-!
# Scan settings

The thresholds by which signals count, and the bounds of a scan.
-/
namespace PeSignals

structure Settings where
  /-- More overlay bytes than this suggest a packer. -/
  largeOverlay : Number := .int 10000000
  /-- More entropy than this suggests packing or encryption. -/
  highEntropy : Number := .float 7.0
  /-- The number of largest executables that a detection looks at; `none` is no limit. A negative
  number leaves that many of the smallest out. -/
  maximumExecutables : Option Int := some 5
  measureEntropy : Bool := true
  /-- Literals searched in every inspected image. -/
  extraPatterns : List String := []
  /-- The time limit of one inspection in seconds. -/
  timeLimit : Number := .float 30.0
  deriving Repr

namespace Settings

def isLargeOverlay (s : Settings) (size : Int) : Bool := s.largeOverlay.below (.int size)

def isHighEntropy (s : Settings) (entropy : Float) : Bool := s.highEntropy.below (.float entropy)

end Settings

end PeSignals
