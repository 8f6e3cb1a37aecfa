import PeSignals.Config.Configuration
import PeSignals.Json.Misuse
import PeSignals.Protection.Signals

/-!
# Ratings against a configuration

The overlay and the entropies of an image are compared with bounds that a configuration gives. A bound of
a kind that cannot be compared ends the look at an executable, which keeps the signals found before.
-/
namespace PeSignals.Protection

open Files (FileTree Path)

/-- A bound that cannot be compared, by the name of its kind. -/
inductive RatingFault
  | overlay (kindName : String)
  | entropy (kindName : String)
  deriving Repr, DecidableEq

namespace RatingFault

/-- The wording of a bound that cannot be compared. -/
def message : RatingFault → String
  | overlay kindName => (Json.Misuse.incomparable ">" "int" kindName).message
  | entropy kindName => (Json.Misuse.incomparable ">" "float" kindName).message

/-- The first bound of a configuration at which the rating of an image ends. -/
def ofImage? (c : Configuration) (image : Image) : Option RatingFault :=
  let size := c.scanSetting "large_overlay_bytes"
  let threshold := c.scanSetting "high_entropy_threshold"
  if size.number?.isNone then some (.overlay size.kindName)
  else if c.settings.measureEntropy && !image.sections.isEmpty && threshold.number?.isNone then
    some (.entropy threshold.kindName)
  else none

/-- The notes on an image made before a rating ended. -/
def notesBefore (fault : RatingFault) (settings : Settings) (file : String) (image : Image) :
    List String :=
  match fault with
  | overlay _ => []
  | entropy _ => imageNotes settings file image []

end RatingFault

/-- The signals of the executable at a path as far as the bounds of a configuration can be compared, and
the fault that ended the look at it. -/
def ratedSignals (t : FileTree) (c : Configuration) (path : Path) :
    Noted Signals × Option RatingFault :=
  let found := executableSignals t c.settings path
  match (Image.ofFile t path.text).outcome with
  | .refused _ => (found, none)
  | .image image =>
    match RatingFault.ofImage? c image with
    | none => (found, none)
    | some fault =>
      let notes := fault.notesBefore c.settings path.name image
      ({ found with value := { found.value with notes } }, some fault)

end PeSignals.Protection
