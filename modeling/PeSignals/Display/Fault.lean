import PeSignals.Decimal.Whole
import PeSignals.Display.Event
import PeSignals.Json.Use
import PeSignals.Protection.Scheme

/-!
# Faulty payloads

A payload that was read from elsewhere may lack what a display needs, or hold a value of another kind.
The display then stops, and what it drew before stands.
-/
namespace PeSignals.Display

/-- Why a display stopped. -/
inductive Fault
  | misuse (cause : Json.Misuse)
  | unknownScheme (value : Protection.UnknownValue)
  | notWhole (cause : Decimal.NotWhole)
  /-- A value that is no text stands in the cell of a table. -/
  | notRenderable (kindName : String)

namespace Fault

def message : Fault → String
  | misuse cause => cause.message
  | unknownScheme value => value.message
  | notWhole cause => cause.message
  | notRenderable kindName =>
    s!"unable to render {kindName}; a string or other renderable object is required"

def category : Fault → String
  | misuse cause => cause.category
  | unknownScheme _ => "ValueError"
  | notWhole cause => cause.category
  | notRenderable _ => "NotRenderableError"

end Fault

instance : MonadLift Json.Used (Except Fault) := ⟨Except.mapError .misuse⟩

instance : MonadLift (Except Decimal.NotWhole) (Except Fault) := ⟨Except.mapError .notWhole⟩

/-- What was drawn, and the fault that ended it, if one did. -/
structure Drawing where
  events : List Event := []
  fault? : Option Fault := none

namespace Drawing

def of (events : List Event) : Drawing := { events }

/-- A drawing that depends on a value: nothing is drawn when the value is at fault. -/
def given (value : Except Fault α) (draw : α → Drawing) : Drawing :=
  match value with
  | .ok a => draw a
  | .error fault => { fault? := some fault }

/-- Events that depend on a value. -/
def needing (value : Except Fault α) (draw : α → List Event) : Drawing :=
  given value (of ∘ draw)

/-- One drawing and then another; a fault in the first keeps the second away. -/
def append (a b : Drawing) : Drawing :=
  match a.fault? with
  | some _ => a
  | none => { events := a.events ++ b.events, fault? := b.fault? }

/-- Several drawings in order. -/
def sequence : List Drawing → Drawing
  | [] => {}
  | d :: rest => d.append (sequence rest)

end Drawing

end PeSignals.Display
