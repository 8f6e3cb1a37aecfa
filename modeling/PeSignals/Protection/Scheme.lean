import PeSignals.Json.Literal

/-!
# Protection schemes

The schemes that can be told apart, in order of restrictiveness, with the route by which a game can
be run without each of them.
-/
namespace PeSignals.Protection

/-- A protection scheme; later ones are more restrictive. -/
inductive Scheme
  | unprotected
  | steamStub
  | steamCeg
  | denuvo
  | vmProtect
  | themida
  | secuRom
  | epicOnlineServices
  | eaOrigin
  | ubisoftConnect
  | custom
  deriving Repr, DecidableEq

/-- A route for running a game without its protection. -/
inductive Bypass
  | unneeded
  | goldberg
  | goldbergExperimental
  | creamApi
  | manualPatch
  | notPossible
  deriving Repr, DecidableEq

inductive Confidence
  | low
  | medium
  | high
  deriving Repr, DecidableEq

inductive Packaging
  | goldberg
  | goldbergWithConfig
  | directCopy
  | manualReview
  | notPackageable
  deriving Repr, DecidableEq

namespace Scheme

/-- Every scheme, least restrictive first. -/
def all : List Scheme :=
  [unprotected, steamStub, steamCeg, denuvo, vmProtect, themida, secuRom, epicOnlineServices,
    eaOrigin, ubisoftConnect, custom]

/-- The place of a scheme in the order of restrictiveness. -/
def rank : Scheme → Nat
  | unprotected => 0
  | steamStub => 1
  | steamCeg => 2
  | denuvo => 3
  | vmProtect => 4
  | themida => 5
  | secuRom => 6
  | epicOnlineServices => 7
  | eaOrigin => 8
  | ubisoftConnect => 9
  | custom => 10

def label : Scheme → String
  | unprotected => "none"
  | steamStub => "steam_stub"
  | steamCeg => "steam_ceg"
  | denuvo => "denuvo"
  | vmProtect => "vmprotect"
  | themida => "themida"
  | secuRom => "securom"
  | epicOnlineServices => "epic_online_services"
  | eaOrigin => "ea_origin"
  | ubisoftConnect => "ubisoft_connect"
  | custom => "custom"

/-- The name of a scheme for people. -/
def displayName : Scheme → String
  | unprotected => "None"
  | steamStub => "Steam API"
  | steamCeg => "Steam CEG"
  | denuvo => "Denuvo"
  | vmProtect => "VMProtect"
  | themida => "Themida"
  | secuRom => "SecuROM"
  | epicOnlineServices => "Epic Online Services"
  | eaOrigin => "EA App/Origin"
  | ubisoftConnect => "Ubisoft Connect"
  | custom => "Custom DRM"

def bypass : Scheme → Bypass
  | unprotected => .unneeded
  | steamStub => .goldberg
  | steamCeg => .goldbergExperimental
  | denuvo | themida | eaOrigin | ubisoftConnect => .notPossible
  | vmProtect | secuRom | epicOnlineServices | custom => .manualPatch

end Scheme

namespace Bypass

def label : Bypass → String
  | unneeded => "none"
  | goldberg => "goldberg"
  | goldbergExperimental => "goldberg_experimental"
  | creamApi => "cream_api"
  | manualPatch => "manual_patch"
  | notPossible => "not_possible"

/-- What a route asks of the reader. -/
def advice : Bypass → String
  | unneeded => "No action required."
  | goldberg => "Replace the Steam API DLLs with the Goldberg emulator."
  | goldbergExperimental =>
    "Try the experimental Goldberg build; the executable may still be bound to Steam."
  | creamApi => "Use CreamAPI to unlock DLC ownership checks."
  | manualPatch => "Manual analysis and patching of the executable is required."
  | notPossible => "No practical bypass exists; the game cannot be packaged."

end Bypass

namespace Confidence

/-- A confidence as a number. -/
def value : Confidence → Int
  | low => 1
  | medium => 2
  | high => 3

def label : Confidence → String
  | low => "LOW"
  | medium => "MEDIUM"
  | high => "HIGH"

/-- Every confidence, lowest first. -/
def all : List Confidence := [low, medium, high]

end Confidence

def Packaging.label : Packaging → String
  | goldberg => "goldberg"
  | goldbergWithConfig => "goldberg_with_config"
  | directCopy => "direct_copy"
  | manualReview => "manual_review"
  | notPackageable => "not_packageable"

/-- A value that names no scheme or no confidence. -/
inductive UnknownValue
  | scheme (value : Json)
  | confidence (value : Json)

def UnknownValue.message : UnknownValue → String
  | scheme value => value.literal ++ " is not a valid DrmType"
  | confidence value => value.literal ++ " is not a valid DrmConfidence"

def Scheme.ofJson (j : Json) : Except UnknownValue Scheme :=
  match Scheme.all.find? fun s => j.text? = some s.label with
  | some s => .ok s
  | none => .error (.scheme j)

/-- Whether a value equals the number of a confidence; truth values count as 0 and 1. -/
def Confidence.matches (c : Confidence) : Json → Bool
  | .int n => n = c.value
  | .float x => x == Float.ofInt c.value
  | .bool b => (if b then 1 else 0) = c.value
  | _ => false

def Confidence.ofJson (j : Json) : Except UnknownValue Confidence :=
  match Confidence.all.find? (·.matches j) with
  | some c => .ok c
  | none => .error (.confidence j)

end PeSignals.Protection
