import PeSignals.Protection.Scheme
import PeSignals.Protection.Score

/-!
# Verdicts

How well a game would run with a Steam emulator, derived from the detected schemes and three flags.
Some schemes block packaging outright, and the first of them in a fixed order decides alone.
Otherwise the rules below apply in order, each changing the score and the stated reason.
-/
namespace PeSignals.Protection

/-- What a verdict depends on. -/
structure Facts where
  /-- The detected schemes. -/
  schemes : List Scheme := []
  steamworks : Bool := false
  launcher : Bool := false
  online : Bool := false
  deriving Repr, DecidableEq

/-- Whether a game would run with the emulator, how likely, why, and how to package it. -/
structure Verdict where
  compatible : Bool := false
  score : Score := {}
  reason : String := ""
  packaging : Packaging := .goldberg
  deriving Repr, DecidableEq

namespace Facts

def has (f : Facts) (s : Scheme) : Bool := f.schemes.contains s

def isClean (f : Facts) : Bool := f.schemes.isEmpty

/-- Whether the only schemes are those of Steam; true of a clean game too. -/
def isSteamOnly (f : Facts) : Bool :=
  f.schemes.all fun s => s = .steamStub || s = .steamCeg

end Facts

/-- A scheme that rules packaging out, with the score and reason it leaves. -/
structure Block where
  scheme : Scheme
  hundredths : Nat
  reason : String

/-- The blocking schemes, the deciding one first. -/
def blocks : List Block :=
  [⟨.denuvo, 0, "Denuvo anti-tamper protection detected - not packageable"⟩,
    ⟨.themida, 10, "Themida/WinLicense detected - unlikely to work"⟩,
    ⟨.eaOrigin, 10, "EA Origin/App required - not packageable"⟩,
    ⟨.ubisoftConnect, 10, "Ubisoft Connect required - not packageable"⟩]

def Block.verdict (b : Block) : Verdict where
  compatible := false
  score := ⟨[.set b.hundredths]⟩
  reason := b.reason
  packaging := .notPackageable

/-- A rule that applies to some games: it changes the score and the reason found so far. -/
structure Rule where
  applies : Facts → Bool
  adjustment : Adjustment
  reason : String → String

/-- Adds the remark on launchers to a reason. -/
def withLauncherRemark (reason : String) : String :=
  if reason = "" then "May require launcher bypass." else reason ++ " May require launcher bypass."

/-- The rules for games that are not blocked, in order. -/
def rules : List Rule :=
  [⟨fun _ => true, .set 100, id⟩,
    ⟨(·.has .vmProtect), .set 20, fun _ => "VMProtect detected - unlikely to work with Goldberg"⟩,
    ⟨(·.has .epicOnlineServices), .lower 30, fun _ => "Epic Online Services integration detected"⟩,
    ⟨fun f => f.steamworks && f.isSteamOnly, .set 95,
      fun _ => "Standard Steamworks game - should work with Goldberg"⟩,
    ⟨(·.has .steamCeg), .set 70, fun _ => "Steam CEG detected - may work with Goldberg"⟩,
    ⟨(·.online), .lower 20,
      fun reason => if reason = "" then "Game may require online connection" else reason⟩,
    ⟨(·.launcher), .lower 10, withLauncherRemark⟩,
    ⟨(·.isClean), .set 100, fun _ => "No DRM detected - likely compatible"⟩]

/-- The packaging of a game that is not blocked. -/
def openPackaging (f : Facts) : Packaging :=
  if f.isClean then (if f.steamworks then .goldberg else .directCopy)
  else if f.has .vmProtect then .manualReview
  else .goldberg

/-- The rules that apply to a game. -/
def rulesFor (f : Facts) : List Rule := rules.filter (·.applies f)

def Verdict.of (f : Facts) : Verdict :=
  match blocks.find? fun b => f.has b.scheme with
  | some b => b.verdict
  | none =>
    { compatible := true
      score := ⟨(rulesFor f).map (·.adjustment)⟩
      reason := (rulesFor f).foldl (fun reason rule => rule.reason reason) ""
      packaging := openPackaging f }

end PeSignals.Protection
