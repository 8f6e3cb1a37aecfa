import Mathlib
import PeSignals.Proofs.Protection.Recording
import PeSignals.Proofs.Protection.Verdict

/-!
# Verdicts after a history

Detections may be recorded, flags set and verdicts computed in any order and as often as one likes. The
last verdict is told by the schemes that were detected and by how the flags stand in the end. Nothing else
of what happened shows in it.
-/
namespace PeSignals.Protection

inductive Flag
  | steamworks
  | launcher
  | online

inductive Change
  | detect (d : Detection)
  | flag (which : Flag) (value : Bool)
  | conclude

namespace Analysis

def flag (a : Analysis) : Flag → Bool
  | .steamworks => a.steamworks
  | .launcher => a.launcher
  | .online => a.online

def withFlag (a : Analysis) (value : Bool) : Flag → Analysis
  | .steamworks => { a with steamworks := value }
  | .launcher => { a with launcher := value }
  | .online => { a with online := value }

def changed (a : Analysis) : Change → Analysis
  | .detect d => a.add d
  | .flag which value => a.withFlag value which
  | .conclude => a.conclude

def after (a : Analysis) (history : List Change) : Analysis := history.foldl changed a

end Analysis

/-! ## What a history leaves -/

/-- The flags that a change sets. -/
def Change.set? : Change → Flag → Option Bool
  | .flag .steamworks value, .steamworks => some value
  | .flag .launcher value, .launcher => some value
  | .flag .online value, .online => some value
  | _, _ => none

/-- The value that a history set a flag to last, if it set it at all. -/
def lastSet? (history : List Change) (which : Flag) : Option Bool :=
  history.reverse.findSome? (·.set? which)

namespace Analysis

theorem mem_schemes_changed {a : Analysis} {change : Change} {s : Scheme} :
    s ∈ (a.changed change).schemes ↔ s ∈ a.schemes ∨ ∃ d, change = .detect d ∧ d.scheme = s := by
  cases change with
  | conclude => simp [changed, conclude, schemes]
  | flag which value => cases which <;> simp [changed, withFlag, schemes]
  | detect d =>
    have hadd : a.changed (.detect d) = a.absorb { detections := [d] } := by
      rw [absorb_eq, changed, add_eq]
      simp only [List.append_nil, Bool.or_false]
    rw [hadd, mem_schemes_absorb]
    simp [eq_comm]

/-- What is detected in the end was so from the start or is detected by one of the changes. -/
theorem mem_schemes_after {a : Analysis} {history : List Change} {s : Scheme} :
    s ∈ (a.after history).schemes ↔
      s ∈ a.schemes ∨ ∃ d, Change.detect d ∈ history ∧ d.scheme = s := by
  induction history generalizing a with
  | nil => simp [after]
  | cons change rest ih =>
    rw [after, List.foldl_cons, ← after, ih, mem_schemes_changed, or_assoc]
    simp only [List.mem_cons, or_and_right, exists_or, eq_comm (a := change)]

theorem flag_changed (a : Analysis) (change : Change) (which : Flag) :
    (a.changed change).flag which = (change.set? which).getD (a.flag which) := by
  cases change with
  | conclude => cases which <;> rfl
  | flag other value => cases other <;> cases which <;> rfl
  | detect d => cases which <;> simp only [changed, add_eq] <;> rfl

/-- A flag stands as it was set last. -/
theorem flag_after (a : Analysis) (history : List Change) (which : Flag) :
    (a.after history).flag which = (lastSet? history which).getD (a.flag which) := by
  induction history generalizing a with
  | nil => rfl
  | cons change rest ih =>
    rw [after, List.foldl_cons, ← after, ih, flag_changed, lastSet?, lastSet?, List.reverse_cons,
      List.findSome?_append]
    cases hlast : rest.reverse.findSome? (·.set? which) with
    | some value => rfl
    | none => cases hset : change.set? which <;> simp [hset]

/-! ## The last verdict -/

/-- Whether a scheme is detected that rules packaging out. -/
def IsBlocked (a : Analysis) : Prop :=
  ∃ s ∈ a.schemes, s ∈ [Scheme.denuvo, .themida, .eaOrigin, .ubisoftConnect]

/-- Whether a verdict is the one that the schemes and flags of an analysis ask for. -/
structure IsJudged (a : Analysis) (v : Verdict) : Prop where
  compatible : v.compatible = false ↔ a.IsBlocked
  notPackageable : v.packaging = .notPackageable ↔ a.IsBlocked
  manualReview : v.packaging = .manualReview ↔ ¬ a.IsBlocked ∧ .vmProtect ∈ a.schemes
  directCopy : v.packaging = .directCopy ↔ a.detected = [] ∧ a.steamworks = false
  goldberg : v.packaging = .goldberg ↔
    ¬ a.IsBlocked ∧ .vmProtect ∉ a.schemes ∧ ¬ (a.detected = [] ∧ a.steamworks = false)
  configured : v.packaging ≠ .goldbergWithConfig

theorem schemes_eq_nil_iff {a : Analysis} : a.schemes = [] ↔ a.detected = [] := List.map_eq_nil_iff

theorem isJudged_conclude (a : Analysis) : a.IsJudged a.conclude.verdict := by
  have hblocked : a.facts.IsHopeless ↔ a.IsBlocked := isHopeless_iff a.facts
  obtain ⟨hpackaging, hcompatible⟩ := verdict_iff_isHopeless a.facts
  have hmanual := Verdict.packaging_eq_manualReview_iff (f := a.facts)
  have hdirect := Verdict.packaging_eq_directCopy_iff (f := a.facts)
  have hgoldberg := Verdict.packaging_eq_goldberg_iff (f := a.facts)
  rw [hblocked] at hpackaging hcompatible hmanual hgoldberg
  have hclean : a.facts.schemes = [] ↔ a.detected = [] := schemes_eq_nil_iff
  rw [hclean] at hdirect hgoldberg
  exact ⟨hcompatible, hpackaging, hmanual, hdirect, hgoldberg,
    Verdict.packaging_ne_goldbergWithConfig a.facts⟩

/-- All that a verdict sees of an analysis is which schemes are detected, and the flags. -/
theorem isSame_facts {a b : Analysis} (hschemes : ∀ s, s ∈ a.schemes ↔ s ∈ b.schemes)
    (hflags : ∀ which, a.flag which = b.flag which) : a.facts.IsSame b.facts :=
  ⟨hschemes, hflags .steamworks, hflags .launcher, hflags .online⟩

/-- The verdict after a history, whatever the analysis was before: it is judged by the schemes that were
detected and by the flags as they were set last. Any other history that leaves the same schemes and flags
ends in the same verdict, and computing it changes nothing else. -/
theorem conclude_after (start : Analysis) (history : List Change) :
    let a := start.after history
    (∀ s, s ∈ a.schemes ↔ s ∈ start.schemes ∨ ∃ d, Change.detect d ∈ history ∧ d.scheme = s) ∧
    (∀ which, a.flag which = (lastSet? history which).getD (start.flag which)) ∧
    a.IsJudged a.conclude.verdict ∧
    (∀ (other : Analysis) (others : List Change),
      let b := other.after others
      (∀ s, s ∈ a.schemes ↔ s ∈ b.schemes) → (∀ which, a.flag which = b.flag which) →
        a.conclude.verdict = b.conclude.verdict) ∧
    a.conclude = { a with verdict := a.conclude.verdict } := by
  intro a
  refine ⟨fun s => mem_schemes_after, flag_after start history, isJudged_conclude a, ?_, rfl⟩
  intro other others b hschemes hflags
  exact Verdict.of_congr (isSame_facts hschemes hflags)

end Analysis

end PeSignals.Protection
