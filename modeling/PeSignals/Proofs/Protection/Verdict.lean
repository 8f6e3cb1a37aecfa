import Mathlib
import PeSignals.Protection.Analysis

/-!
# What a verdict depends on

A verdict looks at which schemes are detected, never at how often or in which order, and a game is ruled
out exactly if there is no way around one of its schemes.
-/
namespace PeSignals.Protection

/-! ## Order of discovery -/

namespace Facts

/-- Facts that agree on which schemes are detected and on the flags. -/
structure IsSame (f g : Facts) : Prop where
  schemes : ∀ s, s ∈ f.schemes ↔ s ∈ g.schemes
  steamworks : f.steamworks = g.steamworks
  launcher : f.launcher = g.launcher
  online : f.online = g.online

variable {f g : Facts}

theorem has_eq_true_iff {s : Scheme} : f.has s = true ↔ s ∈ f.schemes := List.contains_iff_mem

theorem isClean_eq_true_iff : f.isClean = true ↔ f.schemes = [] := List.isEmpty_iff

theorem has_congr (h : f.IsSame g) (s : Scheme) : f.has s = g.has s := by
  rw [Bool.eq_iff_iff, has_eq_true_iff, has_eq_true_iff]
  exact h.schemes s

theorem isClean_congr (h : f.IsSame g) : f.isClean = g.isClean := by
  rw [Bool.eq_iff_iff, isClean_eq_true_iff, isClean_eq_true_iff, List.eq_nil_iff_forall_not_mem,
    List.eq_nil_iff_forall_not_mem]
  exact forall_congr' fun s => not_congr (h.schemes s)

theorem isSteamOnly_congr (h : f.IsSame g) : f.isSteamOnly = g.isSteamOnly := by
  rw [Bool.eq_iff_iff, isSteamOnly, isSteamOnly, List.all_eq_true, List.all_eq_true]
  exact forall_congr' fun s => imp_congr_left (h.schemes s)

end Facts

theorem rulesFor_congr {f g : Facts} (h : f.IsSame g) : rulesFor f = rulesFor g := by
  refine List.filter_congr fun rule hrule => ?_
  -- One case for each rule, in the order of the table.
  simp only [rules, List.mem_cons, List.not_mem_nil, or_false] at hrule
  rcases hrule with rfl | rfl | rfl | rfl | rfl | rfl | rfl | rfl
  · rfl
  · exact Facts.has_congr h _
  · exact Facts.has_congr h _
  · simp only [h.steamworks, Facts.isSteamOnly_congr h]
  · exact Facts.has_congr h _
  · exact h.online
  · exact h.launcher
  · exact Facts.isClean_congr h

/-- The verdict is the same for the same schemes and flags. -/
theorem Verdict.of_congr {f g : Facts} (h : f.IsSame g) : Verdict.of f = Verdict.of g := by
  have hblocks : (fun b : Block => f.has b.scheme) = fun b => g.has b.scheme :=
    funext fun b => Facts.has_congr h b.scheme
  have hopen : openPackaging f = openPackaging g := by
    simp only [openPackaging, Facts.isClean_congr h, h.steamworks, Facts.has_congr h]
  rw [Verdict.of, Verdict.of, hblocks, rulesFor_congr h, hopen]

theorem Scheme.rank_injective : Function.Injective Scheme.rank := by
  intro s t h
  cases s <;> cases t <;> first | rfl | cases h

namespace Analysis

theorem rank_stricter (s t : Scheme) : (stricter s t).rank = max s.rank t.rank := by
  rw [stricter]
  split_ifs with h
  · exact (max_eq_right h.le).symm
  · exact (max_eq_left (not_lt.mp h)).symm

theorem primary_eq_foldl (a : Analysis) : a.primary = a.schemes.foldl stricter .unprotected := by
  rw [primary]
  cases a.schemes with
  | nil => rfl
  | cons s rest =>
    have hfirst : stricter .unprotected s = s := by
      cases s <;> rfl
    rw [List.foldl_cons, hfirst]

/-- The most restrictive scheme is the same in any order. -/
theorem primary_congr {a b : Analysis} (h : a.schemes.Perm b.schemes) : a.primary = b.primary := by
  rw [primary_eq_foldl, primary_eq_foldl]
  -- Ranks tell schemes apart, and the rank of the stricter one is a maximum.
  refine h.foldl_eq' (fun s _ t _ strictest => Scheme.rank_injective ?_) _
  simp only [rank_stricter, max_assoc, max_comm s.rank]

end Analysis

/-! ## Ways around -/

/-- The blocking schemes are exactly those without a way around. -/
theorem bypass_eq_notPossible_iff (s : Scheme) :
    s.bypass = .notPossible ↔ s ∈ blocks.map (·.scheme) := by
  cases s <;> decide

theorem openPackaging_ne (f : Facts) : openPackaging f ≠ .notPackageable := by
  unfold openPackaging
  split_ifs <;> decide

/-- Whether there is no way around one of the schemes. -/
def Facts.IsHopeless (f : Facts) : Prop := ∃ s ∈ f.schemes, s.bypass = .notPossible

/-- A game is hopeless exactly if a block applies. -/
theorem isSome_block_iff (f : Facts) :
    (blocks.find? fun b => f.has b.scheme).isSome = true ↔ f.IsHopeless := by
  rw [List.find?_isSome, Facts.IsHopeless]
  constructor
  · rintro ⟨b, hb, hhas⟩
    exact ⟨b.scheme, List.contains_iff_mem.mp hhas,
      (bypass_eq_notPossible_iff _).mpr (List.mem_map_of_mem hb)⟩
  · rintro ⟨s, hs, hbypass⟩
    obtain ⟨b, hb, rfl⟩ := List.mem_map.mp ((bypass_eq_notPossible_iff s).mp hbypass)
    exact ⟨b, hb, List.contains_iff_mem.mpr hs⟩

theorem find?_blocks_eq_none {f : Facts} (h : ¬ f.IsHopeless) :
    (blocks.find? fun b => f.has b.scheme) = none := by
  rw [← Option.not_isSome_iff_eq_none, isSome_block_iff]
  exact h

/-- A game is not packageable, and not compatible, exactly if there is no way around one of its
schemes. -/
theorem verdict_iff_isHopeless (f : Facts) :
    ((Verdict.of f).packaging = .notPackageable ↔ f.IsHopeless) ∧
      ((Verdict.of f).compatible = false ↔ f.IsHopeless) := by
  rw [← isSome_block_iff, Verdict.of]
  cases hblock : blocks.find? fun b => f.has b.scheme with
  | some b => exact ⟨iff_of_true rfl rfl, iff_of_true rfl rfl⟩
  | none => exact ⟨iff_of_false (openPackaging_ne f) (by simp), iff_of_false (by simp) (by simp)⟩

/-! ## How to package -/

theorem isHopeless_iff (f : Facts) :
    f.IsHopeless ↔ ∃ s ∈ f.schemes, s ∈ [Scheme.denuvo, .themida, .eaOrigin, .ubisoftConnect] :=
  exists_congr fun s => and_congr_right fun _ => bypass_eq_notPossible_iff s

namespace Verdict

variable {f : Facts}

theorem packaging_of_open (h : ¬ f.IsHopeless) : (Verdict.of f).packaging = openPackaging f := by
  rw [Verdict.of, find?_blocks_eq_none h]

/-- The packaging of a game, row by row: hopeless, clean, with VMProtect, any other. -/
theorem packaging_cases (f : Facts) :
    f.IsHopeless ∧ (Verdict.of f).packaging = .notPackageable ∨
      ¬ f.IsHopeless ∧ (f.schemes = [] ∧
          (Verdict.of f).packaging = (if f.steamworks then .goldberg else .directCopy) ∨
        f.schemes ≠ [] ∧ (.vmProtect ∈ f.schemes ∧ (Verdict.of f).packaging = .manualReview ∨
          .vmProtect ∉ f.schemes ∧ (Verdict.of f).packaging = .goldberg)) := by
  by_cases hopeless : f.IsHopeless
  · exact .inl ⟨hopeless, (verdict_iff_isHopeless f).1.mpr hopeless⟩
  · refine .inr ⟨hopeless, ?_⟩
    rw [packaging_of_open hopeless, openPackaging]
    by_cases hclean : f.schemes = []
    · rw [if_pos (Facts.isClean_eq_true_iff.mpr hclean)]
      exact .inl ⟨hclean, rfl⟩
    · rw [if_neg (mt Facts.isClean_eq_true_iff.mp hclean)]
      refine .inr ⟨hclean, ?_⟩
      by_cases hvm : .vmProtect ∈ f.schemes
      · exact .inl ⟨hvm, if_pos (Facts.has_eq_true_iff.mpr hvm)⟩
      · exact .inr ⟨hvm, if_neg (mt Facts.has_eq_true_iff.mp hvm)⟩

theorem packaging_eq_manualReview_iff :
    (Verdict.of f).packaging = .manualReview ↔ ¬ f.IsHopeless ∧ .vmProtect ∈ f.schemes := by
  rcases packaging_cases f with ⟨hopeless, h⟩ | ⟨hopen, ⟨hclean, h⟩ | ⟨-, ⟨hvm, h⟩ | ⟨hvm, h⟩⟩⟩
  · simp [h, hopeless]
  · rw [h, hclean]
    split_ifs <;> simp
  · simp [h, hopen, hvm]
  · simp [h, hvm]

/-- Only a game without schemes and without Steam is copied as it is. -/
theorem packaging_eq_directCopy_iff :
    (Verdict.of f).packaging = .directCopy ↔ f.schemes = [] ∧ f.steamworks = false := by
  rcases packaging_cases f with ⟨⟨s, hs, -⟩, h⟩ | ⟨-, ⟨hclean, h⟩ | ⟨hsome, ⟨-, h⟩ | ⟨-, h⟩⟩⟩
  · simp [h, List.ne_nil_of_mem hs]
  · cases hflag : f.steamworks <;> simp [h, hclean, hflag]
  · simp [h, hsome]
  · simp [h, hsome]

theorem packaging_eq_goldberg_iff :
    (Verdict.of f).packaging = .goldberg ↔
      ¬ f.IsHopeless ∧ .vmProtect ∉ f.schemes ∧ ¬ (f.schemes = [] ∧ f.steamworks = false) := by
  rcases packaging_cases f with ⟨hopeless, h⟩ | ⟨hopen, ⟨hclean, h⟩ | ⟨hsome, ⟨hvm, h⟩ | ⟨hvm, h⟩⟩⟩
  · simp [h, hopeless]
  · cases hflag : f.steamworks <;> simp [h, hopen, hclean, hflag]
  · simp [h, hvm]
  · simp [h, hopen, hvm, hsome]

/-- No verdict proposes the emulator with settings of its own. -/
theorem packaging_ne_goldbergWithConfig (f : Facts) : (Verdict.of f).packaging ≠ .goldbergWithConfig := by
  rcases packaging_cases f with ⟨-, h⟩ | ⟨-, ⟨-, h⟩ | ⟨-, ⟨-, h⟩ | ⟨-, h⟩⟩⟩ <;> rw [h]
  · decide
  · split_ifs <;> decide
  · decide
  · decide

end Verdict

end PeSignals.Protection
