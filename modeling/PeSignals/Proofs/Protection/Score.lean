import Mathlib
import PeSignals.Proofs.Protection.Verdict

/-!
# More protection, lower score

A further detection either leaves the score of a game where it was or lowers it, with one exception in the
design: a block leaves a fixed score of its own, which may lie above a score that penalties have worn
down.

Scores are read in exact hundredths. A game that is not blocked has a base score, set by its schemes, and
a penalty, set by its flags; only the base moves when a scheme is detected.
-/
namespace PeSignals.Protection

/-! ## The score of a game that is not blocked -/

namespace Facts

/-- The score that the schemes set, before penalties. -/
def base (f : Facts) : Int :=
  if f.has .steamCeg then 70
  else if f.steamworks && f.isSteamOnly then 95
  else (if f.has .vmProtect then 20 else 100) - if f.has .epicOnlineServices then 30 else 0

/-- What the flags take off. -/
def penalty (f : Facts) : Int := (if f.online then 20 else 0) + if f.launcher then 10 else 0

end Facts

/-- A score brought between 0 and 100. -/
def clamp (score : Int) : Int := min (max score 0) 100

theorem clamp_mono {x y : Int} (h : x ≤ y) : clamp x ≤ clamp y := by
  unfold clamp
  omega

theorem clamp_le (x : Int) : clamp x ≤ 100 := by
  unfold clamp
  omega

/-- The rules that apply, one after the other, are all rules with those that do not apply passed over. -/
theorem foldl_rulesFor (f : Facts) :
    ((rulesFor f).map (·.adjustment)).foldl Adjustment.exact 0 =
      rules.foldl (fun score rule => if rule.applies f then rule.adjustment.exact score else score) 0 := by
  rw [rulesFor, List.foldl_map, List.foldl_filter]

/-- What a rule takes off, as a difference. -/
theorem lowered_eq (p : Prop) [Decidable p] (score n : Int) :
    (if p then score - n else score) = score - if p then n else 0 := by
  split_ifs <;> simp

/-- A game that nothing blocks scores its base less its penalties. -/
theorem hundredths_of_open {f : Facts} (hopen : blocks.find? (fun b => f.has b.scheme) = none) :
    (Verdict.of f).score.hundredths = if f.isClean then 100 else clamp (f.base - f.penalty) := by
  have hscore : (Verdict.of f).score.hundredths =
      clamp (((rulesFor f).map (·.adjustment)).foldl Adjustment.exact 0) := by
    rw [Verdict.of, hopen, Score.hundredths, clamp]
  rw [hscore, foldl_rulesFor]
  simp only [rules, List.foldl_cons, List.foldl_nil, Adjustment.exact, if_true, lowered_eq]
  by_cases hclean : f.isClean
  · simp only [hclean, if_true]
    rfl
  · simp only [hclean, Bool.false_eq_true, if_false, Facts.base, Facts.penalty]
    rw [sub_sub]
    rfl

/-! ## One more scheme -/

namespace Facts

def detecting (f : Facts) (s : Scheme) : Facts := { f with schemes := f.schemes ++ [s] }

theorem has_detecting (f : Facts) (s t : Scheme) :
    (f.detecting s).has t = (f.has t || decide (t = s)) := by
  simp only [has, detecting, List.contains_eq_any_beq, List.any_append, List.any_cons, List.any_nil,
    Bool.or_false]
  rfl

theorem isClean_detecting (f : Facts) (s : Scheme) : (f.detecting s).isClean = false := by
  simp [isClean, detecting]

theorem isSteamOnly_detecting (f : Facts) (s : Scheme) :
    (f.detecting s).isSteamOnly = (f.isSteamOnly && (s = .steamStub || s = .steamCeg)) := by
  simp [isSteamOnly, detecting]

/-- The penalties hang on the flags, so a further scheme changes none. -/
theorem penalty_detecting (f : Facts) (s : Scheme) : (f.detecting s).penalty = f.penalty := rfl

/-- Whether a scheme sets the base score of a game anew instead of lowering it: Steam CEG in a game with
VMProtect, and a scheme without a rule of its own in a game that was scored as a plain Steamworks game. Where
Steam CEG is known already, no scheme does. -/
def Rebased (f : Facts) (s : Scheme) : Prop :=
  ¬ f.IsHopeless ∧ f.has .steamCeg = false ∧
    (s = .steamCeg ∧ f.has .vmProtect = true ∨
      (s = .secuRom ∨ s = .custom) ∧ f.isClean = false ∧ f.steamworks = true ∧ f.isSteamOnly = true)

theorem base_detecting_le {f : Facts} {s : Scheme} (hs : s ≠ .unprotected)
    (hblocks : s ∉ blocks.map (·.scheme)) (hclean : f.isClean = false) (hopen : ¬ f.IsHopeless)
    (h : ¬ f.Rebased s) : (f.detecting s).base ≤ f.base := by
  simp only [base, has_detecting, isSteamOnly_detecting]
  cases s with
  | unprotected => exact absurd rfl hs
  | denuvo | themida | eaOrigin | ubisoftConnect => exact absurd (by decide) hblocks
  | steamStub => simp [detecting]
  | steamCeg =>
    by_cases hceg : f.has .steamCeg = true
    · simp [hceg]
    · have hvm : f.has .vmProtect = false := by
        by_contra hvm
        exact h ⟨hopen, by simpa using hceg, .inl ⟨rfl, by simpa using hvm⟩⟩
      simp only [hvm, decide_true, Bool.or_true, if_true, Bool.false_eq_true, if_false]
      split_ifs <;> omega
  | vmProtect | epicOnlineServices =>
    simp only [reduceCtorEq, decide_false, decide_true, Bool.or_false, Bool.or_true, Bool.and_false,
      Bool.false_eq_true, if_false, if_true]
    split_ifs <;> omega
  | secuRom | custom =>
    by_cases hceg : f.has .steamCeg = true
    · simp [hceg]
    · have hplain : (f.steamworks && f.isSteamOnly) = false := by
        by_contra hplain
        rw [Bool.not_eq_false, Bool.and_eq_true] at hplain
        exact h ⟨hopen, by simpa using hceg, .inr ⟨by decide, hclean, hplain.1, hplain.2⟩⟩
      simp [hceg, hplain]

end Facts

/-! ## Blocks -/

/-- What is found in a list of rising values does not rise when more is looked for. -/
theorem exists_find?_le {α : Type} {value : α → Nat} {p q : α → Bool} (hpq : ∀ x, p x → q x) {l : List α}
    (hl : l.Pairwise fun x y => value x ≤ value y) {x : α} (hx : l.find? p = some x) :
    ∃ y, l.find? q = some y ∧ value y ≤ value x := by
  induction l with
  | nil => cases hx
  | cons first rest ih =>
    rw [List.pairwise_cons] at hl
    by_cases hq : q first
    · refine ⟨first, List.find?_cons_of_pos hq, ?_⟩
      rcases List.mem_cons.mp (List.mem_of_find?_eq_some hx) with rfl | hrest
      · exact le_rfl
      · exact hl.1 x hrest
    · have hp : ¬ p first = true := fun h => hq (hpq first h)
      rw [List.find?_cons_of_neg hp] at hx
      rw [List.find?_cons_of_neg hq]
      exact ih hl.2 hx

/-- A block that decides before another leaves no higher score. -/
theorem blocks_rising : blocks.Pairwise fun b c => b.hundredths ≤ c.hundredths := by decide

theorem Block.hundredths_verdict {b : Block} (hb : b ∈ blocks) :
    b.verdict.score.hundredths = b.hundredths := by
  have hle : ∀ c ∈ blocks, c.hundredths ≤ 100 := by decide
  have hb' := hle b hb
  simp only [Block.verdict, Score.hundredths, List.foldl_cons, List.foldl_nil, Adjustment.exact]
  omega

theorem Verdict.of_blocked {f : Facts} {b : Block} (hb : blocks.find? (fun b => f.has b.scheme) = some b) :
    Verdict.of f = b.verdict := by
  rw [Verdict.of, hb]

/-- A block that a scheme brings about is the block of that scheme. -/
theorem scheme_of_new_block {f : Facts} {s : Scheme} {b : Block}
    (hopen : blocks.find? (fun b => f.has b.scheme) = none)
    (hb : blocks.find? (fun b => (f.detecting s).has b.scheme) = some b) : b ∈ blocks ∧ b.scheme = s := by
  have hmem := List.mem_of_find?_eq_some hb
  have hhas : (f.detecting s).has b.scheme = true := by simpa using List.find?_some hb
  have hold : ¬ f.has b.scheme = true := List.find?_eq_none.mp hopen b hmem
  rw [Facts.has_detecting, Bool.or_eq_true, decide_eq_true_eq] at hhas
  exact ⟨hmem, hhas.resolve_left hold⟩

/-! ## The score after a detection -/

theorem hundredths_detecting_le {f : Facts} {s : Scheme} (hs : s ≠ .unprotected) (h : ¬ f.Rebased s) :
    (Verdict.of (f.detecting s)).score.hundredths ≤ (Verdict.of f).score.hundredths ∨
      ∃ b ∈ blocks, b.scheme = s ∧ Verdict.of (f.detecting s) = b.verdict := by
  cases hold : blocks.find? fun b => f.has b.scheme with
  | some b =>
    -- blocked before: a block that is found earlier in the list has no higher score
    left
    obtain ⟨c, hc, hle⟩ := exists_find?_le
      (q := fun b => (f.detecting s).has b.scheme) (fun b hb => by rw [Facts.has_detecting, hb]; rfl)
      blocks_rising hold
    rw [Verdict.of_blocked hold, Verdict.of_blocked hc,
      Block.hundredths_verdict (List.mem_of_find?_eq_some hold),
      Block.hundredths_verdict (List.mem_of_find?_eq_some hc)]
    exact_mod_cast hle
  | none =>
    cases hnew : blocks.find? fun b => (f.detecting s).has b.scheme with
    | some b =>
      obtain ⟨hmem, hscheme⟩ := scheme_of_new_block hold hnew
      exact .inr ⟨b, hmem, hscheme, Verdict.of_blocked hnew⟩
    | none =>
      left
      rw [hundredths_of_open hold, hundredths_of_open hnew, Facts.isClean_detecting]
      by_cases hclean : f.isClean = true
      · rw [if_pos hclean]
        exact clamp_le _
      · rw [if_neg hclean, Facts.penalty_detecting]
        have hopen : ¬ f.IsHopeless := by
          rw [← isSome_block_iff, hold]
          decide
        have hblocks : s ∉ blocks.map (·.scheme) := by
          rintro hmem
          obtain ⟨b, hb, rfl⟩ := List.mem_map.mp hmem
          have hhas := List.find?_eq_none.mp hnew b hb
          rw [Facts.has_detecting, decide_eq_true rfl, Bool.or_true] at hhas
          exact hhas rfl
        have hbase := Facts.base_detecting_le hs hblocks (by simpa using hclean) hopen h
        exact clamp_mono (by omega)

namespace Analysis

/-- A detection of a known scheme changes nothing that the verdict sees. -/
theorem facts_add (a : Analysis) (d : Detection) :
    (a.add d).facts = if d.scheme ∈ a.schemes then a.facts else a.facts.detecting d.scheme := by
  have hhas : a.has d.scheme = true ↔ d.scheme ∈ a.schemes := List.contains_iff_mem
  by_cases h : d.scheme ∈ a.schemes
  · rw [add, if_pos (hhas.mpr h), if_pos h]
  · rw [add, if_neg (mt hhas.mp h), if_neg h]
    simp only [facts, Facts.detecting, schemes, List.map_append, List.map_cons, List.map_nil]

/-- A further detection leaves or lowers the score, unless it sets the base score anew or is a block whose
own score is higher. -/
theorem score_add_le (a : Analysis) (d : Detection) (hd : d.scheme ≠ .unprotected)
    (h : ¬ a.facts.Rebased d.scheme) :
    (a.add d).conclude.verdict.score.hundredths ≤ a.conclude.verdict.score.hundredths ∨
      ∃ b ∈ blocks, b.scheme = d.scheme ∧ a.conclude.verdict.score.hundredths < b.hundredths ∧
        (a.add d).conclude.verdict = b.verdict := by
  simp only [conclude, facts_add]
  split_ifs with hknown
  · exact .inl le_rfl
  rcases hundredths_detecting_le hd h with hle | ⟨b, hb, hscheme, hverdict⟩
  · exact .inl hle
  by_cases hlt : (Verdict.of a.facts).score.hundredths < b.hundredths
  · exact .inr ⟨b, hb, hscheme, hlt, hverdict⟩
  · rw [hverdict, Block.hundredths_verdict hb]
    exact .inl (not_lt.mp hlt)

/-- A game of which only the schemes are known. -/
def ofSchemes (schemes : List Scheme) : Analysis := { detected := schemes.map fun s => { scheme := s } }

/-- VMProtect in a game with Epic Online Services. -/
theorem score_add_le_vmProtect :
    Scheme.vmProtect ≠ .unprotected ∧ ¬ (ofSchemes [.epicOnlineServices]).facts.Rebased .vmProtect ∧
      ((ofSchemes [.epicOnlineServices]).add { scheme := .vmProtect }).conclude.verdict.score.hundredths ≤
        (ofSchemes [.epicOnlineServices]).conclude.verdict.score.hundredths := by
  have hnot : ¬ (ofSchemes [.epicOnlineServices]).facts.Rebased .vmProtect := by
    rintro ⟨-, -, ⟨hceg, -⟩ | ⟨hother, -⟩⟩
    · exact Scheme.noConfusion hceg
    · exact absurd hother (by decide)
  refine ⟨by decide, hnot, ?_⟩
  have hnoBlock : ∀ b ∈ blocks, b.scheme ≠ .vmProtect := by decide
  rcases score_add_le (ofSchemes [.epicOnlineServices]) { scheme := .vmProtect } (by decide) hnot with
    hle | ⟨b, hb, hscheme, -⟩
  · exact hle
  · exact absurd hscheme (hnoBlock b hb)

/-- A detection may raise a score: Themida in a game that penalties have brought to nothing, Steam CEG after
VMProtect, SecuROM in a plain Steamworks game. -/
theorem exists_score_lt_add :
    (ofSchemes [.vmProtect, .epicOnlineServices]).conclude.verdict.score.hundredths <
        ((ofSchemes [.vmProtect, .epicOnlineServices]).add
          { scheme := .themida }).conclude.verdict.score.hundredths ∧
      (ofSchemes [.vmProtect]).conclude.verdict.score.hundredths <
        ((ofSchemes [.vmProtect]).add { scheme := .steamCeg }).conclude.verdict.score.hundredths ∧
      ({ ofSchemes [.steamStub] with steamworks := true } : Analysis).conclude.verdict.score.hundredths <
        (add { ofSchemes [.steamStub] with steamworks := true }
          { scheme := .secuRom }).conclude.verdict.score.hundredths := by
  decide

end Analysis

end PeSignals.Protection
