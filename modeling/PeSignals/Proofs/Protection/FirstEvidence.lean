import Mathlib
import PeSignals.Proofs.Protection.Recording
import PeSignals.Proofs.Protection.Verdict

/-!
# First evidence

Detections are recorded one after the other. Of every scheme the first one is kept as it came and all later
ones are passed over, so no scheme is recorded twice. That alone makes the most restrictive scheme a matter of
what was detected and not of when.
-/
namespace PeSignals.Protection

namespace Scheme

theorem mem_all (s : Scheme) : s ∈ all := by
  cases s <;> decide

theorem rank_eq_idxOf (s : Scheme) : s.rank = all.idxOf s := by
  cases s <;> rfl

theorem length_le_length_all {schemes : List Scheme} (h : schemes.Nodup) : schemes.length ≤ all.length :=
  (h.subperm fun s _ => s.mem_all).length_le

end Scheme

/-! ## First detections -/

/-- The detections before which there is none of the same scheme, in order. -/
def firstOfEach (ds : List Detection) : List Detection :=
  (ds.zipIdx.filter fun d => d.1.scheme ∉ (ds.take d.2).map (·.scheme)).map (·.1)

theorem firstOfEach_append (ds : List Detection) (d : Detection) :
    firstOfEach (ds ++ [d]) =
      firstOfEach ds ++ if d.scheme ∈ ds.map (·.scheme) then [] else [d] := by
  have hbefore : ∀ e ∈ ds.zipIdx, (ds ++ [d]).take e.2 = ds.take e.2 := fun e he =>
    List.take_append_of_le_length (List.snd_lt_of_mem_zipIdx he).le
  have hold : ds.zipIdx.filter (fun e => e.1.scheme ∉ ((ds ++ [d]).take e.2).map (·.scheme)) =
      ds.zipIdx.filter fun e => e.1.scheme ∉ (ds.take e.2).map (·.scheme) :=
    List.filter_congr fun e he => by rw [hbefore e he]
  rw [firstOfEach, List.zipIdx_append, List.filter_append, List.map_append, hold, firstOfEach]
  congr 1
  -- Before the last detection stand all the others.
  rw [Nat.zero_add, List.zipIdx_singleton, List.filter_singleton]
  dsimp only
  rw [List.take_left]
  by_cases hseen : d.scheme ∈ ds.map (·.scheme)
  · simp only [hseen, not_true_eq_false, decide_false, cond_false, if_true, List.map_nil]
  · simp only [hseen, not_false_eq_true, decide_true, cond_true, if_false, List.map_cons, List.map_nil]

theorem firsts_nil_eq (ds : List Detection) : firsts [] ds = firstOfEach ds := by
  induction ds using List.reverseRecOn with
  | nil => rfl
  | append_singleton ds d ih =>
    have hseen : d.scheme ∈ (firsts [] ds).map (·.scheme) ↔ d.scheme ∈ ds.map (·.scheme) := by
      rw [mem_schemes_firsts]
      exact and_iff_right List.not_mem_nil
    rw [firsts_append, List.nil_append, firstOfEach_append, ← ih]
    simp only [firsts, hseen]

namespace Analysis

/-! ## The most restrictive scheme -/

theorem stricter_eq_or (s t : Scheme) : stricter s t = s ∨ stricter s t = t := by
  rw [stricter]
  split_ifs
  · exact .inr rfl
  · exact .inl rfl

/-- Comparing from one scheme on ends in one of those that were compared, and none of them is stricter. -/
theorem foldl_stricter (s : Scheme) (rest : List Scheme) :
    rest.foldl stricter s ∈ s :: rest ∧ ∀ t ∈ s :: rest, t.rank ≤ (rest.foldl stricter s).rank := by
  induction rest generalizing s with
  | nil => exact ⟨List.mem_cons_self, fun t ht => by rw [List.mem_singleton.mp ht]; exact le_refl _⟩
  | cons next rest ih =>
    obtain ⟨hmem, hleast⟩ := ih (stricter s next)
    rw [List.foldl_cons]
    constructor
    · rcases List.mem_cons.mp hmem with hkept | hlater
      · rw [hkept]
        rcases stricter_eq_or s next with heq | heq <;> rw [heq] <;> simp
      · exact List.mem_cons_of_mem _ (List.mem_cons_of_mem _ hlater)
    · have hboth := hleast _ List.mem_cons_self
      rw [rank_stricter, max_le_iff] at hboth
      exact List.forall_mem_cons.mpr ⟨hboth.1, List.forall_mem_cons.mpr
        ⟨hboth.2, fun t ht => hleast t (List.mem_cons_of_mem _ ht)⟩⟩

theorem primary_mem {a : Analysis} (h : a.schemes ≠ []) : a.primary ∈ a.schemes := by
  obtain ⟨s, rest, hschemes⟩ := List.exists_cons_of_ne_nil h
  rw [primary, hschemes]
  exact (foldl_stricter s rest).1

theorem rank_le_primary {a : Analysis} {s : Scheme} (h : s ∈ a.schemes) : s.rank ≤ a.primary.rank := by
  obtain ⟨first, rest, hschemes⟩ := List.exists_cons_of_ne_nil (List.ne_nil_of_mem h)
  rw [primary, hschemes]
  rw [hschemes] at h
  exact (foldl_stricter first rest).2 s h

/-! ## Recording from the start -/

/-- An analysis without detections after some were recorded. -/
def recorded (start : Analysis) (calls : List Detection) : Analysis :=
  calls.foldl add { start with detected := [] }

theorem recorded_eq (start : Analysis) (calls : List Detection) :
    start.recorded calls = { start with detected := firstOfEach calls } := by
  rw [recorded, foldl_add]
  exact congrArg (fun ds => { start with detected := ds }) (firsts_nil_eq calls)

theorem schemes_recorded (start : Analysis) (calls : List Detection) :
    (start.recorded calls).schemes = (firsts [] calls).map (·.scheme) := by
  rw [recorded_eq, schemes, firsts_nil_eq]

theorem mem_schemes_recorded {start : Analysis} {calls : List Detection} {s : Scheme} :
    s ∈ (start.recorded calls).schemes ↔ ∃ d ∈ calls, d.scheme = s := by
  rw [schemes_recorded, mem_schemes_firsts, and_iff_right List.not_mem_nil, List.mem_map]

/-- No scheme is recorded twice. -/
theorem nodup_schemes_recorded (start : Analysis) (calls : List Detection) :
    (start.recorded calls).schemes.Nodup := by
  rw [schemes_recorded]
  exact nodup_schemes_firsts [] calls

/-- The schemes on record are the same for any order of the calls, but for their own order. -/
theorem schemes_recorded_perm (start : Analysis) {calls others : List Detection} (h : calls.Perm others) :
    (start.recorded calls).schemes.Perm (start.recorded others).schemes := by
  refine (List.perm_ext_iff_of_nodup (nodup_schemes_recorded start calls)
    (nodup_schemes_recorded start others)).mpr fun s => ?_
  rw [mem_schemes_recorded, mem_schemes_recorded]
  exact exists_congr fun d => and_congr_left fun _ => h.mem_iff

/-- Whether what is on record is told by the calls: of every scheme the first of them, and as the most
restrictive scheme the one that is declared last. -/
structure HoldsFirsts (a : Analysis) (calls : List Detection) : Prop where
  detected : a.detected = firstOfEach calls
  has : ∀ s, a.has s = true ↔ ∃ d ∈ calls, d.scheme = s
  bounded : a.detected.length ≤ Scheme.all.length
  untouched : calls = [] → a.primary = .unprotected
  primary : calls ≠ [] → (∃ d ∈ calls, d.scheme = a.primary) ∧
    ∀ d ∈ calls, d.scheme ≠ a.primary → Scheme.all.idxOf d.scheme < Scheme.all.idxOf a.primary

theorem holdsFirsts_recorded (start : Analysis) (calls : List Detection) :
    (start.recorded calls).HoldsFirsts calls where
  detected := by rw [recorded_eq]
  has := fun s => List.contains_iff_mem.trans mem_schemes_recorded
  bounded := by
    rw [← List.length_map (·.scheme)]
    exact Scheme.length_le_length_all (nodup_schemes_recorded start calls)
  untouched := by
    rintro rfl
    rfl
  primary := by
    intro hcalls
    obtain ⟨d, hd⟩ := List.exists_mem_of_ne_nil calls hcalls
    have hsome : (start.recorded calls).schemes ≠ [] :=
      List.ne_nil_of_mem (mem_schemes_recorded.mpr ⟨d, hd, rfl⟩)
    refine ⟨mem_schemes_recorded.mp (primary_mem hsome), fun e he hne => ?_⟩
    rw [← Scheme.rank_eq_idxOf, ← Scheme.rank_eq_idxOf]
    have hmem : e.scheme ∈ (start.recorded calls).schemes := mem_schemes_recorded.mpr ⟨e, he, rfl⟩
    exact lt_of_le_of_ne (rank_le_primary hmem) fun heq => hne (Scheme.rank_injective heq)

/-- Recording detections, with the same schemes again and again and with any evidence, keeps the first of
every scheme and nothing else. The most restrictive scheme does not depend on the order. -/
theorem recorded_holdsFirsts (start : Analysis) (calls : List Detection) :
    start.recorded calls = { start with detected := firstOfEach calls } ∧
      (start.recorded calls).HoldsFirsts calls ∧
      ∀ others : List Detection, others.Perm calls →
        (start.recorded others).primary = (start.recorded calls).primary :=
  ⟨recorded_eq start calls, holdsFirsts_recorded start calls,
    fun _ h => primary_congr (schemes_recorded_perm start h)⟩

end Analysis

end PeSignals.Protection
