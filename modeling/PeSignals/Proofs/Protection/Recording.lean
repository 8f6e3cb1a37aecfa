import Mathlib
import PeSignals.Protection.Signals

/-!
# What an analysis records

The first detection of a scheme is recorded and all later ones are passed over, so what signals add to an
analysis depends on what it held before only through its schemes. Adding signals one after the other is
adding all of them at once.
-/
namespace PeSignals.Protection

/-! ## First detections -/

/-- The detections of schemes that were not seen before, each at its first place. -/
def firsts (seen : List Scheme) : List Detection → List Detection
  | [] => []
  | d :: rest =>
    if d.scheme ∈ seen then firsts seen rest else d :: firsts (seen ++ [d.scheme]) rest

theorem firsts_sublist (seen : List Scheme) (ds : List Detection) : (firsts seen ds).Sublist ds := by
  induction ds generalizing seen with
  | nil => exact List.Sublist.slnil
  | cons d rest ih =>
    rw [firsts]
    split_ifs
    · exact (ih seen).cons d
    · exact (ih _).cons_cons d

/-- What is passed over was seen before, so to later detections only what is kept is new. -/
theorem firsts_append (seen : List Scheme) (ds more : List Detection) :
    firsts seen (ds ++ more) =
      firsts seen ds ++ firsts (seen ++ (firsts seen ds).map (·.scheme)) more := by
  induction ds generalizing seen with
  | nil => simp only [firsts, List.nil_append, List.map_nil, List.append_nil]
  | cons d rest ih =>
    rw [List.cons_append, firsts, firsts]
    split_ifs
    · exact ih seen
    · rw [ih, List.cons_append, List.map_cons, List.append_assoc, List.singleton_append]

theorem mem_schemes_firsts {seen : List Scheme} {ds : List Detection} {s : Scheme} :
    s ∈ (firsts seen ds).map (·.scheme) ↔ s ∉ seen ∧ s ∈ ds.map (·.scheme) := by
  induction ds generalizing seen with
  | nil => simp [firsts]
  | cons d rest ih =>
    rw [firsts]
    split_ifs with hseen
    · rw [ih, List.map_cons, List.mem_cons]
      have hne (hs : s ∉ seen) : s ≠ d.scheme := fun h => hs (h ▸ hseen)
      tauto
    · rw [List.map_cons, List.map_cons, List.mem_cons, List.mem_cons, ih, List.mem_append,
        List.mem_singleton]
      by_cases hs : s = d.scheme
      · simp only [hs, hseen, true_or, not_false_eq_true, and_self]
      · simp only [hs, or_false, false_or]

theorem nodup_schemes_firsts (seen : List Scheme) (ds : List Detection) :
    ((firsts seen ds).map (·.scheme)).Nodup := by
  induction ds generalizing seen with
  | nil => exact List.nodup_nil
  | cons d rest ih =>
    rw [firsts]
    split_ifs
    · exact ih seen
    · refine List.nodup_cons.mpr ⟨fun hagain => ?_, ih _⟩
      exact (mem_schemes_firsts.mp hagain).1 (List.mem_append_right seen List.mem_cons_self)

namespace Analysis

theorem add_eq (a : Analysis) (d : Detection) :
    a.add d = { a with detected := a.detected ++ firsts a.schemes [d] } := by
  have hhas : a.has d.scheme = true ↔ d.scheme ∈ a.schemes := List.contains_iff_mem
  by_cases h : d.scheme ∈ a.schemes
  · simp only [add, firsts, hhas, h, if_true, List.append_nil]
  · simp only [add, firsts, hhas, h, if_false]

theorem foldl_add (a : Analysis) (ds : List Detection) :
    ds.foldl add a = { a with detected := a.detected ++ firsts a.schemes ds } := by
  induction ds generalizing a with
  | nil => simp only [List.foldl_nil, firsts, List.append_nil]
  | cons d rest ih =>
    rw [List.foldl_cons, ih, add_eq]
    change _ = { a with detected := a.detected ++ firsts a.schemes ([d] ++ rest) }
    rw [firsts_append]
    simp only [schemes, List.map_append, List.append_assoc]

/-- What signals add. Of what was recorded before only the schemes matter. -/
theorem absorb_eq (a : Analysis) (s : Signals) :
    a.absorb s = { a with
      detected := a.detected ++ firsts a.schemes s.detections
      notes := a.notes ++ s.notes
      steamPaths := a.steamPaths ++ s.steamPaths
      steamworks := a.steamworks || s.steamworks
      online := a.online || s.online
      launcher := a.launcher || s.launcher } := by
  rw [absorb, foldl_add]

theorem schemes_absorb (a : Analysis) (s : Signals) :
    (a.absorb s).schemes = a.schemes ++ (firsts a.schemes s.detections).map (·.scheme) := by
  rw [absorb_eq, schemes, schemes, List.map_append]

theorem mem_schemes_absorb {a : Analysis} {s : Signals} {scheme : Scheme} :
    scheme ∈ (a.absorb s).schemes ↔
      scheme ∈ a.schemes ∨ scheme ∈ s.detections.map (·.scheme) := by
  rw [schemes_absorb, List.mem_append, mem_schemes_firsts]
  tauto

theorem nodup_schemes_absorb {a : Analysis} (h : a.schemes.Nodup) (s : Signals) :
    (a.absorb s).schemes.Nodup := by
  rw [schemes_absorb, List.nodup_append]
  refine ⟨h, nodup_schemes_firsts _ _, ?_⟩
  rintro scheme hold _ hnew rfl
  exact (mem_schemes_firsts.mp hnew).1 hold

end Analysis

/-! ## Signals together -/

namespace Signals

def followedBy (s next : Signals) : Signals where
  detections := s.detections ++ next.detections
  notes := s.notes ++ next.notes
  steamPaths := s.steamPaths ++ next.steamPaths
  steamworks := s.steamworks || next.steamworks
  online := s.online || next.online
  launcher := s.launcher || next.launcher

def join (all : List Signals) : Signals where
  detections := all.flatMap (·.detections)
  notes := all.flatMap (·.notes)
  steamPaths := all.flatMap (·.steamPaths)
  steamworks := all.any (·.steamworks)
  online := all.any (·.online)
  launcher := all.any (·.launcher)

theorem join_cons (s : Signals) (rest : List Signals) : join (s :: rest) = s.followedBy (join rest) := rfl

end Signals

namespace Analysis

/-- Signals can be joined before they are absorbed. -/
theorem absorb_absorb (a : Analysis) (s next : Signals) :
    (a.absorb s).absorb next = a.absorb (s.followedBy next) := by
  rw [absorb_eq, schemes_absorb, absorb_eq, absorb_eq, Signals.followedBy, firsts_append]
  simp only [List.append_assoc, Bool.or_assoc]

theorem absorb_empty (a : Analysis) : a.absorb {} = a := by
  simp only [absorb_eq, firsts, List.append_nil, Bool.or_false]

theorem foldl_absorb (a : Analysis) (all : List Signals) :
    all.foldl absorb a = a.absorb (.join all) := by
  induction all generalizing a with
  | nil => exact a.absorb_empty.symm
  | cons s rest ih => rw [List.foldl_cons, ih, absorb_absorb, Signals.join_cons]

end Analysis

end PeSignals.Protection
