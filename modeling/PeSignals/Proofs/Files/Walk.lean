import Mathlib
import PeSignals.Files.Walk
import PeSignals.Proofs.Text.SortedSet

/-!
# The files that a walk meets

A walk meets exactly the files that stand somewhere below its directory, in directories that can be listed, each
under a path of its own. It meets them in walk order, whatever the order is in which the file system lists its
directories.
-/
namespace PeSignals.Files

variable {t : FileTree} {root : Path}

/-- A file that stands somewhere below the directory at a path. -/
structure FileBelow (t : FileTree) (root : Path) where
  directory : Location
  relative : Location
  bytes : ByteArray
  found : t.find root.text = .ok (.directory directory)
  proper : relative ≠ []
  stands : (directory ++ relative, bytes) ∈ t.files

namespace FileBelow

def name (f : FileBelow t root) : String := f.relative.getLast f.proper

/-- A file below a directory with the path that leads to it from there. -/
def spelled (f : FileBelow t root) : FoundFile := ⟨root.append f.relative, f.bytes⟩

end FileBelow

/-- A file that stands in a directory which a walk can list: the path of that directory, as the walk spells it,
is short enough. -/
structure MetFile (t : FileTree) (root : Path) extends FileBelow t root where
  reached : (walked root relative.dropLast).utf8ByteSize < pathSizeLimit

/-! ## Spelled directories -/

theorem utf8ByteSize_le_joined (path name : String) :
    path.utf8ByteSize + name.utf8ByteSize ≤ (joined path name).utf8ByteSize := by
  rw [joined]
  split_ifs
  · rw [String.utf8ByteSize_append]
  · rw [String.utf8ByteSize_append, String.utf8ByteSize_append]
    omega

/-- Deeper directories have longer paths, so what a walk leaves out has nothing below it that is met. -/
theorem utf8ByteSize_walked_le (root : Path) {names more : List String} (h : names <+: more) :
    (walked root names).utf8ByteSize ≤ (walked root more).utf8ByteSize := by
  obtain ⟨rest, rfl⟩ := h
  induction rest using List.reverseRecOn with
  | nil => rw [List.append_nil]
  | append_singleton rest name ih =>
    rw [← List.append_assoc, walked, walked, List.foldl_append (l := names ++ rest)]
    exact ih.trans ((Nat.le_add_right _ _).trans (utf8ByteSize_le_joined _ name))

/-- A walk gets to a location exactly if it can list every directory on the way there. -/
theorem isReached_iff {relative : Location} :
    isReached root relative = true ↔
      ∀ names, names <+: relative.dropLast → (walked root names).utf8ByteSize < pathSizeLimit := by
  rw [isReached, decide_eq_true_eq]
  constructor
  · intro h names hnames
    exact (utf8ByteSize_walked_le root hnames).trans_lt h
  · intro h
    exact h _ (List.prefix_refl _)

/-! ## Files below a directory -/

theorem below?_eq_some {directory location relative : Location} :
    below? directory location = some relative ↔ location = directory ++ relative ∧ relative ≠ [] := by
  rw [below?]
  constructor
  · intro h
    split_ifs at h with hbelow
    obtain ⟨habove, hlength⟩ := (Bool.and_eq_true _ _).mp hbelow
    obtain ⟨rest, rfl⟩ := List.isPrefixOf_iff_prefix.mp habove
    rw [List.drop_left] at h
    obtain rfl := Option.some.inj h
    refine ⟨rfl, List.ne_nil_of_length_pos ?_⟩
    rw [decide_eq_true_eq, List.length_append] at hlength
    omega
  · rintro ⟨rfl, hproper⟩
    have hlength := List.length_pos_iff.mpr hproper
    rw [if_pos, List.drop_left]
    rw [Bool.and_eq_true, List.isPrefixOf_iff_prefix, decide_eq_true_eq, List.length_append]
    exact ⟨List.prefix_append _ _, by omega⟩

theorem mem_filesBelow {directory relative : Location} {bytes : ByteArray} :
    (relative, bytes) ∈ t.filesBelow directory ↔
      (directory ++ relative, bytes) ∈ t.files ∧ relative ≠ [] := by
  rw [FileTree.filesBelow, List.mem_mergeSort, List.mem_filterMap]
  constructor
  · rintro ⟨⟨location, stored⟩, hmem, hfound⟩
    obtain ⟨seen, hseen, hpair⟩ := Option.map_eq_some_iff.mp hfound
    obtain ⟨rfl, rfl⟩ := Prod.mk.inj hpair
    obtain ⟨rfl, hproper⟩ := below?_eq_some.mp hseen
    exact ⟨hmem, hproper⟩
  · rintro ⟨hmem, hproper⟩
    exact ⟨_, hmem, Option.map_eq_some_iff.mpr ⟨relative, below?_eq_some.mpr ⟨rfl, hproper⟩, rfl⟩⟩

theorem Path.append_injective (p : Path) : Function.Injective p.append := fun _ _ h =>
  List.append_cancel_left (Path.mk.inj h).2

theorem name_append (root : Path) {names : List String} (h : names ≠ []) :
    (root.append names).name = names.getLast h := by
  rw [Path.name, Path.append, List.getLast?_append_of_ne_nil _ h, List.getLast?_eq_some_getLast h]
  rfl

theorem FileBelow.name_spelled (f : FileBelow t root) : f.spelled.name = f.name :=
  name_append root f.proper

theorem walk_of_directory {directory : Location} (h : t.find root.text = .ok (.directory directory)) :
    t.walk root = ((t.filesBelow directory).filter fun file => isReached root file.1).map
      fun file => ⟨root.append file.1, file.2⟩ := by
  rw [FileTree.walk, h]

/-- A walk meets the files below its directory that it gets to, and no others. -/
theorem mem_walk {f : FoundFile} : f ∈ t.walk root ↔ ∃ g : MetFile t root, g.spelled = f := by
  constructor
  · intro h
    cases hfound : t.find root.text with
    | error problem =>
      rw [FileTree.walk, hfound] at h
      exact absurd h List.not_mem_nil
    | ok place =>
      cases place with
      | directory directory =>
        rw [walk_of_directory hfound] at h
        obtain ⟨⟨relative, bytes⟩, hmem, rfl⟩ := List.mem_map.mp h
        obtain ⟨hmem, hreached⟩ := List.mem_filter.mp hmem
        obtain ⟨hstands, hproper⟩ := mem_filesBelow.mp hmem
        exact ⟨⟨⟨directory, relative, bytes, hfound, hproper, hstands⟩, of_decide_eq_true hreached⟩, rfl⟩
      | file | above =>
        rw [FileTree.walk, hfound] at h
        exact absurd h List.not_mem_nil
  · rintro ⟨g, rfl⟩
    rw [walk_of_directory g.found]
    have hmem : (g.relative, g.bytes) ∈ t.filesBelow g.directory := mem_filesBelow.mpr ⟨g.stands, g.proper⟩
    exact List.mem_map_of_mem (List.mem_filter.mpr ⟨hmem, decide_eq_true g.reached⟩)

theorem exists_mem_walk (P : String → Prop) :
    (∃ f ∈ t.walk root, P f.name) ↔ ∃ f : MetFile t root, P f.name := by
  constructor
  · rintro ⟨f, hf, hP⟩
    obtain ⟨g, rfl⟩ := mem_walk.mp hf
    exact ⟨g, g.name_spelled ▸ hP⟩
  · rintro ⟨g, hP⟩
    exact ⟨g.spelled, mem_walk.mpr ⟨g, rfl⟩, g.name_spelled.symm ▸ hP⟩

/-! ## Walk order -/

/-- Whether every directory is listed in some order of its entries. -/
structure IsListing (lists : Location → String → String → Bool) : Prop where
  total : ∀ directory a b, (lists directory a b || lists directory b a) = true
  trans : ∀ directory a b c, lists directory a b = true → lists directory b c = true →
    lists directory a c = true
  antisymm : ∀ directory a b, lists directory a b = true → lists directory b a = true → a = b

/-- Code-point order is one of the orders in which a directory may be listed. -/
theorem isListing_notAfter : IsListing fun _ => Text.notAfter where
  total _ a b := by
    rw [Bool.or_eq_true, Text.notAfter_iff, Text.notAfter_iff]
    exact le_total a b
  trans _ a b c hab hbc :=
    Text.notAfter_iff.mpr ((Text.notAfter_iff.mp hab).trans (Text.notAfter_iff.mp hbc))
  antisymm _ a b hab hba := le_antisymm (Text.notAfter_iff.mp hab) (Text.notAfter_iff.mp hba)

section Order

variable {lists : Location → String → String → Bool} (h : IsListing lists)

include h

theorem walksBefore_total (directory as bs : Location) :
    (walksBefore lists directory as bs || walksBefore lists directory bs as) = true := by
  induction as generalizing bs directory with
  | nil => simp only [walksBefore, Bool.true_or]
  | cons a as ih =>
    rcases as with - | ⟨a', as⟩ <;> rcases bs with - | ⟨b, - | ⟨b', bs⟩⟩ <;>
      simp only [walksBefore, Bool.true_or, Bool.or_true, h.total]
    -- Both go down into a directory, into the same one or into two of which one is listed first.
    rcases eq_or_ne a b with rfl | hne
    · simpa only [if_true] using ih (directory ++ [a]) (b' :: bs)
    · rw [if_neg hne, if_neg hne.symm]
      exact h.total directory a b

theorem walksBefore_trans {directory as bs cs : Location} (hab : walksBefore lists directory as bs = true)
    (hbc : walksBefore lists directory bs cs = true) : walksBefore lists directory as cs = true := by
  induction as generalizing bs cs directory with
  | nil => simp only [walksBefore]
  | cons a as ih =>
    rcases as with - | ⟨a', as⟩ <;> rcases bs with - | ⟨b, - | ⟨b', bs⟩⟩ <;>
      rcases cs with - | ⟨c, - | ⟨c', cs⟩⟩ <;> simp only [walksBefore, Bool.false_eq_true] at hab hbc ⊢
    · exact h.trans directory a b c hab hbc
    · rcases eq_or_ne a b with rfl | hleft
      · rcases eq_or_ne a c with rfl | hright
        · rw [if_pos rfl] at hab hbc ⊢
          exact ih hab hbc
        · rwa [if_neg hright] at hbc ⊢
      · rw [if_neg hleft] at hab
        rcases eq_or_ne b c with rfl | hright
        · rwa [if_neg hleft]
        · rw [if_neg hright] at hbc
          have hne : a ≠ c := by
            rintro rfl
            exact hleft (h.antisymm directory a b hab hbc)
          rw [if_neg hne]
          exact h.trans directory a b c hab hbc

end Order

/-- However the directories are listed, a walk meets their files in walk order. -/
theorem pairwise_filesBelow (h : IsListing t.lists) (directory : Location) :
    ((t.filesBelow directory).map Prod.fst).Pairwise fun as bs =>
      walksBefore t.lists directory as bs = true := by
  have htrans (a b c : Location × ByteArray) (hab : walksBefore t.lists directory a.1 b.1 = true)
      (hbc : walksBefore t.lists directory b.1 c.1 = true) : walksBefore t.lists directory a.1 c.1 = true :=
    walksBefore_trans h hab hbc
  rw [List.pairwise_map]
  exact List.pairwise_mergeSort htrans (fun a b => walksBefore_total h directory a.1 b.1) _

/-! ## Paths of found files -/

/-- Sorting a listing loses no file and adds none. -/
theorem map_fst_filesBelow_perm (t : FileTree) (directory : Location) :
    ((t.filesBelow directory).map Prod.fst).Perm ((t.files.map Prod.fst).filterMap (below? directory)) := by
  refine ((List.mergeSort_perm _ _).map Prod.fst).trans (.of_eq ?_)
  rw [List.map_filterMap, List.filterMap_map]
  refine List.filterMap_congr fun file _ => ?_
  rw [Option.map_map]
  exact Option.map_id'

/-- Files at different locations are found under different paths. -/
theorem nodup_walk (h : (t.files.map Prod.fst).Nodup) (root : Path) :
    ((t.walk root).map (·.path)).Nodup := by
  have hbelow (directory : Location) : ((t.filesBelow directory).map Prod.fst).Nodup := by
    refine (map_fst_filesBelow_perm t directory).nodup_iff.mpr (h.filterMap fun a b relative ha hb => ?_)
    rw [(below?_eq_some.mp ha).1, (below?_eq_some.mp hb).1]
  rw [FileTree.walk]
  split
  · next directory _ =>
    have hpaths (files : List (Location × ByteArray)) : (files.map fun file : Location × ByteArray =>
        ({ path := root.append file.1, bytes := file.2 } : FoundFile)).map (·.path) =
          (files.map Prod.fst).map root.append := by
      rw [List.map_map, List.map_map]
      rfl
    rw [hpaths]
    exact ((hbelow directory).sublist (List.filter_sublist.map _)).map root.append_injective
  · exact List.nodup_nil

end PeSignals.Files
