import Mathlib
import PeSignals.Proofs.Files.Resolve
import PeSignals.Proofs.Files.Walk

/-!
# Detours

A path may go down into a directory and up again as often as one likes, so there are paths of every length to
one directory. With enough detours the path of a directory can be looked up and that of its subdirectory
cannot, and then a walk does not get to what stands there.
-/
namespace PeSignals.Files

/-- A directory spelled with `k` detours through itself. -/
def detour (k : Nat) : List String := (List.replicate k ["g", ".."]).flatten ++ ["g"]

theorem detour_succ (k : Nat) : detour (k + 1) = "g" :: ".." :: detour k := rfl

theorem exists_cons_detour (k : Nat) : ∃ rest, detour k = "g" :: rest := by
  cases k with
  | zero => exact ⟨[], rfl⟩
  | succ k => exact ⟨_, detour_succ k⟩

theorem detour_ne_nil (k : Nat) : detour k ≠ [] := by
  obtain ⟨rest, hrest⟩ := exists_cons_detour k
  rw [hrest]
  exact List.cons_ne_nil _ _

theorem mem_detour {k : Nat} {name : String} (h : name ∈ detour k) : name = "g" ∨ name = ".." := by
  induction k with
  | zero => exact .inl (List.mem_singleton.mp h)
  | succ k ih =>
    rw [detour_succ, List.mem_cons, List.mem_cons] at h
    rcases h with rfl | rfl | hrest
    · exact .inl rfl
    · exact .inr rfl
    · exact ih hrest

/-- No name on a detour holds a slash, so the path is read back as it was joined. -/
theorem partsOf_detour (k : Nat) : partsOf ("/".intercalate (detour k)) = detour k := by
  refine partsOf_intercalate (fun name hname => ?_) (detour_ne_nil k)
  rcases mem_detour hname with rfl | rfl <;> decide

/-! ## The spelling of a detour -/

theorem intercalate_detour_succ (k : Nat) :
    "/".intercalate (detour (k + 1)) = "g/../" ++ "/".intercalate (detour k) := by
  obtain ⟨rest, hrest⟩ := exists_cons_detour k
  have hfirst : "g/../" = "g" ++ ("/" ++ (".." ++ "/")) := by decide
  rw [detour_succ, hrest, String.intercalate_cons_cons, String.intercalate_cons_cons, hfirst]
  simp only [String.append_assoc]

/-- Each turn of a detour lengthens the path by five bytes. -/
theorem utf8ByteSize_detour (k : Nat) : ("/".intercalate (detour k)).utf8ByteSize = 5 * k + 1 := by
  induction k with
  | zero => rfl
  | succ k ih =>
    have hfirst : "g/../".utf8ByteSize = 5 := by decide
    rw [intercalate_detour_succ, String.utf8ByteSize_append, ih]
    omega

theorem contains_nul_detour (k : Nat) : ("/".intercalate (detour k)).toList.contains '\x00' = false := by
  induction k with
  | zero => decide
  | succ k ih =>
    rw [intercalate_detour_succ, String.toList_append, List.contains_append, ih]
    decide

theorem anchorOf_detour (k : Nat) : Path.anchorOf ("/".intercalate (detour k)) = "" := by
  cases k with
  | zero => decide
  | succ k =>
    have hfirst : "g/../".toList = ['g', '/', '.', '.', '/'] := by decide
    rw [intercalate_detour_succ, Path.anchorOf, String.toList_append, hfirst]
    rfl

/-- The path of the directory, as it is spelled with detours. -/
def detourPath (k : Nat) : Path := ⟨"", detour k⟩

theorem text_detourPath_append (k : Nat) (names : List String) :
    ((detourPath k).append names).text = "/".intercalate (detour k ++ names) := by
  have hsome : detour k ++ names ≠ [] := List.append_ne_nil_of_left_ne_nil (detour_ne_nil k) names
  rw [Path.text, if_neg fun h => hsome h.2]
  exact String.empty_append

theorem text_detourPath (k : Nat) : (detourPath k).text = "/".intercalate (detour k) := by
  have h := text_detourPath_append k []
  rwa [List.append_nil, Path.append, detourPath, List.append_nil] at h

theorem utf8ByteSize_text_detourPath (k : Nat) : (detourPath k).text.utf8ByteSize = 5 * k + 1 := by
  rw [text_detourPath, utf8ByteSize_detour]

/-- A detour is read back as it is spelled. -/
theorem ofText_text_detourPath (k : Nat) : Path.ofText (detourPath k).text = detourPath k := by
  have hkept : (detour k).filter (fun part => part ≠ "" && part ≠ ".") = detour k := by
    refine List.filter_eq_self.mpr fun name hname => ?_
    rcases mem_detour hname with rfl | rfl <;> decide
  rw [text_detourPath, Path.ofText, anchorOf_detour, partsOf_detour, hkept, detourPath]

/-! ## Where a detour leads -/

/-- Whether a tree has the directory of the detours at its top, where paths start. -/
structure FileTree.HasDetours (t : FileTree) : Prop where
  rooted : t.root = ""
  working : t.working = []
  placed : t.placeAt? ["g"] = some (.directory ["g"])

namespace FileTree.HasDetours

variable {t : FileTree} (h : t.HasDetours)

include h

theorem foldlM_step (k : Nat) :
    (detour k).foldlM (fun place name => t.step name place) (.directory []) = .ok (.directory ["g"]) := by
  have hdown : t.step "g" (.directory []) = .ok (.directory ["g"]) := by
    have hplain : ¬ maximumNameSize < "g".utf8ByteSize := by decide
    rw [step, if_neg (by decide), if_neg (by decide), if_neg hplain, List.nil_append, h.placed]
  have hup : t.step ".." (.directory ["g"]) = .ok (.directory []) := by
    rw [step, if_neg (by decide), if_pos rfl]
    rfl
  induction k with
  | zero =>
    rw [detour, List.replicate_zero, List.flatten_nil, List.nil_append, List.foldlM_cons, hdown]
    rfl
  | succ k ih =>
    rw [detour_succ, List.foldlM_cons, hdown]
    change ((".." :: detour k).foldlM (fun place name => t.step name place) (.directory ["g"])) = _
    rw [List.foldlM_cons, hup]
    exact ih

/-- However long it is, a detour ends in the same directory. -/
theorem follow (k : Nat) : t.follow (detour k) = .ok (.directory ["g"]) := by
  obtain ⟨rest, hrest⟩ := exists_cons_detour k
  have htop : (partsOf t.root).isPrefixOf (detour k) = false := by
    rw [h.rooted, hrest]
    rfl
  have hhead : (detour k).head? ≠ some "" := by
    rw [hrest]
    exact fun h => absurd (Option.some.inj h) (by decide)
  rw [FileTree.follow, htop, if_neg Bool.false_ne_true, if_neg hhead, h.working]
  exact h.foldlM_step k

theorem find {k : Nat} (hshort : 5 * k + 1 < pathSizeLimit) :
    t.find (detourPath k).text = .ok (.directory ["g"]) := by
  have hsize := utf8ByteSize_detour k
  have hsome : "/".intercalate (detour k) ≠ "" := by
    intro hempty
    rw [hempty, String.utf8ByteSize_empty] at hsize
    omega
  have hlong : ¬ pathSizeLimit ≤ ("/".intercalate (detour k)).utf8ByteSize := by
    rw [hsize]
    exact Nat.not_le.mpr hshort
  rw [FileTree.find, text_detourPath, contains_nul_detour, resolve_eq_follow hsome hlong, partsOf_detour,
    h.follow]
  rfl

theorem isDirectory {k : Nat} (hshort : 5 * k + 1 < pathSizeLimit) :
    t.isDirectory (detourPath k).text = .ok true := by
  rw [FileTree.isDirectory, probe, h.find hshort]
  rfl

end FileTree.HasDetours

/-! ## What stands too deep -/

/-- A file in a subdirectory of the directory of the detours. -/
def deepTree (name : String) : FileTree where
  files := [(["g", "subdir", name], ⟨#[0]⟩)]
  directories := [["g"], ["g", "subdir"]]

theorem hasDetours_deepTree (name : String) : (deepTree name).HasDetours where
  rooted := rfl
  working := rfl
  placed := by
    have habsent : (deepTree name).fileAt? ["g"] = none := rfl
    rw [FileTree.placeAt?, habsent]
    rfl

theorem nodup_deepTree (name : String) : ((deepTree name).files.map Prod.fst).Nodup :=
  List.nodup_singleton _

/-- The file, which stands below the directory however that is spelled. -/
def deepFile {k : Nat} (name : String) (h : 5 * k + 1 < pathSizeLimit) :
    FileBelow (deepTree name) (detourPath k) where
  directory := ["g"]
  relative := ["subdir", name]
  bytes := ⟨#[0]⟩
  found := (hasDetours_deepTree name).find h
  proper := List.cons_ne_nil _ _
  stands := List.mem_singleton.mpr rfl

/-- Behind a long detour the path of a subdirectory is too long, although the tree is shallow. -/
theorem not_isReached_deep {k : Nat} (hlong : pathSizeLimit ≤ 5 * k + 7) (name : String) :
    isReached (detourPath k) ["subdir", name] = false := by
  have hsubdir : "subdir".utf8ByteSize = 6 := by decide
  have hsize := utf8ByteSize_le_joined (detourPath k).text "subdir"
  rw [utf8ByteSize_text_detourPath, hsubdir] at hsize
  exact decide_eq_false (not_lt.mpr (hlong.trans hsize))

/-- With enough detours a walk does not get to it. -/
theorem walk_deepTree {k : Nat} (hshort : 5 * k + 1 < pathSizeLimit) (hlong : pathSizeLimit ≤ 5 * k + 7)
    (name : String) : (deepTree name).walk (detourPath k) = [] := by
  have hbelow : (deepTree name).filesBelow ["g"] = [(["subdir", name], ⟨#[0]⟩)] := List.mergeSort_singleton _
  rw [walk_of_directory ((hasDetours_deepTree name).find hshort), hbelow]
  simp only [List.filter_cons, not_isReached_deep hlong name, Bool.false_eq_true, if_false, List.filter_nil,
    List.map_nil]

end PeSignals.Files
