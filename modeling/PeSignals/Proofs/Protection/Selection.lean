import Mathlib
import PeSignals.Proofs.Files.Detour
import PeSignals.Proofs.Files.Walk
import PeSignals.Proofs.Text.Fragment
import PeSignals.Protection.Survey

/-!
# Which executables are selected

The executables of a directory are ordered by size, and the first of them are selected with all launchers
behind the cut. The loop that adds the launchers looks for each file among those that are selected already;
because no two files have one path, it adds each launcher behind the cut once.
-/
namespace PeSignals.Protection

open Files (FileBelow FileTree FoundFile MetFile Path detourPath)

/-! ## Candidates -/

/-- Whether a file is an executable and its name not that of a helper. -/
structure IsCandidate (f : FoundFile) : Prop where
  executable : ".exe".toList <:+ (lowerName f).toList
  fragments : ∀ fragment ∈ Signature.helperFragments, ¬ fragment.toList <:+: (lowerName f).toList
  beginnings : ∀ beginning ∈ Signature.helperBeginnings, ¬ beginning.toList <+: (lowerName f).toList

theorem isGameExecutable_iff {f : FoundFile} :
    Signature.isGameExecutable (lowerName f) = true ↔ IsCandidate f := by
  rw [Signature.isGameExecutable, Signature.isHelper, Signature.holdsAny, Bool.and_eq_true,
    Text.closesWith_iff, Bool.not_eq_true', Bool.or_eq_false_iff, List.any_eq_false, List.any_eq_false]
  constructor
  · rintro ⟨hsuffix, hfragments, hbeginnings⟩
    exact ⟨hsuffix, fun fragment hmem hfound => hfragments fragment hmem (Text.holds_iff.mpr hfound),
      fun beginning hmem hfound => hbeginnings beginning hmem (Text.opensWith_iff.mpr hfound)⟩
  · rintro ⟨hsuffix, hfragments, hbeginnings⟩
    exact ⟨hsuffix, fun fragment hmem hfound => hfragments fragment hmem (Text.holds_iff.mp hfound),
      fun beginning hmem hfound => hbeginnings beginning hmem (Text.opensWith_iff.mp hfound)⟩

instance : DecidablePred IsCandidate := fun _ => decidable_of_iff _ isGameExecutable_iff

/-- The candidates among the files that a walk meets, in walk order. -/
def candidates (t : FileTree) (root : Path) : List FoundFile :=
  (t.walk root).filter fun f => IsCandidate f

theorem mem_candidates {t : FileTree} {root : Path} {f : FoundFile} :
    f ∈ candidates t root ↔ IsCandidate f ∧ ∃ g : MetFile t root, g.spelled = f := by
  rw [candidates, List.mem_filter, decide_eq_true_eq, Files.mem_walk, and_comm]

/-! ## Orders by size -/

/-- An order of files by size, largest first, that keeps files of one size in the order they had. -/
structure IsBySize (files ordered : List FoundFile) : Prop where
  perm : ordered.Perm files
  falling : ordered.Pairwise fun f g => reportedSize g ≤ reportedSize f
  stable : ∀ size, (ordered.filter fun f => reportedSize f = size) =
    files.filter fun f => reportedSize f = size

theorem isBySize_mergeSort (files : List FoundFile) :
    IsBySize files (files.mergeSort fun f g => reportedSize g ≤ reportedSize f) := by
  let le : FoundFile → FoundFile → Bool := fun f g => reportedSize g ≤ reportedSize f
  have htrans (f g h : FoundFile) (hfg : le f g = true) (hgh : le g h = true) : le f h = true :=
    decide_eq_true ((of_decide_eq_true hgh).trans (of_decide_eq_true hfg))
  have htotal (f g : FoundFile) : (le f g || le g f) = true := by
    simp only [le, Bool.or_eq_true, decide_eq_true_eq]
    exact le_total _ _
  have hperm : (files.mergeSort le).Perm files := List.mergeSort_perm files le
  refine ⟨hperm, ?_, fun size => ?_⟩
  · exact (List.pairwise_mergeSort htrans htotal files).imp fun h => of_decide_eq_true h
  · -- Files of one size are in order as they stand, so they stand so in the sorted list, where there are
    -- no others of that size.
    have hsame : (files.filter fun f => reportedSize f = size).Pairwise fun f g => le f g = true := by
      refine List.pairwise_of_forall_mem_list fun f hf g hg => decide_eq_true ?_
      rw [of_decide_eq_true (List.mem_filter.mp hf).2, of_decide_eq_true (List.mem_filter.mp hg).2]
    have hkept := (List.sublist_mergeSort htrans htotal hsame List.filter_sublist).filter
      fun f => reportedSize f = size
    simp only [List.filter_filter, Bool.and_self] at hkept
    exact (hkept.eq_of_length (hperm.filter _).length_eq.symm).symm

/-- The program's own order of the candidates is one by size. -/
theorem isBySize_bySize (t : FileTree) (root : Path) : IsBySize (candidates t root) (bySize (t.walk root)) := by
  have hcandidates : candidates t root =
      (t.walk root).filter fun f => Signature.isGameExecutable (lowerName f) :=
    List.filter_congr fun f _ => Bool.eq_iff_iff.mpr (by rw [decide_eq_true_eq, isGameExecutable_iff])
  rw [hcandidates]
  exact isBySize_mergeSort _

/-! ## The loop over launchers -/

theorem foldl_keepLauncher_of_mem {selected files : List FoundFile} (h : ∀ f ∈ files, f ∈ selected) :
    files.foldl keepLauncher selected = selected := by
  induction files with
  | nil => rfl
  | cons f rest ih =>
    have hkept : selected.any (·.path = f.path) = true :=
      List.any_eq_true.mpr ⟨f, h f List.mem_cons_self, decide_eq_true rfl⟩
    rw [List.foldl_cons, keepLauncher, hkept, Bool.not_true, Bool.and_false, if_neg Bool.false_ne_true]
    exact ih fun g hg => h g (List.mem_cons_of_mem f hg)

/-- Behind the cut every launcher is new, so the loop adds them all. -/
theorem foldl_keepLauncher {selected files : List FoundFile}
    (h : ((selected ++ files).map (·.path)).Nodup) :
    files.foldl keepLauncher selected = selected ++ files.filter isLauncher := by
  induction files generalizing selected with
  | nil => rw [List.foldl_nil, List.filter_nil, List.append_nil]
  | cons f rest ih =>
    have hnew : selected.any (·.path = f.path) = false := by
      rw [List.map_append, List.map_cons, List.nodup_append] at h
      refine List.any_eq_false.mpr fun g hg hsame => ?_
      exact h.2.2 g.path (List.mem_map_of_mem hg) f.path List.mem_cons_self (of_decide_eq_true hsame)
    rw [List.foldl_cons, keepLauncher, hnew, Bool.not_false, Bool.and_true]
    -- Either way no path is repeated in what is selected and still to come.
    by_cases hlauncher : isLauncher f = true
    · rw [if_pos hlauncher, ih, List.filter_cons_of_pos hlauncher, List.append_assoc]
      · rfl
      · rwa [List.append_assoc]
    · rw [if_neg hlauncher, ih, List.filter_cons_of_neg hlauncher]
      exact h.sublist (((List.sublist_cons_self f rest).append_left selected).map _)

theorem withinLimit_natCast (n : Nat) (items : List α) : withinLimit (some (n : Int)) items = items.take n := by
  rw [withinLimit, firstItems, if_neg (by omega), Int.toNat_natCast]

/-- Whatever the limit is, it cuts a list once. -/
theorem exists_cut (limit : Option Int) (items : List α) : ∃ n, withinLimit limit items = items.take n := by
  cases limit with
  | none => exact ⟨items.length, List.take_length.symm⟩
  | some n =>
    rw [withinLimit, firstItems]
    split_ifs
    · exact ⟨_, rfl⟩
    · exact ⟨_, rfl⟩

theorem selectExecutables_eq {ordered : List FoundFile} (h : (ordered.map (·.path)).Nodup) {limit : Option Int}
    {n : Nat} (hcut : withinLimit limit ordered = ordered.take n) :
    selectExecutables limit ordered = ordered.take n ++ (ordered.drop n).filter isLauncher := by
  have hsplit := List.take_append_drop n ordered
  rw [selectExecutables, hcut]
  calc ordered.foldl keepLauncher (ordered.take n)
      = (ordered.drop n).foldl keepLauncher ((ordered.take n).foldl keepLauncher (ordered.take n)) := by
        rw [← List.foldl_append, hsplit]
    _ = (ordered.drop n).foldl keepLauncher (ordered.take n) := by
        rw [foldl_keepLauncher_of_mem fun f hf => hf]
    _ = ordered.take n ++ (ordered.drop n).filter isLauncher :=
        foldl_keepLauncher (by rwa [hsplit])

/-! ## The selection -/

section Selection

variable {t : FileTree} {settings : Settings} {root : Path} {n : Nat}

/-- Distinct files have distinct paths, so an executable selected before is told by its path. -/
theorem nodup_path_of_isBySize (hdistinct : (t.files.map Prod.fst).Nodup) {ordered : List FoundFile}
    (h : IsBySize (candidates t root) ordered) : (ordered.map (·.path)).Nodup := by
  have hfound := Files.nodup_walk hdistinct root
  exact (h.perm.map _).nodup_iff.mpr (hfound.sublist (List.filter_sublist.map _))

theorem findExecutables_eq (hdistinct : (t.files.map Prod.fst).Nodup)
    (hroot : t.isDirectory root.text = .ok true)
    (hcut : withinLimit settings.maximumExecutables (bySize (t.walk root)) = (bySize (t.walk root)).take n) :
    let ordered := bySize (t.walk root)
    findExecutables t settings root =
      ⟨(ordered.take n ++ (ordered.drop n).filter isLauncher).map (·.path), []⟩ := by
  have hfiles : filesOf t root = .ok (t.walk root) := by rw [filesOf, hroot]
  have hpaths := nodup_path_of_isBySize hdistinct (isBySize_bySize t root)
  rw [findExecutables, hfiles]
  simp only [selectExecutables_eq hpaths hcut]

/-- Selecting keeps the order. -/
theorem sublist_selected (ordered : List FoundFile) (n : Nat) :
    (ordered.take n ++ (ordered.drop n).filter isLauncher).Sublist ordered := by
  conv_rhs => rw [← List.take_append_drop n ordered]
  exact List.filter_sublist.append_left _

/-- Whatever the limit is, what is found was met on the walk, and nothing is found twice. -/
theorem exists_findExecutables_eq (settings : Settings) (hdistinct : (t.files.map Prod.fst).Nodup)
    (hroot : t.isDirectory root.text = .ok true) :
    ∃ selected : List FoundFile, findExecutables t settings root = ⟨selected.map (·.path), []⟩ ∧
      (selected.map (·.path)).Nodup ∧ ∀ f ∈ selected, f ∈ t.walk root := by
  obtain ⟨n, hcut⟩ := exists_cut settings.maximumExecutables (bySize (t.walk root))
  have hordered := isBySize_bySize t root
  have hselected := sublist_selected (bySize (t.walk root)) n
  refine ⟨_, findExecutables_eq hdistinct hroot hcut, ?_, fun f hf => ?_⟩
  · exact (nodup_path_of_isBySize hdistinct hordered).sublist (hselected.map _)
  · exact (List.mem_filter.mp (hordered.perm.mem_iff.mp (hselected.subset hf))).1

/-- A launcher is selected wherever it stands in the order. -/
theorem mem_selected_of_isLauncher {ordered : List FoundFile} {f : FoundFile} (h : f ∈ ordered)
    (hlauncher : isLauncher f = true) :
    f ∈ ordered.take n ++ (ordered.drop n).filter isLauncher := by
  rw [← List.take_append_drop n ordered, List.mem_append] at h
  rcases h with hfirst | hbehind
  · exact List.mem_append_left _ hfirst
  · exact List.mem_append_right _ (List.mem_filter.mpr ⟨hbehind, hlauncher⟩)

/-- What is left out stands behind the cut, and what is no launcher is only selected before it. -/
theorem reportedSize_le_of_omitted {files ordered : List FoundFile} (h : IsBySize files ordered)
    {f g : FoundFile} (hf : f ∈ ordered)
    (homitted : f ∉ ordered.take n ++ (ordered.drop n).filter isLauncher)
    (hg : g ∈ ordered.take n ++ (ordered.drop n).filter isLauncher) (hplain : isLauncher g = false) :
    reportedSize f ≤ reportedSize g := by
  have hfalling := h.falling
  rw [← List.take_append_drop n ordered, List.pairwise_append] at hfalling
  rw [← List.take_append_drop n ordered, List.mem_append] at hf
  have hbehind : f ∈ ordered.drop n := hf.resolve_left fun hfirst => homitted (List.mem_append_left _ hfirst)
  have hfirst : g ∈ ordered.take n := by
    refine (List.mem_append.mp hg).resolve_right fun hkept => ?_
    rw [(List.mem_filter.mp hkept).2] at hplain
    cases hplain
  exact hfalling.2.2 g hfirst f hbehind

/-- The executables that are found below a directory, with a limit of `n`: of its candidates by size the
first `n`, and then the launchers among the others. Candidates are the executables in directories that can be
listed. So no path is found twice, every launcher is found, the sizes of what is found fall, and what is left out
is no larger than what was selected for its size. -/
theorem findExecutables_selects (hdistinct : (t.files.map Prod.fst).Nodup)
    (hroot : t.isDirectory root.text = .ok true) (hlimit : settings.maximumExecutables = some (n : Int)) :
    (∀ f, f ∈ candidates t root ↔ IsCandidate f ∧ ∃ g : MetFile t root, g.spelled = f) ∧
    ∃ ordered, IsBySize (candidates t root) ordered ∧
      let selected := ordered.take n ++ (ordered.drop n).filter isLauncher
      let found := findExecutables t settings root
      found = ⟨selected.map (·.path), []⟩ ∧ found.value.Nodup ∧
        (∀ f ∈ candidates t root, isLauncher f = true → f.path ∈ found.value) ∧
        selected.Pairwise (fun f g => reportedSize g ≤ reportedSize f) ∧
        ∀ f ∈ candidates t root, f.path ∉ found.value →
          ∀ g ∈ selected, isLauncher g = false → reportedSize f ≤ reportedSize g := by
  have hordered := isBySize_bySize t root
  have hpaths := nodup_path_of_isBySize hdistinct hordered
  have hmem {f : FoundFile} : f ∈ candidates t root ↔ f ∈ bySize (t.walk root) := hordered.perm.mem_iff.symm
  refine ⟨fun _ => mem_candidates, _, hordered, ?_⟩
  have hcut : withinLimit settings.maximumExecutables (bySize (t.walk root)) =
      (bySize (t.walk root)).take n := by rw [hlimit, withinLimit_natCast]
  simp only [findExecutables_eq hdistinct hroot hcut]
  refine ⟨trivial, hpaths.sublist ((sublist_selected _ n).map _), ?_, ?_, ?_⟩
  · intro f hf hlauncher
    exact List.mem_map_of_mem (mem_selected_of_isLauncher (hmem.mp hf) hlauncher)
  · exact hordered.falling.sublist (sublist_selected _ n)
  · intro f hf homitted g hg hplain
    exact reportedSize_le_of_omitted hordered (hmem.mp hf)
      (fun hselected => homitted (List.mem_map_of_mem hselected)) hg hplain

end Selection

/-- A game with two executables of one size, a smaller launcher and an installer. -/
def tiedGame : FileTree where
  files := [(["g", "b.exe"], ⟨#[1, 2]⟩), (["g", "a.exe"], ⟨#[3, 4]⟩), (["g", "launcher.exe"], ⟨#[5]⟩),
    (["g", "setup.exe"], ⟨#[6, 7, 8]⟩)]
  directories := [["g"]]

theorem findExecutables_selects_tiedGame :
    (∀ f, f ∈ candidates tiedGame ⟨"", ["g"]⟩ ↔
      IsCandidate f ∧ ∃ g : MetFile tiedGame ⟨"", ["g"]⟩, g.spelled = f) ∧
    ∃ ordered, IsBySize (candidates tiedGame ⟨"", ["g"]⟩) ordered ∧
      let selected := ordered.take 1 ++ (ordered.drop 1).filter isLauncher
      let found := findExecutables tiedGame { maximumExecutables := some 1 } ⟨"", ["g"]⟩
      found = ⟨selected.map (·.path), []⟩ ∧ found.value.Nodup ∧
        (∀ f ∈ candidates tiedGame ⟨"", ["g"]⟩, isLauncher f = true → f.path ∈ found.value) ∧
        selected.Pairwise (fun f g => reportedSize g ≤ reportedSize f) ∧
        ∀ f ∈ candidates tiedGame ⟨"", ["g"]⟩, f.path ∉ found.value →
          ∀ g ∈ selected, isLauncher g = false → reportedSize f ≤ reportedSize g :=
  findExecutables_selects (by decide) rfl rfl

/-! ## Sizes that are not reported, and directories that are not listed -/

/-- A name that a directory can hold, and that makes a long path too long. -/
def longName : String := String.ofList (List.replicate 56 'n') ++ ".exe"

/-- A game with a small executable and a larger one that has a long name. -/
def detouredGame : FileTree where
  files := [(["g", "a.exe"], ⟨#[0]⟩), (["g", longName], ⟨#[0, 0]⟩)]
  directories := [["g"]]

theorem hasDetours_detouredGame : detouredGame.HasDetours where
  rooted := rfl
  working := rfl
  placed := rfl

/-- The two executables as they are found, the small one first. -/
def foundSmall (root : Path) : FoundFile := ⟨root.append ["a.exe"], ⟨#[0]⟩⟩

def foundLarge (root : Path) : FoundFile := ⟨root.append [longName], ⟨#[0, 0]⟩⟩

theorem walk_detouredGame {k : Nat} (hshort : 5 * k + 1 < Files.pathSizeLimit) :
    detouredGame.walk (detourPath k) = [foundSmall (detourPath k), foundLarge (detourPath k)] := by
  have hbelow : detouredGame.filesBelow ["g"] =
      [(["a.exe"], ⟨#[0]⟩), ([longName], ⟨#[0, 0]⟩)] := by
    refine List.mergeSort_of_pairwise (List.pairwise_pair.mpr ?_)
    decide
  have hreached (name : String) : Files.isReached (detourPath k) [name] = true :=
    decide_eq_true ((Files.utf8ByteSize_text_detourPath k).trans_lt hshort)
  rw [Files.walk_of_directory (hasDetours_detouredGame.find hshort), hbelow]
  simp only [List.filter_cons, hreached, if_true, List.filter_nil]
  rfl

theorem isCandidate_found (root : Path) : IsCandidate (foundSmall root) ∧ IsCandidate (foundLarge root) := by
  have hsmall : (foundSmall root).name = "a.exe" := Files.name_append root (List.cons_ne_nil _ _)
  have hlarge : (foundLarge root).name = longName := Files.name_append root (List.cons_ne_nil _ _)
  rw [← isGameExecutable_iff, ← isGameExecutable_iff, lowerName, lowerName, hsmall, hlarge]
  decide

theorem utf8ByteSize_found (k : Nat) (name : String) :
    ((detourPath k).append [name]).text.utf8ByteSize = 5 * k + 2 + name.utf8ByteSize := by
  have hslash : "/".utf8ByteSize = 1 := by decide
  rw [Files.text_detourPath_append,
    String.intercalate_append_of_ne_nil (Files.detour_ne_nil k) (List.cons_ne_nil _ _),
    String.intercalate_singleton, String.utf8ByteSize_append, String.utf8ByteSize_append,
    Files.utf8ByteSize_detour, hslash]

/-- With enough detours the path of the large file is too long, and that of the small one is not. -/
theorem reportedSize_found :
    reportedSize (foundSmall (detourPath 808)) = 1 ∧ reportedSize (foundLarge (detourPath 808)) = 0 := by
  have hsmall : "a.exe".utf8ByteSize = 5 := by decide
  have hlarge : longName.utf8ByteSize = 60 := by decide
  rw [reportedSize, reportedSize, foundSmall, foundLarge, utf8ByteSize_found, utf8ByteSize_found, hsmall,
    hlarge]
  exact ⟨rfl, rfl⟩

theorem candidates_detouredGame {k : Nat} (hshort : 5 * k + 1 < Files.pathSizeLimit) :
    candidates detouredGame (detourPath k) = [foundSmall (detourPath k), foundLarge (detourPath k)] := by
  obtain ⟨hsmall, hlarge⟩ := isCandidate_found (detourPath k)
  rw [candidates, walk_detouredGame hshort]
  simp only [List.filter_cons, hsmall, hlarge, decide_true, if_true, List.filter_nil]

/-- Two files of different sizes have one order. -/
theorem eq_pair_of_falling {size : FoundFile → Nat} {f g : FoundFile} {ordered : List FoundFile}
    (hperm : ordered.Perm [f, g]) (hfalling : ordered.Pairwise fun f g => size g ≤ size f)
    (hlt : size g < size f) : ordered = [f, g] := by
  refine hperm.eq_of_pairwise (fun a b ha hb hab hba => ?_) hfalling (List.pairwise_pair.mpr hlt.le)
  have ha := hperm.mem_iff.mp ha
  simp only [List.mem_cons, List.not_mem_nil, or_false] at ha hb
  rcases ha with rfl | rfl <;> rcases hb with rfl | rfl
  · rfl
  · exact absurd hlt (not_lt.mpr hba)
  · exact absurd hlt (not_lt.mpr hab)
  · rfl

/-- By the sizes of their bytes the selection is no prefix of the candidates: the larger of the two files is
the one whose path is too long, so it counts as empty and comes last. -/
theorem findExecutables_detouredGame_ne {ordered : List FoundFile}
    (hperm : ordered.Perm (candidates detouredGame (detourPath 808)))
    (hfalling : ordered.Pairwise fun f g => g.bytes.size ≤ f.bytes.size) :
    (findExecutables detouredGame {} (detourPath 808)).value ≠
      (ordered.take 5 ++ (ordered.drop 5).filter isLauncher).map (·.path) := by
  intro hfound
  have hshort : 5 * 808 + 1 < Files.pathSizeLimit := by decide
  have hroot := hasDetours_detouredGame.isDirectory hshort
  have hcandidates := candidates_detouredGame hshort
  obtain ⟨hsmall, hlarge⟩ := reportedSize_found
  have hdistinct : (detouredGame.files.map Prod.fst).Nodup := by decide +kernel
  have hreported : bySize (detouredGame.walk (detourPath 808)) =
      [foundSmall (detourPath 808), foundLarge (detourPath 808)] := by
    have h := isBySize_bySize detouredGame (detourPath 808)
    rw [hcandidates] at h
    exact eq_pair_of_falling h.perm h.falling (by rw [hsmall, hlarge]; decide)
  have hsizes : (foundSmall (detourPath 808)).bytes.size < (foundLarge (detourPath 808)).bytes.size := by
    decide
  rw [hcandidates] at hperm
  rw [eq_pair_of_falling (hperm.trans (List.Perm.swap _ _ _)) hfalling hsizes,
    findExecutables_eq hdistinct hroot (withinLimit_natCast 5 _), hreported] at hfound
  have hpath : (foundSmall (detourPath 808)).path = (foundLarge (detourPath 808)).path :=
    (List.cons.inj hfound).1
  have hnames := List.append_cancel_left (Files.Path.mk.inj hpath).2
  exact absurd hnames (by decide +kernel)

theorem findExecutables_of_walk_eq_nil {t : FileTree} {root : Path} (settings : Settings)
    (hdistinct : (t.files.map Prod.fst).Nodup) (hroot : t.isDirectory root.text = .ok true)
    (hnothing : t.walk root = []) : findExecutables t settings root = ⟨[], []⟩ := by
  obtain ⟨selected, hfound, -, hmet⟩ := exists_findExecutables_eq settings hdistinct hroot
  rw [hnothing] at hmet
  rw [hfound, List.eq_nil_iff_forall_not_mem.mpr fun f hf => List.not_mem_nil (hmet f hf), List.map_nil]

/-- In a directory spelled with enough detours, sizes are reported wrongly, or a launcher is not found at all,
since a walk does not get to the subdirectory in which it stands. -/
theorem findExecutables_detours :
    (detouredGame.isDirectory (detourPath 808).text = .ok true ∧
      ¬ ∃ ordered : List FoundFile, ordered.Perm (candidates detouredGame (detourPath 808)) ∧
        ordered.Pairwise (fun f g => g.bytes.size ≤ f.bytes.size) ∧
        (findExecutables detouredGame {} (detourPath 808)).value =
          (ordered.take 5 ++ (ordered.drop 5).filter isLauncher).map (·.path)) ∧
    let deep := Files.deepTree "launcher.exe"
    deep.isDirectory (detourPath 818).text = .ok true ∧
      ∃ f : FileBelow deep (detourPath 818), IsCandidate f.spelled ∧ isLauncher f.spelled = true ∧
        f.spelled.path ∉ (findExecutables deep {} (detourPath 818)).value := by
  have hshort : 5 * 818 + 1 < Files.pathSizeLimit := by decide
  have hdeep := Files.hasDetours_deepTree "launcher.exe"
  have hname : (Files.deepFile "launcher.exe" hshort).spelled.name = "launcher.exe" :=
    (Files.deepFile "launcher.exe" hshort).name_spelled
  refine ⟨⟨hasDetours_detouredGame.isDirectory (by decide), ?_⟩, hdeep.isDirectory hshort,
    Files.deepFile "launcher.exe" hshort, ?_, ?_, ?_⟩
  · rintro ⟨ordered, hperm, hfalling, hfound⟩
    exact findExecutables_detouredGame_ne hperm hfalling hfound
  · rw [← isGameExecutable_iff, lowerName, hname]
    decide
  · rw [isLauncher, hname]
    decide
  · have hnothing := Files.walk_deepTree hshort (by decide) "launcher.exe"
    rw [findExecutables_of_walk_eq_nil {} (Files.nodup_deepTree _) (hdeep.isDirectory hshort) hnothing]
    exact List.not_mem_nil

end PeSignals.Protection
