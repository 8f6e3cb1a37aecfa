import Mathlib
import PeSignals.Proofs.Files.Resolve
import PeSignals.Proofs.Files.Walk

/-!
# Where paths lead

Without links, where a path leads is told by its names alone: what a path leads to when its names are
followed one after the other is what stands at the path without double dots. That holds of paths of any
length, also of those that are too long to be looked up.
-/
namespace PeSignals.Files

/-- Where a place stands, unless it is above the top of the tree. -/
def Place.location? : Place → Option Location
  | .file location _ => some location
  | .directory location => some location
  | .above => none

/-- The location of the file that the names of a path lead to, also where the path is too long to be looked
up. -/
def FileTree.fileOf? (t : FileTree) (path : Path) : Option Location :=
  match t.follow (partsOf path.text) with
  | .ok (.file location _) => some location
  | _ => none

/-! ## Trees as they stand in a file system -/

/-- Whether a text can be the name of what stands in a directory. -/
structure IsName (name : String) : Prop where
  some : name ≠ ""
  noDot : name ≠ "."
  noDots : name ≠ ".."
  noSlash : '/' ∉ name.toList
  short : name.utf8ByteSize ≤ maximumNameSize

instance : DecidablePred IsName := fun name =>
  decidable_of_iff
    (name ≠ "" ∧ name ≠ "." ∧ name ≠ ".." ∧ '/' ∉ name.toList ∧ name.utf8ByteSize ≤ maximumNameSize)
    ⟨fun ⟨hsome, hnoDot, hnoDots, hnoSlash, hshort⟩ => ⟨hsome, hnoDot, hnoDots, hnoSlash, hshort⟩,
      fun h => ⟨h.some, h.noDot, h.noDots, h.noSlash, h.short⟩⟩

/-- Whether a tree can stand in a file system: its top and its working directory are at proper places,
and each file is, in directories. -/
structure FileTree.IsSound (t : FileTree) : Prop where
  rooted : ∃ names, t.root = "/".intercalate ("" :: names) ∧ ∀ name ∈ names, IsName name
  working : ∀ name ∈ t.working, IsName name
  distinct : (t.files.map Prod.fst).Nodup
  named : ∀ file ∈ t.files, file.1 ≠ [] ∧ ∀ name ∈ file.1, IsName name
  placed : ∀ file ∈ t.files, ∀ n < file.1.length,
    t.hasDirectory (file.1.take n) = true ∧ t.fileAt? (file.1.take n) = none

variable {t : FileTree}

/-! ## Names without dots -/

theorem foldl_descend {names : List String} (h : ∀ name ∈ names, name ≠ "..") (way : List String) :
    names.foldl descend way = way ++ names := by
  induction names generalizing way with
  | nil => rw [List.foldl_nil, List.append_nil]
  | cons name rest ih =>
    rw [List.foldl_cons, descend, if_neg (h name List.mem_cons_self),
      ih fun other hother => h other (List.mem_cons_of_mem name hother), List.append_assoc,
      List.singleton_append]

theorem withoutDots_append {names : List String} (h : ∀ name ∈ names, name ≠ "..")
    (more : List String) : withoutDots (names ++ more) = more.foldl descend names := by
  rw [withoutDots, List.foldl_append, foldl_descend h, List.nil_append]

/-- Whether a name is kept when a path is read. -/
def isKept (name : String) : Bool := name ≠ "" && name ≠ "."

theorem isKept_iff {name : String} : isKept name = true ↔ ¬ (name = "" ∨ name = ".") := by
  rw [isKept, Bool.and_eq_true, decide_eq_true_eq, decide_eq_true_eq, not_or]

theorem IsName.isKept {name : String} (h : IsName name) : isKept name = true :=
  isKept_iff.mpr (not_or.mpr ⟨h.some, h.noDot⟩)

theorem filter_isKept {names : List String} (h : ∀ name ∈ names, IsName name) :
    names.filter isKept = names :=
  List.filter_eq_self.mpr fun name hname => (h name hname).isKept

/-- Whether a path is one that was read, so that it has no single dots either. -/
structure Path.IsRead (p : Path) : Prop where
  normal : p.IsNormal
  kept : p.parts.filter isKept = p.parts

theorem isRead_ofText (text : String) : (Path.ofText text).IsRead :=
  ⟨isNormal_ofText text, List.filter_filter.trans (List.filter_congr fun _ _ => Bool.and_self _)⟩

theorem Path.IsRead.append {p : Path} (hp : p.IsRead) {names : List String}
    (h : ∀ name ∈ names, IsName name) : (p.append names).IsRead where
  normal := by
    refine ⟨hp.normal.anchored, fun name hname => ?_⟩
    rcases List.mem_append.mp hname with hold | hnew
    · exact hp.normal.named name hold
    · exact ⟨(h name hnew).some, (h name hnew).noSlash⟩
  kept := by rw [Path.append, List.filter_append, hp.kept, filter_isKept h]

theorem filter_partsOf_text {p : Path} (hp : p.IsRead) : (partsOf p.text).filter isKept = p.parts := by
  have hlead : p.lead.filter isKept = [] := by
    rw [List.filter_eq_nil_iff]
    intro name hname
    rw [List.eq_of_mem_replicate hname]
    decide
  by_cases hsome : p.parts = []
  · rw [Path.partsOf_text_of_nil hp.normal hsome, List.filter_append, hlead, hsome]
    split_ifs <;> rfl
  · rw [Path.partsOf_text hp.normal hsome, List.filter_append, hlead, hp.kept, List.nil_append]

/-- A path starts at the top of the file system exactly if an empty name comes first. -/
theorem head?_partsOf_text {p : Path} (hp : p.IsNormal) :
    (partsOf p.text).head? = some "" ↔ p.anchor ≠ "" := by
  have hsplit : ∃ rest, partsOf p.text = p.lead ++ rest ∧ (p.anchor = "" → rest.head? ≠ some "") := by
    by_cases hsome : p.parts = []
    · refine ⟨_, Path.partsOf_text_of_nil hp hsome, fun hanchor => ?_⟩
      rw [if_pos hanchor]
      decide
    · refine ⟨_, Path.partsOf_text hp hsome, fun _ hempty => ?_⟩
      exact (hp.named "" (List.mem_of_head? hempty)).1 rfl
  obtain ⟨rest, hparts, hrest⟩ := hsplit
  rw [hparts, Path.lead]
  rcases hp.anchored with hanchor | hanchor | hanchor
  · rw [hanchor]
    simpa using hrest hanchor
  · rw [hanchor]
    simp [show "/".length = 1 from rfl]
  · rw [hanchor]
    simp [show "//".length = 2 from rfl]

/-! ## The top of a tree -/

theorem anchorOf_of_partsOf {text name : String} {rest : List String} (h : partsOf text = "" :: name :: rest)
    (hname : name ≠ "") : Path.anchorOf text = "/" := by
  have hsome (cs : List Char) (c : Char) : String.ofList (c :: cs) ≠ "" := fun hempty =>
    List.cons_ne_nil c cs (String.ofList_eq_empty_iff.mp hempty)
  rw [partsOf] at h
  rw [Path.anchorOf]
  cases htext : text.toList with
  | nil =>
    rw [htext] at h
    cases h
  | cons c cs =>
    rw [htext] at h
    by_cases hc : c = '/'
    · subst hc
      cases cs with
      | nil =>
        cases h
        exact absurd rfl hname
      | cons d ds =>
        by_cases hd : d = '/'
        · subst hd
          exact absurd (List.cons.inj (List.cons.inj h).2).1.symm hname
        · simp [hd]
    · obtain ⟨part, parts, hparts⟩ := exists_cons_cutAtSlashes cs
      rw [cutAtSlashes, hparts] at h
      · exact absurd (List.cons.inj h).1 (hsome part c)
      · exact fun heq => hc heq

namespace FileTree

theorem IsSound.partsOf_root (ht : t.IsSound) :
    partsOf t.root = "" :: t.top.parts ∧ t.top.anchor = "/" ∧ ∀ name ∈ t.top.parts, IsName name := by
  obtain ⟨names, hroot, hnames⟩ := ht.rooted
  have hparts : partsOf t.root = "" :: names := by
    rw [hroot, partsOf_intercalate _ (List.cons_ne_nil _ _)]
    intro name hname
    rcases List.mem_cons.mp hname with rfl | hname
    · exact List.not_mem_nil
    · exact (hnames name hname).noSlash
  have hslash : partsOf (t.root ++ "/") = "" :: names ++ [""] := by
    have h := partsOf_append_slash t.root ""
    rw [String.append_empty, hparts] at h
    exact h
  have htop : t.top.parts = names := by
    change (partsOf (t.root ++ "/")).filter isKept = names
    rw [hslash, List.filter_append, List.filter_cons_of_neg (by decide), filter_isKept hnames]
    exact List.append_nil names
  refine ⟨hparts.trans (by rw [htop]), ?_, htop ▸ hnames⟩
  cases names with
  | nil =>
    rw [top, hroot]
    rfl
  | cons name rest => exact anchorOf_of_partsOf hslash (hnames name List.mem_cons_self).some

theorem IsSound.hasPlainRoot (ht : t.IsSound) : t.HasPlainRoot := by
  obtain ⟨hparts, -, hnames⟩ := ht.partsOf_root
  rw [HasPlainRoot, hparts]
  exact ⟨rfl, fun hsecond => (hnames "" (List.mem_of_getElem? hsecond)).some rfl⟩

/-! ## Names and where they lead -/

theorem location?_of_placeAt? {location : Location} {place : Place} (h : t.placeAt? location = some place) :
    place.location? = some location := by
  rw [placeAt?] at h
  cases hfile : t.fileAt? location with
  | some bytes =>
    rw [hfile] at h
    cases h
    rfl
  | none =>
    rw [hfile] at h
    dsimp only at h
    split_ifs at h
    cases h
    rfl

/-- A step down or up leads, seen from the top of the file system, where its name says. -/
theorem descend_of_step {name : String} {place next : Place} (hkept : isKept name = true)
    (h : t.step name place = .ok next) {location : Location} (hnext : next.location? = some location) :
    ∃ start, place.location? = some start ∧
      t.top.parts ++ location = descend (t.top.parts ++ start) name := by
  cases place with
  | file other bytes => cases h
  | above =>
    simp only [step] at h
    split_ifs at h
    cases h
    cases hnext
  | directory directory =>
    refine ⟨directory, rfl, ?_⟩
    rw [step, if_neg (isKept_iff.mp hkept)] at h
    rw [descend]
    by_cases hdots : name = ".."
    · rw [if_pos hdots] at h ⊢
      cases h
      rw [placeAbove] at hnext
      split_ifs at hnext with htop
      · cases hnext
      · cases hnext
        by_cases hempty : directory = []
        · -- There is nothing above the top of the file system.
          have hroot : t.root = "" := by simpa [hempty] using htop
          have hnone : t.top.parts = [] := by
            rw [top, hroot]
            rfl
          rw [hempty, hnone]
          rfl
        · rw [List.dropLast_append_of_ne_nil hempty]
    · rw [if_neg hdots] at h ⊢
      split_ifs at h
      cases hplace : t.placeAt? (directory ++ [name]) with
      | none =>
        rw [hplace] at h
        cases h
      | some place =>
        rw [hplace] at h
        cases h
        cases (location?_of_placeAt? hplace).symm.trans hnext
        rw [List.append_assoc]

/-- Names that are followed one after the other lead, seen from the top of the file system, where they say
without double dots. -/
theorem descend_of_foldlM_step {names : List String} {place found : Place}
    (h : names.foldlM (fun place name => t.step name place) place = .ok found) {location : Location}
    (hfound : found.location? = some location) :
    ∃ start, place.location? = some start ∧
      t.top.parts ++ location = (names.filter isKept).foldl descend (t.top.parts ++ start) := by
  induction names generalizing place with
  | nil =>
    cases h
    exact ⟨location, hfound, rfl⟩
  | cons name rest ih =>
    rw [List.foldlM_cons] at h
    obtain ⟨next, hstep, hrest⟩ := bind_eq_ok_iff.mp h
    obtain ⟨middle, hmiddle, hlocation⟩ := ih hrest
    by_cases hkept : isKept name = true
    · obtain ⟨start, hstart, hdescend⟩ := descend_of_step hkept hstep hmiddle
      refine ⟨start, hstart, ?_⟩
      rw [List.filter_cons_of_pos hkept, List.foldl_cons, ← hdescend, hlocation]
    · rw [isKept_iff, not_not] at hkept
      rw [eq_of_step_dot hkept hstep] at hmiddle
      refine ⟨middle, hmiddle, ?_⟩
      rw [List.filter_cons_of_neg (isKept_iff.not.mpr (not_not.mpr hkept)), hlocation]

/-- What a path leads to stands at the path without double dots. -/
theorem resolved_of_follow (ht : t.IsSound) {p : Path} (hp : p.IsRead) {found : Place}
    (h : t.follow (partsOf p.text) = .ok found) {location : Location}
    (hfound : found.location? = some location) : t.resolved p = t.top.append location := by
  obtain ⟨hroot, -, htop⟩ := ht.partsOf_root
  have hnodots {names : List String} (hnames : ∀ name ∈ names, IsName name) :
      ∀ name ∈ names, name ≠ ".." := fun name hname => (hnames name hname).noDots
  have hhead := head?_partsOf_text hp.normal
  simp only [follow] at h
  suffices hparts : withoutDots (if p.anchor = "" then t.top.parts ++ t.working ++ p.parts else p.parts) =
      t.top.parts ++ location by
    rw [resolved, hparts]
    rfl
  split_ifs at h with hbelow habsolute
  · -- The path starts with the path of the top of the tree.
    obtain ⟨rest, hrest⟩ := List.isPrefixOf_iff_prefix.mp hbelow
    have habsolute : p.anchor ≠ "" := hhead.mp (by rw [← hrest, hroot]; rfl)
    have hkept : p.parts = t.top.parts ++ rest.filter isKept := by
      rw [← filter_partsOf_text hp, ← hrest, hroot, List.filter_append,
        List.filter_cons_of_neg (by decide), filter_isKept htop]
    rw [← hrest, List.drop_left] at h
    obtain ⟨start, hstart, hlocation⟩ := descend_of_foldlM_step h hfound
    cases hstart
    rw [if_neg habsolute, hkept, withoutDots_append (hnodots htop), hlocation, List.append_nil]
  · -- Any other path from the top of the file system stays outside the tree.
    obtain ⟨start, hstart, -⟩ := descend_of_foldlM_step h hfound
    cases hstart
  · have hrelative : p.anchor = "" := by
      by_contra hanchor
      exact habsolute (hhead.mpr hanchor)
    obtain ⟨start, hstart, hlocation⟩ := descend_of_foldlM_step h hfound
    cases hstart
    rw [if_pos hrelative, withoutDots_append, hlocation, filter_partsOf_text hp]
    intro name hname
    exact hnodots (fun name hname => (List.mem_append.mp hname).elim (htop name) (ht.working name)) name hname

/-! ## Files and their paths -/

theorem exists_fileAt?_of_mem {location : Location} {bytes : ByteArray} (h : (location, bytes) ∈ t.files) :
    ∃ stored, t.fileAt? location = some stored := by
  cases hfile : t.fileAt? location with
  | some stored => exact ⟨stored, rfl⟩
  | none =>
    rw [fileAt?, List.lookup_eq_none_iff] at hfile
    exact absurd (hfile _ h) (by simp)

theorem mem_of_fileAt? {location : Location} {bytes : ByteArray} (h : t.fileAt? location = some bytes) :
    (location, bytes) ∈ t.files := by
  rw [fileAt?, List.lookup_eq_some_iff] at h
  obtain ⟨before, after, hfiles, -⟩ := h
  rw [hfiles]
  exact List.mem_append_right _ List.mem_cons_self

/-- A path that leaves the tree above its top never comes back into it. -/
theorem eq_above_of_foldlM_step {names : List String} {found : Place}
    (h : names.foldlM (fun place name => t.step name place) .above = .ok found) : found = .above := by
  induction names with
  | nil =>
    cases h
    rfl
  | cons name rest ih =>
    rw [List.foldlM_cons] at h
    obtain ⟨next, hstep, hrest⟩ := bind_eq_ok_iff.mp h
    simp only [step] at hstep
    split_ifs at hstep
    cases hstep
    exact ih hrest

/-- From a directory, further names lead on. -/
theorem follow_append (hroot : t.HasPlainRoot) {names more : List String} {directory : Location}
    (h : t.follow names = .ok (.directory directory)) (hmore : ∀ name ∈ more, name ≠ "") :
    t.follow (names ++ more) = more.foldlM (fun place name => t.step name place) (.directory directory) := by
  have hlast (before : List String) (place : Place)
      (hbefore : before.foldlM (fun place name => t.step name place) place = .ok (.directory directory)) :
      (before ++ more).foldlM (fun place name => t.step name place) place =
        more.foldlM (fun place name => t.step name place) (.directory directory) := by
    rw [List.foldlM_append, hbefore]
    rfl
  simp only [follow] at h ⊢
  split_ifs at h with hbelow habsolute
  · have hstart := List.isPrefixOf_iff_prefix.mp hbelow
    rw [if_pos (List.isPrefixOf_iff_prefix.mpr (hstart.trans (List.prefix_append _ _))),
      List.drop_append_of_le_length hstart.length_le]
    exact hlast _ _ h
  · cases eq_above_of_foldlM_step h
  · have hhead : (names ++ more).head? ≠ some "" := by
      cases names with
      | nil => exact fun hempty => hmore "" (List.mem_of_head? hempty) rfl
      | cons name rest => exact habsolute
    have houtside : (partsOf t.root).isPrefixOf (names ++ more) = false := by
      rw [Bool.eq_false_iff, ne_eq, List.isPrefixOf_iff_prefix]
      rintro ⟨rest, hrest⟩
      refine hhead ?_
      rw [← hrest, List.head?_append, hroot.1]
      rfl
    rw [houtside, if_neg Bool.false_ne_true, if_neg hhead]
    exact hlast _ _ h

theorem step_eq_ok {name : String} (hname : IsName name) {directory : Location} {place : Place}
    (h : t.placeAt? (directory ++ [name]) = some place) : t.step name (.directory directory) = .ok place := by
  rw [step, if_neg (not_or.mpr ⟨hname.some, hname.noDot⟩), if_neg hname.noDots,
    if_neg (Nat.not_lt.mpr hname.short), h]

/-- The names of a file lead down to it from any directory above it. -/
theorem foldlM_step_of_mem (ht : t.IsSound) {directory relative : Location} {bytes : ByteArray}
    (hstands : (directory ++ relative, bytes) ∈ t.files) (hproper : relative ≠ []) :
    ∃ stored, relative.foldlM (fun place name => t.step name place) (.directory directory) =
      .ok (.file (directory ++ relative) stored) := by
  induction relative generalizing directory with
  | nil => exact absurd rfl hproper
  | cons name rest ih =>
    have hname := (ht.named _ hstands).2 name (List.mem_append_right _ List.mem_cons_self)
    rw [List.append_cons] at hstands ⊢
    rw [List.foldlM_cons]
    by_cases hlast : rest = []
    · subst hlast
      rw [List.append_nil] at hstands ⊢
      obtain ⟨stored, hstored⟩ := exists_fileAt?_of_mem hstands
      have hplace : t.placeAt? (directory ++ [name]) = some (.file (directory ++ [name]) stored) := by
        rw [placeAt?, hstored]
      rw [step_eq_ok hname hplace]
      exact ⟨stored, rfl⟩
    · have hlength : (directory ++ [name]).length < (directory ++ [name] ++ rest).length :=
        (Nat.lt_add_of_pos_right (List.length_pos_iff.mpr hlast)).trans_eq List.length_append.symm
      obtain ⟨hdirectory, hnofile⟩ := ht.placed _ hstands _ hlength
      rw [List.take_left] at hdirectory hnofile
      have hplace : t.placeAt? (directory ++ [name]) = some (.directory (directory ++ [name])) := by
        rw [placeAt?, hnofile, hdirectory, if_pos rfl]
      rw [step_eq_ok hname hplace]
      exact ih hstands hlast

theorem fileOf?_eq_some {p : Path} {location : Location} :
    t.fileOf? p = some location ↔ ∃ stored, t.follow (partsOf p.text) = .ok (.file location stored) := by
  rw [fileOf?]
  split
  · next found stored hfollow =>
    rw [hfollow]
    constructor
    · rintro ⟨⟩
      exact ⟨stored, rfl⟩
    · rintro ⟨_, ⟨⟩⟩
      rfl
  · next hother => exact iff_of_false nofun fun ⟨stored, hfollow⟩ => hother location stored hfollow

/-- The path of a file without double dots. -/
theorem resolved_of_fileOf? (ht : t.IsSound) {p : Path} (hp : p.IsRead) {location : Location}
    (h : t.fileOf? p = some location) : t.resolved p = t.top.append location := by
  obtain ⟨stored, hfollow⟩ := fileOf?_eq_some.mp h
  exact resolved_of_follow ht hp hfollow rfl

/-- Where a file is looked up, its names lead to it. -/
theorem fileOf?_of_fileLocation {p : Path} {location : Location}
    (h : t.fileLocation p.text = .ok (some location)) :
    t.fileOf? p = some location ∧ ∃ bytes, (location, bytes) ∈ t.files := by
  rw [fileLocation, probe] at h
  cases hfind : t.find p.text with
  | error e =>
    rw [hfind] at h
    split at h
    · next hplace => cases hplace
    · cases h
    · cases h
  | ok place =>
    rw [hfind] at h
    cases place with
    | file found bytes =>
      cases h
      have hresolve := resolve_of_find hfind
      exact ⟨fileOf?_eq_some.mpr ⟨bytes, follow_of_resolve hresolve⟩, bytes,
        mem_of_fileAt? (fileAt?_of_resolve hresolve)⟩
    | directory found => cases h
    | above => cases h

/-- A file below a directory is found at the path of the directory with further names. -/
theorem fileOf?_append (ht : t.IsSound) {p : Path} (hp : p.IsRead) {directory relative : Location}
    {bytes : ByteArray} (hfound : t.find p.text = .ok (.directory directory))
    (hstands : (directory ++ relative, bytes) ∈ t.files) (hproper : relative ≠ []) :
    t.fileOf? (p.append relative) = some (directory ++ relative) := by
  have hnames : ∀ name ∈ relative, IsName name := fun name hname =>
    (ht.named _ hstands).2 name (List.mem_append_right _ hname)
  have hnext := (hp.append hnames).normal
  have hfollow : t.follow (p.lead ++ p.parts) = .ok (.directory directory) := by
    obtain ⟨first, rest, rfl⟩ := List.exists_cons_of_ne_nil hproper
    have hparent : (p.append [first]).parent = p := by
      rw [Path.parent, Path.append, List.dropLast_concat]
    have hfirst := hp.append fun name hname =>
      hnames name (List.mem_singleton.mp hname ▸ List.mem_cons_self)
    exact follow_of_parent hfirst.normal ht.hasPlainRoot rfl (by rw [hparent]; exact resolve_of_find hfound)
  obtain ⟨stored, hbelow⟩ := foldlM_step_of_mem ht hstands hproper
  refine fileOf?_eq_some.mpr ⟨stored, ?_⟩
  rw [Path.partsOf_text hnext (List.append_ne_nil_of_right_ne_nil _ hproper), Path.append,
    ← List.append_assoc]
  exact (follow_append ht.hasPlainRoot hfollow fun name hname => (hnames name hname).some).trans hbelow

/-- A file is found at its path from the top of the file system. -/
theorem fileOf?_top_append (ht : t.IsSound) {location : Location} {bytes : ByteArray}
    (hstands : (location, bytes) ∈ t.files) : t.fileOf? (t.top.append location) = some location := by
  obtain ⟨hroot, hanchor, htop⟩ := ht.partsOf_root
  obtain ⟨hproper, hnames⟩ := ht.named _ hstands
  have hread : (t.top.append location).IsRead := (isRead_ofText _).append hnames
  have hparts : partsOf (t.top.append location).text = partsOf t.root ++ location := by
    rw [Path.partsOf_text hread.normal (List.append_ne_nil_of_right_ne_nil _ hproper), hroot, Path.lead]
    change List.replicate t.top.anchor.length "" ++ _ = _
    rw [hanchor]
    rfl
  obtain ⟨stored, hbelow⟩ : ∃ stored, location.foldlM (fun place name => t.step name place) (.directory []) =
      .ok (.file location stored) := foldlM_step_of_mem ht hstands hproper
  refine fileOf?_eq_some.mpr ⟨stored, ?_⟩
  rw [hparts]
  exact (follow_append ht.hasPlainRoot follow_root fun name hname => (hnames name hname).some).trans hbelow

end FileTree

end PeSignals.Files
