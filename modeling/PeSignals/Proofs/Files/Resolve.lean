import Mathlib
import PeSignals.Proofs.Files.Lookup
import PeSignals.Proofs.Result

/-!
# Following names

A path in normal form is resolved by following its names one after the other, so it leads one step further
than its directory does.
-/
namespace PeSignals.Files

/-! ## Names between slashes -/

theorem exists_cons_cutAtSlashes (cs : List Char) : ∃ part parts, cutAtSlashes cs = part :: parts := by
  induction cs with
  | nil => exact ⟨[], [], rfl⟩
  | cons c rest ih =>
    obtain ⟨part, parts, hrest⟩ := ih
    by_cases hc : c = '/'
    · subst hc
      exact ⟨[], cutAtSlashes rest, rfl⟩
    · refine ⟨c :: part, parts, ?_⟩
      rw [cutAtSlashes, hrest]
      exact fun heq => hc heq

theorem cutAtSlashes_append (before after : List Char) :
    cutAtSlashes (before ++ '/' :: after) = cutAtSlashes before ++ cutAtSlashes after := by
  induction before with
  | nil => rfl
  | cons c rest ih =>
    by_cases hc : c = '/'
    · subst hc
      rw [List.cons_append, cutAtSlashes, cutAtSlashes, ih]
      rfl
    · obtain ⟨part, parts, hrest⟩ := exists_cons_cutAtSlashes rest
      rw [List.cons_append, cutAtSlashes, cutAtSlashes, ih, hrest]
      · rfl
      · exact fun heq => hc heq
      · exact fun heq => hc heq

theorem notMem_of_mem_cutAtSlashes {cs part : List Char} (h : part ∈ cutAtSlashes cs) : '/' ∉ part := by
  induction cs generalizing part with
  | nil =>
    obtain rfl := List.mem_singleton.mp h
    exact List.not_mem_nil
  | cons c rest ih =>
    by_cases hc : c = '/'
    · subst hc
      rcases List.mem_cons.mp h with rfl | hmem
      · exact List.not_mem_nil
      · exact ih hmem
    · obtain ⟨first, parts, hrest⟩ := exists_cons_cutAtSlashes rest
      rw [cutAtSlashes, hrest] at h
      · rcases List.mem_cons.mp h with rfl | hmem
        · have hfirst : '/' ∉ first := ih (hrest ▸ List.mem_cons_self)
          exact fun hslash => (List.mem_cons.mp hslash).elim (fun heq => hc heq.symm) hfirst
        · exact ih (hrest ▸ List.mem_cons_of_mem first hmem)
      · exact fun heq => hc heq

/-- Cutting at slashes undoes joining by them. -/
theorem partsOf_intercalate {names : List String} (h : ∀ name ∈ names, '/' ∉ name.toList)
    (hsome : names ≠ []) : partsOf ("/".intercalate names) = names := by
  have hcut : cutAtSlashes (['/'].intercalate (names.map String.toList)) = names.map String.toList := by
    induction names with
    | nil => exact absurd rfl hsome
    | cons name rest ih =>
      have hname := cutAtSlashes_of_notMem (h name List.mem_cons_self)
      cases rest with
      | nil => simpa using hname
      | cons next rest =>
        have hrest := ih (fun other hother => h other (List.mem_cons_of_mem name hother))
          (List.cons_ne_nil _ _)
        rw [List.map_cons] at hrest
        rw [List.map_cons, List.map_cons, List.intercalate_cons_cons, List.append_assoc,
          List.singleton_append, cutAtSlashes_append, hname, hrest]
        rfl
  have hslash : "/".toList = ['/'] := rfl
  rw [partsOf, String.toList_intercalate, hslash, hcut, List.map_map]
  simp

theorem partsOf_slash_append (text : String) : partsOf ("/" ++ text) = "" :: partsOf text := by
  rw [partsOf, String.toList_append]
  rfl

theorem partsOf_append_slash (before after : String) :
    partsOf (before ++ "/" ++ after) = partsOf before ++ partsOf after := by
  have hslash : "/".toList = ['/'] := rfl
  rw [partsOf, String.toList_append, String.toList_append, hslash, List.append_assoc, List.singleton_append,
    cutAtSlashes_append, List.map_append]
  rfl

/-- Whether a text can be the slashes that a path starts with. -/
def IsAnchor (anchor : String) : Prop := anchor = "" ∨ anchor = "/" ∨ anchor = "//"

/-- The slashes that a path starts with are empty names before it. -/
theorem partsOf_anchor_append {anchor : String} (h : IsAnchor anchor) (text : String) :
    partsOf (anchor ++ text) = List.replicate anchor.length "" ++ partsOf text := by
  rcases h with rfl | rfl | rfl
  · rw [String.empty_append]
    rfl
  · rw [partsOf_slash_append]
    rfl
  · have htwo : "//" ++ text = "/" ++ ("/" ++ text) := by
      rw [← String.append_assoc]
      rfl
    rw [htwo, partsOf_slash_append, partsOf_slash_append]
    rfl

/-! ## Paths in normal form -/

/-- Whether a path is one that was read: its names are not empty and hold no slash. -/
structure Path.IsNormal (p : Path) : Prop where
  anchored : p.anchor = "" ∨ p.anchor = "/" ∨ p.anchor = "//"
  named : ∀ name ∈ p.parts, name ≠ "" ∧ '/' ∉ name.toList

theorem isNormal_ofText (text : String) : (Path.ofText text).IsNormal := by
  constructor
  · change Path.anchorOf text = "" ∨ Path.anchorOf text = "/" ∨ Path.anchorOf text = "//"
    unfold Path.anchorOf
    split
    · exact .inl rfl
    · exact .inr (.inr rfl)
    · exact .inr (.inl rfl)
  · intro name hname
    obtain ⟨hpart, hkept⟩ := List.mem_filter.mp hname
    obtain ⟨cs, hcs, rfl⟩ := List.mem_map.mp hpart
    refine ⟨?_, ?_⟩
    · intro hempty
      rw [hempty] at hkept
      exact absurd hkept (by decide)
    · rw [String.toList_ofList]
      exact notMem_of_mem_cutAtSlashes hcs

namespace Path

variable {p : Path}

/-- The empty names with which a path from the top of the file system starts. -/
def lead (p : Path) : List String := List.replicate p.anchor.length ""

theorem partsOf_text (h : p.IsNormal) (hsome : p.parts ≠ []) : partsOf p.text = p.lead ++ p.parts := by
  have hnames : partsOf ("/".intercalate p.parts) = p.parts :=
    partsOf_intercalate (fun name hname => (h.named name hname).2) hsome
  rw [text, if_neg fun hempty => hsome hempty.2, lead, partsOf_anchor_append h.anchored, hnames]

theorem partsOf_text_of_nil (h : p.IsNormal) (hnone : p.parts = []) :
    partsOf p.text = p.lead ++ [if p.anchor = "" then "." else ""] := by
  rw [text, hnone, lead]
  rcases h.anchored with hanchor | hanchor | hanchor <;> rw [hanchor] <;> rfl

end Path

/-- A name that ends a text of a path is the name of the path. -/
theorem name_ofText_of_partsOf {text name : String} {before : List String}
    (h : partsOf text = before ++ [name]) (hsome : name ≠ "") (hdot : name ≠ ".") :
    (Path.ofText text).name = name := by
  have hparts : (Path.ofText text).parts =
      (before.filter fun part => part ≠ "" && part ≠ ".") ++ [name] := by
    simp [Path.ofText, h, hsome, hdot]
  rw [Path.name, hparts, List.getLast?_concat]
  rfl

/-- The name of a path is read back from its text. -/
theorem name_ofText_text {p : Path} (hanchor : IsAnchor p.anchor) (hsome : p.name ≠ "")
    (hdot : p.name ≠ ".") (hslash : '/' ∉ p.name.toList) : (Path.ofText p.text).name = p.name := by
  obtain hnil | ⟨names, name, hparts⟩ := List.eq_nil_or_concat p.parts
  · exact absurd (by rw [Path.name, hnil]; rfl) hsome
  rw [List.concat_eq_append] at hparts
  have hname : p.name = name := by
    rw [Path.name, hparts, List.getLast?_concat]
    rfl
  rw [hname] at hsome hdot hslash ⊢
  have hlast := partsOf_of_notMem hslash
  have htext : p.text = p.anchor ++ "/".intercalate (names ++ [name]) := by
    rw [Path.text, hparts, if_neg (by simp)]
  suffices ∃ before, partsOf p.text = before ++ [name] by
    obtain ⟨before, hbefore⟩ := this
    exact name_ofText_of_partsOf hbefore hsome hdot
  by_cases hnone : names = []
  · -- Only the anchor stands before the name.
    rw [htext, hnone, List.nil_append, String.intercalate_singleton, partsOf_anchor_append hanchor, hlast]
    exact ⟨_, rfl⟩
  · rw [htext, String.intercalate_append_of_ne_nil hnone (List.cons_ne_nil _ _),
      String.intercalate_singleton, ← String.append_assoc, ← String.append_assoc, partsOf_append_slash, hlast]
    exact ⟨_, rfl⟩

/-! ## Following names -/

namespace FileTree

variable {t : FileTree}

/-- What a list of names leads to. -/
def follow (t : FileTree) (names : List String) : Except Problem Place :=
  let begun : Place × List String :=
    if (partsOf t.root).isPrefixOf names then (.directory [], names.drop (partsOf t.root).length)
    else if names.head? = some "" then (.above, names)
    else (.directory t.working, names)
  begun.2.foldlM (fun place name => t.step name place) begun.1

/-- Whether the top of the tree is the top of the file system, or an absolute path below that. -/
def HasPlainRoot (t : FileTree) : Prop :=
  (partsOf t.root).head? = some "" ∧ (partsOf t.root)[1]? ≠ some ""

theorem resolve_of_find {path : String} {place : Place} (h : t.find path = .ok place) :
    t.resolve path = .ok place := by
  rw [find] at h
  split_ifs at h
  exact mapError_eq_ok_iff.mp h

/-- Apart from the limit on its length, a path is followed name by name. -/
theorem resolve_eq_follow {path : String} (hsome : path ≠ "")
    (hshort : ¬ pathSizeLimit ≤ path.utf8ByteSize) : t.resolve path = t.follow (partsOf path) := by
  rw [resolve, if_neg hsome, if_neg hshort]
  rfl

theorem follow_of_resolve {path : String} {place : Place} (h : t.resolve path = .ok place) :
    t.follow (partsOf path) = .ok place := by
  by_cases hsome : path = ""
  · rw [resolve, if_pos hsome] at h
    cases h
  · by_cases hlong : pathSizeLimit ≤ path.utf8ByteSize
    · rw [resolve, if_neg hsome, if_pos hlong] at h
      cases h
    · rw [← resolve_eq_follow hsome hlong, h]

theorem follow_root : t.follow (partsOf t.root) = .ok (.directory []) := by
  have hself : (partsOf t.root).isPrefixOf (partsOf t.root) = true :=
    List.isPrefixOf_iff_prefix.mpr List.prefix_rfl
  simp only [follow, hself, if_true, List.drop_length, List.foldlM_nil]
  rfl

/-- Names with one more lead one step further. -/
theorem follow_concat {names : List String} {name : String} (hroot : partsOf t.root ≠ names ++ [name])
    (hfirst : names = [] → name ≠ "") :
    t.follow (names ++ [name]) = t.follow names >>= fun place => t.step name place := by
  have hprefix : (partsOf t.root).isPrefixOf (names ++ [name]) = (partsOf t.root).isPrefixOf names := by
    rw [Bool.eq_iff_iff, List.isPrefixOf_iff_prefix, List.isPrefixOf_iff_prefix, List.prefix_concat_iff]
    exact or_iff_right hroot
  have hhead : (names ++ [name]).head? = some "" ↔ names.head? = some "" := by
    cases names with
    | nil => simpa using hfirst rfl
    | cons first rest => rfl
  have hlast (before : List String) (place : Place) :
      (before ++ [name]).foldlM (fun place name => t.step name place) place =
        before.foldlM (fun place name => t.step name place) place >>= fun place => t.step name place := by
    rw [List.foldlM_append]
    simp only [List.foldlM_cons, List.foldlM_nil, bind_pure]
  simp only [follow, hprefix, hhead]
  split_ifs with htop habove
  · have hle := (List.isPrefixOf_iff_prefix.mp htop).length_le
    rw [List.drop_append_of_le_length hle, hlast]
  · rw [hlast]
  · rw [hlast]

/-- An empty name and a single dot lead nowhere else. -/
theorem eq_of_step_dot {dot : String} (hdot : dot = "" ∨ dot = ".") {place next : Place}
    (h : t.step dot place = .ok next) : next = place := by
  cases place with
  | file other old => cases h
  | directory directory =>
    rw [step, if_pos hdot] at h
    exact (Except.ok.inj h).symm
  | above =>
    rw [step, if_pos (by tauto)] at h
    exact (Except.ok.inj h).symm

theorem fileAt?_of_placeAt? {place found : Location} {old : ByteArray}
    (h : t.placeAt? place = some (.file found old)) : t.fileAt? found = some old := by
  rw [placeAt?] at h
  cases hfile : t.fileAt? place with
  | none =>
    rw [hfile] at h
    dsimp only at h
    split_ifs at h
    cases h
  | some bytes =>
    rw [hfile] at h
    cases h
    exact hfile

theorem fileAt?_of_step {name : String} {place : Place} {found : Location} {old : ByteArray}
    (h : t.step name place = .ok (.file found old)) : t.fileAt? found = some old := by
  cases place with
  | file other bytes => cases h
  | above =>
    simp only [step] at h
    split_ifs at h
    cases h
  | directory directory =>
    simp only [step] at h
    split_ifs at h
    · cases h
    · rw [placeAbove] at h
      split_ifs at h <;> cases h
    · cases hplace : t.placeAt? (directory ++ [name]) with
      | none =>
        rw [hplace] at h
        cases h
      | some place =>
        rw [hplace] at h
        cases h
        exact fileAt?_of_placeAt? hplace

theorem fileAt?_of_foldlM {names : List String} {place : Place} {found : Location} {old : ByteArray}
    (hstart : ∀ other bytes, place = .file other bytes → t.fileAt? other = some bytes)
    (h : names.foldlM (fun place name => t.step name place) place = .ok (.file found old)) :
    t.fileAt? found = some old := by
  induction names generalizing place with
  | nil =>
    cases h
    exact hstart found old rfl
  | cons name rest ih =>
    rw [List.foldlM_cons] at h
    obtain ⟨next, hstep, hrest⟩ := bind_eq_ok_iff.mp h
    refine ih (fun other bytes hnext => ?_) hrest
    rw [hnext] at hstep
    exact fileAt?_of_step hstep

theorem fileAt?_of_resolve {path : String} {found : Location} {old : ByteArray}
    (h : t.resolve path = .ok (.file found old)) : t.fileAt? found = some old := by
  have hfollow := follow_of_resolve h
  simp only [follow] at hfollow
  split_ifs at hfollow
  · exact fileAt?_of_foldlM (by rintro _ _ ⟨⟩) hfollow
  · exact fileAt?_of_foldlM (by rintro _ _ ⟨⟩) hfollow
  · exact fileAt?_of_foldlM (by rintro _ _ ⟨⟩) hfollow

/-- The directory of a path is one step above it. -/
theorem follow_of_parent {p : Path} (hp : p.IsNormal) (hroot : t.HasPlainRoot) {names : List String}
    {name : String} (hparts : p.parts = names ++ [name]) {directory : Location}
    (h : t.resolve p.parent.text = .ok (.directory directory)) :
    t.follow (p.lead ++ names) = .ok (.directory directory) := by
  have hnames : p.parent.parts = names := by
    rw [Path.parent, hparts, List.dropLast_concat]
  have hparent : p.parent.IsNormal :=
    ⟨hp.anchored, fun other hother => hp.named other (List.dropLast_subset _ hother)⟩
  have hfollow := follow_of_resolve h
  by_cases hsome : names = []
  · -- The directory is where the path starts, and its text ends in a name that leads nowhere else.
    rw [Path.partsOf_text_of_nil hparent (hnames.trans hsome)] at hfollow
    rw [hsome, List.append_nil]
    have hlead : p.parent.lead = p.lead := rfl
    have hanchor : p.parent.anchor = p.anchor := rfl
    rw [hlead, hanchor, follow_concat] at hfollow
    · obtain ⟨place, hbefore, hstep⟩ := bind_eq_ok_iff.mp hfollow
      have hdot : (if p.anchor = "" then "." else "") = "" ∨ (if p.anchor = "" then "." else "") = "." := by
        split_ifs
        · exact .inr rfl
        · exact .inl rfl
      rw [hbefore, eq_of_step_dot hdot hstep]
    · intro heq
      rw [HasPlainRoot, heq, Path.lead] at hroot
      rcases hp.anchored with hanchor | hanchor | hanchor <;> rw [hanchor] at hroot
      · exact absurd hroot.1 (by decide)
      · exact absurd hroot.2 (by decide)
      · exact absurd hroot.2 (by decide)
    · intro hnone
      rw [Path.lead, List.replicate_eq_nil_iff] at hnone
      rw [if_pos (String.length_eq_zero_iff.mp hnone)]
      decide
  · rw [Path.partsOf_text hparent (hnames ▸ hsome), hnames] at hfollow
    exact hfollow

end FileTree
end PeSignals.Files
