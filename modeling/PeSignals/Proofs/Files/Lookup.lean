import Mathlib
import PeSignals.Files.Tree

/-!
# Paths that are too long

Asking what stands at a path is an error only where the path, or a name on it, is too long. A name longer
than a directory can hold is so in every tree at the top of the file system.
-/
namespace PeSignals.Files

variable {t : FileTree}

/-- Whether a path cannot be looked up because it, or a name on it, is too long. -/
def FileTree.IsTooLong (t : FileTree) (path : String) : Prop :=
  ∃ shown, t.find path = .error (.system .nameTooLong shown)

theorem probe_of_tooLong {path : String} (h : t.IsTooLong path) : ∃ e, t.probe path = .error e := by
  obtain ⟨shown, hfind⟩ := h
  exact ⟨.system .nameTooLong shown, by rw [FileTree.probe, hfind]⟩

/-- A path that can be looked up has an answer, even if nothing stands there. -/
theorem probe_of_not_tooLong {path : String} (h : ¬ t.IsTooLong path) :
    ∃ place, t.probe path = .ok place := by
  rw [FileTree.probe]
  split
  · exact ⟨_, rfl⟩
  · next shown hfind => exact absurd ⟨shown, hfind⟩ h
  · exact ⟨_, rfl⟩

theorem fileLocation_of_tooLong {path : String} (h : t.IsTooLong path) :
    ∃ e, t.fileLocation path = .error e := by
  obtain ⟨e, hprobe⟩ := probe_of_tooLong h
  exact ⟨e, by rw [FileTree.fileLocation, hprobe]; rfl⟩

theorem fileLocation_of_not_tooLong {path : String} (h : ¬ t.IsTooLong path) :
    ∃ location, t.fileLocation path = .ok location := by
  obtain ⟨place, hprobe⟩ := probe_of_not_tooLong h
  exact ⟨_, by rw [FileTree.fileLocation, hprobe]; rfl⟩

/-! ## Single names -/

theorem cutAtSlashes_of_notMem {cs : List Char} (h : '/' ∉ cs) : cutAtSlashes cs = [cs] := by
  induction cs with
  | nil => rfl
  | cons c rest ih =>
    have hc : c ≠ '/' := fun heq => h (heq ▸ List.mem_cons_self)
    rw [cutAtSlashes, ih fun hrest => h (List.mem_cons_of_mem c hrest)]
    exact fun heq => hc heq

theorem partsOf_of_notMem {name : String} (h : '/' ∉ name.toList) : partsOf name = [name] := by
  rw [partsOf, cutAtSlashes_of_notMem h, List.map_singleton, String.ofList_toList]

theorem utf8ByteSize_replicate (n : Nat) (c : Char) :
    (String.ofList (List.replicate n c)).utf8ByteSize = n * c.utf8Size := by
  rw [String.utf8ByteSize_ofList]
  induction n with
  | zero => simp
  | succ n ih => rw [List.replicate_succ, String.utf8Len_cons, ih, Nat.succ_mul]

theorem ne_of_size_lt {name short : String} (hlong : maximumNameSize < name.utf8ByteSize)
    (hshort : short.utf8ByteSize ≤ maximumNameSize) : name ≠ short := by
  rintro rfl
  omega

/-- A name without slashes is a path in normal form. -/
theorem text_ofText_of_notMem {name : String} (h : '/' ∉ name.toList) (hsome : name ≠ "")
    (hdot : name ≠ ".") : (Path.ofText name).text = name := by
  have hanchor : Path.anchorOf name = "" := by
    have hnone : name.toList.takeWhile (· = '/') = [] := by
      rw [List.takeWhile_eq_nil_iff]
      intro hpos hslash
      exact h (of_decide_eq_true hslash ▸ List.getElem_mem hpos)
    rw [Path.anchorOf, hnone]
    rfl
  have hparts : (Path.ofText name).parts = [name] := by
    simp [Path.ofText, partsOf_of_notMem h, hsome, hdot]
  have hjoined : (Path.ofText name).text = "" ++ "/".intercalate [name] := by
    rw [Path.text, hparts, if_neg fun hempty => List.cons_ne_nil _ _ hempty.2]
    exact congrArg (· ++ _) hanchor
  rw [hjoined, String.empty_append]
  rfl

/-- A name longer than a directory can hold is an error, not a missing file. -/
theorem isTooLong_of_name {name : String} (hroot : t.root = "") (h : '/' ∉ name.toList)
    (hnul : '\x00' ∉ name.toList) (hlong : maximumNameSize < name.utf8ByteSize) : t.IsTooLong name := by
  have hsome : name ≠ "" := ne_of_size_lt hlong (by decide)
  have hdot : name ≠ "." := ne_of_size_lt hlong (by decide)
  have hdots : name ≠ ".." := ne_of_size_lt hlong (by decide)
  have hbegin : t.begin name = (.directory t.working, [name]) := by
    have htop : partsOf t.root = [""] := by rw [hroot]; rfl
    simp [FileTree.begin, htop, partsOf_of_notMem h, hsome, Ne.symm hsome]
  have hresolve : t.resolve name = .error .nameTooLong := by
    rw [FileTree.resolve, if_neg hsome]
    -- Either the path as a whole is refused, or its only name is at the first step.
    split_ifs
    · rfl
    · simp [hbegin, FileTree.step, hsome, hdot, hdots, hlong]
  have hnoNul : name.toList.contains '\x00' = false := by simpa using hnul
  refine ⟨name, ?_⟩
  rw [FileTree.find, hnoNul, hresolve]
  rfl

/-- A name of one character that is repeated too often. -/
theorem isTooLong_replicate {n : Nat} {c : Char} (hroot : t.root = "") (hn : maximumNameSize < n)
    (hslash : '/' ≠ c) (hnul : '\x00' ≠ c) :
    t.IsTooLong (Path.ofText (String.ofList (List.replicate n c))).text := by
  have hlong : maximumNameSize < (String.ofList (List.replicate n c)).utf8ByteSize := by
    rw [utf8ByteSize_replicate]
    exact lt_of_lt_of_le hn (Nat.le_mul_of_pos_right n c.utf8Size_pos)
  have honly {other : Char} (hne : other ≠ c) :
      other ∉ (String.ofList (List.replicate n c)).toList := by
    rw [String.toList_ofList]
    exact fun hmem => hne (List.eq_of_mem_replicate hmem)
  rw [text_ofText_of_notMem (honly hslash) (ne_of_size_lt hlong (by decide))
    (ne_of_size_lt hlong (by decide))]
  exact isTooLong_of_name hroot (honly hslash) (honly hnul) hlong

/-- A name that no directory can hold. -/
def overlongName : String := String.ofList (List.replicate 300 'n')

theorem overlongName_ne_empty : overlongName ≠ "" :=
  have hsize : overlongName.utf8ByteSize = 300 * 'n'.utf8Size := utf8ByteSize_replicate 300 'n'
  ne_of_size_lt (hsize ▸ by decide) (by decide)

theorem isTooLong_overlongName (h : t.root = "") :
    t.IsTooLong (Path.ofText overlongName).text :=
  isTooLong_replicate h (by decide) (by decide) (by decide)

end PeSignals.Files
