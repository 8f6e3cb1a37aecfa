import Mathlib
import PeSignals.Image.Writer
import PeSignals.Proofs.Image.Acceptance
import PeSignals.Proofs.Image.ImportWalk
import PeSignals.Proofs.Image.SectionTable
import PeSignals.Proofs.Text.Fragment
import PeSignals.Proofs.Text.SortedSet

/-!
# Images with bytes behind them

Bytes behind an image never break it and never change what its headers say. The walk over its imports
reads what it read before, and goes on only where it used to meet the end.
-/
namespace PeSignals.Image

open Bytes (Cursor ReadError littleEndian values window)

variable {data : ByteArray} (more : ByteArray)

/-! ## Headers and sections -/

theorem headerOffset_append (h : 64 ≤ data.size) : headerOffset (data ++ more) = headerOffset data :=
  Bytes.littleEndian_append data more (by omega)

theorem HasHeader.sectionCount_append (h : HasHeader data) :
    sectionCount (data ++ more) = sectionCount data := by
  have hends := h.header_ends
  rw [sectionCount, headerOffset_append more h.stub_fits]
  exact Bytes.littleEndian_append data more (by omega)

theorem HasHeader.tableOffset_append (h : HasHeader data) :
    tableOffset (data ++ more) = tableOffset data := by
  have hends := h.header_ends
  rw [tableOffset, headerOffset_append more h.stub_fits,
    Bytes.littleEndian_append data more (by omega)]
  rfl

/-- Of the header only the size of the file changes. -/
theorem HasHeader.headerAt_append (h : HasHeader data) :
    headerAt (data ++ more) (headerOffset (data ++ more)) =
      { headerAt data (headerOffset data) with fileSize := (data ++ more).size } := by
  have hends := h.header_ends
  rw [headerOffset_append more h.stub_fits, headerAt, headerAt,
    Bytes.littleEndian_append data more (by omega), Bytes.littleEndian_append data more (by omega),
    Bytes.littleEndian_append data more (by omega)]

theorem entriesAt_append {offset n : Nat} (h : n = 0 ∨ offset + 40 * n ≤ data.size) :
    entriesAt (data ++ more) offset n = entriesAt data offset n := by
  refine List.map_congr_left fun k hk => ?_
  have hk := List.mem_range.mp hk
  rw [entryAt, entryAt, Bytes.window_append data more _ (by rw [sectionHeaderSize]; omega)]

theorem IsImage.sections_append (h : IsImage data) :
    entriesAt (data ++ more) (tableOffset (data ++ more)) (sectionCount (data ++ more)) =
      entriesAt data (tableOffset data) (sectionCount data) := by
  rw [h.tableOffset_append more, h.sectionCount_append more, entriesAt_append more h.table_ends]

theorem HasHeader.append (h : HasHeader data) : HasHeader (data ++ more) := by
  have hoffset := headerOffset_append more h.stub_fits
  have hsize : (data ++ more).size = data.size + more.size := ByteArray.size_append
  have hfits := h.stub_fits
  have hstarts := h.header_starts
  have hends := h.header_ends
  refine ⟨by omega, ?_, by omega, ?_, by omega⟩
  · rw [Bytes.values_append data more (by omega), h.stub_signature]
  · rw [hoffset, Bytes.values_append data more (by omega), h.header_signature]

theorem IsImage.append (h : IsImage data) : IsImage (data ++ more) := by
  have hsize : (data ++ more).size = data.size + more.size := ByteArray.size_append
  refine ⟨h.toHasHeader.append more, ?_⟩
  rw [h.sectionCount_append more, h.tableOffset_append more, hsize]
  rcases h.table_ends with hnone | hends
  · exact .inl hnone
  · exact .inr (by omega)

/-! ## Reads of longer data -/

theorem bytesAt_append {offset : Int} {n : Nat} {bytes : ByteArray}
    (h : bytesAt data offset n = .ok bytes) : bytesAt (data ++ more) offset n = .ok bytes := by
  have hfits := (bytesAt_eq_ok h).2
  rw [bytesAt] at h ⊢
  cases hposition : positionOf offset with
  | error e => rw [hposition] at h; cases h
  | ok p =>
    obtain ⟨-, rfl⟩ := positionOf_eq_ok hposition
    rw [hposition] at h
    simp only [bind, Except.bind] at h ⊢
    rw [if_pos hfits] at h
    rw [if_pos (by rw [ByteArray.size_append]; omega), Bytes.window_append data more _ hfits, h]

theorem recordAt_append {table : Int} {k : Nat} {record : ImportDescriptor}
    (h : recordAt data table k = .ok record) : recordAt (data ++ more) table k = .ok record := by
  rw [recordAt] at h ⊢
  cases hread : bytesAt data (table + 20 * k) 20 with
  | error e => rw [hread] at h; cases h
  | ok bytes => rw [bytesAt_append more hread, ← hread, h]

theorem nameAt_append {offset : Int} {name : String} (h : nameAt data offset = .ok name) :
    nameAt (data ++ more) offset = .ok name := by
  rw [nameAt] at h ⊢
  cases hposition : positionOf offset with
  | error e => rw [hposition] at h; cases h
  | ok p =>
    rw [hposition] at h
    simp only [bind, Except.bind] at h ⊢
    split_ifs at h with hended
    obtain ⟨rest, hrest⟩ := Bytes.values_prefix_append data more p maximumNameLength
    have hcap : (values (data ++ more) p maximumNameLength).length ≤ maximumNameLength := by
      rw [Bytes.length_values]
      exact Nat.min_le_left _ _
    rw [← hrest] at hcap ⊢
    rw [List.length_append] at hcap
    -- What follows a zero is no part of the name, and nothing follows a name of full length.
    rcases hended with hzero | hfull
    · have hkept : (values data p maximumNameLength ++ rest).takeWhile (· ≠ 0) =
          (values data p maximumNameLength).takeWhile (· ≠ 0) := by
        have hshort := length_takeWhile_lt_of_mem hzero
        rw [List.takeWhile_append, if_neg (Nat.ne_of_lt hshort)]
      rw [if_pos (.inl (List.mem_append_left rest hzero)), hkept, h]
    · obtain rfl := List.length_eq_zero_iff.mp (by omega : rest.length = 0)
      rw [List.append_nil, if_pos (.inr hfull), h]

theorem readNumber_append {offset : Int} {width value : Nat} {c moved : Cursor data}
    (hwidth : 0 < width) (h : (c.seek offset).bind (·.number width) = .ok (value, moved))
    (other : Cursor (data ++ more)) :
    ∃ after, (other.seek offset).bind (·.number width) = .ok (value, after) := by
  rw [seek_eq] at h ⊢
  cases hposition : positionOf offset with
  | error e => rw [hposition] at h; cases h
  | ok p =>
    rw [hposition] at h
    simp only [Except.map, Except.bind] at h ⊢
    by_cases hfits : p + width ≤ data.size
    · rw [Cursor.number_of_le hfits] at h
      obtain ⟨rfl, -⟩ := Prod.mk.inj (Except.ok.inj h)
      have hlonger : p + width ≤ (data ++ more).size := by
        rw [ByteArray.size_append]
        omega
      exact ⟨_, by rw [Cursor.number_of_le hlonger, Bytes.littleEndian_append data more hfits]⟩
    · rw [Cursor.number_of_lt hwidth (Nat.not_le.mp hfits)] at h
      cases h

theorem readName_append {offset : Int} {name : String} {c moved : Cursor data}
    (h : readName c offset = .ok (name, moved)) (other : Cursor (data ++ more)) :
    ∃ after, readName other offset = .ok (name, after) := by
  have hread := readName_map c offset
  have hlonger := readName_map other offset
  rw [h] at hread
  rw [nameAt_append more hread.symm] at hlonger
  exact Cursor.eq_ok_of_map_fst hlonger

theorem readThunkName_append {sections : List Section} {bitness : Int} {value : Nat}
    {name : Option String} {c moved : Cursor data}
    (h : readThunkName sections bitness c value = .ok (name, moved)) (other : Cursor (data ++ more)) :
    ∃ after, readThunkName sections bitness other value = .ok (name, after) := by
  rw [readThunkName] at h ⊢
  split_ifs at h ⊢ with hordinal
  · obtain ⟨rfl, -⟩ := Prod.mk.inj (Except.ok.inj h)
    exact ⟨other, rfl⟩
  · cases hoffset : fileOffset? sections (hintNameRva value) with
    | none =>
      rw [hoffset] at h
      obtain ⟨rfl, -⟩ := Prod.mk.inj (Except.ok.inj h)
      exact ⟨other, rfl⟩
    | some offset =>
      rw [hoffset] at h
      simp only [bind, Except.bind] at h ⊢
      cases hread : readName c (offset + 2) with
      | error e => rw [hread] at h; cases h
      | ok read =>
        rw [hread] at h
        obtain ⟨rfl, -⟩ := Prod.mk.inj (Except.ok.inj h)
        obtain ⟨after, hafter⟩ := readName_append more hread other
        exact ⟨after, by rw [hafter]; rfl⟩

/-! ## Walks that go on -/

/-- A listing and one of longer data: names may follow only where the first failed. -/
structure Listing.GoesOn (short long : Listing String) : Prop where
  items : short.items.toList <+: long.items.toList
  same : short.stop = none → long = short

/-- What a part of a walk collects, and what it collects of longer data. -/
structure Collected.GoesOn (short long : Collected) : Prop where
  libraries : short.libraries <+: long.libraries
  functions : short.functions <+: long.functions
  same : short.failure = none → long = short

/-- The imports of an image, and those of longer data. -/
structure Imports.GoesOn (short long : Imports) : Prop where
  libraries : short.libraries.toList <+: long.libraries.toList
  functions : short.functions.toList <+: long.functions.toList
  same : (∀ cause, short.ending ≠ .stopped cause) → long = short

theorem Listing.GoesOn.refl (l : Listing String) : l.GoesOn l :=
  ⟨List.prefix_rfl, fun _ => rfl⟩

theorem Collected.GoesOn.refl (c : Collected) : c.GoesOn c :=
  ⟨List.prefix_rfl, List.prefix_rfl, fun _ => rfl⟩

theorem Imports.GoesOn.refl (i : Imports) : i.GoesOn i :=
  ⟨List.prefix_rfl, List.prefix_rfl, fun _ => rfl⟩

/-- Names found before are kept, however a lookup table goes on. -/
theorem prefix_thunkNamesFrom (sections : List Section) (bitness : Int) (c : Cursor data)
    (offset : Int) (found : Array String) (left : Nat) :
    found.toList <+: (thunkNamesFrom sections bitness c offset found left).1.items.toList := by
  induction left generalizing c offset found with
  | zero => exact List.prefix_rfl
  | succ left ih =>
    rw [thunkNamesFrom]
    split
    · exact List.prefix_rfl
    · exact List.prefix_rfl
    · split
      · exact List.prefix_rfl
      · next name _ _ =>
        refine List.IsPrefix.trans ?_ (ih _ _ _)
        cases name with
        | none => exact List.prefix_rfl
        | some name => rw [Array.toList_push]; exact List.prefix_append _ _

/-- A lookup table of longer data gives the same names up to the read that failed. -/
theorem thunkNamesFrom_append (sections : List Section) (bitness : Int) (c : Cursor data)
    (other : Cursor (data ++ more)) (offset : Int) (found : Array String) (left : Nat) :
    (thunkNamesFrom sections bitness c offset found left).1.GoesOn
      (thunkNamesFrom sections bitness other offset found left).1 := by
  induction left generalizing c other offset found with
  | zero => exact .refl _
  | succ left ih =>
    have hkept := prefix_thunkNamesFrom sections bitness other offset found (left + 1)
    have hwidth : 0 < thunkWidth bitness := by
      unfold thunkWidth
      split <;> decide
    rw [thunkNamesFrom]
    cases hread : (c.seek offset).bind (·.number (thunkWidth bitness)) with
    | error e => exact ⟨hkept, fun h => by cases h⟩
    | ok read =>
      obtain ⟨value, moved⟩ := read
      obtain ⟨after, hafter⟩ := readNumber_append more hwidth hread other
      cases value with
      | zero =>
        rw [thunkNamesFrom, hafter]
        exact .refl _
      | succ value =>
        cases hname : readThunkName sections bitness moved (value + 1) with
        | error e =>
          simp only [hname]
          exact ⟨hkept, fun h => by cases h⟩
        | ok named =>
          obtain ⟨name, behind⟩ := named
          obtain ⟨beyond, hbeyond⟩ := readThunkName_append more hname after
          rw [thunkNamesFrom, hafter]
          simp only [hname, hbeyond]
          exact ih _ _ _ _

/-- A lookup table yields at least the names that it yielded before. -/
theorem thunkNames_append (sections : List Section) (bitness : Int) (c : Cursor data)
    (other : Cursor (data ++ more)) (rva : Int) :
    (thunkNames sections bitness c rva).1.GoesOn (thunkNames sections bitness other rva).1 := by
  unfold thunkNames
  cases fileOffset? sections rva with
  | none => exact .refl _
  | some offset => exact thunkNamesFrom_append more sections bitness c other offset #[] maximumThunks

theorem collectedAt_append (sections : List Section) (bitness : Int) (record : ImportDescriptor)
    (nameOffset : Int) :
    (collectedAt data sections bitness record nameOffset).GoesOn
      (collectedAt (data ++ more) sections bitness record nameOffset) := by
  unfold collectedAt
  cases hname : nameAt data nameOffset with
  | error e => exact ⟨List.nil_prefix, List.nil_prefix, fun h => by cases h⟩
  | ok name =>
    rw [nameAt_append more hname]
    simp only
    split_ifs with hthunk
    · exact .refl _
    · have htable := thunkNames_append more sections bitness (Cursor.start data)
        (Cursor.start (data ++ more)) record.originalFirstThunk
      refine ⟨List.prefix_rfl, htable.items, fun hend => ?_⟩
      rw [htable.same hend]

theorem collectedOf_append (sections : List Section) (bitness : Int) (record : ImportDescriptor) :
    (collectedOf data sections bitness record).GoesOn
      (collectedOf (data ++ more) sections bitness record) := by
  unfold collectedOf
  cases fileOffset? sections record.nameRva with
  | none => exact .refl _
  | some nameOffset => exact collectedAt_append more sections bitness record nameOffset

theorem prefix_followedBy (first next : Collected) :
    first.libraries <+: (first.followedBy next).libraries ∧
      first.functions <+: (first.followedBy next).functions := by
  unfold Collected.followedBy
  split_ifs
  · exact ⟨List.prefix_rfl, List.prefix_rfl⟩
  · exact ⟨List.prefix_append _ _, List.prefix_append _ _⟩

/-- Only in the shorter data can a failure of the first part hide the second. -/
theorem Collected.GoesOn.followedBy {first next first' next' : Collected} (hfirst : first.GoesOn first')
    (hnext : next.GoesOn next') :
    (first.followedBy next).GoesOn (first'.followedBy next') := by
  cases hfailure : first.failure with
  | none =>
    rw [hfirst.same hfailure]
    simp only [Collected.followedBy, hfailure, Option.isSome_none, Bool.false_eq_true, if_false]
    exact ⟨(List.prefix_append_right_inj _).mpr hnext.libraries,
      (List.prefix_append_right_inj _).mpr hnext.functions, fun hend => by rw [hnext.same hend]⟩
  | some e =>
    -- The short walk ended within its first part, so all that follows in the long one is new.
    have hstop : first.followedBy next = first := by
      rw [Collected.followedBy, hfailure]
      rfl
    obtain ⟨hlibraries, hfunctions⟩ := prefix_followedBy first' next'
    rw [hstop]
    exact ⟨hfirst.libraries.trans hlibraries, hfirst.functions.trans hfunctions,
      fun hend => by rw [hfailure] at hend; cases hend⟩

theorem collectedFrom_of_terminator {sections : List Section} {bitness table : Int} {k : Nat}
    {record : ImportDescriptor} (h : recordAt data table k = .ok record) (hend : record.nameRva = 0) :
    collectedFrom data sections bitness table k = {} := by
  rw [collectedFrom]
  split
  · next heq => rw [h] at heq; cases heq
  · next heq => rw [h] at heq; cases heq; exact if_pos hend

theorem collectedFrom_of_record {sections : List Section} {bitness table : Int} {k : Nat}
    {record : ImportDescriptor} (h : recordAt data table k = .ok record) (hmore : record.nameRva ≠ 0) :
    collectedFrom data sections bitness table k =
      (collectedOf data sections bitness record).followedBy
        (collectedFrom data sections bitness table (k + 1)) := by
  conv_lhs => rw [collectedFrom]
  split
  · next heq => rw [h] at heq; cases heq
  · next heq => rw [h] at heq; cases heq; exact if_neg hmore

/-- From any record on, the walk over longer data collects what the shorter one did and goes on where
that failed. -/
theorem collectedFrom_append (sections : List Section) (bitness table : Int) (k : Nat) :
    (collectedFrom data sections bitness table k).GoesOn
      (collectedFrom (data ++ more) sections bitness table k) := by
  -- The shorter walk leads: the longer one reads every record again that this one can read.
  fun_induction collectedFrom data sections bitness table k with
  | case1 k e hrecord => exact ⟨List.nil_prefix, List.nil_prefix, fun h => by cases h⟩
  | case2 k record hrecord hend =>
    rw [collectedFrom_of_terminator (recordAt_append more hrecord) hend]
    exact .refl _
  | case3 k record hrecord hmore ih =>
    rw [collectedFrom_of_record (recordAt_append more hrecord) hmore]
    exact (collectedOf_append more sections bitness record).followedBy ih

theorem importsBehind_append (sections : List Section) (bitness : Int) (directory : ByteArray) :
    (importsBehind data sections bitness directory).GoesOn
      (importsBehind (data ++ more) sections bitness directory) := by
  unfold importsBehind
  simp only
  split_ifs with habsent
  · exact .refl _
  · cases fileOffset? sections (littleEndian directory 0 4 : Nat) with
    | none => exact .refl _
    | some table =>
      have hwalk : (collectedFrom data sections bitness table 0).GoesOn
          (collectedFrom (data ++ more) sections bitness table 0) :=
        collectedFrom_append more sections bitness table 0
      refine ⟨hwalk.libraries, hwalk.functions, fun hend => ?_⟩
      cases hfailure : (collectedFrom data sections bitness table 0).failure with
      | none => simp only [hwalk.same hfailure]
      | some cause => exact absurd (by simp only [hfailure]; rfl) (hend cause)

/-- With the same header and sections, a walk over longer data goes on where the walk over the shorter
data met the end. -/
theorem walkImports_append (header : Header) (sections : List Section) (c : Cursor data)
    (other : Cursor (data ++ more)) :
    (walkImports c header sections).GoesOn (walkImports other header sections) := by
  cases hread : bytesAt data header.importDirectoryOffset 8 with
  | error e =>
    rw [walkImports_of_error hread]
    exact ⟨List.nil_prefix, List.nil_prefix, fun hend => absurd rfl (hend e)⟩
  | ok directory =>
    rw [walkImports_of_directory hread, walkImports_of_directory (bytesAt_append more hread)]
    exact importsBehind_append more sections header.bitness directory

/-- The imports of an image go on in longer data where the walk over them met the end. -/
theorem IsImage.imports_append (h : IsImage data) :
    (importsOfImage data).GoesOn (importsOfImage (data ++ more)) := by
  rw [importsOfImage, importsOfImage, h.sections_append more, h.headerAt_append more]
  -- The size of the file is no part of what a walk looks at.
  exact walkImports_append more _ _ _ _

theorem opensWith_walkStoppedLine (libraries : Nat) (category message : String) :
    Text.opensWith (walkStoppedLine libraries category message) "import walk stopped" = true := by
  have hfirst : "import walk stopped after " = "import walk stopped" ++ " after " := by
    decide
  unfold walkStoppedLine
  rw [hfirst]
  simp only [String.append_assoc, toString]
  exact Text.opensWith_append _ _

/-- A walk without a report of having stopped did not stop. -/
theorem not_stopped_of_diagnostic {imports : Imports}
    (h : ∀ line ∈ imports.diagnostic?.toList, Text.opensWith line "import walk stopped" = false)
    (cause : ReadError) : imports.ending ≠ .stopped cause := by
  intro hstopped
  have hline : imports.diagnostic?.toList =
      [walkStoppedLine imports.libraries.size cause.category cause.message] := by
    rw [Imports.diagnostic?, hstopped]
    rfl
  rw [hline] at h
  have hnot := h _ List.mem_cons_self
  rw [opensWith_walkStoppedLine] at hnot
  cases hnot

/-! ## Images -/

/-- What becomes of the image that bytes are when more bytes stand behind them. -/
structure IsAppended (data more : ByteArray) (image longer : Image) : Prop where
  bitness : longer.bitness = image.bitness
  sections : longer.sections = image.sections
  fileSize : longer.fileSize = image.fileSize + more.size
  libraries : image.libraries ⊆ longer.libraries
  functions : image.functions ⊆ longer.functions
  overlay : (image.sections = [] ∧ longer.overlay = 0) ∨
    ∃ last, IsGreatest (Section.rawEnd '' {s | s ∈ image.sections}) last ∧
      longer.overlay = max 0 (data.size + more.size - last)
  overlay_grows : image.sections ≠ [] → (∀ s ∈ image.sections, s.rawEnd ≤ data.size) →
    longer.overlay = image.overlay + more.size

theorem subset_sortedSet {short long : List String} (h : short <+: long) :
    Text.sortedSet short ⊆ Text.sortedSet long :=
  fun _ hname => Text.mem_sortedSet.mpr (h.subset (Text.mem_sortedSet.mp hname))

theorem IsImage.isAppended (h : IsImage data) (path : String) :
    IsAppended data more (imageOf data path (importsOfImage data))
      (imageOf (data ++ more) path (importsOfImage (data ++ more))) where
  bitness := by
    rw [imageOf, h.headerAt_append more, imageOf]
  sections := h.sections_append more
  fileSize := by
    rw [imageOf, imageOf, ByteArray.size_append]
    push_cast
    rfl
  libraries := subset_sortedSet (h.imports_append more).libraries
  functions := subset_sortedSet (h.imports_append more).functions
  overlay := by
    have hsections := h.sections_append more
    rw [imageOf, imageOf, hsections, ByteArray.size_append]
    by_cases hnone : entriesAt data (tableOffset data) (sectionCount data) = []
    · rw [hnone]
      exact .inl ⟨rfl, rfl⟩
    · obtain ⟨last, hlast, hoverlay⟩ := exists_isGreatest_overlaySize hnone
      refine .inr ⟨last, hlast, ?_⟩
      rw [hoverlay]
      push_cast
      rfl
  overlay_grows := by
    intro hsome hends
    obtain ⟨last, hlast, hoverlay⟩ := exists_isGreatest_overlaySize hsome
    obtain ⟨s, hs, hend⟩ := hlast.1
    have hle : last ≤ data.size := hend ▸ hends s hs
    simp only [imageOf] at hoverlay ⊢
    rw [h.sections_append more, hoverlay, hoverlay, ByteArray.size_append]
    push_cast
    omega

/-- Bytes behind an accepted image are accepted with it. They change the size of the file and of the
overlay by their number, and nothing of what was read before; names are added only if the walk over the
imports was reported to have stopped. -/
theorem parse_append {data : ByteArray} {path : String} {image : Image}
    (h : (parse data path).outcome = .image image) (more : ByteArray) :
    ∃ longer, (parse (data ++ more) path).outcome = .image longer ∧
      IsAppended data more image longer ∧
      ((∀ line ∈ (parse data path).diagnostics,
          Text.opensWith line "import walk stopped" = false) →
        longer.libraries = image.libraries ∧ longer.functions = image.functions) := by
  have himage := isImage_of_parse h
  have hparse := parse_of_isImage himage path
  rw [hparse] at h ⊢
  obtain rfl := Outcome.image.inj h
  refine ⟨_, congrArg Reading.outcome (parse_of_isImage (himage.append more) path),
    himage.isAppended more path, fun hquiet => ?_⟩
  have hsame := (himage.imports_append more).same (not_stopped_of_diagnostic hquiet)
  rw [hsame]
  exact ⟨rfl, rfl⟩

/-- A 32-bit image that is mapped as it stands and whose bytes end within a lookup table. -/
def cutShort : ByteArray := ⟨(
  padded peOffsetField [0x4D, 0x5A] ++ numberBytes 4 64 ++
  -- one section, an optional header of 112 bytes, and its import directory at 240
  [0x50, 0x45, 0, 0] ++ numberBytes 2 0x14C ++ numberBytes 2 1 ++ zeros 12 ++ numberBytes 4 112 ++
  padded 104 (numberBytes 2 0x10B) ++ numberBytes 4 240 ++ numberBytes 4 40 ++
  padded 8 (nameBytes ".all") ++ numberBytes 4 0x1000 ++ zeros 28 ++
  -- the descriptors, the names, and one entry of the lookup table at 290
  PlannedLibrary.descriptor 290 280 ++ zeros 20 ++
  libraryRecord "a.dll" ++ functionRecord "f" ++ numberBytes 4 286).toArray⟩

def cutShortImage : Image where
  path := "cut.exe"
  sections := [{ name := ".all", virtualSize := 0x1000 }]
  libraries := ["a.dll"]
  functions := ["f"]
  overlay := 294
  fileSize := 294

theorem parse_append_cutShort :
    (parse cutShort "cut.exe").outcome = .image cutShortImage ∧
    ∃ longer, (parse (cutShort ++ ⟨#[0, 0, 0, 0]⟩) "cut.exe").outcome = .image longer ∧
      IsAppended cutShort ⟨#[0, 0, 0, 0]⟩ cutShortImage longer ∧
      ((∀ line ∈ (parse cutShort "cut.exe").diagnostics,
          Text.opensWith line "import walk stopped" = false) →
        longer.libraries = cutShortImage.libraries ∧ longer.functions = cutShortImage.functions) :=
  have himage : (parse cutShort "cut.exe").outcome = .image cutShortImage := by decide +kernel
  ⟨himage, parse_append himage ⟨#[0, 0, 0, 0]⟩⟩

end PeSignals.Image
