import Mathlib
import PeSignals.Proofs.Image.Placement

/-!
# Reading what was written: imports

A written import table leads from the descriptors to the lookup tables and the names by addresses. Each
step resolves an address through the sections and finds there what was written for it, so a lookup table
gives the names of its library in order and the walk gives those of all libraries.
-/
namespace PeSignals.Image

open Bytes (Cursor Holds littleEndian positionLimit window)

variable {data : ByteArray} {sections : List Section} {bitness : Int}

/-! ## Entries of a lookup table -/

/-- The bit that marks an entry of a lookup table as an ordinal. -/
def topBit (bitness : Int) : Nat := 2 ^ (8 * thunkWidth bitness - 1)

theorem thunkWidth_eq (bitness : Int) : thunkWidth bitness = 8 ∨ thunkWidth bitness = 4 := by
  unfold thunkWidth
  split
  · exact .inl rfl
  · exact .inr rfl

theorem thunkWidth_pos (bitness : Int) : 0 < thunkWidth bitness := by
  rcases thunkWidth_eq bitness with h | h <;> omega

theorem topBit_add_topBit (bitness : Int) :
    topBit bitness + topBit bitness = 256 ^ thunkWidth bitness := by
  unfold topBit
  rcases thunkWidth_eq bitness with h | h <;> rw [h] <;> rfl

theorem le_topBit (bitness : Int) : 0x80000000 ≤ topBit bitness := by
  unfold topBit
  rcases thunkWidth_eq bitness with h | h <;> rw [h] <;> decide

theorem isOrdinal_of_lt {value : Nat} (h : value < topBit bitness) :
    isOrdinal bitness value = false := Nat.testBit_lt_two_pow h

theorem isOrdinal_topBit_add {number : Nat} (h : number < topBit bitness) :
    isOrdinal bitness (topBit bitness + number) = true := by
  rw [isOrdinal, topBit, Nat.testBit_two_pow_add_eq, Nat.testBit_lt_two_pow h]
  rfl

/-- A function that a lookup table can hold: a name that can be read back, or an ordinal below the bit
that marks it. -/
def PlannedImport.IsValid (bitness : Int) : PlannedImport → Prop
  | .named name => IsImportName name
  | .ordinal number => number < topBit bitness

def PlannedImport.name? : PlannedImport → Option String
  | .named name => some name
  | .ordinal _ => none

/-! ## Names behind addresses -/

/-- A terminated name is read from where its address is mapped to, behind what else stands there. -/
theorem nameAt_of_backs {address : Nat} (first : List UInt8) {name : String}
    (hname : IsImportName name) (h : Backs data sections address (first ++ (nameBytes name ++ [0]))) :
    ∃ offset : Nat, fileOffset? sections address = some (offset : Int) ∧
      nameAt data (offset + first.length : Nat) = .ok name := by
  obtain ⟨offset, hoffset, hlimit, hholds⟩ := h.offset (by simp)
  rw [List.length_append] at hlimit
  have hposition : ((offset + first.length : Nat) : Int) < positionLimit := by
    simp only [positionLimit]
    omega
  exact ⟨offset, hoffset, nameAt_of_holds hname hposition hholds.right⟩

theorem readName_of_nameAt {offset : Int} {name : String} (h : nameAt data offset = .ok name)
    (c : Cursor data) : ∃ moved, readName c offset = .ok (name, moved) := by
  have hread := readName_map c offset
  rw [h] at hread
  exact Cursor.eq_ok_of_map_fst hread

/-- An address that a name record stands behind yields the name. -/
theorem readThunkName_named {address : Nat} {name : String} (hname : IsImportName name)
    (h : Backs data sections address (functionRecord name)) (c : Cursor data) :
    ∃ moved, readThunkName sections bitness c address = .ok (some name, moved) := by
  have hlow : address < 0x80000000 := by
    have hpos : 0 < (functionRecord name).length := by simp [functionRecord, evened, padded]
    have := h.1
    omega
  rw [functionRecord, evened, padded, List.append_assoc [0, 0]] at h
  obtain ⟨offset, hoffset, hat⟩ := nameAt_of_backs [0, 0] hname (backs_append h).1
  obtain ⟨moved, hread⟩ := readName_of_nameAt hat c
  refine ⟨moved, ?_⟩
  have hrva : hintNameRva address = address := Nat.mod_eq_of_lt hlow
  have hbehind : ((offset + [(0 : UInt8), 0].length : Nat) : Int) = (offset : Int) + 2 := rfl
  rw [hbehind] at hread
  simp only [readThunkName, isOrdinal_of_lt (hlow.trans_le (le_topBit bitness)), hrva, hoffset, hread,
    Bool.false_eq_true, if_false, if_neg hname.ne_empty, bind, Except.bind, pure, Except.pure]

/-- An import by ordinal has no name to list. -/
theorem readThunkName_ordinal (sections : List Section) {number : Nat} (h : number < topBit bitness)
    (c : Cursor data) :
    ∃ moved, readThunkName sections bitness c (topBit bitness + number) = .ok (none, moved) := by
  refine ⟨c, ?_⟩
  rw [readThunkName, if_pos (isOrdinal_topBit_add h)]

/-! ## Lookup tables -/

/-- A written entry is read wherever the cursor stood. -/
theorem seek_number_of_holds {width value offset : Nat} (c : Cursor data) (hwidth : 0 < width)
    (h : Holds data offset (numberBytes width value)) (hvalue : value < 256 ^ width)
    (hlimit : offset < 0x100000000) :
    (c.seek offset).bind (·.number width) = .ok (value, ⟨offset + width⟩) := by
  have hne : numberBytes width value ≠ [] := by
    rw [← List.length_pos_iff, length_numberBytes]
    exact hwidth
  have hsize := h.le_size hne
  rw [length_numberBytes] at hsize
  have hposition : (offset : Int) < positionLimit := by
    simp only [positionLimit]
    omega
  rw [Cursor.seek_of_lt c (Int.natCast_nonneg offset) hposition, Int.toNat_natCast]
  simp only [Except.bind]
  rw [Cursor.number_of_le hsize, littleEndian_of_holds h hvalue]

/-- One step through a written lookup table: an entry that is not zero adds its name, if it has one. -/
theorem thunkNamesFrom_step {value offset : Nat} {values : List Nat} {name : Option String}
    (htable : Holds data offset
      ((value :: values).flatMap (numberBytes (thunkWidth bitness))))
    (hvalue : value < 256 ^ thunkWidth bitness) (hmore : value ≠ 0) (hlimit : offset < 0x100000000)
    (hname : ∀ c : Cursor data,
      ∃ moved, readThunkName sections bitness c value = .ok (name, moved))
    (c : Cursor data) (found : Array String) (left : Nat) :
    Holds data (offset + thunkWidth bitness) (values.flatMap (numberBytes (thunkWidth bitness))) ∧
      ∃ after, thunkNamesFrom sections bitness c offset found (left + 1) =
        thunkNamesFrom sections bitness after (offset + thunkWidth bitness : Nat)
          (found ++ name.toArray) left := by
  rw [List.flatMap_cons, Bytes.holds_append, length_numberBytes] at htable
  obtain ⟨hentry, hrest⟩ := htable
  have hread := seek_number_of_holds c (thunkWidth_pos bitness) hentry hvalue hlimit
  obtain ⟨after, hafter⟩ := hname ⟨offset + thunkWidth bitness⟩
  refine ⟨hrest, after, ?_⟩
  rw [thunkNamesFrom, hread]
  cases value with
  | zero => exact absurd rfl hmore
  | succ value =>
    simp only [hafter]
    cases name <;> simp [Nat.cast_add]

/-- A zero entry ends a lookup table. -/
theorem thunkNamesFrom_end {offset : Nat}
    (hentry : Holds data offset (numberBytes (thunkWidth bitness) 0)) (hlimit : offset < 0x100000000)
    (c : Cursor data) (found : Array String) (left : Nat) :
    (thunkNamesFrom sections bitness c offset found left).1 = { items := found } := by
  have hzero : 0 < 256 ^ thunkWidth bitness := Nat.pow_pos (by decide)
  have hread := seek_number_of_holds c (thunkWidth_pos bitness) hentry hzero hlimit
  cases left with
  | zero => rfl
  | succ left =>
    rw [thunkNamesFrom, hread]
    rfl

/-- A written lookup table gives the names of its functions in order, as far as its entries are
followed. Ordinals count as entries. -/
theorem thunkNamesFrom_of_holds {functions : List PlannedImport} {address offset : Nat}
    (hvalid : ∀ f ∈ functions, f.IsValid bitness) (hpos : 0 < address)
    (hlimit : offset + (functions.length + 1) * thunkWidth bitness ≤ 0x100000000)
    (htable : Holds data offset ((thunkValues (topBit bitness) address functions ++ [0]).flatMap
      (numberBytes (thunkWidth bitness))))
    (hnames : Backs data sections address (functionRecords functions))
    (c : Cursor data) (found : Array String) (left : Nat) :
    (thunkNamesFrom sections bitness c offset found left).1 =
      { items := found ++ ((functions.take left).filterMap PlannedImport.name?).toArray } := by
  have hbit := le_topBit bitness
  have hsum := topBit_add_topBit bitness
  have hwidth := thunkWidth_pos bitness
  -- Every entry moves the table on by its width, but only a name moves the address of the names.
  induction functions generalizing address offset c found left with
  | nil =>
    rw [thunkNamesFrom_end htable.left (by simp at hlimit; omega)]
    simp
  | cons f rest ih =>
    have hrest := fun g hg => hvalid g (List.mem_cons_of_mem f hg)
    have hspace : offset + thunkWidth bitness + (rest.length + 1) * thunkWidth bitness ≤
        0x100000000 := by
      rw [List.length_cons, Nat.add_mul _ 1, Nat.one_mul] at hlimit
      omega
    have hoffset : offset < 0x100000000 := by omega
    cases left with
    | zero => simp [thunkNamesFrom]
    | succ left =>
      cases f with
      | named name =>
        have hname : IsImportName name := hvalid _ List.mem_cons_self
        rw [functionRecords] at hnames
        obtain ⟨hrecord, hbehind⟩ := backs_append hnames
        have hlow := hrecord.1
        obtain ⟨htail, after, hstep⟩ := thunkNamesFrom_step htable (by omega) (by omega) hoffset
          (readThunkName_named hname hrecord) c found left
        rw [hstep, ih hrest (Nat.add_pos_left hpos _) hspace htail hbehind]
        simp [PlannedImport.name?]
      | ordinal number =>
        have hnumber : number < topBit bitness := hvalid _ List.mem_cons_self
        obtain ⟨htail, after, hstep⟩ := thunkNamesFrom_step htable (by omega) (by omega) hoffset
          (readThunkName_ordinal sections hnumber) c found left
        rw [hstep, ih hrest hpos hspace htail hnames, List.take_succ_cons,
          List.filterMap_cons_none rfl]
        simp

/-! ## Libraries -/

/-- A library that an import table can hold. -/
structure PlannedLibrary.IsValid (bitness : Int) (l : PlannedLibrary) : Prop where
  name : IsImportName l.name
  functions : ∀ f ∈ l.functions, f.IsValid bitness

/-- The names of the functions that a walk finds of a library. -/
def PlannedLibrary.followed (l : PlannedLibrary) : List String :=
  (l.functions.take maximumThunks).filterMap PlannedImport.name?

theorem lower_ne_empty {name : String} (h : name ≠ "") : Text.lower name ≠ "" := by
  have hlower (before : List Char) {text : List Char} (ht : text ≠ []) :
      Text.lowerFrom before text ≠ [] := by
    unfold Text.lowerFrom
    split
    · exact absurd rfl ht
    · exact List.cons_ne_nil _ _
    · exact List.cons_ne_nil _ _
    · exact List.cons_ne_nil _ _
  intro hempty
  have hlist := congrArg String.toList hempty
  rw [Text.lower, String.toList_ofList] at hlist
  exact hlower [] (fun h0 => h (String.toList_inj.mp h0)) hlist

theorem length_table (width flag address : Nat) (l : PlannedLibrary) :
    (l.table width flag address).length = l.tableSize width := by
  have hvalues (flag address : Nat) (functions : List PlannedImport) :
      (thunkValues flag address functions).length = functions.length := by
    induction functions generalizing address with
    | nil => rfl
    | cons f rest ih => cases f <;> rw [thunkValues, List.length_cons, ih, List.length_cons]
  rw [PlannedLibrary.table, length_flatMap_const fun n _ => length_numberBytes width n,
    List.length_append, hvalues, PlannedLibrary.tableSize]
  rfl

/-- What a library gives whose names and whose lookup table stand behind the addresses of its record:
its name, and its functions as far as they are followed. -/
theorem collectedOf_of_backs {l : PlannedLibrary} {tableAddress nameAddress : Nat}
    (hvalid : l.IsValid bitness) (htablePos : 0 < tableAddress) (hnamePos : 0 < nameAddress)
    (htable : Backs data sections tableAddress
      (l.table (thunkWidth bitness) (topBit bitness) nameAddress))
    (hnames : Backs data sections nameAddress l.records) :
    collectedOf data sections bitness ⟨tableAddress, nameAddress, tableAddress⟩ =
      { libraries := [Text.lower l.name], functions := l.followed } := by
  rw [PlannedLibrary.records] at hnames
  obtain ⟨hlibrary, hfunctions⟩ := backs_append hnames
  rw [libraryRecord, evened, padded] at hlibrary
  obtain ⟨nameOffset, hnameOffset, hname⟩ :=
    nameAt_of_backs [] hvalid.name (backs_append hlibrary).1
  have hlength := length_table (thunkWidth bitness) (topBit bitness) nameAddress l
  have hsize : 0 < l.tableSize (thunkWidth bitness) := Nat.mul_pos (Nat.succ_pos _) (thunkWidth_pos bitness)
  have hne : l.table (thunkWidth bitness) (topBit bitness) nameAddress ≠ [] := by
    rw [← List.length_pos_iff, hlength]
    exact hsize
  obtain ⟨tableOffset, htableOffset, hlimit, hholds⟩ := htable.offset hne
  rw [hlength, PlannedLibrary.tableSize] at hlimit
  have halone := thunkNamesFrom_of_holds hvalid.functions (Nat.add_pos_left hnamePos _) hlimit
    hholds hfunctions (Cursor.start data) #[] maximumThunks
  have hkept : [Text.lower l.name].filter (· ≠ "") = [Text.lower l.name] := by
    simp [lower_ne_empty hvalid.name.ne_empty]
  rw [collectedOf, hnameOffset]
  simp only [collectedAt]
  rw [List.length_nil, Nat.add_zero] at hname
  rw [hname]
  simp only
  rw [if_neg (Nat.ne_of_gt htablePos), hkept, thunkNames, htableOffset]
  simp only
  rw [halone]
  simp [PlannedLibrary.followed]

/-! ## Descriptors -/

/-- A written descriptor is read back. -/
theorem recordAt_of_holds {table k tableAddress nameAddress : Nat}
    (h : Holds data (table + 20 * k) (PlannedLibrary.descriptor tableAddress nameAddress))
    (htable : tableAddress < 0x100000000) (hname : nameAddress < 0x100000000)
    (hlimit : table + 20 * k < 0x100000000) :
    recordAt data table k = .ok ⟨tableAddress, nameAddress, tableAddress⟩ := by
  have hfits := h.le_size (List.cons_ne_nil _ _)
  have hlength : (PlannedLibrary.descriptor tableAddress nameAddress).length = 20 := rfl
  rw [hlength] at hfits
  have hposition : ((table + 20 * k : Nat) : Int) < positionLimit := by
    simp only [positionLimit]
    omega
  simp only [PlannedLibrary.descriptor, List.flatMap_cons, List.flatMap_nil, List.append_nil,
    Bytes.holds_append, length_numberBytes, Nat.add_assoc, Nat.reduceAdd] at h
  obtain ⟨lookup, -, -, name, first⟩ := h
  have field {j : Nat} (hj : j + 4 ≤ 20) :=
    Bytes.littleEndian_window data (table + 20 * k) hj
  have hcast : (table : Int) + 20 * (k : Int) = ((table + 20 * k : Nat) : Int) := by
    push_cast
    rfl
  rw [recordAt, hcast, bytesAt_natCast hposition hfits, Except.map]
  rw [decodeImportDescriptor, field (by decide), field (by decide), field (by decide), Nat.add_zero,
    littleEndian_of_holds lookup htable, Nat.add_assoc, Nat.add_assoc,
    littleEndian_of_holds name hname, littleEndian_of_holds first htable]

theorem length_descriptors (width tableAddress nameAddress : Nat) (libraries : List PlannedLibrary) :
    (descriptors width tableAddress nameAddress libraries).length = libraries.length * 20 := by
  induction libraries generalizing tableAddress nameAddress with
  | nil => rfl
  | cons l rest ih =>
    have hlength (t n : Nat) : (PlannedLibrary.descriptor t n).length = 20 := rfl
    rw [descriptors, List.length_append, hlength, ih, List.length_cons]
    omega

theorem length_lookupTables (width flag nameAddress : Nat) (libraries : List PlannedLibrary) :
    (lookupTables width flag nameAddress libraries).length =
      libraries.foldl (fun size l => size + l.tableSize width) 0 := by
  have htables (size nameAddress : Nat) :
      size + (lookupTables width flag nameAddress libraries).length =
        libraries.foldl (fun size l => size + l.tableSize width) size := by
    induction libraries generalizing size nameAddress with
    | nil => rfl
    | cons l rest ih =>
      rw [lookupTables, List.length_append, length_table, ← Nat.add_assoc, ih, List.foldl_cons]
  rw [← htables 0 nameAddress, Nat.zero_add]

/-- A walk over written descriptors gives the libraries in order, each with its functions, and ends at
the empty descriptor behind them. -/
theorem collectedFrom_of_holds {libraries : List PlannedLibrary}
    {table k tableAddress nameAddress : Nat} (hvalid : ∀ l ∈ libraries, l.IsValid bitness)
    (htablePos : 0 < tableAddress) (hnamePos : 0 < nameAddress)
    (hlimit : table + 20 * (k + libraries.length) < 0x100000000)
    (hdescriptors : Holds data (table + 20 * k)
      (descriptors (thunkWidth bitness) tableAddress nameAddress libraries ++ zeros 20))
    (htables : Backs data sections tableAddress
      (lookupTables (thunkWidth bitness) (topBit bitness) nameAddress libraries))
    (hnames : Backs data sections nameAddress (libraries.flatMap PlannedLibrary.records)) :
    collectedFrom data sections bitness table k =
      { libraries := libraries.map (Text.lower ·.name)
        functions := libraries.flatMap PlannedLibrary.followed } := by
  -- One library takes one descriptor, one lookup table and one run of names, each from its front.
  induction libraries generalizing k tableAddress nameAddress with
  | nil =>
    have hrecord : recordAt data table k = .ok ⟨0, 0, 0⟩ :=
      recordAt_of_holds hdescriptors (by decide) (by decide) (by simpa using hlimit)
    rw [collectedFrom]
    split
    · next heq => rw [hrecord] at heq; cases heq
    · next heq => rw [hrecord] at heq; cases heq; rfl
  | cons l rest ih =>
    have hl := hvalid l List.mem_cons_self
    have hrest := fun m hm => hvalid m (List.mem_cons_of_mem l hm)
    rw [lookupTables] at htables
    rw [List.flatMap_cons] at hnames
    rw [descriptors, List.append_assoc, Bytes.holds_append] at hdescriptors
    obtain ⟨htable, htables⟩ := backs_append htables
    obtain ⟨hrecords, hnames⟩ := backs_append hnames
    obtain ⟨hdescriptor, hdescriptors⟩ := hdescriptors
    rw [length_table] at htables
    rw [List.length_cons] at hlimit
    have htableLow := htable.1
    have hnameLow := hrecords.1
    have hrecord := recordAt_of_holds hdescriptor (by omega) (by omega) (by omega)
    have hnext := ih (k := k + 1) hrest (Nat.add_pos_left htablePos _) (Nat.add_pos_left hnamePos _)
      (by omega) hdescriptors htables hnames
    rw [collectedFrom]
    split
    · next heq => rw [hrecord] at heq; cases heq
    · next heq =>
      rw [hrecord] at heq
      cases heq
      rw [if_neg (Nat.ne_of_gt hnamePos), collectedOf_of_backs hl htablePos hnamePos htable hrecords,
        hnext]
      rfl

end PeSignals.Image
