import Mathlib
import PeSignals.Image.Imports
import PeSignals.Proofs.Bytes.Cursor

/-!
# Import walks without a cursor

A reference for the walk over an import directory that reads the immutable bytes at absolute offsets:
the directory, the records of the table one after the other, and behind each record its name and its
lookup table, the latter followed on its own from a fresh cursor. The walk over one shared cursor
collects what the reference collects and ends as it ends, wherever the cursor stood.
-/
namespace PeSignals.Image

open Bytes (Cursor ReadError littleEndian values window positionLimit)

/-! ## Reads at absolute offsets -/

/-- The position of an offset, if there is one. -/
def positionOf (offset : Int) : Except ReadError Nat :=
  if offset ≥ positionLimit ∨ offset < -positionLimit then .error .offsetTooLarge
  else if offset < 0 then .error (.negativeOffset offset)
  else .ok offset.toNat

/-- The `n` bytes at an offset; all of them have to lie within the data. -/
def bytesAt (data : ByteArray) (offset : Int) (n : Nat) : Except ReadError ByteArray := do
  let p ← positionOf offset
  if p + n ≤ data.size then return window data p (p + n)
  else throw (.truncated n p (data.size - p))

/-- The name at an offset: the bytes before a zero. It is cut at its greatest length, and without a zero
before that it must not meet the end of the data. -/
def nameAt (data : ByteArray) (offset : Int) : Except ReadError String := do
  let p ← positionOf offset
  let bytes := values data p maximumNameLength
  if 0 ∈ bytes ∨ bytes.length = maximumNameLength then
    return Text.Ascii.ofBytes (bytes.takeWhile (· ≠ 0))
  else throw (.unterminated p)

/-! ## The reference -/

/-- The names that a part of a walk collects in order, and the failed read that ends it. -/
structure Collected where
  libraries : List String := []
  functions : List String := []
  failure : Option ReadError := none

/-- One part of a walk behind another; nothing follows a failure. -/
def Collected.followedBy (first next : Collected) : Collected :=
  if first.failure.isSome then first
  else ⟨first.libraries ++ next.libraries, first.functions ++ next.functions, next.failure⟩

/-- What a record with its name at an offset gives: the name, and then the names of its lookup table. -/
def collectedAt (data : ByteArray) (sections : List Section) (bitness : Int)
    (record : ImportDescriptor) (nameOffset : Int) : Collected :=
  match nameAt data nameOffset with
  | .error e => { failure := some e }
  | .ok name =>
    let libraries := [Text.lower name].filter (· ≠ "")
    if record.originalFirstThunk = 0 then { libraries }
    else
      let alone := (thunkNames sections bitness (Cursor.start data) record.originalFirstThunk).1
      { libraries, functions := alone.items.toList, failure := alone.stop }

/-- What a record gives. One whose name no section maps gives nothing. -/
def collectedOf (data : ByteArray) (sections : List Section) (bitness : Int)
    (record : ImportDescriptor) : Collected :=
  match fileOffset? sections record.nameRva with
  | none => {}
  | some nameOffset => collectedAt data sections bitness record nameOffset

/-- The record of a table at an index. -/
def recordAt (data : ByteArray) (table : Int) (k : Nat) : Except ReadError ImportDescriptor :=
  (bytesAt data (table + 20 * k) 20).map decodeImportDescriptor

theorem positionOf_eq_ok {offset : Int} {p : Nat} (h : positionOf offset = .ok p) :
    0 ≤ offset ∧ p = offset.toNat := by
  unfold positionOf at h
  split_ifs at h with hlimit hneg
  exact ⟨Int.not_lt.mp hneg, (Except.ok.inj h).symm⟩

theorem bytesAt_eq_ok {data bytes : ByteArray} {offset : Int} {n : Nat}
    (h : bytesAt data offset n = .ok bytes) : 0 ≤ offset ∧ offset.toNat + n ≤ data.size := by
  unfold bytesAt at h
  cases hp : positionOf offset with
  | error e => rw [hp] at h; cases h
  | ok p =>
    obtain ⟨hpos, rfl⟩ := positionOf_eq_ok hp
    simp only [hp, bind, Except.bind] at h
    split_ifs at h with hfits
    exact ⟨hpos, hfits⟩

theorem recordAt_eq_ok {data : ByteArray} {table : Int} {k : Nat} {record : ImportDescriptor}
    (h : recordAt data table k = .ok record) :
    0 ≤ table + 20 * k ∧ (table + 20 * k).toNat + 20 ≤ data.size := by
  unfold recordAt at h
  cases hb : bytesAt data (table + 20 * k) 20 with
  | error e => rw [hb] at h; cases h
  | ok bytes => exact bytesAt_eq_ok hb

/-- What the records of a table give from an index on, up to the one whose name address is zero. -/
def collectedFrom (data : ByteArray) (sections : List Section) (bitness table : Int) (k : Nat) :
    Collected :=
  match _h : recordAt data table k with
  | .error e => { failure := some e }
  | .ok record =>
    if record.nameRva = 0 then {}
    else (collectedOf data sections bitness record).followedBy
      (collectedFrom data sections bitness table (k + 1))
termination_by data.size - (table + 20 * k).toNat
decreasing_by
  have := recordAt_eq_ok _h
  omega

/-- The imports behind the eight bytes of a directory entry: an address and a size, neither of them
zero, and a table where the address is mapped to. -/
def importsBehind (data : ByteArray) (sections : List Section) (bitness : Int) (directory : ByteArray) :
    Imports :=
  let rva := littleEndian directory 0 4
  let size := littleEndian directory 4 4
  if rva = 0 ∨ size = 0 then {}
  else match fileOffset? sections rva with
    | none => { ending := .unmapped rva }
    | some table =>
      let all := collectedFrom data sections bitness table 0
      { libraries := all.libraries.toArray
        functions := all.functions.toArray
        ending := all.failure.elim .complete .stopped }

/-- The imports that the bytes give. -/
def importsAt (data : ByteArray) (header : Header) (sections : List Section) : Imports :=
  match bytesAt data header.importDirectoryOffset 8 with
  | .error e => { ending := .stopped e }
  | .ok directory => importsBehind data sections header.bitness directory

/-! ## Reads over a cursor -/

variable {data : ByteArray}

theorem seek_eq (c : Cursor data) (offset : Int) :
    c.seek offset = (positionOf offset).map fun p => ⟨p⟩ := by
  unfold Cursor.seek positionOf
  split_ifs <;> rfl

/-- Where a cursor stood does not matter to a seek. -/
theorem seek_cursor (c other : Cursor data) (offset : Int) : c.seek offset = other.seek offset := rfl

theorem seek_take (c : Cursor data) (offset : Int) {n : Nat} (hn : 0 < n) :
    (c.seek offset >>= (·.take n)).map Prod.fst = bytesAt data offset n := by
  rw [seek_eq, bytesAt]
  cases positionOf offset with
  | error e => rfl
  | ok p =>
    simp only [Except.map, bind, Except.bind]
    by_cases h : p + n ≤ data.size
    · rw [Cursor.take_of_le h, if_pos h]
      rfl
    · rw [Cursor.take_of_lt hn (Nat.not_le.mp h), if_neg h]
      rfl

/-- A descriptor is read by its offset alone; where the cursor stood does not matter. -/
theorem readDescriptor_map (c : Cursor data) (offset : Int) :
    (readDescriptor c offset).map Prod.fst =
      (bytesAt data offset 20).map decodeImportDescriptor := by
  rw [← seek_take c offset (by decide), readDescriptor]
  cases c.seek offset with
  | error e => rfl
  | ok moved =>
    simp only [bind, Except.bind, importDescriptorSize]
    cases moved.take 20 <;> rfl

theorem readImportDirectory_map (c : Cursor data) (header : Header) :
    (readImportDirectory c header).map (fun read => (read.1, read.2.1)) =
      (bytesAt data header.importDirectoryOffset 8).map
        fun directory => (littleEndian directory 0 4, littleEndian directory 4 4) := by
  rw [← seek_take c _ (by decide), readImportDirectory]
  cases c.seek header.importDirectoryOffset with
  | error e => rfl
  | ok moved =>
    simp only [bind, Except.bind]
    cases moved.take 8 <;> rfl

theorem takeWhile_ne_zero_of_notMem {bytes : List UInt8} (h : 0 ∉ bytes) :
    bytes.takeWhile (· ≠ 0) = bytes := by
  rw [List.takeWhile_eq_self_iff]
  intro b hb
  exact decide_eq_true fun h0 => h (h0 ▸ hb)

theorem length_takeWhile_lt_of_mem {bytes : List UInt8} (h : 0 ∈ bytes) :
    (bytes.takeWhile (· ≠ 0)).length < bytes.length := by
  have hstart := List.takeWhile_prefix (fun b : UInt8 => decide (b ≠ 0)) (l := bytes)
  refine lt_of_le_of_ne hstart.length_le fun heq => ?_
  simpa using List.takeWhile_eq_self_iff.mp (hstart.eq_of_length heq) 0 h

/-- A name is read up to its first zero, or in full where the cap was reached before one. -/
theorem terminated_map (p cap : Nat) :
    ((⟨p⟩ : Cursor data).terminated (some cap)).map Prod.fst =
      if 0 ∈ values data p cap ∨ (values data p cap).length = cap then
        .ok ((values data p cap).takeWhile (· ≠ 0))
      else .error (.unterminated p) := by
  have hraw : values data p (min cap (data.size - p)) = values data p cap := by
    rw [Bytes.values_eq, Bytes.values_eq, List.take_eq_take_iff, Bytes.length_suffix]
    omega
  have hlength : (values data p cap).length = min cap (data.size - p) := Bytes.length_values data p cap
  have hgot : (⟨p⟩ : Cursor data).available (some cap) = min cap (data.size - p) := rfl
  simp only [Cursor.terminated, Option.any_some]
  rw [hgot, hraw]
  by_cases hzero : 0 ∈ values data p cap
  · rw [if_pos (length_takeWhile_lt_of_mem hzero), if_pos (.inl hzero)]
    rfl
  · rw [takeWhile_ne_zero_of_notMem hzero, if_neg (lt_irrefl _)]
    by_cases hfull : (values data p cap).length = cap
    · rw [if_neg (by rw [decide_eq_true_eq]; omega), if_pos (.inr hfull)]
      rfl
    · rw [if_pos (decide_eq_true (by omega)), if_neg (not_or_intro hzero hfull)]
      rfl

theorem readName_map (c : Cursor data) (offset : Int) :
    (readName c offset).map Prod.fst = nameAt data offset := by
  have hread (moved : Cursor data) :
      (moved.terminated (some maximumNameLength) >>= fun read =>
          pure (Text.Ascii.ofBytes read.1, read.2)).map Prod.fst =
        ((moved.terminated (some maximumNameLength)).map Prod.fst).map Text.Ascii.ofBytes := by
    cases moved.terminated (some maximumNameLength) <;> rfl
  rw [readName, seek_eq, nameAt]
  cases positionOf offset with
  | error e => rfl
  | ok p =>
    have hopened : ((.ok p : Except ReadError Nat).map fun p => (⟨p⟩ : Cursor data)) = pure ⟨p⟩ := rfl
    rw [hopened, pure_bind]
    refine (hread ⟨p⟩).trans ?_
    rw [terminated_map, apply_ite (Except.map Text.Ascii.ofBytes)]
    rfl

/-- A lookup table is followed from its own offset, so the cursor it is given does not matter. -/
theorem thunkNames_cursor (sections : List Section) (bitness : Int) (c other : Cursor data)
    (rva : Int) :
    (thunkNames sections bitness c rva).1 = (thunkNames sections bitness other rva).1 := by
  unfold thunkNames
  split
  · rfl
  · rw [maximumThunks, thunkNamesFrom, thunkNamesFrom, seek_cursor c other]
    split <;> rfl

/-! ## The walk over a cursor -/

/-- Adds what a part of a walk collects, and stops where it failed. -/
def Imports.extend (i : Imports) (part : Collected) : Imports where
  libraries := i.libraries ++ part.libraries.toArray
  functions := i.functions ++ part.functions.toArray
  ending := part.failure.elim i.ending .stopped

@[simp] theorem extend_empty (i : Imports) : i.extend {} = i := by
  cases i
  simp [Imports.extend]

theorem extend_failure (i : Imports) (e : ReadError) :
    i.extend { failure := some e } = i.stopAt e := by
  simp [Imports.extend, Imports.stopAt]

/-- Behind a failure nothing more is collected. -/
theorem extend_followedBy_failed (i : Imports) {first next : Collected} {e : ReadError}
    (h : first.failure = some e) : i.extend (first.followedBy next) = i.extend first := by
  rw [Collected.followedBy, h]
  rfl

theorem extend_followedBy (i : Imports) {first next : Collected} (h : first.failure = none) :
    i.extend (first.followedBy next) = (i.extend first).extend next := by
  simp only [Imports.extend, Collected.followedBy, h, Option.isSome_none, Bool.false_eq_true,
    if_false, ← List.append_toArray, Array.append_assoc, Option.elim_none]

theorem addLibrary_eq (i : Imports) (name : String) :
    i.addLibrary name = i.extend { libraries := [name].filter (· ≠ "") } := by
  by_cases h : name = "" <;> simp [Imports.addLibrary, Imports.extend, h]

/-- One visit over the cursor collects what the record gives on its own. The names collected before a
failure are kept. -/
theorem visitDescriptor_eq (sections : List Section) (bitness : Int) (c : Cursor data)
    (record : ImportDescriptor) (nameOffset : Int) (found : Imports) :
    let visited := visitDescriptor sections bitness c record nameOffset found
    let part := collectedAt data sections bitness record nameOffset
    visited.2.1 = part.failure ∧
      (visited.2.1.elim visited.1 visited.1.stopAt) = found.extend part := by
  have hname := readName_map c nameOffset
  simp only [visitDescriptor, collectedAt]
  cases hread : readName c nameOffset with
  | error e =>
    rw [hread] at hname
    rw [← hname]
    exact ⟨rfl, (extend_failure found e).symm⟩
  | ok read =>
    rw [hread] at hname
    rw [← hname]
    simp only [Except.map]
    by_cases hthunk : record.originalFirstThunk = 0
    · rw [if_pos hthunk, if_pos hthunk]
      exact ⟨rfl, addLibrary_eq found _⟩
    · rw [if_neg hthunk, if_neg hthunk,
        ← thunkNames_cursor sections bitness read.2 (Cursor.start data)]
      cases hstop : (thunkNames sections bitness read.2 record.originalFirstThunk).1.stop with
      | none =>
        refine ⟨rfl, ?_⟩
        simp [addLibrary_eq, Imports.addFunctions, Imports.extend]
      | some e =>
        refine ⟨rfl, ?_⟩
        simp [addLibrary_eq, Imports.addFunctions, Imports.extend, Imports.stopAt]

theorem walkDescriptors_of_error {sections : List Section} {bitness : Int} {c : Cursor data}
    {offset : Int} {e : ReadError} (h : readDescriptor c offset = .error e) (found : Imports) :
    walkDescriptors sections bitness c offset found = found.stopAt e := by
  rw [walkDescriptors]
  split
  · next heq => rw [heq] at h; cases h; rfl
  · next heq => rw [heq] at h; cases h

theorem walkDescriptors_of_terminator {sections : List Section} {bitness : Int} {c moved : Cursor data}
    {offset : Int} {record : ImportDescriptor} (h : readDescriptor c offset = .ok (record, moved))
    (hend : record.nameRva = 0) (found : Imports) :
    walkDescriptors sections bitness c offset found = found := by
  rw [walkDescriptors]
  split
  · next heq => rw [heq] at h; cases h
  · next heq => rw [heq] at h; cases h; exact if_pos hend

/-- One step of a walk: the record before the cursor adds what it gives on its own, and the walk goes on
behind it unless that part failed. -/
theorem walkDescriptors_step (sections : List Section) (bitness : Int) {c moved : Cursor data}
    {offset : Int} {record : ImportDescriptor} (h : readDescriptor c offset = .ok (record, moved))
    (hmore : record.nameRva ≠ 0) (found : Imports) :
    ∃ after : Cursor data, walkDescriptors sections bitness c offset found =
      if (collectedOf data sections bitness record).failure.isSome then
        found.extend (collectedOf data sections bitness record)
      else walkDescriptors sections bitness after (offset + importDescriptorSize)
        (found.extend (collectedOf data sections bitness record)) := by
  rw [walkDescriptors]
  split
  · next heq => rw [heq] at h; cases h
  · next heq =>
    rw [heq] at h
    cases h
    rw [if_neg hmore, collectedOf]
    cases fileOffset? sections record.nameRva with
    | none => exact ⟨moved, by rw [extend_empty]; rfl⟩
    | some nameOffset =>
      obtain ⟨hfailure, hextend⟩ :=
        visitDescriptor_eq sections bitness moved record nameOffset found
      -- Only the outcome of the visit counts; the cursor that it leaves is sought away at once.
      dsimp only
      generalize visitDescriptor sections bitness moved record nameOffset found = visit
        at hfailure hextend ⊢
      obtain ⟨visited, stop, after⟩ := visit
      refine ⟨after, ?_⟩
      simp only at hfailure hextend ⊢
      rw [← hextend, ← hfailure]
      cases stop <;> rfl

theorem readDescriptor_of_recordAt {c : Cursor data} {table : Int} {k : Nat}
    {record : ImportDescriptor} (h : recordAt data table k = .ok record) :
    ∃ moved, readDescriptor c (table + 20 * k) = .ok (record, moved) := by
  have hread := readDescriptor_map c (table + 20 * k)
  rw [← recordAt, h] at hread
  exact Cursor.eq_ok_of_map_fst hread

theorem readDescriptor_of_recordAt_error {c : Cursor data} {table : Int} {k : Nat} {e : ReadError}
    (h : recordAt data table k = .error e) : readDescriptor c (table + 20 * k) = .error e := by
  have hread := readDescriptor_map c (table + 20 * k)
  rw [← recordAt, h] at hread
  exact Cursor.eq_error_of_map_fst hread

/-- From any cursor and any record on, a walk adds what the reference collects there. -/
theorem walkDescriptors_eq (sections : List Section) (bitness table : Int) (k : Nat)
    (c : Cursor data) (found : Imports) :
    walkDescriptors sections bitness c (table + 20 * k) found =
      found.extend (collectedFrom data sections bitness table k) := by
  fun_induction collectedFrom data sections bitness table k generalizing c found with
  | case1 k e hrecord =>
    rw [walkDescriptors_of_error (readDescriptor_of_recordAt_error hrecord), extend_failure]
  | case2 k record hrecord hend =>
    obtain ⟨moved, hread⟩ := readDescriptor_of_recordAt (c := c) hrecord
    rw [walkDescriptors_of_terminator hread hend, extend_empty]
  | case3 k record hrecord hmore ih =>
    obtain ⟨moved, hread⟩ := readDescriptor_of_recordAt (c := c) hrecord
    obtain ⟨after, hstep⟩ := walkDescriptors_step sections bitness hread hmore found
    have hnext : table + 20 * k + importDescriptorSize = table + 20 * (k + 1 : Nat) := by
      simp only [importDescriptorSize]
      push_cast
      ring
    rw [hstep, hnext, ih]
    cases hfailure : (collectedOf data sections bitness record).failure with
    | none => rw [extend_followedBy _ hfailure]; rfl
    | some e => rw [extend_followedBy_failed _ hfailure]; rfl

theorem walkImports_of_error {header : Header} {e : ReadError}
    (h : bytesAt data header.importDirectoryOffset 8 = .error e) (sections : List Section)
    (c : Cursor data) : walkImports c header sections = { ending := .stopped e } := by
  have hdirectory := readImportDirectory_map c header
  rw [h] at hdirectory
  rw [walkImports]
  cases hread : readImportDirectory c header with
  | error cause => rw [hread] at hdirectory; cases hdirectory; rfl
  | ok read => rw [hread] at hdirectory; cases hdirectory

theorem walkImports_of_directory {header : Header} {directory : ByteArray}
    (h : bytesAt data header.importDirectoryOffset 8 = .ok directory) (sections : List Section)
    (c : Cursor data) :
    walkImports c header sections = importsBehind data sections header.bitness directory := by
  have hdirectory := readImportDirectory_map c header
  rw [h] at hdirectory
  rw [walkImports, importsBehind]
  cases hread : readImportDirectory c header with
  | error cause => rw [hread] at hdirectory; cases hdirectory
  | ok read =>
    obtain ⟨rva, size, moved⟩ := read
    rw [hread] at hdirectory
    obtain ⟨rfl, rfl⟩ := Prod.mk.inj (Except.ok.inj hdirectory)
    simp only
    split_ifs with habsent
    · rfl
    · cases fileOffset? sections (littleEndian directory 0 4 : Nat) with
      | none => rfl
      | some table =>
        have hwalk := walkDescriptors_eq sections header.bitness table 0 moved {}
        rw [Nat.cast_zero, mul_zero, add_zero] at hwalk
        simp only [hwalk, Imports.extend, Array.empty_append]

/-- The walk over one shared cursor is the reference on the immutable bytes, wherever the cursor stood:
the names before a failed read are kept in order, with those of the lookup table that it ended. -/
theorem walkImports_eq_importsAt (data : ByteArray) (header : Header) (sections : List Section)
    (c : Cursor data) : walkImports c header sections = importsAt data header sections := by
  rw [importsAt]
  cases h : bytesAt data header.importDirectoryOffset 8 with
  | error e => exact walkImports_of_error h sections c
  | ok directory => exact walkImports_of_directory h sections c

end PeSignals.Image
