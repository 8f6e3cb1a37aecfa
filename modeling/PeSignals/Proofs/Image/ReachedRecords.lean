import Mathlib
import PeSignals.Proofs.Image.Appended

/-!
# Where the functions of a walk come from

A walk over an import table reaches its records one after the other, up to the terminator or the first
read that fails. The functions that it collects are the lookup names of those reached records whose own
name it can read. The lookup table of a record whose name no section maps is not looked at.
-/
namespace PeSignals.Image

open Bytes (Cursor ReadError littleEndian)

/-- The names in the lookup table of a record, up to a read that fails; none without such a table. -/
def lookupNames (data : ByteArray) (sections : List Section) (bitness : Int)
    (record : ImportDescriptor) : List String :=
  if record.originalFirstThunk = 0 then []
  else (thunkNames sections bitness (Cursor.start data) record.originalFirstThunk).1.items.toList

/-- Whether the name of a record is mapped and can be read. -/
def isNamed (data : ByteArray) (sections : List Section) (record : ImportDescriptor) : Bool :=
  match fileOffset? sections record.nameRva with
  | none => false
  | some offset => (nameAt data offset).toOption.isSome

/-- The records of a table from an index on that come before the terminator and not behind a read that
failed. -/
def recordsFrom (data : ByteArray) (sections : List Section) (bitness table : Int) (k : Nat) :
    List ImportDescriptor :=
  match _h : recordAt data table k with
  | .error _ => []
  | .ok record =>
    if record.nameRva = 0 then []
    else if (collectedOf data sections bitness record).failure.isSome then [record]
    else record :: recordsFrom data sections bitness table (k + 1)
termination_by data.size - (table + 20 * k).toNat
decreasing_by
  have := recordAt_eq_ok _h
  omega

/-- The records that a walk over the imports reaches. -/
def reachedRecords (data : ByteArray) (header : Header) (sections : List Section) :
    List ImportDescriptor :=
  match bytesAt data header.importDirectoryOffset 8 with
  | .error _ => []
  | .ok directory =>
    if littleEndian directory 0 4 = 0 ∨ littleEndian directory 4 4 = 0 then []
    else match fileOffset? sections (littleEndian directory 0 4 : Nat) with
      | none => []
      | some table => recordsFrom data sections header.bitness table 0

variable {data : ByteArray}

/-- A record adds its lookup names if its own name can be read, and no functions otherwise. -/
theorem functions_collectedOf (sections : List Section) (bitness : Int) (record : ImportDescriptor) :
    (collectedOf data sections bitness record).functions =
      if isNamed data sections record then lookupNames data sections bitness record else [] := by
  rw [collectedOf]
  cases hoffset : fileOffset? sections record.nameRva with
  | none => simp [isNamed, hoffset]
  | some offset =>
    dsimp only
    rw [collectedAt]
    cases hname : nameAt data offset with
    | error e => simp [isNamed, hoffset, hname, Except.toOption]
    | ok name =>
      have hnamed : isNamed data sections record = true := by
        simp [isNamed, hoffset, hname, Except.toOption]
      rw [if_pos hnamed, lookupNames]
      by_cases hthunk : record.originalFirstThunk = 0
      · simp [hthunk]
      · simp [hthunk]

/-- A failure in the first part keeps the second away. -/
theorem functions_followedBy_of_failed {first next : Collected} (h : first.failure.isSome = true) :
    (first.followedBy next).functions = first.functions := by
  rw [Collected.followedBy, if_pos h]

theorem functions_followedBy {first next : Collected} (h : ¬first.failure.isSome = true) :
    (first.followedBy next).functions = first.functions ++ next.functions := by
  rw [Collected.followedBy, if_neg h]

/-- From any record on, the functions are the lookup names of the named records that are reached. -/
theorem functions_collectedFrom (sections : List Section) (bitness table : Int) (k : Nat) :
    (collectedFrom data sections bitness table k).functions =
      ((recordsFrom data sections bitness table k).filter (isNamed data sections)).flatMap
        (lookupNames data sections bitness) := by
  -- Each step reads one record; the walk and the list of records end at the same ones.
  fun_induction recordsFrom data sections bitness table k with
  | case1 k e hrecord =>
    rw [collectedFrom]
    split
    · rfl
    · next heq => rw [hrecord] at heq; cases heq
  | case2 k record hrecord hend =>
    rw [collectedFrom_of_terminator hrecord hend]
    rfl
  | case3 k record hrecord hmore hfailed =>
    rw [collectedFrom_of_record hrecord hmore, functions_followedBy_of_failed hfailed,
      functions_collectedOf]
    by_cases hnamed : isNamed data sections record = true
    · simp [hnamed]
    · simp [hnamed]
  | case4 k record hrecord hmore hgoes ih =>
    rw [collectedFrom_of_record hrecord hmore, functions_followedBy hgoes, functions_collectedOf, ih]
    by_cases hnamed : isNamed data sections record = true
    · simp [hnamed]
    · simp [hnamed]

theorem functions_importsAt (header : Header) (sections : List Section) :
    (importsAt data header sections).functions.toList =
      ((reachedRecords data header sections).filter (isNamed data sections)).flatMap
        (lookupNames data sections header.bitness) := by
  unfold importsAt reachedRecords
  cases bytesAt data header.importDirectoryOffset 8 with
  | error e => rfl
  | ok directory =>
    simp only [importsBehind]
    split_ifs with habsent
    · rfl
    · cases fileOffset? sections (littleEndian directory 0 4 : Nat) with
      | none => rfl
      | some table => exact functions_collectedFrom sections header.bitness table 0

/-- The functions of a walk, in the order in which they are found: the lookup names of every record that
the walk reaches and whose name is mapped and can be read. All of them are there, and a record whose name
is not mapped gives none, whatever its lookup table holds. -/
theorem walkImports_functions (data : ByteArray) (header : Header) (sections : List Section)
    (c : Cursor data) :
    let found := (walkImports c header sections).functions.toList
    let reached := reachedRecords data header sections
    found = (reached.filter (isNamed data sections)).flatMap (lookupNames data sections header.bitness) ∧
      ∀ record ∈ reached, isNamed data sections record = true →
        ∀ name ∈ lookupNames data sections header.bitness record, name ∈ found := by
  intro found reached
  have hfound : found = (reached.filter (isNamed data sections)).flatMap
      (lookupNames data sections header.bitness) := by
    rw [← functions_importsAt, ← walkImports_eq_importsAt data header sections c]
  refine ⟨hfound, fun record hrecord hnamed name hname => ?_⟩
  rw [hfound, List.mem_flatMap]
  exact ⟨record, List.mem_filter.mpr ⟨hrecord, hnamed⟩, hname⟩

/-- A file with nothing but an import table of one record: its name address 4096 lies in no section, and
its lookup table names the function `f`. -/
def unnamedLibrary : ByteArray :=
  let directory : List UInt8 := [112, 0, 0, 0, 40, 0, 0, 0]
  let record : List UInt8 := [152, 0, 0, 0, 0, 0, 0, 0, 0, 0, 0, 0, 0, 16, 0, 0, 0, 0, 0, 0]
  let lookups : List UInt8 := [160, 0, 0, 0, 0, 0, 0, 0]
  ⟨(List.replicate 104 0 ++ directory ++ record ++ List.replicate 20 0 ++ lookups
    ++ [0, 0, 102, 0]).toArray⟩

/-- The record is reached and has a lookup table with a name in it, and the walk collects no function. -/
theorem walkImports_unnamedLibrary :
    let sections : List Section := [{ virtualSize := 512 }]
    let record : ImportDescriptor := { originalFirstThunk := 152, nameRva := 4096, firstThunk := 0 }
    reachedRecords unnamedLibrary {} sections = [record] ∧
      lookupNames unnamedLibrary sections 32 record = ["f"] ∧
      (walkImports (Cursor.start unnamedLibrary) {} sections).functions = #[] ∧
      (walkImports (Cursor.start unnamedLibrary) {} sections).ending = .complete := by
  decide +kernel

end PeSignals.Image
