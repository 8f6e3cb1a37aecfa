import Mathlib
import PeSignals.Proofs.Image.WrittenImports

/-!
# What a lookup table lists

The entries of a lookup table, each with what it stands for on the bytes alone: the end of the table, no
name, a name, or a read that runs past the end of the data. A walk over the table takes them in order up
to the first that ends it, and never looks at more than fifty; the names among them are its listing.
-/
namespace PeSignals.Image

open Bytes (Cursor ReadError littleEndian values positionLimit)

/-! ## Sections as a file stores them -/

/-- A section whose numbers are unsigned and of 32 bits. -/
structure Section.HasWords (s : Section) : Prop where
  virtualSize : 0 ≤ s.virtualSize ∧ s.virtualSize < 2 ^ 32
  virtualAddress : 0 ≤ s.virtualAddress ∧ s.virtualAddress < 2 ^ 32
  rawSize : 0 ≤ s.rawSize ∧ s.rawSize < 2 ^ 32
  rawPointer : 0 ≤ s.rawPointer ∧ s.rawPointer < 2 ^ 32
  characteristics : 0 ≤ s.characteristics ∧ s.characteristics < 2 ^ 32

variable {sections : List Section}

/-- What an address is mapped to lies within the reach of a section's pointer and size. -/
theorem fileOffset?_of_hasWords (h : ∀ s ∈ sections, s.HasWords) {rva offset : Int}
    (hoffset : fileOffset? sections rva = some offset) : 0 ≤ offset ∧ offset < 2 ^ 33 := by
  obtain ⟨s, hdecides, rfl⟩ := fileOffset?_eq_some_iff.mp hoffset
  obtain ⟨hs, hlow, hhigh⟩ := hdecides.mem
  have hwords := h s hs
  have hsize := hwords.virtualSize
  have hpointer := hwords.rawPointer
  rw [Section.offsetAt]
  omega

/-! ## Entries -/

/-- What an entry of a lookup table stands for. -/
inductive Lookup
  /-- The end of the table. -/
  | terminator
  /-- No name: an import by ordinal, an address in no section, or an empty name. -/
  | nameless
  | named (name : String)
  /-- Nothing, because the entry or its name runs past the end of the data. -/
  | cut (cause : ReadError)
  deriving Repr, DecidableEq

namespace Lookup

/-- The name that an entry gives. -/
def name? : Lookup → Option String
  | named name => some name
  | _ => none

/-- Whether the entry behind is looked at. -/
def IsPassed : Lookup → Prop
  | nameless | named _ => True
  | terminator | cut _ => False

/-- What a name stands for. -/
def ofName (name : String) : Lookup :=
  if name = "" then nameless else named name

/-- What the bytes where a name starts stand for, 256 of them or all that are left: the text before the
first zero, or all of the 256. -/
def ofBytes (offset : Nat) (bytes : List UInt8) : Lookup :=
  if 0 ∈ bytes ∨ bytes.length = 256 then ofName (Text.Ascii.ofBytes (bytes.takeWhile (· ≠ 0)))
  else cut (.unterminated offset)

end Lookup

/-- What the entry of a lookup table at an offset stands for: a number of 8 or 4 bytes, whose top bit marks
an ordinal and whose low 31 bits are the address of a hint of two bytes with the name behind it. -/
def lookupAt (data : ByteArray) (sections : List Section) (bitness : Int) (offset : Nat) : Lookup :=
  let width := if bitness = 64 then 8 else 4
  let value := littleEndian data offset width
  if data.size < offset + width then .cut (.truncated width offset (data.size - offset))
  else if value = 0 then .terminator
  else if 2 ^ (8 * width - 1) ≤ value then .nameless
  else match fileOffset? sections (value % 2 ^ 31 : Nat) with
    | none => .nameless
    | some hint => .ofBytes (hint.toNat + 2) (values data (hint.toNat + 2) 256)

/-- The entries of the lookup table at an offset. -/
def lookupsAt (data : ByteArray) (sections : List Section) (bitness : Int) (table k : Nat) : Lookup :=
  lookupAt data sections bitness (table + k * if bitness = 64 then 8 else 4)

/-! ### Entries by what is read of them -/

variable {data : ByteArray} {bitness : Int}

theorem lookupAt_of_lt {offset : Nat} (h : data.size < offset + thunkWidth bitness) :
    lookupAt data sections bitness offset =
      .cut (.truncated (thunkWidth bitness) offset (data.size - offset)) :=
  if_pos h

theorem lookupAt_of_zero {offset : Nat} (hfits : offset + thunkWidth bitness ≤ data.size)
    (hzero : littleEndian data offset (thunkWidth bitness) = 0) :
    lookupAt data sections bitness offset = .terminator :=
  (if_neg (Nat.not_lt.mpr hfits)).trans (if_pos hzero)

theorem lookupAt_of_ne_zero {offset : Nat} (hfits : offset + thunkWidth bitness ≤ data.size)
    (hmore : littleEndian data offset (thunkWidth bitness) ≠ 0) :
    lookupAt data sections bitness offset =
      if topBit bitness ≤ littleEndian data offset (thunkWidth bitness) then .nameless
      else match fileOffset? sections (hintNameRva (littleEndian data offset (thunkWidth bitness))) with
        | none => .nameless
        | some hint => .ofBytes (hint.toNat + 2) (values data (hint.toNat + 2) 256) :=
  (if_neg (Nat.not_lt.mpr hfits)).trans (if_neg hmore)

theorem isOrdinal_iff {value : Nat} (h : value < 256 ^ thunkWidth bitness) :
    isOrdinal bitness value = true ↔ topBit bitness ≤ value := by
  constructor
  · intro hordinal
    by_contra hlow
    rw [isOrdinal_of_lt (Nat.not_le.mp hlow)] at hordinal
    cases hordinal
  · intro htop
    obtain ⟨number, rfl⟩ := Nat.exists_eq_add_of_le htop
    have hsum := topBit_add_topBit bitness
    exact isOrdinal_topBit_add (by omega)

theorem ofBytes_ne_terminator (offset : Nat) (bytes : List UInt8) :
    Lookup.ofBytes offset bytes ≠ .terminator := by
  unfold Lookup.ofBytes Lookup.ofName
  split_ifs <;> exact fun h => by cases h

/-- An entry that is wholly there and not zero does not end its table. -/
theorem lookupAt_ne_terminator (sections : List Section) {offset : Nat}
    (hfits : offset + thunkWidth bitness ≤ data.size)
    (hmore : littleEndian data offset (thunkWidth bitness) ≠ 0) :
    lookupAt data sections bitness offset ≠ .terminator := by
  rw [lookupAt_of_ne_zero hfits hmore]
  split_ifs
  · exact fun h => by cases h
  · split
    · exact fun h => by cases h
    · exact ofBytes_ne_terminator _ _

/-- What holds of every name and every failed read: a name is not empty and has no more characters than
bytes are read of it, and a read only fails at the end of the data. -/
def Lookup.IsSound : Lookup → Prop
  | named name => name ≠ "" ∧ name.length ≤ 256
  | cut cause => cause.category = "TruncatedImageError"
  | terminator | nameless => True

theorem isSound_ofBytes (offset : Nat) {bytes : List UInt8} (hshort : bytes.length ≤ 256) :
    (Lookup.ofBytes offset bytes).IsSound := by
  unfold Lookup.ofBytes Lookup.ofName
  split_ifs with hended hempty
  · trivial
  · have hkept := (List.takeWhile_prefix (fun b : UInt8 => decide (b ≠ 0)) (l := bytes)).length_le
    refine ⟨hempty, ?_⟩
    rw [Text.Ascii.ofBytes, String.length_ofList, List.length_map]
    exact hkept.trans hshort
  · rfl

theorem isSound_lookupAt (data : ByteArray) (sections : List Section) (bitness : Int) (offset : Nat) :
    (lookupAt data sections bitness offset).IsSound := by
  by_cases hfits : offset + thunkWidth bitness ≤ data.size
  · by_cases hmore : littleEndian data offset (thunkWidth bitness) = 0
    · rw [lookupAt_of_zero hfits hmore]
      trivial
    · rw [lookupAt_of_ne_zero hfits hmore]
      split_ifs
      · trivial
      · split
        · trivial
        · exact isSound_ofBytes _ (by rw [Bytes.length_values]; exact Nat.min_le_left _ _)
  · rw [lookupAt_of_lt (Nat.not_le.mp hfits)]
    rfl

theorem isSound_lookupsAt (data : ByteArray) (sections : List Section) (bitness : Int) (table k : Nat) :
    (lookupsAt data sections bitness table k).IsSound := isSound_lookupAt data sections bitness _

theorem name?_eq_some {lookup : Lookup} {name : String} (h : lookup.name? = some name) :
    lookup = .named name := by
  cases lookup with
  | named found => exact congrArg Lookup.named (Option.some.inj h)
  | _ => cases h

/-- The outcome of reading the name behind an entry. -/
def Lookup.outcome : Lookup → Except ReadError (Option String)
  | cut cause => .error cause
  | lookup => .ok lookup.name?

theorem outcome_ofName (name : String) :
    (Lookup.ofName name).outcome = .ok (if name = "" then none else some name) := by
  unfold Lookup.ofName
  split_ifs <;> rfl

theorem nameAt_map {p : Nat} (hp : (p : Int) < positionLimit) :
    (nameAt data p).map (fun name => if name = "" then none else some name) =
      (Lookup.ofBytes p (values data p 256)).outcome := by
  rw [nameAt, positionOf_natCast hp, Lookup.ofBytes]
  simp only [bind, Except.bind]
  change Except.map _ (if 0 ∈ values data p 256 ∨ (values data p 256).length = 256 then _ else _) = _
  split_ifs
  · exact (outcome_ofName _).symm
  · rfl

/-- An entry that is wholly there and not zero is read as what it stands for. -/
theorem readThunkName_map (h : ∀ s ∈ sections, s.HasWords) {offset : Nat}
    (hfits : offset + thunkWidth bitness ≤ data.size)
    (hmore : littleEndian data offset (thunkWidth bitness) ≠ 0) (c : Cursor data) :
    (readThunkName sections bitness c (littleEndian data offset (thunkWidth bitness))).map Prod.fst =
      (lookupAt data sections bitness offset).outcome := by
  have hordinal := isOrdinal_iff (Bytes.littleEndian_lt data offset (thunkWidth bitness))
  rw [lookupAt_of_ne_zero hfits hmore, readThunkName]
  by_cases htop : topBit bitness ≤ littleEndian data offset (thunkWidth bitness)
  · rw [if_pos htop, if_pos (hordinal.mpr htop)]
    rfl
  · rw [if_neg htop, if_neg (mt hordinal.mp htop)]
    cases hhint : fileOffset? sections (hintNameRva (littleEndian data offset (thunkWidth bitness)))
    with
    | none => rfl
    | some hint =>
      obtain ⟨hlow, hhigh⟩ := fileOffset?_of_hasWords h hhint
      have hbehind : hint + 2 = (hint.toNat + 2 : Nat) := by omega
      have hposition : ((hint.toNat + 2 : Nat) : Int) < positionLimit := by
        simp only [positionLimit]
        omega
      have hname := readName_map c (hint + 2)
      dsimp only
      rw [← nameAt_map hposition, ← hbehind, ← hname]
      cases readName c (hint + 2) <;> rfl

/-! ## Walks over a table -/

/-- What a listing says of the entries of a table, if `n` of them are passed and no more than `limit` are
looked at: their names in order, and the failed read if the entry behind them is one. -/
structure Lists (entry : Nat → Lookup) (limit n : Nat) (listing : Listing String) : Prop where
  within : n ≤ limit
  passed : ∀ k < n, (entry k).IsPassed
  items : listing.items.toList = (List.range n).filterMap fun k => (entry k).name?
  ended : n = limit ∧ listing.stop = none ∨
    n < limit ∧ (entry n = .terminator ∧ listing.stop = none ∨
      ∃ cause, entry n = .cut cause ∧ listing.stop = some cause)

section Lists

variable {entry : Nat → Lookup} {limit n : Nat} {listing : Listing String}

theorem lists_nothing : Lists entry 0 0 {} where
  within := Nat.zero_le _
  passed := fun k hk => absurd hk (Nat.not_lt_zero k)
  items := rfl
  ended := .inl ⟨rfl, rfl⟩

theorem lists_terminator (h : entry 0 = .terminator) : Lists entry (limit + 1) 0 {} where
  within := Nat.zero_le _
  passed := fun k hk => absurd hk (Nat.not_lt_zero k)
  items := rfl
  ended := .inr ⟨Nat.succ_pos limit, .inl ⟨h, rfl⟩⟩

theorem lists_cut {cause : ReadError} (h : entry 0 = .cut cause) :
    Lists entry (limit + 1) 0 { stop := some cause } where
  within := Nat.zero_le _
  passed := fun k hk => absurd hk (Nat.not_lt_zero k)
  items := rfl
  ended := .inr ⟨Nat.succ_pos limit, .inr ⟨cause, h, rfl⟩⟩

/-- A listing of the entries behind the first is one of all entries with the name of the first in front. -/
theorem Lists.cons (hfirst : (entry 0).IsPassed) (h : Lists (fun k => entry (k + 1)) limit n listing) :
    Lists entry (limit + 1) (n + 1)
      { items := (entry 0).name?.toArray ++ listing.items, stop := listing.stop } where
  within := Nat.succ_le_succ h.within
  passed := by
    intro k hk
    cases k with
    | zero => exact hfirst
    | succ k => exact h.passed k (Nat.lt_of_succ_lt_succ hk)
  items := by
    rw [List.range_succ_eq_map, List.filterMap_cons, List.filterMap_map, Array.toList_append, h.items]
    cases (entry 0).name? <;> rfl
  ended := by
    rcases h.ended with ⟨hn, hstop⟩ | ⟨hn, hend⟩
    · exact .inl ⟨congrArg Nat.succ hn, hstop⟩
    · exact .inr ⟨Nat.succ_lt_succ hn, hend⟩

/-- A listing ends with a failed read exactly if that is met before the end of the table and within the
limit. -/
theorem Lists.stop_eq_some_iff (h : Lists entry limit n listing) {cause : ReadError} :
    listing.stop = some cause ↔
      ∃ m < limit, (∀ k < m, (entry k).IsPassed) ∧ entry m = .cut cause := by
  constructor
  · intro hstop
    rcases h.ended with ⟨-, hnone⟩ | ⟨hn, ⟨-, hnone⟩ | ⟨found, hcut, hsome⟩⟩
    · rw [hnone] at hstop
      cases hstop
    · rw [hnone] at hstop
      cases hstop
    · obtain rfl := Option.some.inj (hsome.symm.trans hstop)
      exact ⟨n, hn, h.passed, hcut⟩
  · rintro ⟨m, hm, hpassed, hcut⟩
    -- The entry that ends the listing and the one that cannot be read are the same one.
    rcases Nat.lt_trichotomy m n with hlt | rfl | hgt
    · have hbefore := h.passed m hlt
      rw [hcut] at hbefore
      exact hbefore.elim
    · rcases h.ended with ⟨heq, -⟩ | ⟨-, ⟨hend, -⟩ | ⟨found, hfound, hsome⟩⟩
      · omega
      · rw [hcut] at hend
        cases hend
      · rw [hcut] at hfound
        obtain rfl := Lookup.cut.inj hfound
        exact hsome
    · have hbefore := hpassed n hgt
      rcases h.ended with ⟨heq, -⟩ | ⟨-, ⟨hend, -⟩ | ⟨found, hfound, -⟩⟩
      · omega
      · rw [hend] at hbefore
        exact hbefore.elim
      · rw [hfound] at hbefore
        exact hbefore.elim

/-- Only the end of the data can cut a lookup table short. -/
theorem Lists.category_of_stop (h : Lists entry limit n listing) (hsound : ∀ k, (entry k).IsSound)
    {cause : ReadError} (hstop : listing.stop = some cause) : cause.category = "TruncatedImageError" := by
  obtain ⟨m, -, -, hcut⟩ := h.stop_eq_some_iff.mp hstop
  have hentry := hsound m
  rw [hcut] at hentry
  exact hentry

/-- Every listed name is within the bound on names, and none is empty. -/
theorem Lists.sound_of_mem (h : Lists entry limit n listing) (hsound : ∀ k, (entry k).IsSound)
    {name : String} (hname : name ∈ listing.items.toList) : name ≠ "" ∧ name.length ≤ 256 := by
  rw [h.items, List.mem_filterMap] at hname
  obtain ⟨k, -, hk⟩ := hname
  have hentry := hsound k
  rw [name?_eq_some hk] at hentry
  exact hentry

end Lists

/-- Every entry is sought by its offset, so it does not matter where the cursor stood. -/
theorem thunkNamesFrom_cursor (c other : Cursor data) (offset : Int) (found : Array String)
    (left : Nat) :
    (thunkNamesFrom sections bitness c offset found left).1 =
      (thunkNamesFrom sections bitness other offset found left).1 := by
  cases left with
  | zero => rfl
  | succ left =>
    rw [thunkNamesFrom, thunkNamesFrom, seek_cursor c other]
    split <;> rfl

/-- One step over a table: the entry at the offset ends the walk, or the walk goes on behind it with its
name added. -/
theorem thunkNamesFrom_succ (h : ∀ s ∈ sections, s.HasWords) {offset : Nat}
    (hoffset : (offset : Int) < positionLimit) (c : Cursor data) (found : Array String) (left : Nat) :
    (thunkNamesFrom sections bitness c offset found (left + 1)).1 =
      match lookupAt data sections bitness offset with
      | .terminator => { items := found }
      | .cut cause => { items := found, stop := some cause }
      | passed => (thunkNamesFrom sections bitness c (offset + thunkWidth bitness : Nat)
          (found ++ passed.name?.toArray) left).1 := by
  have hwidth := thunkWidth_pos bitness
  rw [thunkNamesFrom, Cursor.seek_of_lt c (Int.natCast_nonneg offset) hoffset, Int.toNat_natCast]
  simp only [Except.bind]
  by_cases hfits : offset + thunkWidth bitness ≤ data.size
  · rw [Cursor.number_of_le hfits]
    by_cases hmore : littleEndian data offset (thunkWidth bitness) = 0
    · rw [lookupAt_of_zero hfits hmore, hmore]
      rfl
    · have hread := readThunkName_map h hfits hmore ⟨offset + thunkWidth bitness⟩
      have hgoes := lookupAt_ne_terminator sections hfits hmore
      obtain ⟨value, hvalue⟩ := Nat.exists_eq_succ_of_ne_zero hmore
      rw [hvalue] at hread ⊢
      simp only
      cases hentry : lookupAt data sections bitness offset with
      | terminator => exact absurd hentry hgoes
      | cut cause =>
        rw [hentry] at hread
        rw [Cursor.eq_error_of_map_fst hread]
      | nameless =>
        rw [hentry] at hread
        obtain ⟨moved, hmoved⟩ := Cursor.eq_ok_of_map_fst hread
        rw [hmoved]
        exact thunkNamesFrom_cursor _ _ _ _ _
      | named name =>
        rw [hentry] at hread
        obtain ⟨moved, hmoved⟩ := Cursor.eq_ok_of_map_fst hread
        rw [hmoved]
        exact thunkNamesFrom_cursor _ _ _ _ _
  · rw [Cursor.number_of_lt hwidth (Nat.not_le.mp hfits), lookupAt_of_lt (Nat.not_le.mp hfits)]

theorem lookupsAt_zero (data : ByteArray) (sections : List Section) (bitness : Int) (table : Nat) :
    lookupsAt data sections bitness table 0 = lookupAt data sections bitness table := by
  rw [lookupsAt, Nat.zero_mul, Nat.add_zero]

theorem lookupsAt_succ (table : Nat) :
    (fun k => lookupsAt data sections bitness table (k + 1)) =
      lookupsAt data sections bitness (table + thunkWidth bitness) := by
  funext k
  rw [lookupsAt, lookupsAt, Nat.succ_mul, Nat.add_assoc, Nat.add_comm (k * _)]
  rfl

/-- From any entry on, a walk adds the names that the entries list. -/
theorem exists_lists (h : ∀ s ∈ sections, s.HasWords) (c : Cursor data) {table left : Nat}
    (hlimit : ((table + left * thunkWidth bitness : Nat) : Int) ≤ positionLimit)
    (found : Array String) :
    ∃ n listing, Lists (lookupsAt data sections bitness table) left n listing ∧
      (thunkNamesFrom sections bitness c table found left).1 =
        { items := found ++ listing.items, stop := listing.stop } := by
  have hwidth := thunkWidth_pos bitness
  induction left generalizing table found with
  | zero => exact ⟨0, {}, lists_nothing, by rw [Array.append_empty]; rfl⟩
  | succ left ih =>
    rw [Nat.succ_mul] at hlimit
    rw [thunkNamesFrom_succ h (by omega) c found left]
    have hfirst := lookupsAt_zero data sections bitness table
    have hbehind : ((table + thunkWidth bitness + left * thunkWidth bitness : Nat) : Int) ≤
        positionLimit := by omega
    obtain ⟨n, listing, hlists, hrest⟩ :=
      ih hbehind (found ++ (lookupsAt data sections bitness table 0).name?.toArray)
    rw [← lookupsAt_succ] at hlists
    rw [Array.append_assoc] at hrest
    cases hentry : lookupAt data sections bitness table with
    | terminator =>
      exact ⟨0, {}, lists_terminator (hfirst.trans hentry), by rw [Array.append_empty]⟩
    | cut cause =>
      exact ⟨0, { stop := some cause }, lists_cut (hfirst.trans hentry), by rw [Array.append_empty]⟩
    | nameless | named name =>
      rw [hfirst, hentry] at hrest
      have hpassed : (lookupsAt data sections bitness table 0).IsPassed := by
        rw [hfirst, hentry]
        trivial
      refine ⟨n + 1, _, hlists.cons hpassed, ?_⟩
      rw [hfirst, hentry]
      exact hrest

/-- The listing of a lookup table. Where no section maps the table there is none; otherwise its entries
are taken in order, the first fifty at most, up to a zero or a read that runs past the end of the data. All
of their names are listed, and nothing else; and the listing ends with a failed read exactly if such an
entry is met. -/
theorem thunkNames_lists (h : ∀ s ∈ sections, s.HasWords) (data : ByteArray) (bitness : Int)
    (c : Cursor data) (rva : Int) :
    let listing := (thunkNames sections bitness c rva).1
    (fileOffset? sections rva = none → listing = {}) ∧
    (∀ table, fileOffset? sections rva = some table → 0 ≤ table ∧
      (∃ n, Lists (lookupsAt data sections bitness table.toNat) 50 n listing) ∧
      ∀ cause, listing.stop = some cause ↔
        ∃ n < 50, (∀ k < n, (lookupsAt data sections bitness table.toNat k).IsPassed) ∧
          lookupsAt data sections bitness table.toNat n = .cut cause) ∧
    (∀ cause, listing.stop = some cause → cause.category = "TruncatedImageError") ∧
    ∀ name ∈ listing.items.toList, name ≠ "" ∧ name.length ≤ 256 := by
  intro listing
  cases htable : fileOffset? sections rva with
  | none =>
    have hnone : listing = {} := by
      simp only [listing, thunkNames, htable]
    rw [hnone]
    refine ⟨fun _ => rfl, ?_, ?_, ?_⟩
    · intro table hmapped
      cases hmapped
    · intro cause hstop
      cases hstop
    · exact fun name hname => absurd hname List.not_mem_nil
  | some table =>
    obtain ⟨hlow, hhigh⟩ := fileOffset?_of_hasWords h htable
    have hwidth := thunkWidth_eq bitness
    have hlimit : ((table.toNat + maximumThunks * thunkWidth bitness : Nat) : Int) ≤ positionLimit := by
      simp only [maximumThunks, positionLimit]
      omega
    obtain ⟨n, walked, hlists, hwalk⟩ := exists_lists h c hlimit #[]
    have hlisting : listing = walked := by
      rw [Array.empty_append, Int.toNat_of_nonneg hlow] at hwalk
      simp only [listing, thunkNames, htable]
      exact hwalk
    have hsound := isSound_lookupsAt data sections bitness table.toNat
    rw [hlisting]
    refine ⟨?_, ?_, fun cause => hlists.category_of_stop hsound, fun name => hlists.sound_of_mem hsound⟩
    · intro hunmapped
      cases hunmapped
    · rintro _ ⟨⟩
      exact ⟨hlow, ⟨n, hlists⟩, fun cause => hlists.stop_eq_some_iff⟩

/-- A lookup table whose first entry has its name within the third; the fourth is cut off. -/
def crowdedTable : ByteArray :=
  ⟨#[8, 0, 0, 0, 1, 0, 0, 0x80, 0, 0, 102, 0, 16, 0]⟩

theorem thunkNames_lists_crowdedTable :
    let sections : List Section := [{ virtualSize := 512 }]
    let listing := (thunkNames sections 32 (Cursor.start crowdedTable) 0).1
    (∀ s ∈ sections, s.HasWords) ∧ fileOffset? sections 0 = some 0 ∧
      listing = { items := #["f"], stop := some (.truncated 4 12 2) } ∧
      ∃ n, Lists (lookupsAt crowdedTable sections 32 0) 50 n listing := by
  intro sections listing
  have hwords : ∀ s ∈ sections, s.HasWords := by
    intro s hs
    rw [List.mem_singleton.mp hs]
    constructor <;> decide
  have htable : fileOffset? sections 0 = some 0 := by decide
  have hlists := thunkNames_lists hwords crowdedTable 32 (Cursor.start crowdedTable) 0
  exact ⟨hwords, htable, by decide +kernel, (hlists.2.1 0 htable).2.1⟩

end PeSignals.Image
