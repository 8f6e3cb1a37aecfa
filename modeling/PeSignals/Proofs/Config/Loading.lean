import Mathlib
import PeSignals.Config.Configuration
import PeSignals.Proofs.Result

/-!
# Loaded configurations

A file of settings that can be read gives every declared setting, with its own value where it has one and the
default elsewhere. Names that are not declared and the order of names do not show in what is loaded.
-/
namespace PeSignals

open Files (FileTree)

/-! ## Values by name -/

section Lookup

variable {α : Type} {entries others : List (String × α)}

/-- What distinct names stand for does not depend on their order. -/
theorem lookup_eq_of_perm (h : entries.Perm others) (hnames : (entries.map (·.1)).Nodup) (name : String) :
    entries.lookup name = others.lookup name := by
  induction h with
  | nil => rfl
  | cons entry _ ih => rw [List.lookup_cons, List.lookup_cons, ih (List.nodup_cons.mp hnames).2]
  | swap first second rest =>
    obtain ⟨first, value⟩ := first
    obtain ⟨second, other⟩ := second
    have hne : first ≠ second := by
      rintro rfl
      exact (List.nodup_cons.mp hnames).1 List.mem_cons_self
    rw [List.lookup_cons, List.lookup_cons, List.lookup_cons, List.lookup_cons]
    by_cases hfirst : name = first
    · rw [hfirst, beq_false_of_ne hne]
    · rw [beq_false_of_ne hfirst]
  | trans hleft _ ihleft ihright =>
    exact (ihleft hnames).trans (ihright ((hleft.map _).nodup_iff.mp hnames))

theorem lookup_insert_of_ne {name other : String} (h : name ≠ other) (value : α)
    (before after : List (String × α)) :
    (before ++ (other, value) :: after).lookup name = (before ++ after).lookup name := by
  rw [List.lookup_append, List.lookup_append, List.lookup_cons, beq_false_of_ne h]

theorem lookup_of_mem (hnames : (entries.map (·.1)).Nodup) {entry : String × α} (h : entry ∈ entries) :
    entries.lookup entry.1 = some entry.2 := by
  obtain ⟨before, after, rfl⟩ := List.append_of_mem h
  have hbefore : before.lookup entry.1 = none := by
    rw [List.lookup_eq_none_iff]
    intro other hother
    rw [List.map_append, List.map_cons] at hnames
    have hdisjoint := (List.nodup_append.mp hnames).2.2 other.1 (List.mem_map_of_mem hother)
    exact bne_iff_ne.mpr (hdisjoint entry.1 List.mem_cons_self).symm
  rw [List.lookup_append, hbefore, Option.none_or, List.lookup_cons_self]

theorem lookup_map_values {β : Type} (f : α → β) (entries : List (String × α)) (name : String) :
    (entries.map fun (n, a) => (n, f a)).lookup name = (entries.lookup name).map f := by
  induction entries with
  | nil => rfl
  | cons entry rest ih =>
    obtain ⟨other, a⟩ := entry
    rw [List.map_cons, List.lookup_cons, List.lookup_cons, ih]
    cases name == other <;> rfl

end Lookup

namespace Configuration

/-! ## What a document says -/

/-- The table of a group of settings, empty when the document has none. -/
def tableOf (document : Toml.Table) (name : String) : Toml.Table :=
  match document.lookup name with
  | some (.table entries) => entries
  | _ => []

/-- Whether what stands under the name of a group, if anything does, is a table. -/
def HasTable (document : Toml.Table) (name : String) : Prop :=
  ∀ v ∈ document.lookup name, ∃ entries, v = .table entries

/-- Whether a group holds exactly the declared settings, each with the value that is given for it or else with
its default. -/
structure IsFilled (group declared : SettingGroup) (given : Toml.Table) : Prop where
  names : group.map (·.1) = declared.map (·.1)
  values : ∀ setting ∈ declared, group.lookup setting.1 =
    some (match given.lookup setting.1 with
      | some v => .ofToml v
      | none => setting.2)

/-- Whether a configuration is the one that a document describes. -/
structure Tells (c : Configuration) (document : Toml.Table) : Prop where
  general : IsFilled c.general generalDefaults (tableOf document "global")
  scan : IsFilled c.scan scanDefaults (tableOf document "drmscan")

/-- The settings of a group as they are loaded. -/
def filled (declared : SettingGroup) (document : Toml.Table) (name : String) : Except Fault SettingGroup :=
  (groupOf document name).map (fill declared)

/-- The two groups are read one after the other; the first that is no table decides the fault. -/
theorem ofTable_eq (document : Toml.Table) :
    ofTable document = do
      let general ← filled generalDefaults document "global"
      let scan ← filled scanDefaults document "drmscan"
      return ⟨general, scan⟩ := by
  rw [ofTable, filled, filled]
  cases groupOf document "global" with
  | error fault => rfl
  | ok general => cases groupOf document "drmscan" <;> rfl

def given (entries : Toml.Table) : SettingGroup := entries.map fun (name, v) => (name, .ofToml v)

theorem groupOf_of_hasTable {document : Toml.Table} {name : String} (h : HasTable document name) :
    groupOf document name = .ok (given (tableOf document name)) := by
  unfold groupOf tableOf
  cases hlookup : document.lookup name with
  | none => rfl
  | some v =>
    obtain ⟨entries, rfl⟩ := h v hlookup
    rfl

theorem exists_groupOf_eq_error {document : Toml.Table} {name : String} (h : ¬ HasTable document name) :
    ∃ typeName, groupOf document name = .error (.notATable typeName) := by
  simp only [HasTable, not_forall] at h
  obtain ⟨v, hv, hother⟩ := h
  refine ⟨v.typeName, ?_⟩
  unfold groupOf
  rw [Option.mem_def.mp hv]
  cases v with
  | table entries => exact absurd ⟨entries, rfl⟩ hother
  | text | int | float | bool | moment | array => rfl

/-- Filling gives every declared setting its value in the file, or else its default, and adds nothing. -/
theorem isFilled_fill {declared : SettingGroup} (hnames : (declared.map (·.1)).Nodup)
    (entries : Toml.Table) : IsFilled (fill declared (given entries)) declared entries where
  names := map_fst_fill declared _
  values := by
    intro setting hsetting
    have hmem : (setting.1, ((given entries).lookup setting.1).getD setting.2) ∈ fill declared (given entries) :=
      List.mem_map.mpr ⟨setting, hsetting, rfl⟩
    rw [← map_fst_fill declared (given entries)] at hnames
    have hfound := lookup_of_mem hnames hmem
    dsimp only at hfound
    rw [hfound, given, lookup_map_values]
    cases entries.lookup setting.1 <;> rfl

theorem exists_ofTable {document : Toml.Table} (hgeneral : HasTable document "global")
    (hscan : HasTable document "drmscan") : ∃ c, ofTable document = .ok c ∧ c.Tells document := by
  refine ⟨⟨fill generalDefaults (given (tableOf document "global")),
    fill scanDefaults (given (tableOf document "drmscan"))⟩, ?_, ?_, ?_⟩
  · rw [ofTable, groupOf_of_hasTable hgeneral, groupOf_of_hasTable hscan]
    rfl
  · exact isFilled_fill (by decide) _
  · exact isFilled_fill (by decide) _

theorem exists_ofTable_eq_error {document : Toml.Table}
    (h : ¬ (HasTable document "global" ∧ HasTable document "drmscan")) :
    ∃ typeName, ofTable document = .error (.notATable typeName) := by
  by_cases hgeneral : HasTable document "global"
  · obtain ⟨typeName, hscan⟩ := exists_groupOf_eq_error fun hscan => h ⟨hgeneral, hscan⟩
    refine ⟨typeName, ?_⟩
    rw [ofTable, groupOf_of_hasTable hgeneral, hscan]
    rfl
  · obtain ⟨typeName, hgeneral⟩ := exists_groupOf_eq_error hgeneral
    refine ⟨typeName, ?_⟩
    rw [ofTable, hgeneral]
    rfl

/-! ## What a document says in vain -/

/-- Whether two tables differ by the order of distinct names, or by an entry whose name is not known. -/
inductive SameFor (known : List String) : Toml.Table → Toml.Table → Prop
  | reordered {entries others : Toml.Table} (h : entries.Perm others)
    (hnames : (entries.map (·.1)).Nodup) : SameFor known entries others
  | unknown (before after : Toml.Table) (name : String) (v : Toml.Value) (h : name ∉ known) :
    SameFor known (before ++ (name, v) :: after) (before ++ after)

/-- Whether two documents differ in nothing that is loaded: by the order of names, a table that is no group, or
a name that is not declared in its group. -/
inductive Inessential : Toml.Table → Toml.Table → Prop
  | outside {document other : Toml.Table} (h : SameFor ["global", "drmscan"] document other) :
    Inessential document other
  | general (before after : Toml.Table) {entries others : Toml.Table}
    (h : SameFor (generalDefaults.map (·.1)) entries others) :
    Inessential (before ++ ("global", .table entries) :: after) (before ++ ("global", .table others) :: after)
  | scan (before after : Toml.Table) {entries others : Toml.Table}
    (h : SameFor (scanDefaults.map (·.1)) entries others) :
    Inessential (before ++ ("drmscan", .table entries) :: after) (before ++ ("drmscan", .table others) :: after)

theorem SameFor.lookup_eq {known : List String} {entries others : Toml.Table}
    (h : SameFor known entries others) {name : String} (hname : name ∈ known) :
    entries.lookup name = others.lookup name := by
  cases h with
  | reordered h hnames => exact lookup_eq_of_perm h hnames name
  | unknown before after other v hunknown =>
    refine lookup_insert_of_ne ?_ v before after
    rintro rfl
    exact hunknown hname

/-- Only the declared names matter to what a group is filled with. -/
theorem fill_congr {declared : SettingGroup} {entries others : Toml.Table}
    (h : SameFor (declared.map (·.1)) entries others) :
    fill declared (given entries) = fill declared (given others) := by
  refine List.map_congr_left fun setting hsetting => ?_
  have hsame := h.lookup_eq (List.mem_map_of_mem hsetting)
  dsimp only
  rw [given, given, lookup_map_values, lookup_map_values, hsame]

theorem filled_of_lookup_eq {document other : Toml.Table} {name : String}
    (h : document.lookup name = other.lookup name) (declared : SettingGroup) :
    filled declared document name = filled declared other name := by
  rw [filled, filled, groupOf, groupOf, h]

/-- Of the table of a group only the declared names are looked at. -/
theorem filled_table_congr {declared : SettingGroup} {entries others : Toml.Table}
    (h : SameFor (declared.map (·.1)) entries others) (before after : Toml.Table) (name : String) :
    filled declared (before ++ (name, .table entries) :: after) name =
      filled declared (before ++ (name, .table others) :: after) name := by
  rw [filled, filled, groupOf, groupOf, List.lookup_append, List.lookup_append, List.lookup_cons_self,
    List.lookup_cons_self]
  -- An earlier entry of the name would hide both tables.
  cases before.lookup name with
  | some v => rfl
  | none => exact congrArg Except.ok (fill_congr h)

theorem filled_other {name other : String} (h : name ≠ other) (declared : SettingGroup)
    (before after : Toml.Table) (v w : Toml.Value) :
    filled declared (before ++ (other, v) :: after) name =
      filled declared (before ++ (other, w) :: after) name :=
  filled_of_lookup_eq ((lookup_insert_of_ne h v before after).trans
    (lookup_insert_of_ne h w before after).symm) declared

theorem ofTable_congr {document other : Toml.Table} (h : Inessential document other) :
    ofTable document = ofTable other := by
  rw [ofTable_eq, ofTable_eq]
  cases h with
  | outside h =>
    rw [filled_of_lookup_eq (h.lookup_eq (by decide)), filled_of_lookup_eq (h.lookup_eq (by decide))]
  | general before after h =>
    rw [filled_table_congr h, filled_other (by decide) scanDefaults before after]
  | scan before after h =>
    rw [filled_table_congr h, filled_other (by decide) generalDefaults before after]

/-- Documents that differ by any number of inessential changes load alike. -/
theorem ofTable_of_eqvGen {document other : Toml.Table} (h : Relation.EqvGen Inessential document other) :
    ofTable document = ofTable other := by
  induction h with
  | rel _ _ h => exact ofTable_congr h
  | refl => rfl
  | symm _ _ _ ih => exact ih.symm
  | trans _ _ _ _ _ ihleft ihright => exact ihleft.trans ihright

/-! ## Files -/

/-- The bytes of the file that is loaded for a path, or without a path of the program's own file. -/
def fileFor? (t : FileTree) (own : Option ByteArray) : Option String → Option ByteArray
  | some path => (t.read (Files.Path.ofText path).text).toOption
  | none => own

theorem pathExists_of_read {t : FileTree} {path : String} {bytes : ByteArray}
    (h : t.read path = .ok bytes) : t.pathExists path = .ok true := by
  obtain ⟨place, hfind, -⟩ := bind_eq_ok_iff.mp h
  rw [FileTree.pathExists, FileTree.probe, hfind]
  rfl

theorem load_of_fileFor? {t : FileTree} {own : Option ByteArray} {path : Option String}
    {bytes : ByteArray} (h : fileFor? t own path = some bytes) : load t path own = ofBytes bytes := by
  cases path with
  | none =>
    rw [show own = some bytes from h]
    rfl
  | some path =>
    have hread : t.read (Files.Path.ofText path).text = .ok bytes := by
      change (t.read (Files.Path.ofText path).text).toOption = some bytes at h
      cases hread : t.read (Files.Path.ofText path).text with
      | error e =>
        rw [hread] at h
        cases h
      | ok found =>
        rw [hread] at h
        cases h
        rfl
    change loadFile t path = _
    rw [loadFile, pathExists_of_read hread, hread]
    rfl

/-- A path that is named must lead to a file; the defaults stand in only where none is named. -/
theorem load_of_missing {t : FileTree} {path : String} (own : Option ByteArray)
    (h : t.pathExists (Files.Path.ofText path).text = .ok false) :
    load t (some path) own = .error (.missing (Files.Path.ofText path).text) := by
  change loadFile t path = _
  rw [loadFile, h]
  rfl

theorem ofBytes_of_malformed {bytes : ByteArray} {cause : Toml.Malformed}
    (h : Toml.decode bytes = .error cause) : ofBytes bytes = .error (.malformed cause) := by
  rw [ofBytes, h]
  rfl

theorem ofBytes_of_decode {bytes : ByteArray} {document : Toml.Table}
    (h : Toml.decode bytes = .ok document) : ofBytes bytes = ofTable document := by
  rw [ofBytes, h]
  rfl

theorem load_eq_ofTable {t : FileTree} {own : Option ByteArray} {path : Option String}
    {bytes : ByteArray} {document : Toml.Table} (hbytes : fileFor? t own path = some bytes)
    (hdocument : Toml.decode bytes = .ok document) : load t path own = ofTable document :=
  (load_of_fileFor? hbytes).trans (ofBytes_of_decode hdocument)

end Configuration

end PeSignals
