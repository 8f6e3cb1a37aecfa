import Mathlib
import PeSignals.Display.Inspection
import PeSignals.Image.Writer
import PeSignals.Proofs.Display.Legible
import PeSignals.Proofs.Scan.Inspection

/-!
# Displays of inspections

An entropy always has a bar, so an inspection is drawn to its end. Its section table has one row for each
section. The flags and the entropy in a row are found by the name of the section, and where several sections
share a name they are those of the last.
-/
namespace PeSignals.Display

open Decimal (NonNegative)
open Inspection (row runIn)

/-! ## Bars -/

/-- Entropies above eight are cut to eight, so the share of a bar is always a number. -/
theorem exists_entropyBar {x : Float} (h : NonNegative x) : ∃ bar, entropyBar x 20 = .ok bar := by
  have height : Decimal.isPositive (8 : Float).toModel.unpack = true := by decide
  have hshare : NonNegative (x / 8) := h.div height
  have htwenty : (Float.ofInt 20).toModel.unpack =
      .finite .positive (5 * 2 ^ 50) (-48) (by decide) := rfl
  have hwhole : ∃ filled, Decimal.wholePart (entropyShare x * Float.ofInt 20) = .ok filled := by
    rw [entropyShare]
    split_ifs with hone
    · exact ⟨20, by decide⟩
    · exact Decimal.wholePart_of_isFinite (Decimal.isFinite_mul hshare hone htwenty (by decide))
  obtain ⟨filled, hfilled⟩ := hwhole
  exact ⟨_, by rw [entropyBar, hfilled]; rfl⟩

/-! ## Rows by name -/

/-- Whether a row is the last of a name, at a place in a list. -/
structure IsLast (rows : List SectionRow) (name : String) (j : Nat) (r : SectionRow) : Prop where
  at_place : rows[j]? = some r
  name_eq : r.name = name
  later : ∀ k r', j < k → rows[k]? = some r' → r'.name ≠ name

/-- Of several rows with one name the last is found. -/
theorem rowOf?_map (rows : List SectionRow) (name : String) :
    rowOf? (rows.map .of) name = (rows.reverse.find? fun r => r.name = name).map .of := by
  rw [rowOf?, ← List.map_reverse, List.find?_map]
  rfl

theorem exists_isLast {rows : List SectionRow} {name : String} (h : ∃ r ∈ rows, r.name = name) :
    ∃ j r, IsLast rows name j r ∧ rowOf? (rows.map .of) name = some (.of r) := by
  have hsome : (rows.reverse.find? fun r => decide (r.name = name)).isSome = true := by
    rw [List.find?_isSome]
    simpa using h
  obtain ⟨r, hr⟩ := Option.isSome_iff_exists.mp hsome
  -- the search runs from the end, so what it passed over stands behind what it found
  obtain ⟨hname, behind, before, hsplit, hbehind⟩ := List.find?_eq_some_iff_append.mp hr
  have hrows : rows = before.reverse ++ r :: behind.reverse := by
    rw [← List.reverse_reverse rows, hsplit, List.reverse_append, List.reverse_cons, List.append_assoc,
      List.singleton_append]
  refine ⟨before.reverse.length, r, ⟨?_, of_decide_eq_true hname, fun k r' hk hr' heq => ?_⟩, ?_⟩
  · rw [hrows, List.getElem?_append_right le_rfl, Nat.sub_self, List.getElem?_cons_zero]
  · rw [hrows, List.getElem?_append_right hk.le, List.getElem?_cons, if_neg (by omega)] at hr'
    have hmem : r' ∈ behind := List.mem_reverse.mp (List.mem_of_getElem? hr')
    have hnot := hbehind r' hmem
    rw [heq] at hnot
    simp at hnot
  · rw [rowOf?_map, hr]
    rfl

/-! ## The section table -/

/-- The number, the name, the addresses and the sizes of a section in the table. -/
def placeCells (s : Image.Section) (i : Nat) : List String :=
  [toString (i + 1), nameCell s.name, "0x" ++ Text.signedHexadecimal s.virtualAddress,
    Decimal.grouped s.virtualSize, "0x" ++ Text.signedHexadecimal s.rawPointer, Decimal.grouped s.rawSize]

/-- The flags, the entropy and the entropy bar of a row in the table. -/
def contentCells (r : SectionRow) (bar : String) : List String := [r.flags, entropyCell r.entropy, bar]

/-- Whether a row is that of a section, with an entropy that a bar can be drawn of. -/
structure IsRow (s : Image.Section) (r : SectionRow) : Prop where
  name_eq : r.name = s.name
  flags_eq : r.flags = Image.describeCharacteristics s.characteristics
  nonNegative : NonNegative r.entropy

/-- Whether rows are those of sections, one for each. -/
def AreRows (sections : List Image.Section) (rows : List SectionRow) : Prop :=
  List.Forall₂ IsRow sections rows

/-- What a section table shows of an image report. -/
structure Shows (sections : List Image.Section) (rows : List SectionRow) (table : List (List String)) :
    Prop where
  length_eq : table.length = sections.length
  cells : ∀ i s, sections[i]? = some s → ∃ j r bar, i ≤ j ∧ IsLast rows s.name j r ∧
    entropyBar r.entropy 20 = .ok bar ∧ table[i]? = some (placeCells s i ++ contentCells r bar)

theorem exists_sectionRow {rows : List SectionRow} (hrows : ∀ r ∈ rows, NonNegative r.entropy)
    {s : Image.Section} (hs : ∃ r ∈ rows, r.name = s.name) (i : Nat) :
    ∃ j r bar, IsLast rows s.name j r ∧ entropyBar r.entropy 20 = .ok bar ∧
      sectionRow (rows.map .of) (.of s) i = .ok (placeCells s i ++ contentCells r bar) := by
  obtain ⟨j, r, hlast, hrow⟩ := exists_isLast hs
  obtain ⟨bar, hbar⟩ := exists_entropyBar (hrows r (List.mem_of_getElem? hlast.at_place))
  refine ⟨j, r, bar, hlast, hbar, ?_⟩
  have hcells : entropyCells (some (.of r)) = .ok (contentCells r bar) := by
    change ((entropyBar r.entropy 20).mapError Fault.notWhole >>= _) = _
    rw [hbar]
    rfl
  rw [sectionRow]
  change (entropyCells (rowOf? (rows.map .of) s.name) >>= _) = _
  rw [hrow, hcells]
  rfl

/-- A list is mapped if each of its items is. -/
theorem exists_mapM {α β ε : Type} {f : α → Except ε β} {items : List α}
    (h : ∀ a ∈ items, ∃ b, f a = .ok b) :
    ∃ made, items.mapM f = .ok made ∧ List.Forall₂ (fun a b => f a = .ok b) items made := by
  induction items with
  | nil => exact ⟨[], rfl, .nil⟩
  | cons a rest ih =>
    obtain ⟨b, hb⟩ := h a List.mem_cons_self
    obtain ⟨made, hmade, hforall⟩ := ih fun a ha => h a (List.mem_cons_of_mem _ ha)
    refine ⟨b :: made, ?_, .cons hb hforall⟩
    rw [List.mapM_cons, hb, hmade]
    rfl

theorem exists_getElem?_of_forall₂ {α β : Type} {R : α → β → Prop} {xs : List α} {ys : List β}
    (h : List.Forall₂ R xs ys) {i : Nat} {x : α} (hx : xs[i]? = some x) : ∃ y, ys[i]? = some y ∧ R x y := by
  obtain ⟨hi, rfl⟩ := List.getElem?_eq_some_iff.mp hx
  have hi' : i < ys.length := h.length_eq ▸ hi
  exact ⟨ys[i], List.getElem?_eq_getElem hi', h.get hi hi'⟩

theorem AreRows.nonNegative {sections : List Image.Section} {rows : List SectionRow}
    (h : AreRows sections rows) : ∀ r ∈ rows, NonNegative r.entropy := by
  intro r hr
  obtain ⟨i, hi⟩ := List.mem_iff_getElem?.mp hr
  obtain ⟨s, -, hs⟩ := exists_getElem?_of_forall₂ h.flip hi
  exact hs.nonNegative

/-- Every section has a row of the table, because some entropy stands under its name. -/
theorem exists_sectionRows {sections : List Image.Section} {rows : List SectionRow}
    (h : AreRows sections rows) :
    ∃ table, sectionRows (rows.map .of) (sections.map .of) = .ok table ∧ Shows sections rows table := by
  have hnamed (s : Image.Section) (hs : s ∈ sections) : ∃ r ∈ rows, r.name = s.name := by
    obtain ⟨i, hi⟩ := List.mem_iff_getElem?.mp hs
    obtain ⟨r, hr, hrow⟩ := exists_getElem?_of_forall₂ h hi
    exact ⟨r, List.mem_of_getElem? hr, hrow.name_eq⟩
  have hdrawn : ∀ place ∈ (sections.map SectionView.of).zipIdx,
      ∃ cells, sectionRow (rows.map .of) place.1 place.2 = .ok cells := by
    intro place hplace
    rw [List.zipIdx_map, List.mem_map] at hplace
    obtain ⟨⟨s, i⟩, hmem, rfl⟩ := hplace
    obtain ⟨j, r, bar, -, -, hrow⟩ :=
      exists_sectionRow h.nonNegative (hnamed s (List.fst_mem_of_mem_zipIdx hmem)) i
    exact ⟨_, hrow⟩
  obtain ⟨table, htable, hforall⟩ := exists_mapM hdrawn
  refine ⟨table, htable, ?_, fun i s hs => ?_⟩
  · rw [← hforall.length_eq, List.length_zipIdx, List.length_map]
  · have hplace : (sections.map SectionView.of).zipIdx[i]? = some (.of s, i) := by
      rw [List.getElem?_zipIdx, List.getElem?_map, hs]
      simp
    obtain ⟨cells, hcells, hrow⟩ := exists_getElem?_of_forall₂ hforall hplace
    obtain ⟨j, r, bar, hlast, hbar, hshown⟩ :=
      exists_sectionRow h.nonNegative (hnamed s (List.mem_of_getElem? hs)) i
    obtain ⟨r', hr', hown⟩ := exists_getElem?_of_forall₂ h hs
    refine ⟨j, r, bar, ?_, hlast, hbar, ?_⟩
    · by_contra hj
      exact hlast.later i r' (not_le.mp hj) hr' hown.name_eq
    · rw [hcells, ← Except.ok.inj (hrow.symm.trans hshown)]

/-- A section that no later section shares its name with is shown with its own row. -/
theorem Shows.own {sections : List Image.Section} {rows : List SectionRow} {table : List (List String)}
    (h : Shows sections rows table) (hrows : AreRows sections rows) {i : Nat} {s : Image.Section}
    (hs : sections[i]? = some s) (hlater : ∀ k s', i < k → sections[k]? = some s' → s'.name ≠ s.name) :
    ∃ r bar, rows[i]? = some r ∧ entropyBar r.entropy 20 = .ok bar ∧
      table[i]? = some (placeCells s i ++ contentCells r bar) := by
  obtain ⟨j, r, bar, hij, hlast, hbar, hcells⟩ := h.cells i s hs
  obtain ⟨s', hs', hrow⟩ := exists_getElem?_of_forall₂ hrows.flip hlast.at_place
  have hj : j = i := by
    by_contra hne
    exact hlater j s' (by omega) hs' (hrow.name_eq.symm.trans hlast.name_eq)
  exact ⟨r, bar, hj ▸ hlast.at_place, hbar, hcells⟩

/-! ## Drawings -/

/-- The rows of the section tables among events. -/
def sectionTables (events : List Event) : List (List (List String)) :=
  events.filterMap fun
    | .print [.table t] => if t.columns = sectionColumns then some t.rows else none
    | _ => none

theorem sectionTables_append (events more : List Event) :
    sectionTables (events ++ more) = sectionTables events ++ sectionTables more :=
  List.filterMap_append

/-- A table with a column of another kind is no section table. -/
theorem sectionTables_other {title caption : Option String} {columns : List Column}
    {rows : List (List String)} {i : Nat} (hi : i < columns.length) (h : columns[i]? ≠ sectionColumns[i]?) :
    sectionTables [.print [.table (Table.ofRows title caption columns rows)]] = [] := by
  have hne : (Table.ofRows title caption columns rows).columns ≠ sectionColumns := by
    intro heq
    rw [← heq] at h
    exact h (List.getElem?_append_left hi).symm
  simp only [sectionTables, List.filterMap_cons, List.filterMap_nil, if_neg hne]

theorem sectionTables_headerEvents (f : Figures) : sectionTables (headerEvents f) = [] := rfl

theorem sectionTables_importsEvents (libraries functions : List String) :
    sectionTables (importsEvents libraries functions) = [] := by
  have hlibraries : sectionTables [librariesTable libraries.length (sorted libraries)] = [] :=
    sectionTables_other (i := 0) (by decide) (by decide)
  have hfunctions : sectionTables [functionsTable functions.length (sorted functions)] = [] :=
    sectionTables_other (i := 0) (by decide) (by decide)
  rw [importsEvents, sectionTables_append]
  split_ifs
  · rfl
  · rw [sectionTables_append, sectionTables_append, hlibraries]
    rfl
  · rw [sectionTables_append, sectionTables_append, hlibraries, hfunctions]
    rfl

theorem sectionTables_hitsEvents (hits : List (String × Bool)) : sectionTables (hitsEvents hits) = [] := by
  rw [hitsEvents]
  split_ifs
  · rfl
  · change sectionTables ([_] ++ [blankLine]) = []
    rw [sectionTables_append, table, tableOf, sectionTables_other (i := 0) (by decide) (by decide)]
    rfl

theorem sectionTables_closingEvents (findings : List Finding) (summary : String) :
    sectionTables (closingEvents findings summary) = [] := by
  have htable : sectionTables [findingsTable findings] = [] :=
    sectionTables_other (i := 1) (by decide) (by decide)
  rw [closingEvents, sectionTables_append]
  split_ifs
  · rfl
  · rw [htable]
    rfl

theorem longestRow_le {rows : List (List String)} {n : Nat} (h : ∀ row ∈ rows, row.length ≤ n) :
    longestRow rows ≤ n := by
  have hfold : ∀ longest ≤ n, rows.foldl (fun longest row => max longest row.length) longest ≤ n := by
    induction rows with
    | nil => exact fun longest hle => hle
    | cons row rest ih =>
      intro longest hle
      exact ih (fun row hrow => h row (List.mem_cons_of_mem _ hrow)) _
        (max_le hle (h row List.mem_cons_self))
  exact hfold 0 (Nat.zero_le n)

/-- Rows that are as long as there are columns stay as they are. -/
theorem ofRows_of_length (title caption : Option String) {columns : List Column}
    {rows : List (List String)} (h : ∀ row ∈ rows, row.length = columns.length) :
    Table.ofRows title caption columns rows = { title, caption, columns, rows } := by
  have hwidth : max columns.length (longestRow rows) = columns.length :=
    max_eq_left (longestRow_le fun row hrow => (h row hrow).le)
  have hrows : rows.map (fun row => row ++ List.replicate (columns.length - row.length) "") = rows := by
    refine (List.map_congr_left fun row hrow => ?_).trans (List.map_id rows)
    rw [h row hrow, Nat.sub_self, List.replicate_zero, List.append_nil, id]
  simp only [Table.ofRows, hwidth, Nat.sub_self, List.replicate_zero, List.append_nil, hrows]

theorem sectionTables_sectionsEvents {sections : List Image.Section} {rows : List SectionRow}
    {table : List (List String)} (h : Shows sections rows table) :
    sectionTables (sectionsEvents table) = [table] := by
  have hcells : ∀ cells ∈ table, cells.length = sectionColumns.length := by
    intro cells hmem
    obtain ⟨i, hi, rfl⟩ := List.getElem_of_mem hmem
    have hs := List.getElem?_eq_getElem (h.length_eq ▸ hi : i < sections.length)
    obtain ⟨j, r, bar, -, -, -, hrow⟩ := h.cells i _ hs
    rw [List.getElem?_eq_getElem hi] at hrow
    rw [Option.some.inj hrow]
    rfl
  rw [sectionsEvents, ofRows_of_length none none hcells]
  rfl

/-- What is drawn of an image report whose rows are those of its sections. -/
theorem displayInspection_eq {scan : Scan Inspection} {report : ImageReport}
    (hpayload : scan.payload = .image report) {table : List (List String)}
    (htable : sectionRows (report.rows.map .of) (report.image.sections.map .of) = .ok table) :
    displayInspection scan = .of (heading "Image Inspection" ++
      (headerEvents (ImageView.of report).figures ++
        ((if report.image.sections.isEmpty then [] else heading "Sections" ++ sectionsEvents table) ++
          (importsEvents report.image.libraries report.image.functions ++ hitsEvents report.hits)) ++
        closingEvents scan.findings scan.summary)) := by
  have hsections : sectionsDrawing (report.rows.map .of) (report.image.sections.map .of) =
      .of (if report.image.sections.isEmpty then [] else heading "Sections" ++ sectionsEvents table) := by
    rw [sectionsDrawing, List.isEmpty_map]
    split_ifs
    · rfl
    · rw [htable]
      rfl
  have hview : viewDrawing (.of scan.payload) = .sequence [.of (headerEvents (ImageView.of report).figures),
      sectionsDrawing (report.rows.map .of) (report.image.sections.map .of),
      .of (importsEvents report.image.libraries report.image.functions ++ hitsEvents report.hits)] := by
    rw [hpayload]
    rfl
  rw [displayInspection, hview, hsections, inspectionDrawing]
  simp only [Drawing.sequence, Drawing.append, Drawing.of, List.append_nil]

theorem sectionTables_displayInspection {scan : Scan Inspection} {report : ImageReport}
    (hpayload : scan.payload = .image report) {table : List (List String)}
    (htable : sectionRows (report.rows.map .of) (report.image.sections.map .of) = .ok table)
    (hshows : Shows report.image.sections report.rows table) :
    sectionTables (displayInspection scan).events =
      if report.image.sections = [] then [] else [table] := by
  have hheading (title : String) : sectionTables (heading title) = [] := rfl
  rw [displayInspection_eq hpayload htable]
  simp only [Drawing.of, sectionTables_append, hheading, sectionTables_headerEvents,
    sectionTables_importsEvents, sectionTables_hitsEvents, sectionTables_closingEvents, List.nil_append,
    List.append_nil, List.isEmpty_iff]
  split_ifs
  · rfl
  · rw [sectionTables_append, hheading, sectionTables_sectionsEvents hshows, List.nil_append]

/-! ## Inspections -/

/-- The rows of an inspection are those of its sections, also while its log is written into the tree. -/
theorem areRows_runIn {view : List Log.Entry → Files.FileTree} {settings : Settings}
    (hmeasure : settings.measureEntropy = true) {patterns : List String} {path : String}
    {now : Time.Moment} {report : ImageReport}
    (hpayload : (runIn view settings patterns path now).scan.payload = .image report) :
    AreRows report.image.sections report.rows := by
  cases houtcome : (Image.ofFile (view (Inspection.opening path)) path).outcome with
  | refused r =>
    simp only [runIn, houtcome] at hpayload
    cases hpayload
  | image image =>
    simp only [runIn, houtcome] at hpayload
    obtain rfl := Inspection.image.inj hpayload
    obtain ⟨data, -, hparse⟩ := Image.exists_read_of_ofFile houtcome
    have hrows (x : Image.Section → Float) (hx : ∀ s, NonNegative (x s)) :
        AreRows image.sections ((image.sections.map fun s => (s, x s)).map fun m => row m.1 m.2) := by
      rw [AreRows, List.map_map, List.forall₂_map_right_iff, List.forall₂_same]
      exact fun s _ => ⟨rfl, rfl, Decimal.nonNegative_roundPlaces (hx s) 4⟩
    obtain ⟨measured, hmeasured, hvalue⟩ := Image.sectionEntropies_of_parse hparse
      (view (Inspection.opening path ++ Log.tagged "inspect"
        (Protection.debugNotes (Image.ofFile (view (Inspection.opening path)) path).diagnostics)))
    rw [Protection.measuredEntropies, if_pos hmeasure, hmeasured]
    -- by then the file may be gone, and every entropy is zero
    obtain ⟨-, -, hvalue⟩ | ⟨now, -, hvalue⟩ := hvalue
    · exact hvalue ▸ hrows _ fun _ => Decimal.nonNegative_zero
    · exact hvalue ▸ hrows _ fun s => Image.nonNegative_entropyOf now s

/-- An inspection that reports on an image was within its time. -/
theorem eq_runIn_of_inspectIn {view : List Log.Entry → Files.FileTree} {settings : Settings}
    {patterns : List String} {path : String} {limit : Option Number} {now : Time.Moment}
    {logged : Inspection.Logged Inspection}
    (h : Inspection.inspectIn view settings patterns path limit now = .ok logged) {report : ImageReport}
    (hpayload : logged.scan.payload = .image report) : logged = runIn view settings patterns path now := by
  rw [Inspection.inspectIn] at h
  split_ifs at h
  obtain rfl := Except.ok.inj h
  rw [Inspection.runWithin] at hpayload ⊢
  split_ifs at hpayload ⊢
  · cases hpayload
  · rfl

/-- How a drawing displays an image report by a section table. A terminal that can read every text prints
the table too; without sections there is none. -/
structure Displays (drawing : Drawing) (report : ImageReport) (table : List (List String)) : Prop where
  finished : drawing.fault?.isNone = true
  drawn : sectionTables drawing.events = if report.image.sections = [] then [] else [table]
  printed : ∀ events, legible drawing.events = (events, none) →
    sectionTables events = if report.image.sections = [] then [] else [table]
  shows : Shows report.image.sections report.rows table
  /-- A section that no later one shares its name with is shown with its own row. -/
  own : ∀ i s, report.image.sections[i]? = some s →
    (∀ k s', i < k → report.image.sections[k]? = some s' → s'.name ≠ s.name) →
      ∃ r bar, report.rows[i]? = some r ∧ entropyBar r.entropy 20 = .ok bar ∧
        table[i]? = some (placeCells s i ++ contentCells r bar)

theorem exists_displays {scan : Scan Inspection} {report : ImageReport}
    (hpayload : scan.payload = .image report) (hrows : AreRows report.image.sections report.rows) :
    ∃ table, Displays (displayInspection scan) report table := by
  obtain ⟨table, htable, hshows⟩ := exists_sectionRows hrows
  have htables := sectionTables_displayInspection hpayload htable hshows
  refine ⟨table, ?_, htables, fun events hevents => ?_, hshows, fun i s => hshows.own hrows⟩
  · rw [displayInspection_eq hpayload htable]
    rfl
  · have hall := legible_eq_self (congrArg Prod.snd hevents)
    rw [hevents] at hall
    exact (congrArg sectionTables hall).trans htables

/-- The display of an image whose entropies were measured comes to its end and shows one section table,
with a row at its place for each section: with its name, its addresses and its sizes, but with the flags
and the entropy of the last section of that name. -/
theorem displayInspection_displays {view : List Log.Entry → Files.FileTree} {settings : Settings}
    (hmeasure : settings.measureEntropy = true) {patterns : List String} {path : String}
    {limit : Option Number} {now : Time.Moment} {logged : Inspection.Logged Inspection}
    (h : Inspection.inspectIn view settings patterns path limit now = .ok logged) {report : ImageReport}
    (hpayload : logged.scan.payload = .image report) :
    AreRows report.image.sections report.rows ∧
      ∃ table, Displays (displayInspection logged.scan) report table := by
  have hrows : AreRows report.image.sections report.rows :=
    areRows_runIn hmeasure (eq_runIn_of_inspectIn h hpayload ▸ hpayload)
  exact ⟨hrows, exists_displays hpayload hrows⟩

/-! ## Sections of one name -/

section Twins

open Image (zeros padded numberBytes nameBytes)

/-- An image with two sections of one name, the first of code and the second of data, which store nothing. -/
def twins : ByteArray := ⟨(
  padded Image.peOffsetField [0x4D, 0x5A] ++ numberBytes 4 64 ++
  [0x50, 0x45, 0, 0] ++ numberBytes 2 0x14C ++ numberBytes 2 2 ++ zeros 16 ++
  padded 8 (nameBytes ".twin") ++ zeros 28 ++ numberBytes 4 0x60000020 ++
  padded 8 (nameBytes ".twin") ++ zeros 28 ++ numberBytes 4 0xC0000040).toArray⟩

def twinsTree : Files.FileTree where
  files := [(["twins.exe"], twins)]

def twinsImage : Image where
  path := "twins.exe"
  sections := [{ name := ".twin", characteristics := 0x60000020 },
    { name := ".twin", characteristics := 0xC0000040 }]
  overlay := 168
  fileSize := 168

theorem outcome_twins : (Image.ofFile twinsTree "twins.exe").outcome = .image twinsImage := by
  decide +kernel

/-- The inspection of the twins, in a second. -/
def inspectTwins : Except ScanFault (Inspection.Logged Inspection) :=
  Inspection.inspect twinsTree {} [] "twins.exe" (some (.int 1)) ⟨0, false⟩

theorem exists_inspectTwins :
    ∃ logged report, inspectTwins = .ok logged ∧ logged.scan.payload = .image report ∧
      report.image = twinsImage := by
  have hrun : inspectTwins =
      .ok (Inspection.ofImage twinsTree {} [] "twins.exe" ⟨0, false⟩
        (Image.ofFile twinsTree "twins.exe").diagnostics twinsImage) := by
    have hfits : ((some (Number.int 1)).getD ({} : Settings).timeLimit).isTooLarge = false := by
      decide
    have htime : ((some (Number.int 1)).getD ({} : Settings).timeLimit).isNotPositive = false := by decide
    rw [inspectTwins, Inspection.inspect, Inspection.inspectIn_of_fits hfits htime (by decide), runIn,
      outcome_twins]
  exact ⟨_, _, hrun, rfl, rfl⟩

theorem displayInspection_displays_twins :
    ({} : Settings).measureEntropy = true ∧ ∃ logged report, inspectTwins = .ok logged ∧
      logged.scan.payload = .image report ∧ AreRows report.image.sections report.rows ∧
      ∃ table, Displays (displayInspection logged.scan) report table := by
  obtain ⟨logged, report, hlogged, hpayload, -⟩ := exists_inspectTwins
  refine ⟨rfl, logged, report, hlogged, hpayload, ?_⟩
  rw [inspectTwins, Inspection.inspect] at hlogged
  exact displayInspection_displays rfl hlogged hpayload

/-- The row of the first twin has the flags of the second. -/
theorem displayInspection_twins_ne :
    ∃ logged report s r table cells, inspectTwins = .ok logged ∧ logged.scan.payload = .image report ∧
      report.image.sections[0]? = some s ∧ report.rows[0]? = some r ∧
      sectionTables (displayInspection logged.scan).events = [table] ∧ table[0]? = some cells ∧
      ∀ bar, cells ≠ placeCells s 0 ++ contentCells r bar := by
  obtain ⟨logged, report, hlogged, hpayload, himage⟩ := exists_inspectTwins
  have hsections : report.image.sections = twinsImage.sections := congrArg Image.sections himage
  have hsection : report.image.sections[0]? = twinsImage.sections[0]? := by rw [hsections]
  have hrows : AreRows report.image.sections report.rows := by
    have hin := hlogged
    rw [inspectTwins, Inspection.inspect] at hin
    rw [eq_runIn_of_inspectIn hin hpayload] at hpayload
    exact areRows_runIn rfl hpayload
  obtain ⟨table, hdisplays⟩ := exists_displays hpayload hrows
  rw [hsections] at hrows
  obtain ⟨r, hr, hfirst⟩ := exists_getElem?_of_forall₂ hrows (i := 0) rfl
  obtain ⟨r', hr', hsecond⟩ := exists_getElem?_of_forall₂ hrows (i := 1) rfl
  obtain ⟨j, shown, bar, -, hlast, -, hcells⟩ := hdisplays.shows.cells 0 _ hsection
  -- the first row is not the last of its name, since the second has that name too
  have hshown : shown = r' := by
    have hj : j = 1 := by
      obtain ⟨hlt, -⟩ := List.getElem?_eq_some_iff.mp hlast.at_place
      have htwo : 2 = report.rows.length := hrows.length_eq
      by_contra hne
      exact hlast.later 1 r' (by omega) hr' hsecond.name_eq
    exact Option.some.inj ((hj ▸ hlast.at_place).symm.trans hr')
  refine ⟨logged, report, _, r, table, _, hlogged, hpayload, hsection, hr, ?_, hcells,
    fun other heq => ?_⟩
  · rw [hdisplays.drawn, hsections]
    rfl
  · have hflags : r'.flags = r.flags := by
      rw [← hshown]
      exact List.head_eq_of_cons_eq (List.append_cancel_left heq)
    rw [hfirst.flags_eq, hsecond.flags_eq] at hflags
    exact absurd hflags (by decide +kernel)

end Twins

end PeSignals.Display
