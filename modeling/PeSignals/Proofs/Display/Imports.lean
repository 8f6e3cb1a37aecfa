import Mathlib
import PeSignals.Display.Inspection
import PeSignals.Image.Writer
import PeSignals.Proofs.Display.Inspection
import PeSignals.Proofs.Display.Message
import PeSignals.Proofs.Image.Acceptance
import PeSignals.Proofs.Text.SortedSet

/-!
# Listed imports

The imports of an image are listed in two tables: all libraries, and the first of the functions under a
caption with the number of those left out. An image may import functions and have no library with a name;
then the display says that there are no imports and lists none. Names stand in the tables as markup, so a
name reads as itself only if it holds nothing that markup or emoji are made of.
-/
namespace PeSignals.Display

/-! ## Plain names -/

/-- Whether a text holds no bracket, no colon and no character that moves or rings. -/
def IsPlain (text : String) : Prop := ∀ c ∈ text.toList, c ≠ '[' ∧ c ≠ ':' ∧ isUnshown c = false

theorem isTagFree_of_notMem {cs : List Char} (h : '[' ∉ cs) : isTagFree cs = true := by
  induction cs with
  | nil => rfl
  | cons c rest ih =>
    rw [List.mem_cons, not_or] at h
    obtain ⟨hc, hrest⟩ := h
    rw [isTagFree, ih hrest, decide_eq_true (Ne.symm hc)]
    rfl

theorem withoutBackslashes_of_notMem {cs : List Char} (h : '[' ∉ cs) : withoutBackslashes cs = cs := by
  fun_induction withoutBackslashes cs with
  | case1 rest ih => exact absurd (List.mem_cons_of_mem _ List.mem_cons_self) h
  | case2 c rest hc ih => rw [ih (List.not_mem_of_not_mem_cons h)]
  | case3 => rfl

theorem withEmojiFrom_of_notMem {cs : List Char} {found : String} {left : Nat} (h : ':' ∉ cs)
    (hleft : cs.length < left) : Text.withEmojiFrom found left cs = found ++ String.ofList cs := by
  induction cs generalizing found left with
  | nil =>
    obtain ⟨left, rfl⟩ := Nat.exists_eq_add_one.mpr hleft
    rw [Text.withEmojiFrom, String.ofList_nil, String.append_empty]
  | cons c rest ih =>
    obtain ⟨left, rfl⟩ := Nat.exists_eq_add_one.mpr (Nat.zero_lt_of_lt hleft)
    rw [List.mem_cons, not_or] at h
    obtain ⟨hc, hrest⟩ := h
    rw [Text.withEmojiFrom, ih hrest (Nat.lt_of_succ_lt_succ hleft)]
    · rw [← String.toList_inj]
      simp
    · exact fun heq => hc heq.symm

theorem shownOf_of_isTagFree {text : String} (h : isTagFree text.toList = true) :
    shownOf text = .ok { text := shownText text.toList } := by
  have hparts : partsOf text = [.plain text.toList] :=
    partsFrom_of_isTagFree h (by rw [String.length_toList]; omega)
  rw [shownOf, hparts]
  simp [Shown.behind, Shown.finish, Except.map]

theorem shownText_of_isPlain {text : String} (h : IsPlain text) : shownText text.toList = text := by
  have hbracket : '[' ∉ text.toList := fun hmem => (h _ hmem).1 rfl
  have hcolon : ':' ∉ text.toList := fun hmem => (h _ hmem).2.1 rfl
  have hemoji : Text.withEmoji text = text := by
    rw [Text.withEmoji, withEmojiFrom_of_notMem hcolon (by rw [String.length_toList]; omega),
      String.empty_append, String.ofList_toList]
  have hshown : text.toList.filter (!isUnshown ·) = text.toList :=
    List.filter_eq_self.mpr fun c hc => by rw [(h c hc).2.2]; rfl
  rw [shownText, withoutBackslashes_of_notMem hbracket, String.ofList_toList, hemoji, hshown,
    String.ofList_toList]

theorem IsPlain.isTagFree {text : String} (h : IsPlain text) : isTagFree text.toList = true :=
  isTagFree_of_notMem fun hmem => (h _ hmem).1 rfl

/-- A plain text reads as itself. -/
theorem IsPlain.rendered_eq {text : String} (h : IsPlain text) : rendered text = .ok text := by
  rw [rendered, shownOf_of_isTagFree h.isTagFree, shownText_of_isPlain h]
  rfl

/-- A text without tags can be measured and drawn. -/
theorem Use.check_of_isTagFree {text : String} (h : isTagFree text.toList = true) :
    (Use.measured text).check = .ok () ∧ (Use.drawn text).check = .ok () := by
  constructor
  · rw [Use.check, shownOf_of_isTagFree h]
    rfl
  · rw [Use.check, shownOf_of_isTagFree h]
    simp [bind, Except.bind, Shown.check]
    rfl

theorem Table.mem_drawnTexts {t : Table} {text : String} (h : text ∈ t.measuredTexts) :
    text ∈ t.drawnTexts := by
  obtain ⟨⟨column, i⟩, hcolumn, htext⟩ := List.mem_flatMap.mp h
  simp only [Table.drawnTexts, List.mem_append]
  -- A column is measured by its header and its cells, and both are drawn.
  dsimp only at htext
  split_ifs at htext
  · exact absurd htext List.not_mem_nil
  · rcases List.mem_cons.mp htext with rfl | hcell
    · exact .inl (.inl (.inr (List.mem_map_of_mem (List.fst_mem_of_mem_zipIdx hcolumn))))
    · obtain ⟨row, hrow, hget⟩ := List.mem_filterMap.mp hcell
      exact .inl (.inr (List.mem_flatten_of_mem hrow (List.mem_of_getElem? hget)))

/-- A table without tags in its texts is read. -/
theorem check_table {t : Table} (h : ∀ text ∈ t.drawnTexts, isTagFree text.toList = true) :
    (Event.print [.table t]).check = .ok () := by
  refine forM_eq_ok_iff.mpr fun use huse => ?_
  rw [Event.uses, List.flatMap_singleton, Item.uses, List.mem_append, List.mem_map, List.mem_map] at huse
  rcases huse with ⟨text, htext, rfl⟩ | ⟨text, htext, rfl⟩
  · exact (Use.check_of_isTagFree (h text (Table.mem_drawnTexts htext))).1
  · exact (Use.check_of_isTagFree (h text htext)).2

/-! ## Sorted names -/

/-- Whether names are those of a sorted set, in whatever order they are handed over. -/
structure Enumerates (names set : List String) : Prop where
  perm : names.Perm set
  rises : set.Pairwise (· < ·)

/-- Sorting names gives the one increasing list of them. -/
theorem Enumerates.sorted_eq {names set : List String} (h : Enumerates names set) : sorted names = set := by
  have hperm : (sorted names).Perm set := (List.mergeSort_perm names _).trans h.perm
  have hsorted : (sorted names).Pairwise (· ≤ ·) := Text.pairwise_mergeSort names
  exact hperm.eq_of_pairwise (fun a b _ _ hab hba => le_antisymm hab hba) hsorted (h.rises.imp le_of_lt)

/-! ## The two tables -/

/-- A table of names, one in each row. -/
def namesTable (title caption : Option String) (column : Column) (names : List String) : Table :=
  { title, caption, columns := [column], rows := names.map ([·]) }

theorem ofRows_names (title caption : Option String) (column : Column) (names : List String) :
    Table.ofRows title caption [column] (names.map ([·])) = namesTable title caption column names := by
  refine ofRows_of_length title caption fun row hrow => ?_
  obtain ⟨name, -, rfl⟩ := List.mem_map.mp hrow
  rfl

def librariesListing (libraries : List String) : Table :=
  namesTable (some s!"Imported Libraries ({libraries.length})") none
    { header := "Library", style := "bright_cyan" } libraries

def functionsListing (functions : List String) : Table :=
  namesTable (some s!"Imported Functions ({functions.length})") (functionsCaption functions.length)
    { header := "Function" } (functions.take shownFunctions)

/-- The imports are listed as the sets that they are. -/
theorem importsEvents_eq {names libraries more functions : List String}
    (hnames : Enumerates names libraries) (hmore : Enumerates more functions) :
    importsEvents names more = heading "Imports" ++
      if libraries = [] then [info "No imports found"]
      else .print [.table (librariesListing libraries)] ::
        ((if functions = [] then [] else [.print [.table (functionsListing functions)]]) ++ [blankLine]) := by
  have htables : librariesTable libraries.length libraries = .print [.table (librariesListing libraries)] ∧
      functionsTable functions.length functions = .print [.table (functionsListing functions)] :=
    ⟨congrArg (fun t => Event.print [.table t]) (ofRows_names _ _ _ _),
      congrArg (fun t => Event.print [.table t]) (ofRows_names _ _ _ _)⟩
  simp only [importsEvents, hnames.perm.isEmpty_eq, hmore.perm.isEmpty_eq, hnames.sorted_eq, hmore.sorted_eq,
    hnames.perm.length_eq, hmore.perm.length_eq, htables.1, htables.2]
  simp only [List.isEmpty_iff, List.cons_append, List.nil_append]

/-- The tables with one column, under a given header, among events. -/
def listings (header : String) (events : List Event) : List Table :=
  events.filterMap fun
    | .print [.table t] => if t.columns.map (·.header) = [header] then some t else none
    | _ => none

/-- Whether a table lists the first fifty of some names, under a caption that counts the others if there
are any. -/
structure ListsFirst (names : List String) (t : Table) : Prop where
  rows : t.rows = (names.take 50).map ([·])
  length_rows : t.rows.length = min 50 names.length
  caption_iff : t.caption.isSome = true ↔ 50 < names.length
  counted : ∀ caption, t.caption = some caption →
    ∃ k, caption = s!"{k} more not shown" ∧ k + t.rows.length = names.length

theorem listsFirst_functionsListing (functions : List String) :
    ListsFirst functions (functionsListing functions) := by
  have hcaption : (functionsListing functions).caption =
      if 50 < functions.length then some s!"{functions.length - 50} more not shown" else none := rfl
  have hrows : (functionsListing functions).rows = (functions.take 50).map ([·]) := rfl
  have hlength : (functionsListing functions).rows.length = min 50 functions.length := by
    rw [hrows, List.length_map, List.length_take]
  refine ⟨hrows, hlength, ?_, fun caption heq => ?_⟩
  · rw [hcaption]
    split_ifs with hmany
    · exact iff_of_true rfl hmany
    · exact iff_of_false nofun hmany
  · rw [hcaption] at heq
    split_ifs at heq with hmany
    exact ⟨functions.length - 50, (Option.some.inj heq).symm, by omega⟩

/-! ## The listing of an image -/

/-- How events list libraries and functions. -/
structure ListsImports (libraries functions : List String) (events : List Event) : Prop where
  noneFound_iff : info "No imports found" ∈ events ↔ libraries = []
  /-- Without libraries nothing is listed, whatever functions there are. -/
  unlisted : libraries = [] → listings "Library" events = [] ∧ listings "Function" events = []
  allLibraries : libraries ≠ [] →
    ∃ t, listings "Library" events = [t] ∧ t.rows = libraries.map ([·]) ∧ t.caption = none
  firstFunctions : libraries ≠ [] → functions ≠ [] →
    ∃ t, listings "Function" events = [t] ∧ ListsFirst functions t
  noFunctions : functions = [] → listings "Function" events = []

theorem listsImports_importsEvents {names libraries more functions : List String}
    (hnames : Enumerates names libraries) (hmore : Enumerates more functions) :
    ListsImports libraries functions (importsEvents names more) := by
  rw [importsEvents_eq hnames hmore]
  -- The display asks for the libraries first, and without them it never comes to the functions.
  by_cases hnone : libraries = []
  · rw [if_pos hnone]
    have hmem : info "No imports found" ∈ heading "Imports" ++ [info "No imports found"] :=
      List.mem_append_right _ List.mem_cons_self
    exact ⟨iff_of_true hmem hnone, fun _ => ⟨rfl, rfl⟩, absurd hnone, absurd hnone, fun _ => rfl⟩
  · rw [if_neg hnone]
    refine ⟨iff_of_false ?_ hnone, fun h => absurd h hnone,
      fun _ => ⟨librariesListing libraries, ?_, rfl, rfl⟩,
      fun _ hsome => ⟨functionsListing functions, ?_, listsFirst_functionsListing functions⟩,
      fun hempty => ?_⟩
    · split_ifs <;> simp [heading, blankLine, info, line]
    · split_ifs <;> rfl
    · rw [if_neg hsome]
      rfl
    · rw [if_pos hempty]
      rfl

/-! ## Legible listings -/

theorem isTagFree_digits (n : Nat) : isTagFree (toString n).toList = true := by
  have hdigits : (toString n).toList = Nat.toDigits 10 n := String.toList_ofList
  refine isTagFree_of_notMem fun hmem => ?_
  rw [hdigits] at hmem
  obtain ⟨d, hd⟩ := Text.exists_digitChar_of_mem_toDigits (by decide) hmem
  exact Nat.digitChar_ne '[' rfl hd.symm

/-- A number opens no tag in a text. -/
theorem isTagFree_around {before after : String} (hbefore : isTagFree before.toList = true)
    (hafter : isTagFree after.toList = true) (n : Nat) :
    isTagFree (before ++ toString n ++ after).toList = true := by
  rw [String.toList_append, String.toList_append]
  exact isTagFree_append (isTagFree_append hbefore (isTagFree_digits n)) hafter

/-- A table of names can be drawn when none of its texts holds a tag. -/
theorem check_namesTable {title caption : Option String} {column : Column} {names : List String}
    (htitle : ∀ text ∈ title, isTagFree text.toList = true)
    (hcaption : ∀ text ∈ caption, isTagFree text.toList = true)
    (hheader : isTagFree column.header.toList = true)
    (hnames : ∀ name ∈ names, isTagFree name.toList = true) :
    (Event.print [.table (namesTable title caption column names)]).check = .ok () := by
  refine check_table fun text htext => ?_
  simp only [Table.drawnTexts, namesTable, List.mem_append, Option.mem_toList, List.map_cons, List.map_nil,
    List.mem_singleton, List.mem_flatten, List.mem_map] at htext
  rcases htext with ((htext | rfl) | ⟨row, ⟨name, hname, rfl⟩, hcell⟩) | htext
  · exact htitle text htext
  · exact hheader
  · exact List.mem_singleton.mp hcell ▸ hnames name hname
  · exact hcaption text htext

theorem check_librariesListing {libraries : List String}
    (h : ∀ name ∈ libraries, isTagFree name.toList = true) :
    (Event.print [.table (librariesListing libraries)]).check = .ok () := by
  refine check_namesTable (fun text htext => ?_) nofun (by decide) h
  obtain rfl := Option.some.inj htext
  exact isTagFree_around (by decide) (by decide) libraries.length

theorem check_functionsListing {functions : List String}
    (h : ∀ name ∈ functions, isTagFree name.toList = true) :
    (Event.print [.table (functionsListing functions)]).check = .ok () := by
  refine check_namesTable (fun text htext => ?_) (fun text htext => ?_) (by decide)
    fun name hname => h name (List.mem_of_mem_take hname)
  · obtain rfl := Option.some.inj htext
    exact isTagFree_around (by decide) (by decide) functions.length
  · rw [functionsCaption] at htext
    split_ifs at htext
    · obtain rfl := Option.some.inj htext
      exact @isTagFree_around "" " more not shown" rfl (by decide) _
    · cases htext

theorem check_heading_imports : ∀ e ∈ heading "Imports", e.check = .ok () := by
  intro e he
  have htitle : isTagFree "  Imports  ".toList = true := by decide
  rcases List.mem_cons.mp he with rfl | he
  · refine forM_eq_ok_iff.mpr fun use huse => ?_
    rw [List.mem_singleton.mp huse]
    exact (Use.check_of_isTagFree htitle).2
  · rw [List.mem_singleton.mp he]
    rfl

/-- Listed names without tags are read by a terminal, and so is the line that stands for no imports. -/
theorem check_importsEvents {names libraries more functions : List String}
    (hnames : Enumerates names libraries) (hmore : Enumerates more functions)
    (h : libraries = [] ∨ ∀ name ∈ libraries ++ functions, isTagFree name.toList = true) :
    ∀ e ∈ importsEvents names more, e.check = .ok () := by
  rw [importsEvents_eq hnames hmore, List.forall_mem_append]
  refine ⟨check_heading_imports, ?_⟩
  by_cases hnone : libraries = []
  · rw [if_pos hnone, List.forall_mem_singleton]
    exact check_info (by decide)
  · obtain ⟨hread, hmoreRead⟩ := List.forall_mem_append.mp (h.resolve_left hnone)
    have hblank : ∀ e ∈ [blankLine], e.check = .ok () := List.forall_mem_singleton.mpr rfl
    rw [if_neg hnone, List.forall_mem_cons, List.forall_mem_append]
    refine ⟨check_librariesListing hread, ?_, hblank⟩
    split_ifs
    · exact List.forall_mem_nil _
    · exact List.forall_mem_singleton.mpr (check_functionsListing hmoreRead)

/-- How events show the imports of an image, of which each is there once and in code-point order. -/
structure ShowsImports (image : Image) (events : List Event) : Prop
    extends ListsImports image.libraries image.functions events where
  libraries_rise : image.libraries.Pairwise (· < ·)
  functions_rise : image.functions.Pairwise (· < ·)
  /-- A terminal that can read every text prints all that is listed. -/
  printed : (legible events).2 = none → (legible events).1 = events
  legible_of_plain :
    image.libraries = [] ∨ (∀ name ∈ image.libraries ++ image.functions, IsPlain name) →
      legible events = (events, none)
  plain : ∀ name ∈ image.libraries ++ image.functions, IsPlain name → rendered name = .ok name

/-- An image with a named library has all its libraries listed and its functions up to the fiftieth, under
a caption with the number of those left out. Of an image without one it is said that there are no imports,
and nothing is listed. -/
theorem importsEvents_showsImports {data : ByteArray} {path : String} {image : Image}
    (h : (Image.parse data path).outcome = .image image) {libraries functions : List String}
    (hlibraries : libraries.Perm image.libraries) (hfunctions : functions.Perm image.functions) :
    ShowsImports image (importsEvents libraries functions) := by
  have hrise : image.libraries.Pairwise (· < ·) ∧ image.functions.Pairwise (· < ·) := by
    rw [Image.parse_of_isImage (Image.isImage_of_parse h)] at h
    obtain rfl := Image.Outcome.image.inj h
    exact ⟨Text.pairwise_sortedSet _, Text.pairwise_sortedSet _⟩
  have hnames : Enumerates libraries image.libraries := ⟨hlibraries, hrise.1⟩
  have hmore : Enumerates functions image.functions := ⟨hfunctions, hrise.2⟩
  refine ⟨listsImports_importsEvents hnames hmore, hrise.1, hrise.2, legible_eq_self, fun hplain => ?_,
    fun name _ hname => hname.rendered_eq⟩
  have hread := check_importsEvents hnames hmore
    (hplain.imp_right fun hall name hname => (hall name hname).isTagFree)
  have hfault := fault_eq_none_iff.mpr hread
  exact Prod.ext (legible_eq_self hfault) hfault

section Importing

open Image (zeros padded numberBytes nameBytes)

/-- An image with one section and one import record, whose lookup table names the function `f`. The name of
its library has at most seven characters. -/
def importing (library : String) : ByteArray := ⟨(
  padded Image.peOffsetField [0x4D, 0x5A] ++ numberBytes 4 64 ++
  [0x50, 0x45, 0, 0] ++ numberBytes 2 0x14C ++ numberBytes 2 1 ++ zeros 16 ++
  padded 8 (nameBytes ".all") ++ numberBytes 4 512 ++ zeros 28 ++ zeros 64 ++
  numberBytes 4 200 ++ numberBytes 4 40 ++
  numberBytes 4 240 ++ zeros 8 ++ numberBytes 4 248 ++ zeros 4 ++ zeros 20 ++
  numberBytes 4 256 ++ zeros 4 ++ padded 8 (nameBytes library) ++ [0, 0] ++ nameBytes "f" ++ [0]).toArray⟩

def importingImage (libraries : List String) : Image where
  path := "one.exe"
  sections := [{ name := ".all", virtualSize := 512 }]
  libraries
  functions := ["f"]
  overlay := 260
  fileSize := 260

theorem importsEvents_showsImports_named :
    (Image.parse (importing "k.dll") "one.exe").outcome = .image (importingImage ["k.dll"]) ∧
      ShowsImports (importingImage ["k.dll"]) (importsEvents ["k.dll"] ["f"]) := by
  have hparse : (Image.parse (importing "k.dll") "one.exe").outcome = .image (importingImage ["k.dll"]) := by
    decide +kernel
  exact ⟨hparse, importsEvents_showsImports hparse (List.Perm.refl _) (List.Perm.refl _)⟩

/-- With an empty name for the library, the function is imported and the display denies it. -/
theorem importsEvents_nameless :
    (Image.parse (importing "") "one.exe").outcome = .image (importingImage []) ∧
      (importingImage []).functions = ["f"] ∧
      importsEvents (importingImage []).libraries (importingImage []).functions =
        heading "Imports" ++ [info "No imports found"] := by
  decide +kernel

end Importing

end PeSignals.Display
