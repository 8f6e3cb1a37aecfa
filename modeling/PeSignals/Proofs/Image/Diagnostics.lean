import Mathlib
import PeSignals.Proofs.Image.Appended
import PeSignals.Proofs.Image.Content
import PeSignals.Proofs.Text.Fragment

/-!
# The lines that a reader reports

Each failure on the way from a file to its image is reported once. A refusal has one line with its own
detail. An image has one only where the walk over its imports did not come to an end of the table, and a
line about a read that no stage answers is never written, because there is no such read.
-/
namespace PeSignals.Image

open Bytes (Cursor ReadError littleEndian)
open Files (FileTree)

variable {data : ByteArray} {header : Header} {sections : List Section}

/-! ## Refusals -/

theorem parse_of_readLayout_error {fault : Fault} (h : readLayout data = .error fault) (path : String) :
    parse data path = { outcome := .refused { path, detail := fault.message }
                        diagnostics := [fault.line path] } := by
  rw [parse, h]

/-- A gate answers its own failures, so its line shows the detail of the refusal. -/
theorem Fault.IsGate.line {fault : Fault} (h : fault.IsGate) (path : String) :
    fault.line path = s!"{path}: {fault.message}" := by
  cases fault with
  | header fault =>
    cases fault with
    | unguarded cause => exact absurd h id
    | _ => rfl
  | sectionTable cause => rfl
  | unguarded cause => exact absurd h id

theorem head?_toList_append {first : String} {c : Char} (h : first.toList.head? = some c) (rest : String) :
    (first ++ rest).toList.head? = some c := by
  rw [String.toList_append, List.head?_append, h]
  rfl

/-- No gate has a wording that starts as the report of a parse error goes on behind the path. -/
theorem Fault.IsGate.head?_message {fault : Fault} (h : fault.IsGate) :
    ∃ c, fault.message.toList.head? = some c ∧ c ≠ 'p' := by
  cases fault with
  | header fault =>
    cases fault with
    | tooSmall size =>
      exact ⟨'f', head?_toList_append (head?_toList_append (by decide) _) _, by decide⟩
    | noStubSignature => exact ⟨'m', by decide, by decide⟩
    | headerPastEnd offset =>
      exact ⟨'P', head?_toList_append (head?_toList_append (by decide) _) _, by decide⟩
    | noPeSignature offset => exact ⟨'m', head?_toList_append (by decide) _, by decide⟩
    | truncatedCoffHeader cause => exact ⟨'t', head?_toList_append (by decide) _, by decide⟩
    | unguarded cause => exact absurd h id
  | sectionTable cause => exact ⟨'t', head?_toList_append (by decide) _, by decide⟩
  | unguarded cause => exact absurd h id

theorem Fault.IsGate.line_ne {fault : Fault} (h : fault.IsGate) (path text : String) :
    fault.line path ≠ parseErrorLine path text := by
  intro heq
  obtain ⟨c, hstarts, hc⟩ := h.head?_message
  have hreport : ": parse error: " = ": " ++ "parse error: " := by decide
  rw [h.line, parseErrorLine] at heq
  simp only [toString, hreport, String.append_assoc] at heq
  have hmessage : fault.message = "parse error: " ++ text :=
    (String.append_right_inj _).mp ((String.append_right_inj _).mp heq)
  have hletter : ("parse error: " ++ text).toList.head? = some 'p' :=
    head?_toList_append (by decide) text
  rw [hmessage, hletter] at hstarts
  exact hc (Option.some.inj hstarts).symm

/-! ## Directories -/

/-- The address and the size that the directory gives for the imports. -/
def directoryAt (data : ByteArray) (header : Header) : Except ReadError (Nat × Nat) :=
  (bytesAt data header.importDirectoryOffset 8).map fun entry =>
    (littleEndian entry 0 4, littleEndian entry 4 4)

/-- Whether the directory announces no imports. -/
def HasNoImports (data : ByteArray) (header : Header) : Prop :=
  ∃ rva size, directoryAt data header = .ok (rva, size) ∧ (rva = 0 ∨ size = 0)

/-- Whether the directory announces imports at an address. -/
def AnnouncesImports (data : ByteArray) (header : Header) (rva : Nat) : Prop :=
  ∃ size, directoryAt data header = .ok (rva, size) ∧ rva ≠ 0 ∧ size ≠ 0

/-- Whether the records of a table can be visited from an index on, each without a failed read, up to one
that has no name. -/
inductive Terminates (data : ByteArray) (sections : List Section) (bitness table : Int) : Nat → Prop
  | terminator {k : Nat} {record : ImportDescriptor} (reads : recordAt data table k = .ok record)
      (unnamed : record.nameRva = 0) : Terminates data sections bitness table k
  | record {k : Nat} {record : ImportDescriptor} (reads : recordAt data table k = .ok record)
      (named : record.nameRva ≠ 0) (visited : (collectedOf data sections bitness record).failure = none)
      (rest : Terminates data sections bitness table (k + 1)) : Terminates data sections bitness table k

/-- Whether there are no imports, or a table of them that can be walked to its terminator. -/
def ImportsComplete (data : ByteArray) (header : Header) (sections : List Section) : Prop :=
  HasNoImports data header ∨
    ∃ rva table, AnnouncesImports data header rva ∧ fileOffset? sections rva = some table ∧
      Terminates data sections header.bitness table 0

theorem failure_followedBy_eq_none {first next : Collected} :
    (first.followedBy next).failure = none ↔ first.failure = none ∧ next.failure = none := by
  rw [Collected.followedBy]
  split_ifs with hfailed
  · rw [Option.isSome_iff_ne_none] at hfailed
    exact iff_of_false hfailed fun h => hfailed h.1
  · rw [Option.not_isSome_iff_eq_none] at hfailed
    exact (and_iff_right hfailed).symm

/-- A directory comes to its terminator exactly if nothing failed on the way. -/
theorem terminates_iff (sections : List Section) (bitness table : Int) (k : Nat) :
    Terminates data sections bitness table k ↔
      (collectedFrom data sections bitness table k).failure = none := by
  constructor
  · intro h
    induction h with
    | terminator reads unnamed => rw [collectedFrom_of_terminator reads unnamed]
    | record reads named visited _ ih =>
      rw [collectedFrom_of_record reads named]
      exact failure_followedBy_eq_none.mpr ⟨visited, ih⟩
  · fun_induction collectedFrom data sections bitness table k with
    | case1 k e hrecord => exact fun h => by cases h
    | case2 k record hrecord hend => exact fun _ => .terminator hrecord hend
    | case3 k record hrecord hmore ih =>
      intro h
      obtain ⟨hvisited, hrest⟩ := failure_followedBy_eq_none.mp h
      exact .record hrecord hmore hvisited (ih hrest)

/-! ## Reports on imports -/

/-- The lines that report the walk over the imports of an image, if `imports` is what it collected. -/
inductive ReportsImports (data : ByteArray) (header : Header) (sections : List Section)
    (imports : Imports) (image : Image) : List String → Prop
  | complete (complete : ImportsComplete data header sections) :
      ReportsImports data header sections imports image []
  | unmapped {rva : Nat} (incomplete : ¬ ImportsComplete data header sections)
      (announced : AnnouncesImports data header rva) (unmapped : fileOffset? sections rva = none)
      (libraries : image.libraries = []) (functions : image.functions = []) :
      ReportsImports data header sections imports image
        [s!"import directory RVA 0x{Text.hexadecimal rva} maps to no section"]
  | stopped {cause : ReadError} (incomplete : ¬ ImportsComplete data header sections)
      (ending : imports.ending = .stopped cause) :
      ReportsImports data header sections imports image
        [s!"import walk stopped after {imports.libraries.size} libraries: {cause.category}: {cause.message}"]

theorem directoryAt_of_ok {entry : ByteArray} (h : bytesAt data header.importDirectoryOffset 8 = .ok entry) :
    directoryAt data header = .ok (littleEndian entry 0 4, littleEndian entry 4 4) := by
  rw [directoryAt, h]
  rfl

theorem importsComplete_iff {rva size : Nat} (h : directoryAt data header = .ok (rva, size)) :
    ImportsComplete data header sections ↔ (rva = 0 ∨ size = 0) ∨
      ∃ table, fileOffset? sections rva = some table ∧
        Terminates data sections header.bitness table 0 := by
  constructor
  · rintro (⟨found, length, hfound, habsent⟩ | ⟨found, table, ⟨length, hfound, -⟩, hmapped, hends⟩)
    · obtain ⟨rfl, rfl⟩ := Prod.mk.inj (Except.ok.inj (h.symm.trans hfound))
      exact .inl habsent
    · obtain ⟨rfl, rfl⟩ := Prod.mk.inj (Except.ok.inj (h.symm.trans hfound))
      exact .inr ⟨table, hmapped, hends⟩
  · intro hcase
    by_cases habsent : rva = 0 ∨ size = 0
    · exact .inl ⟨rva, size, h, habsent⟩
    · obtain ⟨table, hmapped, hends⟩ := hcase.resolve_left habsent
      exact .inr ⟨rva, table, ⟨size, h, not_or.mp habsent⟩, hmapped, hends⟩

theorem not_importsComplete_of_error {e : ReadError}
    (h : bytesAt data header.importDirectoryOffset 8 = .error e) :
    ¬ ImportsComplete data header sections := by
  have hdirectory : directoryAt data header = .error e := by
    rw [directoryAt, h]
    rfl
  rintro (⟨rva, size, hfound, -⟩ | ⟨rva, table, ⟨size, hfound, -⟩, -⟩)
  · cases hdirectory.symm.trans hfound
  · cases hdirectory.symm.trans hfound

/-- How the imports of a header and sections end: at a terminator if they are complete, and otherwise
without a table or at a failed read. -/
theorem importsAt_cases (data : ByteArray) (header : Header) (sections : List Section) :
    (ImportsComplete data header sections ∧ (importsAt data header sections).ending = .complete) ∨
    ¬ ImportsComplete data header sections ∧
      ((∃ rva, AnnouncesImports data header rva ∧ fileOffset? sections rva = none ∧
          importsAt data header sections = { ending := .unmapped rva }) ∨
        ∃ cause, (importsAt data header sections).ending = .stopped cause) := by
  rw [importsAt]
  cases hread : bytesAt data header.importDirectoryOffset 8 with
  | error e => exact .inr ⟨not_importsComplete_of_error hread, .inr ⟨e, rfl⟩⟩
  | ok entry =>
    have hdirectory := directoryAt_of_ok hread
    simp only [importsBehind]
    -- Of the two fields only whether they are zero counts, and where the address is mapped to.
    generalize littleEndian entry 0 4 = rva at hdirectory ⊢
    generalize littleEndian entry 4 4 = size at hdirectory ⊢
    by_cases habsent : rva = 0 ∨ size = 0
    · rw [if_pos habsent]
      exact .inl ⟨(importsComplete_iff hdirectory).mpr (.inl habsent), rfl⟩
    · rw [if_neg habsent]
      have hcomplete (h : ImportsComplete data header sections) :=
        ((importsComplete_iff hdirectory).mp h).resolve_left habsent
      cases hmapped : fileOffset? sections rva with
      | none =>
        refine .inr ⟨fun h => ?_, .inl ⟨rva, ⟨size, hdirectory, not_or.mp habsent⟩, hmapped, rfl⟩⟩
        obtain ⟨table, htable, -⟩ := hcomplete h
        cases hmapped.symm.trans htable
      | some table =>
        have hends : Terminates data sections header.bitness table 0 ↔ _ := terminates_iff ..
        simp only
        cases hfailure : (collectedFrom data sections header.bitness table 0).failure with
        | none =>
          have hwalked : Terminates data sections header.bitness table 0 := hends.mpr hfailure
          exact .inl ⟨(importsComplete_iff hdirectory).mpr (.inr ⟨table, hmapped, hwalked⟩), rfl⟩
        | some cause =>
          refine .inr ⟨fun h => ?_, .inr ⟨cause, rfl⟩⟩
          obtain ⟨found, htable, hwalked⟩ := hcomplete h
          obtain rfl := Option.some.inj (hmapped.symm.trans htable)
          cases hfailure.symm.trans (hends.mp hwalked)

/-- The lines about the imports of an image that has the names of a walk. -/
theorem reportsImports (c : Cursor data) (header : Header) (sections : List Section) (image : Image)
    (hlibraries : image.libraries = Text.sortedSet (walkImports c header sections).libraries.toList)
    (hfunctions : image.functions = Text.sortedSet (walkImports c header sections).functions.toList) :
    ReportsImports data header sections (walkImports c header sections) image
      (walkImports c header sections).diagnostic?.toList := by
  rw [walkImports_eq_importsAt] at hlibraries hfunctions ⊢
  rcases importsAt_cases data header sections with
    ⟨hcomplete, hending⟩ | ⟨hincomplete, ⟨rva, hannounced, hunmapped, himports⟩ | ⟨cause, hending⟩⟩
  · rw [Imports.diagnostic?, hending]
    exact .complete hcomplete
  · rw [himports] at hlibraries hfunctions ⊢
    exact .unmapped hincomplete hannounced hunmapped (hlibraries.trans Text.sortedSet_nil)
      (hfunctions.trans Text.sortedSet_nil)
  · have hline : (importsAt data header sections).diagnostic?.toList =
        [walkStoppedLine (importsAt data header sections).libraries.size cause.category cause.message] := by
      rw [Imports.diagnostic?, hending]
      rfl
    rw [hline]
    exact .stopped hincomplete hending

/-! ## Parse errors -/

/-- Whether a text has nowhere the colon, the blank and the letter that the report of a parse error has
behind its path. -/
def Unmarked (text : String) : Prop := Text.holds text ": p" = false

instance : DecidablePred Unmarked := fun text =>
  inferInstanceAs (Decidable (Text.holds text ": p" = false))

theorem unmarked_iff {text : String} : Unmarked text ↔ ¬ (": p".toList <:+: text.toList) := by
  rw [Unmarked, ← Text.holds_iff, Bool.not_eq_true]

/-- The line of an unexpected failure holds the mark that tells it. -/
theorem not_unmarked_parseErrorLine (path message : String) : ¬ Unmarked (parseErrorLine path message) := by
  have hmark : ": parse error: " = ": p" ++ "arse error: " := by decide
  rw [unmarked_iff, not_not, parseErrorLine]
  simp only [toString]
  rw [hmark, String.toList_append, String.toList_append, String.toList_append]
  exact ⟨path.toList, "arse error: ".toList ++ message.toList, by simp only [List.append_assoc]⟩

theorem digitChar_notMem_mark (d : Nat) : d.digitChar ∉ ": p".toList := by
  have hmark : ": p".toList = [':', ' ', 'p'] := by decide
  have hcolon : d.digitChar ≠ ':' := Nat.digitChar_ne ':' rfl
  have hblank : d.digitChar ≠ ' ' := Nat.digitChar_ne ' ' rfl
  have hletter : d.digitChar ≠ 'p' := Nat.digitChar_ne 'p' rfl
  simp only [hmark, List.mem_cons, List.not_mem_nil, or_false, not_or]
  exact ⟨hcolon, hblank, hletter⟩

/-- A number puts no mark into a text, whatever its base. -/
theorem unmarked_digits {before behind : String} {base : Nat} (hbase : 1 < base) (n : Nat)
    (hbefore : Unmarked before) (hbehind : Unmarked behind) :
    Unmarked (before ++ (String.ofList (Nat.toDigits base n) ++ behind)) := by
  have hdigits : (String.ofList (Nat.toDigits base n)).toList = Nat.toDigits base n :=
    String.toList_ofList
  rw [unmarked_iff] at hbefore hbehind ⊢
  rw [String.toList_append, String.toList_append, hdigits]
  refine Text.not_infix_append_word Nat.toDigits_ne_nil (fun c hc => ?_) hbefore hbehind
  obtain ⟨d, rfl⟩ := Text.exists_digitChar_of_mem_toDigits hbase hc
  exact digitChar_notMem_mark d

theorem unmarked_unmappedLine (rva : Nat) :
    Unmarked s!"import directory RVA 0x{Text.hexadecimal rva} maps to no section" := by
  have h : Unmarked ("import directory RVA 0x" ++ (Text.hexadecimal rva ++ " maps to no section")) :=
    unmarked_digits (by decide) rva (by decide) (by decide)
  rwa [← String.append_assoc] at h

/-- What follows the number of libraries in the report of a walk that stopped, if the message opens with a
text and a number. -/
theorem unmarked_opened {category first behind : String} {base : Nat} (hbase : 1 < base) (n : Nat)
    (hfirst : Unmarked (" libraries: " ++ (category ++ (": " ++ first)))) (hbehind : Unmarked behind) :
    Unmarked (" libraries: " ++ (category ++ (": " ++
      (first ++ (String.ofList (Nat.toDigits base n) ++ behind))))) := by
  have h := unmarked_digits hbase n hfirst hbehind
  simp only [String.append_assoc] at h
  exact h

theorem unmarked_cause (cause : ReadError) :
    Unmarked (" libraries: " ++ (cause.category ++ (": " ++ cause.message))) := by
  cases cause with
  | truncated needed offset got =>
    have hmessage : (ReadError.truncated needed offset got).message =
        "needed " ++ (toString needed ++ (" bytes at offset 0x" ++
          (Text.hexadecimal offset ++ (", got " ++ (toString got ++ ""))))) := by
      simp only [← String.append_assoc, String.append_empty]
      rfl
    have hcategory : (ReadError.truncated needed offset got).category = "TruncatedImageError" := rfl
    rw [hmessage, hcategory]
    exact unmarked_opened (by decide) needed (by decide)
      (unmarked_digits (by decide) offset (by decide)
        (unmarked_digits (by decide) got (by decide) (by decide)))
  | unterminated offset =>
    have hmessage : (ReadError.unterminated offset).message =
        "unterminated string at offset 0x" ++ (Text.hexadecimal offset ++ "") := by
      rw [String.append_empty]
      rfl
    have hcategory : (ReadError.unterminated offset).category = "TruncatedImageError" := rfl
    rw [hmessage, hcategory]
    exact unmarked_opened (by decide) offset (by decide) (by decide)
  | negativeOffset offset =>
    have hcategory : (ReadError.negativeOffset offset).category = "ValueError" := rfl
    rw [hcategory]
    cases offset with
    | ofNat n =>
      have hmessage : (ReadError.negativeOffset (.ofNat n)).message =
          "negative seek value " ++ (toString n ++ "") := by
        rw [String.append_empty]
        rfl
      rw [hmessage]
      exact unmarked_opened (by decide) n (by decide) (by decide)
    | negSucc n =>
      have hmessage : (ReadError.negativeOffset (.negSucc n)).message =
          "negative seek value -" ++ (toString (n + 1) ++ "") := by
        have hfirst : "negative seek value -" = "negative seek value " ++ "-" := by decide
        rw [String.append_empty, hfirst, String.append_assoc]
        rfl
      rw [hmessage]
      exact unmarked_opened (by decide) (n + 1) (by decide) (by decide)
  | offsetTooLarge => decide
  | sizeTooLarge => decide

theorem unmarked_walkStoppedLine (libraries : Nat) (cause : ReadError) :
    Unmarked (walkStoppedLine libraries cause.category cause.message) := by
  have h : Unmarked ("import walk stopped after " ++ (toString libraries ++
      (" libraries: " ++ (cause.category ++ (": " ++ cause.message))))) :=
    unmarked_digits (by decide) libraries (by decide) (unmarked_cause cause)
  simp only [← String.append_assoc] at h
  exact h

/-- No line about imports reads as a report of a parse error, whatever the path of the latter. -/
theorem Imports.unmarked_diagnostic (imports : Imports) :
    ∀ line ∈ imports.diagnostic?, Unmarked line := by
  intro line hline
  rw [Imports.diagnostic?] at hline
  cases hending : imports.ending with
  | complete =>
    rw [hending] at hline
    cases hline
  | unmapped rva =>
    rw [hending] at hline
    obtain rfl := Option.some.inj hline
    exact unmarked_unmappedLine rva
  | stopped cause =>
    rw [hending] at hline
    obtain rfl := Option.some.inj hline
    exact unmarked_walkStoppedLine _ cause

/-! ## Files -/

/-- The reason stands for files that could not be read, and for nothing else. -/
theorem ofFile_resource_iff (t : FileTree) (path : String) :
    (∃ refusal, (ofFile t path).outcome = .refused refusal ∧ refusal.reason = .resource) ↔
      ∃ e, t.read path = .error e := by
  cases hread : t.read path with
  | error e => exact iff_of_true ⟨_, ofFile_of_error hread, rfl⟩ ⟨e, rfl⟩
  | ok data =>
    refine iff_of_false ?_ ?_
    · rintro ⟨refusal, hrefused, hresource⟩
      rw [ofFile_of_read hread] at hrefused
      by_cases h : IsImage data
      · cases hrefused.symm.trans (congrArg Reading.outcome (parse_of_isImage h path))
      · obtain ⟨fault, -, -, hparse⟩ := parse_of_not_isImage h path
        obtain rfl := Outcome.refused.inj (hparse.symm.trans hrefused)
        cases hresource
    · rintro ⟨e, hfails⟩
      cases hfails

/-! ## Lines of a reader -/

/-- What is reported while bytes are read. A refusal has one line, with its path and its detail. An image
has the lines about its imports: none if there are none or their table was walked to its terminator, and
otherwise one, which counts the libraries that were kept before the failure. No line reports a failed
read that no stage answers. A file is refused for its resource exactly if it cannot be read; otherwise its
outcome and its lines are those of its bytes. -/
theorem parse_reports (path : String) :
    (∀ data : ByteArray,
      (∀ refusal, (parse data path).outcome = .refused refusal →
        (parse data path).diagnostics = [s!"{path}: {refusal.detail}"]) ∧
      (∀ image, (parse data path).outcome = .image image →
        ∃ header sections, readLayout data = .ok (header, sections) ∧
          let imports := walkImports (Cursor.start data) header sections
          image.libraries = Text.sortedSet imports.libraries.toList ∧
            image.functions = Text.sortedSet imports.functions.toList ∧
            ReportsImports data header sections imports image (parse data path).diagnostics) ∧
      ∀ text, parseErrorLine path text ∉ (parse data path).diagnostics) ∧
    ∀ t : FileTree,
      ((∃ refusal, (ofFile t path).outcome = .refused refusal ∧ refusal.reason = .resource) ↔
        ∃ e, t.read path = .error e) ∧
      ∀ data, t.read path = .ok data → ofFile t path = parse data path := by
  refine ⟨fun data => ?_, fun t => ⟨ofFile_resource_iff t path, fun data => ofFile_of_read⟩⟩
  by_cases h : IsImage data
  · have hlayout := readLayout_of_isImage h
    rw [parse_of_isImage h]
    refine ⟨fun refusal hrefusal => ?_, fun image himage => ⟨_, _, hlayout, ?_⟩, fun text hmem => ?_⟩
    · cases hrefusal
    · obtain rfl := Outcome.image.inj himage
      exact ⟨rfl, rfl, reportsImports (Cursor.start data) _ _ _ rfl rfl⟩
    · exact not_unmarked_parseErrorLine path text
        (Imports.unmarked_diagnostic _ _ (Option.mem_toList.mp hmem))
  · obtain ⟨fault, hread, hgate⟩ := readLayout_refused h
    rw [parse_of_readLayout_error hread]
    refine ⟨fun refusal hrefusal => ?_, fun image himage => ?_, fun text hmem => ?_⟩
    · obtain rfl := Outcome.refused.inj hrefusal
      exact congrArg List.singleton (hgate.line path)
    · cases himage
    · exact hgate.line_ne path text (List.mem_singleton.mp hmem).symm

end PeSignals.Image
