import Mathlib
import PeSignals.Image.Writer
import PeSignals.Proofs.Finding.Given
import PeSignals.Proofs.Image.Content
import PeSignals.Scan.Inspection

/-!
# What an inspection reports

Every file comes to a report. A file that the reader refuses leaves its refusal and one finding. An image
leaves its description, a row for each section, an answer for each literal, and a finding for each of three
signs, all of which the checks on findings let through. One threshold stands in the way of the findings: a
whole number beyond the doubles that a section is above, for a finding would have to write it out.
-/
namespace PeSignals.Inspection

open Files (FileTree)
open Image (IsImage Refusal entropyOf)
open Text.Ascii (foldByte toByte)

/-! ## Literals -/

theorem foldl_distinct (found literals : List String) :
    literals.foldl (fun found literal => if found.contains literal then found else found ++ [literal])
        found =
      found ++ (literals.filter fun literal => !found.contains literal).eraseDups := by
  induction literals generalizing found with
  | nil => simp
  | cons literal rest ih =>
    rw [List.foldl_cons, ih]
    cases hfound : found.contains literal with
    | true =>
      rw [List.filter_cons_of_neg (by rw [hfound]; decide), if_pos rfl]
    | false =>
      have hrest : rest.filter (fun l => !(found ++ [literal]).contains l) =
          (rest.filter fun l => !found.contains l).filter fun l => !l == literal := by
        rw [List.filter_filter]
        refine List.filter_congr fun l _ => ?_
        simp only [List.contains_append, Bool.not_or, List.contains_cons, List.contains_nil, Bool.or_false]
        exact Bool.and_comm _ _
      rw [List.filter_cons_of_pos (by rw [hfound]; rfl), List.eraseDups_cons, ← hrest]
      simp

/-- The literals that are searched are those that are not empty, each once, where it first occurs. -/
theorem distinctLiterals_eq (literals : List String) :
    distinctLiterals literals = (literals.filter (· ≠ "")).eraseDups := by
  rw [distinctLiterals, foldl_distinct]
  simp

theorem map_fst_search (t : FileTree) (image : Image) (literals : List String) :
    (search t image literals).value.map (·.1) = (literals.filter (· ≠ "")).eraseDups := by
  rw [← distinctLiterals_eq, search, List.map_map, List.map_map]
  exact List.map_id _

theorem mem_search_iff {t : FileTree} {image : Image} {data : ByteArray}
    (hread : t.read image.path = .ok data) (literals : List String) :
    ∀ hit ∈ (search t image literals).value, (hit.2 = true ↔
      hit.1.toList.map (foldByte ∘ toByte) <:+: data.data.toList.map foldByte) := by
  intro hit hmem
  simp only [search, List.map_map, List.mem_map, Function.comp_apply] at hmem
  obtain ⟨literal, hliteral, rfl⟩ := hmem
  have hsome : literal ≠ "" := by
    rw [distinctLiterals_eq, List.mem_eraseDups, List.mem_filter] at hliteral
    simpa using hliteral.2
  exact Image.holds_eq_true_iff hread hsome

/-! ## Findings -/

/-- What is written out in a description is left of it. -/
theorem mem_toList_description {before part after : String} {c : Char} (hc : c ∈ part.toList) :
    c ∈ (before ++ part ++ after).toList := by
  rw [String.toList_append, String.toList_append]
  exact List.mem_append_left _ (List.mem_append_right _ hc)

theorem isAccepted_refusalFinding (r : Refusal) : (refusalFinding r).IsAccepted := by
  have hblank : Text.isBlank ':' = false := by decide
  rw [refusalFinding]
  cases r.reason with
  | resource =>
    have hcolon : ':' ∈ (": " : String).toList := by decide
    exact Finding.isAccepted_make _ _ _ (by decide) (mem_toList_description hcolon) hblank
  | structural =>
    have hcolon : ':' ∈ (" is not a Portable Executable: " : String).toList := by decide
    exact Finding.isAccepted_make _ _ _ (by decide) (mem_toList_description hcolon) hblank

theorem isAccepted_overlayFinding (image : Image) : (overlayFinding image).IsAccepted := by
  have hb : 'b' ∈ (" bytes follow the last section; " : String).toList := by decide
  exact Finding.isAccepted_make _ _ _ (by decide) (mem_toList_description hb) (by decide)

theorem isAccepted_entropyFinding (threshold : Number) (high : List (Image.Section × Float)) :
    (entropyFinding threshold high).IsAccepted := by
  have hcolon : ':' ∈ (": " : String).toList := by decide
  exact Finding.isAccepted_make _ _ _ (by decide) (mem_toList_description hcolon)
    (by decide)

theorem isAccepted_matchFinding (matched : List String) : (matchFinding matched).IsAccepted := by
  have hl : 'L' ∈ ("Literal(s) found in file: " ++ ", ".intercalate matched).toList := by
    rw [String.toList_append]
    exact List.mem_append_left _ (by decide)
  exact Finding.isAccepted_make _ _ _ (by decide) hl (by decide)

/-- A finding is on one of three signs, and each sign that shows has its finding. -/
theorem mem_findings_iff {settings : Settings} {image : Image} {entropies : List (Image.Section × Float)}
    {hits : List (String × Bool)} {f : Finding} :
    f ∈ findings settings image entropies hits ↔
      settings.isLargeOverlay image.overlay = true ∧ f = overlayFinding image ∨
      (entropies.filter fun m => settings.isHighEntropy m.2) ≠ [] ∧
        f = entropyFinding settings.highEntropy (entropies.filter fun m => settings.isHighEntropy m.2) ∨
      ((hits.filter (·.2)).map (·.1)) ≠ [] ∧ f = matchFinding ((hits.filter (·.2)).map (·.1)) := by
  simp only [findings, List.mem_append, List.mem_ite_nil_right, List.mem_ite_nil_left, List.mem_singleton,
    List.isEmpty_iff, or_assoc, ne_eq]

/-- Every finding on an image passes the checks that are made on findings. -/
theorem isAccepted_findings (settings : Settings) (image : Image)
    (entropies : List (Image.Section × Float)) (hits : List (String × Bool)) :
    ∀ f ∈ findings settings image entropies hits, f.IsAccepted := by
  intro f hf
  rcases mem_findings_iff.mp hf with ⟨-, rfl⟩ | ⟨-, rfl⟩ | ⟨-, rfl⟩
  · exact isAccepted_overlayFinding image
  · exact isAccepted_entropyFinding _ _
  · exact isAccepted_matchFinding _

/-! ## Entropies -/

/-- The sections of an image with their entropies. -/
def entropiesOf (settings : Settings) (data : ByteArray) (image : Image) : List (Image.Section × Float) :=
  if settings.measureEntropy then image.sections.map fun s => (s, entropyOf data s) else []

/-- The sections of an image above the bound for entropies, in table order. -/
def highSections (settings : Settings) (data : ByteArray) (image : Image) :
    List (Image.Section × Float) :=
  (entropiesOf settings data image).filter fun m => settings.isHighEntropy m.2

/-- Whether a section is above a threshold that cannot be written out. -/
def IsUntold (settings : Settings) (data : ByteArray) (image : Image) : Prop :=
  settings.highEntropy.isTooLarge = true ∧ highSections settings data image ≠ []

theorem cannotTell_iff {settings : Settings} {data : ByteArray} {image : Image} :
    cannotTell settings (entropiesOf settings data image) = true ↔ IsUntold settings data image := by
  rw [cannotTell, IsUntold, Bool.and_eq_true, highSections, ne_eq, List.filter_eq_nil_iff]
  simp

theorem highSections_ne_nil_iff {settings : Settings} {data : ByteArray} {image : Image} :
    highSections settings data image ≠ [] ↔ settings.measureEntropy = true ∧
      ∃ s ∈ image.sections, settings.isHighEntropy (entropyOf data s) = true := by
  rw [highSections, ne_eq, List.filter_eq_nil_iff, entropiesOf]
  split_ifs with hmeasure <;> simp [hmeasure]

/-- The entropies that are measured for an image in a tree that stays as it is. -/
theorem measuredEntropies_of_parse {t : FileTree} {data : ByteArray} {path : String} {image : Image}
    (hread : t.read path = .ok data) (h : (Image.parse data path).outcome = .image image)
    (settings : Settings) :
    (Protection.measuredEntropies t settings image).value = entropiesOf settings data image := by
  rw [Protection.measuredEntropies, entropiesOf]
  split_ifs
  · obtain ⟨measured, hmeasured, ⟨e, he, -⟩ | ⟨now, hnow, hvalue⟩⟩ := Image.sectionEntropies_of_parse h t
    · rw [hread] at he
      cases he
    · rw [hread] at hnow
      cases hnow
      rw [hmeasured]
      exact hvalue
  · rfl

/-! ## Reports -/

/-- What stands out in an image, by title and severity. -/
def signs (settings : Settings) (data : ByteArray) (image : Image) (report : ImageReport) :
    List (String × Severity) :=
  (if settings.isLargeOverlay image.overlay then [("Large overlay", .medium)] else []) ++
    (if settings.measureEntropy ∧ ∃ s ∈ image.sections, settings.isHighEntropy (entropyOf data s) then
      [("High-entropy sections", .medium)] else []) ++
    (if ∃ hit ∈ report.hits, hit.2 = true then [("Pattern matches", .info)] else [])

/-- What a report says of the bytes of an image. -/
structure Describes (settings : Settings) (patterns : List String) (data : ByteArray) (image : Image)
    (report : ImageReport) : Prop where
  described : report.image = image
  rows : report.rows =
    if settings.measureEntropy then image.sections.map fun s => row s (entropyOf data s) else []
  literals : report.hits.map (·.1) =
    ((settings.extraPatterns ++ patterns).filter (· ≠ "")).eraseDups
  hits : ∀ hit ∈ report.hits, (hit.2 = true ↔
    hit.1.toList.map (foldByte ∘ toByte) <:+: data.data.toList.map foldByte)

/-- What a scan says of a file that the reader refuses. -/
structure Rejects (t : FileTree) (path : String) (r : Refusal) (scan : Scan Inspection) : Prop where
  payload : scan.payload = .refused r
  fields : scan.payload.toJson.fields.map (·.1) = ["invalid_image"]
  reason : (∃ e, t.read path = .error e) ∧ r.reason = .resource ∨
    (∃ data, t.read path = .ok data ∧ ¬ IsImage data) ∧ r.reason = .structural
  finding : ∃ f, scan.findings = [f] ∧
    f.severity = match r.reason with
      | .resource => .high
      | .structural => .info

/-- What an inspection of a file comes to. -/
structure Reports (t : FileTree) (settings : Settings) (patterns : List String) (path : String)
    (now : Time.Moment) (scan : Scan Inspection) : Prop where
  target : scan.tool = toolName ∧ scan.target = path
  ended : scan.ended = some now
  accepted : ∀ f ∈ scan.findings, f.IsAccepted
  refused : ∀ r, (Image.ofFile t path).outcome = .refused r → Rejects t path r scan
  image : ∀ image, (Image.ofFile t path).outcome = .image image →
    ∃ data report, t.read path = .ok data ∧ scan.payload = .image report ∧
      Describes settings patterns data image report ∧
      (IsUntold settings data image →
        scan.findings = [] ∧ scan.summary = "Analysis failed: int too large to convert to float") ∧
      (¬ IsUntold settings data image →
        scan.findings.map (fun f => (f.title, f.severity)) = signs settings data image report)

theorem rejects_ofRefusal {t : FileTree} {path : String} (now : Time.Moment) (diagnostics : List String)
    {r : Refusal} (h : (Image.ofFile t path).outcome = .refused r) :
    Rejects t path r (ofRefusal path now diagnostics r).scan := by
  refine ⟨rfl, rfl, ?_, refusalFinding r, rfl, ?_⟩
  · cases hread : t.read path with
    | error e =>
      rw [Image.ofFile_of_error hread] at h
      obtain rfl := Image.Outcome.refused.inj h
      exact .inl ⟨⟨e, rfl⟩, rfl⟩
    | ok data =>
      rw [Image.ofFile_of_read hread] at h
      have hnot : ¬ IsImage data := by
        intro himage
        rw [Image.parse_of_isImage himage] at h
        cases h
      obtain ⟨fault, -, -, houtcome⟩ := Image.parse_of_not_isImage hnot path
      rw [houtcome] at h
      obtain rfl := Image.Outcome.refused.inj h
      exact .inr ⟨⟨data, rfl, hnot⟩, rfl⟩
  · rw [refusalFinding]
    cases r.reason <;> rfl

theorem title_overlayFinding (image : Image) : (overlayFinding image).title = "Large overlay" := by
  change Text.trim "Large overlay" = "Large overlay"
  decide

theorem title_entropyFinding (threshold : Number) (high : List (Image.Section × Float)) :
    (entropyFinding threshold high).title = "High-entropy sections" := by
  change Text.trim "High-entropy sections" = "High-entropy sections"
  decide

theorem title_matchFinding (matched : List String) : (matchFinding matched).title = "Pattern matches" := by
  change Text.trim "Pattern matches" = "Pattern matches"
  decide

/-- Which findings an image gets is decided by three tests, in this order. -/
theorem map_findings (settings : Settings) (image : Image) (entropies : List (Image.Section × Float))
    (hits : List (String × Bool)) :
    (findings settings image entropies hits).map (fun f => (f.title, f.severity)) =
      (if settings.isLargeOverlay image.overlay then [("Large overlay", .medium)] else []) ++
        (if ∃ m ∈ entropies, settings.isHighEntropy m.2 then [("High-entropy sections", .medium)] else []) ++
        (if ∃ hit ∈ hits, hit.2 = true then [("Pattern matches", .info)] else []) := by
  have hhigh : (entropies.filter fun m => settings.isHighEntropy m.2).isEmpty = true ↔
      ¬ ∃ m ∈ entropies, settings.isHighEntropy m.2 = true := by
    simp
  have hmatched : ((hits.filter (·.2)).map (·.1)).isEmpty = true ↔ ¬ ∃ hit ∈ hits, hit.2 = true := by
    simp
  simp only [findings, List.map_append, apply_ite (List.map _), List.map_cons, List.map_nil,
    title_overlayFinding, title_entropyFinding, title_matchFinding, hhigh, hmatched, ite_not]
  rfl

/-- The findings on an image that is inspected, unless the threshold for entropies cannot be written out. -/
theorem findings_ofImage {t : FileTree} {data : ByteArray} {path : String} {image : Image}
    (hread : t.read path = .ok data) (h : (Image.parse data path).outcome = .image image)
    (settings : Settings) (patterns : List String) (now : Time.Moment) (diagnostics : List String) :
    let scan := (ofImage t settings patterns path now diagnostics image).scan
    (IsUntold settings data image →
      scan.findings = [] ∧ scan.summary = "Analysis failed: int too large to convert to float") ∧
    (¬ IsUntold settings data image → scan.findings = findings settings image
      (entropiesOf settings data image) (search t image (settings.extraPatterns ++ patterns)).value) := by
  simp only [ofImage, measuredEntropies_of_parse hread h settings, ← cannotTell_iff]
  constructor
  · intro hfails
    simp only [hfails, if_true]
    exact ⟨rfl, rfl⟩
  · intro htells
    simp only [htells]
    rfl

theorem describes_ofImage {t : FileTree} {data : ByteArray} {path : String} {image : Image}
    (hread : t.read path = .ok data) (h : (Image.parse data path).outcome = .image image)
    (settings : Settings) (patterns : List String) (now : Time.Moment) (diagnostics : List String) :
    let scan := (ofImage t settings patterns path now diagnostics image).scan
    ∃ report, scan.payload = .image report ∧ Describes settings patterns data image report ∧
      (¬ IsUntold settings data image →
        scan.findings.map (fun f => (f.title, f.severity)) = signs settings data image report) := by
  have hentropies := measuredEntropies_of_parse hread h settings
  have hpath : t.read image.path = .ok data := by rw [Image.path_of_parse h, hread]
  refine ⟨_, rfl, ⟨rfl, ?_, map_fst_search _ _ _, mem_search_iff hpath _⟩, fun htold => ?_⟩
  · change (Protection.measuredEntropies t settings image).value.map (fun m => row m.1 m.2) = _
    rw [hentropies, entropiesOf]
    split_ifs
    · rw [List.map_map]
      rfl
    · rfl
  · have hhigh : (∃ m ∈ entropiesOf settings data image, settings.isHighEntropy m.2 = true) ↔
        settings.measureEntropy = true ∧
          ∃ s ∈ image.sections, settings.isHighEntropy (entropyOf data s) = true := by
      rw [← highSections_ne_nil_iff, highSections, ne_eq, List.filter_eq_nil_iff]
      simp
    rw [(findings_ofImage hread h settings patterns now diagnostics).2 htold, map_findings, signs]
    simp only [hhigh]

theorem reports_run (t : FileTree) (settings : Settings) (patterns : List String) (path : String)
    (now : Time.Moment) : Reports t settings patterns path now (run t settings patterns path now).scan := by
  cases houtcome : (Image.ofFile t path).outcome with
  | refused r =>
    have hrun : run t settings patterns path now =
        ofRefusal path now (Image.ofFile t path).diagnostics r := by
      simp only [run, runIn, houtcome]
    rw [hrun]
    refine ⟨⟨rfl, rfl⟩, rfl, ?_, ?_, ?_⟩
    · intro f hf
      obtain rfl := List.mem_singleton.mp hf
      exact isAccepted_refusalFinding r
    · intro r' hr'
      obtain rfl := Image.Outcome.refused.inj (houtcome.symm.trans hr')
      exact rejects_ofRefusal now _ houtcome
    · intro image himage
      cases houtcome.symm.trans himage
  | image image =>
    have hrun : run t settings patterns path now =
        ofImage t settings patterns path now (Image.ofFile t path).diagnostics image := by
      simp only [run, runIn, houtcome]
    obtain ⟨data, hread, hparse⟩ := Image.exists_read_of_ofFile houtcome
    obtain ⟨huntold, htold⟩ :=
      findings_ofImage hread hparse settings patterns now (Image.ofFile t path).diagnostics
    rw [hrun]
    refine ⟨⟨rfl, rfl⟩, rfl, ?_, ?_, ?_⟩
    · by_cases hfails : IsUntold settings data image
      · rw [(huntold hfails).1]
        exact List.forall_mem_nil _
      · rw [htold hfails]
        exact isAccepted_findings _ _ _ _
    · intro r hr
      cases houtcome.symm.trans hr
    · intro image' himage'
      obtain rfl := Image.Outcome.image.inj (houtcome.symm.trans himage')
      obtain ⟨report, hpayload, hdescribes, hfindings⟩ :=
        describes_ofImage hread hparse settings patterns now (Image.ofFile t path).diagnostics
      exact ⟨data, report, hread, hpayload, hdescribes, huntold, hfindings⟩

theorem inspectIn_of_fits {limit : Option Number} {settings : Settings}
    (hfits : (limit.getD settings.timeLimit).isTooLarge = false)
    (htime : (limit.getD settings.timeLimit).isNotPositive = false) {path : String} (hpath : path ≠ "")
    (view : List Log.Entry → FileTree) (patterns : List String) (now : Time.Moment) :
    inspectIn view settings patterns path limit now = .ok (runIn view settings patterns path now) := by
  rw [inspectIn]
  simp only [hfits, Bool.false_and, Bool.false_eq_true, if_false, if_neg hpath, runWithin, htime]

/-- An inspection of a file always comes to a finished scan: of a refused file with the refusal and its one
finding, of an image with all that was to be learned about it and the findings on what stands out. The
checks on findings let every finding through. Under a threshold for entropies that is a whole number beyond the
doubles and below that of a section there are no findings, and the summary says why. A file that is named is
inspected in this way under every limit that is positive. -/
theorem inspect_reports (t : FileTree) (settings : Settings) (patterns : List String) {path : String}
    (hpath : path ≠ "") (now : Time.Moment) :
    Reports t settings patterns path now (run t settings patterns path now).scan ∧
      ∀ limit : Option Number, (limit.getD settings.timeLimit).isTooLarge = false →
        (limit.getD settings.timeLimit).isNotPositive = false →
          inspect t settings patterns path limit now = .ok (run t settings patterns path now) :=
  ⟨reports_run t settings patterns path now, fun _ hfits htime =>
    inspectIn_of_fits hfits htime hpath _ patterns now⟩

section Nameless

open Image (zeros padded numberBytes)

/-- An image with one section, which has no name and stores nothing, and two bytes behind its headers. -/
def nameless : ByteArray := ⟨(
  padded Image.peOffsetField [0x4D, 0x5A] ++ numberBytes 4 64 ++
  [0x50, 0x45, 0, 0] ++ numberBytes 2 0x14C ++ numberBytes 2 1 ++ zeros 16 ++
  zeros 40 ++ [0x78, 0x79]).toArray⟩

def namelessTree : FileTree where
  files := [(["one.exe"], nameless)]

def namelessImage : Image where
  path := "one.exe"
  sections := [{}]
  overlay := 130
  fileSize := 130

theorem read_nameless : namelessTree.read "one.exe" = .ok nameless := by
  rfl

theorem parse_nameless : (Image.parse nameless "one.exe").outcome = .image namelessImage := by
  decide +kernel

theorem ofFile_nameless : (Image.ofFile namelessTree "one.exe").outcome = .image namelessImage := by
  rw [Image.ofFile_of_read read_nameless, parse_nameless]

/-- Nothing is stored of the section, so any threshold below zero is below its entropy. -/
theorem isHighEntropy_nameless {settings : Settings} (h : settings.isHighEntropy 0 = true) :
    settings.isHighEntropy (entropyOf nameless {}) = true := by
  have hempty : entropyOf nameless {} = 0 := if_pos rfl
  rwa [hempty]

/-- With bounds that the image is above and one literal that it holds, all three signs show. -/
theorem inspect_reports_nameless :
    let settings : Settings := { largeOverlay := .int 129, highEntropy := .int (-1) }
    let patterns := ["xy", "", "UPX", "xy"]
    let scan := (run namelessTree settings patterns "one.exe" ⟨0, false⟩).scan
    "one.exe" ≠ "" ∧ (Image.ofFile namelessTree "one.exe").outcome = .image namelessImage ∧
      Reports namelessTree settings patterns "one.exe" ⟨0, false⟩ scan ∧
      inspect namelessTree settings patterns "one.exe" (some (.int 1)) ⟨0, false⟩ =
        .ok (run namelessTree settings patterns "one.exe" ⟨0, false⟩) ∧
      (∃ report, scan.payload = .image report ∧ report.hits.map (·.1) = ["xy", "UPX"]) ∧
      scan.findings.map (fun f => (f.title, f.severity)) =
        [("Large overlay", .medium), ("High-entropy sections", .medium), ("Pattern matches", .info)] := by
  intro settings patterns scan
  have hnamed : "one.exe" ≠ "" := by decide
  obtain ⟨hreports, hinspect⟩ :=
    inspect_reports namelessTree settings patterns hnamed ⟨0, false⟩
  obtain ⟨data, report, hread, hpayload, hdescribes, -, hsigns⟩ := hreports.image _ ofFile_nameless
  obtain rfl := Except.ok.inj (hread.symm.trans read_nameless)
  have hliterals : report.hits.map (·.1) = ["xy", "UPX"] := hdescribes.literals.trans (by decide)
  have hhit : ∃ hit ∈ report.hits, hit.2 = true := by
    have hxy : "xy" ∈ report.hits.map (·.1) := hliterals ▸ List.mem_cons_self
    obtain ⟨hit, hmem, hname⟩ := List.mem_map.mp hxy
    refine ⟨hit, hmem, (hdescribes.hits hit hmem).mpr ?_⟩
    rw [hname]
    decide +kernel
  have hhigh : ∃ s ∈ namelessImage.sections, settings.isHighEntropy (entropyOf nameless s) = true :=
    ⟨{}, List.mem_cons_self, isHighEntropy_nameless (by decide +kernel)⟩
  have htold : ¬ IsUntold settings nameless namelessImage := by
    rintro ⟨hlarge, -⟩
    exact absurd hlarge (by decide +kernel)
  refine ⟨hnamed, ofFile_nameless, hreports, hinspect (some (.int 1)) (by decide +kernel) (by decide),
    ⟨report, hpayload, hliterals⟩, ?_⟩
  rw [hsigns htold, signs, if_pos (by decide), if_pos ⟨rfl, hhigh⟩, if_pos hhit]
  rfl

/-- A threshold below all doubles: the section is above it, and there is no finding on it. -/
theorem run_nameless_untold :
    let settings : Settings := { highEntropy := .int (-(10 ^ 309)) }
    (Image.ofFile namelessTree "one.exe").outcome = .image namelessImage ∧
      (∃ s ∈ namelessImage.sections, settings.isHighEntropy (entropyOf nameless s) = true) ∧
      (run namelessTree settings [] "one.exe" ⟨0, false⟩).scan.findings = [] := by
  intro settings
  have hlarge : settings.highEntropy.isTooLarge = true := by decide +kernel
  have hhigh : ∃ s ∈ namelessImage.sections, settings.isHighEntropy (entropyOf nameless s) = true :=
    ⟨{}, List.mem_cons_self, isHighEntropy_nameless (by decide +kernel)⟩
  have huntold : IsUntold settings nameless namelessImage := ⟨hlarge, highSections_ne_nil_iff.mpr ⟨rfl, hhigh⟩⟩
  obtain ⟨data, report, hread, -, -, hfails, -⟩ :=
    (reports_run namelessTree settings [] "one.exe" ⟨0, false⟩).image _ ofFile_nameless
  obtain rfl := Except.ok.inj (hread.symm.trans read_nameless)
  exact ⟨ofFile_nameless, hhigh, (hfails huntold).1⟩

end Nameless

end PeSignals.Inspection
