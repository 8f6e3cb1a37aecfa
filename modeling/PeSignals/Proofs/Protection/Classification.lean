import Mathlib
import PeSignals.Proofs.Files.Detour
import PeSignals.Proofs.Files.Walk
import PeSignals.Proofs.Image.Content
import PeSignals.Proofs.Protection.Selection
import PeSignals.Proofs.Protection.Survey
import PeSignals.Proofs.Text.Fragment

/-!
# Which schemes are detected

The signs of each scheme, stated on images, bytes and file names alone, and the survey's agreement with
them: a scheme is detected exactly if one of its signs shows in an image among the executables or in the
name of a file that a walk from the directory meets.
-/
namespace PeSignals.Protection

open Files (FileBelow FileTree FoundFile MetFile Path)
open Text.Ascii (foldByte toByte)

/-! ## The signs -/

/-- An image among executables: the file at one of their paths, read as an image. -/
structure Analysed (t : FileTree) (executables : List Path) where
  path : Path
  data : ByteArray
  image : Image
  listed : path ∈ executables
  read : t.read path.text = .ok data
  parsed : (Image.parse data path.text).outcome = .image image

variable {t : FileTree} {executables : List Path} {root : Path}

namespace Analysed

/-- Whether one of several libraries is imported. -/
def Imports (x : Analysed t executables) (libraries : List String) : Prop :=
  ∃ library ∈ libraries, library ∈ x.image.libraries

/-- Whether the name of a section holds one of several fragments, ignoring case. -/
def NamesSection (x : Analysed t executables) (fragments : List String) : Prop :=
  ∃ s ∈ x.image.sections, ∃ fragment ∈ fragments, fragment.toList <:+: (Text.lower s.name).toList

/-- Whether one of several literals stands in the bytes of the file, ignoring the case of A to Z. -/
def Holds (x : Analysed t executables) (literals : List String) : Prop :=
  ∃ literal ∈ literals,
    literal.toList.map (foldByte ∘ toByte) <:+: x.data.data.toList.map foldByte

/-- Whether something in the directory of the file has a suffix, ignoring case. -/
def StandsBeside (x : Analysed t executables) (ending : String) : Prop :=
  ∃ names, t.list x.path.parent = .ok names ∧
    ∃ name ∈ names, Text.lower (Files.suffix name) = ending

/-- Whether the name of an imported function holds one of several fragments, ignoring case. -/
def Calls (x : Analysed t executables) (fragments : List String) : Prop :=
  ∃ function ∈ x.image.functions, ∃ fragment ∈ fragments,
    fragment.toList <:+: (Text.lower function).toList

/-- The signs of the schemes in an image. -/
def Shows (x : Analysed t executables) : Scheme → Prop
  | .steamStub => x.Imports ["steam_api.dll", "steam_api64.dll"]
  | .steamCeg =>
    x.Imports ["steam_api.dll", "steam_api64.dll"] ∧
      ∃ s ∈ x.image.sections, Text.lower s.name = ".bind"
  | .denuvo => x.NamesSection [".arch", "denuvo"] ∨ x.Holds ["denuvo", "irdeto"]
  | .vmProtect =>
    x.NamesSection ["vmp"] ∨ x.Imports ["vmprotectsdk32.dll", "vmprotectsdk64.dll"]
  | .themida =>
    x.NamesSection ["themida", "winlicen", ".taggant"] ∨ x.Holds ["themida", "winlicense"]
  | .secuRom => x.StandsBeside ".cms" ∨ x.Holds ["securom", "sony dadc"]
  | .epicOnlineServices => x.Imports ["eossdk-win64-shipping.dll", "eossdk-win32-shipping.dll"]
  | .eaOrigin => x.Imports ["origin.dll", "eadesktopbridge.dll"]
  | .ubisoftConnect => x.Imports ["uplay_r1_loader.dll", "upc.dll"]
  | .unprotected | .custom => False

end Analysed

/-- The signs of the schemes in the name of a file. -/
def NameShows (name : String) : Scheme → Prop
  | .steamStub => Text.lower name ∈ ["steam_api.dll", "steam_api64.dll"]
  | .denuvo => "denuvo".toList <:+: (Text.lower name).toList
  | _ => False

/-- What an analysis says of a directory and the executables that were looked at. -/
structure Classified (t : FileTree) (root : Path) (executables : List Path) (a : Analysis) : Prop where
  once : a.schemes.Nodup
  never : Scheme.unprotected ∉ a.schemes ∧ Scheme.custom ∉ a.schemes
  detected : ∀ s, s ∈ a.schemes ↔
    (∃ x : Analysed t executables, x.Shows s) ∨ ∃ f : MetFile t root, NameShows f.name s
  steamworks : a.steamworks = true ↔
    (∃ x : Analysed t executables, x.Imports ["steam_api.dll", "steam_api64.dll"]) ∨
      ∃ f : MetFile t root, Text.lower f.name ∈ ["steam_api.dll", "steam_api64.dll"]
  online : a.online = true ↔ ∃ x : Analysed t executables,
    x.Calls ["onlineauthentication", "connectionrequired", "offlineprohibited"]
  launcher : a.launcher = true ↔ ∃ f : MetFile t root,
    "launcher".toList <:+: (Text.lower f.name).toList ∧ ".exe".toList <:+ (Text.lower f.name).toList

/-! ## Tests for signs -/

/-- The lists of libraries that give a scheme away. -/
def libraryLists : List (List String) :=
  [Signature.steamLibraries, Signature.vmProtectLibraries, Signature.epicLibraries,
    Signature.eaLibraries, Signature.ubisoftLibraries]

/-- The library lists are written in lower case, so folding them changes nothing. -/
theorem lower_eq_of_mem_libraryLists :
    ∀ libraries ∈ libraryLists, ∀ l ∈ libraries, Text.lower l = l := by
  decide

namespace Analysed

variable (x : Analysed t executables)

theorem importsAny_iff {libraries : List String} (h : libraries ∈ libraryLists) :
    Signature.importsAny x.image libraries = true ↔ x.Imports libraries := by
  rw [Signature.importsAny, List.any_eq_true, Imports]
  refine exists_congr fun l => and_congr_right fun hl => ?_
  rw [Image.importsLibrary, lower_eq_of_mem_libraryLists libraries h l hl, List.contains_iff_mem]

theorem holdsAny_text_iff {text : String} {fragments : List String} :
    Signature.holdsAny text fragments = true ↔
      ∃ fragment ∈ fragments, fragment.toList <:+: text.toList := by
  rw [Signature.holdsAny, List.any_eq_true]
  exact exists_congr fun fragment => and_congr_right fun _ => Text.holds_iff

theorem sectionNamed_iff {fragments : List String} :
    Signature.sectionNamed x.image fragments = true ↔ x.NamesSection fragments := by
  rw [Signature.sectionNamed, List.any_eq_true, NamesSection]
  exact exists_congr fun s => and_congr_right fun _ => holdsAny_text_iff

theorem importsSteam_iff :
    Signature.importsAny x.image Signature.steamLibraries = true ↔ x.Imports Signature.steamLibraries :=
  x.importsAny_iff (by simp [libraryLists])

theorem showsVmProtect_iff :
    Signature.showsVmProtect x.image = true ↔
      x.NamesSection Signature.vmProtectSections ∨ x.Imports Signature.vmProtectLibraries := by
  rw [Signature.showsVmProtect, Bool.or_eq_true, x.sectionNamed_iff,
    x.importsAny_iff (by simp [libraryLists])]

theorem insistsOnConnection_iff :
    Signature.insistsOnConnection x.image = true ↔ x.Calls Signature.onlineFunctions := by
  rw [Signature.insistsOnConnection, List.any_eq_true, Calls]
  exact exists_congr fun function => and_congr_right fun _ => holdsAny_text_iff

/-- An image is searched in the file that it was read from. -/
theorem read_image_path : t.read x.image.path = .ok x.data := by
  rw [Image.path_of_parse x.parsed, x.read]

theorem holds_iff {literal : String} (h : literal ≠ "") :
    (x.image.holds t literal).value = true ↔
      literal.toList.map (foldByte ∘ toByte) <:+: x.data.data.toList.map foldByte :=
  Image.holds_eq_true_iff x.read_image_path h

theorem holdsAny_iff {literals : List String} (h : ∀ l ∈ literals, l ≠ "") :
    (x.image.holdsAny t literals).value = true ↔ x.Holds literals := by
  induction literals with
  | nil => simp [Image.holdsAny, Holds]
  | cons literal rest ih =>
    have hfirst := x.holds_iff (h literal List.mem_cons_self)
    have hrest := ih fun l hl => h l (List.mem_cons_of_mem literal hl)
    rw [Image.holdsAny, Holds, List.exists_mem_cons_iff, ← hfirst, ← Holds, ← hrest]
    cases hvalue : (x.image.holds t literal).value with
    | true => simp only [hvalue, if_true, true_or]
    | false => simp only [Bool.false_eq_true, if_false, false_or]

/-- Whether sections or literals are tested first is no part of the answer. -/
theorem sectionsOrLiterals_iff (fragments : List String) {literals : List String}
    (h : ∀ l ∈ literals, l ≠ "") :
    (sectionsOrLiterals t x.image fragments literals).value = true ↔
      x.NamesSection fragments ∨ x.Holds literals := by
  rw [sectionsOrLiterals, ← x.sectionNamed_iff, ← x.holdsAny_iff h]
  cases hvalue : Signature.sectionNamed x.image fragments with
  | true => simp only [if_true, true_or]
  | false => simp only [Bool.false_eq_true, if_false, false_or]

theorem hasSecuRomSibling_iff :
    (hasSecuRomSibling t x.path).value = true ↔ x.StandsBeside Signature.secuRomSuffix := by
  rw [hasSecuRomSibling, StandsBeside]
  cases hlist : t.list x.path.parent with
  | error e => simp
  | ok names => simp

theorem showsSecuRom_iff :
    (showsSecuRom t x.image x.path).value = true ↔
      x.StandsBeside Signature.secuRomSuffix ∨ x.Holds Signature.secuRomLiterals := by
  rw [showsSecuRom, ← x.hasSecuRomSibling_iff, ← x.holdsAny_iff (by decide)]
  cases hvalue : (hasSecuRomSibling t x.path).value with
  | true => simp only [hvalue, if_true, true_or]
  | false => simp only [Bool.false_eq_true, if_false, false_or]

/-- The section that binds a game to an account is recognised in any case. -/
theorem isSome_bound_iff :
    (x.image.findSection? Signature.steamBindSection).isSome = true ↔
      ∃ s ∈ x.image.sections, Text.lower s.name = ".bind" := by
  have hlower : Text.lower Signature.steamBindSection = ".bind" := by decide
  rw [Image.findSection?, hlower, List.find?_isSome]
  simp only [decide_eq_true_eq]

/-- The schemes that the signals of an image speak of are those with a sign in it. -/
theorem mem_detections_iff (settings : Settings) (s : Scheme) :
    s ∈ (imageSignals t settings x.path x.image).value.detections.map (·.scheme) ↔ x.Shows s := by
  have hwhen {found : Bool} {d : Detection} :
      s ∈ (if found = true then [d] else []).map (·.scheme) ↔ found = true ∧ s = d.scheme := by
    cases found <;> simp
  have hdenuvo := x.sectionsOrLiterals_iff Signature.denuvoSections
    (by decide : ∀ l ∈ Signature.denuvoLiterals, l ≠ "")
  have hthemida := x.sectionsOrLiterals_iff Signature.themidaSections
    (by decide : ∀ l ∈ Signature.themidaLiterals, l ≠ "")
  have hepic := x.importsAny_iff (by simp [libraryLists] : Signature.epicLibraries ∈ libraryLists)
  have hea := x.importsAny_iff (by simp [libraryLists] : Signature.eaLibraries ∈ libraryLists)
  have hubisoft := x.importsAny_iff (by simp [libraryLists] : Signature.ubisoftLibraries ∈ libraryLists)
  -- Every test has become its sign; for each scheme only the signs of that scheme are left.
  simp only [imageSignals, List.map_append, List.mem_append, hwhen, Bool.and_eq_true, x.importsSteam_iff,
    x.isSome_bound_iff, hdenuvo, x.showsVmProtect_iff, hthemida, x.showsSecuRom_iff, hepic, hea, hubisoft]
  cases s <;> simp only [Shows, reduceCtorEq, and_true, and_false, or_false, false_or] <;> rfl

theorem value_executableSignals (settings : Settings) :
    (executableSignals t settings x.path).value = (imageSignals t settings x.path x.image).value := by
  rw [executableSignals, executableSignalsIn]
  simp only [Image.ofFile_of_read x.read, x.parsed]

end Analysed

/-! ## Signs among executables -/

/-- Only the images among the executables contribute anything. -/
theorem exists_mem_signals (settings : Settings) {P : Signals → Prop} (hnone : ¬ P {}) :
    (∃ s ∈ executables.map fun path => (executableSignals t settings path).value, P s) ↔
      ∃ x : Analysed t executables, P (imageSignals t settings x.path x.image).value := by
  constructor
  · rintro ⟨_, hmem, hP⟩
    obtain ⟨path, hpath, rfl⟩ := List.mem_map.mp hmem
    cases hread : t.read path.text with
    | error e =>
      rw [executableSignals, executableSignalsIn, Image.ofFile, hread] at hP
      exact absurd hP hnone
    | ok data =>
      cases houtcome : (Image.parse data path.text).outcome with
      | refused refusal =>
        rw [executableSignals, executableSignalsIn, Image.ofFile, hread] at hP
        simp only [houtcome] at hP
        exact absurd hP hnone
      | image image =>
        let x : Analysed t executables := ⟨path, data, image, hpath, hread, houtcome⟩
        exact ⟨x, x.value_executableSignals settings ▸ hP⟩
  · rintro ⟨x, hP⟩
    exact ⟨_, List.mem_map.mpr ⟨x.path, x.listed, rfl⟩, by rwa [x.value_executableSignals]⟩

/-- A scheme is detected among executables exactly if one accepted image shows it. -/
theorem mem_detections_signalsOf (settings : Settings) (s : Scheme) :
    s ∈ (signalsOf t settings executables).detections.map (·.scheme) ↔
      ∃ x : Analysed t executables, x.Shows s := by
  rw [signalsOf, Signals.join, List.map_flatMap, List.mem_flatMap,
    exists_mem_signals settings (by simp)]
  exact exists_congr fun x => x.mem_detections_iff settings s

theorem steamworks_signalsOf (settings : Settings) :
    (signalsOf t settings executables).steamworks = true ↔
      ∃ x : Analysed t executables, x.Imports Signature.steamLibraries := by
  rw [signalsOf, Signals.join, List.any_eq_true, exists_mem_signals settings (by simp)]
  exact exists_congr fun x => x.importsSteam_iff

theorem online_signalsOf (settings : Settings) :
    (signalsOf t settings executables).online = true ↔
      ∃ x : Analysed t executables, x.Calls Signature.onlineFunctions := by
  rw [signalsOf, Signals.join, List.any_eq_true, exists_mem_signals settings (by simp)]
  exact exists_congr fun x => x.insistsOnConnection_iff

/-- Executables say nothing of launchers; only the names of files do. -/
theorem launcher_signalsOf (settings : Settings) :
    (signalsOf t settings executables).launcher = false := by
  rw [← Bool.not_eq_true, signalsOf, Signals.join, List.any_eq_true,
    exists_mem_signals settings (by simp)]
  rintro ⟨x, hlauncher⟩
  cases hlauncher

/-! ## Signs in file names -/

theorem not_isEmpty_filter_iff {α : Type} {p : α → Bool} {items : List α} :
    (!(items.filter p).isEmpty) = true ↔ ∃ a ∈ items, p a = true := by
  rw [Bool.not_eq_true', ← Bool.not_eq_true, List.isEmpty_iff, List.filter_eq_nil_iff]
  push Not
  rfl

/-- Detections of one scheme speak of it as soon as there are any. -/
theorem mem_schemes_map_iff {α : Type} {items : List α} {f : α → Detection} {s scheme : Scheme}
    (h : ∀ a, (f a).scheme = scheme) :
    s ∈ (items.map f).map (·.scheme) ↔ s = scheme ∧ (!items.isEmpty) = true := by
  have hconst : ((·.scheme) ∘ f : α → Scheme) = fun _ => scheme := funext h
  rw [List.map_map, hconst, List.map_const', List.mem_replicate, Bool.not_eq_true',
    ← Bool.not_eq_true, List.isEmpty_iff, ← List.length_eq_zero_iff, and_comm]

theorem shipped_iff {files : List FoundFile} {library : String} :
    (!((files.filter fun f => lowerName f = library).map (·.path.text)).isEmpty) = true ↔
      ∃ f ∈ files, lowerName f = library := by
  rw [List.isEmpty_map, not_isEmpty_filter_iff]
  simp only [decide_eq_true_eq]

theorem steamworks_steamSignals {files : List FoundFile} :
    (steamSignals files).steamworks = true ↔ ∃ f ∈ files, lowerName f ∈ Signature.steamLibraries := by
  simp only [steamSignals, not_isEmpty_filter_iff, shipped_iff]
  constructor
  · rintro ⟨library, hlibrary, f, hf, rfl⟩
    exact ⟨f, hf, hlibrary⟩
  · rintro ⟨f, hf, hlibrary⟩
    exact ⟨_, hlibrary, f, hf, rfl⟩

theorem mem_detections_steamSignals {files : List FoundFile} {s : Scheme} :
    s ∈ (steamSignals files).detections.map (·.scheme) ↔
      s = .steamStub ∧ ∃ f ∈ files, lowerName f ∈ Signature.steamLibraries := by
  rw [← steamworks_steamSignals]
  exact mem_schemes_map_iff fun _ => rfl

theorem mem_detections_nameSignals {files : List FoundFile} {s : Scheme} :
    s ∈ (nameSignals files).detections.map (·.scheme) ↔
      s = .denuvo ∧ ∃ f ∈ files, "denuvo".toList <:+: (lowerName f).toList := by
  have hany : s ∈ (nameSignals files).detections.map (·.scheme) ↔
      s = .denuvo ∧ (!((files.map lowerName).filter isDenuvoFile).isEmpty) = true :=
    mem_schemes_map_iff fun _ => rfl
  rw [hany]
  simp only [not_isEmpty_filter_iff, isDenuvoFile, Text.holds_iff, List.mem_map, exists_exists_and_eq_and]

theorem launcher_nameSignals {files : List FoundFile} :
    (nameSignals files).launcher = true ↔
      ∃ f ∈ files, "launcher".toList <:+: (lowerName f).toList ∧
        ".exe".toList <:+ (lowerName f).toList := by
  simp only [nameSignals, not_isEmpty_filter_iff, isLauncherFile, Bool.and_eq_true, Text.holds_iff,
    Text.closesWith_iff, List.mem_map, exists_exists_and_eq_and]

theorem signalsBelow_of_directory (h : t.isDirectory root.text = .ok true) :
    signalsBelow t root = (steamSignals (t.walk root)).followedBy (nameSignals (t.walk root)) := by
  have hfiles : filesOf t root = .ok (t.walk root) := by rw [filesOf, h]
  rw [signalsBelow, steamSignalsIn, nameSignalsIn, hfiles]

/-- The schemes that the files of a directory speak of are those with a sign in one of their names. -/
theorem mem_detections_signalsBelow (h : t.isDirectory root.text = .ok true) (s : Scheme) :
    s ∈ (signalsBelow t root).detections.map (·.scheme) ↔
      ∃ f : MetFile t root, NameShows f.name s := by
  refine Iff.trans ?_ (Files.exists_mem_walk (NameShows · s))
  rw [signalsBelow_of_directory h, Signals.followedBy, List.map_append, List.mem_append,
    mem_detections_steamSignals, mem_detections_nameSignals]
  cases s <;> simp only [NameShows, reduceCtorEq, false_and, true_and, or_false, false_or, and_false,
    exists_false] <;> rfl

theorem steamworks_signalsBelow (h : t.isDirectory root.text = .ok true) :
    (signalsBelow t root).steamworks = true ↔
      ∃ f : MetFile t root, Text.lower f.name ∈ Signature.steamLibraries := by
  refine Iff.trans ?_ (Files.exists_mem_walk (Text.lower · ∈ Signature.steamLibraries))
  rw [signalsBelow_of_directory h, Signals.followedBy, Bool.or_eq_true, steamworks_steamSignals]
  exact or_iff_left Bool.false_ne_true

theorem launcher_signalsBelow (h : t.isDirectory root.text = .ok true) :
    (signalsBelow t root).launcher = true ↔ ∃ f : MetFile t root,
      "launcher".toList <:+: (Text.lower f.name).toList ∧
        ".exe".toList <:+ (Text.lower f.name).toList := by
  refine Iff.trans ?_ (Files.exists_mem_walk fun name =>
    "launcher".toList <:+: (Text.lower name).toList ∧ ".exe".toList <:+ (Text.lower name).toList)
  rw [signalsBelow_of_directory h, Signals.followedBy, Bool.or_eq_true, launcher_nameSignals]
  exact or_iff_right Bool.false_ne_true

/-- The names of files say nothing of connections; only imports do. -/
theorem online_signalsBelow (h : t.isDirectory root.text = .ok true) :
    (signalsBelow t root).online = false := by
  rw [signalsBelow_of_directory h]
  rfl

/-! ## Surveys -/

/-- An analysis of a directory detects a scheme exactly if one of its signs shows. -/
theorem mem_schemes_analyse (settings : Settings) (executables : List Path)
    (h : t.isDirectory root.text = .ok true) (s : Scheme) :
    s ∈ (analyse t settings root executables).value.schemes ↔
      (∃ x : Analysed t executables, x.Shows s) ∨ ∃ f : MetFile t root, NameShows f.name s := by
  rw [value_analyse]
  change s ∈ (Analysis.absorb _ _).schemes ↔ _
  rw [Analysis.mem_schemes_absorb, signalsUnder, Signals.followedBy, List.map_append, List.mem_append,
    mem_detections_signalsOf, mem_detections_signalsBelow h]
  exact or_iff_right List.not_mem_nil

/-- The flags of an analysis are those of its signals, for it starts with none. -/
theorem flags_analyse (settings : Settings) (executables : List Path) :
    (analyse t settings root executables).value.steamworks =
        (signalsUnder t settings root executables).steamworks ∧
      (analyse t settings root executables).value.online =
        (signalsUnder t settings root executables).online ∧
      (analyse t settings root executables).value.launcher =
        (signalsUnder t settings root executables).launcher := by
  rw [value_analyse, Analysis.absorb_eq]
  exact ⟨rfl, rfl, rfl⟩

theorem analyse_classified (settings : Settings) (executables : List Path)
    (h : t.isDirectory root.text = .ok true) :
    Classified t root executables (analyse t settings root executables).value where
  once := by
    have hstart : ({ executables := executables.length } : Analysis).schemes.Nodup := List.nodup_nil
    rw [value_analyse]
    exact Analysis.nodup_schemes_absorb hstart _
  never := by
    constructor <;>
    · rw [mem_schemes_analyse settings executables h]
      rintro (⟨x, hx⟩ | ⟨f, hf⟩)
      · exact hx
      · exact hf
  detected := mem_schemes_analyse settings executables h
  steamworks := by
    rw [(flags_analyse settings executables).1, signalsUnder, Signals.followedBy, Bool.or_eq_true,
      steamworks_signalsOf, steamworks_signalsBelow h]
    rfl
  online := by
    rw [(flags_analyse settings executables).2.1, signalsUnder, Signals.followedBy,
      online_signalsBelow h, Bool.or_false, online_signalsOf]
    rfl
  launcher := by
    rw [(flags_analyse settings executables).2.2, signalsUnder, Signals.followedBy,
      launcher_signalsOf, Bool.false_or, launcher_signalsBelow h]

/-- The survey of a directory classifies it by the files in directories that can be listed, whatever the main
executable, unless that is a path too long to be looked up. -/
theorem survey_classified {game : String} {main : Option String} (settings : Settings)
    (hroot : t.isDirectory (Path.ofText game).text = .ok true)
    (hmain : ∀ spelled ∈ main, ¬ t.IsTooLong (Path.ofText spelled).text) :
    ∃ executables result,
      chooseExecutables t main (findExecutables t settings (Path.ofText game)).value = .ok executables ∧
      survey t settings game main = .ok result ∧
      result.value.executables = executables.length ∧ result.value.errors = [] ∧
      Classified t (Path.ofText game) executables result.value := by
  obtain ⟨executables, hchoose⟩ :=
    chooseExecutables_of_looked (findExecutables t settings (Path.ofText game)).value hmain
  obtain ⟨result, hsurvey, hvalue⟩ := survey_of_directory hroot hchoose
  refine ⟨executables, result, hchoose, hsurvey, ?_, ?_, ?_⟩
  · rw [hvalue, value_analyse, Analysis.absorb_eq]
    rfl
  · rw [hvalue, value_analyse, Analysis.absorb_eq]
    rfl
  · rw [hvalue]
    exact analyse_classified settings executables hroot

/-- A game with a file of Denuvo. -/
def denuvoGame : FileTree where
  files := [(["g", "denuvo.txt"], ⟨#[0]⟩)]
  directories := [["g"]]

theorem isDirectory_denuvoGame : denuvoGame.isDirectory (Path.ofText "g").text = .ok true := rfl

theorem survey_classified_denuvoGame :
    ∃ executables result,
      chooseExecutables denuvoGame (some "game.exe")
        (findExecutables denuvoGame {} (Path.ofText "g")).value = .ok executables ∧
      survey denuvoGame {} "g" (some "game.exe") = .ok result ∧
      result.value.executables = executables.length ∧ result.value.errors = [] ∧
      Classified denuvoGame (Path.ofText "g") executables result.value := by
  have hfind : denuvoGame.find (Path.ofText "game.exe").text = .error (.system .notFound "game.exe") :=
    rfl
  refine survey_classified {} isDirectory_denuvoGame fun spelled hspelled => ?_
  obtain rfl := Option.some.inj hspelled
  rintro ⟨shown, hlong⟩
  rw [hfind] at hlong
  cases hlong

/-- Whether a survey of a directory misses a file of Denuvo that stands below it. -/
def OverlooksDenuvo (t : FileTree) (game : String) (main : Option String) : Prop :=
  t.isDirectory (Path.ofText game).text = .ok true ∧
    (∃ f : FileBelow t (Path.ofText game), NameShows f.name .denuvo) ∧
    ∃ result, survey t {} game main = .ok result ∧ .denuvo ∉ result.value.schemes

theorem nameShows_denuvo : NameShows "denuvo.txt" .denuvo := by
  have hlower : Text.lower "denuvo.txt" = "denuvo" ++ ".txt" := by decide +kernel
  rw [NameShows, hlower, String.toList_append]
  exact (List.prefix_append _ _).isInfix

theorem overlooksDenuvo_overlong : OverlooksDenuvo denuvoGame "g" (some Files.overlongName) := by
  obtain ⟨result, message, hsurvey, hvalue⟩ :
      ∃ result message, survey denuvoGame {} "g" (some Files.overlongName) = .ok result ∧
        result.value = { errors := [message] } :=
    survey_of_tooLong isDirectory_denuvoGame (Files.isTooLong_overlongName rfl)
  let file : FileBelow denuvoGame (Path.ofText "g") :=
    ⟨["g"], ["denuvo.txt"], ⟨#[0]⟩, rfl, by decide, List.mem_cons_self⟩
  refine ⟨isDirectory_denuvoGame, ⟨file, nameShows_denuvo⟩, result, hsurvey, ?_⟩
  rw [hvalue]
  exact List.not_mem_nil

/-- Where a walk meets nothing, nothing is detected. -/
theorem survey_of_walk_eq_nil {game : String} (settings : Settings) (hdistinct : (t.files.map Prod.fst).Nodup)
    (hroot : t.isDirectory (Path.ofText game).text = .ok true) (hnothing : t.walk (Path.ofText game) = []) :
    ∃ result, survey t settings game none = .ok result ∧ ∀ s, s ∉ result.value.schemes := by
  have hfound := findExecutables_of_walk_eq_nil settings hdistinct hroot hnothing
  have hchoose : chooseExecutables t none (findExecutables t settings (Path.ofText game)).value = .ok [] := by
    rw [hfound]
    rfl
  obtain ⟨result, hsurvey, hvalue⟩ := survey_of_directory hroot hchoose
  refine ⟨result, hsurvey, fun s => ?_⟩
  rw [hvalue, mem_schemes_analyse settings [] hroot]
  rintro (⟨x, -⟩ | ⟨f, -⟩)
  · exact List.not_mem_nil x.listed
  · have hmet := Files.mem_walk.mpr ⟨f, rfl⟩
    rw [hnothing] at hmet
    exact List.not_mem_nil hmet

theorem overlooksDenuvo_deep :
    OverlooksDenuvo (Files.deepTree "denuvo.txt") (Files.detourPath 818).text none := by
  have hshort : 5 * 818 + 1 < Files.pathSizeLimit := by decide
  have hroot := (Files.hasDetours_deepTree "denuvo.txt").isDirectory hshort
  have hnothing := Files.walk_deepTree hshort (by decide) "denuvo.txt"
  have hfile : ∃ f : FileBelow (Files.deepTree "denuvo.txt") (Files.detourPath 818), NameShows f.name .denuvo :=
    ⟨Files.deepFile "denuvo.txt" hshort, nameShows_denuvo⟩
  rw [← Files.ofText_text_detourPath] at hroot hnothing hfile
  obtain ⟨result, hsurvey, hnever⟩ := survey_of_walk_eq_nil {} (Files.nodup_deepTree _) hroot hnothing
  exact ⟨hroot, hfile, result, hsurvey, hnever .denuvo⟩

/-- A file of Denuvo is missed when the main executable cannot be looked up, and when the file stands in a
directory whose path is too long to be listed. -/
theorem survey_overlooksDenuvo :
    OverlooksDenuvo denuvoGame "g" (some Files.overlongName) ∧
      OverlooksDenuvo (Files.deepTree "denuvo.txt") (Files.detourPath 818).text none :=
  ⟨overlooksDenuvo_overlong, overlooksDenuvo_deep⟩

end PeSignals.Protection
