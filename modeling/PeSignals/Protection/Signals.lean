import PeSignals.Config.Settings
import PeSignals.Decimal.Fixed
import PeSignals.Files.Walk
import PeSignals.Image.Content
import PeSignals.Image.File
import PeSignals.Log.Note
import PeSignals.Protection.Analysis
import PeSignals.Protection.Signature

/-!
# Signals of an executable

What one executable contributes to an analysis. The signals depend on the files and the settings
alone, never on the analysis they are added to; adding them only ever adds.
-/
namespace PeSignals.Protection

open Files (FileTree)
open Image (Traced)
open Log (Note)

/-- What an executable or a directory contributes. -/
structure Signals where
  detections : List Detection := []
  notes : List String := []
  steamPaths : List String := []
  steamworks : Bool := false
  online : Bool := false
  launcher : Bool := false
  deriving Repr, DecidableEq

/-- Adds signals to an analysis. -/
def Analysis.absorb (a : Analysis) (s : Signals) : Analysis :=
  let a := s.detections.foldl add a
  { a with
    notes := a.notes ++ s.notes
    steamPaths := a.steamPaths ++ s.steamPaths
    steamworks := a.steamworks || s.steamworks
    online := a.online || s.online
    launcher := a.launcher || s.launcher }

/-- A value with the notes made on the way to it. -/
structure Noted (α : Type) where
  value : α
  notes : List Note := []

/-- Diagnostic lines as notes. -/
def debugNotes (lines : List String) : List Note := lines.map Note.debug

/-- A test by section names first and by literals in the file second. -/
def sectionsOrLiterals (t : FileTree) (image : Image) (sections literals : List String) :
    Traced Bool :=
  if Signature.sectionNamed image sections then ⟨true, []⟩ else image.holdsAny t literals

/-- Whether a file with the suffix of SecuROM stands beside an executable; the line reports a
directory that cannot be listed. -/
def hasSecuRomSibling (t : FileTree) (path : Files.Path) : Traced Bool :=
  match t.list path.parent with
  | .ok names =>
    ⟨names.any fun name => Text.lower (Files.suffix name) = Signature.secuRomSuffix, []⟩
  | .error e => ⟨false, [s!"Could not list {path.parent.text}: {e.message}"]⟩

/-- Whether an executable shows SecuROM. -/
def showsSecuRom (t : FileTree) (image : Image) (path : Files.Path) : Traced Bool :=
  let sibling := hasSecuRomSibling t path
  if sibling.value then sibling
  else
    let literal := image.holdsAny t Signature.secuRomLiterals
    ⟨literal.value, sibling.diagnostics ++ literal.diagnostics⟩

/-- The entropies of an image's sections, or none when they are not to be measured. -/
def measuredEntropies (t : FileTree) (settings : Settings) (image : Image) :
    Traced (List (Image.Section × Float)) :=
  if settings.measureEntropy then (image.sectionEntropies t).toOption.getD ⟨[], []⟩ else ⟨[], []⟩

/-- The name of a section in notes. -/
def shownName (s : Image.Section) : String := if s.name = "" then "<unnamed>" else s.name

def overlayNote (file : String) (image : Image) : String :=
  s!"{file} has large overlay ({image.overlay / 1048576}MB) - may be packed"

def entropyNote (file : String) (s : Image.Section) (entropy : Float) : String :=
  s!"{file} section {shownName s} has entropy {Decimal.fixed entropy 2} - may be packed or encrypted"

def imageNotes (settings : Settings) (file : String) (image : Image)
    (entropies : List (Image.Section × Float)) : List String :=
  (if settings.isLargeOverlay image.overlay then [overlayNote file image] else []) ++
    (entropies.filter fun m => settings.isHighEntropy m.2).map fun m => entropyNote file m.1 m.2

def imageSignals (t : FileTree) (settings : Settings) (path : Files.Path) (image : Image) :
    Traced Signals :=
  let file := path.name
  let steam := Signature.importsAny image Signature.steamLibraries
  let bound := steam && (image.findSection? Signature.steamBindSection).isSome
  let denuvo := sectionsOrLiterals t image Signature.denuvoSections Signature.denuvoLiterals
  let themida := sectionsOrLiterals t image Signature.themidaSections Signature.themidaLiterals
  let secuRom := showsSecuRom t image path
  let entropies := measuredEntropies t settings image
  let when (found : Bool) (d : Detection) : List Detection := if found then [d] else []
  { value := {
      detections :=
        when steam ⟨.steamStub, s!"Steam API imports in {file}", .high⟩ ++
        when bound ⟨.steamCeg, s!"Steam CEG detected in {file}", .medium⟩ ++
        when denuvo.value ⟨.denuvo, s!"Denuvo Anti-Tamper in {file}", .medium⟩ ++
        when (Signature.showsVmProtect image) ⟨.vmProtect, s!"VMProtect in {file}", .medium⟩ ++
        when themida.value ⟨.themida, s!"Themida/WinLicense in {file}", .medium⟩ ++
        when secuRom.value ⟨.secuRom, s!"SecuROM in {file}", .medium⟩ ++
        when (Signature.importsAny image Signature.epicLibraries)
          ⟨.epicOnlineServices, s!"Epic Online Services in {file}", .high⟩ ++
        when (Signature.importsAny image Signature.eaLibraries)
          ⟨.eaOrigin, s!"EA Origin/App in {file}", .high⟩ ++
        when (Signature.importsAny image Signature.ubisoftLibraries)
          ⟨.ubisoftConnect, s!"Ubisoft Connect in {file}", .high⟩
      notes := imageNotes settings file image entropies.value
      steamworks := steam
      online := Signature.insistsOnConnection image }
    diagnostics := denuvo.diagnostics ++ themida.diagnostics ++ secuRom.diagnostics ++
      entropies.diagnostics }

/-- The signals of the executable at a path in a tree that may hold the log of the survey: `view` is the
tree once some notes have been logged. A file that is no image has no signals. -/
def executableSignalsIn (view : List Note → FileTree) (settings : Settings) (path : Files.Path) :
    Noted Signals :=
  let reading := Image.ofFile (view []) path.text
  match reading.outcome with
  | .refused r =>
    ⟨{}, debugNotes (reading.diagnostics ++ [s!"Skipping {path.text}: {r.detail}"])⟩
  | .image image =>
    let found := imageSignals (view (debugNotes reading.diagnostics)) settings path image
    ⟨found.value, debugNotes (reading.diagnostics ++ found.diagnostics)⟩

/-- The signals of the executable at a path in a tree that stays as it is. -/
def executableSignals (t : FileTree) (settings : Settings) (path : Files.Path) : Noted Signals :=
  executableSignalsIn (fun _ => t) settings path

end PeSignals.Protection
