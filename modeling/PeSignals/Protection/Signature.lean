import PeSignals.Image.Basic
import PeSignals.Text.Fragment

/-!
# Signatures

The library names, section names, literals and file names by which schemes are recognised. All of
them are lower case and compared with lower-cased names.
-/
namespace PeSignals.Protection.Signature

/-- Libraries of the Steam programming interface. -/
def steamLibraries : List String := ["steam_api.dll", "steam_api64.dll"]

/-- Libraries of the Steam client. -/
def steamClientLibraries : List String := ["steamclient.dll", "steamclient64.dll"]

/-- The section that binds an executable to a Steam account. -/
def steamBindSection : String := ".bind"

def vmProtectLibraries : List String := ["vmprotectsdk32.dll", "vmprotectsdk64.dll"]

def epicLibraries : List String := ["eossdk-win64-shipping.dll", "eossdk-win32-shipping.dll"]

def eaLibraries : List String := ["origin.dll", "eadesktopbridge.dll"]

def ubisoftLibraries : List String := ["uplay_r1_loader.dll", "upc.dll"]

/-- Fragments of section names that Denuvo leaves. -/
def denuvoSections : List String := [".arch", "denuvo"]

/-- Literals that Denuvo leaves. -/
def denuvoLiterals : List String := ["denuvo", "irdeto"]

def themidaSections : List String := ["themida", "winlicen", ".taggant"]

def themidaLiterals : List String := ["themida", "winlicense"]

def secuRomLiterals : List String := ["securom", "sony dadc"]

/-- The suffix of the files that SecuROM ships beside an executable. -/
def secuRomSuffix : String := ".cms"

def vmProtectSections : List String := ["vmp"]

/-- Fragments of names of functions that insist on a connection. -/
def onlineFunctions : List String :=
  ["onlineauthentication", "connectionrequired", "offlineprohibited"]

/-- Fragments of names of executables that are not the game: helpers, installers and the like. -/
def helperFragments : List String :=
  ["unins", "redist", "setup", "vcredist", "dxsetup", "directx", "reporter"]

/-- Beginnings of names of crash handlers. -/
def helperBeginnings : List String := ["crashhandler", "unitycrashhandler"]

/-- Fragments of names of launchers. -/
def launcherFragments : List String := ["launcher", "start"]

/-- Whether a text holds one of several fragments. -/
def holdsAny (text : String) (fragments : List String) : Bool :=
  fragments.any (Text.holds text ·)

def importsAny (image : Image) (libraries : List String) : Bool :=
  libraries.any (image.importsLibrary ·)

def sectionNamed (image : Image) (fragments : List String) : Bool :=
  image.sections.any fun s => holdsAny (Text.lower s.name) fragments

def showsVmProtect (image : Image) : Bool :=
  sectionNamed image vmProtectSections || importsAny image vmProtectLibraries

/-- Whether an image imports a function that insists on a connection. -/
def insistsOnConnection (image : Image) : Bool :=
  image.functions.any fun function => holdsAny (Text.lower function) onlineFunctions

def isHelper (name : String) : Bool :=
  holdsAny name helperFragments || helperBeginnings.any (Text.opensWith name ·)

/-- Whether a lower-cased file name is that of an executable of the game. -/
def isGameExecutable (name : String) : Bool :=
  Text.closesWith name ".exe" && !isHelper name

def isLauncherStem (stem : String) : Bool :=
  stem = "game" || holdsAny stem launcherFragments

end PeSignals.Protection.Signature
