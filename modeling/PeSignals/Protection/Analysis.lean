import PeSignals.Protection.Verdict

/-!
# Analyses

Everything learned about one game. Detections are kept in order of discovery, and each scheme keeps
the first evidence found for it. The verdict is a field of its own: it is computed when asked for and
stays as it is when detections are added later.
-/
namespace PeSignals.Protection

/-- A detected scheme with the evidence that gave it away. -/
structure Detection where
  scheme : Scheme
  evidence : String := ""
  confidence : Confidence := .medium
  deriving Repr, DecidableEq

structure Analysis where
  detected : List Detection := []
  /-- Paths of Steam libraries found next to the game. -/
  steamPaths : List String := []
  notes : List String := []
  errors : List String := []
  steamworks : Bool := false
  launcher : Bool := false
  online : Bool := false
  /-- The number of executables looked at. -/
  executables : Nat := 0
  verdict : Verdict := {}
  deriving Repr, DecidableEq

namespace Analysis

/-- The detected schemes in order of discovery. -/
def schemes (a : Analysis) : List Scheme := a.detected.map (·.scheme)

def has (a : Analysis) (s : Scheme) : Bool := a.schemes.contains s

/-- Records a detection, unless its scheme has one. -/
def add (a : Analysis) (d : Detection) : Analysis :=
  if a.has d.scheme then a else { a with detected := a.detected ++ [d] }

/-- The more restrictive of two schemes, the first when they are equal. -/
def stricter (s t : Scheme) : Scheme := if s.rank < t.rank then t else s

def primary (a : Analysis) : Scheme :=
  match a.schemes with
  | [] => .unprotected
  | s :: rest => rest.foldl stricter s

/-- What the verdict depends on. -/
def facts (a : Analysis) : Facts where
  schemes := a.schemes
  steamworks := a.steamworks
  launcher := a.launcher
  online := a.online

/-- Computes the verdict from the present detections and flags. -/
def conclude (a : Analysis) : Analysis := { a with verdict := Verdict.of a.facts }

def note (a : Analysis) (text : String) : Analysis := { a with notes := a.notes ++ [text] }

end Analysis

def Detection.toJson (d : Detection) : Json :=
  .object [("type", .string d.scheme.label), ("evidence", .string d.evidence),
    ("confidence", .int d.confidence.value)]

def Analysis.toJson (a : Analysis) : Json :=
  .object [
    ("detected", .array (a.detected.map Detection.toJson)),
    ("steam_api_paths", .strings a.steamPaths),
    ("analysis_notes", .strings a.notes),
    ("analysis_errors", .strings a.errors),
    ("has_steamworks_integration", .bool a.steamworks),
    ("requires_launcher", .bool a.launcher),
    ("requires_online", .bool a.online),
    ("executables_analyzed", .int a.executables),
    ("is_goldberg_compatible", .bool a.verdict.compatible),
    ("compatibility_score", .float a.verdict.score.toFloat),
    ("compatibility_reason", .string a.verdict.reason),
    ("recommendation", .string a.verdict.packaging.label)]

end PeSignals.Protection
