/-!
# Severities

Five levels of findings, the most severe first.
-/
namespace PeSignals

/-- How much a finding matters. -/
inductive Severity
  | critical
  | high
  | medium
  | low
  | info
  deriving Repr, DecidableEq

namespace Severity

def all : List Severity := [critical, high, medium, low, info]

def label : Severity → String
  | critical => "CRITICAL"
  | high => "HIGH"
  | medium => "MEDIUM"
  | low => "LOW"
  | info => "INFO"

/-- The severity of a name, in capitals. -/
def ofLabel? (name : String) : Option Severity :=
  all.find? fun s => s.label = name

end Severity

end PeSignals
