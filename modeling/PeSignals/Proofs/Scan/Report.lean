import Mathlib
import PeSignals.Scan.Report

/-!
# Counts in reports

A report counts its findings by severity, and the counts add up to the number of findings.
-/
namespace PeSignals

/-- Whether the counts by severity in a report add up to the number of findings in it. -/
def Json.CountsAddUp (report : Json) : Prop :=
  ∃ (counts : List (String × Nat)) (findings : List Json),
    report.get? "severity_counts" = some (.object (counts.map fun c => (c.1, .int c.2))) ∧
      report.get? "findings" = some (.array findings) ∧ (counts.map (·.2)).sum = findings.length

namespace Scan

theorem count_one_of_all (s : Severity) :
    (Severity.all.map fun other => if s = other then 1 else 0).sum = 1 := by
  cases s <;> rfl

/-- Every finding is counted under one severity. -/
theorem sum_counts (findings : List Finding) :
    (Severity.all.map fun s => findings.countP fun f => f.severity = s).sum = findings.length := by
  induction findings with
  | nil => rfl
  | cons f rest ih =>
    simp only [List.countP_cons, decide_eq_true_eq]
    rw [List.sum_map_add, ih, count_one_of_all, List.length_cons]

variable {α : Type}

end Scan

end PeSignals
