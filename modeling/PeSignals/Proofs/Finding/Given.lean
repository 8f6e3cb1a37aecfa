import Mathlib
import PeSignals.Finding.Basic
import PeSignals.Proofs.Text.Trimmed

/-!
# Findings that are given

A finding that is made without checks is the one that the checks let through, as long as something is left
of its title and its description once the blanks at their ends are gone.
-/
namespace PeSignals

namespace Severity

theorem ofLabel?_label (s : Severity) : ofLabel? s.label = some s := by
  cases s <;> decide

end Severity

namespace Finding

/-- The values from which a finding is made. -/
def given (severity : Severity) (title description : String) (evidence : Json) (recommendation : String) :
    Json :=
  .object [("severity", .string severity.label), ("title", .string title),
    ("description", .string description), ("evidence", evidence),
    ("recommendation", .string recommendation)]

/-- Whether a title fits once it is trimmed. -/
def TitleFits (title : String) : Prop :=
  0 < (Text.trim title).length ∧ (Text.trim title).length ≤ titleLimit

instance (title : String) : Decidable (TitleFits title) :=
  inferInstanceAs (Decidable (_ ∧ _))

theorem readText_eq_ok_iff {least : Nat} {limit : Option Nat} {j : Json} {text : String} :
    readText least limit j = .ok text ↔ ∃ given, j = .string given ∧ text = Text.trim given ∧
      least ≤ text.length ∧ ∀ most ∈ limit, text.length ≤ most := by
  constructor
  · intro h
    unfold readText at h
    split at h
    · next given =>
      dsimp only at h
      split_ifs at h with hshort hlong
      cases h
      refine ⟨given, rfl, rfl, not_lt.mp hshort, fun most hmost => not_lt.mp fun hless => hlong ?_⟩
      rw [Option.mem_def.mp hmost, Option.any_some, decide_eq_true hless]
    · cases h
  · rintro ⟨given, rfl, rfl, hleast, hlimit⟩
    have hlong : ¬ (limit.any (· < (Text.trim given).length)) = true := by
      rw [Option.any_eq_true]
      rintro ⟨most, hmost, hless⟩
      exact absurd (hlimit most hmost) (not_le.mpr (of_decide_eq_true hless))
    rw [readText, if_neg (not_lt.mpr hleast), if_neg hlong]

theorem readTitle_of_fits {title : String} (h : TitleFits title) :
    readTitle (.string title) = .ok (Text.trim title) := by
  refine readText_eq_ok_iff.mpr ⟨title, rfl, rfl, h.1, ?_⟩
  rintro _ ⟨⟩
  exact h.2

theorem readDescription_of_pos {description : String} (h : 0 < (Text.trim description).length) :
    readDescription (.string description) = .ok (Text.trim description) :=
  readText_eq_ok_iff.mpr ⟨description, rfl, rfl, h, nofun⟩

theorem readRecommendation_eq (recommendation : String) :
    readRecommendation (.string recommendation) = .ok (Text.trim recommendation) :=
  readText_eq_ok_iff.mpr ⟨recommendation, rfl, rfl, Nat.zero_le _, nofun⟩

theorem readSeverity_label (s : Severity) : readSeverity (.string s.label) = .ok s := by
  have hread : (Json.string s.label).text?.bind Severity.ofLabel? = some s := s.ofLabel?_label
  rw [readSeverity, hread]

/-- A finding is made exactly if each of its fields can be read. -/
theorem create_eq_ok_iff {fields : Json} {f : Finding} :
    create fields = .ok f ↔
      Field.required fields "severity" readSeverity = .ok f.severity ∧
      Field.required fields "title" readTitle = .ok f.title ∧
      Field.required fields "description" readDescription = .ok f.description ∧
      Field.optional fields "evidence" readEvidence "" = .ok f.evidence ∧
      Field.optional fields "recommendation" readRecommendation "" = .ok f.recommendation := by
  constructor
  · intro h
    unfold create at h
    dsimp only at h
    split at h
    · next hseverity htitle hdescription hevidence hrecommendation =>
      cases h
      exact ⟨hseverity, htitle, hdescription, hevidence, hrecommendation⟩
    · cases h
  · rintro ⟨hseverity, htitle, hdescription, hevidence, hrecommendation⟩
    rw [create, hseverity, htitle, hdescription, hevidence, hrecommendation]

theorem readEvidence_eq_ok_iff {j : Json} {text : String} :
    readEvidence j = .ok text ↔ j.isWritable = true ∧ text = Text.trim (evidenceText j) := by
  rw [readEvidence]
  split_ifs with hwritable
  · rw [and_iff_right hwritable, Except.ok.injEq, eq_comm]
  · exact iff_of_false nofun fun h => hwritable h.1

theorem isWritable_string (text : String) : (Json.string text).isWritable = true := by
  rw [Json.isWritable]

/-- Making a finding without checks is making it with checks. -/
theorem create_given (severity : Severity) {title description : String} {evidence : Json}
    (recommendation : String) (htitle : TitleFits title)
    (hdescription : 0 < (Text.trim description).length) (hevidence : evidence.isWritable = true) :
    create (given severity title description evidence recommendation) =
      .ok (make severity title description evidence recommendation) :=
  create_eq_ok_iff.mpr ⟨readSeverity_label severity, readTitle_of_fits htitle,
    readDescription_of_pos hdescription, readEvidence_eq_ok_iff.mpr ⟨hevidence, rfl⟩,
    readRecommendation_eq recommendation⟩

/-- Whether the checks let a finding through. -/
def IsAccepted (f : Finding) : Prop := ∃ fields, create fields = .ok f

theorem isAccepted_make (severity : Severity) {title description : String} (evidence : Json)
    (recommendation : String) (htitle : TitleFits title) {c : Char} (hc : c ∈ description.toList)
    (hblank : Text.isBlank c = false) :
    (make severity title description evidence recommendation).IsAccepted := by
  -- Evidence of any kind is held as its text, and a text is writable.
  have hcreate := create_given severity recommendation htitle (Text.length_trim_pos hc hblank)
    (isWritable_string (evidenceText evidence))
  exact ⟨_, hcreate⟩

end Finding

end PeSignals
