import Mathlib
import PeSignals.Proofs.Finding.Given

/-!
# Findings after a history

Fields of a finding may be assigned any values in any order and as often as one likes. Every assignment is
checked, so a finding that was made with checks stays one that they let through: its lengths fit, nothing
blank stands at the ends of its texts, and making a finding anew from its fields gives it back.
-/
namespace PeSignals

namespace Finding

/-! ## Fields -/

/-- A field of a finding. -/
inductive Part
  | severity
  | title
  | description
  | evidence
  | recommendation

def Part.name : Part → String
  | severity => "severity"
  | title => "title"
  | description => "description"
  | evidence => "evidence"
  | recommendation => "recommendation"

def value (f : Finding) : Part → Json
  | .severity => .string f.severity.label
  | .title => .string f.title
  | .description => .string f.description
  | .evidence => .string f.evidence
  | .recommendation => .string f.recommendation

/-- A finding after an assignment. One that is refused leaves the finding as it was. -/
def assigned (f : Finding) (part : Part) (j : Json) : Finding :=
  match f.assign part.name j with
  | .ok g => g
  | .error _ => f

def after (f : Finding) (history : List (Part × Json)) : Finding :=
  history.foldl (fun f (part, j) => f.assigned part j) f

/-! ## Well-formed findings -/

/-- Whether a finding keeps the rules of its fields. -/
structure IsWellFormed (f : Finding) : Prop where
  severity : f.severity.label ∈ ["CRITICAL", "HIGH", "MEDIUM", "LOW", "INFO"]
  titleLength : 1 ≤ f.title.length ∧ f.title.length ≤ 256
  descriptionLength : 1 ≤ f.description.length
  title : Text.IsTrimmed f.title
  description : Text.IsTrimmed f.description
  evidence : Text.IsTrimmed f.evidence
  recommendation : Text.IsTrimmed f.recommendation

theorem label_mem (s : Severity) : s.label ∈ ["CRITICAL", "HIGH", "MEDIUM", "LOW", "INFO"] := by
  cases s <;> decide

theorem isTrimmed_of_readText {least : Nat} {limit : Option Nat} {j : Json} {text : String}
    (h : readText least limit j = .ok text) : Text.IsTrimmed text := by
  obtain ⟨given, -, rfl, -⟩ := readText_eq_ok_iff.mp h
  exact Text.isTrimmed_trim given

theorem length_of_readTitle {j : Json} {title : String} (h : readTitle j = .ok title) :
    1 ≤ title.length ∧ title.length ≤ 256 := by
  obtain ⟨-, -, -, hleast, hlimit⟩ := readText_eq_ok_iff.mp h
  exact ⟨hleast, hlimit titleLimit rfl⟩

theorem length_of_readDescription {j : Json} {description : String}
    (h : readDescription j = .ok description) : 1 ≤ description.length := by
  obtain ⟨-, -, -, hleast, -⟩ := readText_eq_ok_iff.mp h
  exact hleast

theorem isTrimmed_of_readEvidence {j : Json} {evidence : String} (h : readEvidence j = .ok evidence) :
    Text.IsTrimmed evidence := by
  obtain ⟨-, rfl⟩ := readEvidence_eq_ok_iff.mp h
  exact Text.isTrimmed_trim _

theorem exists_read_of_required {α : Type} {fields : Json} {name : String}
    {read : Json → Except FieldRule α} {a : α} (h : Field.required fields name read = .ok a) :
    ∃ j, read j = .ok a := by
  unfold Field.required at h
  split at h
  · next j _ => exact ⟨j, h⟩
  · cases h

/-- A field that is left out has its default. -/
theorem exists_read_of_optional {α : Type} {fields : Json} {name : String}
    {read : Json → Except FieldRule α} {other a : α} (h : Field.optional fields name read other = .ok a) :
    a = other ∨ ∃ j, read j = .ok a := by
  unfold Field.optional at h
  split at h
  · next j _ => exact .inr ⟨j, h⟩
  · cases h
    exact .inl rfl

/-- However a finding is made, it keeps the rules of its fields. -/
theorem isWellFormed_of_create {fields : Json} {f : Finding} (h : create fields = .ok f) :
    f.IsWellFormed := by
  obtain ⟨-, htitle, hdescription, hevidence, hrecommendation⟩ := create_eq_ok_iff.mp h
  obtain ⟨title, htitle⟩ := exists_read_of_required htitle
  obtain ⟨description, hdescription⟩ := exists_read_of_required hdescription
  refine ⟨label_mem f.severity, length_of_readTitle htitle, length_of_readDescription hdescription,
    isTrimmed_of_readText htitle, isTrimmed_of_readText hdescription, ?_, ?_⟩
  · rcases exists_read_of_optional hevidence with hdefault | ⟨evidence, hevidence⟩
    · rw [hdefault]
      exact Text.isTrimmed_empty
    · exact isTrimmed_of_readEvidence hevidence
  · rcases exists_read_of_optional hrecommendation with hdefault | ⟨recommendation, hrecommendation⟩
    · rw [hdefault]
      exact Text.isTrimmed_empty
    · exact isTrimmed_of_readText hrecommendation

/-! ## One assignment -/

theorem put_eq_ok_iff {α : Type} {name : String} {value : Except FieldRule α} {update : α → Finding}
    {g : Finding} : put name value update = .ok g ↔ ∃ a, value = .ok a ∧ g = update a := by
  cases value with
  | error rule => exact iff_of_false nofun nofun
  | ok a =>
    constructor
    · rintro ⟨⟩
      exact ⟨a, rfl, rfl⟩
    · rintro ⟨_, ⟨⟩, rfl⟩
      rfl

/-- What an accepted assignment does: the value was read by the rule of the field, and the result of the
reading stands in it. -/
theorem assign_eq_ok_iff {f g : Finding} {part : Part} {j : Json} :
    f.assign part.name j = .ok g ↔
      match part with
      | .severity => ∃ s, readSeverity j = .ok s ∧ g = { f with severity := s }
      | .title => ∃ text, readTitle j = .ok text ∧ g = { f with title := text }
      | .description => ∃ text, readDescription j = .ok text ∧ g = { f with description := text }
      | .evidence => ∃ text, readEvidence j = .ok text ∧ g = { f with evidence := text }
      | .recommendation =>
        ∃ text, readRecommendation j = .ok text ∧ g = { f with recommendation := text } := by
  cases part with
  | evidence => exact @put_eq_ok_iff _ "evidence" (readEvidence j) (fun text => { f with evidence := text }) g
  | severity | title | description | recommendation => exact put_eq_ok_iff

theorem isWellFormed_of_assign {f g : Finding} (h : f.IsWellFormed) {part : Part} {j : Json}
    (hg : f.assign part.name j = .ok g) : g.IsWellFormed := by
  have hread := assign_eq_ok_iff.mp hg
  -- The rules of the other fields do not mention the one that is assigned.
  cases part with
  | severity =>
    obtain ⟨s, -, rfl⟩ := hread
    exact { h with severity := label_mem s }
  | title =>
    obtain ⟨text, htext, rfl⟩ := hread
    exact { h with titleLength := length_of_readTitle htext, title := isTrimmed_of_readText htext }
  | description =>
    obtain ⟨text, htext, rfl⟩ := hread
    exact { h with
      descriptionLength := length_of_readDescription htext
      description := isTrimmed_of_readText htext }
  | evidence =>
    obtain ⟨text, htext, rfl⟩ := hread
    exact { h with evidence := isTrimmed_of_readEvidence htext }
  | recommendation =>
    obtain ⟨text, htext, rfl⟩ := hread
    exact { h with recommendation := isTrimmed_of_readText htext }

/-- An assignment touches no other field. -/
theorem value_of_assign {f g : Finding} {part other : Part} {j : Json}
    (hg : f.assign part.name j = .ok g) (hother : other ≠ part) : g.value other = f.value other := by
  have hread := assign_eq_ok_iff.mp hg
  cases part with
  | severity | title | description | evidence | recommendation =>
    obtain ⟨_, -, rfl⟩ := hread
    cases other <;> first | rfl | exact absurd rfl hother

theorem assigned_of_ok {f g : Finding} {part : Part} {j : Json} (hg : f.assign part.name j = .ok g) :
    f.assigned part j = g := by
  rw [assigned, hg]

/-- A refused assignment changes nothing. -/
theorem assigned_of_error {f : Finding} {part : Part} {j : Json} {refused : Refused}
    (h : f.assign part.name j = .error refused) : f.assigned part j = f := by
  rw [assigned, h]

theorem isWellFormed_assigned {f : Finding} (h : f.IsWellFormed) (part : Part) (j : Json) :
    (f.assigned part j).IsWellFormed := by
  cases hassign : f.assign part.name j with
  | ok g =>
    rw [assigned_of_ok hassign]
    exact isWellFormed_of_assign h hassign
  | error refused =>
    rw [assigned_of_error hassign]
    exact h

theorem isWellFormed_after {f : Finding} (h : f.IsWellFormed) (history : List (Part × Json)) :
    (f.after history).IsWellFormed := by
  induction history generalizing f with
  | nil => exact h
  | cons step rest ih => exact ih (isWellFormed_assigned h step.1 step.2)

/-! ## The values of a well-formed finding -/

namespace IsWellFormed

variable {f : Finding} (h : f.IsWellFormed)

include h

theorem make_eq : make f.severity f.title f.description (.string f.evidence) f.recommendation = f := by
  simp only [make, evidenceText, Json.plainText, h.title.trim_eq, h.description.trim_eq,
    h.evidence.trim_eq, h.recommendation.trim_eq]

theorem titleFits : TitleFits f.title := by
  rw [TitleFits, h.title.trim_eq]
  exact h.titleLength

theorem trim_description_pos : 0 < (Text.trim f.description).length := by
  rw [h.description.trim_eq]
  exact h.descriptionLength

/-- Making a finding anew from the fields of a well-formed one gives it back. -/
theorem create_toJson : create f.toJson = .ok f :=
  (create_given f.severity f.recommendation h.titleFits h.trim_description_pos
    (isWritable_string f.evidence)).trans (congrArg Except.ok h.make_eq)

/-- What a well-formed finding holds in a field may be assigned to that field of any finding. -/
theorem exists_assign_value (other : Finding) (part : Part) :
    ∃ g, other.assign part.name (f.value part) = .ok g ∧ g.value part = f.value part := by
  have htitle := readTitle_of_fits h.titleFits
  have hdescription := readDescription_of_pos h.trim_description_pos
  have hrecommendation := readRecommendation_eq f.recommendation
  rw [h.title.trim_eq] at htitle
  rw [h.description.trim_eq] at hdescription
  rw [h.recommendation.trim_eq] at hrecommendation
  cases part with
  | severity => exact ⟨_, assign_eq_ok_iff.mpr ⟨_, readSeverity_label f.severity, rfl⟩, rfl⟩
  | title => exact ⟨_, assign_eq_ok_iff.mpr ⟨_, htitle, rfl⟩, rfl⟩
  | description => exact ⟨_, assign_eq_ok_iff.mpr ⟨_, hdescription, rfl⟩, rfl⟩
  | evidence =>
    have hevidence : readEvidence (f.value .evidence) = .ok (Text.trim f.evidence) :=
      readEvidence_eq_ok_iff.mpr ⟨isWritable_string f.evidence, rfl⟩
    rw [h.evidence.trim_eq] at hevidence
    exact ⟨_, assign_eq_ok_iff.mpr ⟨_, hevidence, rfl⟩, rfl⟩
  | recommendation => exact ⟨_, assign_eq_ok_iff.mpr ⟨_, hrecommendation, rfl⟩, rfl⟩

end IsWellFormed

/-! ## Histories -/

/-- Whether a finding is well formed, can be made anew from its fields, and keeps to its rules in the next
assignment. -/
structure IsKept (f : Finding) : Prop where
  wellFormed : f.IsWellFormed
  remade : create f.toJson = .ok f
  refused : ∀ (part : Part) (j : Json) (refused : Refused),
    f.assign part.name j = .error refused → f.assigned part j = f
  accepted : ∀ (part : Part) (j : Json) (g : Finding), f.assign part.name j = .ok g →
    f.assigned part j = g ∧ ∀ other, other ≠ part → g.value other = f.value other
  /-- Of two findings either one takes what the other holds. -/
  takes : ∀ (other : Finding) (part : Part), other.IsWellFormed →
    ∃ g, f.assign part.name (other.value part) = .ok g ∧ g.value part = other.value part

/-- A finding that was made with checks is kept in form by them, whatever is assigned to its fields. -/
theorem isKept_after {fields : Json} {made : Finding} (h : create fields = .ok made)
    (history : List (Part × Json)) : (made.after history).IsKept := by
  have hform : (made.after history).IsWellFormed := isWellFormed_after (isWellFormed_of_create h) history
  exact {
    wellFormed := hform
    remade := hform.create_toJson
    refused := fun _ _ _ hrefused => assigned_of_error hrefused
    accepted := fun _ _ _ hg => ⟨assigned_of_ok hg, fun _ hother => value_of_assign hg hother⟩
    takes := fun _ part hother => hother.exists_assign_value (made.after history) part }

/-- A title of blanks is refused and so is a severity in small letters; a title between blanks is taken without
them, and a list as evidence becomes its text. -/
theorem isKept_after_blanks :
    let fields : Json := .object [("title", .string " large overlay\n"), ("severity", .string "LOW"),
      ("description", .string "bytes behind the last section"), ("evidence", .null),
      ("unknown", .bool true)]
    let made := make .low "large overlay" "bytes behind the last section" (.string "None")
    let history : List (Part × Json) := [(.title, .string " \t "), (.evidence, .array [.int 1, .null]),
      (.title, .string "\u00a0overlay "), (.severity, .string "low")]
    create fields = .ok made ∧
      made.after history =
        make .low "overlay" "bytes behind the last section" (.string "[1, null]") ∧
      (made.after history).IsKept := by
  intro fields made history
  have hmade : create fields = .ok made := by decide +kernel
  exact ⟨hmade, by decide +kernel, isKept_after hmade history⟩

end Finding

end PeSignals
