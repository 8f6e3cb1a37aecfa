import Mathlib
import PeSignals.Text.Blank
import PeSignals.Text.Fragment

/-!
# Fragments as parts of texts

A fragment that is found somewhere in a text is a contiguous part of its characters, one found at its
start or its end is a part from the first character on or up to the last. Words are such parts too. A
fragment that has no digit lies on one side of a number.
-/
namespace PeSignals.Text

theorem holdsFragment_iff {fragment text : List Char} :
    holdsFragment fragment text = true ↔ fragment <:+: text := by
  induction text with
  | nil => rw [holdsFragment, List.isEmpty_iff, List.infix_nil]
  | cons c rest ih =>
    rw [holdsFragment, Bool.or_eq_true, List.isPrefixOf_iff_prefix, ih, List.infix_cons_iff]

theorem holds_iff {text fragment : String} :
    holds text fragment = true ↔ fragment.toList <:+: text.toList := holdsFragment_iff

theorem opensWith_iff {text fragment : String} :
    opensWith text fragment = true ↔ fragment.toList <+: text.toList := List.isPrefixOf_iff_prefix

theorem opensWith_append (text more : String) : opensWith (text ++ more) text = true := by
  rw [opensWith_iff, String.toList_append]
  exact List.prefix_append _ _

theorem closesWith_iff {text fragment : String} :
    closesWith text fragment = true ↔ fragment.toList <:+ text.toList := List.isSuffixOf_iff_suffix

theorem closesWith_append (text more : String) : closesWith (text ++ more) more = true := by
  rw [closesWith_iff, String.toList_append]
  exact List.suffix_append _ _

theorem infix_of_mem_wordsFrom {word cs : List Char} {found : String} (h : found ∈ wordsFrom word cs) :
    found.toList <:+: word.reverse ++ cs := by
  induction cs generalizing word with
  | nil =>
    rw [wordsFrom] at h
    split_ifs at h
    · exact absurd h List.not_mem_nil
    · rw [List.mem_singleton.mp h, String.toList_ofList, List.append_nil]
  | cons c rest ih =>
    have hrest (hmem : found ∈ wordsFrom [] rest) : found.toList <:+: word.reverse ++ c :: rest :=
      (ih hmem).trans ((List.suffix_cons c rest).trans (List.suffix_append _ _)).isInfix
    rw [wordsFrom] at h
    split_ifs at h
    · have hlonger := ih h
      rwa [List.reverse_cons, List.append_assoc] at hlonger
    · exact hrest h
    · rcases List.mem_cons.mp h with hword | hmem
      · rw [hword, String.toList_ofList]
        exact (List.prefix_append _ _).isInfix
      · exact hrest hmem

theorem infix_of_mem_words {text found : String} (h : found ∈ words text) :
    found.toList <:+: text.toList := infix_of_mem_wordsFrom h

/-! ## Fragments around numbers -/

/-- A fragment without a character lies before it or behind it. -/
theorem not_infix_append_cons {fragment before behind : List Char} {c : Char} (hc : c ∉ fragment)
    (hbefore : ¬ fragment <:+: before) (hbehind : ¬ fragment <:+: behind) :
    ¬ fragment <:+: before ++ c :: behind := by
  intro h
  rcases List.infix_append_iff.mp h with hin | hin | ⟨first, last, rfl, hfirst, hlast⟩
  · exact hbefore hin
  · rcases List.infix_cons_iff.mp hin with hstart | hin
    · rcases List.prefix_cons_iff.mp hstart with rfl | ⟨rest, rfl, -⟩
      · exact hbehind List.nil_infix
      · exact hc List.mem_cons_self
    · exact hbehind hin
  · rcases List.prefix_cons_iff.mp hlast with rfl | ⟨rest, rfl, -⟩
    · exact hbefore ((List.append_nil first).symm ▸ hfirst.isInfix)
    · exact hc (List.mem_append_right first List.mem_cons_self)

/-- A fragment that has no character of a word lies before the word or behind it. -/
theorem not_infix_append_word {fragment before word behind : List Char} (hsome : word ≠ [])
    (hword : ∀ c ∈ word, c ∉ fragment) (hbefore : ¬ fragment <:+: before)
    (hbehind : ¬ fragment <:+: behind) : ¬ fragment <:+: before ++ (word ++ behind) := by
  induction word generalizing before with
  | nil => exact absurd rfl hsome
  | cons c rest ih =>
    have hc : c ∉ fragment := hword c List.mem_cons_self
    refine not_infix_append_cons hc hbefore ?_
    by_cases hrest : rest = []
    · rw [hrest]
      exact hbehind
    · have hnil : ¬ fragment <:+: [] := fun h => hbefore (h.trans List.nil_infix)
      exact ih hrest (fun d hd => hword d (List.mem_cons_of_mem c hd)) hnil

theorem exists_digitChar_of_mem_toDigits {base n : Nat} (hbase : 1 < base) {c : Char}
    (h : c ∈ Nat.toDigits base n) : ∃ d, c = Nat.digitChar d := by
  induction n using Nat.strong_induction_on with
  | _ n ih =>
    by_cases hn : n < base
    · rw [Nat.toDigits_of_lt_base hn, List.mem_singleton] at h
      exact ⟨n, h⟩
    · have hle := Nat.not_lt.mp hn
      rw [Nat.toDigits_of_base_le hbase hle, List.mem_append, List.mem_singleton] at h
      rcases h with hfront | hlast
      · exact ih _ (Nat.div_lt_self (by omega) hbase) hfront
      · exact ⟨_, hlast⟩

end PeSignals.Text
