import Mathlib
import PeSignals.Text.Blank

/-!
# Trimmed texts

Trimming leaves a text without blanks at its ends, leaves such a text alone, and keeps every character that
stands between two characters that are no blanks.
-/
namespace PeSignals.Text

/-! ## Characters in front -/

section Front

variable {p : Char → Bool} {cs : List Char}

theorem exists_mem_dropWhile (h : ∃ c ∈ cs, p c = false) : ∃ c ∈ cs.dropWhile p, p c = false := by
  obtain ⟨c, hc, hp⟩ := h
  rw [← List.takeWhile_append_dropWhile (p := p) (l := cs), List.mem_append] at hc
  rcases hc with hc | hc
  · rw [List.mem_takeWhile_imp hc] at hp
    exact Bool.noConfusion hp
  · exact ⟨c, hc, hp⟩

theorem head?_dropWhile_eq_false : ∀ c ∈ (cs.dropWhile p).head?, p c = false := by
  intro c hc
  have hhead := List.head?_dropWhile_not p cs
  rw [Option.mem_def.mp hc] at hhead
  exact hhead

/-- Dropping characters in front keeps the last one, as long as one is left. -/
theorem getLast?_dropWhile (h : cs.dropWhile p ≠ []) : (cs.dropWhile p).getLast? = cs.getLast? := by
  conv_rhs => rw [← List.takeWhile_append_dropWhile (p := p) (l := cs)]
  exact (List.getLast?_append_of_ne_nil _ h).symm

theorem dropWhile_eq_self (h : ∀ c ∈ cs.head?, p c = false) : cs.dropWhile p = cs := by
  cases cs with
  | nil => rfl
  | cons c rest => rw [List.dropWhile_cons_of_neg (by rw [h c rfl]; exact Bool.false_ne_true)]

end Front

/-! ## Characters that are kept -/

theorem exists_mem_trimChars {cs : List Char} (h : ∃ c ∈ cs, isBlank c = false) :
    ∃ c ∈ trimChars cs, isBlank c = false := by
  have hfront := exists_mem_dropWhile h
  have hback : ∃ c ∈ (cs.dropWhile isBlank).reverse, isBlank c = false := by
    simpa only [List.mem_reverse] using hfront
  simpa only [trimChars, List.mem_reverse] using exists_mem_dropWhile hback

/-- A character that is no blank is left. -/
theorem length_trim_pos {text : String} {c : Char} (hc : c ∈ text.toList) (h : isBlank c = false) :
    0 < (trim text).length := by
  obtain ⟨kept, hkept, -⟩ := exists_mem_trimChars ⟨c, hc, h⟩
  rw [trim, String.length_ofList]
  exact List.length_pos_of_mem hkept

/-! ## Both ends -/

/-- Whether neither the first nor the last character of a text is a blank. -/
structure IsTrimmed (text : String) : Prop where
  first : ∀ c ∈ text.toList.head?, isBlank c = false
  last : ∀ c ∈ text.toList.getLast?, isBlank c = false

theorem isTrimmed_empty : IsTrimmed "" := ⟨nofun, nofun⟩

theorem isTrimmed_trim (text : String) : IsTrimmed (trim text) := by
  have hlast : ∀ c ∈ (trimChars text.toList).getLast?, isBlank c = false := by
    rw [trimChars, List.getLast?_reverse]
    exact head?_dropWhile_eq_false
  refine ⟨?_, ?_⟩
  · rw [trim, String.toList_ofList]
    -- The first character is still that of the text without the blanks in front.
    intro c hc
    rw [trimChars, List.head?_reverse] at hc
    have hleft : (text.toList.dropWhile isBlank).reverse.dropWhile isBlank ≠ [] := by
      intro hnil
      rw [hnil] at hc
      cases hc
    rw [getLast?_dropWhile hleft, List.getLast?_reverse] at hc
    exact head?_dropWhile_eq_false c hc
  · rwa [trim, String.toList_ofList]

/-- A trimmed text stays as it is. -/
theorem IsTrimmed.trim_eq {text : String} (h : IsTrimmed text) : trim text = text := by
  have hfront : text.toList.dropWhile isBlank = text.toList := dropWhile_eq_self h.first
  have hback : text.toList.reverse.dropWhile isBlank = text.toList.reverse :=
    dropWhile_eq_self (by rw [List.head?_reverse]; exact h.last)
  rw [trim, trimChars, hfront, hback, List.reverse_reverse, String.ofList_toList]

/-- A text between two characters that are no blanks has none at its ends. -/
theorem trim_between {text : String} {first last : Char} {middle : List Char}
    (h : text.toList = first :: (middle ++ [last])) (hfirst : isBlank first = false)
    (hlast : isBlank last = false) : trim text = text := by
  have hend : text.toList.getLast? = some last := by
    rw [h, ← List.cons_append, List.getLast?_concat]
  refine IsTrimmed.trim_eq ⟨fun c hc => ?_, fun c hc => ?_⟩
  · rw [h] at hc
    cases hc
    exact hfirst
  · rw [hend] at hc
    cases hc
    exact hlast

end PeSignals.Text
