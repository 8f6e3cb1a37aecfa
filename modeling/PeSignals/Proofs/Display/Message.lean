import Mathlib
import PeSignals.Display.Console
import PeSignals.Proofs.Display.Legible

/-!
# Messages without tags

A message is shown in a style or behind a label in one. If none of its brackets opens a tag, then the only
tags are those of the style, and the terminal can read it.
-/
namespace PeSignals.Display

/-! ## Text without tags -/

/-- Whether every bracket is followed by a character that opens no tag. -/
def isTagFree : List Char → Bool
  | [] => true
  | c :: rest => (c ≠ '[' || rest.head?.any (!opensTag ·)) && isTagFree rest

theorem isTagFree_drop {cs : List Char} (h : isTagFree cs = true) (n : Nat) :
    isTagFree (cs.drop n) = true := by
  induction n generalizing cs with
  | zero => exact h
  | succ n ih =>
    cases cs with
    | nil => rfl
    | cons c rest =>
      rw [isTagFree, Bool.and_eq_true] at h
      exact ih h.2

theorem isTagFree_append {cs rest : List Char} (h : isTagFree cs = true) (hrest : isTagFree rest = true) :
    isTagFree (cs ++ rest) = true := by
  induction cs with
  | nil => exact hrest
  | cons c more ih =>
    rw [isTagFree, Bool.and_eq_true] at h
    rw [List.cons_append, isTagFree, ih h.2, Bool.and_true]
    cases more with
    | nil =>
      have hc : c ≠ '[' := by simpa using h.1
      rw [decide_eq_true hc, Bool.true_or]
    | cons next _ => exact h.1

/-- Text without tags starts none, whatever follows it. -/
theorem tag?_append {cs : List Char} (h : isTagFree cs = true) (hsome : cs ≠ []) (rest : List Char) :
    tag? (cs ++ rest) = none := by
  obtain ⟨c, more, rfl⟩ := List.exists_cons_of_ne_nil hsome
  rw [isTagFree, Bool.and_eq_true] at h
  by_cases hc : c = '['
  · subst hc
    cases more with
    | nil => simp at h
    | cons next more =>
      have hopens : opensTag next = false := by simpa using h.1
      rw [List.cons_append, tag?, List.cons_append, tagBody?]
      simp only [hopens]
  · rw [List.cons_append, tag?]
    intro more heq
    exact hc (List.cons.inj heq).1

/-! ## Parts of a text -/

variable {position left : Nat} {found : List Char}

/-- The backslashes that text without tags starts with, unless there is nothing else, lead to no tag. -/
theorem tag?_behind_backslashes {cs : List Char} (h : isTagFree cs = true)
    (hmore : cs.takeWhile (· = '\\') ≠ cs) (rest : List Char) :
    tag? ((cs ++ rest).drop ((cs ++ rest).takeWhile (· = '\\')).length) = none := by
  have hshort : (cs.takeWhile (· = '\\')).length ≠ cs.length := fun hlength =>
    hmore ((List.takeWhile_prefix _).eq_of_length hlength)
  have hlt : (cs.takeWhile (· = '\\')).length < cs.length :=
    lt_of_le_of_ne (List.takeWhile_prefix _).length_le hshort
  rw [List.takeWhile_append, if_neg hshort, List.drop_append_of_le_length hlt.le]
  refine tag?_append (isTagFree_drop h _) ?_ rest
  intro hnil
  have hlong := List.drop_eq_nil_iff.mp hnil
  omega

theorem partsFrom_cons {c : Char} {rest : List Char}
    (h : tag? ((c :: rest).drop ((c :: rest).takeWhile (· = '\\')).length) = none) :
    partsFrom position found (left + 1) (c :: rest) = partsFrom (position + 1) (c :: found) left rest := by
  rw [partsFrom]
  simp only [h]

/-- A tag ends the plain text before it. -/
theorem partsFrom_of_tag {rest body after : List Char} (h : tag? ('[' :: rest) = some (body, after)) :
    partsFrom position found (left + 1) ('[' :: rest) =
      .plain found.reverse :: .plain [] :: .tag (tagOf position body) ::
        partsFrom (position + body.length + 2) [] left after := by
  have hnone : ('[' :: rest).takeWhile (· = '\\') = [] := rfl
  rw [partsFrom]
  simp only [hnone, List.length_nil, List.drop_zero, h]
  rfl

/-- Text without tags is one plain part. -/
theorem partsFrom_of_isTagFree {cs : List Char} (h : isTagFree cs = true) (hleft : cs.length < left) :
    partsFrom position found left cs = [.plain (found.reverse ++ cs)] := by
  induction cs generalizing position left found with
  | nil =>
    obtain ⟨left, rfl⟩ := Nat.exists_eq_add_one.mpr hleft
    rw [partsFrom, List.append_nil]
  | cons c rest ih =>
    obtain ⟨left, rfl⟩ := Nat.exists_eq_add_one.mpr (Nat.zero_lt_of_lt hleft)
    have hnone : tag? ((c :: rest).drop ((c :: rest).takeWhile (· = '\\')).length) = none := by
      by_cases hsome : (c :: rest).drop ((c :: rest).takeWhile (· = '\\')).length = []
      · rw [hsome]
        rfl
      · have hdropped := tag?_append (isTagFree_drop h _) hsome []
        rwa [List.append_nil] at hdropped
    rw [isTagFree, Bool.and_eq_true] at h
    rw [partsFrom_cons hnone, ih h.2 (Nat.lt_of_succ_lt_succ hleft), List.reverse_cons, List.append_assoc]
    rfl

/-- Behind text without tags the next tag is read, unless the backslashes before it make it plain. -/
theorem partsFrom_append {cs rest body after : List Char} (h : isTagFree cs = true)
    (htag : tag? ('[' :: rest) = some (body, after)) (hleft : cs.length < left) :
    ∃ (before backslashes : List Char) (count place place' left' : Nat),
      partsFrom position found left (cs ++ '[' :: rest) =
        .plain before :: .plain backslashes :: partBehind count place body ::
          partsFrom place' [] left' after ∧ left ≤ left' + cs.length + 1 := by
  induction cs generalizing position left found with
  | nil =>
    obtain ⟨left, rfl⟩ := Nat.exists_eq_add_one.mpr hleft
    rw [List.nil_append, partsFrom_of_tag htag]
    exact ⟨_, _, 0, _, _, left, rfl, by simp⟩
  | cons c more ih =>
    obtain ⟨left, rfl⟩ := Nat.exists_eq_add_one.mpr (Nat.zero_lt_of_lt hleft)
    by_cases hmore : (c :: more).takeWhile (· = '\\') = c :: more
    · have hall : (c :: (more ++ '[' :: rest)).takeWhile (· = '\\') = c :: more := by
        rw [← List.cons_append, List.takeWhile_append, hmore, if_pos rfl]
        simp
      have hdrop : (c :: (more ++ '[' :: rest)).drop (c :: more).length = '[' :: rest := by
        rw [← List.cons_append, List.drop_left]
      rw [List.cons_append, partsFrom]
      simp only [hall, hdrop, htag]
      exact ⟨_, _, _, _, _, left, rfl, by simp⟩
    · have hnone := tag?_behind_backslashes h hmore ('[' :: rest)
      rw [isTagFree, Bool.and_eq_true] at h
      rw [List.cons_append] at hnone ⊢
      rw [partsFrom_cons hnone]
      obtain ⟨before, backslashes, count, place, place', left', hparts, hbound⟩ :=
        ih h.2 (Nat.lt_of_succ_lt_succ hleft)
      refine ⟨before, backslashes, count, place, place', left', hparts, ?_⟩
      rw [List.length_cons]
      omega

/-! ## Names of styles -/

/-- A word that is neither a trait nor a colour makes a text no style. -/
theorem withWord_of_unknown {style : String} (htrait : trait? style = none)
    (hcolour : isColour style = .ok false) : (({} : Style).withWord style).run = .ok none := by
  rw [Style.withWord, Style.withTrait, htrait]
  simp only [Option.map_none]
  rw [colour, hcolour]
  rfl

theorem tagOf_of_no_value {body : List Char} (h : '=' ∉ body) (position : Nat) :
    tagOf position body = ⟨String.ofList body, none, position⟩ := by
  have hname : body.takeWhile (· ≠ '=') = body := by
    rw [List.takeWhile_eq_self_iff]
    intro c hc
    simpa using fun heq : c = '=' => h (heq ▸ hc)
  simp only [tagOf, hname, Nat.lt_irrefl, if_false]

theorem tag?_of_body {c : Char} {more : List Char} (hc : opensTag c = true) (hclosing : ']' ∉ more)
    (hopening : '[' ∉ more) (after : List Char) :
    tag? ('[' :: c :: (more ++ ']' :: after)) = some (c :: more, after) := by
  have htake : (more ++ ']' :: after).takeWhile (fun next => next ≠ ']' && next ≠ '[') = more := by
    rw [List.takeWhile_append_of_pos]
    · simp
    · intro next hnext
      have hne : next ≠ ']' ∧ next ≠ '[' :=
        ⟨fun heq => hclosing (heq ▸ hnext), fun heq => hopening (heq ▸ hnext)⟩
      simpa using hne
  rw [tag?, tagBody?]
  simp only [htake, hc, List.drop_left]

/-- Whether a word is the name of a style that is none of the words that styles are made of. -/
structure IsStyleName (style : String) : Prop where
  words : Text.words style = [style]
  lower : Text.lower style = style
  stripped : Text.stripped style.toList = style.toList
  notNone : style ≠ "none"
  trait : trait? style = none
  colour : isColour style = .ok false
  noValue : '=' ∉ style.toList
  noClosing : ']' ∉ style.toList
  noOpening : '[' ∉ style.toList
  opens : ∃ c more, style.toList = c :: more ∧ opensTag c = true ∧ c ≠ '/'
  noHandler : style.startsWith "@" = false

namespace IsStyleName

variable {style : String}

theorem ofText_eq (h : IsStyleName style) : (Style.ofText style).run = .ok none := by
  rw [Style.ofText, h.words, if_neg (by simpa using h.notNone)]
  unfold Style.readWords
  rw [h.lower]
  split
  · next heq => cases heq
  · next heq => cases heq
  · next heq => cases heq
  · rw [OptionT.run_bind, withWord_of_unknown h.trait h.colour]
    rfl

/-- The names of the program's styles describe no style, so a tag keeps them as they are. -/
theorem normalStyle_eq (h : IsStyleName style) : normalStyle style = .ok style := by
  have hlower : Text.lower (String.ofList (Text.stripped style.toList)) = style := by
    rw [h.stripped, String.ofList_toList, h.lower]
  rw [normalStyle, h.ofText_eq]
  exact congrArg Except.ok hlower

theorem tag?_opening (h : IsStyleName style) (after : List Char) :
    tag? ('[' :: (style.toList ++ ']' :: after)) = some (style.toList, after) := by
  obtain ⟨c, more, hstyle, hc, -⟩ := h.opens
  have hclosing := h.noClosing
  have hopening := h.noOpening
  rw [hstyle, List.mem_cons, not_or] at hclosing hopening
  rw [hstyle]
  exact tag?_of_body hc hclosing.2 hopening.2 after

theorem tag?_closing (h : IsStyleName style) (after : List Char) :
    tag? ('[' :: '/' :: (style.toList ++ ']' :: after)) = some ('/' :: style.toList, after) :=
  tag?_of_body rfl h.noClosing h.noOpening after

theorem pass_opening (h : IsStyleName style) (s : Shown) (position : Nat) :
    s.pass (tagOf position style.toList) =
      .ok { s with opened := ⟨style, none, s.text.length⟩ :: s.opened } := by
  rw [tagOf_of_no_value h.noValue, String.ofList_toList, Shown.pass]
  split
  · next name hname =>
    obtain ⟨c, more, hstyle, -, hc⟩ := h.opens
    exact absurd (List.cons.inj (hstyle.symm.trans hname)).1 hc
  · rw [Shown.opening, h.normalStyle_eq]
    rfl

theorem openedBy_eq (h : IsStyleName style) {s : Shown} {start : Nat}
    (hopened : s.opened = [⟨style, none, start⟩]) (tag : Tag) :
    s.openedBy tag style.toList = .ok ⟨style, none, start⟩ := by
  have hsome : style.toList.isEmpty = false := by
    obtain ⟨c, more, hstyle, -⟩ := h.opens
    rw [hstyle]
    rfl
  have hfind : s.opened.find? (·.style = style) = some ⟨style, none, start⟩ := by
    rw [hopened, List.find?_cons_of_pos (by simp)]
  simp only [Shown.openedBy, h.stripped, hsome, Bool.false_eq_true, if_false, String.ofList_toList,
    h.normalStyle_eq, Except.mapError, bind, Except.bind, hfind]
  rfl

theorem closing_eq (h : IsStyleName style) {s : Shown} {start : Nat}
    (hopened : s.opened = [⟨style, none, start⟩]) :
    s.closing ⟨style, none, start⟩ =
      .ok { s with opened := [], spans := ⟨start, s.text.length, style⟩ :: s.spans } := by
  have hhandler : Opened.isHandler ⟨style, none, start⟩ = false := h.noHandler
  simp only [Shown.closing, hhandler, hopened, List.erase_cons_head]
  simp [Opened.text]
  rfl

theorem pass_closing (h : IsStyleName style) {s : Shown} {start : Nat}
    (hopened : s.opened = [⟨style, none, start⟩]) (position : Nat) :
    s.pass (tagOf position ('/' :: style.toList)) =
      .ok { s with opened := [], spans := ⟨start, s.text.length, style⟩ :: s.spans } := by
  have hvalue : '=' ∉ '/' :: style.toList := by
    intro hmem
    rcases List.mem_cons.mp hmem with heq | hmem
    · exact absurd heq (by decide)
    · exact h.noValue hmem
  have hname : (String.ofList ('/' :: style.toList)).toList = '/' :: style.toList := String.toList_ofList
  rw [tagOf_of_no_value hvalue, Shown.pass, hname]
  simp only [h.openedBy_eq hopened]
  exact h.closing_eq hopened

/-- Text in a style and text behind it show no style but that one, even if backslashes at the end of the
text make the closing tag plain. -/
theorem exists_behind (h : IsStyleName style) (before backslashes text backslashes' after : List Char)
    (place count place' : Nat) :
    ∃ s, Shown.behind {} [.plain before, .plain backslashes, .tag (tagOf place style.toList), .plain text,
        .plain backslashes', partBehind count place' ('/' :: style.toList), .plain after] = .ok s ∧
      ∀ span ∈ s.finish.spans, span.style = style := by
  simp only [Shown.behind, h.pass_opening]
  rw [partBehind]
  split_ifs
  · refine ⟨_, rfl, ?_⟩
    simp [Shown.finish, Opened.text]
  · have hclosing (s : Shown) (start : Nat) (hopened : s.opened = [⟨style, none, start⟩]) :=
      h.pass_closing hopened place'
    simp only [Shown.behind, bind, Except.bind]
    rw [hclosing _ _ rfl]
    refine ⟨_, rfl, ?_⟩
    simp [Shown.finish]

/-- A message shows all of its text in the one style that it opens. -/
theorem exists_shownOf (h : IsStyleName style) {markup : String} {text after : List Char}
    (hmarkup : markup.toList =
      '[' :: (style.toList ++ ']' :: (text ++ '[' :: '/' :: (style.toList ++ ']' :: after))))
    (htext : isTagFree text = true) (hafter : isTagFree after = true) :
    ∃ s, shownOf markup = .ok s ∧ ∀ span ∈ s.spans, span.style = style := by
  let closing := '/' :: (style.toList ++ ']' :: after)
  have hlength : (text ++ '[' :: closing).length < markup.length := by
    rw [← String.length_toList, hmarkup]
    simp only [closing, List.length_cons, List.length_append]
    omega
  have hcount : text.length + after.length + 3 ≤ (text ++ '[' :: closing).length := by
    simp only [closing, List.length_cons, List.length_append]
    omega
  obtain ⟨before, backslashes, count, place, place', left, hclosing, hleft⟩ :=
    @partsFrom_append (0 + style.toList.length + 2) markup.length [] text closing ('/' :: style.toList) after
      htext (h.tag?_closing after) (by omega)
  have hparts : partsOf markup = [.plain [], .plain [], .tag (tagOf 0 style.toList), .plain before,
      .plain backslashes, partBehind count place ('/' :: style.toList), .plain after] := by
    rw [partsOf, hmarkup, partsFrom_of_tag (h.tag?_opening _), hclosing,
      partsFrom_of_isTagFree hafter (by omega)]
    rfl
  obtain ⟨s, hbehind, hspans⟩ := h.exists_behind [] [] before backslashes after 0 count place
  exact ⟨s.finish, by rw [shownOf, hparts, hbehind]; rfl, hspans⟩

theorem check_of_spans (h : IsStyleName style) {s : Shown} (hspans : ∀ span ∈ s.spans, span.style = style) :
    s.check = .ok () := by
  rw [Shown.check, forM_eq_ok_iff]
  intro span hspan
  have hmem := (List.mem_filter.mp (List.mem_mergeSort.mp hspan)).1
  rw [hspans span hmem, h.ofText_eq]
  rfl

end IsStyleName

/-- A name with a dot can only be a colour by number. -/
theorem isColour_of_dot {word : String} (h : '.' ∈ word.toList) : isColour word = isNumberedColour word := by
  have hother : word ≠ "default" := by
    rintro rfl
    revert h
    decide
  have hname : (Text.words Text.Table.colourNames).contains word = false := by
    rw [← Bool.not_eq_true, List.contains_iff_mem]
    exact notMem_colourNames h (by decide)
  rw [isColour, hname, decide_eq_false hother]
  rfl

theorem isStyleName_of_mem {style : String} (h : style ∈ ["scan.info", "scan.success", "scan.critical"]) :
    IsStyleName style := by
  simp only [List.mem_cons, List.not_mem_nil, or_false] at h
  have hdot : '.' ∈ style.toList := by
    rcases h with rfl | rfl | rfl <;> decide
  constructor
  case colour =>
    rw [isColour_of_dot hdot]
    rcases h with rfl | rfl | rfl <;> decide
  case opens =>
    refine ⟨'s', style.toList.tail, ?_, by decide, by decide⟩
    rcases h with rfl | rfl | rfl <;> decide
  all_goals rcases h with rfl | rfl | rfl <;> decide +kernel

/-! ## Messages -/

/-- A line with a label in a style is read if neither the label nor the text behind it holds a tag. -/
theorem IsStyleName.check_line {style markup : String} (h : IsStyleName style) {label after : List Char}
    (hmarkup : markup.toList =
      '[' :: (style.toList ++ ']' :: (label ++ '[' :: '/' :: (style.toList ++ ']' :: after))))
    (hlabel : isTagFree label = true) (hafter : isTagFree after = true) : (line markup).check = .ok () := by
  obtain ⟨s, hshown, hspans⟩ := h.exists_shownOf hmarkup hlabel hafter
  have hdrawn : (Use.drawn markup).check = .ok () := by
    rw [Use.check, hshown]
    exact h.check_of_spans hspans
  refine forM_eq_ok_iff.mpr fun use huse => ?_
  rw [List.mem_singleton.mp huse]
  exact hdrawn

theorem isTagFree_behind_blank {message : String} (h : isTagFree message.toList = true) :
    isTagFree (' ' :: message.toList) = true := by
  rw [isTagFree, h]
  rfl

theorem check_info {message : String} (h : isTagFree message.toList = true) :
    (info message).check = .ok () := by
  have hname : IsStyleName "scan.info" := isStyleName_of_mem (by decide)
  have hlabel : isTagFree "[ℹ] INFO:".toList = true := by decide
  refine hname.check_line ?_ hlabel (isTagFree_behind_blank h)
  change ("[scan.info][ℹ] INFO:[/scan.info] " ++ message).toList = _
  simp

theorem check_critical {message : String} (h : isTagFree message.toList = true) :
    (critical message).check = .ok () := by
  have hname : IsStyleName "scan.critical" := isStyleName_of_mem (by decide)
  have hlabel : isTagFree "[☠] CRITICAL: ".toList = true := by decide
  have hmarkup : ("[scan.critical][☠] CRITICAL: " ++ message ++ "[/scan.critical]").toList =
      '[' :: ("scan.critical".toList ++ ']' :: ("[☠] CRITICAL: ".toList ++ message.toList ++
        '[' :: '/' :: ("scan.critical".toList ++ ']' :: []))) := by
    simp
  exact hname.check_line hmarkup (isTagFree_append hlabel h) rfl

end PeSignals.Display
