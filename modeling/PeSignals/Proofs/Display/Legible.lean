import Mathlib
import PeSignals.Display.Legible
import PeSignals.Proofs.Result
import PeSignals.Proofs.Text.Fragment

/-!
# What a terminal prints

A terminal prints events up to the first with a text whose markup it cannot read. So a single text in
faulty markup hides all that comes after it, and nothing of what comes before.
-/
namespace PeSignals.Display

/-! ## Reads of events -/

/-- Nothing is left undrawn exactly if every event can be read. -/
theorem fault_eq_none_iff {events : List Event} :
    (legible events).2 = none ↔ ∀ e ∈ events, e.check = .ok () := by
  induction events with
  | nil => exact iff_of_true rfl (List.forall_mem_nil _)
  | cons e rest ih =>
    rw [legible, List.forall_mem_cons, ← ih]
    cases e.check with
    | error fault => exact iff_of_false nofun nofun
    | ok _ => exact (and_iff_right rfl).symm

theorem legible_sublist (events : List Event) : (legible events).1.Sublist events := by
  induction events with
  | nil => exact List.Sublist.refl _
  | cons e rest ih =>
    rw [legible]
    cases e.check with
    | error fault => exact List.nil_sublist _
    | ok _ => exact ih.cons_cons e

theorem legible_eq_self {events : List Event} (h : (legible events).2 = none) :
    (legible events).1 = events := by
  induction events with
  | nil => rfl
  | cons e rest ih =>
    rw [legible] at h ⊢
    cases hread : e.check with
    | error fault => rw [hread] at h; cases h
    | ok _ =>
      rw [hread] at h
      exact congrArg (e :: ·) (ih h)

/-- Nothing is printed behind events that cannot be read to their end. -/
theorem legible_append_of_fault {events : List Event} (h : (legible events).2 ≠ none)
    (rest : List Event) : legible (events ++ rest) = legible events := by
  induction events with
  | nil => exact absurd rfl h
  | cons e more ih =>
    rw [List.cons_append, legible, legible]
    cases hread : e.check with
    | error fault => rfl
    | ok _ =>
      rw [legible, hread] at h
      simp only [ih h]

/-- An event that can be read is printed exactly if all that comes before it can be read too. -/
theorem mem_legible_iff {e : Event} (he : e.check = .ok ()) {events : List Event} :
    e ∈ (legible events).1 ↔ e ∈ events ∧ (legible (events.takeWhile (· ≠ e))).2 = none := by
  induction events with
  | nil => exact iff_of_false List.not_mem_nil fun h => List.not_mem_nil h.1
  | cons first rest ih =>
    by_cases hfirst : first = e
    · subst hfirst
      have hstops : (first :: rest).takeWhile (· ≠ first) = [] := by simp
      rw [legible, he, hstops]
      exact iff_of_true List.mem_cons_self ⟨List.mem_cons_self, rfl⟩
    · have hpasses : (first :: rest).takeWhile (· ≠ e) = first :: rest.takeWhile (· ≠ e) := by simp [hfirst]
      rw [legible, hpasses, legible]
      cases first.check with
      | error fault => exact iff_of_false List.not_mem_nil fun h => nomatch h.2
      | ok _ =>
        have hne : e ≠ first := fun h => hfirst h.symm
        simp only [List.mem_cons, hne, false_or]
        exact ih

/-! ## Texts that cannot be read -/

/-- Whether a text is in faulty markup. -/
def IsFaulty (markup : String) : Prop := ∃ fault, shownOf markup = .error fault

/-- A table is drawn as a whole, so one cell that cannot be read keeps it away. -/
theorem check_table_ne_ok {t : Table} {row : List String} {cell : String} (hrow : row ∈ t.rows)
    (hcell : cell ∈ row) (h : IsFaulty cell) : (Event.print [.table t]).check ≠ .ok () := by
  intro hread
  obtain ⟨fault, hfault⟩ := h
  have hdrawn : cell ∈ t.drawnTexts := by
    rw [Table.drawnTexts, List.mem_append, List.mem_append, List.mem_append]
    exact .inl (.inr (List.mem_flatten_of_mem hrow hcell))
  have huse : Use.drawn cell ∈ (Event.print [.table t]).uses := by
    rw [Event.uses, List.flatMap_singleton, Item.uses]
    exact List.mem_append_right _ (List.mem_map_of_mem hdrawn)
  have hcheck := forM_eq_ok_iff.mp hread _ huse
  rw [Use.check, hfault] at hcheck
  cases hcheck

/-- A tag for a style with a fault of its own is a fault of the text that it stands in. -/
theorem isFaulty_of_tag {markup : String} {before : List Char} {backslashes : List Char} {tag : Tag}
    {rest : List Part} {fault : ShareFault}
    (hparts : partsOf markup = .plain before :: .plain backslashes :: .tag tag :: rest)
    (hopens : tag.name.toList.head? ≠ some '/') (hstyle : normalStyle tag.name = .error fault) :
    IsFaulty markup := by
  refine ⟨.share fault, ?_⟩
  have hpass (s : Shown) : s.pass tag = .error (.share fault) := by
    rw [Shown.pass]
    split
    · next hname => exact absurd (by rw [hname]; rfl) hopens
    · rw [Shown.opening, hstyle]
      rfl
  rw [shownOf, hparts]
  simp only [Shown.behind, hpass]
  rfl

/-! ## Open styles -/

def Part.opens : Part → Bool
  | .plain _ => false
  | .tag t => t.name.toList.head? ≠ some '/'

set_option maxRecDepth 100000 in
theorem exists_colourNames :
    ∃ cs, Text.Table.colourNames = String.ofList cs ∧
      cs.all (fun c => c.isAlphanum || c.isWhitespace || c = '_') = true :=
  ⟨_, rfl, by decide⟩

/-- The names of colours are made of letters, digits and underscores. -/
theorem notMem_colourNames {word : String} {c : Char} (hc : c ∈ word.toList)
    (h : (c.isAlphanum || c.isWhitespace || c = '_') = false) :
    word ∉ Text.words Text.Table.colourNames := by
  intro hmem
  obtain ⟨cs, hnames, hall⟩ := exists_colourNames
  have hpart := Text.infix_of_mem_words hmem
  rw [hnames, String.toList_ofList] at hpart
  rw [List.all_eq_true.mp hall c (hpart.subset hc)] at h
  cases h

/-- A colour by its shares of red, green and blue is at fault if there are only the commas. -/
theorem normalStyle_emptyShares : normalStyle "rgb(,,)" = .error .empty := by
  have hwords : Text.words "rgb(,,)" = ["rgb(,,)"] := by decide
  have hlower : Text.lower "rgb(,,)" = "rgb(,,)" := by decide
  have htrait : ({} : Style).withTrait "rgb(,,)" true = none := by decide
  have hname : (Text.words Text.Table.colourNames).contains "rgb(,,)" = false := by
    rw [← Bool.not_eq_true, List.contains_iff_mem]
    exact notMem_colourNames (c := '(') (by decide) (by decide)
  have hcolour : isColour "rgb(,,)" = .error .empty := by
    rw [isColour, hname]
    rfl
  have hword : (({} : Style).withWord "rgb(,,)").run = .error .empty := by
    rw [Style.withWord, htrait, colour, hcolour]
    rfl
  have hstyle : (Style.ofText "rgb(,,)").run = .error .empty := by
    rw [Style.ofText, hwords, if_neg (by decide)]
    unfold Style.readWords
    rw [hlower]
    change (({} : Style).withWord "rgb(,,)" >>= fun s => s.readWords 1 []).run = _
    rw [OptionT.run_bind, hword]
    rfl
  rw [normalStyle, hstyle]
  rfl

end PeSignals.Display
