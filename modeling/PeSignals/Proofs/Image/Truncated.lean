import Mathlib
import PeSignals.Proofs.Image.Appended

/-!
# Imports of a file that was cut off

What is missing at the end of a file can only end a walk over its imports early. So the names that are
found in a beginning of the file are the first that are found in all of it.
-/
namespace PeSignals.Image

open Bytes (Cursor window)

theorem window_append_window (data : ByteArray) (m : Nat) :
    window data 0 m ++ window data m data.size = data := by
  apply ByteArray.ext
  simp only [window, ByteArray.data_append, ByteArray.data_extract, Array.extract_append_extract]
  simp [← ByteArray.size_data]

/-- A walk over the start of some data collects the start of its names. -/
theorem walkImports_goesOn {short more whole : ByteArray} (h : short ++ more = whole) (header : Header)
    (sections : List Section) (c : Cursor short) (other : Cursor whole) :
    (walkImports c header sections).GoesOn (walkImports other header sections) := by
  subst h
  exact walkImports_append more header sections c other

/-- A walk over the first bytes of a file finds the first of the libraries, and the first of the functions,
that a walk over all of it finds, in the same order and with the same repetitions. If the former was not
reported to have stopped, the latter finds nothing else and ends in the same way. -/
theorem walkImports_truncated (data : ByteArray) (m : Nat) (header : Header) (sections : List Section)
    (c : Cursor (window data 0 m)) (other : Cursor data) :
    let cut := walkImports c header sections
    let whole := walkImports other header sections
    cut.libraries.toList <+: whole.libraries.toList ∧ cut.functions.toList <+: whole.functions.toList ∧
      ((∀ line ∈ cut.diagnostic?.toList, Text.opensWith line "import walk stopped" = false) →
        whole = cut) := by
  intro cut whole
  have hgoes : cut.GoesOn whole :=
    walkImports_goesOn (window_append_window data m) header sections c other
  refine ⟨hgoes.libraries, hgoes.functions, fun hquiet => ?_⟩
  apply hgoes.same
  intro cause
  exact not_stopped_of_diagnostic hquiet cause

end PeSignals.Image
