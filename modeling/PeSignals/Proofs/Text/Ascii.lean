import Mathlib
import PeSignals.Proofs.Bytes.Suffix
import PeSignals.Text.Ascii
import PeSignals.Text.Lowercase

/-!
# Bytes and characters of the seven-bit range

Folding works byte by byte, so it commutes with cutting and joining. A character of seven bits is the
character of its byte, and one that is its own lower-case form stays in every text that is lower-cased.
-/
namespace PeSignals.Text.Ascii

open Bytes (suffix suffix_eq_nil suffix_eq_cons)

theorem suffix_foldFrom (data folded : ByteArray) (i left : Nat) (h : i + left = data.size) :
    suffix (foldFrom data i folded left) 0 = suffix folded 0 ++ (suffix data i).map foldByte := by
  induction left generalizing i folded with
  | zero =>
    rw [foldFrom, suffix_eq_nil data (by omega), List.map_nil, List.append_nil]
  | succ left ih =>
    have hi : i < data.size := by omega
    rw [foldFrom, dif_pos hi, ih _ (i + 1) (by omega), suffix_eq_cons data hi, List.map_cons]
    simp [suffix]

theorem suffix_fold (data : ByteArray) (i : Nat) :
    suffix (fold data) i = (suffix data i).map foldByte := by
  have h := suffix_foldFrom data (ByteArray.emptyWithCapacity data.size) 0 data.size (by omega)
  have he : suffix (ByteArray.emptyWithCapacity data.size) 0 = [] := rfl
  rw [he, List.nil_append] at h
  rw [← Nat.zero_add i, ← Bytes.drop_suffix, fold, h, ← List.map_drop, Bytes.drop_suffix]

theorem toNat_toByte {c : Char} (h : c.toNat < 128) : (toByte c).toNat = c.toNat := by
  rw [toByte, if_pos h, UInt8.toNat_ofNat']
  omega

theorem ofByte_toByte {c : Char} (h : c.toNat < 128) : ofByte (toByte c) = c := by
  have hb : toByte c < 128 := UInt8.lt_iff_toNat_lt.mpr (by rw [toNat_toByte h]; exact h)
  rw [ofByte, if_pos hb, toNat_toByte h, Char.ofNat_toNat]

theorem toByte_ne_zero {c : Char} (h : c ≠ Char.ofNat 0) : toByte c ≠ 0 := by
  intro hzero
  by_cases hc : c.toNat < 128
  · have hn := congrArg UInt8.toNat hzero
    rw [toNat_toByte hc] at hn
    exact h (by rw [← Char.ofNat_toNat c, hn]; rfl)
  · rw [toByte, if_neg hc] at hzero
    exact absurd hzero (by decide)

end PeSignals.Text.Ascii

namespace PeSignals.Text

/-- A character without case survives; the sigma and the dotted capital depend on more than one character.
-/
theorem mem_lowerFrom {c : Char} (hkept : lowerChar c = c) (hsigma : c ≠ 'Σ') (hdotted : c ≠ 'İ')
    {before cs : List Char} (h : c ∈ cs) : c ∈ lowerFrom before cs := by
  fun_induction lowerFrom before cs with
  | case1 => exact h
  | case2 before rest ih =>
    exact List.mem_cons_of_mem _ (ih ((List.mem_cons.mp h).resolve_left hsigma))
  | case3 before rest ih =>
    exact List.mem_cons_of_mem _ (List.mem_cons_of_mem _ (ih ((List.mem_cons.mp h).resolve_left hdotted)))
  | case4 before d rest _ _ ih =>
    rcases List.mem_cons.mp h with rfl | hrest
    · rw [hkept]
      exact List.mem_cons_self
    · exact List.mem_cons_of_mem _ (ih hrest)

/-- Lower-casing leaves every slash in a path. -/
theorem slash_mem_lower {text : String} (h : '/' ∈ text.toList) : '/' ∈ (lower text).toList := by
  rw [lower, String.toList_ofList]
  exact mem_lowerFrom (by decide) (by decide) (by decide) h

end PeSignals.Text
