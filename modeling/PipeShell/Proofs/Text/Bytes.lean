import Mathlib.Tactic.Common
import PipeShell.Text.Bytes

/-!
# Encoded text

A text is encoded character by character, and reading its bytes gives it back. A line feed is among
the bytes only if it is among the characters.
-/

namespace PipeShell.Text

theorem encode_eq_flatMap (s : String) : encode s = s.toList.flatMap String.utf8EncodeChar := by
  have hs : encode (String.ofList s.toList) = s.toList.flatMap String.utf8EncodeChar := by
    simp only [encode, String.toUTF8_eq_toByteArray, String.toByteArray_ofList, List.utf8Encode,
      List.data_toByteArray]
  rwa [String.ofList_toList] at hs

theorem encode_append (s t : String) : encode (s ++ t) = encode s ++ encode t := by
  simp [encode, String.toUTF8]

theorem decode?_encode (s : String) : decode? (encode s) = some s := by
  have hb : (⟨(encode s).toArray⟩ : ByteArray) = s.toByteArray := by
    simp [encode, String.toUTF8]
  rw [decode?, hb, String.fromUTF8?, dif_pos s.isValidUTF8]
  rfl

theorem ofNat_ne_feed {n : Nat} (h : n % 256 ≠ 10) : UInt8.ofNat n ≠ 0x0A := by
  intro he
  refine h ?_
  rw [← UInt8.toNat_ofNat', he]
  rfl

theorem feed_notMem_utf8EncodeChar {c : Char} (hc : c ≠ '\n') :
    0x0A ∉ String.utf8EncodeChar c := by
  have hmax : c.val.toNat < 0x110000 := by
    rcases c.valid with hc | hc
    · omega
    · exact hc.2
  have hne : c.val.toNat ≠ 10 := fun he => hc (Char.toNat_inj.1 he)
  simp only [String.utf8EncodeChar]
  generalize c.val.toNat = n at hmax hne ⊢
  -- all bytes of a longer encoding are 0x80 or more
  split_ifs <;> simp only [List.mem_cons, List.not_mem_nil, or_false, not_or]
  · exact (ofNat_ne_feed (by omega)).symm
  · exact ⟨(ofNat_ne_feed (by omega)).symm, (ofNat_ne_feed (by omega)).symm⟩
  · exact ⟨(ofNat_ne_feed (by omega)).symm, (ofNat_ne_feed (by omega)).symm,
      (ofNat_ne_feed (by omega)).symm⟩
  · exact ⟨(ofNat_ne_feed (by omega)).symm, (ofNat_ne_feed (by omega)).symm,
      (ofNat_ne_feed (by omega)).symm, (ofNat_ne_feed (by omega)).symm⟩

theorem feed_notMem_encode {s : String} (hs : '\n' ∉ s.toList) : 0x0A ∉ encode s := by
  rw [encode_eq_flatMap, List.mem_flatMap]
  rintro ⟨c, hc, hm⟩
  exact feed_notMem_utf8EncodeChar (fun he => hs (he ▸ hc)) hm

end PipeShell.Text
