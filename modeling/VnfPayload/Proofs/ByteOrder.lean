import VnfPayload.Template
import Mathlib.Data.String.Basic
import Mathlib.Tactic.SplitIfs

/-!
# The order of text is the order of its bytes

Versions are compared as text, character by character.  UTF-8 gives a greater character a
greater sequence of bytes, and none that begins with that of another character, so comparing
the bytes one by one comes to the same: `Text.lt_iff_bytes_lt`.
-/

namespace VnfPayload

namespace Text

/-- The bytes of the text in UTF-8. -/
def bytes (s : String) : List UInt8 :=
  s.toUTF8.data.toList

theorem bytes_eq (s : String) : bytes s = s.toList.flatMap String.utf8EncodeChar := by
  have hencode : s.toUTF8 = s.toList.utf8Encode := by
    rw [← String.toByteArray_ofList, String.ofList_toList]
    rfl
  rw [bytes, hencode, List.utf8Encode, List.data_toByteArray]

theorem ofNat_lt_ofNat_iff {m n : Nat} (hm : m < 256) (hn : n < 256) :
    UInt8.ofNat m < UInt8.ofNat n ↔ m < n := by
  rw [UInt8.lt_iff_toNat_lt, UInt8.toNat_ofNat_of_lt' hm, UInt8.toNat_ofNat_of_lt' hn]

theorem ofNat_eq_ofNat_iff {m n : Nat} (hm : m < 256) (hn : n < 256) :
    UInt8.ofNat m = UInt8.ofNat n ↔ m = n := by
  rw [← UInt8.toNat_inj, UInt8.toNat_ofNat_of_lt' hm, UInt8.toNat_ofNat_of_lt' hn]

/-- The bytes of a greater character are greater, whatever follows. -/
theorem encode_append_lt {c d : Char} (h : c < d) (cs ds : List UInt8) :
    String.utf8EncodeChar c ++ cs < String.utf8EncodeChar d ++ ds := by
  have hlt : c.val.toNat < d.val.toNat := h
  have hlast : d.val.toNat < 0x110000 := by
    rcases d.valid with hd | ⟨-, hd⟩
    · exact Nat.lt_trans hd (by decide)
    · exact hd
  unfold String.utf8EncodeChar
  dsimp only
  generalize c.val.toNat = v at hlt
  generalize d.val.toNat = w at hlt hlast
  -- Each byte holds six bits of what the next one leaves.
  have htwo : ∀ n : Nat, n / 4096 = n / 64 / 64 := fun n =>
    (Nat.div_div_eq_div_mul n 64 64).symm
  have hthree : ∀ n : Nat, n / 262144 = n / 64 / 64 / 64 := fun n => by
    rw [Nat.div_div_eq_div_mul, Nat.div_div_eq_div_mul]
  simp only [htwo, hthree]
  -- The number of bytes decides, and then the first byte in which they differ.
  split_ifs <;>
    simp (disch := omega) only [List.cons_append, List.cons_lt_cons_iff, ofNat_lt_ofNat_iff,
      ofNat_eq_ofNat_iff, Nat.add_lt_add_iff_right, Nat.add_right_cancel_iff] <;>
    omega

theorem append_lt_append_left_iff (bs cs ds : List UInt8) :
    bs ++ cs < bs ++ ds ↔ cs < ds := by
  induction bs with
  | nil =>
      rfl
  | cons b bs ih =>
      simp [ih]

theorem flatMap_encode_lt_iff (cs ds : List Char) :
    cs.flatMap String.utf8EncodeChar < ds.flatMap String.utf8EncodeChar ↔ cs < ds := by
  induction cs generalizing ds with
  | nil =>
      cases ds with
      | nil =>
          simp
      | cons d ds =>
          obtain ⟨b, bs, hcons⟩ :=
            List.exists_cons_of_ne_nil (String.utf8EncodeChar_ne_nil (c := d))
          rw [List.flatMap_cons, hcons]
          exact iff_of_true (List.nil_lt_cons b _) (List.nil_lt_cons d ds)
  | cons c cs ih =>
      cases ds with
      | nil =>
          simp
      | cons d ds =>
          rw [List.flatMap_cons, List.flatMap_cons, List.cons_lt_cons_iff]
          rcases lt_trichotomy c d with hlt | rfl | hlt
          · exact iff_of_true (encode_append_lt hlt _ _) (Or.inl hlt)
          · rw [append_lt_append_left_iff, ih]
            simp
          · refine iff_of_false (List.lt_asymm (encode_append_lt hlt _ _)) ?_
            rintro (hgt | ⟨rfl, -⟩)
            · exact lt_asymm hlt hgt
            · exact lt_irrefl _ hlt

/-- Text is ordered as its bytes are. -/
theorem lt_iff_bytes_lt (s t : String) : s < t ↔ bytes s < bytes t := by
  rw [bytes_eq, bytes_eq, flatMap_encode_lt_iff, String.lt_iff_toList_lt]

end Text

end VnfPayload
