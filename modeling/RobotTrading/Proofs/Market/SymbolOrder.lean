import Mathlib.Data.Char
import RobotTrading.Market.Basic

/-!
# Symbols in byte order

Symbols are ordered by their texts, character by character, and a text is kept
as its UTF-8 bytes. The two orders agree: one symbol is below another exactly
when its bytes come first, byte by byte. UTF-8 writes a character as a lead byte
that grows with the number of bytes the character takes, followed by
continuation bytes that carry its code point six bits at a time, most
significant first. So the encodings of two characters differ at a byte that both
have, and there the smaller character has the smaller byte.

## Main statements

- `utf8EncodeChar_append_lt` — a smaller character encodes first, whatever follows.
- `flatMap_utf8EncodeChar_lt_iff` — lists of characters compare as their encodings.
- `Symbol.lt_iff_utf8_lt` — symbols compare as the UTF-8 bytes of their texts.
-/

namespace RobotTrading

/-- The encoding of a smaller character comes first, whatever follows either encoding: the two
    encodings differ at a byte they both have. -/
theorem utf8EncodeChar_append_lt {c d : Char} (h : c < d) (xs ys : List UInt8) :
    String.utf8EncodeChar c ++ xs < String.utf8EncodeChar d ++ ys := by
  have hc := c.valid
  have hd := d.valid
  have hlt : c.val.toNat < d.val.toNat := h
  simp only [UInt32.isValidChar, Nat.isValidChar] at hc hd
  simp only [String.utf8EncodeChar]
  -- one case per length of each encoding; in each, the bytes are compared as numbers
  split_ifs <;>
    simp (disch := omega) only [List.cons_append, List.nil_append, List.cons_lt_cons_iff,
      UInt8.lt_iff_toNat_lt, ← UInt8.toNat_inj, UInt8.toNat_ofNat', Nat.reducePow,
      Nat.mod_eq_of_lt] <;>
    omega

/-- Lists of characters compare as their UTF-8 encodings. -/
theorem flatMap_utf8EncodeChar_lt_iff (cs ds : List Char) :
    cs.flatMap String.utf8EncodeChar < ds.flatMap String.utf8EncodeChar ↔ cs < ds := by
  induction cs generalizing ds with
  | nil =>
    cases ds with
    | nil => simp
    | cons d ds =>
      have hne := @String.utf8EncodeChar_ne_nil d
      obtain ⟨b, bs, hb⟩ := List.exists_cons_of_ne_nil hne
      simp [hb]
  | cons c cs ih =>
    cases ds with
    | nil => simp
    | cons d ds =>
      rw [List.flatMap_cons, List.flatMap_cons, List.cons_lt_cons_iff]
      rcases lt_trichotomy c d with hcd | rfl | hdc
      · -- the first characters differ, and so do their encodings
        exact iff_of_true (utf8EncodeChar_append_lt hcd _ _) (.inl hcd)
      · -- a common first character is a common prefix of the encodings
        have hcancel : ∀ (p xs ys : List UInt8), p ++ xs < p ++ ys ↔ xs < ys := by
          intro p xs ys
          induction p with
          | nil => rfl
          | cons b p ihp => rw [List.cons_append, List.cons_append, List.cons_lt_cons_self, ihp]
        rw [hcancel, ih]
        simp
      · exact iff_of_false (List.lt_asymm (utf8EncodeChar_append_lt hdc _ _))
          (by simp [not_lt_of_gt hdc, ne_of_gt hdc])

namespace Symbol

/-- **Symbols compare as their bytes.** One symbol is below another exactly when the UTF-8 bytes
    of its text come first in the lexicographic order of bytes. -/
theorem lt_iff_utf8_lt (a b : Symbol) :
    a < b ↔ a.text.toByteArray.data.toList < b.text.toByteArray.data.toList := by
  have hbytes : ∀ s : String,
      s.toByteArray.data.toList = s.toList.flatMap String.utf8EncodeChar := by
    intro s
    rw [← String.utf8Encode_toList, List.utf8Encode, List.toList_data_toByteArray]
  rw [hbytes, hbytes, flatMap_utf8EncodeChar_lt_iff]
  rfl

end Symbol

end RobotTrading
