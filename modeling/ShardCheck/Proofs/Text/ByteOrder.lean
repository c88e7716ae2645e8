import Mathlib.Tactic.Common

/-!
# Texts in the order of their bytes

Texts are compared by code point, which is the same as comparing their UTF-8 encodings byte by byte:
of two different characters the encoding of the lesser one is less at a byte that both of them have.
-/

namespace ShardCheck.Text

def bytes (s : String) : List UInt8 := s.toByteArray.data.toList

lemma bytes_eq_flatMap (s : String) : bytes s = s.toList.flatMap String.utf8EncodeChar := by
  rw [bytes, ← String.utf8Encode_toList]
  simp [List.utf8Encode]

/-- Of different characters the encodings differ before either of them ends, so what follows does
not count. -/
lemma encodeChar_append_lt {c d : Char} (h : c < d) (x y : List UInt8) :
    String.utf8EncodeChar c ++ x < String.utf8EncodeChar d ++ y := by
  have hv : c.val.toNat < d.val.toNat := h
  have hd : d.val.toNat < 0x110000 := by
    rcases d.valid with h | h
    · exact Nat.lt_trans h (by decide)
    · exact h.2
  unfold String.utf8EncodeChar
  generalize c.val.toNat = v at *
  generalize d.val.toNat = w at *
  simp only
  -- one case for each pair of lengths; the lesser character never has the longer encoding
  repeat' split
  all_goals
    simp only [List.cons_append, List.nil_append, List.cons_lt_cons_iff, UInt8.lt_iff_toNat_lt,
      ← UInt8.toNat_inj, UInt8.toNat_ofNat']
    simp (disch := omega) only [Nat.mod_eq_of_lt]
    omega

lemma encode_lt {s t : List Char} (h : s < t) :
    s.flatMap String.utf8EncodeChar < t.flatMap String.utf8EncodeChar := by
  induction s generalizing t with
  | nil =>
    cases t with
    | nil => exact absurd h (List.lt_irrefl _)
    | cons d t =>
      obtain ⟨b, bs, hb⟩ := List.exists_cons_of_ne_nil (String.utf8EncodeChar_ne_nil (c := d))
      simp [hb]
  | cons c s ih =>
    cases t with
    | nil => simp at h
    | cons d t =>
      rw [List.flatMap_cons, List.flatMap_cons]
      rcases List.cons_lt_cons_iff.1 h with hcd | ⟨rfl, hst⟩
      · exact encodeChar_append_lt hcd _ _
      · exact List.append_left_lt (ih hst)

/-- The order of texts is the order of their bytes. -/
lemma lt_iff_bytes_lt (s t : String) : s < t ↔ bytes s < bytes t := by
  rw [String.lt_iff, bytes_eq_flatMap, bytes_eq_flatMap]
  refine ⟨encode_lt, fun h => ?_⟩
  by_contra hn
  rcases List.le_iff_lt_or_eq.1 (List.not_lt.1 hn) with hlt | heq
  · exact List.lt_asymm h (encode_lt hlt)
  · rw [heq] at h
    exact List.lt_irrefl _ h

end ShardCheck.Text
