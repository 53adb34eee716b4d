import Mathlib.Data.List.Lex
import Mathlib.Data.String.Basic

/-! The order of texts. Texts are compared by code point, and it makes no difference to compare the bytes
of their encodings: a smaller code point has no more bytes, and where it has as many, its first byte that
is different is smaller. -/
namespace ColumnQuery.Text

/-- The bytes of a text in UTF-8. -/
def bytes (text : String) : List UInt8 :=
  text.toUTF8.data.toList

theorem bytes_eq_flatMap (text : String) :
    bytes text = text.toList.flatMap String.utf8EncodeChar := by
  rw [bytes, String.toUTF8_eq_toByteArray, ← String.utf8Encode_toList, List.utf8Encode,
    List.data_toByteArray]

section Order

variable {m n : Nat} {rest other : List UInt8}

/-- The first byte that is less decides. -/
theorem byte_decides (less : m < n) (fits : n < 256) :
    UInt8.ofNat m :: rest < UInt8.ofNat n :: other := by
  refine List.cons_lt_cons_iff.mpr (.inl (UInt8.lt_iff_toNat_lt.mpr ?_))
  rw [UInt8.toNat_ofNat', UInt8.toNat_ofNat']
  omega

theorem byte_allows (atMost : m ≤ n) (fits : n < 256) (later : m = n → rest < other) :
    UInt8.ofNat m :: rest < UInt8.ofNat n :: other := by
  rcases Nat.lt_or_eq_of_le atMost with less | same
  · exact byte_decides less fits
  · subst same
    exact List.cons_lt_cons_iff.mpr (.inr ⟨rfl, later rfl⟩)

/-- The encoding of a smaller character comes first, whatever follows either. -/
theorem encoded_lt {c d : Char} (smaller : c < d) (rest other : List UInt8) :
    String.utf8EncodeChar c ++ rest < String.utf8EncodeChar d ++ other := by
  have order : c.val.toNat < d.val.toNat := smaller
  have bound : d.val.toNat < 0x110000 := by
    have valid := d.valid
    simp only [UInt32.isValidChar, Nat.isValidChar] at valid
    omega
  simp only [String.utf8EncodeChar]
  generalize c.val.toNat = v at *
  generalize d.val.toNat = w at *
  -- one case for each pair of lengths: a smaller character is not longer, and the first byte tells
  -- lengths apart
  split_ifs <;> try omega
  all_goals first | exact byte_decides (by omega) (by omega) | skip
  · exact byte_allows (by omega) (by omega) fun first => byte_decides (by omega) (by omega)
  · exact byte_allows (by omega) (by omega) fun first =>
      byte_allows (by omega) (by omega) fun second => byte_decides (by omega) (by omega)
  · exact byte_allows (by omega) (by omega) fun first =>
      byte_allows (by omega) (by omega) fun second =>
        byte_allows (by omega) (by omega) fun third => byte_decides (by omega) (by omega)

/-- Texts and their bytes are in one order. -/
theorem flatMap_encoded_lt {cs ds : List Char} (smaller : cs < ds) :
    cs.flatMap String.utf8EncodeChar < ds.flatMap String.utf8EncodeChar := by
  induction cs generalizing ds with
  | nil =>
    cases ds with
    | nil => cases smaller
    | cons d ds =>
      have size : 0 < (String.utf8EncodeChar d).length := by
        rw [String.length_utf8EncodeChar]
        exact d.utf8Size_pos
      rw [List.flatMap_nil, List.flatMap_cons]
      cases encoded : String.utf8EncodeChar d with
      | nil => simp [encoded] at size
      | cons byte others => exact .nil
  | cons c cs ih =>
    cases ds with
    | nil => cases smaller
    | cons d ds =>
      rw [List.flatMap_cons, List.flatMap_cons]
      rcases List.cons_lt_cons_iff.mp smaller with less | ⟨rfl, following⟩
      · exact encoded_lt less _ _
      · exact List.append_left_lt (ih following)

/-- The order of code points is the order of bytes. -/
theorem lt_iff_bytes_lt {first second : String} : first < second ↔ bytes first < bytes second := by
  have forward {first second : String} (smaller : first < second) : bytes first < bytes second := by
    rw [bytes_eq_flatMap, bytes_eq_flatMap]
    exact flatMap_encoded_lt (String.lt_iff_toList_lt.mp smaller)
  refine ⟨forward, fun smaller => ?_⟩
  rcases lt_trichotomy first second with less | rfl | greater
  · exact less
  · exact absurd smaller (List.lt_irrefl _)
  · exact absurd (forward greater) (List.lt_asymm smaller)

end Order

end ColumnQuery.Text
