import Unmask.IL.UserString

/-!
# Laws of UTF-16

Splitting a unit sequence loses nothing: the units of the pieces, one after the other, are the
sequence. So a sequence that decodes is the encoding of its text. Nor does encoding lose anything:
the units of a character are read as that character whatever follows, so that a text is what its
encoding decodes to.
-/

namespace Unmask.Text.Utf16

/-- The units that make up a piece. -/
def Piece.units : Piece → List UInt16
  | .char c => encodeChar c
  | .lone u => [u]

theorem isHigh_iff {u : UInt16} : isHigh u ↔ 0xD800 ≤ u.toNat ∧ u.toNat ≤ 0xDBFF := by
  simp [isHigh, UInt16.le_iff_toNat_le]

theorem isLow_iff {u : UInt16} : isLow u ↔ 0xDC00 ≤ u.toNat ∧ u.toNat ≤ 0xDFFF := by
  simp [isLow, UInt16.le_iff_toNat_le]

theorem toNat_ofNat_of_valid {n : Nat} (h : n.isValidChar) : (Char.ofNat n).toNat = n := by
  rw [Char.ofNat, dif_pos h]
  rfl

theorem units_single (u : UInt16) : (single u).units = [u] := by
  unfold single
  split
  · rfl
  rename_i hplain
  have hbound := u.toNat_lt
  have hvalid : u.toNat.isValidChar := by
    simp only [Bool.or_eq_true, not_or, isHigh_iff, isLow_iff] at hplain
    unfold Nat.isValidChar
    omega
  have hsmall : u.toNat < 0x10000 := by omega
  simp [Piece.units, encodeChar, toNat_ofNat_of_valid hvalid, hsmall]

theorem encodeChar_pair {hi lo : UInt16} (hhi : isHigh hi) (hlo : isLow lo) :
    encodeChar (pair hi lo) = [hi, lo] := by
  rw [isHigh_iff] at hhi
  rw [isLow_iff] at hlo
  have hvalid : (0x10000 + (hi.toNat - 0xD800) * 0x400 + (lo.toNat - 0xDC00)).isValidChar := by
    unfold Nat.isValidChar
    omega
  have hlarge : ¬ 0x10000 + (hi.toNat - 0xD800) * 0x400 + (lo.toNat - 0xDC00) < 0x10000 := by omega
  have hfirst : 0xD800 + (0x10000 + (hi.toNat - 0xD800) * 0x400 + (lo.toNat - 0xDC00) - 0x10000) /
      0x400 = hi.toNat := by omega
  have hsecond : 0xDC00 + (0x10000 + (hi.toNat - 0xD800) * 0x400 + (lo.toNat - 0xDC00) - 0x10000) %
      0x400 = lo.toNat := by omega
  unfold encodeChar pair
  simp only [toNat_ofNat_of_valid hvalid, if_neg hlarge, hfirst, hsecond, UInt16.ofNat_toNat]

/-- The units of the pieces are the sequence they were split from. -/
theorem flatMap_units_pieces (us : List UInt16) : (pieces us).flatMap Piece.units = us := by
  induction us using pieces.induct with
  | case1 => rfl
  | case2 u => simp [pieces, units_single]
  | case3 u v rest hpair ih =>
    obtain ⟨hhi, hlo⟩ := Bool.and_eq_true_iff.1 hpair
    simp [pieces, hpair, ih, Piece.units, encodeChar_pair hhi hlo]
  | case4 u v rest hpair ih => simp [pieces, hpair, ih, units_single]

theorem mapM_char?_eq_some_iff {ps : List Piece} {cs : List Char} :
    ps.mapM Piece.char? = some cs ↔ ps = cs.map Piece.char := by
  induction ps generalizing cs with
  | nil => simp [eq_comm]
  | cons p rest ih =>
    rw [List.mapM_cons]
    cases p with
    | lone u => cases cs <;> simp [Piece.char?]
    | char c =>
      cases cs with
      | nil => simp [Piece.char?, Option.bind_eq_some_iff]
      | cons c' cs => simpa [Piece.char?, Option.bind_eq_some_iff, ih] using and_comm

/-- A sequence decodes exactly if its pieces are the characters of its text. -/
theorem decode_eq_some_iff {us : List UInt16} {cs : List Char} :
    decode us = some cs ↔ pieces us = cs.map Piece.char :=
  mapM_char?_eq_some_iff

/-- A sequence that decodes is the encoding of its text. -/
theorem encode_of_decode {us : List UInt16} {cs : List Char} (h : decode us = some cs) :
    encode cs = us := by
  have hunits : (cs.map Piece.char).flatMap Piece.units = us := by
    rw [← decode_eq_some_iff.1 h, flatMap_units_pieces]
  rwa [List.flatMap_map] at hunits

/-! ## From characters to units and back -/

theorem pieces_cons_of_not_isHigh {u : UInt16} (h : isHigh u = false) (us : List UInt16) :
    pieces (u :: us) = single u :: pieces us := by
  cases us with
  | nil => rfl
  | cons v rest => simp [pieces, h]

/-- The two units of a supplementary character are a pair, and the pair is the character. -/
theorem pair_of_supplementary {n : Nat} (hlow : 0x10000 ≤ n) (hhigh : n < 0x110000) :
    let hi := UInt16.ofNat (0xD800 + (n - 0x10000) / 0x400)
    let lo := UInt16.ofNat (0xDC00 + (n - 0x10000) % 0x400)
    isHigh hi ∧ isLow lo ∧ pair hi lo = Char.ofNat n := by
  intro hi lo
  have hhi : hi.toNat = 0xD800 + (n - 0x10000) / 0x400 :=
    UInt16.toNat_ofNat_of_lt (by simp only [UInt16.size]; omega)
  have hlo : lo.toNat = 0xDC00 + (n - 0x10000) % 0x400 :=
    UInt16.toNat_ofNat_of_lt (by simp only [UInt16.size]; omega)
  refine ⟨?_, ?_, ?_⟩
  · rw [isHigh_iff, hhi]
    omega
  · rw [isLow_iff, hlo]
    omega
  · rw [pair, hhi, hlo]
    exact congrArg Char.ofNat (by omega)

/-- The units of a character are read as the character, whatever follows. -/
theorem pieces_encodeChar_append (c : Char) (us : List UInt16) :
    pieces (encodeChar c ++ us) = .char c :: pieces us := by
  have hvalid : c.toNat < 0xD800 ∨ 0xDFFF < c.toNat ∧ c.toNat < 0x110000 := c.valid
  unfold encodeChar
  split
  · rename_i hsmall
    have hunit : (UInt16.ofNat c.toNat).toNat = c.toNat := UInt16.toNat_ofNat_of_lt hsmall
    have hhigh : isHigh (UInt16.ofNat c.toNat) = false := by
      rw [← Bool.not_eq_true, isHigh_iff, hunit]
      omega
    have hlow : isLow (UInt16.ofNat c.toNat) = false := by
      rw [← Bool.not_eq_true, isLow_iff, hunit]
      omega
    rw [List.singleton_append, pieces_cons_of_not_isHigh hhigh, single, hhigh, hlow, hunit,
      Char.ofNat_toNat]
    rfl
  · rename_i hlarge
    obtain ⟨hhigh, hlow, hpair⟩ := pair_of_supplementary (Nat.le_of_not_lt hlarge) (by omega)
    simp only [List.cons_append, List.nil_append, pieces, hhigh, hlow, Bool.and_self, if_true,
      hpair, Char.ofNat_toNat]

theorem pieces_encode (cs : List Char) : pieces (encode cs) = cs.map Piece.char := by
  induction cs with
  | nil => rfl
  | cons c rest ih =>
    rw [encode, List.flatMap_cons, pieces_encodeChar_append, List.map_cons, ← encode, ih]

/-- A text is what its encoding decodes to. -/
theorem decode_encode (cs : List Char) : decode (encode cs) = some cs :=
  decode_eq_some_iff.2 (pieces_encode cs)

end Unmask.Text.Utf16

namespace Unmask.UserString

theorem ofString_of_toString? {s : UserString} {text : String} (h : s.toString? = some text) :
    ofString text = s := by
  obtain ⟨cs, hcs, rfl⟩ := Option.map_eq_some_iff.1 h
  simp [ofString, Text.Utf16.encode_of_decode hcs]

theorem toString?_ofString (text : String) : (ofString text).toString? = some text := by
  simp [toString?, ofString, Text.Utf16.decode_encode]

end Unmask.UserString
