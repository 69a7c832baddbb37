import Unmask.Proofs.Text.Utf16

/-!
# Surrogates by their places

A surrogate is paired if it is a high one with a low one right after it, or the low one of these;
whether it is can be seen at its place. The pieces of a unit sequence, which are found by reading
from the left, have the unpaired surrogates for their lone ones: `marked_pieces`. So exactly the
sequences without an unpaired surrogate are texts, and the lossy text of any sequence has its units,
but for a U+FFFD in the place of each unpaired surrogate: `UserString.utf16_container`.
-/

namespace Unmask.Text.Utf16

def isSurrogate (u : UInt16) : Bool := isHigh u || isLow u

theorem not_isHigh_of_isLow {u : UInt16} (h : isLow u) : isHigh u = false := by
  rw [isLow_iff] at h
  rw [← Bool.not_eq_true, isHigh_iff]
  omega

/-- A high surrogate stands at this place, and a low one right after it. -/
def startsPair (us : List UInt16) (i : Nat) : Bool :=
  match us[i]?, us[i + 1]? with
  | some hi, some lo => isHigh hi && isLow lo
  | _, _ => false

/-- The unit at this place is one of the two of a pair. -/
def isPaired (us : List UInt16) : Nat → Bool
  | 0 => startsPair us 0
  | i + 1 => startsPair us (i + 1) || startsPair us i

/-- An unpaired surrogate stands at this place. -/
def isLone (us : List UInt16) (i : Nat) : Bool := us[i]?.any isSurrogate && !isPaired us i

/-- Every surrogate is paired. -/
def WellPaired (us : List UInt16) : Prop :=
  ∀ i u, us[i]? = some u → isSurrogate u → isPaired us i

theorem wellPaired_iff {us : List UInt16} :
    WellPaired us ↔ ∀ i < us.length, isLone us i = false := by
  constructor
  · intro h i hi
    have hunit := List.getElem?_eq_getElem hi
    have hpaired := h i us[i] hunit
    cases hsurrogate : isSurrogate us[i] with
    | false => simp [isLone, hunit, hsurrogate]
    | true => simp [isLone, hpaired hsurrogate]
  · intro h i u hunit hsurrogate
    have hlone := h i (List.getElem?_eq_some_iff.1 hunit).1
    simpa [isLone, hunit, hsurrogate] using hlone

/-! ## Places in a longer sequence -/

section Places

variable {u : UInt16} {us : List UInt16}

@[simp] theorem startsPair_cons_succ (i : Nat) :
    startsPair (u :: us) (i + 1) = startsPair us i := by
  simp [startsPair]

/-- A unit in front that starts no pair does not matter. -/
theorem isLone_cons_succ (h : startsPair (u :: us) 0 = false) (i : Nat) :
    isLone (u :: us) (i + 1) = isLone us i := by
  have hpaired : isPaired (u :: us) (i + 1) = isPaired us i := by
    cases i with
    | zero => simp [isPaired, h]
    | succ i => simp [isPaired]
  simp [isLone, hpaired]

/-- The unit in front does not matter to the places after the next. -/
theorem isLone_cons_add_two (i : Nat) : isLone (u :: us) (i + 2) = isLone us (i + 1) := by
  simp [isLone, isPaired]

theorem isLone_cons_zero (h : startsPair (u :: us) 0 = false) :
    isLone (u :: us) 0 = isSurrogate u := by
  simp [isLone, isPaired, h]

end Places

/-! ## Places and pieces -/

def Piece.isLone : Piece → Bool
  | .char _ => false
  | .lone _ => true

/-- The units of a piece, each with the mark of the piece. -/
def Piece.marked (p : Piece) : List (UInt16 × Bool) := p.units.map fun u => (u, p.isLone)

theorem marked_single (u : UInt16) : (single u).marked = [(u, isSurrogate u)] := by
  have hunits := units_single u
  cases h : isSurrogate u with
  | false => simp_all [Piece.marked, single, isSurrogate, Piece.isLone]
  | true => simp_all [Piece.marked, single, isSurrogate, Piece.isLone]

/-- The lone pieces are the unpaired surrogates. -/
theorem marked_pieces (us : List UInt16) :
    (pieces us).flatMap Piece.marked = us.mapIdx fun i u => (u, isLone us i) := by
  induction us using pieces.induct with
  | case1 => rfl
  | case2 u =>
    have hfirst : startsPair [u] 0 = false := rfl
    simp [pieces, marked_single, isLone_cons_zero hfirst]
  | case3 u v rest hpair ih =>
    obtain ⟨hhi, hlo⟩ := Bool.and_eq_true_iff.1 hpair
    -- the pair takes its own two places, and its low surrogate starts no other
    have hnext : startsPair (v :: rest) 0 = false := by
      cases rest <;> simp [startsPair, not_isHigh_of_isLow hlo]
    have hfirst : isLone (u :: v :: rest) 0 = false := by simp [isLone, isPaired, startsPair, hpair]
    have hsecond : isLone (u :: v :: rest) 1 = false := by
      simp [isLone, isPaired, startsPair, hpair]
    simp [pieces, hpair, ih, Piece.marked, Piece.units, Piece.isLone, encodeChar_pair hhi hlo,
      List.mapIdx_cons, hfirst, hsecond, isLone_cons_add_two, isLone_cons_succ hnext]
  | case4 u v rest hpair ih =>
    have hfirst : startsPair (u :: v :: rest) 0 = false := by
      simpa [startsPair] using hpair
    simp [pieces, hpair, ih, marked_single, List.mapIdx_cons, isLone_cons_zero hfirst,
      isLone_cons_succ hfirst]

/-- A sequence decodes exactly if none of its pieces is a lone surrogate. -/
theorem exists_decode_iff_pieces {us : List UInt16} :
    (∃ cs, decode us = some cs) ↔ ∀ p ∈ pieces us, p.isLone = false := by
  constructor
  · rintro ⟨cs, hcs⟩ p hp
    rw [decode_eq_some_iff.1 hcs] at hp
    obtain ⟨c, -, rfl⟩ := List.mem_map.1 hp
    rfl
  · intro h
    have hchars : ∀ p ∈ pieces us, p = .char p.lossy := by
      intro p hp
      cases p with
      | char c => rfl
      | lone u => exact absurd (h _ hp) (by simp [Piece.isLone])
    refine ⟨decodeLossy us, decode_eq_some_iff.2 ?_⟩
    rw [decodeLossy, List.map_map]
    exact (List.map_id _).symm.trans (List.map_congr_left hchars)

theorem Piece.isLone_eq_false_iff {p : Piece} :
    p.isLone = false ↔ ∀ x ∈ p.marked, x.2 = false := by
  obtain ⟨u, hu⟩ : ∃ u, u ∈ p.units := by
    cases p with
    | char c =>
      show ∃ u, u ∈ encodeChar c
      unfold encodeChar
      split
      · exact ⟨_, List.mem_cons_self⟩
      · exact ⟨_, List.mem_cons_self⟩
    | lone u => exact ⟨u, List.mem_singleton_self u⟩
  simp only [marked, List.forall_mem_map]
  exact ⟨fun h _ _ => h, fun h => h u hu⟩

/-- Exactly the sequences whose surrogates are all paired can be decoded. -/
theorem exists_decode_iff {us : List UInt16} : (∃ cs, decode us = some cs) ↔ WellPaired us := by
  calc (∃ cs, decode us = some cs)
      ↔ ∀ p ∈ pieces us, ∀ x ∈ p.marked, x.2 = false := by
        simp only [exists_decode_iff_pieces, Piece.isLone_eq_false_iff]
    _ ↔ ∀ x ∈ us.mapIdx fun i u => (u, isLone us i), x.2 = false := by
        rw [← marked_pieces, List.forall_mem_flatMap]
    _ ↔ WellPaired us := by
        rw [wellPaired_iff]
        constructor
        · exact fun h i hi => h _ (List.mem_mapIdx.2 ⟨i, hi, rfl⟩)
        · intro h x hx
          obtain ⟨i, hi, rfl⟩ := List.mem_mapIdx.1 hx
          exact h i hi

/-- The encoding of the lossy text has U+FFFD in the place of each unpaired surrogate. -/
theorem encode_decodeLossy (us : List UInt16) :
    encode (decodeLossy us) = us.mapIdx fun i u => if isLone us i then 0xFFFD else u := by
  have hpiece : ∀ p : Piece, encodeChar p.lossy =
      p.marked.map fun x => if x.2 then 0xFFFD else x.1 := by
    intro p
    cases p with
    | char c => simp [Piece.marked, Piece.isLone, Piece.units, Piece.lossy, Function.comp_def]
    | lone u => rfl
  calc encode (decodeLossy us)
      = (pieces us).flatMap fun p => p.marked.map fun x => if x.2 then 0xFFFD else x.1 := by
        rw [encode, decodeLossy, List.flatMap_map]
        simp only [hpiece]
    _ = ((pieces us).flatMap Piece.marked).map fun x => if x.2 then 0xFFFD else x.1 := by
        rw [List.map_flatMap]
    _ = us.mapIdx fun i u => if isLone us i then 0xFFFD else u := by
        rw [marked_pieces]
        exact List.ext_getElem? fun i => by simp [Function.comp_def]

/-- The lossy text of a sequence that decodes is its text. -/
theorem decodeLossy_of_decode {us : List UInt16} {cs : List Char} (h : decode us = some cs) :
    decodeLossy us = cs := by
  rw [decodeLossy, decode_eq_some_iff.1 h, List.map_map]
  exact List.map_id cs

end Unmask.Text.Utf16

namespace Unmask.UserString

open Text.Utf16

/-- A user string holds any text, and gives it back. It has a text exactly if every surrogate in it
is one of a pair; then the text is made of its units and is its lossy text. It equals a text exactly
if that is its text. The lossy text of any string has the units of the string in their order, but
for one U+FFFD in the place of each unpaired surrogate. -/
theorem utf16_container (s : UserString) (text : String) :
    (ofString text).toString? = some text ∧
    ((∃ t, s.toString? = some t) ↔ WellPaired s.units) ∧
    (∀ t, s.toString? = some t → (ofString t).units = s.units ∧ s.lossy = t) ∧
    (s.eqString text ↔ s.toString? = some text) ∧
    (ofString s.lossy).units = s.units.mapIdx fun i u => if isLone s.units i then 0xFFFD else u := by
  refine ⟨toString?_ofString text, ?_, fun t ht => ⟨?_, ?_⟩, ⟨fun h => ?_, fun h => ?_⟩, ?_⟩
  · rw [← exists_decode_iff, ← Option.isSome_iff_exists, ← Option.isSome_iff_exists, toString?,
      Option.isSome_map]
  · rw [ofString_of_toString? ht]
  · obtain ⟨cs, hcs, rfl⟩ := Option.map_eq_some_iff.1 ht
    rw [lossy, decodeLossy_of_decode hcs]
  · have hunits : s = ofString text := by
      cases s
      simpa [eqString, ofString] using h
    rw [hunits, toString?_ofString]
  · simp [eqString, ← ofString_of_toString? h, ofString]
  · simp [ofString, lossy, encode_decodeLossy]

/-- A supplementary character between unpaired surrogates, the low one in front, and alone. -/
theorem utf16_container_smiley :
    let broken : UserString := ⟨[0xDC00, 0xD83D, 0xDE00, 0xD83D]⟩
    let smiley : UserString := ⟨[0xD83D, 0xDE00]⟩
    broken.toString? = none ∧ ¬ WellPaired broken.units ∧
      (ofString broken.lossy).units = [0xFFFD, 0xD83D, 0xDE00, 0xFFFD] ∧
      smiley.toString? = some "😀" ∧ (ofString "😀").units = smiley.units ∧ smiley.lossy = "😀" := by
  intro broken smiley
  obtain ⟨-, hpaired, -, -, hlossy⟩ := utf16_container broken ""
  obtain ⟨-, -, htext, -, -⟩ := utf16_container smiley ""
  have hbroken : broken.toString? = none := by decide
  have hsmiley : smiley.toString? = some "😀" := by decide
  refine ⟨hbroken, fun h => ?_, hlossy, hsmiley, htext "😀" hsmiley⟩
  obtain ⟨t, ht⟩ := hpaired.2 h
  exact Option.some_ne_none t (ht.symm.trans hbroken)

end Unmask.UserString
