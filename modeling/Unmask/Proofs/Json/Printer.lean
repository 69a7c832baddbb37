import Mathlib.Data.List.Basic
import Unmask.Json.Printer

/-!
# Compressed text is one line

Strings are escaped, numbers are digits, and what is written between items holds no line feed. So
the compressed text of a value does not either: `compress_oneLine`.
-/

namespace Unmask

/-- The text holds no line feed. -/
def OneLine (s : String) : Prop := '\n' ∉ s.toList

instance (s : String) : Decidable (OneLine s) := inferInstanceAs (Decidable ('\n' ∉ s.toList))

theorem OneLine.append {s t : String} (hs : OneLine s) (ht : OneLine t) : OneLine (s ++ t) := by
  simp_all [OneLine]

theorem OneLine.intercalate {sep : String} (hsep : OneLine sep) {parts : List String}
    (h : ∀ s ∈ parts, OneLine s) : OneLine (sep.intercalate parts) := by
  unfold OneLine at *
  rw [String.toList_intercalate]
  induction parts with
  | nil => simp
  | cons s rest ih =>
    have hrest := ih fun t ht => h t (List.mem_cons_of_mem s ht)
    cases rest with
    | nil => simpa using h s List.mem_cons_self
    | cons t rest => simp_all [List.intercalate_cons_cons]

namespace Text

theorem digitChar_ne_lineFeed (d : Nat) : d.digitChar ≠ '\n' := by
  grind [Nat.digitChar]

theorem toDigits_oneLine (base n : Nat) : OneLine (String.ofList (Nat.toDigits base n)) := by
  unfold OneLine Nat.toDigits
  rw [String.toList_ofList]
  have hcore : ∀ fuel n ds, '\n' ∉ ds → '\n' ∉ Nat.toDigitsCore base fuel n ds := by
    intro fuel
    induction fuel with
    | zero => exact fun _ _ h => h
    | succ fuel ih =>
      intro n ds h
      have hcons : '\n' ∉ (n % base).digitChar :: ds := by
        simp [h, (digitChar_ne_lineFeed (n % base)).symm]
      unfold Nat.toDigitsCore
      simp only
      split
      · exact hcons
      · exact ih _ _ hcons
  exact hcore (n + 1) n [] (by simp)

theorem hexLower_oneLine (width n : Nat) : OneLine (hexLower width n) := by
  refine OneLine.append ?_ (toDigits_oneLine 16 n)
  simp [OneLine]

theorem toString_nat_oneLine (n : Nat) : OneLine (toString n) := by
  rw [Nat.toString_eq_ofList_toDigits]
  exact toDigits_oneLine 10 n

theorem toString_int_oneLine (n : Int) : OneLine (toString n) := by
  cases n with
  | ofNat n => exact toString_nat_oneLine n
  | negSucc n => exact OneLine.append (s := "-") (by decide) (toString_nat_oneLine (n + 1))

end Text

namespace Json

theorem lineFeed_not_mem_escapeChar (c : Char) : '\n' ∉ escapeChar c := by
  have hhex := Text.hexLower_oneLine 4 c.toNat
  grind [escapeChar, OneLine]

theorem quoted_oneLine (s : String) : OneLine (quoted s) := by
  refine OneLine.append (OneLine.append (by decide) ?_) (by decide)
  unfold OneLine
  rw [String.toList_ofList, List.mem_flatMap]
  rintro ⟨c, -, hc⟩
  exact lineFeed_not_mem_escapeChar c hc

theorem atom_oneLine (j : Json) : OneLine (atom j) := by
  unfold atom
  split
  · decide
  · decide
  · exact Text.toString_int_oneLine _
  · exact ((Text.toString_int_oneLine _).append (by decide)).append (Text.toString_int_oneLine _)
  · exact quoted_oneLine _
  · decide

mutual

/-- The compressed text of a value is one line. -/
theorem compress_oneLine (j : Json) : OneLine j.compress := by
  cases j with
  | arr items =>
    rw [compress]
    exact ((OneLine.append (by decide) (OneLine.intercalate (by decide)
      (compressItems_oneLine items)))).append (by decide)
  | obj fields =>
    rw [compress]
    exact ((OneLine.append (by decide) (OneLine.intercalate (by decide)
      (compressFields_oneLine fields)))).append (by decide)
  | null => rw [compress]; decide
  | bool b => rw [compress]; exact atom_oneLine _
  | int n => rw [compress]; exact atom_oneLine _
  | real m e => rw [compress]; exact atom_oneLine _
  | str s => rw [compress]; exact atom_oneLine _

theorem compressItems_oneLine (items : List Json) : ∀ s ∈ compressItems items, OneLine s := by
  cases items with
  | nil => simp [compressItems]
  | cons j rest =>
    rw [compressItems]
    exact List.forall_mem_cons.2 ⟨compress_oneLine j, compressItems_oneLine rest⟩

theorem compressFields_oneLine (fields : List (String × Json)) :
    ∀ s ∈ compressFields fields, OneLine s := by
  cases fields with
  | nil => simp [compressFields]
  | cons field rest =>
    rw [compressFields]
    exact List.forall_mem_cons.2 ⟨((quoted_oneLine field.1).append (by decide)).append
      (compress_oneLine field.2), compressFields_oneLine rest⟩

end

end Json

end Unmask
