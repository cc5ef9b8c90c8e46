import LaunchLine.Json.Json5
import LaunchLine.Json.Standard
import LaunchLine.Proofs.WholeFloats
import Mathlib.Data.List.TakeDrop
import Mathlib.Data.List.TakeWhile

/-!
# Proofs/WholeLiterals — whole numbers in both dialects

A literal of digits only denotes the number that the digits denote.  JSON5 reads it as a float and
standard JSON does not, if it is a count; both arrive at the same count (`Json.count?_agree`), and
below `2 ^ 53` at the same float (`Json.float?_eq_of_isWholeLiteral`).
-/

namespace LaunchLine

/-- **Digits that are not followed by anything** are read to the end. -/
theorem span_isDigit {ds : List Char} (hdigits : ds.all isDigit = true) :
    ds.span isDigit = (ds, []) := by
  rw [List.span_eq_takeWhile_dropWhile, List.takeWhile_eq_self_iff.2 (List.all_eq_true.1 hdigits),
    List.dropWhile_eq_nil_iff.2 (List.all_eq_true.1 hdigits)]

/-- A digit is neither a sign nor a letter. -/
theorem ne_of_isDigit {c d : Char} (hc : isDigit c = true) (hd : isDigit d = false) : c ≠ d :=
  fun heq => Bool.false_ne_true (hd.symm.trans (heq ▸ hc))

theorem Decimal.readSign_digits {ds : List Char} (hdigits : ds.all isDigit = true) :
    readSign ds = (false, ds) := by
  unfold readSign
  split
  · exact absurd rfl (ne_of_isDigit (List.all_eq_true.1 hdigits '-' List.mem_cons_self) (by decide))
  · exact absurd rfl (ne_of_isDigit (List.all_eq_true.1 hdigits '+' List.mem_cons_self) (by decide))
  · rfl

/-- **Digits are a decimal without sign or exponent.** -/
theorem Decimal.parse?_digits {ds : List Char} (hne : ds ≠ []) (hdigits : ds.all isDigit = true) :
    parse? ds = some ⟨false, digitsToNat ds, 0⟩ := by
  rw [parse?, readSign_digits hdigits]
  simp only [span_isDigit hdigits, List.append_nil]
  rw [if_neg (by simp [hne])]
  rfl

namespace Json

variable {lexeme : String}

/-- **A whole literal**: digits only, for a number below `2 ^ 53`. -/
structure IsWholeLiteral (lexeme : String) : Prop where
  ne_nil : lexeme.toList ≠ []
  digits : lexeme.toList.all isDigit = true
  small : digitsToNat lexeme.toList < 2 ^ 53

theorem ne_of_digits (hdigits : lexeme.toList.all isDigit = true) {other : String} {c : Char}
    (hc : c ∈ other.toList) (hother : isDigit c = false) : lexeme ≠ other := by
  rintro rfl
  exact ne_of_isDigit (List.all_eq_true.1 hdigits c hc) hother rfl

theorem Json5.hexDigits?_digits {ds : List Char} (hdigits : ds.all isDigit = true) :
    hexDigits? ds = none := by
  unfold hexDigits?
  split
  · next x d ds =>
    have hx : isDigit x = true := List.all_eq_true.1 hdigits x (by simp)
    refine if_neg ?_
    simp [ne_of_isDigit hx (d := 'x') (by decide), ne_of_isDigit hx (d := 'X') (by decide)]
  · rfl

/-- **A whole literal is its number in JSON5.** -/
theorem Json5.float?_eq_magnitude (h : IsWholeLiteral lexeme) :
    float? lexeme = some (Decimal.magnitude (digitsToNat lexeme.toList) 0) := by
  unfold float?
  split
  case h_5 =>
    rw [hexDigits?_digits h.digits, Decimal.parse?_digits h.ne_nil h.digits]
    dsimp only
    rw [Decimal.toFloat, if_neg Bool.false_ne_true, Decimal.isInf_magnitude h.small]
    rfl
  case h_1 => exact absurd rfl (ne_of_digits h.digits (c := 'I') (by decide) (by decide))
  case h_2 => exact absurd rfl (ne_of_digits h.digits (c := 'I') (by decide) (by decide))
  case h_3 => exact absurd rfl (ne_of_digits h.digits (c := 'N') (by decide) (by decide))
  case h_4 => exact absurd rfl (ne_of_digits h.digits (c := 'N') (by decide) (by decide))

namespace Standard

theorem le_foldl_digits (ds : List Char) (n : Nat) :
    n ≤ ds.foldl (fun n d => 10 * n + (d.toNat - '0'.toNat)) n := by
  induction ds generalizing n with
  | nil => exact Nat.le_refl n
  | cons d ds ih =>
    have hnext := ih (10 * n + (d.toNat - '0'.toNat))
    rw [List.foldl_cons]
    omega

/-- Digits are absorbed to the end as long as their number fits. -/
theorem absorb_eq (ds : List Char) (n : Nat)
    (h : ds.foldl (fun n d => 10 * n + (d.toNat - '0'.toNat)) n < UInt64.size) :
    absorb n ds = (ds.foldl (fun n d => 10 * n + (d.toNat - '0'.toNat)) n, []) := by
  induction ds generalizing n with
  | nil => rfl
  | cons d ds ih =>
    have hdigit : 10 * n + digitsToNat [d] = 10 * n + (d.toNat - '0'.toNat) := by
      simp [digitsToNat]
    have hnext := le_foldl_digits ds (10 * n + (d.toNat - '0'.toNat))
    rw [List.foldl_cons] at h ⊢
    rw [absorb, hdigit, if_pos (Nat.lt_of_le_of_lt hnext h)]
    exact ih _ h

/-- A number without an exponent is not scaled. -/
theorem scale?_zero {n : Nat} (h : n < 2 ^ 53) : scale? n 0 = some (Decimal.magnitude n 0) := by
  have hone : Decimal.magnitude n 0 * powerOfTen (0 : Int).toNat = Decimal.magnitude n 0 :=
    Decimal.magnitude_mul_one h
  rw [scale?, if_neg (by decide), if_pos (by decide)]
  dsimp only
  rw [hone, Decimal.isInf_magnitude h]
  rfl

/-- **A whole literal is its number in standard JSON.** -/
theorem float?_eq_magnitude (h : IsWholeLiteral lexeme) :
    float? lexeme = some (Decimal.magnitude (digitsToNat lexeme.toList) 0) := by
  have habsorb := absorb_eq lexeme.toList 0 (Nat.lt_trans h.small (by decide))
  have hmagnitude : magnitude? lexeme.toList
      = some (Decimal.magnitude (digitsToNat lexeme.toList) 0) := by
    unfold magnitude?
    rw [span_isDigit h.digits]
    have hsign : Decimal.readSign (([] : List Char).drop 1) = (false, []) := rfl
    have hexponent : ¬ maxExponent < digitsToNat [] := Nat.not_lt_zero _
    simp only [habsorb, hsign]
    rw [if_neg hexponent, if_neg Bool.false_ne_true]
    exact scale?_zero h.small
  unfold float?
  split
  · next rest heq =>
    have hsign : '-' ∈ lexeme.toList := by simp [heq]
    exact absurd rfl (ne_of_isDigit (List.all_eq_true.1 h.digits '-' hsign) (by decide))
  · exact hmagnitude

end Standard

/-- **A whole literal is the same float in both dialects.** -/
theorem float?_eq_of_isWholeLiteral (h : IsWholeLiteral lexeme) :
    Json5.float? lexeme = Standard.float? lexeme := by
  rw [Json5.float?_eq_magnitude h, Standard.float?_eq_magnitude h]

/-- **A count of standard JSON** is the same in JSON5. -/
theorem count?_agree {count count' : UInt32} (h : Standard.count? lexeme = some count)
    (h' : Json5.count? lexeme = some count') : count' = count := by
  rw [Standard.count?] at h
  obtain ⟨hcount, h⟩ := Option.ite_none_right_eq_some.1 h
  simp only [Bool.and_eq_true, decide_eq_true_eq] at hcount
  obtain ⟨hdigits, hsmall⟩ := hcount
  by_cases hnil : lexeme.toList = []
  · obtain rfl := String.toList_eq_nil_iff.1 hnil
    cases h'
  · have hwhole : IsWholeLiteral lexeme := ⟨hnil, hdigits, Nat.lt_trans hsmall (by decide)⟩
    rw [Json5.count?, Json5.float?_eq_magnitude hwhole, Option.map_some,
      Decimal.toUInt32_magnitude hsmall] at h'
    exact Option.some.inj (h'.symm.trans h)

end Json

end LaunchLine
