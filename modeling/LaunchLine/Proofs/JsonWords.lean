import LaunchLine.Json.Printer
import LaunchLine.Json.Standard
import Mathlib.Data.List.Basic
import Mathlib.Data.List.TakeDrop
import Mathlib.Data.List.TakeWhile

/-!
# Proofs/JsonWords — the words of JSON are read back as they were printed

A string goes through character by character: whichever of three ways it is printed in, what is read
denotes it (`Standard.string?_renderString_append`).  A number goes through digit by digit and does
not begin with a zero unless it is one (`Standard.number?_repr_append`); it ends where the word
ends, `AtBreak`.  The blanks at the beginning of a line are skipped.
-/

namespace LaunchLine.Json

/-- **The end of a word**: what is behind a printed value, if anything is. -/
def AtBreak (rest : List Char) : Prop :=
  ∀ c ∈ rest.head?, c = ',' ∨ c = '\n'

theorem atBreak_nil : AtBreak [] := by
  simp [AtBreak]

theorem atBreak_comma (rest : List Char) : AtBreak (',' :: rest) := by
  simp [AtBreak]

theorem atBreak_newline (depth : Nat) (rest : List Char) : AtBreak (newline depth ++ rest) := by
  simp [AtBreak, newline]

namespace Standard

/-! ## Strings -/

/-- An escape of one letter. -/
theorem stringBody?_escaped {letter c : Char} (h : escaped? letter = some c) (rest : List Char) :
    stringBody? ('\\' :: letter :: rest)
      = (stringBody? rest).map fun read => (.char c :: read.1, read.2) := by
  have hletter : letter ≠ 'u' := by
    rintro rfl
    cases h
  rw [stringBody?]
  · rw [h]
    cases stringBody? rest <;> rfl
  · intro a b c d rest' hu
    exact absurd hu hletter

/-- An escape of four digits. -/
theorem stringBody?_unit {a b c d : Char} {u : Nat} (h : hexToNat? [a, b, c, d] = some u)
    (rest : List Char) :
    stringBody? ('\\' :: 'u' :: a :: b :: c :: d :: rest)
      = (stringBody? rest).map fun read => (.unit u :: read.1, read.2) := by
  rw [stringBody?, h]
  cases stringBody? rest <;> rfl

/-- A character that stands for itself. -/
theorem stringBody?_raw {c : Char} (hquote : c ≠ '\"') (hescape : c ≠ '\\')
    (hcontrol : 32 ≤ c.toNat) (rest : List Char) :
    stringBody? (c :: rest)
      = (stringBody? rest).map fun read => (.char c :: read.1, read.2) := by
  have hnot : ¬ c < ' ' := by
    rw [Char.lt_def, UInt32.lt_iff_toNat_lt]
    exact Nat.not_lt.2 hcontrol
  rw [stringBody?, if_neg hnot]
  · exact fun h => absurd h hquote
  · exact fun _ _ _ _ _ h => absurd h hescape
  · exact fun _ _ h => absurd h hescape

/-- The digits of a control's code point. -/
theorem hexToNat?_control : ∀ n < 32,
    hexToNat? ['0', '0', Nat.digitChar (n / 16), Nat.digitChar (n % 16)] = some n := by
  decide

/-- **The three ways of printing a character**: as a letter behind a backslash, by the digits of its
code point, or as it is. -/
theorem escapeChar_cases (c : Char) :
    (∃ letter, escaped? letter = some c ∧ escapeChar c = ['\\', letter]) ∨
    (c.toNat < 32 ∧ escapeChar c =
      ['\\', 'u', '0', '0', Nat.digitChar (c.toNat / 16), Nat.digitChar (c.toNat % 16)]) ∨
    (c ≠ '\"' ∧ c ≠ '\\' ∧ 32 ≤ c.toNat ∧ escapeChar c = [c]) := by
  unfold escapeChar
  split
  case h_8 _ hquote hescape _ _ _ _ _ =>
    split
    · next hcontrol => exact .inr (.inl ⟨hcontrol, rfl⟩)
    · next hcontrol => exact .inr (.inr ⟨hquote, hescape, Nat.not_lt.1 hcontrol, rfl⟩)
  all_goals exact .inl ⟨_, rfl, rfl⟩

/-- **What is read of a printed character** denotes it. -/
theorem exists_piece_of_escapeChar (c : Char) :
    ∃ piece,
      (∀ rest, stringBody? (escapeChar c ++ rest)
        = (stringBody? rest).map fun read => (piece :: read.1, read.2)) ∧
      ∀ pieces, joinPieces? pair (piece :: pieces) = (joinPieces? pair pieces).map (c :: ·) := by
  rcases escapeChar_cases c with
    ⟨letter, hletter, hc⟩ | ⟨hcontrol, hc⟩ | ⟨hquote, hescape, hrange, hc⟩
  · refine ⟨.char c, fun rest => ?_, fun _ => rfl⟩
    rw [hc]
    exact stringBody?_escaped hletter rest
  · refine ⟨.unit c.toNat, fun rest => ?_, fun pieces => ?_⟩
    · rw [hc]
      exact stringBody?_unit (hexToNat?_control c.toNat hcontrol) rest
    · -- a control is no half of a surrogate pair
      have hlow : isLowHalf c.toNat = false := by
        simp only [isLowHalf, Bool.and_eq_false_iff, decide_eq_false_iff_not]
        omega
      have hhigh : isHighHalf c.toNat = false := by
        simp only [isHighHalf, Bool.and_eq_false_iff, decide_eq_false_iff_not]
        omega
      conv_lhs => unfold joinPieces?
      rw [hlow, hhigh, Char.ofNat_toNat]
      rfl
  · refine ⟨.char c, fun rest => ?_, fun _ => rfl⟩
    rw [hc]
    exact stringBody?_raw hquote hescape hrange rest

/-- The characters of a printed string are read up to its closing quote. -/
theorem exists_pieces_of_flatMap_escapeChar (cs rest : List Char) :
    ∃ pieces, stringBody? (cs.flatMap escapeChar ++ '\"' :: rest) = some (pieces, rest) ∧
      joinPieces? pair pieces = some cs := by
  induction cs with
  | nil => exact ⟨[], rfl, rfl⟩
  | cons c cs ih =>
    obtain ⟨pieces, hbody, hjoin⟩ := ih
    obtain ⟨piece, hread, hdenotes⟩ := exists_piece_of_escapeChar c
    refine ⟨piece :: pieces, ?_, ?_⟩
    · rw [List.flatMap_cons, List.append_assoc, hread, hbody]
      rfl
    · rw [hdenotes, hjoin]
      rfl

/-- **A printed string is read back**, whatever follows it. -/
theorem string?_renderString_append (text : String) (rest : List Char) :
    string? (renderString text ++ rest) = some (some text, rest) := by
  obtain ⟨pieces, hbody, hjoin⟩ := exists_pieces_of_flatMap_escapeChar text.toList rest
  have hline : renderString text ++ rest
      = '\"' :: (text.toList.flatMap escapeChar ++ '\"' :: rest) := by
    simp [renderString]
  have htext : textOfPieces? pair pieces = some text := by
    rw [textOfPieces?, hjoin, Option.map_some, String.ofList_toList]
  rw [hline, string?, hbody, ← htext]
  rfl

/-! ## Numbers -/

theorem isDigit_eq (c : Char) : isDigit c = c.isDigit := by
  simp only [isDigit, Char.isDigit, Char.le_def]

theorem isDigit_of_mem_toDigits {n : Nat} {c : Char} (h : c ∈ Nat.toDigits 10 n) :
    isDigit c = true := by
  rw [isDigit_eq]
  exact Nat.isDigit_of_mem_toDigits (by decide) (by decide) h

/-- A number that is not zero does not begin with a zero. -/
theorem head?_toDigits_ne_zero {n : Nat} (h : 0 < n) :
    (Nat.toDigits 10 n).head? ≠ some '0' := by
  induction n using Nat.strong_induction_on with
  | _ n ih =>
    rw [Nat.toDigits_eq_if (by decide)]
    split
    · next hlt =>
      have hdigits : ∀ m < 10, 0 < m → [Nat.digitChar m].head? ≠ some '0' := by decide
      exact hdigits n hlt h
    · next hge =>
      have hpos : 0 < n / 10 := Nat.div_pos (Nat.not_lt.1 hge) (by decide)
      rw [List.head?_append_of_ne_nil _ Nat.toDigits_ne_nil]
      exact ih (n / 10) (Nat.div_lt_self h (by decide)) hpos

theorem isDigit_eq_false_of_atBreak {rest : List Char} (h : AtBreak rest) {c : Char}
    (hc : c ∈ rest.head?) : isDigit c = false := by
  rcases h c hc with rfl | rfl <;> rfl

/-- Digits are read up to the end of the word. -/
theorem digits?_append {ds rest : List Char} (hne : ds ≠ []) (hds : ∀ d ∈ ds, isDigit d = true)
    (h : AtBreak rest) : digits? (ds ++ rest) = some (ds, rest) := by
  have hspan : (ds ++ rest).span isDigit = (ds, rest) := by
    have hrest : rest.takeWhile isDigit = [] ∧ rest.dropWhile isDigit = rest := by
      cases rest with
      | nil => exact ⟨rfl, rfl⟩
      | cons c rest =>
        have hc := isDigit_eq_false_of_atBreak h (c := c) rfl
        exact ⟨List.takeWhile_cons_of_neg (by simp [hc]), List.dropWhile_cons_of_neg (by simp [hc])⟩
    rw [List.span_eq_takeWhile_dropWhile, List.takeWhile_append_of_pos hds,
      List.dropWhile_append_of_pos hds, hrest.1, hrest.2, List.append_nil]
  rw [digits?, hspan]
  cases ds with
  | nil => exact absurd rfl hne
  | cons => rfl

theorem whole?_toDigits_append (n : Nat) {rest : List Char} (h : AtBreak rest) :
    whole? (Nat.toDigits 10 n ++ rest) = some (Nat.toDigits 10 n, rest) := by
  by_cases hn : n = 0
  · subst hn
    rfl
  · rw [whole?]
    · exact digits?_append Nat.toDigits_ne_nil (fun _ hd => isDigit_of_mem_toDigits hd) h
    · intro tail htext
      refine head?_toDigits_ne_zero (Nat.pos_of_ne_zero hn) ?_
      rw [← List.head?_append_of_ne_nil _ Nat.toDigits_ne_nil, htext]
      rfl

/-- A word ends with the whole part of a number: no fraction and no exponent follow. -/
theorem fraction?_of_atBreak {rest : List Char} (h : AtBreak rest) :
    fraction? rest = some ([], rest) := by
  cases rest with
  | nil => rfl
  | cons c rest => rcases h c rfl with rfl | rfl <;> rfl

theorem exponent?_of_atBreak {rest : List Char} (h : AtBreak rest) :
    exponent? rest = some ([], rest) := by
  cases rest with
  | nil => rfl
  | cons c rest => rcases h c rfl with rfl | rfl <;> rfl

/-- **A printed number is read back**, up to the end of the word. -/
theorem number?_repr_append (n : Nat) {rest : List Char} (h : AtBreak rest) :
    number? (n.repr.toList ++ rest) = some (n.repr.toList, rest) := by
  have hsign : ∀ tail, Nat.toDigits 10 n ++ rest ≠ '-' :: tail := by
    intro tail htext
    have hhead : '-' ∈ Nat.toDigits 10 n := by
      refine List.mem_of_mem_head? ?_
      rw [← List.head?_append_of_ne_nil _ Nat.toDigits_ne_nil, htext]
      rfl
    exact absurd (isDigit_of_mem_toDigits hhead) (by decide)
  rw [Nat.repr_eq_ofList_toDigits, String.toList_ofList, number?]
  · simp only [whole?_toDigits_append n h, fraction?_of_atBreak h, exponent?_of_atBreak h,
      Option.bind_eq_bind, Option.bind_some, List.nil_append, List.append_nil]
  · exact hsign

/-! ## Blanks -/

/-- Whether nothing is skipped in front of the character. -/
def isSkipped (c : Char) : Bool :=
  c = ' ' || c = '\t' || c = '\n' || c = '\r'

theorem skip_cons {c : Char} (h : isSkipped c = false) (rest : List Char) :
    standard.skip (c :: rest) = some (c :: rest) := by
  refine congrArg some (List.dropWhile_cons_of_neg ?_)
  change ¬ isSkipped c = true
  rw [h]
  exact Bool.false_ne_true

/-- The beginning of a line is skipped. -/
theorem skip_newline_append (depth : Nat) {c : Char} (h : isSkipped c = false) (rest : List Char) :
    standard.skip (newline depth ++ c :: rest) = some (c :: rest) := by
  have hblank : ∀ b ∈ newline depth, isSkipped b = true := by
    intro b hb
    rcases List.mem_cons.1 hb with rfl | hb
    · rfl
    · obtain rfl := List.eq_of_mem_replicate hb
      rfl
  refine Eq.trans ?_ (skip_cons h rest)
  exact congrArg some (List.dropWhile_append_of_pos hblank)

end Standard

end LaunchLine.Json
