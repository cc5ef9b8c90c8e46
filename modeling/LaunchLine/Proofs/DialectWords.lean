import LaunchLine.Json.Json5
import LaunchLine.Proofs.JsonWords
import Mathlib.Data.List.Forall2

/-!
# Proofs/DialectWords — words of the standard in the other dialect

A word of standard JSON is a word of JSON5, or JSON5 refuses it: the blanks, strings and numbers are
the same, and they end at the same place.  What they denote differs in one case.  Two escapes that
name a character of an even plane above the first denote the character one plane below, since the
offset of the planes is lost in the sixteenth bit: `SinksTo`.
-/

namespace LaunchLine.Json

variable {text rest rest' : List Char}

/-! ## Characters that sink -/

/-- **A character that may sink** by a plane, if its own plane is even and not the lowest; it never
reaches the lowest one. -/
def SinksTo (c c' : Char) : Prop :=
  c' = c ∨ c.toNat / 0x10000 % 2 = 0 ∧ 0x20000 ≤ c.toNat ∧ c'.toNat + 0x10000 = c.toNat

theorem SinksTo.refl (c : Char) : SinksTo c c :=
  Or.inl rfl

/-- **A character of the lowest plane** neither sinks nor is sunk to. -/
theorem SinksTo.eq_iff {c c' d : Char} (h : SinksTo c c') (hd : d.toNat < 0x10000) :
    c' = d ↔ c = d := by
  rcases h with rfl | ⟨-, habove, hbelow⟩
  · rfl
  · refine iff_of_false ?_ ?_
    · rintro rfl
      omega
    · rintro rfl
      omega

/-- The sixteenth bit of a code point is the sixth of the first half of its pair. -/
theorem Json5.pair_add (a : Nat) {b : Nat} (hb : b < 1024) :
    pair (0xD800 + a) (0xDC00 + b) = (a ||| 64) * 1024 + b := by
  have hplanes : b + 0x10000 = 64 <<< 10 ||| b := by
    rw [← Nat.shiftLeft_add_eq_or_of_lt hb, Nat.add_comm]
    rfl
  rw [pair, Nat.add_sub_cancel_left, Nat.add_sub_cancel_left, hplanes, ← Nat.or_assoc,
    ← Nat.shiftLeft_or_distrib, ← Nat.shiftLeft_add_eq_or_of_lt hb, Nat.shiftLeft_eq]

theorem or_sixtyFour : ∀ a < 1024, a ||| 64 = if a / 64 % 2 = 0 then a + 64 else a := by
  decide +kernel

theorem toNat_ofNat {n : Nat} (h : n.isValidChar) : (Char.ofNat n).toNat = n := by
  rw [Char.ofNat, dif_pos h]
  rfl

/-- **Two halves denote the same character in both dialects, or one that sinks.** -/
theorem sinksTo_pair {u v : Nat} (hu : isHighHalf u = true) (hv : isLowHalf v = true) :
    SinksTo (Char.ofNat (Standard.pair u v)) (Char.ofNat (Json5.pair u v)) := by
  simp only [isHighHalf, isLowHalf, Bool.and_eq_true, decide_eq_true_eq] at hu hv
  obtain ⟨a, rfl⟩ := Nat.exists_eq_add_of_le hu.1
  obtain ⟨b, rfl⟩ := Nat.exists_eq_add_of_le hv.1
  have ha : a < 1024 := by omega
  have hstandard : Standard.pair (0xD800 + a) (0xDC00 + b) = 0x10000 + a * 1024 + b := by
    unfold Standard.pair
    omega
  rw [hstandard, Json5.pair_add a (by omega), or_sixtyFour a ha]
  split
  · rw [show (a + 64) * 1024 + b = 0x10000 + a * 1024 + b by omega]
    exact SinksTo.refl _
  · right
    rw [toNat_ofNat (Or.inr (by omega)), toNat_ofNat (Or.inr (by omega))]
    omega

/-! ## Blanks -/

theorem Standard.isSpace_of_isSkipped {c : Char} (h : Standard.isSkipped c = true) :
    Json5.isSpace c = true ∧ c ≠ '/' := by
  simp only [Standard.isSkipped, Bool.or_eq_true, decide_eq_true_eq] at h
  rcases h with ((rfl | rfl) | rfl) | rfl <;> exact ⟨rfl, by decide⟩

theorem Json5.skipGap_cons {c : Char} (hc : c ≠ '/') (tail : List Char) :
    skipGap .plain (c :: tail) = if isSpace c then skipGap .plain tail else some (c :: tail) := by
  conv_lhs => unfold skipGap
  split
  case h_1 heq => exact absurd (List.cons.inj heq).1 hc
  case h_2 heq => exact absurd (List.cons.inj heq).1 hc
  case h_3 heq =>
    obtain ⟨rfl, rfl⟩ := List.cons.inj heq
    rfl
  all_goals contradiction

/-- **No more than the blanks of the standard** is skipped, if neither another space nor a comment
follows them. -/
theorem Json5.skip_eq
    (h : ∀ c ∈ (text.dropWhile Standard.isSkipped).head?, isSpace c = false ∧ c ≠ '/') :
    json5.skip text = some (text.dropWhile Standard.isSkipped) := by
  change skipGap .plain text = _
  induction text with
  | nil => rfl
  | cons c tail ih =>
    by_cases hskipped : Standard.isSkipped c = true
    · obtain ⟨hspace, hc⟩ := Standard.isSpace_of_isSkipped hskipped
      rw [List.dropWhile_cons_of_pos hskipped] at h ⊢
      rw [skipGap_cons hc, if_pos hspace]
      exact ih h
    · rw [List.dropWhile_cons_of_neg hskipped] at h ⊢
      obtain ⟨hspace, hc⟩ := h c rfl
      rw [skipGap_cons hc, if_neg (by simp [hspace])]

/-! ## Strings -/

theorem rel_map_cons {c c' : Char} {cs? cs'? : Option (List Char)}
    (h : Option.Rel (List.Forall₂ SinksTo) cs? cs'?) (hc : SinksTo c c') :
    Option.Rel (List.Forall₂ SinksTo) (cs?.map (c :: ·)) (cs'?.map (c' :: ·)) := by
  cases h with
  | none => exact .none
  | some hcs => exact .some (.cons hc hcs)

theorem joinPieces?_rel (pieces : List Piece) :
    Option.Rel (List.Forall₂ SinksTo) (joinPieces? Standard.pair pieces)
      (joinPieces? Json5.pair pieces) := by
  induction pieces using joinPieces?.induct with
  | case1 => exact .some .nil
  | case2 c rest ih => exact rel_map_cons ih (.refl c)
  | case3 u rest hlow =>
    unfold joinPieces?
    rw [if_pos hlow, if_pos hlow]
    exact .none
  | case4 u hlow hhigh v rest hv ih =>
    unfold joinPieces?
    rw [if_neg hlow, if_pos hhigh, if_neg hlow, if_pos hhigh]
    dsimp only
    rw [if_pos hv, if_pos hv]
    exact rel_map_cons ih (sinksTo_pair hhigh hv)
  | case5 u hlow hhigh v rest hv =>
    unfold joinPieces?
    rw [if_neg hlow, if_pos hhigh, if_neg hlow, if_pos hhigh]
    dsimp only
    rw [if_neg hv, if_neg hv]
    exact .none
  | case6 u rest hlow hhigh hrest =>
    unfold joinPieces?
    rw [if_neg hlow, if_pos hhigh, if_neg hlow, if_pos hhigh]
    split
    · exact absurd rfl (hrest _ _)
    · exact .none
  | case7 u rest hlow hhigh ih =>
    unfold joinPieces?
    rw [if_neg hlow, if_neg hhigh, if_neg hlow, if_neg hhigh]
    exact rel_map_cons ih (.refl _)

/-- **A text that may sink**, character by character. -/
def TextSinksTo (text text' : String) : Prop :=
  List.Forall₂ SinksTo text.toList text'.toList

theorem textOfPieces?_rel (pieces : List Piece) :
    Option.Rel TextSinksTo (textOfPieces? Standard.pair pieces)
      (textOfPieces? Json5.pair pieces) := by
  have hjoined := joinPieces?_rel pieces
  rw [textOfPieces?, textOfPieces?]
  generalize joinPieces? Standard.pair pieces = cs?, joinPieces? Json5.pair pieces = cs'?
    at hjoined ⊢
  cases hjoined with
  | none => exact .none
  | some hcs =>
    refine .some ?_
    rwa [TextSinksTo, String.toList_ofList, String.toList_ofList]

/-- A letter that the standard lets stand behind a backslash denotes the same in both dialects. -/
theorem Standard.escaped?_eq_some {letter c : Char} (h : escaped? letter = some c) :
    letter ≠ '\r' ∧ letter ≠ 'x' ∧ letter ≠ 'u' ∧ Json5.isLineEnd letter = false ∧
      Json5.escaped? letter = some c := by
  unfold escaped? at h
  split at h
  case h_9 => cases h
  all_goals
    obtain rfl := Option.some.inj h
    decide

namespace Json5

theorem stringBody?_escaped {letter c : Char} (h : Standard.escaped? letter = some c)
    (quote : Char) (rest : List Char) :
    stringBody? quote ('\\' :: letter :: rest)
      = (stringBody? quote rest).map fun read => (.char c :: read.1, read.2) := by
  obtain ⟨hreturn, hx, hu, hline, hletter⟩ := Standard.escaped?_eq_some h
  rw [stringBody?, if_neg (by simp [hline]), hletter]
  · cases stringBody? quote rest <;> rfl
  · exact fun _ hc => absurd hc hreturn
  · exact fun _ _ _ hc => absurd hc hx
  · exact fun _ _ _ _ _ hc => absurd hc hu

theorem stringBody?_unit {a b c d : Char} {u : Nat} (h : hexToNat? [a, b, c, d] = some u)
    (quote : Char) (rest : List Char) :
    stringBody? quote ('\\' :: 'u' :: a :: b :: c :: d :: rest)
      = (stringBody? quote rest).map fun read => (.unit u :: read.1, read.2) := by
  rw [stringBody?, h]
  cases stringBody? quote rest <;> rfl

theorem stringBody?_raw {c : Char} (hescape : c ≠ '\\') (hline : isLineEnd c = false)
    {quote : Char} (hquote : c ≠ quote) (rest : List Char) :
    stringBody? quote (c :: rest)
      = (stringBody? quote rest).map fun read => (.char c :: read.1, read.2) := by
  rw [stringBody?, if_neg hquote, if_neg (by simp [hescape, hline])]
  · exact fun _ h => absurd h hescape
  · exact fun _ _ _ h => absurd h hescape
  · exact fun _ _ _ _ _ h => absurd h hescape
  · exact fun _ _ h => absurd h hescape

end Json5

/-- A piece in front of strings that agree. -/
theorem agree_of_map_cons {piece : Piece} {pieces pieces' : List Piece}
    {body? body'? : Option (List Piece × List Char)}
    (ih : ∀ {ps r ps' r'}, body? = some (ps, r) → body'? = some (ps', r') → ps' = ps ∧ r' = r)
    (h : (body?.map fun read => (piece :: read.1, read.2)) = some (pieces, rest))
    (h' : (body'?.map fun read => (piece :: read.1, read.2)) = some (pieces', rest')) :
    pieces' = pieces ∧ rest' = rest := by
  obtain ⟨⟨ps, r⟩, hbody, hread⟩ := Option.map_eq_some_iff.1 h
  obtain ⟨⟨ps', r'⟩, hbody', hread'⟩ := Option.map_eq_some_iff.1 h'
  obtain ⟨rfl, rfl⟩ := ih hbody hbody'
  obtain ⟨rfl, rfl⟩ := Prod.mk.inj hread
  obtain ⟨rfl, rfl⟩ := Prod.mk.inj hread'
  exact ⟨rfl, rfl⟩

/-- **The pieces of a string are the same** in both dialects, and so is its end. -/
theorem stringBody?_agree {pieces pieces' : List Piece}
    (h : Standard.stringBody? text = some (pieces, rest))
    (h' : Json5.stringBody? '\"' text = some (pieces', rest')) :
    pieces' = pieces ∧ rest' = rest := by
  induction text using Standard.stringBody?.induct generalizing pieces pieces' rest rest' with
  | case1 => cases h
  | case2 tail =>
    obtain ⟨rfl, rfl⟩ := Prod.mk.inj (Option.some.inj h)
    obtain ⟨rfl, rfl⟩ := Prod.mk.inj (Option.some.inj h')
    exact ⟨rfl, rfl⟩
  | case3 a b c d tail ih =>
    cases hu : hexToNat? [a, b, c, d] with
    | none =>
      rw [Standard.stringBody?, hu] at h
      cases h
    | some u =>
      rw [Standard.stringBody?_unit hu] at h
      rw [Json5.stringBody?_unit hu] at h'
      exact agree_of_map_cons ih h h'
  | case4 letter tail hnot ih =>
    cases he : Standard.escaped? letter with
    | none =>
      rw [Standard.stringBody?, he] at h
      · cases h
      · exact hnot
    | some e =>
      rw [Standard.stringBody?_escaped he] at h
      rw [Json5.stringBody?_escaped he] at h'
      exact agree_of_map_cons ih h h'
  | case5 c tail hquote hunit hescape hcontrol =>
    rw [Standard.stringBody?, if_pos hcontrol] at h
    · cases h
    all_goals assumption
  | case6 c tail hquote hunit hescape hcontrol ih =>
    rw [Standard.stringBody?, if_neg hcontrol] at h
    · by_cases hbackslash : c = '\\'
      · -- a backslash with nothing behind it
        cases tail with
        | nil => cases h
        | cons c' tail => exact absurd rfl (hescape c' tail hbackslash)
      · by_cases hline : Json5.isLineEnd c = true
        · rw [Json5.stringBody?, if_neg hquote, if_pos (by simp [hline])] at h'
          · cases h'
          all_goals intros; contradiction
        · rw [Json5.stringBody?_raw hbackslash (Bool.eq_false_iff.2 hline) hquote] at h'
          exact agree_of_map_cons ih h h'
    all_goals assumption

/-- A string of the standard is what stands between two quotes. -/
theorem Standard.exists_body_of_string? {string? : Option String}
    (h : Standard.string? text = some (string?, rest)) :
    ∃ tail pieces, text = '\"' :: tail ∧ stringBody? tail = some (pieces, rest) ∧
      string? = textOfPieces? pair pieces := by
  unfold Standard.string? at h
  split at h
  · next tail =>
    obtain ⟨⟨pieces, behind⟩, hbody, hread⟩ := Option.map_eq_some_iff.1 h
    obtain ⟨rfl, rfl⟩ := Prod.mk.inj hread
    exact ⟨tail, pieces, rfl, hbody, rfl⟩
  · cases h

/-- **A string of the standard** is read alike in both dialects, but that its characters may sink.
-/
theorem string?_agree {string? string'? : Option String}
    (h : Standard.string? text = some (string?, rest))
    (h' : Json5.string? text = some (string'?, rest')) :
    rest' = rest ∧ Option.Rel TextSinksTo string? string'? := by
  obtain ⟨tail, pieces, rfl, hbody, rfl⟩ := Standard.exists_body_of_string? h
  rw [Json5.string?, if_pos (by decide)] at h'
  obtain ⟨⟨pieces', behind⟩, hbody', hread⟩ := Option.map_eq_some_iff.1 h'
  obtain ⟨rfl, rfl⟩ := stringBody?_agree hbody hbody'
  obtain ⟨rfl, rfl⟩ := Prod.mk.inj hread
  exact ⟨rfl, textOfPieces?_rel pieces'⟩

/-- **A key of the standard** is a string, and no name. -/
theorem key?_agree {key? key'? : Option String}
    (h : Standard.string? text = some (key?, rest))
    (h' : Json5.key? text = some (key'?, rest')) :
    rest' = rest ∧ Option.Rel TextSinksTo key? key'? := by
  rw [Json5.key?] at h'
  split at h'
  · next result hstring =>
    rw [h'] at hstring
    exact string?_agree h hstring
  · obtain ⟨tail, -, rfl, -⟩ := Standard.exists_body_of_string? h
    have hname : Json5.namePieces? true ('\"' :: tail) = none := by
      have hstart : Text.isNameStart '\"' = false := by decide +kernel
      rw [Json5.namePieces?, if_pos rfl, hstart, if_neg Bool.false_ne_true, if_pos rfl]
      exact fun _ _ _ _ _ hc => absurd hc (by decide)
    rw [hname] at h'
    cases h'

/-! ## Numbers -/

/-- **The end of a word of the standard**: a blank, a comma or a closing bracket, if anything. -/
def EndsWord (rest : List Char) : Prop :=
  ∀ c ∈ rest.head?, Standard.isSkipped c = true ∨ c = ',' ∨ c = ']' ∨ c = '\x7d'

theorem Standard.digits?_eq_some {ds : List Char} (h : digits? text = some (ds, rest)) :
    ds ≠ [] ∧ text.span isDigit = (ds, rest) := by
  rw [digits?] at h
  split at h
  · cases h
  · next _ _ _ hnil hspan =>
    obtain ⟨rfl, rfl⟩ := Prod.mk.inj (Option.some.inj h)
    exact ⟨hnil, hspan⟩

theorem Standard.exists_digit_of_digits? {ds : List Char} (h : digits? text = some (ds, rest)) :
    ∃ d tail, text = d :: tail ∧ isDigit d = true := by
  obtain ⟨hne, hspan⟩ := digits?_eq_some h
  rw [List.span_eq_takeWhile_dropWhile] at hspan
  obtain ⟨d, tail, rfl⟩ := List.exists_cons_of_ne_nil (l := ds) hne
  have hd : d ∈ text.takeWhile isDigit := by
    rw [(Prod.mk.inj hspan).1]
    exact List.mem_cons_self
  have htext := List.takeWhile_append_dropWhile (p := isDigit) (l := text)
  rw [(Prod.mk.inj hspan).1] at htext
  exact ⟨d, tail ++ text.dropWhile isDigit, htext.symm, List.mem_takeWhile_imp hd⟩

/-- The integer part of a number is not empty, and the same in both dialects. -/
theorem whole_agree {ws : List Char} (h : Standard.whole? text = some (ws, rest)) :
    ws ≠ [] ∧ Json5.whole text = (ws, rest) := by
  unfold Standard.whole? at h
  split at h
  · obtain ⟨rfl, rfl⟩ := Prod.mk.inj (Option.some.inj h)
    exact ⟨List.cons_ne_nil _ _, rfl⟩
  · next hzero =>
    obtain ⟨hne, hspan⟩ := Standard.digits?_eq_some h
    refine ⟨hne, ?_⟩
    rw [Json5.whole]
    · exact hspan
    · exact hzero

theorem Standard.exists_digit_of_whole? {ws : List Char} (h : whole? text = some (ws, rest)) :
    ∃ d tail, text = d :: tail ∧ isDigit d = true := by
  unfold whole? at h
  split at h
  · exact ⟨_, _, rfl, rfl⟩
  · exact exists_digit_of_digits? h

/-- The digits of an exponent, behind what stands in front of them. -/
theorem exponentDigits_agree {ds : List Char} (h : Standard.digits? text = some (ds, rest))
    (front : List Char) (other : List Char × List Char) :
    (match text.span isDigit with
      | ([], _) => other
      | (ds, rest) => (front ++ ds, rest)) = (front ++ ds, rest) := by
  obtain ⟨hne, hspan⟩ := Standard.digits?_eq_some h
  rw [hspan]
  split
  · next hnil => exact absurd (Prod.mk.inj hnil).1 hne
  · next hds =>
    obtain ⟨rfl, rfl⟩ := Prod.mk.inj hds
    rfl

/-- The exponent of a number is the same in both dialects. -/
theorem exponent_agree {es : List Char} (h : Standard.exponent? text = some (es, rest)) :
    Json5.exponent text = (es, rest) := by
  unfold Standard.exponent? at h
  split at h
  · next e tail =>
    split at h
    · next hletter =>
      split at h
      all_goals obtain ⟨⟨ds, behind⟩, hds, hread⟩ := Option.map_eq_some_iff.1 h
      all_goals obtain ⟨rfl, rfl⟩ := Prod.mk.inj hread
      · rw [Json5.exponent, if_pos hletter]
        exact exponentDigits_agree hds [e, '+'] _
      · rw [Json5.exponent, if_pos hletter]
        exact exponentDigits_agree hds [e, '-'] _
      · next hplus hminus =>
        rw [Json5.exponent, if_pos hletter]
        · exact exponentDigits_agree hds [e] _
        · exact hplus
        · exact hminus
    · next hletter =>
      obtain ⟨rfl, rfl⟩ := Prod.mk.inj (Option.some.inj h)
      unfold Json5.exponent
      exact if_neg hletter
  · obtain ⟨rfl, rfl⟩ := Prod.mk.inj (Option.some.inj h)
    rfl

section Unsigned

variable {ws fs es behind after : List Char} (hwhole : Standard.whole? text = some (ws, behind))
  (hfraction : Standard.fraction? behind = some (fs, after))
  (hexponent : Standard.exponent? after = some (es, rest))
include hwhole hfraction hexponent

theorem decimal_agree : Json5.decimal? text = some (ws ++ fs ++ es, rest) := by
  obtain ⟨hne, hwhole'⟩ := whole_agree hwhole
  have hexponent' := exponent_agree hexponent
  unfold Standard.fraction? at hfraction
  unfold Json5.decimal?
  rw [hwhole']
  split at hfraction
  · next tail =>
    obtain ⟨⟨ds, left⟩, hds, hread⟩ := Option.map_eq_some_iff.1 hfraction
    obtain ⟨rfl, rfl⟩ := Prod.mk.inj hread
    obtain ⟨-, hspan⟩ := Standard.digits?_eq_some hds
    simp only [hspan, hexponent']
    rw [if_neg (by simp [hne])]
  · next hpoint =>
    obtain ⟨rfl, rfl⟩ := Prod.mk.inj (Option.some.inj hfraction)
    dsimp only
    split
    · exact absurd rfl (hpoint _)
    · rw [if_neg hne, hexponent', List.append_nil]

/-- A number of the standard is no hexadecimal one, for it would end in front of the letter. -/
theorem unsigned_agree (hends : EndsWord rest) :
    Json5.unsigned? text = some (ws ++ fs ++ es, rest) := by
  obtain ⟨d, tail, htext, hd⟩ := Standard.exists_digit_of_whole? hwhole
  unfold Json5.unsigned?
  split
  · obtain rfl := (List.cons.inj htext).1
    cases hd
  · obtain rfl := (List.cons.inj htext).1
    cases hd
  · next x tail' =>
    split
    · next hx =>
      -- the zero is the whole number, and `x` does not end a word
      obtain ⟨rfl, rfl⟩ := Prod.mk.inj (Option.some.inj hwhole)
      rw [Bool.or_eq_true, decide_eq_true_eq, decide_eq_true_eq] at hx
      obtain ⟨rfl, rfl⟩ : fs = [] ∧ after = x :: tail' := by
        rcases hx with rfl | rfl <;> simpa [Standard.fraction?, eq_comm] using hfraction
      obtain ⟨-, rfl⟩ : es = [] ∧ rest = x :: tail' := by
        rcases hx with rfl | rfl <;> simpa [Standard.exponent?, eq_comm] using hexponent
      have hx' := hends x rfl
      rcases hx with rfl | rfl <;> simp [Standard.isSkipped] at hx'
    · exact decimal_agree hwhole hfraction hexponent
  · exact decimal_agree hwhole hfraction hexponent

end Unsigned

/-- The parts of a number of the standard. -/
theorem Standard.exists_parts_of_number? {lexeme : List Char}
    (h : number? text = some (lexeme, rest)) :
    ∃ sign tail ws behind fs after es,
      (text = '-' :: tail ∧ sign = ['-'] ∨ text = tail ∧ sign = []) ∧
      whole? tail = some (ws, behind) ∧ fraction? behind = some (fs, after) ∧
      exponent? after = some (es, rest) ∧ lexeme = sign ++ (ws ++ fs ++ es) := by
  unfold number? at h
  split at h
  next sign tail hsign =>
  obtain ⟨⟨ws, behind⟩, hwhole, h⟩ := Option.bind_eq_some_iff.1 h
  obtain ⟨⟨fs, after⟩, hfraction, h⟩ := Option.bind_eq_some_iff.1 h
  obtain ⟨⟨es, last⟩, hexponent, h⟩ := Option.bind_eq_some_iff.1 h
  obtain ⟨rfl, rfl⟩ := Prod.mk.inj (Option.some.inj h)
  refine ⟨sign, tail, ws, behind, fs, after, es, ?_, hwhole, hfraction, hexponent, by simp⟩
  split at hsign
  · obtain ⟨rfl, rfl⟩ := Prod.mk.inj hsign
    exact Or.inl ⟨rfl, rfl⟩
  · obtain ⟨rfl, rfl⟩ := Prod.mk.inj hsign
    exact Or.inr ⟨rfl, rfl⟩

/-- **A number of the standard** is read alike in both dialects, up to the end of the word. -/
theorem number?_agree {lexeme : List Char} (h : Standard.number? text = some (lexeme, rest))
    (hends : EndsWord rest) : Json5.number? text = some (lexeme, rest) := by
  obtain ⟨sign, tail, ws, behind, fs, after, es, htext, hwhole, hfraction, hexponent, rfl⟩ :=
    Standard.exists_parts_of_number? h
  have hunsigned := unsigned_agree hwhole hfraction hexponent hends
  obtain ⟨d, tail', rfl, hd⟩ := Standard.exists_digit_of_whole? hwhole
  rcases htext with ⟨rfl, rfl⟩ | ⟨rfl, rfl⟩
  · rw [Json5.number?, hunsigned]
    rfl
  · rw [Json5.number?]
    · exact hunsigned
    · rintro _ ⟨⟩
      cases hd
    · rintro _ ⟨⟩
      cases hd

theorem Json5.string?_eq_none_of_number? {lexeme : List Char}
    (h : Standard.number? text = some (lexeme, rest)) : string? text = none := by
  obtain ⟨sign, tail, ws, behind, fs, after, es, htext, hwhole, -⟩ :=
    Standard.exists_parts_of_number? h
  obtain ⟨d, tail', rfl, hd⟩ := Standard.exists_digit_of_whole? hwhole
  rcases htext with ⟨rfl, -⟩ | ⟨rfl, -⟩
  · rfl
  · have hquote : d ≠ '\"' ∧ d ≠ '\x27' := by
      constructor
      all_goals
        rintro rfl
        cases hd
    rw [string?, if_neg (by simp [hquote])]

end LaunchLine.Json
