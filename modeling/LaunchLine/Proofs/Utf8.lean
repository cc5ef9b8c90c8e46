import LaunchLine.Text.Utf8
import Mathlib.Algebra.Group.Nat.Defs

/-!
# Proofs/Utf8 — bytes that are a text are the bytes of one text

Decoding and encoding undo each other: `decode?_eq_some_iff`.  A character is one byte, or a first
byte and one to three **followers** with six bits each; `pointBytes` lays its code point out in this
way.  The decoder takes such a row of bytes apart, `decodeChar_pointBytes_append`, and takes nothing
else, `exists_point_of_decodeChar`: overlong forms and surrogates are kept out by the range of the
first follower.
-/

namespace LaunchLine.Utf8

/-! ## The bytes of a code point -/

theorem toNat_ofNat_of_lt {n : Nat} (h : n < 256) : (UInt8.ofNat n).toNat = n := by
  rw [UInt8.toNat_ofNat']
  exact Nat.mod_eq_of_lt h

/-- The byte that carries the last six bits of a number. -/
def follower (x : Nat) : UInt8 :=
  UInt8.ofNat (x % 64 + 0x80)

theorem toNat_follower (x : Nat) : (follower x).toNat = x % 64 + 0x80 :=
  toNat_ofNat_of_lt (by omega)

theorem follower_eq {x y : Nat} (h : x % 64 = y % 64) : follower x = follower y := by
  rw [follower, follower, h]

/-- The bytes that carry the last `n` groups of six bits. -/
def followers (v : Nat) : (n : Nat) → Bytes
  | 0 => []
  | n + 1 => follower (v / 64 ^ n) :: followers v n

/-- The bytes of a code point. -/
def pointBytes (v : Nat) : Bytes :=
  if v ≤ 0x7F then [UInt8.ofNat v]
  else if v ≤ 0x7FF then UInt8.ofNat (v / 64 % 32 + 0xC0) :: followers v 1
  else if v ≤ 0xFFFF then UInt8.ofNat (v / 4096 % 16 + 0xE0) :: followers v 2
  else UInt8.ofNat (v / 262144 % 8 + 0xF0) :: followers v 3

theorem utf8EncodeChar_eq (c : Char) : String.utf8EncodeChar c = pointBytes c.toNat := by
  simp only [pointBytes, followers, Nat.pow_zero, Nat.div_one]
  rfl

/-! ## The first byte -/

section Lead

variable {b : UInt8}

theorem not_lt_of_le_toNat (hb : 0x80 ≤ b.toNat) : ¬ b < 0x80 := by
  rw [UInt8.lt_iff_toNat_lt]
  exact Nat.not_lt.2 hb

/-- What `lead?` says of the first byte decides how the others are read. -/
theorem decodeChar_of_lead? {low high : UInt8} {n bits : Nat} (hb : 0x80 ≤ b.toNat)
    (h : lead? b = some ⟨n, low, high, bits⟩) (rest : Bytes) :
    decodeChar (b :: rest) =
      (follow low high bits 1 n rest).map fun (point, rest) => (Char.ofNat point, rest) := by
  rw [decodeChar, if_neg (not_lt_of_le_toNat hb), h]

theorem decodeChar_of_lead?_eq_none (hb : 0x80 ≤ b.toNat) (h : lead? b = none) (rest : Bytes) :
    decodeChar (b :: rest) = .error 1 := by
  rw [decodeChar, if_neg (not_lt_of_le_toNat hb), h]

theorem lead?_two (hlow : 0xC2 ≤ b.toNat) (hhigh : b.toNat ≤ 0xDF) :
    lead? b = some ⟨1, 0x80, 0xBF, b.toNat - 0xC0⟩ := by
  simp [lead?, UInt8.le_iff_toNat_le, hlow, hhigh]

theorem lead?_three (hlow : 0xE0 ≤ b.toNat) (hhigh : b.toNat ≤ 0xEF) :
    lead? b = some ⟨2, if b.toNat = 0xE0 then 0xA0 else 0x80,
      if b.toNat = 0xED then 0x9F else 0xBF, b.toNat - 0xE0⟩ := by
  simp only [lead?, UInt8.le_iff_toNat_le, beq_iff_eq, ← UInt8.toNat_inj, UInt8.reduceToNat,
    Bool.and_eq_true, decide_eq_true_eq]
  grind

theorem lead?_four (hlow : 0xF0 ≤ b.toNat) (hhigh : b.toNat ≤ 0xF4) :
    lead? b = some ⟨3, if b.toNat = 0xF0 then 0x90 else 0x80,
      if b.toNat = 0xF4 then 0x8F else 0xBF, b.toNat - 0xF0⟩ := by
  simp only [lead?, UInt8.le_iff_toNat_le, beq_iff_eq, ← UInt8.toNat_inj, UInt8.reduceToNat,
    Bool.and_eq_true, decide_eq_true_eq]
  grind

theorem lead?_eq_none (h : b.toNat < 0xC2 ∨ 0xF4 < b.toNat) : lead? b = none := by
  simp only [lead?, UInt8.le_iff_toNat_le, beq_iff_eq, ← UInt8.toNat_inj, UInt8.reduceToNat,
    Bool.and_eq_true, decide_eq_true_eq]
  grind

end Lead

/-! ## The followers -/

/-- A follower in the range that is left to it adds its six bits. -/
theorem follow_cons {low high : UInt8} {x : Nat} (hlow : low.toNat ≤ x % 64 + 0x80)
    (hhigh : x % 64 + 0x80 ≤ high.toNat) (bits seen n : Nat) (rest : Bytes) :
    follow low high bits seen (n + 1) (follower x :: rest)
      = follow 0x80 0xBF (bits * 64 + x % 64) (seen + 1) n rest := by
  have hb := toNat_follower x
  have hfits : (low ≤ follower x && follower x ≤ high) = true := by
    simp only [UInt8.le_iff_toNat_le, hb, hlow, hhigh, decide_true, Bool.and_self]
  rw [follow, if_pos hfits, hb, Nat.add_sub_cancel]

/-- What can follow begins with a follower in that range. -/
theorem exists_follower_of_follow {low high : UInt8} {bits seen n v : Nat} {bytes rest : Bytes}
    (hlow : 0x80 ≤ low.toNat) (hhigh : high.toNat ≤ 0xBF)
    (h : follow low high bits seen (n + 1) bytes = .ok (v, rest)) :
    ∃ x tail, x < 64 ∧ low.toNat ≤ x + 0x80 ∧ x + 0x80 ≤ high.toNat ∧
      bytes = follower x :: tail ∧
      follow 0x80 0xBF (bits * 64 + x) (seen + 1) n tail = .ok (v, rest) := by
  cases bytes with
  | nil => cases h
  | cons b tail =>
    rw [follow] at h
    split at h
    · next hb =>
      rw [Bool.and_eq_true, decide_eq_true_eq, decide_eq_true_eq, UInt8.le_iff_toNat_le,
        UInt8.le_iff_toNat_le] at hb
      have hbyte : b = follower (b.toNat - 0x80) := by
        rw [← UInt8.toNat_inj, toNat_follower]
        omega
      exact ⟨b.toNat - 0x80, tail, by omega, by omega, by omega, by rw [← hbyte], h⟩
    · cases h

/-- What is in front of `n + 1` groups of six bits, and the first of them, are what is in front of
the other `n`. -/
theorem div_pow_succ (v n : Nat) : v / 64 ^ (n + 1) * 64 + v / 64 ^ n % 64 = v / 64 ^ n := by
  rw [Nat.pow_succ, ← Nat.div_div_eq_div_mul, Nat.div_add_mod']

/-- The last `n` groups of a number are read behind the others. -/
theorem follow_followers (v seen n : Nat) (rest : Bytes) :
    follow 0x80 0xBF (v / 64 ^ n) seen n (followers v n ++ rest) = .ok (v, rest) := by
  -- `bits` is always what is in front of the groups that are still to be read
  induction n generalizing seen with
  | zero =>
    rw [Nat.pow_zero, Nat.div_one]
    rfl
  | succ n ih =>
    have hsix : v / 64 ^ n % 64 < 64 := Nat.mod_lt _ (by decide)
    rw [followers, List.cons_append, follow_cons (Nat.le_add_left _ _)
      (Nat.add_le_add_right (Nat.le_of_lt_succ hsix) 0x80), div_pow_succ, ih]

/-- Nothing else is read as them. -/
theorem eq_followers_of_follow {bits seen n v : Nat} {bytes rest : Bytes}
    (h : follow 0x80 0xBF bits seen n bytes = .ok (v, rest)) :
    v / 64 ^ n = bits ∧ bytes = followers v n ++ rest := by
  induction n generalizing bits seen bytes with
  | zero =>
    obtain ⟨rfl, rfl⟩ := Prod.mk.inj (Except.ok.inj h)
    exact ⟨Nat.div_one _, rfl⟩
  | succ n ih =>
    obtain ⟨x, tail, hx, -, -, rfl, hfollow⟩ :=
      exists_follower_of_follow (by decide) (by decide) h
    obtain ⟨hbits, rfl⟩ := ih hfollow
    have hgroups := div_pow_succ v n
    have hgroup : v / 64 ^ n % 64 = x % 64 := by omega
    refine ⟨by omega, ?_⟩
    rw [followers, follower_eq hgroup, List.cons_append]

/-- **A row of followers is what can follow**, if the first is in the range that is left to it. -/
theorem follow_succ_eq_ok_iff {low high : UInt8} {bits seen n v : Nat} {bytes rest : Bytes}
    (hlow : 0x80 ≤ low.toNat) (hhigh : high.toNat ≤ 0xBF) :
    follow low high bits seen (n + 1) bytes = .ok (v, rest) ↔
      v / 64 ^ (n + 1) = bits ∧ low.toNat ≤ v / 64 ^ n % 64 + 0x80 ∧
        v / 64 ^ n % 64 + 0x80 ≤ high.toNat ∧ bytes = followers v (n + 1) ++ rest := by
  have hgroups := div_pow_succ v n
  constructor
  · intro h
    obtain ⟨x, tail, hx, hfrom, hto, rfl, hfollow⟩ := exists_follower_of_follow hlow hhigh h
    obtain ⟨hbits, rfl⟩ := eq_followers_of_follow hfollow
    have hgroup : v / 64 ^ n % 64 = x := by omega
    refine ⟨by omega, by omega, by omega, ?_⟩
    rw [followers, follower_eq (hgroup.trans (Nat.mod_eq_of_lt hx).symm), List.cons_append]
  · rintro ⟨rfl, hfrom, hto, rfl⟩
    rw [followers, List.cons_append, follow_cons hfrom hto, hgroups, follow_followers]

/-! ## One character -/

section Read

variable {b : UInt8} {bytes rest : Bytes} {c : Char} {v : Nat}

/-- A character of more than one byte is what its first byte and the followers carry. -/
theorem decodeChar_eq_ok_iff_of_lead? {low high : UInt8} {n bits : Nat} (hb : 0x80 ≤ b.toNat)
    (hlow : 0x80 ≤ low.toNat) (hhigh : high.toNat ≤ 0xBF)
    (hlead : lead? b = some ⟨n + 1, low, high, bits⟩) :
    decodeChar (b :: bytes) = .ok (c, rest) ↔
      ∃ v, c = Char.ofNat v ∧ v / 64 ^ (n + 1) = bits ∧ low.toNat ≤ v / 64 ^ n % 64 + 0x80 ∧
        v / 64 ^ n % 64 + 0x80 ≤ high.toNat ∧ bytes = followers v (n + 1) ++ rest := by
  rw [decodeChar_of_lead? hb hlead]
  constructor
  · intro h
    cases hfollow : follow low high bits 1 (n + 1) bytes with
    | error e =>
      rw [hfollow] at h
      cases h
    | ok read =>
      rw [hfollow] at h
      obtain ⟨rfl, rfl⟩ := Prod.mk.inj (Except.ok.inj h)
      exact ⟨_, rfl, (follow_succ_eq_ok_iff hlow hhigh).1 hfollow⟩
  · rintro ⟨v, rfl, h⟩
    rw [(follow_succ_eq_ok_iff hlow hhigh).2 h]
    rfl

theorem decodeChar_one (h : b.toNat ≤ 0x7F) :
    decodeChar (b :: bytes) = .ok (Char.ofNat b.toNat, bytes) := by
  rw [decodeChar, if_pos (UInt8.lt_iff_toNat_lt.2 (Nat.lt_succ_of_le h))]

theorem decodeChar_two (hlow : 0xC2 ≤ b.toNat) (hhigh : b.toNat ≤ 0xDF) :
    decodeChar (b :: bytes) = .ok (c, rest) ↔
      ∃ v, c = Char.ofNat v ∧ v / 64 = b.toNat - 0xC0 ∧ bytes = followers v 1 ++ rest := by
  rw [decodeChar_eq_ok_iff_of_lead? (by omega) (by decide) (by decide) (lead?_two hlow hhigh)]
  refine exists_congr fun v => and_congr_right fun _ => and_congr_right fun _ => ?_
  simp only [UInt8.reduceToNat]
  refine ⟨fun h => h.2.2, fun h => ⟨?_, ?_, h⟩⟩ <;> omega

/-- The range of the first follower keeps the overlong forms and the surrogates out. -/
theorem decodeChar_three (hlow : 0xE0 ≤ b.toNat) (hhigh : b.toNat ≤ 0xEF) :
    decodeChar (b :: bytes) = .ok (c, rest) ↔
      ∃ v, c = Char.ofNat v ∧ v / 4096 = b.toNat - 0xE0 ∧ 0x800 ≤ v ∧ v.isValidChar ∧
        bytes = followers v 2 ++ rest := by
  rw [decodeChar_eq_ok_iff_of_lead? (by omega) (by split <;> decide) (by split <;> decide)
    (lead?_three hlow hhigh)]
  refine exists_congr fun v => and_congr_right fun _ => and_congr_right fun hv => ?_
  rw [Nat.isValidChar, ← and_assoc, ← and_assoc]
  refine and_congr_left fun _ => ?_
  split <;> split <;> simp only [UInt8.reduceToNat] <;> omega

/-- That range also keeps out what is behind the last code point. -/
theorem decodeChar_four (hlow : 0xF0 ≤ b.toNat) (hhigh : b.toNat ≤ 0xF4) :
    decodeChar (b :: bytes) = .ok (c, rest) ↔
      ∃ v, c = Char.ofNat v ∧ v / 262144 = b.toNat - 0xF0 ∧ 0x10000 ≤ v ∧ v.isValidChar ∧
        bytes = followers v 3 ++ rest := by
  rw [decodeChar_eq_ok_iff_of_lead? (by omega) (by split <;> decide) (by split <;> decide)
    (lead?_four hlow hhigh)]
  refine exists_congr fun v => and_congr_right fun _ => and_congr_right fun hv => ?_
  rw [Nat.isValidChar, ← and_assoc, ← and_assoc]
  refine and_congr_left fun _ => ?_
  split <;> split <;> simp only [UInt8.reduceToNat] <;> omega

/-- **A code point is read from its bytes.** -/
theorem decodeChar_pointBytes_append (hvalid : v.isValidChar) (rest : Bytes) :
    decodeChar (pointBytes v ++ rest) = .ok (Char.ofNat v, rest) := by
  have hbound : v < 0x110000 := by
    rw [Nat.isValidChar] at hvalid
    omega
  rw [pointBytes]
  split
  · next h1 =>
    have hb : (UInt8.ofNat v).toNat = v := toNat_ofNat_of_lt (by omega)
    rw [List.cons_append, List.nil_append, decodeChar_one (by omega), hb]
  · split
    · next h1 h2 =>
      have hb : (UInt8.ofNat (v / 64 % 32 + 0xC0)).toNat = v / 64 % 32 + 0xC0 :=
        toNat_ofNat_of_lt (by omega)
      exact (decodeChar_two (by omega) (by omega)).2 ⟨v, rfl, by omega, rfl⟩
    · split
      · next h2 h3 =>
        have hb : (UInt8.ofNat (v / 4096 % 16 + 0xE0)).toNat = v / 4096 % 16 + 0xE0 :=
          toNat_ofNat_of_lt (by omega)
        exact (decodeChar_three (by omega) (by omega)).2 ⟨v, rfl, by omega, by omega, hvalid, rfl⟩
      · next h3 =>
        have hb : (UInt8.ofNat (v / 262144 % 8 + 0xF0)).toNat = v / 262144 % 8 + 0xF0 :=
          toNat_ofNat_of_lt (by omega)
        exact (decodeChar_four (by omega) (by omega)).2 ⟨v, rfl, by omega, by omega, hvalid, rfl⟩

/-- **What is read as a character are the bytes of its code point.** -/
theorem exists_point_of_decodeChar (h : decodeChar bytes = .ok (c, rest)) :
    ∃ v : Nat, v.isValidChar ∧ c = Char.ofNat v ∧ bytes = pointBytes v ++ rest := by
  cases bytes with
  | nil => cases h
  | cons b bytes =>
    -- the first byte tells how many there are
    obtain hone | htwo | hthree | hfour | hnone : b.toNat ≤ 0x7F ∨
        (0xC2 ≤ b.toNat ∧ b.toNat ≤ 0xDF) ∨ (0xE0 ≤ b.toNat ∧ b.toNat ≤ 0xEF) ∨
        (0xF0 ≤ b.toNat ∧ b.toNat ≤ 0xF4) ∨
        (0x80 ≤ b.toNat ∧ (b.toNat < 0xC2 ∨ 0xF4 < b.toNat)) := by omega
    · rw [decodeChar_one hone] at h
      obtain ⟨rfl, rfl⟩ := Prod.mk.inj (Except.ok.inj h)
      refine ⟨b.toNat, Or.inl (by omega), rfl, ?_⟩
      rw [pointBytes, if_pos hone, UInt8.ofNat_toNat, List.cons_append, List.nil_append]
    · obtain ⟨v, rfl, hbits, rfl⟩ := (decodeChar_two htwo.1 htwo.2).1 h
      have hfirst : v / 64 % 32 + 0xC0 = b.toNat := by omega
      refine ⟨v, Or.inl (by omega), rfl, ?_⟩
      rw [pointBytes, if_neg (by omega), if_pos (by omega), hfirst, UInt8.ofNat_toNat,
        List.cons_append]
    · obtain ⟨v, rfl, hbits, hlong, hvalid, rfl⟩ := (decodeChar_three hthree.1 hthree.2).1 h
      have hfirst : v / 4096 % 16 + 0xE0 = b.toNat := by omega
      refine ⟨v, hvalid, rfl, ?_⟩
      rw [pointBytes, if_neg (by omega), if_neg (by omega), if_pos (by omega), hfirst,
        UInt8.ofNat_toNat, List.cons_append]
    · obtain ⟨v, rfl, hbits, hlong, hvalid, rfl⟩ := (decodeChar_four hfour.1 hfour.2).1 h
      have hfirst : v / 262144 % 8 + 0xF0 = b.toNat := by omega
      refine ⟨v, hvalid, rfl, ?_⟩
      rw [pointBytes, if_neg (by omega), if_neg (by omega), if_neg (by omega), hfirst,
        UInt8.ofNat_toNat, List.cons_append]
    · rw [decodeChar_of_lead?_eq_none hnone.1 (lead?_eq_none hnone.2)] at h
      cases h

/-- **A character is read from its bytes, and from no others.** -/
theorem decodeChar_eq_ok_iff :
    decodeChar bytes = .ok (c, rest) ↔ bytes = String.utf8EncodeChar c ++ rest := by
  constructor
  · intro h
    obtain ⟨v, hvalid, rfl, rfl⟩ := exists_point_of_decodeChar h
    have hv : (Char.ofNat v).toNat = v := by
      rw [Char.ofNat, dif_pos hvalid]
      rfl
    rw [utf8EncodeChar_eq, hv]
  · rintro rfl
    have hread : decodeChar (pointBytes c.toNat ++ rest) = .ok (Char.ofNat c.toNat, rest) :=
      decodeChar_pointBytes_append c.valid rest
    rw [Char.ofNat_toNat] at hread
    rwa [utf8EncodeChar_eq]

end Read

/-! ## A whole text -/

theorem utf8EncodeChar_append_ne_nil (c : Char) (rest : Bytes) :
    String.utf8EncodeChar c ++ rest ≠ [] := by
  intro h
  have hlength := congrArg List.length (List.append_eq_nil_iff.1 h).1
  rw [String.length_utf8EncodeChar] at hlength
  exact absurd hlength (Nat.ne_of_gt c.utf8Size_pos)

theorem decodeChars?_succ {bytes : Bytes} (hne : bytes ≠ []) (fuel : Nat) :
    decodeChars? (fuel + 1) bytes =
      match decodeChar bytes with
      | .ok (c, rest) => (decodeChars? fuel rest).map (c :: ·)
      | .error _ => none := by
  cases bytes with
  | nil => exact absurd rfl hne
  | cons => rfl

theorem eq_flatMap_of_decodeChars? {fuel : Nat} {bytes : Bytes} {cs : List Char}
    (h : decodeChars? fuel bytes = some cs) : bytes = cs.flatMap String.utf8EncodeChar := by
  induction fuel generalizing bytes cs with
  | zero =>
    cases bytes with
    | nil =>
      obtain rfl : [] = cs := Option.some.inj h
      rfl
    | cons => cases h
  | succ fuel ih =>
    by_cases hne : bytes = []
    · subst hne
      obtain rfl : [] = cs := Option.some.inj h
      rfl
    · rw [decodeChars?_succ hne] at h
      split at h
      · next c rest hc =>
        obtain ⟨cs', hrest, rfl⟩ := Option.map_eq_some_iff.1 h
        rw [decodeChar_eq_ok_iff.1 hc, ih hrest]
        rfl
      · cases h

theorem decodeChars?_flatMap {fuel : Nat} {cs : List Char} (h : cs.length ≤ fuel) :
    decodeChars? fuel (cs.flatMap String.utf8EncodeChar) = some cs := by
  induction cs generalizing fuel with
  | nil => cases fuel <;> rfl
  | cons c cs ih =>
    obtain ⟨fuel, rfl⟩ := Nat.exists_eq_succ_of_ne_zero (Nat.ne_zero_of_lt h)
    rw [List.flatMap_cons, Nat.succ_eq_add_one,
      decodeChars?_succ (utf8EncodeChar_append_ne_nil c _), decodeChar_eq_ok_iff.2 rfl]
    simp only [ih (Nat.le_of_succ_le_succ h), Option.map_some]

theorem length_le_length_flatMap (cs : List Char) :
    cs.length ≤ (cs.flatMap String.utf8EncodeChar).length := by
  induction cs with
  | nil => exact Nat.le_refl 0
  | cons c cs ih =>
    have hc := c.utf8Size_pos
    rw [List.flatMap_cons, List.length_append, String.length_utf8EncodeChar, List.length_cons]
    omega

/-- **The bytes of a text, and no others, are read as it.** -/
theorem decode?_eq_some_iff {bytes : Bytes} {text : String} :
    decode? bytes = some text ↔ encode text = bytes := by
  rw [decode?, encode, Option.map_eq_some_iff]
  constructor
  · rintro ⟨cs, hcs, rfl⟩
    rw [String.toList_ofList]
    exact (eq_flatMap_of_decodeChars? hcs).symm
  · rintro rfl
    exact ⟨text.toList, decodeChars?_flatMap (length_le_length_flatMap _), String.ofList_toList⟩

theorem decode?_encode (text : String) : decode? (encode text) = some text :=
  decode?_eq_some_iff.2 rfl

theorem encode_injective : Function.Injective encode := fun text _ h =>
  Option.some.inj ((decode?_encode text).symm.trans (decode?_eq_some_iff.2 h.symm))

theorem decodeCharsLossy_of_decodeChars? {fuel : Nat} {bytes : Bytes} {cs : List Char}
    (h : decodeChars? fuel bytes = some cs) : decodeCharsLossy fuel bytes = cs := by
  fun_induction decodeChars? fuel bytes generalizing cs with
  | case1 fuel =>
    obtain rfl := Option.some.inj h
    cases fuel <;> rfl
  | case2 => cases h
  | case3 fuel bytes hbytes c rest hc ih =>
    obtain ⟨cs, hcs, rfl⟩ := Option.map_eq_some_iff.1 h
    rw [decodeCharsLossy, hc]
    · exact congrArg (c :: ·) (ih hcs)
    · exact hbytes
  | case4 => cases h

/-- **Text is read as it is** where ill-formed bytes are tolerated. -/
theorem decodeLossy_of_decode? {bytes : Bytes} {text : String} (h : decode? bytes = some text) :
    decodeLossy bytes = text := by
  obtain ⟨cs, hcs, rfl⟩ := Option.map_eq_some_iff.1 h
  rw [decodeLossy, decodeCharsLossy_of_decodeChars? hcs]

end LaunchLine.Utf8
