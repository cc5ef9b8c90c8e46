import LaunchLine.Proofs.Utf8
import Mathlib.Tactic.SplitIfs

/-!
# Proofs/LossyText — a text at the end of any bytes is shown as it is

Where ill-formed bytes are tolerated, each step of the decoder takes one byte and some followers
behind it, whether they make up a character or not (`exists_taken_of_decodeCharsLossy`).  No
character begins with a follower, `not_isFollower_of_encode`; so no step runs from what is in front
into a text, and what bytes show as ends with every text that they end with:
`suffix_decodeLossy`.
-/

namespace LaunchLine.Utf8

variable {b : UInt8} {bytes rest : Bytes}

/-- A byte that stands behind the first one of a character. -/
def IsFollower (b : UInt8) : Prop :=
  0x80 ≤ b.toNat ∧ b.toNat ≤ 0xBF

/-! ## What one step takes -/

/-- Only followers may be behind a first byte. -/
theorem range_of_lead? {lead : Lead} (h : lead? b = some lead) :
    0x80 ≤ lead.low.toNat ∧ lead.high.toNat ≤ 0xBF := by
  unfold lead? at h
  split_ifs at h <;> cases h <;> simp

/-- What fits behind a first byte are followers, be they enough of them or not. -/
theorem exists_taken_of_follow {low high : UInt8} (hlow : 0x80 ≤ low.toNat)
    (hhigh : high.toNat ≤ 0xBF) (bits seen n : Nat) (bytes : Bytes) :
    ∃ taken rest, bytes = taken ++ rest ∧ (∀ b ∈ taken, IsFollower b) ∧
      ((∃ v, follow low high bits seen n bytes = .ok (v, rest)) ∨
        follow low high bits seen n bytes = .error (seen + taken.length)) := by
  induction n generalizing low high bits seen bytes with
  | zero => exact ⟨[], bytes, rfl, List.forall_mem_nil _, .inl ⟨bits, rfl⟩⟩
  | succ n ih =>
    cases bytes with
    | nil => exact ⟨[], [], rfl, List.forall_mem_nil _, .inr rfl⟩
    | cons b bytes =>
      rw [follow]
      split
      · next hfits =>
        have hb : IsFollower b := by
          simp only [Bool.and_eq_true, decide_eq_true_eq, UInt8.le_iff_toNat_le] at hfits
          exact ⟨Nat.le_trans hlow hfits.1, Nat.le_trans hfits.2 hhigh⟩
        obtain ⟨taken, rest, rfl, htaken, hread⟩ := @ih 0x80 0xBF (by decide) (by decide)
          (bits * 64 + (b.toNat - 0x80)) (seen + 1) bytes
        have hseen : seen + 1 + taken.length = seen + (b :: taken).length := by
          rw [List.length_cons, Nat.add_right_comm, Nat.add_assoc]
        rw [hseen] at hread
        exact ⟨b :: taken, rest, rfl, List.forall_mem_cons.2 ⟨hb, htaken⟩, hread⟩
      · exact ⟨[], b :: bytes, rfl, List.forall_mem_nil _, .inr rfl⟩

/-- **A first byte and followers** are what is read as a character, and what is given up as well. -/
theorem exists_taken_of_decodeChar (b : UInt8) (bytes : Bytes) :
    ∃ taken rest, bytes = taken ++ rest ∧ (∀ b ∈ taken, IsFollower b) ∧
      ((∃ c, decodeChar (b :: bytes) = .ok (c, rest)) ∨
        decodeChar (b :: bytes) = .error (taken.length + 1)) := by
  rw [decodeChar]
  split
  · exact ⟨[], bytes, rfl, List.forall_mem_nil _, .inl ⟨_, rfl⟩⟩
  cases hlead : lead? b with
  | none => exact ⟨[], bytes, rfl, List.forall_mem_nil _, .inr rfl⟩
  | some lead =>
    obtain ⟨hlow, hhigh⟩ := range_of_lead? hlead
    obtain ⟨taken, rest, hbytes, htaken, ⟨v, hread⟩ | hread⟩ :=
      exists_taken_of_follow hlow hhigh lead.bits 1 lead.followers bytes
    · exact ⟨taken, rest, hbytes, htaken, .inl ⟨Char.ofNat v, by simp only [hread, Except.map]⟩⟩
    · refine ⟨taken, rest, hbytes, htaken, .inr ?_⟩
      simp only [hread, Except.map, Nat.add_comm]

/-- **One step of the decoder** shows one character for a first byte and some followers. -/
theorem exists_taken_of_decodeCharsLossy (fuel : Nat) (b : UInt8) (bytes : Bytes) :
    ∃ c taken rest, bytes = taken ++ rest ∧ (∀ b ∈ taken, IsFollower b) ∧
      decodeCharsLossy (fuel + 1) (b :: bytes) = c :: decodeCharsLossy fuel rest := by
  obtain ⟨taken, rest, rfl, htaken, ⟨c, hread⟩ | hread⟩ := exists_taken_of_decodeChar b bytes
  · refine ⟨c, taken, rest, rfl, htaken, ?_⟩
    simp only [decodeCharsLossy, hread]
  · refine ⟨'\ufffd', taken, rest, rfl, htaken, ?_⟩
    simp only [decodeCharsLossy, hread, List.drop_succ_cons, List.drop_left]

/-! ## Text at the end -/

/-- **No character begins with a follower.** -/
theorem not_isFollower_of_encode {cs : List Char}
    (h : cs.flatMap String.utf8EncodeChar = b :: rest) : ¬ IsFollower b := by
  intro hb
  cases cs with
  | nil => cases h
  | cons c cs =>
    have hread := decodeChar_eq_ok_iff.2 (h.symm.trans List.flatMap_cons)
    have hlow : b.toNat < 0xC2 := Nat.lt_of_le_of_lt hb.2 (by decide)
    rw [decodeChar_of_lead?_eq_none hb.1 (lead?_eq_none (.inl hlow))] at hread
    cases hread

/-- **What a step takes is all in front of a text.** -/
theorem exists_front_of_taken {cs : List Char} {front taken : Bytes}
    (htaken : ∀ b ∈ taken, IsFollower b)
    (h : front ++ cs.flatMap String.utf8EncodeChar = taken ++ rest) :
    ∃ front', front = taken ++ front' ∧ rest = front' ++ cs.flatMap String.utf8EncodeChar := by
  obtain ⟨more, rfl, htext⟩ | hfront := List.append_eq_append_iff.1 h
  · cases more with
    | nil => exact ⟨[], by rw [List.append_nil, List.append_nil], htext.symm⟩
    | cons b more =>
      exact absurd (htaken b (List.mem_append_right front List.mem_cons_self))
        (not_isFollower_of_encode htext)
  · exact hfront

theorem suffix_decodeCharsLossy {cs : List Char} {fuel : Nat} (front : Bytes)
    (hfuel : (front ++ cs.flatMap String.utf8EncodeChar).length ≤ fuel) :
    cs <:+ decodeCharsLossy fuel (front ++ cs.flatMap String.utf8EncodeChar) := by
  -- Induction on what is in front: a step takes a byte of it, and none of the text.
  induction hn : front.length using Nat.strongRecOn generalizing front fuel with
  | ind n ih =>
    cases front with
    | nil =>
      have hcs : cs.length ≤ fuel := Nat.le_trans (length_le_length_flatMap cs) hfuel
      have hshown := decodeCharsLossy_of_decodeChars? (decodeChars?_flatMap hcs)
      exact ⟨[], hshown.symm⟩
    | cons b front =>
      obtain ⟨fuel, rfl⟩ := Nat.exists_eq_succ_of_ne_zero (Nat.ne_zero_of_lt hfuel)
      obtain ⟨c, taken, rest, hbytes, htaken, hread⟩ :=
        exists_taken_of_decodeCharsLossy fuel b (front ++ cs.flatMap String.utf8EncodeChar)
      obtain ⟨front', rfl, rfl⟩ := exists_front_of_taken htaken hbytes
      simp only [List.length_append, List.length_cons] at hn hfuel
      have hshorter : front'.length < n := by omega
      have henough : (front' ++ cs.flatMap String.utf8EncodeChar).length ≤ fuel := by
        rw [List.length_append]
        omega
      rw [List.cons_append, Nat.succ_eq_add_one, hread]
      exact (ih front'.length hshorter front' henough rfl).trans (List.suffix_cons c _)

/-- **A text at the end of any bytes is shown as it is.** -/
theorem suffix_decodeLossy {text : String} (h : encode text <:+ bytes) :
    text.toList <:+ (decodeLossy bytes).toList := by
  obtain ⟨front, rfl⟩ := h
  rw [decodeLossy, String.toList_ofList]
  exact suffix_decodeCharsLossy front (Nat.le_refl _)

end LaunchLine.Utf8
