import LaunchLine.Proofs.Spelling

/-!
# Proofs/Segment — a list of words cut into segments

A **segment** is what the wrapper reads in one go: a loose word, a flag in one word, or a flag and
its value in two.  Every list of words is a row of segments and an end where none begins, and in one
way only (`spread_append_inj`): the first word of a segment decides which segment it is.
-/

namespace LaunchLine

/-- Words that are read together. -/
inductive Segment
  /-- A word that is not the wrapper's. -/
  | loose (word : String) (foreign : IsForeign word) (inner : word ≠ divider)
  /-- A flag that takes no value, by a name of it. -/
  | switch (flag : Flag) (name : String) (named : flag.isNamed name = true)
      (valueless : flag.takesValue = false)
  /-- A flag and its value in one word. -/
  | inline (flag : Flag) (value : String) (takes : flag.takesValue = true)
  /-- A name of a flag and, as a word of its own, the value. -/
  | split (flag : Flag) (name value : String) (named : flag.isNamed name = true)
      (takes : flag.takesValue = true) (inner : value ≠ divider)

namespace Segment

/-- The word that a segment begins with. -/
def head : Segment → String
  | loose word .. => word
  | switch _ name .. => name
  | inline flag value _ => flag.long ++ "=" ++ value
  | split _ name .. => name

/-- The word behind the first one, if there is one. -/
def second? : Segment → Option String
  | split _ _ value .. => some value
  | _ => none

/-- The words of a segment. -/
def words (s : Segment) : List String :=
  s.head :: s.second?.toList

/-- What a segment sets. -/
def settings : Segment → List Setting
  | loose .. => []
  | switch flag .. => [flag.setting none]
  | inline flag value _ => [flag.setting (some value)]
  | split flag _ value .. => [flag.setting (some value)]

/-- The words of a segment that are not the wrapper's. -/
def looseWords : Segment → List String
  | loose word .. => [word]
  | _ => []

/-- Whether a segment sets something. -/
def isOption : Segment → Bool
  | loose .. => false
  | _ => true

/-- The flag that the first word of a segment spells, and the value that it gives. -/
def spelled? : Segment → Option (Flag × Option String)
  | loose .. => none
  | switch flag .. => some (flag, none)
  | inline flag value _ => some (flag, some value)
  | split flag .. => some (flag, none)

theorem recognize?_head (s : Segment) : recognize? s.head = s.spelled? := by
  cases s with
  | loose word foreign _ => exact recognize?_eq_none_iff.2 foreign
  | switch flag name named _ => exact recognize?_of_isNamed named
  | inline flag value takes => exact recognize?_inline takes value
  | split flag name value named _ _ => exact recognize?_of_isNamed named

theorem head_ne_divider (s : Segment) : s.head ≠ divider := by
  cases s with
  | loose _ _ inner => exact inner
  | switch flag name named _ => exact Flag.ne_divider_of_isNamed named
  | inline flag value takes =>
    intro h
    have hnone : recognize? (flag.long ++ "=" ++ value) = none := congrArg recognize? h
    exact Option.some_ne_none _ ((recognize?_inline takes value).symm.trans hnone)
  | split flag name value named _ _ => exact Flag.ne_divider_of_isNamed named

/-- A second word stands exactly behind the name of a flag that takes a value. -/
theorem isSome_second?_iff (s : Segment) :
    s.second?.isSome = true ↔ ∃ flag, s.spelled? = some (flag, none) ∧ flag.takesValue = true := by
  cases s <;> simp_all [second?, spelled?]

/-- The divider is never a value of its own. -/
theorem second?_ne_divider (s : Segment) : s.second? ≠ some divider := by
  cases s <;> simp_all [second?]

theorem eq_of_words {s t : Segment} (hspelled : s.spelled? = t.spelled?) (hhead : s.head = t.head)
    (hsecond : s.second? = t.second?) : s = t := by
  cases s <;> cases t <;> simp_all [spelled?, head, second?]

/-- **The first word decides**: if two segments in front of some words are the same list, they are
the same segment in front of the same words. -/
theorem words_append_inj {s t : Segment} {rest rest' : List String}
    (h : s.words ++ rest = t.words ++ rest') : s = t ∧ rest = rest' := by
  obtain ⟨hhead, htail⟩ := List.cons.inj h
  have hspelled : s.spelled? = t.spelled? := by
    rw [← recognize?_head, ← recognize?_head, hhead]
  have hboth : s.second?.isSome = t.second?.isSome := by
    rw [Bool.eq_iff_iff, isSome_second?_iff, isSome_second?_iff, hspelled]
  have hsecond : s.second? = t.second? ∧ rest = rest' := by
    cases hs : s.second? <;> cases ht : t.second? <;> simp_all
  exact ⟨eq_of_words hspelled hhead hsecond.1, hsecond.2⟩

/-! ## Rows of segments -/

/-- The words of a row of segments. -/
def spread (ss : List Segment) : List String :=
  ss.flatMap words

@[simp] theorem spread_nil : spread [] = [] := rfl

@[simp] theorem spread_cons (s : Segment) (ss : List Segment) :
    spread (s :: ss) = s.words ++ spread ss := rfl

@[simp] theorem spread_append (ss ss' : List Segment) :
    spread (ss ++ ss') = spread ss ++ spread ss' := List.flatMap_append

/-- No segment begins here. -/
def IsEnd (words : List String) : Prop :=
  ∀ (s : Segment) (rest : List String), words ≠ s.words ++ rest

/-- **A list of words is cut in one way only.** -/
theorem spread_append_inj {ss ss' : List Segment} {rest rest' : List String}
    (hend : IsEnd rest) (hend' : IsEnd rest') (h : spread ss ++ rest = spread ss' ++ rest') :
    ss = ss' ∧ rest = rest' := by
  induction ss generalizing ss' with
  | nil =>
    cases ss' with
    | nil => exact ⟨rfl, h⟩
    | cons s' ss' => exact absurd (h.trans (List.append_assoc ..)) (hend s' _)
  | cons s ss ih =>
    cases ss' with
    | nil => exact absurd (h.symm.trans (List.append_assoc ..)) (hend' s _)
    | cons s' ss' =>
      rw [spread_cons, spread_cons, List.append_assoc, List.append_assoc] at h
      obtain ⟨rfl, htail⟩ := words_append_inj h
      obtain ⟨rfl, rfl⟩ := ih htail
      exact ⟨rfl, rfl⟩

theorem isEnd_nil : IsEnd [] :=
  fun _ _ h => nomatch h

theorem spread_injective : Function.Injective spread := by
  intro ss ss' h
  refine (spread_append_inj isEnd_nil isEnd_nil ?_).1
  rw [h]

/-- **Every list of words can be cut**, up to an end. -/
theorem exists_spread (words : List String) :
    ∃ (ss : List Segment) (rest : List String), words = spread ss ++ rest ∧ IsEnd rest := by
  -- Induction on the length: a segment takes one word or two.
  induction hn : words.length using Nat.strong_induction_on generalizing words with
  | _ n ih =>
    by_cases hend : IsEnd words
    · exact ⟨[], words, rfl, hend⟩
    · simp only [IsEnd, not_forall, not_not] at hend
      obtain ⟨s, tail, rfl⟩ := hend
      have hlt : tail.length < n := by
        simp only [Segment.words, List.length_append, List.length_cons] at hn
        omega
      obtain ⟨ss, rest, rfl, hrest⟩ := ih tail.length hlt tail rfl
      exact ⟨s :: ss, rest, by rw [spread_cons, List.append_assoc], hrest⟩

end Segment

end LaunchLine
