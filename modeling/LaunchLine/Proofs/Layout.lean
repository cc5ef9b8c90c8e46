import LaunchLine.Proofs.Reading
import LaunchLine.Proofs.Segment

/-!
# Proofs/Layout — whole command lines, and those that break off

A command line is **laid out** if it is a row of segments, perhaps followed by the divider and other
words; it **breaks off** if behind a row of segments a flag waits for a value and there is none.
Every list of words is one or the other, in one way: `exists_layout_or_dangling`,
`Layout.words_injective`, `Dangling.words_injective`.  The reader accepts the one, with what its
segments say, and refuses the other.
-/

namespace LaunchLine

/-- A command line as it is meant: segments and, if there is a divider, the words behind it. -/
structure Layout where
  segments : List Segment
  behind? : Option (List String)

/-- A command line that breaks off: segments, then a flag by name, whose value would be the next
word, but there is none or it is the divider. -/
structure Dangling where
  segments : List Segment
  flag : Flag
  /-- The flag as it is spelled. -/
  name : String
  rest : List String
  named : flag.isNamed name = true
  takes : flag.takesValue = true
  missing : rest = [] ∨ rest.head? = some divider

namespace Layout

/-- The divider and the words behind it. -/
def tail (l : Layout) : List String :=
  match l.behind? with
  | none => []
  | some rest => divider :: rest

/-- The words of a command line. -/
def words (l : Layout) : List String :=
  Segment.spread l.segments ++ l.tail

/-- **The words that are not the wrapper's**: those of the segments and all behind the divider. -/
def looseWords (l : Layout) : List String :=
  l.segments.flatMap Segment.looseWords ++ l.behind?.getD []

/-- What a command line is read as. -/
def reading (l : Layout) : Reading :=
  ⟨l.segments.flatMap Segment.settings, l.looseWords⟩

theorem isEnd_tail (l : Layout) : Segment.IsEnd l.tail := by
  intro s rest h
  rw [tail] at h
  split at h
  · cases h
  · exact s.head_ne_divider (List.cons.inj h).1.symm

/-- **A command line has one layout.** -/
theorem words_injective : Function.Injective words := by
  intro l l' h
  obtain ⟨hsegments, htail⟩ := Segment.spread_append_inj l.isEnd_tail l'.isEnd_tail h
  obtain ⟨ss, behind?⟩ := l
  obtain ⟨ss', behind?'⟩ := l'
  cases behind? <;> cases behind?' <;> simp_all [tail]

end Layout

namespace Dangling

/-- The words of a command line that breaks off. -/
def words (d : Dangling) : List String :=
  Segment.spread d.segments ++ d.name :: d.rest

theorem isEnd (d : Dangling) : Segment.IsEnd (d.name :: d.rest) := by
  intro s rest h
  obtain ⟨hhead, htail⟩ := List.cons.inj h
  have hspelled : s.spelled? = some (d.flag, none) := by
    rw [← Segment.recognize?_head, ← hhead, recognize?_of_isNamed d.named]
  obtain ⟨value, hvalue⟩ := Option.isSome_iff_exists.1
    (s.isSome_second?_iff.2 ⟨d.flag, hspelled, d.takes⟩)
  have hrest : d.rest = value :: rest := by simpa [hvalue] using htail
  rcases d.missing with hnil | hdivider
  · simp [hnil] at hrest
  · refine s.second?_ne_divider (hvalue.trans ?_)
    simpa [hrest] using hdivider

/-- **A command line breaks off in one place.** -/
theorem words_injective : Function.Injective words := by
  intro d d' h
  obtain ⟨hsegments, hrest⟩ := Segment.spread_append_inj d.isEnd d'.isEnd h
  obtain ⟨hname, hrest⟩ := List.cons.inj hrest
  have hflag : d.flag = d'.flag := Flag.eq_of_isNamed d.named (hname ▸ d'.named)
  cases d
  cases d'
  simp_all

end Dangling

/-! ## One or the other -/

/-- Where no segment begins, there is nothing, the divider, or a flag whose value is missing. -/
theorem Segment.exists_flag_of_isEnd {word : String} {rest : List String}
    (hend : IsEnd (word :: rest)) (hinner : word ≠ divider) :
    ∃ flag : Flag, flag.isNamed word = true ∧ flag.takesValue = true ∧
      (rest = [] ∨ rest.head? = some divider) := by
  cases hr : recognize? word with
  | none => exact absurd rfl (hend (.loose word (recognize?_eq_none_iff.1 hr) hinner) rest)
  | some said =>
    obtain ⟨flag, value?⟩ := said
    rcases recognize?_eq_some_iff.1 hr with named | ⟨value, takes⟩
    · by_cases takes : flag.takesValue = true
      · refine ⟨flag, named, takes, ?_⟩
        rcases rest with _ | ⟨value, rest⟩
        · exact Or.inl rfl
        · by_cases hv : value = divider
          · exact Or.inr (congrArg some hv)
          · exact absurd rfl (hend (.split flag word value named takes hv) rest)
      · exact absurd rfl (hend (.switch flag word named (by simpa using takes)) rest)
    · exact absurd rfl (hend (.inline flag value takes) rest)

/-- **Every command line is laid out or breaks off.** -/
theorem exists_layout_or_dangling (words : List String) :
    (∃ l : Layout, l.words = words) ∨ ∃ d : Dangling, d.words = words := by
  obtain ⟨ss, rest, rfl, hend⟩ := Segment.exists_spread words
  rcases rest with _ | ⟨word, rest⟩
  · exact Or.inl ⟨⟨ss, none⟩, rfl⟩
  · by_cases hinner : word = divider
    · subst hinner
      exact Or.inl ⟨⟨ss, some rest⟩, rfl⟩
    · obtain ⟨flag, named, takes, missing⟩ := Segment.exists_flag_of_isEnd hend hinner
      exact Or.inr ⟨⟨ss, flag, word, rest, named, takes, missing⟩, rfl⟩

/-! ## The reader of a command line -/

/-- **Reading a segment** adds what it sets and its loose words in front of what is read behind it.
-/
theorem readArguments_words_append (s : Segment) (rest : List String) :
    readArguments (s.words ++ rest) = (readArguments rest).map fun r =>
      ⟨s.settings ++ r.settings, s.looseWords ++ r.loose⟩ := by
  cases s with
  | loose word foreign inner =>
    change readArguments (word :: rest) = _
    rw [readArguments, if_neg inner, Token.ofString_of_isForeign foreign]
    rfl
  | switch flag name named valueless =>
    change readArguments (name :: rest) = _
    rw [readArguments, if_neg (Flag.ne_divider_of_isNamed named),
      Token.ofString_of_isNamed named, valueless]
    rfl
  | inline flag value takes =>
    change readArguments ((flag.long ++ "=" ++ value) :: rest) = _
    have hinner : flag.long ++ "=" ++ value ≠ divider :=
      (Segment.inline flag value takes).head_ne_divider
    rw [readArguments, if_neg hinner, Token.ofString_inline takes]
    rfl
  | split flag name value named takes inner =>
    change readArguments (name :: value :: rest) = _
    rw [readArguments, if_neg (Flag.ne_divider_of_isNamed named),
      Token.ofString_of_isNamed named, takes]
    exact if_neg inner

theorem readArguments_spread_append (ss : List Segment) (rest : List String) :
    readArguments (Segment.spread ss ++ rest) = (readArguments rest).map fun r =>
      ⟨ss.flatMap Segment.settings ++ r.settings, ss.flatMap Segment.looseWords ++ r.loose⟩ := by
  induction ss with
  | nil => cases h : readArguments rest <;> simp [Segment.spread_nil, h, Except.map]
  | cons s ss ih =>
    rw [Segment.spread_cons, List.append_assoc, readArguments_words_append, ih]
    cases readArguments rest <;> simp [Except.map, List.append_assoc]

/-- **A command line that is laid out is read as it is meant.** -/
theorem readArguments_layout (l : Layout) : readArguments l.words = .ok l.reading := by
  rw [Layout.words, readArguments_spread_append]
  obtain ⟨ss, behind?⟩ := l
  cases behind? with
  | none => simp [Layout.tail, Layout.reading, Layout.looseWords, readArguments, Except.map]
  | some rest =>
    simp [Layout.tail, Layout.reading, Layout.looseWords, readArguments, Except.map]

/-- **A command line that breaks off is refused**, for the flag as it is spelled. -/
theorem readArguments_dangling (d : Dangling) :
    readArguments d.words = .error (.missingValue d.name) := by
  have hname : readArguments (d.name :: d.rest) = .error (.missingValue d.name) := by
    rw [readArguments, if_neg (Flag.ne_divider_of_isNamed d.named),
      Token.ofString_of_isNamed d.named, d.takes]
    rcases d.missing with hnil | hdivider
    · rw [hnil]
      rfl
    · cases hrest : d.rest with
      | nil => rfl
      | cons value rest =>
        have hvalue : value = divider := by simpa [hrest] using hdivider
        exact if_pos hvalue
  rw [Dangling.words, readArguments_spread_append, hname]
  rfl

/-- What is read was laid out. -/
theorem exists_layout_of_readArguments {words : List String} {r : Reading}
    (h : readArguments words = .ok r) : ∃ l : Layout, l.words = words ∧ l.reading = r := by
  rcases exists_layout_or_dangling words with ⟨l, rfl⟩ | ⟨d, rfl⟩
  · exact ⟨l, rfl, Except.ok.inj ((readArguments_layout l).symm.trans h)⟩
  · cases (readArguments_dangling d).symm.trans h

theorem plan_layout (l : Layout) : plan l.words = .ok (.ofReading l.reading) := by
  rw [plan_eq, readArguments_layout]
  rfl

theorem plan_dangling (d : Dangling) : plan d.words = .error (.missingValue d.name) := by
  rw [plan_eq, readArguments_dangling]
  rfl

/-- **When there is no plan**: exactly for a command line that breaks off.  It does so in one
place, and the error is the missing value of the flag that stands there, as it is spelled. -/
theorem plan_refused_iff (arguments : List String) :
    ((∃ e, plan arguments = .error e) ↔ ∃! d : Dangling, d.words = arguments) ∧
    (∀ d : Dangling, d.words = arguments → plan arguments = .error (.missingValue d.name)) ∧
    ∀ word, plan arguments ≠ .error (.notASetting word) := by
  rcases exists_layout_or_dangling arguments with ⟨l, rfl⟩ | ⟨d, rfl⟩
  · have hplan := plan_layout l
    have hwhole : ∀ d : Dangling, d.words ≠ l.words := fun d hd => by
      cases hplan.symm.trans (hd ▸ plan_dangling d)
    refine ⟨⟨?_, ?_⟩, fun d hd => absurd hd (hwhole d), fun word h => ?_⟩
    · rintro ⟨e, he⟩
      cases hplan.symm.trans he
    · rintro ⟨d, hd, -⟩
      exact absurd hd (hwhole d)
    · cases hplan.symm.trans h
  · have hplan := plan_dangling d
    refine ⟨⟨fun _ => ⟨d, rfl, fun d' hd' => Dangling.words_injective hd'⟩, fun _ => ⟨_, hplan⟩⟩,
      fun d' hd' => ?_, fun word h => ?_⟩
    · rw [Dangling.words_injective hd']
      exact hplan
    · cases hplan.symm.trans h

/-- A flag's name may be the value of the flag in front of it. -/
example : plan ["-d", "-r", "3", "-w", "--", "4"] = .error (.missingValue "-w") := by decide

end LaunchLine
