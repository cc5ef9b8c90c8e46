import LaunchLine.Config.Basic
import LaunchLine.Proofs.Layout

/-!
# Proofs/Presets — presets are rows of complete options, and what a plan is made of

Presets are read segment by segment, like a command line, but a loose word among them is an error,
and so is the divider.  So they are a **row of complete options**, or else begin with one, and
behind it stands a word that **stops** it: `isOptionRow_or_stops`.  Hence a plan with presets in
front is made of three rows: the segments of the presets, none of them loose, those of the command
line, and the words behind its divider.
-/

namespace LaunchLine

theorem readPresets_cons_of_isForeign {word : String} (h : IsForeign word) (rest : List String) :
    readPresets (word :: rest) = .error (.notASetting word) := by
  rw [readPresets, Token.ofString_of_isForeign h]

/-- **Reading a preset** adds what it sets in front of what is read behind it. -/
theorem readPresets_words_append {s : Segment} (h : s.isOption = true) (rest : List String) :
    readPresets (s.words ++ rest) = (readPresets rest).map (s.settings ++ ·) := by
  cases s with
  | loose => cases h
  | switch flag name named valueless =>
    change readPresets (name :: rest) = _
    rw [readPresets, Token.ofString_of_isNamed named, valueless]
    rfl
  | inline flag value takes =>
    change readPresets ((flag.long ++ "=" ++ value) :: rest) = _
    rw [readPresets, Token.ofString_inline takes]
    rfl
  | split flag name value named takes inner =>
    change readPresets (name :: value :: rest) = _
    rw [readPresets, Token.ofString_of_isNamed named, takes]
    exact if_neg inner

theorem readPresets_dangling (d : Dangling) :
    readPresets (d.name :: d.rest) = .error (.missingValue d.name) := by
  rw [readPresets, Token.ofString_of_isNamed d.named, d.takes]
  rcases d.missing with hnil | hdivider
  · rw [hnil]
    rfl
  · cases hrest : d.rest with
    | nil => rfl
    | cons value rest =>
      have hvalue : value = divider := by simpa [hrest] using hdivider
      exact if_pos hvalue

theorem readPresets_spread_append {ss : List Segment} (h : ∀ s ∈ ss, s.isOption = true)
    (rest : List String) :
    readPresets (Segment.spread ss ++ rest)
      = (readPresets rest).map (ss.flatMap Segment.settings ++ ·) := by
  induction ss with
  | nil => cases hr : readPresets rest <;> simp [Segment.spread_nil, hr, Except.map]
  | cons s ss ih =>
    rw [Segment.spread_cons, List.append_assoc,
      readPresets_words_append (h s List.mem_cons_self),
      ih fun t ht => h t (List.mem_cons_of_mem s ht)]
    cases readPresets rest <;> simp [Except.map, List.append_assoc]

theorem readPresets_spread {ss : List Segment} (h : ∀ s ∈ ss, s.isOption = true) :
    readPresets (Segment.spread ss) = .ok (ss.flatMap Segment.settings) := by
  have hread := readPresets_spread_append h []
  rwa [List.append_nil, readPresets, Except.map, List.append_nil] at hread

/-! ## Rows of complete options -/

/-- **A row of complete options**: segments, none of them loose. -/
def IsOptionRow (words : List String) : Prop :=
  ∃ ss : List Segment, Segment.spread ss = words ∧ ∀ s ∈ ss, s.isOption = true

/-- **A word that stops a row of options**, given the words behind it, and the error for it. -/
inductive Stops (word : String) (rest : List String) : ArgumentError → Prop
  /-- The word is not the wrapper's. -/
  | foreign (unknown : recognize? word = none) : Stops word rest (.notASetting word)
  /-- The word is a name of a flag that takes a value, and there is none. -/
  | dangling (flag : Flag) (named : flag.isNamed word = true) (takes : flag.takesValue = true)
      (missing : rest = [] ∨ rest.head? = some divider) : Stops word rest (.missingValue word)

theorem isOptionRow_nil : IsOptionRow [] :=
  ⟨[], rfl, List.forall_mem_nil _⟩

theorem IsOptionRow.words_append {s : Segment} (hs : s.isOption = true) {words : List String}
    (h : IsOptionRow words) : IsOptionRow (s.words ++ words) := by
  obtain ⟨ss, rfl, hoption⟩ := h
  exact ⟨s :: ss, rfl, List.forall_mem_cons.2 ⟨hs, hoption⟩⟩

theorem Stops.readPresets_cons {word : String} {rest : List String} {e : ArgumentError}
    (h : Stops word rest e) : readPresets (word :: rest) = .error e := by
  obtain unknown | ⟨flag, named, takes, missing⟩ := h
  · exact readPresets_cons_of_isForeign (recognize?_eq_none_iff.1 unknown) rest
  · exact readPresets_dangling ⟨[], flag, word, rest, named, takes, missing⟩

/-- Where no segment begins, a row of options is stopped, if there is anything. -/
theorem exists_stops_of_isEnd {word : String} {rest : List String}
    (hend : Segment.IsEnd (word :: rest)) : ∃ e, Stops word rest e := by
  by_cases hinner : word = divider
  · exact ⟨_, .foreign (hinner ▸ recognize?_eq_none_iff.2 isForeign_divider)⟩
  · obtain ⟨flag, named, takes, missing⟩ := Segment.exists_flag_of_isEnd hend hinner
    exact ⟨_, .dangling flag named takes missing⟩

/-- A loose segment stops a row of options. -/
theorem Segment.exists_stops_of_not_isOption {s : Segment} (h : ¬ s.isOption = true)
    (rest : List String) : ∃ e, Stops s.head rest e := by
  obtain ⟨word, foreign, -⟩ | _ | _ | _ := s
  · exact ⟨_, .foreign (recognize?_eq_none_iff.2 foreign)⟩
  all_goals exact absurd rfl h

/-- **Every list of words is a row of complete options, or begins with one that is stopped.** -/
theorem isOptionRow_or_stops (words : List String) :
    IsOptionRow words ∨ ∃ (front : List String) (word : String) (rest : List String)
      (e : ArgumentError), words = front ++ word :: rest ∧ IsOptionRow front ∧
        Stops word rest e := by
  obtain ⟨ss, rest, rfl, hend⟩ := Segment.exists_spread words
  -- The first loose segment stops the row; if there is none, what is behind the segments does.
  induction ss with
  | nil =>
    rcases rest with _ | ⟨word, rest⟩
    · exact .inl isOptionRow_nil
    · obtain ⟨e, he⟩ := exists_stops_of_isEnd hend
      exact .inr ⟨[], word, rest, e, rfl, isOptionRow_nil, he⟩
  | cons s ss ih =>
    rw [Segment.spread_cons, List.append_assoc]
    by_cases hs : s.isOption = true
    · obtain hrow | ⟨front, word, behind, e, hsplit, hfront, he⟩ := ih
      · exact .inl (hrow.words_append hs)
      · rw [hsplit, ← List.append_assoc]
        exact .inr ⟨_, word, behind, e, rfl, hfront.words_append hs, he⟩
    · obtain ⟨e, he⟩ := Segment.exists_stops_of_not_isOption hs
        (s.second?.toList ++ (Segment.spread ss ++ rest))
      exact .inr ⟨[], s.head, _, e, rfl, isOptionRow_nil, he⟩

/-- A row of options that is stopped is refused, for the word that stops it. -/
theorem readPresets_append_of_stops {front : List String} {word : String} {rest : List String}
    {e : ArgumentError} (hfront : IsOptionRow front) (h : Stops word rest e) :
    readPresets (front ++ word :: rest) = .error e := by
  obtain ⟨ss, rfl, hoption⟩ := hfront
  rw [readPresets_spread_append hoption, h.readPresets_cons]
  rfl

/-- **Presets that are accepted are a row of segments**, none of them loose. -/
theorem exists_spread_of_readPresets {words : List String} {settings : List Setting}
    (h : readPresets words = .ok settings) :
    ∃ ss : List Segment, Segment.spread ss = words ∧ (∀ s ∈ ss, s.isOption = true) ∧
      ss.flatMap Segment.settings = settings := by
  obtain ⟨ss, rfl, hoption⟩ | ⟨front, word, rest, e, rfl, hfront, he⟩ := isOptionRow_or_stops words
  · exact ⟨ss, rfl, hoption, Except.ok.inj ((readPresets_spread hoption).symm.trans h)⟩
  · cases (readPresets_append_of_stops hfront he).symm.trans h

/-! ## What a plan is made of -/

/-- A plan without presets. -/
theorem plan_eq_planWith (arguments : List String) : plan arguments = planWith [] arguments := by
  simp [plan_eq, planWith_eq, readPresets]

/-- **What a plan is made of**: two readings, of the presets and of the command line. -/
theorem exists_readings_of_planWith {presets arguments : List String} {p : LaunchPlan}
    (h : planWith presets arguments = .ok p) :
    ∃ (settings : List Setting) (r : Reading), readPresets presets = .ok settings ∧
      readArguments arguments = .ok r ∧ p = .ofReading ⟨settings ++ r.settings, r.loose⟩ := by
  rw [planWith] at h
  obtain ⟨scan, hpresets, h⟩ := exists_of_bind_eq_ok h
  obtain ⟨scan', harguments, h⟩ := exists_of_bind_eq_ok h
  obtain ⟨settings, r, hsettings, hread, rfl⟩ :=
    Scan.exists_readings_of_takeArguments hpresets harguments
  exact ⟨settings, r, hsettings, hread, (Except.ok.inj h).symm⟩

theorem exists_reading_of_plan {arguments : List String} {p : LaunchPlan}
    (h : plan arguments = .ok p) :
    ∃ r : Reading, readArguments arguments = .ok r ∧ p = .ofReading r := by
  rw [plan_eq_planWith] at h
  obtain ⟨settings, r, hpresets, hread, rfl⟩ := exists_readings_of_planWith h
  obtain rfl : [] = settings := Except.ok.inj hpresets
  exact ⟨r, hread, rfl⟩

/-- **What a plan is made of**, segment by segment. -/
theorem exists_segments_of_planWith {presets arguments : List String} {p : LaunchPlan}
    (h : planWith presets arguments = .ok p) :
    ∃ (ss : List Segment) (l : Layout), Segment.spread ss = presets ∧
      (∀ s ∈ ss, s.isOption = true) ∧ l.words = arguments ∧
      p = .ofReading ⟨(ss ++ l.segments).flatMap Segment.settings, l.looseWords⟩ := by
  obtain ⟨settings, r, hpresets, hread, rfl⟩ := exists_readings_of_planWith h
  obtain ⟨ss, hspread, hoption, rfl⟩ := exists_spread_of_readPresets hpresets
  obtain ⟨l, hwords, rfl⟩ := exists_layout_of_readArguments hread
  refine ⟨ss, l, hspread, hoption, hwords, ?_⟩
  rw [List.flatMap_append]
  rfl

end LaunchLine
