import LaunchLine.Proofs.LooseWords

/-!
# Proofs/Divider — how a command line without a divider goes on

A command line without a divider that can be read is nothing but segments, so whatever follows is
read as if it stood alone (`readArguments_append`).  If the divider follows, the words behind it are
loose, whatever they spell: they may bring the executable and are passed on to the test, and nothing
else changes (`plan_append_divider`).
-/

namespace LaunchLine

/-- Without a divider there is nothing behind it. -/
theorem Layout.behind?_eq_none {l : Layout} (h : divider ∉ l.words) : l.behind? = none := by
  cases hbehind : l.behind? with
  | none => rfl
  | some rest =>
    refine absurd (List.mem_append_right _ ?_) h
    rw [Layout.tail, hbehind]
    exact List.mem_cons_self

/-- **Without a divider a command line is a row of segments.** -/
theorem exists_spread_of_readArguments {words : List String} (h : divider ∉ words) {r : Reading}
    (hread : readArguments words = .ok r) :
    ∃ ss : List Segment, Segment.spread ss = words ∧
      r = ⟨ss.flatMap Segment.settings, ss.flatMap Segment.looseWords⟩ := by
  obtain ⟨⟨ss, behind?⟩, rfl, rfl⟩ := exists_layout_of_readArguments hread
  obtain rfl : behind? = none := Layout.behind?_eq_none h
  refine ⟨ss, (List.append_nil _).symm, ?_⟩
  simp [Layout.reading, Layout.looseWords]

/-- **What follows is read as if it stood alone.** -/
theorem readArguments_append {words : List String} (h : divider ∉ words) {r : Reading}
    (hread : readArguments words = .ok r) (rest : List String) :
    readArguments (words ++ rest) = (readArguments rest).map fun r' =>
      ⟨r.settings ++ r'.settings, r.loose ++ r'.loose⟩ := by
  obtain ⟨ss, rfl, rfl⟩ := exists_spread_of_readArguments h hread
  exact readArguments_spread_append ss rest

/-- The divider does not help a flag that waits for a value, and is not taken for one. -/
theorem readArguments_append_divider_of_error {words : List String} (h : divider ∉ words)
    {e : ArgumentError} (hread : readArguments words = .error e) (behind : List String) :
    readArguments (words ++ divider :: behind) = .error e := by
  rcases exists_layout_or_dangling words with ⟨l, rfl⟩ | ⟨d, rfl⟩
  · cases (readArguments_layout l).symm.trans hread
  · have hrest : d.rest = [] := by
      refine d.missing.resolve_right fun hhead => h ?_
      exact List.mem_append_right _ (List.mem_cons_of_mem _ (List.mem_of_mem_head? hhead))
    let longer : Dangling := { d with rest := divider :: behind, missing := .inr rfl }
    have hwords : longer.words = d.words ++ divider :: behind := by
      simp [longer, Dangling.words, hrest]
    rw [← hwords, readArguments_dangling longer]
    exact (readArguments_dangling d).symm.trans hread

/-- **Behind the divider all words are loose.** -/
theorem readArguments_append_divider {words : List String} (h : divider ∉ words)
    (behind : List String) :
    readArguments (words ++ divider :: behind) = (readArguments words).map fun r =>
      ⟨r.settings, r.loose ++ behind⟩ := by
  cases hread : readArguments words with
  | error e => exact readArguments_append_divider_of_error h hread behind
  | ok r =>
    rw [readArguments_append h hread, readArguments, if_pos rfl]
    simp [Except.map]

/-! ## The plan -/

namespace LaunchPlan

theorem executable?_ofReading_append (settings : List Setting) (loose behind : List String) :
    (ofReading ⟨settings, loose ++ behind⟩).executable?
      = (ofReading ⟨settings, loose⟩).executable?.or (behind.find? isBare) :=
  List.find?_append

/-- What is behind is passed on, the executable apart if that is still missing. -/
theorem passedOn_ofReading_append (settings : List Setting) (loose behind : List String) :
    (ofReading ⟨settings, loose ++ behind⟩).passedOn
      = (ofReading ⟨settings, loose⟩).passedOn ++
        if (ofReading ⟨settings, loose⟩).executable?.isSome then behind
        else behind.eraseP isBare := by
  change (loose ++ behind).eraseP isBare = loose.eraseP isBare ++
    if (loose.find? isBare).isSome then behind else behind.eraseP isBare
  cases hfind : loose.find? isBare with
  | none =>
    have hnone := List.find?_eq_none.1 hfind
    rw [List.eraseP_append_right behind hnone, List.eraseP_of_forall_not hnone]
    rfl
  | some exe =>
    exact List.eraseP_append_left (List.find?_some hfind) behind (List.mem_of_find?_eq_some hfind)

end LaunchPlan

/-- **Words behind the divider are inert.**  A command line without a divider is refused with such
words behind it exactly if it is refused without them, for the same reason.  Otherwise the slots and
the directories are what they were; an executable stays, and all the words are passed on; without
one, the first bare word behind the divider is the executable, if there is any, and the others are
passed on. -/
theorem plan_append_divider {words : List String} (h : divider ∉ words) (behind : List String) :
    (∀ e, plan (words ++ divider :: behind) = .error e ↔ plan words = .error e) ∧
    ∀ p, plan words = .ok p → ∃ q : LaunchPlan, plan (words ++ divider :: behind) = .ok q ∧
      q.slotArgs = p.slotArgs ∧ q.outputDir? = p.outputDir? ∧ q.artifactsDir? = p.artifactsDir? ∧
      (∀ exe, p.executable? = some exe →
        q.executable? = some exe ∧ q.passedOn = p.passedOn ++ behind) ∧
      (p.executable? = none → ∃ kept, TakesFirstBare behind q.executable? kept ∧
        q.passedOn = p.passedOn ++ kept) := by
  rw [plan_eq, plan_eq, readArguments_append_divider h]
  cases readArguments words with
  | error e =>
    refine ⟨fun _ => .rfl, fun p hp => ?_⟩
    cases hp
  | ok r =>
    refine ⟨fun e => ?_, fun p hp => ?_⟩
    · constructor <;> intro h <;> cases h
    · obtain rfl : LaunchPlan.ofReading r = p := Except.ok.inj hp
      have hexe := LaunchPlan.executable?_ofReading_append r.settings r.loose behind
      have hpassed := LaunchPlan.passedOn_ofReading_append r.settings r.loose behind
      refine ⟨_, rfl, rfl, rfl, rfl, fun exe hsome => ?_, fun hnone => ?_⟩
      · rw [hexe, hpassed, hsome]
        exact ⟨rfl, rfl⟩
      · refine ⟨behind.eraseP isBare, ?_, ?_⟩
        · rw [hexe, hnone]
          exact takesFirstBare_eraseP behind
        · rw [hpassed, hnone]
          rfl

/-- Behind the divider a flag and a second divider are the test's, and the first bare word is the
executable; a flag in front of the divider still waits for its value. -/
theorem plan_append_divider_options :
    (∃ q : LaunchPlan,
      plan ["-d", "out", "--store-test-artifacts", "-x", "--", "-d", "--", "", "prog"] = .ok q ∧
      q.slotArgs = ["--output_dir=out"] ∧ q.outputDir? = some "out" ∧
      q.artifactsDir? = some "out/test_artifacts" ∧
      ∃ kept, TakesFirstBare ["-d", "--", "", "prog"] q.executable? kept ∧
        q.passedOn = ["-x"] ++ kept) ∧
    plan ["prog", "-w", "--", "-w", "4"] = .error (.missingValue "-w") := by
  have hfirst : divider ∉ ["-d", "out", "--store-test-artifacts", "-x"] := by decide
  have hsecond : divider ∉ ["prog", "-w"] := by decide
  constructor
  · obtain ⟨q, hq, hslots, hout, hdir, -, hnone⟩ :=
      (plan_append_divider hfirst ["-d", "--", "", "prog"]).2 _ rfl
    exact ⟨q, hq, hslots, hout, hdir, hnone rfl⟩
  · exact ((plan_append_divider hsecond ["-w", "4"]).1 _).2 rfl

end LaunchLine
