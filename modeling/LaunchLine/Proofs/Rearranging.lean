import LaunchLine.Proofs.Accepted
import LaunchLine.Proofs.Divider

/-!
# Proofs/Rearranging — where an option stands and how it is spelled

Of a row of segments only two things count: what they set, in order, and their loose words, in
order.  So a row can be replaced by another one that says the same, wherever it stands
(`plan_replace`).  An option and a loose word have nothing to do with each other, so they may change
places; and all spellings of a value for a slot set the same, so any of them may stand for another.
-/

namespace LaunchLine

/-- **Rows that say the same plan the same**, in front of any words and behind any that can be read
and hold no divider. -/
theorem plan_replace {before : List String} (hdivider : divider ∉ before) {p : LaunchPlan}
    (hplan : plan before = .ok p) {ss ss' : List Segment}
    (hsettings : ss.flatMap Segment.settings = ss'.flatMap Segment.settings)
    (hloose : ss.flatMap Segment.looseWords = ss'.flatMap Segment.looseWords)
    (behind : List String) :
    plan (before ++ (Segment.spread ss ++ behind))
      = plan (before ++ (Segment.spread ss' ++ behind)) := by
  obtain ⟨r, hread, -⟩ := exists_reading_of_plan hplan
  rw [plan_eq, plan_eq, readArguments_append hdivider hread, readArguments_append hdivider hread,
    readArguments_spread_append, readArguments_spread_append, hsettings, hloose]

/-! ## Options among loose words -/

/-- **Options and a loose word may change places**, in any command line: accepted presets in front
of a word that is not the wrapper's can as well stand behind it.  The plan is the same, or else the
error. -/
theorem plan_options_loose_comm {before options : List String} {word : String} {p : LaunchPlan}
    (hdivider : divider ∉ before) (hplan : plan before = .ok p)
    (hoptions : checkPresets options = .ok ()) (hforeign : recognize? word = none)
    (hinner : word ≠ divider) (behind : List String) :
    plan (before ++ options ++ [word] ++ behind)
      = plan (before ++ [word] ++ options ++ behind) := by
  obtain ⟨settings, hread⟩ := checkPresets_eq_ok_iff.1 hoptions
  obtain ⟨ss, rfl, hoption, -⟩ := exists_spread_of_readPresets hread
  have hquiet := Segment.flatMap_looseWords_of_isOption hoption
  let loose := Segment.loose word (recognize?_eq_none_iff.1 hforeign) hinner
  have hfront : before ++ Segment.spread ss ++ [word] ++ behind
      = before ++ (Segment.spread (ss ++ [loose]) ++ behind) := by
    rw [Segment.spread_append, List.append_assoc, List.append_assoc, List.append_assoc]
    rfl
  have hback : before ++ [word] ++ Segment.spread ss ++ behind
      = before ++ (Segment.spread (loose :: ss) ++ behind) := by
    rw [Segment.spread_cons, List.append_assoc, List.append_assoc, List.append_assoc]
    rfl
  rw [hfront, hback]
  refine plan_replace hdivider hplan ?_ ?_ behind
  · rw [List.flatMap_append, List.flatMap_cons]
    exact List.append_nil _
  · rw [List.flatMap_append, hquiet, List.flatMap_cons, List.flatMap_cons, hquiet]
    rfl

/-- The word becomes the executable on either side of two options whose values look like an option
and like a program. -/
theorem plan_options_loose_comm_executable :
    checkPresets ["-d", "--repeat", "-w", "prog"] = .ok () ∧
    plan ["-x", "-d", "--repeat", "-w", "prog", "test", "-r", "--", "-d"]
      = plan ["-x", "test", "-d", "--repeat", "-w", "prog", "-r", "--", "-d"] := by
  refine ⟨?hoptions, ?_⟩
  · decide
  · have hbefore : divider ∉ ["-x"] := by decide
    have hforeign : recognize? "test" = none := by decide
    exact plan_options_loose_comm hbefore rfl ?hoptions hforeign (by decide) ["-r", "--", "-d"]

/-! ## Spellings of a value -/

/-- **The spellings of a value for a slot**: behind the long name of any of its flags, or as a word
of its own behind any name of theirs, unless the value is the divider. -/
inductive Slot.Spells (slot : Slot) (value : String) : List String → Prop
  | inline (flag : Flag) (fills : flag.effect = .fill slot) (takes : flag.takesValue = true) :
      Spells slot value [flag.long ++ "=" ++ value]
  | split (flag : Flag) {name : String} (fills : flag.effect = .fill slot)
      (takes : flag.takesValue = true) (named : flag.isNamed name = true)
      (inner : value ≠ divider) : Spells slot value [name, value]

/-- Every spelling is a segment, and what this sets does not depend on the flag. -/
theorem Slot.Spells.exists_segment {slot : Slot} {value : String} {words : List String}
    (h : slot.Spells value words) :
    ∃ s : Segment, s.words = words ∧ s.settings = [.fill slot (some value)] ∧
      s.looseWords = [] := by
  cases h with
  | inline flag fills takes =>
    refine ⟨.inline flag value takes, rfl, ?_, rfl⟩
    rw [Segment.settings, Flag.setting, fills]
  | split flag fills takes named inner =>
    refine ⟨.split flag _ value named takes inner, rfl, ?_, rfl⟩
    rw [Segment.settings, Flag.setting, fills]

/-- **The spelling does not matter.**  Wherever a slot is given a value, any spelling of it makes
the same plan, or else the same error. -/
theorem plan_eq_of_spells {before words words' : List String} {slot : Slot} {value : String}
    {p : LaunchPlan} (hdivider : divider ∉ before) (hplan : plan before = .ok p)
    (h : slot.Spells value words) (h' : slot.Spells value words') (behind : List String) :
    plan (before ++ words ++ behind) = plan (before ++ words' ++ behind) := by
  obtain ⟨s, rfl, hsets, hquiet⟩ := h.exists_segment
  obtain ⟨s', rfl, hsets', hquiet'⟩ := h'.exists_segment
  have hsettings : [s].flatMap Segment.settings = [s'].flatMap Segment.settings := by
    rw [List.flatMap_singleton, List.flatMap_singleton, hsets, hsets']
  have hloose : [s].flatMap Segment.looseWords = [s'].flatMap Segment.looseWords := by
    rw [List.flatMap_singleton, List.flatMap_singleton, hquiet, hquiet']
  have hreplace := plan_replace hdivider hplan hsettings hloose behind
  simpa only [Segment.spread_cons, Segment.spread_nil, List.append_nil, List.append_assoc]
    using hreplace

/-- Two flags of one slot, and a value that is the name of another and holds an equals sign. -/
theorem plan_eq_of_spells_alias :
    Slot.testResults.Spells "-d=a" ["--dump_json_test_results=-d=a"] ∧
    Slot.testResults.Spells "-d=a" ["--isolated-script-test-output", "-d=a"] ∧
    plan ["prog", "--dump_json_test_results=-d=a", "-d"]
      = plan ["prog", "--isolated-script-test-output", "-d=a", "-d"] := by
  have hbefore : divider ∉ ["prog"] := by decide
  refine ⟨?hinline, ?hsplit, ?_⟩
  · exact .inline .testResults rfl rfl
  · exact .split .isolatedTestOutput rfl rfl rfl (by decide)
  · exact plan_eq_of_spells hbefore rfl ?hinline ?hsplit ["-d"]

end LaunchLine
