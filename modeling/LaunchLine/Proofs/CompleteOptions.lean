import LaunchLine.Proofs.Presets

/-!
# Proofs/CompleteOptions — presets are accepted exactly if they are complete options

The check of presets accepts rows of complete options and no other words.  What it reports is the
first word that stops such a row, either because it is not the wrapper's or because it is a flag
whose value is missing; and complete options leave the check of what follows as it is:
`checkPresets_iff`.
-/

namespace LaunchLine

/-! ## Words that are no flag's -/

/-- A switch takes no value behind an equals sign. -/
theorem isForeign_switch_append {flag : Flag} (h : flag.takesValue = false) (value : String) :
    IsForeign (flag.long ++ "=" ++ value) := by
  refine recognize?_eq_none_iff.1 ?_
  rw [recognize?, named?_append_equals,
    cutAtEquals?_append (Flag.equals_notMem_of_isNamed flag.isNamed_long)]
  simp [Flag.longNamed?_eq_some_iff.2 rfl, h]

/-- A name that no flag goes by is no flag's with a value either. -/
theorem isForeign_append_of_named?_eq_none {name : String} (hcut : '=' ∉ name.toList)
    (h : Flag.named? name = none) (value : String) : IsForeign (name ++ "=" ++ value) := by
  have hlong : Flag.longNamed? name = none := by
    refine Option.eq_none_iff_forall_ne_some.2 fun flag hflag => ?_
    have hnamed : flag.isNamed name = true :=
      Flag.longNamed?_eq_some_iff.1 hflag ▸ flag.isNamed_long
    exact Option.some_ne_none flag ((Flag.named?_eq_some_iff.2 hnamed).symm.trans h)
  refine recognize?_eq_none_iff.1 ?_
  rw [recognize?, named?_append_equals, cutAtEquals?_append hcut]
  simp [hlong]

theorem isForeign_of_named?_eq_none {name : String} (hcut : '=' ∉ name.toList)
    (h : Flag.named? name = none) : IsForeign name := by
  rintro flag value? (named | ⟨value, takes⟩)
  · exact Option.some_ne_none flag ((Flag.named?_eq_some_iff.2 named).symm.trans h)
  · exact hcut (by simp [String.toList_append])

/-! ## The check -/

/-- **Complete options leave the check of what follows as it is.** -/
theorem IsOptionRow.checkPresets_append {words : List String} (h : IsOptionRow words)
    (more : List String) : checkPresets (words ++ more) = checkPresets more := by
  obtain ⟨ss, rfl, hoption⟩ := h
  rw [checkPresets_eq, checkPresets_eq, readPresets_spread_append hoption]
  cases readPresets more <;> rfl

theorem IsOptionRow.checkPresets_eq_ok {words : List String} (h : IsOptionRow words) :
    checkPresets words = .ok () := by
  have happend := h.checkPresets_append []
  rwa [List.append_nil] at happend

theorem checkPresets_append_of_stops {front : List String} {word : String} {rest : List String}
    {e : ArgumentError} (hfront : IsOptionRow front) (h : Stops word rest e) :
    checkPresets (front ++ word :: rest) = .error e := by
  rw [checkPresets_eq, readPresets_append_of_stops hfront h]
  rfl

/-- **Accepted are the rows of complete options**, and nothing else. -/
theorem checkPresets_eq_ok_iff_isOptionRow {words : List String} :
    checkPresets words = .ok () ↔ IsOptionRow words := by
  refine ⟨fun h => ?_, IsOptionRow.checkPresets_eq_ok⟩
  obtain hrow | ⟨front, word, rest, e, rfl, hfront, hstops⟩ := isOptionRow_or_stops words
  · exact hrow
  · cases (checkPresets_append_of_stops hfront hstops).symm.trans h

/-- **Refused is what stops a row of complete options.** -/
theorem checkPresets_eq_error_iff {words : List String} {e : ArgumentError} :
    checkPresets words = .error e ↔ ∃ front word rest, words = front ++ word :: rest ∧
      IsOptionRow front ∧ Stops word rest e := by
  constructor
  · intro h
    obtain hrow | ⟨front, word, rest, e', rfl, hfront, hstops⟩ := isOptionRow_or_stops words
    · cases hrow.checkPresets_eq_ok.symm.trans h
    · obtain rfl := Except.error.inj ((checkPresets_append_of_stops hfront hstops).symm.trans h)
      exact ⟨front, word, rest, rfl, hfront, hstops⟩
  · rintro ⟨front, word, rest, rfl, hfront, hstops⟩
    exact checkPresets_append_of_stops hfront hstops

/-- **What can serve as presets.**  Words are accepted exactly if they are a row of complete
options; they are refused exactly if such a row is stopped, and the error is that of the word which
stops it.  Accepted words leave the check of what follows as it is.  Not the wrapper's are the
divider, all bare words, unknown names with a value and without, and a switch with a value. -/
theorem checkPresets_iff :
    (∀ words, checkPresets words = .ok () ↔ IsOptionRow words) ∧
    (∀ words e, checkPresets words = .error e ↔ ∃ front word rest,
      words = front ++ word :: rest ∧ IsOptionRow front ∧ Stops word rest e) ∧
    (∀ words more, checkPresets words = .ok () →
      checkPresets (words ++ more) = checkPresets more) ∧
    recognize? divider = none ∧
    (∀ word, isBare word = true → recognize? word = none) ∧
    (∀ name, '=' ∉ name.toList → Flag.named? name = none →
      recognize? name = none ∧ ∀ value, recognize? (name ++ "=" ++ value) = none) ∧
    ∀ (flag : Flag) (value : String), flag.takesValue = false →
      recognize? (flag.long ++ "=" ++ value) = none := by
  simp only [recognize?_eq_none_iff]
  refine ⟨fun words => checkPresets_eq_ok_iff_isOptionRow,
    fun words e => checkPresets_eq_error_iff, fun words more h => ?_, isForeign_divider,
    fun word hbare => isForeign_of_isBare hbare, fun name hcut hname => ⟨?_, ?_⟩,
    fun flag value hswitch => isForeign_switch_append hswitch value⟩
  · exact (checkPresets_eq_ok_iff_isOptionRow.1 h).checkPresets_append more
  · exact isForeign_of_named?_eq_none hcut hname
  · exact isForeign_append_of_named?_eq_none hcut hname

/-- The name of a flag is a value behind another flag, and is stopped where it stands by itself. -/
example : checkPresets ["--timeout", "--timeout", "-w", "--", "--timeout"]
    = .error (.missingValue "-w") := by
  decide

end LaunchLine
