import LaunchLine.Proofs.Presets

/-!
# Proofs/LooseWords — no loose word is lost

The loose words of a command line are the executable and what is passed on to the test: the
executable is the first of them that is bare, and the others keep their order.  Presets have no part
in it.
-/

namespace LaunchLine

/-- **The first bare word is taken out** of a list of words, if it has one. -/
inductive TakesFirstBare : List String → Option String → List String → Prop
  | found (before after : List String) {word : String}
      (first : ∀ w ∈ before, isBare w = false) (bare : isBare word = true) :
      TakesFirstBare (before ++ word :: after) (some word) (before ++ after)
  | missing {words : List String} (dashed : ∀ w ∈ words, isBare w = false) :
      TakesFirstBare words none words

theorem takesFirstBare_eraseP (words : List String) :
    TakesFirstBare words (words.find? isBare) (words.eraseP isBare) := by
  cases hfind : words.find? isBare with
  | none =>
    have hnone : ∀ w ∈ words, isBare w = false := fun w hw => by
      simpa using List.find?_eq_none.1 hfind w hw
    rw [List.eraseP_of_forall_not fun w hw => by simp [hnone w hw]]
    exact .missing hnone
  | some word =>
    obtain ⟨bare, before, after, rfl, hbefore⟩ := List.find?_eq_some_iff_append.1 hfind
    have hfirst : ∀ w ∈ before, isBare w = false := fun w hw => by simpa using hbefore w hw
    have herase : (before ++ word :: after).eraseP isBare = before ++ after := by
      rw [List.eraseP_append_right _ fun w hw => by simp [hfirst w hw],
        List.eraseP_cons_of_pos bare]
    rw [herase]
    exact .found before after hfirst bare

/-- **No loose word is lost, repeated or moved.**  However the command line is laid out, its first
bare loose word is the executable, and all its other loose words are passed on in their order. -/
theorem executable_first_bare_word {cfg : Config} {arguments : List String} {p : LaunchPlan}
    (h : cfg.plan arguments = .ok p) :
    (∃ l : Layout, l.words = arguments) ∧
    ∀ l : Layout, l.words = arguments →
      TakesFirstBare l.looseWords p.executable? p.passedOn := by
  obtain ⟨presets, l, -, -, hwords, rfl⟩ := exists_segments_of_planWith h
  refine ⟨⟨l, hwords⟩, fun l' hwords' => ?_⟩
  obtain rfl : l' = l := Layout.words_injective (hwords'.trans hwords.symm)
  exact takesFirstBare_eraseP l'.looseWords

/-- A value is not the executable, though it is bare; the empty word is, and the second divider is
passed on. -/
theorem executable_first_bare_word_empty :
    Config.empty.plan ["--timeout", "prog", "-d=x", "", "--", "--", "a"] = .ok
      ⟨["--shard_index=0", "--shard_count=1", "--timeout=prog", "", "--", "-d=x", "--", "a"],
        ["--timeout=prog"], some "", ["-d=x", "--", "a"], none, none⟩ ∧
    TakesFirstBare ["-d=x", "", "--", "a"] (some "") ["-d=x", "--", "a"] := by
  refine ⟨?h, (executable_first_bare_word ?h).2
    ⟨[.split .timeout "--timeout" "prog" rfl rfl (by decide),
      .loose "-d=x" (recognize?_eq_none_iff.1 (by decide)) (by decide),
      .loose "" (isForeign_of_isBare rfl) (by decide)], some ["--", "a"]⟩ rfl⟩
  decide

end LaunchLine
