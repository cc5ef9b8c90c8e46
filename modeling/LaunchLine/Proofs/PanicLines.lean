import LaunchLine.SourceRules.Violation
import Mathlib.Data.List.TakeWhile

/-!
# Proofs/PanicLines — where a source text panics

A line is counted against a source text if it comes before the tests, is no comment and makes a
panicking call: `PanicsAt`.  The calls that are found are exactly these (`mem_hitsIn_iff`); they
come in the order of their lines, and for one line in the order of the calls, so none is found twice
(`pairwise_hitsFrom`).
-/

namespace LaunchLine

variable {path : Path} {line : String} {lines : List String} {n k : Nat} {call : Panic}

/-- **A call that panics at a line**, by the number of the line: no line up to it opens the tests,
it does not begin with a comment mark behind its blanks, and the call is written on it. -/
def PanicsAt (source : String) (n : Nat) (call : Panic) : Prop :=
  ∃ before line after, Text.lines source = before ++ line :: after ∧ n = before.length + 1 ∧
    (∀ l ∈ before ++ [line], Text.trim l ≠ "#[cfg(test)]") ∧
    ¬ "//".toList <+: (Text.trimStart line).toList ∧ call.text.toList <:+: line.toList

theorem mem_panicsOn_iff :
    call ∈ panicsOn line ↔
      ¬ "//".toList <+: (Text.trimStart line).toList ∧ call.text.toList <:+: line.toList := by
  rw [panicsOn, isComment]
  split
  · next h =>
    exact iff_of_false List.not_mem_nil fun hline => hline.1 (List.isPrefixOf_iff_prefix.1 h)
  · next h =>
    rw [List.isPrefixOf_iff_prefix] at h
    have hall : call ∈ Panic.all := by cases call <;> decide
    rw [List.mem_filter, and_iff_right hall, occursIn_eq_true_iff, and_iff_right h]

/-! ## The calls with the numbers of their lines -/

/-- The panicking calls on lines that are numbered from `n` on, each with the number of its line. -/
def hitsFrom : (n : Nat) → (lines : List String) → List (Nat × Panic)
  | _, [] => []
  | n, line :: rest => (panicsOn line).map (n, ·) ++ hitsFrom (n + 1) rest

/-- The panicking calls of a source text, each with the number of its line. -/
def hitsIn (source : String) : List (Nat × Panic) :=
  hitsFrom 1 ((Text.lines source).takeWhile fun line => !opensTests line)

theorem panicsFrom_eq_map (path : Path) (n : Nat) (lines : List String) :
    panicsFrom path n lines = (hitsFrom n lines).map fun hit => .panicking path hit.1 hit.2 := by
  induction lines generalizing n with
  | nil => rfl
  | cons line rest ih => rw [panicsFrom, hitsFrom, ih, List.map_append, List.map_map]; rfl

theorem panicsIn_eq_map (path : Path) (source : String) :
    panicsIn path source = (hitsIn source).map fun hit => .panicking path hit.1 hit.2 :=
  panicsFrom_eq_map path 1 _

theorem mem_hitsFrom_iff :
    (k, call) ∈ hitsFrom n lines ↔
      ∃ before line after, lines = before ++ line :: after ∧ k = n + before.length ∧
        call ∈ panicsOn line := by
  induction lines generalizing n with
  | nil => simp [hitsFrom]
  | cons first rest ih =>
    rw [hitsFrom, List.mem_append, ih]
    constructor
    · rintro (hmem | ⟨before, line, after, rfl, rfl, hcall⟩)
      · obtain ⟨call', hcall, hpair⟩ := List.mem_map.1 hmem
        obtain ⟨rfl, rfl⟩ := Prod.mk.inj hpair
        exact ⟨[], first, rest, rfl, rfl, hcall⟩
      · exact ⟨first :: before, line, after, rfl, by rw [List.length_cons]; omega, hcall⟩
    · rintro ⟨before, line, after, hlines, rfl, hcall⟩
      cases before with
      | nil =>
        obtain ⟨rfl, rfl⟩ := List.cons.inj hlines
        exact Or.inl (List.mem_map_of_mem hcall)
      | cons _ before =>
        obtain ⟨rfl, rfl⟩ := List.cons.inj hlines
        exact Or.inr ⟨before, line, after, rfl, by rw [List.length_cons]; omega, hcall⟩

theorem not_opensTests_iff {line : String} :
    (!opensTests line) = true ↔ Text.trim line ≠ "#[cfg(test)]" := by
  rw [opensTests, Bool.not_eq_true', beq_eq_false_iff_ne]

/-- **Exactly the calls that panic at a line** of the source text are found. -/
theorem mem_hitsIn_iff {source : String} : (n, call) ∈ hitsIn source ↔ PanicsAt source n call := by
  rw [hitsIn, mem_hitsFrom_iff]
  constructor
  · rintro ⟨before, line, after, htake, rfl, hcall⟩
    have hlines := List.takeWhile_append_dropWhile (p := fun l => !opensTests l)
      (l := Text.lines source)
    have hall : ∀ l ∈ before ++ line :: after, Text.trim l ≠ "#[cfg(test)]" := by
      intro l hl
      rw [← htake] at hl
      have hbefore : (!opensTests l) = true :=
        List.mem_takeWhile_imp (p := fun l => !opensTests l) hl
      exact not_opensTests_iff.1 hbefore
    rw [htake, List.append_assoc, List.cons_append] at hlines
    refine ⟨before, line, _, hlines.symm, Nat.add_comm 1 _, fun l hl => hall l ?_,
      mem_panicsOn_iff.1 hcall⟩
    rw [List.append_cons]
    exact List.mem_append_left _ hl
  · rintro ⟨before, line, after, hlines, rfl, hall, hcall⟩
    refine ⟨before, line, after.takeWhile fun l => !opensTests l, ?_, Nat.add_comm _ 1,
      mem_panicsOn_iff.2 hcall⟩
    rw [hlines, List.append_cons,
      List.takeWhile_append_of_pos fun l hl => not_opensTests_iff.2 (hall l hl),
      ← List.append_cons]

/-! ## The order of the calls -/

theorem le_of_mem_hitsFrom (h : (k, call) ∈ hitsFrom n lines) : n ≤ k := by
  obtain ⟨before, -, -, -, rfl, -⟩ := mem_hitsFrom_iff.1 h
  exact Nat.le_add_right n _

/-- **The calls are found in order**: by their lines, and on one line by the order of the calls. -/
theorem pairwise_hitsFrom (n : Nat) (lines : List String) :
    (hitsFrom n lines).Pairwise fun a b =>
      a.1 < b.1 ∨ a.1 = b.1 ∧ a.2 = .unwrap ∧ b.2 = .expect := by
  induction lines generalizing n with
  | nil => exact List.Pairwise.nil
  | cons line rest ih =>
    rw [hitsFrom, List.pairwise_append]
    refine ⟨List.pairwise_map.2 ?_, ih (n + 1), ?_⟩
    · have hall : Panic.all.Pairwise fun a b => a = .unwrap ∧ b = .expect := by decide
      have hsome : (panicsOn line).Sublist Panic.all := by
        rw [panicsOn]
        split
        · exact List.nil_sublist _
        · exact List.filter_sublist
      exact (hall.sublist hsome).imp fun hcalls => Or.inr ⟨rfl, hcalls⟩
    · rintro _ hfirst ⟨k, call⟩ hrest
      obtain ⟨call', -, rfl⟩ := List.mem_map.1 hfirst
      exact Or.inl (le_of_mem_hitsFrom hrest)

theorem nodup_hitsIn (source : String) : (hitsIn source).Nodup := by
  refine (pairwise_hitsFrom 1 _).imp ?_
  rintro a _ (hlt | ⟨-, hunwrap, hexpect⟩) rfl
  · exact Nat.lt_irrefl _ hlt
  · cases hunwrap.symm.trans hexpect

end LaunchLine
