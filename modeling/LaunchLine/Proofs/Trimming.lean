import LaunchLine.Text.Blank
import Mathlib.Data.List.Basic
import Mathlib.Data.List.TakeDrop
import Mathlib.Data.List.TakeWhile

/-!
# Proofs/Trimming — what is left when the ends of a text are trimmed

To trim a list in front or at its end is to cut it in two: all elements of the one part are trimmed,
and the other part does not begin, or end, with such an element.  There is one such cut.  So a text
is trimmed at both ends by dropping blanks only, until there is none at either end: `trim_eq_iff`.
-/

namespace LaunchLine.Text

section

variable {α : Type} {p : α → Bool} {l m : List α}

/-- **Trimmed in front.** -/
theorem dropWhile_eq_iff :
    l.dropWhile p = m ↔
      ∃ front, l = front ++ m ∧ (∀ a ∈ front, p a = true) ∧ ∀ a ∈ m.head?, p a = false := by
  constructor
  · rintro rfl
    refine ⟨l.takeWhile p, List.takeWhile_append_dropWhile.symm,
      fun a ha => List.mem_takeWhile_imp ha, fun a ha => ?_⟩
    have hhead := List.head?_dropWhile_not p l
    rw [Option.mem_def.1 ha] at hhead
    simpa using hhead
  · rintro ⟨front, rfl, hfront, hhead⟩
    rw [List.dropWhile_append_of_pos hfront]
    cases m with
    | nil => rfl
    | cons a m => exact List.dropWhile_cons_of_neg (by simp [hhead a rfl])

/-- **Trimmed at the end.** -/
theorem reverse_dropWhile_reverse_eq_iff :
    (l.reverse.dropWhile p).reverse = m ↔
      ∃ back, l = m ++ back ∧ (∀ a ∈ back, p a = true) ∧ ∀ a ∈ m.getLast?, p a = false := by
  rw [List.reverse_eq_iff, dropWhile_eq_iff, List.head?_reverse]
  constructor
  · rintro ⟨front, hl, hfront, hlast⟩
    refine ⟨front.reverse, ?_, fun a ha => hfront a (List.mem_reverse.1 ha), hlast⟩
    simpa using congrArg List.reverse hl
  · rintro ⟨back, rfl, hback, hlast⟩
    exact ⟨back.reverse, List.reverse_append, fun a ha => hback a (List.mem_reverse.1 ha), hlast⟩

end

/-! ## Trimmed at both ends -/

/-- **A text without the blanks around it**: what is left of the other text has no blank at either
end, and all that is missing are blanks. -/
def IsTrimmed (trimmed text : String) : Prop :=
  ∃ front back : List Char, text.toList = front ++ (trimmed.toList ++ back) ∧
    (∀ c ∈ front, isBlank c = true) ∧ (∀ c ∈ back, isBlank c = true) ∧
    (∀ c ∈ trimmed.toList.head?, isBlank c = false) ∧
    ∀ c ∈ trimmed.toList.getLast?, isBlank c = false

/-- **To trim a text is to drop the blanks around it.** -/
theorem trim_eq_iff {text trimmed : String} : trim text = trimmed ↔ IsTrimmed trimmed text := by
  rw [trim, ← String.toList_inj, String.toList_ofList, reverse_dropWhile_reverse_eq_iff]
  simp only [dropWhile_eq_iff]
  constructor
  · rintro ⟨back, ⟨front, htext, hfront, hhead⟩, hback, hlast⟩
    exact ⟨front, back, htext, hfront, hback,
      fun c hc => hhead c (List.mem_head?_append_of_mem_head? hc), hlast⟩
  · rintro ⟨front, back, htext, hfront, hback, hhead, hlast⟩
    -- A blank text is all trimmed in front, so that nothing is left to trim at the end.
    rcases h : trimmed.toList with _ | ⟨c, rest⟩
    · rw [h, List.nil_append] at htext
      refine ⟨[], ⟨text.toList, by simp, ?_, by simp⟩, by simp, by simp⟩
      rw [htext]
      exact List.forall_mem_append.2 ⟨hfront, hback⟩
    · rw [h] at htext hhead hlast
      exact ⟨back, ⟨front, htext, hfront, hhead⟩, hback, hlast⟩

theorem trimmed?_eq_some_iff {text trimmed : String} :
    trimmed? text = some trimmed ↔ trimmed ≠ "" ∧ IsTrimmed trimmed text := by
  rw [trimmed?, Option.ite_none_left_eq_some, Option.some_inj, ← trim_eq_iff]
  constructor
  · rintro ⟨hne, rfl⟩
    exact ⟨hne, rfl⟩
  · rintro ⟨hne, rfl⟩
    exact ⟨hne, rfl⟩

end LaunchLine.Text
