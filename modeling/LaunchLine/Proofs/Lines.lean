import LaunchLine.Text.Lines
import Mathlib.Data.List.Basic

/-!
# Proofs/Lines — the last line of a text

A text that ends with a line feed consists of whole lines, and what follows it begins a line of its
own (`rawLines_append`).  So a line that is added to such a text is the last one of the whole,
`getLast?_lines_append`.
-/

namespace LaunchLine.Text

variable {cs : List Char}

/-- **A text of whole lines**: a line feed ends the last one. -/
def EndsLine (cs : List Char) : Prop :=
  cs = [] ∨ cs.getLast? = some '\n'

theorem EndsLine.append {ds : List Char} (h : EndsLine cs) (h' : EndsLine ds) :
    EndsLine (cs ++ ds) := by
  rcases h' with rfl | h'
  · rwa [List.append_nil]
  · right
    rw [List.getLast?_append, h', Option.some_or]

theorem endsLine_concat (cs : List Char) : EndsLine (cs ++ ['\n']) :=
  Or.inr List.getLast?_concat

theorem EndsLine.tail {c : Char} (h : EndsLine (c :: cs)) : EndsLine cs := by
  cases cs with
  | nil => exact Or.inl rfl
  | cons c' cs =>
    rcases h with h | h
    · cases h
    · exact Or.inr (List.getLast?_cons_cons.symm.trans h)

theorem rawLines_cons (c : Char) (cs : List Char) :
    rawLines (c :: cs) = consRaw c (rawLines cs) := rfl

theorem rawLines_ne_nil (c : Char) (cs : List Char) : rawLines (c :: cs) ≠ [] := by
  rw [rawLines_cons]
  fun_cases consRaw c (rawLines cs) <;> simp

/-- **How many lines there are**, by line feeds: one for each, and one for what is behind the
last. -/
theorem length_rawLines (cs : List Char) :
    (rawLines cs).length =
      cs.count '\n' + if cs = [] ∨ cs.getLast? = some '\n' then 0 else 1 := by
  induction cs with
  | nil => rfl
  | cons c cs ih =>
    cases cs with
    | nil => by_cases hc : c = '\n' <;> simp [rawLines, consRaw, hc]
    | cons c' cs =>
      obtain ⟨line, rest, hlines⟩ := List.exists_cons_of_ne_nil (rawLines_ne_nil c' cs)
      rw [hlines] at ih
      rw [rawLines_cons, hlines, List.getLast?_cons_cons]
      by_cases hc : c = '\n' <;> simp [consRaw, hc, List.length_cons] at ih ⊢ <;> omega

/-- **Whole lines are cut on their own.** -/
theorem rawLines_append (h : EndsLine cs) (ds : List Char) :
    rawLines (cs ++ ds) = rawLines cs ++ rawLines ds := by
  induction cs with
  | nil => rfl
  | cons c cs ih =>
    rw [List.cons_append, rawLines_cons, ih h.tail, rawLines_cons]
    cases cs with
    | nil =>
      have hc : c = '\n' := by simpa [EndsLine] using h
      cases hds : rawLines ds <;> simp [rawLines, consRaw, hc]
    | cons c' cs =>
      obtain ⟨line, rest, hlines⟩ := List.exists_cons_of_ne_nil (rawLines_ne_nil c' cs)
      rw [hlines]
      by_cases hc : c = '\n' <;> simp [consRaw, hc]

/-- What follows whole lines begins a line of its own. -/
theorem lines_append {text : String} (h : EndsLine text.toList) (more : String) :
    lines (text ++ more) = lines text ++ lines more := by
  rw [lines, String.toList_append, rawLines_append h, List.map_append, lines, lines]

/-- A line with its ending is one line. -/
theorem rawLines_line (h : '\n' ∉ cs) : rawLines (cs ++ ['\n']) = [cs ++ ['\n']] := by
  induction cs with
  | nil => rfl
  | cons c cs ih =>
    have hc : c ≠ '\n' := fun hc => h (hc ▸ List.mem_cons_self)
    rw [List.cons_append, rawLines_cons, ih fun hcs => h (List.mem_cons_of_mem _ hcs), consRaw,
      if_neg hc]

theorem dropEnding_line (h : cs.getLast? ≠ some '\r') : dropEnding (cs ++ ['\n']) = cs := by
  rw [List.getLast?_eq_head?_reverse] at h
  rw [dropEnding, List.reverse_append, List.reverse_singleton, List.singleton_append]
  split
  · next rest hreverse =>
    rw [(List.cons.inj hreverse).2] at h
    exact absurd rfl h
  · next rest _ hreverse =>
    rw [← (List.cons.inj hreverse).2, List.reverse_reverse]
  · next hnot => exact absurd rfl (hnot cs.reverse)

theorem lines_line {line : String} (hfeed : '\n' ∉ line.toList)
    (hreturn : line.toList.getLast? ≠ some '\r') : lines (line ++ "\n") = [line] := by
  have hraw : rawLines (line ++ "\n").toList = [line.toList ++ ['\n']] := by
    rw [String.toList_append]
    exact rawLines_line hfeed
  rw [lines, hraw, List.map_singleton, dropEnding_line hreturn, String.ofList_toList]

/-- **The line that was added is the last one.** -/
theorem getLast?_lines_append {front line : String} (hfront : EndsLine front.toList)
    (hfeed : '\n' ∉ line.toList) (hreturn : line.toList.getLast? ≠ some '\r') :
    (lines (front ++ (line ++ "\n"))).getLast? = some line := by
  rw [lines_append hfront, lines_line hfeed hreturn, List.getLast?_concat]

end LaunchLine.Text
