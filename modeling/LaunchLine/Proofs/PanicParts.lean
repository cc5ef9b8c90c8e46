import LaunchLine.Proofs.Lines
import LaunchLine.Proofs.PanicLines

/-!
# Proofs/PanicParts — where a source text panics, part by part

A source text is cut in two at the end of a line.  What is found in the whole is what is found in
the first part and then what is found in the second, further down by the lines of the first; but if
the tests begin in the first part, the second is exempt.  In each report the calls stand in order,
by their lines and on one line by the order of the calls, so none is reported twice
(`panicsIn_append`).

So a module of tests that is only declared, on two lines, hides the library code that follows it
(`panicsIn_append_testModule`).
-/

namespace LaunchLine

variable {path : Path}

/-! ## Lines further down -/

/-- The violation, in a file that got so many more lines in front. -/
def Violation.below (k : Nat) : Violation → Violation
  | overlong path lineCount => overlong path (lineCount + k)
  | panicking path n call => panicking path (n + k) call

theorem panicsFrom_append (path : Path) (n : Nat) (lines more : List String) :
    panicsFrom path n (lines ++ more) =
      panicsFrom path n lines ++ panicsFrom path (n + lines.length) more := by
  induction lines generalizing n with
  | nil => rfl
  | cons line lines ih =>
    rw [List.cons_append, panicsFrom, ih, panicsFrom, List.append_assoc, List.length_cons,
      Nat.add_right_comm, Nat.add_assoc n]

/-- **Lines that are numbered from further down** panic as much further down. -/
theorem panicsFrom_add (path : Path) (n k : Nat) (lines : List String) :
    panicsFrom path (n + k) lines = (panicsFrom path n lines).map (Violation.below k) := by
  induction lines generalizing n with
  | nil => rfl
  | cons line lines ih =>
    rw [panicsFrom, Nat.add_right_comm, ih, panicsFrom, List.map_append, List.map_map]
    rfl

/-! ## The tests -/

/-- Where no line opens the tests, the lines are all looked at. -/
theorem panicsIn_of_forall {source : String}
    (h : ∀ line ∈ Text.lines source, Text.trim line ≠ "#[cfg(test)]") :
    panicsIn path source = panicsFrom path 1 (Text.lines source) := by
  rw [panicsIn, List.takeWhile_eq_self_iff.2 fun line hline => not_opensTests_iff.2 (h line hline)]

/-- **Without tests in front**, the second part is looked at from its first line on. -/
theorem panicsIn_append_of_forall {text : String} (hends : Text.EndsLine text.toList)
    (h : ∀ line ∈ Text.lines text, Text.trim line ≠ "#[cfg(test)]") (more : String) :
    panicsIn path (text ++ more) = panicsIn path text ++
      (panicsIn path more).map (Violation.below (Text.lines text).length) := by
  rw [panicsIn_of_forall h, panicsIn, Text.lines_append hends,
    List.takeWhile_append_of_pos fun line hline => not_opensTests_iff.2 (h line hline),
    panicsFrom_append, panicsFrom_add, panicsIn]

/-- **Behind the line that opens the tests** nothing is looked at. -/
theorem panicsIn_append_of_exists {text : String} (hends : Text.EndsLine text.toList)
    (h : ∃ line ∈ Text.lines text, Text.trim line = "#[cfg(test)]") (more : String) :
    panicsIn path (text ++ more) = panicsIn path text := by
  have hstops : ((Text.lines text).takeWhile fun line => !opensTests line).length ≠
      (Text.lines text).length := by
    intro hlength
    have hall := List.takeWhile_eq_self_iff.1 ((List.takeWhile_prefix _).eq_of_length hlength)
    obtain ⟨line, hline, hopens⟩ := h
    exact not_opensTests_iff.1 (hall line hline) hopens
  rw [panicsIn, Text.lines_append hends, List.takeWhile_append, if_neg hstops, panicsIn]

/-! ## The order of a report -/

/-- The place of a call among those that are looked for. -/
def Panic.rank (call : Panic) : Nat :=
  Panic.all.idxOf call

theorem Panic.rank_unwrap_lt : Panic.unwrap.rank < Panic.expect.rank := by
  decide

/-- **The order of the panicking calls in a file**: by their lines, and on one line by the place of
the call. -/
inductive Violation.Before : Violation → Violation → Prop
  | line {path : Path} {n k : Nat} {call other : Panic} (h : n < k) :
      Before (.panicking path n call) (.panicking path k other)
  | call {path : Path} {n : Nat} {call other : Panic} (h : call.rank < other.rank) :
      Before (.panicking path n call) (.panicking path n other)

theorem Violation.Before.ne {v w : Violation} (h : v.Before w) : v ≠ w := by
  rintro rfl
  cases h with
  | line h => exact Nat.lt_irrefl _ h
  | call h => exact Nat.lt_irrefl _ h

theorem pairwise_panicsIn (path : Path) (source : String) :
    (panicsIn path source).Pairwise Violation.Before := by
  rw [panicsIn_eq_map, List.pairwise_map]
  refine (pairwise_hitsFrom 1 _).imp fun {a b} hab => ?_
  obtain ⟨n, call⟩ := a
  obtain ⟨k, other⟩ := b
  obtain hlt | ⟨rfl, rfl, rfl⟩ := hab
  · exact .line hlt
  · exact .call Panic.rank_unwrap_lt

/-- **A source text is looked at part by part.**  Behind whole lines that do not open the tests, the
calls of the rest are found as in the rest alone, further down by the number of these lines; behind
whole lines that open the tests nothing is found any more.  In every report the calls stand in
order, and none is there twice. -/
theorem panicsIn_append (path : Path) {text : String} (hends : Text.EndsLine text.toList)
    (more : String) :
    ((∀ line ∈ Text.lines text, Text.trim line ≠ "#[cfg(test)]") →
      panicsIn path (text ++ more) = panicsIn path text ++
        (panicsIn path more).map (Violation.below (Text.lines text).length)) ∧
    ((∃ line ∈ Text.lines text, Text.trim line = "#[cfg(test)]") →
      panicsIn path (text ++ more) = panicsIn path text) ∧
    ∀ source, (panicsIn path source).Pairwise Violation.Before ∧ (panicsIn path source).Nodup :=
  ⟨fun h => panicsIn_append_of_forall hends h more,
    fun h => panicsIn_append_of_exists hends h more,
    fun source => ⟨pairwise_panicsIn path source,
      (pairwise_panicsIn path source).imp Violation.Before.ne⟩⟩

/-- The first part ends with a carriage return and a line feed, the second without either; a line
that opens the tests is exempt with all behind it, whatever blanks stand around the mark. -/
theorem panicsIn_append_blanks :
    Text.EndsLine "// a.unwrap()\r\n b.expect(c.unwrap());\r\n".toList ∧
    panicsIn (.ofString "a.rs")
      ("// a.unwrap()\r\n b.expect(c.unwrap());\r\n" ++ "\nd.unwrap()") =
        [.panicking (.ofString "a.rs") 2 .unwrap, .panicking (.ofString "a.rs") 2 .expect,
          .panicking (.ofString "a.rs") 4 .unwrap] ∧
    Text.EndsLine "a.unwrap();\n\t#[cfg(test)] \r\n".toList ∧
    panicsIn (.ofString "a.rs") ("a.unwrap();\n\t#[cfg(test)] \r\n" ++ "b.unwrap();\n") =
      [.panicking (.ofString "a.rs") 1 .unwrap] := by
  have hplain : Text.EndsLine "// a.unwrap()\r\n b.expect(c.unwrap());\r\n".toList := .inr rfl
  have htests : Text.EndsLine "a.unwrap();\n\t#[cfg(test)] \r\n".toList := .inr rfl
  refine ⟨hplain, ?_, htests, ?_⟩
  · rw [(panicsIn_append _ hplain _).1 (by decide)]
    decide
  · rw [(panicsIn_append _ htests _).2.1 (by decide)]
    decide

/-! ## Behind a module of tests -/

/-- The declaration of a module of tests that has a file of its own. -/
def testModule (name : String) : String :=
  "#[cfg(test)]\n" ++ ("mod " ++ name ++ ";\n")

/-- **The line that opens the tests** is looked at as little as what is behind it. -/
theorem panicsIn_append_mark {text : String} (hends : Text.EndsLine text.toList) (more : String) :
    panicsIn path (text ++ ("#[cfg(test)]\n" ++ more)) = panicsIn path text := by
  have hlines : Text.lines ("#[cfg(test)]\n" ++ more) = "#[cfg(test)]" :: Text.lines more :=
    Text.lines_append (.inr rfl) more
  have hstops : (Text.lines ("#[cfg(test)]\n" ++ more)).takeWhile (fun line => !opensTests line) =
      [] := by
    rw [hlines]
    exact List.takeWhile_cons_of_neg (by decide)
  rw [panicsIn, Text.lines_append hends, List.takeWhile_append, hstops, List.append_nil, panicsIn]
  split
  · next hall => rw [(List.takeWhile_prefix _).eq_of_length hall]
  · rfl

/-- **What is reported** is a call with the number of a line. -/
theorem exists_of_mem_panicsIn {source : String} {v : Violation} (h : v ∈ panicsIn path source) :
    ∃ n call, v = .panicking path n call ∧ 0 < n ∧ n ≤ (Text.lines source).length := by
  rw [panicsIn_eq_map] at h
  obtain ⟨⟨n, call⟩, hhit, rfl⟩ := List.mem_map.1 h
  obtain ⟨before, line, after, hlines, rfl, -⟩ := mem_hitsIn_iff.1 hhit
  refine ⟨_, call, rfl, Nat.succ_pos _, ?_⟩
  rw [hlines, List.length_append, List.length_cons]
  omega

/-- **A module of tests hides what follows it.**  Behind whole lines and the declaration of such a
module nothing is found any more: the report is that of the lines in front, and none of the calls of
the rest is in it, further down by the lines before the rest. -/
theorem panicsIn_append_testModule (path : Path) {text : String}
    (hends : Text.EndsLine text.toList) (name more : String) :
    panicsIn path (text ++ testModule name ++ more) = panicsIn path text ∧
    ∀ v ∈ panicsIn path more, v.below (Text.lines (text ++ testModule name)).length ∉
      panicsIn path (text ++ testModule name ++ more) := by
  have hwhole : panicsIn path (text ++ testModule name ++ more) = panicsIn path text := by
    rw [String.append_assoc, testModule, String.append_assoc]
    exact panicsIn_append_mark hends _
  refine ⟨hwhole, fun v hv hbelow => ?_⟩
  rw [hwhole] at hbelow
  obtain ⟨n, call, rfl, hpos, -⟩ := exists_of_mem_panicsIn hv
  obtain ⟨k, _, hk, -, hle⟩ := exists_of_mem_panicsIn hbelow
  obtain ⟨-, rfl, -⟩ := Violation.panicking.inj hk
  rw [Text.lines_append hends, List.length_append] at hle
  omega

/-- The call in front of the module is found, the call behind it is not. -/
theorem panicsIn_append_testModule_between :
    Text.EndsLine "a.unwrap();\n".toList ∧
    panicsIn (.ofString "lib.rs") ("a.unwrap();\n" ++ testModule "b_test" ++ "c.expect(d);\n") =
      [.panicking (.ofString "lib.rs") 1 .unwrap] ∧
    panicsIn (.ofString "lib.rs") "c.expect(d);\n" = [.panicking (.ofString "lib.rs") 1 .expect] ∧
    .panicking (.ofString "lib.rs") 4 .expect ∉ panicsIn (.ofString "lib.rs")
      ("a.unwrap();\n" ++ testModule "b_test" ++ "c.expect(d);\n") := by
  have hends : Text.EndsLine "a.unwrap();\n".toList := .inr rfl
  have hrest : panicsIn (.ofString "lib.rs") "c.expect(d);\n" =
      [.panicking (.ofString "lib.rs") 1 .expect] := by decide
  obtain ⟨hwhole, hhidden⟩ :=
    panicsIn_append_testModule (.ofString "lib.rs") hends "b_test" "c.expect(d);\n"
  refine ⟨hends, hwhole.trans (by decide), hrest, ?_⟩
  exact hhidden (.panicking (.ofString "lib.rs") 1 .expect) (by rw [hrest]; decide)

/-- The library code behind the module is exempt with it: its call, which is found in that code
alone, is missing from the report of the whole. -/
theorem panicsIn_not_trailing :
    Text.EndsLine "pub mod args;\n".toList ∧
    (∀ line ∈ Text.lines "pub mod args;\n", Text.trim line ≠ "#[cfg(test)]") ∧
    (Text.lines ("pub mod args;\n" ++ testModule "args_test")).length = 3 ∧
    .panicking (.ofString "lib.rs") 1 .unwrap ∈
      panicsIn (.ofString "lib.rs") "pub fn a() \x7b b().unwrap(); \x7d\n" ∧
    (Violation.panicking (.ofString "lib.rs") 1 .unwrap).below 3 ∉
      panicsIn (.ofString "lib.rs") ("pub mod args;\n" ++ testModule "args_test" ++
        "pub fn a() \x7b b().unwrap(); \x7d\n") :=
  ⟨.inr rfl, by decide, by decide, by decide, by decide⟩

end LaunchLine
