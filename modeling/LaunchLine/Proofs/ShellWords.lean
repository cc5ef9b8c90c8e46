import LaunchLine.Shell.Quoting

/-!
# Proofs/ShellWords — a shell reads back the words of a command line

A reader goes through a command line and takes each character in one of three ways: as it stands
outside quotes, literally, or as a mark that quotes others.  Blanks and line feeds that are taken as
they stand part the words; the marks are dropped from them.  What the reader makes of a command line
is what the command line was made of, `words?_commandLine`.
-/

namespace LaunchLine.Shell

/-! ## The reader -/

/-- What a reader makes of a character. -/
inductive Use
  /-- It stands outside quotes and may mean something to the shell. -/
  | bare
  /-- It stands for itself. -/
  | literal
  /-- It makes others literal and stands for nothing. -/
  | mark
  deriving DecidableEq, Repr

/-- Where a reader is. -/
inductive Stance
  | outside
  | quoted
  | escaped
  deriving DecidableEq, Repr

namespace Stance

/-- What is made of a character, and where the reader is behind it. -/
def step : Stance → Char → Use × Stance
  | outside, '\x27' => (.mark, quoted)
  | outside, '\\' => (.mark, escaped)
  | outside, _ => (.bare, outside)
  | quoted, '\x27' => (.mark, outside)
  | quoted, _ => (.literal, quoted)
  | escaped, _ => (.literal, outside)

/-- Where the reader is behind some characters. -/
def after (s : Stance) (cs : List Char) : Stance :=
  cs.foldl (fun s c => (s.step c).2) s

/-- **What is made of each character.** -/
def uses (s : Stance) : List Char → List (Char × Use)
  | [] => []
  | c :: cs => (c, (s.step c).1) :: uses (s.step c).2 cs

end Stance

/-- Whether a character parts words, given its use. -/
def isGap (e : Char × Use) : Bool :=
  e.2 == .bare && [' ', '\t', '\n'].contains e.1

/-- What is left of characters without the marks among them. -/
def unmarked (es : List (Char × Use)) : List Char :=
  (es.filter fun e => e.2 ≠ .mark).map Prod.fst

/-- The words among characters: what is left of the pieces between gaps, the empty pieces apart. -/
def wordsOf (es : List (Char × Use)) : List String :=
  ((es.splitOnP isGap).filter fun piece => piece ≠ []).map fun piece =>
    String.ofList (unmarked piece)

/-- **The words of a command line**, unless it ends inside quotes or behind a backslash. -/
def words? (line : String) : Option (List String) :=
  if Stance.outside.after line.toList = .outside then
    some (wordsOf (Stance.outside.uses line.toList))
  else none

/-- The characters that mean something to a shell outside quotes, apart from blanks, the single
quote and the backslash.  The equals sign, which makes assignments, is not among them, nor are those
that mean something only behind one of these. -/
def specials : List Char :=
  ['|', '&', ';', '<', '>', '(', ')', '$', '\x60', '\"', '\n', '*', '?', '[', ']', '#', '~', '!',
    '\x7b', '\x7d', '^']

/-! ## Reading in parts -/

@[simp] theorem unmarked_append (es es' : List (Char × Use)) :
    unmarked (es ++ es') = unmarked es ++ unmarked es' := by
  simp [unmarked]

theorem unmarked_cons_mark (c : Char) (es : List (Char × Use)) :
    unmarked ((c, .mark) :: es) = unmarked es := rfl

theorem unmarked_map_bare (cs : List Char) : unmarked (cs.map fun c => (c, .bare)) = cs := by
  induction cs with
  | nil => rfl
  | cons c cs ih => exact congrArg (c :: ·) ih

namespace Stance

theorem after_append (s : Stance) (cs ds : List Char) :
    s.after (cs ++ ds) = (s.after cs).after ds :=
  List.foldl_append

theorem uses_append (s : Stance) (cs ds : List Char) :
    s.uses (cs ++ ds) = s.uses cs ++ (s.after cs).uses ds := by
  induction cs generalizing s with
  | nil => rfl
  | cons c cs ih => exact congrArg _ (ih (s.step c).2)

theorem uses_eq_nil_iff {s : Stance} {cs : List Char} : s.uses cs = [] ↔ cs = [] := by
  cases cs <;> simp [uses]

/-! ## A word without quotes -/

theorem step_outside_of_isPlain {c : Char} (h : isPlain c = true) :
    outside.step c = (.bare, outside) := by
  have hquote : c ≠ '\x27' := by
    rintro rfl
    exact absurd h (by decide)
  have hbackslash : c ≠ '\\' := by
    rintro rfl
    exact absurd h (by decide)
  unfold step
  split <;> simp_all

theorem after_outside_of_isPlain {cs : List Char} (h : ∀ c ∈ cs, isPlain c = true) :
    outside.after cs = outside := by
  induction cs with
  | nil => rfl
  | cons c cs ih =>
    obtain ⟨hc, hcs⟩ := List.forall_mem_cons.1 h
    rw [after, List.foldl_cons, step_outside_of_isPlain hc]
    exact ih hcs

theorem uses_outside_of_isPlain {cs : List Char} (h : ∀ c ∈ cs, isPlain c = true) :
    outside.uses cs = cs.map fun c => (c, .bare) := by
  induction cs with
  | nil => rfl
  | cons c cs ih =>
    obtain ⟨hc, hcs⟩ := List.forall_mem_cons.1 h
    rw [uses, step_outside_of_isPlain hc, ih hcs]
    rfl

/-! ## A word between quotes -/

theorem step_quoted_of_ne {c : Char} (h : c ≠ '\x27') : quoted.step c = (.literal, quoted) := by
  unfold step
  split <;> simp_all

/-- **Behind each character the reader is inside quotes again.** -/
theorem after_quoteChar (c : Char) : quoted.after (quoteChar c) = quoted := by
  by_cases h : c = '\x27'
  · subst h
    rfl
  · rw [quoteChar, if_neg h, after, List.foldl_cons, step_quoted_of_ne h]
    rfl

/-- What is made of a character between quotes: a single quote is taken once of the four times that
it or a mark for it is written. -/
theorem uses_quoteChar (c : Char) :
    quoted.uses (quoteChar c) =
      if c = '\x27' then [(c, .mark), ('\\', .mark), (c, .literal), (c, .mark)]
      else [(c, .literal)] := by
  by_cases h : c = '\x27'
  · subst h
    rfl
  · rw [quoteChar, if_neg h, if_neg h, uses, step_quoted_of_ne h]
    rfl

theorem after_flatMap_quoteChar (cs : List Char) :
    quoted.after (cs.flatMap quoteChar) = quoted := by
  induction cs with
  | nil => rfl
  | cons c cs ih => rw [List.flatMap_cons, after_append, after_quoteChar, ih]

theorem uses_flatMap_quoteChar (cs : List Char) :
    quoted.uses (cs.flatMap quoteChar) = cs.flatMap fun c => quoted.uses (quoteChar c) := by
  induction cs with
  | nil => rfl
  | cons c cs ih => rw [List.flatMap_cons, uses_append, after_quoteChar, ih, List.flatMap_cons]

theorem unmarked_uses_flatMap_quoteChar (cs : List Char) :
    unmarked (quoted.uses (cs.flatMap quoteChar)) = cs := by
  rw [uses_flatMap_quoteChar]
  induction cs with
  | nil => rfl
  | cons c cs ih =>
    rw [List.flatMap_cons, unmarked_append, ih, uses_quoteChar]
    split <;> simp [unmarked]

/-- Nothing between quotes is bare. -/
theorem bare_notMem_uses_flatMap_quoteChar (c : Char) (cs : List Char) :
    (c, Use.bare) ∉ quoted.uses (cs.flatMap quoteChar) := by
  rw [uses_flatMap_quoteChar, List.mem_flatMap]
  rintro ⟨d, -, hd⟩
  rw [uses_quoteChar] at hd
  split at hd <;> simp at hd

end Stance

/-! ## Words -/

/-- **A text that is read as one word**: it ends outside quotes, is not empty, and holds nothing
bare that means something to the shell. -/
structure IsWord (cs : List Char) (word : String) : Prop where
  closed : Stance.outside.after cs = .outside
  ne_nil : cs ≠ []
  text : String.ofList (unmarked (Stance.outside.uses cs)) = word
  isPlain_of_bare : ∀ c, (c, Use.bare) ∈ Stance.outside.uses cs → isPlain c = true

/-- A word that is harmless is read as it stands. -/
theorem isWord_toList {word : String} (hne : word.toList ≠ [])
    (hplain : ∀ c ∈ word.toList, isPlain c = true) : IsWord word.toList word where
  closed := Stance.after_outside_of_isPlain hplain
  ne_nil := hne
  text := by
    rw [Stance.uses_outside_of_isPlain hplain, unmarked_map_bare, String.ofList_toList]
  isPlain_of_bare c hc := by
    rw [Stance.uses_outside_of_isPlain hplain] at hc
    obtain ⟨d, hd, he⟩ := List.mem_map.1 hc
    obtain ⟨rfl, -⟩ := Prod.mk.inj he
    exact hplain d hd

/-- Any word is read back from between quotes. -/
theorem isWord_between (word : String) :
    IsWord ('\x27' :: word.toList.flatMap quoteChar ++ ['\x27']) word := by
  have hafter : Stance.outside.after ('\x27' :: word.toList.flatMap quoteChar) = .quoted :=
    Stance.after_flatMap_quoteChar word.toList
  have huses : Stance.outside.uses ('\x27' :: word.toList.flatMap quoteChar ++ ['\x27'])
      = ('\x27', .mark) :: Stance.quoted.uses (word.toList.flatMap quoteChar)
        ++ [('\x27', .mark)] := by
    rw [Stance.uses_append, hafter]
    rfl
  refine ⟨?_, by simp, ?_, fun c hc => ?_⟩
  · rw [Stance.after_append, hafter]
    rfl
  · rw [huses, unmarked_append, unmarked_cons_mark, Stance.unmarked_uses_flatMap_quoteChar]
    exact (congrArg String.ofList (List.append_nil _)).trans String.ofList_toList
  · rw [huses] at hc
    refine absurd ?_ (Stance.bare_notMem_uses_flatMap_quoteChar c word.toList)
    simpa using hc

/-- **A word is read back from its quoted form.** -/
theorem isWord_quote (word : String) : IsWord (quote word) word := by
  have hne := quote_ne_nil word
  by_cases h : (word ≠ "" && word.toList.all isPlain) = true
  · rw [quote, if_pos h] at hne ⊢
    rw [Bool.and_eq_true, List.all_eq_true] at h
    exact isWord_toList hne h.2
  · rw [quote, if_neg h]
    exact isWord_between word

/-! ## Command lines -/

/-- **A blank behind a word** is taken as it stands, and what is behind it is read afresh. -/
theorem read_append_blank {cs : List Char} (h : Stance.outside.after cs = .outside)
    (rest : List Char) :
    Stance.outside.after (cs ++ ' ' :: rest) = Stance.outside.after rest ∧
    Stance.outside.uses (cs ++ ' ' :: rest)
      = Stance.outside.uses cs ++ (' ', .bare) :: Stance.outside.uses rest := by
  rw [Stance.after_append, Stance.uses_append, h]
  exact ⟨rfl, rfl⟩

/-- Words that a blank parts are read one by one. -/
theorem read_intercalate {texts : List (List Char)}
    (h : ∀ cs ∈ texts, Stance.outside.after cs = .outside) :
    Stance.outside.after ([' '].intercalate texts) = .outside ∧
    Stance.outside.uses ([' '].intercalate texts)
      = [(' ', .bare)].intercalate (texts.map Stance.outside.uses) := by
  induction texts with
  | nil => exact ⟨rfl, rfl⟩
  | cons cs texts ih =>
    obtain ⟨hcs, htexts⟩ := List.forall_mem_cons.1 h
    cases texts with
    | nil => simpa using hcs
    | cons ds texts =>
      obtain ⟨hafter, huses⟩ := ih htexts
      obtain ⟨hafter', huses'⟩ := read_append_blank hcs ([' '].intercalate (ds :: texts))
      rw [List.intercalate_cons_cons, List.append_assoc, List.singleton_append]
      refine ⟨hafter'.trans hafter, ?_⟩
      rw [huses', huses]
      simp only [List.map_cons, List.intercalate_cons_cons, List.append_assoc,
        List.singleton_append]

/-- Pieces that hold no gap are found again between gaps. -/
theorem splitOnP_intercalate {α : Type} {p : α → Bool} (gap : α) (hgap : p gap = true)
    {pieces : List (List α)} (hne : pieces ≠ []) (h : ∀ piece ∈ pieces, ∀ x ∈ piece, p x = false) :
    ([gap].intercalate pieces).splitOnP p = pieces := by
  induction pieces with
  | nil => exact absurd rfl hne
  | cons piece pieces ih =>
    obtain ⟨hpiece, hpieces⟩ := List.forall_mem_cons.1 h
    cases pieces with
    | nil => rw [List.intercalate_singleton, List.splitOnP_eq_singleton hpiece]
    | cons next pieces =>
      rw [List.intercalate_cons_cons, List.append_assoc, List.singleton_append,
        List.splitOnP_append_cons_of_forall_mem hpiece gap hgap, ih (List.cons_ne_nil _ _) hpieces]

theorem mem_intercalate {α : Type} {gap x : α} {pieces : List (List α)}
    (h : x ∈ [gap].intercalate pieces) : x = gap ∨ ∃ piece ∈ pieces, x ∈ piece := by
  induction pieces with
  | nil => cases h
  | cons piece pieces ih =>
    cases pieces with
    | nil =>
      rw [List.intercalate_singleton] at h
      exact Or.inr ⟨piece, List.mem_cons_self, h⟩
    | cons next pieces =>
      rw [List.intercalate_cons_cons, List.append_assoc, List.mem_append, List.singleton_append,
        List.mem_cons] at h
      rcases h with h | h | h
      · exact Or.inr ⟨piece, List.mem_cons_self, h⟩
      · exact Or.inl h
      · exact (ih h).imp id fun ⟨other, hother, hx⟩ =>
          ⟨other, List.mem_cons_of_mem piece hother, hx⟩

theorem IsWord.isGap_eq_false {cs : List Char} {word : String} (h : IsWord cs word)
    {e : Char × Use} (he : e ∈ Stance.outside.uses cs) : isGap e = false := by
  obtain ⟨c, use⟩ := e
  cases use with
  | literal | mark => rfl
  | bare =>
    have hplain := h.isPlain_of_bare c he
    have hgaps : [' ', '\t', '\n'].all (fun d => !isPlain d) = true := by decide
    refine Bool.eq_false_iff.2 fun hgap => ?_
    have hmem : c ∈ [' ', '\t', '\n'] := by simpa [isGap] using hgap
    have hnot := List.all_eq_true.1 hgaps c hmem
    rw [hplain] at hnot
    cases hnot

/-- What is made of a command line, word by word. -/
theorem uses_commandLine (program : String) (arguments : List String) :
    Stance.outside.after (commandLine program arguments).toList = .outside ∧
    Stance.outside.uses (commandLine program arguments).toList
      = [(' ', .bare)].intercalate
          ((program :: arguments).map fun word => Stance.outside.uses (quote word)) := by
  have hline : (commandLine program arguments).toList
      = [' '].intercalate ((program :: arguments).map quote) := String.toList_ofList
  have hclosed : ∀ cs ∈ (program :: arguments).map quote, Stance.outside.after cs = .outside :=
    List.forall_mem_map.2 fun word _ => (isWord_quote word).closed
  have hread := read_intercalate hclosed
  rw [List.map_map] at hread
  rw [hline]
  exact hread

theorem wordsOf_intercalate_quote {words : List String} (hne : words ≠ []) :
    wordsOf ([(' ', .bare)].intercalate (words.map fun word => Stance.outside.uses (quote word)))
      = words := by
  have hgapless : ∀ piece ∈ words.map fun word => Stance.outside.uses (quote word),
      ∀ e ∈ piece, isGap e = false :=
    List.forall_mem_map.2 fun word _ e he => (isWord_quote word).isGap_eq_false he
  have hfull : ∀ piece ∈ words.map fun word => Stance.outside.uses (quote word),
      decide (piece ≠ []) = true :=
    List.forall_mem_map.2 fun word _ =>
      decide_eq_true (mt Stance.uses_eq_nil_iff.1 (isWord_quote word).ne_nil)
  have hback : ∀ word ∈ words, String.ofList (unmarked (Stance.outside.uses (quote word))) = word :=
    fun word _ => (isWord_quote word).text
  have hsplit := splitOnP_intercalate (' ', Use.bare) rfl (mt List.map_eq_nil_iff.1 hne) hgapless
  rw [wordsOf, hsplit, List.filter_eq_self.2 hfull, List.map_map]
  exact (List.map_congr_left hback).trans (List.map_id _)

/-- **A command line is read back exactly.**  The words that a reader finds are the program and its
arguments, and no character that means something to a shell is left to mean it. -/
theorem words?_commandLine (program : String) (arguments : List String) :
    words? (commandLine program arguments) = some (program :: arguments) ∧
    ∀ c, (c, Use.bare) ∈ Stance.outside.uses (commandLine program arguments).toList →
      c ∉ specials := by
  obtain ⟨hafter, huses⟩ := uses_commandLine program arguments
  rw [words?, if_pos hafter, huses]
  refine ⟨congrArg some (wordsOf_intercalate_quote (List.cons_ne_nil _ _)), fun c hc hspecial => ?_⟩
  rcases mem_intercalate hc with hblank | ⟨piece, hpiece, hmem⟩
  · obtain ⟨rfl, -⟩ := Prod.mk.inj hblank
    exact absurd hspecial (by decide)
  · obtain ⟨word, -, rfl⟩ := List.mem_map.1 hpiece
    have hplain := (isWord_quote word).isPlain_of_bare c hmem
    have hspecials : specials.all (fun d => !isPlain d) = true := by decide
    have hnot := List.all_eq_true.1 hspecials c hspecial
    rw [hplain] at hnot
    cases hnot

/-- Quotes at both ends of a word, two of them in a row, and words that are empty or look like two.
-/
example : commandLine "a" ["", "''b'", "c d"]
    = "a '' ''\\'''\\''b'\\''' 'c d'" := by
  decide

end LaunchLine.Shell
