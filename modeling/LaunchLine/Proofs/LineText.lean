import LaunchLine.Proofs.Directories
import LaunchLine.Report.Render

/-!
# Proofs/LineText — when the line text of a plan is read back

A reader of lines cuts a text at every line feed.  To it a word with no line feed is one line,
whatever else it holds, and a word with line feeds is several.  So words are read back exactly if
each of them is one line, and otherwise there are more lines than words (`length_lt_linewise_join`).
A line feed comes into the launcher's arguments only by the value of a slot, by the executable or by
what is passed on, `Config.plan_linewise`.
-/

namespace LaunchLine

namespace Text

/-! ## A reader of lines -/

/-- The pieces of a text between its line feeds. -/
def pieces (text : String) : List String :=
  (text.toList.splitOn '\n').map String.ofList

/-- **What a reader of lines sees**: the pieces between the line feeds, the last one only if it is
not empty. -/
def linewise (text : String) : List String :=
  if (pieces text).getLast? = some "" then (pieces text).dropLast else pieces text

/-- **A text on one line**: it holds no line feed. -/
def IsOneLine (text : String) : Prop :=
  '\n' ∉ text.toList

instance : DecidablePred IsOneLine :=
  fun text => inferInstanceAs (Decidable ('\n' ∉ text.toList))

theorem isOneLine_append {text more : String} :
    IsOneLine (text ++ more) ↔ IsOneLine text ∧ IsOneLine more := by
  rw [IsOneLine, String.toList_append, List.mem_append, not_or, IsOneLine, IsOneLine]

theorem pieces_append_feed (text more : String) :
    pieces (text ++ "\n" ++ more) = pieces text ++ pieces more := by
  have hcut : (text ++ "\n" ++ more).toList = text.toList ++ '\n' :: more.toList := by
    simp [String.toList_append]
  rw [pieces, hcut, List.splitOn_append_cons_self, List.map_append, pieces, pieces]

theorem pieces_ne_nil (text : String) : pieces text ≠ [] :=
  mt List.map_eq_nil_iff.1 (List.splitOn_ne_nil _ _)

theorem IsOneLine.pieces_eq {text : String} (h : IsOneLine text) : pieces text = [text] := by
  rw [pieces, List.splitOn_eq_singleton h, List.map_singleton, String.ofList_toList]

/-- A text with a line feed is cut there. -/
theorem one_lt_length_pieces {text : String} (h : ¬ IsOneLine text) :
    1 < (pieces text).length := by
  obtain ⟨front, back, htext⟩ := List.append_of_mem (not_not.1 h)
  have hfront := List.length_pos_iff.2 (List.splitOn_ne_nil '\n' front)
  have hback := List.length_pos_iff.2 (List.splitOn_ne_nil '\n' back)
  rw [pieces, htext, List.splitOn_append_cons_self, List.length_map, List.length_append]
  omega

/-! ## Words that are written one a line -/

theorem pieces_join (words : List String) :
    pieces (String.join (words.map (· ++ "\n"))) = words.flatMap pieces ++ [""] := by
  induction words with
  | nil => rfl
  | cons word words ih =>
    rw [List.map_cons, String.join_cons, pieces_append_feed, ih, List.flatMap_cons,
      List.append_assoc]

/-- **Every word is read as its pieces.** -/
theorem linewise_join (words : List String) :
    linewise (String.join (words.map (· ++ "\n"))) = words.flatMap pieces := by
  rw [linewise, pieces_join, List.getLast?_concat, if_pos rfl, List.dropLast_concat]

theorem length_le_length_flatMap_pieces (words : List String) :
    words.length ≤ (words.flatMap pieces).length := by
  induction words with
  | nil => exact Nat.le_refl 0
  | cons word words ih =>
    have hword := List.length_pos_iff.2 (pieces_ne_nil word)
    rw [List.flatMap_cons, List.length_append, List.length_cons]
    omega

/-- **A word with a line feed makes too many lines.** -/
theorem length_lt_linewise_join {words : List String} (h : ¬ ∀ word ∈ words, IsOneLine word) :
    words.length < (linewise (String.join (words.map (· ++ "\n")))).length := by
  simp only [not_forall] at h
  obtain ⟨word, hmem, hword⟩ := h
  obtain ⟨front, back, rfl⟩ := List.append_of_mem hmem
  have hlong := one_lt_length_pieces hword
  have hfront := length_le_length_flatMap_pieces front
  have hback := length_le_length_flatMap_pieces back
  rw [linewise_join, List.flatMap_append, List.flatMap_cons]
  simp only [List.length_append, List.length_cons]
  omega

/-- **Words are read back exactly if each is one line.** -/
theorem linewise_join_eq_iff {words : List String} :
    linewise (String.join (words.map (· ++ "\n"))) = words ↔ ∀ word ∈ words, IsOneLine word := by
  constructor
  · intro h
    by_contra hnot
    have hlong := length_lt_linewise_join hnot
    rw [h] at hlong
    exact Nat.lt_irrefl _ hlong
  · intro h
    have hpieces : words.flatMap pieces = words.flatMap fun word => [word] :=
      List.flatMap_congr fun word hword => (h word hword).pieces_eq
    rw [linewise_join, hpieces, List.flatMap_singleton']

end Text

/-! ## Where a line feed comes from -/

theorem Slot.isOneLine_name (slot : Slot) : Text.IsOneLine slot.name := by
  cases slot <;> decide

/-- A slot is told on one line exactly if its value is one line. -/
theorem Slot.isOneLine_render_iff {slot : Slot} {value? : Option String} :
    Text.IsOneLine (slot.render value?) ↔ ∀ value ∈ value?, Text.IsOneLine value := by
  obtain _ | value := value?
  · exact iff_of_true slot.isOneLine_name fun _ h => by cases h
  · have hequals : Text.IsOneLine "=" := by decide
    rw [render, Text.isOneLine_append, Text.isOneLine_append]
    simp [slot.isOneLine_name, hequals]

/-- The directory for artifacts is on one line if the output directory is. -/
theorem IsArtifactsDirOf.isOneLine {kept outputDir : String} (h : IsArtifactsDirOf kept outputDir)
    (hdir : Text.IsOneLine outputDir) : Text.IsOneLine kept := by
  obtain ⟨base, slashes, rfl, -, -, rfl⟩ := h
  have hsubdir : Text.IsOneLine ("/" ++ artifactsSubdir) := by decide
  rw [String.append_assoc, Text.isOneLine_append]
  exact ⟨(Text.isOneLine_append.1 hdir).1, hsubdir⟩

namespace LaunchPlan

/-- **All that a plan took over is on one line each**: the values of the slots, the executable and
what is passed on to the test. -/
structure IsOneLineEach (p : LaunchPlan) (es : List (Slot × Option String)) : Prop where
  values : ∀ slot value, (slot, some value) ∈ es → Text.IsOneLine value
  executable? : ∀ exe, p.executable? = some exe → Text.IsOneLine exe
  passedOn : ∀ word ∈ p.passedOn, Text.IsOneLine word

variable {r : Reading}

theorem isOneLine_slotArgs_iff :
    (∀ word ∈ (ofReading r).slotArgs, Text.IsOneLine word) ↔
      ∀ slot value, (slot, some value) ∈ (Slots.ofSettings r.settings).entries →
        Text.IsOneLine value := by
  rw [slotArgs_ofReading, Slots.render, List.forall_mem_map]
  simp only [Slot.isOneLine_render_iff]
  constructor
  · intro h slot value hentry
    exact h _ hentry value rfl
  · rintro h ⟨slot, value?⟩ hentry value rfl
    exact h slot value hentry

/-- The directory for artifacts brings a line feed only if the output directory does, which is the
value of a slot. -/
theorem isOneLine_testArgs_iff
    (h : ∀ slot value, (slot, some value) ∈ (Slots.ofSettings r.settings).entries →
      Text.IsOneLine value) :
    (∀ word ∈ (ofReading r).testArgs, Text.IsOneLine word) ↔
      ∀ word ∈ (ofReading r).passedOn, Text.IsOneLine word := by
  rw [testArgs, testArgsOf, List.forall_mem_append]
  refine and_iff_right fun word hword => ?_
  rw [Option.mem_toList, Option.map_eq_some_iff] at hword
  obtain ⟨kept, hkept, rfl⟩ := hword
  obtain ⟨-, dir, hout, -, hbelow⟩ := artifactsDir?_ofReading_eq_some_iff.1 hkept
  have hflag : Text.IsOneLine (artifactsFlag ++ "=") := by decide
  have hdir : Text.IsOneLine dir := h _ dir (Slots.value?_eq_some_iff.1 hout)
  exact Text.isOneLine_append.2 ⟨hflag, hbelow.isOneLine hdir⟩

/-- **The launcher's arguments are on one line each** exactly if all is that the plan took over. -/
theorem isOneLine_launcherArgs_iff :
    (∀ word ∈ (ofReading r).launcherArgs, Text.IsOneLine word) ↔
      (ofReading r).IsOneLineEach (Slots.ofSettings r.settings).entries := by
  have hshard : ∀ word ∈ singleShard, Text.IsOneLine word := by decide
  have hdivider : Text.IsOneLine divider := by decide
  have htest : (∀ word ∈ (if (ofReading r).testArgs = [] then []
        else divider :: (ofReading r).testArgs), Text.IsOneLine word) ↔
      ∀ word ∈ (ofReading r).testArgs, Text.IsOneLine word := by
    split <;> simp_all
  have hargs : (ofReading r).launcherArgs = singleShard ++ (ofReading r).slotArgs ++
      (ofReading r).executable?.toList ++
      (if (ofReading r).testArgs = [] then [] else divider :: (ofReading r).testArgs) := rfl
  rw [hargs, List.forall_mem_append, List.forall_mem_append, List.forall_mem_append, htest,
    isOneLine_slotArgs_iff]
  simp only [Option.mem_toList]
  constructor
  · rintro ⟨⟨⟨-, hvalues⟩, hexe⟩, hargs⟩
    exact ⟨hvalues, hexe, (isOneLine_testArgs_iff hvalues).1 hargs⟩
  · rintro ⟨hvalues, hexe, hpassed⟩
    exact ⟨⟨⟨hshard, hvalues⟩, hexe⟩, (isOneLine_testArgs_iff hvalues).2 hpassed⟩

end LaunchPlan

/-- **When the line text of a plan is read back.**  A reader of lines sees exactly the launcher's
arguments if and only if no value of a slot, nor the executable, nor a word that is passed on holds
a line feed.  Otherwise it sees more lines than there are arguments. -/
theorem Config.plan_linewise {cfg : Config} {arguments : List String} {p : LaunchPlan}
    (h : cfg.plan arguments = .ok p) :
    (∃ es, p.Fills es) ∧ ∀ es, p.Fills es →
      (Text.linewise p.lineText = p.launcherArgs ↔ p.IsOneLineEach es) ∧
      (¬ p.IsOneLineEach es → p.launcherArgs.length < (Text.linewise p.lineText).length) := by
  obtain ⟨r, -, rfl⟩ := LaunchPlan.exists_reading_of_planWith h
  have hfills := LaunchPlan.fills_ofReading r
  refine ⟨⟨_, hfills⟩, fun es hes => ?_⟩
  rw [hes.unique hfills, ← LaunchPlan.isOneLine_launcherArgs_iff]
  exact ⟨Text.linewise_join_eq_iff, Text.length_lt_linewise_join⟩

/-- An empty executable and a carriage return are read back; a line feed in the output directory is
not, and comes a second time in the directory for artifacts. -/
theorem Config.plan_linewise_feed :
    let plain : LaunchPlan :=
      ⟨["--shard_index=0", "--shard_count=1", "--gtest_filter=a\r", "", "--", "b\r"],
        ["--gtest_filter=a\r"], some "", ["b\r"], none, none⟩
    let fed : LaunchPlan :=
      ⟨["--shard_index=0", "--shard_count=1", "--output_dir=a\nb", "--",
          "--test_artifacts_dir=a\nb/test_artifacts"],
        ["--output_dir=a\nb"], none, [], some "a\nb", some "a\nb/test_artifacts"⟩
    Config.empty.plan ["--gtest_filter=a\r", "", "b\r"] = .ok plain ∧
    Text.linewise plain.lineText = plain.launcherArgs ∧
    Config.empty.plan ["-d", "a\nb", "--store-test-artifacts"] = .ok fed ∧
    fed.launcherArgs.length < (Text.linewise fed.lineText).length := by
  intro plain fed
  have hplain : Config.empty.plan ["--gtest_filter=a\r", "", "b\r"] = .ok plain := by decide
  have hfed : Config.empty.plan ["-d", "a\nb", "--store-test-artifacts"] = .ok fed := by decide
  refine ⟨hplain, ?_, hfed, ?_⟩
  · refine ((plan_linewise hplain).2 [(.testFilter, some "a\r")] ⟨by decide, by decide⟩).1.2 ?_
    refine ⟨?_, ?_, ?_⟩ <;> simp [Text.IsOneLine, plain]
  · refine ((plan_linewise hfed).2 [(.outputDir, some "a\nb")] ⟨by decide, by decide⟩).2 ?_
    intro hlines
    exact absurd (hlines.values _ _ List.mem_cons_self) (by simp [Text.IsOneLine])

end LaunchLine
