import LaunchLine.Proofs.PanicLines
import LaunchLine.Proofs.WalkingOn

/-!
# Proofs/SourceCheck — the check reports every breach of the rules, once

`KeepsRules` says what the rules ask of a workspace, and `IsReport` what a full report of their
breaches is, both without the check.  The check ends well exactly if the rules are kept; otherwise
what it prints is such a report: `check_reports_all_breaches`.
-/

namespace LaunchLine.SourceRules

variable {fs : FileSystem} {root : Path} {texts : List (List Name × String)}

/-- **The rules are kept**: no file of the workspace has too many lines, and no line of the library
makes a panicking call. -/
structure KeepsRules (fs : FileSystem) (root : Path) : Prop where
  short : ∀ place text, Scope.workspace.HasFile fs root place (Utf8.encode text) →
    (Text.lines text).length ≤ maxLines
  calm : ∀ place text, Scope.library.HasFile fs root place (Utf8.encode text) →
    ∀ n call, ¬ PanicsAt text n call

/-- **A full report**: each file that is too long, once, and each panicking call on a line of a file
of the library, once. -/
structure IsReport (fs : FileSystem) (root : Path) (long : List (List Name × String))
    (hits : List (List Name × Nat × Panic)) : Prop where
  long_nodup : (long.map Prod.fst).Nodup
  mem_long_iff : ∀ place text, (place, text) ∈ long ↔
    Scope.workspace.HasFile fs root place (Utf8.encode text) ∧
      maxLines < (Text.lines text).length
  hits_nodup : hits.Nodup
  mem_hits_iff : ∀ place n call, (place, n, call) ∈ hits ↔
    ∃ text, Scope.library.HasFile fs root place (Utf8.encode text) ∧ PanicsAt text n call

/-- A file that is too long, as it is reported. -/
def overlongOf (root : Path) (file : List Name × String) : Violation :=
  .overlong (Scope.workspace.pathOf root file.1) (Text.lines file.2).length

/-- A panicking call, as it is reported. -/
def panickingOf (root : Path) (hit : List Name × Nat × Panic) : Violation :=
  .panicking (Scope.library.pathOf root hit.1) hit.2.1 hit.2.2

/-- **A report without entries** is one of a workspace that keeps the rules. -/
theorem IsReport.keepsRules_iff {long : List (List Name × String)}
    {hits : List (List Name × Nat × Panic)} (h : IsReport fs root long hits) :
    KeepsRules fs root ↔ long = [] ∧ hits = [] := by
  constructor
  · refine fun hkeeps => ⟨List.eq_nil_iff_forall_not_mem.2 ?_, List.eq_nil_iff_forall_not_mem.2 ?_⟩
    · rintro ⟨place, text⟩ hmem
      obtain ⟨hfile, hlong⟩ := (h.mem_long_iff place text).1 hmem
      exact Nat.not_lt.2 (hkeeps.short place text hfile) hlong
    · rintro ⟨place, n, call⟩ hmem
      obtain ⟨text, hfile, hpanics⟩ := (h.mem_hits_iff place n call).1 hmem
      exact hkeeps.calm place text hfile n call hpanics
  · rintro ⟨rfl, rfl⟩
    refine ⟨fun place text hfile => Nat.not_lt.1 fun hlong => ?_,
      fun place text hfile n call hpanics => ?_⟩
    · exact List.not_mem_nil ((h.mem_long_iff place text).2 ⟨hfile, hlong⟩)
    · exact List.not_mem_nil ((h.mem_hits_iff place n call).2 ⟨text, hfile, hpanics⟩)

/-! ## What the rules find -/

/-- The files of a listing that have more lines than allowed, the longest first. -/
def longOf (limit : Nat) (texts : List (List Name × String)) : List (List Name × String) :=
  (texts.filter fun file => limit < (Text.lines file.2).length).mergeSort
    fun a b => (Text.lines b.2).length ≤ (Text.lines a.2).length

/-- The panicking calls in the files of a listing. -/
def hitsOf (texts : List (List Name × String)) : List (List Name × Nat × Panic) :=
  texts.flatMap fun file => (hitsIn file.2).map fun hit => (file.1, hit)

theorem overlong_of_sources {limit : Nat}
    (h : sources .workspace fs root =
      .ok (texts.map fun e => (Scope.workspace.pathOf root e.1, e.2))) :
    overlong fs root limit = .ok ((longOf limit texts).map (overlongOf root)) := by
  let measured : List Name × String → Path × Nat := fun file =>
    (Scope.workspace.pathOf root file.1, (Text.lines file.2).length)
  have hsort : (longOf limit texts).map measured =
      ((texts.map measured).filter fun m => limit < m.2).mergeSort lengthGE := by
    rw [List.filter_map]
    exact List.map_mergeSort fun _ _ _ _ => rfl
  rw [overlong, h]
  simp only [Except.map, ← Text.length_lines, List.map_map]
  have hmap := congrArg (List.map fun m : Path × Nat => Violation.overlong m.1 m.2) hsort
  rw [List.map_map] at hmap
  exact congrArg Except.ok hmap.symm

theorem panicsInLibrary_of_sources
    (h : sources .library fs root =
      .ok (texts.map fun e => (Scope.library.pathOf root e.1, e.2))) :
    panicsInLibrary fs root = .ok ((hitsOf texts).map (panickingOf root)) := by
  rw [panicsInLibrary, h, hitsOf]
  simp only [Except.map, List.flatMap_map, panicsIn_eq_map, List.map_flatMap, List.map_map]
  rfl

theorem mem_longOf_iff {limit : Nat} {file : List Name × String} :
    file ∈ longOf limit texts ↔ file ∈ texts ∧ limit < (Text.lines file.2).length := by
  rw [longOf, List.mem_mergeSort, List.mem_filter, decide_eq_true_iff]

theorem nodup_longOf {limit : Nat} (h : (texts.map Prod.fst).Nodup) :
    ((longOf limit texts).map Prod.fst).Nodup := by
  rw [longOf, ((List.mergeSort_perm _ _).map Prod.fst).nodup_iff]
  exact h.sublist (List.filter_sublist.map Prod.fst)

theorem mem_hitsOf_iff {place : List Name} {n : Nat} {call : Panic} :
    (place, n, call) ∈ hitsOf texts ↔ ∃ text, (place, text) ∈ texts ∧ PanicsAt text n call := by
  simp only [hitsOf, List.mem_flatMap, List.mem_map, ← mem_hitsIn_iff]
  constructor
  · rintro ⟨file, hfile, hit, hmem, hpair⟩
    obtain ⟨rfl, rfl⟩ := Prod.mk.inj hpair
    exact ⟨file.2, hfile, hmem⟩
  · rintro ⟨text, hfile, hmem⟩
    exact ⟨(place, text), hfile, (n, call), hmem, rfl⟩

theorem nodup_hitsOf (h : (texts.map Prod.fst).Nodup) : (hitsOf texts).Nodup := by
  rw [hitsOf, List.nodup_flatMap]
  refine ⟨fun file _ => (nodup_hitsIn file.2).map (Prod.mk_right_injective file.1), ?_⟩
  refine (List.pairwise_map.1 h).imp fun {a b} hne => List.disjoint_left.2 ?_
  intro hit ha hb
  obtain ⟨_, -, rfl⟩ := List.mem_map.1 ha
  obtain ⟨_, -, hpair⟩ := List.mem_map.1 hb
  exact hne (Prod.mk.inj hpair).1.symm

/-- **A full report is found**, if all files can be read. -/
theorem exists_report (htree : fs.root.IsTree)
    (hread : ∀ scope : Scope, scope.IsReadable fs root) :
    ∃ long hits, IsReport fs root long hits ∧
      violations fs root = .ok (long.map (overlongOf root) ++ hits.map (panickingOf root)) := by
  obtain ⟨all, hall, hsources⟩ := Scope.exists_listing htree (hread .workspace)
  obtain ⟨library, hlibrary, hsources'⟩ := Scope.exists_listing htree (hread .library)
  refine ⟨longOf maxLines all, hitsOf library, ⟨nodup_longOf hall.nodup, fun place text => ?long,
    nodup_hitsOf hlibrary.nodup, fun place n call => ?hits⟩, ?found⟩
  case long => rw [mem_longOf_iff, hall.mem_iff]
  case hits => simp only [mem_hitsOf_iff, hlibrary.mem_iff]
  case found =>
    rw [violations, overlong_of_sources hsources, panicsInLibrary_of_sources hsources']
    rfl

/-! ## The check -/

/-- **The check reports every breach of the rules, once.**  If all source files of a tree can be
read as texts, the check ends well and prints no error exactly if the rules are kept.  Otherwise it
fails and prints how many breaches there are, and then a full report, the files that are too long
first. -/
theorem check_reports_all_breaches (htree : fs.root.IsTree)
    (hread : ∀ scope : Scope, scope.IsReadable fs root) :
    ((check fs root).exitCode = 0 ∧ (check fs root).stderr = "" ↔ KeepsRules fs root) ∧
    (¬ KeepsRules fs root → ∃ long hits, IsReport fs root long hits ∧
      check fs root = ⟨1, "",
        "found " ++ (long.length + hits.length).repr ++ " source rule violations:\n" ++
        "\n".intercalate
          ((long.map (overlongOf root) ++ hits.map (panickingOf root)).map Violation.message) ++
        "\n"⟩) := by
  obtain ⟨long, hits, hreport, hfound⟩ := exists_report htree hread
  have hcheck : check fs root =
      outcomeOf (long.map (overlongOf root) ++ hits.map (panickingOf root)) := by
    rw [check, hfound]
  rw [hreport.keepsRules_iff, hcheck]
  cases hall : long.map (overlongOf root) ++ hits.map (panickingOf root) with
  | nil =>
    obtain ⟨rfl, rfl⟩ : long = [] ∧ hits = [] := by simpa using hall
    exact ⟨iff_of_true ⟨rfl, rfl⟩ ⟨rfl, rfl⟩, fun hnot => absurd ⟨rfl, rfl⟩ hnot⟩
  | cons v vs =>
    have hlength : (v :: vs).length = long.length + hits.length := by
      rw [← hall, List.length_append, List.length_map, List.length_map]
    refine ⟨iff_of_false (fun h => Nat.one_ne_zero h.1) ?_, fun _ => ⟨long, hits, hreport, ?_⟩⟩
    · rintro ⟨rfl, rfl⟩
      cases hall
    · rw [outcomeOf, hall, ← hlength]

/-- A library that calls `.unwrap()` fails the check; one that names it in a comment does not, and
what lies in a directory that is skipped need not be text. -/
theorem check_reports_all_breaches_unwrap :
    let tree (text : String) : FileSystem := ⟨.directory [(Utf8.encode "gtest_wrapper",
      .directory [(Utf8.encode "src", .directory
        [(Utf8.encode "lib.rs", .file (Utf8.encode text)),
          (Utf8.encode "target", .directory [(Utf8.encode "a.rs", .file [0xFF])])])])], []⟩
    let root := Path.ofString "/"
    (∀ text, (tree text).root.IsTree ∧
      ∀ scope : Scope, scope.IsReadable (tree text) root) ∧
    ((check (tree "// f().unwrap()\nf();\n") root).exitCode = 0 ∧
      (check (tree "// f().unwrap()\nf();\n") root).stderr = "") ∧
    ∃ long hits, IsReport (tree "f();\nf().unwrap();\n") root long hits ∧
      check (tree "f();\nf().unwrap();\n") root = ⟨1, "",
        "found " ++ (long.length + hits.length).repr ++ " source rule violations:\n" ++
        "\n".intercalate
          ((long.map (overlongOf root) ++ hits.map (panickingOf root)).map Violation.message) ++
        "\n"⟩ := by
  intro tree root
  have htree : ∀ text, (tree text).root.IsTree := fun text =>
    have names : (["lib.rs", "target"].map Utf8.encode).Nodup := by decide
    have skipped : (Node.directory [(Utf8.encode "a.rs", .file [0xFF])]).IsTree :=
      .directory (List.nodup_singleton _) (List.forall_mem_singleton.2 (.file _))
    .directory (List.nodup_singleton _) (List.forall_mem_singleton.2
      (.directory (List.nodup_singleton _) (List.forall_mem_singleton.2
        (.directory names (List.forall_mem_cons.2
          ⟨.file _, List.forall_mem_singleton.2 skipped⟩)))))
  let own (text : String) : Node := .directory [(Utf8.encode "lib.rs", .file (Utf8.encode text)),
    (Utf8.encode "target", .directory [(Utf8.encode "a.rs", .file [0xFF])])]
  have hworkspace : ∀ text, (tree text).find? (Scope.workspace.base root) =
      .ok ([], (tree text).root) := fun _ => rfl
  have hlibrary : ∀ text, (tree text).find? (Scope.library.base root) =
      .ok (["gtest_wrapper", "src"].map Utf8.encode, own text) := fun _ => rfl
  have hown : ∀ text place content, (own text).at? place = some (.file content) →
      (∀ name ∈ place.dropLast,
        name ∉ ["target", ".git", "snapshots", "examples"].map Utf8.encode) →
          place = ["lib.rs"].map Utf8.encode ∧ content = Utf8.encode text := by
    intro text place content hfile hentered
    obtain ⟨e, he, names, rfl, hbelow⟩ := Node.exists_entry_of_at?_file hfile
    rw [List.mem_cons, List.mem_singleton] at he
    obtain rfl | rfl := he
    · obtain ⟨rfl, hcontent⟩ := Node.at?_file_eq_some_iff.1 hbelow
      exact ⟨rfl, Node.file.inj hcontent⟩
    · obtain ⟨_, _, names, rfl, -⟩ := Node.exists_entry_of_at?_file hbelow
      exact absurd List.mem_cons_self (hentered _ List.mem_cons_self)
  let places := [["gtest_wrapper", "src", "lib.rs"].map Utf8.encode, ["lib.rs"].map Utf8.encode]
  have hfile : ∀ text (scope : Scope) place content, scope.HasFile (tree text) root place content →
      place ∈ places ∧ content = Utf8.encode text := by
    intro text scope place content h
    cases scope with
    | workspace =>
      obtain ⟨e, he, names, rfl, hmember⟩ :=
        Node.exists_entry_of_at?_file (h.at?_of_base (hworkspace text))
      obtain rfl := List.mem_singleton.1 he
      obtain ⟨e, he, names, rfl, hsources⟩ := Node.exists_entry_of_at?_file hmember
      obtain rfl := List.mem_singleton.1 he
      obtain ⟨rfl, hcontent⟩ := hown text names content hsources
        (Node.forall_mem_dropLast_cons_iff.1 (Node.forall_mem_dropLast_cons_iff.1 h.entered).2).2
      exact ⟨List.mem_cons_self, hcontent⟩
    | library =>
      obtain ⟨rfl, hcontent⟩ := hown text place content (h.at?_of_base (hlibrary text)) h.entered
      exact ⟨List.mem_cons_of_mem _ List.mem_cons_self, hcontent⟩
  have hread : ∀ text (scope : Scope), scope.IsReadable (tree text) root := by
    intro text scope
    have hnames : ∀ place ∈ places, ∀ name ∈ place,
        IsEntryName name ∧ name.length ≤ 255 ∧ 0 ∉ name := by decide
    have hshort : ∀ place ∈ places,
        (scope.pathOf root place).bytes.length < FileSystem.maxPathLength := by
      cases scope <;> decide
    exact Scope.isReadable_of_short
      (fun place content h => hnames place (hfile text scope place content h).1)
      (fun place content h => hshort place (hfile text scope place content h).1)
      fun place content h => ⟨text, (hfile text scope place content h).2⟩
  have hcalm : KeepsRules (tree "// f().unwrap()\nf();\n") root := by
    constructor
    · intro place text h
      rw [Utf8.encode_injective (hfile _ _ _ _ h).2]
      decide
    · intro place text h n call hpanics
      rw [Utf8.encode_injective (hfile _ _ _ _ h).2, ← mem_hitsIn_iff] at hpanics
      have hnone : hitsIn "// f().unwrap()\nf();\n" = [] := by decide
      rw [hnone] at hpanics
      cases hpanics
  have hpanics : ¬ KeepsRules (tree "f();\nf().unwrap();\n") root := by
    intro hkeeps
    refine hkeeps.calm (["lib.rs"].map Utf8.encode) "f();\nf().unwrap();\n"
      ⟨⟨_, _, hlibrary _, rfl⟩, by decide, ⟨Utf8.encode "lib", by decide, rfl⟩,
        "lib.rs", rfl, by decide, by decide⟩ 2 .unwrap ?_
    rw [← mem_hitsIn_iff]
    decide
  exact ⟨fun text => ⟨htree text, hread text⟩,
    (check_reports_all_breaches (htree _) (hread _)).1.2 hcalm,
    (check_reports_all_breaches (htree _) (hread _)).2 hpanics⟩

end LaunchLine.SourceRules
