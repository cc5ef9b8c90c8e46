import LaunchLine.Proofs.ScopeOrder
import LaunchLine.Proofs.WalkingOn
import Mathlib.Data.List.Infix
import Mathlib.Data.List.Sort

/-!
# Proofs/LibraryScope — the library lies inside the workspace

Where no link is on the way to the library, its files stand below its place in the workspace, and
they are files of the workspace.  So the one listing is a part of the other, in the same order, what
is read for the one is read for the other, and what it lacks is said by the names of the files
(`Scope.library_within_workspace`).
-/

namespace LaunchLine.Scope

variable {fs : FileSystem} {root : Path} {above place : List Name} {es : List (Name × Node)}
  {content : Bytes}

/-- The place of the library in the workspace. -/
def libraryPlace : List Name :=
  ["gtest_wrapper", "src"].map Utf8.encode

theorem pathOf_library (root : Path) (place : List Name) :
    library.pathOf root place = workspace.pathOf root (libraryPlace ++ place) := by
  rw [pathOf, pathOf, List.foldl_append]
  rfl

/-! ## Files of the library -/

/-- The place of the library is not that of a source file. -/
theorem ne_nil_of_lists_workspace
    (h : workspace.Lists fs root (libraryPlace ++ place) content) : place ≠ [] := by
  rintro rfl
  obtain ⟨stem, hstem, hlast⟩ := h.named
  have hsrc : Utf8.encode "src" = stem ++ Utf8.encode ".rs" := Option.some.inj hlast
  have hlength := congrArg List.length hsrc
  rw [List.length_append, (by decide : (Utf8.encode "src").length = 3),
    (by decide : (Utf8.encode ".rs").length = 3)] at hlength
  exact hstem (List.eq_nil_of_length_eq_zero (by omega))

/-- A directory of the library is opened by the path that it has in the workspace. -/
theorem opens_library_iff (hne : place ≠ []) :
    (library.base root).Opens place ↔ (workspace.base root).Opens (libraryPlace ++ place) := by
  rw [Path.Opens, Path.Opens, List.dropLast_append_of_ne_nil hne, List.foldl_append]
  rfl

section Real

variable (hroot : fs.find? root = .ok (above, .directory es))
  (hreal : ∀ names target, names <+: libraryPlace →
    (Node.directory es).at? names ≠ some (.link target))
include hroot hreal

/-- **The library is where its place in the workspace is.** -/
theorem find?_library_iff {place : List Name} {node : Node} :
    fs.find? (library.base root) = .ok (place, node) ↔
      FileSystem.IsWalkable (library.base root) ∧ place = above ++ libraryPlace ∧
        (Node.directory es).at? libraryPlace = some node :=
  FileSystem.find?_below hroot (by decide) (by decide) (by decide) hreal

/-- **A file that the library lists** is one that the workspace lists below the place of the
library, and whose name the library does not leave out. -/
theorem lists_library_iff :
    library.Lists fs root place content ↔
      workspace.Lists fs root (libraryPlace ++ place) content ∧ library.Includes place := by
  constructor
  · intro h
    obtain ⟨above', directory, hfound, hfile⟩ := h.stands
    obtain ⟨-, -, hdirectory⟩ := (find?_library_iff hroot hreal).1 hfound
    obtain ⟨stem, hstem, hlast⟩ := h.named
    have hne : place ≠ [] := by
      rintro rfl
      cases hlast
    refine ⟨⟨⟨⟨above, .directory es, hroot, ?_⟩, ?_, ⟨stem, hstem, ?_⟩, ?_⟩,
      (opens_library_iff hne).1 h.opened⟩, h.included⟩
    · rw [Node.at?_append, hdirectory, Option.bind_some, hfile]
    · rw [List.dropLast_append_of_ne_nil hne]
      exact List.forall_mem_append.2 ⟨by decide, h.entered⟩
    · rw [List.getLast?_append_of_ne_nil _ hne, hlast]
    · exact .inl (List.mem_append_left _ (by decide))
  · rintro ⟨h, hincluded⟩
    have hne : place ≠ [] := ne_nil_of_lists_workspace h
    have hopened : (library.base root).Opens place := (opens_library_iff hne).2 h.opened
    have hplain : ∀ name ∈ libraryPlace, 0 ∉ name := by decide
    have hwalkable : FileSystem.IsWalkable (libraryPlace.foldl Path.join root) :=
      (FileSystem.isWalkable_of_find? hroot).below hplain hopened.length_lt
    have hfile := h.at?_of_base hroot
    rw [Node.at?_append, Option.bind_eq_some_iff] at hfile
    obtain ⟨node, hnode, hfile⟩ := hfile
    obtain ⟨stem, hstem, hlast⟩ := h.named
    have hentered := h.entered
    rw [List.dropLast_append_of_ne_nil hne] at hentered
    rw [List.getLast?_append_of_ne_nil _ hne] at hlast
    exact ⟨⟨⟨_, node, (find?_library_iff hroot hreal).2 ⟨hwalkable, rfl, hnode⟩, hfile⟩,
      (List.forall_mem_append.1 hentered).2, ⟨stem, hstem, hlast⟩, hincluded⟩, hopened⟩

/-! ## The listings -/

/-- **The library is listed as a part of the workspace**, in the same order. -/
theorem files_library_sublist (htree : fs.root.IsTree) :
    (library.files fs root).Sublist (workspace.files fs root) := by
  let shift : List Name × Bytes → List Name × Bytes := fun f => (libraryPlace ++ f.1, f.2)
  have hfiles : library.files fs root =
      ((library.placedFiles fs root).map shift).map fun f => (workspace.pathOf root f.1, f.2) := by
    rw [files_eq_map, List.map_map]
    exact List.map_congr_left fun f _ => by rw [pathOf_library]; rfl
  have hsubset : (library.placedFiles fs root).map shift ⊆ workspace.placedFiles fs root := by
    intro f hf
    obtain ⟨⟨place, content⟩, hmem, rfl⟩ := List.mem_map.1 hf
    have hfile := (lists_library_iff hroot hreal).1 ((mem_placedFiles_iff htree).1 hmem)
    exact (mem_placedFiles_iff htree).2 hfile.1
  have hsorted : ((library.placedFiles fs root).map shift).Pairwise fun a b => a.1 < b.1 :=
    List.pairwise_map.2 ((pairwise_placedFiles htree).imp List.append_left_lt)
  rw [hfiles, files_eq_map]
  have : Std.Antisymm fun a b : List Name × Bytes => a.1 < b.1 :=
    ⟨fun _ _ hab hba => absurd hba (List.lt_asymm hab)⟩
  have : Std.Irrefl fun a b : List Name × Bytes => a.1 < b.1 := ⟨fun a => List.lt_irrefl a.1⟩
  exact (List.sublist_of_subperm_of_pairwise (List.subperm_of_subset hsorted.nodup hsubset)
    hsorted (pairwise_placedFiles htree)).map _

/-- **What is read for the library is read for the workspace**, in the same order. -/
theorem sources_library_sublist (htree : fs.root.IsTree) {texts : List (Path × String)}
    (h : SourceRules.sources workspace fs root = .ok texts) :
    ∃ own, SourceRules.sources library fs root = .ok own ∧ own.Sublist texts :=
  exists_sublist_of_mapM (files_library_sublist hroot hreal htree) h

end Real

/-- **A name that the library leaves out**: that of the program, that of a unit test, or one that is
no text. -/
inductive IsLeftOut : Name → Prop
  | program : IsLeftOut (Utf8.encode "main.rs")
  | unitTest {text : String} (ends : "_test.rs".toList <:+ text.toList) :
      IsLeftOut (Utf8.encode text)
  | textless {name : Name} (unread : ∀ text, name ≠ Utf8.encode text) : IsLeftOut name

theorem not_includes_library_iff {name : Name} (h : place.getLast? = some name) :
    ¬ library.Includes place ↔ IsLeftOut name := by
  rw [Includes, h]
  constructor
  · intro hnot
    by_cases htext : ∃ text, name = Utf8.encode text
    · obtain ⟨text, rfl⟩ := htext
      by_cases hmain : text = "main.rs"
      · exact hmain ▸ .program
      · exact .unitTest (by_contra fun hends => hnot ⟨text, rfl, hmain, hends⟩)
    · exact .textless (not_exists.1 htext)
  · rintro hleft ⟨text, hname, hmain, hends⟩
    obtain rfl := Option.some.inj hname
    generalize hbytes : Utf8.encode text = bytes at hleft
    cases hleft with
    | program => exact hmain (Utf8.encode_injective hbytes)
    | unitTest hsuffix => exact hends (Utf8.encode_injective hbytes ▸ hsuffix)
    | textless hunread => exact hunread text hbytes.symm

/-- **The library lies inside the workspace.**  If no link is on the way to it, the files of the
library are listed as a part of the files of the workspace, in the same order; and if the texts of
the workspace can be read, so can those of the library, which are a part of them.  Of the files
that the workspace lists below its place the library lacks exactly those that are named like its
program or a unit test, or that have no text for a name. -/
theorem library_within_workspace (htree : fs.root.IsTree) (hnames : fs.root.IsNamed)
    (hroot : fs.find? root = .ok (above, .directory es))
    (hreal : ∀ names target, names <+: libraryPlace →
      (Node.directory es).at? names ≠ some (.link target)) :
    (library.files fs root).Sublist (workspace.files fs root) ∧
    (∀ texts, SourceRules.sources workspace fs root = .ok texts →
      ∃ own, SourceRules.sources library fs root = .ok own ∧ own.Sublist texts) ∧
    ∀ place content, workspace.Lists fs root (libraryPlace ++ place) content →
      (workspace.pathOf root (libraryPlace ++ place) ∉ (library.files fs root).map Prod.fst ↔
        ∃ name, place.getLast? = some name ∧ IsLeftOut name) := by
  refine ⟨files_library_sublist hroot hreal htree,
    fun texts => sources_library_sublist hroot hreal htree, fun place content hfile => ?_⟩
  have hne : place ≠ [] := ne_nil_of_lists_workspace hfile
  have hlast : place.getLast? = some (place.getLast hne) := List.getLast?_eq_some_getLast hne
  have hplace : ∀ name ∈ place, IsEntryName name :=
    (List.forall_mem_append.1 (hfile.toHasFile.isEntryName hnames)).2
  have hlisted : workspace.pathOf root (libraryPlace ++ place) ∈
      (library.files fs root).map Prod.fst ↔ library.Includes place := by
    rw [← pathOf_library, pathOf_mem_files_iff htree hnames hplace]
    constructor
    · rintro ⟨content', hlists⟩
      exact hlists.included
    · exact fun hincluded => ⟨content, (lists_library_iff hroot hreal).2 ⟨hfile, hincluded⟩⟩
  rw [hlisted, not_includes_library_iff hlast, hlast]
  simp only [Option.some.injEq, exists_eq_left']

/-- In a workspace that is reached through a link, the library lacks its program and a unit test in
a directory of its own. -/
theorem library_within_workspace_linked :
    let ws : List (Name × Node) := [(Utf8.encode "gtest_wrapper", .directory
      [(Utf8.encode "src", .directory
        [(Utf8.encode "lib.rs", .file []), (Utf8.encode "main.rs", .file []),
          (Utf8.encode "tests", .directory [(Utf8.encode "a_test.rs", .file [])])])])]
    let fs : FileSystem := ⟨.directory
      [(Utf8.encode "ws", .directory ws), (Utf8.encode "l", .link (.ofString "ws"))], []⟩
    let root := Path.ofString "/l"
    fs.root.IsTree ∧ fs.root.IsNamed ∧
    fs.find? root = .ok (["ws"].map Utf8.encode, .directory ws) ∧
    (∀ names target, names <+: libraryPlace →
      (Node.directory ws).at? names ≠ some (.link target)) ∧
    (library.files fs root).Sublist (workspace.files fs root) ∧
    .ofString "/l/gtest_wrapper/src/lib.rs" ∈ (library.files fs root).map Prod.fst ∧
    .ofString "/l/gtest_wrapper/src/main.rs" ∉ (library.files fs root).map Prod.fst ∧
    .ofString "/l/gtest_wrapper/src/tests/a_test.rs" ∉ (library.files fs root).map Prod.fst := by
  intro ws fs root
  have htree : fs.root.IsTree := by decide
  have hnames : fs.root.IsNamed := by decide
  have hroot : fs.find? root = .ok (["ws"].map Utf8.encode, .directory ws) := rfl
  have hreal : ∀ names target, names <+: libraryPlace →
      (Node.directory ws).at? names ≠ some (.link target) := by
    intro names target hprefix
    have hinits : names ∈ [[], ["gtest_wrapper"].map Utf8.encode, libraryPlace] :=
      (List.mem_inits _ _).2 hprefix
    simp only [List.mem_cons, List.not_mem_nil, or_false] at hinits
    intro hlink
    obtain rfl | rfl | rfl := hinits
    · cases Option.some.inj hlink
    · cases Option.some.inj hlink
    · cases Option.some.inj hlink
  have hstands : ∀ {names}, (Node.directory ws).at? names = some (.file []) →
      ∃ above directory, fs.find? (workspace.base root) = .ok (above, directory) ∧
        directory.at? names = some (.file []) := fun h => ⟨_, _, hroot, h⟩
  have hlib : workspace.Lists fs root (libraryPlace ++ ["lib.rs"].map Utf8.encode) [] :=
    ⟨⟨hstands rfl, by decide, ⟨Utf8.encode "lib", by decide, by decide⟩, .inl (by decide)⟩,
      by decide⟩
  have hmain : workspace.Lists fs root (libraryPlace ++ ["main.rs"].map Utf8.encode) [] :=
    ⟨⟨hstands rfl, by decide, ⟨Utf8.encode "main", by decide, by decide⟩, .inl (by decide)⟩,
      by decide⟩
  have htest : workspace.Lists fs root
      (libraryPlace ++ ["tests", "a_test.rs"].map Utf8.encode) [] :=
    ⟨⟨hstands rfl, by decide, ⟨Utf8.encode "a_test", by decide, by decide⟩, .inl (by decide)⟩,
      by decide⟩
  obtain ⟨hsublist, -, hmissing⟩ := library_within_workspace htree hnames hroot hreal
  refine ⟨htree, hnames, hroot, hreal, hsublist, ?_, ?_, ?_⟩
  · by_contra hlacks
    obtain ⟨name, hlast, hleft⟩ := (hmissing _ _ hlib).1 hlacks
    refine (not_includes_library_iff hlast).2 hleft ⟨"lib.rs", rfl, by decide, by decide⟩
  · exact (hmissing _ _ hmain).2 ⟨_, rfl, .program⟩
  · exact (hmissing _ _ htest).2 ⟨_, rfl, .unitTest (by decide)⟩

/-- **What the library lacks, and what is not read for the workspace.**  The library lacks a source
file of the workspace whose name is no text; and a file of the library is checked for panicking
calls where no file at all is checked for its length, because another file of the workspace is no
text. -/
theorem library_not_within_textless :
    let textless : Name := 0xFF :: Utf8.encode ".rs"
    let ws : List (Name × Node) := [(Utf8.encode "docs", .directory
        [(Utf8.encode "src", .directory [(Utf8.encode "a.rs", .file [0xFF])])]),
      (Utf8.encode "gtest_wrapper", .directory [(Utf8.encode "src", .directory
        [(Utf8.encode "lib.rs", .file (Utf8.encode "f().unwrap();\n")), (textless, .file [])])])]
    let fs : FileSystem := ⟨.directory ws, []⟩
    let root := Path.ofString "/"
    fs.root.IsTree ∧ fs.root.IsNamed ∧ fs.find? root = .ok ([], .directory ws) ∧
    (workspace.pathOf root (libraryPlace ++ [textless]) ∈ (workspace.files fs root).map Prod.fst ∧
      workspace.pathOf root (libraryPlace ++ [textless]) ∉ (library.files fs root).map Prod.fst ∧
      textless ≠ Utf8.encode "main.rs" ∧ ¬ Utf8.encode "_test.rs" <:+ textless) ∧
    SourceRules.panicsInLibrary fs root =
      .ok [.panicking (.ofString "/gtest_wrapper/src/lib.rs") 1 .unwrap] ∧
    ∀ limit, SourceRules.overlong fs root limit =
      .error (.notText (.ofString "/docs/src/a.rs")) := by
  intro textless ws fs root
  have htree : fs.root.IsTree := by decide
  have hnames : fs.root.IsNamed := by decide
  have hworkspace : workspace.placedFiles fs root =
      [(["docs", "src", "a.rs"].map Utf8.encode, [0xFF]),
        (libraryPlace ++ ["lib.rs"].map Utf8.encode, Utf8.encode "f().unwrap();\n"),
        (libraryPlace ++ [textless], [])] :=
    List.mergeSort_of_pairwise (by decide)
  have hlibrary : library.placedFiles fs root =
      [(["lib.rs"].map Utf8.encode, Utf8.encode "f().unwrap();\n")] :=
    List.mergeSort_singleton _
  refine ⟨htree, hnames, rfl, ⟨?_, ?_, by decide, by decide⟩, ?_, fun limit => ?_⟩
  · rw [files_eq_map, hworkspace]
    decide
  · rw [files_eq_map, hlibrary]
    decide
  · rw [SourceRules.panicsInLibrary, SourceRules.sources, files_eq_map, hlibrary]
    decide +kernel
  · rw [SourceRules.overlong, SourceRules.sources, files_eq_map, hworkspace]
    rfl

end LaunchLine.Scope
