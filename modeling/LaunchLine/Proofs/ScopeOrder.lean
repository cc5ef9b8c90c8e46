import LaunchLine.Proofs.Joining
import LaunchLine.Proofs.ScopeFiles

/-!
# Proofs/ScopeOrder — the files of a scope come in the order of their paths

In a tree whose entries have names as directories have them, the path of a file tells its place.  So
a scope lists the path of each of its files once, and the paths increase component by component
(`Scope.files_exactly_once`).
-/

namespace LaunchLine

namespace Node

variable {node child : Node} {es : List (Name × Node)} {place : List Name}

/-- **Names in a tree**: every entry of a directory has a name as directories have it. -/
inductive IsNamed : Node → Prop
  | file (content : Bytes) : IsNamed (.file content)
  | link (target : Path) : IsNamed (.link target)
  | directory {es : List (Name × Node)} (names : ∀ e ∈ es, IsEntryName e.1)
      (children : ∀ e ∈ es, IsNamed e.2) : IsNamed (.directory es)

@[simp]
theorem isNamed_directory_iff :
    (directory es).IsNamed ↔ ∀ e ∈ es, IsEntryName e.1 ∧ e.2.IsNamed := by
  refine ⟨fun h e he => ?_, fun h => .directory (fun e he => (h e he).1) fun e he => (h e he).2⟩
  cases h with
  | directory names children => exact ⟨names e he, children e he⟩

mutual

instance decidableIsNamed : (node : Node) → Decidable node.IsNamed
  | .file content => isTrue (.file content)
  | .link target => isTrue (.link target)
  | .directory es =>
    have := decidableAreNamed es
    decidable_of_iff' _ isNamed_directory_iff

/-- Whether all entries have names is decided one by one. -/
def decidableAreNamed :
    (es : List (Name × Node)) → Decidable (∀ e ∈ es, IsEntryName e.1 ∧ e.2.IsNamed)
  | [] => isTrue (List.forall_mem_nil _)
  | (_, child) :: es =>
    have := decidableIsNamed child
    have := decidableAreNamed es
    decidable_of_iff' _ List.forall_mem_cons

end

/-- A place in a tree is a row of such names. -/
theorem IsNamed.of_at? (h : node.IsNamed) (hchild : node.at? place = some child) :
    (∀ name ∈ place, IsEntryName name) ∧ child.IsNamed := by
  induction place generalizing node with
  | nil =>
    obtain rfl := Option.some.inj hchild
    exact ⟨List.forall_mem_nil _, h⟩
  | cons name names ih =>
    obtain ⟨next, hnext, hbelow⟩ := exists_child_of_at?_cons hchild
    cases h with
    | file | link => cases hnext
    | directory hnames hchildren =>
      obtain ⟨front, back, rfl, -⟩ := List.lookup_eq_some_iff.1 hnext
      have hmem : (name, next) ∈ front ++ (name, next) :: back :=
        List.mem_append_right front List.mem_cons_self
      obtain ⟨hbelow, hchild⟩ := ih (hchildren _ hmem) hbelow
      exact ⟨List.forall_mem_cons.2 ⟨hnames _ hmem, hbelow⟩, hchild⟩

/-! ## A single way -/

/-- A node below directories that have one entry each. -/
def under (names : List Name) (node : Node) : Node :=
  names.foldr (fun name child => .directory [(name, child)]) node

theorem at?_under (names : List Name) (node : Node) : (under names node).at? names = some node := by
  induction names with
  | nil => rfl
  | cons name names ih =>
    have hchild : (under (name :: names) node).entries.lookup name = some (under names node) :=
      List.lookup_cons_self
    exact (at?_cons_of_lookup hchild names).trans ih

end Node

namespace Scope

variable {scope : Scope} {fs : FileSystem} {root path : Path} {place place' : List Name}
  {content : Bytes}

/-! ## The order of the places -/

theorem placeLE_trans (a b c : List Name × Bytes) (hab : placeLE a b = true)
    (hbc : placeLE b c = true) : placeLE a c = true := by
  simp only [placeLE, decide_eq_true_eq] at *
  exact List.le_trans hab hbc

theorem placeLE_total (a b : List Name × Bytes) : (placeLE a b || placeLE b a) = true := by
  simp only [placeLE, Bool.or_eq_true, decide_eq_true_eq]
  exact List.le_total a.1 b.1

/-- **The places increase**, name by name. -/
theorem pairwise_placedFiles (htree : fs.root.IsTree) :
    (scope.placedFiles fs root).Pairwise fun a b => a.1 < b.1 := by
  have hle : (scope.placedFiles fs root).Pairwise fun a b => placeLE a b = true := by
    rw [placedFiles]
    split
    · exact List.Pairwise.nil
    · exact List.pairwise_mergeSort placeLE_trans placeLE_total _
  have hnodup : ((scope.placedFiles fs root).map Prod.fst).Nodup := nodup_placedFiles htree
  refine hle.imp₂ (fun a b hab hne => ?_) (List.pairwise_map.1 hnodup)
  exact (List.le_iff_lt_or_eq.1 (of_decide_eq_true hab)).resolve_right hne

/-! ## The paths -/

theorem HasFile.isEntryName (hnames : fs.root.IsNamed)
    (h : scope.HasFile fs root place content) : ∀ name ∈ place, IsEntryName name := by
  obtain ⟨above, directory, hfound, hfile⟩ := h.stands
  exact ((hnames.of_at? (FileSystem.at?_of_find? hfound)).2.of_at? hfile).1

/-- **The path of a file tells its place.** -/
theorem HasFile.eq_of_pathOf_eq (hnames : fs.root.IsNamed) {content' : Bytes}
    (h : scope.HasFile fs root place content) (h' : scope.HasFile fs root place' content')
    (hpath : scope.pathOf root place = scope.pathOf root place') : place = place' :=
  Path.below_injective _ (h.isEntryName hnames) (h'.isEntryName hnames) hpath

theorem mem_files_iff (htree : fs.root.IsTree) :
    (path, content) ∈ scope.files fs root ↔
      ∃ place, path = scope.pathOf root place ∧ scope.Lists fs root place content := by
  rw [files_eq_map, List.mem_map]
  constructor
  · rintro ⟨⟨place, content⟩, hmem, hpair⟩
    obtain ⟨rfl, rfl⟩ := Prod.mk.inj hpair
    exact ⟨place, rfl, (mem_placedFiles_iff htree).1 hmem⟩
  · rintro ⟨place, rfl, hfile⟩
    exact ⟨(place, content), (mem_placedFiles_iff htree).2 hfile, rfl⟩

/-- **A path is listed** if the file at its place is. -/
theorem pathOf_mem_files_iff (htree : fs.root.IsTree) (hnames : fs.root.IsNamed)
    (hplace : ∀ name ∈ place, IsEntryName name) :
    scope.pathOf root place ∈ (scope.files fs root).map Prod.fst ↔
      ∃ content, scope.Lists fs root place content := by
  rw [List.mem_map]
  constructor
  · rintro ⟨⟨path, content⟩, hmem, hpath⟩
    obtain ⟨place', rfl, hlists⟩ := (mem_files_iff htree).1 hmem
    obtain rfl := Path.below_injective _ (hlists.toHasFile.isEntryName hnames) hplace hpath
    exact ⟨content, hlists⟩
  · rintro ⟨content, hlists⟩
    exact ⟨(scope.pathOf root place, content), (mem_files_iff htree).2 ⟨place, rfl, hlists⟩, rfl⟩

/-- **The paths increase**, component by component. -/
theorem pairwise_files (htree : fs.root.IsTree) (hnames : fs.root.IsNamed) :
    ((scope.files fs root).map Prod.fst).Pairwise (· < ·) := by
  rw [files_eq_map, List.map_map, List.pairwise_map]
  refine (pairwise_placedFiles htree).imp_of_mem fun {a b} ha hb hlt => ?_
  exact Path.below_lt_below _ (((mem_placedFiles_iff htree).1 ha).toHasFile.isEntryName hnames)
    (((mem_placedFiles_iff htree).1 hb).toHasFile.isEntryName hnames) hlt

/-- **A scope lists its files exactly once**: a path is listed with a content if it is the path of a
file of the scope with this content, in a directory that can be opened, and the paths that are
listed increase component by component, so that none of them is there twice. -/
theorem files_exactly_once (htree : fs.root.IsTree) (hnames : fs.root.IsNamed) (scope : Scope) :
    (∀ path content, (path, content) ∈ scope.files fs root ↔
      ∃ place, path = scope.pathOf root place ∧ scope.Lists fs root place content) ∧
    ((scope.files fs root).map Prod.fst).Pairwise (· < ·) ∧
    ((scope.files fs root).map Prod.fst).Nodup :=
  ⟨fun _ _ => mem_files_iff htree, pairwise_files htree hnames, (pairwise_files htree hnames).nodup⟩

/-- A walk through the library meets `a-b.rs` before the directory `a`, whose file is listed first;
the program, a link and a directory that is skipped add nothing. -/
theorem files_exactly_once_unsorted :
    let fs : FileSystem := ⟨.directory [(Utf8.encode "gtest_wrapper", .directory
      [(Utf8.encode "src", .directory
        [(Utf8.encode "a-b.rs", .file []), (Utf8.encode "main.rs", .file []),
          (Utf8.encode "c.rs", .link (.ofString "a-b.rs")),
          (Utf8.encode "target", .directory [(Utf8.encode "d.rs", .file [])]),
          (Utf8.encode "a", .directory [(Utf8.encode "b.rs", .file [])])])])], []⟩
    let root := Path.ofString "/"
    fs.root.IsTree ∧ fs.root.IsNamed ∧
    (library.files fs root).map Prod.fst =
      ["/gtest_wrapper/src/a/b.rs", "/gtest_wrapper/src/a-b.rs"].map Path.ofString ∧
    Path.ofString "/gtest_wrapper/src/a/b.rs" < Path.ofString "/gtest_wrapper/src/a-b.rs" := by
  intro fs root
  have htree : fs.root.IsTree := by decide
  have hnames : fs.root.IsNamed := by decide
  have hsort : ∀ a b : List Name × Bytes, placeLE a b = false →
      [a, b].mergeSort placeLE = [b, a] := by
    intro a b hab
    simp [List.mergeSort, List.MergeSort.Internal.splitInTwo, hab]
  have hplaced : library.placedFiles fs root =
      [(["a", "b.rs"].map Utf8.encode, []), (["a-b.rs"].map Utf8.encode, [])] :=
    hsort (["a-b.rs"].map Utf8.encode, []) (["a", "b.rs"].map Utf8.encode, []) (by decide)
  have hfiles : (library.files fs root).map Prod.fst =
      ["/gtest_wrapper/src/a/b.rs", "/gtest_wrapper/src/a-b.rs"].map Path.ofString := by
    rw [files_eq_map, hplaced]
    rfl
  have hordered : ((library.files fs root).map Prod.fst).Pairwise (· < ·) :=
    (files_exactly_once htree hnames library).2.1
  rw [hfiles] at hordered
  exact ⟨htree, hnames, hfiles, List.rel_of_pairwise_cons hordered List.mem_cons_self⟩

/-- **What is not listed.**  The library does not list a source file whose name is no text, though
it is neither the program nor a unit test; and the workspace does not list a file so deep down that
the directory which it is in can not be opened by its path. -/
theorem not_listed_textless_deep :
    let textless : Name := 0xFF :: Utf8.encode ".rs"
    let long : Name := List.replicate 250 97
    let deep : List Name := List.replicate 16 long ++ ["src", "a.rs"].map Utf8.encode
    let fs : FileSystem := ⟨.directory [(Utf8.encode "gtest_wrapper",
      .directory [(Utf8.encode "src", .directory [(textless, .file [])])]),
        (long, Node.under deep (.file []))], []⟩
    let root := Path.ofString "/"
    fs.root.IsTree ∧ fs.root.IsNamed ∧
    (fs.find? (library.base root) =
        .ok (["gtest_wrapper", "src"].map Utf8.encode, .directory [(textless, .file [])]) ∧
      Path.extensionOf? textless = some (Utf8.encode "rs") ∧
      textless ≠ Utf8.encode "main.rs" ∧ ¬ Utf8.encode "_test.rs" <:+ textless ∧
      library.pathOf root [textless] ∉ (library.files fs root).map Prod.fst) ∧
    workspace.HasFile fs root (long :: deep) [] ∧
    workspace.pathOf root (long :: deep) ∉ (workspace.files fs root).map Prod.fst := by
  intro textless long deep fs root
  have hdeep : ∀ name ∈ long :: deep, IsEntryName name := by decide +kernel
  have htree : fs.root.IsTree := by decide +kernel
  have hnames : fs.root.IsNamed := by decide +kernel
  have hlong : fs.root.entries.lookup long = some (.under deep (.file [])) :=
    (Entries.mem_iff_lookup (Node.isTree_directory_iff.1 htree).1).1
      (List.mem_cons_of_mem _ List.mem_cons_self)
  have hsrc : Utf8.encode "src" ∈ long :: deep :=
    List.mem_cons_of_mem _ (List.mem_append_right _ List.mem_cons_self)
  have hstands : fs.root.at? (long :: deep) = some (.file []) := by
    rw [Node.at?_cons_of_lookup hlong, Node.at?_under]
  refine ⟨htree, hnames, ⟨rfl, by decide, by decide, by decide, ?library⟩,
    ⟨⟨[], _, rfl, hstands⟩, by decide +kernel, ⟨Utf8.encode "a", by decide, rfl⟩, .inl hsrc⟩,
    ?workspace⟩
  case library =>
    rw [pathOf_mem_files_iff htree hnames (by decide)]
    rintro ⟨content, hlists⟩
    obtain ⟨text, htext, -⟩ := hlists.included
    have htextless : textless = Utf8.encode text := Option.some.inj htext
    have hnot : Utf8.decode? textless = none := by decide
    rw [htextless, Utf8.decode?_encode] at hnot
    cases hnot
  case workspace =>
    rw [pathOf_mem_files_iff htree hnames hdeep]
    rintro ⟨content, hlists⟩
    have hnot : ¬ (workspace.base root).Opens (long :: deep) := by
      rw [Path.Opens]
      decide +kernel
    exact hnot hlists.opened

end Scope

end LaunchLine
