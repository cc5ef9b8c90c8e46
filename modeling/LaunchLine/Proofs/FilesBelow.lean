import LaunchLine.Proofs.Joining
import LaunchLine.Proofs.Writing
import LaunchLine.SourceRules.Scope
import Mathlib.Data.List.Nodup

/-!
# Proofs/FilesBelow — a walk through a tree finds every file once

In a tree every directory has each of its names once, so a list of names leads to one node at most.
The walk reports the places of files that no directory of a skipped name is on the way to, in
directories whose paths are not too long (`Node.mem_filesBelow_iff`), and none of them twice
(`Node.nodup_filesBelow`).
-/

namespace LaunchLine

/-! ## Directories that can be opened -/

namespace Path

variable {p : Path} {name : Name} {names : List Name}

/-- **The directory of a place can be opened**: the path that leads there from `p` is not too
long. -/
def Opens (p : Path) (place : List Name) : Prop :=
  (place.dropLast.foldl join p).bytes.length < FileSystem.maxPathLength

instance (p : Path) (place : List Name) : Decidable (p.Opens place) :=
  inferInstanceAs (Decidable (_ < FileSystem.maxPathLength))

/-- One can open a directory only below directories that one can open. -/
theorem Opens.length_lt {place : List Name} (h : p.Opens place) :
    p.bytes.length < FileSystem.maxPathLength :=
  Nat.lt_of_le_of_lt (prefix_below p place.dropLast).length_le h

theorem opens_of_length_lt {place : List Name}
    (h : (place.foldl join p).bytes.length < FileSystem.maxPathLength) : p.Opens place := by
  obtain rfl | ⟨front, last, rfl⟩ := place.eq_nil_or_concat
  · exact h
  · rw [List.concat_eq_append] at h ⊢
    rw [List.foldl_append] at h
    rw [Opens, List.dropLast_concat]
    exact Nat.lt_of_le_of_lt (prefix_below (front.foldl join p) [last]).length_le h

theorem opens_cons_iff :
    p.Opens (name :: names) ↔ p.bytes.length < FileSystem.maxPathLength ∧
      (names ≠ [] → (p.join name).Opens names) := by
  cases names with
  | nil => simp [Opens]
  | cons other names =>
    refine ⟨fun h => ⟨h.length_lt, fun _ => h⟩, fun h => h.2 (List.cons_ne_nil other names)⟩

end Path

namespace Node

variable {node child : Node} {es : List (Name × Node)} {place names : List Name} {name : Name}
  {content : Bytes} {path : Path}

/-- **A tree**: a directory has each of its names once. -/
inductive IsTree : Node → Prop
  | file (content : Bytes) : IsTree (.file content)
  | link (target : Path) : IsTree (.link target)
  | directory {es : List (Name × Node)} (nodup : (es.map Prod.fst).Nodup)
      (children : ∀ e ∈ es, IsTree e.2) : IsTree (.directory es)

@[simp]
theorem isTree_directory_iff :
    (directory es).IsTree ↔ (es.map Prod.fst).Nodup ∧ ∀ e ∈ es, e.2.IsTree := by
  refine ⟨fun h => ?_, fun h => .directory h.1 h.2⟩
  cases h with
  | directory nodup children => exact ⟨nodup, children⟩

mutual

instance decidableIsTree : (node : Node) → Decidable node.IsTree
  | .file content => isTrue (.file content)
  | .link target => isTrue (.link target)
  | .directory es =>
    have := decidableAreTrees es
    decidable_of_iff' _ isTree_directory_iff

/-- Whether all entries are trees is decided one by one. -/
def decidableAreTrees : (es : List (Name × Node)) → Decidable (∀ e ∈ es, e.2.IsTree)
  | [] => isTrue (List.forall_mem_nil _)
  | (_, child) :: es =>
    have := decidableIsTree child
    have := decidableAreTrees es
    decidable_of_iff' _ List.forall_mem_cons

end

/-- What is found in a tree is a tree. -/
theorem IsTree.at? (h : node.IsTree) (hchild : node.at? place = some child) : child.IsTree := by
  induction place generalizing node with
  | nil => rwa [← Option.some.inj hchild]
  | cons name names ih =>
    obtain ⟨next, hnext, hbelow⟩ := exists_child_of_at?_cons hchild
    cases h with
    | file | link => cases hnext
    | directory nodup children =>
      exact ih (children _ ((Entries.mem_iff_lookup nodup).2 hnext)) hbelow

/-- Nothing is below a file. -/
theorem at?_file_eq_some_iff {c : Bytes} :
    (file c).at? place = some child ↔ place = [] ∧ child = .file c := by
  cases place <;> simp [at?, entries, eq_comm]

/-- A file below a directory is one of its entries, or below one of them. -/
theorem exists_entry_of_at?_file (h : (directory es).at? place = some (.file content)) :
    ∃ e ∈ es, ∃ names, place = e.1 :: names ∧ e.2.at? names = some (.file content) := by
  cases place with
  | nil => cases Option.some.inj h
  | cons name names =>
    obtain ⟨child, hchild, hfile⟩ := exists_child_of_at?_cons h
    obtain ⟨front, back, hes, -⟩ := List.lookup_eq_some_iff.1 hchild
    have hmem : (name, child) ∈ (directory es).entries := by
      rw [hes]
      exact List.mem_append_right front List.mem_cons_self
    exact ⟨(name, child), hmem, names, rfl, hfile⟩

theorem isSkippedName_eq_true_iff :
    isSkippedName name = true ↔
      name ∈ ["target", ".git", "snapshots", "examples"].map Utf8.encode := by
  rw [isSkippedName, List.any_eq_true, List.mem_map]
  simp only [beq_iff_eq]

/-! ## What the walk reports -/

/-- The files at and below an entry of a directory at a path, if the walk enters it. -/
def filesOf (path : Path) (e : Name × Node) : List (List Name × Bytes) :=
  if e.2.isDirectory && isSkippedName e.1 then []
  else (e.2.filesBelow (path.join e.1)).map fun f => (e.1 :: f.1, f.2)

theorem mem_filesOf_iff {e : Name × Node} :
    (place, content) ∈ filesOf path e ↔
      (e.2.isDirectory = true → isSkippedName e.1 = false) ∧
        ∃ names, place = e.1 :: names ∧ (names, content) ∈ e.2.filesBelow (path.join e.1) := by
  by_cases h : (e.2.isDirectory && isSkippedName e.1) = true
  · have hskipped : ¬ (e.2.isDirectory = true → isSkippedName e.1 = false) := by simpa using h
    simp [filesOf, h, hskipped]
  · have hentered : e.2.isDirectory = true → isSkippedName e.1 = false := by simpa using h
    rw [filesOf, if_neg h, List.mem_map, and_iff_right hentered]
    constructor
    · rintro ⟨f, hf, hplace⟩
      obtain ⟨rfl, rfl⟩ := Prod.mk.inj hplace
      exact ⟨f.1, rfl, hf⟩
    · rintro ⟨names, rfl, hf⟩
      exact ⟨(names, content), hf, rfl⟩

theorem filesIn_eq_flatMap (path : Path) (es : List (Name × Node)) :
    filesIn path es = es.flatMap (filesOf path) := by
  induction es with
  | nil => rfl
  | cons e es ih => rw [filesIn, ih, List.flatMap_cons, filesOf]

theorem mem_filesBelow_directory_iff :
    (place, content) ∈ (directory es).filesBelow path ↔
      path.bytes.length < FileSystem.maxPathLength ∧
        ∃ e ∈ es, (place, content) ∈ filesOf path e := by
  rw [filesBelow, filesIn_eq_flatMap]
  split
  · next hlong => simp [Nat.not_lt.2 hlong]
  · next hshort => simp [Nat.not_le.1 hshort]

/-- On the way to a file, exactly the nodes that have something below them are directories. -/
theorem isDirectory_iff_of_at?_file (h : child.at? names = some (.file content)) :
    child.isDirectory = true ↔ names ≠ [] := by
  cases names with
  | nil =>
    obtain rfl := Option.some.inj h
    simp [isDirectory]
  | cons name names =>
    obtain ⟨es, rfl⟩ := exists_directory_of_at?_cons h
    simp [isDirectory]

theorem forall_mem_dropLast_cons_iff {p : Name → Prop} :
    (∀ n ∈ (name :: names).dropLast, p n) ↔
      (names ≠ [] → p name) ∧ ∀ n ∈ names.dropLast, p n := by
  cases names <;> simp

/-- **What the walk reports**: the files that no directory of a skipped name is on the way to, in
directories that can be opened. -/
theorem mem_filesBelow_iff (h : node.IsTree) :
    (place, content) ∈ node.filesBelow path ↔
      node.at? place = some (.file content) ∧ (∀ n ∈ place.dropLast, isSkippedName n = false) ∧
        (place ≠ [] → path.Opens place) := by
  induction h generalizing place path with
  | file c =>
    cases place with
    | nil => simpa [filesBelow, at?] using eq_comm
    | cons name names => simp [filesBelow, at?, entries]
  | link target =>
    cases place with
    | nil => simp [filesBelow, at?]
    | cons name names => simp [filesBelow, at?, entries]
  | @directory es nodup _ ih =>
    rw [mem_filesBelow_directory_iff]
    cases place with
    | nil => simp [mem_filesOf_iff, at?]
    | cons name names =>
      rw [forall_mem_dropLast_cons_iff, imp_iff_right (List.cons_ne_nil name names),
        Path.opens_cons_iff]
      constructor
      · rintro ⟨hopens, ⟨name', child⟩, hmem, hof⟩
        obtain ⟨hentered, names', hcons, hf⟩ := mem_filesOf_iff.1 hof
        obtain ⟨rfl, rfl⟩ := List.cons.inj hcons
        obtain ⟨hfile, hbelow, hopened⟩ := (ih _ hmem).1 hf
        have hchild : (directory es).entries.lookup name = some child :=
          (Entries.mem_iff_lookup nodup).1 hmem
        refine ⟨(at?_cons_of_lookup hchild names).trans hfile,
          ⟨fun hne => hentered ?_, hbelow⟩, hopens, hopened⟩
        exact (isDirectory_iff_of_at?_file hfile).2 hne
      · rintro ⟨hfile, ⟨hentered, hbelow⟩, hopens, hopened⟩
        obtain ⟨child, hchild, hfile⟩ := exists_child_of_at?_cons hfile
        have hmem : (name, child) ∈ es := (Entries.mem_iff_lookup nodup).2 hchild
        refine ⟨hopens, (name, child), hmem,
          mem_filesOf_iff.2 ⟨fun hdir => hentered ?_, names, rfl, ?_⟩⟩
        · exact (isDirectory_iff_of_at?_file hfile).1 hdir
        · exact (ih _ hmem).2 ⟨hfile, hbelow, hopened⟩

/-- The first name of a place tells which entry it is below. -/
theorem head?_of_mem_filesOf {e : Name × Node} (h : place ∈ (filesOf path e).map Prod.fst) :
    place.head? = some e.1 := by
  obtain ⟨f, hf, rfl⟩ := List.mem_map.1 h
  obtain ⟨-, names, hplace, -⟩ := mem_filesOf_iff.1 hf
  rw [hplace, List.head?_cons]

/-- **No file is reported twice.** -/
theorem nodup_filesBelow (h : node.IsTree) (path : Path) :
    ((node.filesBelow path).map Prod.fst).Nodup := by
  induction h generalizing path with
  | file | link => simp [filesBelow]
  | @directory es nodup _ ih =>
    rw [filesBelow]
    split
    · exact List.nodup_nil
    rw [filesIn_eq_flatMap, List.map_flatMap, List.nodup_flatMap]
    constructor
    · intro e he
      rw [filesOf]
      split
      · exact List.nodup_nil
      · have hcons := (ih e he (path.join e.1)).map (List.cons_injective (a := e.1))
        rwa [List.map_map] at hcons ⊢
    · refine (List.pairwise_map.1 nodup).imp fun {d e} hne => List.disjoint_left.2 ?_
      intro place hd he
      have hfirst := (head?_of_mem_filesOf hd).symm.trans (head?_of_mem_filesOf he)
      exact hne (Option.some.inj hfirst)

end Node

end LaunchLine
