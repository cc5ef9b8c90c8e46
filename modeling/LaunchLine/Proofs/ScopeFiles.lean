import LaunchLine.Proofs.Fallible
import LaunchLine.Proofs.FilesBelow
import LaunchLine.Proofs.Utf8
import LaunchLine.SourceRules.Check
import Mathlib.Data.List.TakeWhile
import Mathlib.Data.Set.List

/-!
# Proofs/ScopeFiles — the files of a scope are listed, each of them once

Which files a scope has is said by `Scope.HasFile`, without a walk: what stands at the place, what
it is called, and which directories are above it.  A scope lists those of them whose directory can
be opened, no others, and none of them twice.  If its files can be read, these are all of them
(`Scope.exists_listing`).
-/

namespace LaunchLine

/-! ## Where a path leads -/

namespace FileSystem

variable {fs : FileSystem} {root node : Node} {purpose : Purpose} {p : Path}
  {from_ steps place : List Name}

theorem find?_eq_ok_iff : fs.find? p = .ok (place, node) ↔
    fs.resolve .look p = .ok (.found place node) := by
  rw [find?]
  split
  · next hfound => simp [hfound]
  · next hmissing => simp [hmissing]
  · next herror => simp [herror]

/-- What a path has to be in order to be walked at all. -/
structure IsWalkable (p : Path) : Prop where
  nonempty : p.bytes ≠ []
  plain : 0 ∉ p.bytes
  short : p.bytes.length < maxPathLength

theorem resolve_eq_ok_iff {purpose : Purpose} {arrival : Arrival} :
    fs.resolve purpose p = .ok arrival ↔ IsWalkable p ∧
      walk fs.root purpose 40 (if p.isAbsolute then [] else fs.cwd) p.steps = .ok arrival := by
  rw [resolve]
  constructor
  · intro h
    split at h
    · cases h
    split at h
    · cases h
    split at h
    · cases h
    next hne hnul hlong => exact ⟨⟨hne, by simpa using hnul, Nat.not_le.1 hlong⟩, h⟩
  · rintro ⟨hp, h⟩
    rwa [if_neg hp.nonempty, if_neg (by simpa using hp.plain), if_neg (Nat.not_le.2 hp.short)]

theorem isWalkable_of_find? (h : fs.find? p = .ok (place, node)) : IsWalkable p :=
  (resolve_eq_ok_iff.1 (find?_eq_ok_iff.1 h)).1

theorem at?_of_walkSteps {onLink : List Name → List Name → Except FileError Arrival}
    (hlink : ∀ from_ steps, onLink from_ steps = .ok (.found place node) →
      root.at? place = some node)
    (h : walkSteps root purpose onLink from_ steps = .ok (.found place node)) :
    root.at? place = some node := by
  fun_induction walkSteps root purpose onLink from_ steps with
  | case1 _ _ hnode | case10 _ _ _ _ _ _ hnode | case12 _ _ _ _ _ _ _ _ hnode =>
    obtain ⟨rfl, rfl⟩ := Arrival.found.inj (Except.ok.inj h)
    exact hnode
  | case3 _ _ _ _ ih | case4 _ _ _ ih | case9 _ _ _ _ _ _ _ _ _ ih => exact ih h
  | case13 => exact hlink _ _ h
  | case2 | case5 | case6 | case7 | case8 | case11 => cases h

/-- **A path leads to a node of the tree**, and to the place where it is. -/
theorem at?_of_find? (h : fs.find? p = .ok (place, node)) : fs.root.at? place = some node := by
  have hwalk : ∀ links from_ steps,
      walk fs.root .look links from_ steps = .ok (.found place node) →
        fs.root.at? place = some node := by
    intro links
    induction links with
    | zero => exact fun _ _ hwalk => at?_of_walkSteps (fun _ _ hlink => by cases hlink) hwalk
    | succ links ih => exact fun _ _ hwalk => at?_of_walkSteps ih hwalk
  exact hwalk _ _ _ (resolve_eq_ok_iff.1 (find?_eq_ok_iff.1 h)).2

/-- A path by which a file is read is not too long. -/
theorem length_lt_of_readFile {content : Bytes} (h : fs.readFile p = .ok content) :
    p.bytes.length < maxPathLength := by
  rw [readFile] at h
  split at h
  · next hfound => exact (isWalkable_of_find? hfound).short
  · cases h
  · cases h

end FileSystem

/-! ## Names -/

/-- **What an extension is**: the end of a name behind its last dot, with something in front of the
dot. -/
theorem Path.extensionOf?_eq_some_iff {name ext : Bytes} :
    extensionOf? name = some ext ↔ ∃ stem, stem ≠ [] ∧ name = stem ++ dot :: ext ∧ dot ∉ ext := by
  constructor
  · intro h
    have hsplit := List.takeWhile_append_dropWhile (p := (· ≠ dot)) (l := name.reverse)
    rw [extensionOf?] at h
    split at h
    · cases h
    · cases h
    · next d rest hnot hdrop =>
      obtain rfl := Option.some.inj h
      have hd : d = dot := by
        have hhead := List.head?_dropWhile_not (· ≠ dot) name.reverse
        rw [hdrop] at hhead
        simpa using hhead
      refine ⟨rest.reverse, fun hrest => hnot (List.reverse_eq_nil_iff.1 hrest), ?_,
        fun hdot => ?_⟩
      · rw [hdrop, hd] at hsplit
        simpa using (congrArg List.reverse hsplit).symm
      · simpa using List.mem_takeWhile_imp (List.mem_reverse.1 hdot)
  · rintro ⟨stem, hstem, rfl, hext⟩
    have hpos : ∀ b ∈ ext.reverse, decide (b ≠ dot) = true := fun b hb =>
      decide_eq_true (ne_of_mem_of_not_mem (List.mem_reverse.1 hb) hext)
    obtain ⟨c, rest, hreverse⟩ := List.exists_cons_of_ne_nil (List.reverse_ne_nil_iff.2 hstem)
    rw [extensionOf?]
    simp only [List.reverse_append, List.reverse_cons, List.append_assoc, List.singleton_append]
    rw [List.dropWhile_append_of_pos hpos, List.takeWhile_append_of_pos hpos, hreverse]
    simp

namespace Scope

variable {scope : Scope} {fs : FileSystem} {root : Path} {place : List Name} {content : Bytes}

theorem isSource_eq_true_iff :
    isSource place = true ↔
      ∃ stem, stem ≠ [] ∧ place.getLast? = some (stem ++ Utf8.encode ".rs") := by
  have hdot : dot ∉ Utf8.encode "rs" := by decide
  have hext : Utf8.encode ".rs" = dot :: Utf8.encode "rs" := by decide
  rw [isSource, beq_iff_eq, Option.bind_eq_some_iff]
  simp only [Path.extensionOf?_eq_some_iff, hdot, not_false_eq_true, and_true, hext]
  constructor
  · rintro ⟨name, hlast, stem, hstem, rfl⟩
    exact ⟨stem, hstem, hlast⟩
  · rintro ⟨stem, hstem, hlast⟩
    exact ⟨_, hlast, stem, hstem, rfl⟩

/-- **What a scope looks at** below its directory: for the workspace, what lies in sources or in
tests; for the library, all but its program and its unit tests, by the names of the files. -/
def Includes : Scope → List Name → Prop
  | workspace, place => Utf8.encode "src" ∈ place ∨ Utf8.encode "tests" ∈ place
  | library, place =>
    ∃ name : String, place.getLast? = some (Utf8.encode name) ∧ name ≠ "main.rs" ∧
      ¬ "_test.rs".toList <:+ name.toList

theorem includes_eq_true_iff : scope.includes place = true ↔ scope.Includes place := by
  cases scope with
  | workspace =>
    simp only [includes, Includes, List.any_eq_true, Bool.or_eq_true, beq_iff_eq, and_or_left,
      exists_or, exists_eq_right]
  | library =>
    constructor
    · intro h
      rw [includes] at h
      split at h
      · cases h
      next name hlast =>
      split at h
      · cases h
      next text htext =>
      rw [← Utf8.decode?_eq_some_iff.1 htext] at hlast
      rw [Bool.and_eq_true, bne_iff_ne, Bool.not_eq_true', ← Bool.not_eq_true,
        List.isSuffixOf_iff_suffix] at h
      exact ⟨text, hlast, h⟩
    · rintro ⟨text, hlast, hnames⟩
      rw [includes, hlast]
      simp only [Utf8.decode?_encode]
      rwa [Bool.and_eq_true, bne_iff_ne, Bool.not_eq_true', ← Bool.not_eq_true,
        List.isSuffixOf_iff_suffix]

/-! ## Listing the files -/

/-- **A file of a scope**: it stands at a place below the directory of the scope, no directory on
the way has a name that is skipped, its own name ends with `.rs` behind something, and the scope
looks at it. -/
structure HasFile (scope : Scope) (fs : FileSystem) (root : Path) (place : List Name)
    (content : Bytes) : Prop where
  stands : ∃ above directory, fs.find? (scope.base root) = .ok (above, directory) ∧
    directory.at? place = some (.file content)
  entered : ∀ name ∈ place.dropLast,
    name ∉ ["target", ".git", "snapshots", "examples"].map Utf8.encode
  named : ∃ stem, stem ≠ [] ∧ place.getLast? = some (stem ++ Utf8.encode ".rs")
  included : scope.Includes place

/-- A file of a scope stands where its place leads to from the directory of the scope. -/
theorem HasFile.at?_of_base (h : scope.HasFile fs root place content) {above : List Name}
    {directory : Node} (hbase : fs.find? (scope.base root) = .ok (above, directory)) :
    directory.at? place = some (.file content) := by
  obtain ⟨above', directory', hfound, hfile⟩ := h.stands
  obtain ⟨-, rfl⟩ := Prod.mk.inj (Except.ok.inj (hfound.symm.trans hbase))
  exact hfile

/-- **A file that a scope lists**: the directory that it is in can be opened by its path. -/
structure Lists (scope : Scope) (fs : FileSystem) (root : Path) (place : List Name)
    (content : Bytes) : Prop extends scope.HasFile fs root place content where
  opened : (scope.base root).Opens place

/-- The files of a scope by their places below its directory, as they are listed. -/
def placedFiles (scope : Scope) (fs : FileSystem) (root : Path) : List (List Name × Bytes) :=
  match fs.find? (scope.base root) with
  | .error _ => []
  | .ok (_, directory) =>
    ((directory.filesBelow (scope.base root)).filter fun f =>
      isSource f.1 && scope.includes f.1).mergeSort placeLE

/-- The path by which a file is named in a report. -/
def pathOf (scope : Scope) (root : Path) (place : List Name) : Path :=
  place.foldl Path.join (scope.base root)

theorem files_eq_map (scope : Scope) (fs : FileSystem) (root : Path) :
    scope.files fs root =
      (scope.placedFiles fs root).map fun f => (scope.pathOf root f.1, f.2) := by
  rw [files, placedFiles]
  cases fs.find? (scope.base root) <;> rfl

/-- **Every file of the scope is listed**, if its directory can be opened, and nothing else. -/
theorem mem_placedFiles_iff (htree : fs.root.IsTree) :
    (place, content) ∈ scope.placedFiles fs root ↔ scope.Lists fs root place content := by
  rw [placedFiles]
  cases hfind : fs.find? (scope.base root) with
  | error e =>
    refine iff_of_false List.not_mem_nil fun h => ?_
    obtain ⟨above, directory, hfound, -⟩ := h.stands
    cases hfind.symm.trans hfound
  | ok found =>
    obtain ⟨above, directory⟩ := found
    have hdirectory : directory.IsTree := htree.at? (FileSystem.at?_of_find? hfind)
    simp only [List.mem_mergeSort, List.mem_filter, Bool.and_eq_true, isSource_eq_true_iff,
      includes_eq_true_iff, Node.mem_filesBelow_iff hdirectory, ← Bool.not_eq_true,
      Node.isSkippedName_eq_true_iff]
    constructor
    · rintro ⟨⟨hfile, hentered, hopened⟩, hnamed, hincluded⟩
      have hne : place ≠ [] := by
        obtain ⟨stem, -, hlast⟩ := hnamed
        exact List.ne_nil_of_mem (List.mem_of_getLast? hlast)
      exact ⟨⟨⟨above, directory, hfind, hfile⟩, hentered, hnamed, hincluded⟩, hopened hne⟩
    · exact fun h => ⟨⟨h.at?_of_base hfind, h.entered, fun _ => h.opened⟩, h.named, h.included⟩

/-- **No file is listed twice.** -/
theorem nodup_placedFiles (htree : fs.root.IsTree) :
    ((scope.placedFiles fs root).map Prod.fst).Nodup := by
  rw [placedFiles]
  cases hfind : fs.find? (scope.base root) with
  | error e => exact List.nodup_nil
  | ok found =>
    have hdirectory : found.2.IsTree := htree.at? (FileSystem.at?_of_find? hfind)
    have hsorted := (List.mergeSort_perm
      ((found.2.filesBelow (scope.base root)).filter fun f => isSource f.1 && scope.includes f.1)
      placeLE).map Prod.fst
    refine hsorted.nodup_iff.2 ?_
    exact (Node.nodup_filesBelow hdirectory _).sublist (List.filter_sublist.map Prod.fst)

/-! ## Reading the files -/

/-- **The files of a scope can be read**: the path of each of them leads to it, and what it holds is
text. -/
structure IsReadable (scope : Scope) (fs : FileSystem) (root : Path) : Prop where
  leads : ∀ place content, scope.HasFile fs root place content →
    fs.readFile (scope.pathOf root place) = .ok content
  isText : ∀ place content, scope.HasFile fs root place content →
    ∃ text, content = Utf8.encode text

/-- A file that can be read is listed. -/
theorem IsReadable.lists (h : scope.IsReadable fs root)
    (hfile : scope.HasFile fs root place content) : scope.Lists fs root place content :=
  ⟨hfile, Path.opens_of_length_lt (FileSystem.length_lt_of_readFile (h.leads _ _ hfile))⟩

/-- **The source texts of a scope** with their places, each file once. -/
structure IsListing (scope : Scope) (fs : FileSystem) (root : Path)
    (texts : List (List Name × String)) : Prop where
  nodup : (texts.map Prod.fst).Nodup
  mem_iff : ∀ place text,
    (place, text) ∈ texts ↔ scope.HasFile fs root place (Utf8.encode text)

/-- The bytes of a source text, with its place. -/
def written (e : List Name × String) : List Name × Bytes :=
  (e.1, Utf8.encode e.2)

section Readable

variable (htree : fs.root.IsTree)
include htree

/-- The files of a scope are texts, if they can be read. -/
theorem exists_map_written (hread : scope.IsReadable fs root) :
    ∃ texts : List (List Name × String), texts.map written = scope.placedFiles fs root := by
  rw [← Set.mem_range, Set.range_list_map]
  rintro ⟨place, content⟩ hmem
  obtain ⟨text, rfl⟩ :=
    hread.isText place content ((mem_placedFiles_iff htree).1 hmem).toHasFile
  exact ⟨(place, text), rfl⟩

theorem isListing_of_map_written (hread : scope.IsReadable fs root)
    {texts : List (List Name × String)} (htexts : texts.map written = scope.placedFiles fs root) :
    scope.IsListing fs root texts where
  nodup := by
    have hnodup : ((scope.placedFiles fs root).map Prod.fst).Nodup := nodup_placedFiles htree
    rwa [← htexts, List.map_map] at hnodup
  mem_iff place text := by
    have hlists : scope.HasFile fs root place (Utf8.encode text) ↔
        (place, Utf8.encode text) ∈ scope.placedFiles fs root :=
      ⟨fun h => (mem_placedFiles_iff htree).2 (hread.lists h),
        fun h => ((mem_placedFiles_iff htree).1 h).toHasFile⟩
    rw [hlists, ← htexts, List.mem_map]
    constructor
    · exact fun hmem => ⟨(place, text), hmem, rfl⟩
    · rintro ⟨⟨place', text'⟩, hmem, hwritten⟩
      obtain ⟨hplace, hcontent⟩ := Prod.mk.inj hwritten
      rwa [← hplace, ← Utf8.encode_injective hcontent]

/-- **What is read** at the paths of the files are their texts. -/
theorem sources_of_map_written (hread : scope.IsReadable fs root)
    {texts : List (List Name × String)} (htexts : texts.map written = scope.placedFiles fs root) :
    SourceRules.sources scope fs root =
      .ok (texts.map fun e => (scope.pathOf root e.1, e.2)) := by
  rw [SourceRules.sources, files_eq_map, ← htexts, List.map_map, List.mapM_map]
  refine mapM_eq_ok_map fun e he => ?_
  have hfile := ((isListing_of_map_written htree hread htexts).mem_iff e.1 e.2).1 he
  simp only [Function.comp, written, SourceRules.readSource, hread.leads _ _ hfile,
    Utf8.decode?_encode]
  rfl

/-- **The files of a scope are read**, if all of them can be. -/
theorem exists_listing (hread : scope.IsReadable fs root) :
    ∃ texts, scope.IsListing fs root texts ∧
      SourceRules.sources scope fs root =
        .ok (texts.map fun e => (scope.pathOf root e.1, e.2)) := by
  obtain ⟨texts, htexts⟩ := exists_map_written htree hread
  exact ⟨texts, isListing_of_map_written htree hread htexts,
    sources_of_map_written htree hread htexts⟩

end Readable

end Scope

end LaunchLine
