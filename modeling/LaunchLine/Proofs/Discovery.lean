import LaunchLine.Proofs.Ancestors
import LaunchLine.Proofs.Loading

/-!
# Proofs/Discovery — the nearest config is found

A config may be in the directory where one starts and in those above it, under one of six names.
The search is for the least of these candidates that is a file: the nearer directory counts first,
then the earlier name (`Candidate.Before`).  `discover_nearest` says so for all files, and that
nothing behind the config that is found matters.
-/

namespace LaunchLine.Config

/-- A directory and a name that a config may have in it. -/
structure Candidate where
  directory : Path
  name : String
  deriving DecidableEq, Repr

namespace Candidate

/-- The path of a candidate. -/
def path (c : Candidate) : Path :=
  c.directory.join (Utf8.encode c.name)

/-- **A candidate of the search** from a path: one of the names, in a textual ancestor. -/
structure IsFrom (c : Candidate) (start : Path) : Prop where
  above : c.directory.IsAncestorOf start
  listed : c.name ∈ fileNames

/-- **What comes first**: of two ancestors the nearer, which is the longer one; in one directory the
name that is listed earlier. -/
def Before (c c' : Candidate) : Prop :=
  c'.directory.bytes.length < c.directory.bytes.length ∨
    c.directory = c'.directory ∧ fileNames.idxOf c.name < fileNames.idxOf c'.name

instance (c c' : Candidate) : Decidable (c.Before c') :=
  inferInstanceAs (Decidable (_ ∨ _))

/-- **The nearest config**: a candidate that is a file, while none before it is one. -/
structure IsNearest (c : Candidate) (files : FileSystem) (start : Path) : Prop where
  isFrom : c.IsFrom start
  isFile : files.isFile c.path = true
  first : ∀ other : Candidate, other.IsFrom start → other.Before c →
    files.isFile other.path = false

theorem Before.asymm {c c' : Candidate} (h : c.Before c') : ¬ c'.Before c := by
  rintro (hlonger' | ⟨hsame', hname'⟩) <;> rcases h with hlonger | ⟨hsame, hname⟩
  · exact lt_asymm hlonger hlonger'
  · exact lt_irrefl _ (hsame ▸ hlonger')
  · exact lt_irrefl _ (hsame' ▸ hlonger)
  · exact lt_asymm hname hname'

/-- All candidates of a search, in order. -/
def all (start : Path) : List Candidate :=
  start.ancestors.flatMap fun directory => fileNames.map (Candidate.mk directory)

theorem mem_all_iff {c : Candidate} {start : Path} : c ∈ all start ↔ c.IsFrom start := by
  simp only [all, List.mem_flatMap, List.mem_map, Path.mem_ancestors_iff]
  constructor
  · rintro ⟨directory, habove, name, hlisted, rfl⟩
    exact ⟨habove, hlisted⟩
  · intro h
    exact ⟨c.directory, h.above, c.name, h.listed, rfl⟩

theorem pairwise_fileNames :
    fileNames.Pairwise fun name name' => fileNames.idxOf name < fileNames.idxOf name' := by
  decide

theorem pairwise_all (start : Path) : (all start).Pairwise Before := by
  rw [all, List.pairwise_flatMap]
  refine ⟨fun directory _ => ?_, (Path.pairwise_ancestors start).imp fun hlonger => ?_⟩
  · exact List.pairwise_map.2 (pairwise_fileNames.imp fun hname => .inr ⟨rfl, hname⟩)
  · simp only [List.forall_mem_map]
    exact fun _ _ _ _ => .inl hlonger

variable {c : Candidate} {files : FileSystem} {start : Path}

/-- Searched in order, the candidates yield the nearest config. -/
theorem find?_all_eq_some_iff :
    (all start).find? (fun c => files.isFile c.path) = some c ↔ c.IsNearest files start := by
  rw [List.find?_eq_some_iff_append]
  constructor
  · rintro ⟨hfile, before, behind, hall, hbefore⟩
    have horder := List.pairwise_append.1 (hall ▸ pairwise_all start)
    refine ⟨mem_all_iff.1 (by simp [hall]), hfile, fun other hfrom hother => ?_⟩
    obtain hmem | rfl | hmem : other ∈ before ∨ other = c ∨ other ∈ behind := by
      simpa [hall] using mem_all_iff.2 hfrom
    · simpa using hbefore other hmem
    · exact absurd hother hother.asymm
    · exact absurd hother (List.rel_of_pairwise_cons horder.2.1 hmem).asymm
  · rintro ⟨hfrom, hfile, hfirst⟩
    obtain ⟨before, behind, hall⟩ := List.append_of_mem (mem_all_iff.2 hfrom)
    have horder := List.pairwise_append.1 (hall ▸ pairwise_all start)
    refine ⟨hfile, before, behind, hall, fun other hmem => ?_⟩
    have hother : other ∈ all start := by simp [hall, hmem]
    rw [hfirst other (mem_all_iff.1 hother) (horder.2.2 other hmem c List.mem_cons_self),
      Bool.not_false]

theorem find?_all_eq_none_iff :
    (all start).find? (fun c => files.isFile c.path) = none ↔
      ∀ c : Candidate, c.IsFrom start → files.isFile c.path = false := by
  simp only [List.find?_eq_none, mem_all_iff, Bool.not_eq_true]

theorem IsNearest.unique {c' : Candidate} (h : c.IsNearest files start)
    (h' : c'.IsNearest files start) : c = c' :=
  Option.some.inj ((find?_all_eq_some_iff.2 h).symm.trans (find?_all_eq_some_iff.2 h'))

/-- **Nothing behind the nearest config matters**: files that agree on it and on the candidates
before it have the same one; if there is none, it takes all candidates. -/
theorem find?_all_congr {files' : FileSystem}
    (h : ∀ c : Candidate, c.IsFrom start →
      (∀ found : Candidate, found.IsNearest files start → c = found ∨ c.Before found) →
      files'.isFile c.path = files.isFile c.path) :
    (all start).find? (fun c => files'.isFile c.path)
      = (all start).find? fun c => files.isFile c.path := by
  cases hfind : (all start).find? (fun c => files.isFile c.path) with
  | none =>
    have hnone := find?_all_eq_none_iff.1 hfind
    refine find?_all_eq_none_iff.2 fun c hfrom => ?_
    rw [h c hfrom fun found hfound => ?_, hnone c hfrom]
    exact absurd (hnone found hfound.isFrom) (by simp [hfound.isFile])
  | some found =>
    have hfound := find?_all_eq_some_iff.1 hfind
    refine find?_all_eq_some_iff.2 ⟨hfound.isFrom, ?_, fun other hfrom hother => ?_⟩
    · rw [h found hfound.isFrom fun found' h' => .inl (hfound.unique h'), hfound.isFile]
    · rw [h other hfrom fun found' h' => .inr (hfound.unique h' ▸ hother),
        hfound.first other hfrom hother]

end Candidate

/-! ## Discovery -/

theorem candidates_eq_map_path (start : Path) :
    candidates start = (Candidate.all start).map Candidate.path := by
  simp only [candidates, Candidate.all, List.map_flatMap, List.map_map]
  rfl

/-- Where no path is given, the nearest config is looked for. -/
theorem run_discover_of_not_given {explicit? : Option Bytes} (h : explicit?.getD [] = [])
    (start : Path) (files : FileSystem) :
    (discover (m := StateM FileSystem) explicit? start).run files =
      (((Candidate.all start).find? fun c => files.isFile c.path).map Candidate.path, files) := by
  have hsearch : (candidates start).find? files.isFile =
      ((Candidate.all start).find? fun c => files.isFile c.path).map Candidate.path := by
    rw [candidates_eq_map_path, List.find?_map]
    rfl
  rw [run_discover, ← hsearch]
  match explicit?, h with
  | none, _ | some [], _ => rfl

/-- **The nearest config is found.**  Where no path is given, or an empty one, discovery returns the
path of the nearest config, and none only if no candidate is a file; among other files that agree
on all candidates up to the one found, the answer is the same.  A path that is given is returned
whatever the files are.  The empty path is searched only from a relative start. -/
theorem discover_nearest (start : Path) (files : FileSystem) :
    (∀ explicit? : Option Bytes, explicit?.getD [] = [] →
      (∀ path : Path, (discover (m := StateM FileSystem) explicit? start).run files
          = (some path, files) ↔
        ∃ found : Candidate, found.IsNearest files start ∧ found.path = path) ∧
      ((discover (m := StateM FileSystem) explicit? start).run files = (none, files) ↔
        ∀ c : Candidate, c.IsFrom start → files.isFile c.path = false) ∧
      ∀ files' : FileSystem,
        (∀ c : Candidate, c.IsFrom start →
          (∀ found : Candidate, found.IsNearest files start → c = found ∨ c.Before found) →
          files'.isFile c.path = files.isFile c.path) →
        ((discover (m := StateM FileSystem) explicit? start).run files').1
          = ((discover (m := StateM FileSystem) explicit? start).run files).1) ∧
    (∀ b bytes, (discover (m := StateM FileSystem) (some (b :: bytes)) start).run files
      = (some ⟨b :: bytes⟩, files)) ∧
    (Path.IsAncestorOf ⟨[]⟩ start ↔ start.isAbsolute = false) := by
  refine ⟨fun explicit? hexplicit => ?_, fun b bytes => ?given, Path.empty_isAncestorOf_iff⟩
  case given => exact run_discover (some (b :: bytes)) start files
  have hrun : ∀ answer : Option Path,
      (discover (m := StateM FileSystem) explicit? start).run files = (answer, files) ↔
        ((Candidate.all start).find? fun c => files.isFile c.path).map Candidate.path = answer := by
    intro answer
    rw [run_discover_of_not_given hexplicit]
    exact ⟨congrArg Prod.fst, congrArg (·, files)⟩
  refine ⟨fun path => ?_, ?_, fun files' hagree => ?_⟩
  · rw [hrun, Option.map_eq_some_iff]
    simp only [Candidate.find?_all_eq_some_iff]
  · rw [hrun, Option.map_eq_none_iff, Candidate.find?_all_eq_none_iff]
  · rw [run_discover_of_not_given hexplicit, run_discover_of_not_given hexplicit,
      Candidate.find?_all_congr hagree]

/-- From a relative start with slashes too many and dots in it, the nearer of two directories with a
config, and the earlier of its names; what is further away does not matter. -/
theorem discover_nearest_relative :
    let config : Node := .file []
    let work : Node := .directory [(Utf8.encode ".gtest-wrapperrc.json", config),
      (Utf8.encode "gtest-wrapper.yaml", config), (Utf8.encode "src", .directory [])]
    let around (entries : List (Name × Node)) : FileSystem := ⟨.directory [(Utf8.encode "home",
      .directory ((Utf8.encode "work", work) :: entries))], [Utf8.encode "home"]⟩
    let files := around [(Utf8.encode "gtest-wrapper.json", config)]
    let start := Path.ofString "./work//src/./"
    (discover (m := StateM FileSystem) none start).run files
      = (some (.ofString "./work/gtest-wrapper.yaml"), files) ∧
    ((discover (m := StateM FileSystem) (some []) start).run (around [])).1
      = some (.ofString "./work/gtest-wrapper.yaml") ∧
    (discover (m := StateM FileSystem) none (.ofString "/")).run files = (none, files) ∧
    Path.IsAncestorOf ⟨[]⟩ start := by
  intro config work around files start
  let found : Candidate := ⟨.ofString "./work", "gtest-wrapper.yaml"⟩
  have hfound : found.IsNearest files start :=
    Candidate.find?_all_eq_some_iff.1 (by decide +kernel)
  have hpath : found.path = .ofString "./work/gtest-wrapper.yaml" := by decide +kernel
  have hrun := ((discover_nearest start files).1 none rfl).1 _ |>.2 ⟨found, hfound, hpath⟩
  refine ⟨hrun, ?agree, ?absent, (discover_nearest start files).2.2.2 (by decide +kernel)⟩
  case agree =>
    have hagree : ∀ c ∈ Candidate.all start, found.Before c ∨
        (around []).isFile c.path = files.isFile c.path := by
      decide +kernel
    rw [((discover_nearest start files).1 (some []) rfl).2.2 (around []) fun c hfrom hupto => ?_]
    · exact congrArg Prod.fst (((discover_nearest start files).1 (some []) rfl).1 _ |>.2
        ⟨found, hfound, hpath⟩)
    · obtain hbehind | hsame := hagree c (Candidate.mem_all_iff.2 hfrom)
      · obtain rfl | hbefore := hupto found hfound
        exacts [absurd hbehind hbehind.asymm, absurd hbehind hbefore.asymm]
      · exact hsame
  case absent =>
    have hnone : ∀ c ∈ Candidate.all (.ofString "/"), files.isFile c.path = false := by
      decide +kernel
    exact ((discover_nearest _ files).1 none rfl).2.1.2 fun c hfrom =>
      hnone c (Candidate.mem_all_iff.2 hfrom)

end LaunchLine.Config
