import LaunchLine.Files.Change
import Mathlib.Data.List.Basic

/-!
# Proofs/Writing — what is written to a path is read from it

To write a file sets one node of the tree, at the place where the path arrives.  Directories stay
directories and links stay links, so the path arrives there again and finds the file
(`FileSystem.readFile_of_writeFile`), however many links it goes through.
-/

namespace LaunchLine

namespace Node

/-! ## The tree -/

variable {root node child new : Node} {place q names others : List Name} {name other : Name}

theorem at?_append (root : Node) (place q : List Name) :
    root.at? (place ++ q) = (root.at? place).bind fun node => node.at? q := by
  induction place generalizing root with
  | nil => rfl
  | cons name names ih =>
    rw [List.cons_append, at?, at?]
    cases root.entries.lookup name with
    | none => rfl
    | some child => exact ih child

theorem at?_cons_of_lookup (h : root.entries.lookup name = some child) (names : List Name) :
    root.at? (name :: names) = child.at? names := by
  rw [at?, h]

theorem exists_child_of_at?_cons (h : root.at? (name :: names) = some node) :
    ∃ child, root.entries.lookup name = some child ∧ child.at? names = some node := by
  rw [at?] at h
  split at h
  · next child hchild => exact ⟨child, hchild, h⟩
  · cases h

/-- What has something below it is a directory. -/
theorem exists_directory_of_at?_cons (h : root.at? (name :: names) = some node) :
    ∃ es, root = .directory es := by
  cases root with
  | directory es => exact ⟨es, rfl⟩
  | file | link => cases h

/-- **All nodes above a node are directories.** -/
theorem exists_directory_of_at?_append (h : root.at? (place ++ q) = some node) (hq : q ≠ []) :
    ∃ es, root.at? place = some (.directory es) := by
  rw [at?_append, Option.bind_eq_some_iff] at h
  obtain ⟨above, habove, hbelow⟩ := h
  obtain ⟨name, names, rfl⟩ := List.exists_cons_of_ne_nil hq
  obtain ⟨es, rfl⟩ := exists_directory_of_at?_cons hbelow
  exact ⟨es, habove⟩

theorem exists_directory_nil {es : List (Name × Node)}
    (h : root.at? place = some (.directory es)) : ∃ es, root.at? [] = some (.directory es) := by
  cases place with
  | nil => exact ⟨es, h⟩
  | cons name names =>
    obtain ⟨es, rfl⟩ := exists_directory_of_at?_cons h
    exact ⟨es, rfl⟩

theorem exists_directory_dropLast {es : List (Name × Node)}
    (h : root.at? place = some (.directory es)) :
    ∃ es, root.at? place.dropLast = some (.directory es) := by
  rcases List.eq_nil_or_concat place with rfl | ⟨above, name, rfl⟩
  · exact ⟨es, h⟩
  · rw [List.concat_eq_append] at h ⊢
    rw [List.dropLast_concat]
    exact exists_directory_of_at?_append h (List.cons_ne_nil _ _)

/-! ## Setting a node -/

theorem at?_put_cons_of_ne (h : other ≠ name) (names others : List Name) :
    (new.put (name :: names) root).at? (other :: others) = root.at? (other :: others) := by
  rw [put, at?, entries, Entries.lookup_put, if_neg h, at?]

theorem at?_put_cons_of_lookup (h : root.entries.lookup name = some child)
    (names others : List Name) :
    (new.put (name :: names) root).at? (name :: others) = (new.put names child).at? others := by
  rw [put, at?, entries, Entries.lookup_put, if_pos rfl, h]
  rfl

/-- **Directories stay directories**, unless one is replaced. -/
theorem exists_directory_at?_put {es : List (Name × Node)}
    (hplace : ∀ es, root.at? place ≠ some (.directory es))
    (hq : root.at? q = some (.directory es)) :
    ∃ es, (new.put place root).at? q = some (.directory es) := by
  induction place generalizing root q with
  | nil =>
    cases q with
    | nil => exact absurd hq (hplace es)
    | cons =>
      obtain ⟨es, rfl⟩ := exists_directory_of_at?_cons hq
      exact absurd rfl (hplace es)
  | cons name names ih =>
    cases q with
    | nil => exact ⟨_, rfl⟩
    | cons other others =>
      by_cases heq : other = name
      · subst heq
        obtain ⟨child, hchild, hq⟩ := exists_child_of_at?_cons hq
        rw [at?_cons_of_lookup hchild] at hplace
        rw [at?_put_cons_of_lookup hchild]
        exact ih hplace hq
      · rw [at?_put_cons_of_ne heq]
        exact ⟨es, hq⟩

/-- **Nodes elsewhere stay**: those that are not above the place, as long as nothing is below it. -/
theorem at?_put_of_not_prefix (hplace : ∀ es, root.at? place ≠ some (.directory es))
    (hq : root.at? q = some node) (hnot : ¬ q <+: place) :
    (new.put place root).at? q = some node := by
  induction place generalizing root q with
  | nil =>
    cases q with
    | nil => exact absurd (List.prefix_refl _) hnot
    | cons =>
      obtain ⟨es, rfl⟩ := exists_directory_of_at?_cons hq
      exact absurd rfl (hplace es)
  | cons name names ih =>
    cases q with
    | nil => exact absurd List.nil_prefix hnot
    | cons other others =>
      by_cases heq : other = name
      · subst heq
        obtain ⟨child, hchild, hq⟩ := exists_child_of_at?_cons hq
        rw [at?_cons_of_lookup hchild] at hplace
        rw [at?_put_cons_of_lookup hchild]
        exact ih hplace hq fun hprefix => hnot (List.cons_prefix_cons.2 ⟨rfl, hprefix⟩)
      · rw [at?_put_cons_of_ne heq]
        exact hq

/-! ## Places for files -/

/-- **A place takes a file**: above it there are directories only, and there is nothing but a file
itself. -/
structure TakesFile (root : Node) (place : List Name) : Prop where
  above : ∀ q, q <+: place → q ≠ place → ∃ es, root.at? q = some (.directory es)
  free : ∀ node, root.at? place = some node → ∃ content, node = .file content

theorem TakesFile.of_file {content : Bytes} (h : root.at? place = some (.file content)) :
    root.TakesFile place where
  above := by
    rintro q ⟨below, rfl⟩ hq
    exact exists_directory_of_at?_append h fun hbelow => hq (by rw [hbelow, List.append_nil])
  free node hnode := ⟨content, Option.some.inj (hnode.symm.trans h)⟩

theorem TakesFile.of_missing {es : List (Name × Node)} (h : root.at? place = some (.directory es))
    (hmissing : root.at? (place ++ [name]) = none) : root.TakesFile (place ++ [name]) where
  above := by
    intro q hprefix hq
    obtain ⟨below, rfl⟩ := (List.prefix_concat_iff.1 hprefix).resolve_left hq
    by_cases hbelow : below = []
    · rw [hbelow, List.append_nil] at h
      exact ⟨es, h⟩
    · exact exists_directory_of_at?_append h hbelow
  free node hnode := by
    cases hmissing.symm.trans hnode

theorem TakesFile.ne_directory (h : root.TakesFile place) (es : List (Name × Node)) :
    root.at? place ≠ some (.directory es) := by
  intro hplace
  obtain ⟨content, hcontent⟩ := h.free _ hplace
  cases hcontent

/-- No link is on the way to a place that takes a file, or there. -/
theorem TakesFile.not_prefix_of_link {target : Path} (h : root.TakesFile place)
    (hlink : root.at? q = some (.link target)) : ¬ q <+: place := by
  intro hprefix
  by_cases hq : q = place
  · obtain ⟨content, hcontent⟩ := h.free _ (hq ▸ hlink)
    cases hcontent
  · obtain ⟨es, hes⟩ := h.above q hprefix hq
    cases hlink.symm.trans hes

end Node

namespace Arrival

/-- The place of what a walk arrives at, or of what would have the missing name. -/
def place : Arrival → List Name
  | found place _ => place
  | missing directory name => directory ++ [name]

/-- Whether a walk arrives at a directory. -/
def isDirectory : Arrival → Bool
  | found _ node => node.isDirectory
  | missing _ _ => false

end Arrival

namespace FileSystem

/-! ## Walking again -/

/-- **A step that names something**: neither void nor up, and not too long. -/
structure IsName (step : Name) : Prop where
  solid : ¬ Path.isVoid step = true
  down : step ≠ [dot, dot]
  short : ¬ 255 < step.length

section Look

variable {root : Node} {onLink : List Name → List Name → Except FileError Arrival}
  {place : List Name} {step : Name} (hstep : IsName step) (steps : List Name)
include hstep

/-! To look at a step is to look at the node of that name. -/

theorem walkSteps_look_file {content : Bytes}
    (h : root.at? (place ++ [step]) = some (.file content)) :
    walkSteps root .look onLink place [step] = .ok (.found (place ++ [step]) (.file content)) := by
  rw [walkSteps, if_neg hstep.solid, if_neg hstep.down, if_neg (by simp), if_neg hstep.short, h]
  rfl

theorem walkSteps_look_directory {es : List (Name × Node)}
    (h : root.at? (place ++ [step]) = some (.directory es)) :
    walkSteps root .look onLink place (step :: steps)
      = walkSteps root .look onLink (place ++ [step]) steps := by
  rw [walkSteps, if_neg hstep.solid, if_neg hstep.down, if_neg (by simp), if_neg hstep.short, h]

theorem walkSteps_look_link {target : Path}
    (h : root.at? (place ++ [step]) = some (.link target)) :
    walkSteps root .look onLink place (step :: steps)
      = onLink (if target.isAbsolute then [] else place) (target.steps ++ steps) := by
  rw [walkSteps, if_neg hstep.solid, if_neg hstep.down, if_neg (by simp), if_neg hstep.short, h]
  exact if_neg (by simp)

end Look

variable {root : Node} {arrival : Arrival} {content : Bytes} {place steps : List Name}

/-- **The way to a file leads there again** once it is written, if the ways behind links do. -/
theorem walkSteps_put {onLink onLink' : List Name → List Name → Except FileError Arrival}
    (hfile : arrival.isDirectory = false)
    (hlink : ∀ place es steps, root.at? place = some (.directory es) →
      onLink place steps = .ok arrival →
      onLink' place steps = .ok (.found arrival.place (.file content)) ∧
        root.TakesFile arrival.place)
    (h : walkSteps root .write onLink place steps = .ok arrival) :
    walkSteps ((Node.file content).put arrival.place root) .look onLink' place steps
        = .ok (.found arrival.place (.file content)) ∧
      ∀ es, root.at? place = some (.directory es) → root.TakesFile arrival.place := by
  fun_induction walkSteps root .write onLink place steps with
  | case1 place node hnode =>
    obtain rfl := Except.ok.inj h
    refine ⟨by rw [walkSteps, Arrival.place, Node.at?_put], fun es hes => ?_⟩
    obtain rfl := Option.some.inj (hnode.symm.trans hes)
    cases hfile
  | case3 place step steps hvoid ih =>
    rw [walkSteps, if_pos hvoid]
    exact ih h
  | case4 place steps hvoid ih =>
    rw [walkSteps, if_neg hvoid, if_pos rfl]
    obtain ⟨hnew, htakes⟩ := ih h
    refine ⟨hnew, fun es hes => ?_⟩
    obtain ⟨above, habove⟩ := Node.exists_directory_dropLast hes
    exact htakes above habove
  | case7 place step hvoid hup hlong hnone =>
    obtain rfl := Except.ok.inj h
    exact ⟨walkSteps_look_file ⟨hvoid, hup, hlong⟩ (Node.at?_put _ _ root),
      fun es hes => .of_missing hes hnone⟩
  | case9 place step steps hvoid hup _ hlong es hes ih =>
    -- the new entries may differ, but what is walked through is still a directory
    obtain ⟨hnew, htakes⟩ := ih h
    have htakes := htakes es hes
    obtain ⟨es', hes'⟩ := Node.exists_directory_at?_put htakes.ne_directory hes
    rw [walkSteps_look_directory ⟨hvoid, hup, hlong⟩ steps hes']
    exact ⟨hnew, fun _ _ => htakes⟩
  | case10 place step hvoid hup hlong old hold =>
    obtain rfl := Except.ok.inj h
    exact ⟨walkSteps_look_file ⟨hvoid, hup, hlong⟩ (Node.at?_put _ _ root),
      fun _ _ => .of_file hold⟩
  | case13 place step steps hvoid hup _ hlong target htarget =>
    -- a link lies in a directory, so the way behind it begins in one, and the link is not above
    -- the file that is written
    obtain ⟨es, hes⟩ := Node.exists_directory_of_at?_append htarget (List.cons_ne_nil _ _)
    have hbehind : ∃ es, root.at? (if target.isAbsolute then [] else place)
        = some (.directory es) := by
      split
      · exact Node.exists_directory_nil hes
      · exact ⟨es, hes⟩
    obtain ⟨behind, hbehind⟩ := hbehind
    obtain ⟨hnew, htakes⟩ := hlink _ behind _ hbehind h
    rw [walkSteps_look_link ⟨hvoid, hup, hlong⟩ steps (Node.at?_put_of_not_prefix
      htakes.ne_directory htarget (htakes.not_prefix_of_link htarget))]
    exact ⟨hnew, fun _ _ => htakes⟩
  | case12 _ _ _ _ _ _ _ _ _ hmake => simp at hmake
  | case2 | case5 | case6 | case8 | case11 => cases h

/-- The way to a file leads there again once it is written, whatever links it goes through. -/
theorem walk_put {links : Nat} (content : Bytes) (hfile : arrival.isDirectory = false)
    (h : walk root .write links place steps = .ok arrival) :
    walk ((Node.file content).put arrival.place root) .look links place steps
        = .ok (.found arrival.place (.file content)) ∧
      ∀ es, root.at? place = some (.directory es) → root.TakesFile arrival.place := by
  induction links generalizing place steps with
  | zero =>
    rw [walk] at h ⊢
    exact walkSteps_put hfile (fun _ _ _ _ hlink => by cases hlink) h
  | succ links ih =>
    refine walkSteps_put hfile (fun place es steps hes hlink => ?_) h
    obtain ⟨hnew, htakes⟩ := ih hlink
    exact ⟨hnew, htakes es hes⟩

/-! ## Writing and reading -/

variable {fs after : FileSystem} {p : Path}

/-- **What a write does**: it sets one node, at the place where the path arrives. -/
theorem run_writeFile (p : Path) (content : Bytes) (fs : FileSystem) :
    (writeFile p content).run fs =
      match fs.resolve .write p with
      | .error e => (.error e, fs)
      | .ok arrival =>
        if arrival.isDirectory then (.error .isDirectory, fs)
        else (.ok (), { fs with root := (Node.file content).put arrival.place fs.root }) := by
  cases hresolve : fs.resolve .write p with
  | error e =>
    simp only [writeFile, StateT.run_bind, StateT.run_get, pure_bind, hresolve]
    rfl
  | ok arrival =>
    simp only [writeFile, StateT.run_bind, StateT.run_get, pure_bind, hresolve]
    rcases arrival with ⟨place, _ | _ | _⟩ | _ <;> rfl

/-- Whether a write succeeds does not depend on what is written. -/
theorem fst_run_writeFile (p : Path) (content other : Bytes) (fs : FileSystem) :
    ((writeFile p content).run fs).1 = ((writeFile p other).run fs).1 := by
  rw [run_writeFile, run_writeFile]
  cases fs.resolve .write p with
  | error e => rfl
  | ok arrival =>
    dsimp only
    split <;> rfl

theorem exists_arrival_of_writeFile (h : (writeFile p content).run fs = (.ok (), after)) :
    ∃ arrival, fs.resolve .write p = .ok arrival ∧ arrival.isDirectory = false ∧
      after = { fs with root := (Node.file content).put arrival.place fs.root } := by
  rw [run_writeFile] at h
  split at h
  · cases h
  next arrival harrival =>
  split at h
  · cases h
  next hfile => exact ⟨arrival, harrival, Bool.eq_false_iff.2 hfile, (Prod.mk.inj h).2.symm⟩

/-- **What is written to a path is read from it.** -/
theorem readFile_of_writeFile (h : (writeFile p content).run fs = (.ok (), after)) :
    after.readFile p = .ok content := by
  obtain ⟨arrival, harrival, hfile, rfl⟩ := exists_arrival_of_writeFile h
  rw [resolve] at harrival
  split at harrival
  · cases harrival
  next hempty =>
  split at harrival
  · cases harrival
  next hnul =>
  split at harrival
  · cases harrival
  next hlong =>
  have hwalk := (walk_put content hfile harrival).1
  rw [readFile, find?, resolve, if_neg hempty, if_neg hnul, if_neg hlong, hwalk]

end FileSystem

end LaunchLine
