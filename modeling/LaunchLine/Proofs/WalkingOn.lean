import LaunchLine.Proofs.Joining
import LaunchLine.Proofs.ScopeFiles

/-!
# Proofs/WalkingOn — what is below a directory is found below its path

A path that leads to a directory leads on from there when names are joined to it, whatever links it
goes through.  If no link is behind the directory, the longer path leads to the node that stands at
these names, and nowhere else (`FileSystem.find?_below`).  So a file that is reported below a
directory is read by its path, unless the path is too long (`Scope.isReadable_of_short`).
-/

namespace LaunchLine

/-! ## The steps of a path below a path -/

namespace Path

variable {p : Path} {name : Name} {place : List Name} {b : UInt8}

/-- **Below a path** there are its own steps first and then the names. -/
theorem steps_below (p : Path) (hplace : ∀ name ∈ place, IsEntryName name) (hne : place ≠ []) :
    (place.foldl join p).steps = p.names ++ place := by
  obtain ⟨front, last, rfl⟩ := (List.eq_nil_or_concat place).resolve_left hne
  rw [List.concat_eq_append, List.forall_mem_append] at hplace
  obtain ⟨hfront, hlast⟩ := hplace
  rw [List.concat_eq_append, List.foldl_append, List.foldl_cons, List.foldl_nil,
    steps_join _ (hlast last (List.mem_singleton_self last)), names_below p hfront,
    List.append_assoc]

/-- A path below a path begins where that one begins. -/
theorem isAbsolute_below (hne : p.bytes ≠ []) (place : List Name) :
    (place.foldl join p).isAbsolute = p.isAbsolute := by
  obtain ⟨behind, hbehind⟩ := prefix_below p place
  rw [isAbsolute, isAbsolute, ← hbehind, List.head?_append_of_ne_nil _ hne]

theorem of_mem_below (hb : b ∈ (place.foldl join p).bytes) :
    b ∈ p.bytes ∨ b = slash ∨ ∃ name ∈ place, b ∈ name := by
  induction place generalizing p with
  | nil => exact .inl hb
  | cons name names ih =>
    obtain hjoin | hslash | ⟨other, hother, hmem⟩ := ih hb
    · rw [join] at hjoin
      split at hjoin <;> simp only [List.mem_append, List.mem_cons] at hjoin
      · exact hjoin.imp_right fun hname => .inr ⟨name, List.mem_cons_self, hname⟩
      · exact hjoin.imp_right (Or.imp_right fun hname => ⟨name, List.mem_cons_self, hname⟩)
    · exact .inr (.inl hslash)
    · exact .inr (.inr ⟨other, List.mem_cons_of_mem _ hother, hmem⟩)

/-- The steps of a path are its names, and void ones. -/
theorem exists_steps_eq (p : Path) :
    ∃ voids, (∀ step ∈ voids, isVoid step = true) ∧ p.steps = p.names ++ voids := by
  rw [steps]
  split
  · exact ⟨[[]], List.forall_mem_singleton.2 rfl, rfl⟩
  · exact ⟨[], List.forall_mem_nil _, (List.append_nil _).symm⟩

end Path

namespace FileSystem

variable {root node : Node} {from_ above place steps more voids : List Name}
  {es : List (Name × Node)}

/-! ## Walking on from a directory -/

section Walk

variable {onLink : List Name → List Name → Except FileError Arrival}

/-- Void steps lead nowhere else. -/
theorem eq_of_walkSteps_voids (hvoids : ∀ step ∈ voids, Path.isVoid step = true)
    (h : walkSteps root .look onLink from_ voids = .ok (.found place node)) : from_ = place := by
  induction voids with
  | nil =>
    rw [walkSteps] at h
    split at h
    · exact (Arrival.found.inj (Except.ok.inj h)).1
    · cases h
  | cons void voids ih =>
    obtain ⟨hvoid, hvoids⟩ := List.forall_mem_cons.1 hvoids
    rw [walkSteps, if_pos hvoid] at h
    exact ih hvoids h

/-- **From a directory that is reached one walks on.**  What holds of the rest of the way, and of
the ways behind links, holds of the whole way; void steps in front of the rest do not matter. -/
theorem walkSteps_append (Goes : Except FileError Arrival → Prop)
    (hvoids : ∀ step ∈ voids, Path.isVoid step = true)
    (hlink : ∀ from_ steps, onLink from_ (steps ++ voids) = .ok (.found place (.directory es)) →
      Goes (onLink from_ (steps ++ more)))
    (hrest : Goes (walkSteps root .look onLink place more))
    (h : walkSteps root .look onLink from_ (steps ++ voids) = .ok (.found place (.directory es))) :
    Goes (walkSteps root .look onLink from_ (steps ++ more)) := by
  induction steps generalizing from_ with
  | nil =>
    obtain rfl := eq_of_walkSteps_voids hvoids h
    exact hrest
  | cons step steps ih =>
    rw [List.cons_append, walkSteps] at h
    split at h
    · next hvoid =>
      rw [List.cons_append, walkSteps, if_pos hvoid]
      exact ih h
    next hvoid =>
    split at h
    · next hup =>
      rw [List.cons_append, walkSteps, if_neg hvoid, if_pos hup]
      exact ih h
    next hup =>
    rw [if_neg (by simp)] at h
    split at h
    · cases h
    next hlong =>
    have hname : IsName step := ⟨hvoid, hup, hlong⟩
    split at h
    · split at h <;> cases h
    · next hes =>
      rw [List.cons_append, walkSteps_look_directory hname _ hes]
      exact ih h
    · split at h <;> cases h
    · next target htarget =>
      -- behind a link its own steps come first
      rw [if_neg (by simp), ← List.append_assoc] at h
      rw [List.cons_append, walkSteps_look_link hname _ htarget, ← List.append_assoc]
      exact hlink _ _ h

/-- **Names lead to the node at their place**, and nowhere else, where no link is on the way. -/
theorem walkSteps_look_names (hnames : ∀ name ∈ more, IsName name)
    (hreal : ∀ names target, names <+: more → root.at? (place ++ names) ≠ some (.link target)) :
    walkSteps root .look onLink place more = .ok (.found above node) ↔
      above = place ++ more ∧ root.at? (place ++ more) = some node := by
  induction more generalizing place with
  | nil =>
    rw [walkSteps, List.append_nil]
    cases root.at? place <;> simp [eq_comm]
  | cons name names ih =>
    obtain ⟨hname, hnames⟩ := List.forall_mem_cons.1 hnames
    have hreal' : ∀ ns target, ns <+: names →
        root.at? (place ++ [name] ++ ns) ≠ some (.link target) := fun ns target hprefix => by
      rw [List.append_assoc]
      exact hreal _ target ((List.prefix_cons_inj name).2 hprefix)
    have hat : root.at? (place ++ name :: names) =
        (root.at? (place ++ [name])).bind fun child => child.at? names := by
      rw [List.append_cons, Node.at?_append]
    cases hnode : root.at? (place ++ [name]) with
    | none =>
      rw [hat, hnode, walkSteps, if_neg hname.solid, if_neg hname.down, if_neg (by simp),
        if_neg hname.short, hnode]
      dsimp only
      split <;> simp
    | some child =>
      cases child with
      | directory =>
        rw [walkSteps_look_directory hname _ hnode, ih hnames hreal', List.append_assoc,
          List.singleton_append]
      | link target => exact absurd hnode (hreal [name] target (List.prefix_append _ _))
      | file content =>
        rw [hat, hnode, walkSteps, if_neg hname.solid, if_neg hname.down, if_neg (by simp),
          if_neg hname.short, hnode]
        cases names <;> simp [Node.at?, Node.entries, eq_comm]

end Walk

/-- From a directory that a walk reaches one walks on, whatever links the walk goes through. -/
theorem walk_append (Goes : Except FileError Arrival → Prop) {links : Nat}
    (hvoids : ∀ step ∈ voids, Path.isVoid step = true)
    (hrest : ∀ onLink, Goes (walkSteps root .look onLink place more))
    (h : walk root .look links from_ (steps ++ voids) = .ok (.found place (.directory es))) :
    Goes (walk root .look links from_ (steps ++ more)) := by
  induction links generalizing from_ steps with
  | zero => exact walkSteps_append Goes hvoids (fun _ _ hlink => by cases hlink) (hrest _) h
  | succ links ih => exact walkSteps_append Goes hvoids (fun _ _ => ih) (hrest _) h

/-! ## Paths below the path of a directory -/

variable {fs : FileSystem} {p : Path} {names : List Name}

theorem IsWalkable.below (h : IsWalkable p) (hplain : ∀ name ∈ names, 0 ∉ name)
    (hshort : (names.foldl Path.join p).bytes.length < maxPathLength) :
    IsWalkable (names.foldl Path.join p) where
  nonempty := (Path.prefix_below p names).ne_nil h.nonempty
  plain := by
    intro hnul
    obtain hp | hslash | ⟨name, hname, hmem⟩ := Path.of_mem_below hnul
    · exact h.plain hp
    · exact absurd hslash (by decide)
    · exact hplain name hname hmem
  short := hshort

/-- **What is below a directory is found below its path.** -/
theorem find?_below (hp : fs.find? p = .ok (place, .directory es))
    (hnames : ∀ name ∈ names, IsEntryName name) (hshort : ∀ name ∈ names, name.length ≤ 255)
    (hne : names ≠ [])
    (hreal : ∀ ns target, ns <+: names → (Node.directory es).at? ns ≠ some (.link target)) :
    fs.find? (names.foldl Path.join p) = .ok (above, node) ↔
      IsWalkable (names.foldl Path.join p) ∧ above = place ++ names ∧
        (Node.directory es).at? names = some node := by
  have hbelow : ∀ ns, fs.root.at? (place ++ ns) = (Node.directory es).at? ns := fun ns => by
    rw [Node.at?_append, at?_of_find? hp, Option.bind_some]
  obtain ⟨hwalkable, hwalk⟩ := resolve_eq_ok_iff.1 (find?_eq_ok_iff.1 hp)
  obtain ⟨voids, hvoids, hsteps⟩ := p.exists_steps_eq
  rw [hsteps] at hwalk
  rw [find?_eq_ok_iff, resolve_eq_ok_iff, Path.steps_below p hnames hne,
    Path.isAbsolute_below hwalkable.nonempty]
  refine and_congr_right fun _ => ?_
  rw [← hbelow names]
  refine walk_append (· = .ok (.found above node) ↔ _) hvoids (fun onLink => ?_) hwalk
  refine walkSteps_look_names (fun name hname => ?_) fun ns target hprefix => ?_
  · exact ⟨by simp [(hnames name hname).solid], (hnames name hname).down,
      Nat.not_lt.2 (hshort name hname)⟩
  · rw [hbelow]
    exact hreal ns target hprefix

/-- **A file below a directory is read by its path**, if that path can be walked. -/
theorem readFile_below {content : Bytes} (hp : fs.find? p = .ok (place, .directory es))
    (hnames : ∀ name ∈ names, IsEntryName name) (hshort : ∀ name ∈ names, name.length ≤ 255)
    (hwalkable : IsWalkable (names.foldl Path.join p))
    (hfile : (Node.directory es).at? names = some (.file content)) :
    fs.readFile (names.foldl Path.join p) = .ok content := by
  have hne : names ≠ [] := by
    rintro rfl
    cases hfile
  have hreal : ∀ ns target, ns <+: names → (Node.directory es).at? ns ≠ some (.link target) := by
    rintro ns target ⟨more, rfl⟩ hlink
    rw [Node.at?_append, hlink, Option.bind_some] at hfile
    cases more <;> cases hfile
  have hfound := (find?_below hp hnames hshort hne hreal).2 ⟨hwalkable, rfl, hfile⟩
  rw [readFile, hfound]

end FileSystem

/-! ## The files of a scope -/

/-- **Files of a scope can be read**, if they hold texts, the names on the way to them are names as
directories have them, and their paths are not too long. -/
theorem Scope.isReadable_of_short {scope : Scope} {fs : FileSystem} {root : Path}
    (hnames : ∀ place content, scope.HasFile fs root place content →
      ∀ name ∈ place, IsEntryName name ∧ name.length ≤ 255 ∧ 0 ∉ name)
    (hshort : ∀ place content, scope.HasFile fs root place content →
      (scope.pathOf root place).bytes.length < FileSystem.maxPathLength)
    (htext : ∀ place content, scope.HasFile fs root place content →
      ∃ text, content = Utf8.encode text) : scope.IsReadable fs root where
  leads place content h := by
    obtain ⟨above, directory, hfound, hfile⟩ := h.stands
    obtain ⟨stem, -, hlast⟩ := h.named
    obtain ⟨name, names, hcons⟩ :=
      List.exists_cons_of_ne_nil (List.ne_nil_of_mem (List.mem_of_getLast? hlast))
    obtain ⟨es, rfl⟩ := Node.exists_directory_of_at?_cons (hcons ▸ hfile)
    have hplace := hnames place content h
    have hwalkable := (FileSystem.isWalkable_of_find? hfound).below
      (fun name hname => (hplace name hname).2.2) (hshort place content h)
    exact FileSystem.readFile_below hfound (fun name hname => (hplace name hname).1)
      (fun name hname => (hplace name hname).2.1) hwalkable hfile
  isText := htext

end LaunchLine
