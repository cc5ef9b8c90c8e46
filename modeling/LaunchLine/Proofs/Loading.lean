import LaunchLine.Proofs.Accepted

/-!
# Proofs/Loading — which config is in effect

To find a config and to load it is only to look: the files stay as they are, and what comes of it is
a function of them.  One path is looked for and one file is read; if that file cannot be used,
nothing is set.
-/

namespace LaunchLine.Config

/-- The first of some paths that names a file, among the given files. -/
theorem run_firstFile (paths : List Path) (files : FileSystem) :
    (firstFile (m := StateM FileSystem) paths).run files = (paths.find? files.isFile, files) := by
  induction paths with
  | nil => rfl
  | cons p ps ih =>
    change (if files.isFile p = true then pure (some p) else firstFile ps : StateM FileSystem _).run
      files = _
    cases hfile : files.isFile p with
    | true =>
      rw [List.find?_cons_of_pos hfile]
      rfl
    | false =>
      rw [List.find?_cons_of_neg (by simp [hfile])]
      exact ih

/-- **The path of the config**, among the given files. -/
def pathAmong (explicit? : Option Bytes) (start : Path) (files : FileSystem) : Option Path :=
  match explicit? with
  | some (b :: bytes) => some ⟨b :: bytes⟩
  | _ => (candidates start).find? files.isFile

theorem run_discover (explicit? : Option Bytes) (start : Path) (files : FileSystem) :
    (discover (m := StateM FileSystem) explicit? start).run files
      = (pathAmong explicit? start files, files) := by
  match explicit? with
  | some (_ :: _) => rfl
  | some [] | none => exact run_firstFile (candidates start) files

/-- What a path of a config holds, among the given files. -/
def heldAt (path : Path) (files : FileSystem) : Except ConfigError Config :=
  ((loadFrom (m := StateM FileSystem) path).run files).1

/-- **What is loaded**, given all files: no more than one path is looked at. -/
def loaded (explicit? : Option Bytes) (start : Path) (files : FileSystem) :
    Except ConfigError (Config × Option Path) :=
  match pathAmong explicit? start files with
  | none => .ok (empty, none)
  | some path => (heldAt path files).map fun cfg => (cfg, some path)

theorem run_load (explicit? : Option Bytes) (start : Path) (files : FileSystem) :
    (load (m := StateM FileSystem) explicit? start).run files
      = (loaded explicit? start files, files) := by
  rw [load, StateT.run_bind, run_discover, loaded]
  cases pathAmong explicit? start files with
  | none => rfl
  | some path =>
    have hkept : ((loadFrom (m := StateM FileSystem) path).run files).2 = files := by
      rw [run_loadFrom]
    exact Prod.ext rfl hkept

/-- **The config in effect**: the one that is loaded, or the one that sets nothing if loading fails.
-/
def inEffect (explicit? : Option Bytes) (start : Path) (files : FileSystem) : Config :=
  match loaded explicit? start files with
  | .ok (cfg, _) => cfg
  | .error _ => empty

theorem isAccepted_of_loaded {explicit? : Option Bytes} {start : Path} {files : FileSystem}
    {cfg : Config} {path? : Option Path} (h : loaded explicit? start files = .ok (cfg, path?)) :
    cfg.IsAccepted := by
  rw [loaded] at h
  split at h
  · obtain ⟨rfl, -⟩ := Prod.mk.inj (Except.ok.inj h)
    exact isAccepted_empty
  · next path _ =>
    cases hheld : heldAt path files with
    | error e =>
      rw [hheld] at h
      cases h
    | ok held =>
      rw [hheld] at h
      obtain ⟨rfl, -⟩ := Prod.mk.inj (Except.ok.inj h)
      exact isAccepted_of_loadFrom hheld

/-- **The config in effect is accepted**, whatever the files hold. -/
theorem isAccepted_inEffect (explicit? : Option Bytes) (start : Path) (files : FileSystem) :
    (inEffect explicit? start files).IsAccepted := by
  rw [inEffect]
  split
  · next hloaded => exact isAccepted_of_loaded hloaded
  · exact isAccepted_empty

/-- An accepted config adds its settings in front. -/
theorem exists_plan_of_isAccepted {cfg : Config} (h : cfg.IsAccepted) :
    ∃ settings : List Setting, ∀ arguments, cfg.plan arguments =
      (readArguments arguments).map fun r => .ofReading ⟨settings ++ r.settings, r.loose⟩ := by
  obtain ⟨settings, hread⟩ := checkPresets_eq_ok_iff.1 h
  exact ⟨settings, planWith_of_readPresets hread⟩

end LaunchLine.Config
