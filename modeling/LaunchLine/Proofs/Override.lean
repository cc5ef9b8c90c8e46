import LaunchLine.Proofs.Accepted
import LaunchLine.Proofs.Rewrapping

/-!
# Proofs/Override — what the command line makes of the presets

Entries that are put behind others **override** them: those that were there keep their places and
take the new values, and new keys come behind.  So the slots of a plan are those of its presets,
overridden by those of its command line, `Config.plan_override`.
-/

namespace LaunchLine

namespace Entries

variable {κ α : Type} [DecidableEq κ]

/-! ## Putting into a part of a list -/

theorem put_append_of_mem {m : List (κ × α)} {key : κ} (h : key ∈ m.map Prod.fst) (value : α)
    (rest : List (κ × α)) : put key value (m ++ rest) = put key value m ++ rest := by
  induction m with
  | nil => cases h
  | cons e m ih =>
    by_cases he : e.1 = key
    · rw [List.cons_append, put, if_pos he, put, if_pos he, List.cons_append]
    · have hm : key ∈ m.map Prod.fst := (List.mem_cons.1 h).resolve_left (Ne.symm he)
      rw [List.cons_append, put, if_neg he, put, if_neg he, ih hm, List.cons_append]

/-- Without a repeated key, a known key is overwritten wherever it stands. -/
theorem put_eq_map_of_mem {m : List (κ × α)} {key : κ} (hnodup : (m.map Prod.fst).Nodup)
    (h : key ∈ m.map Prod.fst) (value : α) :
    put key value m = m.map fun e => if e.1 = key then (key, value) else e := by
  induction m with
  | nil => cases h
  | cons e m ih =>
    obtain ⟨hhead, htail⟩ := List.nodup_cons.1 hnodup
    by_cases he : e.1 = key
    · have hkept : ∀ d ∈ m, (if d.1 = key then (key, value) else d) = d := by
        intro d hd
        refine if_neg fun hkey => hhead ?_
        rw [he, ← hkey]
        exact List.mem_map_of_mem hd
      rw [put, if_pos he, List.map_cons, if_pos he, List.map_congr_left hkept, List.map_id']
    · have hm : key ∈ m.map Prod.fst := (List.mem_cons.1 h).resolve_left (Ne.symm he)
      rw [put, if_neg he, List.map_cons, if_neg he, ih htail hm]

/-- What is put among the entries of some keys only is seen if its key is one of them. -/
theorem filter_put (p : κ → Bool) (key : κ) (value : α) (m : List (κ × α)) :
    (put key value m).filter (fun e => p e.1) =
      if p key = true then put key value (m.filter fun e => p e.1)
      else m.filter fun e => p e.1 := by
  induction m with
  | nil => cases hp : p key <;> simp [put, hp]
  | cons e m ih =>
    by_cases he : e.1 = key
    · subst he
      cases hp : p e.1 <;> simp [put, hp]
    · cases hp : p key <;> cases hpe : p e.1 <;> simp_all [put]

/-! ## Overriding -/

/-- **Entries overridden by others**: each keeps its place and takes the other value, if there is
one; the entries of the other keys follow in their own order. -/
def override (m d : List (κ × α)) : List (κ × α) :=
  m.map (fun e => (e.1, (d.lookup e.1).getD e.2)) ++ d.filter fun e => e.1 ∉ m.map Prod.fst

@[simp] theorem override_nil (m : List (κ × α)) : override m [] = m := by
  simp [override]

/-- **To put into overridden entries** is to put into those that override. -/
theorem put_override {m : List (κ × α)} (hnodup : (m.map Prod.fst).Nodup) (d : List (κ × α))
    (key : κ) (value : α) :
    put key value (override m d) = override m (put key value d) := by
  have hkeys : (m.map fun e => (e.1, (d.lookup e.1).getD e.2)).map Prod.fst = m.map Prod.fst := by
    rw [List.map_map]
    rfl
  have hrest := filter_put (fun k => decide (k ∉ m.map Prod.fst)) key value d
  by_cases hmem : key ∈ m.map Prod.fst
  · rw [if_neg (by simpa using hmem)] at hrest
    have hvalues : ∀ e ∈ m, (if e.1 = key then (key, value) else (e.1, (d.lookup e.1).getD e.2))
        = (e.1, ((put key value d).lookup e.1).getD e.2) := by
      intro e _
      by_cases he : e.1 = key <;> simp [lookup_put, he]
    have hput := put_eq_map_of_mem (hkeys ▸ hnodup) (hkeys ▸ hmem) value
    rw [override, put_append_of_mem (hkeys ▸ hmem), hput, List.map_map, override, hrest]
    exact congrArg (· ++ _) (List.map_congr_left hvalues)
  · rw [if_pos (by simpa using hmem)] at hrest
    have hvalues : ∀ e ∈ m, (e.1, (d.lookup e.1).getD e.2)
        = (e.1, ((put key value d).lookup e.1).getD e.2) := by
      intro e he
      have hne : e.1 ≠ key := fun hkey => hmem (hkey ▸ List.mem_map_of_mem he)
      rw [lookup_put, if_neg hne]
    rw [override, put_append_of_notMem (hkeys ▸ hmem), override, hrest]
    exact congrArg (· ++ _) (List.map_congr_left hvalues)

/-- **What is put behind other entries overrides them.** -/
theorem putAll_append (es es' : List (κ × α)) :
    putAll (es ++ es') = override (putAll es) (putAll es') := by
  induction es' using List.reverseRecOn with
  | nil => rw [List.append_nil]; exact (override_nil _).symm
  | append_singleton es' e ih =>
    obtain ⟨key, value⟩ := e
    rw [← List.append_assoc, putAll_concat, putAll_concat, ih,
      put_override (isDigest_putAll es).nodup]

theorem lookup_map_value (f : κ → α → α) (m : List (κ × α)) (key : κ) :
    (m.map fun e => (e.1, f e.1 e.2)).lookup key = (m.lookup key).map (f key) := by
  induction m with
  | nil => rfl
  | cons e m ih =>
    obtain ⟨k, v⟩ := e
    by_cases h : key = k
    · subst h
      simp
    · rw [List.map_cons, lookup_cons, lookup_cons, if_neg h, if_neg h, ih]

theorem lookup_filter (p : κ → Bool) (d : List (κ × α)) (key : κ) :
    (d.filter fun e => p e.1).lookup key = if p key = true then d.lookup key else none := by
  induction d with
  | nil => simp
  | cons e d ih =>
    obtain ⟨k, v⟩ := e
    by_cases h : key = k
    · subst h
      cases hp : p key with
      | true => simp [hp]
      | false =>
        rw [List.filter_cons_of_neg (by simp [hp]), ih, hp]
        rfl
    · cases hp : p k <;> simp [lookup_cons, h, hp, ih]

/-- The other value, if there is one. -/
theorem lookup_override (m d : List (κ × α)) (key : κ) :
    (override m d).lookup key = (d.lookup key).or (m.lookup key) := by
  rw [override, List.lookup_append, lookup_map_value fun k v => (d.lookup k).getD v,
    lookup_filter fun k => decide (k ∉ m.map Prod.fst)]
  cases h : m.lookup key with
  | none =>
    have hmem : key ∉ m.map Prod.fst := by
      intro hkey
      obtain ⟨e, he, rfl⟩ := List.mem_map.1 hkey
      simpa using List.lookup_eq_none_iff.1 h e he
    simp [hmem]
  | some v => cases d.lookup key <;> rfl

end Entries

/-! ## Slots overridden by slots -/

namespace Slots

theorem entries_ofSettings_append (settings more : List Setting) :
    (ofSettings (settings ++ more)).entries
      = Entries.override (ofSettings settings).entries (ofSettings more).entries := by
  rw [entries_ofSettings, entries_ofSettings, entries_ofSettings, List.filterMap_append,
    Entries.putAll_append]

/-- The text of a slot is the later one, if there is one. -/
theorem value?_ofSettings_append {settings more : List Setting}
    (hcomplete : ∀ st ∈ more, st.IsComplete) {slot : Slot} (htakes : slot.takesValue = true) :
    (ofSettings (settings ++ more)).value? slot
      = ((ofSettings more).value? slot).or ((ofSettings settings).value? slot) := by
  rw [value?, value?, value?, entries_ofSettings_append, Entries.lookup_override]
  cases hlookup : (ofSettings more).entries.lookup slot with
  | none => rfl
  | some value? =>
    obtain ⟨before, after, hentries, -⟩ := List.lookup_eq_some_iff.1 hlookup
    have hmem : (slot, value?) ∈ (ofSettings more).entries := by
      rw [hentries]
      exact List.mem_append_right _ List.mem_cons_self
    obtain ⟨value, rfl⟩ : ∃ value, value? = some value :=
      Option.isSome_iff_exists.1 ((isSome_of_mem_entries hcomplete hmem).trans htakes)
    rfl

end Slots

namespace LaunchPlan

/-- **The slots that a plan fills**, each with its value, in the order in which the launcher is told
them. -/
structure Fills (p : LaunchPlan) (es : List (Slot × Option String)) : Prop where
  /-- No slot has two entries. -/
  nodup : (es.map Prod.fst).Nodup
  slotArgs : p.slotArgs = es.map fun e => e.1.render e.2

theorem fills_ofReading (r : Reading) :
    (ofReading r).Fills (Slots.ofSettings r.settings).entries :=
  ⟨(Slots.ofSettings r.settings).nodup, rfl⟩

theorem Fills.unique {p : LaunchPlan} {es es' : List (Slot × Option String)} (h : p.Fills es)
    (h' : p.Fills es') : es = es' :=
  Slot.render_injective.list_map (h.slotArgs.symm.trans h'.slotArgs)

end LaunchPlan

/-- **The law of overriding.**  If a config plans the empty command line and a command line has a
plan by itself, then there is a plan of both: the launcher is told the slots of the config, in their
order, with the values of the command line where it has any, and then the other slots of the command
line, in its order.  The output directory is that of the command line, if it has one. -/
theorem Config.plan_override {cfg : Config} {arguments : List String} {g c : LaunchPlan}
    (hg : cfg.plan [] = .ok g) (hc : LaunchLine.plan arguments = .ok c) :
    ∃ r : LaunchPlan, cfg.plan arguments = .ok r ∧
      (∃ gs, g.Fills gs) ∧ (∃ cs, c.Fills cs) ∧
      (∀ gs cs, g.Fills gs → c.Fills cs → r.Fills (Entries.override gs cs)) ∧
      r.outputDir? = c.outputDir?.or g.outputDir? := by
  obtain ⟨settings, _, hread, hnone, rfl⟩ := exists_readings_of_planWith hg
  obtain rfl := Except.ok.inj hnone
  obtain ⟨line, hline, rfl⟩ := exists_reading_of_plan hc
  have hcomplete : ∀ st ∈ line.settings, st.IsComplete := by
    obtain ⟨l, -, rfl⟩ := exists_layout_of_readArguments hline
    exact Segment.isComplete_of_mem_flatMap
  have hboth : cfg.plan arguments = .ok (.ofReading ⟨settings ++ line.settings, line.loose⟩) := by
    rw [Config.plan, planWith_of_readPresets hread, hline]
    rfl
  have hgs := LaunchPlan.fills_ofReading ⟨settings ++ [], []⟩
  have hcs := LaunchPlan.fills_ofReading line
  have hrs := LaunchPlan.fills_ofReading ⟨settings ++ line.settings, line.loose⟩
  rw [List.append_nil] at hgs ⊢
  rw [Slots.entries_ofSettings_append] at hrs
  refine ⟨_, hboth, ⟨_, hgs⟩, ⟨_, hcs⟩, fun gs cs hgs' hcs' => ?_, ?_⟩
  · rwa [hgs'.unique hgs, hcs'.unique hcs]
  · exact Slots.value?_ofSettings_append hcomplete rfl

/-- Two flags of one slot: the config gives the place and the command line the value.  A word that
only looks like a flag changes nothing. -/
theorem Config.plan_override_alias :
    Config.plan { Config.empty with
      outputDir? := some " out "
      extraArgs? := some ["-r", "1", "--dump_json_test_results=a", "-r", "2"] } [] = .ok
      ⟨["--shard_index=0", "--shard_count=1", "--output_dir=out", "--repeat=2",
          "--dump_json_test_results=a"],
        ["--output_dir=out", "--repeat=2", "--dump_json_test_results=a"], none, [], some "out",
        none⟩ ∧
    LaunchLine.plan ["--isolated-script-test-output", "b", "-w", "4", "-r=3",
      "--gtest_also_run_disabled_tests"] = .ok
      ⟨["--shard_index=0", "--shard_count=1", "--dump_json_test_results=b", "--workers=4",
          "--gtest_also_run_disabled_tests", "--", "-r=3"],
        ["--dump_json_test_results=b", "--workers=4", "--gtest_also_run_disabled_tests"], none,
        ["-r=3"], none, none⟩ ∧
    ∃ r : LaunchPlan,
      Config.plan { Config.empty with
        outputDir? := some " out "
        extraArgs? := some ["-r", "1", "--dump_json_test_results=a", "-r", "2"] }
        ["--isolated-script-test-output", "b", "-w", "4", "-r=3",
          "--gtest_also_run_disabled_tests"] = .ok r ∧
      r.Fills [(.outputDir, some "out"), (.repeatCount, some "2"), (.testResults, some "b"),
        (.workers, some "4"), (.runDisabledTests, none)] ∧
      r.outputDir? = some "out" := by
  refine ⟨?hg, ?hc, ?_⟩
  · decide
  · decide
  · obtain ⟨r, hplan, -, -, hfills, hdir⟩ := Config.plan_override ?hg ?hc
    refine ⟨r, hplan, ?_, hdir⟩
    exact hfills [(.outputDir, some "out"), (.repeatCount, some "2"), (.testResults, some "a")]
      [(.testResults, some "b"), (.workers, some "4"), (.runDisabledTests, none)]
      ⟨by decide, by decide⟩ ⟨by decide, by decide⟩

end LaunchLine
