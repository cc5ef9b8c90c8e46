import LaunchLine.Proofs.Presets
import Mathlib.Data.List.Basic
import Mathlib.Data.List.Induction
import Mathlib.Data.List.Nodup

/-!
# Proofs/FirstPlace — first place, last value

Entries that are put one after the other leave a **digest** of themselves: one entry for each key,
where the key first came and with what it was last given (`isDigest_putAll`).  The slots of a plan
are such a digest, of all that the presets and the command line fill, in this order.
-/

namespace LaunchLine

namespace Entries

variable {κ α : Type} [DecidableEq κ]

/-- Put entries, one after the other, where there are none. -/
def putAll (es : List (κ × α)) : List (κ × α) :=
  es.foldl (fun m e => put e.1 e.2 m) []

theorem putAll_concat (es : List (κ × α)) (key : κ) (value : α) :
    putAll (es ++ [(key, value)]) = put key value (putAll es) := by
  simp [putAll]

/-- **First place, last value**: the entries `m` are what is left of the entries `es`. -/
structure IsDigest (es m : List (κ × α)) : Prop where
  /-- No key has two entries. -/
  nodup : (m.map Prod.fst).Nodup
  /-- No key is lost. -/
  mem_keys : ∀ key, key ∈ m.map Prod.fst ↔ key ∈ es.map Prod.fst
  /-- A key stands where it first came. -/
  first : (m.map Prod.fst).Pairwise fun a b =>
    (es.map Prod.fst).idxOf a < (es.map Prod.fst).idxOf b
  /-- A key holds what it was last given. -/
  last : ∀ key value, (key, value) ∈ m →
    ∃ before after, es = before ++ (key, value) :: after ∧ key ∉ after.map Prod.fst

/-- What is there after a `put` was put, or was there under another key. -/
theorem mem_put {m : List (κ × α)} {key : κ} {value : α} {e : κ × α}
    (hnodup : (m.map Prod.fst).Nodup) (h : e ∈ put key value m) :
    e = (key, value) ∨ e.1 ≠ key ∧ e ∈ m := by
  induction m with
  | nil => exact Or.inl (List.mem_singleton.1 h)
  | cons d m ih =>
    rw [List.map_cons, List.nodup_cons] at hnodup
    by_cases hd : d.1 = key
    · rw [put, if_pos hd, List.mem_cons] at h
      rcases h with rfl | h
      · exact Or.inl rfl
      · refine Or.inr ⟨fun he => hnodup.1 ?_, List.mem_cons_of_mem d h⟩
        exact hd.trans he.symm ▸ List.mem_map_of_mem h
    · rw [put, if_neg hd, List.mem_cons] at h
      rcases h with rfl | h
      · exact Or.inr ⟨hd, List.mem_cons_self⟩
      · exact (ih hnodup.2 h).imp id fun h' => ⟨h'.1, List.mem_cons_of_mem d h'.2⟩

/-- **What one `put` preserves.** -/
theorem IsDigest.put {es m : List (κ × α)} (h : IsDigest es m) (key : κ) (value : α) :
    IsDigest (es ++ [(key, value)]) (put key value m) where
  nodup := nodup_put key value h.nodup
  mem_keys k := by
    rw [keys_put, List.map_append, List.mem_append]
    split
    · next hmem =>
      refine ⟨fun hk => Or.inl ((h.mem_keys k).1 hk), ?_⟩
      rintro (hk | hk)
      · exact (h.mem_keys k).2 hk
      · obtain rfl : k = key := List.mem_singleton.1 hk
        exact hmem
    · rw [List.mem_append, h.mem_keys k]
      rfl
  first := by
    have hkept : ∀ a ∈ m.map Prod.fst,
        (es.map Prod.fst ++ [key]).idxOf a = (es.map Prod.fst).idxOf a := fun a ha =>
      List.idxOf_append_of_mem ((h.mem_keys a).1 ha)
    have hpair : (m.map Prod.fst).Pairwise fun a b =>
        (es.map Prod.fst ++ [key]).idxOf a < (es.map Prod.fst ++ [key]).idxOf b :=
      h.first.imp_of_mem fun {a b} ha hb hab => by rwa [hkept a ha, hkept b hb]
    rw [keys_put, List.map_append, List.map_singleton]
    split
    · exact hpair
    · next hmem =>
      -- A new key comes last on both sides.
      refine List.pairwise_append.2 ⟨hpair, List.pairwise_singleton _ _, fun a ha b hb => ?_⟩
      obtain rfl := List.mem_singleton.1 hb
      have ha' := (h.mem_keys a).1 ha
      have hb' : b ∉ es.map Prod.fst := fun hb' => hmem ((h.mem_keys b).2 hb')
      rw [hkept a ha, List.idxOf_append_of_notMem hb']
      exact Nat.lt_add_right _ (List.idxOf_lt_length_of_mem ha')
  last k v hmem := by
    rcases mem_put h.nodup hmem with he | ⟨hne, hmem⟩
    · obtain ⟨rfl, rfl⟩ := Prod.mk.inj he
      exact ⟨es, [], rfl, List.not_mem_nil⟩
    · obtain ⟨before, after, rfl, hlast⟩ := h.last k v hmem
      refine ⟨before, after ++ [(key, value)], by simp, ?_⟩
      rw [List.map_append, List.mem_append]
      rintro (hk | hk)
      · exact hlast hk
      · exact hne (List.mem_singleton.1 hk)

/-- **Entries leave their digest.** -/
theorem isDigest_putAll (es : List (κ × α)) : IsDigest es (putAll es) := by
  induction es using List.reverseRecOn with
  | nil => exact ⟨List.nodup_nil, fun _ => Iff.rfl, List.Pairwise.nil, fun _ _ h => by cases h⟩
  | append_singleton es e ih =>
    obtain ⟨key, value⟩ := e
    rw [putAll_concat]
    exact ih.put key value

theorem put_append_of_notMem {m : List (κ × α)} {key : κ} (h : key ∉ m.map Prod.fst) (value : α)
    (rest : List (κ × α)) : put key value (m ++ rest) = m ++ put key value rest := by
  induction m with
  | nil => rfl
  | cons d m ih =>
    rw [List.map_cons, List.mem_cons, not_or] at h
    rw [List.cons_append, put, if_neg (Ne.symm h.1), ih h.2, List.cons_append]

/-- Entries without a repeated key are their own digest. -/
theorem putAll_of_nodup {es : List (κ × α)} (h : (es.map Prod.fst).Nodup) : putAll es = es := by
  induction es using List.reverseRecOn with
  | nil => rfl
  | append_singleton es e ih =>
    obtain ⟨key, value⟩ := e
    rw [List.map_append, List.nodup_append] at h
    obtain ⟨hes, -, hdisjoint⟩ := h
    have hnew : key ∉ es.map Prod.fst := fun hmem => hdisjoint key hmem key List.mem_cons_self rfl
    have hput := put_append_of_notMem hnew value []
    rw [List.append_nil] at hput
    rw [putAll_concat, ih hes, hput]
    rfl

end Entries

/-! ## The slots of a plan -/

/-- What a setting fills, and with what. -/
def Setting.filling? : Setting → Option (Slot × Option String)
  | .fill slot value? => some (slot, value?)
  | .keepArtifacts => none

/-- **The settings that fill** are seen in what is filled. -/
theorem Setting.mem_filterMap_filling? {settings : List Setting} {slot : Slot}
    {value? : Option String} :
    (slot, value?) ∈ settings.filterMap filling? ↔ .fill slot value? ∈ settings := by
  rw [List.mem_filterMap]
  constructor
  · rintro ⟨⟨slot', value?'⟩ | _, hmem, hfill⟩
    · obtain ⟨rfl, rfl⟩ := Prod.mk.inj (Option.some.inj hfill)
      exact hmem
    · cases hfill
  · exact fun hmem => ⟨_, hmem, rfl⟩

/-- **What a row of segments fills**, one filling after the other. -/
def Segment.fillings (ss : List Segment) : List (Slot × Option String) :=
  (ss.flatMap settings).filterMap Setting.filling?

namespace Slots

/-- A slot holds a text exactly if there is an entry that says so. -/
theorem value?_eq_some_iff {slots : Slots} {slot : Slot} {value : String} :
    slots.value? slot = some value ↔ (slot, some value) ∈ slots.entries := by
  rw [value?, Option.join_eq_some_iff, Entries.mem_iff_lookup slots.nodup]

/-- **The launcher is told the entries**, and nothing else. -/
theorem render_mem_render_iff {slots : Slots} {slot : Slot} {value? : Option String} :
    slot.render value? ∈ slots.render ↔ (slot, value?) ∈ slots.entries := by
  constructor
  · intro h
    obtain ⟨e, he, hrender⟩ := List.mem_map.1 h
    obtain rfl : e = (slot, value?) := Slot.render_injective hrender
    exact he
  · exact fun he => List.mem_map.2 ⟨_, he, rfl⟩

theorem entries_foldl_apply (settings : List Setting) (slots : Slots) :
    (settings.foldl apply slots).entries
      = (settings.filterMap Setting.filling?).foldl (fun m e => Entries.put e.1 e.2 m)
          slots.entries := by
  induction settings generalizing slots with
  | nil => rfl
  | cons setting settings ih =>
    cases setting with
    | fill slot value? => exact ih (slots.put slot value?)
    | keepArtifacts => exact ih slots

/-- The slots are the digest of all that is filled. -/
theorem entries_ofSettings (settings : List Setting) :
    (ofSettings settings).entries = Entries.putAll (settings.filterMap Setting.filling?) :=
  entries_foldl_apply settings empty

end Slots

/-- **The law of the slots.**  However presets and command line are cut into segments, the launcher
is told the digest of what these fill: each slot once, where it was first filled, with the value
that it was last given. -/
theorem slotArgs_isDigest {cfg : Config} {arguments : List String} {p : LaunchPlan}
    (h : cfg.plan arguments = .ok p) :
    (∃ presets : List Segment, Segment.spread presets = cfg.words) ∧
    (∃ l : Layout, l.words = arguments) ∧
    ∀ (presets : List Segment) (l : Layout), Segment.spread presets = cfg.words →
      l.words = arguments → ∃ slots : List (Slot × Option String),
        Entries.IsDigest (Segment.fillings (presets ++ l.segments)) slots ∧
        (slots.map fun e => e.1.name).Nodup ∧
        p.slotArgs = slots.map fun e => e.1.render e.2 := by
  obtain ⟨presets, l, hpresets, -, hwords, rfl⟩ := exists_segments_of_planWith h
  refine ⟨⟨presets, hpresets⟩, ⟨l, hwords⟩, fun presets' l' hpresets' hwords' => ?_⟩
  obtain rfl : l' = l := Layout.words_injective (hwords'.trans hwords.symm)
  obtain rfl : presets' = presets := Segment.spread_injective (hpresets'.trans hpresets.symm)
  have hentries := Slots.entries_ofSettings ((presets' ++ l'.segments).flatMap Segment.settings)
  have hdigest := Entries.isDigest_putAll (Segment.fillings (presets' ++ l'.segments))
  refine ⟨_, hdigest, ?_, ?_⟩
  · have := hdigest.nodup.map Slot.name_injective
    rwa [List.map_map] at this
  · change (Slots.ofSettings _).render = _
    rw [Slots.render, hentries]
    rfl

/-- Two flags of one slot: the preset gives the place and the command line the value. -/
theorem slotArgs_isDigest_overridden :
    Config.plan { Config.empty with
      extraArgs? := some ["--isolated-script-test-output", "--repeat", "-r", "2"] }
      ["--repeat=3", "--dump_json_test_results", "a=b"] = .ok
      ⟨["--shard_index=0", "--shard_count=1", "--dump_json_test_results=a=b", "--repeat=3"],
        ["--dump_json_test_results=a=b", "--repeat=3"], none, [], none, none⟩ ∧
    ∃ slots : List (Slot × Option String),
      Entries.IsDigest [(.testResults, some "--repeat"), (.repeatCount, some "2"),
        (.repeatCount, some "3"), (.testResults, some "a=b")] slots ∧
      (slots.map fun e => e.1.name).Nodup ∧
      ["--dump_json_test_results=a=b", "--repeat=3"] = slots.map fun e => e.1.render e.2 := by
  refine ⟨?h, (slotArgs_isDigest ?h).2.2
    [.split .isolatedTestOutput "--isolated-script-test-output" "--repeat" rfl rfl (by decide),
      .split .repeatCount "-r" "2" rfl rfl (by decide)]
    ⟨[.inline .repeatCount "3" rfl,
      .split .testResults "--dump_json_test_results" "a=b" rfl rfl (by decide)], none⟩ rfl rfl⟩
  decide

end LaunchLine
