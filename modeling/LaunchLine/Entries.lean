/-!
# Entries — lists of entries by key

A list of entries holds a value for each of its keys, in the order in which the keys came.  **First
place, last value**: `put` overwrites the value of a key where it stands, or adds an entry at the
end.  `List.lookup` is the view: `lookup_put`.
-/

namespace LaunchLine.Entries

variable {κ α : Type} [DecidableEq κ]

/-- Overwrite the value of a key, or add an entry for it at the end. -/
def put (key : κ) (value : α) : List (κ × α) → List (κ × α)
  | [] => [(key, value)]
  | entry :: rest => if entry.1 = key then (key, value) :: rest else entry :: put key value rest

/-- A new key comes last, and a known one keeps its place. -/
theorem keys_put (key : κ) (value : α) (es : List (κ × α)) :
    (put key value es).map Prod.fst =
      if key ∈ es.map Prod.fst then es.map Prod.fst else es.map Prod.fst ++ [key] := by
  induction es with
  | nil => rfl
  | cons e es ih =>
    by_cases h : e.1 = key
    · simp [put, h]
    · have h' : key ≠ e.1 := fun he => h he.symm
      by_cases hm : key ∈ es.map Prod.fst
      · simp only [put, if_neg h, List.map_cons, ih, List.mem_cons, hm, or_true, if_true]
      · simp only [put, if_neg h, List.map_cons, ih, List.mem_cons, hm, h', or_false, if_false,
          List.cons_append]

theorem nodup_put {es : List (κ × α)} (key : κ) (value : α) (h : (es.map Prod.fst).Nodup) :
    ((put key value es).map Prod.fst).Nodup := by
  rw [keys_put]
  split
  · exact h
  · next hm =>
    refine List.nodup_append.mpr ⟨h, by simp, fun a ha b hb => ?_⟩
    rw [List.mem_singleton] at hb
    exact fun hab => hm (hb ▸ hab ▸ ha)

variable [BEq κ] [LawfulBEq κ]

theorem lookup_cons (key other : κ) (value : α) (es : List (κ × α)) :
    ((key, value) :: es).lookup other = if other = key then some value else es.lookup other := by
  by_cases h : other = key
  · simp [h]
  · simp [List.lookup_cons, beq_eq_false_iff_ne.mpr h, h]

/-- The key holds the new value, and all others hold what they held. -/
theorem lookup_put (key other : κ) (value : α) (es : List (κ × α)) :
    (put key value es).lookup other = if other = key then some value else es.lookup other := by
  induction es with
  | nil => exact lookup_cons key other value []
  | cons e es ih =>
    obtain ⟨k, v⟩ := e
    by_cases hk : k = key
    · by_cases h : other = key <;> simp [put, lookup_cons, hk, h]
    · by_cases h : other = k
      · simp [put, hk, h]
      · simp [put, lookup_cons, hk, h, ih]

/-- Without a repeated key, every entry is found by its key. -/
theorem lookup_of_mem {es : List (κ × α)} (hnodup : (es.map Prod.fst).Nodup) {e : κ × α}
    (he : e ∈ es) : es.lookup e.1 = some e.2 := by
  induction es with
  | nil => cases he
  | cons d es ih =>
    obtain ⟨hhead, htail⟩ := List.nodup_cons.1 hnodup
    rcases List.mem_cons.1 he with rfl | he
    · rw [lookup_cons, if_pos rfl]
    · have hne : e.1 ≠ d.1 := fun hkey => hhead (hkey ▸ List.mem_map_of_mem he)
      rw [lookup_cons, if_neg hne, ih htail he]

/-- Without a repeated key, the entries are what is found. -/
theorem mem_iff_lookup {es : List (κ × α)} (hnodup : (es.map Prod.fst).Nodup) {key : κ}
    {value : α} : (key, value) ∈ es ↔ es.lookup key = some value := by
  refine ⟨fun h => lookup_of_mem hnodup h, fun h => ?_⟩
  obtain ⟨front, back, rfl, -⟩ := List.lookup_eq_some_iff.1 h
  exact List.mem_append_right _ List.mem_cons_self

end LaunchLine.Entries
