import LaunchLine.Proofs.Ancestors
import LaunchLine.Files.Tree

/-!
# Proofs/Joining — a name below a path is its last component

The components of a path are its anchor and its pieces that are not void, and paths are compared
component by component.  A name as directories have it is one component more (`components_join`)
and one step more (`steps_join`) of the path that it is joined to.  So below one path there are as
many paths as there are places, and in the same order (`below_injective`, `below_lt_below`).
-/

namespace LaunchLine

/-- **A name as directories have it**: not void, not the way up, and in one piece. -/
structure IsEntryName (name : Name) : Prop where
  solid : Path.isVoid name = false
  down : name ≠ [dot, dot]
  whole : slash ∉ name

instance (name : Name) : Decidable (IsEntryName name) :=
  decidable_of_iff (Path.isVoid name = false ∧ name ≠ [dot, dot] ∧ slash ∉ name)
    ⟨fun h => ⟨h.1, h.2.1, h.2.2⟩, fun h => ⟨h.solid, h.down, h.whole⟩⟩

theorem IsEntryName.ne_nil {name : Name} (hname : IsEntryName name) : name ≠ [] := by
  rintro rfl
  exact absurd hname.solid (by decide)

namespace Path

variable {p : Path} {bs cs : Bytes} {name : Name} {place place' : List Name}

/-! ## Cutting at slashes -/

theorem cut_append_slash (bs cs : Bytes) : cut (bs ++ slash :: cs) = cut bs ++ cut cs := by
  induction bs with
  | nil => simp [cut]
  | cons b rest ih =>
    obtain ⟨piece, pieces, hcut⟩ := List.exists_cons_of_ne_nil (cut_ne_nil rest)
    by_cases hb : b = slash <;> simp [cut, hb, ih, hcut]

theorem cut_of_slash_notMem (h : slash ∉ bs) : cut bs = [bs] := by
  induction bs with
  | nil => rfl
  | cons b rest ih =>
    have hb : b ≠ slash := fun hb => h (hb ▸ List.mem_cons_self)
    rw [cut, if_neg hb, ih fun hrest => h (List.mem_cons_of_mem b hrest)]

section Join

variable (keep : Bytes → Bool)

/-- Where a slash comes last, what follows is a piece of its own, in place of an empty one. -/
theorem filter_cut_append (hempty : keep [] = false) (hwhole : slash ∉ name)
    (hends : bs = [] ∨ bs.getLast? = some slash) :
    (cut (bs ++ name)).filter keep = (cut bs).filter keep ++ [name].filter keep := by
  obtain rfl | hlast := hends
  · simp [cut, hempty, cut_of_slash_notMem hwhole]
  · obtain ⟨front, rfl⟩ := List.getLast?_eq_some_iff.1 hlast
    rw [List.append_assoc, List.singleton_append, cut_append_slash, cut_append_slash,
      cut_of_slash_notMem hwhole]
    simp [cut, hempty]

/-- **A name that is joined is a piece more**, if one looks at pieces that are not empty; the first
bytes may be left out. -/
theorem filter_cut_drop_join (hempty : keep [] = false) (hwhole : slash ∉ name) {k : Nat}
    (hk : k ≤ p.bytes.length) :
    (cut ((p.join name).bytes.drop k)).filter keep =
      (cut (p.bytes.drop k)).filter keep ++ [name].filter keep := by
  rw [join]
  split
  · next hends =>
    rw [List.drop_append_of_le_length hk]
    refine filter_cut_append keep hempty hwhole ?_
    rw [List.getLast?_drop]
    split
    · next hall => exact .inl (List.drop_of_length_le hall)
    · next hsome =>
      rw [Bool.or_eq_true, decide_eq_true_eq, decide_eq_true_eq] at hends
      obtain hnil | hlast := hends
      · simp [hnil] at hsome
      · exact .inr hlast
  · rw [List.drop_append_of_le_length hk, cut_append_slash, cut_of_slash_notMem hwhole,
      List.filter_append]

theorem suffix_join (p : Path) (name : Name) : name <:+ (p.join name).bytes := by
  rw [join]
  split
  · exact List.suffix_append _ _
  · exact (List.suffix_cons slash name).trans (List.suffix_append _ _)

/-- A name stands for no anchor. -/
theorem anchor_of_isEntryName (hname : IsEntryName name) : anchor ⟨name⟩ = [] := by
  cases name with
  | nil => rfl
  | cons b rest =>
    have hslash : b ≠ slash := fun hb => hname.whole (hb ▸ List.mem_cons_self)
    have hrest : rest.head? ≠ some slash := fun hhead =>
      hname.whole (List.mem_cons_of_mem b (List.mem_of_head? hhead))
    have hdot : ¬ (b = dot ∧ rest = []) := by
      rintro ⟨rfl, rfl⟩
      exact absurd hname.solid (by decide)
    simp only [anchor, if_neg hslash]
    refine if_neg fun h => ?_
    simp only [Bool.and_eq_true, Bool.or_eq_true, decide_eq_true_eq] at h
    exact h.2.elim (fun hnil => hdot ⟨h.1, hnil⟩) hrest

/-- **The anchor stays** when a name is joined. -/
theorem anchor_join (p : Path) (hname : IsEntryName name) : (p.join name).anchor = p.anchor := by
  obtain ⟨_ | ⟨b, rest⟩⟩ := p
  · exact anchor_of_isEntryName hname
  · cases rest with
    | nil => by_cases hb : b = slash <;> simp [join, anchor, hb]
    | cons c rest =>
      rw [join]
      split <;> rfl

theorem length_anchor_le (p : Path) : p.anchor.length ≤ p.bytes.length := by
  rw [← anchor_append_pieces p, List.length_append]
  exact Nat.le_add_right _ _

end Join

/-! ## Components -/

/-- A component of a path: the root, the current directory in front, the way up, or a name. -/
inductive Component
  | root
  | here
  | up
  | named (name : Name)
  deriving DecidableEq, Repr

namespace Component

/-- The place of a component among the kinds. -/
def rank : Component → Nat
  | root => 0
  | here => 1
  | up => 2
  | named _ => 3

/-- **The order of components**: by their kinds, and names byte by byte. -/
inductive Before : Component → Component → Prop
  | kind {c d : Component} (h : c.rank < d.rank) : Before c d
  | named {m n : Name} (h : m < n) : Before (named m) (named n)

instance : LT Component := ⟨Before⟩

instance : Std.Irrefl (α := Component) (· < ·) where
  irrefl c h := by
    cases h with
    | kind h => exact Nat.lt_irrefl _ h
    | named h => exact List.lt_irrefl _ h

/-- The component that stands for an anchor. -/
def ofAnchor? (anchor : Bytes) : Option Component :=
  if anchor = [slash] then some root else if anchor = [dot] then some here else none

/-- The component that a piece is. -/
def ofPiece (piece : Bytes) : Component :=
  if piece = [dot, dot] then up else named piece

end Component

/-- The components of a path. -/
def components (p : Path) : List Component :=
  (Component.ofAnchor? p.anchor).toList ++
    (p.pieces.filter fun piece => !isVoid piece).map Component.ofPiece

/-- **The order of paths**: component by component. -/
instance : LT Path := ⟨fun p q => p.components < q.components⟩

instance : Std.Irrefl (α := Path) (· < ·) where
  irrefl p := List.lt_irrefl p.components

theorem lt_iff {q : Path} : p < q ↔ p.components < q.components := Iff.rfl

/-- **A name that is joined is a component more.** -/
theorem components_join (p : Path) (hname : IsEntryName name) :
    (p.join name).components = p.components ++ [.named name] := by
  have hpieces := filter_cut_drop_join (fun piece => !isVoid piece) rfl hname.whole
    (length_anchor_le p)
  rw [components, components, pieces, anchor_join p hname, hpieces, ← pieces]
  simp [hname.solid, Component.ofPiece, hname.down]

theorem names_join (p : Path) (hname : IsEntryName name) :
    (p.join name).names = p.names ++ [name] := by
  have hnames := filter_cut_drop_join (fun piece => piece ≠ []) rfl hname.whole
    (Nat.zero_le p.bytes.length)
  rw [names, names]
  simpa [hname.ne_nil] using hnames

/-- **A name that is joined is a step more.** -/
theorem steps_join (p : Path) (hname : IsEntryName name) :
    (p.join name).steps = p.names ++ [name] := by
  have hlast : (p.join name).bytes.getLast? ≠ some slash := by
    obtain ⟨front, hfront⟩ := suffix_join p name
    rw [← hfront, List.getLast?_append_of_ne_nil front hname.ne_nil]
    exact fun hlast => hname.whole (List.mem_of_getLast? hlast)
  rw [steps, if_neg hlast, names_join p hname]

/-! ## Paths below a path -/

/-- Below a path, its own spelling is in front. -/
theorem prefix_below (p : Path) (place : List Name) :
    p.bytes <+: (place.foldl join p).bytes := by
  induction place generalizing p with
  | nil => exact List.prefix_rfl
  | cons name names ih =>
    refine List.IsPrefix.trans ?_ (ih (p.join name))
    rw [join]
    split <;> exact List.prefix_append _ _

/-- **What is one more for a name that is joined** is as many more as there are names. -/
theorem append_below {α : Type} {f : Path → List α} {g : Name → α}
    (hjoin : ∀ p name, IsEntryName name → f (p.join name) = f p ++ [g name])
    (p : Path) (hplace : ∀ name ∈ place, IsEntryName name) :
    f (place.foldl join p) = f p ++ place.map g := by
  induction place generalizing p with
  | nil => exact (List.append_nil _).symm
  | cons name names ih =>
    obtain ⟨hname, hnames⟩ := List.forall_mem_cons.1 hplace
    rw [List.foldl_cons, ih _ hnames, hjoin p name hname, List.append_assoc, List.singleton_append,
      List.map_cons]

theorem components_below (p : Path) (hplace : ∀ name ∈ place, IsEntryName name) :
    (place.foldl join p).components = p.components ++ place.map .named :=
  append_below (fun p _ => components_join p) p hplace

theorem names_below (p : Path) (hplace : ∀ name ∈ place, IsEntryName name) :
    (place.foldl join p).names = p.names ++ place := by
  rw [append_below (g := id) (fun p _ => names_join p) p hplace, List.map_id]

/-- **Places in order lead to paths in order.** -/
theorem below_lt_below (p : Path) (hplace : ∀ name ∈ place, IsEntryName name)
    (hplace' : ∀ name ∈ place', IsEntryName name) (h : place < place') :
    place.foldl join p < place'.foldl join p := by
  rw [lt_iff, components_below p hplace, components_below p hplace']
  exact List.append_left_lt (List.map_lt (fun _ _ => Component.Before.named) h)

/-- **Different places lead to different paths.** -/
theorem below_injective (p : Path) (hplace : ∀ name ∈ place, IsEntryName name)
    (hplace' : ∀ name ∈ place', IsEntryName name)
    (h : place.foldl join p = place'.foldl join p) : place = place' := by
  have hcomponents := congrArg components h
  rw [components_below p hplace, components_below p hplace'] at hcomponents
  exact (List.map_inj_right fun _ _ => Component.named.inj).1 (List.append_cancel_left hcomponents)

end Path

end LaunchLine
