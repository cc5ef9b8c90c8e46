import LaunchLine.Files.Path
import Mathlib.Data.List.DropRight

/-!
# Proofs/Ancestors — which paths are above a path

What `Path.ancestors` lists is said here without walking: an ancestor is what is left when pieces
are dropped from the end.  Each is listed (`mem_ancestors_iff`), and each is longer than those
behind it (`pairwise_ancestors`), so that of two ancestors the longer one is the nearer.
-/

namespace LaunchLine.Path

/-- **What pieces leave** when some are dropped from the end: one of these at least is not void, and
no void piece is left at the end. -/
structure Leave (pieces kept : List Bytes) : Prop where
  dropped : ∃ dropped, pieces = kept ++ dropped ∧ ∃ piece ∈ dropped, isVoid piece = false
  ended : ∀ piece ∈ kept.getLast?, isVoid piece = false

/-- **The textual ancestors of a path**: the path itself, its anchor with what its pieces leave,
and, where the anchor is a dot, the empty path. -/
inductive IsAncestorOf : Path → Path → Prop
  | self (p : Path) : IsAncestorOf p p
  | stem {p : Path} {kept : List Bytes} (leave : Leave p.pieces kept) :
      IsAncestorOf ⟨p.anchor ++ [slash].intercalate kept⟩ p
  | here {p : Path} (dotted : p.anchor = [dot]) : IsAncestorOf ⟨[]⟩ p

/-! ## What pieces leave -/

section Leave

variable {pieces kept dropped : List Bytes} {piece : Bytes}

theorem not_isVoid_getLast?_rdropWhile (pieces : List Bytes) :
    ∀ piece ∈ (pieces.rdropWhile isVoid).getLast?, isVoid piece = false := by
  intro piece hmem
  obtain ⟨hne, rfl⟩ := List.mem_getLast?_eq_getLast hmem
  exact eq_false_of_ne_true (List.rdropWhile_last_not isVoid pieces hne)

/-- Void pieces at the end are dropped up to the last piece that is not void. -/
theorem rdropWhile_append_of_isVoid (hvoid : ∀ piece ∈ dropped, isVoid piece = true)
    (hended : ∀ piece ∈ kept.getLast?, isVoid piece = false) :
    (kept ++ dropped).rdropWhile isVoid = kept := by
  induction dropped using List.reverseRecOn with
  | nil =>
    rw [List.append_nil, List.rdropWhile_eq_self_iff]
    intro hne
    rw [hended _ (List.getLast?_eq_some_getLast hne)]
    exact Bool.false_ne_true
  | append_singleton dropped piece ih =>
    rw [← List.append_assoc, List.rdropWhile_concat_pos _ _ _ (hvoid piece (by simp))]
    exact ih fun piece hmem => hvoid piece (List.mem_append_left _ hmem)

theorem not_leave_nil : ¬ Leave [] kept := by
  rintro ⟨⟨dropped, hparts, hsolid⟩, -⟩
  obtain rfl := (List.append_eq_nil_iff.1 hparts.symm).2
  simp at hsolid

theorem Leave.concat (h : Leave pieces kept) (piece : Bytes) : Leave (pieces ++ [piece]) kept := by
  obtain ⟨⟨dropped, rfl, solid, hmem, hsolid⟩, hended⟩ := h
  exact ⟨⟨dropped ++ [piece], List.append_assoc _ _ _, solid, List.mem_append_left _ hmem, hsolid⟩,
    hended⟩

theorem leave_concat_rdropWhile (h : isVoid piece = false) :
    Leave (pieces ++ [piece]) (pieces.rdropWhile isVoid) := by
  obtain ⟨voids, hvoids⟩ := List.rdropWhile_prefix isVoid pieces
  have hparts : pieces ++ [piece] = pieces.rdropWhile isVoid ++ (voids ++ [piece]) := by
    rw [← List.append_assoc, hvoids]
  exact ⟨⟨voids ++ [piece], hparts, piece, List.mem_concat_self, h⟩,
    not_isVoid_getLast?_rdropWhile pieces⟩

/-- If all that is dropped in front of the last piece is void, that piece is not. -/
theorem Leave.of_concat (h : Leave (pieces ++ [piece]) kept) :
    Leave pieces kept ∨ isVoid piece = false ∧ kept = pieces.rdropWhile isVoid := by
  obtain ⟨⟨dropped, hparts, hsolid⟩, hended⟩ := h
  obtain rfl | ⟨dropped, last, rfl⟩ := List.eq_nil_or_concat dropped
  · simp at hsolid
  rw [List.concat_eq_append, ← List.append_assoc] at hparts
  obtain ⟨rfl, hlast⟩ := List.append_inj' hparts rfl
  obtain rfl := List.singleton_inj.1 hlast
  by_cases hmore : ∃ piece ∈ dropped, isVoid piece = false
  · exact .inl ⟨⟨dropped, rfl, hmore⟩, hended⟩
  · have hpiece : isVoid piece = false := by
      simpa [or_and_right, exists_or, hmore] using hsolid
    have hvoid : ∀ piece ∈ dropped, isVoid piece = true := by
      simpa using hmore
    exact .inr ⟨hpiece, (rdropWhile_append_of_isVoid hvoid hended).symm⟩

/-- With one piece more at the end, there is that piece to drop. -/
theorem leave_concat_iff : Leave (pieces ++ [piece]) kept ↔
    Leave pieces kept ∨ isVoid piece = false ∧ kept = pieces.rdropWhile isVoid := by
  refine ⟨Leave.of_concat, ?_⟩
  rintro (h | ⟨hsolid, rfl⟩)
  exacts [h.concat piece, leave_concat_rdropWhile hsolid]

theorem leave_rdropWhile_iff : Leave (pieces.rdropWhile isVoid) kept ↔ Leave pieces kept := by
  induction pieces using List.reverseRecOn with
  | nil => rfl
  | append_singleton pieces piece ih =>
    cases hvoid : isVoid piece with
    | true => simp [List.rdropWhile_concat_pos _ _ _ hvoid, ih, leave_concat_iff, hvoid]
    | false => rw [List.rdropWhile_concat_neg _ _ _ (by simp [hvoid])]

theorem length_intercalate_pos (h : ∃ piece ∈ dropped, isVoid piece = false) :
    0 < ([slash].intercalate dropped).length := by
  obtain ⟨piece, hmem, hsolid⟩ := h
  match dropped, hmem with
  | [_], hmem =>
    obtain rfl := List.mem_singleton.1 hmem
    cases piece with
    | nil => cases hsolid
    | cons => simp
  | _ :: _ :: _, _ =>
    rw [List.intercalate_cons_cons]
    simp only [List.length_append, List.length_singleton]
    omega

theorem length_intercalate_lt_append (kept : List Bytes)
    (h : ∃ piece ∈ dropped, isVoid piece = false) :
    ([slash].intercalate kept).length < ([slash].intercalate (kept ++ dropped)).length := by
  match kept with
  | [] => exact length_intercalate_pos h
  | [piece] =>
    obtain ⟨solid, hmem, -⟩ := h
    obtain ⟨first, others, rfl⟩ := List.exists_cons_of_ne_nil (List.ne_nil_of_mem hmem)
    rw [List.singleton_append, List.intercalate_cons_cons, List.intercalate_singleton]
    simp only [List.length_append, List.length_singleton]
    omega
  | first :: next :: kept =>
    have ih := length_intercalate_lt_append (next :: kept) h
    rw [List.cons_append, List.cons_append, List.intercalate_cons_cons, List.intercalate_cons_cons]
    rw [List.cons_append] at ih
    simp only [List.length_append]
    omega

/-- What is left has fewer bytes. -/
theorem Leave.length_lt (h : Leave pieces kept) :
    ([slash].intercalate kept).length < ([slash].intercalate pieces).length := by
  obtain ⟨⟨dropped, rfl, hsolid⟩, -⟩ := h
  exact length_intercalate_lt_append kept hsolid

end Leave

/-! ## The paths above an anchor and pieces -/

section Above

variable {anchor : Bytes} {pieces : List Bytes} {d : Path}

theorem above_concat (anchor : Bytes) (pieces : List Bytes) (piece : Bytes) :
    above anchor (pieces ++ [piece]).reverse =
      if isVoid piece then above anchor pieces.reverse
      else ⟨anchor ++ [slash].intercalate (pieces.rdropWhile isVoid)⟩
        :: above anchor pieces.reverse := by
  simp [above, ofPieces, List.rdropWhile]

theorem mem_above_iff : d ∈ above anchor pieces.reverse ↔
    (anchor = [dot] ∧ d = ⟨[]⟩) ∨
      ∃ kept, Leave pieces kept ∧ d = ⟨anchor ++ [slash].intercalate kept⟩ := by
  induction pieces using List.reverseRecOn with
  | nil => by_cases hdot : anchor = [dot] <;> simp [above, hdot, not_leave_nil]
  | append_singleton pieces piece ih =>
    rw [above_concat]
    cases hvoid : isVoid piece with
    | true => simp [ih, leave_concat_iff, hvoid]
    | false => simp [ih, leave_concat_iff, hvoid, or_and_right, exists_or, or_left_comm, or_comm]

/-- All paths above are shorter. -/
theorem length_lt_of_mem_above (h : d ∈ above anchor pieces.reverse) :
    d.bytes.length < (anchor ++ [slash].intercalate pieces).length := by
  obtain ⟨rfl, rfl⟩ | ⟨kept, hleave, rfl⟩ := mem_above_iff.1 h
  · exact Nat.succ_pos _
  · rw [List.length_append, List.length_append]
    exact Nat.add_lt_add_left hleave.length_lt _

theorem pairwise_above (anchor : Bytes) (pieces : List Bytes) :
    (above anchor pieces.reverse).Pairwise fun near far =>
      far.bytes.length < near.bytes.length := by
  induction pieces using List.reverseRecOn with
  | nil => by_cases hdot : anchor = [dot] <;> simp [above, hdot]
  | append_singleton pieces piece ih =>
    rw [above_concat]
    split
    · exact ih
    · refine List.pairwise_cons.2 ⟨fun d hd => ?_, ih⟩
      have hd' : d ∈ above anchor (pieces.rdropWhile isVoid).reverse := by
        simpa only [mem_above_iff, leave_rdropWhile_iff] using hd
      exact length_lt_of_mem_above hd'

end Above

/-! ## The ancestors -/

theorem anchor_append_pieces (p : Path) : p.anchor ++ [slash].intercalate p.pieces = p.bytes := by
  rw [pieces, intercalate_cut]
  refine List.prefix_iff_eq_append.1 ?_
  rw [anchor]
  cases p.bytes with
  | nil => exact List.prefix_rfl
  | cons b rest =>
    dsimp only
    split
    · next hb => simp [hb]
    · split
      · next hb => simp_all
      · exact List.nil_prefix

/-- **The ancestors are listed**, and nothing else is. -/
theorem mem_ancestors_iff {p d : Path} : d ∈ p.ancestors ↔ d.IsAncestorOf p := by
  rw [ancestors, List.mem_cons, mem_above_iff]
  constructor
  · rintro (rfl | ⟨hdot, rfl⟩ | ⟨kept, hleave, rfl⟩)
    exacts [.self d, .here hdot, .stem hleave]
  · rintro (_ | hleave | hdot)
    exacts [.inl rfl, .inr (.inr ⟨_, hleave, rfl⟩), .inr (.inl ⟨hdot, rfl⟩)]

/-- **The nearest comes first**: of two ancestors that is the longer one. -/
theorem pairwise_ancestors (p : Path) :
    p.ancestors.Pairwise fun near far => far.bytes.length < near.bytes.length := by
  refine List.pairwise_cons.2 ⟨fun d hd => ?_, pairwise_above p.anchor p.pieces⟩
  rw [← anchor_append_pieces p]
  exact length_lt_of_mem_above hd

theorem anchor_of_isAbsolute {p : Path} (h : p.isAbsolute = true) : p.anchor = [slash] := by
  obtain ⟨rest, hbytes⟩ := List.head?_eq_some_iff.1 (eq_of_beq h)
  simp [anchor, hbytes]

/-- A first piece is empty only where nothing or a slash comes first. -/
theorem head_eq_of_cut_eq_nil_cons {bs : Bytes} {pieces : List Bytes} (h : cut bs = [] :: pieces) :
    bs = [] ∨ bs.head? = some slash := by
  fun_cases cut bs with
  | case1 => exact .inl rfl
  | case2 => exact .inr rfl
  | case3 b rest hb hcut => simp [cut, hb, hcut] at h
  | case4 b rest hb first others hcut => simp [cut, hb, hcut] at h

/-- Where nothing stands for an anchor, the first piece is not void. -/
theorem exists_not_isVoid_of_anchor_eq_nil {p : Path} (hne : p.bytes ≠ []) (h : p.anchor = []) :
    ∃ piece ∈ p.pieces, isVoid piece = false := by
  obtain ⟨b, rest, hbytes⟩ := List.exists_cons_of_ne_nil hne
  obtain ⟨first, others, hcut⟩ := List.exists_cons_of_ne_nil (cut_ne_nil rest)
  have hslash : b ≠ slash := by
    rintro rfl
    simp [anchor, hbytes] at h
  have hpieces : p.pieces = (b :: first) :: others := by
    simp [pieces, h, hbytes, cut, hslash, hcut]
  refine ⟨b :: first, hpieces ▸ List.mem_cons_self, eq_false_of_ne_true fun hvoid => ?_⟩
  obtain ⟨rfl, rfl⟩ : b = dot ∧ first = [] := by simpa [isVoid] using hvoid
  simp [anchor, hbytes, hslash, head_eq_of_cut_eq_nil_cons hcut] at h

theorem anchor_of_not_isAbsolute {p : Path} (h : p.isAbsolute = false) :
    p.anchor = [dot] ∨ p.anchor = [] := by
  rw [anchor]
  split
  · exact .inr rfl
  · next b rest hbytes =>
    have hslash : b ≠ slash := by simpa [isAbsolute, hbytes] using h
    rw [if_neg hslash]
    split
    exacts [.inl rfl, .inr rfl]

/-- **A relative path ends with the empty one**, and only a relative path does. -/
theorem empty_isAncestorOf_iff {p : Path} : IsAncestorOf ⟨[]⟩ p ↔ p.isAbsolute = false := by
  constructor
  · intro h
    by_contra habsolute
    have hanchor := anchor_of_isAbsolute (eq_true_of_ne_false habsolute)
    generalize hempty : (⟨[]⟩ : Path) = d at h
    cases h with
    | self => exact habsolute (hempty ▸ rfl)
    | stem => simp [hanchor] at hempty
    | here hdot => rw [hanchor] at hdot; exact absurd hdot (by decide)
  · intro hrelative
    by_cases hne : p.bytes = []
    · exact (congrArg Path.mk hne : p = ⟨[]⟩) ▸ .self p
    obtain hdot | hnone := anchor_of_not_isAbsolute hrelative
    · exact .here hdot
    · have hleave : Leave p.pieces [] :=
        ⟨⟨p.pieces, rfl, exists_not_isVoid_of_anchor_eq_nil hne hnone⟩, by simp⟩
      simpa [hnone] using IsAncestorOf.stem hleave

end LaunchLine.Path
