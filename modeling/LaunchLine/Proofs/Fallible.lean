/-!
# Proofs/Fallible — steps that may fail, taken apart

What was made of a result was made of some result, and a list whose elements were all read stays
readable when it gets shorter.
-/

namespace LaunchLine

variable {α β γ ε : Type}

/-- What was made of a result was made of some result. -/
theorem exists_of_map_eq_ok {f : α → β} {x : Except ε α} {b : β} (h : x.map f = .ok b) :
    ∃ a, x = .ok a ∧ f a = b := by
  cases x with
  | error e => cases h
  | ok a => exact ⟨a, rfl, Except.ok.inj h⟩

/-- Two steps that go through go through one by one. -/
theorem exists_of_bind_eq_ok {f : α → Except ε β} {x : Except ε α} {b : β}
    (h : (x >>= f) = .ok b) : ∃ a, x = .ok a ∧ f a = .ok b := by
  cases x with
  | error e => cases h
  | ok a => exact ⟨a, rfl, h⟩

section Lists

variable {f : α → Except ε β} {x : α} {xs xs' : List α} {ys : List β}

/-- All elements are read exactly if the first one is, and all others are. -/
theorem mapM_cons_eq_ok_iff :
    (x :: xs).mapM f = .ok ys ↔ ∃ y ys', f x = .ok y ∧ xs.mapM f = .ok ys' ∧ ys = y :: ys' := by
  rw [List.mapM_cons]
  constructor
  · intro h
    obtain ⟨y, hy, h⟩ := exists_of_bind_eq_ok h
    obtain ⟨ys', hys', h⟩ := exists_of_bind_eq_ok h
    exact ⟨y, ys', hy, hys', (Except.ok.inj h).symm⟩
  · rintro ⟨y, ys', hy, hys', rfl⟩
    rw [hy, hys']
    rfl

/-- Where every step goes through, all of them do. -/
theorem mapM_eq_ok_map {g : α → β} (h : ∀ x ∈ xs, f x = .ok (g x)) :
    xs.mapM f = .ok (xs.map g) := by
  induction xs with
  | nil => rfl
  | cons x xs ih =>
    obtain ⟨hx, hxs⟩ := List.forall_mem_cons.1 h
    exact mapM_cons_eq_ok_iff.2 ⟨g x, xs.map g, hx, ih hxs, rfl⟩

/-- **What each step keeps** is kept by all of them. -/
theorem map_eq_map_of_mapM {a : β → γ} {b : α → γ} (hkeeps : ∀ x y, f x = .ok y → a y = b x)
    (h : xs.mapM f = .ok ys) : ys.map a = xs.map b := by
  induction xs generalizing ys with
  | nil =>
    cases h
    rfl
  | cons x xs ih =>
    obtain ⟨y, ys', hy, hys', rfl⟩ := mapM_cons_eq_ok_iff.1 h
    rw [List.map_cons, List.map_cons, hkeeps x y hy, ih hys']

/-- **What can be read as a whole can be read in part**, and the results are a part as well. -/
theorem exists_sublist_of_mapM (hsub : xs'.Sublist xs) (h : xs.mapM f = .ok ys) :
    ∃ ys', xs'.mapM f = .ok ys' ∧ ys'.Sublist ys := by
  induction hsub generalizing ys with
  | slnil => exact ⟨ys, h, .refl ys⟩
  | cons x _ ih =>
    obtain ⟨y, ys', -, hys', rfl⟩ := mapM_cons_eq_ok_iff.1 h
    obtain ⟨zs, hzs, hsub⟩ := ih hys'
    exact ⟨zs, hzs, hsub.cons y⟩
  | cons_cons x _ ih =>
    obtain ⟨y, ys', hy, hys', rfl⟩ := mapM_cons_eq_ok_iff.1 h
    obtain ⟨zs, hzs, hsub⟩ := ih hys'
    exact ⟨y :: zs, mapM_cons_eq_ok_iff.2 ⟨y, zs, hy, hzs, rfl⟩, hsub.cons_cons y⟩

end Lists

end LaunchLine
