import LaunchLine.Proofs.Joining
import LaunchLine.Proofs.LossyText
import LaunchLine.Proofs.PanicLines
import LaunchLine.Proofs.ScopeFiles

/-!
# Proofs/ReportLine — a line of a report tells which violation it reports

A line shows the path of a file, a number and perhaps a call.  A path may hold anything, also what
looks like a number or a call; but a number is digits only, so a number in front of a line ends at
its first blank, and one behind a path begins at the last colon.  What kind of violation it is shows
at the end of the line: all files that are looked at have paths that end with `.rs`, and no call
ends like that.  So two lines are the same exactly if they show the same, `message_tells_violation`.
-/

namespace LaunchLine

/-! ## Numbers in a text -/

section Cut

variable {α : Type} {as bs cs ds : List α} {x : α}

/-- **A list is cut in one way at the first** of what is not in front. -/
theorem append_cons_inj (has : x ∉ as) (hcs : x ∉ cs) (h : as ++ x :: bs = cs ++ x :: ds) :
    as = cs ∧ bs = ds := by
  -- if one front went on behind the other one, it would hold what it is cut at
  obtain ⟨es, rfl, hes⟩ | ⟨es, rfl, hes⟩ := List.append_eq_append_iff.1 h
  · cases es with
    | nil => exact ⟨(List.append_nil as).symm, (List.cons.inj hes).2⟩
    | cons e es =>
      obtain ⟨rfl, -⟩ := List.cons.inj hes
      exact absurd (List.mem_append_right as List.mem_cons_self) hcs
  · cases es with
    | nil => exact ⟨List.append_nil cs, (List.cons.inj hes).2.symm⟩
    | cons e es =>
      obtain ⟨rfl, -⟩ := List.cons.inj hes
      exact absurd (List.mem_append_right cs List.mem_cons_self) has

/-- **A list is cut in one way at the last** of what is not behind. -/
theorem append_cons_inj_of_notMem_right (hbs : x ∉ bs) (hds : x ∉ ds)
    (h : as ++ x :: bs = cs ++ x :: ds) : as = cs ∧ bs = ds := by
  have hreverse := congrArg List.reverse h
  simp only [List.reverse_append, List.reverse_cons, List.append_assoc, List.singleton_append]
    at hreverse
  obtain ⟨hbehind, hfront⟩ :=
    append_cons_inj (mt List.mem_reverse.1 hbs) (mt List.mem_reverse.1 hds) hreverse
  exact ⟨List.reverse_injective hfront, List.reverse_injective hbehind⟩

end Cut

/-- A printed number holds digits only. -/
theorem notMem_repr {c : Char} (hc : c.isDigit = false) (n : Nat) : c ∉ n.repr.toList := by
  rw [Nat.repr_eq_ofList_toDigits, String.toList_ofList]
  intro hmem
  have hdigit := Nat.isDigit_of_mem_toDigits (by decide) (by decide) hmem
  exact Bool.false_ne_true (hc.symm.trans hdigit)

/-- **No two numbers are printed alike.** -/
theorem repr_toList_injective : Function.Injective fun n : Nat => n.repr.toList := by
  intro n m h
  simp only [Nat.repr_eq_ofList_toDigits, String.toList_ofList] at h
  rw [← Nat.ofDigitChars_ten_toDigits (n := n), h, Nat.ofDigitChars_ten_toDigits]

/-! ## What a line shows -/

/-- A path that is shown with `.rs` at its end. -/
def Path.ShowsAsSource (p : Path) : Prop :=
  ".rs".toList <:+ p.display.toList

instance (p : Path) : Decidable p.ShowsAsSource :=
  inferInstanceAs (Decidable (".rs".toList <:+ p.display.toList))

namespace Panic

/-- The last character tells which call it is. -/
theorem getLast?_text_injective :
    Function.Injective fun call : Panic => call.text.toList.getLast? := by
  rintro (_ | _) (_ | _) h
  · rfl
  · exact absurd h (by decide)
  · exact absurd h (by decide)
  · rfl

/-- No call ends like the path of a source file. -/
theorem getLast?_text_ne (call : Panic) : call.text.toList.getLast? ≠ some 's' := by
  cases call <;> decide

theorem getLast?_append_text (front : List Char) (call : Panic) :
    (front ++ call.text.toList).getLast? = call.text.toList.getLast? := by
  cases call <;> exact List.getLast?_append_of_ne_nil front (by decide)

/-- **A call at the end of a line** is told from the other one. -/
theorem append_text_inj {front front' : List Char} {call other : Panic}
    (h : front ++ call.text.toList = front' ++ other.text.toList) :
    front = front' ∧ call = other := by
  have hlast : call.text.toList.getLast? = other.text.toList.getLast? := by
    rw [← getLast?_append_text front, h, getLast?_append_text]
  obtain rfl := getLast?_text_injective hlast
  exact ⟨List.append_cancel_right h, rfl⟩

end Panic

namespace Violation

variable {v w : Violation} {p q : Path} {n m : Nat} {call other : Panic}

/-- The file that breaks the rule. -/
def path : Violation → Path
  | overlong path _ => path
  | panicking path .. => path

@[simp] theorem path_overlong (p : Path) (n : Nat) : (overlong p n).path = p := rfl

@[simp] theorem path_panicking (p : Path) (n : Nat) (call : Panic) :
    (panicking p n call).path = p := rfl

/-- **Two violations that show alike**: the same rule is broken, and the path as it is shown, the
number and the call are the same. -/
inductive ShowsLike : Violation → Violation → Prop
  | overlong {p q : Path} {n : Nat} (path : p.display = q.display) :
      ShowsLike (.overlong p n) (.overlong q n)
  | panicking {p q : Path} {n : Nat} {call : Panic} (path : p.display = q.display) :
      ShowsLike (.panicking p n call) (.panicking q n call)

theorem ShowsLike.message_eq (h : v.ShowsLike w) : v.message = w.message := by
  cases h with
  | overlong path => rw [message, message, path]
  | panicking path => rw [message, message, path]

/-! ## Lines taken apart -/

theorem toList_message_overlong (p : Path) (n : Nat) :
    (overlong p n).message.toList =
      n.repr.toList ++ ' ' :: ("lines -> ".toList ++ p.display.toList) := by
  rw [message, String.toList_append, String.toList_append, List.append_assoc]
  rfl

theorem toList_message_panicking (p : Path) (n : Nat) (call : Panic) :
    (panicking p n call).message.toList =
      p.display.toList ++ ':' :: n.repr.toList ++ ": ".toList ++ call.text.toList := by
  simp only [message, String.toList_append, List.append_assoc]
  rfl

/-- **The number in front ends at the first blank.** -/
theorem eq_of_message_overlong (h : (overlong p n).message = (overlong q m).message) :
    p.display = q.display ∧ n = m := by
  have hlist := congrArg String.toList h
  rw [toList_message_overlong, toList_message_overlong] at hlist
  obtain ⟨hnumber, hrest⟩ := append_cons_inj (notMem_repr rfl n) (notMem_repr rfl m) hlist
  exact ⟨String.toList_inj.1 (List.append_cancel_left hrest), repr_toList_injective hnumber⟩

/-- **The number in front of the call begins at the last colon** but one. -/
theorem eq_of_message_panicking
    (h : (panicking p n call).message = (panicking q m other).message) :
    p.display = q.display ∧ n = m ∧ call = other := by
  have hlist := congrArg String.toList h
  rw [toList_message_panicking, toList_message_panicking] at hlist
  obtain ⟨hfront, hcall⟩ := Panic.append_text_inj hlist
  obtain ⟨hpath, hnumber⟩ := append_cons_inj_of_notMem_right (notMem_repr rfl n) (notMem_repr rfl m)
    (List.append_cancel_right hfront)
  exact ⟨String.toList_inj.1 hpath, repr_toList_injective hnumber, hcall⟩

/-- **A line that ends like a source file** shows no call. -/
theorem message_overlong_ne (hp : p.ShowsAsSource) :
    (overlong p n).message ≠ (panicking q m call).message := by
  intro h
  obtain ⟨front, hfront⟩ := hp
  have hoverlong : (overlong p n).message.toList.getLast? = some 's' := by
    rw [toList_message_overlong, ← hfront, ← List.append_assoc, ← List.cons_append,
      ← List.append_assoc, List.getLast?_append_of_ne_nil _ (by decide)]
    rfl
  rw [h, toList_message_panicking, Panic.getLast?_append_text] at hoverlong
  exact call.getLast?_text_ne hoverlong

/-- **Lines of source files are the same exactly if they show the same.** -/
theorem message_eq_iff (hv : v.path.ShowsAsSource) (hw : w.path.ShowsAsSource) :
    v.message = w.message ↔ v.ShowsLike w := by
  refine ⟨fun h => ?_, fun h => h.message_eq⟩
  cases v with
  | overlong p n =>
    cases w with
    | overlong q m =>
      obtain ⟨hpath, rfl⟩ := eq_of_message_overlong h
      exact .overlong hpath
    | panicking q m call =>
      rw [path_overlong] at hv
      exact absurd h (message_overlong_ne hv)
  | panicking p n call =>
    cases w with
    | overlong q m =>
      rw [path_overlong] at hw
      exact absurd h.symm (message_overlong_ne hw)
    | panicking q m other =>
      obtain ⟨hpath, rfl, rfl⟩ := eq_of_message_panicking h
      exact .panicking hpath

end Violation

/-! ## The paths of the files that are looked at -/

namespace Scope

variable {scope : Scope} {fs : FileSystem} {root : Path}

/-- The name of a file is at the end of its path. -/
theorem suffix_pathOf {place : List Name} {name : Name} (h : place.getLast? = some name) :
    name <:+ (scope.pathOf root place).bytes := by
  obtain ⟨above, rfl⟩ := List.getLast?_eq_some_iff.1 h
  rw [pathOf, List.foldl_append]
  exact Path.suffix_join _ name

theorem isSource_of_mem_placedFiles {place : List Name} {content : Bytes}
    (h : (place, content) ∈ scope.placedFiles fs root) : isSource place = true := by
  rw [placedFiles] at h
  split at h
  · cases h
  · rw [List.mem_mergeSort, List.mem_filter, Bool.and_eq_true] at h
    exact h.2.1

/-- **All files that are looked at show as sources**, whatever else is in their paths. -/
theorem showsAsSource_of_mem_files {file : Path × Bytes} (h : file ∈ scope.files fs root) :
    file.1.ShowsAsSource := by
  rw [files_eq_map] at h
  obtain ⟨⟨place, content⟩, hplaced, rfl⟩ := List.mem_map.1 h
  obtain ⟨stem, -, hlast⟩ := isSource_eq_true_iff.1 (isSource_of_mem_placedFiles hplaced)
  exact Utf8.suffix_decodeLossy ((List.suffix_append stem _).trans (suffix_pathOf hlast))

end Scope

namespace SourceRules

variable {fs : FileSystem} {root : Path} {found : List Violation}

/-- The texts that are read are those of the files of the scope. -/
theorem map_fst_of_sources {scope : Scope} {texts : List (Path × String)}
    (h : sources scope fs root = .ok texts) :
    texts.map Prod.fst = (scope.files fs root).map Prod.fst := by
  rw [sources] at h
  refine map_eq_map_of_mapM (fun file text hread => ?_) h
  obtain ⟨_, -, rfl⟩ := exists_of_map_eq_ok hread
  rfl

theorem showsAsSource_of_mem_sources {scope : Scope} {texts : List (Path × String)}
    (h : sources scope fs root = .ok texts) {path : Path} {text : String}
    (hmem : (path, text) ∈ texts) : path.ShowsAsSource := by
  have hpath : path ∈ (scope.files fs root).map Prod.fst :=
    map_fst_of_sources h ▸ List.mem_map_of_mem (f := Prod.fst) hmem
  obtain ⟨file, hfile, rfl⟩ := List.mem_map.1 hpath
  exact Scope.showsAsSource_of_mem_files hfile

theorem showsAsSource_of_mem_overlong {limit : Nat} (h : overlong fs root limit = .ok found) :
    ∀ v ∈ found, v.path.ShowsAsSource := by
  obtain ⟨texts, hsources, rfl⟩ := exists_of_map_eq_ok h
  intro v hv
  simp only [List.mem_map, List.mem_mergeSort, List.mem_filter] at hv
  obtain ⟨_, ⟨⟨⟨path, text⟩, htext, rfl⟩, -⟩, rfl⟩ := hv
  rw [Violation.path_overlong]
  exact showsAsSource_of_mem_sources hsources htext

theorem showsAsSource_of_mem_panicsInLibrary (h : panicsInLibrary fs root = .ok found) :
    ∀ v ∈ found, v.path.ShowsAsSource := by
  obtain ⟨texts, hsources, rfl⟩ := exists_of_map_eq_ok h
  intro v hv
  obtain ⟨⟨path, text⟩, htext, hpanics⟩ := List.mem_flatMap.1 hv
  simp only [panicsIn_eq_map] at hpanics
  obtain ⟨hit, -, rfl⟩ := List.mem_map.1 hpanics
  rw [Violation.path_panicking]
  exact showsAsSource_of_mem_sources hsources htext

/-- **A line of a report tells which violation it reports.**  All files that the rules look at have
paths that are shown with `.rs` at the end, in whatever tree and whatever the limit; and of two
violations in such files the lines are the same exactly if they show alike: the same rule, the same
text of the path, the same number and the same call. -/
theorem message_tells_violation :
    (∀ fs root limit found, overlong fs root limit = .ok found →
      ∀ v ∈ found, v.path.ShowsAsSource) ∧
    (∀ fs root found, panicsInLibrary fs root = .ok found → ∀ v ∈ found, v.path.ShowsAsSource) ∧
    ∀ v w : Violation, v.path.ShowsAsSource → w.path.ShowsAsSource →
      (v.message = w.message ↔ v.ShowsLike w) :=
  ⟨fun _ _ _ _ h => showsAsSource_of_mem_overlong h,
    fun _ _ _ h => showsAsSource_of_mem_panicsInLibrary h,
    fun _ _ hv hw => Violation.message_eq_iff hv hw⟩

/-- A file whose name is no text, and looks like the end of another line, is too long.  Its line is
that of a file whose name shows alike, and not that of any call in either. -/
theorem message_tells_violation_lookalike :
    let fs : FileSystem := ⟨.directory [(Utf8.encode "src", .directory
      [(0xFF :: Utf8.encode ":2: .expect(.rs", .file (Utf8.encode "f();\ng();"))])], []⟩
    let p : Path := ⟨Utf8.encode "/src/" ++ 0xFF :: Utf8.encode ":2: .expect(.rs"⟩
    let q : Path := ⟨Utf8.encode "/src/" ++ 0xFE :: Utf8.encode ":2: .expect(.rs"⟩
    overlong fs (.ofString "/") 1 = .ok [.overlong p 2] ∧
    p.ShowsAsSource ∧ q.ShowsAsSource ∧ p ≠ q ∧
    (Violation.overlong p 2).message = (Violation.overlong q 2).message ∧
    ∀ n call, (Violation.overlong p 2).message ≠ (Violation.panicking q n call).message := by
  intro fs p q
  have hfound : overlong fs (.ofString "/") 1 = .ok [.overlong p 2] := by decide +kernel
  have hp : p.ShowsAsSource :=
    message_tells_violation.1 fs (.ofString "/") 1 [.overlong p 2] hfound (.overlong p 2)
      (List.mem_singleton_self _)
  have hq : q.ShowsAsSource := by decide
  have hshown : p.display = q.display := by decide
  refine ⟨hfound, hp, hq, by decide, ?_, fun n call h => ?_⟩
  · exact (message_tells_violation.2.2 (.overlong p 2) (.overlong q 2) hp hq).2 (.overlong hshown)
  · cases (message_tells_violation.2.2 (.overlong p 2) (.panicking q n call) hp hq).1 h

/-- Where a path is not shown with `.rs` at the end, one line may report either. -/
example : (Violation.overlong (.ofString "a.rs:1: .unwrap()") 5).message =
    (Violation.panicking (.ofString "5 lines -> a.rs") 1 .unwrap).message := by
  decide

end SourceRules

end LaunchLine
