import LaunchLine.Proofs.JsonWords

/-!
# Proofs/JsonText — JSON text is read back as the value that was printed

What the printer writes of a value, the reader of the standard takes off the front of a text again,
if a word ends behind it: `IsRead`.  This holds of null, truth values, counts and texts, and of the
arrays and objects that are made of such values, `Value.IsPlain.isRead`; their items and members are
read one at a time.  So a whole text denotes the value that was printed,
`Value.IsPlain.parse?_render`.
-/

namespace LaunchLine.Json

/-! ## Values -/

/-- **A value that is read back** where it was printed, at any depth: it does not begin with a
character that is skipped or that closes an array, and if the reader is given two steps for each of
its characters, it takes the value off the front of the text and leaves the rest. -/
structure IsRead (value : Value) : Prop where
  opens : ∀ depth, ∃ c tail, renderAt depth value = c :: tail ∧
    Standard.isSkipped c = false ∧ c ≠ ']'
  read : ∀ depth fuel rest, AtBreak rest → 2 * (renderAt depth value).length ≤ fuel →
    standard.readValue fuel (renderAt depth value ++ rest) = some (value, rest)

/-- The reader is given a step at least. -/
theorem isRead_of_succ {value : Value}
    (opens : ∀ depth, ∃ c tail, renderAt depth value = c :: tail ∧
      Standard.isSkipped c = false ∧ c ≠ ']')
    (read : ∀ depth fuel rest, AtBreak rest → 2 * (renderAt depth value).length ≤ fuel + 1 →
      standard.readValue (fuel + 1) (renderAt depth value ++ rest) = some (value, rest)) :
    IsRead value := by
  refine ⟨opens, fun depth fuel rest hrest hfuel => ?_⟩
  obtain ⟨c, tail, htext, -⟩ := opens depth
  cases fuel with
  | zero => simp [htext] at hfuel
  | succ fuel => exact read depth fuel rest hrest hfuel

theorem isRead_null : IsRead .null :=
  isRead_of_succ (fun _ => ⟨'n', _, rfl, rfl, by decide⟩) fun _ _ _ _ _ => rfl

theorem isRead_bool (b : Bool) : IsRead (.bool b) := by
  cases b with
  | true => exact isRead_of_succ (fun _ => ⟨'t', _, rfl, rfl, by decide⟩) fun _ _ _ _ _ => rfl
  | false => exact isRead_of_succ (fun _ => ⟨'f', _, rfl, rfl, by decide⟩) fun _ _ _ _ _ => rfl

/-- A text that begins neither like a name nor like an array or an object begins with a string or a
number. -/
theorem readValue_of_head {text : List Char}
    (h : ∀ c ∈ ['n', 't', 'f', '[', '\x7b'], text.head? ≠ some c) (fuel : Nat) :
    standard.readValue (fuel + 1) text =
      match Standard.string? text with
      | some (some string, rest) => some (.string string, rest)
      | some (none, rest) => some (.garbled, rest)
      | none => (Standard.number? text).map fun (lexeme, rest) =>
          (.number (String.ofList lexeme), rest) := by
  rw [Dialect.readValue]
  · rfl
  all_goals
    rintro rest rfl
    exact h _ (by decide) rfl

theorem isRead_string (text : String) : IsRead (.string text) := by
  refine isRead_of_succ (fun _ => ⟨'\"', _, rfl, rfl, by decide⟩) fun depth fuel rest _ _ => ?_
  have hhead : ∀ c ∈ ['n', 't', 'f', '[', '\x7b'],
      (renderString text ++ rest).head? ≠ some c := by
    intro c hc hhead
    obtain rfl : '\"' = c := Option.some.inj hhead
    exact absurd hc (by decide)
  change standard.readValue (fuel + 1) (renderString text ++ rest) = _
  rw [readValue_of_head hhead, Standard.string?_renderString_append]

/-- A printed number begins with a digit. -/
theorem exists_digit_of_repr (n : Nat) :
    ∃ d ds, n.repr.toList = d :: ds ∧ isDigit d = true := by
  obtain ⟨d, ds, hdigits⟩ := List.exists_cons_of_ne_nil (Nat.toDigits_ne_nil (b := 10) (n := n))
  refine ⟨d, ds, ?_, Standard.isDigit_of_mem_toDigits (n := n) ?_⟩
  · rw [Nat.repr_eq_ofList_toDigits, String.toList_ofList, hdigits]
  · rw [hdigits]
    exact List.mem_cons_self

theorem isRead_ofNat (n : Nat) : IsRead (.ofNat n) := by
  obtain ⟨d, ds, htext, hd⟩ := exists_digit_of_repr n
  have hother : ∀ c, isDigit c = false → d ≠ c := by
    rintro c hc rfl
    exact Bool.false_ne_true (hc.symm.trans hd)
  have hskipped : Standard.isSkipped d = false := by
    simp [Standard.isSkipped, hother ' ' rfl, hother '\t' rfl, hother '\n' rfl, hother '\r' rfl]
  refine isRead_of_succ (fun _ => ⟨d, ds, htext, hskipped, hother _ rfl⟩)
    fun depth fuel rest hrest _ => ?_
  have hhead : ∀ c ∈ ['n', 't', 'f', '[', '\x7b'],
      (n.repr.toList ++ rest).head? ≠ some c := by
    have hletters : ∀ c ∈ ['n', 't', 'f', '[', '\x7b'], isDigit c = false := by
      simp only [List.forall_mem_cons]
      exact ⟨rfl, rfl, rfl, rfl, rfl, List.forall_mem_nil _⟩
    intro c hc hhead
    rw [htext] at hhead
    exact hother c (hletters c hc) (Option.some.inj hhead)
  have hstring : Standard.string? (n.repr.toList ++ rest) = none := by
    rw [htext, List.cons_append, Standard.string?]
    exact fun _ hquote => hother '\"' rfl (List.cons.inj hquote).1
  change standard.readValue (fuel + 1) (n.repr.toList ++ rest) = _
  rw [readValue_of_head hhead, hstring, Standard.number?_repr_append n hrest]
  dsimp only [Option.map_some]
  rw [String.ofList_toList]
  rfl

/-! ## Arrays and objects, step by step -/

section Step

variable {fuel : Nat} {text rest next behind : List Char} {value : Value}

/-- An array that holds something. -/
theorem readValue_array {items : List Value} (hskip : standard.skip text = some next)
    (hopen : next.head? ≠ some ']') (hitems : standard.readItems fuel next = some (items, behind)) :
    standard.readValue (fuel + 1) ('[' :: text) = some (.array items, behind) := by
  rw [Dialect.readValue, hskip]
  simp only [Option.bind_eq_bind, Option.bind_some]
  split
  · exact absurd rfl hopen
  · rw [hitems]
    rfl

/-- An object that holds something. -/
theorem readValue_object {members : List (Option String × Value)}
    (hskip : standard.skip text = some next) (hopen : next.head? ≠ some '\x7d')
    (hmembers : standard.readMembers fuel next = some (members, behind)) :
    standard.readValue (fuel + 1) ('\x7b' :: text)
      = some (Dialect.objectOf members, behind) := by
  rw [Dialect.readValue, hskip]
  simp only [Option.bind_eq_bind, Option.bind_some]
  split
  · exact absurd rfl hopen
  · rw [hmembers]
    rfl

/-- An item in front of the end of its array. -/
theorem readItems_last (hvalue : standard.readValue fuel text = some (value, rest))
    (hend : standard.skip rest = some (']' :: behind)) :
    standard.readItems (fuel + 1) text = some ([value], behind) := by
  rw [Dialect.readItems, hvalue]
  simp only [Option.bind_eq_bind, Option.bind_some, hend]

/-- An item in front of others. -/
theorem readItems_comma {others : List Value} {tail : List Char}
    (hvalue : standard.readValue fuel text = some (value, rest))
    (hcomma : standard.skip rest = some (',' :: tail)) (hskip : standard.skip tail = some next)
    (hothers : standard.readItems fuel next = some (others, behind)) :
    standard.readItems (fuel + 1) text = some (value :: others, behind) := by
  rw [Dialect.readItems, hvalue]
  simp only [Option.bind_eq_bind, Option.bind_some, hcomma, hskip, hothers]
  rfl

variable (key : String)

/-- A printed key, and the text of its value behind it. -/
theorem key?_renderString_append (hskip : standard.skip text = some text) :
    ∃ afterKey tail, standard.key? (renderString key ++ ':' :: ' ' :: text)
        = some (some key, afterKey) ∧
      standard.skip afterKey = some (':' :: tail) ∧ standard.skip tail = some text :=
  ⟨_, _, Standard.string?_renderString_append key _, Standard.skip_cons rfl _, hskip⟩

/-- A member in front of the end of its object. -/
theorem readMembers_last (hskip : standard.skip text = some text)
    (hvalue : standard.readValue fuel text = some (value, rest))
    (hend : standard.skip rest = some ('\x7d' :: behind)) :
    standard.readMembers (fuel + 1) (renderString key ++ ':' :: ' ' :: text)
      = some ([(some key, value)], behind) := by
  obtain ⟨afterKey, tail, hkey, hcolon, htail⟩ := key?_renderString_append key hskip
  rw [Dialect.readMembers, hkey]
  simp only [Option.bind_eq_bind, Option.bind_some, hcolon, htail, hvalue, hend]

/-- A member in front of others. -/
theorem readMembers_comma {others : List (Option String × Value)} {tail : List Char}
    (hskip : standard.skip text = some text)
    (hvalue : standard.readValue fuel text = some (value, rest))
    (hcomma : standard.skip rest = some (',' :: tail)) (hnext : standard.skip tail = some next)
    (hothers : standard.readMembers fuel next = some (others, behind)) :
    standard.readMembers (fuel + 1) (renderString key ++ ':' :: ' ' :: text)
      = some ((some key, value) :: others, behind) := by
  obtain ⟨afterKey, afterColon, hkey, hcolon, htail⟩ := key?_renderString_append key hskip
  rw [Dialect.readMembers, hkey]
  simp only [Option.bind_eq_bind, Option.bind_some, hcolon, htail, hvalue, hcomma, hnext, hothers]
  rfl

end Step

/-! ## Arrays and objects that were printed -/

theorem IsRead.skip_append {value : Value} (h : IsRead value) (depth : Nat) (rest : List Char) :
    standard.skip (renderAt depth value ++ rest) = some (renderAt depth value ++ rest) := by
  obtain ⟨c, tail, htext, hc, -⟩ := h.opens depth
  rw [htext]
  exact Standard.skip_cons hc _

theorem IsRead.skip_newline_append {value : Value} (h : IsRead value) (depth : Nat)
    (rest : List Char) :
    standard.skip (newline depth ++ (renderAt depth value ++ rest))
      = some (renderAt depth value ++ rest) := by
  obtain ⟨c, tail, htext, hc, -⟩ := h.opens depth
  rw [htext]
  exact Standard.skip_newline_append depth hc _

/-- **Printed items are read back**, to the end of their array. -/
theorem readItems_renderItems {item : Value} {items : List Value} (hitem : IsRead item)
    (hitems : ∀ i ∈ items, IsRead i) (depth outer fuel : Nat) (rest : List Char)
    (hfuel : 2 * ((renderAt depth item).length + (renderItems depth items).length) ≤ fuel) :
    standard.readItems (fuel + 1)
      (renderAt depth item ++ (renderItems depth items ++ (newline outer ++ ']' :: rest)))
        = some (item :: items, rest) := by
  induction items generalizing item fuel with
  | nil =>
    have hvalue := hitem.read depth fuel _ (atBreak_newline outer (']' :: rest))
      (by simpa [renderItems] using hfuel)
    exact readItems_last hvalue (Standard.skip_newline_append outer rfl rest)
  | cons next items ih =>
    obtain ⟨hnext, hitems⟩ := List.forall_mem_cons.1 hitems
    rw [renderItems] at hfuel ⊢
    simp only [List.length_append, List.length_cons] at hfuel
    obtain ⟨fuel, rfl⟩ : ∃ n, fuel = n + 1 := ⟨fuel - 1, by omega⟩
    have hvalue := hitem.read depth (fuel + 1) _
      (atBreak_comma (newline depth ++ (renderAt depth next ++
        (renderItems depth items ++ (newline outer ++ ']' :: rest))))) (by omega)
    have hothers := ih hnext hitems fuel (by omega)
    simp only [List.cons_append, List.append_assoc]
    exact readItems_comma hvalue (Standard.skip_cons rfl _) (hnext.skip_newline_append depth _)
      hothers

theorem skip_newline_append_key (depth : Nat) (key : String) (rest : List Char) :
    standard.skip (newline depth ++ (renderString key ++ rest)) = some (renderString key ++ rest) :=
  Standard.skip_newline_append depth rfl _

/-- **Printed members are read back**, to the end of their object. -/
theorem readMembers_renderMembers (key : String) {value : Value} {members : List (String × Value)}
    (hvalue : IsRead value) (hmembers : ∀ m ∈ members, IsRead m.2) (depth outer fuel : Nat)
    (rest : List Char)
    (hfuel : 2 * ((renderAt depth value).length + (renderMembers depth members).length) ≤ fuel) :
    standard.readMembers (fuel + 1)
      (renderString key ++ ':' :: ' ' :: (renderAt depth value ++
        (renderMembers depth members ++ (newline outer ++ '\x7d' :: rest))))
        = some (((key, value) :: members).map fun m => (some m.1, m.2), rest) := by
  induction members generalizing key value fuel with
  | nil =>
    have hread := hvalue.read depth fuel _ (atBreak_newline outer ('\x7d' :: rest))
      (by simpa [renderMembers] using hfuel)
    exact readMembers_last key (hvalue.skip_append depth _) hread
      (Standard.skip_newline_append outer rfl rest)
  | cons next members ih =>
    obtain ⟨hnext, hmembers⟩ := List.forall_mem_cons.1 hmembers
    rw [renderMembers] at hfuel ⊢
    simp only [List.length_append, List.length_cons] at hfuel
    obtain ⟨fuel, rfl⟩ : ∃ n, fuel = n + 1 := ⟨fuel - 1, by omega⟩
    have hread := hvalue.read depth (fuel + 1) _
      (atBreak_comma (newline depth ++ (renderString next.1 ++ ':' :: ' ' ::
        (renderAt depth next.2 ++ (renderMembers depth members ++
          (newline outer ++ '\x7d' :: rest)))))) (by omega)
    simp only [List.cons_append, List.append_assoc]
    exact readMembers_comma key (hvalue.skip_append depth _) hread (Standard.skip_cons rfl _)
      (skip_newline_append_key depth next.1 _) (ih next.1 hnext hmembers fuel (by omega))

/-- Keys that are texts make an object. -/
theorem objectOf_map_some (members : List (String × Value)) :
    Dialect.objectOf (members.map fun m => (some m.1, m.2)) = .object members := by
  have hkeys : (members.map fun m => (some m.1, m.2)).mapM
      (fun (x : Option String × Value) => x.1.map fun key => (key, x.2)) = some members := by
    induction members with
    | nil => rfl
    | cons m members ih =>
      rw [List.map_cons, List.mapM_cons, ih]
      rfl
  rw [Dialect.objectOf]
  split
  · next found hfound => rw [Option.some.inj (hfound.symm.trans hkeys)]
  · next hnone => cases hnone.symm.trans hkeys

theorem isRead_array {items : List Value} (h : ∀ i ∈ items, IsRead i) : IsRead (.array items) := by
  refine isRead_of_succ (fun depth => ?_) fun depth fuel rest _ hfuel => ?_
  · cases items <;> exact ⟨'[', _, rfl, rfl, by decide⟩
  · cases items with
    | nil => rfl
    | cons item items =>
      obtain ⟨hitem, hitems⟩ := List.forall_mem_cons.1 h
      rw [renderAt] at hfuel ⊢
      simp only [List.length_append, List.length_cons] at hfuel
      obtain ⟨fuel, rfl⟩ : ∃ n, fuel = n + 1 := ⟨fuel - 1, by omega⟩
      have hread := readItems_renderItems hitem hitems (depth + 1) depth fuel rest (by omega)
      have hskip := hitem.skip_newline_append (depth + 1)
        (renderItems (depth + 1) items ++ (newline depth ++ ']' :: rest))
      simp only [List.cons_append, List.append_assoc, List.nil_append]
      refine readValue_array hskip ?_ hread
      obtain ⟨c, tail, htext, -, hc⟩ := hitem.opens (depth + 1)
      rw [htext]
      exact fun hhead => hc (Option.some.inj hhead)

theorem isRead_object {members : List (String × Value)} (h : ∀ m ∈ members, IsRead m.2) :
    IsRead (.object members) := by
  refine isRead_of_succ (fun depth => ?_) fun depth fuel rest _ hfuel => ?_
  · cases members <;> exact ⟨'\x7b', _, rfl, rfl, by decide⟩
  · cases members with
    | nil => rfl
    | cons member members =>
      obtain ⟨key, value⟩ := member
      obtain ⟨hvalue, hmembers⟩ : IsRead value ∧ ∀ m ∈ members, IsRead m.2 :=
        List.forall_mem_cons.1 h
      rw [renderAt] at hfuel ⊢
      simp only [List.length_append, List.length_cons] at hfuel
      obtain ⟨fuel, rfl⟩ : ∃ n, fuel = n + 1 := ⟨fuel - 1, by omega⟩
      have hread := readMembers_renderMembers key hvalue hmembers (depth + 1) depth fuel rest
        (by omega)
      have hskip := skip_newline_append_key (depth + 1) key (':' :: ' ' ::
        (renderAt (depth + 1) value ++ (renderMembers (depth + 1) members ++
          (newline depth ++ '\x7d' :: rest))))
      simp only [List.cons_append, List.append_assoc, List.nil_append]
      rw [← objectOf_map_some]
      exact readValue_object hskip (by simp [renderString]) hread

/-! ## Whole texts -/

/-- **A plain value**: it is made of null, truth values, counts and texts. -/
inductive Value.IsPlain : Value → Prop
  | null : IsPlain .null
  | bool (b : Bool) : IsPlain (.bool b)
  | ofNat (n : Nat) : IsPlain (.ofNat n)
  | string (text : String) : IsPlain (.string text)
  | array {items : List Value} (plain : ∀ i ∈ items, IsPlain i) : IsPlain (.array items)
  | object {members : List (String × Value)} (plain : ∀ m ∈ members, IsPlain m.2) :
      IsPlain (.object members)

/-- **A plain value is read back** where it was printed. -/
theorem Value.IsPlain.isRead {value : Value} (h : value.IsPlain) : IsRead value := by
  induction h with
  | null => exact isRead_null
  | bool b => exact isRead_bool b
  | ofNat n => exact isRead_ofNat n
  | string text => exact isRead_string text
  | array _ ih => exact isRead_array ih
  | object _ ih => exact isRead_object ih

/-- **A printed text denotes the value that was printed.** -/
theorem Value.IsPlain.parse?_render {value : Value} (h : value.IsPlain) :
    standard.parse? value.render = some value := by
  have hskip := h.isRead.skip_append 0 []
  have hread := h.isRead.read 0 (2 * (renderAt 0 value).length + 2) [] atBreak_nil (by omega)
  rw [List.append_nil] at hskip hread
  rw [Dialect.parse?, Value.render, String.toList_ofList, hskip]
  simp only [Option.bind_eq_bind, Option.bind_some, hread]
  rfl

end LaunchLine.Json
