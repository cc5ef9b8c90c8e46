import LaunchLine.Proofs.DialectWords

/-!
# Proofs/Dialects — documents of the standard in the other dialect

A document of standard JSON that JSON5 can read as well denotes the same value in both dialects, but
that characters of its texts may sink: `parse?_agree`.  Both readers go through the document step by
step, by the same words.
-/

namespace LaunchLine.Json

variable {d : Dialect} {fuel : Nat} {text rest rest' : List Char} {value value' : Value}

/-- **A value that may sink**: the same value, but that characters of its texts and keys may sink.
-/
inductive Value.SinksTo : Value → Value → Prop
  | null : SinksTo .null .null
  | bool (b : Bool) : SinksTo (.bool b) (.bool b)
  | number (lexeme : String) : SinksTo (.number lexeme) (.number lexeme)
  | garbled : SinksTo .garbled .garbled
  | string {text text' : String} (h : TextSinksTo text text') :
      SinksTo (.string text) (.string text')
  | array {items items' : List Value} (h : List.Forall₂ SinksTo items items') :
      SinksTo (.array items) (.array items')
  | object {members members' : List (String × Value)}
      (h : List.Forall₂ (Prod.RProd TextSinksTo SinksTo) members members') :
      SinksTo (.object members) (.object members')

section Rel

variable {α β γ δ : Type} {r : α → β → Prop} {q : γ → δ → Prop}

theorem cases_of_rel {a? : Option α} {b? : Option β} (h : Option.Rel r a? b?) :
    a? = none ∧ b? = none ∨ ∃ a b, a? = some a ∧ b? = some b ∧ r a b := by
  cases h with
  | none => exact Or.inl ⟨rfl, rfl⟩
  | some hab => exact Or.inr ⟨_, _, rfl, rfl, hab⟩

theorem rel_bind {a? : Option α} {b? : Option β} {f : α → Option γ} {g : β → Option δ}
    (h : Option.Rel r a? b?) (hfg : ∀ a b, r a b → Option.Rel q (f a) (g b)) :
    Option.Rel q (a?.bind f) (b?.bind g) := by
  cases h with
  | none => exact .none
  | some hab => exact hfg _ _ hab

theorem rel_mapM {as : List α} {bs : List β} {f : α → Option γ} {g : β → Option δ}
    (h : List.Forall₂ r as bs) (hfg : ∀ a b, r a b → Option.Rel q (f a) (g b)) :
    Option.Rel (List.Forall₂ q) (as.mapM f) (bs.mapM g) := by
  induction h with
  | nil => exact .some .nil
  | cons hab _ ih =>
    rw [List.mapM_cons, List.mapM_cons]
    exact rel_bind (hfg _ _ hab) fun _ _ hfirst =>
      rel_bind ih fun _ _ hrest => .some (.cons hfirst hrest)

end Rel

theorem ofMembers?_rel {members? members'? : Option (List (String × Value))} :
    Option.Rel (List.Forall₂ (Prod.RProd TextSinksTo Value.SinksTo)) members? members'? →
      Value.SinksTo
        (match members? with
          | some members => .object members
          | none => .garbled)
        (match members'? with
          | some members => .object members
          | none => .garbled) := by
  intro h
  cases h with
  | none => exact .garbled
  | some hmembers => exact .object hmembers

theorem objectOf_rel {members members' : List (Option String × Value)}
    (h : List.Forall₂ (Prod.RProd (Option.Rel TextSinksTo) Value.SinksTo) members members') :
    (Dialect.objectOf members).SinksTo (Dialect.objectOf members') := by
  refine ofMembers?_rel (rel_mapM h fun member member' hmember => ?_)
  obtain ⟨hkey, hvalue⟩ := hmember
  cases hkey with
  | none => exact .none
  | some htext => exact .some ⟨htext, hvalue⟩

/-! ## One step of a reader -/

/-- The value of a string, which may denote no text. -/
def Value.ofString? : Option String → Value
  | some text => .string text
  | none => .garbled

/-- **A word that is no name**: a string, or else a number. -/
def Dialect.ReadsWord (d : Dialect) (text rest : List Char) (value : Value) : Prop :=
  (∃ string?, d.string? text = some (string?, rest) ∧ value = .ofString? string?) ∨
    d.string? text = none ∧ ∃ lexeme, d.number? text = some (lexeme, rest) ∧
      value = .number (String.ofList lexeme)

theorem Dialect.readsWord_of_match (h : (match d.string? text with
    | some (some string, rest) => some (Value.string string, rest)
    | some (none, rest) => some (.garbled, rest)
    | none => (d.number? text).map fun (lexeme, rest) => (.number (String.ofList lexeme), rest))
      = some (value, rest)) : d.ReadsWord text rest value := by
  split at h
  · next string behind hstring =>
    obtain ⟨rfl, rfl⟩ := Prod.mk.inj (Option.some.inj h)
    exact Or.inl ⟨some string, hstring, rfl⟩
  · next behind hstring =>
    obtain ⟨rfl, rfl⟩ := Prod.mk.inj (Option.some.inj h)
    exact Or.inl ⟨none, hstring, rfl⟩
  · next hnone =>
    obtain ⟨⟨lexeme, behind⟩, hnumber, h⟩ := Option.map_eq_some_iff.1 h
    obtain ⟨rfl, rfl⟩ := Prod.mk.inj h
    exact Or.inr ⟨hnone, lexeme, hnumber, rfl⟩

/-- **How brackets go on** behind the opening one: they close, or a row stands in them. -/
def Dialect.Opens (d : Dialect) (close : Char) (tail rest : List Char) (empty : Prop)
    (row : List Char → Prop) : Prop :=
  ∃ next, d.skip tail = some next ∧
    (next = close :: rest ∧ empty ∨ next.head? ≠ some close ∧ row next)

theorem head?_ne_of_forall {close : Char} {next : List Char}
    (h : ∀ tail, next = close :: tail → False) : next.head? ≠ some close := by
  intro hhead
  obtain ⟨tail, rfl⟩ := List.head?_eq_some_iff.1 hhead
  exact h tail rfl

/-- An array is empty, or holds items. -/
theorem Dialect.opens_of_readValue_array {tail : List Char}
    (h : d.readValue (fuel + 1) ('[' :: tail) = some (value, rest)) :
    d.Opens ']' tail rest (value = .array []) fun next =>
      ∃ items, d.readItems fuel next = some (items, rest) ∧ value = .array items := by
  rw [Dialect.readValue] at h
  obtain ⟨next, hskip, h⟩ := Option.bind_eq_some_iff.1 h
  refine ⟨next, hskip, ?_⟩
  split at h
  · obtain ⟨rfl, rfl⟩ := Prod.mk.inj (Option.some.inj h)
    exact Or.inl ⟨rfl, rfl⟩
  · next hopen =>
    obtain ⟨⟨items, behind⟩, hitems, h⟩ := Option.bind_eq_some_iff.1 h
    obtain ⟨rfl, rfl⟩ := Prod.mk.inj (Option.some.inj h)
    exact Or.inr ⟨head?_ne_of_forall hopen, items, hitems, rfl⟩

/-- An object is empty, or holds members. -/
theorem Dialect.opens_of_readValue_object {tail : List Char}
    (h : d.readValue (fuel + 1) ('\x7b' :: tail) = some (value, rest)) :
    d.Opens '\x7d' tail rest (value = .object []) fun next =>
      ∃ members, d.readMembers fuel next = some (members, rest) ∧ value = objectOf members := by
  rw [Dialect.readValue] at h
  obtain ⟨next, hskip, h⟩ := Option.bind_eq_some_iff.1 h
  refine ⟨next, hskip, ?_⟩
  split at h
  · obtain ⟨rfl, rfl⟩ := Prod.mk.inj (Option.some.inj h)
    exact Or.inl ⟨rfl, rfl⟩
  · next hopen =>
    obtain ⟨⟨members, behind⟩, hmembers, h⟩ := Option.bind_eq_some_iff.1 h
    obtain ⟨rfl, rfl⟩ := Prod.mk.inj (Option.some.inj h)
    exact Or.inr ⟨head?_ne_of_forall hopen, members, hmembers, rfl⟩

/-- **How a row goes on** behind one of its parts: it closes, or a comma follows, and then it closes
if the dialect lets it, or more parts follow. -/
def Dialect.GoesOn (d : Dialect) (close : Char) (next rest : List Char) (last : Prop)
    (more : List Char → Prop) : Prop :=
  next = close :: rest ∧ last ∨
  ∃ tail after, next = ',' :: tail ∧ d.skip tail = some after ∧
    (d.trailingComma = true ∧ after = close :: rest ∧ last ∨ more after)

/-- An item, and how the array goes on. -/
theorem Dialect.exists_of_readItems {items : List Value}
    (h : d.readItems (fuel + 1) text = some (items, rest)) :
    ∃ item behind next, d.readValue fuel text = some (item, behind) ∧ d.skip behind = some next ∧
      d.GoesOn ']' next rest (items = [item]) fun after =>
        ∃ items', d.readItems fuel after = some (items', rest) ∧ items = item :: items' := by
  rw [Dialect.readItems] at h
  obtain ⟨⟨item, behind⟩, hitem, h⟩ := Option.bind_eq_some_iff.1 h
  obtain ⟨next, hskip, h⟩ := Option.bind_eq_some_iff.1 h
  refine ⟨item, behind, next, hitem, hskip, ?_⟩
  split at h
  · obtain ⟨rfl, rfl⟩ := Prod.mk.inj (Option.some.inj h)
    exact Or.inl ⟨rfl, rfl⟩
  · next tail =>
    obtain ⟨after, hskip', h⟩ := Option.bind_eq_some_iff.1 h
    refine Or.inr ⟨tail, after, rfl, hskip', ?_⟩
    split at h
    · next hcomma =>
      obtain ⟨rfl, rfl⟩ := Prod.mk.inj (Option.some.inj h)
      exact Or.inl ⟨hcomma, rfl, rfl⟩
    · obtain ⟨⟨items', behind'⟩, hitems, h⟩ := Option.bind_eq_some_iff.1 h
      obtain ⟨rfl, rfl⟩ := Prod.mk.inj (Option.some.inj h)
      exact Or.inr ⟨items', hitems, rfl⟩
  · cases h

/-- A member, and how the object goes on. -/
theorem Dialect.exists_of_readMembers {members : List (Option String × Value)}
    (h : d.readMembers (fuel + 1) text = some (members, rest)) :
    ∃ key? colon tail start value behind next, d.key? text = some (key?, colon) ∧
      d.skip colon = some (':' :: tail) ∧ d.skip tail = some start ∧
      d.readValue fuel start = some (value, behind) ∧ d.skip behind = some next ∧
      d.GoesOn '\x7d' next rest (members = [(key?, value)]) fun after =>
        ∃ members', d.readMembers fuel after = some (members', rest) ∧
          members = (key?, value) :: members' := by
  rw [Dialect.readMembers] at h
  obtain ⟨⟨key?, colon⟩, hkey, h⟩ := Option.bind_eq_some_iff.1 h
  obtain ⟨marked, hcolon, h⟩ := Option.bind_eq_some_iff.1 h
  split at h
  case h_2 => cases h
  next tail =>
  obtain ⟨start, hstart, h⟩ := Option.bind_eq_some_iff.1 h
  obtain ⟨⟨value, behind⟩, hvalue, h⟩ := Option.bind_eq_some_iff.1 h
  obtain ⟨next, hskip, h⟩ := Option.bind_eq_some_iff.1 h
  refine ⟨key?, colon, tail, start, value, behind, next, hkey, hcolon, hstart, hvalue, hskip, ?_⟩
  split at h
  · obtain ⟨rfl, rfl⟩ := Prod.mk.inj (Option.some.inj h)
    exact Or.inl ⟨rfl, rfl⟩
  · next tail' =>
    obtain ⟨after, hskip', h⟩ := Option.bind_eq_some_iff.1 h
    refine Or.inr ⟨tail', after, rfl, hskip', ?_⟩
    split at h
    · next hcomma =>
      obtain ⟨rfl, rfl⟩ := Prod.mk.inj (Option.some.inj h)
      exact Or.inl ⟨hcomma, rfl, rfl⟩
    · obtain ⟨⟨members', behind'⟩, hmembers, h⟩ := Option.bind_eq_some_iff.1 h
      obtain ⟨rfl, rfl⟩ := Prod.mk.inj (Option.some.inj h)
      exact Or.inr ⟨members', hmembers, rfl⟩
  · cases h

/-! ## Where values begin -/

/-- **A character that a value of the standard begins with.** -/
def OpensValue (c : Char) : Prop :=
  c ∈ ['n', 't', 'f', '[', '\x7b', '\"', '-'] ∨ isDigit c = true

/-- A value begins neither with a blank or a comment nor with the end of a row. -/
theorem OpensValue.isSolid {c : Char} (h : OpensValue c) :
    Json5.isSpace c = false ∧ c ≠ '/' ∧ c ≠ ']' ∧ c ≠ '\x7d' := by
  rcases h with h | h
  · simp only [List.mem_cons, List.not_mem_nil, or_false] at h
    rcases h with rfl | rfl | rfl | rfl | rfl | rfl | rfl <;>
      exact ⟨by decide +kernel, by decide, by decide, by decide⟩
  · have hdigits : ∀ n < 58, 48 ≤ n → Json5.isSpace (Char.ofNat n) = false ∧
        Char.ofNat n ≠ '/' ∧ Char.ofNat n ≠ ']' ∧ Char.ofNat n ≠ '\x7d' := by decide +kernel
    simp only [isDigit, Bool.and_eq_true, decide_eq_true_eq, Char.le_def, UInt32.le_iff_toNat_le]
      at h
    rw [← Char.ofNat_toNat c]
    exact hdigits c.toNat (Nat.lt_succ_of_le h.2) h.1

/-- A string or a number begins with a quote, a sign or a digit. -/
theorem opensValue_of_word (h : (∃ string?, Standard.string? text = some (string?, rest)) ∨
    ∃ lexeme, Standard.number? text = some (lexeme, rest)) : ∀ c ∈ text.head?, OpensValue c := by
  rcases h with ⟨string?, h⟩ | ⟨lexeme, h⟩
  · obtain ⟨tail, -, rfl, -⟩ := Standard.exists_body_of_string? h
    rintro _ ⟨⟩
    exact Or.inl (by decide)
  · obtain ⟨sign, tail, ws, behind, fs, after, es, htext, hwhole, -⟩ :=
      Standard.exists_parts_of_number? h
    obtain ⟨digit, tail', rfl, hdigit⟩ := Standard.exists_digit_of_whole? hwhole
    rcases htext with ⟨rfl, -⟩ | ⟨rfl, -⟩
    · rintro _ ⟨⟩
      exact Or.inl (by decide)
    · rintro _ ⟨⟩
      exact Or.inr hdigit

theorem opensValue_of_readValue (h : standard.readValue fuel text = some (value, rest)) :
    ∀ c ∈ text.head?, OpensValue c := by
  cases fuel with
  | zero => cases h
  | succ fuel =>
    unfold Dialect.readValue at h
    split at h
    case h_6 =>
      rcases Dialect.readsWord_of_match h with ⟨string?, hstring, -⟩ | ⟨-, lexeme, hnumber, -⟩
      · exact opensValue_of_word (Or.inl ⟨string?, hstring⟩)
      · exact opensValue_of_word (Or.inr ⟨lexeme, hnumber⟩)
    all_goals
      rintro _ ⟨⟩
      exact Or.inl (by decide)

theorem opensValue_of_readItems {items : List Value}
    (h : standard.readItems fuel text = some (items, rest)) : ∀ c ∈ text.head?, OpensValue c := by
  cases fuel with
  | zero => cases h
  | succ fuel =>
    obtain ⟨item, behind, -, hitem, -⟩ := Dialect.exists_of_readItems h
    exact opensValue_of_readValue hitem

theorem opensValue_of_readMembers {members : List (Option String × Value)}
    (h : standard.readMembers fuel text = some (members, rest)) :
    ∀ c ∈ text.head?, OpensValue c := by
  cases fuel with
  | zero => cases h
  | succ fuel =>
    obtain ⟨key?, colon, -, -, -, -, -, hkey, -⟩ := Dialect.exists_of_readMembers h
    exact opensValue_of_word (Or.inl ⟨key?, hkey⟩)

/-! ## Both readers -/

theorem skip_agree {next : List Char} (h : standard.skip text = some next)
    (hsolid : ∀ c ∈ next.head?, Json5.isSpace c = false ∧ c ≠ '/') :
    json5.skip text = some next := by
  obtain rfl := Option.some.inj h
  exact Json5.skip_eq hsolid

theorem skip_agree_of_opens {next : List Char} (h : standard.skip text = some next)
    (hopens : ∀ c ∈ next.head?, OpensValue c) : json5.skip text = some next :=
  skip_agree h fun c hc => ⟨(hopens c hc).isSolid.1, (hopens c hc).isSolid.2.1⟩

/-- **Behind a value** stands a mark that goes on with its row, or nothing; so the value ends a
word, and the same is skipped behind it in both dialects. -/
theorem endsWord_of_skip {next : List Char} (h : standard.skip text = some next)
    (hmark : ∀ c ∈ next.head?, c = ',' ∨ c = ']' ∨ c = '\x7d') :
    EndsWord text ∧ json5.skip text = some next := by
  refine ⟨fun c hc => ?_, skip_agree h fun c hc => ?_⟩
  · obtain rfl := Option.some.inj h
    cases text with
    | nil => cases hc
    | cons b tail =>
      obtain rfl := Option.some.inj hc
      by_cases hskipped : Standard.isSkipped b = true
      · exact Or.inl hskipped
      · refine Or.inr (hmark b ?_)
        change b ∈ ((b :: tail).dropWhile Standard.isSkipped).head?
        rw [List.dropWhile_cons_of_neg hskipped]
        rfl
  · rcases hmark c hc with rfl | rfl | rfl <;> exact ⟨by decide +kernel, by decide⟩

/-- **A row goes on alike** in both dialects: it closes in both, or the same follows in both. -/
theorem goesOn_agree {close : Char} {next : List Char} {last last' : Prop}
    {more more' : List Char → Prop} (hclose : close ≠ ',')
    (h : standard.GoesOn close next rest last more)
    (h' : json5.GoesOn close next rest' last' more')
    (hopens : ∀ after, more after → ∀ c ∈ after.head?, OpensValue c ∧ c ≠ close) :
    rest' = rest ∧ last ∧ last' ∨ ∃ after, more after ∧ more' after := by
  rcases h with ⟨rfl, hlast⟩ | ⟨tail, after, rfl, hskip, ⟨hcomma, -⟩ | hmore⟩
  · rcases h' with ⟨hnext, hlast'⟩ | ⟨tail, after, hnext, -⟩
    · exact Or.inl ⟨(List.cons.inj hnext).2.symm, hlast, hlast'⟩
    · exact absurd (List.cons.inj hnext).1 hclose
  · cases hcomma
  · have hskip' := skip_agree_of_opens hskip fun c hc => (hopens after hmore c hc).1
    rcases h' with ⟨hnext, -⟩ | ⟨tail', after', hnext, hskip'', hgo⟩
    · exact absurd (List.cons.inj hnext).1.symm hclose
    · obtain rfl := (List.cons.inj hnext).2
      obtain rfl := Option.some.inj (hskip'.symm.trans hskip'')
      rcases hgo with ⟨-, rfl, -⟩ | hmore'
      · exact absurd rfl (hopens _ hmore close rfl).2
      · exact Or.inr ⟨after, hmore, hmore'⟩

/-- **A word is read alike** in both dialects: a string that may sink, or the same number. -/
theorem word_agree (h : standard.ReadsWord text rest value) (hends : EndsWord rest)
    (h' : json5.ReadsWord text rest' value') : rest' = rest ∧ value.SinksTo value' := by
  rcases h with ⟨string?, hstring, rfl⟩ | ⟨-, lexeme, hnumber, rfl⟩
  · rcases h' with ⟨string'?, hstring', rfl⟩ | ⟨-, lexeme', hnumber', -⟩
    · obtain ⟨rfl, hsinks⟩ := string?_agree hstring hstring'
      cases hsinks with
      | none => exact ⟨rfl, .garbled⟩
      | some htext => exact ⟨rfl, .string htext⟩
    · -- a quote begins no number
      obtain ⟨tail, -, rfl, -⟩ := Standard.exists_body_of_string? hstring
      cases hnumber'
  · rcases h' with ⟨string'?, hstring', -⟩ | ⟨-, lexeme', hnumber', rfl⟩
    · cases (Json5.string?_eq_none_of_number? hnumber).symm.trans hstring'
    · have hsame := (number?_agree hnumber hends).symm.trans hnumber'
      obtain ⟨rfl, rfl⟩ := Prod.mk.inj (Option.some.inj hsame)
      exact ⟨rfl, .number _⟩

/-- **Brackets open alike** in both dialects: they close in both, or the same row stands in both. -/
theorem opens_agree {close : Char} {tail : List Char} {empty empty' : Prop}
    {row row' : List Char → Prop} (hclose : close = ']' ∨ close = '\x7d')
    (h : standard.Opens close tail rest empty row)
    (h' : json5.Opens close tail rest' empty' row')
    (hopens : ∀ next, row next → ∀ c ∈ next.head?, OpensValue c) :
    rest' = rest ∧ empty ∧ empty' ∨ ∃ next, row next ∧ row' next := by
  obtain ⟨next, hskip, hnext⟩ := h
  obtain ⟨next', hskip', hnext'⟩ := h'
  have hskip'' : json5.skip tail = some next := by
    rcases hnext with ⟨rfl, -⟩ | ⟨-, hrow⟩
    · exact (endsWord_of_skip hskip (by simpa using Or.inr hclose)).2
    · exact skip_agree_of_opens hskip (hopens next hrow)
  obtain rfl := Option.some.inj (hskip''.symm.trans hskip')
  rcases hnext with ⟨rfl, hempty⟩ | ⟨hopen, hrow⟩
  · rcases hnext' with ⟨hsame, hempty'⟩ | ⟨hopen, -⟩
    · exact Or.inl ⟨(List.cons.inj hsame).2.symm, hempty, hempty'⟩
    · exact absurd rfl hopen
  · rcases hnext' with ⟨rfl, -⟩ | ⟨-, hrow'⟩
    · exact absurd rfl hopen
    · exact Or.inr ⟨next, hrow, hrow'⟩

/-- **Values are read alike** with some fuel, up to the end of the word. -/
def ValuesAgree (fuel : Nat) : Prop :=
  ∀ {text rest rest' : List Char} {value value' : Value},
    standard.readValue fuel text = some (value, rest) → EndsWord rest →
    json5.readValue fuel text = some (value', rest') → rest' = rest ∧ value.SinksTo value'

/-- **Items are read alike** with some fuel. -/
def ItemsAgree (fuel : Nat) : Prop :=
  ∀ {text rest rest' : List Char} {items items' : List Value},
    standard.readItems fuel text = some (items, rest) →
    json5.readItems fuel text = some (items', rest') →
    rest' = rest ∧ List.Forall₂ Value.SinksTo items items'

/-- **Members are read alike** with some fuel. -/
def MembersAgree (fuel : Nat) : Prop :=
  ∀ {text rest rest' : List Char} {members members' : List (Option String × Value)},
    standard.readMembers fuel text = some (members, rest) →
    json5.readMembers fuel text = some (members', rest') →
    rest' = rest ∧
      List.Forall₂ (Prod.RProd (Option.Rel TextSinksTo) Value.SinksTo) members members'

theorem itemsAgree_succ (hvalues : ValuesAgree fuel) (hitems : ItemsAgree fuel) :
    ItemsAgree (fuel + 1) := by
  intro text rest rest' items items' h h'
  obtain ⟨item, behind, next, hitem, hskip, hgo⟩ := Dialect.exists_of_readItems h
  obtain ⟨item', behind', next', hitem', hskip', hgo'⟩ := Dialect.exists_of_readItems h'
  have hmark : ∀ c ∈ next.head?, c = ',' ∨ c = ']' ∨ c = '\x7d' := by
    rcases hgo with ⟨rfl, -⟩ | ⟨tail, after, rfl, -⟩ <;> simp
  obtain ⟨hends, hskip''⟩ := endsWord_of_skip hskip hmark
  obtain ⟨rfl, hsinks⟩ := hvalues hitem hends hitem'
  obtain rfl := Option.some.inj (hskip''.symm.trans hskip')
  rcases goesOn_agree (by decide) hgo hgo' fun after ⟨rows, hrows, _⟩ c hc =>
      ⟨opensValue_of_readItems hrows c hc, (opensValue_of_readItems hrows c hc).isSolid.2.2.1⟩ with
    ⟨rfl, rfl, rfl⟩ | ⟨after, ⟨rows, hrows, rfl⟩, rows', hrows', rfl⟩
  · exact ⟨rfl, .cons hsinks .nil⟩
  · obtain ⟨rfl, hall⟩ := hitems hrows hrows'
    exact ⟨rfl, .cons hsinks hall⟩

theorem membersAgree_succ (hvalues : ValuesAgree fuel) (hmembers : MembersAgree fuel) :
    MembersAgree (fuel + 1) := by
  intro text rest rest' members members' h h'
  obtain ⟨key?, colon, tail, start, value, behind, next, hkey, hcolon, hstart, hvalue, hskip,
    hgo⟩ := Dialect.exists_of_readMembers h
  obtain ⟨key'?, colon', tail', start', value', behind', next', hkey', hcolon', hstart', hvalue',
    hskip', hgo'⟩ := Dialect.exists_of_readMembers h'
  obtain ⟨rfl, hkeys⟩ := key?_agree hkey hkey'
  have hcolon'' : json5.skip colon' = some (':' :: tail) := by
    refine skip_agree hcolon ?_
    rintro _ ⟨⟩
    exact ⟨by decide +kernel, by decide⟩
  obtain rfl := (List.cons.inj (Option.some.inj (hcolon''.symm.trans hcolon'))).2
  have hstart'' := skip_agree_of_opens hstart (opensValue_of_readValue hvalue)
  obtain rfl := Option.some.inj (hstart''.symm.trans hstart')
  have hmark : ∀ c ∈ next.head?, c = ',' ∨ c = ']' ∨ c = '\x7d' := by
    rcases hgo with ⟨rfl, -⟩ | ⟨tail, after, rfl, -⟩ <;> simp
  obtain ⟨hends, hskip''⟩ := endsWord_of_skip hskip hmark
  obtain ⟨rfl, hsinks⟩ := hvalues hvalue hends hvalue'
  obtain rfl := Option.some.inj (hskip''.symm.trans hskip')
  rcases goesOn_agree (by decide) hgo hgo' fun after ⟨rows, hrows, _⟩ c hc =>
      ⟨opensValue_of_readMembers hrows c hc, (opensValue_of_readMembers hrows c hc).isSolid.2.2.2⟩
    with ⟨rfl, rfl, rfl⟩ | ⟨after, ⟨rows, hrows, rfl⟩, rows', hrows', rfl⟩
  · exact ⟨rfl, .cons ⟨hkeys, hsinks⟩ .nil⟩
  · obtain ⟨rfl, hall⟩ := hmembers hrows hrows'
    exact ⟨rfl, .cons ⟨hkeys, hsinks⟩ hall⟩

theorem valuesAgree_succ (hitems : ItemsAgree fuel) (hmembers : MembersAgree fuel) :
    ValuesAgree (fuel + 1) := by
  intro text rest rest' value value' h hends h'
  have hread := h
  unfold Dialect.readValue at h
  split at h
  case h_1 =>
    obtain ⟨rfl, rfl⟩ := Prod.mk.inj (Option.some.inj h)
    obtain ⟨rfl, rfl⟩ := Prod.mk.inj (Option.some.inj h')
    exact ⟨rfl, .null⟩
  case h_2 =>
    obtain ⟨rfl, rfl⟩ := Prod.mk.inj (Option.some.inj h)
    obtain ⟨rfl, rfl⟩ := Prod.mk.inj (Option.some.inj h')
    exact ⟨rfl, .bool true⟩
  case h_3 =>
    obtain ⟨rfl, rfl⟩ := Prod.mk.inj (Option.some.inj h)
    obtain ⟨rfl, rfl⟩ := Prod.mk.inj (Option.some.inj h')
    exact ⟨rfl, .bool false⟩
  case h_4 tail =>
    rcases opens_agree (Or.inl rfl) (Dialect.opens_of_readValue_array hread)
        (Dialect.opens_of_readValue_array h') fun next ⟨items, hrow, _⟩ =>
          opensValue_of_readItems hrow with
      ⟨rfl, rfl, rfl⟩ | ⟨next, ⟨items, hrow, rfl⟩, items', hrow', rfl⟩
    · exact ⟨rfl, .array .nil⟩
    · obtain ⟨rfl, hall⟩ := hitems hrow hrow'
      exact ⟨rfl, .array hall⟩
  case h_5 tail =>
    rcases opens_agree (Or.inr rfl) (Dialect.opens_of_readValue_object hread)
        (Dialect.opens_of_readValue_object h') fun next ⟨members, hrow, _⟩ =>
          opensValue_of_readMembers hrow with
      ⟨rfl, rfl, rfl⟩ | ⟨next, ⟨members, hrow, rfl⟩, members', hrow', rfl⟩
    · exact ⟨rfl, .object .nil⟩
    · obtain ⟨rfl, hall⟩ := hmembers hrow hrow'
      exact ⟨rfl, objectOf_rel hall⟩
  case h_6 hnull htrue hfalse harray hobject =>
    rw [Dialect.readValue] at h'
    · exact word_agree (Dialect.readsWord_of_match h) hends (Dialect.readsWord_of_match h')
    all_goals assumption

/-- **The readers agree**, whatever fuel they have. -/
theorem agree (fuel : Nat) : ValuesAgree fuel ∧ ItemsAgree fuel ∧ MembersAgree fuel := by
  induction fuel with
  | zero => exact ⟨fun h => (by cases h), fun h => (by cases h), fun h => (by cases h)⟩
  | succ fuel ih =>
    obtain ⟨hvalues, hitems, hmembers⟩ := ih
    exact ⟨valuesAgree_succ hitems hmembers, itemsAgree_succ hvalues hitems,
      membersAgree_succ hvalues hmembers⟩

/-- A document is a value with nothing but blanks around it. -/
theorem Dialect.exists_of_parse? {text : String} (h : d.parse? text = some value) :
    ∃ start behind, d.skip text.toList = some start ∧
      d.readValue (2 * start.length + 2) start = some (value, behind) ∧
      d.skip behind = some [] := by
  obtain ⟨start, hstart, h⟩ := Option.bind_eq_some_iff.1 h
  obtain ⟨⟨value', behind⟩, hvalue, h⟩ := Option.bind_eq_some_iff.1 h
  obtain ⟨last, hlast, h⟩ := Option.bind_eq_some_iff.1 h
  split at h
  · next hnil =>
    obtain rfl := Option.some.inj h
    exact ⟨start, behind, hstart, hvalue, hnil ▸ hlast⟩
  · cases h

/-- **A document of the standard denotes the same in JSON5**, but that characters may sink, if it
denotes anything there. -/
theorem parse?_agree {text : String} (h : standard.parse? text = some value)
    (h' : json5.parse? text = some value') : value.SinksTo value' := by
  obtain ⟨start, behind, hstart, hvalue, hlast⟩ := Dialect.exists_of_parse? h
  obtain ⟨start', behind', hstart', hvalue', -⟩ := Dialect.exists_of_parse? h'
  have hsame := skip_agree_of_opens hstart (opensValue_of_readValue hvalue)
  obtain rfl := Option.some.inj (hsame.symm.trans hstart')
  have hends := (endsWord_of_skip hlast (by simp)).1
  exact ((agree _).1 hvalue hends hvalue').2

end LaunchLine.Json
