import LaunchLine.Config.FromJson
import LaunchLine.Proofs.Dialects
import LaunchLine.Proofs.WholeLiterals

/-!
# Proofs/StrictConfig — configs in standard JSON

A config in standard JSON is read as JSON5 first.  **What the standard's reader reads is read**, with
the same switches and counts, texts whose characters may sink, and a timeout that may be rounded in
other steps (`Config.SinksTo`).  What the standard's reader refuses may be read all the same, but
only for a reason that shows in the document: an array with too many items, or a number that is no
count or timeout of the standard (`Config.ofJson?_of_standard`).
-/

namespace LaunchLine

open Json (Value TextSinksTo IsWholeLiteral)

/-! ## Texts that may sink -/

theorem Json.TextSinksTo.refl (text : String) : TextSinksTo text text :=
  List.forall₂_same.2 fun c _ => .refl c

/-- **A text of the lowest plane** neither sinks nor is sunk to. -/
theorem Json.TextSinksTo.eq_iff {text text' other : String} (h : TextSinksTo text text')
    (hother : ∀ c ∈ other.toList, c.toNat < 0x10000) : text' = other ↔ text = other := by
  have hlists : ∀ {cs cs' ds : List Char}, List.Forall₂ SinksTo cs cs' →
      (∀ d ∈ ds, d.toNat < 0x10000) → (cs' = ds ↔ cs = ds) := by
    intro cs cs' ds hcs hds
    induction hcs generalizing ds with
    | nil => rfl
    | cons hc _ ih =>
      cases ds with
      | nil => simp
      | cons d ds =>
        obtain ⟨hd, hds⟩ := List.forall_mem_cons.1 hds
        rw [List.cons.injEq, List.cons.injEq, hc.eq_iff hd, ih hds]
  rw [← String.toList_inj, ← String.toList_inj]
  exact hlists h hother

namespace Config

/-! ## Configs that may sink -/

/-- **A timeout that is read in other steps**: the same, or the two readings of the number that
stands for it, if its literal is not whole. -/
inductive TimeoutSinksTo (value? : Option Value) : Option Float → Option Float → Prop
  | same (timeout? : Option Float) : TimeoutSinksTo value? timeout? timeout?
  | rounded {lexeme : String} {timeout timeout' : Float} (stands : value? = some (.number lexeme))
      (notWhole : ¬ IsWholeLiteral lexeme) (strict : Json.Standard.float? lexeme = some timeout)
      (loose : Json.Json5.float? lexeme = some timeout') :
      TimeoutSinksTo value? (some timeout) (some timeout')

/-- **A config that may sink**, read from entries: the same switches and counts, texts that may
sink, and a timeout whose number may be rounded in other steps. -/
structure SinksTo (entries : List (String × Value)) (cfg cfg' : Config) : Prop where
  timeout : TimeoutSinksTo (entries.lookup "timeout") cfg.timeout? cfg'.timeout?
  outputDir : Option.Rel TextSinksTo cfg.outputDir? cfg'.outputDir?
  storeTestArtifacts : cfg'.storeTestArtifacts? = cfg.storeTestArtifacts?
  repeatCount : cfg'.repeatCount? = cfg.repeatCount?
  workers : cfg'.workers? = cfg.workers?
  retryFailed : cfg'.retryFailed? = cfg.retryFailed?
  testFilter : Option.Rel TextSinksTo cfg.testFilter? cfg'.testFilter?
  runDisabledTests : cfg'.runDisabledTests? = cfg.runDisabledTests?
  extraArgs : Option.Rel (List.Forall₂ TextSinksTo) cfg.extraArgs? cfg'.extraArgs?
  verbose : cfg'.verbose? = cfg.verbose?

theorem rel_refl {α : Type} {r : α → α → Prop} (h : ∀ a, r a a) (a? : Option α) :
    Option.Rel r a? a? := by
  cases a? with
  | none => exact .none
  | some a => exact .some (h a)

theorem SinksTo.refl (entries : List (String × Value)) (cfg : Config) :
    SinksTo entries cfg cfg where
  timeout := .same _
  outputDir := rel_refl .refl _
  storeTestArtifacts := rfl
  repeatCount := rfl
  workers := rfl
  retryFailed := rfl
  testFilter := rel_refl .refl _
  runDisabledTests := rfl
  extraArgs := rel_refl (fun _ => List.forall₂_same.2 fun text _ => .refl text) _
  verbose := rfl

/-! ## Values of fields -/

/-- The reader of the fields of standard JSON. -/
def strictReader : FieldReader Value :=
  jsonReader ⟨Json.Standard.float?, Json.Standard.count?⟩

/-- The reader of the fields of JSON5. -/
def looseReader : FieldReader Value :=
  jsonReader ⟨Json.Json5.float?, Json.Json5.count?⟩

theorem textsOf?_rel {items items' : List Value} (h : List.Forall₂ Value.SinksTo items items') :
    Option.Rel (List.Forall₂ TextSinksTo) (textsOf? items) (textsOf? items') := by
  refine Json.rel_mapM h fun item item' hitem => ?_
  cases hitem with
  | string htext => exact .some htext
  | null | bool | number | garbled | array | object => exact .none

section Values

variable {value value' : Value} (h : value.SinksTo value')
include h

theorem switch_agree :
    Option.Rel Eq (strictReader.switch value) (looseReader.switch value') := by
  cases h with
  | null | bool => exact .some rfl
  | number | garbled | string | array | object => exact .none

theorem text_agree :
    Option.Rel (Option.Rel TextSinksTo) (strictReader.text value) (looseReader.text value') := by
  cases h with
  | null => exact .some .none
  | string htext => exact .some (.some htext)
  | bool | number | garbled | array | object => exact .none

theorem words_agree : Option.Rel (Option.Rel (List.Forall₂ TextSinksTo)) (strictReader.words value)
    (looseReader.words value') := by
  cases h with
  | null => exact .some .none
  | @array items items' hitems =>
    change Option.Rel _ ((textsOf? items).map some) ((textsOf? items').map some)
    rcases Json.cases_of_rel (textsOf?_rel hitems) with
      ⟨hnone, hnone'⟩ | ⟨_, _, hsome, hsome', htexts⟩
    · rw [hnone, hnone']
      exact .none
    · rw [hsome, hsome']
      exact .some (.some htexts)
  | bool | number | garbled | string | object => exact .none

/-- A count that JSON5 reads is the count of the standard, unless its literal is none there. -/
theorem count_agree {count? : Option UInt32} (hread : looseReader.count value' = some count?) :
    strictReader.count value = some count? ∨
      ∃ lexeme, value = .number lexeme ∧ Json.Standard.count? lexeme = none := by
  cases h with
  | null => exact Or.inl hread
  | number lexeme =>
    obtain ⟨count', hloose, rfl⟩ := Option.map_eq_some_iff.1 hread
    cases hstrict : Json.Standard.count? lexeme with
    | none => exact Or.inr ⟨lexeme, rfl, hstrict⟩
    | some count =>
      obtain rfl := Json.count?_agree hstrict hloose
      exact Or.inl (congrArg (Option.map some) hstrict)
  | bool | string | garbled | array | object => cases hread

/-- A timeout that JSON5 reads is read by the standard as well, unless its literal is none there. -/
theorem float_agree {timeout'? : Option Float}
    (hread : looseReader.float value' = some timeout'?) :
    (∃ timeout?, strictReader.float value = some timeout? ∧
        TimeoutSinksTo (some value) timeout? timeout'?) ∨
      ∃ lexeme, value = .number lexeme ∧ Json.Standard.float? lexeme = none := by
  cases h with
  | null =>
    obtain rfl := Option.some.inj hread
    exact Or.inl ⟨none, rfl, .same none⟩
  | number lexeme =>
    obtain ⟨timeout', hloose, rfl⟩ := Option.map_eq_some_iff.1 hread
    have htimeout' : Json.Json5.float? lexeme = some timeout' := hloose
    cases hstrict : Json.Standard.float? lexeme with
    | none => exact Or.inr ⟨lexeme, rfl, hstrict⟩
    | some timeout =>
      refine Or.inl ⟨some timeout, congrArg (Option.map some) hstrict, ?_⟩
      by_cases hwhole : IsWholeLiteral lexeme
      · rw [Json.float?_eq_of_isWholeLiteral hwhole] at htimeout'
        rw [← hstrict, htimeout']
        exact .same _
      · exact .rounded rfl hwhole hstrict htimeout'
  | bool | string | garbled | array | object => cases hread

end Values

/-! ## Fields -/

theorem isLowest_keys : ∀ key ∈ keys, ∀ c ∈ key.toList, c.toNat < 0x10000 := by
  have hall : (keys.all fun key => key.toList.all fun c => c.toNat < 0x10000) = true := by
    decide +kernel
  intro key hkey c hc
  exact of_decide_eq_true (List.all_eq_true.1 (List.all_eq_true.1 hall key hkey) c hc)

section Entries

variable {entries entries' : List (String × Value)}
  (h : List.Forall₂ (Prod.RProd TextSinksTo Value.SinksTo) entries entries') {key : String}
  (hkey : key ∈ keys)
include h hkey

/-- **What stands at the key of a field** is the same, but that it may sink. -/
theorem lookup_agree : Option.Rel Value.SinksTo (entries.lookup key) (entries'.lookup key) := by
  induction h with
  | nil => exact .none
  | cons hentry _ ih =>
    obtain @⟨text, value, text', value', htext, hvalue⟩ := hentry
    rw [Entries.lookup_cons, Entries.lookup_cons]
    have hsame : key = text' ↔ key = text := by
      rw [eq_comm, htext.eq_iff (isLowest_keys key hkey), eq_comm]
    simp only [hsame]
    split
    · exact .some hvalue
    · exact ih

/-- A field is given as often. -/
theorem length_filter_agree : (entries.filter fun entry => entry.1 == key).length
    = (entries'.filter fun entry => entry.1 == key).length := by
  refine List.Forall₂.length_eq (List.rel_filter (fun entry entry' hentry => ?_) h)
  obtain ⟨htext, -⟩ := hentry
  simp only [beq_iff_eq]
  exact (htext.eq_iff (isLowest_keys key hkey)).symm

/-- **A field is read alike**, if its values are, but for a number that is refused.  What is alike
may depend on the value that stands there. -/
theorem field_agree {β γ : Type} {read : Value → Option (Option β)}
    {read' : Value → Option (Option γ)} {r : Option Value → Option β → Option γ → Prop}
    {refused : String → Prop} (hnone : r none none none)
    (hvalues : ∀ {value value' b?}, value.SinksTo value' → read' value' = some b? →
      (∃ a?, read value = some a? ∧ r (some value) a? b?) ∨
        ∃ lexeme, value = .number lexeme ∧ refused lexeme)
    {b? : Option γ} (hread : FieldReader.field read' entries' key = some b?) :
    (∃ a?, FieldReader.field read entries key = some a? ∧ r (entries.lookup key) a? b?) ∨
      ∃ lexeme, entries.lookup key = some (.number lexeme) ∧ refused lexeme := by
  unfold FieldReader.field at hread ⊢
  rcases Json.cases_of_rel (lookup_agree h hkey) with
    ⟨habsent, habsent'⟩ | ⟨value, value', hvalue, hvalue', hsinks⟩
  · rw [habsent'] at hread
    rw [habsent]
    obtain rfl := Option.some.inj hread
    exact Or.inl ⟨none, rfl, hnone⟩
  · rw [hvalue'] at hread
    rw [hvalue]
    rcases hvalues hsinks hread with hstrict | ⟨lexeme, rfl, hrefused⟩
    · exact Or.inl hstrict
    · exact Or.inr ⟨lexeme, rfl, hrefused⟩

/-- A field that holds no number is read alike, if its values are. -/
theorem field_agree_of_rel {β γ : Type} {read : Value → Option (Option β)}
    {read' : Value → Option (Option γ)} {r : Option β → Option γ → Prop} (hnone : r none none)
    (hvalues : ∀ {value value'}, value.SinksTo value' → Option.Rel r (read value) (read' value'))
    {b? : Option γ} (hread : FieldReader.field read' entries' key = some b?) :
    ∃ a?, FieldReader.field read entries key = some a? ∧ r a? b? := by
  have hread' : (∃ a?, FieldReader.field read entries key = some a? ∧ r a? b?) ∨
      ∃ lexeme, entries.lookup key = some (.number lexeme) ∧ False := by
    refine field_agree h hkey (r := fun _ => r) hnone (fun hsinks hvalue => ?_) hread
    rcases Json.cases_of_rel (hvalues hsinks) with ⟨-, hnone'⟩ | ⟨a?, _, hstrict, hvalue', hab⟩
    · cases hnone'.symm.trans hvalue
    · obtain rfl := Option.some.inj (hvalue'.symm.trans hvalue)
      exact Or.inl ⟨a?, hstrict, hab⟩
  exact hread'.resolve_right fun ⟨_, _, hrefused⟩ => hrefused

end Entries

/-- The keys of the fields that hold a count. -/
def countKeys : List String :=
  ["repeat", "workers", "retryFailed"]

/-- **The standard's reader refuses the literal** at the key: it is no timeout, or no count. -/
def Refuses (key lexeme : String) : Prop :=
  key = "timeout" ∧ Json.Standard.float? lexeme = none ∨
    key ∈ countKeys ∧ Json.Standard.count? lexeme = none

/-- **A number is refused** that stands at the key of a field. -/
def HoldsRefused (entries : List (String × Value)) : Prop :=
  ∃ key lexeme, entries.lookup key = some (.number lexeme) ∧ Refuses key lexeme

section Entries

variable {entries entries' : List (String × Value)} {cfg' : Config}
  (h : List.Forall₂ (Prod.RProd TextSinksTo Value.SinksTo) entries entries')
include h

theorem isUnambiguous_of_agree (hread : FieldReader.isUnambiguous entries' = true) :
    FieldReader.isUnambiguous entries = true := by
  refine List.all_eq_true.2 fun key hkey => ?_
  rw [length_filter_agree h hkey]
  exact List.all_eq_true.1 hread key hkey

theorem textField_agree {key : String} (hkey : key ∈ keys) {text'? : Option String}
    (hread : FieldReader.field looseReader.text entries' key = some text'?) :
    ∃ text?, FieldReader.field strictReader.text entries key = some text? ∧
      Option.Rel TextSinksTo text? text'? :=
  field_agree_of_rel h hkey .none text_agree hread

theorem switchField_agree {key : String} (hkey : key ∈ keys) {switch? : Option Bool}
    (hread : FieldReader.field looseReader.switch entries' key = some switch?) :
    FieldReader.field strictReader.switch entries key = some switch? := by
  obtain ⟨_, hstrict, rfl⟩ := field_agree_of_rel h hkey rfl switch_agree hread
  exact hstrict

theorem timeoutField_agree (hrefused : ¬ HoldsRefused entries) {timeout'? : Option Float}
    (hread : FieldReader.field looseReader.float entries' "timeout" = some timeout'?) :
    ∃ timeout?, FieldReader.field strictReader.float entries "timeout" = some timeout? ∧
      TimeoutSinksTo (entries.lookup "timeout") timeout? timeout'? := by
  refine (field_agree h (by decide) (.same none) (fun hsinks hvalue => float_agree hsinks hvalue)
    hread).resolve_right ?_
  rintro ⟨lexeme, hlookup, hnone⟩
  exact hrefused ⟨"timeout", lexeme, hlookup, Or.inl ⟨rfl, hnone⟩⟩

theorem countField_agree (hrefused : ¬ HoldsRefused entries) {key : String}
    (hkey : key ∈ countKeys) {count? : Option UInt32}
    (hread : FieldReader.field looseReader.count entries' key = some count?) :
    FieldReader.field strictReader.count entries key = some count? := by
  have hfield : key ∈ keys := (by decide : countKeys ⊆ keys) hkey
  rcases field_agree h hfield (r := fun _ a? b? => a? = b?) rfl
      (fun hsinks hvalue => (count_agree hsinks hvalue).imp_left fun hsame => ⟨_, hsame, rfl⟩)
      hread with ⟨_, hsame, rfl⟩ | ⟨lexeme, hlookup, hnone⟩
  · exact hsame
  · exact absurd ⟨key, lexeme, hlookup, Or.inr ⟨hkey, hnone⟩⟩ hrefused

/-- **What JSON5 reads, the standard reads**, but that it may sink, unless a number is refused. -/
theorem reads_agree (hread : looseReader.Reads entries' cfg') :
    (∃ cfg, strictReader.Reads entries cfg ∧ SinksTo entries cfg cfg') ∨
      HoldsRefused entries := by
  by_cases hrefused : HoldsRefused entries
  · exact Or.inr hrefused
  left
  obtain ⟨timeout?, htimeout, htimeoutSinks⟩ := timeoutField_agree h hrefused hread.timeout
  obtain ⟨outputDir?, houtputDir, houtputDirSinks⟩ :=
    textField_agree h (by decide) hread.outputDir
  obtain ⟨testFilter?, htestFilter, htestFilterSinks⟩ :=
    textField_agree h (by decide) hread.testFilter
  obtain ⟨extraArgs?, hextraArgs, hextraArgsSinks⟩ :=
    field_agree_of_rel h (by decide) .none words_agree hread.extraArgs
  refine ⟨{ cfg' with timeout?, outputDir?, testFilter?, extraArgs? }, ?_, ?_⟩
  · exact {
      unambiguous := isUnambiguous_of_agree h hread.unambiguous
      timeout := htimeout
      outputDir := houtputDir
      storeTestArtifacts := switchField_agree h (by decide) hread.storeTestArtifacts
      repeatCount := countField_agree h hrefused (by decide) hread.repeatCount
      workers := countField_agree h hrefused (by decide) hread.workers
      retryFailed := countField_agree h hrefused (by decide) hread.retryFailed
      testFilter := htestFilter
      runDisabledTests := switchField_agree h (by decide) hread.runDisabledTests
      extraArgs := hextraArgs
      verbose := switchField_agree h (by decide) hread.verbose }
  · exact ⟨htimeoutSinks, houtputDirSinks, rfl, rfl, rfl, rfl, htestFilterSinks, rfl,
      hextraArgsSinks, rfl⟩

end Entries

/-! ## Documents -/

/-- **The fields of a document** by key: the members of an object, or the items of an array, in
order. -/
def entriesOf : Value → List (String × Value)
  | .object members => members
  | .array items => keys.zip items
  | _ => []

/-- **A document with fields**: an object, or an array with an item for each field. -/
inductive HoldsFields : Value → Prop
  | object (members : List (String × Value)) : HoldsFields (.object members)
  | array {items : List Value} (h : keys.length ≤ items.length) : HoldsFields (.array items)

/-- **An array with more items than there are fields.** -/
inductive IsOverfull : Value → Prop
  | array {items : List Value} (h : keys.length < items.length) : IsOverfull (.array items)

theorem zip_agree (names : List String) {items items' : List Value}
    (h : List.Forall₂ Value.SinksTo items items') :
    List.Forall₂ (Prod.RProd TextSinksTo Value.SinksTo) (names.zip items) (names.zip items') := by
  induction h generalizing names with
  | nil =>
    rw [List.zip_nil_right]
    exact .nil
  | cons hitem _ ih =>
    cases names with
    | nil => exact .nil
    | cons name names => exact .cons ⟨.refl name, hitem⟩ (ih names)

/-- The fields of documents that are read alike. -/
theorem entriesOf_agree {value value' : Value} (h : value.SinksTo value')
    (hfields : HoldsFields value') :
    HoldsFields value ∧ List.Forall₂ (Prod.RProd TextSinksTo Value.SinksTo) (entriesOf value)
      (entriesOf value') := by
  cases hfields with
  | object members' =>
    cases h with
    | object hmembers => exact ⟨.object _, hmembers⟩
  | array hlength =>
    cases h with
    | array hitems => exact ⟨.array (hitems.length_eq ▸ hlength), zip_agree keys hitems⟩

section Documents

variable {text : String} {value : Value} {cfg : Config}

theorem ofStandardJson?_eq_some_iff (h : Json.standard.parse? text = some value) :
    ofStandardJson? text = some cfg ↔
      HoldsFields value ∧ ¬ IsOverfull value ∧ strictReader.Reads (entriesOf value) cfg := by
  rw [ofStandardJson?, h, Option.bind_eq_bind, Option.bind_some, ← FieldReader.config?_eq_some_iff]
  constructor
  · intro hread
    split at hread
    · next members => exact ⟨.object members, nofun, hread⟩
    · next items =>
      obtain ⟨hlength, hread⟩ := Option.ite_none_right_eq_some.1 hread
      exact ⟨.array hlength.ge, fun ⟨hmore⟩ => hmore.ne hlength.symm, hread⟩
    · cases hread
  · rintro ⟨hfields, hfull, hread⟩
    cases hfields with
    | object members => exact hread
    | @array items hlength =>
      have hten : items.length = keys.length :=
        (hlength.eq_or_lt.resolve_right fun hmore => hfull ⟨hmore⟩).symm
      exact (if_pos hten).trans hread

theorem exists_reads_of_ofJson5? (h : ofJson5? text = some cfg) :
    ∃ value, Json.json5.parse? text = some value ∧ HoldsFields value ∧
      looseReader.Reads (entriesOf value) cfg := by
  obtain ⟨value, hvalue, h⟩ := Option.bind_eq_some_iff.1 h
  refine ⟨value, hvalue, ?_⟩
  rw [← FieldReader.config?_eq_some_iff]
  split at h
  · next members =>
    obtain ⟨-, h⟩ := Option.ite_none_right_eq_some.1 h
    exact ⟨.object members, h⟩
  · next items =>
    obtain ⟨hlength, h⟩ := Option.ite_none_right_eq_some.1 h
    exact ⟨.array hlength, h⟩
  · cases h

/-- What the standard's reader reads has no number that it refuses. -/
theorem not_holdsRefused {entries : List (String × Value)}
    (hread : strictReader.Reads entries cfg) : ¬ HoldsRefused entries := by
  rintro ⟨key, lexeme, hlookup, ⟨rfl, hnone⟩ | ⟨hkey, hnone⟩⟩
  · have htimeout := hread.timeout
    rw [FieldReader.field, hlookup] at htimeout
    change (Json.Standard.float? lexeme).map some = _ at htimeout
    rw [hnone] at htimeout
    cases htimeout
  · have hcount : ∃ count?, FieldReader.field strictReader.count entries key = some count? := by
      simp only [countKeys, List.mem_cons, List.not_mem_nil, or_false] at hkey
      rcases hkey with rfl | rfl | rfl
      · exact ⟨_, hread.repeatCount⟩
      · exact ⟨_, hread.workers⟩
      · exact ⟨_, hread.retryFailed⟩
    obtain ⟨count?, hcount⟩ := hcount
    rw [FieldReader.field, hlookup] at hcount
    change (Json.Standard.count? lexeme).map some = _ at hcount
    rw [hnone] at hcount
    cases hcount

/-- **A config that JSON5 reads** from a document of the standard: the standard's reader reads it as
well, but that it may sink, or the document shows why not. -/
theorem ofJson5?_agree (h : Json.standard.parse? text = some value)
    (hread : ofJson5? text = some cfg) :
    (∃ strict, ofStandardJson? text = some strict ∧ SinksTo (entriesOf value) strict cfg) ∨
      IsOverfull value ∨ HoldsRefused (entriesOf value) := by
  obtain ⟨value', hvalue', hfields', hreads⟩ := exists_reads_of_ofJson5? hread
  obtain ⟨hfields, hentries⟩ := entriesOf_agree (Json.parse?_agree h hvalue') hfields'
  rcases reads_agree hentries hreads with ⟨strict, hstrict, hsinks⟩ | hrefused
  · by_cases hfull : IsOverfull value
    · exact Or.inr (Or.inl hfull)
    · exact Or.inl ⟨strict, (ofStandardJson?_eq_some_iff h).2 ⟨hfields, hfull, hstrict⟩, hsinks⟩
  · exact Or.inr (Or.inr hrefused)

/-- What the standard's reader refuses is read by JSON5 or not at all. -/
theorem ofJson5?_of_ofJson? (hstrict : ofStandardJson? text = none)
    (hread : ofJson? text = some cfg) : ofJson5? text = some cfg := by
  rw [ofJson?, hstrict] at hread
  cases hloose : ofJson5? text with
  | none =>
    rw [hloose] at hread
    cases hread
  | some cfg' => rwa [hloose] at hread

/-- **Configs in standard JSON.**  What the standard's reader reads is read, with the same switches
and counts; a character of an even plane may sink, and the number that stands for the timeout be
rounded in other steps.  What it refuses is refused, unless the document is an array with more items
than there are fields, or the number of a field is no count or timeout of the standard. -/
theorem ofJson?_of_standard (h : Json.standard.parse? text = some value) :
    (∀ strict, ofStandardJson? text = some strict →
      ∃ cfg, ofJson? text = some cfg ∧ SinksTo (entriesOf value) strict cfg) ∧
    (ofStandardJson? text = none → ∀ cfg, ofJson? text = some cfg →
      IsOverfull value ∨ HoldsRefused (entriesOf value)) := by
  constructor
  · intro strict hstrict
    rw [ofJson?]
    cases hloose : ofJson5? text with
    | none => exact ⟨strict, hstrict, .refl _ strict⟩
    | some cfg =>
      obtain ⟨-, hfull, hreads⟩ := (ofStandardJson?_eq_some_iff h).1 hstrict
      rcases ofJson5?_agree h hloose with ⟨strict', hstrict', hsinks⟩ | hshown | hshown
      · obtain rfl := Option.some.inj (hstrict'.symm.trans hstrict)
        exact ⟨cfg, rfl, hsinks⟩
      · exact absurd hshown hfull
      · exact absurd hshown (not_holdsRefused hreads)
  · intro hstrict cfg hread
    rcases ofJson5?_agree h (ofJson5?_of_ofJson? hstrict hread) with ⟨strict, hstrict', -⟩ | hshown
    · cases hstrict.symm.trans hstrict'
    · exact hshown

/-- An output directory of the second plane, written with escapes, is read one plane below, with
the same timeout; an array of eleven items is read, and the standard's reader refuses it. -/
theorem ofJson?_of_standard_overfull :
    let sinking := "\x7b\"outputDir\": \"\\ud840\\udc00\", \"timeout\": 30\x7d"
    let overfull := "[30, null, null, null, 4, null, null, null, null, null, 11]"
    (∃ value strict cfg, Json.standard.parse? sinking = some value ∧
      ofStandardJson? sinking = some strict ∧ strict.outputDir? = some "𠀀" ∧
      ofJson? sinking = some cfg ∧ cfg.outputDir? = some "𐀀" ∧
      SinksTo (entriesOf value) strict cfg) ∧
    ∃ value, Json.standard.parse? overfull = some value ∧ ofStandardJson? overfull = none ∧
      ofJson? overfull = some { empty with timeout? := some 30, workers? := some 4 } ∧
      (IsOverfull value ∨ HoldsRefused (entriesOf value)) := by
  intro sinking overfull
  obtain ⟨value, hvalue⟩ : ∃ value, Json.standard.parse? sinking = some value :=
    Option.isSome_iff_exists.1 (by decide +kernel)
  obtain ⟨value', hvalue'⟩ : ∃ value, Json.standard.parse? overfull = some value :=
    Option.isSome_iff_exists.1 (by decide +kernel)
  have hstrict : ofStandardJson? sinking
      = some { empty with outputDir? := some "𠀀", timeout? := some 30 } := by decide +kernel
  have hread : ofJson? sinking
      = some { empty with outputDir? := some "𐀀", timeout? := some 30 } := by decide +kernel
  have hrefused : ofStandardJson? overfull = none := by decide +kernel
  have hheld : ofJson? overfull = some { empty with timeout? := some 30, workers? := some 4 } := by
    decide +kernel
  obtain ⟨cfg, hcfg, hsinks⟩ := (ofJson?_of_standard hvalue).1 _ hstrict
  obtain rfl := Option.some.inj (hcfg.symm.trans hread)
  exact ⟨⟨value, _, _, hvalue, hstrict, rfl, hread, rfl, hsinks⟩,
    value', hvalue', hrefused, hheld, (ofJson?_of_standard hvalue').2 hrefused _ hheld⟩

/-- **Both readers in turn are not the standard's reader.**  Four workers and nine tenths are read
as four, minus one as none, and a directory of the second plane as one of the plane below. -/
theorem ofJson?_ne_ofStandardJson? :
    let fraction := "\x7b\"workers\": 4.9\x7d"
    let negative := "\x7b\"workers\": -1\x7d"
    let escaped := "\x7b\"outputDir\": \"\\ud840\\udc00\"\x7d"
    (∀ text ∈ [fraction, negative, escaped], (Json.standard.parse? text).isSome = true) ∧
    ofStandardJson? fraction = none ∧ ofJson? fraction = some { empty with workers? := some 4 } ∧
    ofStandardJson? negative = none ∧ ofJson? negative = some { empty with workers? := some 0 } ∧
    ofStandardJson? escaped = some { empty with outputDir? := some "𠀀" } ∧
    ofJson? escaped = some { empty with outputDir? := some "𐀀" } := by
  decide +kernel

end Documents

end Config

end LaunchLine
