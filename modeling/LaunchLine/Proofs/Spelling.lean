import LaunchLine.CommandLine.LaunchPlan
import Mathlib.Data.List.TakeDrop
import Mathlib.Data.List.TakeWhile

/-!
# Proofs/Spelling — the grammar of the words that a flag goes by

A flag is spelled by a name of it, long or short, or by its long name with a value behind an equals
sign.  `Flag.Spells` says so without cutting a word; `recognize?_eq_some_iff` is the agreement with
the reader.  No name holds an equals sign, so the first one in a word always ends a name, and no two
filled slots are told alike, `Slot.render_injective`.  Every name begins with a dash, so a bare word
is never the wrapper's.
-/

namespace LaunchLine

namespace Flag

/-- **What holds of every name** is checked name by name. -/
theorem of_isNamed {p : String → Prop} (long : ∀ flag ∈ all, p flag.long)
    (short : ∀ flag ∈ all, ∀ name ∈ flag.short?.toList, p name) {flag : Flag} {name : String}
    (h : flag.isNamed name = true) : p name := by
  rcases isNamed_iff.1 h with rfl | h
  · exact long flag (mem_all flag)
  · exact short flag (mem_all flag) name (Option.mem_toList.2 h)

/-- No name holds an equals sign. -/
theorem equals_notMem_of_isNamed {flag : Flag} {name : String} (h : flag.isNamed name = true) :
    '=' ∉ name.toList :=
  of_isNamed (p := fun name => '=' ∉ name.toList) (by decide) (by decide) h

/-- Every name begins with a dash. -/
theorem isBare_eq_false_of_isNamed {flag : Flag} {name : String} (h : flag.isNamed name = true) :
    isBare name = false :=
  of_isNamed (p := fun name => isBare name = false) (by decide) (by decide) h

/-- The divider is not a name. -/
theorem ne_divider_of_isNamed {flag : Flag} {name : String} (h : flag.isNamed name = true) :
    name ≠ divider :=
  of_isNamed (p := fun name => name ≠ divider) (by decide) (by decide) h

theorem isNamed_long (flag : Flag) : flag.isNamed flag.long = true :=
  isNamed_iff.2 (Or.inl rfl)

theorem eq_of_isNamed {flag other : Flag} {name : String} (h : flag.isNamed name = true)
    (h' : other.isNamed name = true) : flag = other :=
  Option.some.inj ((named?_eq_some_iff.2 h).symm.trans (named?_eq_some_iff.2 h'))

/-- The flag of a long name goes by it, and no other flag does. -/
theorem longNamed?_eq_some_iff {name : String} {flag : Flag} :
    longNamed? name = some flag ↔ flag.long = name := by
  constructor
  · intro h
    simpa using List.find?_some h
  · rintro rfl
    cases flag <;> decide

/-- **The spellings of a flag**, each with the value that it gives: a name alone, or the long name
with a value. -/
inductive Spells (flag : Flag) : String → Option String → Prop
  | name {word : String} (named : flag.isNamed word = true) : Spells flag word none
  | inline (value : String) (takes : flag.takesValue = true) :
      Spells flag (flag.long ++ "=" ++ value) (some value)

end Flag

/-! ## The flag of a slot -/

namespace Slot

/-- The flag that goes by the slot's own name. -/
def flag : Slot → Flag
  | timeout => .timeout
  | outputDir => .outputDir
  | testResults => .testResults
  | repeatCount => .repeatCount
  | workers => .workers
  | retryFailed => .retryFailed
  | testFilter => .testFilter
  | color => .color
  | runDisabledTests => .runDisabledTests

@[simp] theorem long_flag (slot : Slot) : slot.flag.long = slot.name := by
  cases slot <;> rfl

@[simp] theorem effect_flag (slot : Slot) : slot.flag.effect = .fill slot := by
  cases slot <;> rfl

@[simp] theorem takesValue_flag (slot : Slot) : slot.flag.takesValue = slot.takesValue := by
  rw [Flag.takesValue, effect_flag]

/-- No two slots share a name. -/
theorem name_injective : Function.Injective name := by
  intro slot slot' h
  have hnamed : slot'.flag.isNamed slot.flag.long = true := by
    rw [long_flag, h, ← long_flag]
    exact slot'.flag.isNamed_long
  have heffect := congrArg Flag.effect (Flag.eq_of_isNamed slot.flag.isNamed_long hnamed)
  rw [effect_flag, effect_flag] at heffect
  exact Effect.fill.inj heffect

end Slot

/-! ## Words that are not the wrapper's -/

/-- A word that spells no flag. -/
def IsForeign (word : String) : Prop :=
  ∀ (flag : Flag) (value? : Option String), ¬ flag.Spells word value?

/-! ## Cutting at the equals sign -/

/-- In front of the first equals sign there is none, and the cut finds it. -/
theorem cutAtEquals?_append {name : String} (h : '=' ∉ name.toList) (value : String) :
    cutAtEquals? (name ++ "=" ++ value) = some (name, value) := by
  have hpos : ∀ c ∈ name.toList, decide (c ≠ '=') = true := fun c hc =>
    decide_eq_true fun he => h (he ▸ hc)
  have hword : (name ++ "=" ++ value).toList = name.toList ++ '=' :: value.toList := by
    simp [String.toList_append]
  have hspan : (name ++ "=" ++ value).toList.span (· ≠ '=')
      = (name.toList, '=' :: value.toList) := by
    rw [List.span_eq_takeWhile_dropWhile, hword, List.takeWhile_append_of_pos hpos,
      List.dropWhile_append_of_pos hpos]
    simp
  rw [cutAtEquals?, hspan]
  exact congrArg some (Prod.ext String.ofList_toList String.ofList_toList)

/-- **The cut is at the first equals sign**: putting the sign back undoes it. -/
theorem eq_append_of_cutAtEquals? {word name value : String}
    (h : cutAtEquals? word = some (name, value)) : word = name ++ "=" ++ value := by
  have hjoin : word.toList.takeWhile (· ≠ '=') ++ word.toList.dropWhile (· ≠ '=') = word.toList :=
    List.takeWhile_append_dropWhile
  have hhead := List.head?_dropWhile_not (fun c => decide (c ≠ '=')) word.toList
  rw [cutAtEquals?, List.span_eq_takeWhile_dropWhile] at h
  cases hd : word.toList.dropWhile (· ≠ '=') with
  | nil => rw [hd] at h; cases h
  | cons c rest =>
    rw [hd] at h hjoin hhead
    obtain rfl : c = '=' := by simpa using hhead
    obtain ⟨rfl, rfl⟩ := Prod.mk.inj (Option.some.inj h)
    refine String.toList_inj.1 (hjoin.symm.trans ?_)
    simp [String.toList_append, String.toList_ofList]

/-! ## Filled slots -/

namespace Slot

theorem equals_notMem_name (slot : Slot) : '=' ∉ slot.name.toList := by
  rw [← long_flag]
  exact Flag.equals_notMem_of_isNamed slot.flag.isNamed_long

/-- A slot that is told with a value is not told without. -/
theorem name_ne_render_some (slot slot' : Slot) (value : String) :
    slot.name ≠ slot'.render (some value) := by
  intro h
  refine slot.equals_notMem_name ?_
  rw [h]
  simp [render, String.toList_append]

/-- **A slot is told as the flag of its name is spelled**, if it has a value exactly if it takes
one. -/
theorem spells_render {slot : Slot} {value? : Option String}
    (h : value?.isSome = slot.takesValue) : slot.flag.Spells (slot.render value?) value? := by
  obtain _ | value := value?
  · have hnamed : slot.flag.isNamed slot.name = true := slot.long_flag ▸ slot.flag.isNamed_long
    exact .name hnamed
  · have htakes : slot.flag.takesValue = true := slot.takesValue_flag.trans h.symm
    rw [render, ← slot.long_flag]
    exact .inline value htakes

/-- **No two filled slots are told alike.** -/
theorem render_injective :
    Function.Injective fun e : Slot × Option String => e.1.render e.2 := by
  rintro ⟨slot, _ | value⟩ ⟨slot', _ | value'⟩ h
  · obtain rfl := name_injective h
    rfl
  · exact absurd h (slot.name_ne_render_some slot' value')
  · exact absurd h.symm (slot'.name_ne_render_some slot value)
  · have hcut : some (slot.name, value) = some (slot'.name, value') := by
      rw [← cutAtEquals?_append slot.equals_notMem_name,
        ← cutAtEquals?_append slot'.equals_notMem_name]
      exact congrArg cutAtEquals? h
    obtain ⟨hname, rfl⟩ := Prod.mk.inj (Option.some.inj hcut)
    obtain rfl := name_injective hname
    rfl

end Slot

/-! ## The reader agrees with the grammar -/

/-- A word with an equals sign is no name. -/
theorem named?_append_equals (name value : String) :
    Flag.named? (name ++ "=" ++ value) = none := by
  cases h : Flag.named? (name ++ "=" ++ value) with
  | none => rfl
  | some flag =>
    refine absurd ?_ (Flag.equals_notMem_of_isNamed (Flag.named?_eq_some_iff.1 h))
    simp [String.toList_append]

theorem recognize?_of_isNamed {flag : Flag} {name : String} (h : flag.isNamed name = true) :
    recognize? name = some (flag, none) := by
  rw [recognize?, Flag.named?_eq_some_iff.2 h]

theorem recognize?_inline {flag : Flag} (h : flag.takesValue = true) (value : String) :
    recognize? (flag.long ++ "=" ++ value) = some (flag, some value) := by
  have hcut := cutAtEquals?_append (Flag.equals_notMem_of_isNamed flag.isNamed_long) value
  rw [recognize?, named?_append_equals, hcut]
  simp [Flag.longNamed?_eq_some_iff.2 rfl, h]

/-- **A word is recognised exactly as it is spelled.** -/
theorem recognize?_eq_some_iff {word : String} {flag : Flag} {value? : Option String} :
    recognize? word = some (flag, value?) ↔ flag.Spells word value? := by
  constructor
  · intro h
    unfold recognize? at h
    split at h
    · next named hn =>
      obtain ⟨rfl, rfl⟩ : named = flag ∧ none = value? := by simpa using h
      exact .name (Flag.named?_eq_some_iff.1 hn)
    · split at h
      · cases h
      · next name value hc =>
        obtain rfl := eq_append_of_cutAtEquals? hc
        split at h
        · cases h
        · next long hl =>
          obtain rfl := Flag.longNamed?_eq_some_iff.1 hl
          by_cases ht : long.takesValue = true
          · obtain ⟨rfl, rfl⟩ : long = flag ∧ some value = value? := by simpa [ht] using h
            exact .inline value ht
          · simp [ht] at h
  · rintro (named | ⟨value, takes⟩)
    · exact recognize?_of_isNamed named
    · exact recognize?_inline takes value

theorem recognize?_eq_none_iff {word : String} : recognize? word = none ↔ IsForeign word := by
  rw [Option.eq_none_iff_forall_not_mem]
  exact ⟨fun h flag value? hs => h (flag, value?) (recognize?_eq_some_iff.2 hs),
    fun h p hp => h p.1 p.2 (recognize?_eq_some_iff.1 hp)⟩

namespace Token

theorem ofString_of_isNamed {flag : Flag} {name : String} (h : flag.isNamed name = true) :
    ofString name = if flag.takesValue then .opens flag else .setting (flag.setting none) := by
  rw [ofString, recognize?_of_isNamed h]

theorem ofString_inline {flag : Flag} (h : flag.takesValue = true) (value : String) :
    ofString (flag.long ++ "=" ++ value) = .setting (flag.setting (some value)) := by
  rw [ofString, recognize?_inline h]

theorem ofString_of_isForeign {word : String} (h : IsForeign word) : ofString word = .loose := by
  rw [ofString, recognize?_eq_none_iff.2 h]

end Token

/-! ## Words that are never the wrapper's -/

theorem isForeign_divider : IsForeign divider :=
  recognize?_eq_none_iff.1 (by decide)

theorem ne_divider_of_isBare {word : String} (h : isBare word = true) : word ≠ divider := by
  rintro rfl
  exact absurd h Bool.false_ne_true

/-- A bare word is never the wrapper's. -/
theorem isForeign_of_isBare {word : String} (h : isBare word = true) : IsForeign word := by
  rintro flag value? (named | ⟨value, takes⟩)
  · simp [Flag.isBare_eq_false_of_isNamed named] at h
  · have hlong := Flag.isBare_eq_false_of_isNamed flag.isNamed_long
    cases hl : flag.long.toList <;> simp_all [isBare, String.toList_append]

end LaunchLine
