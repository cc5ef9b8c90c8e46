import LaunchLine.Proofs.CompleteOptions

/-!
# Proofs/Recognition — which words are recognised, and as what

A word is recognised if it is a name of a flag, or the long name of a flag that takes a value with
an equals sign and any text behind it.  No name begins with another one
(`Flag.eq_of_isNamed_of_begins`), so what a word with a name in front spells is settled by what is
behind the name, `Flag.spells_append_iff`.  Words that only come close to a spelling,
`IsNearMiss`, are not recognised, and no word is recognised in two ways: `recognize?_exactly`.
-/

namespace LaunchLine

theorem toList_prefix_append (name more : String) : name.toList <+: (name ++ more).toList := by
  rw [String.toList_append]
  exact List.prefix_append _ _

namespace Flag

variable {flag other : Flag} {name name' more : String} {value? : Option String}

/-! ## The two kinds of spellings -/

/-- Without a value, what spells a flag is a name of it. -/
theorem spells_none_iff : flag.Spells name none ↔ name = flag.long ∨ flag.short? = some name := by
  rw [eq_comm, ← isNamed_iff]
  refine ⟨fun h => ?_, .name⟩
  cases h with
  | name named => exact named

/-- With a value, what spells a flag is its long name with the value. -/
theorem spells_some_iff {word value : String} :
    flag.Spells word (some value) ↔
      flag.takesValue = true ∧ word = flag.long ++ "=" ++ value := by
  constructor
  · rintro ⟨⟩
    next takes => exact ⟨takes, rfl⟩
  · rintro ⟨takes, rfl⟩
    exact .inline value takes

/-! ## Words that begin with a name -/

/-- All names, long and short. -/
def names : List String :=
  all.flatMap fun flag => flag.long :: flag.short?.toList

theorem mem_names_of_isNamed (h : flag.isNamed name = true) : name ∈ names :=
  of_isNamed (p := (· ∈ names)) (by decide) (by decide) h

/-- **No name begins with another one.** -/
theorem eq_of_isNamed_of_begins (h : flag.isNamed name = true) (h' : other.isNamed name' = true)
    (hbegins : name.toList <+: name'.toList) : name = name' := by
  have hnames : ∀ n ∈ names, ∀ n' ∈ names, n.toList <+: n'.toList → n = n' := by decide +kernel
  exact hnames name (mem_names_of_isNamed h) name' (mem_names_of_isNamed h') hbegins

/-- The short name of a flag is not its long one. -/
theorem long_ne_of_short? (h : flag.short? = some name) : flag.long ≠ name := by
  have hshort : ∀ flag ∈ all, flag.short? ≠ some flag.long := by decide
  rintro rfl
  exact hshort flag (mem_all flag) h

/-- **What a word spells that begins with a name**: the flag of that name, and nothing is behind the
name, or the name is the long one and behind it is a value. -/
theorem spells_append_iff (h : flag.isNamed name = true) :
    other.Spells (name ++ more) value? ↔ other = flag ∧
      (more = "" ∧ value? = none ∨ flag.takesValue = true ∧ flag.long = name ∧
        ∃ value, more = "=" ++ value ∧ value? = some value) := by
  constructor
  · intro hspells
    have hname := toList_prefix_append name more
    generalize hword : name ++ more = word at hspells hname
    obtain named | ⟨value, takes⟩ := hspells
    · obtain rfl : name = word := eq_of_isNamed_of_begins h named hname
      have hmore : more = "" := by simpa using hword
      exact ⟨eq_of_isNamed named h, .inl ⟨hmore, rfl⟩⟩
    · -- both names are in front of the same word, so one of them begins with the other
      have hlong : other.long.toList <+: (other.long ++ "=" ++ value).toList := by
        rw [String.append_assoc]
        exact toList_prefix_append _ _
      obtain rfl : other.long = name := by
        obtain hbegins | hbegins := List.prefix_or_prefix_of_prefix hlong hname
        · exact eq_of_isNamed_of_begins other.isNamed_long h hbegins
        · exact (eq_of_isNamed_of_begins h other.isNamed_long hbegins).symm
      obtain rfl := eq_of_isNamed other.isNamed_long h
      rw [String.append_assoc, String.append_right_inj] at hword
      exact ⟨rfl, .inr ⟨takes, rfl, value, hword, rfl⟩⟩
  · rintro ⟨rfl, ⟨rfl, rfl⟩ | ⟨takes, rfl, value, rfl, rfl⟩⟩
    · rw [String.append_empty]
      exact .name h
    · rw [← String.append_assoc]
      exact .inline value takes

end Flag

/-- **A word that is not the wrapper's** is no flag's name, and no long name with a value that the
flag takes. -/
theorem isForeign_iff {word : String} :
    IsForeign word ↔ ∀ flag : Flag, word ≠ flag.long ∧ flag.short? ≠ some word ∧
      ∀ value, flag.takesValue = true → word ≠ flag.long ++ "=" ++ value := by
  refine forall_congr' fun flag => ?_
  simp only [Option.forall, Flag.spells_none_iff, Flag.spells_some_iff, not_or, not_and, and_assoc,
    ne_eq]

/-! ## Near misses -/

/-- **Words that come close to a spelling** of a flag and are none. -/
inductive IsNearMiss : String → Prop
  /-- The divider. -/
  | divider : IsNearMiss divider
  /-- A value behind an equals sign, and no name but the two dashes. -/
  | nameless (value : String) : IsNearMiss (divider ++ "=" ++ value)
  /-- A word without a dash in front. -/
  | bare {word : String} (bare : isBare word = true) : IsNearMiss word
  /-- A short name with something attached to it, be it a value behind an equals sign. -/
  | attached {flag : Flag} {name more : String} (short : flag.short? = some name)
      (more_ne : more ≠ "") : IsNearMiss (name ++ more)
  /-- A name without its end. -/
  | shortened {flag : Flag} {word more : String} (named : flag.isNamed (word ++ more) = true)
      (more_ne : more ≠ "") : IsNearMiss word
  /-- A name that goes on, but not with a value. -/
  | lengthened {flag : Flag} {name more : String} (named : flag.isNamed name = true)
      (more_ne : more ≠ "") (valueless : ∀ value, more ≠ "=" ++ value) : IsNearMiss (name ++ more)
  /-- A switch with a value. -/
  | overfull {flag : Flag} (switch : flag.takesValue = false) (value : String) :
      IsNearMiss (flag.long ++ "=" ++ value)

/-- A name without its end is not the wrapper's: it is no name, and no equals sign is in it. -/
theorem isForeign_of_isNamed_append {flag : Flag} {word more : String}
    (h : flag.isNamed (word ++ more) = true) (hmore : more ≠ "") : IsForeign word := by
  rintro other value? (named | ⟨value, takes⟩)
  · have hword : word = word ++ more :=
      Flag.eq_of_isNamed_of_begins named h (toList_prefix_append word more)
    exact hmore (by simpa using hword.symm)
  · exact Flag.equals_notMem_of_isNamed h (by simp [String.toList_append])

/-- **A near miss is not the wrapper's.** -/
theorem IsNearMiss.isForeign {word : String} (h : IsNearMiss word) : IsForeign word := by
  cases h with
  | divider => exact isForeign_divider
  | nameless value => exact isForeign_append_of_named?_eq_none (by decide) (by decide) value
  | bare bare => exact isForeign_of_isBare bare
  | attached short more_ne =>
    intro other value? hspells
    obtain ⟨-, ⟨hmore, -⟩ | ⟨-, hlong, -⟩⟩ :=
      (Flag.spells_append_iff (Flag.isNamed_iff.2 (.inr short))).1 hspells
    · exact more_ne hmore
    · exact Flag.long_ne_of_short? short hlong
  | shortened named more_ne => exact isForeign_of_isNamed_append named more_ne
  | lengthened named more_ne valueless =>
    intro other value? hspells
    obtain ⟨-, ⟨hmore, -⟩ | ⟨-, -, value, hvalue, -⟩⟩ :=
      (Flag.spells_append_iff named).1 hspells
    · exact more_ne hmore
    · exact valueless value hvalue
  | overfull switch value => exact isForeign_switch_append switch value

/-! ## Exactly the spellings -/

/-- **Every word is recognised as what it spells, and as nothing else.**  Without a value, it is a
name of a flag that is listed, long or short; with a value, it is the long name of a flag that takes
one, the first equals sign and the value.  All other words are not recognised, near misses among
them, and what a word spells is one flag and one value at most. -/
theorem recognize?_exactly (word : String) :
    (∀ flag, recognize? word = some (flag, none) ↔
      flag ∈ Flag.all ∧ (word = flag.long ∨ flag.short? = some word)) ∧
    (∀ flag value, recognize? word = some (flag, some value) ↔
      flag ∈ Flag.all ∧ flag.takesValue = true ∧ word = flag.long ++ "=" ++ value) ∧
    (recognize? word = none ↔ ∀ flag ∈ Flag.all, word ≠ flag.long ∧ flag.short? ≠ some word ∧
      ∀ value, flag.takesValue = true → word ≠ flag.long ++ "=" ++ value) ∧
    (IsNearMiss word → recognize? word = none) ∧
    ∀ p q : Flag × Option String, p.1.Spells word p.2 → q.1.Spells word q.2 → p = q := by
  have hall : ∀ flag : Flag, flag ∈ Flag.all ↔ True := fun flag => iff_true_intro flag.mem_all
  simp only [hall, true_and, forall_const]
  refine ⟨fun flag => ?_, fun flag value => ?_, ?_, fun h => ?_, fun p q hp hq => ?_⟩
  · rw [recognize?_eq_some_iff, Flag.spells_none_iff]
  · rw [recognize?_eq_some_iff, Flag.spells_some_iff]
  · rw [recognize?_eq_none_iff, isForeign_iff]
  · exact recognize?_eq_none_iff.2 h.isForeign
  · exact Option.some.inj
      ((recognize?_eq_some_iff.2 hp).symm.trans (recognize?_eq_some_iff.2 hq))

/-- A short name takes nothing attached to it, and a long name does not go on but with a value;
that value begins behind the first equals sign and may hold another. -/
theorem recognize?_exactly_attached :
    IsNearMiss "-d=x" ∧ recognize? "-d=x" = none ∧
    IsNearMiss "--output_dirs" ∧ recognize? "--output_dirs" = none ∧
    recognize? "--output_dir==x=" = some (.outputDir, some "=x=") := by
  have hattached : IsNearMiss "-d=x" :=
    @IsNearMiss.attached .outputDir "-d" "=x" rfl (by decide)
  have hlengthened : IsNearMiss "--output_dirs" := by
    refine @IsNearMiss.lengthened .outputDir "--output_dir" "s" (by decide) (by decide) ?_
    intro value h
    simpa [String.toList_append] using congrArg String.toList h
  exact ⟨hattached, (recognize?_exactly "-d=x").2.2.2.1 hattached,
    hlengthened, (recognize?_exactly "--output_dirs").2.2.2.1 hlengthened,
    ((recognize?_exactly "--output_dir==x=").2.1 .outputDir "=x=").2 ⟨by decide, rfl, rfl⟩⟩

end LaunchLine
