import LaunchLine.Proofs.Lines
import LaunchLine.Proofs.ScopeOrder
import LaunchLine.Proofs.SourceCheck

/-!
# Proofs/LengthReport — the files that are too long, the longest first

A report of long files is said by `IsLengthReport` without sorting: each file with more lines than
the limit is there once, the longer before the shorter, and files of one length in the order of
their paths.  `overlong` makes such a report for every limit, and with a higher limit it makes the
beginning of the same one (`overlong_longest_first`).
-/

namespace LaunchLine

/-! ## The lines of a file -/

namespace Utf8

variable {b : UInt8} {c : Char}

theorem le_toNat_of_mem_followers {v n : Nat} (h : b ∈ followers v n) : 0x80 ≤ b.toNat := by
  induction n with
  | zero => cases h
  | succ n ih =>
    obtain rfl | h := List.mem_cons.1 h
    · rw [toNat_follower]
      exact Nat.le_add_left _ _
    · exact ih h

/-- **A line feed is a byte of its own**, which no other character holds. -/
theorem feed_mem_utf8EncodeChar_iff : 0x0A ∈ String.utf8EncodeChar c ↔ c = '\n' := by
  refine ⟨fun h => ?_, fun h => by rw [h]; decide⟩
  have hlow : ∀ {lead : Nat} {n : Nat}, 0x80 ≤ lead → lead < 256 →
      0x0A ∉ UInt8.ofNat lead :: followers c.toNat n := by
    intro lead n hlead hbyte hmem
    obtain heq | hmem := List.mem_cons.1 hmem
    · have hnat := congrArg UInt8.toNat heq
      rw [toNat_ofNat_of_lt hbyte] at hnat
      exact absurd (hnat ▸ hlead) (by decide)
    · exact absurd (le_toNat_of_mem_followers hmem) (by decide)
  rw [utf8EncodeChar_eq, pointBytes] at h
  split at h
  · next hone =>
    have hnat := congrArg UInt8.toNat (List.mem_singleton.1 h)
    rw [toNat_ofNat_of_lt (by omega)] at hnat
    exact Char.toNat_inj.1 hnat.symm
  split at h
  · exact absurd h (hlow (by omega) (by omega))
  split at h
  · exact absurd h (hlow (by omega) (by omega))
  · exact absurd h (hlow (by omega) (by omega))

theorem count_encode (text : String) : (encode text).count 0x0A = text.toList.count '\n' := by
  rw [encode]
  induction text.toList with
  | nil => rfl
  | cons c cs ih =>
    rw [List.flatMap_cons, List.count_append, ih, List.count_cons, Nat.add_comm]
    by_cases hc : c = '\n'
    · subst hc
      rfl
    · rw [List.count_eq_zero_of_not_mem (mt feed_mem_utf8EncodeChar_iff.1 hc)]
      simp [hc]

theorem encode_eq_nil_iff (text : String) : encode text = [] ↔ text.toList = [] := by
  refine ⟨fun h => ?_, fun h => by rw [encode, h]; rfl⟩
  have hlength := length_le_length_flatMap text.toList
  rw [← encode, h] at hlength
  exact List.eq_nil_of_length_eq_zero (Nat.le_zero.1 hlength)

theorem getLast?_encode_iff (text : String) :
    (encode text).getLast? = some 0x0A ↔ text.toList.getLast? = some '\n' := by
  rw [encode]
  obtain hnil | ⟨front, c, hcs⟩ := List.eq_nil_or_concat text.toList
  · simp [hnil]
  · have hne : String.utf8EncodeChar c ≠ [] := by simp
    rw [hcs, List.concat_eq_append, List.flatMap_append, List.flatMap_singleton,
      List.getLast?_append_of_ne_nil _ hne, List.getLast?_concat, Option.some_inj]
    refine ⟨fun hlast => feed_mem_utf8EncodeChar_iff.1 (List.mem_of_getLast? hlast), ?_⟩
    rintro rfl
    rfl

end Utf8

/-- **The number of lines of a file**: one for each line feed, and one for what is behind the
last. -/
def feedLines (content : Bytes) : Nat :=
  content.count 0x0A + if content = [] ∨ content.getLast? = some 0x0A then 0 else 1

theorem feedLines_encode (text : String) :
    feedLines (Utf8.encode text) = (Text.lines text).length := by
  rw [feedLines, Utf8.count_encode, Text.length_lines, Text.lineCount, Text.length_rawLines]
  simp only [Utf8.encode_eq_nil_iff, Utf8.getLast?_encode_iff]

/-! ## Sorting what is in order -/

section Sorting

variable {α : Type} {le : α → α → Bool} {S : α → α → Prop} {l : List α}

/-- **Sorting keeps the order of what counts as equal.** -/
theorem pairwise_mergeSort_of_pairwise (trans : ∀ a b c, le a b → le b c → le a c)
    (total : ∀ a b, le a b || le b a) (h : l.Pairwise S) :
    (l.mergeSort le).Pairwise fun a b => le a b ∧ (le b a → S a b) := by
  induction h with
  | nil => simp
  | @cons a l hfirst _ ih =>
    obtain ⟨front, back, hsorted, hrest, hfront⟩ := List.mergeSort_cons trans total a l
    have hle := List.pairwise_mergeSort trans total (a :: l)
    rw [hrest, List.pairwise_append] at ih
    rw [hsorted, List.pairwise_append, List.pairwise_cons] at hle ⊢
    obtain ⟨hfronts, hbacks, hacross⟩ := ih
    refine ⟨hfronts, ⟨fun b hb => ?_, hbacks⟩, fun b hb c hc => ?_⟩
    · have hmem : b ∈ l := (List.mergeSort_perm l le).mem_iff.1 (hrest ▸ List.mem_append_right _ hb)
      exact ⟨hle.2.1.1 b hb, fun _ => hfirst b hmem⟩
    · obtain rfl | hc := List.mem_cons.1 hc
      · have hnot : le c b = false := by simpa using hfront b hb
        exact ⟨hle.2.2 b hb c List.mem_cons_self, fun hcb => absurd hcb (by simp [hnot])⟩
      · exact hacross b hb c hc

/-- **What is above a limit comes first** where the larger comes before the smaller. -/
theorem filter_prefix_of_pairwise {size : α → Nat} (h : l.Pairwise fun a b => size b ≤ size a)
    (limit : Nat) : l.filter (fun a => limit < size a) <+: l := by
  induction h with
  | nil => exact List.prefix_rfl
  | @cons a l hfirst _ ih =>
    rw [List.filter_cons]
    split
    · exact (List.prefix_cons_inj a).2 ih
    · next hlimit =>
      have hnone : l.filter (fun b => limit < size b) = [] := by
        rw [List.filter_eq_nil_iff]
        intro b hb hlong
        rw [decide_eq_true_iff] at hlimit hlong
        exact hlimit (Nat.lt_of_lt_of_le hlong (hfirst b hb))
      rw [hnone]
      exact List.nil_prefix

end Sorting

/-! ## The report -/

namespace SourceRules

variable {fs : FileSystem} {root : Path} {texts : List (List Name × String)} {m n : Nat}
  {S : List Name × String → List Name × String → Prop}

/-- **The order of a length report**: the longer file first, and files of one length by their
paths. -/
def LongerFirst (a b : Path × Nat) : Prop :=
  b.2 < a.2 ∨ a.2 = b.2 ∧ a.1 < b.1

/-- **A length report**: the paths of the files of the workspace that have more lines than the
limit, each once and with the number of its lines, in order. -/
structure IsLengthReport (fs : FileSystem) (root : Path) (limit : Nat)
    (report : List (Path × Nat)) : Prop where
  mem_iff : ∀ path count, (path, count) ∈ report ↔
    ∃ place content, Scope.workspace.HasFile fs root place content ∧
      path = Scope.workspace.pathOf root place ∧ count = feedLines content ∧ limit < count
  nodup : (report.map Prod.fst).Nodup
  ordered : report.Pairwise LongerFirst

theorem pairwise_longOf (limit : Nat) (h : texts.Pairwise S) :
    (longOf limit texts).Pairwise fun a b =>
      (Text.lines b.2).length ≤ (Text.lines a.2).length ∧
        ((Text.lines a.2).length ≤ (Text.lines b.2).length → S a b) := by
  refine (pairwise_mergeSort_of_pairwise ?_ ?_ (h.filter _)).imp fun hab => ?_
  · intro a b c hab hbc
    rw [decide_eq_true_iff] at *
    exact Nat.le_trans hbc hab
  · intro a b
    rw [Bool.or_eq_true, decide_eq_true_iff, decide_eq_true_iff]
    exact Nat.le_total _ _
  · simpa only [decide_eq_true_iff] using hab

/-- **A higher limit keeps the longer files**, in the order in which they are. -/
theorem longOf_eq_filter (h : texts.Pairwise fun a b => a.1 < b.1) (hle : m ≤ n) :
    longOf n texts = (longOf m texts).filter fun file => n < (Text.lines file.2).length := by
  refine List.Perm.eq_of_pairwise ?_ (pairwise_longOf n h) ((pairwise_longOf m h).filter _) ?_
  · intro a b _ _ hab hba
    exact absurd (hab.2 hba.1) (List.lt_asymm (hba.2 hab.1))
  · have hfilter : (texts.filter fun file => m < (Text.lines file.2).length).filter
        (fun file => n < (Text.lines file.2).length) =
          texts.filter fun file => n < (Text.lines file.2).length := by
      rw [List.filter_filter]
      refine List.filter_congr fun file _ => ?_
      rw [Bool.and_eq_left_iff_imp, decide_eq_true_iff, decide_eq_true_iff]
      exact Nat.lt_of_le_of_lt hle
    refine (List.mergeSort_perm _ _).trans ?_
    rw [← hfilter]
    exact ((List.mergeSort_perm _ _).filter _).symm

theorem longOf_prefix_of_le (h : texts.Pairwise fun a b => a.1 < b.1) (hle : m ≤ n) :
    longOf n texts <+: longOf m texts := by
  rw [longOf_eq_filter h hle]
  exact filter_prefix_of_pairwise ((pairwise_longOf m h).imp fun hab => hab.1) n

/-- A file as it stands in a length report. -/
def measured (root : Path) (file : List Name × String) : Path × Nat :=
  (Scope.workspace.pathOf root file.1, (Text.lines file.2).length)

section Listing

variable (htree : fs.root.IsTree)
  (htexts : texts.map Scope.written = Scope.workspace.placedFiles fs root)
include htree htexts

theorem pairwise_texts : texts.Pairwise fun a b => a.1 < b.1 := by
  have hplaces : (Scope.workspace.placedFiles fs root).Pairwise fun a b => a.1 < b.1 :=
    Scope.pairwise_placedFiles htree
  rwa [← htexts, List.pairwise_map] at hplaces

/-- The files of a listing that are too long make a length report. -/
theorem isLengthReport_longOf (hnames : fs.root.IsNamed)
    (hread : Scope.workspace.IsReadable fs root) (limit : Nat) :
    IsLengthReport fs root limit ((longOf limit texts).map (measured root)) := by
  have hlisting := Scope.isListing_of_map_written htree hread htexts
  have hpaths : texts.Pairwise fun a b =>
      Scope.workspace.pathOf root a.1 < Scope.workspace.pathOf root b.1 := by
    have hfiles : ((Scope.workspace.files fs root).map Prod.fst).Pairwise (· < ·) :=
      Scope.pairwise_files htree hnames
    rwa [Scope.files_eq_map, ← htexts, List.map_map, List.map_map, List.pairwise_map] at hfiles
  refine ⟨fun path count => ?mem, ?nodup, ?ordered⟩
  case mem =>
    rw [List.mem_map]
    constructor
    · rintro ⟨⟨place, text⟩, hmem, hpair⟩
      obtain ⟨rfl, rfl⟩ := Prod.mk.inj hpair
      obtain ⟨htext, hlong⟩ := mem_longOf_iff.1 hmem
      have hfile := (hlisting.mem_iff place text).1 htext
      exact ⟨place, _, hfile, rfl, (feedLines_encode text).symm, hlong⟩
    · rintro ⟨place, content, hfile, rfl, rfl, hlong⟩
      obtain ⟨text, rfl⟩ := hread.isText place content hfile
      rw [feedLines_encode] at hlong ⊢
      exact ⟨(place, text), mem_longOf_iff.2 ⟨(hlisting.mem_iff place text).2 hfile, hlong⟩, rfl⟩
  case nodup =>
    have hmem : ∀ place ∈ (longOf limit texts).map Prod.fst,
        ∃ content, Scope.workspace.HasFile fs root place content := by
      intro place hplace
      obtain ⟨⟨place, text⟩, hlong, rfl⟩ := List.mem_map.1 hplace
      exact ⟨_, (hlisting.mem_iff place text).1 (mem_longOf_iff.1 hlong).1⟩
    have hnodup := (nodup_longOf hlisting.nodup).map_on fun place hplace place' hplace' hpath =>
      have ⟨_, hfile⟩ := hmem place hplace
      have ⟨_, hfile'⟩ := hmem place' hplace'
      Scope.HasFile.eq_of_pathOf_eq hnames hfile hfile' hpath
    rwa [List.map_map] at hnodup ⊢
  case ordered =>
    rw [List.pairwise_map]
    refine (pairwise_longOf limit hpaths).imp fun {a b} hab => ?_
    exact (Nat.lt_or_eq_of_le hab.1).imp_right fun heq => ⟨heq.symm, hab.2 heq.ge⟩

end Listing

/-- **The longest files come first.**  In a tree whose files in the workspace can be read as texts,
every limit has a length report, which is what is found; and the report for a higher limit is the
beginning of that for a lower one. -/
theorem overlong_longest_first (htree : fs.root.IsTree) (hnames : fs.root.IsNamed)
    (hread : Scope.workspace.IsReadable fs root) :
    ∃ report : Nat → List (Path × Nat),
      (∀ limit, IsLengthReport fs root limit (report limit) ∧
        overlong fs root limit = .ok ((report limit).map fun e => .overlong e.1 e.2)) ∧
      ∀ m n, m ≤ n → report n <+: report m := by
  obtain ⟨texts, htexts⟩ := Scope.exists_map_written htree hread
  have hsources := Scope.sources_of_map_written htree hread htexts
  refine ⟨fun limit => (longOf limit texts).map (measured root), fun limit => ⟨?_, ?_⟩,
    fun m n hle => ?_⟩
  · exact isLengthReport_longOf htree htexts hnames hread limit
  · rw [overlong_of_sources hsources, List.map_map]
    rfl
  · exact (longOf_prefix_of_le (pairwise_texts htree htexts) hle).map (measured root)

/-- The second file is longer, though no line feed ends it, and a report of files of two lines has
it alone; a report of files of one line goes on with the first. -/
theorem overlong_longest_first_unended :
    let fs : FileSystem := ⟨.directory [(Utf8.encode "src", .directory
      [(Utf8.encode "a.rs", .file (Utf8.encode "f();\n")),
        (Utf8.encode "b.rs", .file (Utf8.encode "f();\n\ng();"))])], []⟩
    let root := Path.ofString "/"
    fs.root.IsTree ∧ fs.root.IsNamed ∧
    Scope.workspace.IsReadable fs root ∧
    ∃ all long : List (Path × Nat),
      overlong fs root 0 = .ok (all.map fun e => .overlong e.1 e.2) ∧
      overlong fs root 1 = .ok (long.map fun e => .overlong e.1 e.2) ∧ long <+: all ∧
      (Path.ofString "/src/b.rs", 3) ∈ long ∧ (Path.ofString "/src/a.rs", 1) ∉ long ∧
      (Path.ofString "/src/a.rs", 1) ∈ all := by
  intro fs root
  have htree : fs.root.IsTree := by decide
  have hnames : fs.root.IsNamed := by decide
  let places := [["src", "a.rs"].map Utf8.encode, ["src", "b.rs"].map Utf8.encode]
  have hroot : fs.find? (Scope.workspace.base root) = .ok ([], fs.root) := rfl
  have hplaces : ∀ place content, Scope.workspace.HasFile fs root place content →
      place ∈ places ∧ ∃ text, content = Utf8.encode text := by
    intro place content h
    obtain ⟨e, he, names, rfl, hsources⟩ := Node.exists_entry_of_at?_file (h.at?_of_base hroot)
    obtain rfl := List.mem_singleton.1 he
    obtain ⟨e, he, names, rfl, hbelow⟩ := Node.exists_entry_of_at?_file hsources
    rw [List.mem_cons, List.mem_singleton] at he
    obtain rfl | rfl := he
    · obtain ⟨rfl, hcontent⟩ := Node.at?_file_eq_some_iff.1 hbelow
      exact ⟨List.mem_cons_self, _, Node.file.inj hcontent⟩
    · obtain ⟨rfl, hcontent⟩ := Node.at?_file_eq_some_iff.1 hbelow
      exact ⟨List.mem_cons_of_mem _ List.mem_cons_self, _, Node.file.inj hcontent⟩
  have hplain : ∀ place ∈ places, ∀ name ∈ place,
      IsEntryName name ∧ name.length ≤ 255 ∧ 0 ∉ name := by decide
  have hshort : ∀ place ∈ places,
      (Scope.workspace.pathOf root place).bytes.length < FileSystem.maxPathLength := by decide
  have hread : Scope.workspace.IsReadable fs root :=
    Scope.isReadable_of_short (fun place content h => hplain place (hplaces place content h).1)
      (fun place content h => hshort place (hplaces place content h).1)
      fun place content h => (hplaces place content h).2
  obtain ⟨report, hreport, hbeginning⟩ := overlong_longest_first htree hnames hread
  refine ⟨htree, hnames, hread, report 0, report 1, (hreport 0).2, (hreport 1).2,
    hbeginning 0 1 Nat.one_pos.le, ?_, ?_, ?_⟩
  · exact ((hreport 1).1.mem_iff _ _).2 ⟨["src", "b.rs"].map Utf8.encode, _,
      ⟨⟨[], _, hroot, rfl⟩, by decide, ⟨Utf8.encode "b", by decide, rfl⟩, .inl (by decide)⟩,
      by decide, by decide, by decide⟩
  · intro hmem
    obtain ⟨place, content, -, -, -, hlong⟩ := ((hreport 1).1.mem_iff _ _).1 hmem
    exact Nat.lt_irrefl 1 hlong
  · exact ((hreport 0).1.mem_iff _ _).2 ⟨["src", "a.rs"].map Utf8.encode, _,
      ⟨⟨[], _, hroot, rfl⟩, by decide, ⟨Utf8.encode "a", by decide, rfl⟩, .inl (by decide)⟩,
      by decide, by decide, by decide⟩

end SourceRules

end LaunchLine
