import LaunchLine.Config.Basic

/-!
# Config/Field — the fields of a config by name

A document that holds a config is a list of entries, by key.  An absent field sets nothing; no field
may be given twice; other keys are no fields.  How a value is read is the document format's affair:
a `FieldReader` says it for each kind of field.
-/

namespace LaunchLine

/-- The keys of a config's fields, in the order in which a document without keys lists them. -/
def Config.keys : List String :=
  ["timeout", "outputDir", "storeTestArtifacts", "repeat", "workers", "retryFailed", "gtestFilter",
    "alsoRunDisabledTests", "extraArgs", "verbose"]

/-- How a document format reads the values of fields.  A value that sets nothing is read as `none`,
one that the field cannot hold is not read. -/
structure FieldReader (α : Type) where
  float : α → Option (Option Float)
  text : α → Option (Option String)
  switch : α → Option (Option Bool)
  count : α → Option (Option UInt32)
  words : α → Option (Option (List String))

namespace FieldReader

variable {α : Type}

/-- The value of a field. -/
def field {β : Type} (read : α → Option (Option β)) (entries : List (String × α)) (key : String) :
    Option (Option β) :=
  match entries.lookup key with
  | some value => read value
  | none => some none

/-- Whether no field is given twice. -/
def isUnambiguous (entries : List (String × α)) : Bool :=
  Config.keys.all fun key => (entries.filter fun entry => entry.1 == key).length ≤ 1

/-- The config that entries hold. -/
def config? (r : FieldReader α) (entries : List (String × α)) : Option Config := do
  guard (isUnambiguous entries)
  let timeout? ← field r.float entries "timeout"
  let outputDir? ← field r.text entries "outputDir"
  let storeTestArtifacts? ← field r.switch entries "storeTestArtifacts"
  let repeatCount? ← field r.count entries "repeat"
  let workers? ← field r.count entries "workers"
  let retryFailed? ← field r.count entries "retryFailed"
  let testFilter? ← field r.text entries "gtestFilter"
  let runDisabledTests? ← field r.switch entries "alsoRunDisabledTests"
  let extraArgs? ← field r.words entries "extraArgs"
  let verbose? ← field r.switch entries "verbose"
  some
    { timeout?, outputDir?, storeTestArtifacts?, repeatCount?, workers?, retryFailed?, testFilter?,
      runDisabledTests?, extraArgs?, verbose? }

/-- **Entries that hold a config**: no field is given twice, and each field is read as what the
config has for it. -/
structure Reads (r : FieldReader α) (entries : List (String × α)) (cfg : Config) : Prop where
  unambiguous : isUnambiguous entries = true
  timeout : field r.float entries "timeout" = some cfg.timeout?
  outputDir : field r.text entries "outputDir" = some cfg.outputDir?
  storeTestArtifacts : field r.switch entries "storeTestArtifacts" = some cfg.storeTestArtifacts?
  repeatCount : field r.count entries "repeat" = some cfg.repeatCount?
  workers : field r.count entries "workers" = some cfg.workers?
  retryFailed : field r.count entries "retryFailed" = some cfg.retryFailed?
  testFilter : field r.text entries "gtestFilter" = some cfg.testFilter?
  runDisabledTests : field r.switch entries "alsoRunDisabledTests" = some cfg.runDisabledTests?
  extraArgs : field r.words entries "extraArgs" = some cfg.extraArgs?
  verbose : field r.switch entries "verbose" = some cfg.verbose?

theorem config?_eq_some_iff {r : FieldReader α} {entries : List (String × α)} {cfg : Config} :
    r.config? entries = some cfg ↔ r.Reads entries cfg := by
  constructor
  · intro h
    obtain ⟨_, hguard, h⟩ := Option.bind_eq_some_iff.1 h
    simp only [Option.bind_eq_bind, Option.bind_eq_some_iff] at h
    obtain ⟨t, ht, o, ho, s, hs, n, hn, w, hw, f, hf, g, hg, d, hd, e, he, v, hv, hcfg⟩ := h
    obtain rfl := Option.some.inj hcfg
    have hunambiguous : isUnambiguous entries = true := by
      refine Decidable.byContradiction fun hnot => ?_
      unfold guard at hguard
      rw [if_neg hnot] at hguard
      cases hguard
    exact ⟨hunambiguous, ht, ho, hs, hn, hw, hf, hg, hd, he, hv⟩
  · rintro ⟨hunambiguous, ht, ho, hs, hn, hw, hf, hg, hd, he, hv⟩
    rw [config?, hunambiguous, ht, ho, hs, hn, hw, hf, hg, hd, he, hv]
    rfl

end FieldReader

end LaunchLine
