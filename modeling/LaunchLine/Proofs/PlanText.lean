import LaunchLine.Proofs.JsonText
import LaunchLine.Report.Render

/-!
# Proofs/PlanText — a plan is read back from its JSON text

`LaunchPlan.ofJson?` makes a plan of a JSON object, part by part; a part that may be absent is null
then, and a text otherwise.  The JSON text of a plan denotes an object of which this makes the plan
again, so nothing of the plan is lost in it, `LaunchPlan.jsonText_denotes`.
-/

namespace LaunchLine

namespace Json.Value

/-! ## Texts -/

/-- The text that a value is. -/
def text? : Value → Option String
  | string text => some text
  | _ => none

/-- The text that a value is, or its absence, for which null stands. -/
def textOrNull? : Value → Option (Option String)
  | null => some none
  | string text => some (some text)
  | _ => none

/-- The texts that a value lists. -/
def texts? : Value → Option (List String)
  | array items => items.mapM text?
  | _ => none

@[simp] theorem textOrNull?_ofText? (text? : Option String) :
    (ofText? text?).textOrNull? = some text? := by
  cases text? <;> rfl

@[simp] theorem texts?_ofTexts (texts : List String) : (ofTexts texts).texts? = some texts := by
  rw [ofTexts, texts?]
  induction texts with
  | nil => rfl
  | cons text texts ih =>
    rw [List.map_cons, List.mapM_cons, ih]
    rfl

theorem isPlain_ofText? (text? : Option String) : (ofText? text?).IsPlain := by
  cases text? with
  | none => exact .null
  | some text => exact .string text

theorem isPlain_ofTexts (texts : List String) : (ofTexts texts).IsPlain :=
  .array (List.forall_mem_map.2 fun text _ => .string text)

end Json.Value

/-! ## The plan -/

namespace LaunchPlan

/-- **The plan that a JSON object tells**, part by part. -/
def ofJson? : Json.Value → Option LaunchPlan
  | .object members => do
    let launcherArgs ← (members.lookup "wrapper_args").bind Json.Value.texts?
    let slotArgs ← (members.lookup "rewritten_options").bind Json.Value.texts?
    let executable? ← (members.lookup "executable").bind Json.Value.textOrNull?
    let passedOn ← (members.lookup "passthrough_args").bind Json.Value.texts?
    let outputDir? ← (members.lookup "output_dir").bind Json.Value.textOrNull?
    let artifactsDir? ← (members.lookup "test_artifacts_dir").bind Json.Value.textOrNull?
    some { launcherArgs, slotArgs, executable?, passedOn, outputDir?, artifactsDir? }
  | _ => none

/-- **Every part is told.** -/
theorem ofJson?_toJson (p : LaunchPlan) : ofJson? p.toJson = some p := by
  -- to look the members up is to compare names, which computes
  change ((Json.Value.ofTexts p.launcherArgs).texts?.bind fun launcherArgs =>
    (Json.Value.ofTexts p.slotArgs).texts?.bind fun slotArgs =>
    (Json.Value.ofText? p.executable?).textOrNull?.bind fun executable? =>
    (Json.Value.ofTexts p.passedOn).texts?.bind fun passedOn =>
    (Json.Value.ofText? p.outputDir?).textOrNull?.bind fun outputDir? =>
    (Json.Value.ofText? p.artifactsDir?).textOrNull?.bind fun artifactsDir? =>
    some { launcherArgs, slotArgs, executable?, passedOn, outputDir?, artifactsDir? }) = some p
  simp only [Json.Value.texts?_ofTexts, Json.Value.textOrNull?_ofText?, Option.bind_some]

theorem isPlain_toJson (p : LaunchPlan) : p.toJson.IsPlain := by
  refine .object fun member hmember => ?_
  simp only [List.mem_cons, List.not_mem_nil, or_false] at hmember
  rcases hmember with rfl | rfl | rfl | rfl | rfl | rfl
  · exact Json.Value.isPlain_ofTexts p.launcherArgs
  · exact Json.Value.isPlain_ofTexts p.slotArgs
  · exact Json.Value.isPlain_ofText? p.executable?
  · exact Json.Value.isPlain_ofTexts p.passedOn
  · exact Json.Value.isPlain_ofText? p.outputDir?
  · exact Json.Value.isPlain_ofText? p.artifactsDir?

theorem parse?_jsonText (p : LaunchPlan) : Json.standard.parse? p.jsonText = some p.toJson :=
  (isPlain_toJson p).parse?_render

/-- **The JSON text of a plan loses nothing.**  It denotes an object that has the parts of a plan
for its members, in order, and tells this plan; so no two plans have the same text. -/
theorem jsonText_denotes (p : LaunchPlan) :
    (∃ members, Json.standard.parse? p.jsonText = some (.object members) ∧
      members.map Prod.fst = ["wrapper_args", "rewritten_options", "executable",
        "passthrough_args", "output_dir", "test_artifacts_dir"] ∧
      ofJson? (.object members) = some p) ∧
    ∀ q : LaunchPlan, q.jsonText = p.jsonText → q = p := by
  refine ⟨⟨_, parse?_jsonText p, rfl, ofJson?_toJson p⟩, fun q hq => ?_⟩
  have hjson : q.toJson = p.toJson := by
    refine Option.some.inj ((parse?_jsonText q).symm.trans ?_)
    rw [hq, parse?_jsonText p]
  refine Option.some.inj ((ofJson?_toJson q).symm.trans ?_)
  rw [hjson, ofJson?_toJson p]

end LaunchPlan

end LaunchLine
