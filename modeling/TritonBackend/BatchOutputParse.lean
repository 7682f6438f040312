import TritonBackend.ModelConfig

/-!
The batch outputs that a well-typed configuration is parsed to. The model output that a batch
output is about is looked up by name; what is parsed when there is none, or one of an unknown
data type, is taken as it is.
-/

namespace TritonBackend

open Fallible Growable

structure ModelOutput where
  name : String
  dataType : String
  dims : List Int
  reshape : Option (List Int)
deriving DecidableEq

structure BatchOutputEntry where
  targetNames : List String
  named : targetNames ≠ []
  kind : String
  sourceInputs : List String

/-- The part of a configuration that the batch outputs are parsed from. -/
structure OutputConfig where
  maxBatchSize : Int
  outputs : List ModelOutput
  batchOutputs : List BatchOutputEntry

section
variable {Value : Type} [TritonJson Value]

def ReshapedTo (io : Value) : Option (List Int) → Prop
  | none => TritonJson.find io "reshape" = none
  | some shape => ∃ reshape, TritonJson.find io "reshape" = some reshape ∧
      TritonJson.Ints reshape "shape" shape

structure ModelOutput.Types (io : Value) (output : ModelOutput) : Prop where
  name : TritonJson.memberAsString io "name" = .ok output.name
  dataType : TritonJson.memberAsString io "data_type" = .ok output.dataType
  dims : TritonJson.Ints io "dims" output.dims
  reshape : ReshapedTo io output.reshape

structure BatchOutputEntry.Types (bo : Value) (entry : BatchOutputEntry) : Prop where
  targetNames : TritonJson.Strings bo "target_name" entry.targetNames
  kind : TritonJson.memberAsString bo "kind" = .ok entry.kind
  sourceInputs : TritonJson.Strings bo "source_input" entry.sourceInputs

/-- The configuration is well typed, and this is what it says. -/
structure OutputConfig.Types (config : Value) (c : OutputConfig) : Prop where
  maxBatchSize : TritonJson.memberAsInt config "max_batch_size" = .ok c.maxBatchSize
  outputs : TritonJson.Objects config "output" ModelOutput.Types c.outputs
  batchOutputs : TritonJson.Objects config "batch_output" BatchOutputEntry.Types c.batchOutputs

end

def BatchOutputEntry.targetName (entry : BatchOutputEntry) : String :=
  entry.targetNames.head entry.named

def ModelOutput.shape (output : ModelOutput) : List Int := output.reshape.getD output.dims

def ModelOutput.type (output : ModelOutput) : DataType :=
  modelConfigDataTypeToTritonServerDataType output.dataType

namespace OutputConfig

/-- The model output that the entry is about: the first with the name of its first target. -/
def targetOf (c : OutputConfig) (entry : BatchOutputEntry) : Option ModelOutput :=
  c.outputs.find? fun output => output.name = entry.targetName

def batchDims (c : OutputConfig) : List Int := if c.maxBatchSize ≠ 0 then [-1] else []

/-- A batch output that is fully determined by its entry. -/
structure Determines (c : OutputConfig) (entry : BatchOutputEntry) (parsed : ParsedBatchOutput) :
    Prop where
  targetNames : parsed.targetNames = entry.targetNames
  sourceInputs : parsed.sourceInputs = entry.sourceInputs
  target : ∃ output, c.targetOf entry = some output ∧ output.type ≠ .invalid ∧
    parsed.dataType = some output.type ∧ parsed.outputShape = c.batchDims ++ output.shape

def parsed (c : OutputConfig) (entry : BatchOutputEntry) : ParsedBatchOutput where
  targetNames := entry.targetNames
  dataType := (c.targetOf entry).map ModelOutput.type
  outputShape := c.batchDims ++ ((c.targetOf entry).map ModelOutput.shape).getD []
  sourceInputs := entry.sourceInputs

theorem determines_parsed {c : OutputConfig} {entry : BatchOutputEntry} :
    c.Determines entry (c.parsed entry) ↔
      ∃ output, c.targetOf entry = some output ∧ output.type ≠ .invalid := by
  constructor
  · rintro ⟨-, -, output, found, valid, -⟩
    exact ⟨output, found, valid⟩
  · rintro ⟨output, found, valid⟩
    refine ⟨rfl, rfl, output, found, valid, ?_, ?_⟩
    · simp only [parsed, found, Option.map_some]
    · simp only [parsed, found, Option.map_some, Option.getD_some]

abbrev scatterKind : String := "BATCH_SCATTER_WITH_INPUT_SHAPE"

section
variable {Value : Type} [TritonJson Value]

theorem parseShape_reshaped {io : Value} {output : ModelOutput} (types : output.Types io) :
    (TritonJson.find io "reshape" = none ∧ parseShape io "dims" = .ok output.shape) ∨
      ∃ reshape, TritonJson.find io "reshape" = some reshape ∧
        parseShape reshape "shape" = .ok output.shape := by
  have reshaped := types.reshape
  rw [ModelOutput.shape]
  cases given : output.reshape with
  | none =>
      rw [given] at reshaped
      exact Or.inl ⟨reshaped, parseShape_success.mpr types.dims⟩
  | some shape =>
      rw [given] at reshaped
      obtain ⟨reshape, found, ints⟩ := reshaped
      exact Or.inr ⟨reshape, found, parseShape_success.mpr ints⟩

theorem scanModelOutputs_finds {ios : Value} {target : String} {shape : List Int}
    {places : List Nat} {outputs : List ModelOutput}
    (holds : List.Forall₂ (fun idx output => ∃ io, TritonJson.indexAsObject ios idx = .ok io ∧
      output.Types io) places outputs) :
    let found := outputs.find? fun output => output.name = target
    scanModelOutputs ios (some target) shape places =
      .ok (found.map ModelOutput.type, shape ++ (found.map ModelOutput.shape).getD []) := by
  induction holds with
  | nil => simp [scanModelOutputs]
  | @cons place output _ _ here _ ih =>
      obtain ⟨io, isObject, types⟩ := here
      simp only [scanModelOutputs, isObject, types.name, types.dataType, bind, Except.bind,
        List.find?_cons, Option.some.injEq]
      by_cases named : output.name = target
      · simp only [named, if_true, decide_true]
        rcases parseShape_reshaped types with ⟨found, shaped⟩ | ⟨reshape, found, shaped⟩
        · simp only [found, shaped]
          rfl
        · simp only [found, shaped]
          rfl
      · simp only [named, if_false, decide_false]
        exact ih

theorem readBatchOutput_entry {config bo : Value} {c : OutputConfig} (typed : c.Types config)
    {entry : BatchOutputEntry} (types : entry.Types bo) :
    readBatchOutput config bo =
      if entry.kind = scatterKind then .ok (c.parsed entry)
      else invalidArg ("unexpected batch output kind '" ++ entry.kind ++ "'") := by
  obtain ⟨ios, isArray, holds⟩ := typed.outputs
  simp only [readBatchOutput, types.targetNames.read, types.kind, bind, Except.bind]
  by_cases known : entry.kind = scatterKind
  · have target : entry.targetNames.head? = some entry.targetName := List.head?_eq_some_head _
    rw [if_pos known, if_neg (not_not_intro known), target]
    simp only [typed.maxBatchSize, isArray, scanModelOutputs_finds holds, types.sourceInputs.read]
    rfl
  · rw [if_neg known, if_pos known]

/-- A well-typed configuration is read to the end unless an entry is of another kind. -/
theorem readEach_batchOutputs {config : Value} {c : OutputConfig} (typed : c.Types config)
    {parsed : List ParsedBatchOutput} :
    readEach config "batch_output" (readBatchOutput config) = .ok parsed ↔
      (∀ entry ∈ c.batchOutputs, entry.kind = scatterKind) ∧
        parsed = c.batchOutputs.map c.parsed := by
  obtain ⟨bos, isArray, holds⟩ := typed.batchOutputs
  obtain ⟨objects, areRead, types⟩ := readAll_forall₂ holds
  have same : readAll (readBatchOutput config) objects = readAll (fun entry : BatchOutputEntry =>
      if entry.kind = scatterKind then .ok (c.parsed entry)
      else invalidArg ("unexpected batch output kind '" ++ entry.kind ++ "'")) c.batchOutputs :=
    readAll_congr (types.imp fun _ _ types => readBatchOutput_entry typed types)
  have reads : readEach config "batch_output" (readBatchOutput config) =
      readAll (readBatchOutput config) objects := by
    simp only [readEach, isArray, readObjects, areRead, bind, Except.bind]
  rw [reads, same]
  generalize c.batchOutputs = entries
  induction entries generalizing parsed with
  | nil => simp [readAll, eq_comm]
  | cons entry rest ih =>
      rw [readAll_cons, List.forall_mem_cons, List.map_cons]
      by_cases known : entry.kind = scatterKind
      · simp only [known, if_true, Except.ok.injEq, ih, true_and]
        constructor
        · rintro ⟨_, later, rfl, ⟨kinds, rfl⟩, same⟩
          exact ⟨kinds, same⟩
        · rintro ⟨kinds, same⟩
          exact ⟨_, _, rfl, ⟨kinds, rfl⟩, same⟩
      · simp only [known, if_false, false_and, iff_false]
        rintro ⟨_, _, impossible, -⟩
        cases impossible

end

end OutputConfig

namespace BackendModel

variable {Value : Type} [TritonJson Value]

/-- The parse ends with an error, or with one determined batch output for each entry. -/
def ParsesDetermined (growth : Growth) (model : BackendModel) (config : Value) (c : OutputConfig) :
    Prop :=
  let result := parseBatchOutputs growth config model
  result.1 = none → List.Forall₂ c.Determines c.batchOutputs result.2.batchOutputs.elements

theorem parseBatchOutputs_typed {growth : Growth} {model last : BackendModel} {config : Value}
    {c : OutputConfig} (typed : c.Types config) :
    parseBatchOutputs growth config model = (none, last) ↔
      (∀ entry ∈ c.batchOutputs, entry.kind = OutputConfig.scatterKind) ∧
        last = { model with batchOutputs :=
          model.batchOutputs.clear.emplaceAll growth (c.batchOutputs.map c.parsed) } := by
  rw [parseBatchOutputs_success]
  simp only [OutputConfig.readEach_batchOutputs typed]
  constructor
  · rintro ⟨_, ⟨kinds, rfl⟩, same⟩
    exact ⟨kinds, same⟩
  · rintro ⟨kinds, same⟩
    exact ⟨_, ⟨kinds, rfl⟩, same⟩

/-- A parse leaves nothing undetermined exactly when an entry is of another kind, or each is
about a model output that there is and whose data type is known. -/
theorem parsesDetermined_iff (growth : Growth) (model : BackendModel) (config : Value)
    (c : OutputConfig) (typed : c.Types config) :
    ParsesDetermined growth model config c ↔
      (∃ entry ∈ c.batchOutputs, entry.kind ≠ OutputConfig.scatterKind) ∨
        ∀ entry ∈ c.batchOutputs, ∃ output, c.targetOf entry = some output ∧
          output.type ≠ .invalid := by
  simp only [ParsesDetermined]
  by_cases kinds : ∀ entry ∈ c.batchOutputs, entry.kind = OutputConfig.scatterKind
  · have parsed := (@parseBatchOutputs_typed _ _ growth model _ _ _ typed).mpr ⟨kinds, rfl⟩
    have none : ¬ ∃ entry ∈ c.batchOutputs, entry.kind ≠ OutputConfig.scatterKind := by
      rintro ⟨entry, member, other⟩
      exact other (kinds entry member)
    rw [parsed, or_iff_right none, emplaceAll_elements]
    simp only [forall_const, Buffer.clear, List.nil_append, List.forall₂_map_right_iff,
      List.forall₂_same, OutputConfig.determines_parsed]
  · have other : ∃ entry ∈ c.batchOutputs, entry.kind ≠ OutputConfig.scatterKind := by
      simpa only [not_forall, exists_prop] using kinds
    refine iff_of_true (fun success => ?_) (Or.inl other)
    have parsed := (parseBatchOutputs_typed typed).mp (Prod.ext success rfl)
    exact absurd parsed.1 kinds

end BackendModel

/-! A model with one output, "scores", and one batch output. -/

def scoresConfig (maxBatchSize : Int) (dims : List Int) (target : String) : JsonTree := .object [
  ("max_batch_size", .int maxBatchSize),
  ("batch_output", .array [.object [
    ("target_name", .array [.string target]),
    ("kind", .string "BATCH_SCATTER_WITH_INPUT_SHAPE"),
    ("source_input", .array [.string "tokens"])]]),
  ("output", .array [.object [
    ("name", .string "scores"), ("data_type", .string "TYPE_FP32"),
    ("dims", .array (dims.map .int))]])]

def scoresOutputs (maxBatchSize : Int) (dims : List Int) (target : String) : OutputConfig where
  maxBatchSize := maxBatchSize
  outputs := [{ name := "scores", dataType := "TYPE_FP32", dims, reshape := none }]
  batchOutputs := [{
    targetNames := [target]
    named := List.cons_ne_nil _ _
    kind := "BATCH_SCATTER_WITH_INPUT_SHAPE"
    sourceInputs := ["tokens"] }]

theorem holds_ints (items : List Int) :
    TritonJson.Holds (TritonJson.indexAsInt (JsonTree.array (items.map .int)))
      (TritonJson.arraySize (JsonTree.array (items.map .int))) Eq items := by
  have size : TritonJson.arraySize (JsonTree.array (items.map .int)) = items.length :=
    List.length_map _
  rw [TritonJson.Holds, size, List.forall₂_iff_get]
  refine ⟨List.length_range, fun idx inRange inside => ⟨items[idx], ?_, rfl⟩⟩
  rw [List.get_eq_getElem, List.getElem_range]
  simp [TritonJson.indexAsInt, JsonTree.element, JsonTree.toInt, inside]

theorem scoresConfig_types (maxBatchSize : Int) (dims : List Int) (target : String) :
    (scoresOutputs maxBatchSize dims target).Types (scoresConfig maxBatchSize dims target) := by
  have strings (value : String) (items : JsonTree) (same : items = .array [.string value]) :
      TritonJson.Holds (TritonJson.indexAsString items) 1 Eq [value] := by
    rw [same]
    exact List.Forall₂.cons ⟨value, rfl, rfl⟩ List.Forall₂.nil
  refine ⟨rfl, ⟨_, rfl, List.Forall₂.cons ⟨_, rfl, ?_⟩ List.Forall₂.nil⟩,
    ⟨_, rfl, List.Forall₂.cons ⟨_, rfl, ?_⟩ List.Forall₂.nil⟩⟩
  · exact ⟨rfl, rfl, ⟨_, rfl, holds_ints dims⟩, rfl⟩
  · exact ⟨⟨_, rfl, strings target _ rfl⟩, rfl, ⟨_, rfl, strings "tokens" _ rfl⟩⟩

namespace BackendModel

theorem parsesDetermined_scores :
    ParsesDetermined doubling (create false) (scoresConfig 8 [4] "scores")
        (scoresOutputs 8 [4] "scores") ↔
      (∃ entry ∈ (scoresOutputs 8 [4] "scores").batchOutputs,
          entry.kind ≠ OutputConfig.scatterKind) ∨
        ∀ entry ∈ (scoresOutputs 8 [4] "scores").batchOutputs, ∃ output,
          (scoresOutputs 8 [4] "scores").targetOf entry = some output ∧ output.type ≠ .invalid :=
  parsesDetermined_iff doubling (create false) _ _ (scoresConfig_types 8 [4] "scores")

/-- No output has the target's name: the parse succeeds, without a data type or the dimensions of
an output. -/
theorem not_parsesDetermined_labels :
    (scoresOutputs 8 [4] "labels").Types (scoresConfig 8 [4] "labels") ∧
      ¬ ParsesDetermined doubling (create false) (scoresConfig 8 [4] "labels")
        (scoresOutputs 8 [4] "labels") := by
  refine ⟨scoresConfig_types 8 [4] "labels", fun determined => ?_⟩
  have all := determined rfl
  obtain ⟨output, found, -⟩ := (List.forall₂_cons.mp all).1.target
  cases found

end BackendModel

end TritonBackend
