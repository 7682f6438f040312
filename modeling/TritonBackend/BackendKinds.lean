import TritonBackend.ExecuteEcho
import TritonBackend.LifecycleCore
import TritonBackend.ModelConfig

/-!
The life cycles of the example backends: what the recommended, the minimal and the BLS backend
put in the places that they do not share.
-/

namespace TritonBackend

section
variable {Value : Type} [TritonJsonMembers Value]

def recommendedBackend : BackendKind Value ModelState (Server × List Request) where
  modelQueries _ := .ok ()
  construct server := validateModelConfig server.logVerbose
  validate _ := .ok ()
  instanceQueries _ := .ok ()
  execute work model :=
    let done := model.execute work.1 work.2
    (done.1.error, done.2)

def minimalBackend : BackendKind Value BackendModel (Server × List Request) where
  modelQueries _ := .ok ()
  construct _ _ model := .ok model
  validate _ := .ok ()
  instanceQueries _ := .ok ()
  execute work model := ((model.execute work.1 work.2).error, model)

/-! The configuration of a BLS model. -/

namespace Bls

def checkTensorName (place expected got : String) : Except TritonError Unit :=
  if got = expected then .ok ()
  else invalidArg ("expected " ++ place ++ " tensor name to be " ++ expected ++ ", got " ++ got)

def checkDimensions (tensor : String) (shape : List Int) : Except TritonError Unit :=
  if shape.length = 1 then .ok ()
  else invalidArg ("expected " ++ tensor ++ " shape to have one dimension, got " ++
    shapeToString shape)

def checkDatatype (tensor dtype : String) : Except TritonError Unit :=
  if dtype = "TYPE_FP32" then .ok ()
  else invalidArg ("expected " ++ tensor ++ " datatype to be TYPE_FP32, got " ++ dtype)

def checkCount (tensors : String) (count : Nat) : Except TritonError Unit :=
  if count = 2 then .ok ()
  else invalidArg ("expected 2 " ++ tensors ++ ", got " ++ toString count)

section
variable (input0 input1 output0 output1 : Value)

def checkTensorNames : Except TritonError Unit := do
  let in0Name ← TritonJson.memberAsString input0 "name"
  let in1Name ← TritonJson.memberAsString input1 "name"
  let out0Name ← TritonJson.memberAsString output0 "name"
  let out1Name ← TritonJson.memberAsString output1 "name"
  checkTensorName "first input" "INPUT0" in0Name
  checkTensorName "second input" "INPUT1" in1Name
  checkTensorName "first output" "OUTPUT0" out0Name
  checkTensorName "second output" "OUTPUT1" out1Name

def checkShapes : Except TritonError Unit := do
  let in0Shape ← parseShape input0 "dims"
  let in1Shape ← parseShape input1 "dims"
  let out0Shape ← parseShape output0 "dims"
  let out1Shape ← parseShape output1 "dims"
  checkDimensions "INPUT0" in0Shape
  checkDimensions "INPUT1" in1Shape
  checkDimensions "OUTPUT0" out0Shape
  checkDimensions "OUTPUT1" out1Shape

def checkDatatypes : Except TritonError Unit := do
  let in0Dtype ← TritonJson.memberAsString input0 "data_type"
  let in1Dtype ← TritonJson.memberAsString input1 "data_type"
  let out0Dtype ← TritonJson.memberAsString output0 "data_type"
  let out1Dtype ← TritonJson.memberAsString output1 "data_type"
  checkDatatype "INPUT0" in0Dtype
  checkDatatype "INPUT1" in1Dtype
  checkDatatype "OUTPUT0" out0Dtype
  checkDatatype "OUTPUT1" out1Dtype

end

def validateModelConfig (config : Value) : Except TritonError Unit := do
  TritonJson.prettyWrite config
  let maxBatchSize ← TritonJson.memberAsInt config "max_batch_size"
  if maxBatchSize ≠ 0 then
    invalidArg "bls backend only supports models with max_batch_size == 0"
  else
    let inputs ← TritonJson.memberAsArray config "input"
    let outputs ← TritonJson.memberAsArray config "output"
    checkCount "inputs" (TritonJson.arraySize inputs)
    checkCount "outputs" (TritonJson.arraySize outputs)
    let input0 ← TritonJson.indexAsObject inputs 0
    let input1 ← TritonJson.indexAsObject inputs 1
    let output0 ← TritonJson.indexAsObject outputs 0
    let output1 ← TritonJson.indexAsObject outputs 1
    checkTensorNames input0 input1 output0 output1
    checkShapes input0 input1 output0 output1
    checkDatatypes input0 input1 output0 output1

def modelQueries (server : ModelServer Value) : Except TritonError Unit := do
  let _ ← server.modelName
  let _ ← server.modelVersion
  .ok ()

def instanceQueries (server : InstanceServer Value) : Except TritonError Unit := do
  let _ ← server.modelInstanceName
  let _ ← server.modelInstanceDeviceId
  let _ ← server.modelInstanceKind
  .ok ()

/-- `ProcessRequests` leaves the model's state alone; the work is the answer to the call that
reads the instance's state. -/
def backend : BackendKind Value BackendModel (Option TritonError) where
  modelQueries := modelQueries
  construct _ _ model := .ok model
  validate := validateModelConfig
  instanceQueries := instanceQueries
  execute modelInstanceState model := (modelInstanceState, model)

def vector (name : String) (dim : Int) : TensorConfig := {
  name
  dataType := "TYPE_FP32"
  dims := [dim] }

/-- The configuration declares two vectors of 32-bit floats in, and two out. -/
structure Valid (config : Value) : Prop where
  written : TritonJson.prettyWrite config = .ok ()
  unbatched : TritonJson.memberAsInt config "max_batch_size" = .ok 0
  inputs : ∃ dim0 dim1, TritonJson.Objects config "input" Declares
    [vector "INPUT0" dim0, vector "INPUT1" dim1]
  outputs : ∃ dim0 dim1, TritonJson.Objects config "output" Declares
    [vector "OUTPUT0" dim0, vector "OUTPUT1" dim1]

theorem objects_two {config : Value} {name : String} {first second : TensorConfig} :
    TritonJson.Objects config name Declares [first, second] ↔
      ∃ array, TritonJson.memberAsArray config name = .ok array ∧
        TritonJson.arraySize array = 2 ∧
        (∃ io, TritonJson.indexAsObject array 0 = .ok io ∧ Declares io first) ∧
        ∃ io, TritonJson.indexAsObject array 1 = .ok io ∧ Declares io second := by
  rw [TritonJson.objects_sized]
  simp [List.range_succ]

theorem checkTensorNames_success {input0 input1 output0 output1 : Value} {done : Unit} :
    checkTensorNames input0 input1 output0 output1 = .ok done ↔
      TritonJson.memberAsString input0 "name" = .ok "INPUT0" ∧
      TritonJson.memberAsString input1 "name" = .ok "INPUT1" ∧
      TritonJson.memberAsString output0 "name" = .ok "OUTPUT0" ∧
      TritonJson.memberAsString output1 "name" = .ok "OUTPUT1" := by
  simp only [checkTensorNames, checkTensorName, invalidArg, Fallible.bind_success, ite_eq_iff,
    exists_const, reduceCtorEq, and_false, or_false, and_true]
  constructor
  · rintro ⟨_, in0, _, in1, _, out0, _, out1, rfl, rfl, rfl, rfl⟩
    exact ⟨in0, in1, out0, out1⟩
  · rintro ⟨in0, in1, out0, out1⟩
    exact ⟨_, in0, _, in1, _, out0, _, out1, rfl, rfl, rfl, rfl⟩

theorem checkShapes_success {input0 input1 output0 output1 : Value} {done : Unit} :
    checkShapes input0 input1 output0 output1 = .ok done ↔
      ∀ io ∈ [input0, input1, output0, output1], ∃ dim, parseShape io "dims" = .ok [dim] := by
  simp only [checkShapes, checkDimensions, invalidArg, Fallible.bind_success, ite_eq_iff,
    exists_const, reduceCtorEq, and_false, or_false, and_true, List.length_eq_one_iff]
  simp only [List.forall_mem_cons]
  constructor
  · rintro ⟨_, in0, _, in1, _, out0, _, out1, ⟨_, rfl⟩, ⟨_, rfl⟩, ⟨_, rfl⟩, _, rfl⟩
    exact ⟨⟨_, in0⟩, ⟨_, in1⟩, ⟨_, out0⟩, ⟨_, out1⟩, List.forall_mem_nil _⟩
  · rintro ⟨⟨_, in0⟩, ⟨_, in1⟩, ⟨_, out0⟩, ⟨_, out1⟩, _⟩
    exact ⟨_, in0, _, in1, _, out0, _, out1, ⟨_, rfl⟩, ⟨_, rfl⟩, ⟨_, rfl⟩, _, rfl⟩

theorem checkDatatypes_success {input0 input1 output0 output1 : Value} {done : Unit} :
    checkDatatypes input0 input1 output0 output1 = .ok done ↔
      ∀ io ∈ [input0, input1, output0, output1],
        TritonJson.memberAsString io "data_type" = .ok "TYPE_FP32" := by
  simp only [checkDatatypes, checkDatatype, invalidArg, Fallible.bind_success, ite_eq_iff,
    exists_const, reduceCtorEq, and_false, or_false, and_true]
  simp only [List.forall_mem_cons]
  constructor
  · rintro ⟨_, in0, _, in1, _, out0, _, out1, rfl, rfl, rfl, rfl⟩
    exact ⟨in0, in1, out0, out1, List.forall_mem_nil _⟩
  · rintro ⟨in0, in1, out0, out1, _⟩
    exact ⟨_, in0, _, in1, _, out0, _, out1, rfl, rfl, rfl, rfl⟩

theorem validateModelConfig_success {config : Value} :
    validateModelConfig config = .ok () ↔ Valid config := by
  rw [validateModelConfig, Fallible.then_success]
  simp only [Fallible.bind_success, checkTensorNames_success,
    checkShapes_success, checkDatatypes_success, checkCount, exists_const, invalidArg,
    ite_eq_iff, reduceCtorEq, and_false, false_or, or_false, and_true, ne_eq, not_not,
    parseShape_success]
  simp only [List.forall_mem_cons]
  constructor
  · rintro ⟨written, _, batch, rfl, inputs, isInputs, outputs, isOutputs, twoInputs, twoOutputs, input0,
      first, input1, second, output0, third, output1, fourth, ⟨in0, in1, out0, out1⟩,
      ⟨⟨_, shape0⟩, ⟨_, shape1⟩, ⟨_, shape2⟩, ⟨_, shape3⟩, _⟩, type0, type1, type2, type3, _⟩
    exact {
      written
      unbatched := batch
      inputs := ⟨_, _, objects_two.mpr ⟨inputs, isInputs, twoInputs,
        ⟨input0, first, in0, type0, shape0⟩, input1, second, in1, type1, shape1⟩⟩
      outputs := ⟨_, _, objects_two.mpr ⟨outputs, isOutputs, twoOutputs,
        ⟨output0, third, out0, type2, shape2⟩, output1, fourth, out1, type3, shape3⟩⟩ }
  · rintro ⟨written, batch, ⟨_, _, declared⟩, _, _, given⟩
    obtain ⟨inputs, isInputs, twoInputs, ⟨input0, first, in0⟩, input1, second, in1⟩ :=
      objects_two.mp declared
    obtain ⟨outputs, isOutputs, twoOutputs, ⟨output0, third, out0⟩, output1, fourth, out1⟩ :=
      objects_two.mp given
    exact ⟨written, _, batch, rfl, inputs, isInputs, outputs, isOutputs, twoInputs, twoOutputs, input0,
      first, input1, second, output0, third, output1, fourth,
      ⟨in0.name, in1.name, out0.name, out1.name⟩,
      ⟨⟨_, in0.dims⟩, ⟨_, in1.dims⟩, ⟨_, out0.dims⟩, ⟨_, out1.dims⟩, List.forall_mem_nil _⟩,
      in0.dataType, in1.dataType, out0.dataType, out1.dataType, List.forall_mem_nil _⟩

/-! Which models are loaded. -/

end Bls

/-- What the constructor of `BackendModel` asks for. -/
structure ModelServer.Gives (server : ModelServer Value) (name : String) (version : Nat)
    (repositoryPath : String) (config : Value) : Prop where
  modelName : server.modelName = .ok name
  modelVersion : server.modelVersion = .ok version
  modelRepository : server.modelRepository = .ok (true, repositoryPath)
  config : server.config = .ok config
  answers : ∀ answer ∈ [server.modelServer, server.modelBackend, server.backendMemoryManager,
    server.modelConfig, server.serializeToJson, server.messageDelete], answer = none

theorem answered_success {error : Option TritonError} {done : Unit} :
    answered error = .ok done ↔ error = none := by
  cases error with
  | none => simp [answered]
  | some error => simp [answered]

theorem parsed_success {growth : Growable.Growth} {config : Value} {model : BackendModel} :
    BackendModel.parsed growth config = .ok model ↔
      ∃ read, Reads false config read ∧ model = (BackendModel.create false).load growth read := by
  change _ ↔ ∃ read, Reads (BackendModel.create false).allowOptional config read ∧ _
  rw [← BackendModel.parseModelConfig_success, BackendModel.parsed]
  split
  next error last failed => simp [failed]
  next last done => simp [done]

theorem construct_success {growth : Growable.Growth} {server : ModelServer Value}
    {object : ModelObject Value BackendModel} :
    BackendModel.construct growth server = .ok object ↔
      server.Gives object.name object.version object.repositoryPath object.config ∧
        BackendModel.parsed growth object.config = .ok object.state := by
  simp only [BackendModel.construct, Fallible.bind_success, ite_eq_iff, answered_success,
    exists_const, reduceCtorEq, and_false, false_or, Bool.not_eq_false, Except.ok.injEq]
  constructor
  · rintro ⟨name, isName, version, isVersion, repository, isRepository, filesystem, server, backend,
      manager, isConfig, serialized, deleted, config, parsed, state, isState, rfl⟩
    refine ⟨⟨isName, isVersion, ?_, parsed, by simp [*]⟩, isState⟩
    rw [isRepository, ← filesystem]
  · rintro ⟨⟨isName, isVersion, isRepository, parsed, answers⟩, isState⟩
    simp only [List.forall_mem_cons] at answers
    obtain ⟨server, backend, manager, isConfig, serialized, deleted, _⟩ := answers
    exact ⟨_, isName, _, isVersion, _, isRepository, rfl, server, backend, manager, isConfig,
      serialized, deleted, _, parsed, _, isState, rfl⟩

end

end TritonBackend
