import TritonBackend.ExecuteCore

/-!
The model of the recommended backend: which configurations it supports, and the shape that
it sets up at the first batch and keeps.
-/

namespace TritonBackend

structure TensorConfig where
  name : String
  dataType : String
  dims : List Int

section
variable {Value : Type} [TritonJson Value]

structure Declares (io : Value) (tensor : TensorConfig) : Prop where
  name : TritonJson.memberAsString io "name" = .ok tensor.name
  dataType : TritonJson.memberAsString io "data_type" = .ok tensor.dataType
  dims : TritonJson.Ints io "dims" tensor.dims

/-- Nor is there a reshape. -/
structure DeclaresPlain (io : Value) (tensor : TensorConfig) : Prop extends Declares io tensor where
  plain : TritonJson.find io "reshape" = none

/-- What the backend supports: one input and one output of the same type and dims, which
no reshape changes. -/
structure Supported (config : Value) (input output : TensorConfig) : Prop where
  inputs : TritonJson.Objects config "input" DeclaresPlain [input]
  outputs : TritonJson.Objects config "output" DeclaresPlain [output]
  dataType : input.dataType = output.dataType
  dims : input.dims = output.dims

def BackendModel.supporting (base : BackendModel) (input output : TensorConfig) : ModelState := {
  base with
  inputName := input.name
  outputName := output.name
  datatype := modelConfigDataTypeToTritonServerDataType input.dataType
  shapeInitialized := false
  nbShape := input.dims
  batchShape := [] }

theorem objects_one {holds : Value → TensorConfig → Prop} {config : Value} {name : String}
    {tensor : TensorConfig} : TritonJson.Objects config name holds [tensor] ↔
      ∃ array, TritonJson.memberAsArray config name = .ok array ∧
        TritonJson.arraySize array = 1 ∧
        ∃ io, TritonJson.indexAsObject array 0 = .ok io ∧ holds io tensor := by
  rw [TritonJson.objects_sized]
  simp [List.range_succ]

theorem validateModelConfig_success {logVerbose : Bool} {config : Value} {base : BackendModel}
    {model : ModelState} :
    validateModelConfig logVerbose config base = .ok model ↔
      writeModelConfig logVerbose config = .ok () ∧
      ∃ input output, Supported config input output ∧ model = base.supporting input output := by
  rw [validateModelConfig, Fallible.then_success]
  refine and_congr_right fun _ => ?_
  simp only [Fallible.bind_success, invalidArg, reshapeError, ite_eq_iff, reduceCtorEq, and_false,
    false_or, Except.ok.injEq, ne_eq, not_not, Bool.not_eq_true, Option.isSome_eq_false_iff,
    Option.isNone_iff_eq_none, parseShape_success]
  constructor
  · rintro ⟨inputs, isInputs, outputs, isOutputs, oneInput, oneOutput, input, isInput, output, isOutput,
      inputName, isInputName, outputName, isOutputName, dataType, isInputType, _, isOutputType, rfl,
      inputPlain, outputPlain, dims, inputDims, _, outputDims, rfl, same⟩
    exact ⟨{ name := inputName, dataType, dims }, { name := outputName, dataType, dims },
      { inputs := objects_one.mpr ⟨inputs, isInputs, oneInput, input, isInput,
          ⟨isInputName, isInputType, inputDims⟩, inputPlain⟩
        outputs := objects_one.mpr ⟨outputs, isOutputs, oneOutput, output, isOutput,
          ⟨isOutputName, isOutputType, outputDims⟩, outputPlain⟩
        dataType := rfl
        dims := rfl }, same.symm⟩
  · rintro ⟨input, output, supported, rfl⟩
    obtain ⟨inputs, isInputs, oneInput, input0, isInput, declared, plain⟩ :=
      objects_one.mp supported.inputs
    obtain ⟨outputs, isOutputs, oneOutput, output0, isOutput, given, unshaped⟩ :=
      objects_one.mp supported.outputs
    exact ⟨inputs, isInputs, outputs, isOutputs, oneInput, oneOutput, input0, isInput, output0,
      isOutput, _, declared.name, _, given.name, _, declared.dataType, _, given.dataType,
      supported.dataType, plain, unshaped, _, declared.dims, _, given.dims, supported.dims, rfl⟩

end

/-! The shape of the model. -/

def ModelState.itemsShape (model : ModelState) (batch : Int) : List Int :=
  (if model.supportsFirstDimBatching then [batch] else []) ++ model.nbShape

/-- The shape that `TensorShape` keeps is the one that it would set up. -/
def ModelState.Shaped (model : ModelState) : Prop :=
  model.batchShape = if model.shapeInitialized then model.itemsShape (-1) else []

theorem tensorShape_shaped {model : ModelState} (shaped : model.Shaped) :
    model.tensorShape.1 = model.itemsShape (-1) ∧ model.tensorShape.2.Shaped := by
  rw [ModelState.Shaped] at shaped
  rw [ModelState.tensorShape]
  split
  next kept =>
    rw [if_pos kept] at shaped
    exact ⟨shaped, by rw [ModelState.Shaped, if_pos kept, shaped]⟩
  next unset =>
    rw [if_neg unset] at shaped
    simp [shaped, ModelState.Shaped, ModelState.itemsShape, BackendModel.supportsFirstDimBatching]

theorem supporting_shaped (base : BackendModel) (input output : TensorConfig) :
    (base.supporting input output).Shaped := rfl

theorem validateModelConfig_shaped {Value : Type} [TritonJson Value] {logVerbose : Bool}
    {config : Value} {base : BackendModel} {model : ModelState}
    (validated : validateModelConfig logVerbose config base = .ok model) : model.Shaped := by
  obtain ⟨_, input, output, _, rfl⟩ := validateModelConfig_success.mp validated
  exact supporting_shaped base input output

end TritonBackend
