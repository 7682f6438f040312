import TritonBackend.BatchInputCore
import TritonBackend.Growable
import TritonBackend.JsonCore

/-!
`BackendModel::ParseModelConfig`, with the batch inputs and outputs of a model
configuration. Pointers into the vector of batch outputs are kept from one run to the
next, so the vector's storage is part of the state.
-/

namespace TritonBackend

open Fallible Growable

def modelConfigDataTypes : List (String × DataType) := [
  ("TYPE_BOOL", .bool),
  ("TYPE_UINT8", .uint8), ("TYPE_UINT16", .uint16), ("TYPE_UINT32", .uint32),
  ("TYPE_UINT64", .uint64),
  ("TYPE_INT8", .int8), ("TYPE_INT16", .int16), ("TYPE_INT32", .int32), ("TYPE_INT64", .int64),
  ("TYPE_FP16", .fp16), ("TYPE_FP32", .fp32), ("TYPE_FP64", .fp64),
  ("TYPE_STRING", .bytes), ("TYPE_BF16", .bf16)]

def modelConfigDataTypeToTritonServerDataType (dataType : String) : DataType :=
  (modelConfigDataTypes.lookup dataType).getD .invalid

def batchInputKinds : List (String × BatchInputKind) := [
  ("BATCH_ELEMENT_COUNT", .batchElementCount),
  ("BATCH_ACCUMULATED_ELEMENT_COUNT", .batchAccumulatedElementCount),
  ("BATCH_ACCUMULATED_ELEMENT_COUNT_WITH_ZERO", .batchAccumulatedElementCountWithZero),
  ("BATCH_MAX_ELEMENT_COUNT_AS_SHAPE", .batchMaxElementCountAsShape),
  ("BATCH_ITEM_SHAPE", .batchItemShape),
  ("BATCH_ITEM_SHAPE_FLATTEN", .batchItemShapeFlatten)]

/-- A `BatchOutput` as it is parsed; a data type that nothing sets is `none`. -/
structure ParsedBatchOutput where
  targetNames : List String
  dataType : Option DataType
  outputShape : List Int
  sourceInputs : List String
deriving DecidableEq, Repr

def invalidArg {α : Type} (message : String) : Except TritonError α :=
  .error { code := .invalidArg, message }

section
variable {Value : Type} [TritonJson Value]

def readBatchInput (bi : Value) : Except TritonError BatchInput := do
  let targetNames ← readStrings bi "target_name"
  let kindStr ← TritonJson.memberAsString bi "kind"
  let kind ← match batchInputKinds.lookup kindStr with
    | some kind => .ok kind
    | none => invalidArg ("unexpected batch input kind '" ++ kindStr ++ "'")
  let dtype ← TritonJson.memberAsString bi "data_type"
  let dataType := modelConfigDataTypeToTritonServerDataType dtype
  if dataType = .invalid then invalidArg ("unexpected batch input data type '" ++ dtype ++ "'")
  else
    let sourceInputs ← readStrings bi "source_input"
    .ok { kind, targetNames, dataType, sourceInputs }

def parseShape (io : Value) (name : String) : Except TritonError (List Int) := do
  let shape ← TritonJson.memberAsArray io name
  readAll (TritonJson.indexAsInt shape) (List.range (TritonJson.arraySize shape))

theorem parseShape_success {io : Value} {name : String} {shape : List Int} :
    parseShape io name = .ok shape ↔ TritonJson.Ints io name shape := by
  rw [parseShape, bind_success]
  exact exists_congr fun array => and_congr_right fun _ => TritonJson.holds_read.symm

/-- The loop over the model's outputs, which ends at the first with the target's name. -/
def scanModelOutputs (ios : Value) (target : Option String) (shape : List Int) :
    List Nat → Except TritonError (Option DataType × List Int)
  | [] => .ok (none, shape)
  | i :: rest => do
      let io ← TritonJson.indexAsObject ios i
      let ioName ← TritonJson.memberAsString io "name"
      if some ioName = target then
        let dtype ← TritonJson.memberAsString io "data_type"
        let dims ← match TritonJson.find io "reshape" with
          | some reshape => parseShape reshape "shape"
          | none => parseShape io "dims"
        .ok (some (modelConfigDataTypeToTritonServerDataType dtype), shape ++ dims)
      else scanModelOutputs ios target shape rest

def readBatchOutput (config bo : Value) : Except TritonError ParsedBatchOutput := do
  let targetNames ← readStrings bo "target_name"
  let kind ← TritonJson.memberAsString bo "kind"
  if kind ≠ "BATCH_SCATTER_WITH_INPUT_SHAPE" then
    invalidArg ("unexpected batch output kind '" ++ kind ++ "'")
  else
    let mbs ← TritonJson.memberAsInt config "max_batch_size"
    let ios ← TritonJson.memberAsArray config "output"
    let scanned ← scanModelOutputs ios targetNames.head? (if mbs ≠ 0 then [-1] else [])
      (List.range (TritonJson.arraySize ios))
    let sourceInputs ← readStrings bo "source_input"
    .ok { targetNames, dataType := scanned.1, outputShape := scanned.2, sourceInputs }

/-- `io.Find(name, &json)` and, if it is there, `json.AsBool`. -/
def readOptionalBool (io : Value) (name : String) : Except TritonError Bool :=
  match TritonJson.find io name with
  | some json => TritonJson.asBool json
  | none => .ok false

end

structure BackendModel where
  allowOptional : Bool
  maxBatchSize : Int
  enablePinnedInput : Bool
  enablePinnedOutput : Bool
  batchInputs : List BatchInput
  batchOutputs : Buffer ParsedBatchOutput
  batchOutputMap : String → Option Place
  raggedInputs : List String
  optionalInputs : List String

namespace BackendModel

def create (allowOptional : Bool) : BackendModel where
  allowOptional := allowOptional
  maxBatchSize := 0
  enablePinnedInput := false
  enablePinnedOutput := false
  batchInputs := []
  batchOutputs := .empty
  batchOutputMap := fun _ => none
  raggedInputs := []
  optionalInputs := []

def findBatchOutput (model : BackendModel) (outputName : String) : Option Place :=
  model.batchOutputMap outputName

def isInputRagged (model : BackendModel) (inputName : String) : Bool :=
  model.raggedInputs.contains inputName

def isInputOptional (model : BackendModel) (inputName : String) : Bool :=
  model.optionalInputs.contains inputName

/-- `batch_output_map_.emplace`, which keeps an entry that is there. -/
def emplaceOutput (map : String → Option Place) (place : Place) (name : String) :
    String → Option Place :=
  if (map name).isSome then map else Function.update map name (some place)

def mapOutputs (block : Nat) (map : String → Option Place) (idx : Nat) :
    List ParsedBatchOutput → String → Option Place
  | [] => map
  | batchOutput :: rest =>
      mapOutputs block (batchOutput.targetNames.foldl
        (fun map name => emplaceOutput map { block, idx } name) map) (idx + 1) rest

section
variable {Value : Type} [TritonJson Value] (growth : Growth)

def parsePinned (config : Value) (model : BackendModel) : Outcome TritonError BackendModel :=
  match TritonJson.find config "optimization" with
  | none => (none, model)
  | some optimization =>
      andThen
        (match TritonJson.find optimization "input_pinned_memory" with
          | none => (none, model)
          | some pinnedMemory => reading (TritonJson.memberAsBool pinnedMemory "enable") model
              fun enable => (none, { model with enablePinnedInput := enable }))
        fun model =>
          match TritonJson.find optimization "output_pinned_memory" with
          | none => (none, model)
          | some pinnedMemory => reading (TritonJson.memberAsBool pinnedMemory "enable") model
              fun enable => (none, { model with enablePinnedOutput := enable })

/-- `BatchInput::ParseFromModelConfig`. An element that cannot be read is left out. -/
def parseBatchInputs (config : Value) (model : BackendModel) : Outcome TritonError BackendModel :=
  let cleared := { model with batchInputs := [] }
  reading (TritonJson.memberAsArray config "batch_input") cleared fun bis =>
    forObjects (some bis) (fun model bi => reading (readBatchInput bi) model fun batchInput =>
      (none, { model with batchInputs := model.batchInputs ++ [batchInput] })) cleared

/-- `BatchOutput::ParseFromModelConfig`, likewise. -/
def parseBatchOutputs (config : Value) (model : BackendModel) :
    Outcome TritonError BackendModel :=
  let cleared := { model with batchOutputs := model.batchOutputs.clear }
  reading (TritonJson.memberAsArray config "batch_output") cleared fun bos =>
    forObjects (some bos) (fun model bo => reading (readBatchOutput config bo) model
      fun batchOutput =>
        (none, { model with batchOutputs := model.batchOutputs.emplaceBack growth batchOutput }))
      cleared

def parseInput (allowOptional : Bool) (model : BackendModel) (io : Value) :
    Outcome TritonError BackendModel :=
  reading (TritonJson.memberAsString io "name") model fun ioName =>
    reading (readOptionalBool io "allow_ragged_batch") model fun allowRaggedBatch =>
      let model :=
        if allowRaggedBatch then { model with raggedInputs := model.raggedInputs.insert ioName }
        else model
      reading (readOptionalBool io "optional") model fun optional =>
        if !optional then (none, model)
        else if allowOptional then
          (none, { model with optionalInputs := model.optionalInputs.insert ioName })
        else
          (errorNew .invalidArg ("'optional' is set to true for input '" ++ ioName ++
            "' while the backend model doesn't support optional input"), model)

/-- `ParseModelConfig`, on the configuration that the server holds. -/
def parseModelConfig (model : BackendModel) (config : Value) : Outcome TritonError BackendModel :=
  reading (TritonJson.memberAsInt config "max_batch_size") model fun mbs =>
    andThen (parsePinned config { model with
      maxBatchSize := narrowInt32 mbs
      enablePinnedInput := false
      enablePinnedOutput := false }) fun model =>
    andThen (parseBatchInputs config model) fun model =>
    andThen (parseBatchOutputs growth config model) fun model =>
      let mapped := { model with
        batchOutputMap := mapOutputs model.batchOutputs.block model.batchOutputMap 0
          model.batchOutputs.elements }
      reading (TritonJson.memberAsArray config "input") mapped fun configInputs =>
        forObjects (some configInputs) (parseInput model.allowOptional) mapped

/-- The constructor and the calls of `SetModelConfig` behind it. -/
def parseAll (allowOptional : Bool) (configs : List Value) : Outcome TritonError BackendModel :=
  forEach (parseModelConfig growth) (create allowOptional) configs

end

end BackendModel

end TritonBackend
