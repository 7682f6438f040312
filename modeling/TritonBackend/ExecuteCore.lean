import TritonBackend.BackendCore
import TritonBackend.ModelConfigCore
import TritonBackend.TypedString

/-!
`TRITONBACKEND_ModelInstanceExecute` of the recommended and of the minimal backend: the
input of a batch is gathered into one tensor, which is logged and scattered over the responses
as it is; then what is left is sent, and every request is reported and released.
-/

namespace TritonBackend

open CopyStream

def BackendModel.supportsFirstDimBatching (model : BackendModel) : Bool := model.maxBatchSize > 0

def shapeDims (first : Bool) : List Int → String
  | [] => ""
  | dim :: rest => (if first then "" else ",") ++ toString dim ++ shapeDims false rest

def shapeToString (shape : List Int) : String := "[" ++ shapeDims true shape ++ "]"

/-! `ModelState` of the recommended backend. -/

structure ModelState extends BackendModel where
  inputName : String
  outputName : String
  datatype : DataType
  shapeInitialized : Bool
  nbShape : List Int
  batchShape : List Int

def ModelState.tensorShape (model : ModelState) : List Int × ModelState :=
  if model.shapeInitialized then (model.batchShape, model)
  else
    let shape := model.batchShape ++ (if model.supportsFirstDimBatching then [-1] else []) ++
      model.nbShape
    (shape, { model with batchShape := shape, shapeInitialized := true })

def reshapeError {α : Type} (tensor : String) : Except TritonError α :=
  .error { code := .unsupported, message := "reshape not supported for " ++ tensor ++ " tensor" }

/-- A verbose log has the configuration, which is written for it. -/
def writeModelConfig {Value : Type} [TritonJson Value] (logVerbose : Bool) (config : Value) :
    Except TritonError Unit :=
  if logVerbose then TritonJson.prettyWrite config else .ok ()

/-- `ValidateModelConfig`, behind the constructor of `BackendModel`. -/
def validateModelConfig {Value : Type} [TritonJson Value] (logVerbose : Bool) (config : Value)
    (model : BackendModel) : Except TritonError ModelState := do
  writeModelConfig logVerbose config
  let inputs ← TritonJson.memberAsArray config "input"
  let outputs ← TritonJson.memberAsArray config "output"
  if TritonJson.arraySize inputs ≠ 1 then invalidArg "model configuration must have 1 input"
  else if TritonJson.arraySize outputs ≠ 1 then invalidArg "model configuration must have 1 output"
  else
    let input ← TritonJson.indexAsObject inputs 0
    let output ← TritonJson.indexAsObject outputs 0
    let inputName ← TritonJson.memberAsString input "name"
    let outputName ← TritonJson.memberAsString output "name"
    let inputDtype ← TritonJson.memberAsString input "data_type"
    let outputDtype ← TritonJson.memberAsString output "data_type"
    if inputDtype ≠ outputDtype then
      invalidArg ("expected input and output datatype to match, got " ++ inputDtype ++ " and " ++
        outputDtype)
    else if (TritonJson.find input "reshape").isSome then reshapeError "input"
    else if (TritonJson.find output "reshape").isSome then reshapeError "output"
    else
      let inputShape ← parseShape input "dims"
      let outputShape ← parseShape output "dims"
      if inputShape ≠ outputShape then
        invalidArg ("expected input and output shape to match, got " ++ shapeToString inputShape ++
          " and " ++ shapeToString outputShape)
      else .ok {
        model with
        inputName
        outputName
        datatype := modelConfigDataTypeToTritonServerDataType inputDtype
        shapeInitialized := false
        nbShape := inputShape
        batchShape := [] }

/-! `Execute`. -/

/-- What the server answers to the calls that `Execute` makes beside those of its collector and
its responder; `workerCount` is that of the server's work queue. `initial` is what memory holds
before the batch, and `readable` tells whether the host can load so many bytes at a place that
the requests' buffers name. -/
structure Server extends Env where
  modelInstanceState : Option TritonError
  responseNew : Nat → Option TritonError
  requestInputByIndex : Nat → Option TritonError
  inputProperties : Nat → Option TritonError
  workerCount : Nat
  byteOrder : ByteOrder
  dataTypeString : DataType → String
  initial : Memory Block UInt8
  readable : Address → Nat → Bool

def Server.loads (server : Server) (place : Address) (size : Nat) : Bool :=
  match place.block with
  | .input _ _ => server.readable place size
  | _ => true

inductive Report
  | statistics (request : Nat) (success : Bool)
  | release (request : Nat)
  | batchStatistics (totalBatchSize : Nat)
deriving DecidableEq, Repr

/-- What becomes of a batch. `unexpectedSync` tells that a `Finalize` asked for a synchronization,
which is logged as an error and left out. `faulted` tells that the text for the log could not be
made: a division by zero or a load from a place without memory has ended the process. -/
structure Echo where
  unexpectedSync : Bool
  faulted : Bool
  sys : Sys

structure Executed extends Echo where
  error : Option TritonError
  reports : List Report

def Executed.refused (requestCount : Nat) (error : TritonError) : Executed := {
  error := some error
  unexpectedSync := false
  faulted := false
  sys := Sys.fresh requestCount
  reports := [] }

section
variable (server : Server) (requests : List Request)

/-- The loop that creates the responses, up to the first that cannot be created. -/
def createResponses (r : Nat) : Nat → Option TritonError
  | 0 => none
  | count + 1 =>
      match server.responseNew r with
      | some error => some error
      | none => createResponses (r + 1) count

def inputCollector : CollectorConfig := {
  requests
  pinnedEnabled := false
  workerCount := server.workerCount
  event := false
  kernelBufferThreshold := 0
  copyOnStream := false
  coalesceRequestInput := false }

def outputResponder (firstDimBatching : Bool) : ResponderConfig := {
  requests
  firstDimBatching
  pinnedEnabled := false
  event := false
  copyOnStream := false }

def hostInputTypes : List (MemoryType × Int) := [(.cpuPinned, 0), (.cpu, 0)]

/-- The tensor that a batch is gathered or scattered through, and whether `Finalize` asked for a
synchronization. -/
structure Passed where
  tensor : Tensor
  needSync : Bool
  sys : Sys

def collectInput (inputName : String) (s : Sys) : Passed :=
  let cfg := inputCollector server requests
  let gathered := processTensorDst server.toEnv cfg inputName none 0 hostInputTypes
    (server.uninitialized s.tick) (Collector.create s false)
  let c := gathered.collector.withSys
    (respondAllAndSetNullIfError gathered.collector.toSys requests.length gathered.error)
  let finalized := finalize server.toEnv cfg c
  { tensor := gathered.dst, needSync := finalized.1, sys := finalized.2.toSys }

def respondOutput (firstDimBatching : Bool) (outputName : String) (datatype : DataType)
    (shape : List Int) (tensor : Tensor) (s : Sys) : Passed :=
  let cfg := outputResponder requests firstDimBatching
  let processed := (Responder.create s).processTensor server.toEnv cfg outputName datatype shape {
    buffer := tensor.buffer
    memoryType := tensor.memoryType
    memoryTypeId := tensor.memoryTypeId }
  let finalized := processed.2.finalize server.toEnv cfg
  { tensor, needSync := finalized.1, sys := finalized.2.toSys }

/-- `BufferAsTypedString` on the gathered tensor, or none where it does not come back. A tensor
that could not be gathered is what `ProcessTensor` has left in its out parameters. -/
def typedString (datatype : DataType) (collected : Passed) : Option String :=
  (bufferAsTypedString server.byteOrder (collected.sys.device.memory server.initial)
    collected.tensor.buffer server.dataTypeString "" collected.tensor.byteSize datatype).bind
      fun result =>
        if result.2.loads.all fun load => server.loads load.1 load.2 then some result.2.str else none

/-- What both backends do with a batch once its responses are created. -/
def echoBatch (firstDimBatching : Bool) (inputName outputName : String) (datatype : DataType)
    (shape : List Int) : Echo :=
  let collected := collectInput server requests inputName (Sys.fresh requests.length)
  match typedString server datatype collected with
  | none => { unexpectedSync := collected.needSync, faulted := true, sys := collected.sys }
  | some _ =>
      let responded := respondOutput server requests firstDimBatching outputName datatype shape
        collected.tensor collected.sys
      { unexpectedSync := collected.needSync || responded.needSync
        faulted := false
        sys := sendRemaining responded.sys }

/-! Statistics. -/

/-- The shape that the lookups of a request's first input leave; a null pointer is none. -/
def firstShape (request : Nat) : Option (List Int) :=
  match server.requestInputByIndex request with
  | some _ => none
  | none =>
      match requests[request]?.bind fun request => request.inputs.head? with
      | none => none
      | some input => if (server.inputProperties request).isSome then none else some input.shape

/-- `total_batch_size += shape[0]`, where there is a shape. -/
def addBatchSize (tick total request : Nat) : Nat :=
  match firstShape server requests request with
  | none => total
  | some shape =>
      toSize ((total : Int) + Responder.readDim server.toEnv tick request shape 0)

def totalBatchSize (firstDimBatching : Bool) (tick : Nat) : Nat :=
  if firstDimBatching then
    (List.range requests.length).foldl (addBatchSize server requests tick) 0
  else requests.length

/-- The slots that are null were answered because of an error; the last loop leaves them. -/
def reportRequests (responses : List (Option Nat)) (requestCount : Nat) : List Report :=
  (List.range requestCount).flatMap fun r =>
    [.statistics r (responses[r]?.bind id).isSome, .release r]

def ModelState.execute (model : ModelState) : Executed × ModelState :=
  match server.modelInstanceState with
  | some error => (Executed.refused requests.length error, model)
  | none =>
      match createResponses server 0 requests.length with
      | some error => (Executed.refused requests.length error, model)
      | none =>
          let batching := model.supportsFirstDimBatching
          let tensorShape := model.tensorShape
          let done := echoBatch server requests batching model.inputName model.outputName
            model.datatype tensorShape.1
          ({ toEcho := done
             error := none
             reports := if done.faulted then [] else
               reportRequests done.sys.responses requests.length ++
                 [.batchStatistics (totalBatchSize server requests batching done.sys.tick)] },
            tensorShape.2)

/-- `Execute` of the minimal backend, which reports nothing. -/
def BackendModel.execute (model : BackendModel) : Executed :=
  match server.modelInstanceState with
  | some error => Executed.refused requests.length error
  | none =>
      match createResponses server 0 requests.length with
      | some error => Executed.refused requests.length error
      | none =>
          let batching := model.supportsFirstDimBatching
          let done := echoBatch server requests batching "IN0" "OUT0" .int32
            ((if batching then [-1] else []) ++ [4])
          { toEcho := done
            error := none
            reports := if done.faulted then [] else (List.range requests.length).map .release }

end

end TritonBackend
