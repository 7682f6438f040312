import TritonBackend.CommonCore

/-!
`BackendOutputResponder`: handing each response its slice of an output tensor. A
slice is copied to the response's buffer directly, or as part of a run of slices that
is staged in one pinned buffer; the copies out of that buffer can be deferred to
`finalize`.
-/

namespace TritonBackend

open CopyStream

structure ResponderConfig where
  requests : List Request
  firstDimBatching : Bool
  pinnedEnabled : Bool
  event : Bool
  copyOnStream : Bool

structure OutputData where
  name : String
  buffer : Address
  bufferByteSize : Nat
  memoryType : MemoryType
  memoryTypeId : Int
deriving DecidableEq, Repr

/-- The slots of the responses that wait for a staged slice, with their buffers. -/
abbrev ResponsesList := List (Nat × OutputData)

structure DeferredOutputs where
  pinnedMemory : Address
  pinnedMemorySize : Nat
  responses : ResponsesList

structure Responder extends Sys where
  needSync : Bool
  pendingPinnedByteSize : Nat
  pendingPinnedOffset : Nat
  pendingPinnedOutputs : ResponsesList
  deferredPinned : List DeferredOutputs

structure OutputTensor where
  buffer : Address
  memoryType : MemoryType
  memoryTypeId : Int

structure BatchOutput where
  targetNames : List String
  dataType : DataType
  outputShape : List Int
  sourceInputs : List String

namespace Responder

def create (s : Sys) : Responder := {
  s with
  needSync := false
  pendingPinnedByteSize := 0
  pendingPinnedOffset := 0
  pendingPinnedOutputs := []
  deferredPinned := [] }

def withSys (r : Responder) (s : Sys) : Responder := { r with toSys := s }

def orSync (result : Bool × Responder) : Responder :=
  { result.2 with needSync := result.2.needSync || result.1 }

def isLive (r : Responder) (idx : Nat) : Bool := (r.responses[idx]?.bind id).isSome

def recordEvent (cfg : ResponderConfig) (r : Responder) : Responder :=
  if r.needSync && cfg.event then r.withSys (r.toSys.issue .record) else r

section
variable (env : Env) (cfg : ResponderConfig)

/-! Copies to the responses. -/

/-- The loop over a list of responses that copies the bytes at `source`, one response's
behind the other's, to their buffers. It does not look whether a response is still live. -/
def copyOutputs (source : Address) (memoryType : MemoryType) (memoryTypeId : Int)
    (offset : Nat) (cudaUsed : Bool) (s : Sys) : ResponsesList → Bool × Sys
  | [] => (cudaUsed, s)
  | (idx, output) :: rest =>
      let copied := copyBuffer env s output.name memoryType memoryTypeId output.memoryType
        output.memoryTypeId output.bufferByteSize (source.advance offset) output.buffer
        cfg.copyOnStream
      copyOutputs source memoryType memoryTypeId (offset + output.bufferByteSize)
        (cudaUsed || copied.cudaUsed) (respondAndSetNullIfError copied.sys idx copied.error) rest

def failOutputs (s : Sys) (error : Option TritonError) : ResponsesList → Sys
  | [] => s
  | (idx, _) :: rest => failOutputs (sendIfNotNull s idx error) error rest

def allocatePinned (r : Responder) : Option Address × Sys :=
  if r.pendingPinnedByteSize > 0 then
    match r.toSys.call env (.allocate .cpuPinnedPool) with
    | (none, s) =>
        (some { block := .staging s.nextBlock, offset := 0 }, { s with nextBlock := s.nextBlock + 1 })
    | (some _, s) => (none, s)
  else (none, r.toSys)

def clearPendingPinned (r : Responder) : Responder := {
  r with
  pendingPinnedByteSize := 0
  pendingPinnedOffset := 0
  pendingPinnedOutputs := [] }

def deferral (r : Responder) (pinnedMemory : Address) : DeferredOutputs := {
  pinnedMemory
  pinnedMemorySize := r.pendingPinnedByteSize
  responses := r.pendingPinnedOutputs }

/-- Stage the block, then copy it to the responses, at once or in `finalize` when the
block is still on its way. A block that could not be staged fails its responses and
is copied to them all the same. -/
def stagePinned (r : Responder) (pinnedMemory : Address) (tensor : OutputTensor) :
    Bool × Responder :=
  let staged := copyBuffer env r.toSys "pinned buffer" tensor.memoryType tensor.memoryTypeId
    .cpuPinned 0 r.pendingPinnedByteSize (tensor.buffer.advance r.pendingPinnedOffset)
    pinnedMemory cfg.copyOnStream
  let s := match staged.error with
    | none => staged.sys
    | some error => failOutputs staged.sys (some error) r.pendingPinnedOutputs
  if staged.cudaUsed then
    (true, { r.withSys s with deferredPinned := r.deferredPinned ++ [r.deferral pinnedMemory] })
  else
    let copied := copyOutputs env cfg pinnedMemory .cpuPinned 0 0 false s r.pendingPinnedOutputs
    (copied.1, r.withSys copied.2)

def copyPending (r : Responder) (tensor : OutputTensor) : Bool × Responder :=
  let copied := copyOutputs env cfg tensor.buffer tensor.memoryType tensor.memoryTypeId
    r.pendingPinnedOffset false r.toSys r.pendingPinnedOutputs
  (copied.1, r.withSys copied.2)

def flushPendingPinned (r : Responder) (tensor : OutputTensor) : Bool × Responder :=
  let allocated := allocatePinned env r
  let r := r.withSys allocated.2
  let flushed := match allocated.1 with
    | none => copyPending env cfg r tensor
    | some pinnedMemory => stagePinned env cfg r pinnedMemory tensor
  (flushed.1, flushed.2.clearPendingPinned)

/-! Output and state buffers. -/

def usePinnedMemoryType (tensor : OutputTensor) : MemoryType :=
  if cfg.pinnedEnabled then getUsePinnedMemoryType tensor.memoryType else .cpuPinned

/-- The server answers with a block of `byteSize` bytes, or perhaps a null pointer
where that is 0. -/
def givenAddress (memory : GivenMemory) (byteSize block : Nat) : Address :=
  if memory.null ∧ byteSize = 0 then nullAddress else { block := .output block, offset := 0 }

def obtainBuffer (r : Responder) (idx byteSize : Nat) (state : Bool) :
    Except TritonError (Address × GivenMemory) × Sys :=
  match r.toSys.call env (if state then .stateBuffer else .outputBuffer) with
  | (some error, s) => (.error error, s)
  | (none, s) =>
      let memory := env.givenMemory r.tick
      let buffer := givenAddress memory byteSize s.nextBlock
      (.ok (buffer, memory), { s.note (.given idx buffer byteSize) with nextBlock := s.nextBlock + 1 })

def addPendingPinned (r : Responder) (idx : Nat) (output : OutputData) (tensorOffset : Nat) :
    Responder := {
  r with
  pendingPinnedOffset :=
    if r.pendingPinnedByteSize = 0 then tensorOffset else r.pendingPinnedOffset
  pendingPinnedByteSize := r.pendingPinnedByteSize + output.bufferByteSize
  pendingPinnedOutputs := r.pendingPinnedOutputs ++ [(idx, output)] }

def setFixedSizeBuffer (r : Responder) (idx : Nat) (outputName : String)
    (tensorByteSize tensorOffset : Nat) (tensor : OutputTensor) (state : Bool) :
    Bool × Responder :=
  let obtained := obtainBuffer env r idx tensorByteSize state
  match obtained.1 with
  | .error error => (false, r.withSys (respondAndSetNullIfError obtained.2 idx (some error)))
  | .ok (buffer, memory) =>
      if usePinnedMemoryType cfg tensor ≠ .cpuPinned ∧
          memory.memoryType = usePinnedMemoryType cfg tensor then
        (false, (r.withSys obtained.2).addPendingPinned idx {
          name := outputName
          buffer
          bufferByteSize := tensorByteSize
          memoryType := memory.memoryType
          memoryTypeId := memory.memoryTypeId } tensorOffset)
      else
        let copied := copyBuffer env obtained.2 outputName tensor.memoryType tensor.memoryTypeId
          memory.memoryType memory.memoryTypeId tensorByteSize (tensor.buffer.advance tensorOffset)
          buffer cfg.copyOnStream
        (copied.cudaUsed, r.withSys (respondAndSetNullIfError copied.sys idx copied.error))

/-- A run of slices that does not end at `tensorOffset` is flushed before the next one. -/
def flushBefore (r : Responder) (tensor : OutputTensor) (tensorOffset : Nat) : Responder :=
  if r.pendingPinnedByteSize > 0 ∧
      tensorOffset ≠ r.pendingPinnedByteSize + r.pendingPinnedOffset then
    orSync (flushPendingPinned env cfg r tensor)
  else r

def finishTensor (r : Responder) (tensor : OutputTensor) : Responder :=
  (orSync (flushPendingPinned env cfg r tensor)).recordEvent cfg

/-- `RESPOND_AND_SET_NULL_IF_ERROR` on a call that has no result. -/
def respondToCall (r : Responder) (idx : Nat) (api : Call) : Responder :=
  let called := r.toSys.call env api
  r.withSys (respondAndSetNullIfError called.2 idx called.1)

def setOutput (r : Responder) (idx : Nat) (outputName : String) (tensorByteSize tensorOffset : Nat)
    (tensor : OutputTensor) : Responder :=
  let r := respondToCall env r idx .responseOutput
  if r.isLive idx then
    orSync (setFixedSizeBuffer env cfg r idx outputName tensorByteSize tensorOffset tensor false)
  else r

def findOutput (r : Responder) (idx : Nat) (outputName : String) (tensorByteSize tensorOffset : Nat)
    (tensor : OutputTensor) : List String → Responder
  | [] => r
  | name :: rest =>
      let r := respondToCall env r idx .requestOutputName
      if r.isLive idx && outputName == name then
        setOutput env cfg r idx outputName tensorByteSize tensorOffset tensor
      else findOutput r idx outputName tensorByteSize tensorOffset tensor rest

def respondOutput (r : Responder) (idx : Nat) (outputName : String)
    (tensorByteSize tensorOffset : Nat) (tensor : OutputTensor) : Responder :=
  if r.isLive idx then
    let r := respondToCall env r idx .requestOutputCount
    if r.isLive idx then
      findOutput env cfg r idx outputName tensorByteSize tensorOffset tensor
        ((cfg.requests[idx]?.map Request.outputs).getD [])
    else r
  else r

def respondState (r : Responder) (idx : Nat) (outputStateName : String)
    (tensorByteSize tensorOffset : Nat) (tensor : OutputTensor) : List Nat × Responder :=
  if r.isLive idx then
    let r := respondToCall env r idx .stateNew
    if r.isLive idx then
      ([idx], orSync (setFixedSizeBuffer env cfg r idx outputStateName tensorByteSize tensorOffset
        tensor true))
    else ([], r)
  else ([], r)

/-! The shape of a response's part. -/

/-- The shape that the unchecked lookups of an input leave behind. -/
def lookupShape (entry request : Nat) (input : Option Input) : List Int :=
  match env.unsetShape entry request with
  | some shape => shape
  | none => (input.map Input.shape).getD []

/-- `shape[dim]`, which nothing keeps inside the shape. -/
def readDim (entry request : Nat) (shape : List Int) (dim : Nat) : Int :=
  shape.getD dim (env.strayDim entry request dim)

def batchDim (entry request : Nat) : Int :=
  readDim env entry request
    (lookupShape env entry request (cfg.requests[request]?.bind fun request => request.inputs.head?)) 0

def splitError (request : Nat) (kind outputName : String) (expected batchnBatchSize : Int) :
    TritonError := {
  code := .unsupported
  message := (cfg.requests[request]?.map getRequestId).getD "" ++ "failed to split the " ++ kind ++
    " '" ++ outputName ++ "' in responses: expected batch size of at least " ++ toString expected ++
    " in model output, got " ++ toString batchnBatchSize }

def checkSplit (r : Responder) (entry idx : Nat) (kind outputName : String)
    (batchnBatchSize batchSizeOffset : Int) : Responder :=
  let expected := toInt64 (batchSizeOffset + batchDim env cfg entry idx)
  if batchnBatchSize ≠ -1 ∧ expected > batchnBatchSize then
    r.withSys (respondAndSetNullIfError r.toSys idx
      (some (splitError cfg idx kind outputName expected batchnBatchSize)))
  else r

def responseShape (entry idx : Nat) (batchnShape : List Int) : List Int :=
  if cfg.firstDimBatching then batchnShape.set 0 (batchDim env cfg entry idx) else batchnShape

def tensorShare (entry idx : Nat) (datatype : DataType) (batchnShape : List Int) : Nat :=
  toSize (getByteSize datatype (responseShape env cfg entry idx batchnShape))

/-- What `ProcessTensor` and `ProcessStateTensor` do for one request ahead of the
response's own part. -/
def enterResponse (r : Responder) (entry idx : Nat) (kind outputName : String)
    (tensor : OutputTensor) (tensorOffset : Nat) (batchnBatchSize batchSizeOffset : Int) :
    Responder :=
  let r := flushBefore env cfg r tensor tensorOffset
  if cfg.firstDimBatching then
    checkSplit env cfg r entry idx kind outputName batchnBatchSize batchSizeOffset
  else r

def nextBatchOffset (entry idx : Nat) (batchSizeOffset : Int) : Int :=
  if cfg.firstDimBatching then toInt64 (batchSizeOffset + batchDim env cfg entry idx)
  else batchSizeOffset

/-! The public operations. `entry` is the number of calls made when an operation
started: it tells the unchecked lookups of different operations apart. -/

def processResponses (entry : Nat) (outputName : String) (datatype : DataType)
    (batchnBatchSize : Int) (tensor : OutputTensor) (batchnShape : List Int) (r : Responder)
    (batchSizeOffset : Int) (tensorOffset idx : Nat) : Nat → List Int × Responder
  | 0 => (batchnShape, r)
  | count + 1 =>
      let r := enterResponse env cfg r entry idx "output tensor" outputName tensor tensorOffset
        batchnBatchSize batchSizeOffset
      let share := tensorShare env cfg entry idx datatype batchnShape
      processResponses entry outputName datatype batchnBatchSize tensor
        (responseShape env cfg entry idx batchnShape)
        (respondOutput env cfg r idx outputName share tensorOffset tensor)
        (nextBatchOffset env cfg entry idx batchSizeOffset) (tensorOffset + share) (idx + 1) count

/-- `batchn_shape` is changed in place, so it is returned. -/
def processTensor (r : Responder) (outputName : String) (datatype : DataType)
    (batchnShape : List Int) (tensor : OutputTensor) : List Int × Responder :=
  let processed := processResponses env cfg r.tick outputName datatype (batchnShape.headD 0) tensor
    batchnShape r 0 0 0 r.responses.length
  (processed.1, finishTensor env cfg processed.2 tensor)

def processStates (entry : Nat) (outputStateName : String) (datatype : DataType)
    (batchnBatchSize : Int) (tensor : OutputTensor) (states : List Nat) (batchnShape : List Int)
    (r : Responder) (batchSizeOffset : Int) (tensorOffset idx : Nat) :
    Nat → List Nat × List Int × Responder
  | 0 => (states, batchnShape, r)
  | count + 1 =>
      let r := enterResponse env cfg r entry idx "output state tensor" outputStateName tensor
        tensorOffset batchnBatchSize batchSizeOffset
      let share := tensorShare env cfg entry idx datatype batchnShape
      let responded := respondState env cfg r idx outputStateName share tensorOffset tensor
      processStates entry outputStateName datatype batchnBatchSize tensor (states ++ responded.1)
        (responseShape env cfg entry idx batchnShape) responded.2
        (nextBatchOffset env cfg entry idx batchSizeOffset) (tensorOffset + share) (idx + 1) count

/-- The first component is the list of the requests whose new states are returned. -/
def processStateTensor (r : Responder) (outputStateName : String) (datatype : DataType)
    (batchnShape : List Int) (tensor : OutputTensor) : List Nat × List Int × Responder :=
  let processed := processStates env cfg r.tick outputStateName datatype (batchnShape.headD 0) tensor
    [] batchnShape r 0 0 0 r.responses.length
  (processed.1, processed.2.1, finishTensor env cfg processed.2.2 tensor)

def batchOutputShape (entry idx : Nat) (batchOutput : BatchOutput) : List Int :=
  let input := cfg.requests[idx]?.bind (·.input? (batchOutput.sourceInputs.headD ""))
  batchOutput.outputShape.mapIdx fun dim size =>
    if size = -1 then readDim env entry idx (lookupShape env entry idx input) dim else size

def batchOutputShare (entry idx : Nat) (batchOutput : BatchOutput) : Nat :=
  toSize (getByteSize batchOutput.dataType (batchOutputShape env cfg entry idx batchOutput))

def scatterResponses (entry : Nat) (batchOutput : BatchOutput) (tensor : OutputTensor)
    (r : Responder) (tensorOffset idx : Nat) : Nat → Responder
  | 0 => r
  | count + 1 =>
      let r := flushBefore env cfg r tensor tensorOffset
      let share := batchOutputShare env cfg entry idx batchOutput
      scatterResponses entry batchOutput tensor
        (respondOutput env cfg r idx (batchOutput.targetNames.headD "") share tensorOffset tensor)
        (tensorOffset + share) (idx + 1) count

/-- `BATCH_SCATTER_WITH_INPUT_SHAPE` is the only kind there is. -/
def processBatchOutput (r : Responder) (batchOutput : BatchOutput) (tensor : OutputTensor) :
    Responder :=
  finishTensor env cfg
    (scatterResponses env cfg r.tick batchOutput tensor r 0 0 r.responses.length) tensor

/-! `Finalize`. -/

def waitDeferred (r : Responder) : Responder :=
  if !r.deferredPinned.isEmpty && r.needSync then {
    r with
    toSys := r.toSys.issue (if cfg.event then .awaitEvent else .awaitStream)
    needSync := false }
  else r

def copyDeferred (r : Responder) : List DeferredOutputs → Responder
  | [] => r
  | deferred :: rest =>
      let copied := copyOutputs env cfg deferred.pinnedMemory .cpuPinned 0 0 false r.toSys
        deferred.responses
      copyDeferred (orSync (copied.1, r.withSys copied.2)) rest

def finalize (r : Responder) : Bool × Responder :=
  let r := waitDeferred cfg r
  let r := copyDeferred env cfg r r.deferredPinned
  let r := if !r.deferredPinned.isEmpty then r.recordEvent cfg else r
  (r.needSync, { r with deferredPinned := [] })

/-- The synchronization that a caller owes when `finalize` returns true. -/
def synchronize (r : Responder) (needSync : Bool) : Sys :=
  if needSync then r.toSys.issue (if cfg.event then .awaitEvent else .awaitStream) else r.toSys

end

end Responder

end TritonBackend
