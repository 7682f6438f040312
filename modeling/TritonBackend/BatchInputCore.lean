import TritonBackend.CollectorCore

/-!
`BackendInputCollector::ProcessBatchInput`: a tensor derived from the shapes of a source
input over the batch. It is written on the host and, for a GPU tensor, copied there on
the stream.
-/

namespace TritonBackend

open CopyStream

inductive BatchInputKind
  | batchElementCount
  | batchAccumulatedElementCount
  | batchAccumulatedElementCountWithZero
  | batchMaxElementCountAsShape
  | batchItemShape
  | batchItemShapeFlatten
deriving DecidableEq, Repr

structure BatchInput where
  kind : BatchInputKind
  targetNames : List String
  dataType : DataType
  sourceInputs : List String

def BatchInput.sourceInput (batchInput : BatchInput) : String := batchInput.sourceInputs.headD ""

/-- `dims_count - 1` in `uint32_t`. -/
def itemRank (shape : List Int) : Nat :=
  if shape.length = 0 then 2 ^ 32 - 1 else shape.length - 1

def unexpectedSize (request : String) : TritonError := {
  code := .invalidArg
  message := request ++ "unexpected total byte size for batch input" }

section
variable (env : Env) (cfg : CollectorConfig)

def inputShape (name : String) (s : Sys) (request : Nat) : Except TritonError (List Int) × Sys :=
  let looked := requestInput env cfg.requests s request name
  match looked.1 with
  | .error error => (.error error, looked.2)
  | .ok input =>
      let properties := inputProperties env looked.2 name (some input)
      (properties.1.map Input.shape, properties.2)

/-- A loop over the requests that leaves on the first failed lookup. -/
def foldShapes {α : Type} (name : String) (step : α → List Int → α) (value : α) (s : Sys)
    (request : Nat) : Nat → Except TritonError α × Sys
  | 0 => (.ok value, s)
  | count + 1 =>
      let looked := inputShape env cfg name s request
      match looked.1 with
      | .error error => (.error error, looked.2)
      | .ok shape => foldShapes name step (step value shape) looked.2 (request + 1) count

def batchInputShape (batchInput : BatchInput) (s : Sys) : Except TritonError (List Int) × Sys :=
  let count := cfg.requests.length
  match batchInput.kind with
  | .batchElementCount | .batchAccumulatedElementCount => (.ok [(count : Int)], s)
  | .batchAccumulatedElementCountWithZero => (.ok [(count : Int) + 1], s)
  | .batchMaxElementCountAsShape =>
      let folded := foldShapes env cfg batchInput.sourceInput
        (fun value shape => max value (getElementCount shape)) 0 s 0 count
      (folded.1.map fun value => [value], folded.2)
  | .batchItemShape =>
      let folded := foldShapes env cfg batchInput.sourceInput
        (fun value shape => (toInt64 (value.1 + shape.headD 0), (itemRank shape : Int)))
        ((0 : Int), (0 : Int)) s 0 count
      (folded.1.map fun value => [value.1, value.2], folded.2)
  | .batchItemShapeFlatten =>
      let folded := foldShapes env cfg batchInput.sourceInput
        (fun value shape => toInt64 (value + toInt64 (shape.headD 0 * itemRank shape)))
        (0 : Int) s 0 count
      (folded.1.map fun value => [value], folded.2)

/-! Values are written as 4-byte elements, `int32_t` or `float`. -/

def elementBits (dataType : DataType) (value : Int) : BitVec 32 :=
  if dataType = .fp32 then env.floatBits value else BitVec.ofInt 32 value

def elementBytes (bits : BitVec 32) : List UInt8 :=
  [0, 8, 16, 24].map fun shift => UInt8.ofNat (bits.toNat / 2 ^ shift % 256)

def storeElement (dataType : DataType) (s : Sys) (address : Address) (value : Int) : Sys :=
  s.issue (.host (.store address (elementBytes (elementBits env dataType value))))

def storeRepeated (dataType : DataType) (value : Int) (buffer : Address) (s : Sys)
    (offset : Nat) : Nat → Sys
  | 0 => s
  | count + 1 =>
      storeRepeated dataType value buffer
        (storeElement env dataType s (buffer.advance offset) value) (offset + 4) count

/-- The loop of the two element count fills. `next` makes a request's value from the one
before and its element count. It gives the last value and the offset behind it. -/
def storeCounts (dataType : DataType) (next : Int → Int → Int) (sourceInput : String)
    (buffer : Address) (byteSize : Nat) (value : Int) (s : Sys) (request : Nat) :
    Nat → Except TritonError (Int × Nat) × Sys
  | 0 => (.ok (value, 4 * request), s)
  | count + 1 =>
      if 4 * request + 4 > byteSize then (.error (unexpectedSize ""), s)
      else
        let looked := inputShape env cfg sourceInput s request
        match looked.1 with
        | .error error => (.error error, looked.2)
        | .ok shape =>
            let value := next value (getElementCount shape)
            storeCounts dataType next sourceInput buffer byteSize value
              (storeElement env dataType looked.2 (buffer.advance (4 * request)) value)
              (request + 1) count

def setCounts (dataType : DataType) (next : Int → Int → Int) (rest : Int → Int)
    (sourceInput : String) (buffer : Address) (byteSize : Nat) (s : Sys) :
    Option TritonError × Sys :=
  let stored := storeCounts env cfg dataType next sourceInput buffer byteSize 0 s 0
    cfg.requests.length
  match stored.1 with
  | .error error => (some error, stored.2)
  | .ok (value, offset) =>
      (none, storeRepeated env dataType (rest value) buffer stored.2 offset
        ((byteSize - offset) / 4))

def setElementCount (dataType : DataType) :=
  setCounts env cfg dataType (fun _ count => count) (fun _ => 0)

def setAccumulatedElementCount (dataType : DataType) :=
  setCounts env cfg dataType (fun value count => toSize (value + count)) (fun value => value)

def storeShape (dataType : DataType) (s : Sys) (address : Address) : List Int → Sys
  | [] => s
  | dim :: rest =>
      storeShape dataType (storeElement env dataType s address dim) (address.advance 4) rest

/-- `memcpy` of an item to each of the `count` items behind it, from item `idx` on. -/
def repeatItem (buffer : Address) (itemSize : Nat) (s : Sys) (idx : Nat) : Nat → Sys
  | 0 => s
  | count + 1 =>
      repeatItem buffer itemSize
        (s.issue (.host (.copy {
          source := buffer
          target := buffer.advance (idx * itemSize)
          byteSize := itemSize }))) (idx + 1) count

def setBatchItemShapeFrom (dataType : DataType) (sourceInput : String) (buffer : Address)
    (byteSize : Nat) (s : Sys) (offset request : Nat) : Nat → Option TritonError × Sys
  | 0 => (none, s)
  | count + 1 =>
      let looked := inputShape env cfg sourceInput s request
      match looked.1 with
      | .error error => (some error, looked.2)
      | .ok shape =>
          let itemSize := 4 * itemRank shape
          let batchSize := toSize (shape.headD 0)
          let extent := toSize (batchSize * itemSize)
          if toSize (offset + extent) > byteSize then
            (some (unexpectedSize ((cfg.requests[request]?.map getRequestId).getD "")), looked.2)
          else
            let s := storeShape env dataType looked.2 (buffer.advance offset) shape.tail
            let s := repeatItem (buffer.advance offset) itemSize s 1 ((shape.headD 0).toNat - 1)
            setBatchItemShapeFrom dataType sourceInput buffer byteSize s
              (toSize (offset + extent)) (request + 1) count

def setBatchItemShape (dataType : DataType) (sourceInput : String) (buffer : Address)
    (byteSize : Nat) (s : Sys) : Option TritonError × Sys :=
  setBatchItemShapeFrom env cfg dataType sourceInput buffer byteSize s 0 0 cfg.requests.length

def fillBatchInput (batchInput : BatchInput) (buffer : Address) (byteSize : Nat) (s : Sys) :
    Option TritonError × Sys :=
  let dataType := batchInput.dataType
  match batchInput.kind with
  | .batchElementCount =>
      setElementCount env cfg dataType batchInput.sourceInput buffer byteSize s
  | .batchAccumulatedElementCount =>
      setAccumulatedElementCount env cfg dataType batchInput.sourceInput buffer byteSize s
  | .batchAccumulatedElementCountWithZero =>
      setAccumulatedElementCount env cfg dataType batchInput.sourceInput (buffer.advance 4)
        (toSize ((byteSize : Int) - 4)) (storeElement env dataType s buffer 0)
  | .batchMaxElementCountAsShape => (none, s)
  | .batchItemShape | .batchItemShapeFlatten =>
      setBatchItemShape env cfg dataType batchInput.sourceInput buffer byteSize
        (storeElement env dataType s buffer 0)

/-- The host buffer that the values are written to: the tensor itself, or internal
memory for a GPU tensor. -/
def batchInputHost (tensor : Tensor) (s : Sys) : Except TritonError BackendMemory × Sys :=
  createBackendMemory env s .scratch [.cpuPinnedPool, .cpu] 0 tensor.byteSize

def fillBatchTensor (batchInput : BatchInput) (tensor : Tensor) (c : Collector) : Gathered :=
  if tensor.memoryType ≠ .gpu then
    let filled := fillBatchInput env cfg batchInput tensor.buffer tensor.byteSize c.toSys
    { error := filled.1, dst := tensor, collector := c.withSys filled.2 }
  else
    let host := batchInputHost env tensor c.toSys
    match host.1 with
    | .error error => { error := some error, dst := tensor, collector := c.withSys host.2 }
    | .ok memory =>
        let filled := fillBatchInput env cfg batchInput memory.memoryPtr tensor.byteSize host.2
        match filled.1 with
        | some error => { error := some error, dst := tensor, collector := c.withSys filled.2 }
        | none =>
            if batchInput.kind = .batchMaxElementCountAsShape then
              { error := none, dst := tensor, collector := c.withSys filled.2 }
            else
              let copied := copyBuffer env filled.2 "batch input buffer" memory.memoryType
                memory.memoryTypeId tensor.memoryType tensor.memoryTypeId tensor.byteSize
                memory.memoryPtr tensor.buffer cfg.copyOnStream
              match copied.error with
              | some error => {
                  error := some error, dst := tensor, collector := c.withSys copied.sys }
              | none => {
                  error := none
                  dst := tensor
                  collector := orSync (copied.cudaUsed, c.withSys copied.sys) }

def processBatchInput (batchInput : BatchInput) (buffer : Option Address)
    (bufferByteSize : Nat) (allowedInputTypes : List (MemoryType × Int)) (kept : Tensor)
    (c : Collector) : Gathered :=
  let c := c.waitBufferReady
  match buffer with
  | none =>
      if allowedInputTypes.length = 0 then {
        error := errorNew .internal
          "'allowed_input_types' must contain at least one pair of memory type and id"
        dst := kept
        collector := c }
      else
        let shaped := batchInputShape env cfg batchInput c.toSys
        match shaped.1 with
        | .error error => { error := some error, dst := kept, collector := c.withSys shaped.2 }
        | .ok shape =>
            let byteSize := toSize (getByteSize batchInput.dataType shape)
            let allocated := allocateAllowed env .gathered byteSize shaped.2 allowedInputTypes
            match allocated.1 with
            | none => {
                error := errorNew .internal
                  ("failed to allocate contiguous buffer for batch input '" ++
                    batchInput.targetNames.headD "" ++ "'")
                dst := { kept with byteSize }
                collector := c.withSys allocated.2 }
            | some memory =>
                fillBatchTensor env cfg batchInput memory.tensor (c.withSys allocated.2)
  | some buffer =>
      match allowedInputTypes with
      | [(memoryType, memoryTypeId)] =>
          fillBatchTensor env cfg batchInput
            { buffer, byteSize := bufferByteSize, memoryType, memoryTypeId } c
      | _ => {
          error := errorNew .internal
            "'allowed_input_types' must only contain the memory type and id of 'buffer'"
          dst := kept
          collector := c }

end

end TritonBackend
