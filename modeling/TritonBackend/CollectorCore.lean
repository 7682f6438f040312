import TritonBackend.IteratorCore

/-!
`BackendInputCollector`: gathering one named input of every request of a batch into a
tensor. A chunk is copied directly, staged through a pinned buffer, or batched for the
gather kernel; a staged copy can be deferred to `finalize` or to a worker's task.
-/

namespace TritonBackend

open CopyStream

structure CollectorConfig where
  requests : List Request
  pinnedEnabled : Bool
  workerCount : Nat
  event : Bool
  kernelBufferThreshold : Nat
  copyOnStream : Bool
  coalesceRequestInput : Bool

/-- The settings of a collector that stages but uses neither kernel nor work queue. -/
def CollectorConfig.plain (requests : List Request) : CollectorConfig := {
  requests
  pinnedEnabled := true
  workerCount := 0
  event := false
  kernelBufferThreshold := 0
  copyOnStream := false
  coalesceRequestInput := false }

def CollectorConfig.useAsyncCpuCopy (cfg : CollectorConfig) : Bool := cfg.workerCount > 1

def totalByteSize (inputs : List ContiguousBuffer) : Nat :=
  (inputs.map ContiguousBuffer.byteSize).sum

def requestChunk (request buffer byteSize : Nat) (memoryType : MemoryType) : ContiguousBuffer := {
  memoryDesc := { buffer, byteSize, memoryType, memoryTypeId := 0 }
  startRequestIdx := request
  endRequestIdx := request }

structure Collector extends Sys where
  needSync : Bool
  bufferReadyEvent : Bool
  pendingPinnedByteSize : Nat
  pendingPinnedOffset : Nat
  pendingPinnedInputBuffers : List ContiguousBuffer
  pendingCopyKernelBufferByteSize : Nat
  pendingCopyKernelBufferOffset : Nat
  pendingCopyKernelInputBufferCounts : Nat
  pendingCopyKernelInputBuffers : List ContiguousBuffer
  deferredPinned : List DeferredPinned
  asyncTaskCount : Nat

def Collector.create (s : Sys) (bufferReadyEvent : Bool) : Collector := {
  s with
  needSync := false
  bufferReadyEvent
  pendingPinnedByteSize := 0
  pendingPinnedOffset := 0
  pendingPinnedInputBuffers := []
  pendingCopyKernelBufferByteSize := 0
  pendingCopyKernelBufferOffset := 0
  pendingCopyKernelInputBufferCounts := 0
  pendingCopyKernelInputBuffers := []
  deferredPinned := []
  asyncTaskCount := 0 }

/-- The tensor buffer, its size, memory type and memory type id, which the collector's
functions pass along together. -/
structure Tensor where
  buffer : Address
  byteSize : Nat
  memoryType : MemoryType
  memoryTypeId : Int

def Collector.withSys (c : Collector) (s : Sys) : Collector := { c with toSys := s }

/-- `need_sync_ |= ..` on the result of a step. -/
def orSync (result : Bool × Collector) : Collector :=
  { result.2 with needSync := result.2.needSync || result.1 }

def Collector.waitBufferReady (c : Collector) : Collector :=
  if c.bufferReadyEvent then { c with bufferReadyEvent := false } else c

def Collector.recordEvent (cfg : CollectorConfig) (c : Collector) : Collector :=
  if c.needSync && cfg.event then c.withSys (c.toSys.issue .record) else c

/-! The gather kernel. -/

def segmentsFrom (offset : Nat) : List ContiguousBuffer → List Segment
  | [] => []
  | input :: rest =>
      { source := input.memoryDesc, offset } :: segmentsFrom (offset + input.byteSize) rest

/-- The gather a launch is meant to perform: each segment at its offset. -/
def gatherSegments (segments : List Segment) (output : Address) : List (Copy Block) :=
  segments.map fun segment => {
    source := segment.source.address
    target := output.advance segment.offset
    byteSize := segment.source.byteSize }

/-- A `size_t` read into the kernel's `int`. -/
def toInt32 (value : Nat) : Int := (value : Int).bmod (2 ^ 32)

/-- `TritonGatherKernel`: a block of threads copies the `byte_size` bytes of its segment
to `byte_size_offset`, both held in an `int`. What the threads of a block store is one copy here;
for how long a segment they do store that, without an overflow of their counters, is said where
the threads are modelled one by one. -/
def tritonGatherKernel (segments : List Segment) (output : Address) : List (Copy Block) :=
  segments.map fun segment => {
    source := segment.source.address
    target := { output with offset := output.offset + toInt32 segment.offset }
    byteSize := (toInt32 segment.source.byteSize).toNat }

def allocationTypes : MemoryType → List AllocationType
  | .gpu => [.gpuPool, .gpu]
  | .cpuPinned => [.cpuPinnedPool, .cpuPinned]
  | .cpu => [.cpu]

section
variable (env : Env) (cfg : CollectorConfig)

def Collector.addPendingPinned (c : Collector) (input : ContiguousBuffer)
    (tensorBufferOffset : Nat) : Collector := {
  c with
  pendingPinnedOffset :=
    if c.pendingPinnedByteSize = 0 then tensorBufferOffset else c.pendingPinnedOffset
  pendingPinnedByteSize := c.pendingPinnedByteSize + input.byteSize
  pendingPinnedInputBuffers := c.pendingPinnedInputBuffers ++ [input] }

def Collector.addPendingCopyKernel (c : Collector) (input : ContiguousBuffer)
    (tensorBufferOffset : Nat) : Collector := {
  c with
  pendingCopyKernelBufferOffset :=
    if c.pendingCopyKernelBufferByteSize = 0 then tensorBufferOffset
    else c.pendingCopyKernelBufferOffset
  pendingCopyKernelBufferByteSize := c.pendingCopyKernelBufferByteSize + input.byteSize
  pendingCopyKernelInputBufferCounts := c.pendingCopyKernelInputBufferCounts + 1
  pendingCopyKernelInputBuffers := c.pendingCopyKernelInputBuffers ++ [input] }

def kernelCopies (input : ContiguousBuffer) (tensor : Tensor) : Bool :=
  input.memoryDesc.memoryType ≠ .cpu && tensor.memoryType = .gpu &&
    (input.memoryDesc.memoryType ≠ .gpu || input.memoryDesc.memoryTypeId = tensor.memoryTypeId)

def directCopy (c : Collector) (inputName : String) (input : ContiguousBuffer)
    (tensor : Tensor) (tensorBufferOffset : Nat) (waitBuffer : Bool) : Bool × Collector :=
  let c := if waitBuffer then c.waitBufferReady else c
  let copied := copyBuffer env c.toSys inputName input.memoryDesc.memoryType
    input.memoryDesc.memoryTypeId tensor.memoryType tensor.memoryTypeId input.byteSize
    input.memoryDesc.address (tensor.buffer.advance tensorBufferOffset) cfg.copyOnStream
  match copied.error with
  | none => (copied.cudaUsed, c.withSys copied.sys)
  | some error => (copied.cudaUsed,
      c.withSys (failRequests copied.sys (errorNew error.code error.message) input))

def setInputTensor (c : Collector) (inputName : String) (input : ContiguousBuffer)
    (tensor : Tensor) (tensorBufferOffset : Nat) (usePinnedMemoryType : MemoryType)
    (useKernel waitBuffer : Bool) : Bool × Collector :=
  -- a chunk that does not fit fails its responses and is left out
  if tensorBufferOffset + input.byteSize > tensor.byteSize then
    (false, c.withSys (failRequests c.toSys (errorNew .invalidArg
      ("unexpected total byte size " ++ toString (tensorBufferOffset + input.byteSize) ++
        " for input '" ++ inputName ++ "', expecting " ++ toString tensor.byteSize)) input))
  -- the chunk waits for its group, which is staged or launched as one
  else if usePinnedMemoryType ≠ .cpuPinned ∧
      input.memoryDesc.memoryType = usePinnedMemoryType then
    (false, c.addPendingPinned input tensorBufferOffset)
  else if useKernel && kernelCopies input tensor then
    (false, c.addPendingCopyKernel input tensorBufferOffset)
  else directCopy env cfg c inputName input tensor tensorBufferOffset waitBuffer

/-- `SetInputTensor` on each chunk of a list, one behind the other from `offset` on,
without staging or kernel: the loops over a pending group. -/
def setInputTensors (inputName : String) (tensor : Tensor) (offset : Nat) (cudaUsed : Bool)
    (c : Collector) : List ContiguousBuffer → Bool × Collector
  | [] => (cudaUsed, c)
  | input :: rest =>
      let set := setInputTensor env cfg c inputName input tensor offset .cpuPinned false true
      setInputTensors inputName tensor (offset + input.byteSize) (cudaUsed || set.1) set.2 rest

/-! Staging through a pinned buffer. -/

def Collector.clearPendingPinned (c : Collector) : Collector := {
  c with
  pendingPinnedByteSize := 0
  pendingPinnedOffset := 0
  pendingPinnedInputBuffers := [] }

def Collector.deferral (c : Collector) (pinnedMemory : Address) (tensor : Tensor)
    (finalized : Bool) : DeferredPinned := {
  finalized, pinnedMemory
  pinnedMemorySize := c.pendingPinnedByteSize
  tensorBuffer := tensor.buffer
  tensorBufferOffset := c.pendingPinnedOffset
  tensorMemoryType := tensor.memoryType
  tensorMemoryId := tensor.memoryTypeId
  requests := c.pendingPinnedInputBuffers }

/-- The inner `for` loop: up to `count` chunks off the list, the offset behind them,
and the rest. It stops early at the end of the list. -/
def takeSegment (offset : Nat) : Nat → List ContiguousBuffer →
    List ContiguousBuffer × Nat × List ContiguousBuffer
  | 0, pending => ([], offset, pending)
  | _ + 1, [] => ([], offset, [])
  | count + 1, input :: rest =>
      let taken := takeSegment (offset + input.byteSize) count rest
      (input :: taken.1, taken.2)

/-- The `while` loop that hands the pending chunks to the work queue, `stride` at a
time. Each pass consumes a chunk, so `fuel` chunks need no more than `fuel` passes. -/
def enqueueTasks (task : Nat → List ContiguousBuffer → Task) (stride : Nat) :
    Nat → Nat → List ContiguousBuffer → Sys → Sys
  | 0, _, _, s => s
  | _ + 1, _, [], s => s
  | fuel + 1, offset, pending, s =>
      let segment := takeSegment offset stride pending
      let status := env.addTask s.tick
      let s := { s with tick := s.tick + 1 }
      let s := if status.code = .success then s.note (.addTask (task offset segment.1)) else s
      let s := match commonErrorToTritonError status with
        | none => s
        | some error => failAllRequests s (some error) segment.1
      enqueueTasks task stride fuel segment.2.1 segment.2.2 s

def asyncStride (cfg : CollectorConfig) (count : Nat) : Nat :=
  (count + cfg.workerCount - 1) / cfg.workerCount

def startAsyncFlush (c : Collector) (memory : BackendMemory) (tensor : Tensor) : Collector :=
  let deferred := c.deferral memory.memoryPtr tensor true
  -- the counter is set from the workers, not from the segments that the stride makes
  let task (offset : Nat) (buffers : List ContiguousBuffer) : Task := {
    flush := c.asyncTaskCount
    incompleteCount := min deferred.requests.length cfg.workerCount
    offset, buffers, deferred
    pinnedMemoryType := memory.memoryType
    pinnedMemoryTypeId := memory.memoryTypeId }
  let s := enqueueTasks env task (asyncStride cfg deferred.requests.length)
    deferred.requests.length 0 deferred.requests c.toSys
  { c with
    toSys := s
    asyncTaskCount := c.asyncTaskCount + 1
    deferredPinned := c.deferredPinned ++ [deferred] }

def copyPinned (c : Collector) (memory : BackendMemory) (tensor : Tensor) :
    Bool × Collector :=
  let c := c.waitBufferReady
  let copied := copyBuffer env c.toSys "pinned input buffer H2D" .cpuPinned 0 tensor.memoryType
    tensor.memoryTypeId c.pendingPinnedByteSize memory.memoryPtr
    (tensor.buffer.advance c.pendingPinnedOffset) cfg.copyOnStream
  match copied.error with
  | none => (copied.cudaUsed, c.withSys copied.sys)
  | some error => (copied.cudaUsed,
      c.withSys (failAllRequests copied.sys (some error) c.pendingPinnedInputBuffers))

/-- The synchronous branch: stage every chunk, then copy the staged block, at once or
in `finalize` when a chunk is still on its way. -/
def stagePinned (c : Collector) (memory : BackendMemory) (tensor : Tensor) :
    Bool × Collector :=
  let staged := setInputTensors env cfg "pinned H2H" {
      buffer := memory.memoryPtr
      byteSize := c.pendingPinnedByteSize
      memoryType := .cpuPinned
      memoryTypeId := 0 } 0 false c c.pendingPinnedInputBuffers
  -- `finalize` copies a block that the stream still fills
  if staged.1 then
    (true, { staged.2 with
      deferredPinned :=
        staged.2.deferredPinned ++ [staged.2.deferral memory.memoryPtr tensor false] })
  else copyPinned env cfg staged.2 memory tensor

def allocatePinned (c : Collector) : Option BackendMemory × Sys :=
  if c.pendingPinnedByteSize > 0 then
    let created := createBackendMemory env c.toSys .staging [.cpuPinnedPool, .cpuPinned] 0
      c.pendingPinnedByteSize
    (created.1.toOption, created.2)
  else (none, c.toSys)

def flushPendingPinned (c : Collector) (tensor : Tensor) : Bool × Collector :=
  let allocated := allocatePinned env c
  let c := c.withSys allocated.2
  let flushed := match allocated.1 with
    | none => setInputTensors env cfg "pinned fallback" tensor c.pendingPinnedOffset false c
        c.pendingPinnedInputBuffers
    | some memory =>
        if cfg.useAsyncCpuCopy then (false, startAsyncFlush env cfg c memory tensor)
        else stagePinned env cfg c memory tensor
  (flushed.1, flushed.2.clearPendingPinned)

/-! Batching for the gather kernel. -/

/-- One of the three arrays that pass the segments to the kernel. -/
def createKernelArgument (c : Collector) (tensor : Tensor) : Option TritonError × Collector :=
  let created := createBackendMemory env c.toSys .scratch (allocationTypes tensor.memoryType)
    tensor.memoryTypeId (c.pendingCopyKernelInputBufferCounts * 8)
  let failed := errorNew .internal "Failed to obtain memory buffer for copy kernel input"
  match created.1 with
  | .error _ => (failed, c.withSys created.2)
  | .ok memory =>
      if memory.memoryType ≠ tensor.memoryType ∨ memory.memoryTypeId ≠ tensor.memoryTypeId then
        (failed, c.withSys created.2)
      else (none, c.withSys created.2)

def createKernelArguments (tensor : Tensor) (c : Collector) : Nat → Option TritonError × Collector
  | 0 => (none, c)
  | count + 1 =>
      let created := createKernelArgument env c tensor
      match created.1 with
      | some error => (some error, created.2)
      | none => createKernelArguments tensor created.2 count

/-- `LaunchCopyKernel`. The three argument arrays are copied on the stream ahead of the
kernel; the launch carries their contents here. -/
def launchCopyKernel (c : Collector) (tensor : Tensor) : Option TritonError × Collector :=
  let created := createKernelArguments env tensor c 3
  match created.1 with
  | some error => (some error, created.2)
  | none =>
      let c := created.2.waitBufferReady
      match c.toSys.call env .launchKernel with
      | (some cudaError, s) =>
          (errorNew .internal ("Failed to launch gather kernel" ++ ": " ++ cudaError.message),
           c.withSys s)
      | (none, s) =>
          (none, c.withSys (s.issue (.stream (env.runGatherKernel
            (segmentsFrom 0 c.pendingCopyKernelInputBuffers)
            (tensor.buffer.advance c.pendingCopyKernelBufferOffset)))))

def Collector.clearPendingCopyKernel (c : Collector) : Collector := {
  c with
  pendingCopyKernelBufferByteSize := 0
  pendingCopyKernelBufferOffset := 0
  pendingCopyKernelInputBufferCounts := 0
  pendingCopyKernelInputBuffers := [] }

def copyKernelFallback (c : Collector) (tensor : Tensor) : Bool × Collector :=
  setInputTensors env cfg "gather kernel fallback" tensor c.pendingCopyKernelBufferOffset false c
    c.pendingCopyKernelInputBuffers

def flushPendingCopyKernel (c : Collector) (tensor : Tensor) : Bool × Collector :=
  if c.pendingCopyKernelInputBuffers.length = 0 then (false, c)
  else
    let flushed :=
      if c.pendingCopyKernelInputBufferCounts ≥ cfg.kernelBufferThreshold then
        let launched := launchCopyKernel env c tensor
        match launched.1 with
        | none => (true, launched.2)
        | some _ => copyKernelFallback env cfg launched.2 tensor
      else copyKernelFallback env cfg c tensor
    (flushed.1, flushed.2.clearPendingCopyKernel)

/-! `ProcessTensor` into a given buffer. -/

def usePinnedMemoryType (tensor : Tensor) : MemoryType :=
  if cfg.pinnedEnabled then getUsePinnedMemoryType tensor.memoryType else .cpuPinned

def useKernel : Bool := cfg.kernelBufferThreshold ≠ 0

/-- A group that does not end at `bufferOffset` is flushed before the next chunk. -/
def flushPinnedBefore (c : Collector) (tensor : Tensor) (bufferOffset : Nat) : Collector :=
  if c.pendingPinnedByteSize > 0 ∧
      bufferOffset ≠ c.pendingPinnedByteSize + c.pendingPinnedOffset then
    orSync (flushPendingPinned env cfg c tensor)
  else c

def flushCopyKernelBefore (c : Collector) (tensor : Tensor) (bufferOffset : Nat) : Collector :=
  if c.pendingCopyKernelBufferByteSize > 0 ∧
      bufferOffset ≠ c.pendingCopyKernelBufferByteSize + c.pendingCopyKernelBufferOffset then
    orSync (flushPendingCopyKernel env cfg c tensor)
  else c

def processChunk (inputName : String) (tensor : Tensor) (c : Collector) (bufferOffset : Nat)
    (input : ContiguousBuffer) : Collector :=
  let c := flushPinnedBefore env cfg c tensor bufferOffset
  let c := flushCopyKernelBefore env cfg c tensor bufferOffset
  orSync (setInputTensor env cfg c inputName input tensor bufferOffset
    (usePinnedMemoryType cfg tensor) (useKernel cfg) true)

/-- What follows the loop: both groups are flushed and the event is recorded. -/
def finishTensor (tensor : Tensor) (c : Collector) : Collector :=
  let c := orSync (flushPendingPinned env cfg c tensor)
  let c := orSync (flushPendingCopyKernel env cfg c tensor)
  c.recordEvent cfg

def processChunksFrom (inputName : String) (tensor : Tensor) (c : Collector)
    (bufferOffset : Nat) : List ContiguousBuffer → Collector
  | [] => c
  | input :: rest =>
      processChunksFrom inputName tensor (processChunk env cfg inputName tensor c bufferOffset input)
        (bufferOffset + input.byteSize) rest

/-- `ProcessTensor` on the sequence of chunks that the iterator hands to it. -/
def processChunks (inputName : String) (tensor : Tensor) (c : Collector)
    (chunks : List ContiguousBuffer) : Collector :=
  finishTensor env cfg tensor (processChunksFrom env cfg inputName tensor c 0 chunks)

/-- One call of `ProcessTensor` and the chunks that its iterator finds. -/
structure TensorCall where
  inputName : String
  tensor : Tensor
  chunks : List ContiguousBuffer

def gatherTensors (c : Collector) : List TensorCall → Collector
  | [] => c
  | call :: rest =>
      gatherTensors (processChunks env cfg call.inputName call.tensor c call.chunks) rest

def processTensorLoop (inputName : String) (tensor : Tensor) (c : Collector)
    (it : InputIterator) (input : ContiguousBuffer) (bufferOffset : Nat) : Collector :=
  let next := getNextContiguousInput env cfg.requests inputName cfg.coalesceRequestInput input it
    c.toSys
  if next.found then
    processTensorLoop inputName tensor
      (processChunk env cfg inputName tensor (c.withSys next.sys) bufferOffset next.input)
      next.iterator next.input (bufferOffset + next.input.byteSize)
  else c.withSys next.sys
termination_by (cfg.requests.length - it.currRequestIdx, it.currBufferCnt - it.currBufferIdx)
decreasing_by
  rename_i found
  have behind := getNextContiguousInput_behind env cfg.requests inputName
    cfg.coalesceRequestInput input it c.toSys found
  rcases behind with fewer | ⟨same, fewer⟩
  · exact Prod.Lex.left _ _ fewer
  · rw [same]
    exact Prod.Lex.right _ fewer

def ContiguousBuffer.default : ContiguousBuffer := {
  memoryDesc := { buffer := 0, byteSize := 0, memoryType := .cpu, memoryTypeId := 0 }
  startRequestIdx := 0
  endRequestIdx := 0 }

def processTensor (inputName : String) (tensor : Tensor) (c : Collector) : Collector :=
  let it := InputIterator.create env cfg.requests inputName c.toSys
  finishTensor env cfg tensor
    (processTensorLoop env cfg inputName tensor (c.withSys it.2) it.1 .default 0)

/-! `ProcessTensor` returning the buffer. -/

/-- The out parameters of `GetInputBufferIfContiguous` and its locals. -/
structure ContiguousScan where
  desc : MemoryDesc
  expectedNextBuffer : Nat
  contiguous : Bool

def scanBuffer (scan : ContiguousScan) (src : MemoryDesc) : ContiguousScan :=
  -- until a buffer with an address is met each one takes the place of the one before
  if scan.desc.buffer ≠ 0 then
    let desc := { scan.desc with byteSize := scan.desc.byteSize + src.byteSize }
    if cfg.coalesceRequestInput && scan.expectedNextBuffer == src.buffer &&
        scan.desc.memoryType == src.memoryType && scan.desc.memoryTypeId == src.memoryTypeId then
      { scan with desc, expectedNextBuffer := scan.expectedNextBuffer + src.byteSize }
    else { scan with desc, contiguous := false }
  else { scan with desc := src, expectedNextBuffer := src.buffer + src.byteSize }

/-- A buffer lookup that responds to its failure and then leaves the locals unset. -/
def scanLookup (inputName : String) (request : Nat) (handle : Option Input) (s : Sys)
    (idx : Nat) : MemoryDesc × Sys :=
  match inputBuffer env s inputName handle idx with
  | (.ok desc, s) => (desc, s)
  | (.error error, s) =>
      (env.uninitialized s.tick, respondAndSetNullIfError s request (some error))

def scanBuffers (inputName : String) (request : Nat) (handle : Option Input)
    (scan : ContiguousScan) (s : Sys) (idx : Nat) : Nat → ContiguousScan × Sys
  | 0 => (scan, s)
  | count + 1 =>
      let looked := scanLookup env inputName request handle s idx
      scanBuffers inputName request handle (scanBuffer cfg scan looked.1) looked.2 (idx + 1) count

def scanHandle (inputName : String) (s : Sys) (request : Nat) : Option Input × Sys :=
  match requestInput env cfg.requests s request inputName with
  | (.ok input, s) => (some input, s)
  | (.error error, s) => (none, respondAndSetNullIfError s request (some error))

/-- The buffer count; after a failed call it is a local that was never set. -/
def scanCount (inputName : String) (request : Nat) (handle : Option Input) (s : Sys) :
    Nat × Sys :=
  match inputProperties env s inputName handle with
  | (.ok input, s) => (input.buffers.length, s)
  | (.error error, s) =>
      ((env.uninitialized s.tick).byteSize, respondAndSetNullIfError s request (some error))

def scanRequest (inputName : String) (scan : ContiguousScan) (s : Sys) (request : Nat) :
    ContiguousScan × Sys :=
  let held := scanHandle env cfg inputName s request
  let counted := scanCount env inputName request held.1 held.2
  scanBuffers env cfg inputName request held.1 scan counted.2 0 counted.1

def scanRequestsFrom (inputName : String) (scan : ContiguousScan) (s : Sys) (request : Nat) :
    Nat → ContiguousScan × Sys
  | 0 => (scan, s)
  | count + 1 =>
      let scanned := scanRequest env cfg inputName scan s request
      scanRequestsFrom inputName scanned.1 scanned.2 (request + 1) count

/-- `kept` is what the caller's out parameters for the memory type and id hold. -/
def getInputBufferIfContiguous (inputName : String) (kept : MemoryDesc) (s : Sys) :
    ContiguousScan × Sys :=
  scanRequestsFrom env cfg inputName {
    desc := { kept with buffer := 0, byteSize := 0 }
    expectedNextBuffer := 0
    contiguous := true } s 0 cfg.requests.length

def allocateAllowed (place : Nat → Block) (byteSize : Nat) (s : Sys) :
    List (MemoryType × Int) → Option BackendMemory × Sys
  | [] => (none, s)
  | (memoryType, memoryTypeId) :: rest =>
      let created := createBackendMemory env s place (allocationTypes memoryType) memoryTypeId
        byteSize
      match created.1 with
      | .ok memory => (some memory, created.2)
      | .error _ => allocateAllowed place byteSize created.2 rest

/-- The error that is returned and the destination that the `dst_*` parameters hold. -/
structure Gathered where
  error : Option TritonError
  dst : Tensor
  collector : Collector

def BackendMemory.tensor (memory : BackendMemory) : Tensor := {
  buffer := memory.memoryPtr
  byteSize := memory.byteSize
  memoryType := memory.memoryType
  memoryTypeId := memory.memoryTypeId }

def MemoryDesc.tensor (desc : MemoryDesc) : Tensor := {
  buffer := desc.address
  byteSize := desc.byteSize
  memoryType := desc.memoryType
  memoryTypeId := desc.memoryTypeId }

def fillTensor (inputName : String) (tensor : Tensor) (c : Collector) : Gathered := {
  error := none
  dst := tensor
  collector := if tensor.byteSize ≠ 0 then processTensor env cfg inputName tensor c else c }

/-- `buffer` is none for a nullptr. -/
def processTensorDst (inputName : String) (buffer : Option Address) (bufferByteSize : Nat)
    (allowedInputTypes : List (MemoryType × Int)) (kept : MemoryDesc) (c : Collector) :
    Gathered :=
  match buffer with
  | none =>
      if allowedInputTypes.length = 0 then {
        error := errorNew .internal
          "'allowed_input_types' must contain at least one pair of memory type and id"
        dst := kept.tensor
        collector := c }
      else
        let scanned := getInputBufferIfContiguous env cfg inputName kept c.toSys
        let desc := scanned.1.desc
        let c := c.withSys scanned.2
        -- the input is used where it lies, or copied into a buffer of the first allowed type
        if scanned.1.contiguous && desc.byteSize ≠ 0 &&
            allowedInputTypes.contains (desc.memoryType, desc.memoryTypeId) then
          { error := none, dst := desc.tensor, collector := c }
        else
          let allocated := allocateAllowed env .gathered desc.byteSize c.toSys allowedInputTypes
          let c := c.withSys allocated.2
          match allocated.1 with
          | none => {
              error := errorNew .internal
                ("failed to allocate contiguous buffer for input '" ++ inputName ++ "'")
              dst := desc.tensor
              collector := c }
          | some memory => fillTensor env cfg inputName memory.tensor c
  | some buffer =>
      match allowedInputTypes with
      | [(memoryType, memoryTypeId)] =>
          fillTensor env cfg inputName { buffer, byteSize := bufferByteSize, memoryType, memoryTypeId } c
      | _ => {
          error := errorNew .internal
            "'allowed_input_types' must only contain the memory type and id of 'buffer'"
          dst := kept.tensor
          collector := c }

/-! `Finalize`. -/

def finalizeDeferred (s : Sys) (deferred : DeferredPinned) : Bool × Sys :=
  let copied := copyBuffer env s "pinned buffer" .cpuPinned 0 deferred.tensorMemoryType
    deferred.tensorMemoryId deferred.pinnedMemorySize deferred.pinnedMemory
    (deferred.tensorBuffer.advance deferred.tensorBufferOffset) false
  match copied.error with
  | none => (copied.cudaUsed, copied.sys)
  | some error => (copied.cudaUsed, failAllRequests copied.sys (some error) deferred.requests)

def finalizeAll (c : Collector) : List DeferredPinned → Collector
  | [] => c
  | deferred :: rest =>
      -- blocks of the work queue are copied by the last task of their flush
      if deferred.finalized then finalizeAll c rest
      else
        let finalized := finalizeDeferred env c.toSys deferred
        finalizeAll (orSync (finalized.1, c.withSys finalized.2)) rest

/-- `need_sync_ |= completion_queue_.Get()`, once for each asynchronous flush. -/
def getCompletions (c : Collector) : Nat → Collector
  | 0 => c
  | count + 1 =>
      getCompletions
        (orSync (env.completion c.tick,
          c.withSys { c.toSys.note .getCompletion with tick := c.tick + 1 })) count

def waitDeferred (c : Collector) : Collector :=
  -- staging blocks are read only after the copies into them have arrived
  if !c.deferredPinned.isEmpty && c.needSync then {
    c with
    toSys := c.toSys.issue (if cfg.event then .awaitEvent else .awaitStream)
    needSync := false }
  else c

def finalize (c : Collector) : Bool × Collector :=
  let c := (waitDeferred cfg c).waitBufferReady
  let c := finalizeAll env c c.deferredPinned
  let c := getCompletions env c c.asyncTaskCount
  let c := if !c.deferredPinned.isEmpty then c.recordEvent cfg else c
  (c.needSync, c)

/-- The synchronization that a caller owes when `finalize` returns true. -/
def synchronize (c : Collector) (needSync : Bool) : Sys :=
  if needSync then c.toSys.issue (if cfg.event then .awaitEvent else .awaitStream) else c.toSys

/-- The use that a backend makes of a collector: the calls, `Finalize` and the
synchronization. -/
def gatherAndFinalize (s : Sys) (bufferReadyEvent : Bool) (calls : List TensorCall) : Sys :=
  let finalized := finalize env cfg (gatherTensors env cfg (Collector.create s bufferReadyEvent) calls)
  synchronize cfg finalized.2 finalized.1

end

end TritonBackend
