import TritonBackend.CopyStream
import Mathlib.Algebra.Group.Int.Defs
import Mathlib.Algebra.GroupWithZero.Nat

/-!
The definitions the collector and the responder share: memory types and sizes,
errors, the response macros, `CopyBuffer` and `BackendMemory::Create`, for a
build with TRITON_ENABLE_GPU. Every outcome that the server or the CUDA runtime
decides is read from an `Env`, indexed by the number of calls made so far.
-/

namespace TritonBackend

open CopyStream

inductive MemoryType
  | cpu
  | cpuPinned
  | gpu
deriving DecidableEq, Repr

def getUsePinnedMemoryType (refBufferType : MemoryType) : MemoryType :=
  if refBufferType = .cpuPinned then .cpuPinned
  else if refBufferType = .cpu then .gpu else .cpu

inductive DataType
  | invalid | bool
  | uint8 | uint16 | uint32 | uint64
  | int8 | int16 | int32 | int64
  | fp16 | fp32 | fp64
  | bytes | bf16
deriving DecidableEq, Repr

/-- `TRITONSERVER_DataTypeByteSize`, which is the server's, with the sizes that it documents; 0
where elements have no fixed size. -/
def dataTypeByteSize : DataType → Nat
  | .bool | .uint8 | .int8 => 1
  | .uint16 | .int16 | .fp16 | .bf16 => 2
  | .uint32 | .int32 | .fp32 => 4
  | .uint64 | .int64 | .fp64 => 8
  | .bytes | .invalid => 0

def wildcardDim : Int := -1

def toInt64 (value : Int) : Int := value.bmod (2 ^ 64)

def toSize (value : Int) : Nat := (value % 2 ^ 64).toNat

def elementCountFrom (first : Bool) (cnt : Int) : List Int → Int
  | [] => cnt
  | dim :: rest =>
      if dim = wildcardDim then -1
      else if first then elementCountFrom false dim rest
      else elementCountFrom false (toInt64 (cnt * dim)) rest

def getElementCount (dims : List Int) : Int := elementCountFrom true 0 dims

def getByteSize (dtype : DataType) (dims : List Int) : Int :=
  let dtSize := dataTypeByteSize dtype
  if dtSize = 0 then -1
  else
    let cnt := getElementCount dims
    if cnt = -1 then -1 else toInt64 (cnt * dtSize)

/-! Errors. -/

inductive ErrorCode
  | unknown | internal | notFound | invalidArg | unavailable | unsupported | alreadyExists
deriving DecidableEq, Repr

structure TritonError where
  code : ErrorCode
  message : String
deriving DecidableEq, Repr

inductive CommonErrorCode
  | success | unknown | internal | notFound | invalidArg | unavailable | unsupported
  | alreadyExists
deriving DecidableEq, Repr

structure CommonError where
  code : CommonErrorCode
  message : String
deriving DecidableEq, Repr

/-- `TRITONSERVER_ErrorNew`, which never returns a null pointer. -/
def errorNew (code : ErrorCode) (message : String) : Option TritonError :=
  some { code, message }

def statusCodeToTritonCode : CommonErrorCode → ErrorCode
  | .unknown => .unknown
  | .internal => .internal
  | .notFound => .notFound
  | .invalidArg => .invalidArg
  | .unavailable => .unavailable
  | .unsupported => .unsupported
  | .alreadyExists => .alreadyExists
  | _ => .unknown

def commonErrorToTritonError (error : CommonError) : Option TritonError :=
  errorNew (statusCodeToTritonCode error.code) error.message

/-! Memory. -/

/-- Where bytes live. Request buffers are addresses in the address space of their
memory type and id. Every other buffer is a block of its own, numbered in the order
of allocation: `tensor` for one the backend supplies, `gathered` for one the
collector allocates for a tensor, `staging` for a pinned buffer on the way to or from a
tensor, `scratch` for other internal memory, `output` for one the server gives to a
response. -/
inductive Block
  | input (memoryType : MemoryType) (memoryTypeId : Int)
  | tensor (n : Nat)
  | gathered (n : Nat)
  | staging (n : Nat)
  | scratch (n : Nat)
  | output (n : Nat)
deriving DecidableEq, Repr

abbrev Address := Pointer Block

def nullAddress : Address := { block := .input .cpu 0, offset := 0 }

def isNull (address : Address) : Bool :=
  match address.block with
  | .input _ _ => address.offset == 0
  | _ => false

/-- `MemoryDesc`; `buffer` is a number in the address space of the memory type and
id, and 0 is the null pointer. -/
structure MemoryDesc where
  buffer : Nat
  byteSize : Nat
  memoryType : MemoryType
  memoryTypeId : Int
deriving DecidableEq, Repr

def MemoryDesc.address (desc : MemoryDesc) : Address :=
  { block := .input desc.memoryType desc.memoryTypeId, offset := desc.buffer }

/-- A null pointer holds no bytes. -/
def MemoryDesc.Sound (desc : MemoryDesc) : Prop := desc.buffer = 0 → desc.byteSize = 0

instance (desc : MemoryDesc) : Decidable desc.Sound :=
  inferInstanceAs (Decidable (desc.buffer = 0 → desc.byteSize = 0))

structure ContiguousBuffer where
  memoryDesc : MemoryDesc
  startRequestIdx : Nat
  endRequestIdx : Nat
deriving DecidableEq, Repr

def ContiguousBuffer.byteSize (input : ContiguousBuffer) : Nat := input.memoryDesc.byteSize

structure Input where
  name : String
  shape : List Int
  buffers : List MemoryDesc

structure Request where
  id : String
  inputs : List Input
  outputs : List String

def Request.input? (request : Request) (name : String) : Option Input :=
  request.inputs.find? fun input => input.name == name

def getRequestId (request : Request) : String :=
  "[request id: " ++ (if request.id = "" then "<id_unknown>" else request.id) ++ "] "

structure DeferredPinned where
  finalized : Bool
  pinnedMemory : Address
  pinnedMemorySize : Nat
  tensorBuffer : Address
  tensorBufferOffset : Nat
  tensorMemoryType : MemoryType
  tensorMemoryId : Int
  requests : List ContiguousBuffer
deriving DecidableEq, Repr

/-- What one queued task of an asynchronous flush captures: its chunks, the offset
of the first of them in the pinned buffer, and the block whose final copy the last
task starts. `incompleteCount` is the initial value of the flush's shared counter. -/
structure Task where
  flush : Nat
  incompleteCount : Nat
  offset : Nat
  buffers : List ContiguousBuffer
  pinnedMemoryType : MemoryType
  pinnedMemoryTypeId : Int
  deferred : DeferredPinned
deriving DecidableEq, Repr

inductive AllocationType
  | cpu | cpuPinned | gpu | cpuPinnedPool | gpuPool
deriving DecidableEq, Repr

def AllocationType.memoryType : AllocationType → MemoryType
  | .cpu => .cpu
  | .cpuPinned | .cpuPinnedPool => .cpuPinned
  | .gpu | .gpuPool => .gpu

def AllocationType.name : AllocationType → String
  | .cpu => "CPU"
  | .cpuPinned => "CPU_PINNED"
  | .gpu => "GPU"
  | .cpuPinnedPool => "CPU_PINNED_POOL"
  | .gpuPool => "GPU_POOL"

/-! What the server and the CUDA runtime decide. -/

inductive Call
  | requestInput (request : Nat)
  | inputProperties
  | inputBuffer
  | allocate (allocType : AllocationType)
  | memcpyAsync
  | memcpyPeerAsync
  | launchKernel
  | requestOutputCount
  | requestOutputName
  | responseOutput
  | outputBuffer
  | stateNew
  | stateBuffer
deriving DecidableEq, Repr

structure Segment where
  source : MemoryDesc
  offset : Nat
deriving DecidableEq, Repr

/-- The memory that the server answers an output or state buffer request with. -/
structure GivenMemory where
  null : Bool
  memoryType : MemoryType
  memoryTypeId : Int
deriving DecidableEq, Repr

/-- `outcome` is the error of a call, or none; `rejected` is the server's error for a name
or an index that is not there. `runGatherKernel` is what a launched gather does, and
`uninitialized` stands for the value of a local that was never set. `nullsInput` tells
whether a request input lookup that fails sets the caller's handle to nullptr or leaves it
alone. `unsetShape` is what an unchecked lookup that failed shows as a shape, and
`strayDim` is read past the end of one. -/
structure Env where
  outcome : Nat → Call → Option TritonError
  rejected : String → TritonError
  nullsInput : Bool
  uninitialized : Nat → MemoryDesc
  givenMemory : Nat → GivenMemory
  unsetShape : Nat → Nat → Option (List Int)
  strayDim : Nat → Nat → Nat → Int
  runGatherKernel : List Segment → Address → List (Copy Block)
  addTask : Nat → CommonError
  completion : Nat → Bool
  floatBits : Int → BitVec 32

/-- A server and a CUDA runtime on which every call succeeds. -/
def Env.successful (runGatherKernel : List Segment → Address → List (Copy Block)) : Env := {
  outcome := fun _ _ => none
  rejected := fun name => { code := .notFound, message := name }
  nullsInput := true
  uninitialized := fun _ =>
    { buffer := 0, byteSize := 0, memoryType := .cpu, memoryTypeId := 0 }
  givenMemory := fun _ => { null := false, memoryType := .cpu, memoryTypeId := 0 }
  unsetShape := fun _ _ => none
  strayDim := fun _ _ _ => 0
  runGatherKernel
  addTask := fun _ => { code := .success, message := "" }
  completion := fun _ => true
  floatBits := fun value => BitVec.ofInt 32 value }

inductive Event
  | send (response : Nat) (error : Option TritonError)
  | device (action : Action Block UInt8)
  | failedCopy (transfer : Copy Block)
  | given (response : Nat) (buffer : Address) (byteSize : Nat)
  | addTask (task : Task)
  | getCompletion
deriving DecidableEq

def Event.action? : Event → Option (Action Block UInt8)
  | .device action => some action
  | _ => none

def Event.failed? : Event → Option (Copy Block)
  | .failedCopy transfer => some transfer
  | _ => none

def Event.sent? : Event → Option Nat
  | .send response _ => some response
  | _ => none

/-- The state the collector and the responder of one batch share. A slot of
`responses` holds the number of the response, or none once it is set to nullptr.
`log` is what has been done so far, the oldest first. -/
structure Sys where
  responses : List (Option Nat)
  log : List Event
  tick : Nat
  nextBlock : Nat

def Sys.fresh (requestCount : Nat) : Sys := {
  responses := (List.range requestCount).map some
  log := []
  tick := 0
  nextBlock := 0 }

def Sys.actions (s : Sys) : List (Action Block UInt8) := s.log.filterMap Event.action?

def Sys.failed (s : Sys) : List (Copy Block) := s.log.filterMap Event.failed?

def Sys.sent (s : Sys) : List Nat := s.log.filterMap Event.sent?

def Sys.device (s : Sys) : Device Block UInt8 := Device.fresh.run s.actions

def Sys.note (s : Sys) (event : Event) : Sys := { s with log := s.log ++ [event] }

def Sys.issue (s : Sys) (action : Action Block UInt8) : Sys := s.note (.device action)

def Sys.call (env : Env) (s : Sys) (api : Call) : Option TritonError × Sys :=
  (env.outcome s.tick api, { s with tick := s.tick + 1 })

/-! Responses. -/

def Sys.responseSend (s : Sys) (response : Nat) (error : Option TritonError) : Sys :=
  s.note (.send response error)

def Sys.setNull (s : Sys) (idx : Nat) : Sys := { s with responses := s.responses.set idx none }

/-- `if (responses[idx] != nullptr) { ResponseSend(..); responses[idx] = nullptr; }` -/
def sendIfNotNull (s : Sys) (idx : Nat) (error : Option TritonError) : Sys :=
  match s.responses[idx]? with
  | some (some response) => (s.responseSend response error).setNull idx
  | _ => s

def respondAndSetNullIfError (s : Sys) (idx : Nat) (error : Option TritonError) : Sys :=
  match error with
  | none => s
  | some _ => sendIfNotNull s idx error

def sendFrom (s : Sys) (error : Option TritonError) (idx : Nat) : Nat → Sys
  | 0 => s
  | count + 1 => sendFrom (sendIfNotNull s idx error) error (idx + 1) count

/-- The loop over `responses[0..count)` of the two `RESPOND_ALL_*` macros. -/
def respondAllAndSetNullIfError (s : Sys) (count : Nat) (error : Option TritonError) : Sys :=
  match error with
  | none => s
  | some _ => sendFrom s error 0 count

def respondAllAndSetTrueIfError (s : Sys) (count : Nat) (flag : Bool)
    (error : Option TritonError) : Bool × Sys :=
  match error with
  | none => (flag, s)
  | some _ => (true, sendFrom s error 0 count)

def sendErrorForResponses (s : Sys) (responseCount : Nat) (error : Option TritonError) : Sys :=
  sendFrom s error 0 responseCount

def failRequests (s : Sys) (error : Option TritonError) (input : ContiguousBuffer) : Sys :=
  sendFrom s error input.startRequestIdx (input.endRequestIdx + 1 - input.startRequestIdx)

def failAllRequests (s : Sys) (error : Option TritonError) : List ContiguousBuffer → Sys
  | [] => s
  | input :: rest => failAllRequests (failRequests s error input) error rest

/-! Copies and allocations. -/

structure CopyResult where
  error : Option TritonError
  cudaUsed : Bool
  sys : Sys

/-- `CopyBuffer`. A copy that fails has no effect and is noted as such. The result of
`cudaLaunchHostFunc` is ignored, so the copies that it is given have no outcome: they are taken
to be launched. -/
def copyBuffer (env : Env) (s : Sys) (msg : String) (srcMemoryType : MemoryType)
    (srcMemoryTypeId : Int) (dstMemoryType : MemoryType) (dstMemoryTypeId : Int)
    (byteSize : Nat) (src dst : Address) (copyOnStream : Bool) : CopyResult :=
  let transfer : Copy Block := { source := src, target := dst, byteSize }
  if byteSize > 0 ∧ isNull src then {
    error := errorNew .internal (msg ++ ": attempted a copy of " ++ toString byteSize ++
      " Bytes from an uninitialized memory")
    cudaUsed := false
    sys := s.note (.failedCopy transfer) }
  else if byteSize > 0 ∧ isNull dst then {
    error := errorNew .internal (msg ++ ": attempted a copy of " ++ toString byteSize ++
      " Bytes to an uninitialized memory")
    cudaUsed := false
    sys := s.note (.failedCopy transfer) }
  else if srcMemoryType ≠ .gpu ∧ dstMemoryType ≠ .gpu then
    if copyOnStream then { error := none, cudaUsed := true, sys := s.issue (.stream [transfer]) }
    else { error := none, cudaUsed := false, sys := s.issue (.host (.copy transfer)) }
  else
    let peer := srcMemoryTypeId ≠ dstMemoryTypeId ∧ srcMemoryType = .gpu ∧ dstMemoryType = .gpu
    match s.call env (if peer then .memcpyPeerAsync else .memcpyAsync) with
    | (none, s) => { error := none, cudaUsed := true, sys := s.issue (.stream [transfer]) }
    | (some cudaError, s) => {
        error := errorNew .internal
          (msg ++ ": failed to perform CUDA copy" ++ ": " ++ cudaError.message)
        cudaUsed := false
        sys := s.note (.failedCopy transfer) }

structure BackendMemory where
  allocType : AllocationType
  memoryTypeId : Int
  memoryPtr : Address
  byteSize : Nat
deriving Repr

def BackendMemory.memoryType (memory : BackendMemory) : MemoryType := memory.allocType.memoryType

/-- The attempts of `BackendMemory::Create` in list order; `failures` is the text of the errors so
far, in the order of the map that holds them, which has the last one first. `place` names the new
block. -/
def createFrom (env : Env) (s : Sys) (place : Nat → Block) (memoryTypeId : Int)
    (byteSize : Nat) (failures : String) :
    List AllocationType → Except TritonError BackendMemory × Sys
  | [] => (.error {
      code := .unavailable
      message := "BackendMemory::Create, all allocation types failed:" ++ failures }, s)
  | allocType :: rest =>
      match s.call env (.allocate allocType) with
      | (none, s) =>
          (.ok {
            allocType, memoryTypeId, byteSize
            memoryPtr := { block := place s.nextBlock, offset := 0 } },
           { s with nextBlock := s.nextBlock + 1 })
      | (some error, s) =>
          createFrom env s place memoryTypeId byteSize
            ("\n\t" ++ allocType.name ++ ": " ++ error.message ++ failures) rest

def createBackendMemory (env : Env) (s : Sys) (place : Nat → Block)
    (allocTypes : List AllocationType) (memoryTypeId : Int) (byteSize : Nat) :
    Except TritonError BackendMemory × Sys :=
  match allocTypes with
  | [] => (.error {
      code := .invalidArg
      message := "BackendMemory::Create, at least one allocation type must be specified" }, s)
  | _ => createFrom env s place memoryTypeId byteSize "" allocTypes

/-! Request lookups. -/

def requestInput (env : Env) (requests : List Request) (s : Sys) (idx : Nat) (name : String) :
    Except TritonError Input × Sys :=
  match s.call env (.requestInput idx), requests[idx]?.bind (·.input? name) with
  | (some error, s), _ => (.error error, s)
  | (none, s), some input => (.ok input, s)
  | (none, s), none => (.error (env.rejected name), s)

/-- `TRITONBACKEND_InputPropertiesForHostPolicy` on a handle; a handle that is null or
was never set makes the call fail. -/
def inputProperties (env : Env) (s : Sys) (name : String) (handle : Option Input) :
    Except TritonError Input × Sys :=
  match s.call env .inputProperties, handle with
  | (some error, s), _ => (.error error, s)
  | (none, s), some input => (.ok input, s)
  | (none, s), none => (.error (env.rejected name), s)

def inputBuffer (env : Env) (s : Sys) (name : String) (handle : Option Input) (idx : Nat) :
    Except TritonError MemoryDesc × Sys :=
  match s.call env .inputBuffer, handle.bind (·.buffers[idx]?) with
  | (some error, s), _ => (.error error, s)
  | (none, s), some buffer => (.ok buffer, s)
  | (none, s), none => (.error (env.rejected name), s)

end TritonBackend
