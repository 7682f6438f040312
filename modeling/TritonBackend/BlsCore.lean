import TritonBackend.ExecuteCore
import Mathlib.Data.List.Perm.Basic
import Mathlib.Logic.Relation

/-!
`ProcessRequests` of the BLS backend. Each request becomes two internal requests, to two
other models. The server works on them on its own threads: when it is done with an internal
request it calls `InferRequestComplete`, and with its response `InferResponseComplete`.
-/

namespace TritonBackend

structure BlsInput extends Input where
  datatype : DataType

structure BlsRequest where
  id : String
  correlationId : Nat
  flags : Nat
  inputs : List BlsInput
  outputs : List String

structure InternalId where
  request : Nat
  icount : Nat
deriving DecidableEq, Repr

structure InternalInput where
  name : String
  datatype : DataType
  shape : List Int
  data : MemoryDesc

structure InternalRequest where
  modelName : String
  id : String
  correlationId : Nat
  flags : Nat
  inputs : List InternalInput
  requestedOutputs : List String

structure ResponseTensor where
  name : String
  datatype : DataType
  shape : List Int
  bytes : List UInt8

structure InternalResponse where
  error : Option TritonError
  output : Nat → Except TritonError ResponseTensor

inductive BlsCall
  | modelIsReady | modelTransactionProperties
  | requestId | requestCorrelationId | requestFlags | inferenceRequestNew
  | setId | setCorrelationId | setFlags | setReleaseCallback
  | requestInputCount | requestInputByIndex (count : Nat) | inputProperties (count : Nat)
  | inputBuffer (count : Nat) | addInput (count : Nat) | appendInputData (count : Nat)
  | requestOutputCount | requestOutputName (count : Nat) | addRequestedOutput (count : Nat)
  | setResponseCallback | serverInferAsync
  | responseOutput | outputBuffer

/-- What the server answers; each call is made at most once for an internal request. -/
structure BlsServer where
  responseNew : Nat → Option TritonError
  outcome : InternalId → BlsCall → Option TritonError
  modelReady : InternalId → Bool
  txnFlags : InternalId → Nat
  infer : InternalId → InternalRequest → InternalResponse
  outputMemory : InternalId → MemoryType

def modelName : Nat → String
  | 0 => "addsub_python"
  | _ => "addsub_tf"

def txnDecoupled : Nat := 2

def sendError : TritonError := { code := .internal, message := "Failed to send inference requests" }

def outputBufferError : TritonError :=
  { code := .internal, message := "failed to create output buffer in CPU memory" }

section
variable (server : BlsServer)

def BlsServer.call (inner : InternalId) (api : BlsCall) : Except TritonError Unit :=
  match server.outcome inner api with
  | some error => .error error
  | none => .ok ()

def modelUsable (inner : InternalId) : Bool :=
  (server.outcome inner .modelIsReady).isNone && server.modelReady inner &&
    (server.outcome inner .modelTransactionProperties).isNone &&
    server.txnFlags inner &&& txnDecoupled == 0

/-! One internal request. -/

def newInferenceRequest (inner : InternalId) : Except TritonError Unit := do
  server.call inner .requestId
  server.call inner .requestCorrelationId
  server.call inner .requestFlags
  server.call inner .inferenceRequestNew

def prepareInferenceRequest (request : BlsRequest) (inner : InternalId) :
    Except TritonError InternalRequest := do
  newInferenceRequest server inner
  server.call inner .setId
  server.call inner .setCorrelationId
  server.call inner .setFlags
  server.call inner .setReleaseCallback
  return {
    modelName := modelName inner.icount
    id := request.id
    correlationId := request.correlationId
    flags := request.flags
    inputs := []
    requestedOutputs := [] }

/-- `TRITONBACKEND_InputBuffer` at index 0; there is none in an input without buffers. -/
def firstInputBuffer (input : BlsInput) : MemoryDesc :=
  match input.buffers with
  | [] => { buffer := 0, byteSize := 0, memoryType := .cpu, memoryTypeId := 0 }
  | buffer :: _ => buffer

def addInputs (inner : InternalId) (irequest : InternalRequest) (count : Nat) :
    List BlsInput → Except TritonError InternalRequest
  | [] => .ok irequest
  | input :: rest => do
      server.call inner (.requestInputByIndex count)
      server.call inner (.inputProperties count)
      server.call inner (.inputBuffer count)
      server.call inner (.addInput count)
      server.call inner (.appendInputData count)
      addInputs inner { irequest with
        inputs := irequest.inputs ++ [{
          name := input.name
          datatype := input.datatype
          shape := input.shape
          data := firstInputBuffer input }] } (count + 1) rest

def prepareInferenceInput (request : BlsRequest) (inner : InternalId) (irequest : InternalRequest) :
    Except TritonError InternalRequest := do
  server.call inner .requestInputCount
  addInputs server inner irequest 0 request.inputs

def addOutputs (inner : InternalId) (irequest : InternalRequest) (count : Nat) :
    List String → Except TritonError InternalRequest
  | [] => .ok irequest
  | name :: rest => do
      server.call inner (.requestOutputName count)
      server.call inner (.addRequestedOutput count)
      addOutputs inner { irequest with requestedOutputs := irequest.requestedOutputs ++ [name] }
        (count + 1) rest

def prepareInferenceOutput (request : BlsRequest) (inner : InternalId)
    (irequest : InternalRequest) : Except TritonError InternalRequest := do
  server.call inner .requestOutputCount
  addOutputs server inner irequest 0 request.outputs

def asyncExecute (inner : InternalId) : Except TritonError Unit := do
  server.call inner .setResponseCallback
  server.call inner .serverInferAsync

def sendInternal (request : BlsRequest) (inner : InternalId) :
    Except TritonError InternalRequest := do
  let irequest ← prepareInferenceRequest server request inner
  let irequest ← prepareInferenceInput server request inner irequest
  let irequest ← prepareInferenceOutput server request inner irequest
  asyncExecute server inner
  return irequest

end

/-! The threads. -/

/-- Where the backend's thread is. `irequest` is the pointer to the internal request that was
made last. -/
inductive BlsPoint
  | execute (r : Nat)
  | send (r icount : Nat) (irequest : Option InternalId)
  | sendFailed (r : Nat) (irequest : Option InternalId)
  | await (r icount : Nat)
  /-- The code goes on with a null response or a pointer that was never set. -/
  | undefined (r icount : Nat)
  | returned

structure SentResponse where
  request : Nat
  error : Option TritonError
  outputs : List ResponseTensor

/-- `created` are the internal requests that were made, `handed` those that the server has still
to give back and `unanswered` those whose responses it has still to give. -/
structure BlsState where
  point : BlsPoint
  responses : List (Option (List ResponseTensor))
  sent : List SentResponse
  created : List InternalId
  handed : List InternalId
  unanswered : List (InternalId × InternalResponse)
  futures : List (InternalId × InternalResponse)
  requestDeletes : List (Option InternalId)
  responseDeletes : List InternalId
  reports : List Report

namespace BlsState

def respondAndSetNull (s : BlsState) (r : Nat) (error : TritonError) : BlsState :=
  match s.responses[r]? with
  | some (some outputs) =>
      { s with
        responses := s.responses.set r none
        sent := s.sent ++ [{ request := r, error := some error, outputs }] }
  | _ => s

def goTo (s : BlsState) (point : BlsPoint) : BlsState := { s with point }

section
variable (server : BlsServer) (requests : List BlsRequest)

def start : BlsState := {
  point := .execute 0
  responses := (List.range requests.length).map fun r =>
    if (server.responseNew r).isNone then some [] else none
  sent := []
  created := []
  handed := []
  unanswered := []
  futures := []
  requestDeletes := []
  responseDeletes := []
  reports := [] }

def finish (s : BlsState) : BlsState :=
  { s with
    point := .returned
    sent := s.sent ++ s.responses.zipIdx.filterMap fun slot =>
      slot.1.map fun outputs => { request := slot.2, error := none, outputs }
    reports := (s.responses.zipIdx.flatMap fun slot =>
      [.statistics slot.2 slot.1.isSome, .release slot.2]) ++ [.batchStatistics 1] }

def enterExecute (s : BlsState) (r : Nat) : BlsState :=
  if modelUsable server ⟨r, 0⟩ && modelUsable server ⟨r, 1⟩ then s.goTo (.send r 0 none)
  else (s.respondAndSetNull r sendError).goTo (.execute (r + 1))

def sendNext (s : BlsState) (request : BlsRequest) (r icount : Nat) (irequest : Option InternalId) :
    BlsState :=
  let inner : InternalId := ⟨r, icount⟩
  match sendInternal server request inner with
  | .ok content =>
      { s with
        point := .send r (icount + 1) (some inner)
        created := s.created ++ [inner]
        handed := s.handed ++ [inner]
        unanswered := s.unanswered ++ [(inner, server.infer inner content)] }
  | .error _ =>
      if (newInferenceRequest server inner).isOk then
        { s with point := .sendFailed r (some inner), created := s.created ++ [inner] }
      else s.goTo (.sendFailed r irequest)

def catchSend (s : BlsState) (r : Nat) (irequest : Option InternalId) : BlsState :=
  ({ s with requestDeletes := s.requestDeletes ++ [irequest] }.respondAndSetNull r sendError).goTo
    (.execute (r + 1))

/-- The rest of a round of `ConstructFinalResponse`, once the response has come. After an error
it goes on, with a response that is null now or a pointer that was not set. -/
def constructOutput (s : BlsState) (r icount : Nat) (response : InternalResponse) : BlsState :=
  let inner : InternalId := ⟨r, icount⟩
  match response.output icount with
  | .error error => (s.respondAndSetNull r error).goTo (.undefined r icount)
  | .ok tensor =>
      match s.responses[r]? with
      | some (some outputs) =>
          match server.outcome inner .responseOutput with
          | some error => (s.respondAndSetNull r error).goTo (.undefined r icount)
          | none =>
              match server.outcome inner .outputBuffer with
              | some error => (s.respondAndSetNull r error).goTo (.undefined r icount)
              | none =>
                  if server.outputMemory inner = .gpu then
                    (s.respondAndSetNull r outputBufferError).goTo (.undefined r icount)
                  else
                    { s with
                      point := .await r (icount + 1)
                      responses := s.responses.set r (some (outputs ++ [tensor]))
                      responseDeletes := s.responseDeletes ++ [inner] }
      | _ => s.goTo (.undefined r icount)

def takeResponse (s : BlsState) (r icount : Nat) (response : InternalResponse) : BlsState :=
  match response.error with
  | some _ =>
      { s with
        point := .execute (r + 1)
        responseDeletes := s.responseDeletes ++ [⟨r, icount⟩] }
  | none => constructOutput server s r icount response

def advance (s : BlsState) : Option BlsState :=
  match s.point with
  | .execute r => some (if r < requests.length then s.enterExecute server r else s.finish)
  | .send r icount irequest =>
      if icount < 2 then (requests[r]?).map fun request => s.sendNext server request r icount irequest
      else some (s.goTo (.await r 0))
  | .sendFailed r irequest => some (s.catchSend r irequest)
  | .await r icount =>
      if icount < 2 then
        (s.futures.find? fun future => future.1 == ⟨r, icount⟩).map fun future =>
          takeResponse server { s with
            futures := s.futures.eraseP fun future => future.1 == ⟨r, icount⟩ } r icount future.2
      else some (s.goTo (.execute (r + 1)))
  | .undefined _ _ | .returned => none

inductive Step : BlsState → BlsState → Prop
  | advance (s s' : BlsState) (advanced : s.advance server requests = some s') : Step s s'
  | requestComplete (s : BlsState) (inner : InternalId) (held : inner ∈ s.handed) : Step s {
      s with
      handed := s.handed.erase inner
      requestDeletes := s.requestDeletes ++ [some inner] }
  | responseComplete (s : BlsState) (before after : List (InternalId × InternalResponse))
      (answer : InternalId × InternalResponse) (split : s.unanswered = before ++ answer :: after) :
      Step s { s with unanswered := before ++ after, futures := s.futures ++ [answer] }

def Reaches : BlsState → BlsState → Prop := Relation.ReflTransGen (Step server requests)

end

end BlsState

end TritonBackend
