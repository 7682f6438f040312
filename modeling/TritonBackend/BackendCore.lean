import TritonBackend.BatchInputCore
import TritonBackend.ResponderCore

/-!
A backend that answers one batch: it may make any number of collectors and responders
over the vector of responses, call their operations in any order and respond to errors of its
own, and at the end sends every response that is left.
-/

namespace TritonBackend

open CopyStream

inductive CollectorCall
  | processTensor (inputName : String) (tensor : Tensor)
  | processTensorDst (inputName : String) (buffer : Option Address) (bufferByteSize : Nat)
      (allowedInputTypes : List (MemoryType × Int)) (kept : MemoryDesc)
  | batchInputShape (batchInput : BatchInput)
  | processBatchInput (batchInput : BatchInput) (buffer : Option Address) (bufferByteSize : Nat)
      (allowedInputTypes : List (MemoryType × Int)) (kept : Tensor)
  | finalize

inductive ResponderCall
  | processTensor (outputName : String) (datatype : DataType) (batchnShape : List Int)
      (tensor : OutputTensor)
  | processStateTensor (outputStateName : String) (datatype : DataType) (batchnShape : List Int)
      (tensor : OutputTensor)
  | processBatchOutput (batchOutput : BatchOutput) (tensor : OutputTensor)
  | finalize

def CollectorCall.run (env : Env) (cfg : CollectorConfig) (c : Collector) :
    CollectorCall → Collector
  | .processTensor inputName tensor => TritonBackend.processTensor env cfg inputName tensor c
  | .processTensorDst inputName buffer bufferByteSize allowedInputTypes kept =>
      (TritonBackend.processTensorDst env cfg inputName buffer bufferByteSize allowedInputTypes kept
        c).collector
  | .batchInputShape batchInput => c.withSys (TritonBackend.batchInputShape env cfg batchInput c.toSys).2
  | .processBatchInput batchInput buffer bufferByteSize allowedInputTypes kept =>
      (TritonBackend.processBatchInput env cfg batchInput buffer bufferByteSize allowedInputTypes kept
        c).collector
  | .finalize => (TritonBackend.finalize env cfg c).2

def ResponderCall.run (env : Env) (cfg : ResponderConfig) (r : Responder) :
    ResponderCall → Responder
  | .processTensor outputName datatype batchnShape tensor =>
      (r.processTensor env cfg outputName datatype batchnShape tensor).2
  | .processStateTensor outputStateName datatype batchnShape tensor =>
      (r.processStateTensor env cfg outputStateName datatype batchnShape tensor).2.2
  | .processBatchOutput batchOutput tensor => r.processBatchOutput env cfg batchOutput tensor
  | .finalize => (r.finalize env cfg).2

structure Backend where
  sys : Sys
  collectors : List (CollectorConfig × Collector)
  responders : List (ResponderConfig × Responder)

inductive Operation
  | createCollector (cfg : CollectorConfig) (bufferReadyEvent : Bool)
  | collector (n : Nat) (call : CollectorCall)
  | createResponder (cfg : ResponderConfig)
  | responder (n : Nat) (call : ResponderCall)
  | synchronize (event : Bool)
  | respondAndSetNullIfError (idx : Nat) (error : Option TritonError)
  | respondAllAndSetNullIfError (count : Nat) (error : Option TritonError)
  | respondAllAndSetTrueIfError (count : Nat) (flag : Bool) (error : Option TritonError)
  | sendErrorForResponses (responseCount : Nat) (error : Option TritonError)

def Backend.fresh (requestCount : Nat) : Backend := {
  sys := Sys.fresh requestCount
  collectors := []
  responders := [] }

def Backend.step (env : Env) (b : Backend) : Operation → Backend
  | .createCollector cfg bufferReadyEvent =>
      { b with collectors := b.collectors ++ [(cfg, Collector.create b.sys bufferReadyEvent)] }
  | .collector n call =>
      match b.collectors[n]? with
      | none => b
      | some (cfg, c) =>
          let c := call.run env cfg (c.withSys b.sys)
          { b with sys := c.toSys, collectors := b.collectors.set n (cfg, c) }
  | .createResponder cfg => { b with responders := b.responders ++ [(cfg, Responder.create b.sys)] }
  | .responder n call =>
      match b.responders[n]? with
      | none => b
      | some (cfg, r) =>
          let r := call.run env cfg (r.withSys b.sys)
          { b with sys := r.toSys, responders := b.responders.set n (cfg, r) }
  | .synchronize event =>
      { b with sys := b.sys.issue (if event then .awaitEvent else .awaitStream) }
  | .respondAndSetNullIfError idx error =>
      { b with sys := TritonBackend.respondAndSetNullIfError b.sys idx error }
  | .respondAllAndSetNullIfError count error =>
      { b with sys := TritonBackend.respondAllAndSetNullIfError b.sys count error }
  | .respondAllAndSetTrueIfError count flag error =>
      { b with sys := (TritonBackend.respondAllAndSetTrueIfError b.sys count flag error).2 }
  | .sendErrorForResponses responseCount error =>
      { b with sys := TritonBackend.sendErrorForResponses b.sys responseCount error }

def Backend.run (env : Env) (b : Backend) (operations : List Operation) : Backend :=
  operations.foldl (Backend.step env) b

/-- The last loop of `TRITONBACKEND_ModelInstanceExecute`, which sends every response
that has not been sent because of an earlier error. -/
def sendRemainingFrom (s : Sys) : List (Option Nat) → Sys
  | [] => s
  | none :: rest => sendRemainingFrom s rest
  | some response :: rest => sendRemainingFrom (s.responseSend response none) rest

def sendRemaining (s : Sys) : Sys := sendRemainingFrom s s.responses

end TritonBackend
