import TritonBackend.ResponderGiven

/-!
`ProcessTensor` and `ProcessStateTensor` are one loop over the responses, with another part
for a single response. What holds of the loop is said of the responder that has got as far
as one request.
-/

namespace TritonBackend

open CopyStream

namespace Responder

/-- The loop of one call. `respond` is the part of a single response, given the request, the
size of its share and where that begins. -/
structure SplitLoop where
  entry : Nat
  kind : String
  outputName : String
  datatype : DataType
  batchnShape : List Int
  tensor : OutputTensor
  respond : Responder → Nat → Nat → Nat → Responder

namespace SplitLoop

section
variable (env : Env) (cfg : ResponderConfig) (loop : SplitLoop)

def share (idx : Nat) : Nat := tensorShare env cfg loop.entry idx loop.datatype loop.batchnShape

def start (idx : Nat) : Nat := shareStart (loop.share env cfg) idx

def batchOffset : Nat → Int
  | 0 => 0
  | idx + 1 => nextBatchOffset env cfg loop.entry idx (batchOffset idx)

def shapeAt : Nat → List Int
  | 0 => loop.batchnShape
  | idx + 1 => responseShape env cfg loop.entry idx (shapeAt idx)

/-- The responder when the batch size of a request is about to be checked. -/
def ahead (r : Responder) (idx : Nat) : Responder :=
  flushBefore env cfg r loop.tensor (loop.start env cfg idx)

def entered (r : Responder) (idx : Nat) : Responder :=
  enterResponse env cfg r loop.entry idx loop.kind loop.outputName loop.tensor
    (loop.start env cfg idx) (loop.batchnShape.headD 0) (loop.batchOffset env cfg idx)

def behind (r : Responder) : Nat → Responder
  | 0 => r
  | idx + 1 =>
      loop.respond (loop.entered env cfg (behind r idx) idx) idx (loop.share env cfg idx)
        (loop.start env cfg idx)

def finished (r : Responder) : Responder :=
  finishTensor env cfg (loop.behind env cfg r r.responses.length) loop.tensor

end

theorem start_succ (env : Env) (cfg : ResponderConfig) (loop : SplitLoop) (idx : Nat) :
    loop.start env cfg (idx + 1) = loop.start env cfg idx + loop.share env cfg idx :=
  shareStart_succ _ idx

theorem share_shapeAt (env : Env) (cfg : ResponderConfig) (loop : SplitLoop) (idx other : Nat) :
    tensorShare env cfg loop.entry other loop.datatype (loop.shapeAt env cfg idx) =
      loop.share env cfg other := by
  induction idx with
  | zero => rfl
  | succ idx ih => rw [shapeAt, tensorShare_responseShape, ih]

/-- A loop whose parts only take the steps of the shared state takes only those itself. -/
theorem behind_reaches {env : Env} {cfg : ResponderConfig} {loop : SplitLoop}
    (steps : ∀ (r : Responder) idx share start, r.toSys.Reaches (loop.respond r idx share start).toSys)
    (r : Responder) {first last : Nat} (order : first ≤ last) :
    (loop.behind env cfg r first).toSys.Reaches (loop.behind env cfg r last).toSys := by
  induction last, order using Nat.le_induction with
  | base => exact Sys.Reaches.refl _
  | succ last order ih =>
      exact ih.trans ((enterResponse_reaches env cfg _ loop.entry last loop.kind loop.outputName
        loop.tensor _ _ _).trans (steps _ _ _ _))

end SplitLoop

section
variable (env : Env) (cfg : ResponderConfig)

def outputLoop (entry : Nat) (outputName : String) (datatype : DataType) (batchnShape : List Int)
    (tensor : OutputTensor) : SplitLoop := {
  entry, outputName, datatype, batchnShape, tensor
  kind := "output tensor"
  respond := fun r idx share start => respondOutput env cfg r idx outputName share start tensor }

def stateLoop (entry : Nat) (outputStateName : String) (datatype : DataType)
    (batchnShape : List Int) (tensor : OutputTensor) : SplitLoop := {
  entry, datatype, batchnShape, tensor
  kind := "output state tensor"
  outputName := outputStateName
  respond := fun r idx share start =>
    (respondState env cfg r idx outputStateName share start tensor).2 }

theorem processResponses_behind (entry : Nat) (outputName : String) (datatype : DataType)
    (batchnShape : List Int) (tensor : OutputTensor) (r : Responder) (idx count : Nat) :
    let loop := outputLoop env cfg entry outputName datatype batchnShape tensor
    (processResponses env cfg entry outputName datatype (batchnShape.headD 0) tensor
        (loop.shapeAt env cfg idx) (loop.behind env cfg r idx) (loop.batchOffset env cfg idx)
        (loop.start env cfg idx) idx count).2 =
      loop.behind env cfg r (idx + count) := by
  intro loop
  induction count generalizing idx with
  | zero => rfl
  | succ count ih =>
      have later := ih (idx + 1)
      rw [loop.start_succ, Nat.add_right_comm] at later
      have same : tensorShare env cfg entry idx datatype (loop.shapeAt env cfg idx) =
          loop.share env cfg idx := loop.share_shapeAt env cfg idx idx
      rw [processResponses, same]
      exact later

theorem processTensor_finished (r : Responder) (outputName : String) (datatype : DataType)
    (batchnShape : List Int) (tensor : OutputTensor) :
    (processTensor env cfg r outputName datatype batchnShape tensor).2 =
      (outputLoop env cfg r.tick outputName datatype batchnShape tensor).finished env cfg r := by
  have run := processResponses_behind env cfg r.tick outputName datatype batchnShape tensor r 0
    r.responses.length
  rw [Nat.zero_add] at run
  rw [processTensor, SplitLoop.finished, ← run]
  rfl

def madeStates (loop : SplitLoop) (r : Responder) (idx : Nat) : List Nat :=
  (List.range idx).flatMap fun other =>
    (respondState env cfg (loop.entered env cfg (loop.behind env cfg r other) other) other
      loop.outputName (loop.share env cfg other) (loop.start env cfg other) loop.tensor).1

theorem madeStates_succ (loop : SplitLoop) (r : Responder) (idx : Nat) :
    madeStates env cfg loop r (idx + 1) = madeStates env cfg loop r idx ++
      (respondState env cfg (loop.entered env cfg (loop.behind env cfg r idx) idx) idx
        loop.outputName (loop.share env cfg idx) (loop.start env cfg idx) loop.tensor).1 := by
  rw [madeStates, List.range_succ, List.flatMap_append, List.flatMap_singleton]
  rfl

theorem processStates_behind (entry : Nat) (outputStateName : String) (datatype : DataType)
    (batchnShape : List Int) (tensor : OutputTensor) (r : Responder) (idx count : Nat) :
    let loop := stateLoop env cfg entry outputStateName datatype batchnShape tensor
    let processed := processStates env cfg entry outputStateName datatype (batchnShape.headD 0) tensor
        (madeStates env cfg loop r idx) (loop.shapeAt env cfg idx) (loop.behind env cfg r idx)
        (loop.batchOffset env cfg idx) (loop.start env cfg idx) idx count
    processed.1 = madeStates env cfg loop r (idx + count) ∧
      processed.2.2 = loop.behind env cfg r (idx + count) := by
  intro loop
  induction count generalizing idx with
  | zero => exact ⟨rfl, rfl⟩
  | succ count ih =>
      have later := ih (idx + 1)
      rw [loop.start_succ, Nat.add_right_comm, madeStates_succ] at later
      have same : tensorShare env cfg entry idx datatype (loop.shapeAt env cfg idx) =
          loop.share env cfg idx := loop.share_shapeAt env cfg idx idx
      simp only [processStates, same]
      exact later

/-- `ProcessStateTensor` is the loop over all of the responses, and returns the states that
it made. -/
theorem processStateTensor_finished (r : Responder) (outputStateName : String)
    (datatype : DataType) (batchnShape : List Int) (tensor : OutputTensor) :
    let loop := stateLoop env cfg r.tick outputStateName datatype batchnShape tensor
    let processed := processStateTensor env cfg r outputStateName datatype batchnShape tensor
    processed.1 = madeStates env cfg loop r r.responses.length ∧
      processed.2.2 = loop.finished env cfg r := by
  obtain ⟨states, run⟩ := processStates_behind env cfg r.tick outputStateName datatype batchnShape
    tensor r 0 r.responses.length
  rw [Nat.zero_add] at states run
  refine ⟨states, ?_⟩
  rw [SplitLoop.finished, ← run]
  rfl

end

end Responder

end TritonBackend
