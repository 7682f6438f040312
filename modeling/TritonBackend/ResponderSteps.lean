import TritonBackend.ResponderCore
import TritonBackend.SysSteps

/-!
Every operation of the responder is a run of the primitive steps on the shared state.
-/

namespace TritonBackend

open CopyStream

namespace Responder

@[simp] theorem toSys_withSys (r : Responder) (s : Sys) : (r.withSys s).toSys = s := rfl

@[simp] theorem toSys_orSync (result : Bool × Responder) :
    (orSync result).toSys = result.2.toSys := rfl

@[simp] theorem toSys_clearPendingPinned (r : Responder) :
    r.clearPendingPinned.toSys = r.toSys := rfl

@[simp] theorem toSys_addPendingPinned (r : Responder) (idx : Nat) (output : OutputData)
    (tensorOffset : Nat) : (r.addPendingPinned idx output tensorOffset).toSys = r.toSys := rfl

theorem recordEvent_reaches (cfg : ResponderConfig) (r : Responder) :
    r.toSys.Reaches (r.recordEvent cfg).toSys := by
  unfold recordEvent
  split
  · exact Sys.Reaches.issue _ _
  · exact Sys.Reaches.refl _

/-! What every copy and its answer does to the state, the operations made of them do. -/

section
variable {env : Env} {cfg : ResponderConfig} {R : Sys → Sys → Prop} (refl : ∀ s, R s s)
  (trans : ∀ {s s' s''}, R s s' → R s' s'' → R s s'')
include refl trans

theorem copyOutputs_relates (source : Address) (memoryType : MemoryType) (memoryTypeId : Int)
    (offset : Nat) (cudaUsed : Bool) (s : Sys) (outputs : ResponsesList)
    (each : ∀ slice ∈ outputs, ∀ start,
      start + slice.2.bufferByteSize ≤
          offset + (outputs.map fun slice => slice.2.bufferByteSize).sum →
        ∀ s copied, CopyOutcome s {
            source := source.advance start
            target := slice.2.buffer
            byteSize := slice.2.bufferByteSize } copied →
          R s (respondAndSetNullIfError copied.sys slice.1 copied.error)) :
    R s (copyOutputs env cfg source memoryType memoryTypeId offset cudaUsed s outputs).2 := by
  induction outputs generalizing offset cudaUsed s with
  | nil => exact refl s
  | cons first rest ih =>
      have outcome := copyBuffer_outcome env s first.2.name memoryType memoryTypeId
        first.2.memoryType first.2.memoryTypeId first.2.bufferByteSize (source.advance offset)
        first.2.buffer cfg.copyOnStream
      rw [List.map_cons, List.sum_cons] at each
      refine trans (each first List.mem_cons_self offset (by omega) s _ outcome) ?_
      exact ih _ _ _ fun slice member start bound =>
        each slice (List.mem_cons_of_mem _ member) start (by omega)

theorem copyDeferred_relates (r : Responder) (deferred : List DeferredOutputs)
    (each : ∀ block ∈ deferred, ∀ s,
      R s (copyOutputs env cfg block.pinnedMemory .cpuPinned 0 0 false s block.responses).2) :
    R r.toSys (copyDeferred env cfg r deferred).toSys := by
  induction deferred generalizing r with
  | nil => exact refl _
  | cons first rest ih =>
      refine trans (each first List.mem_cons_self r.toSys) ?_
      exact ih (orSync (_, r.withSys _)) fun block member =>
        each block (List.mem_cons_of_mem _ member)

omit refl in
/-- The block is filled, or its responses are failed; what is copied from it follows. -/
theorem stagePinned_relates (r : Responder) (pinnedMemory : Address) (tensor : OutputTensor)
    (filled : ∀ copied, CopyOutcome r.toSys {
        source := tensor.buffer.advance r.pendingPinnedOffset
        target := pinnedMemory
        byteSize := r.pendingPinnedByteSize } copied →
      (copied.error = none → R r.toSys copied.sys) ∧
      ∀ error, copied.error = some error →
        R r.toSys (failOutputs copied.sys (some error) r.pendingPinnedOutputs))
    (copies : ∀ s,
      R s (copyOutputs env cfg pinnedMemory .cpuPinned 0 0 false s r.pendingPinnedOutputs).2) :
    R r.toSys (stagePinned env cfg r pinnedMemory tensor).2.toSys := by
  have outcome := copyBuffer_outcome env r.toSys "pinned buffer" tensor.memoryType
    tensor.memoryTypeId .cpuPinned 0 r.pendingPinnedByteSize
    (tensor.buffer.advance r.pendingPinnedOffset) pinnedMemory cfg.copyOnStream
  unfold stagePinned
  generalize copyBuffer env r.toSys _ _ _ _ _ _ _ _ _ = staged at outcome ⊢
  obtain ⟨success, failure⟩ := filled staged outcome
  obtain ⟨error, cudaUsed, s⟩ := staged
  cases error with
  | none =>
      simp only
      split
      · exact success rfl
      · exact trans (success rfl) (copies s)
  | some error =>
      simp only
      split
      · exact failure error rfl
      · exact trans (failure error rfl) (copies _)

end

section
variable (env : Env) (cfg : ResponderConfig)

theorem copyOutputs_reaches (source : Address) (memoryType : MemoryType) (memoryTypeId : Int)
    (offset : Nat) (cudaUsed : Bool) (s : Sys) (outputs : ResponsesList) :
    s.Reaches
      (copyOutputs env cfg source memoryType memoryTypeId offset cudaUsed s outputs).2 :=
  copyOutputs_relates Sys.Reaches.refl (fun first second => first.trans second) source memoryType
    memoryTypeId offset cudaUsed s outputs fun slice _ _ _ _ copied outcome =>
      outcome.reaches.respond slice.1 copied.error

theorem failOutputs_answers (s : Sys) (error : Option TritonError) (outputs : ResponsesList) :
    s.Answers (failOutputs s error outputs) := by
  induction outputs generalizing s with
  | nil => exact Sys.Answers.refl s
  | cons first rest ih => exact (sendIfNotNull_answers s first.1 error).trans (ih _)

theorem allocatePinned_reaches (r : Responder) : r.toSys.Reaches (allocatePinned env r).2 := by
  unfold allocatePinned
  split
  · simp only [call_eq]
    cases env.outcome r.tick (.allocate .cpuPinnedPool) with
    | none => exact (Sys.Step.count r.toSys _ _ (Nat.le_succ _)).reaches
    | some error => exact Sys.Reaches.count r.toSys _
  · exact Sys.Reaches.refl _

theorem stagePinned_reaches (r : Responder) (pinnedMemory : Address) (tensor : OutputTensor) :
    r.toSys.Reaches (stagePinned env cfg r pinnedMemory tensor).2.toSys := by
  refine stagePinned_relates (fun first second => first.trans second) r pinnedMemory tensor ?_
    fun s => copyOutputs_reaches env cfg pinnedMemory .cpuPinned 0 0 false s r.pendingPinnedOutputs
  intro copied outcome
  refine ⟨fun _ => outcome.reaches, fun error _ => outcome.reaches.trans ?_⟩
  exact (failOutputs_answers copied.sys (some error) r.pendingPinnedOutputs).reaches

theorem flushPendingPinned_reaches (r : Responder) (tensor : OutputTensor) :
    r.toSys.Reaches (flushPendingPinned env cfg r tensor).2.toSys := by
  have allocated := allocatePinned_reaches env r
  unfold flushPendingPinned
  generalize allocatePinned env r = memory at allocated ⊢
  simp only [toSys_clearPendingPinned]
  refine allocated.trans ?_
  cases memory.1 with
  | none => exact copyOutputs_reaches env cfg _ _ _ _ _ _ _
  | some pinnedMemory => exact stagePinned_reaches env cfg (r.withSys memory.2) pinnedMemory tensor

theorem obtainBuffer_reaches (r : Responder) (idx byteSize : Nat) (state : Bool) :
    r.toSys.Reaches (obtainBuffer env r idx byteSize state).2 := by
  unfold obtainBuffer
  simp only [call_eq]
  cases env.outcome r.tick (if state then .stateBuffer else .outputBuffer) with
  | some error => exact Sys.Reaches.count r.toSys _
  | none =>
      have noted := (Sys.Step.quiet { r.toSys with tick := r.tick + 1 }
        (.given idx (givenAddress (env.givenMemory r.tick) byteSize r.nextBlock) byteSize) rfl).reaches
      exact (Sys.Reaches.count r.toSys (r.tick + 1)).trans
        (noted.trans (Sys.Step.count _ _ _ (Nat.le_succ _)).reaches)

theorem setFixedSizeBuffer_reaches (r : Responder) (idx : Nat) (outputName : String)
    (tensorByteSize tensorOffset : Nat) (tensor : OutputTensor) (state : Bool) :
    r.toSys.Reaches (setFixedSizeBuffer env cfg r idx outputName tensorByteSize tensorOffset
      tensor state).2.toSys := by
  have obtained := obtainBuffer_reaches env r idx tensorByteSize state
  unfold setFixedSizeBuffer
  simp only
  split
  · exact obtained.respond idx (some _)
  next buffer memory given =>
    split
    · exact obtained
    · have outcome := copyBuffer_outcome env (obtainBuffer env r idx tensorByteSize state).2
        outputName tensor.memoryType tensor.memoryTypeId memory.memoryType memory.memoryTypeId
        tensorByteSize (tensor.buffer.advance tensorOffset) buffer cfg.copyOnStream
      exact (obtained.trans outcome.reaches).respond idx _

theorem flushBefore_reaches (r : Responder) (tensor : OutputTensor) (tensorOffset : Nat) :
    r.toSys.Reaches (flushBefore env cfg r tensor tensorOffset).toSys := by
  unfold flushBefore
  split
  · exact flushPendingPinned_reaches env cfg r tensor
  · exact Sys.Reaches.refl _

theorem finishTensor_reaches (r : Responder) (tensor : OutputTensor) :
    r.toSys.Reaches (finishTensor env cfg r tensor).toSys :=
  (flushPendingPinned_reaches env cfg r tensor).trans
    (recordEvent_reaches cfg (orSync (flushPendingPinned env cfg r tensor)))

theorem respondToCall_reaches (r : Responder) (idx : Nat) (api : Call) :
    r.toSys.Reaches (respondToCall env r idx api).toSys :=
  (Sys.Reaches.call env r.toSys api).respond idx _

theorem setOutput_reaches (r : Responder) (idx : Nat) (outputName : String)
    (tensorByteSize tensorOffset : Nat) (tensor : OutputTensor) :
    r.toSys.Reaches
      (setOutput env cfg r idx outputName tensorByteSize tensorOffset tensor).toSys := by
  have called := respondToCall_reaches env r idx .responseOutput
  unfold setOutput
  simp only
  split
  · exact called.trans (setFixedSizeBuffer_reaches env cfg _ idx outputName _ _ tensor false)
  · exact called

theorem findOutput_reaches (r : Responder) (idx : Nat) (outputName : String)
    (tensorByteSize tensorOffset : Nat) (tensor : OutputTensor) (names : List String) :
    r.toSys.Reaches
      (findOutput env cfg r idx outputName tensorByteSize tensorOffset tensor names).toSys := by
  induction names generalizing r with
  | nil => exact Sys.Reaches.refl _
  | cons name rest ih =>
      have called := respondToCall_reaches env r idx .requestOutputName
      simp only [findOutput]
      split
      · exact called.trans (setOutput_reaches env cfg _ idx outputName _ _ tensor)
      · exact called.trans (ih _)

theorem respondOutput_reaches (r : Responder) (idx : Nat) (outputName : String)
    (tensorByteSize tensorOffset : Nat) (tensor : OutputTensor) :
    r.toSys.Reaches
      (respondOutput env cfg r idx outputName tensorByteSize tensorOffset tensor).toSys := by
  have called := respondToCall_reaches env r idx .requestOutputCount
  unfold respondOutput
  simp only
  split
  · split
    · exact called.trans (findOutput_reaches env cfg _ idx outputName _ _ tensor _)
    · exact called
  · exact Sys.Reaches.refl _

theorem respondState_reaches (r : Responder) (idx : Nat) (outputStateName : String)
    (tensorByteSize tensorOffset : Nat) (tensor : OutputTensor) :
    r.toSys.Reaches
      (respondState env cfg r idx outputStateName tensorByteSize tensorOffset tensor).2.toSys := by
  have called := respondToCall_reaches env r idx .stateNew
  unfold respondState
  simp only
  split
  · split
    · exact called.trans (setFixedSizeBuffer_reaches env cfg _ idx outputStateName _ _ tensor true)
    · exact called
  · exact Sys.Reaches.refl _

theorem checkSplit_answers (r : Responder) (entry idx : Nat) (kind outputName : String)
    (batchnBatchSize batchSizeOffset : Int) :
    r.toSys.Answers
      (checkSplit env cfg r entry idx kind outputName batchnBatchSize batchSizeOffset).toSys := by
  unfold checkSplit
  simp only
  split
  · exact respondAndSetNullIfError_answers r.toSys idx (some _)
  · exact Sys.Answers.refl _

theorem enterResponse_reaches (r : Responder) (entry idx : Nat) (kind outputName : String)
    (tensor : OutputTensor) (tensorOffset : Nat) (batchnBatchSize batchSizeOffset : Int) :
    r.toSys.Reaches (enterResponse env cfg r entry idx kind outputName tensor tensorOffset
      batchnBatchSize batchSizeOffset).toSys := by
  have flushed := flushBefore_reaches env cfg r tensor tensorOffset
  unfold enterResponse
  simp only
  split
  · exact flushed.trans (checkSplit_answers env cfg _ _ _ _ _ _ _).reaches
  · exact flushed

theorem processResponses_reaches (entry : Nat) (outputName : String) (datatype : DataType)
    (batchnBatchSize : Int) (tensor : OutputTensor) (batchnShape : List Int) (r : Responder)
    (batchSizeOffset : Int) (tensorOffset idx count : Nat) :
    r.toSys.Reaches (processResponses env cfg entry outputName datatype batchnBatchSize tensor
      batchnShape r batchSizeOffset tensorOffset idx count).2.toSys := by
  induction count generalizing batchnShape r batchSizeOffset tensorOffset idx with
  | zero => exact Sys.Reaches.refl _
  | succ count ih =>
      exact (enterResponse_reaches env cfg r entry idx "output tensor" outputName tensor
        tensorOffset batchnBatchSize batchSizeOffset).trans
        ((respondOutput_reaches env cfg _ idx outputName _ tensorOffset tensor).trans
          (ih _ _ _ _ _))

theorem processTensor_reaches (r : Responder) (outputName : String) (datatype : DataType)
    (batchnShape : List Int) (tensor : OutputTensor) :
    r.toSys.Reaches (processTensor env cfg r outputName datatype batchnShape tensor).2.toSys :=
  (processResponses_reaches env cfg r.tick outputName datatype _ tensor batchnShape r 0 0 0
    _).trans (finishTensor_reaches env cfg _ tensor)

theorem processStates_reaches (entry : Nat) (outputStateName : String) (datatype : DataType)
    (batchnBatchSize : Int) (tensor : OutputTensor) (states : List Nat) (batchnShape : List Int)
    (r : Responder) (batchSizeOffset : Int) (tensorOffset idx count : Nat) :
    r.toSys.Reaches (processStates env cfg entry outputStateName datatype batchnBatchSize tensor
      states batchnShape r batchSizeOffset tensorOffset idx count).2.2.toSys := by
  induction count generalizing states batchnShape r batchSizeOffset tensorOffset idx with
  | zero => exact Sys.Reaches.refl _
  | succ count ih =>
      exact (enterResponse_reaches env cfg r entry idx "output state tensor" outputStateName tensor
        tensorOffset batchnBatchSize batchSizeOffset).trans
        ((respondState_reaches env cfg _ idx outputStateName _ tensorOffset tensor).trans
          (ih _ _ _ _ _ _))

theorem processStateTensor_reaches (r : Responder) (outputStateName : String)
    (datatype : DataType) (batchnShape : List Int) (tensor : OutputTensor) :
    r.toSys.Reaches
      (processStateTensor env cfg r outputStateName datatype batchnShape tensor).2.2.toSys :=
  (processStates_reaches env cfg r.tick outputStateName datatype _ tensor [] batchnShape r 0 0 0
    _).trans (finishTensor_reaches env cfg _ tensor)

theorem scatterResponses_reaches (entry : Nat) (batchOutput : BatchOutput)
    (tensor : OutputTensor) (r : Responder) (tensorOffset idx count : Nat) :
    r.toSys.Reaches
      (scatterResponses env cfg entry batchOutput tensor r tensorOffset idx count).toSys := by
  induction count generalizing r tensorOffset idx with
  | zero => exact Sys.Reaches.refl _
  | succ count ih =>
      exact (flushBefore_reaches env cfg r tensor tensorOffset).trans
        ((respondOutput_reaches env cfg _ idx _ _ tensorOffset tensor).trans (ih _ _ _))

theorem processBatchOutput_reaches (r : Responder) (batchOutput : BatchOutput)
    (tensor : OutputTensor) :
    r.toSys.Reaches (processBatchOutput env cfg r batchOutput tensor).toSys :=
  (scatterResponses_reaches env cfg r.tick batchOutput tensor r 0 0 _).trans
    (finishTensor_reaches env cfg _ tensor)

theorem copyDeferred_reaches (r : Responder) (deferred : List DeferredOutputs) :
    r.toSys.Reaches (copyDeferred env cfg r deferred).toSys :=
  copyDeferred_relates Sys.Reaches.refl (fun first second => first.trans second) r deferred
    fun block _ s => copyOutputs_reaches env cfg block.pinnedMemory .cpuPinned 0 0 false s
      block.responses

theorem finalize_reaches (r : Responder) :
    r.toSys.Reaches (finalize env cfg r).2.toSys := by
  have waited : r.toSys.Reaches (waitDeferred cfg r).toSys := by
    unfold waitDeferred
    split
    · exact Sys.Reaches.issue _ _
    · exact Sys.Reaches.refl _
  have copied := waited.trans
    (copyDeferred_reaches env cfg (waitDeferred cfg r) (waitDeferred cfg r).deferredPinned)
  unfold finalize
  simp only
  split
  · exact copied.trans (recordEvent_reaches cfg (copyDeferred env cfg _ _))
  · exact copied

end

end Responder

end TritonBackend
