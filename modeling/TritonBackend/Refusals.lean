import TritonBackend.CollectorSteps
import TritonBackend.ResponderSteps

/-!
What a component logs. The lookups of a request, the scan of its buffers and the operations of
the responder send a response only to refuse it: no success is sent before the end.
-/

namespace TritonBackend

open CopyStream

/-- What is logged from `s` to `s'` is of the given kind. -/
def Sys.Logs (s : Sys) (kind : Event → Prop) (s' : Sys) : Prop :=
  ∃ added, s'.log = s.log ++ added ∧ ∀ event ∈ added, kind event

/-- Refusals, device actions and failed copies are of this kind. -/
structure Refusing (kind : Event → Prop) : Prop where
  refusal : ∀ response error, kind (.send response (some error))
  device : ∀ action, kind (.device action)
  failedCopy : ∀ transfer, kind (.failedCopy transfer)

def Event.Refuses (event : Event) : Prop := ∀ response, event ≠ .send response none

/-- What refuses and gives no response a buffer. -/
def Event.Gathers (event : Event) : Prop :=
  event.Refuses ∧ ∀ response buffer size, event ≠ .given response buffer size

theorem refuses_refusing : Refusing Event.Refuses where
  refusal _ _ := by rintro _ ⟨⟩
  device _ := by rintro _ ⟨⟩
  failedCopy _ := by rintro _ ⟨⟩

theorem given_refuses (response : Nat) (buffer : Address) (size : Nat) :
    Event.Refuses (.given response buffer size) := by rintro _ ⟨⟩

theorem gathers_refusing : Refusing Event.Gathers where
  refusal _ _ := ⟨refuses_refusing.refusal _ _, by rintro _ _ _ ⟨⟩⟩
  device _ := ⟨refuses_refusing.device _, by rintro _ _ _ ⟨⟩⟩
  failedCopy _ := ⟨refuses_refusing.failedCopy _, by rintro _ _ _ ⟨⟩⟩

section
variable {kind : Event → Prop}

theorem Sys.Logs.quiet {s s' : Sys} (same : s'.log = s.log) : s.Logs kind s' :=
  ⟨[], by rw [same, List.append_nil], by simp⟩

theorem Sys.Logs.refl (s : Sys) : s.Logs kind s := Sys.Logs.quiet rfl

theorem Sys.Logs.trans {s s' s'' : Sys} (first : s.Logs kind s') (second : s'.Logs kind s'') :
    s.Logs kind s'' := by
  obtain ⟨early, earlyLog, earlyKind⟩ := first
  obtain ⟨late, lateLog, lateKind⟩ := second
  refine ⟨early ++ late, by rw [lateLog, earlyLog, List.append_assoc], ?_⟩
  intro event member
  rcases List.mem_append.mp member with before | behind
  · exact earlyKind event before
  · exact lateKind event behind

theorem Sys.Logs.mono {other : Event → Prop} {s s' : Sys} (logs : s.Logs kind s')
    (weaker : ∀ event, kind event → other event) : s.Logs other s' := by
  obtain ⟨added, log, all⟩ := logs
  exact ⟨added, log, fun event member => weaker event (all event member)⟩

theorem Sys.Logs.note (s : Sys) {event : Event} (allowed : kind event) :
    s.Logs kind (s.note event) :=
  ⟨[event], rfl, fun _ member => List.mem_singleton.mp member ▸ allowed⟩

theorem Sys.Logs.all {s s' : Sys} (logs : s.Logs kind s') (fresh : s.log = []) {event : Event}
    (member : event ∈ s'.log) : kind event := by
  obtain ⟨added, log, all⟩ := logs
  rw [log, fresh, List.nil_append] at member
  exact all event member

variable (refusing : Refusing kind)
include refusing

theorem Sys.Logs.issue (s : Sys) (action : Action Block UInt8) : s.Logs kind (s.issue action) :=
  Sys.Logs.note s (refusing.device action)

theorem sendIfNotNull_logs (s : Sys) (idx : Nat) (error : TritonError) :
    s.Logs kind (sendIfNotNull s idx (some error)) := by
  unfold sendIfNotNull
  split
  next response live =>
    exact Sys.Logs.note s (refusing.refusal response error)
  next => exact Sys.Logs.refl s

theorem respondAndSetNullIfError_logs (s : Sys) (idx : Nat) (error : Option TritonError) :
    s.Logs kind (respondAndSetNullIfError s idx error) := by
  cases error with
  | none => exact Sys.Logs.refl s
  | some error => exact sendIfNotNull_logs refusing s idx error

theorem Sys.Logs.respond {s s' : Sys} (logs : s.Logs kind s') (idx : Nat)
    (error : Option TritonError) : s.Logs kind (respondAndSetNullIfError s' idx error) :=
  logs.trans (respondAndSetNullIfError_logs refusing s' idx error)

theorem sendFrom_logs (s : Sys) (error : TritonError) (idx count : Nat) :
    s.Logs kind (sendFrom s (some error) idx count) := by
  induction count generalizing s idx with
  | zero => exact Sys.Logs.refl s
  | succ count ih => exact (sendIfNotNull_logs refusing s idx error).trans (ih _ _)

theorem respondAllAndSetNullIfError_logs (s : Sys) (count : Nat) (error : Option TritonError) :
    s.Logs kind (respondAllAndSetNullIfError s count error) := by
  cases error with
  | none => exact Sys.Logs.refl s
  | some error => exact sendFrom_logs refusing s error 0 count

theorem CopyOutcome.logs {s : Sys} {transfer : Copy Block} {copied : CopyResult}
    (outcome : CopyOutcome s transfer copied) : s.Logs kind copied.sys := by
  cases outcome with
  | host => exact Sys.Logs.issue refusing s _
  | stream tick => exact Sys.Logs.issue refusing { s with tick } _
  | failed tick error => exact Sys.Logs.note { s with tick } (refusing.failedCopy transfer)

/-! Lookups. -/

section
variable (env : Env)

theorem holdInput_logs (requests : List Request) (inputName : String) (it : InputIterator)
    (s : Sys) : s.Logs kind (holdInput env requests inputName it s).2 := by
  have looked := requestInput_sys env requests s it.currRequestIdx inputName
  unfold holdInput
  split
  next input after found =>
    exact Sys.Logs.quiet (by simp_all)
  next error after failed =>
    have counted : s.Logs kind after := Sys.Logs.quiet (by simp_all)
    exact counted.respond refusing it.currRequestIdx (some error)

theorem countBuffers_logs (inputName : String) (it : InputIterator) (s : Sys) :
    s.Logs kind (countBuffers env inputName it s).2 := by
  have looked := inputProperties_sys env s inputName it.currInput
  unfold countBuffers
  split
  next input after found => exact Sys.Logs.quiet (by simp_all)
  next error after failed =>
    have counted : s.Logs kind after := Sys.Logs.quiet (by simp_all)
    exact counted.respond refusing it.currRequestIdx (some error)

theorem lookupRequest_logs (requests : List Request) (inputName : String) (it : InputIterator)
    (s : Sys) : s.Logs kind (lookupRequest env requests inputName it s).2 :=
  (holdInput_logs refusing env requests inputName it s).trans
    (countBuffers_logs refusing env inputName _ _)

omit refusing in
theorem readBuffer_logs (inputName : String) (it : InputIterator) (kept : MemoryDesc) (s : Sys) :
    s.Logs kind (readBuffer env inputName it kept s).2 :=
  Sys.Logs.quiet (by rw [readBuffer_sys])

/-- Without coalescing a chunk is one buffer. -/
theorem getNextContiguousInput_logs (requests : List Request) (inputName : String)
    (input : ContiguousBuffer) (it : InputIterator) (s : Sys) :
    s.Logs kind (getNextContiguousInput env requests inputName false input it s).sys := by
  have read : s.Logs kind (readBuffer env inputName it input.memoryDesc s).2 :=
    readBuffer_logs env inputName it input.memoryDesc s
  unfold getNextContiguousInput
  split
  · exact Sys.Logs.refl s
  · simp only [Bool.false_eq_true, if_false]
    split
    · split
      · exact read.trans (lookupRequest_logs refusing env requests inputName _ _)
      · exact read
    · exact read

/-! The scan for a contiguous input. -/

variable (cfg : CollectorConfig)

theorem scanLookup_logs (inputName : String) (request : Nat) (handle : Option Input) (s : Sys)
    (idx : Nat) : s.Logs kind (scanLookup env inputName request handle s idx).2 := by
  have looked := inputBuffer_sys env s inputName handle idx
  unfold scanLookup
  split
  next desc after found => exact Sys.Logs.quiet (by simp_all)
  next error after failed =>
    have counted : s.Logs kind after := Sys.Logs.quiet (by simp_all)
    exact counted.respond refusing request (some error)

theorem scanBuffers_logs (inputName : String) (request : Nat) (handle : Option Input)
    (scan : ContiguousScan) (s : Sys) (idx count : Nat) :
    s.Logs kind (scanBuffers env cfg inputName request handle scan s idx count).2 := by
  induction count generalizing scan s idx with
  | zero => exact Sys.Logs.refl s
  | succ count ih =>
      exact (scanLookup_logs refusing env inputName request handle s idx).trans (ih _ _ _)

theorem scanHandle_logs (inputName : String) (s : Sys) (request : Nat) :
    s.Logs kind (scanHandle env cfg inputName s request).2 := by
  have looked := requestInput_sys env cfg.requests s request inputName
  unfold scanHandle
  split
  next input after found => exact Sys.Logs.quiet (by simp_all)
  next error after failed =>
    have counted : s.Logs kind after := Sys.Logs.quiet (by simp_all)
    exact counted.respond refusing request (some error)

theorem scanCount_logs (inputName : String) (request : Nat) (handle : Option Input) (s : Sys) :
    s.Logs kind (scanCount env inputName request handle s).2 := by
  have looked := inputProperties_sys env s inputName handle
  unfold scanCount
  split
  next input after found => exact Sys.Logs.quiet (by simp_all)
  next error after failed =>
    have counted : s.Logs kind after := Sys.Logs.quiet (by simp_all)
    exact counted.respond refusing request (some error)

theorem scanRequestsFrom_logs (inputName : String) (scan : ContiguousScan) (s : Sys)
    (request count : Nat) :
    s.Logs kind (scanRequestsFrom env cfg inputName scan s request count).2 := by
  induction count generalizing scan s request with
  | zero => exact Sys.Logs.refl s
  | succ count ih =>
      have scanned : s.Logs kind (scanRequest env cfg inputName scan s request).2 :=
        (scanHandle_logs refusing env cfg inputName s request).trans
          ((scanCount_logs refusing env inputName request _ _).trans
            (scanBuffers_logs refusing env cfg inputName request _ scan _ 0 _))
      exact scanned.trans (ih _ _ _)

omit refusing in
theorem createBackendMemory_log (s : Sys) (place : Nat → Block) (allocTypes : List AllocationType)
    (memoryTypeId : Int) (byteSize : Nat) :
    (createBackendMemory env s place allocTypes memoryTypeId byteSize).2.log = s.log := by
  rcases createBackendMemory_sys env s place allocTypes memoryTypeId byteSize with
    ⟨tick, allocType, _, created⟩ | ⟨tick, error, failed⟩
  · rw [created]
  · rw [failed]

omit refusing in
theorem allocateAllowed_logs (place : Nat → Block) (byteSize : Nat) (s : Sys)
    (allowed : List (MemoryType × Int)) :
    s.Logs kind (allocateAllowed env place byteSize s allowed).2 := by
  induction allowed generalizing s with
  | nil => exact Sys.Logs.refl s
  | cons first rest ih =>
      have created : s.Logs kind (createBackendMemory env s place (allocationTypes first.1) first.2
          byteSize).2 :=
        Sys.Logs.quiet (createBackendMemory_log env s place _ _ byteSize)
      simp only [allocateAllowed]
      split
      · exact created
      · exact created.trans (ih _)

end

/-! The responder. -/

namespace Responder

section
variable (gives : ∀ response buffer size, kind (.given response buffer size)) (env : Env)
  (cfg : ResponderConfig)

theorem copyOutputs_logs (source : Address) (memoryType : MemoryType) (memoryTypeId : Int)
    (offset : Nat) (cudaUsed : Bool) (s : Sys) (outputs : ResponsesList) :
    s.Logs kind
      (copyOutputs env cfg source memoryType memoryTypeId offset cudaUsed s outputs).2 :=
  copyOutputs_relates Sys.Logs.refl (fun first second => first.trans second) source memoryType
    memoryTypeId offset cudaUsed s outputs fun slice _ _ _ _ copied outcome =>
      (outcome.logs refusing).respond refusing slice.1 copied.error

theorem failOutputs_logs (s : Sys) (error : TritonError) (outputs : ResponsesList) :
    s.Logs kind (failOutputs s (some error) outputs) := by
  induction outputs generalizing s with
  | nil => exact Sys.Logs.refl s
  | cons first rest ih => exact (sendIfNotNull_logs refusing s first.1 error).trans (ih _)

theorem stagePinned_logs (r : Responder) (pinnedMemory : Address) (tensor : OutputTensor) :
    r.toSys.Logs kind (stagePinned env cfg r pinnedMemory tensor).2.toSys := by
  refine stagePinned_relates (fun first second => first.trans second) r pinnedMemory tensor ?_
    fun s => copyOutputs_logs refusing env cfg pinnedMemory .cpuPinned 0 0 false s r.pendingPinnedOutputs
  intro copied outcome
  refine ⟨fun _ => outcome.logs refusing, fun error _ => (outcome.logs refusing).trans ?_⟩
  exact failOutputs_logs refusing copied.sys error r.pendingPinnedOutputs

theorem flushPendingPinned_logs (r : Responder) (tensor : OutputTensor) :
    r.toSys.Logs kind (flushPendingPinned env cfg r tensor).2.toSys := by
  have allocated : r.toSys.Logs kind (allocatePinned env r).2 := by
    unfold allocatePinned
    simp only [call_eq]
    split
    · cases env.outcome r.tick (.allocate .cpuPinnedPool) <;> exact Sys.Logs.quiet rfl
    · exact Sys.Logs.refl _
  unfold flushPendingPinned
  generalize allocatePinned env r = memory at allocated ⊢
  simp only [toSys_clearPendingPinned]
  refine allocated.trans ?_
  cases memory.1 with
  | none => exact copyOutputs_logs refusing env cfg _ _ _ _ _ _ _
  | some pinnedMemory =>
      exact stagePinned_logs refusing env cfg (r.withSys memory.2) pinnedMemory tensor

theorem recordEvent_logs (r : Responder) : r.toSys.Logs kind (r.recordEvent cfg).toSys := by
  unfold recordEvent
  split
  · exact Sys.Logs.issue refusing _ _
  · exact Sys.Logs.refl _

include gives

omit refusing in
theorem obtainBuffer_logs (r : Responder) (idx byteSize : Nat) (state : Bool) :
    r.toSys.Logs kind (obtainBuffer env r idx byteSize state).2 := by
  unfold obtainBuffer
  simp only [call_eq]
  cases env.outcome r.tick (if state then .stateBuffer else .outputBuffer) with
  | some error => exact Sys.Logs.quiet rfl
  | none =>
      exact Sys.Logs.note { r.toSys with tick := r.tick + 1 } (gives idx
        (givenAddress (env.givenMemory r.tick) byteSize r.nextBlock) byteSize)

theorem setFixedSizeBuffer_logs (r : Responder) (idx : Nat) (outputName : String)
    (tensorByteSize tensorOffset : Nat) (tensor : OutputTensor) (state : Bool) :
    r.toSys.Logs kind (setFixedSizeBuffer env cfg r idx outputName tensorByteSize tensorOffset
      tensor state).2.toSys := by
  have obtained := obtainBuffer_logs gives env r idx tensorByteSize state
  unfold setFixedSizeBuffer
  simp only
  split
  · exact obtained.respond refusing idx (some _)
  next buffer memory given =>
    split
    · exact obtained
    · have outcome := copyBuffer_outcome env (obtainBuffer env r idx tensorByteSize state).2
        outputName tensor.memoryType tensor.memoryTypeId memory.memoryType memory.memoryTypeId
        tensorByteSize (tensor.buffer.advance tensorOffset) buffer cfg.copyOnStream
      exact (obtained.trans (outcome.logs refusing)).respond refusing idx _

omit gives in
theorem respondToCall_logs (r : Responder) (idx : Nat) (api : Call) :
    r.toSys.Logs kind (respondToCall env r idx api).toSys :=
  (Sys.Logs.quiet rfl).respond refusing idx _

theorem setOutput_logs (r : Responder) (idx : Nat) (outputName : String)
    (tensorByteSize tensorOffset : Nat) (tensor : OutputTensor) :
    r.toSys.Logs kind
      (setOutput env cfg r idx outputName tensorByteSize tensorOffset tensor).toSys := by
  have called := respondToCall_logs refusing env r idx .responseOutput
  unfold setOutput
  simp only
  split
  · exact called.trans
      (setFixedSizeBuffer_logs refusing gives env cfg _ idx outputName _ _ tensor false)
  · exact called

theorem findOutput_logs (r : Responder) (idx : Nat) (outputName : String)
    (tensorByteSize tensorOffset : Nat) (tensor : OutputTensor) (names : List String) :
    r.toSys.Logs kind
      (findOutput env cfg r idx outputName tensorByteSize tensorOffset tensor names).toSys := by
  induction names generalizing r with
  | nil => exact Sys.Logs.refl _
  | cons name rest ih =>
      have called := respondToCall_logs refusing env r idx .requestOutputName
      simp only [findOutput]
      split
      · exact called.trans (setOutput_logs refusing gives env cfg _ idx outputName _ _ tensor)
      · exact called.trans (ih _)

theorem respondOutput_logs (r : Responder) (idx : Nat) (outputName : String)
    (tensorByteSize tensorOffset : Nat) (tensor : OutputTensor) :
    r.toSys.Logs kind
      (respondOutput env cfg r idx outputName tensorByteSize tensorOffset tensor).toSys := by
  have called := respondToCall_logs refusing env r idx .requestOutputCount
  unfold respondOutput
  simp only
  split
  · split
    · exact called.trans (findOutput_logs refusing gives env cfg _ idx outputName _ _ tensor _)
    · exact called
  · exact Sys.Logs.refl _

omit gives in
theorem enterResponse_logs (r : Responder) (entry idx : Nat) (part outputName : String)
    (tensor : OutputTensor) (tensorOffset : Nat) (batchnBatchSize batchSizeOffset : Int) :
    r.toSys.Logs kind (enterResponse env cfg r entry idx part outputName tensor tensorOffset
      batchnBatchSize batchSizeOffset).toSys := by
  have flushed : r.toSys.Logs kind (flushBefore env cfg r tensor tensorOffset).toSys := by
    unfold flushBefore
    split
    · exact flushPendingPinned_logs refusing env cfg r tensor
    · exact Sys.Logs.refl _
  unfold enterResponse
  simp only
  split
  · unfold checkSplit
    simp only
    split
    · exact flushed.respond refusing idx (some _)
    · exact flushed
  · exact flushed

theorem processResponses_logs (entry : Nat) (outputName : String) (datatype : DataType)
    (batchnBatchSize : Int) (tensor : OutputTensor) (batchnShape : List Int) (r : Responder)
    (batchSizeOffset : Int) (tensorOffset idx count : Nat) :
    r.toSys.Logs kind (processResponses env cfg entry outputName datatype batchnBatchSize tensor
      batchnShape r batchSizeOffset tensorOffset idx count).2.toSys := by
  induction count generalizing batchnShape r batchSizeOffset tensorOffset idx with
  | zero => exact Sys.Logs.refl _
  | succ count ih =>
      exact (enterResponse_logs refusing env cfg r entry idx "output tensor" outputName tensor
        tensorOffset batchnBatchSize batchSizeOffset).trans
        ((respondOutput_logs refusing gives env cfg _ idx outputName _ tensorOffset tensor).trans
          (ih _ _ _ _ _))

theorem processTensor_logs (r : Responder) (outputName : String) (datatype : DataType)
    (batchnShape : List Int) (tensor : OutputTensor) :
    r.toSys.Logs kind (processTensor env cfg r outputName datatype batchnShape tensor).2.toSys := by
  have processed := processResponses_logs refusing gives env cfg r.tick outputName datatype
    (batchnShape.headD 0) tensor batchnShape r 0 0 0 r.responses.length
  exact (processed.trans (flushPendingPinned_logs refusing env cfg _ tensor)).trans
    (recordEvent_logs refusing cfg (orSync (flushPendingPinned env cfg _ tensor)))

omit gives in
theorem finalize_logs (r : Responder) :
    r.toSys.Logs kind (finalize env cfg r).2.toSys := by
  have waited : r.toSys.Logs kind (waitDeferred cfg r).toSys := by
    unfold waitDeferred
    split
    · exact Sys.Logs.issue refusing _ _
    · exact Sys.Logs.refl _
  have copied := waited.trans (copyDeferred_relates Sys.Logs.refl
    (fun first second => first.trans second) (waitDeferred cfg r)
    (waitDeferred cfg r).deferredPinned fun block _ s =>
      copyOutputs_logs refusing env cfg block.pinnedMemory .cpuPinned 0 0 false s block.responses)
  unfold finalize
  simp only
  split
  · exact copied.trans (recordEvent_logs refusing cfg (copyDeferred env cfg _ _))
  · exact copied

end

end Responder

end

end TritonBackend
