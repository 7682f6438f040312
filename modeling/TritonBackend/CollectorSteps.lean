import TritonBackend.BatchInputCore
import TritonBackend.SysSteps

/-!
Every operation of the collector is a run of the primitive steps on the shared state.
-/

namespace TritonBackend

open CopyStream

/-! Fields of a collector. -/

@[simp] theorem toSys_withSys (c : Collector) (s : Sys) : (c.withSys s).toSys = s := rfl

@[simp] theorem toSys_orSync (result : Bool × Collector) :
    (orSync result).toSys = result.2.toSys := rfl

@[simp] theorem toSys_clearPendingPinned (c : Collector) :
    c.clearPendingPinned.toSys = c.toSys := rfl

@[simp] theorem toSys_clearPendingCopyKernel (c : Collector) :
    c.clearPendingCopyKernel.toSys = c.toSys := rfl

@[simp] theorem toSys_addPendingPinned (c : Collector) (input : ContiguousBuffer)
    (tensorBufferOffset : Nat) : (c.addPendingPinned input tensorBufferOffset).toSys = c.toSys := rfl

@[simp] theorem toSys_addPendingCopyKernel (c : Collector) (input : ContiguousBuffer)
    (tensorBufferOffset : Nat) :
    (c.addPendingCopyKernel input tensorBufferOffset).toSys = c.toSys := rfl

@[simp] theorem toSys_waitBufferReady (c : Collector) : c.waitBufferReady.toSys = c.toSys := by
  unfold Collector.waitBufferReady
  split <;> rfl

theorem recordEvent_reaches (cfg : CollectorConfig) (c : Collector) :
    c.toSys.Reaches (c.recordEvent cfg).toSys := by
  unfold Collector.recordEvent
  split
  · exact Sys.Reaches.issue _ _
  · exact Sys.Reaches.refl _

/-! Lookups. -/

section
variable (env : Env) (requests : List Request)

theorem requestInput_sys (s : Sys) (idx : Nat) (name : String) :
    (requestInput env requests s idx name).2 = { s with tick := s.tick + 1 } := by
  unfold requestInput
  simp only [call_eq]
  split <;> simp_all

theorem inputProperties_sys (s : Sys) (name : String) (handle : Option Input) :
    (inputProperties env s name handle).2 = { s with tick := s.tick + 1 } := by
  unfold inputProperties
  simp only [call_eq]
  split <;> simp_all

theorem inputBuffer_sys (s : Sys) (name : String) (handle : Option Input) (idx : Nat) :
    (inputBuffer env s name handle idx).2 = { s with tick := s.tick + 1 } := by
  unfold inputBuffer
  simp only [call_eq]
  split <;> simp_all

theorem requestInput_hosts (s : Sys) (idx : Nat) (name : String) :
    s.Hosts (requestInput env requests s idx name).2 := by
  rw [requestInput_sys]
  exact Sys.Hosts.count s _

theorem inputProperties_hosts (s : Sys) (name : String) (handle : Option Input) :
    s.Hosts (inputProperties env s name handle).2 := by
  rw [inputProperties_sys]
  exact Sys.Hosts.count s _

theorem inputBuffer_hosts (s : Sys) (name : String) (handle : Option Input) (idx : Nat) :
    s.Hosts (inputBuffer env s name handle idx).2 := by
  rw [inputBuffer_sys]
  exact Sys.Hosts.count s _

theorem holdInput_hosts (inputName : String) (it : InputIterator) (s : Sys) :
    s.Hosts (holdInput env requests inputName it s).2 := by
  have looked := requestInput_hosts env requests s it.currRequestIdx inputName
  unfold holdInput
  split
  next input after found =>
    rw [found] at looked
    exact looked
  next error after failed =>
    have counted : s.Hosts after := by simpa [failed] using looked
    exact counted.respond it.currRequestIdx (some error)

theorem countBuffers_hosts (inputName : String) (it : InputIterator) (s : Sys) :
    s.Hosts (countBuffers env inputName it s).2 := by
  have looked := inputProperties_hosts env s inputName it.currInput
  unfold countBuffers
  split
  next input after found =>
    rw [found] at looked
    exact looked
  next error after failed =>
    have counted : s.Hosts after := by simpa [failed] using looked
    exact counted.respond it.currRequestIdx (some error)

theorem lookupRequest_hosts (inputName : String) (it : InputIterator) (s : Sys) :
    s.Hosts (lookupRequest env requests inputName it s).2 :=
  (holdInput_hosts env requests inputName it s).trans (countBuffers_hosts env inputName _ _)

theorem readBuffer_sys (inputName : String) (it : InputIterator) (kept : MemoryDesc) (s : Sys) :
    (readBuffer env inputName it kept s).2 = { s with tick := s.tick + 1 } := by
  have counted := inputBuffer_sys env s inputName it.currInput it.currBufferIdx
  unfold readBuffer
  split <;> simp_all

theorem readBuffer_hosts (inputName : String) (it : InputIterator) (kept : MemoryDesc)
    (s : Sys) : s.Hosts (readBuffer env inputName it kept s).2 := by
  rw [readBuffer_sys]
  exact Sys.Hosts.count s _

theorem coalesceBuffers_hosts (inputName : String) (input : ContiguousBuffer)
    (it : InputIterator) (s : Sys) (count : Nat) :
    s.Hosts (coalesceBuffers env inputName input it s count).sys := by
  induction count generalizing input it s with
  | zero => exact Sys.Hosts.refl s
  | succ count ih =>
      have read := readBuffer_hosts env inputName it (env.uninitialized s.tick) s
      simp only [coalesceBuffers]
      split
      · exact read.trans (ih _ _ _)
      · exact read

theorem coalesceRequests_hosts (inputName : String) (input : ContiguousBuffer)
    (it : InputIterator) (s : Sys) (count : Nat) :
    s.Hosts (coalesceRequests env requests inputName input it s count).sys := by
  induction count generalizing input it s with
  | zero =>
      have inner := coalesceBuffers_hosts env inputName input it s
        (it.currBufferCnt - it.currBufferIdx)
      simp only [coalesceRequests]
      split <;> exact inner
  | succ count ih =>
      have inner := coalesceBuffers_hosts env inputName input it s
        (it.currBufferCnt - it.currBufferIdx)
      simp only [coalesceRequests]
      split
      · exact inner
      · exact inner.trans ((lookupRequest_hosts env requests inputName _ _).trans (ih _ _ _))

theorem getNextContiguousInput_hosts (inputName : String) (coalesce : Bool)
    (input : ContiguousBuffer) (it : InputIterator) (s : Sys) :
    s.Hosts (getNextContiguousInput env requests inputName coalesce input it s).sys := by
  have read := readBuffer_hosts env inputName it input.memoryDesc s
  unfold getNextContiguousInput
  split
  · exact Sys.Hosts.refl s
  · simp only
    split
    · exact read.trans (coalesceRequests_hosts env requests inputName _ _ _ _)
    · split
      · split
        · exact read.trans (lookupRequest_hosts env requests inputName _ _)
        · exact read
      · exact read

end

/-! `ProcessTensor`. -/

section
variable (env : Env) (cfg : CollectorConfig)

theorem directCopy_reaches (c : Collector) (inputName : String) (input : ContiguousBuffer)
    (tensor : Tensor) (tensorBufferOffset : Nat) (waitBuffer : Bool) :
    c.toSys.Reaches (directCopy env cfg c inputName input tensor tensorBufferOffset waitBuffer).2.toSys := by
  unfold directCopy
  have waited : (if waitBuffer then c.waitBufferReady else c).toSys = c.toSys := by
    split <;> simp
  simp only [waited]
  have outcome := copyBuffer_outcome env c.toSys inputName input.memoryDesc.memoryType
    input.memoryDesc.memoryTypeId tensor.memoryType tensor.memoryTypeId input.byteSize
    input.memoryDesc.address (tensor.buffer.advance tensorBufferOffset) cfg.copyOnStream
  generalize copyBuffer env c.toSys _ _ _ _ _ _ _ _ _ = copied at outcome ⊢
  split
  · exact outcome.reaches
  · exact outcome.reaches.trans (failRequests_answers _ _ _).reaches

theorem setInputTensor_reaches (c : Collector) (inputName : String) (input : ContiguousBuffer)
    (tensor : Tensor) (tensorBufferOffset : Nat) (usePinnedMemoryType : MemoryType)
    (useKernel waitBuffer : Bool) :
    c.toSys.Reaches (setInputTensor env cfg c inputName input tensor tensorBufferOffset
      usePinnedMemoryType useKernel waitBuffer).2.toSys := by
  unfold setInputTensor
  split
  · exact (failRequests_answers _ _ _).reaches
  · split
    · exact Sys.Reaches.refl _
    · split
      · exact Sys.Reaches.refl _
      · exact directCopy_reaches env cfg c inputName input tensor tensorBufferOffset waitBuffer

theorem setInputTensors_reaches (inputName : String) (tensor : Tensor) (offset : Nat)
    (cudaUsed : Bool) (c : Collector) (inputs : List ContiguousBuffer) :
    c.toSys.Reaches (setInputTensors env cfg inputName tensor offset cudaUsed c inputs).2.toSys := by
  induction inputs generalizing offset cudaUsed c with
  | nil => exact Sys.Reaches.refl _
  | cons input rest ih =>
      exact (setInputTensor_reaches env cfg c inputName input tensor offset .cpuPinned false
        true).trans (ih _ _ _)

theorem enqueueTasks_reaches (task : Nat → List ContiguousBuffer → Task) (stride fuel : Nat)
    (offset : Nat) (pending : List ContiguousBuffer) (s : Sys) :
    s.Reaches (enqueueTasks env task stride fuel offset pending s) := by
  induction fuel generalizing offset pending s with
  | zero => exact Sys.Reaches.refl s
  | succ fuel ih =>
      cases pending with
      | nil => exact Sys.Reaches.refl s
      | cons input rest =>
          simp only [enqueueTasks]
          generalize takeSegment offset stride (input :: rest) = segment
          refine (Sys.Reaches.count s (s.tick + 1)).trans (Sys.Reaches.trans ?_ (ih _ _ _))
          generalize { s with tick := s.tick + 1 } = counted
          have added : counted.Reaches (if (env.addTask s.tick).code = .success then
              counted.note (.addTask (task offset segment.1)) else counted) := by
            split
            · exact (Sys.Step.quiet _ (.addTask _) rfl).reaches
            · exact Sys.Reaches.refl _
          refine added.trans ?_
          cases commonErrorToTritonError (env.addTask s.tick) with
          | none => exact Sys.Reaches.refl _
          | some error => exact (failAllRequests_answers _ _ _).reaches

theorem copyPinned_reaches (c : Collector) (memory : BackendMemory) (tensor : Tensor) :
    c.toSys.Reaches (copyPinned env cfg c memory tensor).2.toSys := by
  unfold copyPinned
  simp only [toSys_waitBufferReady]
  have outcome := copyBuffer_outcome env c.toSys "pinned input buffer H2D" .cpuPinned 0
    tensor.memoryType tensor.memoryTypeId c.waitBufferReady.pendingPinnedByteSize memory.memoryPtr
    (tensor.buffer.advance c.waitBufferReady.pendingPinnedOffset) cfg.copyOnStream
  generalize copyBuffer env c.toSys _ _ _ _ _ _ _ _ _ = copied at outcome ⊢
  split
  · exact outcome.reaches
  · exact outcome.reaches.trans (failAllRequests_answers _ _ _).reaches

theorem stagePinned_reaches (c : Collector) (memory : BackendMemory) (tensor : Tensor) :
    c.toSys.Reaches (stagePinned env cfg c memory tensor).2.toSys := by
  unfold stagePinned
  have staged := setInputTensors_reaches env cfg "pinned H2H" {
      buffer := memory.memoryPtr
      byteSize := c.pendingPinnedByteSize
      memoryType := .cpuPinned
      memoryTypeId := 0 } 0 false c c.pendingPinnedInputBuffers
  simp only
  split
  · exact staged
  · exact staged.trans (copyPinned_reaches env cfg _ memory tensor)

theorem allocatePinned_hosts (c : Collector) : c.toSys.Hosts (allocatePinned env c).2 := by
  unfold allocatePinned
  split
  · exact createBackendMemory_hosts env _ _ _ _ _
  · exact Sys.Hosts.refl _

theorem flushPendingPinned_reaches (c : Collector) (tensor : Tensor) :
    c.toSys.Reaches (flushPendingPinned env cfg c tensor).2.toSys := by
  unfold flushPendingPinned
  simp only [toSys_clearPendingPinned]
  refine (allocatePinned_hosts env c).reaches.trans ?_
  generalize allocatePinned env c = allocated
  split
  · exact setInputTensors_reaches env cfg _ _ _ _ (c.withSys allocated.2) _
  · split
    · exact enqueueTasks_reaches env _ _ _ _ _ _
    · exact stagePinned_reaches env cfg (c.withSys allocated.2) _ tensor

theorem createKernelArgument_hosts (c : Collector) (tensor : Tensor) :
    c.toSys.Hosts (createKernelArgument env c tensor).2.toSys := by
  have created := createBackendMemory_hosts env c.toSys .scratch
    (allocationTypes tensor.memoryType) tensor.memoryTypeId
    (c.pendingCopyKernelInputBufferCounts * 8)
  unfold createKernelArgument
  simp only
  split
  · exact created
  · split <;> exact created

theorem createKernelArguments_hosts (tensor : Tensor) (c : Collector) (count : Nat) :
    c.toSys.Hosts (createKernelArguments env tensor c count).2.toSys := by
  induction count generalizing c with
  | zero => exact Sys.Hosts.refl _
  | succ count ih =>
      have created := createKernelArgument_hosts env c tensor
      simp only [createKernelArguments]
      split
      · exact created
      · exact created.trans (ih _)

theorem launchCopyKernel_reaches (c : Collector) (tensor : Tensor) :
    c.toSys.Reaches (launchCopyKernel env c tensor).2.toSys := by
  have created := (createKernelArguments_hosts env tensor c 3).reaches
  unfold launchCopyKernel
  generalize createKernelArguments env tensor c 3 = arguments at created ⊢
  simp only [toSys_waitBufferReady, call_eq]
  cases arguments.1 with
  | some error => exact created
  | none =>
      simp only
      cases env.outcome arguments.2.tick .launchKernel with
      | some cudaError => exact created.trans (Sys.Reaches.count _ _)
      | none => exact created.trans ((Sys.Reaches.count _ _).trans (Sys.Reaches.issue _ _))

theorem flushPendingCopyKernel_reaches (c : Collector) (tensor : Tensor) :
    c.toSys.Reaches (flushPendingCopyKernel env cfg c tensor).2.toSys := by
  unfold flushPendingCopyKernel
  split
  · exact Sys.Reaches.refl _
  · simp only [toSys_clearPendingCopyKernel]
    split
    · have launched := launchCopyKernel_reaches env c tensor
      split
      · exact launched
      · exact launched.trans (setInputTensors_reaches env cfg _ _ _ _ _ _)
    · exact setInputTensors_reaches env cfg _ _ _ _ _ _

theorem flushPinnedBefore_reaches (c : Collector) (tensor : Tensor) (bufferOffset : Nat) :
    c.toSys.Reaches (flushPinnedBefore env cfg c tensor bufferOffset).toSys := by
  unfold flushPinnedBefore
  split
  · exact flushPendingPinned_reaches env cfg c tensor
  · exact Sys.Reaches.refl _

theorem flushCopyKernelBefore_reaches (c : Collector) (tensor : Tensor) (bufferOffset : Nat) :
    c.toSys.Reaches (flushCopyKernelBefore env cfg c tensor bufferOffset).toSys := by
  unfold flushCopyKernelBefore
  split
  · exact flushPendingCopyKernel_reaches env cfg c tensor
  · exact Sys.Reaches.refl _

theorem processChunk_reaches (inputName : String) (tensor : Tensor) (c : Collector)
    (bufferOffset : Nat) (input : ContiguousBuffer) :
    c.toSys.Reaches (processChunk env cfg inputName tensor c bufferOffset input).toSys :=
  (flushPinnedBefore_reaches env cfg c tensor bufferOffset).trans
    ((flushCopyKernelBefore_reaches env cfg _ tensor bufferOffset).trans
      (setInputTensor_reaches env cfg _ _ _ _ _ _ _ _))

theorem processChunksFrom_reaches (inputName : String) (tensor : Tensor) (c : Collector)
    (bufferOffset : Nat) (chunks : List ContiguousBuffer) :
    c.toSys.Reaches (processChunksFrom env cfg inputName tensor c bufferOffset chunks).toSys := by
  induction chunks generalizing c bufferOffset with
  | nil => exact Sys.Reaches.refl _
  | cons input rest ih =>
      exact (processChunk_reaches env cfg inputName tensor c bufferOffset input).trans (ih _ _)

theorem finishTensor_reaches (tensor : Tensor) (c : Collector) :
    c.toSys.Reaches (finishTensor env cfg tensor c).toSys := by
  have pinned := flushPendingPinned_reaches env cfg c tensor
  have kernel := flushPendingCopyKernel_reaches env cfg
    (orSync (flushPendingPinned env cfg c tensor)) tensor
  unfold finishTensor
  exact pinned.trans (kernel.trans (recordEvent_reaches cfg (orSync _)))

theorem processChunks_reaches (inputName : String) (tensor : Tensor) (c : Collector)
    (chunks : List ContiguousBuffer) :
    c.toSys.Reaches (processChunks env cfg inputName tensor c chunks).toSys :=
  (processChunksFrom_reaches env cfg inputName tensor c 0 chunks).trans
    (finishTensor_reaches env cfg tensor _)

theorem gatherTensors_reaches (c : Collector) (calls : List TensorCall) :
    c.toSys.Reaches (gatherTensors env cfg c calls).toSys := by
  induction calls generalizing c with
  | nil => exact Sys.Reaches.refl _
  | cons call rest ih =>
      exact (processChunks_reaches env cfg call.inputName call.tensor c call.chunks).trans (ih _)

theorem processTensorLoop_reaches (inputName : String) (tensor : Tensor) (c : Collector)
    (it : InputIterator) (input : ContiguousBuffer) (bufferOffset : Nat) :
    c.toSys.Reaches (processTensorLoop env cfg inputName tensor c it input bufferOffset).toSys := by
  induction c, it, input, bufferOffset using processTensorLoop.induct env cfg inputName tensor with
  | case1 c it input bufferOffset next found ih =>
      rw [processTensorLoop, if_pos found]
      exact (getNextContiguousInput_hosts env cfg.requests inputName _ input it c.toSys).reaches.trans
        ((processChunk_reaches env cfg inputName tensor (c.withSys next.sys) bufferOffset
          next.input).trans ih)
  | case2 c it input bufferOffset next done =>
      rw [processTensorLoop, if_neg done]
      exact (getNextContiguousInput_hosts env cfg.requests inputName _ input it c.toSys).reaches

theorem processTensor_reaches (inputName : String) (tensor : Tensor) (c : Collector) :
    c.toSys.Reaches (processTensor env cfg inputName tensor c).toSys := by
  have created : c.toSys.Reaches (InputIterator.create env cfg.requests inputName c.toSys).2 :=
    (lookupRequest_hosts env cfg.requests inputName _ c.toSys).reaches
  unfold processTensor
  generalize InputIterator.create env cfg.requests inputName c.toSys = it at created ⊢
  exact created.trans
    ((processTensorLoop_reaches env cfg inputName tensor (c.withSys it.2) it.1 _ 0).trans
      (finishTensor_reaches env cfg tensor _))

/-! `ProcessTensor` returning the buffer. -/

theorem scanLookup_hosts (inputName : String) (request : Nat) (handle : Option Input)
    (s : Sys) (idx : Nat) : s.Hosts (scanLookup env inputName request handle s idx).2 := by
  have looked := inputBuffer_hosts env s inputName handle idx
  unfold scanLookup
  split
  next desc after found =>
    rw [found] at looked
    exact looked
  next error after failed =>
    have counted : s.Hosts after := by simpa [failed] using looked
    exact counted.respond request (some error)

theorem scanBuffers_hosts (inputName : String) (request : Nat) (handle : Option Input)
    (scan : ContiguousScan) (s : Sys) (idx count : Nat) :
    s.Hosts (scanBuffers env cfg inputName request handle scan s idx count).2 := by
  induction count generalizing scan s idx with
  | zero => exact Sys.Hosts.refl s
  | succ count ih => exact (scanLookup_hosts env inputName request handle s idx).trans (ih _ _ _)

theorem scanHandle_hosts (inputName : String) (s : Sys) (request : Nat) :
    s.Hosts (scanHandle env cfg inputName s request).2 := by
  have looked := requestInput_hosts env cfg.requests s request inputName
  unfold scanHandle
  split
  next input after found =>
    rw [found] at looked
    exact looked
  next error after failed =>
    have counted : s.Hosts after := by simpa [failed] using looked
    exact counted.respond request (some error)

theorem scanCount_hosts (inputName : String) (request : Nat) (handle : Option Input)
    (s : Sys) : s.Hosts (scanCount env inputName request handle s).2 := by
  have looked := inputProperties_hosts env s inputName handle
  unfold scanCount
  split
  next input after found =>
    rw [found] at looked
    exact looked
  next error after failed =>
    have counted : s.Hosts after := by simpa [failed] using looked
    exact counted.respond request (some error)

theorem scanRequest_hosts (inputName : String) (scan : ContiguousScan) (s : Sys)
    (request : Nat) : s.Hosts (scanRequest env cfg inputName scan s request).2 :=
  (scanHandle_hosts env cfg inputName s request).trans
    ((scanCount_hosts env inputName request _ _).trans
      (scanBuffers_hosts env cfg inputName request _ scan _ 0 _))

theorem scanRequestsFrom_hosts (inputName : String) (scan : ContiguousScan) (s : Sys)
    (request count : Nat) :
    s.Hosts (scanRequestsFrom env cfg inputName scan s request count).2 := by
  induction count generalizing scan s request with
  | zero => exact Sys.Hosts.refl s
  | succ count ih => exact (scanRequest_hosts env cfg inputName scan s request).trans (ih _ _ _)

theorem allocateAllowed_hosts (place : Nat → Block) (byteSize : Nat) (s : Sys)
    (allowed : List (MemoryType × Int)) :
    s.Hosts (allocateAllowed env place byteSize s allowed).2 := by
  induction allowed generalizing s with
  | nil => exact Sys.Hosts.refl s
  | cons first rest ih =>
      have created := createBackendMemory_hosts env s place (allocationTypes first.1) first.2
        byteSize
      simp only [allocateAllowed]
      split
      · exact created
      · exact created.trans (ih _)

theorem fillTensor_reaches (inputName : String) (tensor : Tensor) (c : Collector) :
    c.toSys.Reaches (fillTensor env cfg inputName tensor c).collector.toSys := by
  unfold fillTensor
  simp only
  split
  · exact processTensor_reaches env cfg inputName tensor c
  · exact Sys.Reaches.refl _

theorem processTensorDst_reaches (inputName : String) (buffer : Option Address)
    (bufferByteSize : Nat) (allowed : List (MemoryType × Int)) (kept : MemoryDesc)
    (c : Collector) :
    c.toSys.Reaches
      (processTensorDst env cfg inputName buffer bufferByteSize allowed kept c).collector.toSys := by
  unfold processTensorDst
  cases buffer with
  | none =>
      simp only
      split
      · exact Sys.Reaches.refl _
      · have scanned := scanRequestsFrom_hosts env cfg inputName {
            desc := { kept with buffer := 0, byteSize := 0 }
            expectedNextBuffer := 0
            contiguous := true } c.toSys 0 cfg.requests.length
        refine Sys.Reaches.trans scanned.reaches ?_
        split
        · exact Sys.Reaches.refl _
        · have allocated := allocateAllowed_hosts env .gathered
            (getInputBufferIfContiguous env cfg inputName kept c.toSys).1.desc.byteSize
            (getInputBufferIfContiguous env cfg inputName kept c.toSys).2 allowed
          refine Sys.Reaches.trans allocated.reaches ?_
          split
          · exact Sys.Reaches.refl _
          · exact fillTensor_reaches env cfg inputName _ (Collector.withSys _ _)
  | some buffer =>
      simp only
      split
      · exact fillTensor_reaches env cfg inputName _ c
      · exact Sys.Reaches.refl _

/-! `Finalize`. -/

theorem finalizeDeferred_reaches (s : Sys) (deferred : DeferredPinned) :
    s.Reaches (finalizeDeferred env s deferred).2 := by
  unfold finalizeDeferred
  have outcome := copyBuffer_outcome env s "pinned buffer" .cpuPinned 0
    deferred.tensorMemoryType deferred.tensorMemoryId deferred.pinnedMemorySize
    deferred.pinnedMemory (deferred.tensorBuffer.advance deferred.tensorBufferOffset) false
  generalize copyBuffer env s _ _ _ _ _ _ _ _ _ = copied at outcome ⊢
  simp only
  split
  · exact outcome.reaches
  · exact outcome.reaches.trans (failAllRequests_answers _ _ _).reaches

theorem finalizeAll_reaches (c : Collector) (deferred : List DeferredPinned) :
    c.toSys.Reaches (finalizeAll env c deferred).toSys := by
  induction deferred generalizing c with
  | nil => exact Sys.Reaches.refl _
  | cons first rest ih =>
      simp only [finalizeAll]
      split
      · exact ih c
      · exact (finalizeDeferred_reaches env c.toSys first).trans
          (ih (orSync ((finalizeDeferred env c.toSys first).1, c.withSys _)))

theorem getCompletions_reaches (c : Collector) (count : Nat) :
    c.toSys.Reaches (getCompletions env c count).toSys := by
  induction count generalizing c with
  | zero => exact Sys.Reaches.refl _
  | succ count ih =>
      have noted := (Sys.Step.quiet c.toSys .getCompletion rfl).reaches.trans
        (Sys.Reaches.count (c.toSys.note .getCompletion) (c.tick + 1))
      exact noted.trans (ih (orSync (env.completion c.tick, c.withSys _)))

theorem finalize_reaches (c : Collector) :
    c.toSys.Reaches (finalize env cfg c).2.toSys := by
  have waited : c.toSys.Reaches (waitDeferred cfg c).toSys := by
    unfold waitDeferred
    split
    · exact Sys.Reaches.issue _ _
    · exact Sys.Reaches.refl _
  unfold finalize
  have finalized := finalizeAll_reaches env (waitDeferred cfg c).waitBufferReady
    (waitDeferred cfg c).waitBufferReady.deferredPinned
  rw [toSys_waitBufferReady] at finalized
  have got := getCompletions_reaches env (finalizeAll env (waitDeferred cfg c).waitBufferReady
    (waitDeferred cfg c).waitBufferReady.deferredPinned) (finalizeAll env
      (waitDeferred cfg c).waitBufferReady
      (waitDeferred cfg c).waitBufferReady.deferredPinned).asyncTaskCount
  have all := (waited.trans finalized).trans got
  simp only
  split
  · exact all.trans (recordEvent_reaches cfg (getCompletions env _ _))
  · exact all

theorem synchronize_reaches (c : Collector) (needSync : Bool) :
    c.toSys.Reaches (synchronize cfg c needSync) := by
  unfold synchronize
  split
  · exact Sys.Reaches.issue _ _
  · exact Sys.Reaches.refl _

end

/-! `ProcessBatchInput`. -/

section
variable (env : Env) (cfg : CollectorConfig)

theorem inputShape_hosts (name : String) (s : Sys) (request : Nat) :
    s.Hosts (inputShape env cfg name s request).2 := by
  have looked := requestInput_hosts env cfg.requests s request name
  unfold inputShape
  simp only
  split
  · exact looked
  · exact looked.trans (inputProperties_hosts env _ name _)

theorem foldShapes_hosts {α : Type} (name : String) (step : α → List Int → α) (value : α)
    (s : Sys) (request count : Nat) :
    s.Hosts (foldShapes env cfg name step value s request count).2 := by
  induction count generalizing value s request with
  | zero => exact Sys.Hosts.refl s
  | succ count ih =>
      have looked := inputShape_hosts env cfg name s request
      simp only [foldShapes]
      split
      · exact looked
      · exact looked.trans (ih _ _ _)

theorem batchInputShape_hosts (batchInput : BatchInput) (s : Sys) :
    s.Hosts (batchInputShape env cfg batchInput s).2 := by
  unfold batchInputShape
  split
  · exact Sys.Hosts.refl s
  · exact Sys.Hosts.refl s
  · exact Sys.Hosts.refl s
  · exact foldShapes_hosts env cfg _ _ _ s 0 _
  · exact foldShapes_hosts env cfg _ _ _ s 0 _
  · exact foldShapes_hosts env cfg _ _ _ s 0 _

theorem storeElement_hosts (dataType : DataType) (s : Sys) (address : Address) (value : Int) :
    s.Hosts (storeElement env dataType s address value) := Sys.Hosts.issue s _

theorem storeRepeated_hosts (dataType : DataType) (value : Int) (buffer : Address) (s : Sys)
    (offset count : Nat) :
    s.Hosts (storeRepeated env dataType value buffer s offset count) := by
  induction count generalizing s offset with
  | zero => exact Sys.Hosts.refl s
  | succ count ih => exact (storeElement_hosts env dataType s _ value).trans (ih _ _)

theorem storeCounts_hosts (dataType : DataType) (next : Int → Int → Int)
    (sourceInput : String) (buffer : Address) (byteSize : Nat) (value : Int) (s : Sys)
    (request count : Nat) :
    s.Hosts (storeCounts env cfg dataType next sourceInput buffer byteSize value s request
      count).2 := by
  induction count generalizing value s request with
  | zero => exact Sys.Hosts.refl s
  | succ count ih =>
      have looked := inputShape_hosts env cfg sourceInput s request
      simp only [storeCounts]
      split
      · exact Sys.Hosts.refl s
      · split
        · exact looked
        · exact looked.trans ((storeElement_hosts env dataType _ _ _).trans (ih _ _ _))

theorem setCounts_hosts (dataType : DataType) (next : Int → Int → Int) (rest : Int → Int)
    (sourceInput : String) (buffer : Address) (byteSize : Nat) (s : Sys) :
    s.Hosts (setCounts env cfg dataType next rest sourceInput buffer byteSize s).2 := by
  have stored := storeCounts_hosts env cfg dataType next sourceInput buffer byteSize 0 s 0
    cfg.requests.length
  unfold setCounts
  simp only
  split
  · exact stored
  · exact stored.trans (storeRepeated_hosts env dataType _ buffer _ _ _)

theorem storeShape_hosts (dataType : DataType) (s : Sys) (address : Address)
    (shape : List Int) : s.Hosts (storeShape env dataType s address shape) := by
  induction shape generalizing s address with
  | nil => exact Sys.Hosts.refl s
  | cons dim rest ih => exact (storeElement_hosts env dataType s address dim).trans (ih _ _)

theorem repeatItem_hosts (buffer : Address) (itemSize : Nat) (s : Sys) (idx count : Nat) :
    s.Hosts (repeatItem buffer itemSize s idx count) := by
  induction count generalizing s idx with
  | zero => exact Sys.Hosts.refl s
  | succ count ih => exact (Sys.Hosts.issue s _).trans (ih _ _)

theorem setBatchItemShapeFrom_hosts (dataType : DataType) (sourceInput : String)
    (buffer : Address) (byteSize : Nat) (s : Sys) (offset request count : Nat) :
    s.Hosts (setBatchItemShapeFrom env cfg dataType sourceInput buffer byteSize s offset request
      count).2 := by
  induction count generalizing s offset request with
  | zero => exact Sys.Hosts.refl s
  | succ count ih =>
      have looked := inputShape_hosts env cfg sourceInput s request
      simp only [setBatchItemShapeFrom]
      split
      · exact looked
      · split
        · exact looked
        · exact looked.trans ((storeShape_hosts env dataType _ _ _).trans
            ((repeatItem_hosts _ _ _ _ _).trans (ih _ _ _)))

theorem fillBatchInput_hosts (batchInput : BatchInput) (buffer : Address) (byteSize : Nat)
    (s : Sys) : s.Hosts (fillBatchInput env cfg batchInput buffer byteSize s).2 := by
  unfold fillBatchInput
  simp only
  split
  · exact setCounts_hosts env cfg _ _ _ _ _ _ s
  · exact setCounts_hosts env cfg _ _ _ _ _ _ s
  · exact (storeElement_hosts env _ s _ _).trans (setCounts_hosts env cfg _ _ _ _ _ _ _)
  · exact Sys.Hosts.refl s
  · exact (storeElement_hosts env _ s _ _).trans
      (setBatchItemShapeFrom_hosts env cfg _ _ _ _ _ _ _ _)
  · exact (storeElement_hosts env _ s _ _).trans
      (setBatchItemShapeFrom_hosts env cfg _ _ _ _ _ _ _ _)

theorem fillBatchTensor_reaches (batchInput : BatchInput) (tensor : Tensor) (c : Collector) :
    c.toSys.Reaches (fillBatchTensor env cfg batchInput tensor c).collector.toSys := by
  have hosted : c.toSys.Reaches (batchInputHost env tensor c.toSys).2 :=
    (createBackendMemory_hosts env _ _ _ _ _).reaches
  unfold fillBatchTensor
  simp only
  split
  · exact (fillBatchInput_hosts env cfg batchInput _ _ _).reaches
  · split
    · exact hosted
    next memory found =>
      have filled := hosted.trans
        (fillBatchInput_hosts env cfg batchInput memory.memoryPtr tensor.byteSize _).reaches
      split
      · exact filled
      · split
        · exact filled
        · have outcome := copyBuffer_outcome env
            (fillBatchInput env cfg batchInput memory.memoryPtr tensor.byteSize
              (batchInputHost env tensor c.toSys).2).2
            "batch input buffer" memory.memoryType memory.memoryTypeId tensor.memoryType
            tensor.memoryTypeId tensor.byteSize memory.memoryPtr tensor.buffer cfg.copyOnStream
          have copied := filled.trans outcome.reaches
          split <;> exact copied

theorem processBatchInput_reaches (batchInput : BatchInput) (buffer : Option Address)
    (bufferByteSize : Nat) (allowed : List (MemoryType × Int)) (kept : Tensor) (c : Collector) :
    c.toSys.Reaches
      (processBatchInput env cfg batchInput buffer bufferByteSize allowed kept c).collector.toSys := by
  unfold processBatchInput
  simp only [toSys_waitBufferReady]
  cases buffer with
  | none =>
      simp only
      split
      · simp only [toSys_waitBufferReady]
        exact Sys.Reaches.refl _
      · have shaped := batchInputShape_hosts env cfg batchInput c.toSys
        split
        · exact shaped.reaches
        next shape found =>
          have allocated := shaped.trans (allocateAllowed_hosts env .gathered
            (toSize (getByteSize batchInput.dataType shape)) _ allowed)
          split
          · exact allocated.reaches
          · exact allocated.reaches.trans
              (fillBatchTensor_reaches env cfg batchInput _ (c.waitBufferReady.withSys _))
  | some buffer =>
      simp only
      split
      next memoryType memoryTypeId =>
        have filled := fillBatchTensor_reaches env cfg batchInput
          { buffer, byteSize := bufferByteSize, memoryType, memoryTypeId } c.waitBufferReady
        simpa using filled
      · simp only [toSys_waitBufferReady]
        exact Sys.Reaches.refl _

end

end TritonBackend
