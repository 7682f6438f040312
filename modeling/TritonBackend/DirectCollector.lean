import TritonBackend.CollectorRun
import TritonBackend.GatheredTensor
import TritonBackend.Refusals

/-!
A collector that neither stages nor uses the gather kernel. Nothing ever waits in it, for
any number of workers: each chunk is copied when it is met, and `Finalize` has nothing to do.
-/

namespace TritonBackend

open CopyStream

structure CollectorConfig.Direct (cfg : CollectorConfig) : Prop where
  pinned : cfg.pinnedEnabled = false
  kernel : cfg.kernelBufferThreshold = 0
  event : cfg.event = false
  single : cfg.coalesceRequestInput = false

/-- No chunk waits for its group, and no block and no task for `Finalize`. -/
structure Collector.Bare (c : Collector) : Prop where
  pinnedByteSize : c.pendingPinnedByteSize = 0
  pinnedOffset : c.pendingPinnedOffset = 0
  pinned : c.pendingPinnedInputBuffers = []
  kernelByteSize : c.pendingCopyKernelBufferByteSize = 0
  kernel : c.pendingCopyKernelInputBuffers = []
  deferred : c.deferredPinned = []
  tasks : c.asyncTaskCount = 0

theorem bare_create (s : Sys) (bufferReadyEvent : Bool) :
    (Collector.create s bufferReadyEvent).Bare := ⟨rfl, rfl, rfl, rfl, rfl, rfl, rfl⟩

theorem Collector.Bare.sameGroups {c c' : Collector} (bare : c.Bare) (same : c.SameGroups c') :
    c'.Bare := by
  rw [same]
  exact ⟨bare.pinnedByteSize, bare.pinnedOffset, bare.pinned, bare.kernelByteSize, bare.kernel,
    bare.deferred, bare.tasks⟩

theorem Collector.Bare.orSync {result : Bool × Collector} (bare : result.2.Bare) :
    (TritonBackend.orSync result).Bare :=
  ⟨bare.pinnedByteSize, bare.pinnedOffset, bare.pinned, bare.kernelByteSize, bare.kernel,
    bare.deferred, bare.tasks⟩

theorem orSync_idle (c : Collector) : orSync (false, c) = c := by
  simp [orSync]

section
variable (env : Env) {cfg : CollectorConfig} {kind : Event → Prop} (refusing : Refusing kind)

theorem flushPendingPinned_bare {c : Collector} (bare : c.Bare) (tensor : Tensor) :
    flushPendingPinned env cfg c tensor = (false, c) := by
  obtain ⟨s, needSync, event, size, offset, pinned, kernelSize, kernelOffset, counts, kernel,
    deferred, tasks⟩ := c
  obtain ⟨rfl, rfl, rfl, rfl, rfl, rfl, rfl⟩ := bare
  rfl

theorem flushPendingCopyKernel_bare {c : Collector} (bare : c.Bare) (tensor : Tensor) :
    flushPendingCopyKernel env cfg c tensor = (false, c) := by
  simp [flushPendingCopyKernel, bare.kernel]

theorem processChunk_direct (direct : cfg.Direct) {c : Collector} (bare : c.Bare)
    (inputName : String) (tensor : Tensor) (offset : Nat) (input : ContiguousBuffer) :
    processChunk env cfg inputName tensor c offset input =
      orSync (setInputTensor env cfg c inputName input tensor offset .cpuPinned false true) := by
  have pinned : flushPinnedBefore env cfg c tensor offset = c := by
    simp [flushPinnedBefore, bare.pinnedByteSize]
  have kernel : flushCopyKernelBefore env cfg c tensor offset = c := by
    simp [flushCopyKernelBefore, bare.kernelByteSize]
  have staging : usePinnedMemoryType cfg tensor = .cpuPinned := by
    simp [usePinnedMemoryType, direct.pinned]
  have launching : useKernel cfg = false := by simp [useKernel, direct.kernel]
  rw [processChunk, pinned, kernel, staging, launching]

theorem finishTensor_direct (direct : cfg.Direct) {c : Collector} (bare : c.Bare)
    (tensor : Tensor) : finishTensor env cfg tensor c = c := by
  rw [finishTensor, flushPendingPinned_bare env bare, orSync_idle,
    flushPendingCopyKernel_bare env bare, orSync_idle]
  simp [Collector.recordEvent, direct.event]

theorem finalize_bare {c : Collector} (bare : c.Bare) :
    finalize env cfg c = (c.needSync, c.waitBufferReady) := by
  have waited : waitDeferred cfg c = c := by simp [waitDeferred, bare.deferred]
  have still := bare.sameGroups (sameGroups_waitBufferReady c)
  have flag : c.waitBufferReady.needSync = c.needSync := by
    unfold Collector.waitBufferReady
    split <;> rfl
  simp [finalize, waited, still.deferred, still.tasks, finalizeAll, getCompletions, flag]

/-! One chunk. -/

theorem setInputTensor_bare {c : Collector} (bare : c.Bare) (inputName : String)
    (input : ContiguousBuffer) (tensor : Tensor) (offset : Nat) :
    (setInputTensor env cfg c inputName input tensor offset .cpuPinned false true).2.Bare := by
  by_cases fits : offset + input.byteSize ≤ tensor.byteSize
  · rw [setInputTensor_direct env cfg c inputName input tensor offset true fits]
    exact bare.sameGroups (directCopy_sameGroups env cfg c inputName input tensor offset true)
  · simp only [setInputTensor, gt_iff_lt, Nat.lt_of_not_le fits, if_true]
    exact bare.sameGroups (sameGroups_withSys c _)

theorem processChunk_bare (direct : cfg.Direct) {c : Collector} (bare : c.Bare) (inputName : String)
    (tensor : Tensor) (offset : Nat) (input : ContiguousBuffer) :
    (processChunk env cfg inputName tensor c offset input).Bare := by
  rw [processChunk_direct env direct bare]
  exact (setInputTensor_bare env bare inputName input tensor offset).orSync

include refusing in
theorem processChunk_logs (direct : cfg.Direct) {c : Collector} (bare : c.Bare)
    (inputName : String) (tensor : Tensor) (offset : Nat) (input : ContiguousBuffer) :
    c.toSys.Logs kind (processChunk env cfg inputName tensor c offset input).toSys := by
  rw [processChunk_direct env direct bare, toSys_orSync]
  by_cases fits : offset + input.byteSize ≤ tensor.byteSize
  · rw [setInputTensor_direct env cfg c inputName input tensor offset true fits]
    have outcome := copyBuffer_outcome env c.waitBufferReady.toSys inputName
      input.memoryDesc.memoryType input.memoryDesc.memoryTypeId tensor.memoryType
      tensor.memoryTypeId input.byteSize input.memoryDesc.address (tensor.buffer.advance offset)
      cfg.copyOnStream
    simp only [directCopy, if_true]
    rw [toSys_waitBufferReady] at outcome ⊢
    split
    · exact outcome.logs refusing
    · exact (outcome.logs refusing).trans (sendFrom_logs refusing _ _ _ _)
  · simp only [setInputTensor, gt_iff_lt, Nat.lt_of_not_le fits, if_true]
    exact sendFrom_logs refusing _ _ _ _

theorem processChunk_carries (faithful : Prop) (direct : cfg.Direct) {c : Collector} (bare : c.Bare)
    (inputName : String) (tensor : Tensor) (offset : Nat) (input : ContiguousBuffer)
    (rest : List (Job Block Nat)) :
    let c' := processChunk env cfg inputName tensor c offset input
    c.toSys.Carries faithful (fittingJob tensor offset input ++ rest) c'.toSys rest ∧
      c.Tracks c' := by
  intro c'
  have flag : (setInputTensor env cfg c inputName input tensor offset .cpuPinned false true).2.needSync =
      c.needSync := by
    by_cases fits : offset + input.byteSize ≤ tensor.byteSize
    · rw [setInputTensor_direct env cfg c inputName input tensor offset true fits,
        directCopy_sameGroups env cfg c inputName input tensor offset true]
    · simp only [setInputTensor, gt_iff_lt, Nat.lt_of_not_le fits, if_true]
      rfl
  rw [show c' = orSync _ from processChunk_direct env direct bare inputName tensor offset input,
    toSys_orSync]
  by_cases fits : offset + input.byteSize ≤ tensor.byteSize
  · rw [setInputTensor_direct env cfg c inputName input tensor offset true fits] at flag ⊢
    rw [fittingJob, if_pos fits, List.singleton_append]
    exact ⟨directCopy_carries env cfg faithful c inputName input tensor offset true rest,
      tracks_orSync (directCopy_streams env cfg c inputName input tensor offset true) flag⟩
  · have refused :
        (setInputTensor env cfg c inputName input tensor offset .cpuPinned false true).2.toSys.actions =
        c.actions := by
      simp only [setInputTensor, gt_iff_lt, Nat.lt_of_not_le fits, if_true]
      exact answers_actions (failRequests_answers _ _ _)
    rw [fittingJob, if_neg fits, List.nil_append]
    refine ⟨Sys.Carries.idle ?_ refused rest, tracks_orSync (Streams.idle _ refused) flag⟩
    exact setInputTensor_reaches env cfg c inputName input tensor offset .cpuPinned false true

/-! The loops. -/

theorem chunkRun_direct (faithful : Prop) (direct : cfg.Direct) {inputName : String}
    {tensor : Tensor} {c c' : Collector} {offset : Nat} {chunks : List ContiguousBuffer}
    (run : ChunkRun env cfg inputName tensor c offset chunks c') (bare : c.Bare)
    (rest : List (Job Block Nat)) :
    c.toSys.Carries faithful (tensorJobs tensor offset chunks ++ rest) c'.toSys rest ∧ c'.Bare ∧
      c.Tracks c' := by
  induction run with
  | done c s offset idle =>
      have device : s.device = c.device := by rw [Sys.device, Sys.device, idle.2]
      refine ⟨Sys.Carries.idle idle.1 idle.2 rest, bare.sameGroups (sameGroups_withSys c s), ?_⟩
      exact ⟨by rw [toSys_withSys, device], fun none => ⟨none, by rw [toSys_withSys, device]⟩⟩
  | next c s offset input later c' idle run ih =>
      have device : s.device = c.device := by rw [Sys.device, Sys.device, idle.2]
      have waited : c.Tracks (c.withSys s) :=
        ⟨by rw [toSys_withSys, device], fun none => ⟨none, by rw [toSys_withSys, device]⟩⟩
      have still := bare.sameGroups (sameGroups_withSys c s)
      obtain ⟨carries, tracks⟩ := processChunk_carries env faithful direct still inputName tensor
        offset input (tensorJobs tensor (offset + input.byteSize) later ++ rest)
      obtain ⟨others, last, tracked⟩ := ih (processChunk_bare env direct still inputName tensor
        offset input)
      simp only [tensorJobs, List.append_assoc]
      exact ⟨(Sys.Carries.idle idle.1 idle.2 _).trans (carries.trans others), last,
        (waited.trans tracks).trans tracked⟩

include refusing in
theorem processTensorLoop_bare (direct : cfg.Direct) (inputName : String) (tensor : Tensor)
    {c : Collector} (bare : c.Bare) (it : InputIterator) (input : ContiguousBuffer)
    (bufferOffset : Nat) :
    let c' := processTensorLoop env cfg inputName tensor c it input bufferOffset
    c'.Bare ∧ c.toSys.Logs kind c'.toSys := by
  induction c, it, input, bufferOffset using processTensorLoop.induct env cfg inputName tensor with
  | case1 c it input bufferOffset next found ih =>
      have looked : c.toSys.Logs kind next.sys := by
        have refuses := getNextContiguousInput_logs refusing env cfg.requests inputName input it c.toSys
        rwa [← direct.single] at refuses
      have still : (c.withSys next.sys).Bare := bare.sameGroups (sameGroups_withSys c next.sys)
      obtain ⟨last, later⟩ := ih (processChunk_bare env direct still inputName tensor bufferOffset
        next.input)
      rw [processTensorLoop, if_pos found]
      exact ⟨last, looked.trans ((processChunk_logs env refusing direct still inputName tensor
        bufferOffset next.input).trans later)⟩
  | case2 c it input bufferOffset next missing =>
      have looked : c.toSys.Logs kind next.sys := by
        have refuses := getNextContiguousInput_logs refusing env cfg.requests inputName input it c.toSys
        rwa [← direct.single] at refuses
      rw [processTensorLoop, if_neg missing]
      exact ⟨bare.sameGroups (sameGroups_withSys c next.sys), looked⟩

include refusing in
theorem processTensor_bare (direct : cfg.Direct) (inputName : String) (tensor : Tensor)
    {c : Collector} (bare : c.Bare) :
    let c' := processTensor env cfg inputName tensor c
    c'.Bare ∧ c.toSys.Logs kind c'.toSys := by
  have created : c.toSys.Logs kind (InputIterator.create env cfg.requests inputName c.toSys).2 :=
    lookupRequest_logs refusing env cfg.requests inputName _ c.toSys
  simp only [processTensor]
  generalize InputIterator.create env cfg.requests inputName c.toSys = it at created ⊢
  obtain ⟨last, refuses⟩ := processTensorLoop_bare env refusing direct inputName tensor
    (bare.sameGroups (sameGroups_withSys c it.2)) it.1 .default 0
  rw [finishTensor_direct env direct last]
  exact ⟨last, created.trans refuses⟩

include refusing in
theorem fillTensor_bare (direct : cfg.Direct) (inputName : String) (tensor : Tensor) {c : Collector}
    (bare : c.Bare) :
    let c' := (fillTensor env cfg inputName tensor c).collector
    c'.Bare ∧ c.toSys.Logs kind c'.toSys := by
  simp only [fillTensor]
  split
  · exact processTensor_bare env refusing direct inputName tensor bare
  · exact ⟨bare, Sys.Logs.refl _⟩

include refusing in
theorem processTensorDst_bare (direct : cfg.Direct) (inputName : String) (bufferByteSize' : Nat)
    (allowedInputTypes : List (MemoryType × Int)) (kept : MemoryDesc) {c : Collector}
    (bare : c.Bare) :
    let c' := (processTensorDst env cfg inputName none bufferByteSize' allowedInputTypes kept
      c).collector
    c'.Bare ∧ c.toSys.Logs kind c'.toSys := by
  have scanned : c.toSys.Logs kind (getInputBufferIfContiguous env cfg inputName kept c.toSys).2 :=
    scanRequestsFrom_logs refusing env cfg inputName _ c.toSys 0 cfg.requests.length
  simp only [processTensorDst]
  generalize getInputBufferIfContiguous env cfg inputName kept c.toSys = scan at scanned ⊢
  split
  · exact ⟨bare, Sys.Logs.refl _⟩
  split
  · exact ⟨bare.sameGroups (sameGroups_withSys c scan.2), scanned⟩
  · have allocated := scanned.trans (allocateAllowed_logs env .gathered scan.1.desc.byteSize
      scan.2 allowedInputTypes)
    rw [toSys_withSys]
    generalize allocateAllowed env .gathered scan.1.desc.byteSize scan.2 allowedInputTypes = memory
      at allocated ⊢
    have still : ((c.withSys scan.2).withSys memory.2).Bare :=
      bare.sameGroups ((sameGroups_withSys c scan.2).trans (sameGroups_withSys _ memory.2))
    split
    · exact ⟨still, allocated⟩
    · obtain ⟨last, filled⟩ :=
        fillTensor_bare env refusing direct inputName (BackendMemory.tensor ‹_›) still
      exact ⟨last, allocated.trans filled⟩

end

end TritonBackend
