import TritonBackend.CollectorRun
import TritonBackend.BackendCore

/-!
The flag and the event that tell a caller what to wait for. `ProcessTensor` records the
event behind its copies; `ProcessBatchInput` sets the flag and records nothing.
-/

namespace TritonBackend

open CopyStream

/-- The step puts nothing on the stream that its result does not report, and defers a block
only if it reports a copy on the stream. -/
structure Collector.Reports (c : Collector) (result : Bool × Collector) : Prop where
  streams : Streams result.1 c.toSys result.2.toSys
  flag : result.2.needSync = c.needSync
  defers : ∃ added, result.2.deferredPinned = c.deferredPinned ++ added ∧
    (added ≠ [] → result.1 = true) ∧ ∀ deferred ∈ added, deferred.finalized = false
  alone : result.2.asyncTaskCount = c.asyncTaskCount

/-- The same, once the report has been added to the flag. -/
structure Collector.Paces (c c' : Collector) : Prop where
  tracks : c.Tracks c'
  defers : ∃ added, c'.deferredPinned = c.deferredPinned ++ added ∧
    (added ≠ [] → c'.needSync = true) ∧ ∀ deferred ∈ added, deferred.finalized = false
  alone : c'.asyncTaskCount = c.asyncTaskCount

theorem Collector.Paces.refl (c : Collector) : c.Paces c :=
  ⟨Collector.Tracks.refl c, ⟨[], by simp⟩, rfl⟩

theorem Collector.Paces.trans {c c' c'' : Collector} (first : c.Paces c') (second : c'.Paces c'') :
    c.Paces c'' := by
  obtain ⟨added, same, owed, fresh⟩ := first.defers
  obtain ⟨added', same', owed', fresh'⟩ := second.defers
  refine ⟨first.tracks.trans second.tracks, ⟨added ++ added', ?_, ?_, ?_⟩,
    second.alone.trans first.alone⟩
  · rw [same', same, List.append_assoc]
  · intro some
    by_contra none
    rw [Bool.not_eq_true] at none
    have early := (second.tracks.2 none).1
    have noneAdded : added = [] := by
      by_contra more
      exact Bool.false_ne_true (early.symm.trans (owed more))
    have noneLate : added' = [] := by
      by_contra more
      exact Bool.false_ne_true (none.symm.trans (owed' more))
    exact some (by rw [noneAdded, noneLate, List.append_nil])
  · intro deferred member
    exact (List.mem_append.mp member).elim (fresh deferred) (fresh' deferred)

theorem Collector.Reports.paces {c : Collector} {result : Bool × Collector}
    (reports : c.Reports result) : c.Paces (orSync result) := by
  obtain ⟨added, same, used, fresh⟩ := reports.defers
  refine ⟨tracks_orSync reports.streams reports.flag, ⟨added, same, ?_, fresh⟩, reports.alone⟩
  intro some
  simp [orSync, used some]

theorem Collector.Paces.hosts {c : Collector} {s : Sys} (hosts : c.toSys.Hosts s) :
    c.Paces (c.withSys s) :=
  ⟨⟨hosts.recorded, fun none => ⟨none, hosts.queue⟩⟩, ⟨[], by simp [Collector.withSys]⟩, rfl⟩

theorem reports_sameGroups {c : Collector} {result : Bool × Collector}
    (streams : Streams result.1 c.toSys result.2.toSys) (groups : c.SameGroups result.2) :
    c.Reports result := by
  refine ⟨streams, by rw [groups], ⟨[], ?_, by simp⟩, by rw [groups]⟩
  rw [groups, List.append_nil]

theorem paces_waitBufferReady (c : Collector) : c.Paces c.waitBufferReady := by
  rw [Collector.waitBufferReady]
  split
  · exact ⟨⟨rfl, fun none => ⟨none, rfl⟩⟩, ⟨[], by simp⟩, rfl⟩
  · exact Collector.Paces.refl c

/-! The steps of `ProcessTensor`. -/

section
variable (env : Env) (cfg : CollectorConfig)

theorem setInputTensor_reports (c : Collector) (inputName : String) (input : ContiguousBuffer)
    (tensor : Tensor) (offset : Nat) (memoryType : MemoryType) (useKernel waitBuffer : Bool) :
    c.Reports (setInputTensor env cfg c inputName input tensor offset memoryType useKernel
      waitBuffer) := by
  simp only [setInputTensor]
  split
  · exact reports_sameGroups (Streams.idle _ (answers_actions (failRequests_answers _ _ _)))
      (sameGroups_withSys _ _)
  split
  · exact ⟨Streams.refl _ _, rfl, ⟨[], by simp [Collector.addPendingPinned]⟩, rfl⟩
  split
  · exact ⟨Streams.refl _ _, rfl, ⟨[], by simp [Collector.addPendingCopyKernel]⟩, rfl⟩
  · exact reports_sameGroups (directCopy_streams env cfg c inputName input tensor offset waitBuffer)
      (directCopy_sameGroups env cfg c inputName input tensor offset waitBuffer)

theorem setInputTensors_reports (inputName : String) (tensor : Tensor) (offset : Nat)
    (c : Collector) (inputs : List ContiguousBuffer) :
    c.Reports (setInputTensors env cfg inputName tensor offset false c inputs) :=
  reports_sameGroups (setInputTensors_streams env cfg inputName tensor offset false c inputs).1
    (setInputTensors_sameGroups env cfg inputName tensor offset false c inputs)

theorem stagePinned_reports (c : Collector) (memory : BackendMemory) (tensor : Tensor) :
    c.Reports (stagePinned env cfg c memory tensor) := by
  have staged := setInputTensors_reports env cfg "pinned H2H" {
      buffer := memory.memoryPtr
      byteSize := c.pendingPinnedByteSize
      memoryType := .cpuPinned
      memoryTypeId := 0 } 0 c c.pendingPinnedInputBuffers
  simp only [stagePinned]
  generalize setInputTensors env cfg "pinned H2H" _ 0 false c c.pendingPinnedInputBuffers = result
    at staged ⊢
  obtain ⟨added, same, used, fresh⟩ := staged.defers
  split
  next onStream =>
    refine ⟨⟨staged.streams.recorded, fun none => absurd none (by simp)⟩, staged.flag,
      ⟨added ++ [result.2.deferral memory.memoryPtr tensor false], ?_, fun _ => rfl, ?_⟩, staged.alone⟩
    · simp [same]
    · intro deferred member
      rcases List.mem_append.mp member with before | new
      · exact fresh deferred before
      · rw [List.mem_singleton] at new
        rw [new]
        rfl
  next landed =>
    rw [Bool.not_eq_true] at landed
    obtain ⟨copied, outcome, cuda, answers, _⟩ := copyPinned_attempt env cfg result.2 memory tensor
    have groups := copyPinned_sameGroups env cfg result.2 memory tensor
    have drained : Streams (copyPinned env cfg result.2 memory tensor).1 result.2.toSys
        (copyPinned env cfg result.2 memory tensor).2.toSys := cuda ▸ outcome.streams answers
    have none : added = [] := by
      by_contra some
      exact Bool.false_ne_true (landed.symm.trans (used some))
    refine ⟨?_, by rw [groups, ← staged.flag], ⟨[], ?_, by simp⟩, by rw [groups, ← staged.alone]⟩
    · have joined := staged.streams.trans drained
      rwa [landed, Bool.false_or] at joined
    · rw [groups]
      simp only [same, none]

theorem flushPendingPinned_reports (sync : cfg.useAsyncCpuCopy = false) (c : Collector)
    (tensor : Tensor) : c.Reports (flushPendingPinned env cfg c tensor) := by
  have allocated := allocatePinned_hosts env c
  simp only [flushPendingPinned, sync]
  generalize allocatePinned env c = memory at allocated ⊢
  have waited (result : Bool × Collector) (reports : (c.withSys memory.2).Reports result) :
      c.Reports (result.1, result.2.clearPendingPinned) :=
    ⟨⟨reports.streams.recorded.trans allocated.recorded,
      fun none => (reports.streams.quiet none).trans allocated.queue⟩, reports.flag, reports.defers,
      reports.alone⟩
  cases memory.1 with
  | none => exact waited _ (setInputTensors_reports env cfg _ tensor _ _ _)
  | some buffer => exact waited _ (stagePinned_reports env cfg _ buffer tensor)

theorem copyKernelFallback_reports (c : Collector) (tensor : Tensor) :
    c.Reports (copyKernelFallback env cfg c tensor) :=
  setInputTensors_reports env cfg _ tensor _ c _

theorem flushPendingCopyKernel_reports (c : Collector) (tensor : Tensor) :
    c.Reports (flushPendingCopyKernel env cfg c tensor) := by
  have cleared (result : Bool × Collector) (reports : c.Reports result) :
      c.Reports (result.1, result.2.clearPendingCopyKernel) :=
    ⟨reports.streams, reports.flag, reports.defers, reports.alone⟩
  simp only [flushPendingCopyKernel]
  split
  · exact reports_sameGroups (Streams.refl _ _) (Collector.SameGroups.refl c)
  split
  · obtain ⟨groups, tick, nextBlock, _, ⟨failed, counts⟩ | ⟨launched, issued⟩⟩ :=
      launchCopyKernel_cases env c tensor
    · cases failure : (launchCopyKernel env c tensor).1 with
      | none => exact absurd failure failed
      | some error =>
          refine cleared _ ?_
          have fallback := copyKernelFallback_reports env cfg (launchCopyKernel env c tensor).2 tensor
          obtain ⟨added, same, used, fresh⟩ := fallback.defers
          have started := fallback.streams
          rw [counts] at started
          refine ⟨⟨started.recorded, started.quiet⟩, ?_, ⟨added, ?_, used, fresh⟩, ?_⟩
          · rw [fallback.flag, groups]
          · rw [same, groups]
          · rw [fallback.alone, groups]
    · rw [launched]
      refine cleared _ (reports_sameGroups ⟨?_, fun none => absurd none (by simp)⟩ groups)
      rw [issued, device_issue]
      rfl
  · exact cleared _ (copyKernelFallback_reports env cfg c tensor)

theorem processChunk_paces (sync : cfg.useAsyncCpuCopy = false) (inputName : String)
    (tensor : Tensor) (c : Collector) (offset : Nat) (input : ContiguousBuffer) :
    c.Paces (processChunk env cfg inputName tensor c offset input) := by
  have pinned (c : Collector) : c.Paces (flushPinnedBefore env cfg c tensor offset) := by
    rw [flushPinnedBefore]
    split
    · exact (flushPendingPinned_reports env cfg sync c tensor).paces
    · exact Collector.Paces.refl c
  have kernel (c : Collector) : c.Paces (flushCopyKernelBefore env cfg c tensor offset) := by
    rw [flushCopyKernelBefore]
    split
    · exact (flushPendingCopyKernel_reports env cfg c tensor).paces
    · exact Collector.Paces.refl c
  exact (pinned c).trans ((kernel _).trans
    (setInputTensor_reports env cfg _ inputName input tensor offset _ _ true).paces)

theorem processTensorLoop_paces (sync : cfg.useAsyncCpuCopy = false) (inputName : String)
    (tensor : Tensor) (c : Collector) (it : InputIterator) (input : ContiguousBuffer) (offset : Nat) :
    c.Paces (processTensorLoop env cfg inputName tensor c it input offset) := by
  induction c, it, input, offset using processTensorLoop.induct env cfg inputName tensor with
  | case1 c it input offset next found ih =>
      rw [processTensorLoop, if_pos found]
      have looked := Collector.Paces.hosts
        (getNextContiguousInput_hosts env cfg.requests inputName cfg.coalesceRequestInput input it
          c.toSys)
      exact looked.trans ((processChunk_paces env cfg sync inputName tensor _ offset _).trans ih)
  | case2 c it input offset next done =>
      rw [processTensorLoop, if_neg done]
      exact Collector.Paces.hosts
        (getNextContiguousInput_hosts env cfg.requests inputName cfg.coalesceRequestInput input it
          c.toSys)

end

/-! Between calls. -/

/-- The flag covers what is on the stream and the blocks that are deferred. -/
structure Collector.Owing (c : Collector) : Prop where
  quiet : c.needSync = false → c.device.queue = []
  owed : c.deferredPinned ≠ [] → c.needSync = true
  unfinished : ∀ deferred ∈ c.deferredPinned, deferred.finalized = false
  alone : c.asyncTaskCount = 0

theorem Collector.Owing.paces {c c' : Collector} (owing : c.Owing) (paces : c.Paces c') :
    c'.Owing := by
  obtain ⟨added, same, owed, fresh⟩ := paces.defers
  refine ⟨?_, ?_, ?_, paces.alone.trans owing.alone⟩
  · intro none
    obtain ⟨before, queue⟩ := paces.tracks.2 none
    exact queue.trans (owing.quiet before)
  · intro some
    by_contra none
    rw [Bool.not_eq_true] at none
    have early := (paces.tracks.2 none).1
    have before : c.deferredPinned = [] := by
      by_contra more
      exact Bool.false_ne_true (early.symm.trans (owing.owed more))
    have later : added = [] := by
      by_contra more
      exact Bool.false_ne_true (none.symm.trans (owed more))
    exact some (by rw [same, before, later, List.append_nil])
  · intro deferred member
    rw [same] at member
    exact (List.mem_append.mp member).elim (owing.unfinished deferred) (fresh deferred)

theorem owing_create {s : Sys} (quiet : s.device.queue = []) (bufferReadyEvent : Bool) :
    (Collector.create s bufferReadyEvent).Owing :=
  ⟨fun _ => quiet, fun some => absurd rfl some, by simp [Collector.create], rfl⟩

def CollectorCall.finalizes : CollectorCall → Bool
  | .finalize => true
  | _ => false

section
variable (env : Env) (cfg : CollectorConfig)

theorem recordEvent_owing {c : Collector} (owing : c.Owing) : (c.recordEvent cfg).Owing := by
  rw [Collector.recordEvent]
  split
  next records =>
    refine ⟨?_, owing.owed, owing.unfinished, owing.alone⟩
    intro none
    exact absurd (none.symm.trans (Bool.and_eq_true_iff.mp records).1) Bool.false_ne_true
  next => exact owing

theorem processTensor_recorded (sync : cfg.useAsyncCpuCopy = false) (inputName : String)
    (tensor : Tensor) {c : Collector} (owing : c.Owing) :
    ∃ flushed : Collector, flushed.Owing ∧
      processTensor env cfg inputName tensor c = flushed.recordEvent cfg := by
  have looked := Collector.Paces.hosts
    (lookupRequest_hosts env cfg.requests inputName {
      currInput := none
      currRequestIdx := 0
      currBufferIdx := 0
      currBufferCnt := 0
      reachEnd := false } c.toSys)
  have gathered := looked.trans (processTensorLoop_paces env cfg sync inputName tensor _
    (InputIterator.create env cfg.requests inputName c.toSys).1 .default 0)
  exact ⟨_, owing.paces (gathered.trans
    ((flushPendingPinned_reports env cfg sync _ tensor).paces.trans
      (flushPendingCopyKernel_reports env cfg _ tensor).paces)), rfl⟩

theorem processTensor_owing (sync : cfg.useAsyncCpuCopy = false) (inputName : String)
    (tensor : Tensor) {c : Collector} (owing : c.Owing) :
    (processTensor env cfg inputName tensor c).Owing := by
  obtain ⟨flushed, still, recorded⟩ := processTensor_recorded env cfg sync inputName tensor owing
  rw [recorded]
  exact recordEvent_owing cfg still

theorem fillTensor_owing (sync : cfg.useAsyncCpuCopy = false) (inputName : String)
    (tensor : Tensor) {c : Collector} (owing : c.Owing) :
    (fillTensor env cfg inputName tensor c).collector.Owing := by
  simp only [fillTensor]
  split
  · exact processTensor_owing env cfg sync inputName tensor owing
  · exact owing

theorem processTensorDst_owing (sync : cfg.useAsyncCpuCopy = false) (inputName : String)
    (buffer : Option Address) (bufferByteSize : Nat) (allowed : List (MemoryType × Int))
    (kept : MemoryDesc) {c : Collector} (owing : c.Owing) :
    (processTensorDst env cfg inputName buffer bufferByteSize allowed kept c).collector.Owing := by
  cases buffer with
  | none =>
      simp only [processTensorDst]
      split
      · exact owing
      have scanned : c.Paces (c.withSys (getInputBufferIfContiguous env cfg inputName kept c.toSys).2) :=
        Collector.Paces.hosts (scanRequestsFrom_hosts env cfg inputName _ c.toSys 0 _)
      generalize getInputBufferIfContiguous env cfg inputName kept c.toSys = scan at scanned ⊢
      split
      · exact owing.paces scanned
      have allocated := scanned.trans (Collector.Paces.hosts (c := c.withSys scan.2)
        (allocateAllowed_hosts env .gathered scan.1.desc.byteSize scan.2 allowed))
      split
      · exact owing.paces allocated
      · exact fillTensor_owing env cfg sync inputName _ (owing.paces allocated)
  | some buffer =>
      simp only [processTensorDst]
      split
      · exact fillTensor_owing env cfg sync inputName _ owing
      · exact owing

theorem fillBatchTensor_paces (batchInput : BatchInput) (tensor : Tensor) (c : Collector) :
    c.Paces (fillBatchTensor env cfg batchInput tensor c).collector := by
  have hosted : c.toSys.Hosts (batchInputHost env tensor c.toSys).2 :=
    createBackendMemory_hosts env _ _ _ _ _
  simp only [fillBatchTensor]
  split
  · exact Collector.Paces.hosts (fillBatchInput_hosts env cfg batchInput _ _ _)
  split
  · exact Collector.Paces.hosts hosted
  next memory found =>
    have filled := hosted.trans
      (fillBatchInput_hosts env cfg batchInput memory.memoryPtr tensor.byteSize _)
    generalize fillBatchInput env cfg batchInput memory.memoryPtr tensor.byteSize
      (batchInputHost env tensor c.toSys).2 = fill at filled ⊢
    split
    · exact Collector.Paces.hosts filled
    split
    · exact Collector.Paces.hosts filled
    have outcome := copyBuffer_outcome env fill.2 "batch input buffer" memory.memoryType
      memory.memoryTypeId tensor.memoryType tensor.memoryTypeId tensor.byteSize memory.memoryPtr
      tensor.buffer cfg.copyOnStream
    generalize copyBuffer env fill.2 _ _ _ _ _ _ _ _ _ = copied at outcome ⊢
    have streams := outcome.streams (Sys.Answers.refl _)
    split
    next error failed =>
      exact Collector.Paces.hosts ⟨filled.reaches.trans outcome.reaches,
        (streams.quiet (outcome.unused failed)).trans filled.queue, streams.recorded.trans filled.recorded⟩
    · refine Collector.Reports.paces (c := c)
        ⟨⟨streams.recorded.trans filled.recorded, fun none => ?_⟩, rfl, ⟨[], by simp [Collector.withSys]⟩,
          rfl⟩
      exact (streams.quiet none).trans filled.queue

theorem processBatchInput_paces (batchInput : BatchInput) (buffer : Option Address)
    (bufferByteSize : Nat) (allowed : List (MemoryType × Int)) (kept : Tensor) (c : Collector) :
    c.Paces
      (processBatchInput env cfg batchInput buffer bufferByteSize allowed kept c).collector := by
  have waited := paces_waitBufferReady c
  simp only [processBatchInput]
  generalize c.waitBufferReady = ready at waited ⊢
  cases buffer with
  | none =>
      simp only
      split
      · exact waited
      have shaped := waited.trans
        (Collector.Paces.hosts (batchInputShape_hosts env cfg batchInput ready.toSys))
      split
      · exact shaped
      have allocated (byteSize : Nat) := shaped.trans (Collector.Paces.hosts
        (c := ready.withSys (batchInputShape env cfg batchInput ready.toSys).2)
        (allocateAllowed_hosts env .gathered byteSize _ allowed))
      split
      · exact allocated _
      · exact (allocated _).trans (fillBatchTensor_paces env cfg batchInput _ _)
  | some buffer =>
      simp only
      split
      · exact waited.trans (fillBatchTensor_paces env cfg batchInput _ _)
      · exact waited

theorem call_owing (sync : cfg.useAsyncCpuCopy = false) {call : CollectorCall}
    (gathers : call.finalizes = false) {c : Collector} (owing : c.Owing) :
    (call.run env cfg c).Owing := by
  cases call with
  | processTensor inputName tensor => exact processTensor_owing env cfg sync inputName tensor owing
  | processTensorDst inputName buffer bufferByteSize allowed kept =>
      exact processTensorDst_owing env cfg sync inputName buffer bufferByteSize allowed kept owing
  | batchInputShape batchInput =>
      exact owing.paces (Collector.Paces.hosts (batchInputShape_hosts env cfg batchInput c.toSys))
  | processBatchInput batchInput buffer bufferByteSize allowed kept =>
      exact owing.paces
        (processBatchInput_paces env cfg batchInput buffer bufferByteSize allowed kept c)
  | finalize => cases gathers

def Collector.runCalls (c : Collector) (calls : List CollectorCall) : Collector :=
  calls.foldl (CollectorCall.run env cfg) c

theorem runCalls_owing (sync : cfg.useAsyncCpuCopy = false) {calls : List CollectorCall}
    (gathering : ∀ call ∈ calls, call.finalizes = false) {c : Collector} (owing : c.Owing) :
    (c.runCalls env cfg calls).Owing := by
  induction calls generalizing c with
  | nil => exact owing
  | cons call rest ih =>
      exact ih (fun other member => gathering other (List.mem_cons_of_mem _ member))
        (call_owing env cfg sync (gathering call List.mem_cons_self) owing)

end

/-! `Finalize`. -/

def DeferredPinned.onDevice (deferred : DeferredPinned) : Bool :=
  deferred.tensorMemoryType = .gpu ∧
    ¬ (deferred.pinnedMemorySize > 0 ∧ isNull deferred.pinnedMemory = true) ∧
    ¬ (deferred.pinnedMemorySize > 0 ∧
      isNull (deferred.tensorBuffer.advance deferred.tensorBufferOffset) = true)

/-- One of the deferred copies is accepted by the CUDA runtime, `tick` calls having been made
before. -/
def drainsOnStream (env : Env) (tick : Nat) : List DeferredPinned → Bool
  | [] => false
  | deferred :: rest =>
      if deferred.onDevice then
        (env.outcome tick .memcpyAsync).isNone || drainsOnStream env (tick + 1) rest
      else drainsOnStream env tick rest

section
variable (env : Env) (cfg : CollectorConfig)

theorem finalizeDeferred_stream (s : Sys) (deferred : DeferredPinned) :
    let result := finalizeDeferred env s deferred
    Streams result.1 s result.2 ∧
      result.1 = (deferred.onDevice && (env.outcome s.tick .memcpyAsync).isNone) ∧
      result.2.tick = s.tick + if deferred.onDevice then 1 else 0 := by
  obtain ⟨copied, outcome, used, answers, _⟩ := finalizeDeferred_attempt env s deferred
  refine ⟨used ▸ outcome.streams answers, ?_⟩
  have tick (s : Sys) (error : Option TritonError) (inputs : List ContiguousBuffer) :
      (failAllRequests s error inputs).tick = s.tick :=
    answers_tick (failAllRequests_answers s error inputs)
  by_cases source : deferred.pinnedMemorySize > 0 ∧ isNull deferred.pinnedMemory = true
  · have device : deferred.onDevice = false := by simp [DeferredPinned.onDevice, source]
    simp only [finalizeDeferred, copyBuffer, errorNew, device]
    rw [if_pos source]
    simp [tick, Sys.note]
  by_cases target : deferred.pinnedMemorySize > 0 ∧
      isNull (deferred.tensorBuffer.advance deferred.tensorBufferOffset) = true
  · have device : deferred.onDevice = false := by simp [DeferredPinned.onDevice, target]
    simp only [finalizeDeferred, copyBuffer, errorNew, device]
    rw [if_neg source, if_pos target]
    simp [tick, Sys.note]
  have device : deferred.onDevice = decide (deferred.tensorMemoryType = .gpu) := by
    simp only [DeferredPinned.onDevice, source, target, not_false_eq_true, and_true]
  simp only [finalizeDeferred, copyBuffer, errorNew, call_eq, device]
  rw [if_neg source, if_neg target]
  cases deferred.tensorMemoryType with
  | cpu => simp [Sys.issue, Sys.note]
  | cpuPinned => simp [Sys.issue, Sys.note]
  | gpu =>
      cases failure : env.outcome s.tick .memcpyAsync with
      | none => simp [Sys.issue, Sys.note, failure]
      | some error => simp [Sys.note, failure, tick]

theorem finalizeAll_stream {c : Collector} (blocks : List DeferredPinned)
    (unfinished : ∀ deferred ∈ blocks, deferred.finalized = false) :
    let c' := finalizeAll env c blocks
    c'.device.recorded = c.device.recorded ∧
      (drainsOnStream env c.tick blocks = false → c'.device.queue = c.device.queue) ∧
      c' = { c with
        toSys := c'.toSys
        needSync := c.needSync || drainsOnStream env c.tick blocks } := by
  induction blocks generalizing c with
  | nil => exact ⟨rfl, fun _ => rfl, by simp [finalizeAll, drainsOnStream]⟩
  | cons deferred rest ih =>
      obtain ⟨streams, used, ticks⟩ := finalizeDeferred_stream env c.toSys deferred
      simp only [finalizeAll, unfinished deferred List.mem_cons_self, Bool.false_eq_true, if_false]
      generalize finalizeDeferred env c.toSys deferred = result at streams used ticks ⊢
      obtain ⟨recorded, queue, fields⟩ := ih (c := orSync (result.1, c.withSys result.2))
        (fun block member => unfinished block (List.mem_cons_of_mem _ member))
      have now : (orSync (result.1, c.withSys result.2)).tick = result.2.tick := rfl
      rw [now, ticks] at queue fields
      have split : drainsOnStream env c.tick (deferred :: rest) =
          (result.1 || drainsOnStream env (c.tick + if deferred.onDevice then 1 else 0) rest) := by
        cases device : deferred.onDevice <;> simp [drainsOnStream, used, device]
      rw [split]
      refine ⟨recorded.trans streams.recorded, ?_, ?_⟩
      · intro none
        rw [Bool.or_eq_false_iff] at none
        exact (queue none.2).trans (streams.quiet none.1)
      · rw [fields]
        simp [orSync, Collector.withSys, Bool.or_assoc]

def Sys.Settled (s : Sys) : Prop := s.device.queue = []

/-- What the result of `Finalize` promises: without a synchronization everything has taken
effect, and with one everything takes effect at it. -/
def Synchronized (finalized : Bool × Collector) : Prop :=
  (finalized.1 = false → finalized.2.toSys.Settled) ∧
    (finalized.1 = true →
      (finalized.2.toSys.issue (if cfg.event then .awaitEvent else .awaitStream)).Settled)

theorem await_settled (s : Sys) :
    (s.issue (if cfg.event then .awaitEvent else .awaitStream)).Settled ↔
      cfg.event = false ∨ s.device.queue.length ≤ s.device.recorded := by
  rw [Sys.Settled, device_issue]
  cases cfg.event with
  | false => simp [Device.step]
  | true => simp [Device.step]

theorem synchronized_iff_await {c : Collector} (quiet : c.needSync = false → c.device.queue = []) :
    Synchronized cfg (c.needSync, c) ↔
      cfg.event = false ∨ c.device.queue.length ≤ c.device.recorded := by
  have awaited := await_settled cfg c.toSys
  cases sync : c.needSync with
  | false =>
      have none := quiet sync
      refine ⟨fun _ => Or.inr (by simp [none]), fun _ => ⟨fun _ => none, fun again => ?_⟩⟩
      cases again
  | true =>
      rw [← awaited]
      exact ⟨fun promised => promised.2 rfl,
        fun settled => ⟨fun never => absurd never.symm Bool.false_ne_true, fun _ => settled⟩⟩

/-- With nothing deferred `Finalize` leaves the stream as it is. -/
theorem finalize_synchronized_idle {c : Collector} (owing : c.Owing) (none : c.deferredPinned = []) :
    Synchronized cfg (finalize env cfg c) ↔
      cfg.event = false ∨ c.device.queue.length ≤ c.device.recorded := by
  have waited : waitDeferred cfg c = c := by simp [waitDeferred, none]
  have groups := sameGroups_waitBufferReady c
  have same := toSys_waitBufferReady c
  simp only [finalize, waited]
  generalize c.waitBufferReady = ready at groups same ⊢
  have blocks : ready.deferredPinned = [] := by rw [groups, none]
  have alone : ready.asyncTaskCount = 0 := by rw [groups, owing.alone]
  have flag : ready.needSync = c.needSync := by rw [groups]
  have idle : (!ready.deferredPinned.isEmpty) = false := by simp [blocks]
  simp only [blocks, finalizeAll, alone, getCompletions, List.isEmpty_nil, Bool.not_true,
    Bool.false_eq_true, if_false]
  rw [synchronized_iff_await cfg (by rw [flag, same]; exact owing.quiet), same]

/-- Else the stream is emptied first, so only copies out of deferred blocks can be on it. -/
theorem finalize_synchronized_drained {c : Collector} (owing : c.Owing)
    (some : c.deferredPinned ≠ []) :
    Synchronized cfg (finalize env cfg c) ↔
      cfg.event = false ∨ c.device.queue.length ≤ c.device.recorded ∨
        drainsOnStream env c.tick c.deferredPinned = true := by
  have sync := owing.owed some
  have waited : waitDeferred cfg c = { c with
      toSys := c.toSys.issue (if cfg.event then .awaitEvent else .awaitStream)
      needSync := false } := by
    simp [waitDeferred, some, sync]
  have drained := await_settled cfg c.toSys
  have tick : (c.toSys.issue (if cfg.event then .awaitEvent else .awaitStream)).tick = c.tick := rfl
  simp only [finalize, waited]
  generalize c.toSys.issue (if cfg.event then .awaitEvent else .awaitStream) = s at drained tick ⊢
  have groups := sameGroups_waitBufferReady { c with toSys := s, needSync := false }
  have same := toSys_waitBufferReady { c with toSys := s, needSync := false }
  generalize Collector.waitBufferReady { c with toSys := s, needSync := false } = ready
    at groups same ⊢
  have blocks : ready.deferredPinned = c.deferredPinned := by rw [groups]
  have alone : ready.asyncTaskCount = 0 := by rw [groups, ← owing.alone]
  have flag : ready.needSync = false := by rw [groups]
  obtain ⟨_, queue, fields⟩ := finalizeAll_stream env (c := ready) c.deferredPinned owing.unfinished
  rw [flag, Bool.false_or] at fields
  have now : ready.tick = c.tick := (congrArg Sys.tick same).trans tick
  rw [now] at queue fields
  rw [blocks]
  generalize finalizeAll env ready c.deferredPinned = after at queue fields ⊢
  have count : after.asyncTaskCount = 0 := by rw [fields, ← alone]
  have more : (!after.deferredPinned.isEmpty) = true := by
    rw [fields]
    simp [blocks, some]
  have synced : after.needSync = drainsOnStream env c.tick c.deferredPinned := by rw [fields]
  simp only [count, getCompletions, more, if_true]
  cases used : drainsOnStream env c.tick c.deferredPinned with
  | true =>
      rw [used] at synced
      have recorded := recordEvent_synced cfg (c := after) (fun none => absurd
        (none.symm.trans synced) Bool.false_ne_true)
      have kept : (after.recordEvent cfg).needSync = true := by
        rw [sameGroups_recordEvent cfg after, synced]
      refine iff_of_true ?_ (Or.inr (Or.inr rfl))
      refine (synchronized_iff_await cfg recorded.settled).mpr ?_
      cases event : cfg.event with
      | false => exact Or.inl rfl
      | true => exact Or.inr (Nat.le_of_eq (recorded.recorded kept event).symm)
  | false =>
      rw [used] at synced
      have still : after.recordEvent cfg = after := by simp [Collector.recordEvent, synced]
      have left : after.device.queue = s.device.queue := by
        rw [queue used, same]
      rw [still, Synchronized, synced]
      simp only [Sys.Settled, left, forall_const, Bool.false_eq_true, false_implies, and_true,
        or_false]
      exact drained

/-- From the state before it, `Finalize` keeps its promise exactly when no event is used, the
event was recorded behind everything on the stream, or a deferred copy goes on the stream, behind
which it is recorded again. -/
theorem finalize_synchronized_iff {c : Collector} (owing : c.Owing) :
    Synchronized cfg (finalize env cfg c) ↔
      cfg.event = false ∨ c.device.queue.length ≤ c.device.recorded ∨
        drainsOnStream env c.tick c.deferredPinned = true := by
  by_cases none : c.deferredPinned = []
  · rw [finalize_synchronized_idle env cfg owing none, none]
    simp [drainsOnStream]
  · exact finalize_synchronized_drained env cfg owing none

end

/-! The calls before it. -/

section
variable (env : Env) (cfg : CollectorConfig)

/-- The call puts the values of a batch input into a GPU tensor. -/
def CollectorCall.copiesBatchInput (c : Collector) : CollectorCall → Bool
  | .processBatchInput batchInput buffer bufferByteSize allowedInputTypes kept =>
      let filled := TritonBackend.processBatchInput env cfg batchInput buffer bufferByteSize
        allowedInputTypes kept c
      batchInput.kind ≠ .batchMaxElementCountAsShape ∧ filled.error.isNone ∧
        filled.dst.memoryType = .gpu
  | _ => false

def usesInPlace (inputName : String) (allowedInputTypes : List (MemoryType × Int))
    (kept : MemoryDesc) (s : Sys) : Bool :=
  let scanned := (getInputBufferIfContiguous env cfg inputName kept s).1
  scanned.contiguous && scanned.desc.byteSize ≠ 0 &&
    allowedInputTypes.contains (scanned.desc.memoryType, scanned.desc.memoryTypeId)

/-- The call gathers a tensor, behind which `ProcessTensor` records the event. -/
def CollectorCall.gathersTensor (c : Collector) : CollectorCall → Bool
  | .processTensor _ _ => true
  | .processTensorDst inputName buffer bufferByteSize allowedInputTypes kept =>
      let filled := TritonBackend.processTensorDst env cfg inputName buffer bufferByteSize
        allowedInputTypes kept c
      filled.error.isNone && filled.dst.byteSize ≠ 0 &&
        !(buffer.isNone && usesInPlace env cfg inputName allowedInputTypes kept c.toSys)
  | _ => false

/-- A batch input has been copied to a GPU tensor and no tensor has been gathered since;
`left` tells whether it was so before the calls. -/
def leavesBatchInput (c : Collector) (left : Bool) : List CollectorCall → Bool
  | [] => left
  | call :: rest =>
      leavesBatchInput (call.run env cfg c)
        (!call.gathersTensor env cfg c && (left || call.copiesBatchInput env cfg c)) rest

/-- The event was recorded behind everything that is on the stream. -/
def Collector.Covered (c : Collector) : Prop := c.device.queue.length ≤ c.device.recorded

theorem covered_hosts {c : Collector} {s : Sys} (hosts : c.toSys.Hosts s) :
    (c.withSys s).Covered ↔ c.Covered := by
  simp only [Collector.Covered, toSys_withSys, hosts.queue, hosts.recorded]

theorem processTensor_covered (event : cfg.event = true) (sync : cfg.useAsyncCpuCopy = false)
    (inputName : String) (tensor : Tensor) {c : Collector} (owing : c.Owing) :
    (processTensor env cfg inputName tensor c).Covered := by
  obtain ⟨flushed, still, recorded⟩ := processTensor_recorded env cfg sync inputName tensor owing
  have synced := recordEvent_synced cfg still.quiet
  rw [recorded, Collector.Covered]
  cases waits : (flushed.recordEvent cfg).needSync with
  | false => simp [synced.settled waits]
  | true => exact Nat.le_of_eq (synced.recorded waits event).symm

theorem fillTensor_covered (event : cfg.event = true) (sync : cfg.useAsyncCpuCopy = false)
    (inputName : String) (tensor : Tensor) {c : Collector} (owing : c.Owing) :
    (fillTensor env cfg inputName tensor c).collector.Covered ↔
      tensor.byteSize ≠ 0 ∨ c.Covered := by
  simp only [fillTensor]
  split
  next some => simp [some, processTensor_covered env cfg event sync inputName tensor owing]
  next none => simp [none]

theorem processTensorDst_covered (event : cfg.event = true) (sync : cfg.useAsyncCpuCopy = false)
    (inputName : String) (buffer : Option Address) (bufferByteSize : Nat)
    (allowed : List (MemoryType × Int)) (kept : MemoryDesc) {c : Collector} (owing : c.Owing) :
    (processTensorDst env cfg inputName buffer bufferByteSize allowed kept c).collector.Covered ↔
      (CollectorCall.processTensorDst inputName buffer bufferByteSize allowed kept).gathersTensor
        env cfg c = true ∨ c.Covered := by
  simp only [CollectorCall.gathersTensor]
  cases buffer with
  | none =>
      have scanned : c.toSys.Hosts (getInputBufferIfContiguous env cfg inputName kept c.toSys).2 :=
        scanRequestsFrom_hosts env cfg inputName _ c.toSys 0 _
      simp only [processTensorDst, usesInPlace]
      generalize getInputBufferIfContiguous env cfg inputName kept c.toSys = scan at scanned ⊢
      split
      · simp [errorNew]
      split
      next inPlace => simp only [inPlace, covered_hosts scanned, Option.isNone_none, Bool.and_self,
        Bool.not_true, Bool.and_false, Bool.false_eq_true, false_or]
      next elsewhere =>
        rw [Bool.not_eq_true] at elsewhere
        have allocated := allocateAllowed_hosts env .gathered scan.1.desc.byteSize
          (c.withSys scan.2).toSys allowed
        have ready := (owing.paces (Collector.Paces.hosts scanned)).paces
          (Collector.Paces.hosts allocated)
        have kept := (covered_hosts allocated).trans (covered_hosts scanned)
        split
        · simp only [errorNew, kept]
          simp
        · rw [fillTensor_covered env cfg event sync inputName _ ready, elsewhere, kept]
          simp [fillTensor]
  | some buffer =>
      simp only [processTensorDst]
      split
      · rw [fillTensor_covered env cfg event sync inputName _ owing]
        simp [fillTensor]
      · simp [errorNew]

theorem covered_streamed {c : Collector} {s : Sys} {transfer : Copy Block} {copied : CopyResult}
    (outcome : CopyOutcome s transfer copied) (used : copied.cudaUsed = true) :
    ¬ (orSync (copied.cudaUsed, c.withSys copied.sys)).Covered := by
  have within : s.device.recorded ≤ s.device.queue.length := recorded_le _
  cases outcome with
  | host => cases used
  | failed tick error => cases used
  | stream tick =>
      have device : (Sys.issue { s with tick } (.stream [transfer])).device =
          s.device.step (.stream [transfer]) := device_issue { s with tick } (.stream [transfer])
      simp only [Collector.Covered, orSync, toSys_withSys, device, Device.step, List.length_append,
        List.length_singleton]
      omega

theorem fillBatchTensor_covered (batchInput : BatchInput) (tensor : Tensor) (c : Collector) :
    let filled := fillBatchTensor env cfg batchInput tensor c
    filled.collector.Covered ↔ c.Covered ∧ ¬ (batchInput.kind ≠ .batchMaxElementCountAsShape ∧
      filled.error.isNone ∧ filled.dst.memoryType = .gpu) := by
  have hosted : c.toSys.Hosts (batchInputHost env tensor c.toSys).2 :=
    createBackendMemory_hosts env _ _ _ _ _
  simp only [fillBatchTensor]
  split
  next host =>
    rw [covered_hosts (fillBatchInput_hosts env cfg batchInput _ _ _)]
    simp [host]
  next device =>
    split
    · rw [covered_hosts hosted]
      simp
    next memory found =>
      have filled := hosted.trans
        (fillBatchInput_hosts env cfg batchInput memory.memoryPtr tensor.byteSize _)
      generalize fillBatchInput env cfg batchInput memory.memoryPtr tensor.byteSize
        (batchInputHost env tensor c.toSys).2 = fill at filled ⊢
      split
      · rw [covered_hosts filled]
        simp
      split
      next shape =>
        rw [covered_hosts filled]
        simp [shape]
      next values =>
        have outcome := copyBuffer_outcome env fill.2 "batch input buffer" memory.memoryType
          memory.memoryTypeId tensor.memoryType tensor.memoryTypeId tensor.byteSize memory.memoryPtr
          tensor.buffer cfg.copyOnStream
        generalize same : copyBuffer env fill.2 _ _ _ _ _ _ _ _ _ = copied at outcome ⊢
        split
        next error failed =>
          have streams := outcome.streams (Sys.Answers.refl _)
          have quiet : fill.2.Hosts copied.sys :=
            ⟨outcome.reaches, streams.quiet (outcome.unused failed), streams.recorded⟩
          rw [covered_hosts (filled.trans quiet)]
          simp
        next landed =>
          have used : copied.cudaUsed = true := by
            by_contra unused
            rw [Bool.not_eq_true, ← same] at unused
            rw [← same] at landed
            exact ((copyBuffer_cudaUsed landed).mp unused).2.1 (not_not.mp device)
          refine iff_of_false (covered_streamed outcome used) fun both => both.2 ?_
          exact ⟨values, rfl, not_not.mp device⟩

theorem processBatchInput_covered (batchInput : BatchInput) (buffer : Option Address)
    (bufferByteSize : Nat) (allowed : List (MemoryType × Int)) (kept : Tensor) (c : Collector) :
    let filled := processBatchInput env cfg batchInput buffer bufferByteSize allowed kept c
    filled.collector.Covered ↔ c.Covered ∧ ¬ (batchInput.kind ≠ .batchMaxElementCountAsShape ∧
      filled.error.isNone ∧ filled.dst.memoryType = .gpu) := by
  have waited : c.waitBufferReady.Covered ↔ c.Covered := by
    rw [Collector.Covered, Collector.Covered, toSys_waitBufferReady]
  rw [← waited]
  simp only [processBatchInput]
  generalize c.waitBufferReady = ready
  cases buffer with
  | none =>
      simp only
      split
      · simp [errorNew]
      have shaped := batchInputShape_hosts env cfg batchInput ready.toSys
      split
      · simp [covered_hosts shaped]
      have allocated (byteSize : Nat) : (ready.withSys (allocateAllowed env .gathered byteSize
          (batchInputShape env cfg batchInput ready.toSys).2 allowed).2).Covered ↔ ready.Covered :=
        covered_hosts (shaped.trans (allocateAllowed_hosts env .gathered byteSize _ allowed))
      split
      · simp only [errorNew, allocated]
        simp
      · refine (fillBatchTensor_covered env cfg batchInput _ _).trans ?_
        rw [allocated]
  | some buffer =>
      simp only
      split
      · exact fillBatchTensor_covered env cfg batchInput _ _
      · simp [errorNew]

theorem call_covered (event : cfg.event = true) (sync : cfg.useAsyncCpuCopy = false)
    {call : CollectorCall} (gathers : call.finalizes = false) {c : Collector} (owing : c.Owing) :
    (call.run env cfg c).Covered ↔ call.gathersTensor env cfg c = true ∨
      (c.Covered ∧ call.copiesBatchInput env cfg c = false) := by
  cases call with
  | processTensor inputName tensor =>
      simp [CollectorCall.gathersTensor, CollectorCall.run,
        processTensor_covered env cfg event sync inputName tensor owing]
  | processTensorDst inputName buffer bufferByteSize allowed kept =>
      simp [CollectorCall.copiesBatchInput, CollectorCall.run,
        processTensorDst_covered env cfg event sync inputName buffer bufferByteSize allowed kept owing]
  | batchInputShape batchInput =>
      simp [CollectorCall.copiesBatchInput, CollectorCall.gathersTensor, CollectorCall.run,
        covered_hosts (batchInputShape_hosts env cfg batchInput c.toSys)]
  | processBatchInput batchInput buffer bufferByteSize allowed kept =>
      simp only [CollectorCall.copiesBatchInput, CollectorCall.gathersTensor, CollectorCall.run,
        Bool.false_eq_true, false_or, decide_eq_false_iff_not]
      exact processBatchInput_covered env cfg batchInput buffer bufferByteSize allowed kept c
  | finalize => cases gathers

theorem runCalls_covered (event : cfg.event = true) (sync : cfg.useAsyncCpuCopy = false)
    {calls : List CollectorCall} (gathering : ∀ call ∈ calls, call.finalizes = false)
    {c : Collector} (owing : c.Owing) {left : Bool} (covered : c.Covered ↔ left = false) :
    (c.runCalls env cfg calls).Covered ↔ leavesBatchInput env cfg c left calls = false := by
  induction calls generalizing c left with
  | nil => exact covered
  | cons call rest ih =>
      have first := gathering call List.mem_cons_self
      refine ih (fun other member => gathering other (List.mem_cons_of_mem _ member))
        (call_owing env cfg sync first owing) ?_
      rw [call_covered env cfg event sync first owing, covered]
      cases call.gathersTensor env cfg c <;> simp

/-- After any calls that gather, `Finalize` keeps its promise exactly when no event is used, no
batch input is left on the stream behind the last tensor, or a deferred block is drained there. -/
theorem synchronized_iff (sync : cfg.useAsyncCpuCopy = false) {s : Sys} (quiet : s.Settled)
    (bufferReadyEvent : Bool) {calls : List CollectorCall}
    (gathering : ∀ call ∈ calls, call.finalizes = false) :
    let c := Collector.create s bufferReadyEvent
    let gathered := c.runCalls env cfg calls
    Synchronized cfg (finalize env cfg gathered) ↔
      cfg.event = false ∨ leavesBatchInput env cfg c false calls = false ∨
        drainsOnStream env gathered.tick gathered.deferredPinned = true := by
  intro c gathered
  have owing := owing_create quiet bufferReadyEvent
  rw [finalize_synchronized_iff env cfg (runCalls_owing env cfg sync gathering owing)]
  cases event : cfg.event with
  | false => simp
  | true =>
      have settled : c.device.queue = [] := quiet
      have covered : c.Covered ↔ false = false := by simp [Collector.Covered, settled]
      have run := runCalls_covered env cfg event sync gathering owing covered
      rw [Collector.Covered] at run
      rw [run]

end

/-! The element count of one request, put into a GPU tensor. -/

def countConfig : CollectorConfig :=
  { CollectorConfig.plain [{
      id := ""
      inputs := [{ name := "INPUT", shape := [1], buffers := [] }]
      outputs := [] }] with event := true }

def elementCount : BatchInput := {
  kind := .batchElementCount
  targetNames := ["COUNT"]
  dataType := .int32
  sourceInputs := ["INPUT"] }

def countCall : CollectorCall :=
  .processBatchInput elementCount (some { block := .tensor 0, offset := 0 }) 4 [(.gpu, 0)] {
    buffer := nullAddress
    byteSize := 0
    memoryType := .cpu
    memoryTypeId := 0 }

def countGathered (calls : List CollectorCall) : Bool × Collector :=
  finalize (Env.successful gatherSegments) countConfig
    ((Collector.create (Sys.fresh 1) false).runCalls (Env.successful gatherSegments)
      countConfig calls)

theorem synchronized_count :
    Synchronized countConfig (countGathered [countCall, .processTensor "INPUT" {
      buffer := { block := .tensor 1, offset := 0 }
      byteSize := 0
      memoryType := .cpu
      memoryTypeId := 0 }]) :=
  (synchronized_iff (Env.successful gatherSegments) countConfig rfl
    (show (Sys.fresh 1).Settled from rfl) false (by decide)).mpr (Or.inr (Or.inl rfl))

theorem not_synchronized_count : ¬ Synchronized countConfig (countGathered [countCall]) := by
  intro promised
  have awaited := promised.2 (by decide +kernel)
  exact absurd (congrArg List.length awaited) (by decide +kernel)

end TritonBackend
