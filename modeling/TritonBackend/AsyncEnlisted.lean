import TritonBackend.GatherPlan

/-!
The main thread under the work queue, as far as the end of a run depends on it: each task
carries the block of its flush, `Finalize` reads one completion for each flush, and what it
waits for afterwards is the whole stream.
-/

namespace TritonBackend

open CopyStream

/-! What the main thread enlists while the calls go by. -/

/-- A stretch that neither adds a task nor defers a block. -/
structure Collector.Trails (c : Collector) (result : Bool × Collector) : Prop where
  streams : Streams result.1 c.toSys result.2.toSys
  flag : result.2.needSync = c.needSync
  deferred : result.2.deferredPinned = c.deferredPinned
  count : result.2.asyncTaskCount = c.asyncTaskCount
  tasks : addedTasks result.2.log = addedTasks c.log
  gets : result.2.log.countP Event.isGet = c.log.countP Event.isGet

theorem trails_makes {c : Collector} {result : Bool × Collector}
    {effects : List (Effect Block UInt8)} (makes : c.toSys.Makes effects result.2.toSys)
    (streams : Streams result.1 c.toSys result.2.toSys) (same : c.SameGroups result.2) :
    c.Trails result := by
  refine ⟨streams, ?_, ?_, ?_, makes.tasks, makes.gets⟩ <;> rw [same]

/-- Each task knows its flush by its number, and the flag covers the stream. -/
structure Collector.Enlists (c : Collector) : Prop where
  counted : c.deferredPinned.length = c.asyncTaskCount
  booked : ∀ task ∈ addedTasks c.log, c.deferredPinned[task.flush]? = some task.deferred
  finalized : ∀ deferred ∈ c.deferredPinned, deferred.finalized = true
  gets : c.log.countP Event.isGet = 0
  quiet : c.needSync = false → c.device.queue = []

theorem Collector.Enlists.trails {c : Collector} {result : Bool × Collector}
    (enlists : c.Enlists) (trails : c.Trails result) : (orSync result).Enlists := by
  refine ⟨?_, ?_, ?_, trails.gets.trans enlists.gets, ?_⟩
  · exact (congrArg List.length trails.deferred).trans (enlists.counted.trans trails.count.symm)
  · intro task member
    have before : task ∈ addedTasks c.log := trails.tasks ▸ member
    exact (congrArg (·[task.flush]?) trails.deferred).trans (enlists.booked task before)
  · intro deferred member
    exact enlists.finalized deferred (trails.deferred ▸ member)
  · intro none
    simp only [orSync, Bool.or_eq_false_iff] at none
    exact (trails.streams.quiet none.2).trans (enlists.quiet (trails.flag ▸ none.1))

section
variable {env : Env} (calls : ∀ tick api, env.outcome tick api = none)
include calls

theorem setInputTensors_trails (cfg : CollectorConfig) (inputName : String) (tensor : Tensor)
    (offset : Nat) (c : Collector) (inputs : List ContiguousBuffer) :
    c.Trails (setInputTensors env cfg inputName tensor offset false c inputs) :=
  trails_makes (setInputTensors_makes calls cfg inputName tensor offset false c inputs)
    (setInputTensors_streams env cfg inputName tensor offset false c inputs).1
    (setInputTensors_sameGroups env cfg inputName tensor offset false c inputs)

theorem flushPendingCopyKernel_trails (cfg : CollectorConfig) (c : Collector) (tensor : Tensor) :
    c.Trails (flushPendingCopyKernel env cfg c tensor) := by
  have cleared {result : Bool × Collector} (trails : c.Trails result) :
      c.Trails (result.1, result.2.clearPendingCopyKernel) :=
    ⟨trails.streams, trails.flag, trails.deferred, trails.count, trails.tasks, trails.gets⟩
  have fallback := setInputTensors_trails calls cfg "gather kernel fallback" tensor
    c.pendingCopyKernelBufferOffset c c.pendingCopyKernelInputBuffers
  simp only [flushPendingCopyKernel]
  split
  · exact ⟨Streams.refl _ _, rfl, rfl, rfl, rfl, rfl⟩
  split
  · obtain ⟨groups, tick, nextBlock, _, ⟨failed, _⟩ | ⟨launched, issued⟩⟩ :=
      launchCopyKernel_cases env c tensor
    · exact absurd (launchCopyKernel_owes calls c tensor).1 failed
    · rw [launched]
      have trails : c.Trails (true, (launchCopyKernel env c tensor).2) := by
        refine ⟨⟨?_, fun none => by cases none⟩, ?_, ?_, ?_, ?_, ?_⟩
        · rw [issued, device_issue]
          rfl
        · rw [groups]
        · rw [groups]
        · rw [groups]
        · rw [issued]
          simp [addedTasks, Event.task?]
        · rw [issued]
          simp [Event.isGet]
      exact cleared trails
  · exact cleared fallback

theorem setInputTensor_trails (cfg : CollectorConfig) (c : Collector) (inputName : String)
    (input : ContiguousBuffer) (tensor : Tensor) (offset : Nat) (memoryType : MemoryType)
    (useKernel waitBuffer : Bool) :
    c.Trails (setInputTensor env cfg c inputName input tensor offset memoryType useKernel
      waitBuffer) := by
  simp only [setInputTensor]
  split
  · exact trails_makes ((Sys.Makes.refl _).answered (failRequests_answers _ _ _))
      (Streams.idle _ (answers_actions (failRequests_answers _ _ _))) (sameGroups_withSys _ _)
  split
  · exact ⟨Streams.refl _ _, rfl, rfl, rfl, rfl, rfl⟩
  split
  · exact ⟨Streams.refl _ _, rfl, rfl, rfl, rfl, rfl⟩
  · exact trails_makes (directCopy_makes calls cfg c inputName input tensor offset waitBuffer)
      (directCopy_streams env cfg c inputName input tensor offset waitBuffer)
      (directCopy_sameGroups env cfg c inputName input tensor offset waitBuffer)

variable (accepted : ∀ tick, (env.addTask tick).code = .success)

omit calls in
include accepted in
theorem startAsyncFlush_enlists (cfg : CollectorConfig) {c : Collector} (enlists : c.Enlists)
    (memory : BackendMemory) (tensor : Tensor) :
    (startAsyncFlush env cfg c memory tensor).Enlists := by
  let task (offset : Nat) (buffers : List ContiguousBuffer) : Task := {
    flush := c.asyncTaskCount
    incompleteCount := min c.pendingPinnedInputBuffers.length cfg.workerCount
    offset, buffers
    deferred := c.deferral memory.memoryPtr tensor true
    pinnedMemoryType := memory.memoryType
    pinnedMemoryTypeId := memory.memoryTypeId }
  obtain ⟨⟨added, tasks, own⟩, actions, _⟩ := enqueueTasks_added env task
    (asyncStride cfg c.pendingPinnedInputBuffers.length) c.pendingPinnedInputBuffers.length 0
    c.pendingPinnedInputBuffers c.toSys
  have gets := enqueueTasks_gets accepted task (asyncStride cfg c.pendingPinnedInputBuffers.length)
    c.pendingPinnedInputBuffers.length 0 c.pendingPinnedInputBuffers c.toSys
  have deferred : (startAsyncFlush env cfg c memory tensor).deferredPinned =
      c.deferredPinned ++ [c.deferral memory.memoryPtr tensor true] := rfl
  constructor
  · rw [deferred, List.length_append, enlists.counted]
    rfl
  · intro queued member
    rw [deferred]
    rcases List.mem_append.mp (tasks ▸ member : queued ∈ addedTasks c.log ++ added) with before | new
    · have present := enlists.booked queued before
      exact (List.getElem?_append_left (List.getElem?_eq_some_iff.mp present).1).trans present
    · obtain ⟨offset, buffers, _, rfl⟩ := mem_laidTasks (own.subset new)
      simp only [task, ← enlists.counted]
      exact List.getElem?_concat_length
  · intro other member
    rw [deferred] at member
    rcases List.mem_append.mp member with before | new
    · exact enlists.finalized other before
    · rw [List.mem_singleton.mp new]
      rfl
  · exact gets.trans enlists.gets
  · intro none
    have device : (startAsyncFlush env cfg c memory tensor).device = c.device :=
      congrArg Device.fresh.run actions
    rw [device]
    exact enlists.quiet none

include accepted in
theorem flushPendingPinned_enlists {cfg : CollectorConfig} (async : cfg.useAsyncCpuCopy = true)
    {c : Collector} (enlists : c.Enlists) (tensor : Tensor) :
    (orSync (flushPendingPinned env cfg c tensor)).Enlists := by
  have counted (tick nextBlock : Nat) : (c.withSys { c.toSys with tick, nextBlock }).Enlists :=
    ⟨enlists.counted, enlists.booked, enlists.finalized, enlists.gets, enlists.quiet⟩
  have cleared {result : Bool × Collector} (kept : (orSync result).Enlists) :
      (orSync (result.1, result.2.clearPendingPinned)).Enlists :=
    ⟨kept.counted, kept.booked, kept.finalized, kept.gets, kept.quiet⟩
  simp only [flushPendingPinned]
  refine cleared ?_
  rcases allocatePinned_cases env c with ⟨tick, memory, _, _, allocated⟩ | ⟨tick, allocated⟩
  · simp only [allocated, async, if_true, orSync_false]
    exact startAsyncFlush_enlists accepted cfg (counted tick (c.nextBlock + 1)) memory tensor
  · simp only [allocated]
    exact (counted tick c.nextBlock).trails (setInputTensors_trails calls cfg _ tensor _ _ _)

include accepted in
theorem processChunk_enlists {cfg : CollectorConfig} (async : cfg.useAsyncCpuCopy = true)
    {c : Collector} (enlists : c.Enlists) (inputName : String) (tensor : Tensor) (offset : Nat)
    (input : ContiguousBuffer) :
    (processChunk env cfg inputName tensor c offset input).Enlists := by
  have pinned : (flushPinnedBefore env cfg c tensor offset).Enlists := by
    rw [flushPinnedBefore]
    split
    · exact flushPendingPinned_enlists calls accepted async enlists tensor
    · exact enlists
  have kernel : (flushCopyKernelBefore env cfg (flushPinnedBefore env cfg c tensor offset) tensor
      offset).Enlists := by
    rw [flushCopyKernelBefore]
    split
    · exact pinned.trails (flushPendingCopyKernel_trails calls cfg _ tensor)
    · exact pinned
  exact kernel.trails (setInputTensor_trails calls cfg _ inputName input tensor offset _ _ true)

omit calls in
theorem recordEvent_enlists (cfg : CollectorConfig) {c : Collector} (enlists : c.Enlists) :
    (c.recordEvent cfg).Enlists := by
  rw [Collector.recordEvent]
  split
  next records =>
    have made := Sys.Makes.issue c.toSys .record c.tick
    refine ⟨enlists.counted, ?_, enlists.finalized, made.gets.trans enlists.gets, fun none => ?_⟩
    · intro task member
      exact enlists.booked task (made.tasks ▸ member)
    · exact absurd (none.symm.trans (Bool.and_eq_true_iff.mp records).1) Bool.false_ne_true
  next => exact enlists

include accepted in
theorem gatherTensors_enlists {cfg : CollectorConfig} (async : cfg.useAsyncCpuCopy = true)
    (tensorCalls : List TensorCall) {c : Collector} (enlists : c.Enlists) (synced : c.Synced cfg) :
    (gatherTensors env cfg c tensorCalls).Enlists ∧
      (gatherTensors env cfg c tensorCalls).Synced cfg := by
  have chunks (inputName : String) (tensor : Tensor) (input : List ContiguousBuffer) (offset : Nat)
      {c : Collector} (enlists : c.Enlists) :
      (processChunksFrom env cfg inputName tensor c offset input).Enlists := by
    induction input generalizing c offset with
    | nil => exact enlists
    | cons first rest ih =>
        exact ih _ (processChunk_enlists calls accepted async enlists inputName tensor offset first)
  induction tensorCalls generalizing c with
  | nil => exact ⟨enlists, synced⟩
  | cons call rest ih =>
      have flushed := Collector.Enlists.trails (flushPendingPinned_enlists calls accepted async
        (chunks call.inputName call.tensor call.chunks 0 enlists) call.tensor)
        (flushPendingCopyKernel_trails calls cfg _ call.tensor)
      exact ih (recordEvent_enlists cfg flushed) (recordEvent_synced cfg flushed.quiet)

end

/-! `Finalize` of the main thread. -/

def closingEvents (cfg : CollectorConfig) : List Event :=
  if cfg.event then [.device .record, .device .awaitEvent] else [.device .awaitStream]

theorem finalizeAll_finished (env : Env) (c : Collector) (blocks : List DeferredPinned)
    (finalized : ∀ deferred ∈ blocks, deferred.finalized = true) :
    finalizeAll env c blocks = c := by
  induction blocks with
  | nil => rfl
  | cons deferred rest ih =>
      simp only [finalizeAll, finalized deferred List.mem_cons_self, if_true]
      exact ih fun other member => finalized other (List.mem_cons_of_mem _ member)

theorem getCompletions_read {env : Env} (read : ∀ tick, env.completion tick = true) (c : Collector)
    (count : Nat) :
    getCompletions env c count = { c with
      toSys := { c.toSys with
        log := c.log ++ List.replicate count .getCompletion
        tick := c.tick + count }
      needSync := c.needSync || decide (0 < count) } := by
  induction count generalizing c with
  | zero => simp [getCompletions]
  | succ count ih =>
      simp [getCompletions, ih, read, orSync, Collector.withSys, Sys.note, List.replicate_succ,
        Nat.add_comm 1, Nat.add_assoc]

/-- Waits alone: device events without an effect. -/
def Waits (events : List Event) : Prop :=
  ∀ event ∈ events, ∃ action, event = .device action ∧ action.effects = []

theorem waitDeferred_log (cfg : CollectorConfig) (c : Collector) :
    ∃ waits, Waits waits ∧ waitDeferred cfg c = { c with
      toSys := { c.toSys with log := c.log ++ waits }
      needSync := (waitDeferred cfg c).needSync } := by
  rw [waitDeferred]
  split
  · refine ⟨[.device (if cfg.event then .awaitEvent else .awaitStream)], ?_, rfl⟩
    intro event member
    rw [List.mem_singleton] at member
    exact ⟨_, member, by split <;> rfl⟩
  · exact ⟨[], by simp [Waits], by rw [List.append_nil]⟩

section
variable {env : Env} (cfg : CollectorConfig) {c : Collector}

theorem finalize_alone (enlists : c.Enlists) (synced : c.Synced cfg) (none : c.asyncTaskCount = 0) :
    let done := synchronize cfg (finalize env cfg c).2 (finalize env cfg c).1
    done.device.queue = [] ∧ ∃ waits, Waits waits ∧ done.log = c.log ++ waits := by
  have empty : c.deferredPinned = [] := List.eq_nil_of_length_eq_zero (enlists.counted.trans none)
  have stays : waitDeferred cfg c = c := by simp [waitDeferred, empty]
  have groups := sameGroups_waitBufferReady c
  have sys := toSys_waitBufferReady c
  have deferred : c.waitBufferReady.deferredPinned = [] := by rw [groups, empty]
  have count : c.waitBufferReady.asyncTaskCount = 0 := by rw [groups, none]
  have flag : c.waitBufferReady.needSync = c.needSync := by rw [groups]
  simp only [finalize, stays, deferred, finalizeAll, count, getCompletions, List.isEmpty_nil,
    Bool.not_true, Bool.false_eq_true, if_false]
  refine ⟨synchronize_settled cfg ⟨?_, ?_⟩, ?_⟩
  · rw [flag, sys]
    exact synced.settled
  · rw [flag, sys]
    exact synced.recorded
  · rw [synchronize]
    split
    · refine ⟨[.device (if cfg.event then .awaitEvent else .awaitStream)], ?_, by simp⟩
      intro event member
      rw [List.mem_singleton] at member
      exact ⟨_, member, by split <;> rfl⟩
    · exact ⟨[], by simp [Waits], by rw [sys, List.append_nil]⟩

/-- With a flush its log ends with one `Get` for each flush and a wait for the whole stream. -/
theorem finalize_closes (read : ∀ tick, env.completion tick = true) (enlists : c.Enlists)
    (some : 0 < c.asyncTaskCount) :
    ∃ waits, Waits waits ∧
      (synchronize cfg (finalize env cfg c).2 (finalize env cfg c).1).log = (c.log ++ waits) ++
        (List.replicate c.asyncTaskCount .getCompletion ++ closingEvents cfg) := by
  obtain ⟨waits, only, waited⟩ := waitDeferred_log cfg c
  have groups := sameGroups_waitBufferReady (waitDeferred cfg c)
  have sys := toSys_waitBufferReady (waitDeferred cfg c)
  simp only [finalize]
  generalize (waitDeferred cfg c).waitBufferReady = ready at groups sys ⊢
  have deferred : ready.deferredPinned = c.deferredPinned := by rw [groups, waited]
  have count : ready.asyncTaskCount = c.asyncTaskCount := by rw [groups, waited]
  have log : ready.log = c.log ++ waits := by
    rw [sys, waited]
  have left : c.deferredPinned.isEmpty = false := by
    rw [List.isEmpty_eq_false_iff, ← List.length_pos_iff, enlists.counted]
    exact some
  refine ⟨waits, only, ?_⟩
  rw [finalizeAll_finished env ready _ (by rw [deferred]; exact enlists.finalized),
    getCompletions_read read]
  simp only [count, deferred, left, Bool.not_false, if_true, some, decide_true, Bool.or_true,
    Collector.recordEvent, Bool.true_and, closingEvents]
  cases event : cfg.event <;> simp [synchronize, log, Collector.withSys, event]

end

end TritonBackend
