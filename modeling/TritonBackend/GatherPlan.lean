import TritonBackend.AsyncStaging

/-!
What a collector has issued and still owes, whichever way it stages. While every call succeeds
it depends on the chunks and the groups alone: two collectors that differ in the number of
workers, in the event or in the copies on the stream owe the same copies after the same calls.
-/

namespace TritonBackend

open CopyStream

/-! The copies of a chunk. -/

/-- What `CopyBuffer` issues when no call fails: nothing when it refuses the address zero. -/
def madeCopy (transfer : Copy Block) : List (Effect Block UInt8) :=
  if transfer.byteSize > 0 ∧ (isNull transfer.source ∨ isNull transfer.target) then []
  else [.copy transfer]

/-- The copy of one chunk to its place in a buffer of `byteSize` bytes, if it fits. -/
def chunkCopy (base : Address) (byteSize offset : Nat) (input : ContiguousBuffer) :
    List (Effect Block UInt8) :=
  if offset + input.byteSize > byteSize then []
  else madeCopy (chunkTransfer input (base.advance offset))

def chunkCopies (base : Address) (byteSize offset : Nat) :
    List ContiguousBuffer → List (Effect Block UInt8)
  | [] => []
  | input :: rest =>
      chunkCopy base byteSize offset input ++
        chunkCopies base byteSize (offset + input.byteSize) rest

theorem chunkCopies_append (base : Address) (byteSize offset : Nat)
    (first second : List ContiguousBuffer) :
    chunkCopies base byteSize offset (first ++ second) = chunkCopies base byteSize offset first ++
      chunkCopies base byteSize (offset + totalByteSize first) second := by
  induction first generalizing offset with
  | nil => simp [chunkCopies]
  | cons input rest ih => simp [chunkCopies, ih, Nat.add_assoc]

def drainCopy (deferred : DeferredPinned) : List (Effect Block UInt8) :=
  madeCopy (drainJob deferred).transfer

def Task.fills (task : Task) : List (Effect Block UInt8) :=
  chunkCopies task.deferred.pinnedMemory task.deferred.pinnedMemorySize task.offset task.buffers

/-! Steps that issue known effects. -/

structure Sys.Makes (s : Sys) (effects : List (Effect Block UInt8)) (s' : Sys) : Prop where
  issued : issued s'.actions = issued s.actions ++ effects
  tasks : addedTasks s'.log = addedTasks s.log
  gets : s'.log.countP Event.isGet = s.log.countP Event.isGet
  blocks : s'.nextBlock = s.nextBlock

theorem Sys.Makes.refl (s : Sys) : s.Makes [] s := ⟨(List.append_nil _).symm, rfl, rfl, rfl⟩

theorem Sys.Makes.trans {s s' s'' : Sys} {first second : List (Effect Block UInt8)}
    (early : s.Makes first s') (late : s'.Makes second s'') : s.Makes (first ++ second) s'' := by
  refine ⟨?_, late.tasks.trans early.tasks, late.gets.trans early.gets,
    late.blocks.trans early.blocks⟩
  rw [late.issued, early.issued, List.append_assoc]

theorem Sys.Makes.answered {s s' s'' : Sys} {effects : List (Effect Block UInt8)}
    (makes : s.Makes effects s') (answers : s'.Answers s'') : s.Makes effects s'' := by
  refine ⟨?_, (answers_tasks answers).1.trans makes.tasks,
    (answers_tasks answers).2.trans makes.gets, (answers_nextBlock answers).trans makes.blocks⟩
  rw [answers_actions answers, makes.issued]

theorem Sys.Makes.silent (s : Sys) {event : Event} (noTask : event.task? = none)
    (noAction : event.action? = none) (noGet : event.isGet = false) (tick : Nat) :
    s.Makes [] (Sys.note { s with tick } event) := by
  refine ⟨?_, ?_, ?_, rfl⟩
  · rw [actions_note, noAction, Option.toList_none, List.append_nil, List.append_nil]
    rfl
  · simp [addedTasks, noTask]
  · simp [noGet]

theorem Sys.Makes.issue (s : Sys) (action : Action Block UInt8) (tick : Nat) :
    s.Makes action.effects (Sys.issue { s with tick } action) := by
  refine ⟨?_, ?_, ?_, rfl⟩
  · rw [actions_issue, issued_append, issued_cons, issued_nil, List.append_nil]
    rfl
  · simp [addedTasks, Event.task?]
  · simp [Event.isGet]

section
variable {env : Env} (calls : ∀ tick api, env.outcome tick api = none)
include calls

theorem copyBuffer_makes (s : Sys) (msg : String) (srcMemoryType : MemoryType)
    (srcMemoryTypeId : Int) (dstMemoryType : MemoryType) (dstMemoryTypeId : Int)
    (byteSize : Nat) (src dst : Address) (copyOnStream : Bool) :
    s.Makes (madeCopy { source := src, target := dst, byteSize })
      (copyBuffer env s msg srcMemoryType srcMemoryTypeId dstMemoryType dstMemoryTypeId byteSize src
        dst copyOnStream).sys := by
  have failed (tick : Nat) : s.Makes [] (Sys.note { s with tick } (.failedCopy
      { source := src, target := dst, byteSize })) := Sys.Makes.silent s rfl rfl rfl tick
  simp only [copyBuffer, madeCopy, call_eq, calls]
  by_cases fromNull : byteSize > 0 ∧ isNull src
  · rw [if_pos fromNull, if_pos ⟨fromNull.1, Or.inl fromNull.2⟩]
    exact failed s.tick
  by_cases toNull : byteSize > 0 ∧ isNull dst
  · rw [if_neg fromNull, if_pos toNull, if_pos ⟨toNull.1, Or.inr toNull.2⟩]
    exact failed s.tick
  have made : ¬ (byteSize > 0 ∧ (isNull src ∨ isNull dst)) := by tauto
  rw [if_neg fromNull, if_neg toNull, if_neg made]
  split
  · split
    · exact Sys.Makes.issue s (.stream [{ source := src, target := dst, byteSize }]) s.tick
    · exact Sys.Makes.issue s (.host (.copy { source := src, target := dst, byteSize })) s.tick
  · exact Sys.Makes.issue s (.stream [{ source := src, target := dst, byteSize }]) (s.tick + 1)

theorem directCopy_makes (cfg : CollectorConfig) (c : Collector) (inputName : String)
    (input : ContiguousBuffer) (tensor : Tensor) (offset : Nat) (waitBuffer : Bool) :
    c.toSys.Makes (madeCopy (chunkTransfer input (tensor.buffer.advance offset)))
      (directCopy env cfg c inputName input tensor offset waitBuffer).2.toSys := by
  have waited : (if waitBuffer then c.waitBufferReady else c).toSys = c.toSys := by
    split <;> simp
  have copied := copyBuffer_makes calls c.toSys inputName input.memoryDesc.memoryType
    input.memoryDesc.memoryTypeId tensor.memoryType tensor.memoryTypeId input.byteSize
    input.memoryDesc.address (tensor.buffer.advance offset) cfg.copyOnStream
  simp only [directCopy, waited]
  split
  · exact copied
  · exact copied.answered (failRequests_answers _ _ _)

/-- Without staging and kernel a chunk is copied where it belongs, or left out. -/
theorem setInputTensor_makes (cfg : CollectorConfig) (c : Collector) (inputName : String)
    (input : ContiguousBuffer) (tensor : Tensor) (offset : Nat) (waitBuffer : Bool) :
    c.toSys.Makes (chunkCopy tensor.buffer tensor.byteSize offset input)
      (setInputTensor env cfg c inputName input tensor offset .cpuPinned false waitBuffer).2.toSys := by
  simp only [setInputTensor, chunkCopy, ne_eq, not_true_eq_false, false_and, if_false,
    Bool.false_and, Bool.false_eq_true]
  split
  · exact (Sys.Makes.refl _).answered (failRequests_answers _ _ _)
  · exact directCopy_makes calls cfg c inputName input tensor offset waitBuffer

theorem setInputTensors_makes (cfg : CollectorConfig) (inputName : String) (tensor : Tensor)
    (offset : Nat) (cudaUsed : Bool) (c : Collector) (inputs : List ContiguousBuffer) :
    c.toSys.Makes (chunkCopies tensor.buffer tensor.byteSize offset inputs)
      (setInputTensors env cfg inputName tensor offset cudaUsed c inputs).2.toSys := by
  induction inputs generalizing offset cudaUsed c with
  | nil => exact Sys.Makes.refl _
  | cons input rest ih =>
      exact (setInputTensor_makes calls cfg c inputName input tensor offset true).trans (ih _ _ _)

theorem copyPinned_makes (cfg : CollectorConfig) (c : Collector) (memory : BackendMemory)
    (tensor : Tensor) :
    c.toSys.Makes (drainCopy (c.deferral memory.memoryPtr tensor false))
      (copyPinned env cfg c memory tensor).2.toSys := by
  have groups := sameGroups_waitBufferReady c
  have size : c.waitBufferReady.pendingPinnedByteSize = c.pendingPinnedByteSize := by rw [groups]
  have start : c.waitBufferReady.pendingPinnedOffset = c.pendingPinnedOffset := by rw [groups]
  have copied := copyBuffer_makes calls c.toSys "pinned input buffer H2D" .cpuPinned 0
    tensor.memoryType tensor.memoryTypeId c.pendingPinnedByteSize memory.memoryPtr
    (tensor.buffer.advance c.pendingPinnedOffset) cfg.copyOnStream
  simp only [copyPinned, toSys_waitBufferReady, size, start]
  split
  · exact copied
  · exact copied.answered (failAllRequests_answers _ _ _)

theorem finalizeDeferred_makes (s : Sys) (deferred : DeferredPinned) :
    s.Makes (drainCopy deferred) (finalizeDeferred env s deferred).2 := by
  have copied := copyBuffer_makes calls s "pinned buffer" .cpuPinned 0 deferred.tensorMemoryType
    deferred.tensorMemoryId deferred.pinnedMemorySize deferred.pinnedMemory
    (deferred.tensorBuffer.advance deferred.tensorBufferOffset) false
  simp only [finalizeDeferred]
  split
  · exact copied
  · exact copied.answered (failAllRequests_answers _ _ _)

theorem createBackendMemory_succeeds (s : Sys) (place : Nat → Block) (first : AllocationType)
    (others : List AllocationType) (memoryTypeId : Int) (byteSize : Nat) :
    createBackendMemory env s place (first :: others) memoryTypeId byteSize = (.ok {
        allocType := first
        memoryTypeId
        memoryPtr := { block := place s.nextBlock, offset := 0 }
        byteSize }, { s with tick := s.tick + 1, nextBlock := s.nextBlock + 1 }) := by
  simp only [createBackendMemory, createFrom, call_eq, calls]

end

/-! The two groups and what is owed. -/

structure PendingGroups where
  pinnedByteSize : Nat
  pinnedOffset : Nat
  pinnedBuffers : List ContiguousBuffer
  kernelByteSize : Nat
  kernelOffset : Nat
  kernelCounts : Nat
  kernelBuffers : List ContiguousBuffer

def Collector.groups (c : Collector) : PendingGroups := {
  pinnedByteSize := c.pendingPinnedByteSize
  pinnedOffset := c.pendingPinnedOffset
  pinnedBuffers := c.pendingPinnedInputBuffers
  kernelByteSize := c.pendingCopyKernelBufferByteSize
  kernelOffset := c.pendingCopyKernelBufferOffset
  kernelCounts := c.pendingCopyKernelInputBufferCounts
  kernelBuffers := c.pendingCopyKernelInputBuffers }

def PendingGroups.clearPinned (groups : PendingGroups) : PendingGroups := {
  groups with
  pinnedByteSize := 0
  pinnedOffset := 0
  pinnedBuffers := [] }

def PendingGroups.clearKernel (groups : PendingGroups) : PendingGroups := {
  groups with
  kernelByteSize := 0
  kernelOffset := 0
  kernelCounts := 0
  kernelBuffers := [] }

/-- The copies of the pinned group: through the staging block, or straight to the tensor when
the group has no bytes. -/
def PendingGroups.stage (groups : PendingGroups) (block : Nat) (tensor : Tensor) :
    List (Effect Block UInt8) :=
  if groups.pinnedByteSize > 0 then
    chunkCopies (stagingAddress block) groups.pinnedByteSize 0 groups.pinnedBuffers ++
      madeCopy {
        source := stagingAddress block
        target := tensor.buffer.advance groups.pinnedOffset
        byteSize := groups.pinnedByteSize }
  else chunkCopies tensor.buffer tensor.byteSize groups.pinnedOffset groups.pinnedBuffers

def PendingGroups.launch (env : Env) (threshold : Nat) (groups : PendingGroups) (tensor : Tensor) :
    List (Effect Block UInt8) :=
  if groups.kernelBuffers.length = 0 then []
  else if groups.kernelCounts ≥ threshold then
    (env.runGatherKernel (segmentsFrom 0 groups.kernelBuffers)
      (tensor.buffer.advance groups.kernelOffset)).map .copy
  else chunkCopies tensor.buffer tensor.byteSize groups.kernelOffset groups.kernelBuffers

/-- What has been issued, what the tasks that were added fill, and the copies out of the
blocks that were deferred. -/
def Collector.owes (c : Collector) : List (Effect Block UInt8) :=
  issued c.actions ++
    ((addedTasks c.log).flatMap Task.fills ++ c.deferredPinned.flatMap drainCopy)

/-- The collector comes to owe the effects, takes `blocks` new blocks and ends with `groups`. -/
structure Collector.Owes (c : Collector) (effects : List (Effect Block UInt8)) (blocks : Nat)
    (groups : PendingGroups) (c' : Collector) : Prop where
  owed : c'.owes.Perm (c.owes ++ effects)
  blocks : c'.nextBlock = c.nextBlock + blocks
  groups : c'.groups = groups

theorem owes_idle {c c' : Collector} (log : c'.log = c.log) (blocks : c'.nextBlock = c.nextBlock)
    (deferred : c'.deferredPinned = c.deferredPinned) : c.Owes [] 0 c'.groups c' := by
  refine ⟨?_, blocks, rfl⟩
  have actions : c'.actions = c.actions := by rw [Sys.actions, Sys.actions, log]
  rw [List.append_nil, Collector.owes, Collector.owes, actions, log, deferred]

theorem owes_makes {c c' : Collector} {effects : List (Effect Block UInt8)}
    (makes : c.toSys.Makes effects c'.toSys) (same : c.SameGroups c') :
    c.Owes effects 0 c.groups c' := by
  refine ⟨?_, makes.blocks, ?_⟩
  · have deferred : c'.deferredPinned = c.deferredPinned := by rw [same]
    rw [Collector.owes, Collector.owes, makes.issued, makes.tasks, deferred, List.append_assoc,
      List.append_assoc]
    exact List.perm_append_comm.append_left _
  · rw [same]
    rfl

theorem laidTasks_fills {task : Nat → List ContiguousBuffer → Task} {base : Address}
    {byteSize : Nat}
    (fills : ∀ offset buffers, (task offset buffers).fills = chunkCopies base byteSize offset buffers)
    (offset : Nat) (segments : List (List ContiguousBuffer)) :
    (laidTasks task offset segments).flatMap Task.fills =
      chunkCopies base byteSize offset segments.flatten := by
  induction segments generalizing offset with
  | nil => rfl
  | cons segment rest ih =>
      rw [laidTasks, List.flatMap_cons, ih, fills, List.flatten_cons, chunkCopies_append]

section
variable {env : Env} (calls : ∀ tick api, env.outcome tick api = none)
  (accepted : ∀ tick, (env.addTask tick).code = .success)

include accepted in
theorem startAsyncFlush_owes {cfg : CollectorConfig} (async : cfg.useAsyncCpuCopy = true)
    (c : Collector) (memory : BackendMemory) (tensor : Tensor) :
    c.Owes (chunkCopies memory.memoryPtr c.pendingPinnedByteSize 0 c.pendingPinnedInputBuffers ++
        drainCopy (c.deferral memory.memoryPtr tensor true)) 0 c.groups
      (startAsyncFlush env cfg c memory tensor) := by
  have workers : 0 < cfg.workerCount := by
    simp only [CollectorConfig.useAsyncCpuCopy, decide_eq_true_eq] at async
    omega
  let task (offset : Nat) (buffers : List ContiguousBuffer) : Task := {
    flush := c.asyncTaskCount
    incompleteCount := min c.pendingPinnedInputBuffers.length cfg.workerCount
    offset, buffers
    deferred := c.deferral memory.memoryPtr tensor true
    pinnedMemoryType := memory.memoryType
    pinnedMemoryTypeId := memory.memoryTypeId }
  have laid := enqueueTasks_laid accepted task
    (asyncStride cfg c.pendingPinnedInputBuffers.length) c.pendingPinnedInputBuffers.length 0
    c.pendingPinnedInputBuffers c.toSys
  obtain ⟨_, actions, block⟩ := enqueueTasks_added env task
    (asyncStride cfg c.pendingPinnedInputBuffers.length) c.pendingPinnedInputBuffers.length 0
    c.pendingPinnedInputBuffers c.toSys
  have whole := asyncSegments_flatten cfg workers c.pendingPinnedInputBuffers
  have own (offset : Nat) (buffers : List ContiguousBuffer) : (task offset buffers).fills =
      chunkCopies memory.memoryPtr c.pendingPinnedByteSize offset buffers := rfl
  have fills := laidTasks_fills own 0 (asyncSegments cfg c.pendingPinnedInputBuffers)
  rw [whole] at fills
  refine ⟨?_, block, rfl⟩
  have owed : (startAsyncFlush env cfg c memory tensor).owes = issued c.actions ++
      (((addedTasks c.log).flatMap Task.fills ++ chunkCopies memory.memoryPtr
          c.pendingPinnedByteSize 0 c.pendingPinnedInputBuffers) ++
        (c.deferredPinned.flatMap drainCopy ++
          drainCopy (c.deferral memory.memoryPtr tensor true))) := by
    have tasks : addedTasks (startAsyncFlush env cfg c memory tensor).log =
        addedTasks c.log ++ laidTasks task 0 (asyncSegments cfg c.pendingPinnedInputBuffers) := laid
    have issued : (startAsyncFlush env cfg c memory tensor).actions = c.actions := actions
    rw [Collector.owes, issued, tasks, List.flatMap_append, fills]
    simp [startAsyncFlush, Collector.deferral, List.flatMap_append]
  rw [owed, Collector.owes]
  simp only [List.append_assoc]
  exact ((List.perm_append_comm_assoc _ _ _).append_left _).append_left _

theorem Collector.Owes.trans {c c' c'' : Collector} {first second : List (Effect Block UInt8)}
    {blocks blocks' : Nat} {groups groups' : PendingGroups} (early : c.Owes first blocks groups c')
    (late : c'.Owes second blocks' groups' c'') :
    c.Owes (first ++ second) (blocks + blocks') groups' c'' := by
  refine ⟨?_, ?_, late.groups⟩
  · rw [← List.append_assoc]
    exact late.owed.trans (early.owed.append_right second)
  · rw [late.blocks, early.blocks, Nat.add_assoc]

theorem Collector.Owes.orSync {c : Collector} {result : Bool × Collector}
    {effects : List (Effect Block UInt8)} {blocks : Nat} {groups : PendingGroups}
    (owes : c.Owes effects blocks groups result.2) :
    c.Owes effects blocks groups (orSync result) := ⟨owes.owed, owes.blocks, owes.groups⟩

theorem Collector.Owes.clearPinned {c c' : Collector} {effects : List (Effect Block UInt8)}
    {blocks : Nat} {groups : PendingGroups} (owes : c.Owes effects blocks groups c') :
    c.Owes effects blocks groups.clearPinned c'.clearPendingPinned := by
  refine ⟨owes.owed, owes.blocks, ?_⟩
  rw [← owes.groups]
  rfl

theorem owes_defers (c : Collector) (deferred : DeferredPinned) :
    c.Owes (drainCopy deferred) 0 c.groups
      { c with deferredPinned := c.deferredPinned ++ [deferred] } := by
  refine ⟨?_, rfl, rfl⟩
  simp only [Collector.owes, List.flatMap_append, List.flatMap_singleton, List.append_assoc]
  exact List.Perm.refl _

include calls in
theorem stagePinned_owes (cfg : CollectorConfig) (c : Collector) (memory : BackendMemory)
    (tensor : Tensor) :
    c.Owes (chunkCopies memory.memoryPtr c.pendingPinnedByteSize 0 c.pendingPinnedInputBuffers ++
        drainCopy (c.deferral memory.memoryPtr tensor false)) 0 c.groups
      (stagePinned env cfg c memory tensor).2 := by
  have filled := setInputTensors_makes calls cfg "pinned H2H" {
      buffer := memory.memoryPtr
      byteSize := c.pendingPinnedByteSize
      memoryType := .cpuPinned
      memoryTypeId := 0 } 0 false c c.pendingPinnedInputBuffers
  have fields := setInputTensors_sameGroups env cfg "pinned H2H" {
      buffer := memory.memoryPtr
      byteSize := c.pendingPinnedByteSize
      memoryType := .cpuPinned
      memoryTypeId := 0 } 0 false c c.pendingPinnedInputBuffers
  simp only [stagePinned]
  generalize setInputTensors env cfg "pinned H2H" _ 0 false c c.pendingPinnedInputBuffers = staged
    at filled fields ⊢
  have same : staged.2.deferral memory.memoryPtr tensor false =
      c.deferral memory.memoryPtr tensor false := by
    rw [fields]
    rfl
  have groups : staged.2.groups = c.groups := by
    rw [fields]
    rfl
  have first := owes_makes filled fields
  rw [← same, ← groups]
  -- the block is copied now or put on the list: it is owed either way
  split
  · exact first.trans (owes_defers staged.2 _)
  · exact first.trans (owes_makes (copyPinned_makes calls cfg staged.2 memory tensor)
      (copyPinned_sameGroups env cfg staged.2 memory tensor))

def PendingGroups.stageBlocks (groups : PendingGroups) : Nat :=
  if groups.pinnedByteSize > 0 then 1 else 0

include calls accepted in
/-- A flush owes the same copies with and without the work queue. -/
theorem flushPendingPinned_owes (cfg : CollectorConfig) (c : Collector) (tensor : Tensor) :
    c.Owes (c.groups.stage c.nextBlock tensor) c.groups.stageBlocks c.groups.clearPinned
      (orSync (flushPendingPinned env cfg c tensor)) := by
  refine Collector.Owes.orSync ?_
  simp only [flushPendingPinned, allocatePinned, PendingGroups.stage, PendingGroups.stageBlocks,
    createBackendMemory_succeeds calls]
  by_cases bytes : c.pendingPinnedByteSize > 0
  · have some : c.groups.pinnedByteSize > 0 := bytes
    simp only [if_pos bytes, if_pos some, Except.toOption]
    refine Collector.Owes.clearPinned ?_
    have counted : c.Owes [] 1 c.groups (c.withSys
        { c.toSys with tick := c.tick + 1, nextBlock := c.nextBlock + 1 }) :=
      ⟨by rw [List.append_nil]; exact List.Perm.refl _, rfl, rfl⟩
    let memory : BackendMemory := {
      allocType := .cpuPinnedPool
      memoryTypeId := 0
      memoryPtr := stagingAddress c.nextBlock
      byteSize := c.pendingPinnedByteSize }
    split
    next async => exact counted.trans (startAsyncFlush_owes accepted async _ memory tensor)
    next => exact counted.trans (stagePinned_owes calls cfg _ memory tensor)
  · have none : ¬ c.groups.pinnedByteSize > 0 := bytes
    simp only [if_neg bytes, if_neg none]
    refine Collector.Owes.clearPinned (owes_makes ?_ ?_)
    · exact setInputTensors_makes calls cfg _ tensor _ false (c.withSys c.toSys) _
    · exact setInputTensors_sameGroups env cfg _ tensor _ false (c.withSys c.toSys) _

/-! The kernel group. -/

def PendingGroups.launchBlocks (groups : PendingGroups) (threshold : Nat) : Nat :=
  if groups.kernelBuffers.length ≠ 0 ∧ groups.kernelCounts ≥ threshold then 3 else 0

def PendingGroups.launched (groups : PendingGroups) : PendingGroups :=
  if groups.kernelBuffers.length = 0 then groups else groups.clearKernel

theorem Collector.Owes.clearKernel {c c' : Collector} {effects : List (Effect Block UInt8)}
    {blocks : Nat} {groups : PendingGroups} (owes : c.Owes effects blocks groups c') :
    c.Owes effects blocks groups.clearKernel c'.clearPendingCopyKernel := by
  refine ⟨owes.owed, owes.blocks, ?_⟩
  rw [← owes.groups]
  rfl

include calls in
theorem createKernelArguments_succeed (tensor : Tensor) (c : Collector) (count : Nat) :
    createKernelArguments env tensor c count =
      (none, c.withSys { c.toSys with tick := c.tick + count, nextBlock := c.nextBlock + count }) := by
  induction count generalizing c with
  | zero => rfl
  | succ count ih =>
      have created : createKernelArgument env c tensor =
          (none, c.withSys { c.toSys with tick := c.tick + 1, nextBlock := c.nextBlock + 1 }) := by
        cases memoryType : tensor.memoryType <;>
          simp [createKernelArgument, allocationTypes, memoryType, createBackendMemory_succeeds calls,
            BackendMemory.memoryType, AllocationType.memoryType]
      simp only [createKernelArguments, created, ih]
      simp [Collector.withSys, Nat.add_assoc, Nat.add_comm 1]

include calls in
theorem launchCopyKernel_owes (c : Collector) (tensor : Tensor) :
    (launchCopyKernel env c tensor).1 = none ∧
      c.Owes ((env.runGatherKernel (segmentsFrom 0 c.pendingCopyKernelInputBuffers)
        (tensor.buffer.advance c.pendingCopyKernelBufferOffset)).map .copy) 3 c.groups
        (launchCopyKernel env c tensor).2 := by
  have waited := sameGroups_waitBufferReady
    (c.withSys { c.toSys with tick := c.tick + 3, nextBlock := c.nextBlock + 3 })
  have inputs := congrArg Collector.pendingCopyKernelInputBuffers waited
  have start := congrArg Collector.pendingCopyKernelBufferOffset waited
  simp only [launchCopyKernel, createKernelArguments_succeed calls, call_eq, calls,
    toSys_waitBufferReady]
  refine ⟨trivial, ?_⟩
  have counted : c.Owes [] 3 c.groups
      (c.withSys { c.toSys with tick := c.tick + 3, nextBlock := c.nextBlock + 3 }) :=
    ⟨by rw [List.append_nil]; exact List.Perm.refl _, rfl, rfl⟩
  refine counted.trans (owes_makes ?_ (waited.trans (sameGroups_withSys _ _)))
  rw [inputs, start]
  exact Sys.Makes.issue _ (.stream _) _

include calls in
theorem flushPendingCopyKernel_owes (cfg : CollectorConfig) (c : Collector) (tensor : Tensor) :
    c.Owes (c.groups.launch env cfg.kernelBufferThreshold tensor)
      (c.groups.launchBlocks cfg.kernelBufferThreshold) c.groups.launched
      (orSync (flushPendingCopyKernel env cfg c tensor)) := by
  refine Collector.Owes.orSync ?_
  have fallback : c.Owes (chunkCopies tensor.buffer tensor.byteSize c.pendingCopyKernelBufferOffset
      c.pendingCopyKernelInputBuffers) 0 c.groups (copyKernelFallback env cfg c tensor).2 :=
    owes_makes (setInputTensors_makes calls cfg _ tensor _ false c _)
      (setInputTensors_sameGroups env cfg _ tensor _ false c _)
  obtain ⟨launched, owes⟩ := launchCopyKernel_owes calls c tensor
  simp only [flushPendingCopyKernel, PendingGroups.launch, PendingGroups.launchBlocks,
    PendingGroups.launched]
  by_cases empty : c.pendingCopyKernelInputBuffers.length = 0
  · have none : c.groups.kernelBuffers.length = 0 := empty
    simp only [if_pos empty, none, ne_eq, not_true_eq_false, false_and, if_false]
    exact owes_idle rfl rfl rfl
  have some : ¬ c.groups.kernelBuffers.length = 0 := empty
  simp only [if_neg empty, ne_eq, some, not_false_eq_true, true_and]
  by_cases reached : c.pendingCopyKernelInputBufferCounts ≥ cfg.kernelBufferThreshold
  · have enough : c.groups.kernelCounts ≥ cfg.kernelBufferThreshold := reached
    simp only [if_pos reached, if_pos enough, launched]
    exact owes.clearKernel
  · have few : ¬ c.groups.kernelCounts ≥ cfg.kernelBufferThreshold := reached
    simp only [if_neg reached, if_neg few]
    exact fallback.clearKernel

end

/-! The plan of a gather: the copies that a sequence of calls comes to owe, as a function of
the calls, of whether buffers are pinned and of the threshold for the kernel. -/

structure GatherPlan where
  effects : List (Effect Block UInt8)
  nextBlock : Nat
  groups : PendingGroups

def GatherPlan.start (c : Collector) : GatherPlan := {
  effects := []
  nextBlock := c.nextBlock
  groups := c.groups }

def PendingGroups.addPinned (groups : PendingGroups) (input : ContiguousBuffer) (offset : Nat) :
    PendingGroups := {
  groups with
  pinnedOffset := if groups.pinnedByteSize = 0 then offset else groups.pinnedOffset
  pinnedByteSize := groups.pinnedByteSize + input.byteSize
  pinnedBuffers := groups.pinnedBuffers ++ [input] }

def PendingGroups.addKernel (groups : PendingGroups) (input : ContiguousBuffer) (offset : Nat) :
    PendingGroups := {
  groups with
  kernelOffset := if groups.kernelByteSize = 0 then offset else groups.kernelOffset
  kernelByteSize := groups.kernelByteSize + input.byteSize
  kernelCounts := groups.kernelCounts + 1
  kernelBuffers := groups.kernelBuffers ++ [input] }

section
variable (env : Env) (pinnedEnabled : Bool) (threshold : Nat)

def GatherPlan.flushPinned (tensor : Tensor) (plan : GatherPlan) : GatherPlan := {
  effects := plan.effects ++ plan.groups.stage plan.nextBlock tensor
  nextBlock := plan.nextBlock + plan.groups.stageBlocks
  groups := plan.groups.clearPinned }

def GatherPlan.flushKernel (tensor : Tensor) (plan : GatherPlan) : GatherPlan := {
  effects := plan.effects ++ plan.groups.launch env threshold tensor
  nextBlock := plan.nextBlock + plan.groups.launchBlocks threshold
  groups := plan.groups.launched }

def GatherPlan.flushPinnedBefore (tensor : Tensor) (offset : Nat) (plan : GatherPlan) :
    GatherPlan :=
  if plan.groups.pinnedByteSize > 0 ∧
      offset ≠ plan.groups.pinnedByteSize + plan.groups.pinnedOffset then plan.flushPinned tensor
  else plan

def GatherPlan.flushKernelBefore (tensor : Tensor) (offset : Nat) (plan : GatherPlan) :
    GatherPlan :=
  if plan.groups.kernelByteSize > 0 ∧
      offset ≠ plan.groups.kernelByteSize + plan.groups.kernelOffset then
    plan.flushKernel env threshold tensor
  else plan

/-- The memory type whose chunks are staged; `cpuPinned` when none are. -/
def stagedType (tensor : Tensor) : MemoryType :=
  if pinnedEnabled then getUsePinnedMemoryType tensor.memoryType else .cpuPinned

def GatherPlan.add (tensor : Tensor) (offset : Nat) (input : ContiguousBuffer)
    (plan : GatherPlan) : GatherPlan :=
  if offset + input.byteSize > tensor.byteSize then plan
  else if stagedType pinnedEnabled tensor ≠ .cpuPinned ∧
      input.memoryDesc.memoryType = stagedType pinnedEnabled tensor then
    { plan with groups := plan.groups.addPinned input offset }
  else if threshold ≠ 0 && kernelCopies input tensor then
    { plan with groups := plan.groups.addKernel input offset }
  else
    { plan with
      effects := plan.effects ++ madeCopy (chunkTransfer input (tensor.buffer.advance offset)) }

def GatherPlan.chunk (tensor : Tensor) (plan : GatherPlan) (offset : Nat)
    (input : ContiguousBuffer) : GatherPlan :=
  ((plan.flushPinnedBefore tensor offset).flushKernelBefore env threshold tensor offset).add
    pinnedEnabled threshold tensor offset input

def GatherPlan.chunks (tensor : Tensor) (plan : GatherPlan) (offset : Nat) :
    List ContiguousBuffer → GatherPlan
  | [] => plan
  | input :: rest =>
      GatherPlan.chunks tensor (plan.chunk env pinnedEnabled threshold tensor offset input)
        (offset + input.byteSize) rest

def GatherPlan.call (plan : GatherPlan) (call : TensorCall) : GatherPlan :=
  ((plan.chunks env pinnedEnabled threshold call.tensor 0 call.chunks).flushPinned
    call.tensor).flushKernel env threshold call.tensor

end

/-- The collector owes the copies of the plan, in some order. -/
structure Collector.Follows (c : Collector) (plan : GatherPlan) : Prop where
  effects : c.owes.Perm plan.effects
  blocks : c.nextBlock = plan.nextBlock
  groups : c.groups = plan.groups

theorem Collector.Follows.step {c c' : Collector} {plan : GatherPlan}
    {effects : List (Effect Block UInt8)} {blocks : Nat} {groups : PendingGroups}
    (follows : c.Follows plan) (owes : c.Owes effects blocks groups c') :
    c'.Follows { effects := plan.effects ++ effects, nextBlock := plan.nextBlock + blocks, groups } :=
  ⟨owes.owed.trans (follows.effects.append_right effects), by rw [owes.blocks, follows.blocks],
    owes.groups⟩

theorem Collector.Follows.orSync {result : Bool × Collector} {plan : GatherPlan}
    (follows : result.2.Follows plan) : (orSync result).Follows plan :=
  ⟨follows.effects, follows.blocks, follows.groups⟩

section
variable {env : Env} (calls : ∀ tick api, env.outcome tick api = none)
  (accepted : ∀ tick, (env.addTask tick).code = .success)
include calls accepted

theorem flushPendingPinned_follows (cfg : CollectorConfig) (tensor : Tensor) {c : Collector}
    {plan : GatherPlan} (follows : c.Follows plan) :
    (orSync (flushPendingPinned env cfg c tensor)).Follows (plan.flushPinned tensor) := by
  have next := follows.step (flushPendingPinned_owes calls accepted cfg c tensor)
  rwa [follows.groups, follows.blocks] at next

omit accepted in
theorem flushPendingCopyKernel_follows (cfg : CollectorConfig) (tensor : Tensor) {c : Collector}
    {plan : GatherPlan} (follows : c.Follows plan) :
    (orSync (flushPendingCopyKernel env cfg c tensor)).Follows
      (plan.flushKernel env cfg.kernelBufferThreshold tensor) := by
  have next := follows.step (flushPendingCopyKernel_owes calls cfg c tensor)
  rwa [follows.groups] at next

omit accepted in
theorem setInputTensor_follows (cfg : CollectorConfig) (inputName : String) (tensor : Tensor)
    (offset : Nat) (input : ContiguousBuffer) {c : Collector} {plan : GatherPlan}
    (follows : c.Follows plan) :
    (orSync (setInputTensor env cfg c inputName input tensor offset
      (usePinnedMemoryType cfg tensor) (useKernel cfg) true)).Follows
        (plan.add cfg.pinnedEnabled cfg.kernelBufferThreshold tensor offset input) := by
  have staged : usePinnedMemoryType cfg tensor = stagedType cfg.pinnedEnabled tensor := rfl
  have kernel : useKernel cfg = decide (cfg.kernelBufferThreshold ≠ 0) := rfl
  refine Collector.Follows.orSync ?_
  simp only [setInputTensor, GatherPlan.add, staged, kernel]
  by_cases exceeds : offset + input.byteSize > tensor.byteSize
  · simp only [if_pos exceeds]
    have makes := (Sys.Makes.refl c.toSys).answered (failRequests_answers c.toSys (errorNew .invalidArg
      ("unexpected total byte size " ++ toString (offset + input.byteSize) ++ " for input '" ++
        inputName ++ "', expecting " ++ toString tensor.byteSize)) input)
    have next := follows.step (owes_makes makes (sameGroups_withSys c _))
    rw [List.append_nil, follows.groups] at next
    exact next
  simp only [if_neg exceeds]
  by_cases waits : stagedType cfg.pinnedEnabled tensor ≠ .cpuPinned ∧
    input.memoryDesc.memoryType = stagedType cfg.pinnedEnabled tensor
  · simp only [if_pos waits]
    exact ⟨follows.effects, follows.blocks, follows.groups ▸ rfl⟩
  simp only [if_neg waits]
  by_cases batched : (decide (cfg.kernelBufferThreshold ≠ 0) && kernelCopies input tensor) = true
  · simp only [if_pos batched]
    exact ⟨follows.effects, follows.blocks, follows.groups ▸ rfl⟩
  · simp only [if_neg batched]
    have next := follows.step (owes_makes (directCopy_makes calls cfg c inputName input tensor offset
      true) (directCopy_sameGroups env cfg c inputName input tensor offset true))
    rw [follows.groups] at next
    exact next

theorem processChunk_follows (cfg : CollectorConfig) (inputName : String) (tensor : Tensor)
    (offset : Nat) (input : ContiguousBuffer) {c : Collector} {plan : GatherPlan}
    (follows : c.Follows plan) :
    (processChunk env cfg inputName tensor c offset input).Follows
      (plan.chunk env cfg.pinnedEnabled cfg.kernelBufferThreshold tensor offset input) := by
  have pinned : (flushPinnedBefore env cfg c tensor offset).Follows
      (plan.flushPinnedBefore tensor offset) := by
    simp only [flushPinnedBefore, GatherPlan.flushPinnedBefore, ← follows.groups]
    split
    next ends =>
      rw [if_pos (show c.groups.pinnedByteSize > 0 ∧
        offset ≠ c.groups.pinnedByteSize + c.groups.pinnedOffset from ends)]
      exact flushPendingPinned_follows calls accepted cfg tensor follows
    next stays =>
      rw [if_neg (show ¬ (c.groups.pinnedByteSize > 0 ∧
        offset ≠ c.groups.pinnedByteSize + c.groups.pinnedOffset) from stays)]
      exact follows
  refine setInputTensor_follows calls cfg inputName tensor offset input ?_
  generalize flushPinnedBefore env cfg c tensor offset = flushed at pinned ⊢
  simp only [flushCopyKernelBefore, GatherPlan.flushKernelBefore, ← pinned.groups]
  split
  next ends =>
    rw [if_pos (show flushed.groups.kernelByteSize > 0 ∧
      offset ≠ flushed.groups.kernelByteSize + flushed.groups.kernelOffset from ends)]
    exact flushPendingCopyKernel_follows calls cfg tensor pinned
  next stays =>
    rw [if_neg (show ¬ (flushed.groups.kernelByteSize > 0 ∧
      offset ≠ flushed.groups.kernelByteSize + flushed.groups.kernelOffset) from stays)]
    exact pinned

theorem processChunksFrom_follows (cfg : CollectorConfig) (inputName : String) (tensor : Tensor)
    (offset : Nat) (chunks : List ContiguousBuffer) {c : Collector} {plan : GatherPlan}
    (follows : c.Follows plan) :
    (processChunksFrom env cfg inputName tensor c offset chunks).Follows
      (plan.chunks env cfg.pinnedEnabled cfg.kernelBufferThreshold tensor offset chunks) := by
  induction chunks generalizing c plan offset with
  | nil => exact follows
  | cons input rest ih =>
      exact ih _ (processChunk_follows calls accepted cfg inputName tensor offset input follows)

omit calls accepted in
theorem recordEvent_follows (cfg : CollectorConfig) {c : Collector} {plan : GatherPlan}
    (follows : c.Follows plan) : (c.recordEvent cfg).Follows plan := by
  rw [Collector.recordEvent]
  split
  · have next := follows.step (owes_makes (Sys.Makes.issue c.toSys .record c.tick)
      (sameGroups_withSys c _))
    simp only [Action.effects, List.append_nil, follows.groups] at next
    exact next
  · exact follows

theorem gatherTensors_follows (cfg : CollectorConfig) (tensorCalls : List TensorCall)
    {c : Collector} {plan : GatherPlan} (follows : c.Follows plan) :
    (gatherTensors env cfg c tensorCalls).Follows
      (tensorCalls.foldl (GatherPlan.call env cfg.pinnedEnabled cfg.kernelBufferThreshold) plan) := by
  induction tensorCalls generalizing c plan with
  | nil => exact follows
  | cons call rest ih =>
      refine ih (recordEvent_follows cfg (flushPendingCopyKernel_follows calls cfg call.tensor
        (flushPendingPinned_follows calls accepted cfg call.tensor ?_)))
      exact processChunksFrom_follows calls accepted cfg call.inputName call.tensor 0 call.chunks
        follows

end

/-! What the copies of a plan read: the requests' buffers and the staging blocks. -/

def Block.IsInput (block : Block) : Prop := ∃ memoryType id, block = .input memoryType id

def ReadsInputs (effects : List (Effect Block UInt8)) : Prop :=
  ∀ effect ∈ effects, ∀ block, effect.readBlock = some block → IsStaging block ∨ block.IsInput

theorem ReadsInputs.append {first second : List (Effect Block UInt8)} (early : ReadsInputs first)
    (late : ReadsInputs second) : ReadsInputs (first ++ second) := by
  intro effect member
  exact (List.mem_append.mp member).elim (early effect) (late effect)

theorem madeCopy_reads {transfer : Copy Block}
    (source : IsStaging transfer.source.block ∨ transfer.source.block.IsInput) :
    ReadsInputs (madeCopy transfer) := by
  intro effect member block read
  rw [madeCopy] at member
  split at member
  · cases member
  · rw [List.mem_singleton] at member
    subst member
    cases read
    exact source

theorem chunkCopies_reads (base : Address) (byteSize offset : Nat) (inputs : List ContiguousBuffer) :
    ReadsInputs (chunkCopies base byteSize offset inputs) := by
  induction inputs generalizing offset with
  | nil => simp [ReadsInputs, chunkCopies]
  | cons input rest ih =>
      refine ReadsInputs.append ?_ (ih _)
      rw [chunkCopy]
      split
      · simp [ReadsInputs]
      · exact madeCopy_reads (Or.inr ⟨_, _, rfl⟩)

section
variable {env : Env} (kernel : env.runGatherKernel = tritonGatherKernel) {threshold : Nat}
  {pinnedEnabled : Bool}

theorem stage_reads (groups : PendingGroups) (block : Nat) (tensor : Tensor) :
    ReadsInputs (groups.stage block tensor) := by
  rw [PendingGroups.stage]
  split
  · exact (chunkCopies_reads _ _ _ _).append (madeCopy_reads (Or.inl ⟨block, rfl⟩))
  · exact chunkCopies_reads _ _ _ _

theorem flushPinned_reads (tensor : Tensor) {plan : GatherPlan} (reads : ReadsInputs plan.effects) :
    ReadsInputs (plan.flushPinned tensor).effects := reads.append (stage_reads _ _ _)

include kernel

theorem launch_reads (groups : PendingGroups) (tensor : Tensor) :
    ReadsInputs (groups.launch env threshold tensor) := by
  rw [PendingGroups.launch]
  split
  · simp [ReadsInputs]
  split
  · intro effect member block read
    rw [kernel] at member
    obtain ⟨transfer, launched, rfl⟩ := List.mem_map.mp member
    obtain ⟨segment, _, rfl⟩ := List.mem_map.mp launched
    cases read
    exact Or.inr ⟨_, _, rfl⟩
  · exact chunkCopies_reads _ _ _ _

theorem flushKernel_reads (tensor : Tensor) {plan : GatherPlan} (reads : ReadsInputs plan.effects) :
    ReadsInputs (plan.flushKernel env threshold tensor).effects :=
  reads.append (launch_reads kernel _ _)

theorem chunk_reads (tensor : Tensor) (offset : Nat) (input : ContiguousBuffer) {plan : GatherPlan}
    (reads : ReadsInputs plan.effects) :
    ReadsInputs (plan.chunk env pinnedEnabled threshold tensor offset input).effects := by
  have pinned : ReadsInputs (plan.flushPinnedBefore tensor offset).effects := by
    rw [GatherPlan.flushPinnedBefore]
    split
    · exact flushPinned_reads tensor reads
    · exact reads
  have flushed : ReadsInputs ((plan.flushPinnedBefore tensor offset).flushKernelBefore env threshold
      tensor offset).effects := by
    rw [GatherPlan.flushKernelBefore]
    split
    · exact flushKernel_reads kernel tensor pinned
    · exact pinned
  simp only [GatherPlan.chunk, GatherPlan.add]
  split
  · exact flushed
  split
  · exact flushed
  split
  · exact flushed
  · exact flushed.append (madeCopy_reads (Or.inr ⟨_, _, rfl⟩))

theorem calls_read (pinnedEnabled : Bool) (threshold : Nat) (tensorCalls : List TensorCall)
    {plan : GatherPlan}
    (reads : ReadsInputs plan.effects) :
    ReadsInputs (tensorCalls.foldl (GatherPlan.call env pinnedEnabled threshold) plan).effects := by
  have chunks (tensor : Tensor) (inputs : List ContiguousBuffer) (offset : Nat) {plan : GatherPlan}
      (reads : ReadsInputs plan.effects) :
      ReadsInputs (plan.chunks env pinnedEnabled threshold tensor offset inputs).effects := by
    induction inputs generalizing plan offset with
    | nil => exact reads
    | cons input rest ih => exact ih _ (chunk_reads kernel tensor offset input reads)
  induction tensorCalls generalizing plan with
  | nil => exact reads
  | cons call rest ih =>
      exact ih (flushKernel_reads kernel call.tensor
        (flushPinned_reads call.tensor (chunks call.tensor call.chunks 0 reads)))

end

end TritonBackend
