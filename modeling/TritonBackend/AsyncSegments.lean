import TritonBackend.AsyncStaging
import TritonBackend.GatherThreads
import TritonBackend.HostStores

/-!
The segments of an asynchronous flush. Chunks in host memory are copied to the places that the
synchronous loop gives them, so whatever the order of the tasks' copies, the pinned buffer
ends up the same.
-/

namespace TritonBackend

open CopyStream

/-- A chunk that is copied without CUDA. Where it has no address it has no bytes. -/
structure ContiguousBuffer.OnHost (input : ContiguousBuffer) : Prop where
  memoryType : input.memoryDesc.memoryType ≠ .gpu
  null_empty : input.memoryDesc.buffer = 0 → input.byteSize = 0

section
variable (env : Env) (cfg : CollectorConfig)

/-- The loop of a task over its chunks, from the chunk at `offset` on. The outcomes of its calls
depend on when they are made: `ticks` tells it for a chunk with so many behind it. -/
def copyTaskChunks (task : Task) (ticks : Nat → Nat) (offset : Nat) :
    List ContiguousBuffer → List (Action Block UInt8)
  | [] => []
  | input :: rest =>
      copyTaskChunk env cfg (ticks rest.length) { task, offset, buffers := input :: rest } input ++
        copyTaskChunks task ticks (offset + input.byteSize) rest

def Task.copies (ticks : Nat → Nat) (task : Task) : List (Action Block UInt8) :=
  copyTaskChunks env cfg task ticks task.offset task.buffers

def flushedTasks (c : Collector) (tensor : Tensor) : List Task :=
  addedTasks ((flushPendingPinned env cfg c tensor).2.log.drop c.log.length)

/-- What the synchronous loop of `FlushPendingPinned` does to fill the pinned buffer. -/
def stagingCopies (c : Collector) (memory : BackendMemory) : List (Action Block UInt8) :=
  (setInputTensors env cfg "pinned H2H" {
    buffer := memory.memoryPtr
    byteSize := c.pendingPinnedByteSize
    memoryType := .cpuPinned
    memoryTypeId := 0 } 0 false (c.withSys (allocatePinned env c).2)
    c.pendingPinnedInputBuffers).2.toSys.actions.drop c.actions.length

/-- The bytes in the pinned buffer once the stream has been waited for. -/
def stagedBytes (c : Collector) (memory : BackendMemory) (initial : Memory Block UInt8)
    (actions : List (Action Block UInt8)) : List UInt8 :=
  valuesAt ((Device.fresh.run (actions ++ [.awaitStream])).memory initial) memory.memoryPtr
    c.pendingPinnedByteSize

/-- The tasks of a flush share the pending chunks out among them, and fill the pinned
buffer as the synchronous loop does. -/
structure SharesOut (c : Collector) (memory : BackendMemory) (tensor : Tensor) : Prop where
  covers : (flushedTasks env cfg c tensor).flatMap Task.buffers = c.pendingPinnedInputBuffers
  nonempty : ∀ task ∈ flushedTasks env cfg c tensor, task.buffers ≠ []
  few : (flushedTasks env cfg c tensor).length ≤ cfg.workerCount
  offset : ∀ before task after, flushedTasks env cfg c tensor = before ++ task :: after →
    task.offset = totalByteSize (before.flatMap Task.buffers)
  inside : ∀ task ∈ flushedTasks env cfg c tensor, ∀ ticks,
    ∀ effect ∈ issued (task.copies env cfg ticks),
      effect.Inside memory.memoryPtr c.pendingPinnedByteSize
  apart : (flushedTasks env cfg c tensor).Pairwise fun first second => ∀ ticks ticks',
    ∀ effect ∈ issued (first.copies env cfg ticks),
      ∀ other ∈ issued (second.copies env cfg ticks'), effect.Apart other
  staged : ∀ ticks : Task → Nat → Nat, ∀ merged,
    Interleaves ((flushedTasks env cfg c tensor).map fun task => task.copies env cfg (ticks task))
      merged →
    ∀ initial, stagedBytes c memory initial merged =
      stagedBytes c memory initial (stagingCopies env cfg c memory)

end

/-! Copies between host memories. -/

def hostAction (copyOnStream : Bool) (transfer : Copy Block) : Action Block UInt8 :=
  if copyOnStream then .stream [transfer] else .host (.copy transfer)

@[simp] theorem hostAction_effects (copyOnStream : Bool) (transfer : Copy Block) :
    (hostAction copyOnStream transfer).effects = [.copy transfer] := by
  cases copyOnStream <;> rfl

/-- Where the chunks go, one behind the other from `offset` on. -/
def hostCopies (copyOnStream : Bool) (target : Address) (offset : Nat)
    (inputs : List ContiguousBuffer) : List (Action Block UInt8) :=
  (gatherSegments (segmentsFrom offset inputs) target).map (hostAction copyOnStream)

section
variable (env : Env) (cfg : CollectorConfig)

theorem setInputTensor_onHost (c : Collector) (inputName : String) {input : ContiguousBuffer}
    (onHost : input.OnHost) (tensor : Tensor) (host : tensor.memoryType ≠ .gpu)
    (staging : IsStaging tensor.buffer.block) {offset : Nat}
    (fits : offset + input.byteSize ≤ tensor.byteSize) (waitBuffer : Bool) :
    (setInputTensor env cfg c inputName input tensor offset .cpuPinned false waitBuffer).2.toSys.actions
      = c.actions ++
        [hostAction cfg.copyOnStream (chunkTransfer input (tensor.buffer.advance offset))] := by
  have waited : (if waitBuffer then c.waitBufferReady else c).toSys = c.toSys := by
    split <;> simp
  have source : ¬ (input.byteSize > 0 ∧ isNull input.memoryDesc.address = true) := by
    rintro ⟨bytes, null⟩
    simp only [isNull, MemoryDesc.address, beq_iff_eq] at null
    have empty := onHost.null_empty (by omega)
    omega
  have target : isNull (tensor.buffer.advance offset) = false := by
    obtain ⟨n, block⟩ := staging
    simp [isNull, block]
  rw [setInputTensor_direct env cfg c inputName input tensor offset waitBuffer fits]
  cases onStream : cfg.copyOnStream with
  | true =>
      simp [directCopy, waited, copyBuffer, source, target, onHost.memoryType, host, onStream,
        Collector.withSys, hostAction, chunkTransfer]
  | false =>
      simp [directCopy, waited, copyBuffer, source, target, onHost.memoryType, host, onStream,
        Collector.withSys, hostAction, chunkTransfer]

theorem hostCopies_cons (copyOnStream : Bool) (target : Address) (offset : Nat)
    (input : ContiguousBuffer) (rest : List ContiguousBuffer) :
    hostCopies copyOnStream target offset (input :: rest) =
      hostAction copyOnStream (chunkTransfer input (target.advance offset)) ::
        hostCopies copyOnStream target (offset + input.byteSize) rest := rfl

theorem setInputTensors_onHost (inputName : String) (tensor : Tensor)
    (host : tensor.memoryType ≠ .gpu) (staging : IsStaging tensor.buffer.block) (offset : Nat)
    (cudaUsed : Bool) (c : Collector) {inputs : List ContiguousBuffer}
    (onHost : ∀ input ∈ inputs, input.OnHost)
    (fits : offset + totalByteSize inputs ≤ tensor.byteSize) :
    (setInputTensors env cfg inputName tensor offset cudaUsed c inputs).2.toSys.actions =
      c.actions ++ hostCopies cfg.copyOnStream tensor.buffer offset inputs := by
  induction inputs generalizing offset cudaUsed c with
  | nil => exact (List.append_nil _).symm
  | cons input rest ih =>
      rw [totalByteSize_cons] at fits
      have room : offset + input.byteSize ≤ tensor.byteSize := by omega
      have first := setInputTensor_onHost env cfg c inputName (onHost input List.mem_cons_self) tensor
        host staging room true
      have later := ih (offset + input.byteSize)
        (cudaUsed || (setInputTensor env cfg c inputName input tensor offset .cpuPinned false true).1)
        (setInputTensor env cfg c inputName input tensor offset .cpuPinned false true).2
        (fun other member => onHost other (List.mem_cons_of_mem _ member)) (by omega)
      rw [first, List.append_assoc, List.singleton_append] at later
      exact later

structure Task.FillsOnHost (task : Task) : Prop where
  host : task.pinnedMemoryType ≠ .gpu
  staging : IsStaging task.deferred.pinnedMemory.block

theorem copyTaskChunk_onHost (tick : Nat) {running : Running} {input : ContiguousBuffer}
    (onHost : input.OnHost) (fills : running.task.FillsOnHost)
    (fits : running.offset + input.byteSize ≤ running.task.deferred.pinnedMemorySize) :
    copyTaskChunk env cfg tick running input = [hostAction cfg.copyOnStream
      (chunkTransfer input (running.task.deferred.pinnedMemory.advance running.offset))] :=
  setInputTensor_onHost env cfg (Collector.create (Sys.workerAt tick) false) "pinned async H2H" onHost
    running.task.pinnedTensor fills.host fills.staging fits false

theorem copyTaskChunks_onHost {task : Task} (fills : task.FillsOnHost) (ticks : Nat → Nat)
    (offset : Nat) {inputs : List ContiguousBuffer} (onHost : ∀ input ∈ inputs, input.OnHost)
    (fits : offset + totalByteSize inputs ≤ task.deferred.pinnedMemorySize) :
    copyTaskChunks env cfg task ticks offset inputs =
      hostCopies cfg.copyOnStream task.deferred.pinnedMemory offset inputs := by
  induction inputs generalizing offset with
  | nil => rfl
  | cons input rest ih =>
      rw [totalByteSize_cons] at fits
      rw [copyTaskChunks, hostCopies_cons, ih _ (fun other member =>
        onHost other (List.mem_cons_of_mem _ member)) (by omega)]
      rw [copyTaskChunk_onHost env cfg (ticks rest.length) (onHost input List.mem_cons_self) fills]
      · rfl
      · simp only
        omega

end

theorem segmentBytes_eq (offset : Nat) (inputs : List ContiguousBuffer) :
    segmentBytes (segmentsFrom offset inputs) = totalByteSize inputs := by
  induction inputs generalizing offset with
  | nil => rfl
  | cons input rest ih =>
      have later := ih (offset + input.byteSize)
      simp only [segmentBytes, segmentsFrom, List.map_cons, List.sum_cons, totalByteSize_cons] at later ⊢
      rw [later]
      rfl

theorem taskSegments_nonempty {stride : Nat} (positive : 0 < stride) (fuel : Nat)
    (pending : List ContiguousBuffer) {segment : List ContiguousBuffer}
    (member : segment ∈ taskSegments stride fuel pending) : segment ≠ [] := by
  induction fuel generalizing pending with
  | zero => cases member
  | succ fuel ih =>
      cases pending with
      | nil => cases member
      | cons input rest =>
          simp only [taskSegments, takeSegment_eq] at member
          rcases List.mem_cons.mp member with rfl | later
          · obtain ⟨less, rfl⟩ := Nat.exists_eq_succ_of_ne_zero (Nat.ne_of_gt positive)
            exact List.cons_ne_nil _ _
          · exact ih _ later

/-! The bytes in the pinned buffer. -/

def segmentCopy (target : Address) (segment : Segment) : Copy Block :=
  laidCopy Segment.offset (fun segment => segment.source.byteSize)
    (fun segment => segment.source.address) target segment

theorem mem_issued_hostCopies (copyOnStream : Bool) {target : Address} {offset : Nat}
    {inputs : List ContiguousBuffer} {effect : Effect Block UInt8} :
    effect ∈ issued (hostCopies copyOnStream target offset inputs) ↔
      ∃ segment ∈ segmentsFrom offset inputs, .copy (segmentCopy target segment) = effect := by
  simp [issued, hostCopies, gatherSegments, segmentCopy, laidCopy, eq_comm (b := effect)]

/-- Once every chunk has been copied to its place, in whatever order, the buffer holds the
chunks one behind the other. -/
theorem stagedBytes_eq {copyOnStream : Bool} {c : Collector} {memory : BackendMemory}
    (sized : c.pendingPinnedByteSize = totalByteSize c.pendingPinnedInputBuffers)
    (staging : IsStaging memory.memoryPtr.block) {actions : List (Action Block UInt8)}
    (same : ∀ action, action ∈ actions ↔ action ∈
      hostCopies copyOnStream memory.memoryPtr 0 c.pendingPinnedInputBuffers)
    (initial : Memory Block UInt8) :
    stagedBytes c memory initial actions =
      (segmentsFrom 0 c.pendingPinnedInputBuffers).flatMap fun segment =>
        valuesAt initial segment.source.address segment.source.byteSize := by
  have settled : (Device.fresh.run (actions ++ [.awaitStream])).queue = [] := by
    rw [run_concat]
    rfl
  have effects (effect : Effect Block UInt8) :
      effect ∈ (Device.fresh.run (actions ++ [.awaitStream])).landed ↔
        ∃ segment ∈ segmentsFrom 0 c.pendingPinnedInputBuffers,
          .copy (segmentCopy memory.memoryPtr segment) = effect := by
    rw [(landed_perm settled).mem_iff, ← mem_issued_hostCopies copyOnStream]
    simp only [issued, List.mem_flatMap, List.mem_append, List.mem_singleton, same]
    constructor
    · rintro ⟨action, present | rfl, inside⟩
      · exact ⟨action, present, inside⟩
      · cases inside
    · rintro ⟨action, present, inside⟩
      exact ⟨action, Or.inl present, inside⟩
  have direct (segment : Segment) : segment.source.address.block ≠ memory.memoryPtr.block := by
    obtain ⟨n, block⟩ := staging
    rw [block]
    exact Block.noConfusion
  have bytes : c.pendingPinnedByteSize = ((segmentsFrom 0 c.pendingPinnedInputBuffers).map
      fun segment => segment.source.byteSize).sum := by
    rw [sized]
    exact (segmentBytes_eq 0 c.pendingPinnedInputBuffers).symm
  rw [stagedBytes, bytes]
  refine applyAll_laid (segmentsFrom_laid 0 c.pendingPinnedInputBuffers)
    (fun segment _ => direct segment) ?_ ?_
  · intro effect landed
    obtain ⟨segment, member, rfl⟩ := (effects effect).mp landed
    exact Or.inl ⟨segment, member, rfl⟩
  · intro segment member _
    exact (effects _).mpr ⟨segment, member, rfl⟩

/-! The asynchronous branch. -/

def flushTask (cfg : CollectorConfig) (c : Collector) (memory : BackendMemory) (tensor : Tensor)
    (offset : Nat) (buffers : List ContiguousBuffer) : Task := {
  flush := c.asyncTaskCount
  incompleteCount := min c.pendingPinnedInputBuffers.length cfg.workerCount
  offset, buffers
  deferred := c.deferral memory.memoryPtr tensor true
  pinnedMemoryType := memory.memoryType
  pinnedMemoryTypeId := memory.memoryTypeId }

section
variable {env : Env} {cfg : CollectorConfig} {c : Collector} {memory : BackendMemory}
  (tensor : Tensor)

theorem allocatePinned_host (allocated : (allocatePinned env c).1 = some memory) :
    memory.memoryPtr = stagingAddress c.nextBlock ∧ memory.memoryType ≠ .gpu ∧
      0 < c.pendingPinnedByteSize ∧ (allocatePinned env c).2.log = c.log := by
  simp only [allocatePinned] at allocated ⊢
  split at allocated
  next bytes =>
    simp only [bytes, if_true]
    rcases createBackendMemory_sys env c.toSys .staging [.cpuPinnedPool, .cpuPinned] 0
      c.pendingPinnedByteSize with ⟨tick, allocType, member, created⟩ | ⟨tick, error, failed⟩
    · rw [created] at allocated ⊢
      obtain rfl := Option.some.inj allocated
      refine ⟨rfl, ?_, trivial, rfl⟩
      simp only [List.mem_cons, List.not_mem_nil, or_false] at member
      rcases member with rfl | rfl
      · exact MemoryType.noConfusion
      · exact MemoryType.noConfusion
    · rw [failed] at allocated
      cases allocated
  next => cases allocated

variable (workers : 2 ≤ cfg.workerCount) (accepted : ∀ tick, (env.addTask tick).code = .success)
  (sized : c.pendingPinnedByteSize = totalByteSize c.pendingPinnedInputBuffers)
  (onHost : ∀ input ∈ c.pendingPinnedInputBuffers, input.OnHost)
  (allocated : (allocatePinned env c).1 = some memory)
include workers allocated

theorem flushPendingPinned_log :
    (flushPendingPinned env cfg c tensor).2.log = (startAsyncFlush env cfg
      (c.withSys (allocatePinned env c).2) memory tensor).log := by
  have async : cfg.useAsyncCpuCopy = true := decide_eq_true (by omega)
  simp [flushPendingPinned, allocated, async, Collector.clearPendingPinned]

theorem flushPendingPinned_logged :
    c.log <+: (flushPendingPinned env cfg c tensor).2.log ∧
      (flushPendingPinned env cfg c tensor).2.toSys.actions = c.actions := by
  obtain ⟨-, -, -, kept⟩ := allocatePinned_host allocated
  rw [Sys.actions, flushPendingPinned_log tensor workers allocated]
  constructor
  · rw [← kept]
    exact reaches_log (enqueueTasks_reaches env _ _ _ _ _ _)
  · have added := (enqueueTasks_added env (flushTask cfg c memory tensor)
      (asyncStride cfg c.pendingPinnedInputBuffers.length) c.pendingPinnedInputBuffers.length 0
      c.pendingPinnedInputBuffers (allocatePinned env c).2).2.1
    rw [Sys.actions, Sys.actions, kept] at added
    exact added

include accepted

theorem flushedTasks_eq :
    flushedTasks env cfg c tensor = laidTasks (flushTask cfg c memory tensor) 0
      (asyncSegments cfg c.pendingPinnedInputBuffers) := by
  obtain ⟨-, -, -, kept⟩ := allocatePinned_host allocated
  obtain ⟨⟨added, split⟩, -⟩ := flushPendingPinned_logged tensor workers allocated
  have queued : addedTasks (startAsyncFlush env cfg (c.withSys (allocatePinned env c).2) memory
      tensor).log = addedTasks (allocatePinned env c).2.log ++
        laidTasks (flushTask cfg c memory tensor) 0
          (asyncSegments cfg c.pendingPinnedInputBuffers) :=
    enqueueTasks_laid accepted _ _ _ _ _ _
  rw [← flushPendingPinned_log tensor workers allocated, ← split, kept, addedTasks_append] at queued
  rw [flushedTasks, ← split, List.drop_left]
  exact List.append_cancel_left queued

theorem flushedTasks_buffers :
    (flushedTasks env cfg c tensor).flatMap Task.buffers = c.pendingPinnedInputBuffers := by
  rw [flushedTasks_eq tensor workers accepted allocated, laidTasks_buffers fun _ _ => rfl,
    asyncSegments_flatten cfg (by omega)]

theorem flushedTasks_segments :
    (flushedTasks env cfg c tensor).flatMap (fun task => segmentsFrom task.offset task.buffers) =
      segmentsFrom 0 c.pendingPinnedInputBuffers := by
  rw [flushedTasks_eq tensor workers accepted allocated,
    laidTasks_segments (fun _ _ => rfl) (fun _ _ => rfl), asyncSegments_flatten cfg (by omega)]

theorem flushedTasks_offset {before after : List Task} {task : Task}
    (split : flushedTasks env cfg c tensor = before ++ task :: after) :
    task.offset = totalByteSize (before.flatMap Task.buffers) := by
  rw [flushedTasks_eq tensor workers accepted allocated] at split
  rw [laidTasks_offset (fun _ _ => rfl) (fun _ _ => rfl) split, Nat.zero_add]

theorem mem_flushedTasks {task : Task} (member : task ∈ flushedTasks env cfg c tensor) :
    ∃ offset, ∃ segment ∈ asyncSegments cfg c.pendingPinnedInputBuffers,
      task = flushTask cfg c memory tensor offset segment := by
  rw [flushedTasks_eq tensor workers accepted allocated] at member
  exact mem_laidTasks member

include sized onHost

theorem flushedTask_fills {task : Task} (member : task ∈ flushedTasks env cfg c tensor) :
    task.FillsOnHost ∧ task.deferred.pinnedMemory = memory.memoryPtr ∧
      task.deferred.tensorBuffer = tensor.buffer ∧ (∀ input ∈ task.buffers, input.OnHost) ∧
        task.offset + totalByteSize task.buffers ≤ task.deferred.pinnedMemorySize := by
  obtain ⟨pointer, host, -, -⟩ := allocatePinned_host allocated
  have staging : IsStaging memory.memoryPtr.block := ⟨c.nextBlock, congrArg Pointer.block pointer⟩
  obtain ⟨before, after, split⟩ := List.append_of_mem member
  have place := flushedTasks_offset tensor workers accepted allocated split
  have parts : c.pendingPinnedInputBuffers =
      before.flatMap Task.buffers ++ (task.buffers ++ after.flatMap Task.buffers) := by
    rw [← flushedTasks_buffers tensor workers accepted allocated, split,
      List.flatMap_append, List.flatMap_cons]
  have fits : task.offset + totalByteSize task.buffers ≤ c.pendingPinnedByteSize := by
    rw [sized, parts, totalByteSize_append, totalByteSize_append]
    omega
  have mine : ∀ input ∈ task.buffers, input.OnHost := by
    intro input inside
    refine onHost input ?_
    rw [parts]
    exact List.mem_append_right _ (List.mem_append_left _ inside)
  obtain ⟨offset, segment, -, rfl⟩ := mem_flushedTasks tensor workers accepted allocated member
  exact ⟨⟨host, staging⟩, rfl, rfl, mine, fits⟩

theorem copies_flushedTask {task : Task} (member : task ∈ flushedTasks env cfg c tensor)
    (ticks : Nat → Nat) : task.copies env cfg ticks =
      hostCopies cfg.copyOnStream memory.memoryPtr task.offset task.buffers := by
  obtain ⟨fills, pointer, -, mine, fits⟩ :=
    flushedTask_fills tensor workers accepted sized onHost allocated member
  rw [← pointer]
  exact copyTaskChunks_onHost env cfg fills ticks task.offset mine fits

/-- Every order of the tasks' copies does what the synchronous loop does. -/
theorem stagedBytes_merged {merged : List (Action Block UInt8)}
    (interleaves : Interleaves ((flushedTasks env cfg c tensor).map fun task =>
      hostCopies cfg.copyOnStream memory.memoryPtr task.offset task.buffers) merged)
    (initial : Memory Block UInt8) :
    stagedBytes c memory initial merged =
      stagedBytes c memory initial (stagingCopies env cfg c memory) := by
  obtain ⟨pointer, -, -, kept⟩ := allocatePinned_host allocated
  have staging : IsStaging memory.memoryPtr.block := ⟨c.nextBlock, congrArg Pointer.block pointer⟩
  have synchronous : stagingCopies env cfg c memory =
      hostCopies cfg.copyOnStream memory.memoryPtr 0 c.pendingPinnedInputBuffers := by
    have began : (c.withSys (allocatePinned env c).2).toSys.actions = c.actions := by
      rw [Sys.actions, Sys.actions, ← kept]
      rfl
    rw [stagingCopies, setInputTensors_onHost env cfg "pinned H2H" _ MemoryType.noConfusion staging 0
      false _ onHost (by simp [sized]), began, List.drop_left]
  have same (action : Action Block UInt8) : action ∈ merged ↔ action ∈
      hostCopies cfg.copyOnStream memory.memoryPtr 0 c.pendingPinnedInputBuffers := by
    rw [interleaves.mem_iff, hostCopies,
      ← flushedTasks_segments tensor workers accepted allocated]
    simp only [hostCopies, gatherSegments, List.mem_map, List.map_map, List.mem_flatMap]
    constructor
    · rintro ⟨_, ⟨task, member, rfl⟩, inside⟩
      obtain ⟨segment, present, rfl⟩ := List.mem_map.mp inside
      exact ⟨segment, ⟨task, member, present⟩, rfl⟩
    · rintro ⟨segment, ⟨task, member, present⟩, rfl⟩
      exact ⟨_, ⟨task, member, rfl⟩, List.mem_map_of_mem present⟩
  rw [stagedBytes_eq sized staging same initial, synchronous,
    stagedBytes_eq sized staging (fun _ => Iff.rfl) initial]

/-- With its chunks on the host and every `AddTask` accepted an asynchronous flush shares
its chunks out. -/
theorem flushPendingPinned_sharesOut : SharesOut env cfg c memory tensor := by
  have positive : 0 < cfg.workerCount := by omega
  have chunks : 0 < c.pendingPinnedInputBuffers.length := by
    obtain ⟨-, -, bytes, -⟩ := allocatePinned_host allocated
    refine List.length_pos_of_ne_nil fun empty => ?_
    rw [sized, empty, totalByteSize_nil] at bytes
    omega
  have segments := flushedTasks_segments tensor workers accepted allocated
  have effects (task : Task) (member : task ∈ flushedTasks env cfg c tensor) (ticks : Nat → Nat)
      (effect : Effect Block UInt8) (issues : effect ∈ issued (task.copies env cfg ticks)) :
      ∃ segment ∈ segmentsFrom task.offset task.buffers,
        .copy (segmentCopy memory.memoryPtr segment) = effect := by
    rw [copies_flushedTask tensor workers accepted sized onHost allocated member] at issues
    exact (mem_issued_hostCopies _).mp issues
  constructor
  case covers => exact flushedTasks_buffers tensor workers accepted allocated
  case nonempty =>
    intro task member
    obtain ⟨start, segment, inside, rfl⟩ := mem_flushedTasks tensor workers accepted allocated member
    exact taskSegments_nonempty (asyncStride_pos positive chunks) _ _ inside
  case few =>
    rw [flushedTasks_eq tensor workers accepted allocated, length_laidTasks, asyncSegments,
      taskSegments_length _ _ _ (asyncStride_pos positive chunks) (Nat.le_refl _)]
    exact Nat.le_trans (taskCount_le cfg _ positive chunks) (Nat.min_le_right _ _)
  case offset =>
    intro before task after split
    exact flushedTasks_offset tensor workers accepted allocated split
  case inside =>
    intro task member ticks effect issues
    obtain ⟨segment, inside, rfl⟩ := effects task member ticks effect issues
    have present : segment ∈ segmentsFrom 0 c.pendingPinnedInputBuffers := by
      rw [← segments]
      exact List.mem_flatMap.mpr ⟨task, member, inside⟩
    have bounds := segmentsFrom_bounds present
    rw [segmentBytes_eq, ← sized] at bounds
    exact inside_advance rfl bounds
  case apart =>
    have ordered := (segmentsFrom_laid 0 c.pendingPinnedInputBuffers).ordered
    rw [← segments, List.pairwise_flatMap] at ordered
    refine ordered.2.imp_of_mem fun {first second} mine theirs later ticks ticks' effect issues
      other otherIssues => ?_
    obtain ⟨segment, inside, rfl⟩ := effects first mine ticks effect issues
    obtain ⟨origin, within, rfl⟩ := effects second theirs ticks' other otherIssues
    have behind := later segment inside origin within
    rintro block position ⟨-, -, upper⟩ ⟨-, lower, -⟩
    simp only [segmentCopy, laidCopy, Effect.target, Effect.byteSize, advance_offset] at upper lower
    omega
  case staged =>
    intro ticks merged interleaves initial
    refine stagedBytes_merged tensor workers accepted sized onHost allocated ?_ initial
    rwa [List.map_congr_left fun task member =>
      copies_flushedTask tensor workers accepted sized onHost allocated member (ticks task)] at interleaves

end

def threePending : Collector := {
  Collector.create (Sys.fresh 3) false with
  pendingPinnedByteSize := 9
  pendingPinnedInputBuffers := [requestChunk 0 16 4 .cpu, requestChunk 1 0 0 .cpu,
    requestChunk 2 32 5 .cpuPinned] }

theorem threePending_onHost : ∀ input ∈ threePending.pendingPinnedInputBuffers, input.OnHost := by
  intro input member
  simp only [threePending, List.mem_cons, List.not_mem_nil, or_false] at member
  rcases member with rfl | rfl | rfl
  · exact ⟨by decide, by decide⟩
  · exact ⟨by decide, by decide⟩
  · exact ⟨by decide, by decide⟩

/-- Two of the chunks go to the first task, one of them without bytes. -/
theorem flushPendingPinned_sharesOut_three : SharesOut (Env.successful gatherSegments) twoWorkers
    threePending { pinnedBlock with byteSize := 9 } (deviceTensor 9) :=
  flushPendingPinned_sharesOut _ (by decide) (fun _ => rfl) (by decide) threePending_onHost rfl

/-! The tasks on the workers. -/

def Action.fills (block : Block) (action : Action Block UInt8) : Bool :=
  action.effects.any fun effect => effect.target.block = block

/-- The chunks that the tasks have still to copy, task by task. -/
def AsyncState.threads (copyOnStream : Bool) (state : AsyncState) :
    List (List (Action Block UInt8)) :=
  (state.running ++ (addedTasks state.pending).map Task.start).map fun running =>
    hostCopies copyOnStream running.task.deferred.pinnedMemory running.offset running.buffers

structure Running.Fills (block : Block) (running : Running) : Prop where
  fills : running.task.FillsOnHost
  pinned : running.task.deferred.pinnedMemory.block = block
  tensor : running.task.deferred.tensorBuffer.block ≠ block
  onHost : ∀ input ∈ running.buffers, input.OnHost
  fits : running.offset + totalByteSize running.buffers ≤ running.task.deferred.pinnedMemorySize

/-- All the tasks fill the block from the host, and the main thread leaves it alone. -/
structure AsyncState.Fills (block : Block) (state : AsyncState) : Prop where
  tasks : ∀ running ∈ state.running ++ (addedTasks state.pending).map Task.start,
    running.Fills block
  main : ∀ event ∈ state.pending, ∀ action, event.action? = some action →
    Action.fills block action = false

section
variable {env : Env} {cfg : CollectorConfig} {block : Block}

theorem finalizeDeferred_spares (tick : Nat) {deferred : DeferredPinned}
    (tensor : deferred.tensorBuffer.block ≠ block) :
    (finalizeDeferred env (Sys.workerAt tick) deferred).2.actions.filter (Action.fills block) = [] := by
  obtain ⟨copied, outcome, -, answers, -⟩ := finalizeDeferred_attempt env (Sys.workerAt tick) deferred
  have fresh (later : Nat) : ({ Sys.workerAt tick with tick := later } : Sys).actions = [] := rfl
  rw [answers_actions answers]
  cases outcome with
  | host =>
      rw [actions_issue]
      simp [Action.fills, Action.effects, Effect.target, drainJob, tensor, Sys.workerAt, Sys.fresh,
        Sys.actions]
  | stream later =>
      rw [actions_issue, fresh]
      simp [Action.fills, Action.effects, Effect.target, drainJob, tensor]
  | failed later error =>
      rw [actions_note, fresh]
      rfl

/-- What a step does to the block, some task does next. -/
def Continues (block : Block) (copyOnStream : Bool) (state state' : AsyncState) : Prop :=
  ∃ later, state'.actions = state.actions ++ later ∧
    ∀ merged, Interleaves (state'.threads copyOnStream) merged →
      Interleaves (state.threads copyOnStream) (later.filter (Action.fills block) ++ merged)

theorem mainStep_continues {state state' : AsyncState} (step : MainStep state state')
    (fills : state.Fills block) (copyOnStream : Bool) :
    state'.Fills block ∧ Continues block copyOnStream state state' := by
  obtain ⟨tasks, main⟩ := fills
  have quietly (rest : List Event) (whole : ∀ event ∈ rest, event ∈ state.pending) :
      ∀ event ∈ rest, ∀ action, event.action? = some action → Action.fills block action = false :=
    fun event member => main event (whole event member)
  cases step with
  | quiet event rest head task get =>
      have same : addedTasks state.pending = addedTasks rest := by
        simp [head, addedTasks_cons, task]
      have none : event.action?.toList.filter (Action.fills block) = [] := by
        refine List.filter_eq_nil_iff.mpr fun action member => ?_
        rw [Option.mem_toList] at member
        simp [main event (head ▸ List.mem_cons_self) action member]
      refine ⟨⟨?_, quietly rest (head ▸ fun _ => List.mem_cons_of_mem _)⟩, _, rfl, ?_⟩
      · rw [same] at tasks
        exact tasks
      · intro merged interleaves
        rw [none, List.nil_append, AsyncState.threads, same]
        exact interleaves
  | add task rest head =>
      have same : state.running ++ (addedTasks state.pending).map Task.start =
          (state.running ++ [task.start]) ++ (addedTasks rest).map Task.start := by
        simp [head, addedTasks_cons, Event.task?]
      refine ⟨⟨?_, quietly rest (head ▸ fun _ => List.mem_cons_of_mem _)⟩, [],
        (List.append_nil _).symm, ?_⟩
      · rw [same] at tasks
        exact tasks
      · intro merged interleaves
        rw [AsyncState.threads, same]
        exact interleaves
  | get result more rest head queue =>
      have same : addedTasks state.pending = addedTasks rest := by
        simp [head, addedTasks_cons, Event.task?]
      refine ⟨⟨?_, quietly rest (head ▸ fun _ => List.mem_cons_of_mem _)⟩, [],
        (List.append_nil _).symm, ?_⟩
      · rw [same] at tasks
        exact tasks
      · intro merged interleaves
        rw [AsyncState.threads, same]
        exact interleaves

theorem taskStep_continues {tick : Nat} {state state' : AsyncState}
    (step : TaskStep env cfg tick state state') (fills : state.Fills block) :
    state'.Fills block ∧ Continues block cfg.copyOnStream state state' := by
  obtain ⟨tasks, main⟩ := fills
  cases step with
  | copy before after running input rest found left =>
      obtain ⟨onBlock, pinned, tensor, onHost, fits⟩ := tasks running (by simp [found])
      rw [left, totalByteSize_cons] at fits
      rw [left] at onHost
      have copied := copyTaskChunk_onHost env cfg tick (onHost input List.mem_cons_self) onBlock
        (by omega)
      have filled : Action.fills block (hostAction cfg.copyOnStream (chunkTransfer input
          (running.task.deferred.pinnedMemory.advance running.offset))) = true := by
        simp [Action.fills, Effect.target, chunkTransfer, pinned]
      refine ⟨⟨?_, main⟩, _, rfl, ?_⟩
      · intro other member
        simp only [List.append_assoc, List.cons_append, List.mem_append, List.mem_cons] at member
        rcases member with early | rfl | late
        · exact tasks other (by simp [found, early])
        · exact ⟨onBlock, pinned, tensor,
            fun later inside => onHost later (List.mem_cons_of_mem _ inside), by simp only; omega⟩
        · refine tasks other ?_
          rw [found]
          simp only [List.append_assoc, List.cons_append, List.mem_append, List.mem_cons]
          exact Or.inr (Or.inr late)
      · intro merged interleaves
        simp only [AsyncState.threads, found, left, copied, List.append_assoc, List.cons_append,
          List.map_append, List.map_cons, hostCopies_cons] at interleaves ⊢
        rw [List.filter_cons_of_pos filled, List.filter_nil, List.singleton_append]
        exact Interleaves.step interleaves
  | finish before after running idx found erased none =>
      obtain ⟨onBlock, pinned, tensor, onHost, fits⟩ := tasks running (by simp [found])
      have ended (state' : AsyncState) (left : state'.running = before ++ after)
          (same : state'.pending = state.pending) :
          state'.Fills block ∧ ∀ merged, Interleaves (state'.threads cfg.copyOnStream) merged →
            Interleaves (state.threads cfg.copyOnStream) merged := by
        refine ⟨⟨?_, same ▸ main⟩, fun merged interleaves => ?_⟩
        · intro other member
          refine tasks other ?_
          rw [left, same] at member
          rw [found]
          simp only [List.append_assoc, List.cons_append, List.mem_append, List.mem_cons] at member ⊢
          tauto
        · simp only [AsyncState.threads, found, left, same, List.append_assoc, List.cons_append,
            List.map_append, List.map_cons, none] at interleaves ⊢
          exact interleaves.drop_ended
      have after := ended (finishTask env tick state idx running.task)
        ((finishTask_running ..).trans erased) (finishTask_pending ..)
      refine ⟨after.1, ?_⟩
      have merges := after.2
      generalize later : finishTask env tick state idx running.task = state' at merges
      simp only [finishTask] at later
      split at later
      next last =>
        subst later
        refine ⟨_, rfl, fun merged interleaves => ?_⟩
        rw [finalizeDeferred_spares tick tensor]
        exact merges merged interleaves
      next =>
        subst later
        exact ⟨[], (List.append_nil _).symm, merges⟩

theorem runs_continues {state state' : AsyncState} (run : state.Runs env cfg state')
    (fills : state.Fills block) :
    state'.Fills block ∧ Continues block cfg.copyOnStream state state' := by
  induction run with
  | refl => exact ⟨fills, [], (List.append_nil _).symm, fun merged interleaves => interleaves⟩
  | tail _ step ih =>
      obtain ⟨between, earlier, actions, merges⟩ := ih
      obtain ⟨after, later, further, continues⟩ : _ ∧ Continues block cfg.copyOnStream _ _ := by
        cases step with
        | main _ _ stepped => exact mainStep_continues (stepMain_cases stepped) between _
        | task tick idx _ _ stepped => exact taskStep_continues (stepTask_cases stepped) between
      refine ⟨after, earlier ++ later, ?_, fun merged interleaves => ?_⟩
      · rw [further, actions, List.append_assoc]
      · rw [List.filter_append, List.append_assoc]
        exact merges _ (continues merged interleaves)

/-- Once no task is left, what was done to the block is an interleaving of the tasks' copies. -/
theorem runs_interleave {state state' : AsyncState} (run : state.Runs env cfg state')
    (fills : state.Fills block) (idle : state'.running = [])
    (none : addedTasks state'.pending = []) :
    ∃ later, state'.actions = state.actions ++ later ∧
      Interleaves (state.threads cfg.copyOnStream) (later.filter (Action.fills block)) := by
  obtain ⟨-, later, actions, merges⟩ := runs_continues run fills
  refine ⟨later, actions, ?_⟩
  rw [← List.append_nil (later.filter _)]
  refine merges [] (Interleaves.done ?_)
  simp [AsyncState.threads, idle, none]

/-- However the tasks of a flush run, the pinned buffer ends up as the synchronous loop leaves it. -/
theorem flushPendingPinned_runs {c : Collector} {memory : BackendMemory} {tensor : Tensor}
    (workers : 2 ≤ cfg.workerCount) (accepted : ∀ tick, (env.addTask tick).code = .success)
    (sized : c.pendingPinnedByteSize = totalByteSize c.pendingPinnedInputBuffers)
    (onHost : ∀ input ∈ c.pendingPinnedInputBuffers, input.OnHost)
    (allocated : (allocatePinned env c).1 = some memory)
    (place : tensor.buffer.block ≠ memory.memoryPtr.block) {state : AsyncState}
    (run : (AsyncState.start ((flushPendingPinned env cfg c tensor).2.log.drop c.log.length)).Runs
      env cfg state)
    (idle : state.running = []) (none : addedTasks state.pending = [])
    (initial : Memory Block UInt8) :
    stagedBytes c memory initial (state.actions.filter (Action.fills memory.memoryPtr.block)) =
      stagedBytes c memory initial (stagingCopies env cfg c memory) := by
  obtain ⟨⟨added, split⟩, actions⟩ := flushPendingPinned_logged tensor workers allocated
  have inactive := inactive_of_actions split actions
  have queued : flushedTasks env cfg c tensor = addedTasks added := by
    rw [flushedTasks, ← split, List.drop_left]
  rw [← split, List.drop_left] at run
  have fills : (AsyncState.start added).Fills memory.memoryPtr.block := by
    constructor
    · intro running member
      simp only [AsyncState.start, List.nil_append, ← queued, List.mem_map] at member
      obtain ⟨task, member, rfl⟩ := member
      obtain ⟨fills, pointer, output, mine, fits⟩ :=
        flushedTask_fills tensor workers accepted sized onHost allocated member
      exact ⟨fills, congrArg Pointer.block pointer, output ▸ place, mine, fits⟩
    · intro event member action found
      rw [inactive event member] at found
      cases found
  obtain ⟨later, done, interleaves⟩ := runs_interleave run fills idle none
  have whole : state.actions = later := done
  rw [whole]
  refine stagedBytes_merged tensor workers accepted sized onHost allocated ?_ initial
  have threads : (AsyncState.start added).threads cfg.copyOnStream =
      (flushedTasks env cfg c tensor).map fun task =>
        hostCopies cfg.copyOnStream memory.memoryPtr task.offset task.buffers := by
    rw [AsyncState.threads, AsyncState.start, List.nil_append, queued, List.map_map]
    refine List.map_congr_left fun task member => ?_
    obtain ⟨-, pointer, -, -, -⟩ :=
      flushedTask_fills tensor workers accepted sized onHost allocated (queued ▸ member)
    rw [← pointer]
    rfl
  rwa [← threads]

end

def threeFlushed : AsyncState :=
  AsyncState.start ((flushPendingPinned (Env.successful gatherSegments) twoWorkers threePending
    (deviceTensor 9)).2.log.drop threePending.log.length)

/-- The second task begins, and the first goes on behind it. -/
theorem flushPendingPinned_runs_three : ∃ state,
    threeFlushed.Runs (Env.successful gatherSegments) twoWorkers state ∧ state.actions.length = 4 ∧
      ∀ initial, stagedBytes threePending { pinnedBlock with byteSize := 9 } initial
          (state.actions.filter (Action.fills pinnedBlock.memoryPtr.block)) =
        stagedBytes threePending { pinnedBlock with byteSize := 9 } initial
          (stagingCopies (Env.successful gatherSegments) twoWorkers threePending
            { pinnedBlock with byteSize := 9 }) := by
  let order : List (Option Nat) :=
    [none, none, none, none, none, some 1, some 0, some 1, some 0, some 0]
  have ends : (threeFlushed.follow (Env.successful gatherSegments) twoWorkers order).map (fun state =>
      (state.running.length, (addedTasks state.pending).length, state.actions.length)) =
      some (0, 0, 4) := by
    decide +kernel
  obtain ⟨state, followed, counts⟩ := Option.map_eq_some_iff.mp ends
  simp only [Prod.mk.injEq, List.length_eq_zero_iff] at counts
  obtain ⟨idle, none, copied⟩ := counts
  have run := follow_runs _ _ followed
  exact ⟨state, run, copied, flushPendingPinned_runs (by decide) (fun _ => rfl) (by decide)
    threePending_onHost rfl (by decide) run idle none⟩

end TritonBackend
