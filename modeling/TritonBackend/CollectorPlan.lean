import TritonBackend.CollectorSteps

/-!
The collector as a courier, without the work queue. Each chunk has a job, the copy to
its place in the tensor. A pending group keeps its jobs on the plan; flushing it makes the
copies or replaces them by copies into a fresh pinned buffer and one copy out of it, which is
made at once or stays on the plan until `finalize`.
-/

namespace TritonBackend

open CopyStream

/-! The device behind the shared state. -/

theorem device_note (s : Sys) {event : Event} (silent : event.action? = none) :
    (s.note event).device = s.device := by
  rw [Sys.device, actions_note, silent, Option.toList_none, List.append_nil, Sys.device]

theorem answers_device {s s' : Sys} (answers : s.Answers s') : s'.device = s.device := by
  rw [Sys.device, Sys.device, answers_actions answers]

theorem queue_issued {actions : List (Action Block UInt8)} {copy : Copy Block}
    (queued : copy ∈ (Device.fresh.run actions).queue) : .copy copy ∈ issued actions := by
  have inOrder : Effect.copy copy ∈ (Device.fresh.run actions).order :=
    List.mem_append_right _ (List.mem_map_of_mem queued)
  simpa [Device.order, Device.fresh] using (order_perm Device.fresh actions).mem_iff.mp inOrder

/-- What a stretch of copies does to the stream: only `cuda` lets the queue grow, and nothing
is recorded. -/
structure Streams (cuda : Bool) (s s' : Sys) : Prop where
  recorded : s'.device.recorded = s.device.recorded
  quiet : cuda = false → s'.device.queue = s.device.queue

theorem Streams.refl (cuda : Bool) (s : Sys) : Streams cuda s s := ⟨rfl, fun _ => rfl⟩

theorem Streams.idle {s s' : Sys} (cuda : Bool) (same : s'.actions = s.actions) :
    Streams cuda s s' := by
  have device : s'.device = s.device := by rw [Sys.device, Sys.device, same]
  exact ⟨by rw [device], fun _ => by rw [device]⟩

theorem Streams.trans {first second : Bool} {s s' s'' : Sys} (early : Streams first s s')
    (late : Streams second s' s'') : Streams (first || second) s s'' := by
  refine ⟨late.recorded.trans early.recorded, ?_⟩
  intro none
  rw [Bool.or_eq_false_iff] at none
  exact (late.quiet none.2).trans (early.quiet none.1)

theorem CopyOutcome.streams {s s' : Sys} {transfer : Copy Block} {result : CopyResult}
    (outcome : CopyOutcome s transfer result) (answers : result.sys.Answers s') :
    Streams result.cudaUsed s s' := by
  have device := answers_device answers
  cases outcome with
  | host =>
      rw [device_issue] at device
      exact ⟨by rw [device]; rfl, fun _ => by rw [device]; rfl⟩
  | stream tick =>
      rw [device_issue] at device
      refine ⟨by rw [device]; rfl, ?_⟩
      intro none
      cases none
  | failed tick error =>
      rw [device_note _ rfl] at device
      exact ⟨by rw [device]; rfl, fun _ => by rw [device]; rfl⟩

/-- Nothing on the stream fills a staging block. -/
def Filled (s : Sys) : Prop := ∀ copy ∈ s.device.queue, ¬ IsStaging copy.target.block

theorem outcome_filled {s s' : Sys} {transfer : Copy Block} {result : CopyResult}
    (outcome : CopyOutcome s transfer result) (answers : result.sys.Answers s')
    (direct : ¬ IsStaging transfer.target.block) (filled : Filled s) : Filled s' := by
  have device := answers_device answers
  intro copy queued
  rw [device] at queued
  cases outcome with
  | host =>
      rw [device_issue] at queued
      exact filled copy queued
  | stream tick =>
      rw [device_issue] at queued
      rcases List.mem_append.mp queued with before | new
      · exact filled copy before
      · rw [List.mem_singleton] at new
        exact new ▸ direct
  | failed tick error =>
      rw [device_note _ rfl] at queued
      exact filled copy queued

/-! The jobs of a group. -/

def chunkTransfer (input : ContiguousBuffer) (target : Address) : Copy Block := {
  source := input.memoryDesc.address
  target
  byteSize := input.byteSize }

def chunkJob (input : ContiguousBuffer) (target : Address) : Job Block Nat := {
  transfer := chunkTransfer input target
  clients := input.requestRange }

def groupJobs (base : Address) (offset : Nat) : List ContiguousBuffer → List (Job Block Nat)
  | [] => []
  | input :: rest =>
      chunkJob input (base.advance offset) :: groupJobs base (offset + input.byteSize) rest

@[simp] theorem totalByteSize_nil : totalByteSize [] = 0 := rfl

@[simp] theorem totalByteSize_cons (input : ContiguousBuffer) (rest : List ContiguousBuffer) :
    totalByteSize (input :: rest) = input.byteSize + totalByteSize rest := rfl

@[simp] theorem totalByteSize_append (first second : List ContiguousBuffer) :
    totalByteSize (first ++ second) = totalByteSize first + totalByteSize second := by
  simp [totalByteSize]

theorem source_direct (input : ContiguousBuffer) : ¬ IsStaging input.memoryDesc.address.block := by
  rintro ⟨n, same⟩
  cases same

theorem groupJobs_append (base : Address) (offset : Nat) (first second : List ContiguousBuffer) :
    groupJobs base offset (first ++ second) =
      groupJobs base offset first ++ groupJobs base (offset + totalByteSize first) second := by
  induction first generalizing offset with
  | nil => simp [groupJobs]
  | cons input rest ih => simp [groupJobs, ih, Nat.add_assoc]

theorem groupJobs_advance (base : Address) (start offset : Nat) (inputs : List ContiguousBuffer) :
    groupJobs (base.advance start) offset inputs = groupJobs base (start + offset) inputs := by
  induction inputs generalizing offset with
  | nil => rfl
  | cons input rest ih => simp [groupJobs, ih, advance_advance, Nat.add_assoc]

theorem mem_groupJobs {base : Address} {offset : Nat} {inputs : List ContiguousBuffer}
    {job : Job Block Nat} (member : job ∈ groupJobs base offset inputs) :
    ∃ before input after, inputs = before ++ input :: after ∧
      job = chunkJob input (base.advance (offset + totalByteSize before)) := by
  induction inputs generalizing offset with
  | nil => simp [groupJobs] at member
  | cons input rest ih =>
      rcases List.mem_cons.mp member with rfl | later
      · exact ⟨[], input, rest, rfl, by simp⟩
      · obtain ⟨before, found, after, split, same⟩ := ih later
        exact ⟨input :: before, found, after, by simp [split], by simp [same, Nat.add_assoc]⟩

theorem groupJobs_of_split (base : Address) (offset : Nat) (before after : List ContiguousBuffer)
    (input : ContiguousBuffer) :
    chunkJob input (base.advance (offset + totalByteSize before)) ∈
      groupJobs base offset (before ++ input :: after) := by
  rw [groupJobs_append]
  exact List.mem_append_right _ List.mem_cons_self

theorem writes_iff (job : Job Block Nat) (block : Block) (position : Int) :
    (job.effect : Effect Block UInt8).Writes block position ↔
      block = job.transfer.target.block ∧ job.transfer.target.offset ≤ position ∧
        position < job.transfer.target.offset + job.transfer.byteSize := Iff.rfl

theorem groupJobs_inside {base : Address} {offset : Nat} {inputs : List ContiguousBuffer}
    {job : Job Block Nat} (member : job ∈ groupJobs base offset inputs) {block : Block}
    {position : Int} (written : (job.effect : Effect Block UInt8).Writes block position) :
    block = base.block ∧ base.offset + offset ≤ position ∧
      position < base.offset + offset + totalByteSize inputs := by
  obtain ⟨before, input, after, rfl, rfl⟩ := mem_groupJobs member
  obtain ⟨same, lower, upper⟩ := (writes_iff _ _ _).mp written
  simp only [chunkJob, chunkTransfer, advance_block, advance_offset] at same lower upper
  refine ⟨same, ?_, ?_⟩
  · omega
  · simp only [totalByteSize_append, totalByteSize_cons]
    omega

theorem groupJobs_apart (base : Address) (offset : Nat) (inputs : List ContiguousBuffer) :
    (groupJobs base offset inputs).Pairwise fun first second =>
      (first.effect : Effect Block UInt8).Apart second.effect := by
  induction inputs generalizing offset with
  | nil => exact List.Pairwise.nil
  | cons input rest ih =>
      refine List.Pairwise.cons ?_ (ih _)
      intro job member block position first second
      obtain ⟨_, _, upper⟩ := (writes_iff _ _ _).mp first
      have lower := (groupJobs_inside member second).2.1
      simp only [chunkJob, chunkTransfer, advance_offset] at upper
      omega

theorem groupJobs_cover {base : Address} {offset : Nat} {inputs : List ContiguousBuffer}
    {position : Int} (lower : base.offset + offset ≤ position)
    (upper : position < base.offset + offset + totalByteSize inputs) :
    ∃ job ∈ groupJobs base offset inputs,
      (job.effect : Effect Block UInt8).Writes base.block position := by
  induction inputs generalizing offset with
  | nil =>
      simp at upper
      omega
  | cons input rest ih =>
      simp only [totalByteSize_cons] at upper
      by_cases first : position < base.offset + offset + input.byteSize
      · refine ⟨_, List.mem_cons_self, (writes_iff _ _ _).mpr ⟨rfl, ?_, ?_⟩⟩
        · simpa [chunkJob, chunkTransfer] using lower
        · simpa [chunkJob, chunkTransfer] using first
      · have found := @ih (offset + input.byteSize) (by omega) (by omega)
        obtain ⟨job, member, written⟩ := found
        exact ⟨job, List.mem_cons_of_mem _ member, written⟩

/-! Copies without staging. -/

/-- The collector is `c` but for the shared state and the buffer-ready event. -/
def Collector.SameGroups (c c' : Collector) : Prop :=
  c' = { c with toSys := c'.toSys, bufferReadyEvent := c'.bufferReadyEvent }

theorem Collector.SameGroups.refl (c : Collector) : c.SameGroups c := rfl

theorem Collector.SameGroups.trans {c c' c'' : Collector} (first : c.SameGroups c')
    (second : c'.SameGroups c'') : c.SameGroups c'' := by
  rw [Collector.SameGroups] at first second ⊢
  rw [second, first]

theorem sameGroups_withSys (c : Collector) (s : Sys) : c.SameGroups (c.withSys s) := rfl

theorem sameGroups_waitBufferReady (c : Collector) : c.SameGroups c.waitBufferReady := by
  rw [Collector.waitBufferReady]
  split <;> rfl

section
variable (env : Env) (cfg : CollectorConfig) (faithful : Prop)

theorem directCopy_sameGroups (c : Collector) (inputName : String) (input : ContiguousBuffer)
    (tensor : Tensor) (offset : Nat) (waitBuffer : Bool) :
    c.SameGroups (directCopy env cfg c inputName input tensor offset waitBuffer).2 := by
  have waited : c.SameGroups (if waitBuffer then c.waitBufferReady else c) := by
    split
    · exact sameGroups_waitBufferReady c
    · exact Collector.SameGroups.refl c
  simp only [directCopy]
  split <;> exact waited.trans (sameGroups_withSys _ _)

theorem directCopy_attempt (c : Collector) (inputName : String) (input : ContiguousBuffer)
    (tensor : Tensor) (offset : Nat) (waitBuffer : Bool) :
    let result := directCopy env cfg c inputName input tensor offset waitBuffer
    ∃ copied, CopyOutcome c.toSys (chunkTransfer input (tensor.buffer.advance offset)) copied ∧
      result.1 = copied.cudaUsed ∧ copied.sys.Answers result.2.toSys ∧
      (copied.error ≠ none → ∀ idx ∈ input.requestRange, result.2.toSys.Gone idx) ∧
      (copied.error = none → result.2.toSys = copied.sys) ∧
      ∀ idx ∉ input.requestRange, result.2.toSys.Gone idx → copied.sys.Gone idx := by
  have waited : (if waitBuffer then c.waitBufferReady else c).toSys = c.toSys := by
    split <;> simp
  have outcome := copyBuffer_outcome env c.toSys inputName input.memoryDesc.memoryType
    input.memoryDesc.memoryTypeId tensor.memoryType tensor.memoryTypeId input.byteSize
    input.memoryDesc.address (tensor.buffer.advance offset) cfg.copyOnStream
  simp only [directCopy, waited]
  generalize copyBuffer env c.toSys _ _ _ _ _ _ _ _ _ = copied at outcome ⊢
  refine ⟨copied, outcome, ?_⟩
  split
  next success =>
    exact ⟨rfl, Sys.Answers.refl _, fun failed => absurd success failed, fun _ => rfl,
      fun idx _ gone => gone⟩
  next error failed =>
    refine ⟨rfl, failRequests_answers _ _ _, fun _ idx member => failRequests_gone _ _ _ member,
      fun success => ?_, fun idx outside gone => failRequests_other _ _ _ outside gone⟩
    rw [failed] at success
    cases success

theorem directCopy_carries (c : Collector) (inputName : String) (input : ContiguousBuffer)
    (tensor : Tensor) (offset : Nat) (waitBuffer : Bool) (rest : List (Job Block Nat)) :
    c.toSys.Carries faithful (chunkJob input (tensor.buffer.advance offset) :: rest)
      (directCopy env cfg c inputName input tensor offset waitBuffer).2.toSys rest := by
  obtain ⟨copied, outcome, _, answers, told, _⟩ :=
    directCopy_attempt env cfg c inputName input tensor offset waitBuffer
  exact outcome.carries answers told (ready_untracked (source_direct input))
    (fun staging => absurd staging (source_direct input))

theorem directCopy_streams (c : Collector) (inputName : String) (input : ContiguousBuffer)
    (tensor : Tensor) (offset : Nat) (waitBuffer : Bool) :
    let result := directCopy env cfg c inputName input tensor offset waitBuffer
    Streams result.1 c.toSys result.2.toSys := by
  obtain ⟨copied, outcome, cuda, answers, _⟩ :=
    directCopy_attempt env cfg c inputName input tensor offset waitBuffer
  simp only [cuda]
  exact outcome.streams answers

theorem setInputTensor_direct (c : Collector) (inputName : String) (input : ContiguousBuffer)
    (tensor : Tensor) (offset : Nat) (waitBuffer : Bool)
    (fits : offset + input.byteSize ≤ tensor.byteSize) :
    setInputTensor env cfg c inputName input tensor offset .cpuPinned false waitBuffer =
      directCopy env cfg c inputName input tensor offset waitBuffer := by
  simp [setInputTensor, Nat.not_lt.mpr fits]

theorem setInputTensors_sameGroups (inputName : String) (tensor : Tensor) (offset : Nat)
    (cudaUsed : Bool) (c : Collector) (inputs : List ContiguousBuffer) :
    c.SameGroups (setInputTensors env cfg inputName tensor offset cudaUsed c inputs).2 := by
  induction inputs generalizing offset cudaUsed c with
  | nil => exact Collector.SameGroups.refl c
  | cons input rest ih =>
      have set : c.SameGroups
          (setInputTensor env cfg c inputName input tensor offset .cpuPinned false true).2 := by
        simp only [setInputTensor, ne_eq, not_true_eq_false, false_and, if_false,
          Bool.false_and, Bool.false_eq_true]
        split
        · exact sameGroups_withSys _ _
        · exact directCopy_sameGroups env cfg c inputName input tensor offset true
      exact set.trans (ih _ _ _)

theorem setInputTensors_carries (inputName : String) (tensor : Tensor) (offset : Nat)
    (cudaUsed : Bool) (c : Collector) (inputs : List ContiguousBuffer)
    (fits : inputs = [] ∨ offset + totalByteSize inputs ≤ tensor.byteSize)
    (rest : List (Job Block Nat)) :
    c.toSys.Carries faithful (groupJobs tensor.buffer offset inputs ++ rest)
      (setInputTensors env cfg inputName tensor offset cudaUsed c inputs).2.toSys rest := by
  induction inputs generalizing offset cudaUsed c with
  | nil => exact Sys.Carries.refl _ _
  | cons input later ih =>
      have within := fits.resolve_left (List.cons_ne_nil _ _)
      rw [totalByteSize_cons] at within
      simp only [setInputTensors]
      rw [setInputTensor_direct env cfg c inputName input tensor offset true (by omega)]
      exact (directCopy_carries env cfg faithful c inputName input tensor offset true _).trans
        (ih _ _ _ (Or.inr (by omega)))

theorem setInputTensors_streams (inputName : String) (tensor : Tensor) (offset : Nat)
    (cudaUsed : Bool) (c : Collector) (inputs : List ContiguousBuffer) :
    let result := setInputTensors env cfg inputName tensor offset cudaUsed c inputs
    Streams result.1 c.toSys result.2.toSys ∧ (cudaUsed = true → result.1 = true) := by
  induction inputs generalizing offset cudaUsed c with
  | nil => exact ⟨Streams.refl _ _, id⟩
  | cons input later ih =>
      have set : Streams
          (setInputTensor env cfg c inputName input tensor offset .cpuPinned false true).1 c.toSys
          (setInputTensor env cfg c inputName input tensor offset .cpuPinned false true).2.toSys := by
        by_cases fits : offset + input.byteSize ≤ tensor.byteSize
        · rw [setInputTensor_direct env cfg c inputName input tensor offset true fits]
          exact directCopy_streams env cfg c inputName input tensor offset true
        · simp only [setInputTensor, gt_iff_lt, Nat.lt_of_not_le fits, if_true]
          exact Streams.idle _ (answers_actions (failRequests_answers _ _ _))
      obtain ⟨streams, grows⟩ := ih (offset + input.byteSize)
        (cudaUsed || (setInputTensor env cfg c inputName input tensor offset .cpuPinned false true).1)
        (setInputTensor env cfg c inputName input tensor offset .cpuPinned false true).2
      simp only [setInputTensors]
      refine ⟨⟨streams.recorded.trans set.recorded, ?_⟩, ?_⟩
      · intro none
        have unused : (setInputTensor env cfg c inputName input tensor offset .cpuPinned false
            true).1 = false := by
          by_contra used
          rw [Bool.not_eq_false] at used
          have flag := grows (by simp [used])
          rw [none] at flag
          cases flag
        exact (streams.quiet none).trans (set.quiet unused)
      · intro used
        exact grows (by simp [used])

/-! Staging. -/

def drainJob (deferred : DeferredPinned) : Job Block Nat := {
  transfer := {
    source := deferred.pinnedMemory
    target := deferred.tensorBuffer.advance deferred.tensorBufferOffset
    byteSize := deferred.pinnedMemorySize }
  clients := deferred.requests.flatMap ContiguousBuffer.requestRange }

def stagingAddress (n : Nat) : Address := { block := .staging n, offset := 0 }

/-- A group goes through a fresh pinned block: its chunks into the block one behind the
other, and the block to where the group lies in the tensor. -/
theorem stage_reroute (n : Nat) (base : Address) (start : Nat) (inputs : List ContiguousBuffer)
    (place : ¬ IsStaging base.block) (old : blockAge base.block ≤ n) (drain : Job Block Nat)
    (source : drain.transfer.source = stagingAddress n)
    (target : drain.transfer.target = base.advance start)
    (size : drain.transfer.byteSize = totalByteSize inputs)
    (clients : ∀ input ∈ inputs, ∀ idx ∈ input.requestRange, idx ∈ drain.clients) :
    Reroute (V := UInt8) IsStaging blockAge faithful n (n + 1) (groupJobs base start inputs)
      (groupJobs (stagingAddress n) 0 inputs ++ [drain]) := by
  constructor
  · intro job member
    obtain ⟨before, input, after, _, rfl⟩ := mem_groupJobs member
    exact ⟨source_direct input, place⟩
  · intro _
    refine List.pairwise_append.mpr ⟨groupJobs_apart _ _ _, List.pairwise_singleton _ _, ?_⟩
    intro fill member last present block position first second
    rw [List.mem_singleton] at present
    subst present
    have inStaging := (groupJobs_inside member first).1
    have inTensor := ((writes_iff _ _ _).mp second).1
    rw [target, advance_block] at inTensor
    exact place ⟨n, inTensor.symm.trans inStaging⟩
  -- the block is new, and the copy out of it writes what the group would have written
  · intro _ job member block position written
    rcases List.mem_append.mp member with fill | last
    · have inStaging := (groupJobs_inside fill written).1
      exact Or.inl (by rw [inStaging]; exact Nat.lt_succ_self n)
    · rw [List.mem_singleton] at last
      subst last
      obtain ⟨same, lower, upper⟩ := (writes_iff _ _ _).mp written
      rw [target, advance_offset] at lower upper
      rw [target, advance_block] at same
      rw [size] at upper
      subst same
      exact Or.inr (groupJobs_cover lower upper)
  · intro job member
    rcases List.mem_append.mp member with fill | last
    · obtain ⟨before, input, after, _, rfl⟩ := mem_groupJobs fill
      exact ⟨Nat.le_refl (n + 1), Nat.zero_le _⟩
    · rw [List.mem_singleton] at last
      subst last
      rw [source, target, advance_block]
      exact ⟨Nat.le_succ_of_le old, Nat.le_refl (n + 1)⟩
  · intro job member staging
    rcases List.mem_append.mp member with fill | last
    · obtain ⟨before, input, after, _, rfl⟩ := mem_groupJobs fill
      exact Nat.lt_succ_self n
    · rw [List.mem_singleton] at last
      subst last
      rw [target, advance_block] at staging
      exact absurd staging place
  · exact Nat.le_succ n
  -- a chunk of the group gets to the tensor in two hops
  · intro _ origin member bytes client served
    obtain ⟨before, input, after, rfl, rfl⟩ := mem_groupJobs member
    refine Or.inr ⟨(stagingAddress n).advance (0 + totalByteSize before), _, _, ⟨n, rfl⟩,
      ⟨_, List.mem_append_left _ (groupJobs_of_split (stagingAddress n) 0 before after input),
        served, rfl⟩,
      ⟨drain, List.mem_append_right _ (List.mem_singleton.mpr rfl), ?_, rfl⟩, carries_self _, ?_⟩
    · exact clients input (by simp) client served
    · refine ⟨totalByteSize before, ?_, ?_, ?_⟩
      · rw [size]
        simp only [totalByteSize_append, totalByteSize_cons, chunkJob, chunkTransfer]
        omega
      · rw [source, Nat.zero_add]
      · rw [target, advance_advance]
        rfl

theorem copyPinned_sameGroups (c : Collector) (memory : BackendMemory) (tensor : Tensor) :
    c.SameGroups (copyPinned env cfg c memory tensor).2 := by
  simp only [copyPinned]
  split <;> exact (sameGroups_waitBufferReady c).trans (sameGroups_withSys _ _)

theorem copyPinned_attempt (c : Collector) (memory : BackendMemory) (tensor : Tensor) :
    let result := copyPinned env cfg c memory tensor
    ∃ copied, CopyOutcome c.toSys
        (drainJob (c.deferral memory.memoryPtr tensor false)).transfer copied ∧
      result.1 = copied.cudaUsed ∧ copied.sys.Answers result.2.toSys ∧
      (copied.error ≠ none → ∀ idx ∈ (drainJob (c.deferral memory.memoryPtr tensor false)).clients,
        result.2.toSys.Gone idx) ∧
      (copied.error = none → result.2.toSys = copied.sys) ∧
      ∀ idx ∉ (drainJob (c.deferral memory.memoryPtr tensor false)).clients,
        result.2.toSys.Gone idx → copied.sys.Gone idx := by
  have waited : c.waitBufferReady.pendingPinnedByteSize = c.pendingPinnedByteSize ∧
      c.waitBufferReady.pendingPinnedOffset = c.pendingPinnedOffset ∧
      c.waitBufferReady.pendingPinnedInputBuffers = c.pendingPinnedInputBuffers := by
    rw [sameGroups_waitBufferReady c]
    exact ⟨rfl, rfl, rfl⟩
  have outcome := copyBuffer_outcome env c.toSys "pinned input buffer H2D" .cpuPinned 0
    tensor.memoryType tensor.memoryTypeId c.pendingPinnedByteSize memory.memoryPtr
    (tensor.buffer.advance c.pendingPinnedOffset) cfg.copyOnStream
  simp only [copyPinned, toSys_waitBufferReady, waited]
  generalize copyBuffer env c.toSys _ _ _ _ _ _ _ _ _ = copied at outcome ⊢
  refine ⟨copied, outcome, ?_⟩
  split
  next success =>
    exact ⟨rfl, Sys.Answers.refl _, fun failed => absurd success failed, fun _ => rfl,
      fun idx _ gone => gone⟩
  next error failed =>
    refine ⟨rfl, failAllRequests_answers _ _ _, fun _ idx member => ?_, fun success => ?_,
      fun idx outside gone => ?_⟩
    · obtain ⟨input, inside, range⟩ := List.mem_flatMap.mp member
      exact failAllRequests_gone _ _ _ inside range
    · rw [failed] at success
      cases success
    · refine failAllRequests_other _ _ _ (fun input member inside => outside ?_) gone
      exact List.mem_flatMap.mpr ⟨input, member, inside⟩

/-- What a flush of the pinned group leaves behind: the block it deferred, if any. -/
structure PinnedFlush (faithful : Prop) (c : Collector) (tensor : Tensor) (rest : List (Job Block Nat))
    (result : Bool × Collector) (added : List DeferredPinned) : Prop where
  carries : c.toSys.Carries faithful
    (groupJobs tensor.buffer c.pendingPinnedOffset c.pendingPinnedInputBuffers ++ rest)
    result.2.toSys (added.map drainJob ++ rest)
  streams : Streams result.1 c.toSys result.2.toSys
  fields : result.2 = { c with
    toSys := result.2.toSys
    bufferReadyEvent := result.2.bufferReadyEvent
    deferredPinned := result.2.deferredPinned
    pendingPinnedByteSize := 0
    pendingPinnedOffset := 0
    pendingPinnedInputBuffers := [] }
  deferred : result.2.deferredPinned = c.deferredPinned ++ added
  cuda : added ≠ [] → result.1 = true
  later : ∀ deferred ∈ added, deferred.finalized = false ∧ IsStaging deferred.pinnedMemory.block ∧
    deferred.tensorBuffer = tensor.buffer

theorem stagePinned_flush (c : Collector) (memory : BackendMemory) (tensor : Tensor)
    (rest : List (Job Block Nat)) (sized : c.pendingPinnedByteSize =
      totalByteSize c.pendingPinnedInputBuffers) (place : ¬ IsStaging tensor.buffer.block)
    (staging : IsStaging memory.memoryPtr.block)
    (planned : ∀ job ∈ rest, job.transfer.target.block ≠ memory.memoryPtr.block)
    (queued : ∀ copy ∈ c.device.queue, copy.target.block ≠ memory.memoryPtr.block) :
    let result := stagePinned env cfg c memory tensor
    ∃ added : List DeferredPinned,
      c.toSys.Carries faithful (groupJobs memory.memoryPtr 0 c.pendingPinnedInputBuffers ++
          drainJob (c.deferral memory.memoryPtr tensor false) :: rest)
        result.2.toSys (added.map drainJob ++ rest) ∧
      Streams result.1 c.toSys result.2.toSys ∧
      result.2 = { c with
        toSys := result.2.toSys
        bufferReadyEvent := result.2.bufferReadyEvent
        deferredPinned := c.deferredPinned ++ added } ∧
      (added ≠ [] → result.1 = true) ∧
      ∀ deferred ∈ added, deferred.finalized = false ∧
        IsStaging deferred.pinnedMemory.block ∧ deferred.tensorBuffer = tensor.buffer := by
  have filled := setInputTensors_carries env cfg faithful "pinned H2H" {
      buffer := memory.memoryPtr
      byteSize := c.pendingPinnedByteSize
      memoryType := .cpuPinned
      memoryTypeId := 0 } 0 false c c.pendingPinnedInputBuffers
    (Or.inr (by simp [sized])) (drainJob (c.deferral memory.memoryPtr tensor false) :: rest)
  have streams := (setInputTensors_streams env cfg "pinned H2H" {
      buffer := memory.memoryPtr
      byteSize := c.pendingPinnedByteSize
      memoryType := .cpuPinned
      memoryTypeId := 0 } 0 false c c.pendingPinnedInputBuffers).1
  have fields := setInputTensors_sameGroups env cfg "pinned H2H" {
      buffer := memory.memoryPtr
      byteSize := c.pendingPinnedByteSize
      memoryType := .cpuPinned
      memoryTypeId := 0 } 0 false c c.pendingPinnedInputBuffers
  simp only [stagePinned]
  generalize setInputTensors env cfg "pinned H2H" _ 0 false c c.pendingPinnedInputBuffers = staged
    at filled streams fields ⊢
  obtain ⟨cuda, after⟩ := staged
  simp only at filled streams fields ⊢
  have same : after.deferral memory.memoryPtr tensor false =
      c.deferral memory.memoryPtr tensor false := by
    rw [fields]
    rfl
  cases cuda with
  | true =>
      -- a chunk is still on its way into the block, so the copy out stays on the plan
      refine ⟨[c.deferral memory.memoryPtr tensor false], filled, streams, ?_, fun _ => rfl, ?_⟩
      · simp only [if_true, same]
        rw [fields]
      · intro deferred member
        rw [List.mem_singleton] at member
        subst member
        exact ⟨rfl, staging, rfl⟩
  | false =>
      -- the block is complete and copied out at once
      obtain ⟨copied, outcome, used, answers, told, _⟩ := copyPinned_attempt env cfg after memory
        tensor
      have kept := copyPinned_sameGroups env cfg after memory tensor
      rw [same] at outcome told
      refine ⟨[], filled.trans ?_, ?_, ?_, fun added => absurd rfl added, by simp⟩
      · refine outcome.carries answers told ?_ ?_
        · intro job member known other present
          rw [List.mem_singleton] at member
          subst member
          rcases List.mem_append.mp present with own | later
          · rw [List.mem_singleton] at own
            subst own
            intro equal
            exact place (by simpa [drainJob, Collector.deferral] using equal ▸ staging)
          · exact planned other later
        · intro known copy member
          rw [streams.quiet rfl] at member
          exact queued copy member
      · have drained := outcome.streams answers
        rw [← used] at drained
        simpa using streams.trans drained
      · simp only [Bool.false_eq_true, if_false, List.append_nil]
        have both := fields.trans kept
        rw [both]

theorem courier_target {s : Sys} {plan : List (Job Block Nat)}
    (numbered : (s.courier plan).Numbered blockAge) {job : Job Block Nat} (member : job ∈ plan) :
    blockAge job.transfer.target.block ≤ s.nextBlock :=
  (numbered job.effect (List.mem_append_right _ (List.mem_map_of_mem member))).1

theorem courier_queue {s : Sys} {plan : List (Job Block Nat)}
    (numbered : (s.courier plan).Numbered blockAge) {copy : Copy Block}
    (member : copy ∈ s.device.queue) : blockAge copy.target.block ≤ s.nextBlock :=
  (numbered (.copy copy) (List.mem_append_left _ (queue_issued member))).1

theorem allocatePinned_cases (c : Collector) :
    (∃ tick memory, memory.memoryPtr = stagingAddress c.nextBlock ∧
      0 < c.pendingPinnedByteSize ∧
      allocatePinned env c = (some memory, { c.toSys with tick, nextBlock := c.nextBlock + 1 })) ∨
    ∃ tick, allocatePinned env c = (none, { c.toSys with tick }) := by
  simp only [allocatePinned]
  split
  next bytes =>
    rcases createBackendMemory_sys env c.toSys .staging [.cpuPinnedPool, .cpuPinned] 0
      c.pendingPinnedByteSize with ⟨tick, allocType, _, created⟩ | ⟨tick, error, failed⟩
    · refine Or.inl ⟨tick, {
          allocType
          memoryTypeId := 0
          memoryPtr := stagingAddress c.nextBlock
          byteSize := c.pendingPinnedByteSize }, rfl, bytes, ?_⟩
      rw [created]
      rfl
    · refine Or.inr ⟨tick, ?_⟩
      rw [failed]
      rfl
  · exact Or.inr ⟨c.tick, rfl⟩

theorem flushPendingPinned_flush (sync : cfg.useAsyncCpuCopy = false) (c : Collector)
    (tensor : Tensor) (rest : List (Job Block Nat))
    (sized : c.pendingPinnedByteSize = totalByteSize c.pendingPinnedInputBuffers)
    (fits : c.pendingPinnedInputBuffers = [] ∨
      c.pendingPinnedOffset + totalByteSize c.pendingPinnedInputBuffers ≤ tensor.byteSize)
    (place : ¬ IsStaging tensor.buffer.block)
    (old : blockAge tensor.buffer.block ≤ c.nextBlock)
    (numbered : (c.toSys.courier
      (groupJobs tensor.buffer c.pendingPinnedOffset c.pendingPinnedInputBuffers ++ rest)).Numbered
        blockAge) :
    ∃ added, PinnedFlush faithful c tensor rest (flushPendingPinned env cfg c tensor) added := by
  rcases allocatePinned_cases env c with
    ⟨tick, memory, pointer, bytes, allocated⟩ | ⟨tick, allocated⟩
  -- with a block to stage in, the plan is rerouted through it
  · have fresh (block : Block) (aged : blockAge block ≤ c.nextBlock) :
        block ≠ memory.memoryPtr.block := by
      rintro rfl
      rw [pointer] at aged
      exact Nat.not_succ_le_self _ aged
    have rerouted := Sys.Carries.reroute c.toSys tick rest
      (stage_reroute faithful c.nextBlock tensor.buffer c.pendingPinnedOffset c.pendingPinnedInputBuffers
        place old (drainJob (c.deferral memory.memoryPtr tensor false)) pointer rfl sized
        (fun input member idx inside => List.mem_flatMap.mpr ⟨input, member, inside⟩))
    obtain ⟨added, carries, streams, fields, cuda, later⟩ := stagePinned_flush env cfg faithful
      (c.withSys { c.toSys with tick, nextBlock := c.nextBlock + 1 }) memory tensor rest sized place
      ⟨c.nextBlock, by rw [pointer]; rfl⟩
      (fun job member => fresh _ (courier_target numbered (List.mem_append_right _ member)))
      (fun copy member => fresh _ (courier_queue numbered member))
    refine ⟨added, ?_⟩
    rw [List.append_assoc, ← pointer] at rerouted
    simp only [flushPendingPinned, allocated, sync, Bool.false_eq_true, if_false]
    generalize stagePinned env cfg (c.withSys { c.toSys with tick, nextBlock := c.nextBlock + 1 })
      memory tensor = result at carries streams fields cuda ⊢
    constructor
    · exact rerouted.trans carries
    · exact ⟨streams.recorded, streams.quiet⟩
    · rw [fields]
      rfl
    · rw [fields]
      rfl
    · exact cuda
    · exact later
  -- without one the chunks of the group are copied straight to the tensor
  · refine ⟨[], ?_⟩
    have carries := setInputTensors_carries env cfg faithful "pinned fallback" tensor c.pendingPinnedOffset
      false (c.withSys { c.toSys with tick }) c.pendingPinnedInputBuffers fits rest
    have streams := (setInputTensors_streams env cfg "pinned fallback" tensor
      c.pendingPinnedOffset false (c.withSys { c.toSys with tick }) c.pendingPinnedInputBuffers).1
    have fields := setInputTensors_sameGroups env cfg "pinned fallback" tensor
      c.pendingPinnedOffset false (c.withSys { c.toSys with tick }) c.pendingPinnedInputBuffers
    have counted : Sys.Carries faithful _ _ _ _ := Sys.Carries.idle (Sys.Reaches.count c.toSys tick) rfl
      (groupJobs tensor.buffer c.pendingPinnedOffset c.pendingPinnedInputBuffers ++ rest)
    simp only [flushPendingPinned, allocated]
    have offset : (c.withSys { c.toSys with tick }).pendingPinnedOffset = c.pendingPinnedOffset := rfl
    have pending : (c.withSys { c.toSys with tick }).pendingPinnedInputBuffers =
      c.pendingPinnedInputBuffers := rfl
    rw [offset, pending]
    generalize setInputTensors env cfg "pinned fallback" tensor c.pendingPinnedOffset false
      (c.withSys { c.toSys with tick }) c.pendingPinnedInputBuffers = result
      at carries streams fields ⊢
    constructor
    · exact counted.trans carries
    · exact ⟨streams.recorded, streams.quiet⟩
    · rw [fields]
      rfl
    · rw [fields]
      simp [Collector.clearPendingPinned, Collector.withSys]
    · intro added
      exact absurd rfl added
    · simp

end

end TritonBackend
