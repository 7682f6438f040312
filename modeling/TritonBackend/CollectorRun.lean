import TritonBackend.CollectorKernel

/-!
`ProcessTensor` on a sequence of chunks. The chunks that fit are promised their places in
the tensor; what the two pending groups and the deferred blocks still owe stays on the plan
until the groups are flushed and `finalize` drains the blocks.
-/

namespace TritonBackend

open CopyStream

def fittingJob (tensor : Tensor) (offset : Nat) (input : ContiguousBuffer) : List (Job Block Nat) :=
  if offset + input.byteSize ≤ tensor.byteSize then
    [chunkJob input (tensor.buffer.advance offset)] else []

def tensorJobs (tensor : Tensor) (offset : Nat) : List ContiguousBuffer → List (Job Block Nat)
  | [] => []
  | input :: rest =>
      fittingJob tensor offset input ++ tensorJobs tensor (offset + input.byteSize) rest

def Collector.waiting (c : Collector) (tensor : Tensor) : List (Job Block Nat) :=
  groupJobs tensor.buffer c.pendingPinnedOffset c.pendingPinnedInputBuffers ++
    (groupJobs tensor.buffer c.pendingCopyKernelBufferOffset c.pendingCopyKernelInputBuffers ++
      c.deferredPinned.map drainJob)

/-- The counters of the two groups agree with their chunks, the groups fit in the tensor, and a
deferred block is waited for. -/
structure Collector.Tidy (c : Collector) (byteSize : Nat) : Prop where
  pinnedSized : c.pendingPinnedByteSize = totalByteSize c.pendingPinnedInputBuffers
  pinnedFits : c.pendingPinnedInputBuffers = [] ∨
    c.pendingPinnedOffset + totalByteSize c.pendingPinnedInputBuffers ≤ byteSize
  kernelSized : c.pendingCopyKernelBufferByteSize = totalByteSize c.pendingCopyKernelInputBuffers
  kernelCounted : c.pendingCopyKernelInputBufferCounts = c.pendingCopyKernelInputBuffers.length
  kernelIdle : c.pendingCopyKernelInputBuffers = [] → c.pendingCopyKernelBufferOffset = 0
  kernelFits : c.pendingCopyKernelInputBuffers = [] ∨
    c.pendingCopyKernelBufferOffset + totalByteSize c.pendingCopyKernelInputBuffers ≤ byteSize
  drains : ∀ deferred ∈ c.deferredPinned,
    deferred.finalized = false ∧ ¬ IsStaging deferred.tensorBuffer.block
  owed : c.deferredPinned ≠ [] → c.needSync = true
  alone : c.asyncTaskCount = 0

/-- `need_sync_` covers every copy put on the stream, and nothing is recorded. -/
def Collector.Tracks (c c' : Collector) : Prop :=
  c'.device.recorded = c.device.recorded ∧
    (c'.needSync = false → c.needSync = false ∧ c'.device.queue = c.device.queue)

theorem Collector.Tracks.refl (c : Collector) : c.Tracks c := ⟨rfl, fun none => ⟨none, rfl⟩⟩

theorem Collector.Tracks.trans {c c' c'' : Collector} (first : c.Tracks c')
    (second : c'.Tracks c'') : c.Tracks c'' := by
  refine ⟨second.1.trans first.1, fun none => ?_⟩
  obtain ⟨before, sameLate⟩ := second.2 none
  obtain ⟨start, sameEarly⟩ := first.2 before
  exact ⟨start, sameLate.trans sameEarly⟩

@[simp] theorem orSync_false (c : Collector) : orSync (false, c) = c := by
  simp [orSync]

theorem tracks_orSync {c : Collector} {result : Bool × Collector}
    (streams : Streams result.1 c.toSys result.2.toSys) (flag : result.2.needSync = c.needSync) :
    c.Tracks (orSync result) := by
  refine ⟨streams.recorded, fun none => ?_⟩
  simp only [orSync, Bool.or_eq_false_iff] at none
  exact ⟨flag ▸ none.1, streams.quiet none.2⟩

/-! The kernel groups of a sequence of chunks. They depend on nothing but the chunks, the
tensor and the settings. -/

section
variable (cfg : CollectorConfig) (tensor : Tensor)

def fitsTensor (offset : Nat) (input : ContiguousBuffer) : Bool :=
  offset + input.byteSize ≤ tensor.byteSize

def pinnedBound (offset : Nat) (input : ContiguousBuffer) : Bool :=
  fitsTensor tensor offset input && (usePinnedMemoryType cfg tensor ≠ .cpuPinned &&
    input.memoryDesc.memoryType = usePinnedMemoryType cfg tensor)

def kernelBound (offset : Nat) (input : ContiguousBuffer) : Bool :=
  fitsTensor tensor offset input && (!pinnedBound cfg tensor offset input &&
    (useKernel cfg && kernelCopies input tensor))

def groupEnds (group : List ContiguousBuffer) (start offset : Nat) : Bool :=
  0 < totalByteSize group && offset ≠ totalByteSize group + start

def groupStart (group : List ContiguousBuffer) (start offset : Nat) : Nat :=
  if totalByteSize group = 0 then offset else start

def kernelStep (group : List ContiguousBuffer) (start offset : Nat) (input : ContiguousBuffer) :
    List ContiguousBuffer × Nat :=
  let kept := if groupEnds group start offset then ([], 0) else (group, start)
  if kernelBound cfg tensor offset input then
    (kept.1 ++ [input], groupStart kept.1 kept.2 offset)
  else kept

/-- Every group that is flushed while the chunks go by, and the one left at the end, each with its
offset. -/
def kernelGroups (group : List ContiguousBuffer) (start offset : Nat) :
    List ContiguousBuffer → List (List ContiguousBuffer × Nat)
  | [] => [(group, start)]
  | input :: rest =>
      let next := kernelStep cfg tensor group start offset input
      (if groupEnds group start offset then [(group, start)] else []) ++
        kernelGroups next.1 next.2 (offset + input.byteSize) rest

end

/-! Flushing a group. -/

section
variable (env : Env) (cfg : CollectorConfig) (faithful : Prop)

/-- The collector gets from `c` to `c'`, doing or taking over the jobs ahead of `rest`. -/
structure Moves (tensor : Tensor) (rest : List (Job Block Nat)) (c : Collector)
    (jobs : List (Job Block Nat)) (c' : Collector) : Prop where
  carries : c.toSys.Carries faithful (c.waiting tensor ++ (jobs ++ rest)) c'.toSys
    (c'.waiting tensor ++ rest)
  tidy : c'.Tidy tensor.byteSize
  tracks : c.Tracks c'

theorem Moves.trans (first second : List (Job Block Nat)) {tensor : Tensor}
    {rest : List (Job Block Nat)} {c c' c'' : Collector}
    (early : Moves faithful tensor (second ++ rest) c first c')
    (late : Moves faithful tensor rest c' second c'') :
    Moves faithful tensor rest c (first ++ second) c'' := by
  refine ⟨?_, late.tidy, early.tracks.trans late.tracks⟩
  rw [List.append_assoc]
  exact early.carries.trans late.carries

theorem Moves.refl {tensor : Tensor} {c : Collector} (tidy : c.Tidy tensor.byteSize)
    (rest : List (Job Block Nat)) : Moves faithful tensor rest c [] c :=
  ⟨Sys.Carries.refl _ _, tidy, Collector.Tracks.refl c⟩

/-- A tensor buffer that was there before anything was staged. -/
structure Tensor.Placed (tensor : Tensor) (s : Sys) : Prop where
  direct : ¬ IsStaging tensor.buffer.block
  old : blockAge tensor.buffer.block ≤ s.nextBlock

theorem Tensor.Placed.mono {tensor : Tensor} {s s' : Sys} (placed : tensor.Placed s)
    (reaches : s.Reaches s') : tensor.Placed s' :=
  ⟨placed.direct, Nat.le_trans placed.old (reaches_nextBlock reaches)⟩

theorem flushPendingPinned_moves (sync : cfg.useAsyncCpuCopy = false) {c : Collector}
    {tensor : Tensor} {rest : List (Job Block Nat)} (tidy : c.Tidy tensor.byteSize)
    (placed : tensor.Placed c.toSys)
    (numbered : (c.toSys.courier (c.waiting tensor ++ rest)).Numbered blockAge) :
    let c' := orSync (flushPendingPinned env cfg c tensor)
    Moves faithful tensor rest c [] c' ∧ c'.pendingPinnedInputBuffers = [] ∧
      c'.pendingCopyKernelInputBuffers = c.pendingCopyKernelInputBuffers ∧
      c'.pendingCopyKernelBufferOffset = c.pendingCopyKernelBufferOffset := by
  have shape : c.waiting tensor ++ rest =
      groupJobs tensor.buffer c.pendingPinnedOffset c.pendingPinnedInputBuffers ++
        ((groupJobs tensor.buffer c.pendingCopyKernelBufferOffset c.pendingCopyKernelInputBuffers ++
          c.deferredPinned.map drainJob) ++ rest) := by
    simp [Collector.waiting]
  rw [shape] at numbered
  obtain ⟨added, flush⟩ := flushPendingPinned_flush env cfg faithful sync c tensor _
    tidy.pinnedSized tidy.pinnedFits placed.direct placed.old numbered
  obtain ⟨carries, streams, fields, deferred, cuda, later⟩ := flush
  generalize flushPendingPinned env cfg c tensor = result at carries streams fields deferred cuda ⊢
  obtain ⟨used, after⟩ := result
  simp only at carries streams fields deferred cuda
  refine ⟨⟨?_, ?_, tracks_orSync streams (by rw [fields])⟩, ?_, ?_, ?_⟩
  -- the flush works at the front of the plan; what it defers belongs at its end
  · rw [List.nil_append, shape]
    refine carries.trans (Sys.Carries.shuffle _ ?_)
    have drained : (orSync (used, after)).waiting tensor =
        (groupJobs tensor.buffer c.pendingCopyKernelBufferOffset c.pendingCopyKernelInputBuffers ++
          c.deferredPinned.map drainJob) ++ added.map drainJob := by
      simp only [Collector.waiting, orSync]
      rw [fields]
      simp only [deferred, groupJobs, List.map_append, List.nil_append, List.append_assoc]
    rw [drained, ← List.append_assoc]
    exact List.perm_append_comm.append_right rest
  · have pinned : (orSync (used, after)).pendingPinnedInputBuffers = [] := by
      simp only [orSync]
      rw [fields]
    refine ⟨?_, Or.inl pinned, ?_, ?_, ?_, ?_, ?_, ?_, ?_⟩ <;> simp only [orSync] <;> rw [fields]
    · rfl
    · exact tidy.kernelSized
    · exact tidy.kernelCounted
    · exact tidy.kernelIdle
    · exact tidy.kernelFits
    · intro block member
      simp only [deferred, List.mem_append] at member
      rcases member with before | new
      · exact tidy.drains block before
      · obtain ⟨unfinished, _, same⟩ := later block new
        exact ⟨unfinished, same ▸ placed.direct⟩
    · intro some
      simp only [deferred, ne_eq, List.append_eq_nil_iff, not_and_or] at some
      rcases some with before | new
      · simp [tidy.owed before]
      · simp [cuda new]
    · exact tidy.alone
  · simp only [orSync]
    rw [fields]
  · simp only [orSync]
    rw [fields]
  · simp only [orSync]
    rw [fields]

theorem flushPendingCopyKernel_moves {c : Collector} {tensor : Tensor}
    (rest : List (Job Block Nat)) (tidy : c.Tidy tensor.byteSize) (placed : tensor.Placed c.toSys)
    (performs : cfg.kernelBufferThreshold ≤ c.pendingCopyKernelInputBuffers.length →
      Performs env faithful c.pendingCopyKernelInputBuffers) :
    let c' := orSync (flushPendingCopyKernel env cfg c tensor)
    Moves faithful tensor rest c [] c' ∧ c'.pendingCopyKernelInputBuffers = [] ∧
      c'.pendingCopyKernelBufferOffset = 0 ∧
      c'.pendingPinnedInputBuffers = c.pendingPinnedInputBuffers ∧
      c'.pendingPinnedOffset = c.pendingPinnedOffset := by
  have flush := flushPendingCopyKernel_flush env cfg faithful c tensor
    (groupJobs tensor.buffer c.pendingPinnedOffset c.pendingPinnedInputBuffers ++
      c.deferredPinned.map drainJob ++ rest) tidy.kernelSized tidy.kernelCounted tidy.kernelIdle
    tidy.kernelFits placed.direct placed.old performs
  obtain ⟨carries, streams, fields⟩ := flush
  generalize flushPendingCopyKernel env cfg c tensor = result at carries streams fields ⊢
  obtain ⟨used, after⟩ := result
  simp only at carries streams fields
  refine ⟨⟨?_, ?_, tracks_orSync streams (by rw [fields])⟩, ?_, ?_, ?_, ?_⟩
  · have front : (c.waiting tensor ++ ([] ++ rest)).Perm
        (groupJobs tensor.buffer c.pendingCopyKernelBufferOffset c.pendingCopyKernelInputBuffers ++
          (groupJobs tensor.buffer c.pendingPinnedOffset c.pendingPinnedInputBuffers ++
            c.deferredPinned.map drainJob ++ rest)) := by
      simp only [Collector.waiting, List.nil_append, ← List.append_assoc]
      exact (List.perm_append_comm.append_right _).append_right _
    refine (Sys.Carries.shuffle _ front).trans ?_
    have left : (orSync (used, after)).waiting tensor =
        groupJobs tensor.buffer c.pendingPinnedOffset c.pendingPinnedInputBuffers ++
          c.deferredPinned.map drainJob := by
      simp only [Collector.waiting, orSync]
      rw [fields]
      simp [groupJobs]
    rw [left]
    exact carries
  · refine ⟨?_, ?_, ?_, ?_, ?_, ?_, ?_, ?_, ?_⟩ <;> simp only [orSync] <;> rw [fields]
    · exact tidy.pinnedSized
    · exact tidy.pinnedFits
    · rfl
    · rfl
    · intro _
      rfl
    · exact Or.inl rfl
    · exact tidy.drains
    · intro some
      simp [tidy.owed some]
    · exact tidy.alone
  · simp only [orSync]
    rw [fields]
  · simp only [orSync]
    rw [fields]
  · simp only [orSync]
    rw [fields]
  · simp only [orSync]
    rw [fields]

theorem flushPinnedBefore_moves (sync : cfg.useAsyncCpuCopy = false) {c : Collector}
    {tensor : Tensor} {rest : List (Job Block Nat)} (tidy : c.Tidy tensor.byteSize)
    (placed : tensor.Placed c.toSys) (offset : Nat)
    (numbered : (c.toSys.courier (c.waiting tensor ++ rest)).Numbered blockAge) :
    let c' := flushPinnedBefore env cfg c tensor offset
    Moves faithful tensor rest c [] c' ∧
      (0 < totalByteSize c'.pendingPinnedInputBuffers →
        offset = totalByteSize c'.pendingPinnedInputBuffers + c'.pendingPinnedOffset) ∧
      c'.pendingCopyKernelInputBuffers = c.pendingCopyKernelInputBuffers ∧
      c'.pendingCopyKernelBufferOffset = c.pendingCopyKernelBufferOffset := by
  simp only [flushPinnedBefore]
  split
  next ends =>
    obtain ⟨moves, none, buffers, start⟩ := flushPendingPinned_moves env cfg faithful sync tidy placed
      numbered
    refine ⟨moves, ?_, buffers, start⟩
    intro some
    simp [none] at some
  next stays =>
    refine ⟨Moves.refl faithful tidy rest, ?_, rfl, rfl⟩
    intro some
    by_contra apart
    rw [tidy.pinnedSized] at stays
    exact stays ⟨some, apart⟩

theorem flushCopyKernelBefore_moves {c : Collector} {tensor : Tensor}
    (rest : List (Job Block Nat)) (tidy : c.Tidy tensor.byteSize) (placed : tensor.Placed c.toSys)
    (offset : Nat)
    (performs : groupEnds c.pendingCopyKernelInputBuffers c.pendingCopyKernelBufferOffset offset →
      cfg.kernelBufferThreshold ≤ c.pendingCopyKernelInputBuffers.length →
      Performs env faithful c.pendingCopyKernelInputBuffers) :
    let c' := flushCopyKernelBefore env cfg c tensor offset
    Moves faithful tensor rest c [] c' ∧
      (c'.pendingCopyKernelInputBuffers, c'.pendingCopyKernelBufferOffset) =
        (if groupEnds c.pendingCopyKernelInputBuffers c.pendingCopyKernelBufferOffset offset then
          ([], 0) else (c.pendingCopyKernelInputBuffers, c.pendingCopyKernelBufferOffset)) ∧
      c'.pendingPinnedInputBuffers = c.pendingPinnedInputBuffers ∧
      c'.pendingPinnedOffset = c.pendingPinnedOffset := by
  have same : groupEnds c.pendingCopyKernelInputBuffers c.pendingCopyKernelBufferOffset offset = true ↔
      c.pendingCopyKernelBufferByteSize > 0 ∧
        offset ≠ c.pendingCopyKernelBufferByteSize + c.pendingCopyKernelBufferOffset := by
    simp [groupEnds, tidy.kernelSized]
  simp only [flushCopyKernelBefore]
  split
  next ends =>
    have flushed := same.mpr ends
    obtain ⟨moves, none, start, pinned⟩ := flushPendingCopyKernel_moves env cfg faithful rest
      tidy placed (performs flushed)
    refine ⟨moves, ?_, pinned⟩
    rw [none, start, if_pos flushed]
  next stays =>
    refine ⟨Moves.refl faithful tidy rest, ?_, rfl, rfl⟩
    rw [if_neg (mt same.mp stays)]

/-! One chunk. -/

theorem empty_reroute (n : Nat) (base : Address) (start start' : Nat)
    (inputs : List ContiguousBuffer) (place : ¬ IsStaging base.block)
    (old : blockAge base.block ≤ n) (empty : totalByteSize inputs = 0) :
    Reroute (V := UInt8) IsStaging blockAge faithful n n (groupJobs base start inputs)
      (groupJobs base start' inputs) := by
  constructor
  · intro job member
    obtain ⟨before, input, after, _, rfl⟩ := mem_groupJobs member
    exact ⟨source_direct input, place⟩
  · intro _
    exact groupJobs_apart base start' inputs
  · intro _ job member block position written
    obtain ⟨_, lower, upper⟩ := groupJobs_inside member written
    omega
  · intro job member
    obtain ⟨before, input, after, _, rfl⟩ := mem_groupJobs member
    exact ⟨old, Nat.zero_le n⟩
  · intro job member staging
    obtain ⟨before, input, after, _, rfl⟩ := mem_groupJobs member
    exact absurd staging place
  · exact Nat.le_refl n
  · intro _ origin member bytes
    obtain ⟨before, input, after, rfl, rfl⟩ := mem_groupJobs member
    simp only [totalByteSize_append, totalByteSize_cons] at empty
    simp only [chunkJob, chunkTransfer] at bytes
    omega

theorem grow_carries (s : Sys) (base : Address) (start offset : Nat)
    (inputs : List ContiguousBuffer) (input : ContiguousBuffer) (rest : List (Job Block Nat))
    (place : ¬ IsStaging base.block) (old : blockAge base.block ≤ s.nextBlock)
    (aligned : 0 < totalByteSize inputs → offset = totalByteSize inputs + start) :
    s.Carries faithful
      (groupJobs base start inputs ++ (chunkJob input (base.advance offset) :: rest)) s
      (groupJobs base (groupStart inputs start offset) (inputs ++ [input]) ++ rest) := by
  by_cases empty : totalByteSize inputs = 0
  · have moved : Sys.Carries faithful s _ _ _ := Sys.Carries.reroute s s.tick
      (chunkJob input (base.advance offset) :: rest)
      (empty_reroute faithful s.nextBlock base start offset inputs place old empty)
    simpa [groupStart, empty, groupJobs_append, groupJobs] using moved
  · have ends := aligned (Nat.pos_of_ne_zero empty)
    rw [groupStart, if_neg empty, groupJobs_append, List.append_assoc, ends, Nat.add_comm]
    exact Sys.Carries.refl _ _

theorem addPendingPinned_moves {c : Collector} {tensor : Tensor} {rest : List (Job Block Nat)}
    (tidy : c.Tidy tensor.byteSize) (placed : tensor.Placed c.toSys) {offset : Nat}
    {input : ContiguousBuffer} (fits : offset + input.byteSize ≤ tensor.byteSize)
    (aligned : 0 < totalByteSize c.pendingPinnedInputBuffers →
      offset = totalByteSize c.pendingPinnedInputBuffers + c.pendingPinnedOffset) :
    Moves faithful tensor rest c [chunkJob input (tensor.buffer.advance offset)]
      (c.addPendingPinned input offset) := by
  have start : (c.addPendingPinned input offset).pendingPinnedOffset =
      groupStart c.pendingPinnedInputBuffers c.pendingPinnedOffset offset := by
    simp [Collector.addPendingPinned, groupStart, tidy.pinnedSized]
  constructor
  · have grown := grow_carries faithful c.toSys tensor.buffer c.pendingPinnedOffset offset
      c.pendingPinnedInputBuffers input
      ((groupJobs tensor.buffer c.pendingCopyKernelBufferOffset c.pendingCopyKernelInputBuffers ++
        c.deferredPinned.map drainJob) ++ rest) placed.direct placed.old aligned
    have front : (c.waiting tensor ++
        ([chunkJob input (tensor.buffer.advance offset)] ++ rest)).Perm
        (groupJobs tensor.buffer c.pendingPinnedOffset c.pendingPinnedInputBuffers ++
          (chunkJob input (tensor.buffer.advance offset) ::
            ((groupJobs tensor.buffer c.pendingCopyKernelBufferOffset c.pendingCopyKernelInputBuffers ++
              c.deferredPinned.map drainJob) ++ rest))) := by
      rw [Collector.waiting, List.append_assoc]
      exact List.perm_middle.append_left _
    refine (Sys.Carries.shuffle _ front).trans ?_
    rw [Collector.waiting, start, List.append_assoc (groupJobs _ (groupStart _ _ _) _)]
    exact grown
  · refine ⟨?_, Or.inr ?_, tidy.kernelSized, tidy.kernelCounted, tidy.kernelIdle, tidy.kernelFits,
      tidy.drains, tidy.owed, tidy.alone⟩
    · simp [Collector.addPendingPinned, tidy.pinnedSized]
    · rw [start]
      simp only [Collector.addPendingPinned, groupStart, totalByteSize_append, totalByteSize_cons,
        totalByteSize_nil]
      split <;> omega
  · exact Collector.Tracks.refl c

theorem addPendingCopyKernel_moves {c : Collector} {tensor : Tensor} {rest : List (Job Block Nat)}
    (tidy : c.Tidy tensor.byteSize) (placed : tensor.Placed c.toSys) {offset : Nat}
    {input : ContiguousBuffer} (fits : offset + input.byteSize ≤ tensor.byteSize)
    (aligned : 0 < totalByteSize c.pendingCopyKernelInputBuffers →
      offset = totalByteSize c.pendingCopyKernelInputBuffers + c.pendingCopyKernelBufferOffset) :
    Moves faithful tensor rest c [chunkJob input (tensor.buffer.advance offset)]
      (c.addPendingCopyKernel input offset) := by
  have start : (c.addPendingCopyKernel input offset).pendingCopyKernelBufferOffset =
      groupStart c.pendingCopyKernelInputBuffers c.pendingCopyKernelBufferOffset offset := by
    simp [Collector.addPendingCopyKernel, groupStart, tidy.kernelSized]
  constructor
  · have grown := grow_carries faithful c.toSys tensor.buffer c.pendingCopyKernelBufferOffset offset
      c.pendingCopyKernelInputBuffers input
      (groupJobs tensor.buffer c.pendingPinnedOffset c.pendingPinnedInputBuffers ++
        c.deferredPinned.map drainJob ++ rest) placed.direct placed.old aligned
    have swap (kernel tail : List (Job Block Nat)) :
        (groupJobs tensor.buffer c.pendingPinnedOffset c.pendingPinnedInputBuffers ++
          (kernel ++ c.deferredPinned.map drainJob) ++ tail).Perm
        (kernel ++ (groupJobs tensor.buffer c.pendingPinnedOffset c.pendingPinnedInputBuffers ++
          c.deferredPinned.map drainJob ++ tail)) := by
      simp only [← List.append_assoc]
      exact (List.perm_append_comm.append_right _).append_right _
    refine (Sys.Carries.shuffle _ ((swap _ _).trans (List.Perm.append_left _ ?_))).trans
      (grown.trans (Sys.Carries.shuffle _ ?_))
    · exact List.perm_middle
    · rw [Collector.waiting, start]
      exact (swap _ _).symm
  · refine ⟨tidy.pinnedSized, tidy.pinnedFits, ?_, ?_, ?_, Or.inr ?_, tidy.drains, tidy.owed, tidy.alone⟩
    · simp [Collector.addPendingCopyKernel, tidy.kernelSized]
    · simp [Collector.addPendingCopyKernel, tidy.kernelCounted]
    · simp [Collector.addPendingCopyKernel]
    · rw [start]
      simp only [Collector.addPendingCopyKernel, groupStart, totalByteSize_append,
        totalByteSize_cons, totalByteSize_nil]
      split <;> omega
  · exact Collector.Tracks.refl c

theorem Moves.of_sameGroups {c : Collector} {result : Bool × Collector} {tensor : Tensor}
    {jobs rest : List (Job Block Nat)} (tidy : c.Tidy tensor.byteSize)
    (groups : c.SameGroups result.2) (streams : Streams result.1 c.toSys result.2.toSys)
    (carries : c.toSys.Carries faithful (jobs ++ (c.waiting tensor ++ rest)) result.2.toSys
      (c.waiting tensor ++ rest)) :
    Moves faithful tensor rest c jobs (orSync result) := by
  have waiting : (orSync result).waiting tensor = c.waiting tensor := by
    simp only [Collector.waiting, orSync]
    rw [groups]
  refine ⟨?_, ?_, tracks_orSync streams (by rw [groups])⟩
  · rw [waiting]
    refine (Sys.Carries.shuffle _ ?_).trans carries
    rw [← List.append_assoc, ← List.append_assoc]
    exact List.perm_append_comm.append_right rest
  · refine ⟨?_, ?_, ?_, ?_, ?_, ?_, ?_, ?_, ?_⟩ <;> simp only [orSync] <;> rw [groups]
    · exact tidy.pinnedSized
    · exact tidy.pinnedFits
    · exact tidy.kernelSized
    · exact tidy.kernelCounted
    · exact tidy.kernelIdle
    · exact tidy.kernelFits
    · exact tidy.drains
    · intro some
      simp [tidy.owed some]
    · exact tidy.alone

theorem setInputTensor_moves {c : Collector} {tensor : Tensor} (rest : List (Job Block Nat))
    (tidy : c.Tidy tensor.byteSize) (placed : tensor.Placed c.toSys) (inputName : String)
    (offset : Nat) (input : ContiguousBuffer)
    (pinned : 0 < totalByteSize c.pendingPinnedInputBuffers →
      offset = totalByteSize c.pendingPinnedInputBuffers + c.pendingPinnedOffset)
    (kernel : 0 < totalByteSize c.pendingCopyKernelInputBuffers →
      offset = totalByteSize c.pendingCopyKernelInputBuffers + c.pendingCopyKernelBufferOffset) :
    let c' := orSync (setInputTensor env cfg c inputName input tensor offset
      (usePinnedMemoryType cfg tensor) (useKernel cfg) true)
    Moves faithful tensor rest c (fittingJob tensor offset input) c' ∧
      (c'.pendingCopyKernelInputBuffers, c'.pendingCopyKernelBufferOffset) =
        (if kernelBound cfg tensor offset input then
          (c.pendingCopyKernelInputBuffers ++ [input], groupStart c.pendingCopyKernelInputBuffers
            c.pendingCopyKernelBufferOffset offset)
        else (c.pendingCopyKernelInputBuffers, c.pendingCopyKernelBufferOffset)) := by
  by_cases fits : offset + input.byteSize ≤ tensor.byteSize
  · have within : ¬ offset + input.byteSize > tensor.byteSize := Nat.not_lt.mpr fits
    simp only [setInputTensor, if_neg within, fittingJob, if_pos fits]
    split
    next staged =>
      have bound : kernelBound cfg tensor offset input = false := by
        simp [kernelBound, pinnedBound, fitsTensor, fits, staged]
      simp only [bound, Bool.false_eq_true, if_false, orSync_false]
      exact ⟨addPendingPinned_moves faithful tidy placed fits pinned, rfl⟩
    next unstaged =>
      split
      next batched =>
        have bound : kernelBound cfg tensor offset input = true := by
          simp only [Bool.and_eq_true] at batched
          simp only [kernelBound, pinnedBound, fitsTensor, fits, batched]
          simpa [or_iff_not_imp_left] using unstaged
        simp only [bound, if_true, orSync_false]
        refine ⟨addPendingCopyKernel_moves faithful tidy placed fits kernel, ?_⟩
        simp [Collector.addPendingCopyKernel, groupStart, tidy.kernelSized]
      next direct =>
        have bound : kernelBound cfg tensor offset input = false := by
          simp only [kernelBound]
          simp at direct
          simp
          tauto
        simp only [bound, Bool.false_eq_true, if_false]
        have groups := directCopy_sameGroups env cfg c inputName input tensor offset true
        refine ⟨Moves.of_sameGroups faithful tidy groups
          (directCopy_streams env cfg c inputName input tensor offset true)
          (directCopy_carries env cfg faithful c inputName input tensor offset true _), ?_⟩
        simp only [orSync]
        rw [groups]
  -- a chunk that does not fit has no job, and only its responses are answered
  · have outside : offset + input.byteSize > tensor.byteSize := Nat.lt_of_not_le fits
    have bound : kernelBound cfg tensor offset input = false := by
      simp [kernelBound, fitsTensor, fits]
    simp only [setInputTensor, if_pos outside, fittingJob, if_neg fits, bound, Bool.false_eq_true,
      if_false]
    have answers := failRequests_answers c.toSys (errorNew .invalidArg
      ("unexpected total byte size " ++ toString (offset + input.byteSize) ++ " for input '" ++
        inputName ++ "', expecting " ++ toString tensor.byteSize)) input
    exact ⟨Moves.of_sameGroups faithful tidy (sameGroups_withSys _ _)
      (Streams.idle _ (answers_actions answers)) (Sys.Carries.answers answers _), rfl⟩

theorem Sys.Carries.numbered {s s' : Sys} {plan plan' : List (Job Block Nat)}
    (carries : s.Carries faithful plan s' plan') (numbered : (s.courier plan).Numbered blockAge) :
    (s'.courier plan').Numbered blockAge := numbered_steps carries numbered

theorem processChunk_moves (sync : cfg.useAsyncCpuCopy = false) {c : Collector} {tensor : Tensor}
    {rest : List (Job Block Nat)} (tidy : c.Tidy tensor.byteSize) (placed : tensor.Placed c.toSys)
    (inputName : String) (offset : Nat) (input : ContiguousBuffer)
    (numbered : (c.toSys.courier
      (c.waiting tensor ++ (fittingJob tensor offset input ++ rest))).Numbered blockAge)
    (performs : groupEnds c.pendingCopyKernelInputBuffers c.pendingCopyKernelBufferOffset offset →
      cfg.kernelBufferThreshold ≤ c.pendingCopyKernelInputBuffers.length →
      Performs env faithful c.pendingCopyKernelInputBuffers) :
    let c' := processChunk env cfg inputName tensor c offset input
    Moves faithful tensor rest c (fittingJob tensor offset input) c' ∧
      (c'.pendingCopyKernelInputBuffers, c'.pendingCopyKernelBufferOffset) =
        kernelStep cfg tensor c.pendingCopyKernelInputBuffers c.pendingCopyKernelBufferOffset offset
          input := by
  obtain ⟨first, pinned, buffers, start⟩ := flushPinnedBefore_moves env cfg faithful sync tidy placed
    offset numbered
  have reached := flushPinnedBefore_reaches env cfg c tensor offset
  simp only [processChunk]
  generalize flushPinnedBefore env cfg c tensor offset = flushed at first pinned buffers start reached ⊢
  rw [← buffers, ← start] at performs ⊢
  obtain ⟨second, kernel, kept, keptStart⟩ := flushCopyKernelBefore_moves env cfg faithful
    (fittingJob tensor offset input ++ rest) first.tidy (placed.mono reached) offset performs
  have reached' := reached.trans (flushCopyKernelBefore_reaches env cfg flushed tensor offset)
  generalize flushCopyKernelBefore env cfg flushed tensor offset = ready
    at second kernel kept keptStart reached' ⊢
  rw [← kept, ← keptStart] at pinned
  have aligned : 0 < totalByteSize ready.pendingCopyKernelInputBuffers →
      offset = totalByteSize ready.pendingCopyKernelInputBuffers +
        ready.pendingCopyKernelBufferOffset := by
    intro some
    by_cases ends : groupEnds flushed.pendingCopyKernelInputBuffers
      flushed.pendingCopyKernelBufferOffset offset
    · rw [if_pos ends, Prod.mk.injEq] at kernel
      simp [kernel.1] at some
    · rw [if_neg ends, Prod.mk.injEq] at kernel
      rw [kernel.1] at some
      rw [kernel.1, kernel.2]
      simpa [groupEnds, some] using ends
  obtain ⟨third, state⟩ := setInputTensor_moves env cfg faithful rest second.tidy
    (placed.mono reached') inputName offset input pinned aligned
  refine ⟨Moves.trans faithful [] _ first (Moves.trans faithful [] _ second third), ?_⟩
  simp only [kernelStep, ← kernel]
  exact state

/-! A sequence of chunks. Between two chunks the iterator looks things up, which may answer
responses but starts no copy. -/

def Sys.Idles (s s' : Sys) : Prop := s.Reaches s' ∧ s'.actions = s.actions

inductive ChunkRun (inputName : String) (tensor : Tensor) :
    Collector → Nat → List ContiguousBuffer → Collector → Prop
  | done (c : Collector) (s : Sys) (offset : Nat) (idle : c.toSys.Idles s) :
      ChunkRun inputName tensor c offset [] (c.withSys s)
  | next (c : Collector) (s : Sys) (offset : Nat) (input : ContiguousBuffer)
      (rest : List ContiguousBuffer) (c' : Collector) (idle : c.toSys.Idles s)
      (later : ChunkRun inputName tensor
        (processChunk env cfg inputName tensor (c.withSys s) offset input)
        (offset + input.byteSize) rest c') :
      ChunkRun inputName tensor c offset (input :: rest) c'

theorem Moves.idle {c : Collector} {tensor : Tensor} (tidy : c.Tidy tensor.byteSize) {s : Sys}
    (idle : c.toSys.Idles s) (rest : List (Job Block Nat)) :
    Moves faithful tensor rest c [] (c.withSys s) := by
  have device : s.device = c.device := by rw [Sys.device, Sys.device, idle.2]
  refine ⟨Sys.Carries.idle idle.1 idle.2 _, ⟨tidy.pinnedSized, tidy.pinnedFits, tidy.kernelSized,
    tidy.kernelCounted, tidy.kernelIdle, tidy.kernelFits, tidy.drains, tidy.owed, tidy.alone⟩, ?_⟩
  refine ⟨by rw [toSys_withSys, device], fun none => ⟨none, ?_⟩⟩
  rw [toSys_withSys, device]

theorem chunkRun_reaches {inputName : String} {tensor : Tensor} {c c' : Collector} {offset : Nat}
    {chunks : List ContiguousBuffer}
    (run : ChunkRun env cfg inputName tensor c offset chunks c') : c.toSys.Reaches c'.toSys := by
  induction run with
  | done c s offset idle => exact idle.1
  | next c s offset input rest c' idle later ih =>
      exact idle.1.trans ((processChunk_reaches env cfg inputName tensor (c.withSys s) offset
        input).trans ih)

theorem chunkRun_moves (sync : cfg.useAsyncCpuCopy = false) {inputName : String} {tensor : Tensor}
    {c c' : Collector} {offset : Nat} {chunks : List ContiguousBuffer}
    (run : ChunkRun env cfg inputName tensor c offset chunks c') {rest : List (Job Block Nat)}
    (tidy : c.Tidy tensor.byteSize) (placed : tensor.Placed c.toSys)
    (numbered : (c.toSys.courier
      (c.waiting tensor ++ (tensorJobs tensor offset chunks ++ rest))).Numbered blockAge)
    (performs : ∀ launch ∈ kernelGroups cfg tensor c.pendingCopyKernelInputBuffers
      c.pendingCopyKernelBufferOffset offset chunks,
      cfg.kernelBufferThreshold ≤ launch.1.length → Performs env faithful launch.1) :
    Moves faithful tensor rest c (tensorJobs tensor offset chunks) c' ∧
      (cfg.kernelBufferThreshold ≤ c'.pendingCopyKernelInputBuffers.length →
        Performs env faithful c'.pendingCopyKernelInputBuffers) := by
  induction run with
  | done c s offset idle =>
      exact ⟨Moves.idle faithful tidy idle rest, performs _ List.mem_cons_self⟩
  | next c s offset input later c' idle run ih =>
      simp only [tensorJobs, List.append_assoc] at numbered ⊢
      have waited := Moves.idle faithful tidy idle
        (fittingJob tensor offset input ++ (tensorJobs tensor (offset + input.byteSize) later ++ rest))
      have ready := Sys.Carries.numbered faithful waited.carries numbered
      have placed' := placed.mono idle.1
      obtain ⟨step, state⟩ := processChunk_moves env cfg faithful sync waited.tidy placed' inputName
        offset input ready (fun ends => performs _ (List.mem_append_left _ (by
          rw [if_pos (show groupEnds c.pendingCopyKernelInputBuffers c.pendingCopyKernelBufferOffset
            offset = true from ends)]
          exact List.mem_cons_self)))
      have reached := processChunk_reaches env cfg inputName tensor (c.withSys s) offset input
      obtain ⟨buffers, start⟩ := Prod.ext_iff.mp state
      simp only at buffers start
      obtain ⟨moves, last⟩ := ih step.tidy (placed'.mono reached)
        (Sys.Carries.numbered faithful step.carries ready) (by
          rw [buffers, start]
          exact fun launch member => performs launch (List.mem_append_right _ member))
      refine ⟨Moves.trans faithful [] (fittingJob tensor offset input ++ tensorJobs tensor
        (offset + input.byteSize) later) ?_ (Moves.trans faithful _ _ step moves), last⟩
      rw [List.append_assoc]
      exact waited

/-! Whole calls. -/

/-- `need_sync_` and the event cover everything that is on the stream. -/
structure Collector.Synced (c : Collector) : Prop where
  settled : c.needSync = false → c.device.queue = []
  recorded : c.needSync = true → cfg.event = true → c.device.recorded = c.device.queue.length

/-- Between calls both groups are empty. -/
structure Collector.Calm (c : Collector) : Prop where
  pinned : c.pendingPinnedInputBuffers = []
  kernel : c.pendingCopyKernelInputBuffers = []
  tidy : c.Tidy 0
  synced : c.Synced cfg

theorem Collector.Tidy.of_empty {c : Collector} {byteSize : Nat} (tidy : c.Tidy byteSize)
    (pinned : c.pendingPinnedInputBuffers = []) (kernel : c.pendingCopyKernelInputBuffers = [])
    (byteSize' : Nat) : c.Tidy byteSize' :=
  ⟨tidy.pinnedSized, Or.inl pinned, tidy.kernelSized, tidy.kernelCounted, tidy.kernelIdle,
    Or.inl kernel, tidy.drains, tidy.owed, tidy.alone⟩

theorem waiting_of_empty {c : Collector} (pinned : c.pendingPinnedInputBuffers = [])
    (kernel : c.pendingCopyKernelInputBuffers = []) (tensor : Tensor) :
    c.waiting tensor = c.deferredPinned.map drainJob := by
  simp [Collector.waiting, pinned, kernel, groupJobs]

theorem calm_create {s : Sys} (bufferReadyEvent : Bool) (quiet : s.device.queue = []) :
    (Collector.create s bufferReadyEvent).Calm cfg := by
  refine ⟨rfl, rfl, ⟨rfl, Or.inl rfl, rfl, rfl, fun _ => rfl, Or.inl rfl, ?_, ?_, rfl⟩, fun _ => quiet, ?_⟩
  · intro deferred member
    simp [Collector.create] at member
  · intro some
    exact absurd rfl some
  · intro sync
    simp [Collector.create] at sync

theorem calm_of_fresh {s : Sys} (fresh : s.log = []) (bufferReadyEvent : Bool) :
    (Collector.create s bufferReadyEvent).Calm cfg :=
  calm_create cfg bufferReadyEvent (by simp [Sys.device, Sys.actions, fresh, Device.fresh])

theorem recordEvent_synced {c : Collector} (settled : c.needSync = false → c.device.queue = []) :
    (c.recordEvent cfg).Synced cfg := by
  by_cases records : c.needSync && cfg.event
  · rw [Collector.recordEvent, if_pos records]
    constructor
    · intro none
      simp only [toSys_withSys, device_issue]
      exact settled none
    · intro _ _
      simp only [toSys_withSys, device_issue]
      rfl
  · rw [Collector.recordEvent, if_neg records]
    refine ⟨settled, ?_⟩
    intro sync event
    simp [sync, event] at records

theorem sameGroups_recordEvent (c : Collector) : c.SameGroups (c.recordEvent cfg) := by
  rw [Collector.recordEvent]
  split
  · exact sameGroups_withSys c _
  · exact Collector.SameGroups.refl c

theorem recordEvent_calm {c : Collector} (pinned : c.pendingPinnedInputBuffers = [])
    (kernel : c.pendingCopyKernelInputBuffers = []) (tidy : c.Tidy 0)
    (settled : c.needSync = false → c.device.queue = []) : (c.recordEvent cfg).Calm cfg := by
  have synced := recordEvent_synced cfg settled
  have groups := sameGroups_recordEvent cfg c
  refine ⟨by rw [groups, pinned], by rw [groups, kernel], ?_, synced⟩
  rw [groups]
  exact ⟨tidy.pinnedSized, tidy.pinnedFits, tidy.kernelSized, tidy.kernelCounted, tidy.kernelIdle,
    tidy.kernelFits, tidy.drains, tidy.owed, tidy.alone⟩

theorem recordEvent_carries (c : Collector) (plan : List (Job Block Nat)) :
    c.toSys.Carries faithful plan (c.recordEvent cfg).toSys plan := by
  rw [Collector.recordEvent]
  split
  · exact Sys.Carries.act c.toSys c.tick .record [] plan rfl (by simp [Ready]) (by simp)
  · exact Sys.Carries.refl _ _

theorem finishTensor_carries (sync : cfg.useAsyncCpuCopy = false) {c : Collector} {tensor : Tensor}
    {rest : List (Job Block Nat)} (tidy : c.Tidy tensor.byteSize) (placed : tensor.Placed c.toSys)
    (numbered : (c.toSys.courier (c.waiting tensor ++ rest)).Numbered blockAge)
    (settled : c.needSync = false → c.device.queue = [])
    (performs : cfg.kernelBufferThreshold ≤ c.pendingCopyKernelInputBuffers.length →
      Performs env faithful c.pendingCopyKernelInputBuffers) :
    let c' := finishTensor env cfg tensor c
    c.toSys.Carries faithful (c.waiting tensor ++ rest) c'.toSys
      (c'.deferredPinned.map drainJob ++ rest) ∧ c'.Calm cfg := by
  obtain ⟨first, none, buffers, start⟩ := flushPendingPinned_moves env cfg faithful sync tidy placed
    numbered
  have reached : c.toSys.Reaches (orSync (flushPendingPinned env cfg c tensor)).toSys :=
    flushPendingPinned_reaches env cfg c tensor
  simp only [finishTensor]
  generalize orSync (flushPendingPinned env cfg c tensor) = flushed
    at first none buffers start reached ⊢
  obtain ⟨second, kernel, _, pinned, _⟩ := flushPendingCopyKernel_moves env cfg faithful
    rest first.tidy (placed.mono reached) (buffers ▸ performs)
  generalize orSync (flushPendingCopyKernel env cfg flushed tensor) = after
    at second kernel pinned ⊢
  rw [none] at pinned
  have tracks := first.tracks.trans second.tracks
  have calm := recordEvent_calm cfg pinned kernel (second.tidy.of_empty pinned kernel 0) (by
    intro quiet
    obtain ⟨before, same⟩ := tracks.2 quiet
    exact same.trans (settled before))
  refine ⟨?_, calm⟩
  have drained : (after.recordEvent cfg).deferredPinned = after.deferredPinned := by
    rw [sameGroups_recordEvent cfg after]
  rw [drained, ← waiting_of_empty pinned kernel tensor]
  exact (first.carries.trans second.carries).trans (recordEvent_carries cfg faithful after _)

/-- A whole call: the chunks that fit are put on the plan when it starts. -/
theorem tensor_carries (sync : cfg.useAsyncCpuCopy = false) {inputName : String}
    {tensor : Tensor} {c after : Collector} {chunks : List ContiguousBuffer}
    (run : ChunkRun env cfg inputName tensor c 0 chunks after) {rest : List (Job Block Nat)}
    (calm : c.Calm cfg) (placed : tensor.Placed c.toSys)
    (numbered : (c.toSys.courier (c.deferredPinned.map drainJob ++
      (tensorJobs tensor 0 chunks ++ rest))).Numbered blockAge)
    (performs : ∀ launch ∈ kernelGroups cfg tensor [] 0 0 chunks,
      cfg.kernelBufferThreshold ≤ launch.1.length → Performs env faithful launch.1) :
    let c' := finishTensor env cfg tensor after
    c.toSys.Carries faithful (c.deferredPinned.map drainJob ++ (tensorJobs tensor 0 chunks ++ rest))
      c'.toSys (c'.deferredPinned.map drainJob ++ rest) ∧ c'.Calm cfg := by
  have tidy := calm.tidy.of_empty calm.pinned calm.kernel tensor.byteSize
  have waiting := waiting_of_empty calm.pinned calm.kernel tensor
  rw [← waiting] at numbered ⊢
  obtain ⟨moves, last⟩ := chunkRun_moves env cfg faithful sync run tidy placed numbered (by
    rw [calm.kernel, calm.tidy.kernelIdle calm.kernel]
    exact performs)
  obtain ⟨carries, quiet⟩ := finishTensor_carries env cfg faithful sync moves.tidy
    (placed.mono (chunkRun_reaches env cfg run)) (Sys.Carries.numbered faithful moves.carries numbered)
    (fun none => by
      obtain ⟨before, same⟩ := moves.tracks.2 none
      exact same.trans (calm.synced.settled before)) last
  exact ⟨moves.carries.trans carries, quiet⟩

/-! Several calls, one behind the other. -/

def callJobs (calls : List TensorCall) : List (Job Block Nat) :=
  calls.flatMap fun call => tensorJobs call.tensor 0 call.chunks

theorem processChunks_run (inputName : String) (tensor : Tensor) (c : Collector) (offset : Nat)
    (chunks : List ContiguousBuffer) : ChunkRun env cfg inputName tensor c offset chunks
      (processChunksFrom env cfg inputName tensor c offset chunks) := by
  have idle (s : Sys) : s.Idles s := ⟨Sys.Reaches.refl s, rfl⟩
  induction chunks generalizing c offset with
  | nil => exact ChunkRun.done c c.toSys offset (idle _)
  | cons input rest ih => exact ChunkRun.next c c.toSys offset input rest _ (idle _) (ih _ _)

theorem gatherTensors_carries (sync : cfg.useAsyncCpuCopy = false) {c : Collector}
    {calls : List TensorCall} {rest : List (Job Block Nat)} (calm : c.Calm cfg)
    (placed : ∀ call ∈ calls, call.tensor.Placed c.toSys)
    (numbered : (c.toSys.courier
      (c.deferredPinned.map drainJob ++ (callJobs calls ++ rest))).Numbered blockAge)
    (performs : ∀ call ∈ calls, ∀ launch ∈ kernelGroups cfg call.tensor [] 0 0 call.chunks,
      cfg.kernelBufferThreshold ≤ launch.1.length → Performs env faithful launch.1) :
    let c' := gatherTensors env cfg c calls
    c.toSys.Carries faithful (c.deferredPinned.map drainJob ++ (callJobs calls ++ rest)) c'.toSys
      (c'.deferredPinned.map drainJob ++ rest) ∧ c'.Calm cfg := by
  induction calls generalizing c with
  | nil => exact ⟨Sys.Carries.refl _ _, calm⟩
  | cons call later ih =>
      simp only [callJobs, List.flatMap_cons, List.append_assoc] at numbered ⊢
      obtain ⟨carries, calm'⟩ := tensor_carries env cfg faithful sync
        (processChunks_run env cfg call.inputName call.tensor c 0 call.chunks) calm
        (placed call List.mem_cons_self) numbered (performs call List.mem_cons_self)
      have reached := processChunks_reaches env cfg call.inputName call.tensor c call.chunks
      obtain ⟨carries', done⟩ := ih calm'
        (fun other member => (placed other (List.mem_cons_of_mem _ member)).mono reached)
        (Sys.Carries.numbered faithful carries numbered)
        (fun other member => performs other (List.mem_cons_of_mem _ member))
      exact ⟨carries.trans carries', done⟩

/-! `Finalize`. -/

theorem finalizeDeferred_attempt (s : Sys) (deferred : DeferredPinned) :
    let result := finalizeDeferred env s deferred
    ∃ copied, CopyOutcome s (drainJob deferred).transfer copied ∧
      result.1 = copied.cudaUsed ∧ copied.sys.Answers result.2 ∧
      (copied.error ≠ none → ∀ idx ∈ (drainJob deferred).clients, result.2.Gone idx) ∧
      (copied.error = none → result.2 = copied.sys) ∧
      ∀ idx ∉ (drainJob deferred).clients, result.2.Gone idx → copied.sys.Gone idx := by
  have outcome := copyBuffer_outcome env s "pinned buffer" .cpuPinned 0 deferred.tensorMemoryType
    deferred.tensorMemoryId deferred.pinnedMemorySize deferred.pinnedMemory
    (deferred.tensorBuffer.advance deferred.tensorBufferOffset) false
  simp only [finalizeDeferred]
  generalize copyBuffer env s _ _ _ _ _ _ _ _ _ = copied at outcome ⊢
  refine ⟨copied, outcome, ?_⟩
  split
  next success =>
    exact ⟨rfl, Sys.Answers.refl _, fun failed => absurd success failed, fun _ => rfl,
      fun idx _ gone => gone⟩
  next error failed =>
    refine ⟨rfl, failAllRequests_answers _ _ _, fun _ idx member => ?_, fun success => ?_,
      fun idx outside gone => ?_⟩
    · obtain ⟨input, inside, range⟩ := List.mem_flatMap.mp member
      exact failAllRequests_gone _ _ _ inside range
    · rw [failed] at success
      cases success
    · refine failAllRequests_other _ _ _ (fun input member inside => outside ?_) gone
      exact List.mem_flatMap.mpr ⟨input, member, inside⟩

theorem finalizeAll_carries {c : Collector} {rest : List (Job Block Nat)}
    (blocks : List DeferredPinned)
    (drains : ∀ deferred ∈ blocks,
      deferred.finalized = false ∧ ¬ IsStaging deferred.tensorBuffer.block)
    (direct : ∀ job ∈ rest, ¬ IsStaging job.transfer.target.block) (filled : Filled c.toSys) :
    let c' := finalizeAll env c blocks
    c.toSys.Carries faithful (blocks.map drainJob ++ rest) c'.toSys rest ∧ c.Tracks c' ∧
      c' = { c with toSys := c'.toSys, needSync := c'.needSync } := by
  induction blocks generalizing c with
  | nil => exact ⟨Sys.Carries.refl _ _, Collector.Tracks.refl c, rfl⟩
  | cons deferred later ih =>
      obtain ⟨unfinished, place⟩ := drains deferred List.mem_cons_self
      have drainsLater (block : DeferredPinned) (member : block ∈ later) :=
        drains block (List.mem_cons_of_mem _ member)
      obtain ⟨copied, outcome, used, answers, told, _⟩ := finalizeDeferred_attempt env c.toSys deferred
      simp only [finalizeAll, unfinished, Bool.false_eq_true, if_false]
      generalize finalizeDeferred env c.toSys deferred = result at used answers told ⊢
      have tracks : c.Tracks (orSync (result.1, c.withSys result.2)) := by
        refine tracks_orSync ?_ rfl
        simp only [used]
        exact outcome.streams answers
      obtain ⟨carries, tracks', fields⟩ := ih (c := orSync (result.1, c.withSys result.2)) drainsLater
        (outcome_filled outcome answers place filled)
      refine ⟨Sys.Carries.trans (outcome.carries answers told ?_ ?_) carries, tracks.trans tracks', ?_⟩
      · intro job member staging other present same
        rw [List.mem_singleton] at member
        subst member
        have target : IsStaging other.transfer.target.block := same ▸ staging
        rcases List.mem_append.mp present with own | planned
        · rw [List.mem_singleton] at own
          subst own
          exact place target
        · rcases List.mem_append.mp planned with drain | kept
          · obtain ⟨block, inLater, rfl⟩ := List.mem_map.mp drain
            exact (drainsLater block inLater).2 target
          · exact direct other kept target
      · intro staging copy queued same
        exact filled copy queued (same ▸ staging)
      · rw [fields]
        rfl

theorem synchronize_settled {c : Collector} (synced : c.Synced cfg) :
    (synchronize cfg c c.needSync).device.queue = [] := by
  cases sync : c.needSync with
  | false => exact synced.settled sync
  | true =>
      simp only [synchronize, if_true, device_issue]
      cases event : cfg.event with
      | false => rfl
      | true => simp only [if_true, Device.step, synced.recorded sync event, List.drop_length]

theorem synchronize_carries (c : Collector) (plan : List (Job Block Nat)) (needSync : Bool) :
    c.toSys.Carries faithful plan (synchronize cfg c needSync) plan := by
  rw [synchronize]
  split
  · refine Sys.Carries.act c.toSys c.tick _ [] plan ?_ (by simp [Ready]) ?_
    · split <;> rfl
    · intro effect same
      split at same <;> cases same
  · exact Sys.Carries.refl _ _

theorem waitDeferred_carries {c : Collector} (synced : c.Synced cfg)
    (owed : c.deferredPinned ≠ [] → c.needSync = true) (plan : List (Job Block Nat)) :
    let c' := waitDeferred cfg c
    c.toSys.Carries faithful plan c'.toSys plan ∧ c'.Synced cfg ∧
      (c.deferredPinned ≠ [] → c'.device.queue = []) ∧
      c' = { c with toSys := c'.toSys, needSync := c'.needSync } := by
  simp only [waitDeferred]
  by_cases some : c.deferredPinned = []
  · have stays : (!c.deferredPinned.isEmpty && c.needSync) = false := by simp [some]
    simp only [stays, Bool.false_eq_true, if_false]
    exact ⟨Sys.Carries.refl _ _, synced, fun none => absurd some none, trivial⟩
  · have sync := owed some
    have waits : (!c.deferredPinned.isEmpty && c.needSync) = true := by simp [some, sync]
    have emptied := synchronize_settled cfg synced
    have carries := synchronize_carries cfg faithful c plan c.needSync
    simp only [sync, synchronize, if_true] at emptied carries
    simp only [waits, if_true]
    refine ⟨carries, ⟨fun _ => emptied, ?_⟩, fun _ => emptied, trivial⟩
    intro again
    cases again

/-- `Finalize` and the synchronization it asks for make every copy that is still owed. -/
theorem finalize_carries {c : Collector} {rest : List (Job Block Nat)} (calm : c.Calm cfg)
    (direct : ∀ job ∈ rest, ¬ IsStaging job.transfer.target.block) :
    let finalized := finalize env cfg c
    let s := synchronize cfg finalized.2 finalized.1
    c.toSys.Carries faithful (c.deferredPinned.map drainJob ++ rest) s rest ∧ s.device.queue = [] := by
  obtain ⟨waited, synced, filled, fields⟩ := waitDeferred_carries cfg faithful calm.synced
    calm.tidy.owed (c.deferredPinned.map drainJob ++ rest)
  simp only [finalize]
  generalize waitDeferred cfg c = first at waited synced filled fields ⊢
  have groups := sameGroups_waitBufferReady first
  have same := toSys_waitBufferReady first
  generalize first.waitBufferReady = ready at groups same ⊢
  have blocks : ready.deferredPinned = c.deferredPinned := by
    rw [groups, fields]
  have alone : ready.asyncTaskCount = 0 := by
    rw [groups, fields]
    exact calm.tidy.alone
  have flag : ready.needSync = first.needSync := by
    rw [groups]
  rw [← same] at waited filled
  have readySynced : ready.Synced cfg := by
    constructor
    · rw [flag, same]
      exact synced.settled
    · rw [flag, same]
      exact synced.recorded
  by_cases some : c.deferredPinned = []
  · rw [some] at waited blocks ⊢
    have none : (!ready.deferredPinned.isEmpty) = false := by simp [blocks]
    simp only [blocks, finalizeAll, alone, getCompletions, List.isEmpty_nil, Bool.not_true,
      Bool.false_eq_true, if_false]
    exact ⟨waited.trans (synchronize_carries cfg faithful ready _ _),
      synchronize_settled cfg readySynced⟩
  -- the wait has emptied the stream, so every block is filled before it is read
  · obtain ⟨drained, tracks, kept⟩ := finalizeAll_carries env faithful (c := ready)
      c.deferredPinned calm.tidy.drains direct (by
        intro copy queued
        rw [filled some] at queued
        simp at queued)
    rw [blocks]
    generalize finalizeAll env ready c.deferredPinned = after at drained tracks kept ⊢
    have count : after.asyncTaskCount = 0 := by
      rw [kept]
      exact alone
    have left : (!after.deferredPinned.isEmpty) = true := by
      rw [kept]
      simp [blocks, some]
    simp only [count, getCompletions, left, if_true]
    have recorded : (after.recordEvent cfg).Synced cfg := recordEvent_synced cfg (by
      intro none
      obtain ⟨before, sameQueue⟩ := tracks.2 none
      exact sameQueue.trans (readySynced.settled before))
    refine ⟨waited.trans (drained.trans ?_), synchronize_settled cfg recorded⟩
    exact (recordEvent_carries cfg faithful after rest).trans
      (synchronize_carries cfg faithful _ rest _)

end

end TritonBackend
