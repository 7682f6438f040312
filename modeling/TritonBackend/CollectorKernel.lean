import TritonBackend.CollectorPlan

/-!
The launches of the gather kernel. A launch that performs its gather makes the copies of its
group; the kernel of the source does so while the sizes and the offsets of a group fit
in an `int`.
-/

namespace TritonBackend

open CopyStream

/-- The copy reads and writes where the job does. In a faithful run it is the job's
own copy, or neither moves a byte. -/
structure Makes (faithful : Prop) (copy : Copy Block) (job : Job Block Nat) : Prop where
  source : copy.source = job.transfer.source
  target : copy.target.block = job.transfer.target.block
  exactly : faithful → copy = job.transfer ∨ copy.byteSize = 0 ∧ job.transfer.byteSize = 0

def Performs (env : Env) (faithful : Prop) (group : List ContiguousBuffer) : Prop :=
  ∀ output, List.Forall₂ (Makes faithful) (env.runGatherKernel (segmentsFrom 0 group) output)
    (groupJobs output 0 group)

/-- Every segment that is not empty has a size and an offset that an `int` can hold. -/
def SegmentsFit (group : List ContiguousBuffer) : Prop :=
  ∀ segment ∈ segmentsFrom 0 group, 0 < segment.source.byteSize →
    segment.source.byteSize < 2 ^ 31 ∧ segment.offset < 2 ^ 31

instance (group : List ContiguousBuffer) : Decidable (SegmentsFit group) := by
  unfold SegmentsFit
  infer_instance

/-! The two kernels. -/

theorem gatherSegments_performs (env : Env) (faithful : Prop)
    (kernel : env.runGatherKernel = gatherSegments) (group : List ContiguousBuffer) :
    Performs env faithful group := by
  intro output
  rw [kernel]
  generalize 0 = offset
  induction group generalizing offset with
  | nil => exact List.Forall₂.nil
  | cons input rest ih =>
      exact List.Forall₂.cons ⟨rfl, rfl, fun _ => Or.inl rfl⟩ (ih (offset + input.byteSize))

theorem toInt32_of_lt {value : Nat} (fits : value < 2 ^ 31) : toInt32 value = value := by
  have width : ((2 ^ 32 : Nat) : Int) = 4294967296 := by decide
  simp only [Nat.reducePow] at fits
  refine Int.bmod_eq_of_le_mul_two ?_ ?_ <;> rw [width] <;> omega

theorem tritonGatherKernel_makes (faithful : Prop) (output : Address) (offset : Nat)
    (group : List ContiguousBuffer)
    (fits : faithful → ∀ segment ∈ segmentsFrom offset group, 0 < segment.source.byteSize →
      segment.source.byteSize < 2 ^ 31 ∧ segment.offset < 2 ^ 31) :
    List.Forall₂ (Makes faithful) (tritonGatherKernel (segmentsFrom offset group) output)
      (groupJobs output offset group) := by
  induction group generalizing offset with
  | nil => exact List.Forall₂.nil
  | cons input rest ih =>
      -- Each field on its own: the whole copies differ by the conversion to `int`.
      refine List.Forall₂.cons ⟨Eq.trans (b := input.memoryDesc.address) rfl rfl,
        Eq.trans (b := output.block) rfl rfl, ?_⟩ (ih (offset + input.byteSize)
          fun held segment member => fits held segment (List.mem_cons_of_mem _ member))
      intro held
      by_cases bytes : 0 < input.memoryDesc.byteSize
      · obtain ⟨size, start⟩ := fits held _ List.mem_cons_self bytes
        refine Or.inl ?_
        simp only at size start
        simp only [chunkJob, chunkTransfer, ContiguousBuffer.byteSize, toInt32_of_lt size,
          toInt32_of_lt start, Int.toNat_natCast]
        rfl
      · have empty : input.memoryDesc.byteSize = 0 := Nat.eq_zero_of_not_pos bytes
        refine Or.inr ⟨?_, empty⟩
        have none : toInt32 0 = ((0 : Nat) : Int) := toInt32_of_lt (by decide)
        simp only [empty, none, Int.toNat_natCast]

theorem tritonGatherKernel_performs (env : Env) (faithful : Prop)
    (kernel : env.runGatherKernel = tritonGatherKernel) (group : List ContiguousBuffer)
    (fits : faithful → SegmentsFit group) : Performs env faithful group := by
  intro output
  rw [kernel]
  exact tritonGatherKernel_makes faithful output 0 group fits

/-! A launch as a step of the courier. -/

def launchedJobs (copies : List (Copy Block)) (jobs : List (Job Block Nat)) :
    List (Job Block Nat) :=
  List.zipWith (fun transfer job => { job with transfer }) copies jobs

section
variable {faithful : Prop} {copies : List (Copy Block)} {jobs : List (Job Block Nat)}

theorem launchedJobs_effects (made : List.Forall₂ (Makes faithful) copies jobs) :
    (launchedJobs copies jobs).map (Job.effect (V := UInt8)) = copies.map .copy := by
  induction made with
  | nil => rfl
  | cons _ _ ih =>
      simp only [launchedJobs, List.zipWith_cons_cons, List.map_cons] at ih ⊢
      rw [ih]
      rfl

theorem launchedJobs_origin (made : List.Forall₂ (Makes faithful) copies jobs)
    {job : Job Block Nat} (member : job ∈ launchedJobs copies jobs) :
    ∃ origin ∈ jobs, Makes faithful job.transfer origin := by
  induction made with
  | nil => simp [launchedJobs] at member
  | cons makes _ ih =>
      simp only [launchedJobs, List.zipWith_cons_cons, List.mem_cons] at member
      rcases member with rfl | later
      · exact ⟨_, List.mem_cons_self, makes⟩
      · obtain ⟨origin, present, same⟩ := ih later
        exact ⟨origin, List.mem_cons_of_mem _ present, same⟩

theorem launchedJobs_planned (made : List.Forall₂ (Makes faithful) copies jobs) (held : faithful)
    {origin : Job Block Nat} (member : origin ∈ jobs) (bytes : 0 < origin.transfer.byteSize)
    {client : Nat} (mine : client ∈ origin.clients) :
    Planned (launchedJobs copies jobs) client origin.transfer := by
  induction made with
  | nil => simp at member
  | cons makes _ ih =>
      rcases List.mem_cons.mp member with rfl | later
      · refine ⟨_, List.mem_cons_self, mine, ?_⟩
        rcases makes.exactly held with same | ⟨_, empty⟩
        · exact same
        · omega
      · obtain ⟨job, present, rest⟩ := ih later
        exact ⟨job, List.mem_cons_of_mem _ present, rest⟩

theorem Makes.writes {copy : Copy Block} {job : Job Block Nat} (makes : Makes faithful copy job)
    (held : faithful) {block : Block} {position : Int}
    (written : (Effect.copy copy : Effect Block UInt8).Writes block position) :
    (job.effect : Effect Block UInt8).Writes block position := by
  rcases makes.exactly held with same | ⟨empty, _⟩
  · subst same
    exact written
  · obtain ⟨_, lower, upper⟩ := writes_covers.mp written
    simp only [Effect.byteSize, empty] at lower upper
    omega

theorem launchedJobs_apart (made : List.Forall₂ (Makes faithful) copies jobs) (held : faithful)
    (apart : jobs.Pairwise fun first second =>
      (first.effect : Effect Block UInt8).Apart second.effect) :
    (launchedJobs copies jobs).Pairwise fun first second =>
      (first.effect : Effect Block UInt8).Apart second.effect := by
  induction made with
  | nil => exact List.Pairwise.nil
  | cons makes later ih =>
      obtain ⟨first, rest⟩ := List.pairwise_cons.mp apart
      refine List.Pairwise.cons ?_ (ih rest)
      intro job member block position written overwritten
      obtain ⟨origin, present, same⟩ := launchedJobs_origin later member
      exact first origin present block position (makes.writes held written)
        (same.writes held overwritten)

/-- The launch of a group takes the place of its planned copies. -/
theorem launch_reroute (n : Nat) (base : Address) (start : Nat)
    {inputs : List ContiguousBuffer} (place : ¬ IsStaging base.block)
    (old : blockAge base.block ≤ n)
    (made : List.Forall₂ (Makes faithful) copies (groupJobs base start inputs)) :
    Reroute (V := UInt8) IsStaging blockAge faithful n n (groupJobs base start inputs)
      (launchedJobs copies (groupJobs base start inputs)) := by
  constructor
  · intro job member
    obtain ⟨before, input, after, _, rfl⟩ := mem_groupJobs member
    exact ⟨source_direct input, place⟩
  · intro held
    exact launchedJobs_apart made held (groupJobs_apart base start inputs)
  · intro held job member block position written
    obtain ⟨origin, present, makes⟩ := launchedJobs_origin made member
    exact Or.inr ⟨origin, present, makes.writes held written⟩
  · intro job member
    obtain ⟨origin, present, makes⟩ := launchedJobs_origin made member
    obtain ⟨before, input, after, _, rfl⟩ := mem_groupJobs present
    rw [makes.source, makes.target]
    exact ⟨old, Nat.zero_le n⟩
  · intro job member staging
    obtain ⟨origin, present, makes⟩ := launchedJobs_origin made member
    obtain ⟨before, input, after, _, rfl⟩ := mem_groupJobs present
    rw [makes.target] at staging
    exact absurd staging place
  · exact Nat.le_refl n
  · intro held origin member bytes client mine
    exact Or.inl (launchedJobs_planned made held member bytes mine)

end

/-! Launching and flushing. -/

section
variable (env : Env) (cfg : CollectorConfig) (faithful : Prop)

def Collector.Counts (c c' : Collector) : Prop :=
  ∃ tick nextBlock, c.nextBlock ≤ nextBlock ∧ c' = c.withSys { c.toSys with tick, nextBlock }

theorem Collector.Counts.trans {c c' c'' : Collector} (first : c.Counts c')
    (second : c'.Counts c'') : c.Counts c'' := by
  obtain ⟨tick, nextBlock, later, rfl⟩ := first
  obtain ⟨tick', nextBlock', grows, rfl⟩ := second
  exact ⟨tick', nextBlock', Nat.le_trans later grows, rfl⟩

theorem createKernelArgument_counts (c : Collector) (tensor : Tensor) :
    c.Counts (createKernelArgument env c tensor).2 := by
  simp only [createKernelArgument]
  rcases createBackendMemory_sys env c.toSys .scratch (allocationTypes tensor.memoryType)
    tensor.memoryTypeId (c.pendingCopyKernelInputBufferCounts * 8) with
    ⟨tick, allocType, _, created⟩ | ⟨tick, error, failed⟩
  · rw [created]
    simp only
    split <;> exact ⟨tick, c.nextBlock + 1, Nat.le_succ _, rfl⟩
  · rw [failed]
    exact ⟨tick, c.nextBlock, Nat.le_refl _, rfl⟩

theorem createKernelArguments_counts (tensor : Tensor) (c : Collector) (count : Nat) :
    c.Counts (createKernelArguments env tensor c count).2 := by
  induction count generalizing c with
  | zero => exact ⟨c.tick, c.nextBlock, Nat.le_refl _, rfl⟩
  | succ count ih =>
      have created := createKernelArgument_counts env c tensor
      simp only [createKernelArguments]
      split
      · exact created
      · exact created.trans (ih _)

theorem launchCopyKernel_cases (c : Collector) (tensor : Tensor) :
    let launched := launchCopyKernel env c tensor
    c.SameGroups launched.2 ∧ ∃ tick nextBlock, c.nextBlock ≤ nextBlock ∧
      (launched.1 ≠ none ∧ launched.2.toSys = { c.toSys with tick, nextBlock } ∨
        launched.1 = none ∧ launched.2.toSys = Sys.issue { c.toSys with tick, nextBlock }
          (.stream (env.runGatherKernel (segmentsFrom 0 c.pendingCopyKernelInputBuffers)
            (tensor.buffer.advance c.pendingCopyKernelBufferOffset)))) := by
  have created := createKernelArguments_counts env tensor c 3
  simp only [launchCopyKernel]
  generalize createKernelArguments env tensor c 3 = arguments at created ⊢
  obtain ⟨failure, after⟩ := arguments
  obtain ⟨tick, nextBlock, later, same⟩ := created
  simp only at same
  subst same
  cases failure with
  | some error => exact ⟨rfl, tick, nextBlock, later, Or.inl ⟨by simp, rfl⟩⟩
  | none =>
      have waited := sameGroups_waitBufferReady (c.withSys { c.toSys with tick, nextBlock })
      simp only [toSys_waitBufferReady, call_eq]
      cases env.outcome (c.withSys { c.toSys with tick, nextBlock }).tick .launchKernel with
      | some cudaError =>
          exact ⟨waited.trans (sameGroups_withSys _ _), tick + 1, nextBlock, later,
            Or.inl ⟨by simp [errorNew], rfl⟩⟩
      | none =>
          refine ⟨waited.trans (sameGroups_withSys _ _), tick + 1, nextBlock, later,
            Or.inr ⟨rfl, ?_⟩⟩
          simp only [toSys_withSys]
          rw [waited]
          rfl

structure KernelFlush (faithful : Prop) (c : Collector) (tensor : Tensor)
    (rest : List (Job Block Nat)) (result : Bool × Collector) : Prop where
  carries : c.toSys.Carries faithful
    (groupJobs tensor.buffer c.pendingCopyKernelBufferOffset c.pendingCopyKernelInputBuffers ++ rest)
    result.2.toSys rest
  streams : Streams result.1 c.toSys result.2.toSys
  fields : result.2 = { c with
    toSys := result.2.toSys
    bufferReadyEvent := result.2.bufferReadyEvent
    pendingCopyKernelBufferByteSize := 0
    pendingCopyKernelBufferOffset := 0
    pendingCopyKernelInputBufferCounts := 0
    pendingCopyKernelInputBuffers := [] }

theorem launchCopyKernel_carries (s : Sys) (tick : Nat) {nextBlock : Nat}
    (later : s.nextBlock ≤ nextBlock) (base : Address) (start : Nat)
    (inputs : List ContiguousBuffer) (rest : List (Job Block Nat))
    (place : ¬ IsStaging base.block) (old : blockAge base.block ≤ s.nextBlock)
    (performs : Performs env faithful inputs) :
    s.Carries faithful (groupJobs base start inputs ++ rest)
      (Sys.issue { s with tick, nextBlock }
        (.stream (env.runGatherKernel (segmentsFrom 0 inputs) (base.advance start)))) rest := by
  have made := performs (base.advance start)
  rw [groupJobs_advance, Nat.add_zero] at made
  generalize env.runGatherKernel (segmentsFrom 0 inputs) (base.advance start) = copies at made ⊢
  have counted : s.Carries faithful (groupJobs base start inputs ++ rest) { s with tick, nextBlock }
      (groupJobs base start inputs ++ rest) :=
    Sys.Carries.idle (Sys.Step.count s tick nextBlock later).reaches rfl _
  have rerouted := Sys.Carries.reroute { s with tick, nextBlock } tick rest
    (launch_reroute nextBlock base start place (Nat.le_trans old later) made)
  refine counted.trans (rerouted.trans (Sys.Carries.act { s with tick, nextBlock } tick
    (.stream copies) (launchedJobs copies (groupJobs base start inputs)) rest
    (launchedJobs_effects made).symm ?_ ?_))
  · intro job member staging
    obtain ⟨origin, present, makes⟩ := launchedJobs_origin made member
    obtain ⟨before, input, after, _, rfl⟩ := mem_groupJobs present
    rw [makes.source] at staging
    exact absurd staging (source_direct input)
  · intro effect same
    cases same

theorem copyKernelFallback_flush (c : Collector) (tensor : Tensor) (rest : List (Job Block Nat))
    (fits : c.pendingCopyKernelInputBuffers = [] ∨ c.pendingCopyKernelBufferOffset +
      totalByteSize c.pendingCopyKernelInputBuffers ≤ tensor.byteSize) :
    let result := copyKernelFallback env cfg c tensor
    KernelFlush faithful c tensor rest (result.1, result.2.clearPendingCopyKernel) := by
  have fields := setInputTensors_sameGroups env cfg "gather kernel fallback" tensor
    c.pendingCopyKernelBufferOffset false c c.pendingCopyKernelInputBuffers
  constructor
  · exact setInputTensors_carries env cfg faithful "gather kernel fallback" tensor
      c.pendingCopyKernelBufferOffset false c c.pendingCopyKernelInputBuffers fits rest
  · exact (setInputTensors_streams env cfg "gather kernel fallback" tensor
      c.pendingCopyKernelBufferOffset false c c.pendingCopyKernelInputBuffers).1
  · simp only [copyKernelFallback]
    rw [fields]
    rfl

theorem KernelFlush.counted {c after : Collector} {tensor : Tensor} {rest : List (Job Block Nat)}
    {result : Bool × Collector} {tick nextBlock : Nat} (later : c.nextBlock ≤ nextBlock)
    (groups : c.SameGroups after) (counts : after.toSys = { c.toSys with tick, nextBlock })
    (flush : KernelFlush faithful after tensor rest result) :
    KernelFlush faithful c tensor rest result := by
  obtain ⟨carries, streams, fields⟩ := flush
  rw [counts] at carries streams
  rw [groups] at carries fields
  constructor
  · exact (Sys.Carries.idle (Sys.Step.count c.toSys tick nextBlock later).reaches rfl _).trans carries
  · exact ⟨streams.recorded, streams.quiet⟩
  · exact fields

theorem flushPendingCopyKernel_flush (c : Collector) (tensor : Tensor)
    (rest : List (Job Block Nat))
    (sized : c.pendingCopyKernelBufferByteSize = totalByteSize c.pendingCopyKernelInputBuffers)
    (counted : c.pendingCopyKernelInputBufferCounts = c.pendingCopyKernelInputBuffers.length)
    (idle : c.pendingCopyKernelInputBuffers = [] → c.pendingCopyKernelBufferOffset = 0)
    (fits : c.pendingCopyKernelInputBuffers = [] ∨ c.pendingCopyKernelBufferOffset +
      totalByteSize c.pendingCopyKernelInputBuffers ≤ tensor.byteSize)
    (place : ¬ IsStaging tensor.buffer.block)
    (old : blockAge tensor.buffer.block ≤ c.nextBlock)
    (performs : cfg.kernelBufferThreshold ≤ c.pendingCopyKernelInputBuffers.length →
      Performs env faithful c.pendingCopyKernelInputBuffers) :
    KernelFlush faithful c tensor rest (flushPendingCopyKernel env cfg c tensor) := by
  simp only [flushPendingCopyKernel]
  split
  next empty =>
    have none := List.length_eq_zero_iff.mp empty
    constructor
    · rw [none]
      exact Sys.Carries.refl _ _
    · exact Streams.refl _ _
    · simp only [none, totalByteSize_nil, List.length_nil] at sized counted
      have offset := idle none
      cases c
      simp only at sized counted offset none
      subst sized counted offset none
      rfl
  next some =>
    split
    next reached =>
      obtain ⟨groups, tick, nextBlock, later, ⟨failed, counts⟩ | ⟨launched, issued⟩⟩ :=
        launchCopyKernel_cases env c tensor
      -- after a launch that failed the chunks are copied one by one
      · cases failure : (launchCopyKernel env c tensor).1 with
        | none => exact absurd failure failed
        | some error =>
            refine KernelFlush.counted faithful later groups counts ?_
            refine copyKernelFallback_flush env cfg faithful _ tensor rest ?_
            rw [groups]
            exact fits
      -- the launch makes the copies of the group all at once
      · rw [launched]
        constructor
        · simp only [toSys_clearPendingCopyKernel]
          rw [issued]
          exact launchCopyKernel_carries env faithful c.toSys tick later tensor.buffer _ _ rest place
            old (performs (counted ▸ reached))
        · simp only [toSys_clearPendingCopyKernel]
          rw [issued]
          refine ⟨by rw [device_issue]; rfl, ?_⟩
          intro none
          cases none
        · simp only
          rw [groups]
          rfl
    next => exact copyKernelFallback_flush env cfg faithful c tensor rest fits

end

end TritonBackend
