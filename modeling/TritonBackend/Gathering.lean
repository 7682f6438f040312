import TritonBackend.CollectorBlame
import TritonBackend.GatherThreads

/-!
What a collector without the work queue has done once it is finalized and synchronized: the
chunks of every live response are in their tensors, a response is failed for a reason, and
no other byte has changed. The kernel's `int` arithmetic makes this hold only while its
groups fit.
-/

namespace TritonBackend

open CopyStream

/-! The jobs of several calls. -/

theorem fittingJob_mem {tensor : Tensor} {offset : Nat} {input : ContiguousBuffer}
    {job : Job Block Nat} :
    job ∈ fittingJob tensor offset input ↔ offset + input.byteSize ≤ tensor.byteSize ∧
      job = chunkJob input (tensor.buffer.advance offset) := by
  rw [fittingJob]
  split
  next fits => simp [fits]
  next exceeds => simp [exceeds]

theorem mem_tensorJobs {tensor : Tensor} {offset : Nat} {chunks : List ContiguousBuffer}
    {job : Job Block Nat} :
    job ∈ tensorJobs tensor offset chunks ↔ ∃ before input after,
      chunks = before ++ input :: after ∧
      offset + totalByteSize before + input.byteSize ≤ tensor.byteSize ∧
      job = chunkJob input (tensor.buffer.advance (offset + totalByteSize before)) := by
  induction chunks generalizing offset with
  | nil => simp [tensorJobs]
  | cons first rest ih =>
      rw [tensorJobs, List.mem_append, fittingJob_mem, ih]
      constructor
      · rintro (⟨fits, rfl⟩ | ⟨before, input, after, rfl, fits, rfl⟩)
        · exact ⟨[], first, rest, rfl, by simpa using fits, by simp⟩
        · refine ⟨first :: before, input, after, rfl, ?_, ?_⟩
          · simpa [Nat.add_assoc] using fits
          · simp [Nat.add_assoc]
      · rintro ⟨before, input, after, split, fits, rfl⟩
        cases before with
        | nil =>
            simp only [List.nil_append, List.cons.injEq] at split
            obtain ⟨rfl, rfl⟩ := split
            exact Or.inl ⟨by simpa using fits, by simp⟩
        | cons head before =>
            simp only [List.cons_append, List.cons.injEq] at split
            obtain ⟨rfl, rfl⟩ := split
            refine Or.inr ⟨before, input, after, rfl, ?_, ?_⟩
            · simpa [Nat.add_assoc] using fits
            · simp [Nat.add_assoc]

theorem tensorJobs_inside {tensor : Tensor} {offset : Nat} {chunks : List ContiguousBuffer}
    {job : Job Block Nat} (member : job ∈ tensorJobs tensor offset chunks) {block : Block}
    {position : Int} (written : (job.effect : Effect Block UInt8).Writes block position) :
    block = tensor.buffer.block ∧ tensor.buffer.offset + offset ≤ position ∧
      position < tensor.buffer.offset + tensor.byteSize := by
  obtain ⟨before, input, after, rfl, fits, rfl⟩ := mem_tensorJobs.mp member
  obtain ⟨same, lower, upper⟩ := (writes_iff _ _ _).mp written
  simp only [chunkJob, chunkTransfer, advance_block, advance_offset] at same lower upper
  refine ⟨same, ?_, ?_⟩ <;> omega

theorem tensorJobs_apart (tensor : Tensor) (offset : Nat) (chunks : List ContiguousBuffer) :
    (tensorJobs tensor offset chunks).Pairwise fun first second =>
      (first.effect : Effect Block UInt8).Apart second.effect := by
  induction chunks generalizing offset with
  | nil => exact List.Pairwise.nil
  | cons input rest ih =>
      refine List.pairwise_append.mpr ⟨?_, ih _, ?_⟩
      · rw [fittingJob]
        split <;> simp
      · intro job member other present block position first second
        obtain ⟨_, rfl⟩ := fittingJob_mem.mp member
        obtain ⟨_, _, upper⟩ := (writes_iff _ _ _).mp first
        have lower := (tensorJobs_inside present second).2.1
        simp only [chunkJob, chunkTransfer, advance_offset] at upper
        omega

def Tensor.Apart (first second : Tensor) : Prop :=
  ∀ block position, first.buffer.Covers first.byteSize block position →
    ¬ second.buffer.Covers second.byteSize block position

theorem callJobs_apart {calls : List TensorCall}
    (apart : calls.Pairwise fun first second => first.tensor.Apart second.tensor) :
    (callJobs calls).Pairwise fun first second =>
      (first.effect : Effect Block UInt8).Apart second.effect := by
  rw [callJobs, List.pairwise_flatMap]
  refine ⟨fun call _ => tensorJobs_apart call.tensor 0 call.chunks, apart.imp ?_⟩
  intro first second separate job member other present block position written overwritten
  obtain ⟨same, lower, upper⟩ := tensorJobs_inside member written
  obtain ⟨same', lower', upper'⟩ := tensorJobs_inside present overwritten
  exact separate block position ⟨same, by omega, by omega⟩ ⟨same', by omega, by omega⟩

theorem callJobs_numbered {s : Sys} (fresh : s.log = []) {calls : List TensorCall}
    (placed : ∀ call ∈ calls, call.tensor.Placed s) :
    (s.courier (callJobs calls)).Numbered blockAge := by
  refine fresh_numbered fresh ?_
  intro job member
  obtain ⟨call, present, inside⟩ := List.mem_flatMap.mp member
  obtain ⟨before, input, after, _, _, rfl⟩ := mem_tensorJobs.mp inside
  exact ⟨(placed call present).old, Nat.zero_le _⟩

section
variable (env : Env) (cfg : CollectorConfig)

/-- The calls that still follow, `Finalize` and the synchronization. -/
def closeCollector (c : Collector) (calls : List TensorCall) : Sys :=
  let finalized := finalize env cfg (gatherTensors env cfg c calls)
  synchronize cfg finalized.2 finalized.1

theorem closeCollector_carries (faithful : Prop) (sync : cfg.useAsyncCpuCopy = false)
    {c : Collector} {calls : List TensorCall} (calm : c.Calm cfg)
    (placed : ∀ call ∈ calls, call.tensor.Placed c.toSys)
    (numbered : (c.toSys.courier
      (c.deferredPinned.map drainJob ++ callJobs calls)).Numbered blockAge)
    (performs : ∀ call ∈ calls, ∀ launch ∈ kernelGroups cfg call.tensor [] 0 0 call.chunks,
      cfg.kernelBufferThreshold ≤ launch.1.length → Performs env faithful launch.1) :
    let done := closeCollector env cfg c calls
    c.toSys.Carries faithful (c.deferredPinned.map drainJob ++ callJobs calls) done [] ∧
      done.device.queue = [] := by
  have all : callJobs calls = callJobs calls ++ [] := (List.append_nil _).symm
  rw [all] at numbered ⊢
  obtain ⟨carries, calm'⟩ := gatherTensors_carries env cfg faithful sync calm placed numbered performs
  have none : ∀ job ∈ ([] : List (Job Block Nat)), ¬ IsStaging job.transfer.target.block := by simp
  obtain ⟨finished, settled⟩ := finalize_carries env cfg faithful calm' none
  exact ⟨carries.trans finished, settled⟩

theorem gatherAndFinalize_carries (faithful : Prop) (sync : cfg.useAsyncCpuCopy = false) {s : Sys}
    (fresh : s.log = []) (bufferReadyEvent : Bool) {calls : List TensorCall}
    (placed : ∀ call ∈ calls, call.tensor.Placed s)
    (performs : ∀ call ∈ calls, ∀ launch ∈ kernelGroups cfg call.tensor [] 0 0 call.chunks,
      cfg.kernelBufferThreshold ≤ launch.1.length → Performs env faithful launch.1) :
    let done := gatherAndFinalize env cfg s bufferReadyEvent calls
    s.Carries faithful (callJobs calls) done [] ∧ done.device.queue = [] := by
  exact closeCollector_carries env cfg faithful sync (calm_of_fresh cfg fresh bufferReadyEvent) placed
    (callJobs_numbered fresh placed) performs

/-! A chunk that does not fit loses its responses. -/

theorem processChunksFrom_append (inputName : String) (tensor : Tensor) (c : Collector)
    (offset : Nat) (first second : List ContiguousBuffer) :
    processChunksFrom env cfg inputName tensor c offset (first ++ second) =
      processChunksFrom env cfg inputName tensor
        (processChunksFrom env cfg inputName tensor c offset first)
        (offset + totalByteSize first) second := by
  induction first generalizing c offset with
  | nil => simp [processChunksFrom]
  | cons input rest ih => simp [processChunksFrom, ih, Nat.add_assoc]

theorem gatherTensors_append (c : Collector) (first second : List TensorCall) :
    gatherTensors env cfg c (first ++ second) =
      gatherTensors env cfg (gatherTensors env cfg c first) second := by
  induction first generalizing c with
  | nil => rfl
  | cons call rest ih => simp [gatherTensors, ih]

theorem processChunk_misfit (inputName : String) (tensor : Tensor) (c : Collector) {offset : Nat}
    {input : ContiguousBuffer} (exceeds : tensor.byteSize < offset + input.byteSize) {idx : Nat}
    (member : idx ∈ input.requestRange) :
    (processChunk env cfg inputName tensor c offset input).toSys.Gone idx := by
  simp only [processChunk, setInputTensor, gt_iff_lt, exceeds, if_true]
  exact failRequests_gone _ _ _ member

theorem gatherAndFinalize_misfit (s : Sys) (bufferReadyEvent : Bool) {calls : List TensorCall}
    {call : TensorCall} (member : call ∈ calls) {before after : List ContiguousBuffer}
    {input : ContiguousBuffer} (split : call.chunks = before ++ input :: after)
    (exceeds : call.tensor.byteSize < totalByteSize before + input.byteSize) {idx : Nat}
    (range : idx ∈ input.requestRange) :
    (gatherAndFinalize env cfg s bufferReadyEvent calls).Gone idx := by
  obtain ⟨first, later, rfl⟩ := List.append_of_mem member
  have reached := (finalize_reaches env cfg (gatherTensors env cfg
    (Collector.create s bufferReadyEvent) (first ++ call :: later))).trans
      (synchronize_reaches cfg _ (finalize env cfg (gatherTensors env cfg
        (Collector.create s bufferReadyEvent) (first ++ call :: later))).1)
  refine reaches_gone reached ?_
  rw [gatherTensors_append]
  generalize gatherTensors env cfg (Collector.create s bufferReadyEvent) first = c
  refine reaches_gone (gatherTensors_reaches env cfg _ later) ?_
  refine reaches_gone (finishTensor_reaches env cfg call.tensor _) ?_
  rw [split, processChunksFrom_append]
  refine reaches_gone (processChunksFrom_reaches env cfg call.inputName call.tensor _ _ after) ?_
  exact processChunk_misfit env cfg call.inputName call.tensor _ (by omega) range

/-! The result. -/

def Tensor.Supplied (tensor : Tensor) : Prop := ∃ n, tensor.buffer.block = .tensor n

theorem Tensor.Supplied.placed {tensor : Tensor} (supplied : tensor.Supplied) (s : Sys) :
    tensor.Placed s := by
  obtain ⟨n, same⟩ := supplied
  constructor
  · rintro ⟨m, other⟩
    rw [same] at other
    cases other
  · rw [same]
    exact Nat.zero_le _

/-- Every group of chunks that can be launched fits the kernel's arithmetic at its place in
the tensor. -/
def LaunchesFit (place : Block → Int) (calls : List TensorCall) : Prop :=
  ∀ call ∈ calls, ∀ launch ∈ kernelGroups cfg call.tensor [] 0 0 call.chunks,
    cfg.kernelBufferThreshold ≤ launch.1.length →
      GroupFits place launch.1 (call.tensor.buffer.advance launch.2)

instance (place : Block → Int) (calls : List TensorCall) : Decidable (LaunchesFit cfg place calls) := by
  unfold LaunchesFit
  infer_instance

theorem LaunchesFit.performs {env : Env} {cfg : CollectorConfig} {place : Block → Int}
    {calls : List TensorCall} (fits : LaunchesFit cfg place calls)
    (kernel : env.runGatherKernel = tritonGatherKernel) :
    ∀ call ∈ calls, ∀ launch ∈ kernelGroups cfg call.tensor [] 0 0 call.chunks,
      cfg.kernelBufferThreshold ≤ launch.1.length → Performs env True launch.1 :=
  fun call member launch inside reached => tritonGatherKernel_performs env True kernel launch.1
    fun _ => (fits call member launch inside reached).segmentsFit

/-- The response is that of a chunk that did not fit or whose copy failed. -/
def FailedFor (calls : List TensorCall) (done : Sys) (idx : Nat) : Prop :=
  ∃ call ∈ calls, ∃ before input after, call.chunks = before ++ input :: after ∧
    idx ∈ input.requestRange ∧
    (call.tensor.byteSize < totalByteSize before + input.byteSize ∨ done.Blames input)

/-- `arrived`: the chunks of a live response are in their tensors, each behind the ones before
it. `blamed`: a response is failed only with a chunk that did not fit or whose copy failed.
`untouched`: nothing else that was there before is written. -/
structure ChunksDelivered (s : Sys) (calls : List TensorCall) (initial : Memory Block UInt8)
    (done : Sys) : Prop where
  arrived : ∀ call ∈ calls, ∀ before input after, call.chunks = before ++ input :: after →
    ∀ idx ∈ input.requestRange, ¬ done.Gone idx → ∀ index : Nat, index < input.byteSize →
      done.device.memory initial call.tensor.buffer.block
          (call.tensor.buffer.offset + totalByteSize before + index) =
        initial input.memoryDesc.address.block (input.memoryDesc.address.offset + index)
  blamed : ∀ idx, done.Gone idx → s.Gone idx ∨ FailedFor calls done idx
  spared : (∀ transfer, .failedCopy transfer ∉ done.log) →
    (∀ call ∈ calls, totalByteSize call.chunks ≤ call.tensor.byteSize) →
    ∀ idx, done.Gone idx → s.Gone idx
  untouched : ∀ block position, blockAge block ≤ s.nextBlock →
    (∀ call ∈ calls, ∀ before input after, call.chunks = before ++ input :: after →
      totalByteSize before + input.byteSize ≤ call.tensor.byteSize →
      ¬ (call.tensor.buffer.advance (totalByteSize before)).Covers input.byteSize block position) →
    done.device.memory initial block position = initial block position

theorem gatherAndFinalize_blamed (sync : cfg.useAsyncCpuCopy = false)
    (performs : ∀ group, Performs env False group) {s : Sys} (fresh : s.log = [])
    (bufferReadyEvent : Bool) {calls : List TensorCall}
    (placed : ∀ call ∈ calls, call.tensor.Placed s) {idx : Nat}
    (gone : (gatherAndFinalize env cfg s bufferReadyEvent calls).Gone idx) :
    s.Gone idx ∨ FailedFor calls (gatherAndFinalize env cfg s bufferReadyEvent calls) idx := by
  have calm := calm_of_fresh cfg fresh bufferReadyEvent
  have numbered : (s.courier ([] ++ (callJobs calls ++ []))).Numbered blockAge := by
    rw [List.append_nil]
    exact callJobs_numbered fresh placed
  obtain ⟨_, calm'⟩ := gatherTensors_carries env cfg False sync calm placed numbered
    (fun _ _ launch _ _ => performs launch.1)
  let listed (input : ContiguousBuffer) : Prop :=
    ∃ call ∈ calls, ∃ before after, call.chunks = before ++ input :: after
  let misfit (input : ContiguousBuffer) : Prop :=
    ∃ call ∈ calls, ∃ before after, call.chunks = before ++ input :: after ∧
      call.tensor.byteSize < totalByteSize before + input.byteSize
  have judged : JudgedCalls listed misfit calls := by
    intro call member before input after split
    rw [Judged]
    split
    · exact ⟨call, member, before, after, ‹_›⟩
    · exact ⟨call, member, before, after, ‹_›, by omega⟩
  have accounted : (Collector.create s bufferReadyEvent).Accounted listed :=
    ⟨by simp [Collector.create], by simp [Collector.create], by simp [Collector.create]⟩
  obtain ⟨gathering, accounted'⟩ := gatherTensors_accuses listed misfit env cfg sync performs calm
    placed numbered judged accounted
  have finishing := finalize_accuses listed misfit env cfg calm'.tidy accounted'
  have reached := (finalize_reaches env cfg
    (gatherTensors env cfg (Collector.create s bufferReadyEvent) calls)).trans
      (synchronize_reaches cfg _ (finalize env cfg
        (gatherTensors env cfg (Collector.create s bufferReadyEvent) calls)).1)
  rcases gathering.trans listed misfit finishing reached idx gone with before | ⟨input, range, guilt⟩
  · exact Or.inl before
  · refine Or.inr ?_
    rcases guilt with ⟨call, member, before, after, split, exceeds⟩ |
      ⟨⟨call, member, before, after, split⟩, blames⟩
    · exact ⟨call, member, before, input, after, split, range, Or.inl exceeds⟩
    · exact ⟨call, member, before, input, after, split, range, Or.inr blames⟩

/-- While its launches fit, the collector delivers every chunk. -/
theorem chunksDelivered_of_launchesFit (kernel : env.runGatherKernel = tritonGatherKernel)
    (sync : cfg.useAsyncCpuCopy = false) {s : Sys} (fresh : s.log = []) (bufferReadyEvent : Bool)
    {calls : List TensorCall} (supplied : ∀ call ∈ calls, call.tensor.Supplied)
    (apart : calls.Pairwise fun first second => first.tensor.Apart second.tensor)
    (place : Block → Int) (fits : LaunchesFit cfg place calls) (initial : Memory Block UInt8) :
    ChunksDelivered s calls initial (gatherAndFinalize env cfg s bufferReadyEvent calls) := by
  have placed (call : TensorCall) (member : call ∈ calls) : call.tensor.Placed s :=
    (supplied call member).placed s
  have numbered := callJobs_numbered fresh placed
  obtain ⟨carries, settled⟩ := gatherAndFinalize_carries env cfg True sync fresh bufferReadyEvent
    placed (fits.performs kernel)
  have blamed (idx : Nat) (gone : (gatherAndFinalize env cfg s bufferReadyEvent calls).Gone idx) :=
    gatherAndFinalize_blamed env cfg sync
      (fun group => tritonGatherKernel_performs env False kernel group False.elim) fresh
      bufferReadyEvent placed gone
  have misfit (call : TensorCall) (member : call ∈ calls) (before after : List ContiguousBuffer)
      (input : ContiguousBuffer) (split : call.chunks = before ++ input :: after)
      (exceeds : call.tensor.byteSize < totalByteSize before + input.byteSize) (idx : Nat)
      (range : idx ∈ input.requestRange) :=
    gatherAndFinalize_misfit env cfg s bufferReadyEvent member split exceeds range
  generalize gatherAndFinalize env cfg s bufferReadyEvent calls = done
    at carries settled blamed misfit ⊢
  constructor
  · intro call member before input after split idx range live index bound
    by_cases exceeds : call.tensor.byteSize < totalByteSize before + input.byteSize
    · exact absurd (misfit call member before after input split exceeds idx range) live
    · have planned : chunkJob input (call.tensor.buffer.advance (totalByteSize before)) ∈
          callJobs calls := by
        refine List.mem_flatMap.mpr ⟨call, member, mem_tensorJobs.mpr ⟨before, input, after, split, ?_,
          by rw [Nat.zero_add]⟩⟩
        omega
      -- jobs write into tensors only, so the chunk is still what it was when it is copied
      have delivered := plan_delivered initial fresh ⟨numbered, callJobs_apart apart⟩ carries settled
        planned range (fun lost => live lost.1) (by
          intro other present position written
          obtain ⟨call', member', inside⟩ := List.mem_flatMap.mp present
          obtain ⟨n, tensorBlock⟩ := supplied call' member'
          have same := (tensorJobs_inside inside written).1
          rw [tensorBlock] at same
          cases same) bound
      simpa [chunkJob, chunkTransfer] using delivered
  · exact blamed
  · intro success total idx gone
    refine (blamed idx gone).resolve_right ?_
    rintro ⟨call, member, before, input, after, split, _, exceeds | ⟨failed, noted, _⟩⟩
    · have enough := total call member
      rw [split, totalByteSize_append, totalByteSize_cons] at enough
      omega
    · exact success failed noted
  · intro block position old outside
    refine plan_untouched initial fresh carries old ?_
    intro job present written
    obtain ⟨call, member, inside⟩ := List.mem_flatMap.mp present
    obtain ⟨before, input, after, split, fits, rfl⟩ := mem_tensorJobs.mp inside
    rw [Nat.zero_add] at fits written
    exact outside call member before input after split fits written

end

/-! Chunks for a GPU tensor of their total size. -/

def gpuTensor (byteSize : Nat) : Tensor := {
  buffer := { block := .tensor 0, offset := 0 }
  byteSize
  memoryType := .gpu
  memoryTypeId := 0 }

def gpuCall (chunks : List ContiguousBuffer) : TensorCall := {
  inputName := "INPUT"
  tensor := gpuTensor (totalByteSize chunks)
  chunks }

def CollectorConfig.launching (requests : List Request) : CollectorConfig :=
  { CollectorConfig.plain requests with kernelBufferThreshold := 1 }

/-- Memory that holds ones in the requests' buffers and zeros elsewhere. -/
def inputOnes : Memory Block UInt8
  | .input _ _, _ => 1
  | _, _ => 0

def mixedChunks : List ContiguousBuffer :=
  [requestChunk 0 4096 8 .cpu, requestChunk 1 8192 4 .cpuPinned, requestChunk 2 512 0 .gpu]

theorem chunksDelivered_mixed :
    ChunksDelivered (Sys.fresh 3) [gpuCall mixedChunks] inputOnes
      (gatherAndFinalize (Env.successful tritonGatherKernel) (CollectorConfig.launching [])
        (Sys.fresh 3) false [gpuCall mixedChunks]) := by
  refine chunksDelivered_of_launchesFit _ _ rfl rfl rfl false ?_ (List.pairwise_singleton _ _)
    (fun _ => 256) (by decide) inputOnes
  intro call member
  rw [List.mem_singleton] at member
  subst member
  exact ⟨0, rfl⟩

def wideChunk : ContiguousBuffer := requestChunk 0 4096 (2 ^ 31) .cpuPinned

theorem not_chunksDelivered_wide :
    ¬ ChunksDelivered (Sys.fresh 1) [gpuCall [wideChunk]] inputOnes
      (gatherAndFinalize (Env.successful tritonGatherKernel) (CollectorConfig.launching [])
        (Sys.fresh 1) false [gpuCall [wideChunk]]) := by
  intro delivered
  have live : ¬ (gatherAndFinalize (Env.successful tritonGatherKernel)
      (CollectorConfig.launching []) (Sys.fresh 1) false [gpuCall [wideChunk]]).Gone 0 := by
    intro gone
    exact gone 0 (by decide +kernel)
  have copied := delivered.arrived (gpuCall [wideChunk]) List.mem_cons_self [] wideChunk [] rfl 0
    (by decide) live 0 (by decide)
  have missing : (gatherAndFinalize (Env.successful tritonGatherKernel)
      (CollectorConfig.launching []) (Sys.fresh 1) false [gpuCall [wideChunk]]).device.memory
        inputOnes (.tensor 0) 0 = 0 := by decide +kernel
  exact absurd (missing.symm.trans copied) (by decide)

end TritonBackend
