import TritonBackend.GatheredTensor

/-!
A collector that gathers one input into a tensor of the backend's and is then finalized.
When nothing fails every response is kept, and the tensor holds each request's bytes behind
those of the requests before it.
-/

namespace TritonBackend

open CopyStream

/-- A request without buffers is what stops the iterator early. -/
theorem unreached_filled (coalesce first : Bool) {inputs : List (List MemoryDesc)}
    (filled : ∀ buffers ∈ inputs, buffers ≠ []) : unreached coalesce first inputs = [] := by
  induction inputs generalizing first with
  | nil => rfl
  | cons buffers rest ih =>
      have some : buffers.isEmpty = false := by simpa using filled buffers List.mem_cons_self
      simp only [unreached, some, Bool.false_and, Bool.false_eq_true, if_false]
      exact ih false fun later member => filled later (List.mem_cons_of_mem _ member)

section
variable (env : Env) (cfg : CollectorConfig)

/-- `ProcessTensor` on a collector of its own, `Finalize` and the synchronization. -/
def gatherTensor (inputName : String) (tensor : Tensor) (s : Sys) (bufferReadyEvent : Bool) : Sys :=
  closeCollector env cfg
    (processTensor env cfg inputName tensor (Collector.create s bufferReadyEvent)) []

def inputCall (inputName : String) (tensor : Tensor) : TensorCall := {
  inputName
  tensor
  chunks := inputChunks cfg.coalesceRequestInput inputName cfg.requests }

theorem inputCall_numbered {s : Sys} (fresh : s.log = []) (inputName : String) {tensor : Tensor}
    (placed : tensor.Placed s) :
    (s.courier (callJobs [inputCall cfg inputName tensor])).Numbered blockAge :=
  callJobs_numbered fresh (by simpa [inputCall] using placed)

/-! Whom the loop over the iterator's chunks fails. -/

section
variable (listed misfit : ContiguousBuffer → Prop)

theorem processTensorLoop_accuses (sync : cfg.useAsyncCpuCopy = false)
    (performs : ∀ group, Performs env False group) {inputName : String}
    (looks : LooksUp env cfg.requests inputName) {tensor : Tensor} {c : Collector}
    (it : InputIterator) (kept : ContiguousBuffer) {offset : Nat} {left : List (Nat × MemoryDesc)}
    (resumes : it.Resumes cfg.requests inputName cfg.coalesceRequestInput left)
    {rest : List (Job Block Nat)} (tidy : c.Tidy tensor.byteSize) (placed : tensor.Placed c.toSys)
    (numbered : (c.toSys.courier (c.waiting tensor ++
      (tensorJobs tensor offset (mergeBuffers cfg.coalesceRequestInput left) ++ rest))).Numbered
        blockAge)
    (judged : ∀ before input after,
      mergeBuffers cfg.coalesceRequestInput left = before ++ input :: after →
        Judged listed misfit tensor (offset + totalByteSize before) input)
    (accounted : c.Accounted listed) :
    let c' := processTensorLoop env cfg inputName tensor c it kept offset
    Accuses listed misfit c.toSys c'.toSys ∧ c'.Accounted listed := by
  induction c, it, kept, offset using processTensorLoop.induct env cfg inputName tensor
    generalizing left with
  | case1 c it kept offset next found =>
      rename_i ih
      obtain ⟨⟨tick, sys⟩, none | ⟨_, left', later, merged⟩⟩ :=
        getNextContiguousInput_eq looks resumes kept c.toSys
      · exact absurd (none.1.symm.trans found) Bool.false_ne_true
      have idle : c.toSys.Idles next.sys := by
        rw [show next.sys = { c.toSys with tick } from sys]
        exact idles_tick c.toSys tick
      have same : Accuses listed misfit c.toSys next.sys := Accuses.same listed misfit (by
        rw [show next.sys = { c.toSys with tick } from sys])
      rw [show getNextContiguousInput env cfg.requests inputName cfg.coalesceRequestInput kept it
        c.toSys = next from rfl] at later merged
      rw [merged] at numbered judged
      simp only [tensorJobs, List.append_assoc] at numbered
      have waited := Moves.idle False tidy idle (fittingJob tensor offset next.input ++
        (tensorJobs tensor (offset + next.input.byteSize)
          (mergeBuffers cfg.coalesceRequestInput left') ++ rest))
      have ready := Sys.Carries.numbered False waited.carries numbered
      have placed' := placed.mono idle.1
      have first := judged [] next.input _ rfl
      rw [totalByteSize_nil, Nat.add_zero] at first
      have still : (c.withSys next.sys).Accounted listed :=
        accounted.mono listed idle.1 accounted.pinned accounted.kernel rfl
      obtain ⟨accuses, between⟩ := processChunk_accuses listed misfit env cfg sync waited.tidy placed'
        inputName ready first still
      obtain ⟨moves, _⟩ := processChunk_moves env cfg False sync waited.tidy placed' inputName offset
        next.input ready (fun _ _ => performs _)
      have reached := processChunk_reaches env cfg inputName tensor (c.withSys next.sys) offset
        next.input
      obtain ⟨others, done⟩ := ih later moves.tidy (placed'.mono reached)
        (Sys.Carries.numbered False moves.carries ready) (by
          intro before input after split
          have found := judged (next.input :: before) input after (by rw [split]; rfl)
          rwa [totalByteSize_cons, ← Nat.add_assoc] at found) between
      rw [processTensorLoop, if_pos found]
      refine ⟨(same.trans listed misfit accuses reached).trans listed misfit others ?_, done⟩
      exact chunkRun_reaches env cfg (processTensorLoop_run looks tensor _ _ _ _ later)
  | case2 c it kept offset next =>
      rename_i missing
      obtain ⟨⟨tick, sys⟩, _⟩ := getNextContiguousInput_eq looks resumes kept c.toSys
      have idle : c.toSys.Idles next.sys := by
        rw [show next.sys = { c.toSys with tick } from sys]
        exact idles_tick c.toSys tick
      rw [processTensorLoop, if_neg missing]
      refine ⟨Accuses.same listed misfit ?_,
        accounted.mono listed idle.1 accounted.pinned accounted.kernel rfl⟩
      rw [toSys_withSys, show getNextContiguousInput env cfg.requests inputName
        cfg.coalesceRequestInput kept it c.toSys = next from rfl,
        show next.sys = { c.toSys with tick } from sys]

theorem processTensor_accuses (sync : cfg.useAsyncCpuCopy = false)
    (performs : ∀ group, Performs env False group) {inputName : String}
    (looks : LooksUp env cfg.requests inputName) (batch : cfg.requests ≠ []) {tensor : Tensor}
    {c : Collector} (calm : c.Calm cfg) (placed : tensor.Placed c.toSys)
    (numbered : (c.toSys.courier (c.deferredPinned.map drainJob ++
      callJobs [inputCall cfg inputName tensor])).Numbered blockAge)
    (judged : JudgedCalls listed misfit [inputCall cfg inputName tensor])
    (accounted : c.Accounted listed) :
    let c' := processTensor env cfg inputName tensor c
    Accuses listed misfit c.toSys c'.toSys ∧ c'.Accounted listed := by
  have jobs : callJobs [inputCall cfg inputName tensor] =
      tensorJobs tensor 0 (inputChunks cfg.coalesceRequestInput inputName cfg.requests) ++ [] := by
    simp [callJobs, inputCall]
  rcases split : cfg.requests.map (requestBuffers inputName) with _ | ⟨buffers, rest⟩
  · exact absurd (List.map_eq_nil_iff.mp split) batch
  obtain ⟨⟨tick, sys⟩, resumes⟩ := create_resumes looks cfg.coalesceRequestInput c.toSys split
  have chunks : inputChunks cfg.coalesceRequestInput inputName cfg.requests =
      mergeBuffers cfg.coalesceRequestInput (resumedFrom cfg.coalesceRequestInput 0 buffers rest) := by
    rw [inputChunks, split]
  simp only [processTensor]
  generalize InputIterator.create env cfg.requests inputName c.toSys = it at sys resumes ⊢
  have idle : c.toSys.Idles it.2 := by
    rw [sys]
    exact idles_tick c.toSys tick
  have same : Accuses listed misfit c.toSys it.2 := Accuses.same listed misfit (by rw [sys])
  have started := calm.idle cfg idle
  have tidy := started.tidy.of_empty started.pinned started.kernel tensor.byteSize
  have waiting := waiting_of_empty started.pinned started.kernel tensor
  have ready := Sys.Carries.numbered False (Sys.Carries.idle idle.1 idle.2 _) numbered
  rw [jobs, chunks, ← show (c.withSys it.2).waiting tensor = c.deferredPinned.map drainJob from waiting]
    at ready
  have place := placed.mono idle.1
  obtain ⟨moves, _⟩ := chunkRun_moves env cfg False sync
    (processTensorLoop_run looks tensor (c.withSys it.2) it.1 .default 0 resumes) tidy place ready
    (fun launch _ _ => performs launch.1)
  obtain ⟨accuses, between⟩ := processTensorLoop_accuses env cfg listed misfit sync performs looks
    it.1 .default resumes tidy place ready (by
      intro before input after found
      rw [Nat.zero_add]
      exact judged _ List.mem_cons_self before input after (chunks.trans found))
    (accounted.mono listed idle.1 accounted.pinned accounted.kernel rfl)
  have reached := chunkRun_reaches env cfg
    (processTensorLoop_run looks tensor (c.withSys it.2) it.1 .default 0 resumes)
  generalize processTensorLoop env cfg inputName tensor (c.withSys it.2) it.1 .default 0 = last
    at moves accuses between reached ⊢
  obtain ⟨flushes, done⟩ := finishTensor_accuses listed misfit env cfg sync moves.tidy
    (place.mono reached) (Sys.Carries.numbered False moves.carries ready) between
  exact ⟨(same.trans listed misfit accuses reached).trans listed misfit flushes
    (finishTensor_reaches env cfg tensor last), done⟩

end

theorem gatherTensor_carries (faithful : Prop) (sync : cfg.useAsyncCpuCopy = false)
    {inputName : String} (looks : LooksUp env cfg.requests inputName) (batch : cfg.requests ≠ [])
    {s : Sys} (fresh : s.log = []) (bufferReadyEvent : Bool) {tensor : Tensor}
    (placed : tensor.Placed s)
    (performs : ∀ launch ∈ kernelGroups cfg tensor [] 0 0
      (inputChunks cfg.coalesceRequestInput inputName cfg.requests),
      cfg.kernelBufferThreshold ≤ launch.1.length → Performs env faithful launch.1) :
    let c := processTensor env cfg inputName tensor (Collector.create s bufferReadyEvent)
    let done := gatherTensor env cfg inputName tensor s bufferReadyEvent
    s.Carries faithful (callJobs [inputCall cfg inputName tensor]) done [] ∧
      done.device.queue = [] ∧ c.Calm cfg := by
  have calm := calm_of_fresh cfg fresh bufferReadyEvent
  have numbered := inputCall_numbered cfg fresh inputName placed
  obtain ⟨after, run, shape⟩ := processTensor_run looks batch tensor
    (Collector.create s bufferReadyEvent)
  have jobs : callJobs [inputCall cfg inputName tensor] =
      tensorJobs tensor 0 (inputChunks cfg.coalesceRequestInput inputName cfg.requests) ++ [] := by
    simp [callJobs, inputCall]
  rw [jobs] at numbered ⊢
  obtain ⟨gathers, calm'⟩ := tensor_carries env cfg faithful sync run calm placed numbered performs
  have ready : ((finishTensor env cfg tensor after).toSys.courier
      ((finishTensor env cfg tensor after).deferredPinned.map drainJob ++ callJobs [])).Numbered
        blockAge := Sys.Carries.numbered faithful gathers numbered
  obtain ⟨closes, settled⟩ := closeCollector_carries env cfg faithful sync calm'
    (fun call member => absurd member List.not_mem_nil) ready
    (fun call member => absurd member List.not_mem_nil)
  rw [← shape] at gathers calm' closes settled
  exact ⟨gathers.trans closes, settled, calm'⟩

theorem gatherTensor_spares (kernel : env.runGatherKernel = tritonGatherKernel)
    (sync : cfg.useAsyncCpuCopy = false) {inputName : String}
    (looks : LooksUp env cfg.requests inputName) (batch : cfg.requests ≠ []) {s : Sys}
    (fresh : s.log = []) (bufferReadyEvent : Bool) {tensor : Tensor} (placed : tensor.Placed s)
    (fits : totalByteSize (inputChunks cfg.coalesceRequestInput inputName cfg.requests) ≤
      tensor.byteSize)
    (success : ∀ transfer,
      .failedCopy transfer ∉ (gatherTensor env cfg inputName tensor s bufferReadyEvent).log)
    {idx : Nat} (gone : (gatherTensor env cfg inputName tensor s bufferReadyEvent).Gone idx) :
    s.Gone idx := by
  have performs (group : List ContiguousBuffer) : Performs env False group :=
    tritonGatherKernel_performs env False kernel group False.elim
  have calm := calm_of_fresh cfg fresh bufferReadyEvent
  have numbered := inputCall_numbered cfg fresh inputName placed
  have judged : JudgedCalls (fun _ => True) (fun _ => False) [inputCall cfg inputName tensor] := by
    intro call member before input after split
    rw [List.mem_singleton] at member
    subst member
    have total := congrArg totalByteSize split
    rw [totalByteSize_append, totalByteSize_cons] at total
    rw [Judged, if_pos]
    · trivial
    · simp only [inputCall] at total ⊢
      omega
  obtain ⟨gathers, accounted⟩ := processTensor_accuses env cfg _ _ sync performs looks batch calm
    placed numbered judged ⟨by simp [Collector.create], by simp [Collector.create],
      by simp [Collector.create]⟩
  obtain ⟨_, _, calm'⟩ := gatherTensor_carries env cfg False sync looks batch fresh bufferReadyEvent
    placed (fun launch _ _ => performs launch.1)
  have finishes := finalize_accuses (fun _ => True) (fun _ => False) env cfg calm'.tidy accounted
  have reached := (finalize_reaches env cfg
    (processTensor env cfg inputName tensor (Collector.create s bufferReadyEvent))).trans
      (synchronize_reaches cfg _ (finalize env cfg
        (processTensor env cfg inputName tensor (Collector.create s bufferReadyEvent))).1)
  rcases gathers.trans _ _ finishes reached idx gone with before | ⟨_, _, never | ⟨_, failed, noted, _⟩⟩
  · exact before
  · exact absurd never id
  · exact absurd noted (success failed)

theorem gatherTensor_held (kernel : env.runGatherKernel = tritonGatherKernel)
    (sync : cfg.useAsyncCpuCopy = false) {inputName : String}
    (looks : LooksUp env cfg.requests inputName) (batch : cfg.requests ≠ [])
    (filled : ∀ buffers ∈ batchBuffers inputName cfg.requests, buffers ≠ []) {s : Sys}
    (fresh : s.log = []) (bufferReadyEvent : Bool) {tensor : Tensor} (supplied : tensor.Supplied)
    (fits : totalByteSize (inputChunks cfg.coalesceRequestInput inputName cfg.requests) ≤
      tensor.byteSize)
    {place : Block → Int} (launches : LaunchesFit cfg place [inputCall cfg inputName tensor])
    (success : ∀ transfer,
      .failedCopy transfer ∉ (gatherTensor env cfg inputName tensor s bufferReadyEvent).log)
    (initial : Memory Block UInt8) :
    let descs := (batchBuffers inputName cfg.requests).flatten
    valuesAt ((gatherTensor env cfg inputName tensor s bufferReadyEvent).device.memory initial)
      tensor.buffer (bufferByteSize descs) = bufferBytes initial descs := by
  intro descs
  have placed := supplied.placed s
  obtain ⟨carries, settled, _⟩ := gatherTensor_carries env cfg True sync looks batch fresh
    bufferReadyEvent placed (launches.performs kernel _ List.mem_cons_self)
  have numbered := inputCall_numbered cfg fresh inputName placed
  have size := inputChunks_byteSize cfg.coalesceRequestInput inputName cfg.requests
  have bytes := inputChunks_bytes initial cfg.coalesceRequestInput inputName cfg.requests
  rw [unreached_filled _ _ filled] at size bytes
  simp only [List.flatten_nil, bufferByteSize_nil, bufferBytes_nil, Nat.add_zero, List.append_nil]
    at size bytes
  rw [size, bytes]
  refine placed_bytes ?_
  intro before input after split index bound
  have inside : input ∈ inputChunks cfg.coalesceRequestInput inputName cfg.requests := by simp [split]
  obtain ⟨idx, range⟩ := inputChunks_range inside
  have planned : chunkJob input (tensor.buffer.advance (totalByteSize before)) ∈
      callJobs [inputCall cfg inputName tensor] := by
    refine List.mem_flatMap.mpr ⟨_, List.mem_cons_self, mem_tensorJobs.mpr
      ⟨before, input, after, split, ?_, by rw [Nat.zero_add]; rfl⟩⟩
    rw [split, totalByteSize_append, totalByteSize_cons] at fits
    simp only [inputCall]
    omega
  have live : ¬ (gatherTensor env cfg inputName tensor s bufferReadyEvent).Lost idx := by
    rintro ⟨_, transfer, failed⟩
    exact success transfer failed
  have delivered := plan_delivered initial fresh
    ⟨numbered, callJobs_apart (List.pairwise_singleton _ _)⟩ carries settled planned range live (by
      intro other present position written
      obtain ⟨call, member, within⟩ := List.mem_flatMap.mp present
      rw [List.mem_singleton] at member
      subst member
      obtain ⟨n, block⟩ := supplied
      have same := (tensorJobs_inside within written).1
      simp only [inputCall, block] at same
      cases same) bound
  simpa [chunkJob, chunkTransfer] using delivered

end

end TritonBackend
