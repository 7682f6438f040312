import TritonBackend.CollectorRun

/-!
Whom the collector fails. A slot becomes null only for a chunk that did not fit, for a
chunk whose own copy failed, or for a chunk that was copied to a staging block whose copy
failed.
-/

namespace TritonBackend

open CopyStream

def Sys.Attempted (s : Sys) (transfer : Copy Block) : Prop :=
  .copy transfer ∈ issued s.actions ∨ .failedCopy transfer ∈ s.log

/-- A copy of the chunk failed, or one out of a staging block that it was to be copied to. -/
def Sys.Blames (s : Sys) (input : ContiguousBuffer) : Prop :=
  ∃ failed, .failedCopy failed ∈ s.log ∧
    ((∃ target, failed = chunkTransfer input target) ∨
      IsStaging failed.source.block ∧ ∃ target, target.block = failed.source.block ∧
        s.Attempted (chunkTransfer input target))

theorem reaches_actions {s s' : Sys} (reaches : s.Reaches s') : s.actions <+: s'.actions := by
  obtain ⟨later, split⟩ := reaches_log reaches
  refine ⟨later.filterMap Event.action?, ?_⟩
  simp only [Sys.actions]
  rw [← List.filterMap_append, split]

theorem reaches_attempted {s s' : Sys} (reaches : s.Reaches s') {transfer : Copy Block}
    (attempted : s.Attempted transfer) : s'.Attempted transfer := by
  rcases attempted with made | failed
  · obtain ⟨later, split⟩ := reaches_actions reaches
    refine Or.inl ?_
    rw [← split, issued_append]
    exact List.mem_append_left _ made
  · exact Or.inr ((reaches_log reaches).subset failed)

theorem reaches_blames {s s' : Sys} (reaches : s.Reaches s') {input : ContiguousBuffer}
    (blames : s.Blames input) : s'.Blames input := by
  obtain ⟨failed, noted, how⟩ := blames
  refine ⟨failed, (reaches_log reaches).subset noted, how.imp_right ?_⟩
  rintro ⟨staging, target, same, attempted⟩
  exact ⟨staging, target, same, reaches_attempted reaches attempted⟩

theorem outcome_gone {s : Sys} {transfer : Copy Block} {result : CopyResult}
    (outcome : CopyOutcome s transfer result) {idx : Nat} (gone : result.sys.Gone idx) :
    s.Gone idx := by
  cases outcome <;> exact gone

theorem outcome_attempted {s : Sys} {transfer : Copy Block} {result : CopyResult}
    (outcome : CopyOutcome s transfer result) : result.sys.Attempted transfer := by
  cases outcome with
  | host => exact Or.inl (by simp [Action.effects])
  | stream tick => exact Or.inl (by simp [Action.effects])
  | failed tick error => exact Or.inr (by simp)

theorem outcome_noted {s : Sys} {transfer : Copy Block} {result : CopyResult}
    (outcome : CopyOutcome s transfer result) (failed : result.error ≠ none) :
    .failedCopy transfer ∈ result.sys.log := by
  cases outcome with
  | host => exact absurd rfl failed
  | stream tick => exact absurd rfl failed
  | failed tick error => simp

section
variable (listed misfit : ContiguousBuffer → Prop)

/-- Each slot that became null between the two states is that of a chunk to blame. -/
def Accuses (s s' : Sys) : Prop :=
  ∀ idx, s'.Gone idx → s.Gone idx ∨
    ∃ input, idx ∈ input.requestRange ∧ (misfit input ∨ listed input ∧ s'.Blames input)

theorem Accuses.trans {s s' s'' : Sys} (first : Accuses listed misfit s s')
    (second : Accuses listed misfit s' s'') (reaches : s'.Reaches s'') :
    Accuses listed misfit s s'' := by
  intro idx gone
  rcases second idx gone with before | late
  · refine (first idx before).imp_right ?_
    rintro ⟨input, range, guilt⟩
    exact ⟨input, range, guilt.imp_right fun ⟨known, blames⟩ => ⟨known, reaches_blames reaches blames⟩⟩
  · exact Or.inr late

theorem Accuses.same {s s' : Sys} (responses : s'.responses = s.responses) :
    Accuses listed misfit s s' := by
  intro idx gone
  refine Or.inl ?_
  rw [Sys.Gone, ← responses]
  exact gone

/-- Every chunk that waits is listed, and was to be copied to its block if it is deferred. -/
structure Collector.Accounted (c : Collector) : Prop where
  pinned : ∀ input ∈ c.pendingPinnedInputBuffers, listed input
  kernel : ∀ input ∈ c.pendingCopyKernelInputBuffers, listed input
  deferred : ∀ block ∈ c.deferredPinned, IsStaging block.pinnedMemory.block ∧
    ∀ input ∈ block.requests, listed input ∧ ∃ target, target.block = block.pinnedMemory.block ∧
      c.toSys.Attempted (chunkTransfer input target)

theorem attempt_accuses {s s' : Sys} {transfer : Copy Block} {copied : CopyResult}
    (outcome : CopyOutcome s transfer copied) (answers : copied.sys.Answers s') {clients : List Nat}
    (success : copied.error = none → s' = copied.sys)
    (other : ∀ idx ∉ clients, s'.Gone idx → copied.sys.Gone idx)
    (blame : .failedCopy transfer ∈ s'.log → ∀ idx ∈ clients, ∃ input, idx ∈ input.requestRange ∧
      listed input ∧ s'.Blames input) : Accuses listed misfit s s' := by
  intro idx gone
  by_cases mine : idx ∈ clients
  · cases failure : copied.error with
    | none =>
        rw [success failure] at gone
        exact Or.inl (outcome_gone outcome gone)
    | some error =>
        have noted := (reaches_log answers.reaches).subset
          (outcome_noted outcome (by simp [failure]))
        obtain ⟨input, range, known, blames⟩ := blame noted idx mine
        exact Or.inr ⟨input, range, Or.inr ⟨known, blames⟩⟩
  · exact Or.inl (outcome_gone outcome (other idx mine gone))

variable (env : Env) (cfg : CollectorConfig)

theorem directCopy_accuses (c : Collector) (inputName : String) {input : ContiguousBuffer}
    (known : listed input) (tensor : Tensor) (offset : Nat) (waitBuffer : Bool) :
    let result := directCopy env cfg c inputName input tensor offset waitBuffer
    Accuses listed misfit c.toSys result.2.toSys ∧
      result.2.toSys.Attempted (chunkTransfer input (tensor.buffer.advance offset)) := by
  obtain ⟨copied, outcome, _, answers, _, success, other⟩ :=
    directCopy_attempt env cfg c inputName input tensor offset waitBuffer
  refine ⟨attempt_accuses listed misfit outcome answers success other ?_,
    reaches_attempted answers.reaches (outcome_attempted outcome)⟩
  intro noted idx range
  exact ⟨input, range, known, _, noted, Or.inl ⟨_, rfl⟩⟩

theorem setInputTensors_accuses (inputName : String) (tensor : Tensor) (offset : Nat)
    (cudaUsed : Bool) (c : Collector) (inputs : List ContiguousBuffer)
    (fits : inputs = [] ∨ offset + totalByteSize inputs ≤ tensor.byteSize)
    (known : ∀ input ∈ inputs, listed input) :
    let result := setInputTensors env cfg inputName tensor offset cudaUsed c inputs
    Accuses listed misfit c.toSys result.2.toSys ∧
      ∀ input ∈ inputs, ∃ target, target.block = tensor.buffer.block ∧
        result.2.toSys.Attempted (chunkTransfer input target) := by
  induction inputs generalizing offset cudaUsed c with
  | nil => exact ⟨Accuses.same listed misfit rfl, by simp⟩
  | cons input later ih =>
      have within := fits.resolve_left (List.cons_ne_nil _ _)
      rw [totalByteSize_cons] at within
      simp only [setInputTensors]
      rw [setInputTensor_direct env cfg c inputName input tensor offset true (by omega)]
      obtain ⟨first, attempted⟩ := directCopy_accuses listed misfit env cfg c inputName
        (known input List.mem_cons_self) tensor offset true
      generalize directCopy env cfg c inputName input tensor offset true = result
        at first attempted ⊢
      obtain ⟨rest, others⟩ := ih (offset + input.byteSize) (cudaUsed || result.1) result.2
        (Or.inr (by omega)) (fun other member => known other (List.mem_cons_of_mem _ member))
      have reached := setInputTensors_reaches env cfg inputName tensor (offset + input.byteSize)
        (cudaUsed || result.1) result.2 later
      refine ⟨first.trans listed misfit rest reached, ?_⟩
      intro other member
      rcases List.mem_cons.mp member with rfl | inside
      · exact ⟨tensor.buffer.advance offset, rfl, reaches_attempted reached attempted⟩
      · exact others other inside

theorem copyPinned_accuses (c : Collector) (memory : BackendMemory) (tensor : Tensor)
    (staging : IsStaging memory.memoryPtr.block)
    (known : ∀ input ∈ c.pendingPinnedInputBuffers, listed input ∧
      ∃ target, target.block = memory.memoryPtr.block ∧
        c.toSys.Attempted (chunkTransfer input target)) :
    Accuses listed misfit c.toSys (copyPinned env cfg c memory tensor).2.toSys := by
  obtain ⟨copied, outcome, _, answers, _, success, other⟩ := copyPinned_attempt env cfg c memory tensor
  refine attempt_accuses listed misfit outcome answers success other ?_
  intro noted idx member
  obtain ⟨input, inside, range⟩ := List.mem_flatMap.mp member
  obtain ⟨isListed, target, same, attempted⟩ := known input inside
  exact ⟨input, range, isListed, _, noted, Or.inr ⟨staging, target, same,
    reaches_attempted (outcome.reaches.trans answers.reaches) attempted⟩⟩

theorem Collector.Accounted.mono {c c' : Collector} (accounted : c.Accounted listed)
    (reaches : c.toSys.Reaches c'.toSys)
    (pinned : ∀ input ∈ c'.pendingPinnedInputBuffers, listed input)
    (kernel : ∀ input ∈ c'.pendingCopyKernelInputBuffers, listed input)
    (deferred : c'.deferredPinned = c.deferredPinned) : c'.Accounted listed := by
  refine ⟨pinned, kernel, ?_⟩
  intro block member
  obtain ⟨staging, inputs⟩ := accounted.deferred block (deferred ▸ member)
  refine ⟨staging, fun input inside => ?_⟩
  obtain ⟨known, target, same, attempted⟩ := inputs input inside
  exact ⟨known, target, same, reaches_attempted reaches attempted⟩

theorem stagePinned_accuses (c : Collector) (memory : BackendMemory) (tensor : Tensor)
    (staging : IsStaging memory.memoryPtr.block)
    (sized : c.pendingPinnedByteSize = totalByteSize c.pendingPinnedInputBuffers)
    (accounted : c.Accounted listed) :
    let result := stagePinned env cfg c memory tensor
    Accuses listed misfit c.toSys result.2.toSys ∧ result.2.Accounted listed := by
  have reached := stagePinned_reaches env cfg c memory tensor
  have groups := setInputTensors_sameGroups env cfg "pinned H2H" {
      buffer := memory.memoryPtr
      byteSize := c.pendingPinnedByteSize
      memoryType := .cpuPinned
      memoryTypeId := 0 } 0 false c c.pendingPinnedInputBuffers
  obtain ⟨accuses, attempted⟩ := setInputTensors_accuses listed misfit env cfg "pinned H2H" {
      buffer := memory.memoryPtr
      byteSize := c.pendingPinnedByteSize
      memoryType := .cpuPinned
      memoryTypeId := 0 } 0 false c c.pendingPinnedInputBuffers (Or.inr (by simp [sized]))
    accounted.pinned
  simp only [stagePinned] at reached ⊢
  generalize setInputTensors env cfg "pinned H2H" _ 0 false c c.pendingPinnedInputBuffers = staged
    at groups accuses attempted reached ⊢
  obtain ⟨cuda, after⟩ := staged
  simp only at groups accuses attempted reached ⊢
  have pending : after.pendingPinnedInputBuffers = c.pendingPinnedInputBuffers := by rw [groups]
  have kernel : after.pendingCopyKernelInputBuffers = c.pendingCopyKernelInputBuffers := by
    rw [groups]
  have blocks : after.deferredPinned = c.deferredPinned := by rw [groups]
  cases cuda with
  | true =>
      refine ⟨accuses, ?_, ?_, ?_⟩
      · simp only [if_true, pending]
        exact accounted.pinned
      · simp only [if_true, kernel]
        exact accounted.kernel
      · intro block member
        simp only [if_true, blocks, List.mem_append, List.mem_singleton] at member
        rcases member with before | rfl
        · obtain ⟨isStaging, inputs⟩ := accounted.deferred block before
          refine ⟨isStaging, fun input inside => ?_⟩
          obtain ⟨known, target, same, tried⟩ := inputs input inside
          exact ⟨known, target, same, reaches_attempted reached tried⟩
        -- each chunk has been tried to be copied into the block that is deferred
        · refine ⟨staging, fun input inside => ?_⟩
          simp only [Collector.deferral, pending] at inside
          obtain ⟨target, same, tried⟩ := attempted input inside
          exact ⟨accounted.pinned input inside, target, same, tried⟩
  | false =>
      simp only [Bool.false_eq_true, if_false] at reached ⊢
      have copied := copyPinned_accuses listed misfit env cfg after memory tensor staging (by
        rw [pending]
        exact fun input member => ⟨accounted.pinned input member, attempted input member⟩)
      have kept := copyPinned_sameGroups env cfg after memory tensor
      refine ⟨accuses.trans listed misfit copied (copyPinned_reaches env cfg after memory tensor), ?_⟩
      refine accounted.mono listed reached ?_ ?_ ?_
      · rw [kept]
        simpa [pending] using accounted.pinned
      · rw [kept]
        simpa [kernel] using accounted.kernel
      · rw [kept]
        exact blocks

theorem flushPendingPinned_accuses (sync : cfg.useAsyncCpuCopy = false) {c : Collector}
    {tensor : Tensor} (tidy : c.Tidy tensor.byteSize) (accounted : c.Accounted listed) :
    let result := flushPendingPinned env cfg c tensor
    Accuses listed misfit c.toSys result.2.toSys ∧ result.2.Accounted listed := by
  have reached := flushPendingPinned_reaches env cfg c tensor
  rcases allocatePinned_cases env c with ⟨tick, memory, pointer, bytes, allocated⟩ | ⟨tick, allocated⟩
  · simp only [flushPendingPinned, allocated, sync, Bool.false_eq_true, if_false] at reached ⊢
    obtain ⟨accuses, ready⟩ := stagePinned_accuses listed misfit env cfg
      (c.withSys { c.toSys with tick, nextBlock := c.nextBlock + 1 }) memory tensor
      ⟨c.nextBlock, by rw [pointer]; rfl⟩ tidy.pinnedSized
      ⟨accounted.pinned, accounted.kernel, accounted.deferred⟩
    exact ⟨accuses, by simp [Collector.clearPendingPinned], ready.kernel, ready.deferred⟩
  · simp only [flushPendingPinned, allocated] at reached ⊢
    have groups := setInputTensors_sameGroups env cfg "pinned fallback" tensor
      c.pendingPinnedOffset false (c.withSys { c.toSys with tick }) c.pendingPinnedInputBuffers
    have accuses := (setInputTensors_accuses listed misfit env cfg "pinned fallback" tensor
      c.pendingPinnedOffset false (c.withSys { c.toSys with tick }) c.pendingPinnedInputBuffers
      tidy.pinnedFits accounted.pinned).1
    refine ⟨accuses, accounted.mono listed reached (by simp [Collector.clearPendingPinned]) ?_ ?_⟩
    · simp only [Collector.clearPendingPinned, Collector.withSys] at groups ⊢
      rw [groups]
      exact accounted.kernel
    · simp only [Collector.clearPendingPinned, Collector.withSys] at groups ⊢
      rw [groups]

theorem flushPendingCopyKernel_accuses {c : Collector} {tensor : Tensor}
    (tidy : c.Tidy tensor.byteSize) (accounted : c.Accounted listed) :
    let result := flushPendingCopyKernel env cfg c tensor
    Accuses listed misfit c.toSys result.2.toSys ∧ result.2.Accounted listed := by
  have reached := flushPendingCopyKernel_reaches env cfg c tensor
  have fallback (start : Collector) (groups : c.SameGroups start)
      (responses : start.responses = c.responses) :
      let result := copyKernelFallback env cfg start tensor
      Accuses listed misfit c.toSys result.2.toSys ∧ c.SameGroups result.2 := by
    have accuses := (setInputTensors_accuses listed misfit env cfg "gather kernel fallback" tensor
      start.pendingCopyKernelBufferOffset false start start.pendingCopyKernelInputBuffers
      (by rw [groups]; exact tidy.kernelFits) (by rw [groups]; exact accounted.kernel)).1
    refine ⟨(Accuses.same listed misfit responses).trans listed misfit accuses
      (setInputTensors_reaches env cfg _ _ _ _ _ _), groups.trans
        (setInputTensors_sameGroups env cfg _ _ _ _ _ _)⟩
  have finish (after : Collector) (groups : c.SameGroups after)
      (later : c.toSys.Reaches after.toSys) : after.clearPendingCopyKernel.Accounted listed := by
    refine accounted.mono listed later ?_ (by simp [Collector.clearPendingCopyKernel]) ?_
    · simp only [Collector.clearPendingCopyKernel]
      rw [groups]
      exact accounted.pinned
    · simp only [Collector.clearPendingCopyKernel]
      rw [groups]
  simp only [flushPendingCopyKernel] at reached ⊢
  split
  next empty => exact ⟨Accuses.same listed misfit rfl, accounted⟩
  next some =>
    simp only [some, if_false] at reached
    split
    next launches =>
      simp only [launches, if_true] at reached
      obtain ⟨groups, tick, nextBlock, later, ⟨failed, counts⟩ | ⟨launched, issued⟩⟩ :=
        launchCopyKernel_cases env c tensor
      · cases failure : (launchCopyKernel env c tensor).1 with
        | none => exact absurd failure failed
        | some error =>
            simp only [failure] at reached ⊢
            obtain ⟨accuses, same⟩ := fallback _ groups (by rw [counts])
            exact ⟨accuses, finish _ same reached⟩
      · simp only [launched] at reached ⊢
        refine ⟨Accuses.same listed misfit ?_, finish _ groups reached⟩
        simp only [toSys_clearPendingCopyKernel]
        rw [issued]
        rfl
    next stays =>
      simp only [stays, if_false] at reached
      obtain ⟨accuses, same⟩ := fallback c (Collector.SameGroups.refl c) rfl
      exact ⟨accuses, finish _ same reached⟩

/-! The loop over the chunks. -/

def Judged (tensor : Tensor) (offset : Nat) (input : ContiguousBuffer) : Prop :=
  if offset + input.byteSize ≤ tensor.byteSize then listed input else misfit input

theorem setInputTensor_accuses {c : Collector} {tensor : Tensor} (inputName : String)
    {offset : Nat} {input : ContiguousBuffer} (judged : Judged listed misfit tensor offset input)
    (accounted : c.Accounted listed) :
    let c' := orSync (setInputTensor env cfg c inputName input tensor offset
      (usePinnedMemoryType cfg tensor) (useKernel cfg) true)
    Accuses listed misfit c.toSys c'.toSys ∧ c'.Accounted listed := by
  have reached := setInputTensor_reaches env cfg c inputName input tensor offset
    (usePinnedMemoryType cfg tensor) (useKernel cfg) true
  by_cases fits : offset + input.byteSize ≤ tensor.byteSize
  · rw [Judged, if_pos fits] at judged
    have within : ¬ offset + input.byteSize > tensor.byteSize := Nat.not_lt.mpr fits
    simp only [setInputTensor, if_neg within] at reached ⊢
    have joined (pending : List ContiguousBuffer) (before : ∀ input ∈ pending, listed input) :
        ∀ other ∈ pending ++ [input], listed other := by
      intro other member
      rcases List.mem_append.mp member with old | new
      · exact before other old
      · rw [List.mem_singleton] at new
        exact new ▸ judged
    split
    next staged =>
      simp only [orSync_false]
      exact ⟨Accuses.same listed misfit rfl,
        ⟨joined _ accounted.pinned, accounted.kernel, accounted.deferred⟩⟩
    next unstaged =>
      split
      next batched =>
        simp only [orSync_false]
        exact ⟨Accuses.same listed misfit rfl,
          ⟨accounted.pinned, joined _ accounted.kernel, accounted.deferred⟩⟩
      next direct =>
        simp only [unstaged, direct, if_false] at reached
        have groups := directCopy_sameGroups env cfg c inputName input tensor offset true
        refine ⟨(directCopy_accuses listed misfit env cfg c inputName judged tensor offset true).1,
          accounted.mono listed reached ?_ ?_ ?_⟩
        · simp only [orSync]
          rw [groups]
          exact accounted.pinned
        · simp only [orSync]
          rw [groups]
          exact accounted.kernel
        · simp only [orSync]
          rw [groups]
  -- a chunk that does not fit is the one to blame
  · rw [Judged, if_neg fits] at judged
    have outside : offset + input.byteSize > tensor.byteSize := Nat.lt_of_not_le fits
    simp only [setInputTensor, if_pos outside] at reached ⊢
    simp only [orSync_false]
    refine ⟨?_, accounted.mono listed reached accounted.pinned accounted.kernel rfl⟩
    intro idx gone
    by_cases mine : idx ∈ input.requestRange
    · exact Or.inr ⟨input, mine, Or.inl judged⟩
    · exact Or.inl (failRequests_other _ _ _ mine gone)

theorem processChunk_accuses (sync : cfg.useAsyncCpuCopy = false) {c : Collector} {tensor : Tensor}
    {rest : List (Job Block Nat)} (tidy : c.Tidy tensor.byteSize) (placed : tensor.Placed c.toSys)
    (inputName : String) {offset : Nat} {input : ContiguousBuffer}
    (numbered : (c.toSys.courier
      (c.waiting tensor ++ (fittingJob tensor offset input ++ rest))).Numbered blockAge)
    (judged : Judged listed misfit tensor offset input) (accounted : c.Accounted listed) :
    let c' := processChunk env cfg inputName tensor c offset input
    Accuses listed misfit c.toSys c'.toSys ∧ c'.Accounted listed := by
  obtain ⟨first, _⟩ := flushPinnedBefore_moves env cfg False sync tidy placed offset numbered
  have pinned : let c' := flushPinnedBefore env cfg c tensor offset
      Accuses listed misfit c.toSys c'.toSys ∧ c'.Accounted listed := by
    simp only [flushPinnedBefore]
    split
    · obtain ⟨accuses, ready⟩ := flushPendingPinned_accuses listed misfit env cfg sync tidy accounted
      exact ⟨accuses, ready.pinned, ready.kernel, ready.deferred⟩
    · exact ⟨Accuses.same listed misfit rfl, accounted⟩
  simp only [processChunk]
  generalize flushPinnedBefore env cfg c tensor offset = flushed at first pinned ⊢
  obtain ⟨accuses, ready⟩ := pinned
  have kernel : let c' := flushCopyKernelBefore env cfg flushed tensor offset
      Accuses listed misfit flushed.toSys c'.toSys ∧ c'.Accounted listed := by
    simp only [flushCopyKernelBefore]
    split
    · obtain ⟨accuses', after⟩ := flushPendingCopyKernel_accuses listed misfit env cfg first.tidy ready
      exact ⟨accuses', after.pinned, after.kernel, after.deferred⟩
    · exact ⟨Accuses.same listed misfit rfl, ready⟩
  have reached := flushCopyKernelBefore_reaches env cfg flushed tensor offset
  generalize flushCopyKernelBefore env cfg flushed tensor offset = cleared at kernel reached ⊢
  obtain ⟨last, done⟩ := setInputTensor_accuses listed misfit env cfg inputName judged kernel.2
  exact ⟨(accuses.trans listed misfit kernel.1 reached).trans listed misfit last
    (setInputTensor_reaches env cfg cleared inputName input tensor offset _ _ true), done⟩

theorem processChunksFrom_accuses (sync : cfg.useAsyncCpuCopy = false)
    (performs : ∀ group, Performs env False group) (inputName : String) {tensor : Tensor}
    {c : Collector} {offset : Nat} {chunks : List ContiguousBuffer} {rest : List (Job Block Nat)}
    (tidy : c.Tidy tensor.byteSize) (placed : tensor.Placed c.toSys)
    (numbered : (c.toSys.courier
      (c.waiting tensor ++ (tensorJobs tensor offset chunks ++ rest))).Numbered blockAge)
    (judged : ∀ before input after, chunks = before ++ input :: after →
      Judged listed misfit tensor (offset + totalByteSize before) input)
    (accounted : c.Accounted listed) :
    let c' := processChunksFrom env cfg inputName tensor c offset chunks
    Accuses listed misfit c.toSys c'.toSys ∧ c'.Accounted listed := by
  induction chunks generalizing c offset with
  | nil => exact ⟨Accuses.same listed misfit rfl, accounted⟩
  | cons input later ih =>
      simp only [tensorJobs, List.append_assoc] at numbered
      have first := judged [] input later rfl
      rw [totalByteSize_nil, Nat.add_zero] at first
      obtain ⟨accuses, ready⟩ := processChunk_accuses listed misfit env cfg sync tidy placed inputName
        numbered first accounted
      obtain ⟨moves, _⟩ := processChunk_moves env cfg False sync tidy placed inputName offset input
        numbered (fun _ _ => performs _)
      have reached := processChunk_reaches env cfg inputName tensor c offset input
      obtain ⟨rest', done⟩ := ih moves.tidy (placed.mono reached)
        (Sys.Carries.numbered False moves.carries numbered) (by
          intro before other after split
          have found := judged (input :: before) other after (by rw [split]; rfl)
          rwa [totalByteSize_cons, ← Nat.add_assoc] at found) ready
      have reached' := processChunksFrom_reaches env cfg inputName tensor
        (processChunk env cfg inputName tensor c offset input) (offset + input.byteSize) later
      exact ⟨accuses.trans listed misfit rest' reached', done⟩

theorem recordEvent_responses (c : Collector) : (c.recordEvent cfg).responses = c.responses := by
  rw [Collector.recordEvent]
  split <;> rfl

theorem Collector.Accounted.recordEvent {c : Collector} (accounted : c.Accounted listed) :
    (c.recordEvent cfg).Accounted listed := by
  have groups := sameGroups_recordEvent cfg c
  refine accounted.mono listed (recordEvent_reaches cfg c) ?_ ?_ ?_
  · rw [groups]
    exact accounted.pinned
  · rw [groups]
    exact accounted.kernel
  · rw [groups]

theorem finishTensor_accuses (sync : cfg.useAsyncCpuCopy = false) {c : Collector} {tensor : Tensor}
    {rest : List (Job Block Nat)} (tidy : c.Tidy tensor.byteSize) (placed : tensor.Placed c.toSys)
    (numbered : (c.toSys.courier (c.waiting tensor ++ rest)).Numbered blockAge)
    (accounted : c.Accounted listed) :
    let c' := finishTensor env cfg tensor c
    Accuses listed misfit c.toSys c'.toSys ∧ c'.Accounted listed := by
  obtain ⟨moves, _⟩ := flushPendingPinned_moves env cfg False sync tidy placed numbered
  obtain ⟨pinned, ready⟩ := flushPendingPinned_accuses listed misfit env cfg sync tidy accounted
  have ready' : (orSync (flushPendingPinned env cfg c tensor)).Accounted listed :=
    ⟨ready.pinned, ready.kernel, ready.deferred⟩
  obtain ⟨kernel, done⟩ := flushPendingCopyKernel_accuses listed misfit env cfg moves.tidy ready'
  have done' : (orSync (flushPendingCopyKernel env cfg
      (orSync (flushPendingPinned env cfg c tensor)) tensor)).Accounted listed :=
    ⟨done.pinned, done.kernel, done.deferred⟩
  have both : Accuses listed misfit c.toSys (orSync (flushPendingCopyKernel env cfg
      (orSync (flushPendingPinned env cfg c tensor)) tensor)).toSys :=
    Accuses.trans listed misfit pinned kernel
      (flushPendingCopyKernel_reaches env cfg (orSync (flushPendingPinned env cfg c tensor)) tensor)
  exact ⟨both.trans listed misfit (Accuses.same listed misfit (recordEvent_responses cfg _))
    (recordEvent_reaches cfg _), Collector.Accounted.recordEvent listed cfg done'⟩

/-- What a listed chunk of a call is, and what one that did not fit. -/
def JudgedCalls (calls : List TensorCall) : Prop :=
  ∀ call ∈ calls, ∀ before input after, call.chunks = before ++ input :: after →
    Judged listed misfit call.tensor (totalByteSize before) input

theorem gatherTensors_accuses (sync : cfg.useAsyncCpuCopy = false)
    (performs : ∀ group, Performs env False group) {c : Collector} {calls : List TensorCall}
    {rest : List (Job Block Nat)} (calm : c.Calm cfg)
    (placed : ∀ call ∈ calls, call.tensor.Placed c.toSys)
    (numbered : (c.toSys.courier
      (c.deferredPinned.map drainJob ++ (callJobs calls ++ rest))).Numbered blockAge)
    (judged : JudgedCalls listed misfit calls) (accounted : c.Accounted listed) :
    let c' := gatherTensors env cfg c calls
    Accuses listed misfit c.toSys c'.toSys ∧ c'.Accounted listed := by
  induction calls generalizing c with
  | nil => exact ⟨Accuses.same listed misfit rfl, accounted⟩
  | cons call later ih =>
      simp only [callJobs, List.flatMap_cons, List.append_assoc] at numbered
      have place := placed call List.mem_cons_self
      have tidy := calm.tidy.of_empty calm.pinned calm.kernel call.tensor.byteSize
      have waiting := waiting_of_empty calm.pinned calm.kernel call.tensor
      obtain ⟨carries, calm'⟩ := tensor_carries env cfg False sync
        (processChunks_run env cfg call.inputName call.tensor c 0 call.chunks) calm place numbered
        (fun launch _ _ => performs launch.1)
      have ready := Sys.Carries.numbered False carries numbered
      rw [← waiting] at numbered
      obtain ⟨moves, _⟩ := chunkRun_moves env cfg False sync
        (processChunks_run env cfg call.inputName call.tensor c 0 call.chunks) tidy place numbered
        (fun launch _ _ => performs launch.1)
      obtain ⟨chunks, between⟩ := processChunksFrom_accuses listed misfit env cfg sync performs
        call.inputName tidy place numbered (by
          intro before input after split
          rw [Nat.zero_add]
          exact judged call List.mem_cons_self before input after split) accounted
      have reached := processChunksFrom_reaches env cfg call.inputName call.tensor c 0 call.chunks
      obtain ⟨flushes, after⟩ := finishTensor_accuses listed misfit env cfg sync moves.tidy
        (place.mono reached) (Sys.Carries.numbered False moves.carries numbered) between
      have reached' := processChunks_reaches env cfg call.inputName call.tensor c call.chunks
      obtain ⟨others, done⟩ := ih calm'
        (fun other member => (placed other (List.mem_cons_of_mem _ member)).mono reached') ready
        (fun other member => judged other (List.mem_cons_of_mem _ member)) after
      have first := chunks.trans listed misfit flushes (finishTensor_reaches env cfg call.tensor _)
      exact ⟨first.trans listed misfit others (gatherTensors_reaches env cfg _ later), done⟩

theorem finalizeAll_accuses (c : Collector) (blocks : List DeferredPinned)
    (unfinished : ∀ block ∈ blocks, block.finalized = false)
    (accounted : ∀ block ∈ blocks, IsStaging block.pinnedMemory.block ∧
      ∀ input ∈ block.requests, listed input ∧ ∃ target, target.block = block.pinnedMemory.block ∧
        c.toSys.Attempted (chunkTransfer input target)) :
    Accuses listed misfit c.toSys (finalizeAll env c blocks).toSys := by
  induction blocks generalizing c with
  | nil => exact Accuses.same listed misfit rfl
  | cons block later ih =>
      obtain ⟨copied, outcome, _, answers, _, success, other⟩ :=
        finalizeDeferred_attempt env c.toSys block
      obtain ⟨staging, inputs⟩ := accounted block List.mem_cons_self
      simp only [finalizeAll, unfinished block List.mem_cons_self, Bool.false_eq_true, if_false]
      have reached := outcome.reaches.trans answers.reaches
      have first : Accuses listed misfit c.toSys (finalizeDeferred env c.toSys block).2 := by
        refine attempt_accuses listed misfit outcome answers success other ?_
        intro noted idx member
        obtain ⟨input, inside, range⟩ := List.mem_flatMap.mp member
        obtain ⟨known, target, same, attempted⟩ := inputs input inside
        exact ⟨input, range, known, _, noted,
          Or.inr ⟨staging, target, same, reaches_attempted reached attempted⟩⟩
      generalize finalizeDeferred env c.toSys block = result at first reached ⊢
      refine first.trans listed misfit (ih (orSync (result.1, c.withSys result.2))
        (fun other member => unfinished other (List.mem_cons_of_mem _ member)) ?_)
        (finalizeAll_reaches env (orSync (result.1, c.withSys result.2)) later)
      intro next member
      obtain ⟨isStaging, requests⟩ := accounted next (List.mem_cons_of_mem _ member)
      refine ⟨isStaging, fun input inside => ?_⟩
      obtain ⟨known, target, same, attempted⟩ := requests input inside
      exact ⟨known, target, same, reaches_attempted reached attempted⟩

theorem finalizeAll_asyncTaskCount (c : Collector) (blocks : List DeferredPinned) :
    (finalizeAll env c blocks).asyncTaskCount = c.asyncTaskCount := by
  induction blocks generalizing c with
  | nil => rfl
  | cons block later ih =>
      simp only [finalizeAll]
      split
      · exact ih c
      · exact ih _

theorem finalize_accuses {c : Collector} (tidy : c.Tidy 0) (accounted : c.Accounted listed) :
    let finalized := finalize env cfg c
    Accuses listed misfit c.toSys (synchronize cfg finalized.2 finalized.1) := by
  have waited : (waitDeferred cfg c).responses = c.responses ∧
      c.toSys.Reaches (waitDeferred cfg c).toSys ∧
      (waitDeferred cfg c).deferredPinned = c.deferredPinned ∧
      (waitDeferred cfg c).asyncTaskCount = 0 := by
    simp only [waitDeferred]
    split
    · exact ⟨rfl, Sys.Reaches.issue _ _, rfl, tidy.alone⟩
    · exact ⟨rfl, Sys.Reaches.refl _, rfl, tidy.alone⟩
  simp only [finalize]
  generalize waitDeferred cfg c = first at waited ⊢
  have groups := sameGroups_waitBufferReady first
  have same := toSys_waitBufferReady first
  generalize first.waitBufferReady = ready at groups same ⊢
  obtain ⟨responses, reached, blocks, count⟩ := waited
  have readyBlocks : ready.deferredPinned = c.deferredPinned := by
    rw [groups]
    exact blocks
  have readyCount : ready.asyncTaskCount = 0 := by
    rw [groups]
    exact count
  rw [← same] at responses reached
  have drained := finalizeAll_accuses listed misfit env ready c.deferredPinned
    (fun block member => (tidy.drains block member).1) (by
      intro block member
      obtain ⟨staging, inputs⟩ := accounted.deferred block member
      refine ⟨staging, fun input inside => ?_⟩
      obtain ⟨known, target, equal, attempted⟩ := inputs input inside
      exact ⟨known, target, equal, reaches_attempted reached attempted⟩)
  have drains := finalizeAll_reaches env ready c.deferredPinned
  have alone : (finalizeAll env ready c.deferredPinned).asyncTaskCount = 0 := by
    rw [finalizeAll_asyncTaskCount]
    exact readyCount
  rw [readyBlocks]
  generalize finalizeAll env ready c.deferredPinned = after at drained drains alone ⊢
  rw [alone]
  simp only [getCompletions]
  have synced (last : Collector) (flag : Bool) :
      (synchronize cfg last flag).responses = last.responses := by
    rw [synchronize]
    split <;> rfl
  have last (records : Bool) :
      (if records then after.recordEvent cfg else after).responses = after.responses ∧
      after.toSys.Reaches (if records then after.recordEvent cfg else after).toSys := by
    cases records with
    | false => exact ⟨rfl, Sys.Reaches.refl _⟩
    | true => exact ⟨recordEvent_responses cfg after, recordEvent_reaches cfg after⟩
  obtain ⟨quiet, later⟩ := last (!after.deferredPinned.isEmpty)
  exact ((Accuses.same listed misfit responses).trans listed misfit drained drains).trans listed
    misfit (Accuses.same listed misfit ((synced _ _).trans quiet))
    (later.trans (synchronize_reaches cfg _ _))

end

end TritonBackend
