import TritonBackend.CollectorPlan
import TritonBackend.ResponderSteps

/-!
The responder as a courier. Every buffer that a response is given has a job, the copy of
its slice. A run of slices that goes through a pinned buffer has one job that fills the
buffer and one for each slice out of it.
-/

namespace TritonBackend

open CopyStream

/-! The jobs of a list of slices. -/

def sliceJob (source : Address) (slice : Nat × OutputData) : Job Block Nat := {
  transfer := { source, target := slice.2.buffer, byteSize := slice.2.bufferByteSize }
  clients := [slice.1] }

def sliceJobs (source : Address) (offset : Nat) : ResponsesList → List (Job Block Nat)
  | [] => []
  | slice :: rest =>
      sliceJob (source.advance offset) slice :: sliceJobs source (offset + slice.2.bufferByteSize) rest

def sliceBytes (slices : ResponsesList) : Nat :=
  (slices.map fun slice => slice.2.bufferByteSize).sum

@[simp] theorem sliceBytes_nil : sliceBytes [] = 0 := rfl

@[simp] theorem sliceBytes_cons (slice : Nat × OutputData) (rest : ResponsesList) :
    sliceBytes (slice :: rest) = slice.2.bufferByteSize + sliceBytes rest := by
  simp [sliceBytes]

@[simp] theorem sliceBytes_append (first second : ResponsesList) :
    sliceBytes (first ++ second) = sliceBytes first + sliceBytes second := by
  simp [sliceBytes]

theorem sliceJobs_append (source : Address) (offset : Nat) (first second : ResponsesList) :
    sliceJobs source offset (first ++ second) =
      sliceJobs source offset first ++ sliceJobs source (offset + sliceBytes first) second := by
  induction first generalizing offset with
  | nil => simp [sliceJobs]
  | cons slice rest ih => simp [sliceJobs, ih, Nat.add_assoc]

theorem mem_sliceJobs {source : Address} {offset : Nat} {slices : ResponsesList}
    {job : Job Block Nat} :
    job ∈ sliceJobs source offset slices ↔ ∃ before slice after,
      slices = before ++ slice :: after ∧
        job = sliceJob (source.advance (offset + sliceBytes before)) slice := by
  constructor
  · intro member
    induction slices generalizing offset with
    | nil => simp [sliceJobs] at member
    | cons slice rest ih =>
        rcases List.mem_cons.mp member with rfl | later
        · exact ⟨[], slice, rest, rfl, by simp⟩
        · obtain ⟨before, found, after, rfl, rfl⟩ := ih later
          refine ⟨slice :: before, found, after, rfl, ?_⟩
          rw [sliceBytes_cons, Nat.add_assoc]
  · rintro ⟨before, slice, after, rfl, rfl⟩
    rw [sliceJobs_append]
    exact List.mem_append_right _ List.mem_cons_self

def SlicesApart (slices : ResponsesList) : Prop :=
  slices.Pairwise fun first second =>
    ((sliceJob nullAddress first).effect : Effect Block UInt8).Apart
      (sliceJob nullAddress second).effect

theorem sliceJobs_apart (source : Address) (offset : Nat) (slices : ResponsesList) :
    ((sliceJobs source offset slices).Pairwise fun first second =>
      (first.effect : Effect Block UInt8).Apart second.effect) ↔ SlicesApart slices := by
  induction slices generalizing offset with
  | nil => simp [sliceJobs, SlicesApart]
  | cons slice rest ih =>
      have later := ih (offset + slice.2.bufferByteSize)
      simp only [SlicesApart, sliceJobs, List.pairwise_cons] at later ⊢
      refine and_congr ?_ later
      constructor
      · intro apart other member
        obtain ⟨before, after, rfl⟩ := List.append_of_mem member
        have separate := apart _ (mem_sliceJobs.mpr ⟨before, other, after, rfl, rfl⟩)
        exact separate
      · intro apart job member
        obtain ⟨before, other, after, rfl, rfl⟩ := mem_sliceJobs.mp member
        exact apart other (by simp)

def fillJob (pinned source : Address) (slices : ResponsesList) : Job Block Nat := {
  transfer := { source, target := pinned, byteSize := sliceBytes slices }
  clients := slices.map Prod.fst }

theorem scatter_reroute (n : Nat) (base : Address) (start : Nat) (slices : ResponsesList)
    (place : ¬ IsStaging base.block) (old : blockAge base.block ≤ n)
    (targets : ∀ slice ∈ slices, ¬ IsStaging slice.2.buffer.block ∧
      blockAge slice.2.buffer.block ≤ n)
    (apart : SlicesApart slices) :
    Reroute (V := UInt8) IsStaging blockAge True n (n + 1) (sliceJobs base start slices)
      (fillJob (stagingAddress n) (base.advance start) slices ::
        sliceJobs (stagingAddress n) 0 slices) := by
  constructor
  · intro job member
    obtain ⟨before, slice, after, rfl, rfl⟩ := mem_sliceJobs.mp member
    exact ⟨place, (targets slice (by simp)).1⟩
  · intro _
    refine List.pairwise_cons.mpr ⟨?_, (sliceJobs_apart _ _ _).mpr apart⟩
    intro job member block position filled written
    obtain ⟨before, slice, after, rfl, rfl⟩ := mem_sliceJobs.mp member
    exact (targets slice (by simp)).1 ⟨n, written.1.symm.trans filled.1⟩
  · intro _ job member block position written
    rcases List.mem_cons.mp member with rfl | drain
    · rw [written.1]
      exact Or.inl (Nat.lt_succ_self n)
    · obtain ⟨before, slice, after, rfl, rfl⟩ := mem_sliceJobs.mp drain
      exact Or.inr ⟨_, mem_sliceJobs.mpr ⟨before, slice, after, rfl, rfl⟩, written⟩
  · intro job member
    rcases List.mem_cons.mp member with rfl | drain
    · exact ⟨Nat.le_refl _, Nat.le_succ_of_le old⟩
    · obtain ⟨before, slice, after, rfl, rfl⟩ := mem_sliceJobs.mp drain
      exact ⟨Nat.le_succ_of_le (targets slice (by simp)).2, Nat.le_refl _⟩
  · intro job member staging
    rcases List.mem_cons.mp member with rfl | drain
    · exact Nat.lt_succ_self n
    · obtain ⟨before, slice, after, rfl, rfl⟩ := mem_sliceJobs.mp drain
      exact absurd staging (targets slice (by simp)).1
  · exact Nat.le_succ n
  · intro _ origin member bytes client served
    obtain ⟨before, slice, after, rfl, rfl⟩ := mem_sliceJobs.mp member
    refine Or.inr ⟨(stagingAddress n).advance (0 + sliceBytes before), _, _, ⟨n, rfl⟩,
      ⟨_, List.mem_cons_self, ?_, rfl⟩,
      ⟨_, List.mem_cons_of_mem _ (mem_sliceJobs.mpr ⟨before, slice, after, rfl, rfl⟩), served, rfl⟩,
      ?_, carries_self _⟩
    · simp only [sliceJob, List.mem_singleton] at served
      simp [fillJob, served]
    · refine ⟨sliceBytes before, ?_, ?_, ?_⟩
      · simp only [fillJob, sliceJob, sliceBytes_append, sliceBytes_cons]
        omega
      · simp only [fillJob, sliceJob, advance_advance]
      · rw [Nat.zero_add]
        rfl

theorem vacant_reroute (n : Nat) (base : Address) (start start' : Nat) (slices : ResponsesList)
    (place : ¬ IsStaging base.block) (old : blockAge base.block ≤ n)
    (targets : ∀ slice ∈ slices, ¬ IsStaging slice.2.buffer.block ∧
      blockAge slice.2.buffer.block ≤ n)
    (empty : sliceBytes slices = 0) :
    Reroute (V := UInt8) IsStaging blockAge True n n (sliceJobs base start slices)
      (sliceJobs base start' slices) := by
  have none (before after : ResponsesList) (slice : Nat × OutputData)
      (split : slices = before ++ slice :: after) : slice.2.bufferByteSize = 0 := by
    rw [split, sliceBytes_append, sliceBytes_cons] at empty
    omega
  constructor
  · intro job member
    obtain ⟨before, slice, after, rfl, rfl⟩ := mem_sliceJobs.mp member
    exact ⟨place, (targets slice (by simp)).1⟩
  · intro _
    refine List.pairwise_of_forall_mem_list ?_
    intro job member other _ block position written
    obtain ⟨before, slice, after, split, rfl⟩ := mem_sliceJobs.mp member
    obtain ⟨_, lower, upper⟩ := (writes_iff _ _ _).mp written
    have vacant := none before after slice split
    simp only [sliceJob] at lower upper
    omega
  · intro _ job member block position written
    obtain ⟨before, slice, after, split, rfl⟩ := mem_sliceJobs.mp member
    obtain ⟨_, lower, upper⟩ := (writes_iff _ _ _).mp written
    have vacant := none before after slice split
    simp only [sliceJob] at lower upper
    omega
  · intro job member
    obtain ⟨before, slice, after, rfl, rfl⟩ := mem_sliceJobs.mp member
    exact ⟨(targets slice (by simp)).2, old⟩
  · intro job member staging
    obtain ⟨before, slice, after, rfl, rfl⟩ := mem_sliceJobs.mp member
    exact absurd staging (targets slice (by simp)).1
  · exact Nat.le_refl n
  · intro _ origin member bytes
    obtain ⟨before, slice, after, split, rfl⟩ := mem_sliceJobs.mp member
    have vacant := none before after slice split
    simp only [sliceJob] at bytes
    omega

/-! The steps of the responder. -/

/-- What a response can be offered: the start and the size of its slice. -/
abbrev Offers := Nat → Address → Nat → Prop

/-- One step. The plan holds the copies that are still to be made. -/
inductive Sys.Serve (offers : Offers) :
    Sys × List (Job Block Nat) → Sys × List (Job Block Nat) → Prop
  | count (s : Sys) (plan : List (Job Block Nat)) (tick : Nat) {nextBlock : Nat}
      (later : s.nextBlock ≤ nextBlock) : Serve offers (s, plan) ({ s with tick, nextBlock }, plan)
  | answer (s s' : Sys) (plan : List (Job Block Nat)) (answered : s.Answer s') :
      Serve offers (s, plan) (s', plan)
  | mark (s : Sys) (plan : List (Job Block Nat)) (action : Action Block UInt8)
      (none : action.effects = []) : Serve offers (s, plan) (s.issue action, plan)
  | give (s : Sys) (plan : List (Job Block Nat)) (idx response : Nat)
      (live : s.responses[idx]? = some (some response)) (job : Job Block Nat)
      (mine : job.clients = [idx])
      (target : job.transfer.target = { block := .output s.nextBlock, offset := 0 } ∨
        job.transfer.target = nullAddress ∧ job.transfer.byteSize = 0)
      (direct : ¬ IsStaging job.transfer.source.block)
      (old : blockAge job.transfer.source.block ≤ s.nextBlock)
      (offered : offers idx job.transfer.source job.transfer.byteSize) :
      Serve offers (s, plan)
        ({ s.note (.given idx job.transfer.target job.transfer.byteSize) with
          nextBlock := s.nextBlock + 1 }, job :: plan)
  | attempt (s s' : Sys) (job : Job Block Nat) (rest : List (Job Block Nat)) (result : CopyResult)
      (outcome : CopyOutcome s job.transfer result) (answers : result.sys.Answers s')
      (told : result.error ≠ none → ∀ idx ∈ job.clients, s'.Gone idx)
      (ready : Ready IsStaging [job] rest)
      (arrived : IsStaging job.transfer.source.block →
        ∀ copy ∈ s.device.queue, copy.target.block ≠ job.transfer.source.block) :
      Serve offers (s, job :: rest) (s', rest)
  | reroute (s : Sys) (tick : Nat) {nextBlock : Nat} {old new : List (Job Block Nat)}
      (rest : List (Job Block Nat))
      (reroutes : Reroute (V := UInt8) IsStaging blockAge True s.nextBlock nextBlock old new) :
      Serve offers (s, old ++ rest) ({ s with tick, nextBlock }, new ++ rest)
  | shuffle (s : Sys) {plan plan' : List (Job Block Nat)} (same : plan.Perm plan') :
      Serve offers (s, plan) (s, plan')

def Sys.Serves (offers : Offers) :
    Sys × List (Job Block Nat) → Sys × List (Job Block Nat) → Prop :=
  Relation.ReflTransGen (Sys.Serve offers)

theorem Sys.Serves.refl (offers : Offers) (state : Sys × List (Job Block Nat)) :
    Sys.Serves offers state state := Relation.ReflTransGen.refl

theorem Sys.Serve.serves {offers : Offers} {state state' : Sys × List (Job Block Nat)}
    (step : Sys.Serve offers state state') : Sys.Serves offers state state' :=
  Relation.ReflTransGen.single step

theorem Sys.Serves.trans {offers : Offers} {first second third : Sys × List (Job Block Nat)}
    (early : Sys.Serves offers first second) (late : Sys.Serves offers second third) :
    Sys.Serves offers first third := Relation.ReflTransGen.trans early late

theorem Sys.Serves.answers {offers : Offers} {s s' : Sys} (answers : s.Answers s')
    (plan : List (Job Block Nat)) : Sys.Serves offers (s, plan) (s', plan) := by
  induction answers with
  | refl => exact Sys.Serves.refl offers _
  | tail _ answered ih => exact ih.tail (Sys.Serve.answer _ _ plan answered)

theorem give_reroute (n : Nat) {job : Job Block Nat}
    (target : job.transfer.target = { block := .output n, offset := 0 } ∨
      job.transfer.target = nullAddress ∧ job.transfer.byteSize = 0)
    (old : blockAge job.transfer.source.block ≤ n) :
    Reroute (V := UInt8) IsStaging blockAge True n (n + 1) [] [job] := by
  refine ⟨by simp, fun _ => List.pairwise_singleton _ _, ?_, ?_, ?_, Nat.le_succ n, by simp⟩
  · intro _ other member block position written
    rw [List.mem_singleton] at member
    subst member
    obtain ⟨same, lower, upper⟩ := (writes_iff _ _ _).mp written
    rcases target with fresh | ⟨_, empty⟩
    · rw [same, fresh]
      exact Or.inl (Nat.lt_succ_self n)
    · omega
  · intro other member
    rw [List.mem_singleton] at member
    subst member
    refine ⟨?_, Nat.le_succ_of_le old⟩
    rcases target with fresh | ⟨null, _⟩
    · rw [fresh]
      exact Nat.le_refl _
    · rw [null]
      exact Nat.zero_le _
  · intro other member staging
    rw [List.mem_singleton] at member
    subst member
    obtain ⟨m, same⟩ := staging
    rcases target with fresh | ⟨null, _⟩
    · rw [fresh] at same
      cases same
    · rw [null] at same
      cases same

theorem serve_reaches {offers : Offers} {state state' : Sys × List (Job Block Nat)}
    (step : Sys.Serve offers state state') : state.1.Reaches state'.1 := by
  cases step with
  | count s plan tick later => exact (Sys.Step.count s tick _ later).reaches
  | answer s s' plan answered => exact (Sys.Step.answer s s' answered).reaches
  | mark s plan action none => exact Sys.Reaches.issue s action
  | give s plan idx response live job mine target direct old offered =>
      exact (Sys.Step.quiet s _ rfl).reaches.trans
        (Sys.Step.count (s.note _) s.tick _ (Nat.le_succ _)).reaches
  | attempt s s' job rest result outcome answers told ready arrived =>
      exact outcome.reaches.trans answers.reaches
  | reroute s tick rest reroutes => exact (Sys.Step.count s tick _ reroutes.later).reaches
  | shuffle s same => exact Sys.Reaches.refl s

theorem serve_carries {offers : Offers} {state state' : Sys × List (Job Block Nat)}
    (step : Sys.Serve offers state state') :
    state.1.Carries True state.2 state'.1 state'.2 := by
  have reaches := serve_reaches step
  cases step with
  | count s plan tick later => exact Sys.Carries.idle reaches rfl plan
  | answer s s' plan answered => exact Sys.Carries.idle reaches (answer_actions answered) plan
  | mark s plan action none =>
      refine Sys.Carries.act s s.tick action [] plan none (by simp [Ready]) ?_
      intro effect host
      subst host
      cases none
  | give s plan idx response live job mine target direct old offered =>
      have noted : s.Carries True plan (s.note (.given idx job.transfer.target job.transfer.byteSize))
          plan := by
        refine Sys.Carries.idle (Sys.Step.quiet s _ rfl).reaches ?_ plan
        simp [Event.action?]
      exact noted.trans (Sys.Carries.reroute (s.note _) s.tick plan (give_reroute _ target old))
  | attempt s s' job rest result outcome answers told ready arrived =>
      exact outcome.carries answers told ready arrived
  | reroute s tick rest reroutes => exact Sys.Carries.reroute s tick rest reroutes
  | shuffle s same => exact Sys.Carries.shuffle s same

theorem serves_carries {offers : Offers} {state state' : Sys × List (Job Block Nat)}
    (run : Sys.Serves offers state state') :
    state.1.Carries True state.2 state'.1 state'.2 := by
  induction run with
  | refl => exact Sys.Carries.refl _ _
  | tail _ step ih => exact ih.trans (serve_carries step)

theorem serves_reaches {offers : Offers} {state state' : Sys × List (Job Block Nat)}
    (run : Sys.Serves offers state state') : state.1.Reaches state'.1 := by
  induction run with
  | refl => exact Sys.Reaches.refl _
  | tail _ step ih => exact ih.trans (serve_reaches step)

theorem serve_mono {offers offers' : Offers} {state state' : Sys × List (Job Block Nat)}
    (more : ∀ idx source size, offers idx source size → offers' idx source size)
    (step : Sys.Serve offers state state') : Sys.Serve offers' state state' := by
  cases step with
  | count s plan tick later => exact Sys.Serve.count s plan tick later
  | answer s s' plan answered => exact Sys.Serve.answer s s' plan answered
  | mark s plan action none => exact Sys.Serve.mark s plan action none
  | give s plan idx response live job mine target direct old offered =>
      exact Sys.Serve.give s plan idx response live job mine target direct old (more _ _ _ offered)
  | attempt s s' job rest result outcome answers told ready arrived =>
      exact Sys.Serve.attempt s s' job rest result outcome answers told ready arrived
  | reroute s tick rest reroutes => exact Sys.Serve.reroute s tick rest reroutes
  | shuffle s same => exact Sys.Serve.shuffle s same

theorem Sys.Serves.mono {offers offers' : Offers} {state state' : Sys × List (Job Block Nat)}
    (more : ∀ idx source size, offers idx source size → offers' idx source size)
    (run : Sys.Serves offers state state') : Sys.Serves offers' state state' := by
  induction run with
  | refl => exact Sys.Serves.refl _ _
  | tail _ step ih => exact ih.tail (serve_mono more step)

/-! Copying a list of slices. -/

theorem outcome_queue {s s' : Sys} {transfer : Copy Block} {result : CopyResult}
    (outcome : CopyOutcome s transfer result) (answers : result.sys.Answers s') :
    ∀ copy ∈ s'.device.queue, copy ∈ s.device.queue ∨ copy = transfer := by
  intro copy queued
  rw [answers_device answers] at queued
  cases outcome with
  | host =>
      rw [device_issue] at queued
      exact Or.inl queued
  | stream tick =>
      rw [device_issue] at queued
      simpa [Device.step, Sys.device, Sys.actions] using queued
  | failed tick error =>
      rw [device_note _ rfl] at queued
      exact Or.inl queued

namespace Responder

theorem respondAndSetNullIfError_gone (s : Sys) (idx : Nat) {error : Option TritonError}
    (failed : error ≠ none) : (respondAndSetNullIfError s idx error).Gone idx := by
  cases error with
  | none => exact absurd rfl failed
  | some error => exact sendIfNotNull_gone s idx (some error)

theorem failOutputs_gone (s : Sys) (error : Option TritonError) (outputs : ResponsesList) {idx : Nat}
    (member : idx ∈ outputs.map Prod.fst) : (failOutputs s error outputs).Gone idx := by
  induction outputs generalizing s with
  | nil => simp at member
  | cons first rest ih =>
      rcases List.mem_cons.mp member with rfl | later
      · exact reaches_gone (failOutputs_answers _ error rest).reaches (sendIfNotNull_gone s first.1 error)
      · exact ih (sendIfNotNull s first.1 error) later

section
variable (env : Env) (cfg : ResponderConfig) (offers : Offers)

theorem copyOutputs_serves (source : Address) (memoryType : MemoryType) (memoryTypeId : Int)
    (offset : Nat) (cudaUsed : Bool) (s : Sys) (slices : ResponsesList) (rest : List (Job Block Nat))
    (targets : ∀ slice ∈ slices, ¬ IsStaging slice.2.buffer.block)
    (others : IsStaging source.block → ∀ job ∈ rest, job.transfer.target.block ≠ source.block)
    (arrived : IsStaging source.block →
      ∀ copy ∈ s.device.queue, copy.target.block ≠ source.block) :
    let copied := copyOutputs env cfg source memoryType memoryTypeId offset cudaUsed s slices
    Sys.Serves offers (s, sliceJobs source offset slices ++ rest) (copied.2, rest) ∧
      Streams copied.1 s copied.2 ∧ (cudaUsed = true → copied.1 = true) := by
  induction slices generalizing offset cudaUsed s with
  | nil => exact ⟨Sys.Serves.refl _ _, Streams.refl _ _, id⟩
  | cons slice later ih =>
      have outcome := copyBuffer_outcome env s slice.2.name memoryType memoryTypeId
        slice.2.memoryType slice.2.memoryTypeId slice.2.bufferByteSize (source.advance offset)
        slice.2.buffer cfg.copyOnStream
      have direct := targets slice List.mem_cons_self
      simp only [copyOutputs, sliceJobs, List.cons_append]
      generalize copyBuffer env s _ _ _ _ _ _ _ _ _ = copied at outcome ⊢
      have answers := respondAndSetNullIfError_answers copied.sys slice.1 copied.error
      have step := outcome.streams answers
      have queue := outcome_queue outcome answers
      have first : Sys.Serves offers
          (s, sliceJob (source.advance offset) slice ::
            (sliceJobs source (offset + slice.2.bufferByteSize) later ++ rest))
          (respondAndSetNullIfError copied.sys slice.1 copied.error,
            sliceJobs source (offset + slice.2.bufferByteSize) later ++ rest) := by
        refine (Sys.Serve.attempt s _ _ _ copied outcome answers ?_ ?_ arrived).serves
        · intro failed idx member
          simp only [sliceJob, List.mem_singleton] at member
          subst member
          exact respondAndSetNullIfError_gone copied.sys slice.1 failed
        · intro job member staging other present same
          rw [List.mem_singleton] at member
          subst member
          have target : IsStaging other.transfer.target.block := same ▸ staging
          simp only [List.singleton_append, List.mem_cons, List.mem_append] at present
          rcases present with rfl | drain | kept
          · exact direct target
          · obtain ⟨before, found, after, rfl, rfl⟩ := mem_sliceJobs.mp drain
            exact targets found (by simp) target
          · exact others staging other kept same
      generalize respondAndSetNullIfError copied.sys slice.1 copied.error = s' at step queue first ⊢
      obtain ⟨serves, streams, grows⟩ := ih (offset + slice.2.bufferByteSize)
        (cudaUsed || copied.cudaUsed) s' (fun found member => targets found (List.mem_cons_of_mem _ member))
        (fun staging copy queued same => by
          rcases queue copy queued with before | rfl
          · exact arrived staging copy before same
          · exact direct (same ▸ staging))
      refine ⟨first.trans serves, ⟨streams.recorded.trans step.recorded, fun none => ?_⟩,
        fun used => grows (by simp [used])⟩
      -- the flag is the disjunction over all copies
      have unused : copied.cudaUsed = false := by
        by_contra used
        rw [Bool.not_eq_false] at used
        have flag := grows (by simp [used])
        rw [none] at flag
        cases flag
      exact (streams.quiet none).trans (step.quiet unused)

/-! Flushing the pending slices. -/

def deferredJobs (deferred : DeferredOutputs) : List (Job Block Nat) :=
  sliceJobs deferred.pinnedMemory 0 deferred.responses

/-- What a flush leaves behind: the block it deferred, if any. -/
structure SlicesFlush (offers : Offers) (r : Responder) (tensor : OutputTensor)
    (rest : List (Job Block Nat)) (result : Bool × Responder) (added : List DeferredOutputs) :
    Prop where
  serves : Sys.Serves offers
    (r.toSys, sliceJobs tensor.buffer r.pendingPinnedOffset r.pendingPinnedOutputs ++ rest)
    (result.2.toSys, added.flatMap deferredJobs ++ rest)
  streams : Streams result.1 r.toSys result.2.toSys
  fields : result.2 = { r with
    toSys := result.2.toSys
    deferredPinned := r.deferredPinned ++ added
    pendingPinnedByteSize := 0
    pendingPinnedOffset := 0
    pendingPinnedOutputs := [] }
  cuda : added ≠ [] → result.1 = true
  later : ∀ deferred ∈ added, ∀ slice ∈ deferred.responses, ¬ IsStaging slice.2.buffer.block

theorem allocatePinned_cases (r : Responder) :
    (∃ tick, allocatePinned env r =
      (some (stagingAddress r.nextBlock), { r.toSys with tick, nextBlock := r.nextBlock + 1 })) ∨
    ∃ tick, allocatePinned env r = (none, { r.toSys with tick }) := by
  simp only [allocatePinned, call_eq]
  split
  · cases env.outcome r.tick (.allocate .cpuPinnedPool) with
    | none => exact Or.inl ⟨r.tick + 1, rfl⟩
    | some error => exact Or.inr ⟨r.tick + 1, rfl⟩
  · exact Or.inr ⟨r.tick, rfl⟩

theorem stagePinned_flush (r : Responder) (n : Nat) (tensor : OutputTensor)
    (rest : List (Job Block Nat))
    (sized : r.pendingPinnedByteSize = sliceBytes r.pendingPinnedOutputs)
    (place : ¬ IsStaging tensor.buffer.block)
    (targets : ∀ slice ∈ r.pendingPinnedOutputs, ¬ IsStaging slice.2.buffer.block)
    (others : ∀ job ∈ rest, job.transfer.target.block ≠ .staging n)
    (queued : ∀ copy ∈ r.device.queue, copy.target.block ≠ .staging n) :
    let result := stagePinned env cfg r (stagingAddress n) tensor
    ∃ added, Sys.Serves offers
        (r.toSys, fillJob (stagingAddress n) (tensor.buffer.advance r.pendingPinnedOffset)
          r.pendingPinnedOutputs :: (sliceJobs (stagingAddress n) 0 r.pendingPinnedOutputs ++ rest))
        (result.2.toSys, added.flatMap deferredJobs ++ rest) ∧
      Streams result.1 r.toSys result.2.toSys ∧
      result.2 = { r with toSys := result.2.toSys, deferredPinned := r.deferredPinned ++ added } ∧
      (added ≠ [] → result.1 = true) ∧
      ∀ deferred ∈ added, deferred.responses = r.pendingPinnedOutputs := by
  have outcome := copyBuffer_outcome env r.toSys "pinned buffer" tensor.memoryType
    tensor.memoryTypeId .cpuPinned 0 r.pendingPinnedByteSize
    (tensor.buffer.advance r.pendingPinnedOffset) (stagingAddress n) cfg.copyOnStream
  simp only [stagePinned]
  generalize copyBuffer env r.toSys _ _ _ _ _ _ _ _ _ = staged at outcome ⊢
  rw [sized] at outcome
  have finish (s : Sys) (answers : staged.sys.Answers s)
      (gone : staged.error ≠ none → ∀ idx ∈ r.pendingPinnedOutputs.map Prod.fst, s.Gone idx) :
      let result : Bool × Responder := if staged.cudaUsed then
          (true, { r.withSys s with
            deferredPinned := r.deferredPinned ++ [r.deferral (stagingAddress n)] })
        else
          let copied := copyOutputs env cfg (stagingAddress n) .cpuPinned 0 0 false s
            r.pendingPinnedOutputs
          (copied.1, r.withSys copied.2)
      ∃ added, Sys.Serves offers
          (r.toSys, fillJob (stagingAddress n) (tensor.buffer.advance r.pendingPinnedOffset)
            r.pendingPinnedOutputs :: (sliceJobs (stagingAddress n) 0 r.pendingPinnedOutputs ++ rest))
          (result.2.toSys, added.flatMap deferredJobs ++ rest) ∧
        Streams result.1 r.toSys result.2.toSys ∧
        result.2 = { r with toSys := result.2.toSys, deferredPinned := r.deferredPinned ++ added } ∧
        (added ≠ [] → result.1 = true) ∧
        ∀ deferred ∈ added, deferred.responses = r.pendingPinnedOutputs := by
    have filled : Sys.Serves offers (r.toSys, fillJob (stagingAddress n)
        (tensor.buffer.advance r.pendingPinnedOffset) r.pendingPinnedOutputs ::
          (sliceJobs (stagingAddress n) 0 r.pendingPinnedOutputs ++ rest))
        (s, sliceJobs (stagingAddress n) 0 r.pendingPinnedOutputs ++ rest) :=
      (Sys.Serve.attempt _ s _ _ staged outcome answers gone (ready_untracked place)
        (fun staging => absurd staging place)).serves
    have streams := outcome.streams answers
    by_cases cuda : staged.cudaUsed = true
    · simp only [cuda, if_true] at streams ⊢
      refine ⟨[r.deferral (stagingAddress n)], ?_, streams, rfl, by simp, ?_⟩
      · simpa [deferredJobs, deferral] using filled
      · intro deferred member
        rw [List.mem_singleton] at member
        rw [member]
        rfl
    · rw [Bool.not_eq_true] at cuda
      simp only [cuda, Bool.false_eq_true, if_false] at streams ⊢
      have unfilled : ∀ copy ∈ s.device.queue, copy.target.block ≠ .staging n := by
        rw [streams.quiet rfl]
        exact queued
      obtain ⟨serves, later, _⟩ := copyOutputs_serves env cfg offers (stagingAddress n)
        .cpuPinned 0 0 false s r.pendingPinnedOutputs rest targets (fun _ => others)
        (fun _ => unfilled)
      have both := streams.trans later
      rw [Bool.false_or] at both
      exact ⟨[], filled.trans serves, both, by simp [withSys], by simp, by simp⟩
  cases failure : staged.error with
  | none => exact finish staged.sys (Sys.Answers.refl _) fun failed => absurd failure failed
  | some error =>
      exact finish (failOutputs staged.sys (some error) r.pendingPinnedOutputs)
        (failOutputs_answers _ _ _) fun _ idx member => failOutputs_gone _ _ _ member

theorem flushPendingPinned_flush (r : Responder) (tensor : OutputTensor)
    (rest : List (Job Block Nat))
    (sized : r.pendingPinnedByteSize = sliceBytes r.pendingPinnedOutputs)
    (place : ¬ IsStaging tensor.buffer.block)
    (old : blockAge tensor.buffer.block ≤ r.nextBlock)
    (targets : ∀ slice ∈ r.pendingPinnedOutputs, ¬ IsStaging slice.2.buffer.block)
    (sound : r.toSys.Sound
      (sliceJobs tensor.buffer r.pendingPinnedOffset r.pendingPinnedOutputs ++ rest)) :
    ∃ added, SlicesFlush offers r tensor rest (flushPendingPinned env cfg r tensor) added := by
  rcases allocatePinned_cases env r with ⟨tick, allocated⟩ | ⟨tick, allocated⟩
  · have fresh (block : Block) (aged : blockAge block ≤ r.nextBlock) :
        block ≠ .staging r.nextBlock := by
      rintro rfl
      exact Nat.not_succ_le_self _ aged
    have aged : ∀ slice ∈ r.pendingPinnedOutputs, ¬ IsStaging slice.2.buffer.block ∧
        blockAge slice.2.buffer.block ≤ r.nextBlock := by
      intro slice member
      obtain ⟨before, after, split⟩ := List.append_of_mem member
      exact ⟨targets slice member, courier_target sound.numbered (List.mem_append_left rest
        (mem_sliceJobs.mpr ⟨before, slice, after, split, rfl⟩))⟩
    have apart : SlicesApart r.pendingPinnedOutputs := by
      refine (sliceJobs_apart tensor.buffer r.pendingPinnedOffset _).mp ?_
      exact (List.pairwise_append.mp sound.apart).1
    have rerouted : Sys.Serves offers _ _ := (Sys.Serve.reroute r.toSys tick rest
      (scatter_reroute r.nextBlock tensor.buffer r.pendingPinnedOffset r.pendingPinnedOutputs place
        old aged apart)).serves
    obtain ⟨added, serves, streams, fields, cuda, later⟩ := stagePinned_flush env cfg offers
      (r.withSys { r.toSys with tick, nextBlock := r.nextBlock + 1 }) r.nextBlock tensor rest sized
      place targets
      (fun job member => fresh _ (courier_target sound.numbered (List.mem_append_right _ member)))
      (fun copy member => fresh _ (courier_queue sound.numbered member))
    refine ⟨added, ?_⟩
    simp only [flushPendingPinned, allocated]
    have pointer : { block := Block.staging r.nextBlock, offset := 0 } = stagingAddress r.nextBlock :=
      rfl
    generalize stagePinned env cfg (r.withSys { r.toSys with tick, nextBlock := r.nextBlock + 1 })
      (stagingAddress r.nextBlock) tensor = result at serves streams fields cuda ⊢
    constructor
    · exact rerouted.trans serves
    · exact ⟨streams.recorded, streams.quiet⟩
    · rw [fields]
      rfl
    · exact cuda
    · intro deferred member slice inside
      rw [later deferred member] at inside
      exact targets slice inside
  · have counted : Sys.Serves offers (r.toSys, _) ({ r.toSys with tick }, _) :=
      (Sys.Serve.count r.toSys (sliceJobs tensor.buffer r.pendingPinnedOffset r.pendingPinnedOutputs ++
        rest) tick (Nat.le_refl r.nextBlock)).serves
    obtain ⟨serves, streams, _⟩ := copyOutputs_serves env cfg offers tensor.buffer tensor.memoryType
      tensor.memoryTypeId r.pendingPinnedOffset false { r.toSys with tick } r.pendingPinnedOutputs
      rest targets (fun staging => absurd staging place) (fun staging => absurd staging place)
    refine ⟨[], ?_⟩
    simp only [flushPendingPinned, allocated, copyPending]
    have offset : (r.withSys { r.toSys with tick }).pendingPinnedOffset = r.pendingPinnedOffset := rfl
    have pending : (r.withSys { r.toSys with tick }).pendingPinnedOutputs = r.pendingPinnedOutputs :=
      rfl
    rw [offset, pending, toSys_withSys]
    generalize copyOutputs env cfg tensor.buffer _ _ _ false _ r.pendingPinnedOutputs = copied
      at serves streams ⊢
    constructor
    · exact counted.trans serves
    · exact ⟨streams.recorded, streams.quiet⟩
    · simp [clearPendingPinned, withSys]
    · intro added
      exact absurd rfl added
    · simp

end

end Responder

end TritonBackend
