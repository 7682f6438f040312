import TritonBackend.Scattering

/-!
The flag and the event that tell a caller of the responder what to wait for. Every operation
records the event behind its copies, so a wait for it empties the stream.
-/

namespace TritonBackend

open CopyStream

/-- Nothing on the stream still fills a block when a copy out of it is issued. -/
def DrainsFilled (before after : Sys) : Prop :=
  ∀ early action late, after.actions = before.actions ++ (early ++ action :: late) →
    ∀ effect ∈ action.effects, ∀ block, effect.readBlock = some block → IsStaging block →
      ∀ copy ∈ (Device.fresh.run (before.actions ++ early)).queue, copy.target.block ≠ block

def Sys.Direct (s s' : Sys) : Prop :=
  ∃ added, s'.actions = s.actions ++ added ∧
    ∀ effect ∈ issued added, ¬ IsStaging effect.target.block

theorem Sys.Direct.refl (s : Sys) : s.Direct s := ⟨[], by simp⟩

theorem Sys.Direct.trans {s s' s'' : Sys} (first : s.Direct s') (second : s'.Direct s'') :
    s.Direct s'' := by
  obtain ⟨early, same, direct⟩ := first
  obtain ⟨late, same', direct'⟩ := second
  refine ⟨early ++ late, by rw [same', same, List.append_assoc], ?_⟩
  intro effect member
  rw [issued_append, List.mem_append] at member
  exact member.elim (direct effect) (direct' effect)

theorem outcome_direct {s s' : Sys} {transfer : Copy Block} {result : CopyResult}
    (outcome : CopyOutcome s transfer result) (answers : result.sys.Answers s')
    (target : ¬ IsStaging transfer.target.block) : s.Direct s' := by
  rw [Sys.Direct, answers_actions answers]
  cases outcome with
  | host =>
      refine ⟨_, actions_issue _ _, ?_⟩
      simpa [Action.effects, Effect.target] using target
  | stream tick =>
      refine ⟨_, actions_issue _ _, ?_⟩
      simpa [Action.effects, Effect.target] using target
  | failed tick error => exact ⟨[], by simp [Event.action?, Sys.actions], by simp⟩

theorem drainsFilled_of_direct {s s' : Sys} (settled : s.device.queue = []) (direct : s.Direct s') :
    DrainsFilled s s' := by
  obtain ⟨added, same, direct⟩ := direct
  intro early action late split effect _ block _ staging copy queued filled
  rw [same] at split
  have shape := List.append_cancel_left split
  rw [run_settled settled] at queued
  refine direct (.copy copy) ?_ (filled.symm ▸ staging)
  rw [shape, issued_append, List.mem_append]
  exact Or.inl (queue_issued queued)

theorem drainsFilled_of_issue {s s' : Sys} {action : Action Block UInt8}
    (idle : action.effects = []) (direct : (s.issue action).Direct s')
    (drains : DrainsFilled (s.issue action) s') : DrainsFilled s s' := by
  obtain ⟨added, same, _⟩ := direct
  intro early first late split effect member
  have shape : early ++ first :: late = action :: added := by
    rw [same, actions_issue, List.append_assoc] at split
    exact (List.append_cancel_left split).symm
  cases early with
  | nil =>
      rw [List.nil_append, List.cons.injEq] at shape
      obtain ⟨rfl, _⟩ := shape
      rw [idle] at member
      exact absurd member List.not_mem_nil
  | cons start early =>
      rw [List.cons_append, List.cons.injEq] at shape
      obtain ⟨rfl, _⟩ := shape
      have front : s.actions ++ start :: early = (s.issue start).actions ++ early := by
        rw [actions_issue, List.append_assoc]
        rfl
      rw [front]
      refine drains early first late ?_ effect member
      rw [split, actions_issue, List.append_assoc]
      rfl

namespace Responder

section
variable (env : Env) (cfg : ResponderConfig)

theorem copyOutputs_direct (source : Address) (memoryType : MemoryType) (memoryTypeId : Int)
    (offset : Nat) (cudaUsed : Bool) (s : Sys) (slices : ResponsesList)
    (targets : ∀ slice ∈ slices, ¬ IsStaging slice.2.buffer.block) :
    s.Direct (copyOutputs env cfg source memoryType memoryTypeId offset cudaUsed s slices).2 :=
  copyOutputs_relates Sys.Direct.refl (fun first second => first.trans second) source memoryType
    memoryTypeId offset cudaUsed s slices fun slice member _ _ _ copied outcome =>
      outcome_direct outcome (respondAndSetNullIfError_answers copied.sys slice.1 copied.error)
        (targets slice member)

theorem copyDeferred_direct {r : Responder} (deferred : List DeferredOutputs)
    (drains : ∀ block ∈ deferred, ∀ slice ∈ block.responses, ¬ IsStaging slice.2.buffer.block) :
    r.toSys.Direct (copyDeferred env cfg r deferred).toSys :=
  copyDeferred_relates Sys.Direct.refl (fun first second => first.trans second) r deferred
    fun block member s => copyOutputs_direct env cfg block.pinnedMemory .cpuPinned 0 0 false s
      block.responses (drains block member)

theorem recordEvent_direct (r : Responder) : r.toSys.Direct (r.recordEvent cfg).toSys := by
  rw [recordEvent]
  split
  · exact ⟨[.record], actions_issue _ _, by simp [Action.effects]⟩
  · exact Sys.Direct.refl _

/-- The blocks are copied from once the wait has emptied the stream. -/
theorem finalize_drains {base : List (Copy Block)} {r : Responder} (calm : r.Calm cfg base) :
    DrainsFilled r.toSys (finalize env cfg r).2.toSys := by
  by_cases some : r.deferredPinned = []
  · have waited : waitDeferred cfg r = r := by simp [waitDeferred, some]
    simp only [finalize, waited, some, copyDeferred, List.isEmpty_nil, Bool.not_true,
      Bool.false_eq_true, if_false]
    intro early action late split
    have none : [] = early ++ action :: late := by
      rw [← List.append_cancel_left_eq, List.append_nil]
      exact split
    simp at none
  · have sync := calm.tidy.owed some
    have waited : waitDeferred cfg r = { r with
        toSys := r.toSys.issue (if cfg.event then .awaitEvent else .awaitStream)
        needSync := false } := by
      simp [waitDeferred, some, sync]
    have settled := await_settled cfg calm.synced sync
    have idle : (if cfg.event then Action.awaitEvent else Action.awaitStream :
        Action Block UInt8).effects = [] := by
      split <;> rfl
    have direct : (r.toSys.issue (if cfg.event then .awaitEvent else .awaitStream)).Direct
        (finalize env cfg r).2.toSys := by
      simp only [finalize, waited]
      generalize r.toSys.issue (if cfg.event then .awaitEvent else .awaitStream) = s
      have copied := copyDeferred_direct env cfg (r := { r with toSys := s, needSync := false })
        r.deferredPinned calm.tidy.drains
      split
      · exact copied.trans (recordEvent_direct cfg _)
      · exact copied
    exact drainsFilled_of_issue idle direct (drainsFilled_of_direct settled direct)

/-- What `Finalize` promises, for a responder made on the stream of `s`: what is left on the
stream once the caller has done what it is asked to was there before. -/
structure Synchronized (s : Sys) (r : Responder) : Prop where
  drains : DrainsFilled r.toSys (finalize env cfg r).2.toSys
  landed : (finalize env cfg r).1 = false →
    (finalize env cfg r).2.toSys.device.queue <:+ s.device.queue
  awaited : (finalize env cfg r).1 = true →
    ((finalize env cfg r).2.toSys.issue
      (if cfg.event then .awaitEvent else .awaitStream)).device.queue <:+ s.device.queue

/-- After any calls, rounds that end with `Finalize` among them. -/
theorem runSteps_synchronized {s : Sys} (numbered : (s.courier []).Numbered blockAge)
    (steps : List ResponderStep)
    (placed : ∀ step ∈ steps, ∀ tensor, step.tensor? = some tensor → tensor.Placed s) :
    Synchronized env cfg s ((create s).runSteps env cfg steps) := by
  obtain ⟨_, calm⟩ := runSteps_calm env cfg (calm_create cfg s)
    (show s.Sound [] from ⟨numbered, List.Pairwise.nil⟩) steps placed
  have drains := finalize_drains env cfg calm
  obtain ⟨_, still, _, flag⟩ := finalize_calm env cfg (fun _ _ _ => True) calm
  refine ⟨drains, ?_, ?_⟩
  · intro none
    exact still.synced.settled (flag.symm.trans none)
  · intro sync
    rw [await_settled cfg still.synced (flag.symm.trans sync)]
    exact List.nil_suffix

end

/-- Two rounds, with nothing waited for in between. -/
theorem synchronized_rounds :
    let cfg := ResponderConfig.pinned [rowsRequest 1, rowsRequest 2]
    let env := Env.successful gatherSegments
    Synchronized env cfg (Sys.fresh 2) ((create (Sys.fresh 2)).runSteps env cfg
      [.call rowsCall, .call .finalize, .call rowsCall]) := by
  refine runSteps_synchronized _ _ (fresh_numbered rfl (by simp)) _ ?_
  intro step member tensor same
  simp only [List.mem_cons, List.not_mem_nil, or_false] at member
  rcases member with rfl | rfl | rfl
  · cases same
    exact gpuOutput_placed _
  · cases same
  · cases same
    exact gpuOutput_placed _

end Responder

end TritonBackend
