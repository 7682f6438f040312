import TritonBackend.BackendCore
import TritonBackend.CollectorSteps
import TritonBackend.ResponderSteps
import Mathlib.Data.List.ReduceOption
import Mathlib.Data.List.Nodup

/-!
Every response is sent at most once, and its slot is null exactly when it has been.
This is an invariant of the primitive steps, so it holds after any operations of a backend;
the loop at the end then sends what is left.
-/

namespace TritonBackend

open CopyStream

structure Sys.Answered (s : Sys) (requestCount : Nat) : Prop where
  length : s.responses.length = requestCount
  live : ∀ idx response, s.responses[idx]? = some (some response) → response = idx ∧ idx ∉ s.sent
  null : ∀ idx, s.responses[idx]? = some none → idx ∈ s.sent
  once : s.sent.Nodup

theorem fresh_answered (requestCount : Nat) : (Sys.fresh requestCount).Answered requestCount := by
  constructor
  · simp [Sys.fresh]
  · intro idx response present
    simp only [Sys.fresh, List.getElem?_map, Option.map_eq_some_iff] at present
    obtain ⟨found, inRange, same⟩ := present
    obtain ⟨_, equal⟩ := List.getElem?_eq_some_iff.mp inRange
    simp only [List.getElem_range, Option.some.injEq] at equal same
    exact ⟨same.symm.trans equal.symm, by simp [Sys.fresh, Sys.sent]⟩
  · intro idx present
    simp [Sys.fresh, List.getElem?_map] at present
  · simp [Sys.fresh, Sys.sent]

theorem answer_answered {s s' : Sys} {requestCount : Nat} (answered : s.Answer s')
    (before : s.Answered requestCount) : s'.Answered requestCount := by
  cases answered with
  | respond idx response error found =>
      obtain ⟨same, unsent⟩ := before.live idx response found
      subst response
      have inside := (List.getElem?_eq_some_iff.mp found).1
      have sent : ((s.responseSend idx error).setNull idx).sent = s.sent ++ [idx] := by
        simp [Sys.responseSend, Event.sent?]
      have responses : ((s.responseSend idx error).setNull idx).responses =
          s.responses.set idx none := rfl
      constructor
      · rw [responses, List.length_set]
        exact before.length
      · intro other response present
        rw [responses] at present
        by_cases same : idx = other
        · subst other
          simp [inside] at present
        · rw [List.getElem?_set_ne same] at present
          obtain ⟨equal, absent⟩ := before.live other response present
          refine ⟨equal, ?_⟩
          rw [sent, List.mem_append, List.mem_singleton]
          rintro (earlier | new)
          · exact absent earlier
          · exact same new.symm
      · intro other present
        rw [responses] at present
        rw [sent]
        by_cases same : idx = other
        · exact List.mem_append_right _ (List.mem_singleton.mpr same.symm)
        · rw [List.getElem?_set_ne same] at present
          exact List.mem_append_left _ (before.null other present)
      · rw [sent]
        refine List.nodup_append.mpr ⟨before.once, List.nodup_singleton _, ?_⟩
        intro earlier member other new equal
        rw [List.mem_singleton] at new
        exact unsent (new ▸ equal ▸ member)

theorem step_answered {s s' : Sys} {requestCount : Nat} (step : s.Step s')
    (before : s.Answered requestCount) : s'.Answered requestCount := by
  cases step with
  | quiet event silent =>
      have same : (s.note event).sent = s.sent := by simp [silent]
      exact ⟨before.length, fun idx response present => same ▸ before.live idx response present,
        fun idx present => same ▸ before.null idx present, same ▸ before.once⟩
  | count tick nextBlock later => exact ⟨before.length, before.live, before.null, before.once⟩
  | answer s' answered => exact answer_answered answered before

theorem reaches_answered {s s' : Sys} {requestCount : Nat} (reaches : s.Reaches s')
    (before : s.Answered requestCount) : s'.Answered requestCount := by
  induction reaches with
  | refl => exact before
  | tail _ step ih => exact step_answered step ih

/-! Operations of a backend. -/

theorem collectorCall_reaches (env : Env) (cfg : CollectorConfig) (c : Collector)
    (call : CollectorCall) : c.toSys.Reaches (call.run env cfg c).toSys := by
  cases call with
  | processTensor inputName tensor => exact processTensor_reaches env cfg inputName tensor c
  | processTensorDst inputName buffer bufferByteSize allowed kept =>
      exact processTensorDst_reaches env cfg inputName buffer bufferByteSize allowed kept c
  | batchInputShape batchInput => exact (batchInputShape_hosts env cfg batchInput c.toSys).reaches
  | processBatchInput batchInput buffer bufferByteSize allowed kept =>
      exact processBatchInput_reaches env cfg batchInput buffer bufferByteSize allowed kept c
  | finalize => exact finalize_reaches env cfg c

theorem responderCall_reaches (env : Env) (cfg : ResponderConfig) (r : Responder)
    (call : ResponderCall) : r.toSys.Reaches (call.run env cfg r).toSys := by
  cases call with
  | processTensor outputName datatype batchnShape tensor =>
      exact Responder.processTensor_reaches env cfg r outputName datatype batchnShape tensor
  | processStateTensor outputStateName datatype batchnShape tensor =>
      exact Responder.processStateTensor_reaches env cfg r outputStateName datatype batchnShape tensor
  | processBatchOutput batchOutput tensor =>
      exact Responder.processBatchOutput_reaches env cfg r batchOutput tensor
  | finalize => exact Responder.finalize_reaches env cfg r

theorem respondAllAndSetNullIfError_answers (s : Sys) (count : Nat) (error : Option TritonError) :
    s.Answers (respondAllAndSetNullIfError s count error) := by
  cases error with
  | none => exact Sys.Answers.refl s
  | some error => exact sendFrom_answers s (some error) 0 count

theorem respondAllAndSetTrueIfError_answers (s : Sys) (count : Nat) (flag : Bool)
    (error : Option TritonError) :
    s.Answers (respondAllAndSetTrueIfError s count flag error).2 := by
  cases error with
  | none => exact Sys.Answers.refl s
  | some error => exact sendFrom_answers s (some error) 0 count

theorem backendStep_reaches (env : Env) (b : Backend) (operation : Operation) :
    b.sys.Reaches (b.step env operation).sys := by
  cases operation with
  | createCollector cfg bufferReadyEvent => exact Sys.Reaches.refl _
  | collector n call =>
      simp only [Backend.step]
      split
      · exact Sys.Reaches.refl _
      next cfg c found => exact collectorCall_reaches env cfg (c.withSys b.sys) call
  | createResponder cfg => exact Sys.Reaches.refl _
  | responder n call =>
      simp only [Backend.step]
      split
      · exact Sys.Reaches.refl _
      next cfg r found => exact responderCall_reaches env cfg (r.withSys b.sys) call
  | synchronize event => exact Sys.Reaches.issue _ _
  | respondAndSetNullIfError idx error =>
      exact (respondAndSetNullIfError_answers b.sys idx error).reaches
  | respondAllAndSetNullIfError count error =>
      exact (respondAllAndSetNullIfError_answers b.sys count error).reaches
  | respondAllAndSetTrueIfError count flag error =>
      exact (respondAllAndSetTrueIfError_answers b.sys count flag error).reaches
  | sendErrorForResponses responseCount error =>
      exact (sendFrom_answers b.sys error 0 responseCount).reaches

theorem backendRun_reaches (env : Env) (b : Backend) (operations : List Operation) :
    b.sys.Reaches (b.run env operations).sys := by
  induction operations generalizing b with
  | nil => exact Sys.Reaches.refl _
  | cons operation rest ih => exact (backendStep_reaches env b operation).trans (ih _)

theorem run_answered (env : Env) (requestCount : Nat) (operations : List Operation) :
    ((Backend.fresh requestCount).run env operations).sys.Answered requestCount :=
  reaches_answered (backendRun_reaches env _ operations) (fresh_answered requestCount)

/-! The loop that sends what is left. -/

theorem sendRemainingFrom_sent (s : Sys) (responses : List (Option Nat)) :
    (sendRemainingFrom s responses).sent = s.sent ++ responses.reduceOption := by
  induction responses generalizing s with
  | nil => simp [sendRemainingFrom, List.reduceOption_nil]
  | cons first rest ih =>
      cases first with
      | none => simp [sendRemainingFrom, ih, List.reduceOption_cons_of_none]
      | some response =>
          simp [sendRemainingFrom, ih, Sys.responseSend, Event.sent?, List.reduceOption_cons_of_some]

/-- The responses that are left are the slots that are not null, each once. -/
theorem remaining_nodup {s : Sys} {requestCount : Nat} (answered : s.Answered requestCount) :
    s.responses.reduceOption.Nodup := by
  have slot (idx : Nat) (bound : idx < s.responses.length) (response : Nat)
      (present : s.responses[idx] = some response) : response = idx :=
    (answered.live idx response (by rw [List.getElem?_eq_getElem bound, present])).1
  have apart : s.responses.Pairwise fun first second =>
      ∀ response, first = some response → second ≠ some response := by
    refine List.pairwise_iff_getElem.mpr ?_
    intro i j iBound jBound less response first second
    have iSame := slot i iBound response first
    have jSame := slot j jBound response second
    omega
  refine List.pairwise_filterMap.mpr ?_
  refine apart.imp ?_
  intro first second different response firstSame other secondSame equal
  subst equal
  exact different response firstSame secondSame

theorem sendRemaining_count {s : Sys} {requestCount : Nat} (answered : s.Answered requestCount)
    {idx : Nat} (bound : idx < requestCount) : (sendRemaining s).sent.count idx = 1 := by
  have inside : idx < s.responses.length := answered.length ▸ bound
  have unique : (sendRemaining s).sent.Nodup := by
    rw [sendRemaining, sendRemainingFrom_sent]
    refine List.nodup_append.mpr ⟨answered.once, remaining_nodup answered, ?_⟩
    intro sent member other left equal
    subst equal
    obtain ⟨slot, present⟩ := List.getElem?_of_mem (List.reduceOption_mem_iff.mp left)
    obtain ⟨same, absent⟩ := answered.live slot sent present
    exact absent (same ▸ member)
  have present : idx ∈ (sendRemaining s).sent := by
    rw [sendRemaining, sendRemainingFrom_sent, List.mem_append]
    cases slot : s.responses[idx] with
    | none =>
        exact Or.inl (answered.null idx (by rw [List.getElem?_eq_getElem inside, slot]))
    | some response =>
        have found : s.responses[idx]? = some (some response) := by
          rw [List.getElem?_eq_getElem inside, slot]
        have same := (answered.live idx response found).1
        subst same
        exact Or.inr (List.reduceOption_mem_iff.mpr (List.mem_of_getElem? found))
  exact List.count_eq_one_of_mem unique present

/-- A slot is null exactly when its response has been sent, each response is sent at most
once, and with the last loop exactly once. -/
theorem backend_sends_once (env : Env) (requestCount : Nat) (operations : List Operation)
    (idx : Nat) (bound : idx < requestCount) :
    let s := ((Backend.fresh requestCount).run env operations).sys
    s.sent.count idx ≤ 1 ∧ (s.responses[idx]? = some none ↔ idx ∈ s.sent) ∧
      (sendRemaining s).sent.count idx = 1 := by
  have answered := run_answered env requestCount operations
  refine ⟨List.nodup_iff_count_le_one.mp answered.once idx, ?_, sendRemaining_count answered bound⟩
  constructor
  · exact answered.null idx
  · intro sent
    generalize ((Backend.fresh requestCount).run env operations).sys = s at answered sent
    have inside : idx < s.responses.length := answered.length ▸ bound
    rw [List.getElem?_eq_getElem inside]
    cases slot : s.responses[idx] with
    | none => rfl
    | some response =>
        have found : s.responses[idx]? = some (some response) := by
          rw [List.getElem?_eq_getElem inside, slot]
        exact absurd sent (answered.live idx response found).2

theorem backend_sends_once_failed :
    let s := ((Backend.fresh 2).run (Env.successful gatherSegments)
      [.respondAndSetNullIfError 0 (errorNew .internal "failed")]).sys
    s.sent = [0] ∧ s.sent.count 0 ≤ 1 ∧ (s.responses[0]? = some none ↔ 0 ∈ s.sent) ∧
      (sendRemaining s).sent.count 0 = 1 :=
  ⟨rfl, backend_sends_once _ 2 _ 0 (by decide)⟩

end TritonBackend
