import TritonBackend.AsyncCore
import TritonBackend.CollectorSteps

/-!
The enqueue step of an asynchronous flush and the tasks that it adds, in every order in
which they can run.
-/

namespace TritonBackend

open CopyStream

/-! Segments. -/

theorem takeSegment_eq (offset count : Nat) (pending : List ContiguousBuffer) :
    takeSegment offset count pending =
      (pending.take count, offset + totalByteSize (pending.take count), pending.drop count) := by
  induction count generalizing offset pending with
  | zero => simp [takeSegment, totalByteSize]
  | succ count ih =>
      cases pending with
      | nil => simp [takeSegment, totalByteSize]
      | cons input rest => simp [takeSegment, totalByteSize, ih, Nat.add_assoc]

theorem taskSegments_flatten (stride fuel : Nat) (pending : List ContiguousBuffer)
    (positive : 0 < stride) (enough : pending.length ≤ fuel) :
    (taskSegments stride fuel pending).flatten = pending := by
  induction fuel generalizing pending with
  | zero =>
      have empty : pending = [] := List.eq_nil_of_length_eq_zero (Nat.le_zero.mp enough)
      simp [taskSegments, empty]
  | succ fuel ih =>
      cases pending with
      | nil => simp [taskSegments]
      | cons input rest =>
          simp only [taskSegments, takeSegment_eq, List.flatten_cons]
          rw [ih]
          · exact List.take_append_drop stride (input :: rest)
          · simp only [List.length_drop, List.length_cons] at enough ⊢
            omega

theorem asyncStride_pos {cfg : CollectorConfig} (workers : 0 < cfg.workerCount) {count : Nat}
    (some : 0 < count) : 0 < asyncStride cfg count := by
  unfold asyncStride
  exact Nat.div_pos (by omega) workers

theorem asyncSegments_flatten (cfg : CollectorConfig) (workers : 0 < cfg.workerCount)
    (pending : List ContiguousBuffer) : (asyncSegments cfg pending).flatten = pending := by
  cases pending with
  | nil => simp [asyncSegments, taskSegments]
  | cons input rest =>
      exact taskSegments_flatten _ _ _ (asyncStride_pos workers (Nat.succ_pos _)) (Nat.le_refl _)

/-! Which responses the enqueue step fails. -/

theorem commonErrorToTritonError_some (error : CommonError) :
    ∃ converted, commonErrorToTritonError error = some converted := ⟨_, rfl⟩

theorem enqueueTasks_other (env : Env) (task : Nat → List ContiguousBuffer → Task)
    (stride fuel offset : Nat) (pending : List ContiguousBuffer) (s : Sys) {idx : Nat}
    (outside : ∀ input ∈ pending, idx ∉ input.requestRange)
    (gone : (enqueueTasks env task stride fuel offset pending s).Gone idx) : s.Gone idx := by
  induction fuel generalizing offset pending s with
  | zero => exact gone
  | succ fuel ih =>
      cases pending with
      | nil => exact gone
      | cons input rest =>
          simp only [enqueueTasks, takeSegment_eq] at gone
          obtain ⟨converted, failed⟩ := commonErrorToTritonError_some (env.addTask s.tick)
          rw [failed] at gone
          have before := ih _ ((input :: rest).drop stride) _
            (fun other member => outside other (List.mem_of_mem_drop member)) gone
          have unfailed := failAllRequests_other _ _ _
            (fun other member => outside other (List.mem_of_mem_take member)) before
          split at unfailed <;> exact unfailed

theorem enqueueTasks_gone (env : Env) (task : Nat → List ContiguousBuffer → Task)
    (stride fuel offset : Nat) (pending : List ContiguousBuffer) (s : Sys)
    (positive : 0 < stride) (enough : pending.length ≤ fuel) {input : ContiguousBuffer}
    (member : input ∈ pending) {idx : Nat} (inside : idx ∈ input.requestRange) :
    (enqueueTasks env task stride fuel offset pending s).Gone idx := by
  induction fuel generalizing offset pending s with
  | zero =>
      have empty : pending = [] := List.eq_nil_of_length_eq_zero (Nat.le_zero.mp enough)
      simp [empty] at member
  | succ fuel ih =>
      cases pending with
      | nil => simp at member
      | cons first rest =>
          simp only [enqueueTasks, takeSegment_eq]
          obtain ⟨converted, failed⟩ := commonErrorToTritonError_some (env.addTask s.tick)
          rw [failed]
          rw [← List.take_append_drop stride (first :: rest), List.mem_append] at member
          rcases member with taken | later
          · exact reaches_gone (enqueueTasks_reaches env task stride fuel _ _ _)
              (failAllRequests_gone _ _ _ taken inside)
          · refine ih _ _ _ ?_ later
            simp only [List.length_drop, List.length_cons] at enough ⊢
            omega

section
variable (env : Env) (cfg : CollectorConfig) (c : Collector) (memory : BackendMemory)
  (tensor : Tensor)

/-- The response lies in the range of a chunk of a segment whose status `chosen` holds of. -/
def InSegment (chosen : CommonError → Prop) (idx : Nat) : Prop :=
  ∃ k segment, (asyncSegments cfg c.pendingPinnedInputBuffers)[k]? = some segment ∧
    chosen (env.addTask (c.tick + k)) ∧ ∃ input ∈ segment, idx ∈ input.requestRange

def Rejected (status : CommonError) : Prop := status.code ≠ .success

def Accepted (status : CommonError) : Prop := status.code = .success

/-- The enqueue step fails a response exactly when it is in a segment whose `AddTask`
call failed. -/
def FailsRejected : Prop :=
  ∀ idx response, c.responses[idx]? = some (some response) →
    let s := (startAsyncFlush env cfg c memory tensor).toSys
    ((response ∈ s.sent ∧ s.responses[idx]? = some none) ↔ InSegment env cfg c Rejected idx)

theorem inSegment_iff (workers : 0 < cfg.workerCount) (idx : Nat) :
    (InSegment env cfg c Accepted idx ∨ InSegment env cfg c Rejected idx) ↔
      ∃ input ∈ c.pendingPinnedInputBuffers, idx ∈ input.requestRange := by
  have whole := asyncSegments_flatten cfg workers c.pendingPinnedInputBuffers
  constructor
  · have found {chosen : CommonError → Prop} (inside : InSegment env cfg c chosen idx) :
        ∃ input ∈ c.pendingPinnedInputBuffers, idx ∈ input.requestRange := by
      obtain ⟨k, segment, present, _, input, member, range⟩ := inside
      refine ⟨input, ?_, range⟩
      rw [← whole]
      exact List.mem_flatten.mpr ⟨segment, List.mem_of_getElem? present, member⟩
    rintro (accepted | rejected)
    · exact found accepted
    · exact found rejected
  · rintro ⟨input, member, range⟩
    rw [← whole] at member
    obtain ⟨segment, inSegments, inside⟩ := List.mem_flatten.mp member
    obtain ⟨k, present⟩ := List.getElem?_of_mem inSegments
    by_cases status : (env.addTask (c.tick + k)).code = .success
    · exact Or.inl ⟨k, segment, present, status, input, inside, range⟩
    · exact Or.inr ⟨k, segment, present, status, input, inside, range⟩

/-- The code fails the responses of every chunk, whatever the statuses are. -/
theorem startAsyncFlush_fails (workers : 0 < cfg.workerCount) {idx response : Nat}
    (live : c.responses[idx]? = some (some response)) :
    (response ∈ (startAsyncFlush env cfg c memory tensor).sent ∧
        (startAsyncFlush env cfg c memory tensor).responses[idx]? = some none) ↔
      InSegment env cfg c Accepted idx ∨ InSegment env cfg c Rejected idx := by
  rw [inSegment_iff env cfg c workers idx]
  have reaches : c.toSys.Reaches (startAsyncFlush env cfg c memory tensor).toSys :=
    enqueueTasks_reaches env _ _ _ _ _ _
  constructor
  · rintro ⟨_, null⟩
    by_contra absent
    have outside : ∀ input ∈ c.pendingPinnedInputBuffers, idx ∉ input.requestRange :=
      fun input member inside => absent ⟨input, member, inside⟩
    have gone : (startAsyncFlush env cfg c memory tensor).toSys.Gone idx := by
      intro other present
      rw [null] at present
      cases present
    exact enqueueTasks_other env _ _ _ _ _ _ outside gone response live
  · rintro ⟨input, member, inside⟩
    have count := List.length_pos_of_mem member
    have gone := enqueueTasks_gone env
      (fun offset buffers => {
        flush := c.asyncTaskCount
        incompleteCount := min c.pendingPinnedInputBuffers.length cfg.workerCount
        offset, buffers
        deferred := c.deferral memory.memoryPtr tensor true
        pinnedMemoryType := memory.memoryType
        pinnedMemoryTypeId := memory.memoryTypeId })
      (asyncStride cfg c.pendingPinnedInputBuffers.length) _ 0 _ c.toSys
      (asyncStride_pos workers count) (Nat.le_refl _) member inside
    rcases reaches_sent reaches live with still | ⟨null, sent⟩
    · exact absurd still (gone response)
    · exact ⟨sent, null⟩

theorem failsRejected_iff (workers : 2 ≤ cfg.workerCount) :
    FailsRejected env cfg c memory tensor ↔
      ∀ idx, ¬ c.Gone idx → InSegment env cfg c Accepted idx → InSegment env cfg c Rejected idx := by
  have positive : 0 < cfg.workerCount := by omega
  constructor
  · intro exactly idx live accepted
    unfold Sys.Gone at live
    push Not at live
    obtain ⟨response, present⟩ := live
    have failed := (startAsyncFlush_fails env cfg c memory tensor positive present).mpr
      (Or.inl accepted)
    exact (exactly idx response present).mp failed
  · intro covered idx response present
    have fails := startAsyncFlush_fails env cfg c memory tensor positive present
    constructor
    · intro failed
      rcases fails.mp failed with accepted | rejected
      · exact covered idx (fun gone => gone response present) accepted
      · exact rejected
    · intro rejected
      exact fails.mpr (Or.inr rejected)

end

def twoPending : Collector := {
  Collector.create (Sys.fresh 2) false with
  pendingPinnedByteSize := 8
  pendingPinnedInputBuffers := [requestChunk 0 16 4 .cpu, requestChunk 1 32 4 .cpu] }

def twoWorkers : CollectorConfig := { CollectorConfig.plain [] with workerCount := 2 }

def pinnedBlock : BackendMemory := {
  allocType := .cpuPinnedPool
  memoryTypeId := 0
  memoryPtr := { block := .staging 0, offset := 0 }
  byteSize := 8 }

def deviceTensor (byteSize : Nat) : Tensor := {
  buffer := { block := .tensor 0, offset := 0 }
  byteSize
  memoryType := .gpu
  memoryTypeId := 0 }

theorem failsRejected_all_rejected :
    FailsRejected { Env.successful gatherSegments with
      addTask := fun _ => { code := .unavailable, message := "" } } twoWorkers twoPending pinnedBlock
      (deviceTensor 8) := by
  refine (failsRejected_iff _ _ _ _ _ (by decide)).mpr ?_
  rintro idx _ ⟨k, segment, _, accepted, _⟩
  cases accepted

/-- Both `AddTask` calls succeed and both responses are failed. -/
theorem not_failsRejected_accepted :
    ¬ FailsRejected (Env.successful gatherSegments) twoWorkers twoPending pinnedBlock
      (deviceTensor 8) := by
  intro exactly
  obtain ⟨k, segment, _, rejected, _⟩ := (exactly 0 0 rfl).mp (by decide)
  exact rejected rfl

/-! The tasks that the enqueue steps add. -/

def Event.task? : Event → Option Task
  | .addTask task => some task
  | _ => none

def Event.isGet : Event → Bool
  | .getCompletion => true
  | _ => false

def addedTasks (events : List Event) : List Task := events.filterMap Event.task?

/-- What the counters of a flush depend on: its number, its counter and the task's chunks. -/
def Task.summary (task : Task) : Nat × Nat × List ContiguousBuffer :=
  (task.flush, task.incompleteCount, task.buffers)

@[simp] theorem addedTasks_append (first second : List Event) :
    addedTasks (first ++ second) = addedTasks first ++ addedTasks second := by
  simp [addedTasks]

theorem addedTasks_cons (event : Event) (rest : List Event) :
    addedTasks (event :: rest) = event.task?.toList ++ addedTasks rest := by
  cases found : event.task? <;> simp [addedTasks, found]

theorem answers_tasks {s s' : Sys} (answers : s.Answers s') :
    addedTasks s'.log = addedTasks s.log ∧ s'.log.countP Event.isGet = s.log.countP Event.isGet := by
  induction answers with
  | refl => exact ⟨rfl, rfl⟩
  | tail _ answered ih =>
      cases answered with
      | respond idx response error live =>
          have quiet : addedTasks [Event.send response error] = [] := rfl
          simpa [Sys.setNull, Sys.responseSend, quiet, Event.isGet] using ih

/-- One task for each segment, each starting where the one before it ends. -/
def laidTasks (task : Nat → List ContiguousBuffer → Task) (offset : Nat) :
    List (List ContiguousBuffer) → List Task
  | [] => []
  | segment :: rest =>
      task offset segment :: laidTasks task (offset + totalByteSize segment) rest

theorem enqueueTasks_laid {env : Env} (accepted : ∀ tick, (env.addTask tick).code = .success)
    (task : Nat → List ContiguousBuffer → Task) (stride fuel offset : Nat)
    (pending : List ContiguousBuffer) (s : Sys) :
    addedTasks (enqueueTasks env task stride fuel offset pending s).log =
      addedTasks s.log ++ laidTasks task offset (taskSegments stride fuel pending) := by
  induction fuel generalizing offset pending s with
  | zero => simp [enqueueTasks, taskSegments, laidTasks]
  | succ fuel ih =>
      cases pending with
      | nil => simp [enqueueTasks, taskSegments, laidTasks]
      | cons input rest =>
          simp only [enqueueTasks, taskSegments, laidTasks, takeSegment_eq, accepted, if_true]
          obtain ⟨converted, failed⟩ := commonErrorToTritonError_some (env.addTask s.tick)
          simp only [failed]
          rw [ih, (answers_tasks (failAllRequests_answers _ _ _)).1]
          simp [addedTasks, Event.task?]

theorem laidTasks_summary {task : Nat → List ContiguousBuffer → Task} {flush counter : Nat}
    (summary : ∀ offset buffers, (task offset buffers).summary = (flush, counter, buffers))
    (offset : Nat) (segments : List (List ContiguousBuffer)) :
    (laidTasks task offset segments).map Task.summary =
      segments.map fun segment => (flush, counter, segment) := by
  induction segments generalizing offset with
  | nil => rfl
  | cons segment rest ih => rw [laidTasks, List.map_cons, List.map_cons, summary, ih]

theorem enqueueTasks_gets {env : Env} (accepted : ∀ tick, (env.addTask tick).code = .success)
    (task : Nat → List ContiguousBuffer → Task) (stride fuel offset : Nat)
    (pending : List ContiguousBuffer) (s : Sys) :
    (enqueueTasks env task stride fuel offset pending s).log.countP Event.isGet =
      s.log.countP Event.isGet := by
  induction fuel generalizing offset pending s with
  | zero => simp [enqueueTasks]
  | succ fuel ih =>
      cases pending with
      | nil => simp [enqueueTasks]
      | cons input rest =>
          simp only [enqueueTasks, takeSegment_eq, accepted, if_true]
          obtain ⟨converted, failed⟩ := commonErrorToTritonError_some (env.addTask s.tick)
          simp only [failed]
          rw [ih, (answers_tasks (failAllRequests_answers _ _ _)).2]
          simp [Event.isGet]

theorem enqueueTasks_tasks (env : Env) (accepted : ∀ tick, (env.addTask tick).code = .success)
    (task : Nat → List ContiguousBuffer → Task) {flush counter : Nat}
    (summary : ∀ offset buffers, (task offset buffers).summary = (flush, counter, buffers))
    (stride fuel offset : Nat) (pending : List ContiguousBuffer) (s : Sys) :
    let after := enqueueTasks env task stride fuel offset pending s
    (addedTasks after.log).map Task.summary = (addedTasks s.log).map Task.summary ++
        (taskSegments stride fuel pending).map (fun segment => (flush, counter, segment)) ∧
      after.log.countP Event.isGet = s.log.countP Event.isGet := by
  refine ⟨?_, enqueueTasks_gets accepted task stride fuel offset pending s⟩
  rw [enqueueTasks_laid accepted, List.map_append, laidTasks_summary summary]

end TritonBackend
