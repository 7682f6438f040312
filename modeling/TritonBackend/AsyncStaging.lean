import TritonBackend.AsyncDispatch

/-!
Staging in every order of the tasks. The last task of a flush starts the copy out of its
buffer and no task of the flush is left then, but nothing waits for the stream: the buffer
holds its data only if the copy out follows on the stream.
-/

namespace TritonBackend

open CopyStream

/-- When a pinned buffer is read, the copy of each chunk that it holds has been issued or has
failed, no copy into it is still to come, and a host read finds none on the stream. -/
structure StagedFirst (actions : List (Action Block UInt8)) (failed : List (Copy Block)) : Prop where
  stocked : ReadsFull actions failed
  last : ∀ before action after, actions = before ++ action :: after →
    ∀ drain, .copy drain ∈ action.effects → IsStaging drain.source.block →
      ∀ write ∈ issued (action :: after), write.target.block ≠ drain.source.block
  landed : ∀ before drain after, actions = before ++ .host (.copy drain) :: after →
    IsStaging drain.source.block →
      ∀ copy ∈ (Device.fresh.run before).queue, copy.target.block ≠ drain.source.block

theorem stagedFirst_of_readsLanded {actions : List (Action Block UInt8)} {failed : List (Copy Block)}
    (full : ReadsFull actions failed) (landed : ReadsLanded IsStaging Device.fresh actions) :
    StagedFirst actions failed := by
  refine ⟨full, ?_, ?_⟩
  · intro before action after split drain member staging
    subst split
    exact landed.spares member drain.source.block rfl staging
  · intro before drain after split staging copy queued
    exact (landed before (.host (.copy drain)) after split).arrived (.copy drain) rfl
      drain.source.block rfl staging (.copy copy) (List.mem_map_of_mem queued)

/-! Without tasks a run replays the main thread. -/

structure Replays (log : List Event) (state : AsyncState) : Prop where
  idle : state.running = []
  noTask : addedTasks state.pending = []
  past : ∃ past, log = past ++ state.pending ∧ state.actions = past.filterMap Event.action? ∧
    state.failed = past.filterMap Event.failed?

theorem step_replays {env : Env} {cfg : CollectorConfig} {log : List Event}
    {state state' : AsyncState} (step : state.Step env cfg state') (replays : Replays log state) :
    Replays log state' := by
  obtain ⟨idle, noTask, past, split, actions, failed⟩ := replays
  cases step with
  | main _ _ stepped =>
      cases stepMain_cases stepped with
      | quiet event rest head task get =>
          rw [head, addedTasks_cons, task] at noTask
          refine ⟨idle, noTask, past ++ [event], ?_, ?_, ?_⟩
          · rw [split, head, List.append_assoc, List.singleton_append]
          · cases found : event.action? <;> simp [actions, found]
          · cases found : event.failed? <;> simp [failed, found]
      | add task rest head =>
          rw [head, addedTasks_cons] at noTask
          simp [Event.task?] at noTask
      | get result more rest head queue =>
          rw [head, addedTasks_cons] at noTask
          refine ⟨idle, noTask, past ++ [.getCompletion], ?_, ?_, ?_⟩
          · rw [split, head, List.append_assoc, List.singleton_append]
          · simp [actions, Event.action?]
          · simp [failed, Event.failed?]
  | task tick idx _ _ stepped =>
      cases stepTask_cases stepped with
      | copy before after running input rest found left => simp [found] at idle
      | finish before after running at_ found erased none => simp [found] at idle

theorem runs_replays {env : Env} {cfg : CollectorConfig} {log : List Event}
    {state state' : AsyncState} (run : state.Runs env cfg state') (replays : Replays log state) :
    Replays log state' := by
  induction run with
  | refl => exact replays
  | tail _ step ih => exact step_replays step ih

theorem Replays.full {log : List Event} {state : AsyncState} (replays : Replays log state)
    (reads : ReadsStocked log) : ReadsFull state.actions state.failed := by
  obtain ⟨past, split, actions, failed⟩ := replays.past
  rw [actions, failed]
  exact (reads.prior ⟨_, split.symm⟩).full

/-! The tasks that have not ended. -/

def AsyncState.tasks (state : AsyncState) : List Task :=
  state.running.map Running.task ++ addedTasks state.pending

/-- A buffer that has been read is not filled by a task any more. -/
structure Staged (state : AsyncState) : Prop where
  landed : ReadsLanded IsStaging Device.fresh state.actions
  full : ReadsFull state.actions state.failed
  main : ∀ event ∈ state.pending, ∀ action, event.action? = some action → action.Avoids IsStaging
  stages : ∀ task ∈ state.tasks, task.Stages
  apart : ∀ first ∈ state.tasks, ∀ second ∈ state.tasks,
    first.deferred.pinnedMemory.block = second.deferred.pinnedMemory.block →
      first.flush = second.flush
  drained : ∀ effect ∈ issued state.actions, ∀ block, IsStaging block →
    effect.readBlock = some block → ∀ task ∈ state.tasks, task.deferred.pinnedMemory.block ≠ block

theorem Staged.shrink {state state' : AsyncState} (staged : Staged state)
    (pending : state'.pending ⊆ state.pending) (tasks : state'.tasks ⊆ state.tasks)
    (actions : state'.actions = state.actions) {refused : List (Copy Block)}
    (failed : state'.failed = state.failed ++ refused) : Staged state' := by
  constructor
  · rw [actions]
    exact staged.landed
  · rw [actions, failed]
    exact staged.full.mono refused
  · exact fun event member => staged.main event (pending member)
  · exact fun task member => staged.stages task (tasks member)
  · exact fun first member second member' =>
      staged.apart first (tasks member) second (tasks member')
  · rw [actions]
    exact fun effect member block staging read task present =>
      staged.drained effect member block staging read task (tasks present)

theorem Staged.extend {state : AsyncState} (staged : Staged state) {action : Action Block UInt8}
    (timely : Timely IsStaging (Device.fresh.run state.actions) (issued state.actions) action)
    (full : ∀ drain, .copy drain ∈ action.effects → IsStaging drain.source.block →
      Stocked state.actions state.failed drain.source drain.byteSize)
    (read : ∀ effect ∈ action.effects, ∀ block, IsStaging block → effect.readBlock = some block →
      ∀ task ∈ state.tasks, task.deferred.pinnedMemory.block ≠ block) :
    Staged { state with actions := state.actions ++ [action] } := by
  refine ⟨(readsLanded_concat _ _ _).mpr ⟨staged.landed, timely⟩,
    readsFull_concat.mpr ⟨staged.full, full⟩, staged.main, staged.stages, staged.apart, ?_⟩
  intro effect member
  rw [issued_append, List.mem_append] at member
  rcases member with before | new
  · exact staged.drained effect before
  · exact read effect (by simpa using new)

theorem Staged.spare {state : AsyncState} (staged : Staged state) {action : Action Block UInt8}
    (timely : Timely IsStaging (Device.fresh.run state.actions) (issued state.actions) action)
    (spares : action.Spares IsStaging) :
    Staged { state with actions := state.actions ++ [action] } := by
  refine staged.extend timely ?_ ?_
  · intro drain member staging
    exact absurd staging (spares (.copy drain) member _ rfl)
  · intro effect member block staging read
    exact absurd staging (spares effect member block read)

theorem mainStep_staged {state state' : AsyncState} (step : MainStep state state')
    (staged : Staged state) : Staged state' := by
  cases step with
  | quiet event rest head task get =>
      have tail : Staged { state with
          pending := rest
          failed := state.failed ++ event.failed?.toList } := by
        refine staged.shrink ?_ ?_ rfl rfl
        · exact head ▸ List.subset_cons_self event rest
        · simp [AsyncState.tasks, head, addedTasks_cons, task]
      cases found : event.action? with
      | none => simpa [found] using tail
      | some action =>
          have avoids := staged.main event (head ▸ List.mem_cons_self) action found
          exact tail.spare (avoids.timely _ _) avoids.spares
  | add task rest head =>
      refine staged.shrink (head ▸ List.subset_cons_self _ rest) ?_ rfl (List.append_nil _).symm
      have first : addedTasks state.pending = task :: addedTasks rest := by
        simp [head, addedTasks_cons, Event.task?]
      simp [AsyncState.tasks, first, Task.start]
  | get result more rest head queue =>
      refine staged.shrink (head ▸ List.subset_cons_self _ rest) ?_ rfl (List.append_nil _).symm
      simp [AsyncState.tasks, head, addedTasks_cons, Event.task?]

def AsyncState.Counted (state : AsyncState) : Prop :=
  ∀ flush, ∃ total counter chunks, total ≤ counter ∧ FlushProgress state flush total counter chunks

theorem step_counted {env : Env} {cfg : CollectorConfig} {state state' : AsyncState}
    (step : state.Step env cfg state') (counted : state.Counted) : state'.Counted := by
  intro flush
  obtain ⟨total, counter, chunks, bound, progress⟩ := counted flush
  exact ⟨total, counter, chunks, bound, step_progress step bound progress⟩

/-- The task that sees the last value of the counter is the last one of its flush. -/
theorem last_alone {state : AsyncState} (counted : state.Counted) {before after : List Running}
    {running : Running} (found : state.running = before ++ running :: after)
    (last : state.fetchSub running.task = 1) {task : Task}
    (left : task ∈ (before ++ after).map Running.task ++ addedTasks state.pending) :
    task.flush ≠ running.task.flush := by
  intro mine
  obtain ⟨total, counter, chunks, bound, progress⟩ := counted running.task.flush
  have start := progress.runningCounter running (by simp [found]) rfl
  have all := progress.counted
  simp only [AsyncState.fetchSub, start] at last
  simp only [AsyncState.runningOf, AsyncState.waitingOf, found, List.filter_append,
    List.filter_cons, decide_true, if_true, List.length_append, List.length_cons] at all
  rcases List.mem_append.mp left with stillRuns | waits
  · obtain ⟨other, present, rfl⟩ := List.mem_map.mp stillRuns
    have some : 0 < ((before ++ after).filter fun other =>
        other.task.flush = running.task.flush).length :=
      List.length_pos_of_mem (List.mem_filter.mpr ⟨present, by simpa using mine⟩)
    rw [List.filter_append, List.length_append] at some
    omega
  · have some : 0 < ((addedTasks state.pending).filter fun task =>
        task.flush = running.task.flush).length :=
      List.length_pos_of_mem (List.mem_filter.mpr ⟨waits, by simpa using mine⟩)
    omega

/-! What the tasks have copied. -/

def Running.Begun (actions : List (Action Block UInt8)) (failed : List (Copy Block))
    (running : Running) : Prop :=
  ∃ past, running.task.buffers = past ++ running.buffers ∧
    running.offset = running.task.offset + totalByteSize past ∧
    AllTried actions failed running.task.deferred.pinnedMemory
      (segmentsFrom running.task.offset past)

/-- Of all tasks that the main thread adds, the ones in `done` have ended. -/
structure Accounted (tasks done : List Task) (state : AsyncState) : Prop where
  whole : tasks.Perm (done ++ state.tasks)
  finished : ∀ flush, state.finished flush = (done.filter fun task => task.flush = flush).length
  copied : ∀ task ∈ done, AllTried state.actions state.failed task.deferred.pinnedMemory
    (segmentsFrom task.offset task.buffers)
  begun : ∀ running ∈ state.running, running.Begun state.actions state.failed

theorem Running.Begun.mono {actions : List (Action Block UInt8)} {failed : List (Copy Block)}
    {running : Running} (begun : running.Begun actions failed) (later : List (Action Block UInt8))
    (refused : List (Copy Block)) : running.Begun (actions ++ later) (failed ++ refused) := by
  obtain ⟨past, split, offset, tried⟩ := begun
  exact ⟨past, split, offset, tried.mono later refused⟩

theorem Running.Begun.ended {actions : List (Action Block UInt8)} {failed : List (Copy Block)}
    {running : Running} (begun : running.Begun actions failed) (none : running.buffers = []) :
    AllTried actions failed running.task.deferred.pinnedMemory
      (segmentsFrom running.task.offset running.task.buffers) := by
  obtain ⟨past, split, _, tried⟩ := begun
  rwa [split, none, List.append_nil]

theorem Running.Begun.fits {actions : List (Action Block UInt8)} {failed : List (Copy Block)}
    {running : Running} (begun : running.Begun actions failed) (stages : running.task.Stages)
    {input : ContiguousBuffer} {rest : List ContiguousBuffer}
    (left : running.buffers = input :: rest) :
    running.offset + input.byteSize ≤ running.task.deferred.pinnedMemorySize := by
  obtain ⟨past, split, offset, _⟩ := begun
  have bound := stages.fits
  rw [split, left, totalByteSize_append, totalByteSize_cons] at bound
  omega

/-- When the counter of a flush has come down to the last task, all tasks that share its chunks
out were added and have been through theirs. -/
theorem last_stocked {tasks done : List Task} {state : AsyncState} {flushes blocks : Nat}
    (queued : Queued tasks flushes blocks) (counted : state.Counted)
    (accounted : Accounted tasks done state) {before after : List Running} {running : Running}
    (found : state.running = before ++ running :: after) (none : running.buffers = [])
    (last : state.fetchSub running.task = 1) :
    Stocked state.actions state.failed running.task.deferred.pinnedMemory
      running.task.deferred.pinnedMemorySize := by
  have mine : running.task ∈ state.tasks := by simp [AsyncState.tasks, found]
  obtain ⟨make, segments, shares⟩ := queued.shared running.task
    (accounted.whole.mem_iff.mpr (List.mem_append_right _ mine))
  have total := (accounted.whole.filter fun task => task.flush = running.task.flush).length_eq
  rw [List.filter_append, List.length_append, ← accounted.finished] at total
  have present : 0 < (state.tasks.filter fun task => task.flush = running.task.flush).length :=
    List.length_pos_of_mem (List.mem_filter.mpr ⟨mine, by simp⟩)
  have whole : (tasks.filter fun task => task.flush = running.task.flush) =
      laidTasks make 0 segments := by
    refine shares.accepted.eq_of_length_le ?_
    have few := shares.few
    simp only [AsyncState.fetchSub] at last
    rw [length_laidTasks]
    omega
  refine ⟨segments.flatten, shares.sized, ?_⟩
  rw [← laidTasks_segments shares.takes shares.starts, allTried_flatMap]
  intro task member
  have same : task.deferred = running.task.deferred := by
    obtain ⟨offset, segment, _, rfl⟩ := mem_laidTasks member
    exact shares.deferred offset segment
  rw [← whole, List.mem_filter, decide_eq_true_eq, accounted.whole.mem_iff, List.mem_append] at member
  rw [← same]
  rcases member.1 with ended | left
  · exact accounted.copied task ended
  · rw [AsyncState.tasks, found, List.map_append, List.map_cons] at left
    by_cases own : task = running.task
    · rw [own]
      exact (accounted.begun running (by simp [found])).ended none
    · refine absurd member.2 (last_alone counted found last ?_)
      simp only [List.map_append, List.mem_append, List.mem_cons, own, false_or] at left ⊢
      tauto

section
variable (env : Env) (cfg : CollectorConfig)

theorem setTaskChunk_cases (tick : Nat) {running : Running} {input : ContiguousBuffer}
    (fits : running.offset + input.byteSize ≤ running.task.deferred.pinnedMemorySize) :
    let transfer := chunkTransfer input (running.task.deferred.pinnedMemory.advance running.offset)
    Tried (setTaskChunk env cfg tick running input).actions
        (setTaskChunk env cfg tick running input).failed transfer ∧
      (copyTaskChunk env cfg tick running input = [] ∨
        ∃ action, copyTaskChunk env cfg tick running input = [action] ∧
          action.effects = [.copy transfer]) := by
  intro transfer
  have fresh : (Collector.create (Sys.workerAt tick) false).toSys.actions = [] := rfl
  simp only [copyTaskChunk, setTaskChunk]
  rw [setInputTensor_direct env cfg _ "pinned async H2H" input running.task.pinnedTensor running.offset
    false fits]
  obtain ⟨copied, outcome, _, answers, _⟩ := directCopy_attempt env cfg
    (Collector.create (Sys.workerAt tick) false) "pinned async H2H" input running.task.pinnedTensor
    running.offset false
  generalize directCopy env cfg _ "pinned async H2H" input _ _ false = result at answers ⊢
  obtain ⟨later, refused, actions, failed⟩ := log_split (reaches_log answers.reaches)
  refine ⟨?_, ?_⟩
  · rw [Sys.actions, Sys.failed, actions, failed]
    exact outcome.tried.mono later refused
  · rw [answers_actions answers]
    cases outcome with
    | host =>
        refine Or.inr ⟨.host (.copy transfer), ?_, rfl⟩
        rw [actions_issue, fresh]
        rfl
    | stream at_ =>
        refine Or.inr ⟨.stream [transfer], ?_, rfl⟩
        rw [actions_issue]
        rfl
    | failed at_ error =>
        refine Or.inl ?_
        rw [actions_note]
        rfl

theorem copyBuffer_device (s : Sys) (msg : String) (srcMemoryType : MemoryType)
    (srcMemoryTypeId dstMemoryTypeId : Int) (byteSize : Nat) (src dst : Address)
    (copyOnStream : Bool) :
    let copied := copyBuffer env s msg srcMemoryType srcMemoryTypeId .gpu dstMemoryTypeId byteSize
      src dst copyOnStream
    copied.cudaUsed = true ∨ copied.error ≠ none := by
  intro copied
  by_cases success : copied.error = none
  · refine Or.inl (Bool.eq_true_of_not_eq_false fun atOnce => ?_)
    exact ((copyBuffer_cudaUsed success).mp atOnce).2.1 rfl
  · exact Or.inr success

theorem finalizeDeferred_device (tick : Nat) {deferred : DeferredPinned}
    (device : deferred.tensorMemoryType = .gpu) :
    (finalizeDeferred env (Sys.workerAt tick) deferred).2.actions = [] ∨
      (finalizeDeferred env (Sys.workerAt tick) deferred).2.actions =
        [.stream [(drainJob deferred).transfer]] := by
  have outcome := copyBuffer_outcome env (Sys.workerAt tick) "pinned buffer" .cpuPinned 0 .gpu
    deferred.tensorMemoryId deferred.pinnedMemorySize deferred.pinnedMemory
    (deferred.tensorBuffer.advance deferred.tensorBufferOffset) false
  have queued := copyBuffer_device env (Sys.workerAt tick) "pinned buffer" .cpuPinned 0
    deferred.tensorMemoryId deferred.pinnedMemorySize deferred.pinnedMemory
    (deferred.tensorBuffer.advance deferred.tensorBufferOffset) false
  simp only [finalizeDeferred, device]
  generalize copyBuffer env _ _ _ _ _ _ _ _ _ _ = copied at outcome queued ⊢
  cases outcome with
  | host => simp at queued
  | stream at_ =>
      refine Or.inr ?_
      simp only [actions_issue]
      rfl
  | failed at_ error =>
      refine Or.inl ?_
      simp only [answers_actions (failAllRequests_answers _ _ _), actions_note]
      rfl

variable {env cfg}

theorem mainStep_accounted {tasks done : List Task} {state state' : AsyncState}
    (step : MainStep state state') (accounted : Accounted tasks done state) :
    Accounted tasks done state' := by
  obtain ⟨whole, finished, copied, begun⟩ := accounted
  cases step with
  | quiet event rest head task get =>
      refine ⟨?_, finished, fun task member => (copied task member).mono _ _,
        fun running member => (begun running member).mono _ _⟩
      simpa [AsyncState.tasks, head, addedTasks_cons, task] using whole
  | add task rest head =>
      refine ⟨?_, finished, copied, ?_⟩
      · simpa [AsyncState.tasks, head, addedTasks_cons, Event.task?, Task.start] using whole
      · intro running member
        rcases List.mem_append.mp member with before | new
        · exact begun running before
        · rw [List.mem_singleton] at new
          rw [new]
          exact ⟨[], rfl, rfl, by simp [AllTried, segmentsFrom, gatherSegments]⟩
  | get result more rest head queue =>
      refine ⟨?_, finished, copied, begun⟩
      simpa [AsyncState.tasks, head, addedTasks_cons, Event.task?] using whole

theorem taskStep_accounted {tick : Nat} {tasks done : List Task} {state state' : AsyncState}
    (step : TaskStep env cfg tick state state') (staged : Staged state)
    (accounted : Accounted tasks done state) : ∃ done, Accounted tasks done state' := by
  obtain ⟨whole, finished, copied, begun⟩ := accounted
  cases step with
  | copy before after running input rest found left =>
      have mine : running.task ∈ state.tasks := by simp [AsyncState.tasks, found]
      have start := begun running (by simp [found])
      have fits := start.fits (staged.stages running.task mine) left
      obtain ⟨tried, _⟩ := setTaskChunk_cases env cfg tick fits
      refine ⟨done, ?_, finished, fun task member => (copied task member).mono _ _, ?_⟩
      · simpa [AsyncState.tasks, found] using whole
      · intro other member
        rcases List.mem_append.mp member with earlier | here
        · exact (begun other (by simp [found, earlier])).mono _ _
        rcases List.mem_cons.mp here with rfl | later
        · obtain ⟨past, split, offset, prior⟩ := start
          refine ⟨past ++ [input], ?_, ?_, ?_⟩
          · simp [split, left]
          · simp [offset, totalByteSize_append, Nat.add_assoc]
          · rw [segmentsFrom_append, allTried_append]
            refine ⟨prior.mono _ _, ?_⟩
            intro transfer member
            simp only [segmentsFrom, gatherSegments, List.map_singleton, List.mem_singleton] at member
            rw [member, ← offset]
            exact tried.after _ _
        · exact (begun other (by simp [found, later])).mono _ _
  | finish before after running idx found erased none =>
      have grown := finishTask_grows env tick state idx running.task
      obtain ⟨later, refused, actions, failed⟩ := grown
      refine ⟨running.task :: done, ?_, ?_, ?_, ?_⟩
      · rw [AsyncState.tasks, finishTask_running, finishTask_pending, erased]
        refine whole.trans ?_
        simp only [AsyncState.tasks, found, List.map_append, List.map_cons, List.append_assoc,
          List.cons_append]
        rw [← List.append_assoc done]
        refine List.perm_middle.trans ?_
        simp
      · intro flush
        simp only [finishTask_finished, finished, List.filter_cons]
        by_cases same : running.task.flush = flush
        · simp [same]
        · simp [same, Ne.symm same]
      · rw [actions, failed]
        intro task member
        rcases List.mem_cons.mp member with rfl | earlier
        · exact ((begun running (by simp [found])).ended none).mono later refused
        · exact (copied task earlier).mono later refused
      · rw [actions, failed, finishTask_running]
        intro other member
        exact (begun other (List.mem_of_mem_eraseIdx member)).mono later refused

/-- A stocked buffer that no task fills any more is copied to the device. -/
theorem Staged.drain {state : AsyncState} (staged : Staged state) (tick : Nat)
    {deferred : DeferredPinned} (device : deferred.tensorMemoryType = .gpu)
    (place : ¬ IsStaging deferred.tensorBuffer.block)
    (stocked : Stocked state.actions state.failed deferred.pinnedMemory deferred.pinnedMemorySize)
    (released : ∀ task ∈ state.tasks,
      task.deferred.pinnedMemory.block ≠ deferred.pinnedMemory.block) :
    Staged { state with
      actions := state.actions ++ (finalizeDeferred env (Sys.workerAt tick) deferred).2.actions } := by
  rcases finalizeDeferred_device env tick device with idle | copied
  · rw [idle, List.append_nil]
    exact staged
  · rw [copied]
    refine staged.extend ⟨?_, fun effect host => by cases host⟩ ?_ ?_
    · intro effect member block read staging write written same
      simp only [Action.effects, List.map_cons, List.map_nil, List.mem_singleton] at written
      subst written
      exact place (same ▸ staging)
    · intro drain member staging
      simp only [Action.effects, List.map_cons, List.map_nil, List.mem_singleton] at member
      cases member
      exact stocked
    · intro effect member block staging read task left
      simp only [Action.effects, List.map_cons, List.map_nil, List.mem_singleton] at member
      subst member
      cases read
      exact released task left

theorem taskStep_staged {tick : Nat} {tasks done : List Task} {flushes blocks : Nat}
    {state state' : AsyncState} (step : TaskStep env cfg tick state state')
    (queued : Queued tasks flushes blocks) (counted : state.Counted)
    (accounted : Accounted tasks done state) (staged : Staged state) : Staged state' := by
  cases step with
  | copy before after running input rest found left =>
      -- as long as the task runs, its block has been read by nobody
      have mine : running.task ∈ state.tasks := by simp [AsyncState.tasks, found]
      have moved : Staged { state with
          running := before ++
            { running with offset := running.offset + input.byteSize, buffers := rest } :: after
          trace := state.trace ++ [.copied running.task.flush]
          failed := state.failed ++ (setTaskChunk env cfg tick running input).failed } := by
        refine staged.shrink (List.Subset.refl _) ?_ rfl rfl
        simp [AsyncState.tasks, found]
      have fits := (accounted.begun running (by simp [found])).fits (staged.stages _ mine) left
      obtain ⟨_, none | ⟨action, one, effects⟩⟩ := setTaskChunk_cases env cfg tick fits
      · rw [none, List.append_nil]
        exact moved
      · rw [one]
        have spares := copy_spares effects (source_direct input)
        refine moved.spare ⟨?_, ?_⟩ spares
        · intro effect member block read staging write written
          rw [effects, List.mem_singleton] at written
          subst written
          rcases List.mem_append.mp member with early | own
          · exact staged.drained effect early block staging read running.task mine
          · exact absurd staging (spares effect own block read)
        · intro effect host block read staging
          subst host
          exact absurd staging (spares effect List.mem_cons_self block read)
  | finish before after running idx found erased none =>
      have mine : running.task ∈ state.tasks := by simp [AsyncState.tasks, found]
      have fewer : (before ++ after).map Running.task ++ addedTasks state.pending ⊆ state.tasks := by
        intro task member
        simp only [AsyncState.tasks, found, List.map_append, List.map_cons, List.mem_append,
          List.mem_cons] at member ⊢
        tauto
      simp only [finishTask]
      split
      -- the counter has come down to the last task, so none is left that fills the block
      next last =>
        have stocked := last_stocked queued counted accounted found none last
        have ended (refused : List (Copy Block)) : Staged { state with
            running := state.running.eraseIdx idx
            finished := fun flush =>
              if flush = running.task.flush then state.finished flush + 1 else state.finished flush
            completions := state.completions ++
              [(finalizeDeferred env (Sys.workerAt tick) running.task.deferred).1]
            trace := state.trace ++ [.finalized running.task.flush]
            failed := state.failed ++ refused } := by
          refine staged.shrink (List.Subset.refl _) ?_ rfl rfl
          rw [AsyncState.tasks, erased]
          exact fewer
        obtain ⟨pinned, _, device, place⟩ := staged.stages running.task mine
        have kept := stocked.mono []
          (finalizeDeferred env (Sys.workerAt tick) running.task.deferred).2.failed
        rw [List.append_nil] at kept
        refine (ended _).drain tick device place kept fun task left same => ?_
        rw [AsyncState.tasks, erased] at left
        exact last_alone counted found last left
          (staged.apart task (fewer left) running.task mine same)
      next =>
        refine staged.shrink (List.Subset.refl _) ?_ rfl (List.append_nil _).symm
        rw [AsyncState.tasks, erased]
        exact fewer

structure Staging (tasks : List Task) (state : AsyncState) : Prop where
  counted : state.Counted
  accounted : ∃ done, Accounted tasks done state
  staged : Staged state

theorem step_staging {tasks : List Task} {flushes blocks : Nat} {state state' : AsyncState}
    (step : state.Step env cfg state') (queued : Queued tasks flushes blocks)
    (staging : Staging tasks state) : Staging tasks state' := by
  obtain ⟨counted, ⟨done, accounted⟩, staged⟩ := staging
  refine ⟨step_counted step counted, ?_, ?_⟩
  · cases step with
    | main _ _ stepped => exact ⟨done, mainStep_accounted (stepMain_cases stepped) accounted⟩
    | task tick idx _ _ stepped => exact taskStep_accounted (stepTask_cases stepped) staged accounted
  · cases step with
    | main _ _ stepped => exact mainStep_staged (stepMain_cases stepped) staged
    | task tick idx _ _ stepped =>
        exact taskStep_staged (stepTask_cases stepped) queued counted accounted staged

theorem runs_staging {tasks : List Task} {flushes blocks : Nat} {state state' : AsyncState}
    (run : state.Runs env cfg state') (queued : Queued tasks flushes blocks)
    (staging : Staging tasks state) : Staging tasks state' := by
  induction run with
  | refl => exact staging
  | tail _ step ih => exact step_staging step queued ih

/-! The start of a run. -/

theorem start_counted {log : List Event} {flushes blocks : Nat}
    (queued : Queued (addedTasks log) flushes blocks) : (AsyncState.start log).Counted := by
  intro flush
  obtain ⟨counter, some, few, counters⟩ := queued.counted flush
  have unfinished : ¬ counter ≤ 0 := Nat.not_le.mpr some
  refine ⟨_, counter, _, few, ⟨?_, ?_, counters, 0, ?_, rfl⟩⟩
  · simp [AsyncState.start, AsyncState.runningOf, AsyncState.waitingOf]
  · intro running member
    simp [AsyncState.start] at member
  · simp [AsyncState.start, AsyncState.eventsOf, unfinished]

theorem start_accounted (log : List Event) :
    Accounted (addedTasks log) [] (AsyncState.start log) := by
  refine ⟨?_, fun _ => rfl, by simp, by simp [AsyncState.start]⟩
  simp [AsyncState.tasks, AsyncState.start]

theorem start_staged {s : Sys} {flushes blocks : Nat}
    (avoids : ∀ action ∈ s.actions, action.Avoids IsStaging)
    (queued : Queued (addedTasks s.log) flushes blocks) : Staged (AsyncState.start s.log) := by
  have tasks : (AsyncState.start s.log).tasks = addedTasks s.log := by
    simp [AsyncState.tasks, AsyncState.start]
  constructor
  · exact readsLanded_nil _
  · intro before action after split
    simp [AsyncState.start] at split
  · intro event member action found
    exact avoids action (List.mem_filterMap.mpr ⟨event, member, found⟩)
  · rw [tasks]
    exact queued.stages
  · rw [tasks]
    exact queued.apart
  · intro effect member
    simp [AsyncState.start] at member

theorem start_staging {s : Sys} {flushes blocks : Nat}
    (avoids : ∀ action ∈ s.actions, action.Avoids IsStaging)
    (queued : Queued (addedTasks s.log) flushes blocks) :
    Staging (addedTasks s.log) (AsyncState.start s.log) :=
  ⟨start_counted queued, ⟨[], start_accounted s.log⟩, start_staged avoids queued⟩

theorem start_replays (s : Sys) (noTask : addedTasks s.log = []) :
    Replays s.log (AsyncState.start s.log) :=
  ⟨rfl, noTask, [], rfl, rfl, rfl⟩

end

section
variable (env : Env) (cfg : CollectorConfig)

/-- The calls, `Finalize` and its synchronization, with the tasks in any order. -/
def PinnedInOrder (s : Sys) (bufferReadyEvent : Bool) (calls : List TensorCall) : Prop :=
  ∀ state, (AsyncState.start (gatherAndFinalize env cfg s bufferReadyEvent calls).log).Runs env cfg
    state → StagedFirst state.actions state.failed

theorem pinnedInOrder_of_stagesInOrder (kernel : env.runGatherKernel = tritonGatherKernel) {s : Sys}
    (fresh : s.log = []) (bufferReadyEvent : Bool) {calls : List TensorCall}
    (placed : ∀ call ∈ calls, call.tensor.Placed s)
    (ordered : ∀ call ∈ calls, ∀ before input after, call.chunks = before ++ input :: after →
      StagesInOrder cfg call.tensor (totalByteSize before) input) :
    PinnedInOrder env cfg s bufferReadyEvent calls := by
  have performs (group : List ContiguousBuffer) : Performs env False group :=
    tritonGatherKernel_performs env False kernel group False.elim
  obtain ⟨avoids, ⟨flushes, blocks, queued⟩, noTask, reads⟩ := gatherAndFinalize_dispatches performs
    fresh bufferReadyEvent (fun call member => (placed call member).direct) ordered
  intro state run
  cases mode : cfg.useAsyncCpuCopy with
  | true =>
      have staging := runs_staging run queued (start_staging (avoids mode) queued)
      exact stagedFirst_of_readsLanded staging.staged.full staging.staged.landed
  | false =>
      have replays := runs_replays run (start_replays _ (noTask mode))
      obtain ⟨carries, _⟩ := gatherAndFinalize_carries env cfg False mode fresh bufferReadyEvent placed
        fun _ _ launch _ _ => performs launch.1
      have timed := timed_steps carries (callJobs_numbered fresh placed) (fresh_timed fresh _)
      refine stagedFirst_of_readsLanded (replays.full reads) ?_
      obtain ⟨past, split, actions, _⟩ := replays.past
      refine @readsLanded_of_append _ _ _ _ _ (state.pending.filterMap Event.action?) ?_
      rw [actions, ← List.filterMap_append, ← split]
      exact timed.landed

/-- Steps in a given order: `none` is the main thread, `some idx` the task in place `idx`. -/
def AsyncState.follow (state : AsyncState) : List (Option Nat) → Option AsyncState
  | [] => some state
  | none :: rest => state.stepMain.bind fun next => next.follow rest
  | some idx :: rest => (state.stepTask env cfg 0 idx).bind fun next => next.follow rest

theorem follow_runs {state state' : AsyncState} {order : List (Option Nat)}
    (followed : state.follow env cfg order = some state') : state.Runs env cfg state' := by
  induction order generalizing state with
  | nil =>
      cases followed
      exact Relation.ReflTransGen.refl
  | cons step rest ih =>
      cases step with
      | none =>
          obtain ⟨next, stepped, later⟩ := Option.bind_eq_some_iff.mp followed
          exact Relation.ReflTransGen.head (AsyncState.Step.main state next stepped) (ih later)
      | some idx =>
          obtain ⟨next, stepped, later⟩ := Option.bind_eq_some_iff.mp followed
          exact Relation.ReflTransGen.head (AsyncState.Step.task 0 idx state next stepped) (ih later)

end

def hostCall (memoryType : MemoryType) : TensorCall := {
  inputName := "INPUT"
  tensor := { gpuTensor 8 with memoryType := .cpu }
  chunks := [requestChunk 0 4096 4 memoryType, requestChunk 1 8192 4 memoryType] }

theorem pinnedInOrder_device :
    PinnedInOrder (Env.successful tritonGatherKernel) twoWorkers (Sys.fresh 2) false
      [gpuCall (hostCall .cpu).chunks] := by
  refine pinnedInOrder_of_stagesInOrder _ _ rfl rfl false ?_ ?_
  · intro call member
    rw [List.mem_singleton] at member
    subst member
    exact Tensor.Supplied.placed ⟨0, rfl⟩ _
  · intro call member before input after split async host
    rw [List.mem_singleton] at member
    subst member
    exact absurd rfl host

/-- Both chunks are still on the stream when the last task copies the buffer on the host. -/
theorem not_pinnedInOrder_host :
    ¬ PinnedInOrder (Env.successful tritonGatherKernel) twoWorkers (Sys.fresh 2) false
      [hostCall .gpu] := by
  intro ordered
  let start := AsyncState.start (gatherAndFinalize (Env.successful tritonGatherKernel) twoWorkers
    (Sys.fresh 2) false [hostCall .gpu]).log
  let order : List (Option Nat) :=
    [none, none, none, none, some 0, some 0, some 0, some 0]
  let fills : List (Action Block UInt8) := [
    .stream [chunkTransfer (requestChunk 0 4096 4 .gpu) (stagingAddress 0)],
    .stream [chunkTransfer (requestChunk 1 8192 4 .gpu) ((stagingAddress 0).advance 4)]]
  let drain : Copy Block := {
    source := stagingAddress 0
    target := { block := .tensor 0, offset := 0 }
    byteSize := 8 }
  have copies : (start.follow (Env.successful tritonGatherKernel) twoWorkers order).map
      AsyncState.actions = some (fills ++ [.host (.copy drain)]) := by decide +kernel
  obtain ⟨state, followed, actions⟩ := Option.map_eq_some_iff.mp copies
  exact (ordered state (follow_runs _ _ followed)).landed fills drain [] actions ⟨0, rfl⟩
    (chunkTransfer (requestChunk 0 4096 4 .gpu) (stagingAddress 0)) (by decide +kernel) rfl

end TritonBackend
