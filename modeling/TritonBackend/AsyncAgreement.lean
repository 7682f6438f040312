import TritonBackend.AsyncEnlisted

/-!
Every order of the workers gathers what a collector without them gathers. The main thread's
log and the tasks in it owe the copies of the plan; a run only moves them from owed to issued.
When `Finalize` has read all completions nothing is owed any more, and the wait behind it
covers whatever is still on the stream.
-/

namespace TritonBackend

open CopyStream

/-! A run moves copies from owed to issued. -/

def Running.fills (running : Running) : List (Effect Block UInt8) :=
  chunkCopies running.task.deferred.pinnedMemory running.task.deferred.pinnedMemorySize
    running.offset running.buffers

/-- What has been issued and what the main thread and the tasks have still to issue, the copies
out of the blocks apart. -/
def AsyncState.owes (state : AsyncState) : List (Effect Block UInt8) :=
  issued state.actions ++ (issued (state.pending.filterMap Event.action?) ++
    (state.running.flatMap Running.fills ++ (addedTasks state.pending).flatMap Task.fills))

def blockDrain (blocks : List DeferredPinned) (flush : Nat) : List (Effect Block UInt8) :=
  blocks[flush]?.toList.flatMap drainCopy

structure AsyncState.Conserves (whole : List (Effect Block UInt8)) (blocks : List DeferredPinned)
    (state : AsyncState) : Prop where
  owed : state.owes.Perm (whole ++ state.puts.flatMap (blockDrain blocks))
  booked : ∀ task ∈ state.tasks, blocks[task.flush]? = some task.deferred

section
variable {env : Env} (calls : ∀ tick api, env.outcome tick api = none) {cfg : CollectorConfig}
  {whole : List (Effect Block UInt8)} {blocks : List DeferredPinned}

theorem mainStep_conserves {state state' : AsyncState} (step : MainStep state state')
    (conserves : state.Conserves whole blocks) : state'.Conserves whole blocks := by
  obtain ⟨owed, booked⟩ := conserves
  simp only [AsyncState.owes, AsyncState.tasks] at owed booked
  cases step with
  | quiet event rest head task get =>
      simp only [head, addedTasks_cons, task, Option.toList_none, List.nil_append] at owed booked
      refine ⟨?_, booked⟩
      have split : issued ((event :: rest).filterMap Event.action?) =
          issued event.action?.toList ++ issued (rest.filterMap Event.action?) := by
        cases found : event.action? <;> simp [found]
      simpa [AsyncState.owes, AsyncState.puts, split] using owed
  | add task rest head =>
      have silent : (Event.addTask task).action? = none := rfl
      have some : (Event.addTask task).task? = some task := rfl
      simp only [head, List.filterMap_cons, silent, addedTasks_cons, some, Option.toList_some] at owed booked
      refine ⟨?_, ?_⟩
      · have same : task.start.fills = task.fills := rfl
        simpa [AsyncState.owes, AsyncState.puts, same] using owed
      · intro other member
        refine booked other ?_
        simpa [AsyncState.tasks, Task.start] using member
  | get result more rest head queue =>
      have silent : Event.getCompletion.action? = none := rfl
      have none : Event.getCompletion.task? = none := rfl
      simp only [head, List.filterMap_cons, silent, addedTasks_cons, none, Option.toList_none,
        List.nil_append] at owed booked
      exact ⟨owed, booked⟩

include calls

theorem copyTaskChunk_issued (tick : Nat) (running : Running) (input : ContiguousBuffer) :
    issued (copyTaskChunk env cfg tick running input) =
      chunkCopy running.task.deferred.pinnedMemory running.task.deferred.pinnedMemorySize
        running.offset input :=
  (setInputTensor_makes calls cfg (Collector.create (Sys.workerAt tick) false) "pinned async H2H"
    input running.task.pinnedTensor running.offset false).issued

theorem taskStep_conserves {tick : Nat} {state state' : AsyncState}
    (step : TaskStep env cfg tick state state') (conserves : state.Conserves whole blocks) :
    state'.Conserves whole blocks := by
  obtain ⟨owed, booked⟩ := conserves
  cases step with
  | copy before after running input rest found left =>
      refine ⟨?_, ?_⟩
      · have none : [TaskEvent.copied running.task.flush].filterMap TaskEvent.finalized? = [] := rfl
        have fills : running.fills = chunkCopy running.task.deferred.pinnedMemory
            running.task.deferred.pinnedMemorySize running.offset input ++
              Running.fills
                { running with offset := running.offset + input.byteSize, buffers := rest } := by
          simp [Running.fills, left, chunkCopies]
        simp only [AsyncState.owes, AsyncState.puts, found, List.flatMap_append, List.flatMap_cons, fills,
          List.filterMap_append, none, List.append_nil, issued_append, copyTaskChunk_issued calls]
          at owed ⊢
        refine List.Perm.trans ?_ owed
        simp only [List.append_assoc]
        refine List.Perm.append_left _ ((List.perm_append_comm_assoc _ _ _).trans ?_)
        exact (List.perm_append_comm_assoc _ _ _).append_left _
      · intro task member
        exact booked task (by simpa [AsyncState.tasks, found] using member)
  | finish before after running idx found erased none =>
      have ended : running.fills = [] := by simp [Running.fills, none, chunkCopies]
      have mine := booked running.task (by simp [AsyncState.tasks, found])
      have fewer (task : Task)
          (member : task ∈ (before ++ after).map Running.task ++ addedTasks state.pending) :
          blocks[task.flush]? = some task.deferred := by
        refine booked task ?_
        simp only [AsyncState.tasks, found, List.map_append, List.map_cons, List.mem_append,
          List.mem_cons] at member ⊢
        tauto
      simp only [AsyncState.owes, AsyncState.puts, found, List.flatMap_append, List.flatMap_cons,
        ended, List.nil_append] at owed
      simp only [finishTask]
      split
      next last =>
        have drained := (finalizeDeferred_makes calls (Sys.workerAt tick) running.task.deferred).issued
        have fresh : issued (Sys.workerAt tick).actions = [] := rfl
        have put : [TaskEvent.finalized running.task.flush].filterMap TaskEvent.finalized? =
            [running.task.flush] := rfl
        have drain : blockDrain blocks running.task.flush = drainCopy running.task.deferred := by
          simp [blockDrain, mine]
        rw [fresh, List.nil_append] at drained
        refine ⟨?_, fun task member => fewer task (by simpa [AsyncState.tasks, erased] using member)⟩
        simp only [AsyncState.owes, AsyncState.puts, erased, List.flatMap_append, List.filterMap_append,
          put, List.flatMap_cons, List.flatMap_nil, List.append_nil, drain, issued_append, drained]
        have moved := owed.append_right (drainCopy running.task.deferred)
        refine List.Perm.trans ?_ (moved.trans ?_)
        · simp only [List.append_assoc]
          refine List.Perm.append_left _ ?_
          refine List.perm_append_comm.trans ?_
          simp only [List.append_assoc]
          exact List.Perm.refl _
        · rw [List.append_assoc]
      next =>
        refine ⟨?_, fun task member => fewer task (by simpa [AsyncState.tasks, erased] using member)⟩
        simpa [AsyncState.owes, AsyncState.puts, erased] using owed

theorem runs_conserves {state state' : AsyncState} (run : state.Runs env cfg state')
    (conserves : state.Conserves whole blocks) : state'.Conserves whole blocks := by
  induction run with
  | refl => exact conserves
  | tail _ step ih =>
      cases step with
      | main _ _ stepped => exact mainStep_conserves (stepMain_cases stepped) ih
      | task tick idx _ _ stepped => exact taskStep_conserves calls (stepTask_cases stepped) ih

end

/-! Once no completion is left to be read, every flush has been finalized. -/

def AsyncState.Balanced (state : AsyncState) (gets : Nat) : Prop :=
  state.completions.length + gets = state.puts.length + state.pending.countP Event.isGet

theorem step_balanced {env : Env} {cfg : CollectorConfig} {state state' : AsyncState} {gets : Nat}
    (step : state.Step env cfg state') (balanced : state.Balanced gets) : state'.Balanced gets := by
  rw [AsyncState.Balanced] at balanced ⊢
  cases step with
  | main _ _ stepped =>
      cases stepMain_cases stepped with
      | quiet event rest head task get => simpa [AsyncState.puts, head, get] using balanced
      | add task rest head => simpa [AsyncState.puts, head, Event.isGet] using balanced
      | get result more rest head queue =>
          simp only [AsyncState.puts, head, queue, List.length_cons, List.countP_cons, Event.isGet,
            if_true] at balanced ⊢
          omega
  | task tick idx _ _ stepped =>
      cases stepTask_cases stepped with
      | copy before after running input rest found left =>
          have none : [TaskEvent.copied running.task.flush].filterMap TaskEvent.finalized? = [] := rfl
          simpa [AsyncState.puts, none] using balanced
      | finish before after running idx found erased none =>
          have put : [TaskEvent.finalized running.task.flush].filterMap TaskEvent.finalized? =
              [running.task.flush] := rfl
          simp only [finishTask]
          split
          · simp only [AsyncState.puts, List.filterMap_append, put, List.length_append,
              List.length_singleton] at balanced ⊢
            omega
          · exact balanced

theorem progress_count {state : AsyncState} {flush total counter chunks : Nat}
    (progress : FlushProgress state flush total counter chunks) :
    state.puts.count flush = if counter ≤ state.finished flush then 1 else 0 := by
  obtain ⟨copied, events, _⟩ := progress.traced
  have quiet : (List.replicate copied (TaskEvent.copied flush)).filterMap TaskEvent.finalized? = [] := by
    simp [List.filterMap_eq_nil_iff, TaskEvent.finalized?]
  rw [puts_count, events, List.filterMap_append, quiet, List.nil_append]
  split <;> rfl

/-- What is left of the run when the main thread has read a completion for each flush. -/
theorem drained_of_read {state : AsyncState} {count : Nat} (counted : state.Counted)
    (bound : FlushBound state count) (balanced : state.Balanced count)
    (read : state.pending.countP Event.isGet = 0) :
    state.running = [] ∧ addedTasks state.pending = [] ∧ state.puts.Perm (List.range count) := by
  have once : state.puts.Nodup := by
    refine List.nodup_iff_count_le_one.mpr fun flush => ?_
    obtain ⟨_, _, _, _, progress⟩ := counted flush
    rw [progress_count progress]
    split <;> omega
  have inside : state.puts ⊆ List.range count := by
    intro flush member
    obtain ⟨event, traced, found⟩ := List.mem_filterMap.mp member
    have below := bound.traced event traced
    cases event with
    | copied other => simp [TaskEvent.finalized?] at found
    | finalized other =>
        simp only [TaskEvent.finalized?, Option.some.injEq] at found
        rw [← found]
        exact List.mem_range.mpr below
  have perm : state.puts.Perm (List.range count) := by
    refine (List.subperm_of_subset once inside).perm_of_length_le ?_
    rw [AsyncState.Balanced, read] at balanced
    rw [List.length_range]
    omega
  -- a flush that has been finalized has no task left
  have ended (flush total counter chunks : Nat) (below : flush < count)
      (progress : FlushProgress state flush total counter chunks) : counter ≤ state.finished flush := by
    have put : 0 < state.puts.count flush :=
      List.count_pos_iff.mpr (perm.mem_iff.mpr (List.mem_range.mpr below))
    rw [progress_count progress] at put
    by_contra unfinished
    rw [if_neg unfinished] at put
    exact Nat.lt_irrefl 0 put
  refine ⟨List.eq_nil_iff_forall_not_mem.mpr ?_, List.eq_nil_iff_forall_not_mem.mpr ?_, perm⟩
  · intro running member
    obtain ⟨total, counter, chunks, few, progress⟩ := counted running.task.flush
    exact absurd (ended _ _ _ _ (bound.running running member) progress)
      (Nat.not_le.mpr (finished_lt progress few member rfl))
  · intro task member
    obtain ⟨total, counter, chunks, few, progress⟩ := counted task.flush
    have waits : 0 < (state.waitingOf task.flush).length :=
      List.length_pos_of_mem (List.mem_filter.mpr ⟨member, by simp⟩)
    have all := progress.counted
    have done := ended _ _ _ _ (bound.waiting task member) progress
    omega

/-! The wait behind the completions. -/

/-- The main thread has a completion to read, or has the wait before it with all tasks ended,
or has waited. -/
inductive AsyncState.Closes (cfg : CollectorConfig) (state : AsyncState) : Prop
  | reading (front : List Event) (left : state.pending = front ++ .getCompletion :: closingEvents cfg)
  | closing (left : state.pending = closingEvents cfg)
  | recorded (left : state.pending = [.device .awaitEvent])
      (covered : (Device.fresh.run state.actions).recorded =
      (Device.fresh.run state.actions).queue.length)
  | closed (left : state.pending = []) (settled : (Device.fresh.run state.actions).queue = [])

theorem closingEvents_gets (cfg : CollectorConfig) :
    (closingEvents cfg).countP Event.isGet = 0 := by
  rw [closingEvents]
  split <;> rfl

theorem mainStep_closes {cfg : CollectorConfig} {state state' : AsyncState}
    (stepped : state.stepMain = some state') (closes : state.Closes cfg) : state'.Closes cfg := by
  cases closes with
  | reading front left =>
      cases front with
      | nil =>
          cases stepMain_cases stepped with
          | quiet event rest head task get =>
              rw [left, List.nil_append, List.cons.injEq] at head
              rw [← head.1] at get
              cases get
          | add task rest head =>
              rw [left, List.nil_append, List.cons.injEq] at head
              cases head.1
          | get result more rest head queue =>
              rw [left, List.nil_append, List.cons.injEq] at head
              exact AsyncState.Closes.closing head.2.symm
      | cons first front =>
          cases stepMain_cases stepped with
          | quiet event rest head task get =>
              rw [left, List.cons_append, List.cons.injEq] at head
              exact AsyncState.Closes.reading front head.2.symm
          | add task rest head =>
              rw [left, List.cons_append, List.cons.injEq] at head
              exact AsyncState.Closes.reading front head.2.symm
          | get result more rest head queue =>
              rw [left, List.cons_append, List.cons.injEq] at head
              exact AsyncState.Closes.reading front head.2.symm
  | closing left =>
      cases event : cfg.event with
      | true =>
          simp only [closingEvents, event, if_true] at left
          simp only [AsyncState.stepMain, left, Option.some.injEq] at stepped
          subst stepped
          exact AsyncState.Closes.recorded rfl (by rw [run_concat]; rfl)
      | false =>
          simp only [closingEvents, event, Bool.false_eq_true, if_false] at left
          simp only [AsyncState.stepMain, left, Option.some.injEq] at stepped
          subst stepped
          exact AsyncState.Closes.closed rfl (by rw [run_concat]; rfl)
  | recorded left covered =>
      simp only [AsyncState.stepMain, left, Option.some.injEq] at stepped
      subst stepped
      refine AsyncState.Closes.closed rfl ?_
      simp only [run_concat, Device.step, covered, List.drop_length]
  | closed left settled =>
      simp [AsyncState.stepMain, left] at stepped

theorem taskStep_closes {env : Env} {cfg : CollectorConfig} {tick : Nat} {state state' : AsyncState}
    (step : TaskStep env cfg tick state state') (closes : state.Closes cfg)
    (idle : state.pending.countP Event.isGet = 0 → state.running = []) : state'.Closes cfg := by
  have busy : state.running ≠ [] := by
    cases step with
    | copy before after running input rest found left => simp [found]
    | finish before after running idx found erased none => simp [found]
  have same : state'.pending = state.pending := by
    cases step with
    | copy before after running input rest found left => rfl
    | finish before after running idx found erased none => exact finishTask_pending _ _ _ _ _
  cases closes with
  | reading front left => exact AsyncState.Closes.reading front (same.trans left)
  | closing left => exact absurd (idle (by rw [left, closingEvents_gets])) busy
  | recorded left covered => exact absurd (idle (by rw [left]; rfl)) busy
  | closed left settled => exact absurd (idle (by rw [left]; rfl)) busy

/-- What a run keeps that the main thread ends with a `Get` for each of `count` flushes. -/
structure AsyncState.Ends (cfg : CollectorConfig) (count : Nat) (state : AsyncState) : Prop where
  counted : state.Counted
  bound : FlushBound state count
  balanced : state.Balanced count
  closes : state.Closes cfg

theorem runs_ends {env : Env} {cfg : CollectorConfig} {count : Nat} {state state' : AsyncState}
    (run : state.Runs env cfg state') (ends : state.Ends cfg count) : state'.Ends cfg count := by
  induction run with
  | refl => exact ends
  | tail _ step ih =>
      refine ⟨step_counted step ih.counted, step_bound env cfg step ih.bound,
        step_balanced step ih.balanced, ?_⟩
      cases step with
      | main _ _ stepped => exact mainStep_closes stepped ih.closes
      | task tick idx _ _ stepped =>
          exact taskStep_closes (stepTask_cases stepped) ih.closes fun read =>
            (drained_of_read ih.counted ih.bound ih.balanced read).1

/-! What the main threads come to owe. -/

theorem create_follows {s : Sys} (fresh : s.log = []) (bufferReadyEvent : Bool) :
    (Collector.create s bufferReadyEvent).Follows
      (GatherPlan.start (Collector.create s bufferReadyEvent)) := by
  refine ⟨?_, rfl, rfl⟩
  simp [Collector.owes, Collector.create, Sys.actions, addedTasks, fresh, GatherPlan.start]

theorem range_blockDrain (blocks : List DeferredPinned) :
    (List.range blocks.length).flatMap (blockDrain blocks) = blocks.flatMap drainCopy := by
  induction blocks with
  | nil => rfl
  | cons deferred rest ih =>
      have later : ∀ flush, blockDrain (deferred :: rest) (flush + 1) = blockDrain rest flush :=
        fun flush => rfl
      rw [List.length_cons, List.range_succ_eq_map, List.flatMap_cons, List.flatMap_map, List.flatMap_cons]
      simp only [later, ih]
      simp [blockDrain]

section
variable {env : Env} (calls : ∀ tick api, env.outcome tick api = none)

theorem synchronize_makes (cfg : CollectorConfig) (c : Collector) (needSync : Bool) :
    c.toSys.Makes [] (synchronize cfg c needSync) := by
  rw [synchronize]
  split
  · have made := Sys.Makes.issue c.toSys (if cfg.event then .awaitEvent else .awaitStream) c.tick
    have none : (if cfg.event then (.awaitEvent : Action Block UInt8) else .awaitStream).effects = [] := by
      split <;> rfl
    rwa [none] at made
  · exact Sys.Makes.refl _

theorem recordEvent_makes (cfg : CollectorConfig) (c : Collector) :
    c.toSys.Makes [] (c.recordEvent cfg).toSys := by
  rw [Collector.recordEvent]
  split
  · exact Sys.Makes.issue c.toSys .record c.tick
  · exact Sys.Makes.refl _

include calls in
theorem finalizeAll_makes (c : Collector) (blocks : List DeferredPinned)
    (unfinished : ∀ deferred ∈ blocks, deferred.finalized = false) :
    c.toSys.Makes (blocks.flatMap drainCopy) (finalizeAll env c blocks).toSys ∧
      (finalizeAll env c blocks).asyncTaskCount = c.asyncTaskCount := by
  induction blocks generalizing c with
  | nil => exact ⟨Sys.Makes.refl _, rfl⟩
  | cons deferred rest ih =>
      simp only [finalizeAll, unfinished deferred List.mem_cons_self, Bool.false_eq_true, if_false]
      obtain ⟨later, count⟩ := ih (orSync ((finalizeDeferred env c.toSys deferred).1,
        c.withSys (finalizeDeferred env c.toSys deferred).2))
        fun other member => unfinished other (List.mem_cons_of_mem _ member)
      exact ⟨(finalizeDeferred_makes calls c.toSys deferred).trans later, count⟩

include calls in
theorem finalize_owes (cfg : CollectorConfig) {c : Collector} (tidy : c.Tidy 0)
    (noTask : addedTasks c.log = []) :
    issued (synchronize cfg (finalize env cfg c).2 (finalize env cfg c).1).actions = c.owes := by
  have waited : c.toSys.Makes [] (waitDeferred cfg c).waitBufferReady.toSys ∧
      (waitDeferred cfg c).waitBufferReady.deferredPinned = c.deferredPinned ∧
      (waitDeferred cfg c).waitBufferReady.asyncTaskCount = 0 := by
    have groups := sameGroups_waitBufferReady (waitDeferred cfg c)
    refine ⟨?_, ?_, ?_⟩
    · rw [toSys_waitBufferReady, waitDeferred]
      split
      · exact synchronize_makes cfg c true
      · exact Sys.Makes.refl _
    · rw [groups, waitDeferred]
      split <;> rfl
    · rw [groups, waitDeferred]
      split <;> exact tidy.alone
  simp only [finalize]
  generalize (waitDeferred cfg c).waitBufferReady = ready at waited ⊢
  obtain ⟨makes, deferred, alone⟩ := waited
  obtain ⟨drained, count⟩ := finalizeAll_makes calls ready ready.deferredPinned fun block member =>
    (tidy.drains block (deferred ▸ member)).1
  rw [alone] at count
  generalize finalizeAll env ready ready.deferredPinned = after at drained count ⊢
  simp only [count, getCompletions]
  have closed : after.toSys.Makes []
      (if !after.deferredPinned.isEmpty then after.recordEvent cfg else after).toSys := by
    split
    · exact recordEvent_makes cfg after
    · exact Sys.Makes.refl _
  have whole := ((makes.trans drained).trans closed).trans (synchronize_makes cfg _
    (if !after.deferredPinned.isEmpty then after.recordEvent cfg else after).needSync)
  rw [whole.issued, Collector.owes, noTask, deferred]
  simp

end

theorem waits_tasks {events : List Event} (waits : Waits events) : addedTasks events = [] := by
  refine List.filterMap_eq_nil_iff.mpr fun event member => ?_
  obtain ⟨action, rfl, _⟩ := waits event member
  rfl

theorem waits_gets {events : List Event} (waits : Waits events) : events.countP Event.isGet = 0 := by
  refine List.countP_eq_zero.mpr fun event member => ?_
  obtain ⟨action, rfl, _⟩ := waits event member
  simp [Event.isGet]

theorem waits_issued {events : List Event} (waits : Waits events) :
    issued (events.filterMap Event.action?) = [] := by
  refine List.flatMap_eq_nil_iff.mpr fun action member => ?_
  obtain ⟨event, present, found⟩ := List.mem_filterMap.mp member
  obtain ⟨own, rfl, none⟩ := waits event present
  cases found
  exact none

theorem gets_quiet (count : Nat) :
    (List.replicate count Event.getCompletion).filterMap Event.action? = [] ∧
      addedTasks (List.replicate count .getCompletion) = [] := by
  constructor <;> refine List.filterMap_eq_nil_iff.mpr fun event member => ?_
  · rw [List.eq_of_mem_replicate member]
    rfl
  · rw [List.eq_of_mem_replicate member]
    rfl

theorem closingEvents_waits (cfg : CollectorConfig) : Waits (closingEvents cfg) := by
  intro event member
  rw [closingEvents] at member
  split at member
  · rcases List.mem_cons.mp member with rfl | last
    · exact ⟨_, rfl, rfl⟩
    · exact ⟨_, List.mem_singleton.mp last, rfl⟩
  · exact ⟨_, List.mem_singleton.mp member, rfl⟩

section
variable {env : Env} (calls : ∀ tick api, env.outcome tick api = none)
  (accepted : ∀ tick, (env.addTask tick).code = .success)
  (read : ∀ tick, env.completion tick = true)

include calls

/-- A collector that has one `Get` for each of its flushes behind its calls, run to the end. -/
theorem closed_issues {cfg : CollectorConfig} {c : Collector} (enlists : c.Enlists)
    {flushes blocks : Nat} (queued : Queued (addedTasks c.log) flushes blocks)
    (some : 0 < c.asyncTaskCount) {waits : List Event} (only : Waits waits) {state : AsyncState}
    (run : (AsyncState.start ((c.log ++ waits) ++ (List.replicate c.asyncTaskCount .getCompletion ++
      closingEvents cfg))).Runs env cfg state) (done : state.pending = []) :
    state.running = [] ∧ (Device.fresh.run state.actions).queue = [] ∧
      (issued state.actions).Perm c.owes := by
  generalize whole : (c.log ++ waits) ++
    (List.replicate c.asyncTaskCount .getCompletion ++ closingEvents cfg) = log at run
  have tasks : addedTasks log = addedTasks c.log := by
    rw [← whole, addedTasks_append, addedTasks_append, addedTasks_append, waits_tasks only,
      (gets_quiet _).2, waits_tasks (closingEvents_waits cfg)]
    simp
  have gets : log.countP Event.isGet = c.asyncTaskCount := by
    rw [← whole, List.countP_append, List.countP_append, List.countP_append, enlists.gets,
      waits_gets only, closingEvents_gets]
    simp [List.countP_replicate, Event.isGet]
  have own : issued (log.filterMap Event.action?) = issued c.actions := by
    rw [← whole, List.filterMap_append, List.filterMap_append, List.filterMap_append, (gets_quiet _).1]
    simp only [issued_append, waits_issued only, waits_issued (closingEvents_waits cfg), List.append_nil,
      issued_nil]
    rfl
  have below (task : Task) (member : task ∈ addedTasks c.log) : task.flush < c.asyncTaskCount := by
    rw [← enlists.counted]
    exact (List.getElem?_eq_some_iff.mp (enlists.booked task member)).1
  have ends : (AsyncState.start log).Ends cfg c.asyncTaskCount := by
    refine ⟨start_counted (tasks ▸ queued), ⟨?_, by simp [AsyncState.start], by simp [AsyncState.start]⟩,
      ?_, ?_⟩
    · intro task member
      exact below task (tasks ▸ member)
    · simp [AsyncState.Balanced, AsyncState.start, AsyncState.puts, gets]
    · refine AsyncState.Closes.reading
        ((c.log ++ waits) ++ List.replicate (c.asyncTaskCount - 1) .getCompletion) ?_
      have last : List.replicate c.asyncTaskCount Event.getCompletion =
          List.replicate (c.asyncTaskCount - 1) .getCompletion ++ [.getCompletion] := by
        rw [← List.replicate_succ', Nat.sub_add_cancel some]
      simp only [AsyncState.start, ← whole, last, List.append_assoc, List.cons_append, List.nil_append]
  obtain ⟨counted, bound, balanced, closes⟩ := runs_ends run ends
  obtain ⟨idle, _, puts⟩ := drained_of_read counted bound balanced (by rw [done]; rfl)
  refine ⟨idle, ?_, ?_⟩
  · cases closes with
    | reading front left => simp [done] at left
    | closing left =>
        rw [done, closingEvents] at left
        split at left <;> cases left
    | recorded left covered => simp [done] at left
    | closed left settled => exact settled
  · have conserves : (AsyncState.start log).Conserves
        (issued c.actions ++ (addedTasks c.log).flatMap Task.fills) c.deferredPinned := by
      refine ⟨?_, ?_⟩
      · simp [AsyncState.owes, AsyncState.start, AsyncState.puts, own, tasks]
      · intro task member
        refine enlists.booked task ?_
        simpa [AsyncState.tasks, AsyncState.start, tasks] using member
    have moved := (runs_conserves calls run conserves).owed
    have drained := puts.flatMap_right (blockDrain c.deferredPinned)
    rw [← enlists.counted, range_blockDrain] at drained
    simp only [AsyncState.owes, done, idle] at moved
    refine List.Perm.trans (by simp [addedTasks]) (moved.trans ((drained.append_left _).trans ?_))
    rw [Collector.owes, List.append_assoc]

omit calls in
theorem alone_issues {cfg : CollectorConfig} {c : Collector} (enlists : c.Enlists)
    (none : c.asyncTaskCount = 0) {s : Sys} {waits : List Event} (only : Waits waits)
    (log : s.log = c.log ++ waits) (settled : s.device.queue = []) {state : AsyncState}
    (run : (AsyncState.start s.log).Runs env cfg state) (done : state.pending = []) :
    state.running = [] ∧ (Device.fresh.run state.actions).queue = [] ∧
      (issued state.actions).Perm c.owes := by
  have empty : c.deferredPinned = [] := List.eq_nil_of_length_eq_zero (enlists.counted.trans none)
  have noTask : addedTasks c.log = [] := by
    refine List.eq_nil_iff_forall_not_mem.mpr fun task member => ?_
    have booked := enlists.booked task member
    simp [empty] at booked
  have replays := runs_replays run (start_replays s (by
    rw [log, addedTasks_append, noTask, waits_tasks only, List.append_nil]))
  have same : state.actions = s.actions := by
    obtain ⟨past, split, actions, _⟩ := replays.past
    rw [done, List.append_nil] at split
    rw [actions, ← split, Sys.actions]
  refine ⟨replays.idle, ?_, ?_⟩
  · rw [same]
    exact settled
  · have own : issued s.actions = issued c.actions := by
      rw [Sys.actions, log, List.filterMap_append, issued_append, waits_issued only, List.append_nil]
      rfl
    rw [same, own, Collector.owes, noTask, empty]
    simp

include accepted read in
theorem runs_issue (kernel : env.runGatherKernel = tritonGatherKernel) {cfg : CollectorConfig}
    (async : cfg.useAsyncCpuCopy = true) {s : Sys} (fresh : s.log = []) (bufferReadyEvent : Bool)
    {tensorCalls : List TensorCall} (placed : ∀ call ∈ tensorCalls, call.tensor.Placed s)
    (ordered : ∀ call ∈ tensorCalls, ∀ before input after, call.chunks = before ++ input :: after →
      StagesInOrder cfg call.tensor (totalByteSize before) input) {state : AsyncState}
    (run : (AsyncState.start (gatherAndFinalize env cfg s bufferReadyEvent tensorCalls).log).Runs env
      cfg state) (done : state.pending = []) :
    state.running = [] ∧ (Device.fresh.run state.actions).queue = [] ∧
      (issued state.actions).Perm
        (gatherTensors env cfg (Collector.create s bufferReadyEvent) tensorCalls).owes := by
  have performs (group : List ContiguousBuffer) : Performs env False group :=
    tritonGatherKernel_performs env False kernel group False.elim
  have idle : addedTasks (Collector.create s bufferReadyEvent).log = [] := by
    simp [Collector.create, fresh, addedTasks]
  have queued := (gatherTensors_dispatches performs (create_dispatches fresh bufferReadyEvent) rfl
    (fun call member => (placed call member).direct) ordered).queued
  have calm := calm_of_fresh cfg fresh bufferReadyEvent
  have begun : (Collector.create s bufferReadyEvent).Enlists := by
    refine ⟨rfl, ?_, by simp [Collector.create], by simp [Collector.create, fresh], ?_⟩
    · simp [idle]
    · exact fun _ => calm.synced.settled rfl
  obtain ⟨enlists, synced⟩ := gatherTensors_enlists calls accepted async tensorCalls begun calm.synced
  simp only [gatherAndFinalize] at run
  generalize gatherTensors env cfg (Collector.create s bufferReadyEvent) tensorCalls = c
    at queued enlists synced run ⊢
  rcases Nat.eq_zero_or_pos c.asyncTaskCount with none | some
  · obtain ⟨settled, waits, only, log⟩ := finalize_alone cfg enlists synced none
    exact alone_issues enlists none only log settled run done
  · obtain ⟨waits, only, log⟩ := finalize_closes cfg read enlists some
    rw [log] at run
    exact closed_issues calls enlists queued some only run done

end

theorem sync_issues {env : Env} (success : ∀ tick api, env.outcome tick api = none)
    (kernel : env.runGatherKernel = tritonGatherKernel) {cfg : CollectorConfig}
    (sync : cfg.useAsyncCpuCopy = false) {s : Sys} (fresh : s.log = []) (bufferReadyEvent : Bool)
    {calls : List TensorCall} (placed : ∀ call ∈ calls, call.tensor.Placed s)
    (performs : ∀ call ∈ calls, ∀ launch ∈ kernelGroups cfg call.tensor [] 0 0 call.chunks,
      cfg.kernelBufferThreshold ≤ launch.1.length → Performs env True launch.1) :
    issued (gatherAndFinalize env cfg s bufferReadyEvent calls).actions =
      (gatherTensors env cfg (Collector.create s bufferReadyEvent) calls).owes := by
  have ordered (call : TensorCall) (_ : call ∈ calls) (before : List ContiguousBuffer)
      (input : ContiguousBuffer) (after : List ContiguousBuffer)
      (_ : call.chunks = before ++ input :: after) :
      StagesInOrder cfg call.tensor (totalByteSize before) input := by
    intro async
    rw [sync] at async
    cases async
  have kept := gatherTensors_dispatches
    (fun group => tritonGatherKernel_performs env False kernel group False.elim)
    (create_dispatches fresh bufferReadyEvent) rfl
    (fun call member => (placed call member).direct) ordered
  have numbered : (s.courier ([] ++ (callJobs calls ++ []))).Numbered blockAge := by
    rw [List.append_nil]
    exact callJobs_numbered fresh placed
  obtain ⟨_, calm⟩ := gatherTensors_carries env cfg True sync (calm_of_fresh cfg fresh bufferReadyEvent)
    placed numbered performs
  exact finalize_owes success cfg calm.tidy (kept.sync sync)

theorem runs_landed {env : Env} (kernel : env.runGatherKernel = tritonGatherKernel)
    {cfg : CollectorConfig} (async : cfg.useAsyncCpuCopy = true) {s : Sys} (fresh : s.log = [])
    (bufferReadyEvent : Bool) {calls : List TensorCall}
    (placed : ∀ call ∈ calls, call.tensor.Placed s)
    (ordered : ∀ call ∈ calls, ∀ before input after, call.chunks = before ++ input :: after →
      StagesInOrder cfg call.tensor (totalByteSize before) input) {state : AsyncState}
    (run : (AsyncState.start (gatherAndFinalize env cfg s bufferReadyEvent calls).log).Runs env cfg
      state) : ReadsLanded IsStaging Device.fresh state.actions := by
  obtain ⟨avoids, ⟨flushes, blocks, queued⟩, _⟩ := gatherAndFinalize_dispatches
    (fun group => tritonGatherKernel_performs env False kernel group False.elim) fresh bufferReadyEvent
    (fun call member => (placed call member).direct) ordered
  exact (runs_staging run queued (start_staging (avoids async) queued)).staged.landed

/-- The tensors are the backend's, so nothing is written where the requests' buffers lie. -/
theorem inputs_unwritten {s done : Sys} {calls : List TensorCall}
    (supplied : ∀ call ∈ calls, call.tensor.Supplied) (fresh : s.log = [])
    (carries : s.Carries True (callJobs calls) done []) {block : Block} (input : block.IsInput) :
    ∀ effect ∈ issued done.actions, ∀ position, ¬ effect.Writes block position := by
  obtain ⟨memoryType, id, rfl⟩ := input
  have start : (s.courier (callJobs calls)).Confined blockAge s.nextBlock fun block position =>
      ∃ job ∈ callJobs calls, (job.effect : Effect Block UInt8).Writes block position := by
    refine ⟨Nat.le_refl _, fun effect member block position written => Or.inr ?_⟩
    simp only [Sys.courier, Sys.actions, fresh, List.filterMap_nil, issued_nil, List.nil_append] at member
    obtain ⟨job, planned, rfl⟩ := List.mem_map.mp member
    exact ⟨job, planned, written⟩
  have confined := confined_steps trivial carries start
  intro effect issuedBefore position written
  rcases confined.writes effect (List.mem_append_left _ issuedBefore) _ position written with
    young | ⟨job, planned, overwritten⟩
  · exact absurd young (Nat.not_lt_zero _)
  · obtain ⟨call, member, inside⟩ := List.mem_flatMap.mp planned
    obtain ⟨n, tensorBlock⟩ := supplied call member
    have same := (tensorJobs_inside inside overwritten).1
    rw [tensorBlock] at same
    cases same

/-- In every order of the tasks, once `Finalize` has returned and the stream has been waited for,
the memory is what a collector without the work queue leaves. -/
def GathersAlike (env : Env) (cfg plain : CollectorConfig) (s : Sys) (bufferReadyEvent : Bool)
    (calls : List TensorCall) (initial : Memory Block UInt8) : Prop :=
  ∀ state, (AsyncState.start (gatherAndFinalize env cfg s bufferReadyEvent calls).log).Runs env cfg
      state → state.pending = [] →
    state.running = [] ∧ (Device.fresh.run state.actions).queue = [] ∧
      (Device.fresh.run state.actions).memory initial =
        (gatherAndFinalize env plain s bufferReadyEvent calls).device.memory initial

/-- The work queue, the event and the copies on the stream make no difference to the bytes. -/
theorem gathersAlike {env : Env} (kernel : env.runGatherKernel = tritonGatherKernel)
    (success : ∀ tick api, env.outcome tick api = none)
    (accepted : ∀ tick, (env.addTask tick).code = .success)
    (read : ∀ tick, env.completion tick = true) {cfg plain : CollectorConfig}
    (async : cfg.useAsyncCpuCopy = true) (sync : plain.useAsyncCpuCopy = false)
    (pinned : plain.pinnedEnabled = cfg.pinnedEnabled)
    (threshold : plain.kernelBufferThreshold = cfg.kernelBufferThreshold) {s : Sys}
    (fresh : s.log = []) (bufferReadyEvent : Bool) {calls : List TensorCall}
    (supplied : ∀ call ∈ calls, call.tensor.Supplied)
    (apart : calls.Pairwise fun first second => first.tensor.Apart second.tensor)
    (place : Block → Int) (fits : LaunchesFit plain place calls)
    (ordered : ∀ call ∈ calls, ∀ before input after, call.chunks = before ++ input :: after →
      StagesInOrder cfg call.tensor (totalByteSize before) input)
    (initial : Memory Block UInt8) :
    GathersAlike env cfg plain s bufferReadyEvent calls initial := by
  intro state run done
  have placed (call : TensorCall) (member : call ∈ calls) : call.tensor.Placed s :=
    (supplied call member).placed s
  have numbered := callJobs_numbered fresh placed
  -- the run and the collector without workers come to owe the copies of one plan
  obtain ⟨idle, settled, issues⟩ := runs_issue success accepted read kernel async fresh
    bufferReadyEvent placed ordered run done
  have planned := gatherTensors_follows success accepted cfg calls (create_follows fresh bufferReadyEvent)
  have replanned := gatherTensors_follows success accepted plain calls
    (create_follows fresh bufferReadyEvent)
  rw [pinned, threshold] at replanned
  have none : ReadsInputs (GatherPlan.start (Collector.create s bufferReadyEvent)).effects := by
    simp [ReadsInputs, GatherPlan.start]
  have reads := calls_read kernel cfg.pinnedEnabled cfg.kernelBufferThreshold calls none
  have performs := fits.performs kernel
  obtain ⟨carries, quiet⟩ := gatherAndFinalize_carries env plain True sync fresh bufferReadyEvent placed
    performs
  have owed := sync_issues success kernel sync fresh bufferReadyEvent placed performs
  have landed := runs_landed kernel async fresh bufferReadyEvent placed ordered run
  have once : WritesOnce (issued (gatherAndFinalize env plain s bufferReadyEvent calls).actions) := by
    have owned := owned_steps trivial carries numbered (by
      simp only [Courier.Owned, Sys.courier, Sys.actions, fresh, List.filterMap_nil, issued_nil,
        List.nil_append]
      exact List.pairwise_map.mpr (callJobs_apart apart))
    simpa [Courier.Owned, Sys.courier] using owned
  have same : (issued (gatherAndFinalize env plain s bufferReadyEvent calls).actions).Perm
      (issued state.actions) := by
    rw [owed]
    exact (replanned.effects.trans planned.effects.symm).trans issues.symm
  refine ⟨idle, settled, (memory_of_perm initial same once
    (timed_steps carries numbered (fresh_timed fresh _)).landed landed quiet settled ?_).symm⟩
  intro transfer member
  have source := reads (.copy transfer) (replanned.effects.mem_iff.mp (owed ▸ member)) _ rfl
  exact source.imp_right fun input => inputs_unwritten supplied fresh carries input

/-- The second task runs ahead of the first one, and the run ends. -/
theorem gathersAlike_two_workers :
    (((AsyncState.start (gatherAndFinalize (Env.successful tritonGatherKernel) twoWorkers
        (Sys.fresh 2) false [gpuCall (hostCall .cpu).chunks]).log).follow
          (Env.successful tritonGatherKernel) twoWorkers
          [none, none, none, none, some 1, some 0, some 0, some 0, none, none]).map
            AsyncState.pending = some []) ∧
      GathersAlike (Env.successful tritonGatherKernel) twoWorkers (CollectorConfig.plain [])
        (Sys.fresh 2) false [gpuCall (hostCall .cpu).chunks] inputOnes := by
  have fits : LaunchesFit (CollectorConfig.plain []) (fun _ => 256) [gpuCall (hostCall .cpu).chunks] := by
    decide
  refine ⟨by decide +kernel, @gathersAlike (Env.successful tritonGatherKernel) rfl (fun _ _ => rfl)
    (fun _ => rfl) (fun _ => rfl) twoWorkers (CollectorConfig.plain []) rfl rfl rfl rfl (Sys.fresh 2) rfl
    false [gpuCall (hostCall .cpu).chunks] ?_ (List.pairwise_singleton _ _) _ fits ?_ inputOnes⟩
  · intro call member
    rw [List.mem_singleton] at member
    subst member
    exact ⟨0, rfl⟩
  · intro call member before input after split async host
    rw [List.mem_singleton] at member
    subst member
    exact absurd rfl host

end TritonBackend
