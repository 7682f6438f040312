import TritonBackend.AsyncTasks
import Mathlib.Algebra.Order.Group.Nat
import Mathlib.Data.List.Nodup
import Mathlib.Logic.Relation

/-!
How often an asynchronous flush is finalized. Its counter starts at the smaller of the
number of chunks and the number of workers, its tasks come from rounding up twice. The last value
of the counter is seen, after all chunks, exactly when the two numbers agree; otherwise nothing
is put on the completion queue and `Finalize` blocks.
-/

namespace TritonBackend

open CopyStream

/-! The number of tasks of a flush. -/

theorem taskSegments_length (stride fuel : Nat) (pending : List ContiguousBuffer)
    (positive : 0 < stride) (enough : pending.length ≤ fuel) :
    (taskSegments stride fuel pending).length = (pending.length + stride - 1) / stride := by
  induction fuel generalizing pending with
  | zero =>
      have empty : pending = [] := List.eq_nil_of_length_eq_zero (Nat.le_zero.mp enough)
      have small : (stride - 1) / stride = 0 := Nat.div_eq_of_lt (by omega)
      simp [taskSegments, empty, small]
  | succ fuel ih =>
      cases pending with
      | nil =>
          have small : (stride - 1) / stride = 0 := Nat.div_eq_of_lt (by omega)
          simp [taskSegments, small]
      | cons input rest =>
          simp only [taskSegments, takeSegment_eq, List.length_cons]
          rw [ih _ (by simp only [List.length_drop, List.length_cons] at enough ⊢; omega)]
          simp only [List.length_drop, List.length_cons]
          have whole : (rest.length + 1 + stride - 1) / stride = rest.length / stride + 1 := by
            rw [← Nat.add_div_right _ positive]
            congr 1
            omega
          rw [whole]
          by_cases short : rest.length + 1 ≤ stride
          · have none : (rest.length + 1 - stride + stride - 1) / stride = 0 :=
              Nat.div_eq_of_lt (by omega)
            have last : rest.length / stride = 0 := Nat.div_eq_of_lt (by omega)
            omega
          · have same : rest.length + 1 - stride + stride - 1 = rest.length := by omega
            rw [same]

/-- The counter of a flush starts at the number of its tasks. -/
def CountersAgree (cfg : CollectorConfig) (count : Nat) : Prop :=
  count ≤ cfg.workerCount ∨ (cfg.workerCount - 1) * asyncStride cfg count < count

instance (cfg : CollectorConfig) (count : Nat) : Decidable (CountersAgree cfg count) := by
  unfold CountersAgree
  infer_instance

theorem le_workers_mul_stride (cfg : CollectorConfig) (count : Nat) (workers : 0 < cfg.workerCount) :
    count ≤ cfg.workerCount * asyncStride cfg count := by
  have split := Nat.div_add_mod (count + cfg.workerCount - 1) cfg.workerCount
  have small := Nat.mod_lt (count + cfg.workerCount - 1) workers
  unfold asyncStride
  omega

theorem taskCount_le (cfg : CollectorConfig) (count : Nat) (workers : 0 < cfg.workerCount)
    (some : 0 < count) :
    (count + asyncStride cfg count - 1) / asyncStride cfg count ≤ min count cfg.workerCount := by
  have positive := asyncStride_pos workers some
  have covered := le_workers_mul_stride cfg count workers
  refine Nat.le_min.mpr ⟨?_, ?_⟩
  · refine Nat.le_of_lt_succ ((Nat.div_lt_iff_lt_mul positive).mpr ?_)
    have grows := Nat.le_mul_of_pos_right count positive
    rw [Nat.succ_mul]
    omega
  · refine Nat.le_of_lt_succ ((Nat.div_lt_iff_lt_mul positive).mpr ?_)
    rw [Nat.succ_mul]
    omega

theorem taskCount_eq_iff (cfg : CollectorConfig) (count : Nat) (workers : 0 < cfg.workerCount)
    (some : 0 < count) :
    (count + asyncStride cfg count - 1) / asyncStride cfg count = min count cfg.workerCount ↔
      CountersAgree cfg count := by
  have positive := asyncStride_pos workers some
  have bound := taskCount_le cfg count workers some
  by_cases few : count ≤ cfg.workerCount
  · have one : asyncStride cfg count = 1 := by
      unfold asyncStride
      exact Nat.div_eq_of_lt_le (by omega) (by omega)
    rw [one, Nat.div_one, Nat.min_eq_left few]
    exact iff_of_true (by omega) (Or.inl few)
  · rw [Nat.min_eq_right (by omega)] at bound ⊢
    have reached : (count + asyncStride cfg count - 1) / asyncStride cfg count = cfg.workerCount ↔
        cfg.workerCount * asyncStride cfg count ≤ count + asyncStride cfg count - 1 := by
      rw [← Nat.le_div_iff_mul_le positive]
      omega
    rw [reached]
    obtain ⟨fewer, same⟩ := Nat.exists_eq_succ_of_ne_zero (Nat.ne_of_gt workers)
    unfold CountersAgree
    rw [same] at few ⊢
    rw [Nat.succ_mul, Nat.succ_sub_one]
    omega

/-! One step of the machine. -/

theorem split_at {α : Type} {list : List α} {idx : Nat} {found : α}
    (present : list[idx]? = some found) :
    ∃ before after, list = before ++ found :: after ∧
      (∀ other, list.set idx other = before ++ other :: after) ∧
      list.eraseIdx idx = before ++ after := by
  induction list generalizing idx with
  | nil => simp at present
  | cons first rest ih =>
      cases idx with
      | zero =>
          simp only [List.getElem?_cons_zero, Option.some.injEq] at present
          subst present
          exact ⟨[], rest, rfl, fun other => rfl, rfl⟩
      | succ idx =>
          obtain ⟨before, after, whole, replaced, erased⟩ := ih present
          refine ⟨first :: before, after, ?_, ?_, ?_⟩
          · simp [whole]
          · intro other
            simp [replaced other]
          · simp [erased]

inductive MainStep (state : AsyncState) : AsyncState → Prop
  | quiet (event : Event) (rest : List Event) (head : state.pending = event :: rest)
      (task : event.task? = none) (get : event.isGet = false) :
      MainStep state { state with
        pending := rest
        actions := state.actions ++ event.action?.toList
        failed := state.failed ++ event.failed?.toList }
  | add (task : Task) (rest : List Event) (head : state.pending = .addTask task :: rest) :
      MainStep state { state with pending := rest, running := state.running ++ [task.start] }
  | get (result : Bool) (more : List Bool) (rest : List Event)
      (head : state.pending = .getCompletion :: rest) (queue : state.completions = result :: more) :
      MainStep state { state with pending := rest, completions := more }

theorem stepMain_cases {state state' : AsyncState} (stepped : state.stepMain = some state') :
    MainStep state state' := by
  unfold AsyncState.stepMain at stepped
  split at stepped
  · cases stepped
  next action rest head =>
    cases stepped
    have quiet := MainStep.quiet (.device action) rest head rfl rfl
    have started : (Event.device action).failed? = none := rfl
    rwa [started, Option.toList_none, List.append_nil] at quiet
  next transfer rest head =>
    cases stepped
    have quiet := MainStep.quiet (.failedCopy transfer) rest head rfl rfl
    have idle : (Event.failedCopy transfer).action? = none := rfl
    rwa [idle, Option.toList_none, List.append_nil] at quiet
  next task rest head =>
    cases stepped
    exact MainStep.add task rest head
  next rest head =>
    split at stepped
    · cases stepped
    next result more queue =>
      cases stepped
      exact MainStep.get result more rest head queue
  next event rest device refused task get head =>
    cases stepped
    have started : event.failed? = none := by
      cases event <;> simp_all [Event.failed?]
    have idle : event.action? = none := by
      cases event <;> simp_all [Event.action?]
    have quiet := MainStep.quiet event rest head (by cases event <;> simp_all [Event.task?])
      (by cases event <;> simp_all [Event.isGet])
    simpa [idle, started] using quiet

inductive TaskStep (env : Env) (cfg : CollectorConfig) (tick : Nat) (state : AsyncState) :
    AsyncState → Prop
  | copy (before after : List Running) (running : Running) (input : ContiguousBuffer)
      (rest : List ContiguousBuffer) (found : state.running = before ++ running :: after)
      (left : running.buffers = input :: rest) :
      TaskStep env cfg tick state { state with
        running := before ++
          { running with offset := running.offset + input.byteSize, buffers := rest } :: after
        trace := state.trace ++ [.copied running.task.flush]
        actions := state.actions ++ copyTaskChunk env cfg tick running input
        failed := state.failed ++ (setTaskChunk env cfg tick running input).failed }
  | finish (before after : List Running) (running : Running) (idx : Nat)
      (found : state.running = before ++ running :: after)
      (erased : state.running.eraseIdx idx = before ++ after) (none : running.buffers = []) :
      TaskStep env cfg tick state (finishTask env tick state idx running.task)

theorem stepTask_cases {env : Env} {cfg : CollectorConfig} {tick idx : Nat}
    {state state' : AsyncState} (stepped : state.stepTask env cfg tick idx = some state') :
    TaskStep env cfg tick state state' := by
  unfold AsyncState.stepTask at stepped
  split at stepped
  · cases stepped
  next running found =>
    obtain ⟨before, after, whole, replaced, erased⟩ := split_at found
    split at stepped
    next input rest left =>
      cases stepped
      rw [replaced]
      exact TaskStep.copy before after running input rest whole left
    next none =>
      cases stepped
      exact TaskStep.finish before after running idx whole erased none

theorem finishTask_running (env : Env) (tick : Nat) (state : AsyncState) (idx : Nat) (task : Task) :
    (finishTask env tick state idx task).running = state.running.eraseIdx idx := by
  simp only [finishTask]
  split <;> rfl

theorem finishTask_grows (env : Env) (tick : Nat) (state : AsyncState) (idx : Nat) (task : Task) :
    ∃ later refused, (finishTask env tick state idx task).actions = state.actions ++ later ∧
      (finishTask env tick state idx task).failed = state.failed ++ refused := by
  simp only [finishTask]
  split
  · exact ⟨_, _, rfl, rfl⟩
  · exact ⟨[], [], (List.append_nil _).symm, (List.append_nil _).symm⟩

theorem finishTask_pending (env : Env) (tick : Nat) (state : AsyncState) (idx : Nat) (task : Task) :
    (finishTask env tick state idx task).pending = state.pending := by
  simp only [finishTask]
  split <;> rfl

theorem finishTask_finished (env : Env) (tick : Nat) (state : AsyncState) (idx : Nat) (task : Task) :
    (finishTask env tick state idx task).finished = fun flush =>
      if flush = task.flush then state.finished flush + 1 else state.finished flush := by
  simp only [finishTask]
  split <;> rfl

theorem finishTask_trace (env : Env) (tick : Nat) (state : AsyncState) (idx : Nat) (task : Task) :
    (finishTask env tick state idx task).trace = state.trace ++
      (if state.fetchSub task = 1 then [.finalized task.flush] else []) := by
  simp only [finishTask]
  split
  · rfl
  · exact (List.append_nil _).symm

/-! The invariant of one flush. -/

def AsyncState.runningOf (state : AsyncState) (flush : Nat) : List Running :=
  state.running.filter fun running => running.task.flush = flush

def AsyncState.waitingOf (state : AsyncState) (flush : Nat) : List Task :=
  (addedTasks state.pending).filter fun task => task.flush = flush

def AsyncState.eventsOf (state : AsyncState) (flush : Nat) : List TaskEvent :=
  state.trace.filter fun event => event.flush = flush

/-- `total` tasks share a counter that started at `counter` and have `chunks` chunks. -/
structure FlushProgress (state : AsyncState) (flush total counter chunks : Nat) : Prop where
  counted : state.finished flush + (state.runningOf flush).length +
    (state.waitingOf flush).length = total
  runningCounter : ∀ running ∈ state.running, running.task.flush = flush →
    running.task.incompleteCount = counter
  waitingCounter : ∀ task ∈ addedTasks state.pending, task.flush = flush →
    task.incompleteCount = counter
  traced : ∃ copied, state.eventsOf flush = List.replicate copied (.copied flush) ++
      (if counter ≤ state.finished flush then [.finalized flush] else []) ∧
    copied + ((state.runningOf flush).map fun running => running.buffers.length).sum +
      ((state.waitingOf flush).map fun task => task.buffers.length).sum = chunks

theorem mainStep_progress {state state' : AsyncState} {flush total counter chunks : Nat}
    (step : MainStep state state') (progress : FlushProgress state flush total counter chunks) :
    FlushProgress state' flush total counter chunks := by
  obtain ⟨counted, runningCounter, waitingCounter, copied, events, sum⟩ := progress
  cases step with
  | quiet event rest head task get =>
      have same : addedTasks state.pending = addedTasks rest := by
        simp [head, addedTasks_cons, task]
      have waiting : state.waitingOf flush = (addedTasks rest).filter fun task => task.flush = flush := by
        rw [AsyncState.waitingOf, same]
      rw [waiting] at counted sum
      exact ⟨counted, runningCounter, fun other member => waitingCounter other (same ▸ member),
        copied, events, sum⟩
  | add task rest head =>
      have first : addedTasks state.pending = task :: addedTasks rest := by
        simp [head, addedTasks_cons, Event.task?]
      constructor
      · simp only [AsyncState.waitingOf, AsyncState.runningOf, first, List.filter_append,
          List.length_append] at counted ⊢
        by_cases mine : task.flush = flush
        · simp [mine, Task.start] at counted ⊢
          omega
        · simpa [mine, Task.start] using counted
      · intro running member same
        rcases List.mem_append.mp member with before | new
        · exact runningCounter running before same
        · rw [List.mem_singleton] at new
          subst new
          exact waitingCounter task (by simp [first]) same
      · intro other member
        exact waitingCounter other (by simp [first, member])
      · refine ⟨copied, events, ?_⟩
        simp only [AsyncState.waitingOf, AsyncState.runningOf, first, List.filter_append,
          List.map_append, List.sum_append] at sum ⊢
        by_cases mine : task.flush = flush
        · simp [mine, Task.start] at sum ⊢
          omega
        · simpa [mine, Task.start] using sum
  | get result more rest head queue =>
      have same : addedTasks state.pending = addedTasks rest := by
        simp [head, addedTasks_cons, Event.task?]
      have waiting : state.waitingOf flush = (addedTasks rest).filter fun task => task.flush = flush := by
        rw [AsyncState.waitingOf, same]
      rw [waiting] at counted sum
      exact ⟨counted, runningCounter, fun other member => waitingCounter other (same ▸ member),
        copied, events, sum⟩

theorem finished_lt {state : AsyncState} {flush total counter chunks : Nat}
    (progress : FlushProgress state flush total counter chunks) (bound : total ≤ counter)
    {running : Running} (member : running ∈ state.running) (mine : running.task.flush = flush) :
    state.finished flush < counter := by
  have present : running ∈ state.runningOf flush := by
    simp [AsyncState.runningOf, member, mine]
  have some := List.length_pos_of_mem present
  have counted := progress.counted
  omega

theorem copied_progress {state : AsyncState} {flush total counter chunks : Nat}
    (bound : total ≤ counter) (progress : FlushProgress state flush total counter chunks)
    {before after : List Running} {running : Running} {input : ContiguousBuffer}
    {rest : List ContiguousBuffer} (found : state.running = before ++ running :: after)
    (left : running.buffers = input :: rest) (offset : Nat) (actions : List (Action Block UInt8))
    (failed : List (Copy Block)) :
    FlushProgress { state with
      running := before ++ { running with offset, buffers := rest } :: after
      trace := state.trace ++ [.copied running.task.flush]
      actions, failed } flush total counter chunks := by
  have present : running ∈ state.running := by simp [found]
  have early (mine : running.task.flush = flush) := finished_lt progress bound present mine
  obtain ⟨counted, runningCounter, waitingCounter, copied, events, sum⟩ := progress
  constructor
  · simp only [AsyncState.runningOf, AsyncState.waitingOf, found, List.filter_append,
      List.filter_cons, List.length_append] at counted ⊢
    by_cases mine : running.task.flush = flush
    · simpa [mine] using counted
    · simpa [mine] using counted
  · intro other member same
    rcases List.mem_append.mp member with earlier | later
    · exact runningCounter other (by simp [found, earlier]) same
    · rcases List.mem_cons.mp later with new | later
      · subst new
        exact runningCounter running present same
      · exact runningCounter other (by simp [found, later]) same
  · exact waitingCounter
  · by_cases mine : running.task.flush = flush
    · refine ⟨copied + 1, ?_, ?_⟩
      -- the copy comes before the flush is finalized, since this task has not decremented yet
      · have open_ := early mine
        have unfinished : ¬ counter ≤ state.finished flush := by omega
        simp only [AsyncState.eventsOf, unfinished, if_false, List.append_nil,
          List.filter_append] at events ⊢
        rw [events, List.replicate_succ', mine]
        simp [TaskEvent.flush]
      · simp only [AsyncState.runningOf, AsyncState.waitingOf, found, List.filter_append,
          List.filter_cons, List.map_append, List.sum_append] at sum ⊢
        simp [mine, left] at sum ⊢
        omega
    · refine ⟨copied, ?_, ?_⟩
      · simpa [AsyncState.eventsOf, List.filter_append, TaskEvent.flush, mine] using events
      · simpa [AsyncState.runningOf, AsyncState.waitingOf, found, List.filter_append,
          List.filter_cons, mine] using sum

theorem finishTask_progress (env : Env) (tick idx : Nat) {state : AsyncState}
    {flush total counter chunks : Nat} (bound : total ≤ counter)
    (progress : FlushProgress state flush total counter chunks) {before after : List Running}
    {running : Running} (found : state.running = before ++ running :: after)
    (erased : state.running.eraseIdx idx = before ++ after) (none : running.buffers = []) :
    FlushProgress (finishTask env tick state idx running.task) flush total counter chunks := by
  have present : running ∈ state.running := by simp [found]
  have early (mine : running.task.flush = flush) := finished_lt progress bound present mine
  have others : (finishTask env tick state idx running.task).running = before ++ after :=
    (finishTask_running env tick state idx running.task).trans erased
  obtain ⟨counted, runningCounter, waitingCounter, copied, events, sum⟩ := progress
  constructor
  · simp only [AsyncState.runningOf, AsyncState.waitingOf, others, finishTask_pending,
      finishTask_finished, found, List.filter_append, List.filter_cons,
      List.length_append] at counted ⊢
    by_cases mine : running.task.flush = flush
    · simp [mine] at counted ⊢
      omega
    · simpa [mine, Ne.symm mine] using counted
  · intro other member same
    rw [finishTask_running] at member
    exact runningCounter other (List.mem_of_mem_eraseIdx member) same
  · rw [finishTask_pending]
    exact waitingCounter
  · refine ⟨copied, ?_, ?_⟩
    · by_cases mine : running.task.flush = flush
      · have open_ := early mine
        have unfinished : ¬ counter ≤ state.finished flush := by omega
        have start := runningCounter running present mine
        -- `fetch_sub` returns 1 exactly when this decrement is the counter's last
        have last : state.fetchSub running.task = 1 ↔ counter ≤ state.finished flush + 1 := by
          simp only [AsyncState.fetchSub, start, mine]
          omega
        simp only [AsyncState.eventsOf, unfinished, if_false, List.append_nil] at events
        simp only [AsyncState.eventsOf, finishTask_trace, finishTask_finished, List.filter_append,
          events, last, mine, if_true]
        split <;> simp [TaskEvent.flush]
      · simp only [AsyncState.eventsOf] at events
        simp only [AsyncState.eventsOf, finishTask_trace, finishTask_finished, List.filter_append,
          events, Ne.symm mine, if_false]
        have foreign : ((if state.fetchSub running.task = 1
            then [TaskEvent.finalized running.task.flush] else []).filter fun event =>
              event.flush = flush) = [] := by
          split <;> simp [TaskEvent.flush, mine]
        rw [foreign, List.append_nil]
    · simp only [AsyncState.runningOf, AsyncState.waitingOf, others, finishTask_pending, found,
        List.filter_append, List.filter_cons, List.map_append, List.sum_append] at sum ⊢
      by_cases mine : running.task.flush = flush
      · simp [mine, none] at sum ⊢
        omega
      · simpa [mine] using sum

theorem taskStep_progress {env : Env} {cfg : CollectorConfig} {tick : Nat}
    {state state' : AsyncState} {flush total counter chunks : Nat}
    (step : TaskStep env cfg tick state state') (bound : total ≤ counter)
    (progress : FlushProgress state flush total counter chunks) :
    FlushProgress state' flush total counter chunks := by
  cases step with
  | copy before after running input rest found left =>
      exact copied_progress bound progress found left _ _ _
  | finish before after running idx found erased none =>
      exact finishTask_progress env tick idx bound progress found erased none

theorem step_progress {env : Env} {cfg : CollectorConfig} {state state' : AsyncState}
    {flush total counter chunks : Nat} (step : state.Step env cfg state')
    (bound : total ≤ counter) (progress : FlushProgress state flush total counter chunks) :
    FlushProgress state' flush total counter chunks := by
  cases step with
  | main _ _ stepped => exact mainStep_progress (stepMain_cases stepped) progress
  | task tick idx _ _ stepped => exact taskStep_progress (stepTask_cases stepped) bound progress

/-! The completion queue. -/

def TaskEvent.finalized? : TaskEvent → Option Nat
  | .finalized flush => some flush
  | .copied _ => none

/-- The flushes that have been finalized, each as often as it was. -/
def AsyncState.puts (state : AsyncState) : List Nat := state.trace.filterMap TaskEvent.finalized?

/-- The calls of `Get` come last, and every value that was put is on the queue or has
been taken by one of the `gets` calls. -/
structure QueueProgress (state : AsyncState) (gets : Nat) : Prop where
  ordered : ∃ front left, state.pending = front ++ List.replicate left .getCompletion ∧
    ∀ event ∈ front, event.isGet = false
  balance : state.completions.length + gets =
    state.puts.length + state.pending.countP Event.isGet

theorem ordered_tail {pending rest : List Event} {event : Event}
    (head : pending = event :: rest)
    (ordered : ∃ front left, pending = front ++ List.replicate left .getCompletion ∧
      ∀ event ∈ front, event.isGet = false) :
    ∃ front left, rest = front ++ List.replicate left .getCompletion ∧
      ∀ event ∈ front, event.isGet = false := by
  obtain ⟨front, left, split, quiet⟩ := ordered
  rw [head] at split
  cases front with
  | nil =>
      cases left with
      | zero => simp at split
      | succ left =>
          rw [List.nil_append, List.replicate_succ, List.cons.injEq] at split
          exact ⟨[], left, split.2, by simp⟩
  | cons first front =>
      rw [List.cons_append, List.cons.injEq] at split
      exact ⟨front, left, split.2, fun other member => quiet other (List.mem_cons_of_mem _ member)⟩

theorem mainStep_queue {state state' : AsyncState} {gets : Nat} (step : MainStep state state')
    (progress : QueueProgress state gets) : QueueProgress state' gets := by
  obtain ⟨ordered, balance⟩ := progress
  cases step with
  | quiet event rest head task get =>
      refine ⟨ordered_tail head ordered, ?_⟩
      simpa [AsyncState.puts, head, get] using balance
  | add task rest head =>
      refine ⟨ordered_tail head ordered, ?_⟩
      simpa [AsyncState.puts, head, Event.isGet] using balance
  | get result more rest head queue =>
      refine ⟨ordered_tail head ordered, ?_⟩
      simp only [AsyncState.puts, head, queue, List.length_cons, List.countP_cons,
        Event.isGet, if_true] at balance ⊢
      omega

theorem taskStep_queue {env : Env} {cfg : CollectorConfig} {tick : Nat}
    {state state' : AsyncState} {gets : Nat} (step : TaskStep env cfg tick state state')
    (progress : QueueProgress state gets) : QueueProgress state' gets := by
  obtain ⟨ordered, balance⟩ := progress
  cases step with
  | copy before after running input rest found left =>
      have none : [TaskEvent.copied running.task.flush].filterMap TaskEvent.finalized? = [] := rfl
      refine ⟨ordered, ?_⟩
      simpa [AsyncState.puts, none] using balance
  | finish before after running idx found erased none =>
      simp only [finishTask]
      split
      · refine ⟨ordered, ?_⟩
        simp only [AsyncState.puts, List.filterMap_append, List.length_append,
          List.length_singleton] at balance ⊢
        have one : ([TaskEvent.finalized running.task.flush].filterMap
            TaskEvent.finalized?).length = 1 := rfl
        omega
      · exact ⟨ordered, balance⟩

theorem step_queue {env : Env} {cfg : CollectorConfig} {state state' : AsyncState} {gets : Nat}
    (step : state.Step env cfg state') (progress : QueueProgress state gets) :
    QueueProgress state' gets := by
  cases step with
  | main _ _ stepped => exact mainStep_queue (stepMain_cases stepped) progress
  | task tick idx _ _ stepped => exact taskStep_queue (stepTask_cases stepped) progress

/-! Every run comes to an end. -/

def Event.weight : Event → Nat
  | .addTask task => task.buffers.length + 2
  | _ => 1

def AsyncState.work (state : AsyncState) : Nat :=
  (state.pending.map Event.weight).sum +
    (state.running.map fun running => running.buffers.length + 1).sum

theorem step_work {env : Env} {cfg : CollectorConfig} {state state' : AsyncState}
    (step : state.Step env cfg state') : state'.work < state.work := by
  cases step with
  | main _ _ stepped =>
      cases stepMain_cases stepped with
      | quiet event rest head task get =>
          have some : 0 < event.weight := by cases event <;> simp [Event.weight]
          simp only [AsyncState.work, head, List.map_cons, List.sum_cons]
          omega
      | add task rest head =>
          simp only [AsyncState.work, head, List.map_cons, List.sum_cons, Event.weight,
            List.map_append, List.sum_append, Task.start, List.map_nil, List.sum_nil]
          omega
      | get result more rest head queue =>
          simp only [AsyncState.work, head, List.map_cons, List.sum_cons, Event.weight]
          omega
  | task tick idx _ _ stepped =>
      cases stepTask_cases stepped with
      | copy before after running input rest found left =>
          simp only [AsyncState.work, found, left, List.map_append, List.sum_append, List.map_cons,
            List.sum_cons, List.length_cons]
          omega
      | finish before after running at_ found erased none =>
          have smaller : (state.running.map fun running => running.buffers.length + 1).sum =
              ((before ++ after).map fun running => running.buffers.length + 1).sum + 1 := by
            simp only [found, none, List.map_append, List.sum_append, List.map_cons, List.sum_cons,
              List.length_nil]
            omega
          simp only [AsyncState.work, finishTask_running, finishTask_pending, erased, smaller]
          omega

def AsyncState.Stuck (env : Env) (cfg : CollectorConfig) (state : AsyncState) : Prop :=
  ∀ next, ¬ state.Step env cfg next

abbrev AsyncState.Runs (env : Env) (cfg : CollectorConfig) : AsyncState → AsyncState → Prop :=
  Relation.ReflTransGen (AsyncState.Step env cfg)

theorem runs_to_stuck (env : Env) (cfg : CollectorConfig) (state : AsyncState) :
    ∃ last, state.Runs env cfg last ∧ last.Stuck env cfg := by
  by_cases moves : ∃ next, state.Step env cfg next
  · obtain ⟨next, step⟩ := moves
    have smaller := step_work step
    obtain ⟨last, run, stuck⟩ := runs_to_stuck env cfg next
    exact ⟨last, Relation.ReflTransGen.head step run, stuck⟩
  · exact ⟨state, Relation.ReflTransGen.refl, not_exists.mp moves⟩
termination_by state.work

/-- A stuck main thread waits for a completion; all tasks have ended. -/
theorem stuck_cases {env : Env} {cfg : CollectorConfig} {state : AsyncState}
    (stuck : state.Stuck env cfg) :
    state.running = [] ∧ (state.pending = [] ∨
      (∃ rest, state.pending = .getCompletion :: rest) ∧ state.completions = []) := by
  have blocked : state.stepMain = none := by
    cases moved : state.stepMain with
    | none => rfl
    | some next => exact absurd (AsyncState.Step.main state next moved) (stuck next)
  constructor
  · cases running : state.running with
    | nil => rfl
    | cons first rest =>
        have found : state.running[0]? = some first := by simp [running]
        have moves : ∃ next, state.stepTask env cfg 0 0 = some next := by
          simp only [AsyncState.stepTask, found]
          split <;> exact ⟨_, rfl⟩
        obtain ⟨next, stepped⟩ := moves
        exact absurd (AsyncState.Step.task 0 0 state next stepped) (stuck next)
  · unfold AsyncState.stepMain at blocked
    split at blocked
    next empty => exact Or.inl empty
    next => cases blocked
    next => cases blocked
    next => cases blocked
    next rest head =>
      split at blocked
      next queue => exact Or.inr ⟨⟨rest, head⟩, queue⟩
      next => cases blocked
    next => cases blocked

/-! The state that the enqueue steps leave. -/

def plannedTasks (cfg : CollectorConfig) (first : Nat) :
    List AsyncFlush → List (Nat × Nat × List ContiguousBuffer)
  | [] => []
  | flush :: rest =>
      (asyncSegments cfg flush.buffers).map
          (fun segment => (first, min flush.buffers.length cfg.workerCount, segment)) ++
        plannedTasks cfg (first + 1) rest

theorem startFlushes_log (env : Env) (cfg : CollectorConfig)
    (accepted : ∀ tick, (env.addTask tick).code = .success) (c : Collector)
    (flushes : List AsyncFlush) :
    let after := startFlushes env cfg c flushes
    (addedTasks after.log).map Task.summary =
        (addedTasks c.log).map Task.summary ++ plannedTasks cfg c.asyncTaskCount flushes ∧
      after.log.countP Event.isGet = c.log.countP Event.isGet ∧
      after.asyncTaskCount = c.asyncTaskCount + flushes.length := by
  induction flushes generalizing c with
  | nil => simp [startFlushes, plannedTasks]
  | cons flush rest ih =>
      let pending : Collector := { c with
        pendingPinnedByteSize := totalByteSize flush.buffers
        pendingPinnedInputBuffers := flush.buffers }
      have enqueued := enqueueTasks_tasks env accepted
        (fun offset buffers => {
          flush := c.asyncTaskCount
          incompleteCount := min flush.buffers.length cfg.workerCount
          offset, buffers
          deferred := pending.deferral flush.memory.memoryPtr flush.tensor true
          pinnedMemoryType := flush.memory.memoryType
          pinnedMemoryTypeId := flush.memory.memoryTypeId })
        (fun offset buffers => rfl) (asyncStride cfg flush.buffers.length) flush.buffers.length 0
        flush.buffers c.toSys
      obtain ⟨tasks, gets, count⟩ := ih (startAsyncFlush env cfg pending flush.memory flush.tensor)
      have next : (startAsyncFlush env cfg pending flush.memory flush.tensor).asyncTaskCount =
          c.asyncTaskCount + 1 := rfl
      refine ⟨?_, gets.trans enqueued.2, ?_⟩
      · rw [startFlushes, tasks, next, plannedTasks, ← List.append_assoc]
        congr 1
        exact enqueued.1
      · rw [startFlushes, count, next, List.length_cons]
        omega

theorem plannedTasks_of (cfg : CollectorConfig) (first k : Nat) {flushes : List AsyncFlush}
    {flush : AsyncFlush} (found : flushes[k]? = some flush) :
    (plannedTasks cfg first flushes).filter (fun summary => summary.1 = first + k) =
      (asyncSegments cfg flush.buffers).map
        (fun segment => (first + k, min flush.buffers.length cfg.workerCount, segment)) := by
  induction flushes generalizing first k with
  | nil => simp at found
  | cons head rest ih =>
      have others (number : Nat) (later : first < number) :
          ((asyncSegments cfg head.buffers).map (fun segment =>
            (first, min head.buffers.length cfg.workerCount, segment))).filter
              (fun summary => summary.1 = number) = [] := by
        rw [List.filter_map]
        have different : first ≠ number := Nat.ne_of_lt later
        simp [Function.comp_def, different]
      cases k with
      | zero =>
          simp only [List.getElem?_cons_zero, Option.some.injEq] at found
          subst found
          have absent (start : Nat) (later : first < start) :
              (plannedTasks cfg start rest).filter (fun summary => summary.1 = first) = [] := by
            clear ih others
            induction rest generalizing start with
            | nil => rfl
            | cons flush rest ih =>
                have different : start ≠ first := Nat.ne_of_gt later
                simp only [plannedTasks, List.filter_append, ih (start + 1) (by omega)]
                rw [List.filter_map]
                simp [Function.comp_def, different]
          simp only [plannedTasks, List.filter_append, Nat.add_zero]
          rw [absent (first + 1) (by omega), List.filter_map]
          simp [Function.comp_def]
      | succ k =>
          have shifted : first + (k + 1) = first + 1 + k := by omega
          simp only [plannedTasks, List.filter_append]
          rw [others _ (by omega), List.nil_append, shifted]
          exact ih (first + 1) k found

theorem plannedTasks_bound (cfg : CollectorConfig) (first : Nat) (flushes : List AsyncFlush)
    {summary : Nat × Nat × List ContiguousBuffer}
    (member : summary ∈ plannedTasks cfg first flushes) : summary.1 < first + flushes.length := by
  induction flushes generalizing first with
  | nil => simp [plannedTasks] at member
  | cons flush rest ih =>
      rcases List.mem_append.mp member with own | later
      · obtain ⟨segment, _, rfl⟩ := List.mem_map.mp own
        simp
      · have bound := ih (first + 1) later
        simp only [List.length_cons]
        omega

theorem summary_filter (tasks : List Task) (flush : Nat) :
    (tasks.filter fun task => task.flush = flush).map Task.summary =
      (tasks.map Task.summary).filter (fun summary => summary.1 = flush) := by
  rw [List.filter_map]
  rfl

section
variable (env : Env) (cfg : CollectorConfig) (requestCount : Nat) (flushes : List AsyncFlush)

theorem startAsync_tasks (accepted : ∀ tick, (env.addTask tick).code = .success) :
    (addedTasks (startAsync env cfg requestCount flushes).pending).map Task.summary =
      plannedTasks cfg 0 flushes := by
  have logged := (startFlushes_log env cfg accepted
    (Collector.create (Sys.fresh requestCount) false) flushes).1
  have gets (count : Nat) : addedTasks (List.replicate count .getCompletion) = [] := by
    induction count with
    | zero => rfl
    | succ count ih => simpa [List.replicate_succ, addedTasks_cons, Event.task?] using ih
  simp only [startAsync, AsyncState.start, addedTasks_append, gets, List.append_nil]
  simpa [Collector.create, Sys.fresh, addedTasks] using logged

theorem startAsync_progress (accepted : ∀ tick, (env.addTask tick).code = .success)
    (workers : 0 < cfg.workerCount) {k : Nat} {flush : AsyncFlush}
    (found : flushes[k]? = some flush) (some : 0 < flush.buffers.length) :
    FlushProgress (startAsync env cfg requestCount flushes) k
      ((flush.buffers.length + asyncStride cfg flush.buffers.length - 1) /
        asyncStride cfg flush.buffers.length)
      (min flush.buffers.length cfg.workerCount) flush.buffers.length := by
  have tasks := startAsync_tasks env cfg requestCount flushes accepted
  have mine : ((startAsync env cfg requestCount flushes).waitingOf k).map Task.summary =
      (asyncSegments cfg flush.buffers).map
        (fun segment => (k, min flush.buffers.length cfg.workerCount, segment)) := by
    rw [AsyncState.waitingOf, summary_filter, tasks]
    simpa using plannedTasks_of cfg 0 k found
  have segments := taskSegments_length (asyncStride cfg flush.buffers.length)
    flush.buffers.length flush.buffers (asyncStride_pos workers some) (Nat.le_refl _)
  have positive : 0 < min flush.buffers.length cfg.workerCount := Nat.lt_min.mpr ⟨some, workers⟩
  constructor
  · have count := congrArg List.length mine
    simp only [List.length_map] at count
    rw [count]
    simpa [startAsync, AsyncState.start, AsyncState.runningOf, asyncSegments] using segments
  · intro running member
    simp [startAsync, AsyncState.start] at member
  · intro task member same
    have present : task.summary ∈ ((startAsync env cfg requestCount flushes).waitingOf k).map
        Task.summary := List.mem_map_of_mem (by simp [AsyncState.waitingOf, member, same])
    rw [mine] at present
    obtain ⟨segment, _, equal⟩ := List.mem_map.mp present
    exact (congrArg (fun summary => summary.2.1) equal).symm
  · refine ⟨0, ?_, ?_⟩
    · have unfinished : ¬ min flush.buffers.length cfg.workerCount ≤ 0 := by omega
      simp [startAsync, AsyncState.start, AsyncState.eventsOf, unfinished]
    · have lengths := congrArg (fun summaries => (summaries.map
        fun (summary : Nat × Nat × List ContiguousBuffer) => summary.2.2.length).sum) mine
      simp only [List.map_map] at lengths
      have whole := congrArg List.length (asyncSegments_flatten cfg workers flush.buffers)
      rw [List.length_flatten] at whole
      simp only [Function.comp_def, Task.summary] at lengths
      rw [lengths]
      simpa [startAsync, AsyncState.start, AsyncState.runningOf] using whole

theorem startAsync_queue (accepted : ∀ tick, (env.addTask tick).code = .success) :
    QueueProgress (startAsync env cfg requestCount flushes) flushes.length := by
  obtain ⟨_, gets, count⟩ := startFlushes_log env cfg accepted
    (Collector.create (Sys.fresh requestCount) false) flushes
  have none : (startFlushes env cfg (Collector.create (Sys.fresh requestCount) false)
      flushes).log.countP Event.isGet = 0 := by
    rw [gets]
    rfl
  have number : (startFlushes env cfg (Collector.create (Sys.fresh requestCount) false)
      flushes).asyncTaskCount = flushes.length := by
    rw [count]
    simp [Collector.create]
  constructor
  · refine ⟨_, _, rfl, ?_⟩
    intro event member
    have quiet := List.countP_eq_zero.mp none event member
    simpa using quiet
  · simp [startAsync, AsyncState.start, AsyncState.puts, none, number, List.countP_replicate,
      Event.isGet]

/-! Every run. -/

theorem runs_progress {state state' : AsyncState} {flush total counter chunks : Nat}
    (run : state.Runs env cfg state') (bound : total ≤ counter)
    (progress : FlushProgress state flush total counter chunks) :
    FlushProgress state' flush total counter chunks := by
  induction run with
  | refl => exact progress
  | tail _ step ih => exact step_progress step bound ih

theorem runs_queue {state state' : AsyncState} {gets : Nat} (run : state.Runs env cfg state')
    (progress : QueueProgress state gets) : QueueProgress state' gets := by
  induction run with
  | refl => exact progress
  | tail _ step ih => exact step_queue step ih

structure FlushBound (state : AsyncState) (count : Nat) : Prop where
  waiting : ∀ task ∈ addedTasks state.pending, task.flush < count
  running : ∀ running ∈ state.running, running.task.flush < count
  traced : ∀ event ∈ state.trace, event.flush < count

theorem step_bound {state state' : AsyncState} {count : Nat} (step : state.Step env cfg state')
    (bound : FlushBound state count) : FlushBound state' count := by
  obtain ⟨waiting, running, traced⟩ := bound
  cases step with
  | main _ _ stepped =>
      cases stepMain_cases stepped with
      | quiet event rest head task get =>
          rw [head, addedTasks_cons] at waiting
          exact ⟨fun task member => waiting task (List.mem_append_right _ member), running, traced⟩
      | add task rest head =>
          rw [head, addedTasks_cons] at waiting
          refine ⟨fun task member => waiting task (List.mem_append_right _ member), ?_, traced⟩
          intro other member
          rcases List.mem_append.mp member with before | new
          · exact running other before
          · rw [List.mem_singleton] at new
            subst new
            exact waiting task (by simp [Event.task?])
      | get result more rest head queue =>
          rw [head, addedTasks_cons] at waiting
          exact ⟨fun task member => waiting task (List.mem_append_right _ member), running, traced⟩
  | task tick idx _ _ stepped =>
      cases stepTask_cases stepped with
      | copy before after current input rest found left =>
          have own := running current (by simp [found])
          refine ⟨waiting, ?_, ?_⟩
          · intro other member
            rcases List.mem_append.mp member with earlier | later
            · exact running other (by simp [found, earlier])
            · rcases List.mem_cons.mp later with new | later
              · exact new ▸ own
              · exact running other (by simp [found, later])
          · intro event member
            rcases List.mem_append.mp member with earlier | new
            · exact traced event earlier
            · rw [List.mem_singleton] at new
              exact new ▸ own
      | finish before after current at_ found erased none =>
          have own := running current (by simp [found])
          have others : ∀ other ∈ state.running.eraseIdx at_, other.task.flush < count :=
            fun other member => running other (List.mem_of_mem_eraseIdx member)
          simp only [finishTask]
          split
          · refine ⟨waiting, others, ?_⟩
            intro event member
            rcases List.mem_append.mp member with earlier | new
            · exact traced event earlier
            · rw [List.mem_singleton] at new
              exact new ▸ own
          · exact ⟨waiting, others, traced⟩

theorem runs_bound {state state' : AsyncState} {count : Nat} (run : state.Runs env cfg state')
    (bound : FlushBound state count) : FlushBound state' count := by
  induction run with
  | refl => exact bound
  | tail _ step ih => exact step_bound env cfg step ih

theorem startAsync_bound (accepted : ∀ tick, (env.addTask tick).code = .success) :
    FlushBound (startAsync env cfg requestCount flushes) flushes.length := by
  have tasks := startAsync_tasks env cfg requestCount flushes accepted
  constructor
  · intro task member
    have planned := plannedTasks_bound cfg 0 flushes (tasks ▸ List.mem_map_of_mem member)
    simpa [Task.summary] using planned
  · intro running member
    simp [startAsync, AsyncState.start] at member
  · intro event member
    simp [startAsync, AsyncState.start] at member

theorem puts_count (state : AsyncState) (flush : Nat) :
    state.puts.count flush = ((state.eventsOf flush).filterMap TaskEvent.finalized?).length := by
  unfold AsyncState.puts AsyncState.eventsOf
  induction state.trace with
  | nil => rfl
  | cons event rest ih =>
      cases event with
      | copied other =>
          by_cases same : other = flush
          · simpa [List.filter_cons, TaskEvent.flush, same, List.filterMap_cons,
              TaskEvent.finalized?] using ih
          · simpa [List.filter_cons, TaskEvent.flush, same, List.filterMap_cons,
              TaskEvent.finalized?] using ih
      | finalized other =>
          by_cases same : other = flush
          · simp [TaskEvent.flush, same, TaskEvent.finalized?, ih]
          · simpa [List.filter_cons, TaskEvent.flush, same, List.filterMap_cons,
              TaskEvent.finalized?] using ih

theorem puts_perm {flushes : List AsyncFlush} {state : AsyncState}
    (within : FlushBound state flushes.length)
    (events : ∀ k flush, flushes[k]? = some flush → state.eventsOf k =
      List.replicate flush.buffers.length (.copied k) ++ [.finalized k]) :
    state.puts.Perm (List.range flushes.length) := by
  refine List.perm_iff_count.mpr fun k => ?_
  by_cases inside : k < flushes.length
  · have found := List.getElem?_eq_getElem inside
    have quiet : (List.replicate flushes[k].buffers.length (TaskEvent.copied k)).filterMap
        TaskEvent.finalized? = [] := by
      simp [List.filterMap_replicate, TaskEvent.finalized?]
    have last : [TaskEvent.finalized k].filterMap TaskEvent.finalized? = [k] := rfl
    rw [puts_count, events k _ found, List.filterMap_append, quiet, last]
    simp [List.count_range, inside]
  · have absent : k ∉ state.puts := by
      intro present
      obtain ⟨event, member, same⟩ := List.mem_filterMap.mp present
      have bound := within.traced event member
      cases event with
      | copied flush => cases same
      | finalized flush =>
          cases same
          exact inside bound
    rw [List.count_eq_zero_of_not_mem absent]
    simp [List.count_range, inside]

/-- In every run from the first flush to its end, each flush is finalized once, after all its
chunks, and puts one value on the queue; every `Get` is answered. -/
def FinalizedOnce : Prop :=
  ∀ state, (startAsync env cfg requestCount flushes).Runs env cfg state → state.Stuck env cfg →
    state.pending = [] ∧
    state.puts.length = (startFlushes env cfg (Collector.create (Sys.fresh requestCount) false)
      flushes).asyncTaskCount ∧
    ∀ k flush, flushes[k]? = some flush → state.eventsOf k =
      List.replicate flush.buffers.length (.copied k) ++ [.finalized k]

theorem stuck_events (accepted : ∀ tick, (env.addTask tick).code = .success)
    (workers : 0 < cfg.workerCount) {state : AsyncState}
    (run : (startAsync env cfg requestCount flushes).Runs env cfg state)
    (stuck : state.Stuck env cfg) {k : Nat} {flush : AsyncFlush}
    (found : flushes[k]? = some flush) (some : 0 < flush.buffers.length) :
    state.eventsOf k = List.replicate flush.buffers.length (.copied k) ++
      (if CountersAgree cfg flush.buffers.length then [.finalized k] else []) := by
  have bound := taskCount_le cfg flush.buffers.length workers some
  obtain ⟨counted, _, _, copied, events, sum⟩ := runs_progress env cfg run bound
    (startAsync_progress env cfg requestCount flushes accepted workers found some)
  have queue := runs_queue env cfg run (startAsync_queue env cfg requestCount flushes accepted)
  obtain ⟨idle, waiting⟩ := stuck_cases stuck
  have none : addedTasks state.pending = [] := by
    rcases waiting with empty | ⟨⟨rest, head⟩, _⟩
    · rw [empty]
      rfl
    · obtain ⟨front, left, split, quiet⟩ := queue.ordered
      have onlyGets : front = [] := by
        cases front with
        | nil => rfl
        | cons first front =>
            rw [head, List.cons_append, List.cons.injEq] at split
            have get := quiet first List.mem_cons_self
            rw [← split.1] at get
            cases get
      rw [split, onlyGets, List.nil_append]
      clear split
      induction left with
      | zero => rfl
      | succ left ih => simpa [List.replicate_succ, addedTasks_cons, Event.task?] using ih
  simp only [AsyncState.runningOf, AsyncState.waitingOf, idle, none, List.filter_nil,
    List.map_nil, List.sum_nil, List.length_nil, Nat.add_zero] at counted sum
  have agree : min flush.buffers.length cfg.workerCount ≤ state.finished k ↔
      CountersAgree cfg flush.buffers.length := by
    rw [← taskCount_eq_iff cfg flush.buffers.length workers some]
    omega
  rw [events, sum]
  simp only [agree]

theorem finalizedOnce_iff (workers : 2 ≤ cfg.workerCount)
    (accepted : ∀ tick, (env.addTask tick).code = .success)
    (filled : ∀ flush ∈ flushes, flush.buffers ≠ []) :
    FinalizedOnce env cfg requestCount flushes ↔
      ∀ flush ∈ flushes, CountersAgree cfg flush.buffers.length := by
  have positive : 0 < cfg.workerCount := by omega
  have some (flush : AsyncFlush) (member : flush ∈ flushes) : 0 < flush.buffers.length :=
    List.length_pos_iff.mpr (filled flush member)
  constructor
  · intro once flush member
    obtain ⟨k, found⟩ := List.getElem?_of_mem member
    obtain ⟨state, run, stuck⟩ := runs_to_stuck env cfg (startAsync env cfg requestCount flushes)
    have left := stuck_events env cfg requestCount flushes accepted positive run stuck found
      (some flush member)
    by_contra disagree
    rw [(once state run stuck).2.2 k flush found, if_neg disagree, List.append_nil] at left
    have lengths := congrArg List.length left
    simp at lengths
  · intro agree state run stuck
    have events (k : Nat) (flush : AsyncFlush) (found : flushes[k]? = Option.some flush) :
        state.eventsOf k =
          List.replicate flush.buffers.length (.copied k) ++ [.finalized k] := by
      have member := List.mem_of_getElem? found
      have left := stuck_events env cfg requestCount flushes accepted positive run stuck found
        (some flush member)
      rwa [if_pos (agree flush member)] at left
    have within := runs_bound env cfg run (startAsync_bound env cfg requestCount flushes accepted)
    have each := puts_perm within events
    have puts : state.puts.length = flushes.length := by
      rw [each.length_eq, List.length_range]
    have count := (startFlushes_log env cfg accepted
      (Collector.create (Sys.fresh requestCount) false) flushes).2.2
    refine ⟨?_, ?_, events⟩
    · rcases (stuck_cases stuck).2 with empty | ⟨⟨rest, head⟩, queue⟩
      · exact empty
      · have balance := (runs_queue env cfg run
          (startAsync_queue env cfg requestCount flushes accepted)).balance
        rw [queue, head, puts, List.countP_cons_of_pos rfl] at balance
        simp only [List.length_nil] at balance
        omega
    · rw [puts, count]
      simp [Collector.create]

end

def fiveChunks : AsyncFlush := {
  buffers := (List.range 5).map fun request => requestChunk request (16 + request) 1 .cpu
  memory := pinnedBlock
  tensor := deviceTensor 5 }

theorem finalizedOnce_two_workers :
    FinalizedOnce (Env.successful gatherSegments) twoWorkers 5 [fiveChunks, fiveChunks] :=
  (finalizedOnce_iff _ _ _ _ (by decide) (fun tick => rfl) (by decide)).mpr (by decide)

/-- With four workers five chunks make three tasks, but the counter starts at four. -/
theorem not_finalizedOnce_four_workers :
    ¬ FinalizedOnce (Env.successful gatherSegments) { twoWorkers with workerCount := 4 } 5
      [fiveChunks] := by
  intro once
  obtain ⟨state, run, stuck⟩ := runs_to_stuck (Env.successful gatherSegments)
    { twoWorkers with workerCount := 4 }
    (startAsync (Env.successful gatherSegments) { twoWorkers with workerCount := 4 } 5 [fiveChunks])
  have left := stuck_events _ _ 5 [fiveChunks] (fun tick => rfl) (by decide) run stuck
    (show [fiveChunks][0]? = some fiveChunks from rfl) (by decide)
  rw [(once state run stuck).2.2 0 fiveChunks rfl] at left
  exact absurd left (by decide)

end TritonBackend
