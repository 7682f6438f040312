import TritonBackend.AsyncCompletion
import TritonBackend.Gathering
import TritonBackend.StagedFill

/-!
The main thread under the work queue. It leaves pinned buffers to the tasks that it adds: each
flush has a buffer of its own and no more tasks than its counter. Without the work queue no
task is added.
-/

namespace TritonBackend

open CopyStream

/-! The tasks of a flush. -/

theorem segmentsFrom_append (offset : Nat) (first second : List ContiguousBuffer) :
    segmentsFrom offset (first ++ second) =
      segmentsFrom offset first ++ segmentsFrom (offset + totalByteSize first) second := by
  induction first generalizing offset with
  | nil => rfl
  | cons input rest ih =>
      rw [List.cons_append, segmentsFrom, segmentsFrom, ih, totalByteSize_cons, Nat.add_assoc,
        List.cons_append]

section
variable {task : Nat → List ContiguousBuffer → Task}

theorem mem_laidTasks {offset : Nat} {segments : List (List ContiguousBuffer)} {queued : Task}
    (member : queued ∈ laidTasks task offset segments) :
    ∃ start, ∃ segment ∈ segments, queued = task start segment := by
  induction segments generalizing offset with
  | nil => cases member
  | cons segment rest ih =>
      rcases List.mem_cons.mp member with rfl | later
      · exact ⟨offset, segment, List.mem_cons_self, rfl⟩
      · obtain ⟨start, other, inside, same⟩ := ih later
        exact ⟨start, other, List.mem_cons_of_mem _ inside, same⟩

theorem length_laidTasks (offset : Nat) (segments : List (List ContiguousBuffer)) :
    (laidTasks task offset segments).length = segments.length := by
  induction segments generalizing offset with
  | nil => rfl
  | cons segment rest ih => exact congrArg Nat.succ (ih _)

variable (takes : ∀ offset segment, (task offset segment).buffers = segment)
  (starts : ∀ offset segment, (task offset segment).offset = offset)
include takes

theorem laidTasks_buffers (offset : Nat) (segments : List (List ContiguousBuffer)) :
    (laidTasks task offset segments).flatMap Task.buffers = segments.flatten := by
  induction segments generalizing offset with
  | nil => rfl
  | cons segment rest ih => rw [laidTasks, List.flatMap_cons, takes, ih, List.flatten_cons]

include starts

theorem laidTasks_offset {offset : Nat} {segments : List (List ContiguousBuffer)}
    {before after : List Task} {queued : Task}
    (split : laidTasks task offset segments = before ++ queued :: after) :
    queued.offset = offset + totalByteSize (before.flatMap Task.buffers) := by
  induction segments generalizing offset before with
  | nil => simp [laidTasks] at split
  | cons segment rest ih =>
      cases before with
      | nil =>
          obtain ⟨rfl, -⟩ := List.cons.inj split
          exact starts offset segment
      | cons first before =>
          obtain ⟨rfl, later⟩ := List.cons.inj split
          rw [ih later, List.flatMap_cons, takes, totalByteSize_append, Nat.add_assoc]

theorem laidTasks_fits {offset : Nat} {segments : List (List ContiguousBuffer)} {queued : Task}
    (member : queued ∈ laidTasks task offset segments) :
    queued.offset + totalByteSize queued.buffers ≤ offset + totalByteSize segments.flatten := by
  obtain ⟨before, after, split⟩ := List.append_of_mem member
  rw [laidTasks_offset takes starts split, ← laidTasks_buffers takes offset segments, split,
    List.flatMap_append, List.flatMap_cons, totalByteSize_append, totalByteSize_append]
  omega

theorem laidTasks_segments (offset : Nat) (segments : List (List ContiguousBuffer)) :
    (laidTasks task offset segments).flatMap (fun queued =>
      segmentsFrom queued.offset queued.buffers) = segmentsFrom offset segments.flatten := by
  induction segments generalizing offset with
  | nil => rfl
  | cons segment rest ih =>
      rw [laidTasks, List.flatMap_cons, takes, starts, ih, List.flatten_cons, segmentsFrom_append]

end

/-! What the main thread does. -/

section
variable (cfg : CollectorConfig)

/-- A stretch of the main thread that adds no task and reads no pinned buffer. Under the work
queue it leaves them alone. -/
structure Sys.Minds (s s' : Sys) : Prop where
  adds : ∃ events, s'.log = s.log ++ events ∧
    ∀ action, .device action ∈ events → action.Spares IsStaging
  tasks : addedTasks s'.log = addedTasks s.log
  actions : cfg.useAsyncCpuCopy = true →
    ∀ action ∈ s'.actions, action ∈ s.actions ∨ action.Avoids IsStaging
  blocks : s.nextBlock ≤ s'.nextBlock

theorem Sys.Minds.refl (s : Sys) : s.Minds cfg s :=
  ⟨⟨[], by simp⟩, rfl, fun _ _ => Or.inl, Nat.le_refl _⟩

variable {cfg}

theorem Sys.Minds.trans {s s' s'' : Sys} (first : s.Minds cfg s') (second : s'.Minds cfg s'') :
    s.Minds cfg s'' := by
  obtain ⟨early, log, spares⟩ := first.adds
  obtain ⟨late, log', spares'⟩ := second.adds
  refine ⟨⟨early ++ late, ?_, ?_⟩, second.tasks.trans first.tasks, ?_,
    Nat.le_trans first.blocks second.blocks⟩
  · rw [log', log, List.append_assoc]
  · intro action member
    exact (List.mem_append.mp member).elim (spares action) (spares' action)
  · intro async action member
    exact (second.actions async action member).elim (first.actions async action) Or.inr

theorem Sys.Minds.count (s : Sys) (tick : Nat) {nextBlock : Nat} (later : s.nextBlock ≤ nextBlock) :
    s.Minds cfg { s with tick, nextBlock } := ⟨⟨[], by simp⟩, rfl, fun _ _ => Or.inl, later⟩

theorem Sys.Minds.silent (s : Sys) {event : Event} (noTask : event.task? = none)
    (noAction : event.action? = none) : s.Minds cfg (s.note event) := by
  refine ⟨⟨[event], rfl, ?_⟩, ?_, ?_, Nat.le_refl _⟩
  · intro action member
    rw [List.mem_singleton] at member
    rw [← member] at noAction
    cases noAction
  · simp [addedTasks, noTask]
  · intro async action member
    rw [actions_note, noAction, Option.toList_none, List.append_nil] at member
    exact Or.inl member

theorem Sys.Minds.issue (s : Sys) {action : Action Block UInt8}
    (spares : action.Spares IsStaging)
    (avoids : cfg.useAsyncCpuCopy = true → action.Avoids IsStaging) :
    s.Minds cfg (s.issue action) := by
  refine ⟨⟨[.device action], rfl, ?_⟩, ?_, ?_, Nat.le_refl _⟩
  · intro other member
    rw [List.mem_singleton, Event.device.injEq] at member
    exact member ▸ spares
  · simp [addedTasks, Event.task?]
  · intro async other member
    rw [actions_issue, List.mem_append, List.mem_singleton] at member
    refine member.imp_right fun same => ?_
    rw [same]
    exact avoids async

theorem answers_minds {s s' : Sys} (answers : s.Answers s') : s.Minds cfg s' := by
  obtain ⟨events, log, quiet⟩ := answers_sends answers
  refine ⟨⟨events, log, fun action member => absurd member (quiet action)⟩, (answers_tasks answers).1,
    ?_, Nat.le_of_eq (answers_nextBlock answers).symm⟩
  intro async action member
  rw [answers_actions answers] at member
  exact Or.inl member

theorem copy_spares {action : Action Block UInt8} {transfer : Copy Block}
    (effects : action.effects = [.copy transfer]) (source : ¬ IsStaging transfer.source.block) :
    action.Spares IsStaging := by
  intro effect member block read
  rw [effects, List.mem_singleton] at member
  subst member
  cases read
  exact source

theorem copy_avoids {action : Action Block UInt8} {transfer : Copy Block}
    (effects : action.effects = [.copy transfer]) (source : ¬ IsStaging transfer.source.block)
    (target : ¬ IsStaging transfer.target.block) : action.Avoids IsStaging := by
  intro effect member
  refine ⟨?_, copy_spares effects source effect member⟩
  rw [effects, List.mem_singleton] at member
  subst member
  exact target

theorem CopyOutcome.minds {s s' : Sys} {transfer : Copy Block} {result : CopyResult}
    (outcome : CopyOutcome s transfer result) (answers : result.sys.Answers s')
    (source : ¬ IsStaging transfer.source.block)
    (target : cfg.useAsyncCpuCopy = true → ¬ IsStaging transfer.target.block) : s.Minds cfg s' := by
  refine Sys.Minds.trans ?_ (answers_minds answers)
  cases outcome with
  | host =>
      exact Sys.Minds.issue s (copy_spares rfl source) fun async => copy_avoids rfl source (target async)
  | stream tick =>
      exact (Sys.Minds.count s tick (Nat.le_refl _)).trans
        (Sys.Minds.issue _ (copy_spares rfl source) fun async => copy_avoids rfl source (target async))
  | failed tick error =>
      exact (Sys.Minds.count s tick (Nat.le_refl _)).trans (Sys.Minds.silent _ rfl rfl)

/-- The collector goes from `c` to `c'` without a flush. -/
structure Collector.Keeps (c c' : Collector) : Prop where
  flushes : c'.asyncTaskCount = c.asyncTaskCount
  deferred : c'.deferredPinned = c.deferredPinned
  pinned : c'.pendingPinnedByteSize = c.pendingPinnedByteSize
  chunks : c'.pendingPinnedInputBuffers = c.pendingPinnedInputBuffers

structure Collector.Minds (cfg : CollectorConfig) (c c' : Collector) : Prop where
  sys : c.toSys.Minds cfg c'.toSys
  keeps : c.Keeps c'

theorem Collector.Keeps.trans {c c' c'' : Collector} (first : c.Keeps c') (second : c'.Keeps c'') :
    c.Keeps c'' :=
  ⟨second.flushes.trans first.flushes, second.deferred.trans first.deferred,
    second.pinned.trans first.pinned, second.chunks.trans first.chunks⟩

theorem keeps_sameGroups {c c' : Collector} (groups : c.SameGroups c') : c.Keeps c' := by
  refine ⟨?_, ?_, ?_, ?_⟩ <;> rw [groups]

theorem Collector.Minds.refl (c : Collector) : c.Minds cfg c :=
  ⟨Sys.Minds.refl cfg _, rfl, rfl, rfl, rfl⟩

theorem Collector.Minds.trans {c c' c'' : Collector} (first : c.Minds cfg c')
    (second : c'.Minds cfg c'') : c.Minds cfg c'' :=
  ⟨first.sys.trans second.sys, first.keeps.trans second.keeps⟩

theorem minds_sameGroups {c c' : Collector} (sys : c.toSys.Minds cfg c'.toSys)
    (groups : c.SameGroups c') : c.Minds cfg c' := ⟨sys, keeps_sameGroups groups⟩

end

/-! The operations. -/

section
variable (env : Env) (cfg : CollectorConfig)

theorem directCopy_minds (c : Collector) (inputName : String) (input : ContiguousBuffer)
    (tensor : Tensor) (offset : Nat) (waitBuffer : Bool)
    (place : cfg.useAsyncCpuCopy = true → ¬ IsStaging tensor.buffer.block) :
    c.Minds cfg (directCopy env cfg c inputName input tensor offset waitBuffer).2 := by
  obtain ⟨copied, outcome, _, answers, _⟩ :=
    directCopy_attempt env cfg c inputName input tensor offset waitBuffer
  exact minds_sameGroups
    (outcome.minds answers (source_direct input) place)
    (directCopy_sameGroups env cfg c inputName input tensor offset waitBuffer)

theorem setInputTensors_minds (inputName : String) (tensor : Tensor) (offset : Nat)
    (cudaUsed : Bool) (c : Collector) (inputs : List ContiguousBuffer)
    (place : cfg.useAsyncCpuCopy = true → ¬ IsStaging tensor.buffer.block) :
    c.Minds cfg (setInputTensors env cfg inputName tensor offset cudaUsed c inputs).2 := by
  induction inputs generalizing offset cudaUsed c with
  | nil => exact Collector.Minds.refl c
  | cons input rest ih =>
      refine Collector.Minds.trans ?_ (ih _ _ _)
      by_cases fits : offset + input.byteSize ≤ tensor.byteSize
      · rw [setInputTensor_direct env cfg c inputName input tensor offset true fits]
        exact directCopy_minds env cfg c inputName input tensor offset true place
      · simp only [setInputTensor, gt_iff_lt, Nat.lt_of_not_le fits, if_true]
        exact minds_sameGroups (answers_minds (failRequests_answers _ _ _)) (sameGroups_withSys _ _)

theorem launch_avoids {group : List ContiguousBuffer} (performs : Performs env False group)
    {output : Address} (place : ¬ IsStaging output.block) :
    (Action.stream (V := UInt8) (env.runGatherKernel (segmentsFrom 0 group) output)).Avoids
      IsStaging := by
  have made := performs output
  intro effect member
  simp only [Action.effects] at member
  rw [← launchedJobs_effects made] at member
  obtain ⟨job, inside, rfl⟩ := List.mem_map.mp member
  obtain ⟨origin, present, makes⟩ := launchedJobs_origin made inside
  obtain ⟨before, input, after, _, rfl⟩ := mem_groupJobs present
  refine ⟨fun staging => place ?_, fun block read => ?_⟩
  · rw [Job.effect, Effect.target, makes.target] at staging
    exact staging
  · cases read
    rw [makes.source]
    exact source_direct input

theorem copyKernelFallback_minds (c : Collector) (tensor : Tensor)
    (place : ¬ IsStaging tensor.buffer.block) :
    c.Minds cfg (copyKernelFallback env cfg c tensor).2 :=
  setInputTensors_minds env cfg _ tensor _ false c _ fun _ => place

theorem flushPendingCopyKernel_minds (performs : ∀ group, Performs env False group) (c : Collector)
    (tensor : Tensor) (place : ¬ IsStaging tensor.buffer.block) :
    c.Minds cfg (orSync (flushPendingCopyKernel env cfg c tensor)) := by
  have cleared {result : Bool × Collector} (minds : c.Minds cfg result.2) :
      c.Minds cfg (orSync (result.1, result.2.clearPendingCopyKernel)) :=
    ⟨minds.sys, minds.keeps.flushes, minds.keeps.deferred, minds.keeps.pinned, minds.keeps.chunks⟩
  simp only [flushPendingCopyKernel]
  split
  · exact ⟨Sys.Minds.refl cfg _, rfl, rfl, rfl, rfl⟩
  refine cleared ?_
  split
  · obtain ⟨groups, tick, nextBlock, later, ⟨failed, counts⟩ | ⟨launched, issued⟩⟩ :=
      launchCopyKernel_cases env c tensor
    · have counted : c.Minds cfg (launchCopyKernel env c tensor).2 := by
        refine minds_sameGroups ?_ groups
        rw [counts]
        exact Sys.Minds.count c.toSys tick later
      split
      · exact counted
      · exact counted.trans (copyKernelFallback_minds env cfg _ tensor place)
    · rw [launched]
      refine minds_sameGroups ?_ groups
      rw [issued]
      have avoids := launch_avoids env (performs c.pendingCopyKernelInputBuffers)
        (show ¬ IsStaging (tensor.buffer.advance c.pendingCopyKernelBufferOffset).block from place)
      exact (Sys.Minds.count c.toSys tick later).trans
        (Sys.Minds.issue _ avoids.spares fun _ => avoids)
  · exact copyKernelFallback_minds env cfg c tensor place

/-! The tasks in the log. -/

/-- The buffer that the task helps to fill and the tensor that it is copied to. -/
structure Task.Stages (task : Task) : Prop where
  pinned : IsStaging task.deferred.pinnedMemory.block
  fits : task.offset + totalByteSize task.buffers ≤ task.deferred.pinnedMemorySize
  device : task.deferred.tensorMemoryType = .gpu
  place : ¬ IsStaging task.deferred.tensorBuffer.block

/-- The tasks, in order, are among those that share the chunks of the buffer out, of which
there are no more than the counter says. -/
structure Task.SharesOut (queued : Task) (tasks : List Task)
    (make : Nat → List ContiguousBuffer → Task) (segments : List (List ContiguousBuffer)) : Prop where
  accepted : tasks.Sublist (laidTasks make 0 segments)
  few : segments.length ≤ queued.incompleteCount
  takes : ∀ offset segment, (make offset segment).buffers = segment
  starts : ∀ offset segment, (make offset segment).offset = offset
  deferred : ∀ offset segment, (make offset segment).deferred = queued.deferred
  sized : queued.deferred.pinnedMemorySize = totalByteSize segments.flatten

/-- Each flush has its own buffer, and no more tasks than its counter. -/
structure Queued (tasks : List Task) (flushes blocks : Nat) : Prop where
  stages : ∀ task ∈ tasks, task.Stages
  numbered : ∀ task ∈ tasks, task.flush < flushes ∧
    blockAge task.deferred.pinnedMemory.block ≤ blocks
  apart : ∀ first ∈ tasks, ∀ second ∈ tasks,
    first.deferred.pinnedMemory.block = second.deferred.pinnedMemory.block →
      first.flush = second.flush
  counted : ∀ flush, ∃ counter, 0 < counter ∧
    (tasks.filter fun task => task.flush = flush).length ≤ counter ∧
      ∀ task ∈ tasks, task.flush = flush → task.incompleteCount = counter
  shared : ∀ queued ∈ tasks, ∃ make segments,
    queued.SharesOut (tasks.filter fun task => task.flush = queued.flush) make segments

theorem Queued.mono {tasks : List Task} {flushes blocks blocks' : Nat}
    (queued : Queued tasks flushes blocks) (later : blocks ≤ blocks') :
    Queued tasks flushes blocks' :=
  ⟨queued.stages, fun task member => ⟨(queued.numbered task member).1,
    Nat.le_trans (queued.numbered task member).2 later⟩, queued.apart, queued.counted, queued.shared⟩

theorem Queued.append {tasks added : List Task} {flushes blocks counter : Nat}
    (queued : Queued tasks flushes blocks) (some : 0 < counter) (few : added.length ≤ counter)
    (own : ∀ task ∈ added, task.Stages ∧ task.flush = flushes ∧ task.incompleteCount = counter ∧
      task.deferred.pinnedMemory = stagingAddress blocks)
    (shared : ∀ task ∈ added, ∃ make segments, task.SharesOut added make segments) :
    Queued (tasks ++ added) (flushes + 1) (blocks + 1) := by
  have earlier : (tasks.filter fun task => task.flush = flushes) = [] := by
    refine List.filter_eq_nil_iff.mpr fun task member => ?_
    have bound := (queued.numbered task member).1
    simp only [decide_eq_true_eq]
    omega
  have later {flush : Nat} (other : flush ≠ flushes) :
      (added.filter fun task => task.flush = flush) = [] := by
    refine List.filter_eq_nil_iff.mpr fun task member => ?_
    simp only [decide_eq_true_eq, (own task member).2.1]
    exact Ne.symm other
  have mine : (added.filter fun task => task.flush = flushes) = added :=
    List.filter_eq_self.mpr fun task member => decide_eq_true (own task member).2.1
  constructor
  · intro task member
    exact (List.mem_append.mp member).elim (queued.stages task) fun new => (own task new).1
  · intro task member
    rcases List.mem_append.mp member with before | new
    · have bound := queued.numbered task before
      exact ⟨Nat.lt_succ_of_lt bound.1, Nat.le_succ_of_le bound.2⟩
    · obtain ⟨_, flush, _, block⟩ := own task new
      rw [flush, block]
      exact ⟨Nat.lt_succ_self _, Nat.le_refl _⟩
  · have older (first second : Task) (before : first ∈ tasks) (new : second ∈ added) :
        first.deferred.pinnedMemory.block ≠ second.deferred.pinnedMemory.block := by
      intro same
      have bound := (queued.numbered first before).2
      rw [same, (own second new).2.2.2] at bound
      exact Nat.not_succ_le_self _ bound
    intro first member second member' same
    rcases List.mem_append.mp member with before | new
    · rcases List.mem_append.mp member' with before' | new'
      · exact queued.apart first before second before' same
      · exact absurd same (older first second before new')
    · rcases List.mem_append.mp member' with before' | new'
      · exact absurd same.symm (older second first before' new)
      · rw [(own first new).2.1, (own second new').2.1]
  · intro flush
    by_cases last : flush = flushes
    · subst last
      refine ⟨counter, some, ?_, ?_⟩
      · rw [List.filter_append, earlier, List.nil_append, mine]
        exact few
      · intro task member same
        rcases List.mem_append.mp member with before | new
        · exact absurd same (Nat.ne_of_lt (queued.numbered task before).1)
        · exact (own task new).2.2.1
    · obtain ⟨start, positive, bound, counters⟩ := queued.counted flush
      refine ⟨start, positive, ?_, ?_⟩
      · rwa [List.filter_append, later last, List.append_nil]
      · intro task member same
        rcases List.mem_append.mp member with before | new
        · exact counters task before same
        · exact absurd ((own task new).2.1.symm.trans same) (Ne.symm last)
  · intro task member
    rcases List.mem_append.mp member with before | new
    · rw [List.filter_append, later (Nat.ne_of_lt (queued.numbered task before).1), List.append_nil]
      exact queued.shared task before
    · rw [(own task new).2.1, List.filter_append, earlier, List.nil_append, mine]
      exact shared task new

theorem enqueueTasks_added (task : Nat → List ContiguousBuffer → Task) (stride fuel offset : Nat)
    (pending : List ContiguousBuffer) (s : Sys) :
    let after := enqueueTasks env task stride fuel offset pending s
    (∃ added, addedTasks after.log = addedTasks s.log ++ added ∧
      added.Sublist (laidTasks task offset (taskSegments stride fuel pending))) ∧
    after.actions = s.actions ∧ after.nextBlock = s.nextBlock := by
  induction fuel generalizing offset pending s with
  | zero => exact ⟨⟨[], by simp [enqueueTasks]⟩, rfl, rfl⟩
  | succ fuel ih =>
      cases pending with
      | nil => exact ⟨⟨[], by simp [enqueueTasks]⟩, rfl, rfl⟩
      | cons input rest =>
          simp only [enqueueTasks, taskSegments, takeSegment_eq, laidTasks]
          obtain ⟨converted, failed⟩ := commonErrorToTritonError_some (env.addTask s.tick)
          rw [failed]
          let noted : Sys := if (env.addTask s.tick).code = .success then
            ({ s with tick := s.tick + 1 } : Sys).note
              (.addTask (task offset ((input :: rest).take stride)))
            else { s with tick := s.tick + 1 }
          have first : ∃ own, addedTasks noted.log = addedTasks s.log ++ own ∧
              own.Sublist [task offset ((input :: rest).take stride)] ∧
              noted.actions = s.actions ∧ noted.nextBlock = s.nextBlock := by
            by_cases accepted : (env.addTask s.tick).code = .success
            · refine ⟨[task offset ((input :: rest).take stride)], ?_⟩
              simp [noted, accepted, addedTasks, Event.task?, Event.action?, Sys.actions]
            · refine ⟨[], ?_⟩
              simp [noted, accepted, Sys.actions]
          obtain ⟨own, tasks, mine, actions, block⟩ := first
          have answers := failAllRequests_answers noted (some converted) ((input :: rest).take stride)
          obtain ⟨⟨added, later, others⟩, laterActions, laterBlock⟩ :=
            ih (offset + totalByteSize ((input :: rest).take stride)) ((input :: rest).drop stride)
              (failAllRequests noted (some converted) ((input :: rest).take stride))
          refine ⟨⟨own ++ added, ?_, mine.append others⟩, ?_, ?_⟩
          · rw [← List.append_assoc, ← tasks, ← (answers_tasks answers).1]
            exact later
          · exact laterActions.trans ((answers_actions answers).trans actions)
          · exact laterBlock.trans ((answers_nextBlock answers).trans block)

structure Collector.Dispatches (c : Collector) : Prop where
  actions : cfg.useAsyncCpuCopy = true → ∀ action ∈ c.actions, action.Avoids IsStaging
  queued : Queued (addedTasks c.log) c.asyncTaskCount c.nextBlock
  sync : cfg.useAsyncCpuCopy = false → addedTasks c.log = []
  finalized : cfg.useAsyncCpuCopy = true → ∀ deferred ∈ c.deferredPinned, deferred.finalized = true
  reads : ReadsStocked c.log
  stocked : ∀ deferred ∈ c.deferredPinned, deferred.finalized = false →
    Stocked c.actions c.toSys.failed deferred.pinnedMemory deferred.pinnedMemorySize
  sized : c.pendingPinnedByteSize = totalByteSize c.pendingPinnedInputBuffers

variable {env cfg}

theorem Collector.Dispatches.minds {c c' : Collector} (dispatches : c.Dispatches cfg)
    (minds : c.Minds cfg c') : c'.Dispatches cfg := by
  obtain ⟨events, log, spares⟩ := minds.sys.adds
  constructor
  · intro async action member
    exact (minds.sys.actions async action member).elim (dispatches.actions async action) id
  · rw [minds.sys.tasks, minds.keeps.flushes]
    exact dispatches.queued.mono minds.sys.blocks
  · intro sync
    rw [minds.sys.tasks, dispatches.sync sync]
  · intro async
    rw [minds.keeps.deferred]
    exact dispatches.finalized async
  · rw [log]
    exact dispatches.reads.extend spares
  · rw [minds.keeps.deferred]
    intro deferred member unfinished
    exact (dispatches.stocked deferred member unfinished).grows ⟨events, log.symm⟩
  · rw [minds.keeps.pinned, minds.keeps.chunks]
    exact dispatches.sized

/-- Without the work queue a stocked buffer may be copied out of. -/
theorem Collector.Dispatches.copied (sync : cfg.useAsyncCpuCopy = false) {c c' : Collector}
    (dispatches : c.Dispatches cfg) {transfer : Copy Block} {result : CopyResult}
    (outcome : CopyOutcome c.toSys transfer result) (answers : result.sys.Answers c'.toSys)
    (keeps : c.Keeps c')
    (stocked : Stocked c.actions c.toSys.failed transfer.source transfer.byteSize) :
    c'.Dispatches cfg := by
  have never {conclusion : Prop} (async : cfg.useAsyncCpuCopy = true) : conclusion := by
    rw [sync] at async
    cases async
  have tasks : addedTasks c'.log = [] := by
    rw [(answers_tasks answers).1, ← dispatches.sync sync]
    cases outcome with
    | host => simp [addedTasks, Sys.issue, Sys.note, Event.task?]
    | stream tick => simp [addedTasks, Sys.issue, Sys.note, Event.task?]
    | failed tick error => simp [addedTasks, Sys.note, Event.task?]
  have grows := reaches_log (outcome.reaches.trans answers.reaches)
  constructor
  · exact never
  · rw [tasks]
    exact ⟨by simp, by simp, by simp, fun flush => ⟨1, by simp⟩, by simp⟩
  · exact fun _ => tasks
  · exact never
  · exact dispatches.reads.copied outcome answers stocked
  · rw [keeps.deferred]
    intro deferred member unfinished
    exact (dispatches.stocked deferred member unfinished).grows grows
  · rw [keeps.pinned, keeps.chunks]
    exact dispatches.sized

theorem stagePinned_dispatches (sync : cfg.useAsyncCpuCopy = false) {c : Collector}
    {memory : BackendMemory} {tensor : Tensor} (dispatches : c.Dispatches cfg) :
    (stagePinned env cfg c memory tensor).2.Dispatches cfg := by
  let pinned : Tensor := {
    buffer := memory.memoryPtr
    byteSize := c.pendingPinnedByteSize
    memoryType := .cpuPinned
    memoryTypeId := 0 }
  have staged := setInputTensors_minds env cfg "pinned H2H" pinned 0 false c
    c.pendingPinnedInputBuffers fun async => absurd (sync.symm.trans async) Bool.false_ne_true
  have filled := setInputTensors_tried env cfg "pinned H2H" pinned 0 false c
    c.pendingPinnedInputBuffers (by rw [Nat.zero_add, ← dispatches.sized])
  simp only [stagePinned]
  generalize setInputTensors env cfg "pinned H2H" pinned 0 false c c.pendingPinnedInputBuffers = result
    at staged filled ⊢
  have kept := dispatches.minds staged
  have stocked : Stocked result.2.actions result.2.toSys.failed memory.memoryPtr
      result.2.pendingPinnedByteSize :=
    ⟨c.pendingPinnedInputBuffers, by rw [staged.keeps.pinned, dispatches.sized], filled⟩
  split
  · refine ⟨kept.actions, kept.queued, kept.sync, ?_, kept.reads, ?_, kept.sized⟩
    · exact fun async => absurd (sync.symm.trans async) Bool.false_ne_true
    · intro deferred member unfinished
      rcases List.mem_append.mp member with before | new
      · exact kept.stocked deferred before unfinished
      · rw [List.mem_singleton] at new
        rw [new]
        exact stocked
  · obtain ⟨copied, outcome, _, answers, _⟩ := copyPinned_attempt env cfg result.2 memory tensor
    exact kept.copied sync outcome answers
      (keeps_sameGroups (copyPinned_sameGroups env cfg result.2 memory tensor)) stocked

theorem workerCount_pos (async : cfg.useAsyncCpuCopy = true) : 0 < cfg.workerCount := by
  simp only [CollectorConfig.useAsyncCpuCopy, decide_eq_true_eq] at async
  omega

/-- The stride never makes more segments than there are workers. -/
theorem asyncSegments_few (workers : 0 < cfg.workerCount) {pending : List ContiguousBuffer}
    (some : pending ≠ []) :
    (asyncSegments cfg pending).length ≤ min pending.length cfg.workerCount := by
  have count := List.length_pos_of_ne_nil some
  have bound := taskCount_le cfg pending.length workers count
  rwa [← taskSegments_length _ _ _ (asyncStride_pos workers count) (Nat.le_refl _)] at bound

theorem startAsyncFlush_queued (async : cfg.useAsyncCpuCopy = true) {c : Collector} {tick : Nat}
    {memory : BackendMemory} {tensor : Tensor} (dispatches : c.Dispatches cfg)
    (pointer : memory.memoryPtr = stagingAddress c.nextBlock) (device : tensor.memoryType = .gpu)
    (place : ¬ IsStaging tensor.buffer.block) :
    let begun := c.withSys { c.toSys with tick, nextBlock := c.nextBlock + 1 }
    let flushed := startAsyncFlush env cfg begun memory tensor
    Queued (addedTasks flushed.log) flushed.asyncTaskCount flushed.nextBlock := by
  intro begun flushed
  have workers := workerCount_pos async
  let make (offset : Nat) (buffers : List ContiguousBuffer) : Task := {
    flush := c.asyncTaskCount
    incompleteCount := min c.pendingPinnedInputBuffers.length cfg.workerCount
    offset, buffers
    deferred := c.deferral memory.memoryPtr tensor true
    pinnedMemoryType := memory.memoryType
    pinnedMemoryTypeId := memory.memoryTypeId }
  let segments := asyncSegments cfg c.pendingPinnedInputBuffers
  obtain ⟨⟨added, tasks, accepted⟩, _, block⟩ := enqueueTasks_added env make
    (asyncStride cfg c.pendingPinnedInputBuffers.length) c.pendingPinnedInputBuffers.length 0
    c.pendingPinnedInputBuffers begun.toSys
  have sized : c.pendingPinnedByteSize = totalByteSize segments.flatten := by
    rw [dispatches.sized, asyncSegments_flatten cfg workers]
  have stages : ∀ task ∈ added, task.Stages ∧ task.flush = c.asyncTaskCount ∧
      task.incompleteCount = min c.pendingPinnedInputBuffers.length cfg.workerCount ∧
      task.deferred.pinnedMemory = stagingAddress c.nextBlock := by
    intro task member
    have fits := laidTasks_fits (fun _ _ => rfl) (fun _ _ => rfl) (accepted.subset member)
    obtain ⟨offset, buffers, _, rfl⟩ := mem_laidTasks (accepted.subset member)
    refine ⟨⟨⟨c.nextBlock, congrArg Pointer.block pointer⟩, ?_, device, place⟩, rfl, rfl, pointer⟩
    rw [Nat.zero_add] at fits
    exact Nat.le_trans fits (Nat.le_of_eq sized.symm)
  have counted := accepted.length_le
  rw [length_laidTasks] at counted
  have grown : Queued (addedTasks c.log ++ added) (c.asyncTaskCount + 1) (c.nextBlock + 1) := by
    by_cases some : c.pendingPinnedInputBuffers = []
    · have none : added = [] := by
        rw [some] at counted
        exact List.eq_nil_of_length_eq_zero (Nat.le_zero.mp counted)
      refine dispatches.queued.append Nat.one_pos ?_ ?_ ?_
      · simp [none]
      · simp [none]
      · simp [none]
    · have few := asyncSegments_few workers some
      refine dispatches.queued.append
        (Nat.lt_min.mpr ⟨List.length_pos_of_ne_nil some, workers⟩) (Nat.le_trans counted few) stages ?_
      intro task member
      obtain ⟨offset, buffers, _, rfl⟩ := mem_laidTasks (accepted.subset member)
      exact ⟨make, segments, accepted, few, fun _ _ => rfl, fun _ _ => rfl, fun _ _ => rfl, sized⟩
  have same : addedTasks flushed.log = addedTasks c.log ++ added := tasks
  rw [same]
  exact grown.mono (Nat.le_of_eq block.symm)

theorem startAsyncFlush_dispatches (async : cfg.useAsyncCpuCopy = true) {c : Collector} {tick : Nat}
    {memory : BackendMemory} {tensor : Tensor} (dispatches : c.Dispatches cfg)
    (pointer : memory.memoryPtr = stagingAddress c.nextBlock) (device : tensor.memoryType = .gpu)
    (place : ¬ IsStaging tensor.buffer.block) :
    (startAsyncFlush env cfg (c.withSys { c.toSys with tick, nextBlock := c.nextBlock + 1 }) memory
      tensor).Dispatches cfg := by
  let begun := c.withSys { c.toSys with tick, nextBlock := c.nextBlock + 1 }
  have quiet : (startAsyncFlush env cfg begun memory tensor).actions = c.actions :=
    (enqueueTasks_added env _ _ _ _ _ _).2.1
  have grows : c.log <+: (startAsyncFlush env cfg begun memory tensor).log :=
    reaches_log (s := begun.toSys) (enqueueTasks_reaches env _ _ _ _ _ _)
  constructor
  · intro _ action member
    exact dispatches.actions async action (quiet ▸ member)
  · exact startAsyncFlush_queued async dispatches pointer device place
  · intro sync
    rw [async] at sync
    cases sync
  · intro _ deferred member
    rcases List.mem_append.mp member with before | new
    · exact dispatches.finalized async deferred before
    · rw [List.mem_singleton] at new
      rw [new]
      rfl
  · obtain ⟨events, log⟩ := grows
    have inactive := inactive_of_actions log quiet
    have same : (startAsyncFlush env cfg begun memory tensor).log = c.log ++ events := log.symm
    rw [same]
    refine dispatches.reads.extend fun action member => ?_
    cases inactive _ member
  · intro deferred member unfinished
    rcases List.mem_append.mp member with before | new
    · exact (dispatches.stocked deferred before unfinished).grows grows
    · rw [List.mem_singleton] at new
      rw [new] at unfinished
      cases unfinished
  · exact dispatches.sized

/-- Under the work queue only a tensor on the device has bytes to be staged. -/
structure Collector.DispatchesFor (cfg : CollectorConfig) (tensor : Tensor) (c : Collector) :
    Prop where
  dispatches : c.Dispatches cfg
  spared : cfg.useAsyncCpuCopy = true → tensor.memoryType ≠ .gpu → c.pendingPinnedByteSize = 0

theorem Collector.DispatchesFor.minds {tensor : Tensor} {c c' : Collector}
    (dispatches : c.DispatchesFor cfg tensor) (minds : c.Minds cfg c') :
    c'.DispatchesFor cfg tensor := by
  refine ⟨dispatches.dispatches.minds minds, ?_⟩
  rw [minds.keeps.pinned]
  exact dispatches.spared

theorem flushPendingPinned_dispatches {tensor : Tensor} {c : Collector}
    (dispatches : c.DispatchesFor cfg tensor) (place : ¬ IsStaging tensor.buffer.block) :
    let c' := orSync (flushPendingPinned env cfg c tensor)
    c'.Dispatches cfg ∧ c'.pendingPinnedByteSize = 0 := by
  refine ⟨?_, rfl⟩
  have cleared {result : Bool × Collector} (kept : result.2.Dispatches cfg) :
      (orSync (result.1, result.2.clearPendingPinned)).Dispatches cfg :=
    ⟨kept.actions, kept.queued, kept.sync, kept.finalized, kept.reads, kept.stocked, rfl⟩
  simp only [flushPendingPinned]
  refine cleared ?_
  rcases allocatePinned_cases env c with
    ⟨tick, memory, pointer, bytes, allocated⟩ | ⟨tick, allocated⟩
  · simp only [allocated]
    have counted : c.Minds cfg (c.withSys { c.toSys with tick, nextBlock := c.nextBlock + 1 }) :=
      minds_sameGroups (Sys.Minds.count c.toSys tick (Nat.le_succ _)) (sameGroups_withSys c _)
    split
    next async =>
      refine startAsyncFlush_dispatches async dispatches.dispatches pointer ?_ place
      by_contra other
      exact absurd (dispatches.spared async other) (Nat.ne_of_gt bytes)
    next sync =>
      rw [Bool.not_eq_true] at sync
      exact stagePinned_dispatches sync (dispatches.dispatches.minds counted)
  · simp only [allocated]
    have counted : c.Minds cfg (c.withSys { c.toSys with tick }) :=
      minds_sameGroups (Sys.Minds.count c.toSys tick (Nat.le_refl _)) (sameGroups_withSys c _)
    exact dispatches.dispatches.minds
      (counted.trans (setInputTensors_minds env cfg _ tensor _ false _ _ fun _ => place))

/-- The chunk may wait for a pinned buffer: the tensor is on the device, or it has no bytes. -/
def StagesInOrder (cfg : CollectorConfig) (tensor : Tensor) (offset : Nat)
    (input : ContiguousBuffer) : Prop :=
  cfg.useAsyncCpuCopy = true → tensor.memoryType ≠ .gpu →
    pinnedBound cfg tensor offset input = true → input.byteSize = 0

theorem setInputTensor_dispatches {tensor : Tensor} {c : Collector}
    (dispatches : c.DispatchesFor cfg tensor) (place : ¬ IsStaging tensor.buffer.block)
    (inputName : String) {offset : Nat} {input : ContiguousBuffer}
    (ordered : StagesInOrder cfg tensor offset input) :
    (orSync (setInputTensor env cfg c inputName input tensor offset
      (usePinnedMemoryType cfg tensor) (useKernel cfg) true)).DispatchesFor cfg tensor := by
  have noted {result : Bool × Collector} (minds : c.Minds cfg result.2) :
      (orSync result).DispatchesFor cfg tensor :=
    dispatches.minds ⟨minds.sys, minds.keeps.flushes, minds.keeps.deferred, minds.keeps.pinned, minds.keeps.chunks⟩
  simp only [setInputTensor]
  split
  · exact noted (minds_sameGroups (answers_minds (failRequests_answers _ _ _)) (sameGroups_withSys _ _))
  next fits =>
    split
    next staged =>
      refine ⟨?_, ?_⟩
      · obtain ⟨actions, queued, sync, finalized, reads, stocked, sized⟩ := dispatches.dispatches
        refine ⟨actions, queued, sync, finalized, reads, stocked, ?_⟩
        simp [orSync, Collector.addPendingPinned, sized, totalByteSize_append]
      · intro async host
        have empty := ordered async host (by simp [pinnedBound, fitsTensor, staged]; omega)
        simp [orSync, Collector.addPendingPinned, dispatches.spared async host, empty]
    next unstaged =>
      split
      · exact noted ⟨Sys.Minds.refl cfg _, rfl, rfl, rfl, rfl⟩
      · exact noted (directCopy_minds env cfg c inputName input tensor offset true fun _ => place)

theorem processChunk_dispatches (performs : ∀ group, Performs env False group) {tensor : Tensor}
    {c : Collector} (dispatches : c.DispatchesFor cfg tensor)
    (place : ¬ IsStaging tensor.buffer.block) (inputName : String) {offset : Nat}
    {input : ContiguousBuffer} (ordered : StagesInOrder cfg tensor offset input) :
    (processChunk env cfg inputName tensor c offset input).DispatchesFor cfg tensor := by
  have pinned : (flushPinnedBefore env cfg c tensor offset).DispatchesFor cfg tensor := by
    simp only [flushPinnedBefore]
    split
    · obtain ⟨kept, empty⟩ := flushPendingPinned_dispatches dispatches place
      exact ⟨kept, fun _ _ => empty⟩
    · exact dispatches
  refine setInputTensor_dispatches ?_ place inputName ordered
  rw [flushCopyKernelBefore]
  split
  · exact pinned.minds (flushPendingCopyKernel_minds env cfg performs _ tensor place)
  · exact pinned

theorem processChunksFrom_dispatches (performs : ∀ group, Performs env False group)
    {tensor : Tensor} {c : Collector} (dispatches : c.DispatchesFor cfg tensor)
    (place : ¬ IsStaging tensor.buffer.block) (inputName : String) {offset : Nat}
    {chunks : List ContiguousBuffer}
    (ordered : ∀ before input after, chunks = before ++ input :: after →
      StagesInOrder cfg tensor (offset + totalByteSize before) input) :
    (processChunksFrom env cfg inputName tensor c offset chunks).DispatchesFor cfg tensor := by
  induction chunks generalizing c offset with
  | nil => exact dispatches
  | cons input rest ih =>
      have first := ordered [] input rest rfl
      rw [totalByteSize_nil, Nat.add_zero] at first
      refine ih (processChunk_dispatches performs dispatches place inputName first) ?_
      intro before later after split
      have shifted := ordered (input :: before) later after (by rw [split, List.cons_append])
      rwa [totalByteSize_cons, ← Nat.add_assoc] at shifted

theorem recordEvent_minds (c : Collector) : c.Minds cfg (c.recordEvent cfg) := by
  rw [Collector.recordEvent]
  split
  · have avoids : (Action.record : Action Block UInt8).Avoids IsStaging := by
      simp [Action.Avoids, Action.effects]
    exact minds_sameGroups (Sys.Minds.issue _ avoids.spares fun _ => avoids) (sameGroups_withSys _ _)
  · exact Collector.Minds.refl c

theorem processChunks_dispatches (performs : ∀ group, Performs env False group) {c : Collector}
    {call : TensorCall} (dispatches : c.Dispatches cfg) (idle : c.pendingPinnedByteSize = 0)
    (place : ¬ IsStaging call.tensor.buffer.block)
    (ordered : ∀ before input after, call.chunks = before ++ input :: after →
      StagesInOrder cfg call.tensor (totalByteSize before) input) :
    let c' := processChunks env cfg call.inputName call.tensor c call.chunks
    c'.Dispatches cfg ∧ c'.pendingPinnedByteSize = 0 := by
  have chunks : (processChunksFrom env cfg call.inputName call.tensor c 0
      call.chunks).DispatchesFor cfg call.tensor :=
    processChunksFrom_dispatches performs ⟨dispatches, fun _ _ => idle⟩ place call.inputName
      (by simpa using ordered)
  obtain ⟨flushed, empty⟩ := flushPendingPinned_dispatches chunks place
  have launched := flushPendingCopyKernel_minds env cfg performs (orSync (flushPendingPinned env cfg
    (processChunksFrom env cfg call.inputName call.tensor c 0 call.chunks) call.tensor)) call.tensor
    place
  have minds := launched.trans (recordEvent_minds _)
  exact ⟨flushed.minds minds, minds.keeps.pinned.trans empty⟩

theorem gatherTensors_dispatches (performs : ∀ group, Performs env False group) {c : Collector}
    {calls : List TensorCall} (dispatches : c.Dispatches cfg) (idle : c.pendingPinnedByteSize = 0)
    (place : ∀ call ∈ calls, ¬ IsStaging call.tensor.buffer.block)
    (ordered : ∀ call ∈ calls, ∀ before input after, call.chunks = before ++ input :: after →
      StagesInOrder cfg call.tensor (totalByteSize before) input) :
    (gatherTensors env cfg c calls).Dispatches cfg := by
  induction calls generalizing c with
  | nil => exact dispatches
  | cons call rest ih =>
      obtain ⟨kept, empty⟩ := processChunks_dispatches performs dispatches idle
        (place call List.mem_cons_self) (ordered call List.mem_cons_self)
      exact ih kept empty (fun other member => place other (List.mem_cons_of_mem _ member))
        (fun other member => ordered other (List.mem_cons_of_mem _ member))

theorem finalizeAll_dispatches {c : Collector} (dispatches : c.Dispatches cfg)
    {blocks : List DeferredPinned} (inside : blocks ⊆ c.deferredPinned) :
    (finalizeAll env c blocks).Dispatches cfg := by
  induction blocks generalizing c with
  | nil => exact dispatches
  | cons deferred rest ih =>
      have first := inside List.mem_cons_self
      have later : rest ⊆ c.deferredPinned := fun other member =>
        inside (List.mem_cons_of_mem _ member)
      simp only [finalizeAll]
      split
      · exact ih dispatches later
      next unfinished =>
        rw [Bool.not_eq_true] at unfinished
        have sync : cfg.useAsyncCpuCopy = false := by
          by_contra async
          rw [Bool.not_eq_false] at async
          have ended := dispatches.finalized async deferred first
          rw [unfinished] at ended
          cases ended
        obtain ⟨copied, outcome, _, answers, _⟩ := finalizeDeferred_attempt env c.toSys deferred
        exact ih (dispatches.copied sync outcome answers ⟨rfl, rfl, rfl, rfl⟩
          (dispatches.stocked deferred first unfinished)) later

variable (env) in
theorem getCompletions_minds (c : Collector) (count : Nat) :
    c.Minds cfg (getCompletions env c count) := by
  induction count generalizing c with
  | zero => exact Collector.Minds.refl c
  | succ count ih =>
      refine Collector.Minds.trans ?_ (ih _)
      have noted : c.toSys.Minds cfg (c.toSys.note .getCompletion) := Sys.Minds.silent _ rfl rfl
      exact ⟨⟨noted.adds, noted.tasks, noted.actions, noted.blocks⟩, rfl, rfl, rfl, rfl⟩

theorem await_minds (s : Sys) :
    s.Minds cfg (s.issue (if cfg.event then .awaitEvent else .awaitStream)) := by
  have avoids : (if cfg.event then .awaitEvent else .awaitStream : Action Block UInt8).Avoids
      IsStaging := by
    split <;> simp [Action.Avoids, Action.effects]
  exact Sys.Minds.issue s avoids.spares fun _ => avoids

theorem waitDeferred_minds (c : Collector) : c.Minds cfg (waitDeferred cfg c) := by
  rw [waitDeferred]
  split
  · exact ⟨await_minds c.toSys, rfl, rfl, rfl, rfl⟩
  · exact Collector.Minds.refl c

theorem finalize_dispatches {c : Collector} (dispatches : c.Dispatches cfg) :
    (finalize env cfg c).2.Dispatches cfg := by
  have waited : c.Minds cfg (waitDeferred cfg c).waitBufferReady := by
    refine (waitDeferred_minds c).trans (minds_sameGroups ?_ (sameGroups_waitBufferReady _))
    rw [toSys_waitBufferReady]
    exact Sys.Minds.refl cfg _
  simp only [finalize]
  generalize (waitDeferred cfg c).waitBufferReady = ready at waited ⊢
  have drained : (finalizeAll env ready ready.deferredPinned).Dispatches cfg :=
    finalizeAll_dispatches (dispatches.minds waited) (List.Subset.refl _)
  have answered := drained.minds (getCompletions_minds env _
    (finalizeAll env ready ready.deferredPinned).asyncTaskCount)
  split
  · exact answered.minds (recordEvent_minds _)
  · exact answered

variable (cfg) in
theorem synchronize_minds (c : Collector) (needSync : Bool) :
    c.toSys.Minds cfg (synchronize cfg c needSync) := by
  rw [synchronize]
  split
  · exact await_minds c.toSys
  · exact Sys.Minds.refl cfg _

theorem create_dispatches {s : Sys} (fresh : s.log = []) (bufferReadyEvent : Bool) :
    (Collector.create s bufferReadyEvent).Dispatches cfg := by
  have none : addedTasks (Collector.create s bufferReadyEvent).log = [] := by
    simp [Collector.create, fresh, addedTasks]
  refine ⟨?_, ?_, fun _ => none, by simp [Collector.create], ?_, by simp [Collector.create], rfl⟩
  · simp [Sys.actions, Collector.create, fresh]
  · rw [none]
    exact ⟨by simp, by simp, by simp, fun flush => ⟨1, by simp⟩, by simp⟩
  · intro before action after split
    simp [Collector.create, fresh] at split

structure Dispatched (cfg : CollectorConfig) (s : Sys) : Prop where
  actions : cfg.useAsyncCpuCopy = true → ∀ action ∈ s.actions, action.Avoids IsStaging
  queued : ∃ flushes blocks, Queued (addedTasks s.log) flushes blocks
  sync : cfg.useAsyncCpuCopy = false → addedTasks s.log = []
  reads : ReadsStocked s.log

theorem gatherAndFinalize_dispatches (performs : ∀ group, Performs env False group) {s : Sys}
    (fresh : s.log = []) (bufferReadyEvent : Bool) {calls : List TensorCall}
    (place : ∀ call ∈ calls, ¬ IsStaging call.tensor.buffer.block)
    (ordered : ∀ call ∈ calls, ∀ before input after, call.chunks = before ++ input :: after →
      StagesInOrder cfg call.tensor (totalByteSize before) input) :
    Dispatched cfg (gatherAndFinalize env cfg s bufferReadyEvent calls) := by
  have gathered := gatherTensors_dispatches performs (create_dispatches fresh bufferReadyEvent) rfl
    place ordered
  have finished : (finalize env cfg (gatherTensors env cfg (Collector.create s bufferReadyEvent)
    calls)).2.Dispatches cfg := finalize_dispatches gathered
  have minds := synchronize_minds cfg
    (finalize env cfg (gatherTensors env cfg (Collector.create s bufferReadyEvent) calls)).2
    (finalize env cfg (gatherTensors env cfg (Collector.create s bufferReadyEvent) calls)).1
  have tasks : addedTasks (gatherAndFinalize env cfg s bufferReadyEvent calls).log = addedTasks
      (finalize env cfg (gatherTensors env cfg (Collector.create s bufferReadyEvent) calls)).2.log :=
    minds.tasks
  refine ⟨fun async action member => ?_, ?_, fun sync => tasks.trans (finished.sync sync), ?_⟩
  · exact (minds.actions async action member).elim (finished.actions async action) id
  · rw [tasks]
    exact ⟨_, _, finished.queued⟩
  · obtain ⟨events, log, spares⟩ := minds.adds
    have whole : (gatherAndFinalize env cfg s bufferReadyEvent calls).log = _ := log
    rw [whole]
    exact finished.reads.extend spares

end

end TritonBackend
