import TritonBackend.CollectorCore

/-!
The asynchronous branch of `FlushPendingPinned` at run time. The main thread goes
through the events that it logs; each task it adds runs on a worker, one chunk at a
time, and then decrements the counter of its flush. The task that sees the last value of
the counter starts the final copy of the flush and puts its result on the completion queue.
-/

namespace TritonBackend

open CopyStream

structure Running where
  task : Task
  offset : Nat
  buffers : List ContiguousBuffer

def Task.start (task : Task) : Running := {
  task
  offset := task.offset
  buffers := task.buffers }

inductive TaskEvent
  | copied (flush : Nat)
  | finalized (flush : Nat)
deriving DecidableEq, Repr

def TaskEvent.flush : TaskEvent → Nat
  | .copied flush => flush
  | .finalized flush => flush

/-- `pending` is what the main thread has still to do; `finished` counts the decrements
of each flush's counter; `failed` are the copies that `CopyBuffer` could not start. The slots of
the responses are left out: no device action depends on them. -/
structure AsyncState where
  pending : List Event
  running : List Running
  finished : Nat → Nat
  completions : List Bool
  trace : List TaskEvent
  actions : List (Action Block UInt8)
  failed : List (Copy Block)

def AsyncState.start (pending : List Event) : AsyncState := {
  pending
  running := []
  finished := fun _ => 0
  completions := []
  trace := []
  actions := []
  failed := [] }

/-- One step of the main thread; `completion_queue_.Get()` blocks on an empty queue. -/
def AsyncState.stepMain (state : AsyncState) : Option AsyncState :=
  match state.pending with
  | [] => none
  | .device action :: rest =>
      some { state with pending := rest, actions := state.actions ++ [action] }
  | .failedCopy transfer :: rest =>
      some { state with pending := rest, failed := state.failed ++ [transfer] }
  | .addTask task :: rest =>
      some { state with pending := rest, running := state.running ++ [task.start] }
  | .getCompletion :: rest =>
      match state.completions with
      | [] => none
      | _ :: more => some { state with pending := rest, completions := more }
  | _ :: rest => some { state with pending := rest }

section
variable (env : Env) (cfg : CollectorConfig)

/-- The value that `incomplete_count->fetch_sub(1)` returns. A flush never has more tasks
than its counter, so the `size_t` does not wrap. -/
def AsyncState.fetchSub (state : AsyncState) (task : Task) : Int :=
  task.incompleteCount - state.finished task.flush

def Task.pinnedTensor (task : Task) : Tensor := {
  buffer := task.deferred.pinnedMemory
  byteSize := task.deferred.pinnedMemorySize
  memoryType := task.pinnedMemoryType
  memoryTypeId := task.pinnedMemoryTypeId }

def Sys.workerAt (tick : Nat) : Sys := { Sys.fresh 0 with tick }

/-- `SetInputTensor` on one chunk of a task; `tick` picks the outcome of its calls. -/
def setTaskChunk (tick : Nat) (running : Running) (input : ContiguousBuffer) : Sys :=
  (setInputTensor env cfg (Collector.create (Sys.workerAt tick) false) "pinned async H2H" input
    running.task.pinnedTensor running.offset .cpuPinned false false).2.toSys

def copyTaskChunk (tick : Nat) (running : Running) (input : ContiguousBuffer) :
    List (Action Block UInt8) :=
  (setTaskChunk env cfg tick running input).actions

def finishTask (tick : Nat) (state : AsyncState) (idx : Nat) (task : Task) : AsyncState :=
  let last := state.fetchSub task = 1
  let state := { state with
    running := state.running.eraseIdx idx
    finished := fun flush =>
      if flush = task.flush then state.finished flush + 1 else state.finished flush }
  if last then
    let finalized := finalizeDeferred env (Sys.workerAt tick) task.deferred
    { state with
      completions := state.completions ++ [finalized.1]
      trace := state.trace ++ [.finalized task.flush]
      actions := state.actions ++ finalized.2.actions
      failed := state.failed ++ finalized.2.failed }
  else state

def AsyncState.stepTask (tick : Nat) (state : AsyncState) (idx : Nat) : Option AsyncState :=
  match state.running[idx]? with
  | none => none
  | some running =>
      match running.buffers with
      | input :: rest => some { state with
          running := state.running.set idx
            { running with offset := running.offset + input.byteSize, buffers := rest }
          trace := state.trace ++ [.copied running.task.flush]
          actions := state.actions ++ copyTaskChunk env cfg tick running input
          failed := state.failed ++ (setTaskChunk env cfg tick running input).failed }
      | [] => some (finishTask env tick state idx running.task)

inductive AsyncState.Step : AsyncState → AsyncState → Prop
  | main (state state' : AsyncState) (stepped : state.stepMain = some state') : Step state state'
  | task (tick idx : Nat) (state state' : AsyncState)
      (stepped : state.stepTask env cfg tick idx = some state') : Step state state'

structure AsyncFlush where
  buffers : List ContiguousBuffer
  memory : BackendMemory
  tensor : Tensor

def startFlushes (c : Collector) : List AsyncFlush → Collector
  | [] => c
  | flush :: rest =>
      startFlushes (startAsyncFlush env cfg { c with
        pendingPinnedByteSize := totalByteSize flush.buffers
        pendingPinnedInputBuffers := flush.buffers } flush.memory flush.tensor) rest

def taskSegments (stride : Nat) : Nat → List ContiguousBuffer → List (List ContiguousBuffer)
  | 0, _ => []
  | _ + 1, [] => []
  | fuel + 1, pending =>
      (takeSegment 0 stride pending).1 :: taskSegments stride fuel (takeSegment 0 stride pending).2.2

/-- The main thread from the first flush on: the enqueue steps, then the calls of
`completion_queue_.Get()` in `Finalize`. -/
def startAsync (requestCount : Nat) (flushes : List AsyncFlush) : AsyncState :=
  let c := startFlushes env cfg (Collector.create (Sys.fresh requestCount) false) flushes
  AsyncState.start (c.log ++ List.replicate c.asyncTaskCount .getCompletion)

def asyncSegments (pending : List ContiguousBuffer) : List (List ContiguousBuffer) :=
  taskSegments (asyncStride cfg pending.length) pending.length pending

end

end TritonBackend
