import TritonBackend.BackendKinds
import TritonBackend.LifecycleRuns

/-!
Where the states and the streams of a backend are, and by which calls they go: a finalization
deletes what it is given back, and the ways to lose something are few.
-/

namespace TritonBackend

open Custody

namespace Lifecycle

section
variable {Value State Work : Type} [TritonJsonMembers Value]

/-- Every state and every stream is in one place: it is held by an object that is still there,
has been deleted, or has been lost. A stream is destroyed with its instance. -/
structure Owned (b : Lifecycle Value State) : Prop where
  models : (List.range b.models.cells.length).Perm
    (b.models.held ++ b.models.deleted ++ b.models.lost)
  instances : (List.range b.instances.cells.length).Perm
    (b.instances.held ++ b.instances.deleted ++ b.instances.lost)
  streams : (List.range b.cuda.streams.length).Perm (b.instances.held.filterMap b.streamOf ++
    b.cuda.destroyed ++ b.instances.lost.filterMap b.streamOf ++ b.abandoned)
  destroyed : b.cuda.destroyed = b.instances.deleted.filterMap b.streamOf

/-- What a finalization does that reads the state back. -/
structure Finalizes (b : Lifecycle Value State) : Prop where
  model : ∀ model pointer, b.models.Open model → b.models.pointer model = some pointer →
    (b.modelFinalize model none).2.models.deleted = b.models.deleted ++ [pointer]
  inst : ∀ idx pointer, b.instances.Open idx → b.instances.pointer idx = some pointer →
    (b.instanceFinalize idx none).2.instances.deleted = b.instances.deleted ++ [pointer] ∧
      (b.instanceFinalize idx none).2.cuda.destroyed =
        b.cuda.destroyed ++ (b.streamOf pointer).toList

section
variable (growth : Growable.Growth) (answers : CudaAnswers) (kind : BackendKind Value State Work)
  (device : Int)

/-- A call in a run that leads to `last`. -/
structure Happens (b : Lifecycle Value State) (done : CallResult × Lifecycle Value State)
    (last : Lifecycle Value State) : Prop where
  before : Reaches growth answers kind (fresh device) b
  calls : Calls growth answers kind b done
  after : Reaches growth answers kind done.2 last

/-- The calls by which states and streams went. -/
structure Accounted (last : Lifecycle Value State) : Prop where
  modelsDeleted : ∀ pointer ∈ last.models.deleted, ∃ b model, b.models.pointer model = some pointer ∧
    Happens growth answers kind device b (b.modelFinalize model none) last
  modelsLost : ∀ pointer ∈ last.models.lost, ∃ b,
    (∃ server error, server.modelSetState = some error ∧ pointer = b.models.cells.length ∧
      Happens growth answers kind device b (b.modelInitialize growth kind server) last) ∨
    ∃ model error, b.models.pointer model = some pointer ∧
      Happens growth answers kind device b (b.modelFinalize model (some error)) last
  instancesDeleted : ∀ pointer ∈ last.instances.deleted, ∃ b idx,
    b.instances.pointer idx = some pointer ∧
      Happens growth answers kind device b (b.instanceFinalize idx none) last
  instancesLost : ∀ pointer ∈ last.instances.lost, ∃ b,
    (∃ model server error, server.modelInstanceSetState = some error ∧
      pointer = b.instances.cells.length ∧
      Happens growth answers kind device b (b.instanceInitialize answers kind model server) last) ∨
    ∃ idx error, b.instances.pointer idx = some pointer ∧
      Happens growth answers kind device b (b.instanceFinalize idx (some error)) last
  abandoned : ∀ stream ∈ last.abandoned, ∃ b model server exception,
    server.modelInstanceKind = .ok .gpu ∧
      (∃ name, chooseHostPolicy server name = .error exception) ∧
      stream = b.cuda.streams.length ∧
      Happens growth answers kind device b (b.instanceInitialize answers kind model server) last

end

variable {growth : Growable.Growth} {answers : CudaAnswers} {kind : BackendKind Value State Work}
  {device : Int} {b last : Lifecycle Value State}

theorem Orderly.owned (orderly : Orderly answers device b) : Owned b where
  models := orderly.models.placed
  instances := orderly.instances.placed
  streams := by
    have cells : (List.range b.instances.cells.length).filterMap b.streamOf =
        b.instances.cells.filterMap fun inst => inst.stream := filterMap_range _ _
    have placed := orderly.instances.placed.filterMap b.streamOf
    rw [cells, List.filterMap_append, List.filterMap_append, ← orderly.destroyed] at placed
    exact orderly.streams.trans (placed.append_right _)
  destroyed := orderly.destroyed

theorem Orderly.finalizes (orderly : Orderly answers device b) : Finalizes b where
  model model pointer isOpen given := by
    unfold modelFinalize
    rw [orderly.models.sound isOpen]
    exact close_deleted given
  inst idx pointer isOpen given := by
    unfold instanceFinalize
    rw [orderly.instances.sound isOpen]
    refine ⟨close_deleted given, ?_⟩
    obtain ⟨holder, here, still⟩ := isOpen
    have own : holder.cell = some pointer := by
      rw [Store.pointer, here] at given
      exact given
    obtain ⟨_, _, destroyed⟩ := close_destroyed orderly here (orderly.state here still) true
    rw [close_deleted given, List.filterMap_append, ← orderly.destroyed] at destroyed
    refine destroyed.trans (congrArg _ ?_)
    rw [List.filterMap_cons]
    cases b.streamOf pointer <;> rfl

/-! What one call does. -/

theorem calls_models_leave {done : CallResult × Lifecycle Value State}
    (calls : Calls growth answers kind b done) :
    Leaves
      (∃ server error, server.modelSetState = some error ∧
        done = b.modelInitialize growth kind server)
      (fun model answered => ∃ modelState, Option.isNone modelState = answered ∧
        done = b.modelFinalize model modelState)
      b.models done.2.models := by
  cases calls with
  | modelInitialize server =>
      cases made : newModel growth kind server with
      | error error =>
          rw [modelInitialize, made]
          exact .keeps rfl rfl
      | ok model =>
          cases handed : server.modelSetState with
          | some error =>
              have lost : (b.modelInitialize growth kind server).2.models = b.models.lose () model := by
                rw [modelInitialize, made]
                simp only [handed]
              rw [lost]
              exact .loses () model ⟨server, error, handed, rfl⟩
          | none =>
              rw [modelInitialize, made]
              simp only [handed]
              split <;> exact .keeps rfl rfl
  | modelFinalize model modelState isOpen idle =>
      by_cases stale : (modelState.isNone && b.models.dangles model) = true
      · rw [modelFinalize, if_pos stale]
        exact .keeps rfl rfl
      · have closed : (b.modelFinalize model modelState).2.models =
            b.models.close model modelState.isNone := by
          rw [modelFinalize, if_neg stale]
        rw [closed]
        exact .closes model modelState.isNone ⟨modelState, rfl, rfl⟩
  | instanceInitialize model server ready =>
      rw [instanceInitialize_models]
      exact .keeps rfl rfl
  | instanceFinalize idx instanceState isOpen =>
      unfold instanceFinalize
      split <;> exact .keeps rfl rfl
  | execute idx work ready =>
      unfold execute
      repeat' split
      all_goals exact .keeps rfl rfl

theorem calls_instances_leave {done : CallResult × Lifecycle Value State}
    (calls : Calls growth answers kind b done) :
    Leaves
      (∃ model server error, server.modelInstanceSetState = some error ∧
        done = b.instanceInitialize answers kind model server)
      (fun idx answered => ∃ instanceState, Option.isNone instanceState = answered ∧
        done = b.instanceFinalize idx instanceState)
      b.instances done.2.instances := by
  cases calls with
  | modelInitialize server =>
      unfold modelInitialize
      repeat' split
      all_goals exact .keeps rfl rfl
  | modelFinalize model modelState isOpen idle =>
      unfold modelFinalize
      split <;> exact .keeps rfl rfl
  | instanceInitialize model server ready =>
      have initializes := instanceInitialize_cases answers kind b model server
      generalize same : b.instanceInitialize answers kind model server = done at initializes ⊢
      cases initializes with
      | refused => exact .keeps rfl rfl
      | undefined => exact .keeps rfl rfl
      | thrown => exact .keeps rfl rfl
      | lost calls pointer object here live inst cuda created error handed =>
          exact .loses model _ ⟨model, server, error, handed, same.symm⟩
      | made => exact .keeps rfl rfl
  | instanceFinalize idx instanceState isOpen =>
      by_cases stale : (instanceState.isNone && b.instances.dangles idx) = true
      · rw [instanceFinalize, if_pos stale]
        exact .keeps rfl rfl
      · have closed : (b.instanceFinalize idx instanceState).2.instances =
            b.instances.close idx instanceState.isNone := by
          rw [instanceFinalize, if_neg stale]
        rw [closed]
        exact .closes idx instanceState.isNone ⟨instanceState, rfl, rfl⟩
  | execute idx work ready =>
      unfold execute
      repeat' split
      all_goals exact .keeps rfl rfl

theorem calls_abandoned {done : CallResult × Lifecycle Value State}
    (calls : Calls growth answers kind b done) :
    done.2.abandoned = b.abandoned ∨ done.2.abandoned = b.abandoned ++ [b.cuda.streams.length] ∧
      ∃ model server exception, server.modelInstanceKind = .ok .gpu ∧
        (∃ name, chooseHostPolicy server name = .error exception) ∧
        done = b.instanceInitialize answers kind model server := by
  cases calls with
  | modelInitialize server =>
      unfold modelInitialize
      repeat' split
      all_goals exact .inl rfl
  | modelFinalize model modelState isOpen idle =>
      unfold modelFinalize
      split <;> exact .inl rfl
  | instanceInitialize model server ready =>
      have initializes := instanceInitialize_cases answers kind b model server
      generalize same : b.instanceInitialize answers kind model server = done at initializes ⊢
      cases initializes with
      | refused => exact .inl rfl
      | undefined => exact .inl rfl
      | lost => exact .inl rfl
      | made => exact .inl rfl
      | thrown calls pointer object here live exception cuda created =>
          have throws := create_throws answers object.config (congrArg Prod.fst created)
          rw [created] at throws
          rcases throws with none | ⟨one, gpu, policy⟩
          · refine .inl ?_
            simp [none]
          · refine .inr ⟨?_, model, server, exception, gpu, policy, same.symm⟩
            simp [one]
  | instanceFinalize idx instanceState isOpen =>
      unfold instanceFinalize
      split <;> exact .inl rfl
  | execute idx work ready =>
      unfold execute
      repeat' split
      all_goals exact .inl rfl

/-! Runs. -/

/-- What a run brings into a list of the state, one of its calls does. -/
theorem run_entered (run : Reaches growth answers kind (fresh device) last)
    (view : Lifecycle Value State → List Nat) (none : view (fresh device) = []) {place : Nat}
    (now : place ∈ view last) :
    ∃ b done, Happens growth answers kind device b done last ∧ place ∉ view b ∧
      place ∈ view done.2 := by
  have before : place ∉ view (fresh device) := by simp [none]
  obtain ⟨b, next, start, ⟨result, calls⟩, rest, old, new⟩ :=
    entered (place ∈ view ·) run before now
  exact ⟨b, (result, next), ⟨start, calls, rest⟩, old, new⟩

theorem run_accounted (run : Reaches growth answers kind (fresh device) last) :
    Accounted growth answers kind device last where
  modelsDeleted pointer gone := by
    obtain ⟨b, done, happens, old, new⟩ := run_entered run (·.models.deleted) rfl gone
    obtain ⟨model, ⟨modelState, answered, rfl⟩, given⟩ :=
      (calls_models_leave happens.calls).deleted old new
    obtain rfl := Option.isNone_iff_eq_none.mp answered
    exact ⟨b, model, given, happens⟩
  modelsLost pointer gone := by
    obtain ⟨b, done, happens, old, new⟩ := run_entered run (·.models.lost) rfl gone
    rcases (calls_models_leave happens.calls).lost old new with
      ⟨⟨server, error, handed, rfl⟩, made⟩ | ⟨model, ⟨_ | error, answered, rfl⟩, given⟩
    · exact ⟨b, .inl ⟨server, error, handed, made, happens⟩⟩
    · cases answered
    · exact ⟨b, .inr ⟨model, error, given, happens⟩⟩
  instancesDeleted pointer gone := by
    obtain ⟨b, done, happens, old, new⟩ := run_entered run (·.instances.deleted) rfl gone
    obtain ⟨idx, ⟨instanceState, answered, rfl⟩, given⟩ :=
      (calls_instances_leave happens.calls).deleted old new
    obtain rfl := Option.isNone_iff_eq_none.mp answered
    exact ⟨b, idx, given, happens⟩
  instancesLost pointer gone := by
    obtain ⟨b, done, happens, old, new⟩ := run_entered run (·.instances.lost) rfl gone
    rcases (calls_instances_leave happens.calls).lost old new with
      ⟨⟨model, server, error, handed, rfl⟩, made⟩ | ⟨idx, ⟨_ | error, answered, rfl⟩, given⟩
    · exact ⟨b, .inl ⟨model, server, error, handed, made, happens⟩⟩
    · cases answered
    · exact ⟨b, .inr ⟨idx, error, given, happens⟩⟩
  abandoned stream gone := by
    obtain ⟨b, done, happens, old, new⟩ := run_entered run Lifecycle.abandoned rfl gone
    rcases calls_abandoned happens.calls with same | ⟨more, model, server, exception, gpu, policy, rfl⟩
    · exact absurd (same ▸ new) old
    · rw [more] at new
      have opened := List.mem_singleton.mp ((List.mem_append.mp new).resolve_left old)
      exact ⟨b, model, server, exception, gpu, policy, opened, happens⟩

/-- Nothing is mislaid, and nothing goes but by a finalization, by a state that the server does not
take and by a constructor that throws behind its stream. -/
theorem states_owned (run : Reaches growth answers kind (fresh device) b) :
    Owned b ∧ Finalizes b ∧ Accounted growth answers kind device b :=
  ⟨(run_orderly run).owned, (run_orderly run).finalizes, run_accounted run⟩

end

/-! A model that is loaded, and an instance of it on another GPU than the caller's. -/

def gpuConfig : JsonTree := .object [
  ("max_batch_size", .int 8),
  ("batch_input", .array []),
  ("batch_output", .array []),
  ("default_model_filename", .string "model.plan"),
  ("cc_model_filenames", .object [("8.0", .string "sm80.plan")]),
  ("input", .array [.object [
    ("name", .string "IN"), ("data_type", .string "TYPE_UINT8"), ("dims", .array [.int 2])]]),
  ("output", .array [.object [
    ("name", .string "OUT"), ("data_type", .string "TYPE_UINT8"), ("dims", .array [.int 2])]])]

def gpuObject : ModelObject JsonTree ModelState := {
  name := "rows"
  version := 1
  repositoryPath := "/models/rows"
  config := gpuConfig
  state := rowsModel }

def gpuAnswers : CudaAnswers := {
  getDevice := fun _ => none
  setDevice := fun _ _ => none
  streamCreate := fun _ => none
  deviceProperties := fun _ _ => .ok (8, 0) }

def gpuModel : ModelServer JsonTree := {
  modelName := .ok "rows"
  modelVersion := .ok 1
  modelRepository := .ok (true, "/models/rows")
  modelServer := none
  modelBackend := none
  backendMemoryManager := none
  modelConfig := none
  serializeToJson := none
  config := .ok gpuConfig
  messageDelete := none
  logVerbose := true
  modelSetState := none }

def gpuInstance : InstanceServer JsonTree := {
  modelInstanceName := .ok "rows_0"
  modelInstanceKind := .ok .gpu
  modelInstanceDeviceId := .ok 1
  modelInstanceHostPolicy := none
  serializeToJson := none
  hostPolicy := .ok (.object [("gpu_1", .object [])])
  modelInstanceModel := none
  modelState := none
  modelInstanceSetState := none }

def gpuLoaded : Lifecycle JsonTree ModelState :=
  ((fresh 0).modelInitialize BackendModel.doubling recommendedBackend gpuModel).2

def gpuStarted : Lifecycle JsonTree ModelState :=
  (gpuLoaded.instanceInitialize gpuAnswers recommendedBackend 0 gpuInstance).2

theorem gpuLoaded_ready : gpuLoaded.models.Ready 0 := ⟨_, rfl, rfl, rfl⟩

theorem gpuLoaded_run :
    Reaches BackendModel.doubling gpuAnswers recommendedBackend (fresh 0) gpuLoaded :=
  Relation.ReflTransGen.single ⟨_, .modelInitialize gpuModel⟩

theorem gpuStarted_run :
    Reaches BackendModel.doubling gpuAnswers recommendedBackend (fresh 0) gpuStarted :=
  gpuLoaded_run.tail ⟨_, .instanceInitialize 0 gpuInstance gpuLoaded_ready⟩

theorem gpuStarted_ready : gpuStarted.instances.Ready 0 := ⟨_, rfl, rfl, rfl⟩

def stateError : TritonError := { code := .internal, message := "no state" }

def policyError : TritonError := { code := .internal, message := "no host policy" }

def unkeptInstance : InstanceServer JsonTree :=
  { gpuInstance with modelInstanceSetState := some stateError }

def unpolicedInstance : InstanceServer JsonTree :=
  { gpuInstance with hostPolicy := .error policyError }

def gpuMislaid : Lifecycle JsonTree ModelState :=
  (gpuStarted.instanceInitialize gpuAnswers recommendedBackend 0 unkeptInstance).2

def gpuAbandoned : Lifecycle JsonTree ModelState :=
  (gpuMislaid.instanceInitialize gpuAnswers recommendedBackend 0 unpolicedInstance).2

/-- The first of three instances is finalized, the second lost, and of the third there is but a
stream. -/
def gpuFinished : Lifecycle JsonTree ModelState := (gpuAbandoned.instanceFinalize 0 none).2

theorem gpuFinished_run :
    Reaches BackendModel.doubling gpuAnswers recommendedBackend (fresh 0) gpuFinished := by
  have mislaid : Reaches BackendModel.doubling gpuAnswers recommendedBackend (fresh 0) gpuMislaid :=
    gpuStarted_run.tail ⟨_, .instanceInitialize 0 unkeptInstance ⟨_, rfl, rfl, rfl⟩⟩
  have abandoned : Reaches BackendModel.doubling gpuAnswers recommendedBackend (fresh 0)
      gpuAbandoned :=
    mislaid.tail ⟨_, .instanceInitialize 0 unpolicedInstance ⟨_, rfl, rfl, rfl⟩⟩
  exact abandoned.tail ⟨_, .instanceFinalize 0 none ⟨_, rfl, rfl⟩⟩

theorem states_owned_gpu :
    (gpuFinished.instances.deleted = [0] ∧ gpuFinished.cuda.destroyed = [0] ∧
      gpuFinished.instances.lost = [1] ∧ gpuFinished.abandoned = [2]) ∧ Owned gpuFinished ∧
      ∃ b idx, b.instances.pointer idx = some 0 ∧ Happens BackendModel.doubling gpuAnswers
        recommendedBackend 0 b (b.instanceFinalize idx none) gpuFinished := by
  obtain ⟨owned, _, accounted⟩ := states_owned gpuFinished_run
  exact ⟨by decide +kernel, owned, accounted.instancesDeleted 0 (by decide +kernel)⟩

end Lifecycle

end TritonBackend
