import TritonBackend.LifecycleCustody

/-!
What a server may rely on over the life of a backend: nothing is used that is gone, everything
that is made is accounted for, and a model that is loaded executes what it was loaded for.
-/

namespace TritonBackend

open Custody

namespace Lifecycle

section
variable {Value State Work : Type} [TritonJsonMembers Value] {growth : Growable.Growth}
  {answers : CudaAnswers} {kind : BackendKind Value State Work} {device : Int}
  {b : Lifecycle Value State}

/-! What is used. -/

/-- A ready instance leads to its state, and that to the state of the model that the instance was
initialized for, which is still open. -/
theorem Orderly.ready_instance (orderly : Orderly answers device b) {idx : Nat}
    (ready : b.instances.Ready idx) :
    ∃ inst object holder, b.stateOf idx = some inst ∧
      b.models.live inst.modelState = some object ∧ b.instances.holders[idx]? = some holder ∧
      b.HasModel holder.tag inst.modelState := by
  obtain ⟨holder, cell, inst, here, isOpen, given, live⟩ := orderly.instances.ready ready
  obtain ⟨_, state, found, has⟩ :=
    orderly.linked holder (List.mem_of_getElem? here) isOpen cell given
  obtain rfl : inst = state := Option.some.inj ((live_some live).2.symm.trans found)
  obtain ⟨of, stands, stillOpen, isReady, pointed⟩ := has
  obtain ⟨object, _, loaded⟩ :=
    orderly.models.live (mem_held.mpr ⟨of, List.mem_of_getElem? stands, stillOpen, pointed⟩)
  refine ⟨inst, object, holder, ?_, loaded, here, of, stands, stillOpen, isReady, pointed⟩
  rw [stateOf, Store.pointer, here, Option.bind_some, given, Option.bind_some, live]

/-- No call of the server goes on with a null pointer, uses what has been deleted or deletes it
again. -/
theorem calls_defined (run : Reaches growth answers kind (fresh device) b)
    {done : CallResult × Lifecycle Value State} (calls : Calls growth answers kind b done) :
    done.1 ≠ .undefined := by
  have orderly := run_orderly run
  cases calls with
  | modelInitialize server =>
      unfold modelInitialize
      repeat' split
      all_goals simp
  | modelFinalize model modelState isOpen idle =>
      unfold modelFinalize
      rw [orderly.models.sound isOpen, Bool.and_false, if_neg Bool.false_ne_true]
      simp
  | instanceInitialize model server ready =>
      obtain ⟨holder, pointer, object, here, _, given, live⟩ := orderly.models.ready ready
      have initializes := instanceInitialize_cases answers kind b model server
      generalize b.instanceInitialize answers kind model server = done at initializes ⊢
      cases initializes with
      | undefined calls missing =>
          rw [missing pointer (by rw [Store.pointer, here, Option.bind_some, given])] at live
          cases live
      | thrown calls pointer object here live exception cuda created =>
          cases exception <;> simp [InstanceException.result]
      | refused error calls => simp
      | lost => simp
      | made => simp
  | instanceFinalize idx instanceState isOpen =>
      unfold instanceFinalize
      rw [orderly.instances.sound isOpen, Bool.and_false, if_neg Bool.false_ne_true]
      simp
  | execute idx work ready =>
      obtain ⟨inst, object, _, state, live, _⟩ := orderly.ready_instance ready
      unfold execute
      simp only [state, live]
      simp

theorem calls_defined_gpu :
    (gpuStarted.execute recommendedBackend 0 (hostServer, rowsBatch)).1 ≠ .undefined :=
  calls_defined gpuStarted_run (.execute 0 (hostServer, rowsBatch) gpuStarted_ready)

/-! Instances and their streams. -/

/-- Every instance has the file of its configuration and, on a GPU, a stream of its own, which
stays open as long as the instance does. -/
theorem instances_equipped (run : Reaches growth answers kind (fresh device) b) :
    (∀ inst ∈ b.instances.cells, b.Streamed inst ∧ ∃ object,
      b.models.cells[inst.modelState]? = some object ∧
        Fits answers object.config inst.toBackendModelInstance) ∧
      (b.instances.held.filterMap b.streamOf).Nodup ∧
      (∀ stream ∈ b.instances.held.filterMap b.streamOf, stream ∉ b.cuda.destroyed) ∧
      (answers.Restores device → b.cuda.device = device) := by
  have orderly := run_orderly run
  have distinct := orderly.owned.streams.nodup_iff.mp List.nodup_range
  have used := (List.nodup_append.mp (List.nodup_append.mp distinct).1).1
  obtain ⟨apart, _, disjoint⟩ := List.nodup_append.mp used
  exact ⟨fun inst member => ⟨orderly.streamed inst member, orderly.fits inst member⟩, apart,
    fun stream own destroyed => disjoint stream own stream destroyed rfl, orderly.device⟩

theorem instances_equipped_gpu :
    (∀ inst ∈ gpuStarted.instances.cells, gpuStarted.Streamed inst) ∧
      gpuStarted.cuda.device = 0 := by
  obtain ⟨equipped, _, _, device⟩ := instances_equipped gpuStarted_run
  exact ⟨fun inst member => (equipped inst member).1, device fun _ => rfl⟩

theorem run_abandoned {last : Lifecycle Value State} (run : Reaches growth answers kind b last) :
    ∃ more, last.abandoned = b.abandoned ++ more := by
  induction run with
  | refl => exact ⟨[], (List.append_nil _).symm⟩
  | tail _ step earlier =>
      obtain ⟨more, before⟩ := earlier
      obtain ⟨_, calls⟩ := step
      rcases calls_abandoned calls with same | ⟨grown, _⟩
      · exact ⟨more, same.trans before⟩
      · exact ⟨more ++ _, by rw [grown, before, List.append_assoc]⟩

theorem abandoned_leaks (run : Reaches growth answers kind (fresh device) b)
    {stream : Nat} (abandoned : stream ∈ b.abandoned) {last : Lifecycle Value State}
    (later : Reaches growth answers kind b last) :
    stream < last.cuda.streams.length ∧ stream ∉ last.cuda.destroyed := by
  obtain ⟨more, grown⟩ := run_abandoned later
  have still : stream ∈ last.abandoned := by
    rw [grown]
    exact List.mem_append_left _ abandoned
  have placed := (run_orderly (run.trans later)).owned.streams
  have distinct := placed.nodup_iff.mp List.nodup_range
  obtain ⟨_, _, disjoint⟩ := List.nodup_append.mp distinct
  refine ⟨List.mem_range.mp (placed.mem_iff.mpr (List.mem_append_right _ still)), ?_⟩
  intro destroyed
  exact disjoint stream (by simp [destroyed]) stream still rfl

theorem initializes_escaped {model : Nat} {server : InstanceServer Value} {error : TritonError}
    (escaped : (b.instanceInitialize answers kind model server).1 = .escaped error) :
    instanceCalls kind server = .ok () ∧ ∃ pointer object cuda,
      b.models.pointer model = some pointer ∧ b.models.live pointer = some object ∧
      BackendModelInstance.create answers server object.config b.cuda =
        (.error (.backendModel error), cuda) ∧
      (b.instanceInitialize answers kind model server).2.abandoned = b.abandoned ++
        List.range' b.cuda.streams.length (cuda.streams.length - b.cuda.streams.length) := by
  have initializes := instanceInitialize_cases answers kind b model server
  generalize b.instanceInitialize answers kind model server = done at initializes escaped ⊢
  cases initializes with
  | thrown calls pointer object here live exception cuda created =>
      cases exception with
      | backendModelInstance other => cases escaped
      | backendModel other =>
          cases escaped
          exact ⟨calls, pointer, object, cuda, here, live, created, rfl⟩
  | refused => cases escaped
  | undefined => cases escaped
  | lost => cases escaped
  | made => cases escaped

/-- An error of the host policy leaves `TRITONBACKEND_ModelInstanceInitialize` as an exception,
and no other error does; the stream that an instance on a GPU had opened is never destroyed. -/
theorem policy_escapes (run : Reaches growth answers kind (fresh device) b) {model : Nat}
    (ready : b.models.Ready model) (server : InstanceServer Value) (error : TritonError) :
    let done := b.instanceInitialize answers kind model server
    (done.1 = .escaped error ↔
      instanceCalls kind server = .ok () ∧ hostPolicyNames server = .error error ∧
        ∃ pointer object named artifactFilename stream, b.models.pointer model = some pointer ∧
          b.models.live pointer = some object ∧
          Prepared answers object.config server b.cuda named artifactFilename stream) ∧
      (done.1 = .escaped error → server.modelInstanceKind = .ok .gpu →
        ∀ last, Reaches growth answers kind done.2 last →
          b.cuda.streams.length < last.cuda.streams.length ∧
            b.cuda.streams.length ∉ last.cuda.destroyed) := by
  intro done
  refine ⟨⟨?_, ?_⟩, ?_⟩
  · intro escaped
    obtain ⟨calls, pointer, object, cuda, here, live, created, _⟩ := initializes_escaped escaped
    obtain ⟨policy, named, artifactFilename, stream, prepared⟩ :=
      (create_escapes answers object.config).mp (congrArg Prod.fst created)
    exact ⟨calls, policy, pointer, object, named, artifactFilename, stream, here, live, prepared⟩
  · rintro ⟨calls, policy, pointer, object, named, artifactFilename, stream, here, live, prepared⟩
    have thrown := (create_escapes answers object.config).mpr
      ⟨policy, named, artifactFilename, stream, prepared⟩
    simp only [done, instanceInitialize, calls, here, live, thrown, InstanceException.result]
  · intro escaped gpu last later
    obtain ⟨_, pointer, object, cuda, _, _, created, abandoned⟩ := initializes_escaped escaped
    obtain ⟨_, named, artifactFilename, stream, prepared⟩ :=
      (create_escapes answers object.config).mp (congrArg Prod.fst created)
    obtain ⟨opened, opens, _, own⟩ := prepared.opens
    have onGpu : named.kind = .gpu :=
      Except.ok.inj ((namedInstance_kind object.config prepared.known).symm.trans gpu)
    rw [created] at opens
    rw [BackendModelInstance.Streams, if_pos onGpu] at own
    have inside : b.cuda.streams.length ∈ done.2.abandoned := by
      rw [abandoned, opens.streams, own.2]
      simp
    exact abandoned_leaks (run.tail ⟨done.1, .instanceInitialize model server ready⟩) inside later

end

theorem policy_escapes_gpu :
    let server := { gpuInstance with hostPolicy := .error policyError }
    let done := gpuLoaded.instanceInitialize gpuAnswers recommendedBackend 0 server
    done.1 = .escaped policyError ∧ ∀ last,
      Reaches BackendModel.doubling gpuAnswers recommendedBackend done.2 last →
        0 < last.cuda.streams.length ∧ 0 ∉ last.cuda.destroyed := by
  intro server done
  have escaped : done.1 = .escaped policyError := by decide +kernel
  exact ⟨escaped, (policy_escapes gpuLoaded_run gpuLoaded_ready server policyError).2 escaped rfl⟩

/-! The recommended backend. -/

section
variable {Value : Type} [TritonJsonMembers Value] {growth : Growable.Growth}
  {answers : CudaAnswers} {device : Int} {b : Lifecycle Value ModelState}

/-- A model's state is the one it was loaded with, up to the shape that it keeps. -/
def Loaded (growth : Growable.Growth) (object : ModelObject Value ModelState) : Prop :=
  ∃ logVerbose base model, BackendModel.parsed growth object.config = .ok base ∧
    validateModelConfig logVerbose object.config base = .ok model ∧ object.state.Shaped ∧
      ∃ shapeInitialized batchShape, object.state = { model with shapeInitialized, batchShape }

theorem newModel_loaded {server : ModelServer Value} {object : ModelObject Value ModelState}
    (made : newModel growth recommendedBackend server = .ok object) : Loaded growth object := by
  simp only [newModel, Fallible.bind_success, Except.ok.injEq] at made
  obtain ⟨_, _, base, constructed, state, validated, rfl⟩ := made
  obtain ⟨_, parsed⟩ := construct_success.mp constructed
  exact ⟨_, _, state, parsed, validated, validateModelConfig_shaped validated, _, _, rfl⟩

theorem execute_loaded (server : Server) (requests : List Request)
    {object : ModelObject Value ModelState} (loaded : Loaded growth object) :
    Loaded growth { object with state := (object.state.execute server requests).2 } := by
  obtain ⟨logVerbose, base, model, parsed, validated, shaped, _, _, same⟩ := loaded
  obtain ⟨still, _, _, after⟩ := execute_model server requests shaped
  exact ⟨logVerbose, base, model, parsed, validated, still, _, _, after.trans (by rw [same])⟩

theorem run_loaded (run : Reaches growth answers recommendedBackend (fresh device) b) :
    ∀ object ∈ b.models.cells, Loaded growth object :=
  run_models (fun _ _ made => newModel_loaded made)
    (fun work _ loaded => execute_loaded work.1 work.2 loaded) run

theorem newModel_recommended {server : ModelServer Value} {object : ModelObject Value ModelState} :
    newModel growth recommendedBackend server = .ok object ↔
      server.Gives object.name object.version object.repositoryPath object.config ∧
        writeModelConfig server.logVerbose object.config = .ok () ∧
        ∃ read input output, Reads false object.config read ∧
          Supported object.config input output ∧
          object.state = ((BackendModel.create false).load growth read).supporting input output := by
  simp only [newModel, recommendedBackend, Fallible.bind_success, Except.ok.injEq,
    validateModelConfig_success]
  constructor
  · rintro ⟨_, _, base, constructed, state, ⟨written, input, output, supported, rfl⟩, rfl⟩
    obtain ⟨gives, parsed⟩ := construct_success.mp constructed
    obtain ⟨read, reads, same⟩ := parsed_success.mp parsed
    exact ⟨gives, written, read, input, output, reads, supported, by rw [same]⟩
  · rintro ⟨gives, written, read, input, output, reads, supported, state⟩
    have constructed : BackendModel.construct growth server =
        .ok { object with state := (BackendModel.create false).load growth read } :=
      construct_success.mpr ⟨gives, parsed_success.mpr ⟨read, reads, rfl⟩⟩
    exact ⟨(), trivial, _, constructed, _, ⟨written, input, output, supported, rfl⟩, by rw [← state]⟩

/-- A model is loaded exactly if the server gives what its state is made from and the
configuration can be read and is supported; and every state that is there holds what the
configuration of its model says. -/
theorem recommended_loads (run : Reaches growth answers recommendedBackend (fresh device) b) :
    (∀ server : ModelServer Value,
      (b.modelInitialize growth recommendedBackend server).1 = .returned none ↔
        server.modelSetState = none ∧ ∃ name version repositoryPath config read input output,
          server.Gives name version repositoryPath config ∧
            writeModelConfig server.logVerbose config = .ok () ∧ Reads false config read ∧
            Supported config input output) ∧
      ∀ object ∈ b.models.cells, ∃ read input output shapeInitialized batchShape,
        Reads false object.config read ∧ Supported object.config input output ∧
          object.state = {
            ((BackendModel.create false).load growth read).supporting input output with
            shapeInitialized
            batchShape } := by
  refine ⟨fun server => ?_, fun object member => ?_⟩
  · unfold modelInitialize
    constructor
    · intro loaded
      split at loaded
      next => cases loaded
      next object new =>
        obtain ⟨gives, written, read, input, output, reads, supported, _⟩ :=
          newModel_recommended.mp new
        split at loaded
        next => cases loaded
        next handed =>
          exact ⟨handed, _, _, _, _, read, input, output, gives, written, reads, supported⟩
    · rintro ⟨handed, name, version, repositoryPath, config, read, input, output, gives, written,
        reads, supported⟩
      have new : newModel growth recommendedBackend server = .ok {
          name, version, repositoryPath, config
          state := ((BackendModel.create false).load growth read).supporting input output } :=
        newModel_recommended.mpr ⟨gives, written, read, input, output, reads, supported, rfl⟩
      rw [new]
      simp only [handed, recommendedBackend]
  · obtain ⟨_, base, model, parsed, validated, _, _, _, same⟩ := run_loaded run object member
    obtain ⟨read, reads, rfl⟩ := parsed_success.mp parsed
    obtain ⟨_, input, output, supported, rfl⟩ := validateModelConfig_success.mp validated
    exact ⟨read, input, output, _, _, reads, supported, same⟩

theorem recommended_loads_gpu : ∃ read input output shapeInitialized batchShape,
    Reads false gpuConfig read ∧ Supported gpuConfig input output ∧ rowsModel = {
      ((BackendModel.create false).load BackendModel.doubling read).supporting input output with
      shapeInitialized
      batchShape } :=
  (recommended_loads gpuLoaded_run).2 gpuObject (List.mem_singleton_self gpuObject)

end

theorem newModel_minimal {Value : Type} [TritonJsonMembers Value] {growth : Growable.Growth}
    {server : ModelServer Value} {object : ModelObject Value BackendModel}
    (made : newModel growth minimalBackend server = .ok object) :
    BackendModel.parsed growth object.config = .ok object.state := by
  simp only [newModel, minimalBackend, Fallible.bind_success, Except.ok.injEq] at made
  obtain ⟨_, _, base, constructed, _, rfl, rfl⟩ := made
  exact (construct_success.mp constructed).2

/-- The minimal backend checks nothing of the configuration: whatever its model declares, `IN0` of the
shape that the code names is echoed, and the state of the model stays as it was made. -/
theorem minimal_instances_echo {Value : Type} [TritonJsonMembers Value] {growth : Growable.Growth}
    {answers : CudaAnswers} {device : Int} {b : Lifecycle Value BackendModel}
    (run : Reaches growth answers minimalBackend (fresh device) b)
    {idx : Nat} (ready : b.instances.Ready idx) :
    ∃ inst object holder, b.stateOf idx = some inst ∧
      b.models.live inst.modelState = some object ∧ b.instances.holders[idx]? = some holder ∧
      b.HasModel holder.tag inst.modelState ∧
      BackendModel.parsed growth object.config = .ok object.state ∧
      ∀ (server : Server) (requests : List Request) (initial : CopyStream.Memory Block UInt8),
        (∀ request ∈ requests, object.state.minimalState.Accepts request) →
        LooksUp server.toEnv requests "IN0" →
        (∀ entry request, server.unsetShape entry request = none) →
        let done := object.state.execute server requests
        (done.faulted = false →
          (b.execute minimalBackend idx (server, requests)).1 = .returned done.error) ∧
        (done.unexpectedSync = false →
          object.state.minimalState.Echoes requests initial done.sys) := by
  obtain ⟨inst, object, holder, state, live, here, has⟩ := (run_orderly run).ready_instance ready
  have parsed : ∀ object ∈ b.models.cells,
      BackendModel.parsed growth object.config = .ok object.state := by
    exact run_models (fun _ _ made => newModel_minimal made) (fun _ _ known => known) run
  refine ⟨inst, object, holder, state, live, here, has,
    parsed object (List.mem_of_getElem? (live_some live).2), ?_⟩
  intro server requests initial accepted looks shapes
  constructor
  · intro _
    simp only [execute, state, live]
    rfl
  · refine executed_echoes server accepted looks shapes initial ?_
    rcases minimal_cases server requests object.state with ⟨_, refused⟩ | ⟨_, _, passed, _⟩
    · exact Or.inl refused
    · exact Or.inr passed

def in0Config : JsonTree := .object [
  ("max_batch_size", .int 0),
  ("batch_input", .array []),
  ("batch_output", .array []),
  ("default_model_filename", .string ""),
  ("input", .array [.object [
    ("name", .string "IN0"), ("data_type", .string "TYPE_INT32"), ("dims", .array [.int 4])]]),
  ("output", .array [.object [
    ("name", .string "OUT0"), ("data_type", .string "TYPE_INT32"), ("dims", .array [.int 4])]])]

def in0Model : ModelServer JsonTree := { gpuModel with config := .ok in0Config }

def in0Loaded : Lifecycle JsonTree BackendModel :=
  ((fresh 0).modelInitialize BackendModel.doubling minimalBackend in0Model).2

def in0Started : Lifecycle JsonTree BackendModel :=
  (in0Loaded.instanceInitialize gpuAnswers minimalBackend 0 gpuInstance).2

def in0Object : ModelObject JsonTree BackendModel := {
  name := "rows"
  version := 1
  repositoryPath := "/models/rows"
  config := in0Config
  state := BackendModel.create false }

theorem minimal_instances_echo_in0 :
    let done := (BackendModel.create false).execute hostServer in0Batch
    (in0Started.execute minimalBackend 0 (hostServer, in0Batch)).1 = .returned done.error ∧
      done.Succeeds 2 ∧
      (BackendModel.create false).minimalState.Echoes in0Batch inputOnes done.sys := by
  have loaded : Reaches BackendModel.doubling gpuAnswers minimalBackend (fresh 0) in0Loaded :=
    Relation.ReflTransGen.single ⟨_, .modelInitialize in0Model⟩
  have started : Reaches BackendModel.doubling gpuAnswers minimalBackend (fresh 0) in0Started :=
    loaded.tail ⟨_, .instanceInitialize 0 gpuInstance ⟨_, rfl, rfl, rfl⟩⟩
  have ready : in0Started.instances.Ready 0 := ⟨_, rfl, rfl, rfl⟩
  obtain ⟨inst, object, holder, state, live, _, _, _, echoes⟩ := minimal_instances_echo started ready
  have pointed : in0Started.stateOf 0 = some in0Started.instances.cells[0] := rfl
  have found : in0Started.models.live 0 = some in0Object := rfl
  obtain rfl := Option.some.inj (pointed.symm.trans state)
  obtain rfl := Option.some.inj (found.symm.trans live)
  have sent : ((BackendModel.create false).execute hostServer in0Batch).Succeeds 2 := in0_succeeds
  obtain ⟨returned, echoed⟩ := echoes hostServer in0Batch inputOnes in0Batch_accepted
    in0Batch_looks fun _ _ => rfl
  exact ⟨returned sent.2.1, sent, echoed sent.1⟩

/-! The BLS backend. -/

theorem newModel_bls {Value : Type} [TritonJsonMembers Value] {growth : Growable.Growth}
    {server : ModelServer Value} {object : ModelObject Value BackendModel} :
    newModel growth Bls.backend server = .ok object ↔
      server.Gives object.name object.version object.repositoryPath object.config ∧
        ∃ read, Reads false object.config read ∧
          object.state = (BackendModel.create false).load growth read := by
  rw [← parsed_success, ← construct_success]
  simp only [newModel, Bls.backend, Bls.modelQueries, Fallible.bind_success, Except.ok.injEq]
  constructor
  · rintro ⟨_, _, base, constructed, _, rfl, rfl⟩
    exact constructed
  · intro constructed
    obtain ⟨gives, _⟩ := construct_success.mp constructed
    exact ⟨(), ⟨_, gives.modelName, _, gives.modelVersion, trivial⟩, object, constructed, _, rfl, rfl⟩

/-- A BLS model is loaded exactly if its configuration can be read, has no batching, and declares
two inputs and two outputs that are vectors of floats under the names that the code uses; and
whatever instance can execute is one of such a model. -/
theorem bls_loads {Value : Type} [TritonJsonMembers Value] {growth : Growable.Growth}
    {answers : CudaAnswers} {device : Int} {b : Lifecycle Value BackendModel}
    (run : Reaches growth answers Bls.backend (fresh device) b) :
    (∀ server : ModelServer Value,
      (b.modelInitialize growth Bls.backend server).1 = .returned none ↔
        server.modelSetState = none ∧ ∃ name version repositoryPath config read,
          server.Gives name version repositoryPath config ∧ Reads false config read ∧
            Bls.Valid config) ∧
      ∀ idx, b.instances.Ready idx → ∃ inst object read, b.stateOf idx = some inst ∧
        b.models.live inst.modelState = some object ∧ Bls.Valid object.config ∧
          Reads false object.config read ∧
          object.state = (BackendModel.create false).load growth read := by
  refine ⟨fun server => ?_, fun idx ready => ?_⟩
  · unfold modelInitialize
    constructor
    · intro loaded
      split at loaded
      next => cases loaded
      next object new =>
        obtain ⟨gives, read, reads, _⟩ := newModel_bls.mp new
        split at loaded
        next => cases loaded
        next handed =>
          split at loaded
          next => cases loaded
          next valid =>
            exact ⟨handed, _, _, _, _, read, gives, reads, Bls.validateModelConfig_success.mp valid⟩
    · rintro ⟨handed, name, version, repositoryPath, config, read, gives, reads, valid⟩
      have new : newModel growth Bls.backend server = .ok {
          name, version, repositoryPath, config
          state := (BackendModel.create false).load growth read } :=
        newModel_bls.mpr ⟨gives, read, reads, rfl⟩
      have validated : Bls.backend.validate config = .ok () :=
        Bls.validateModelConfig_success.mpr valid
      rw [new]
      simp only [handed, validated]
  · obtain ⟨inst, object, _, state, live, _, holder, stands, _, isReady, given⟩ :=
      (run_orderly run).ready_instance ready
    obtain ⟨pointer, found, here, held, valid⟩ :=
      run_validated run holder (List.mem_of_getElem? stands) isReady
    obtain rfl := Option.some.inj (given.symm.trans here)
    have cell := (live_some live).2
    obtain rfl := Option.some.inj (cell.symm.trans held)
    have made : ∀ object ∈ b.models.cells, ∃ read, Reads false object.config read ∧
        object.state = (BackendModel.create false).load growth read := by
      exact run_models (fun _ _ new => (newModel_bls.mp new).2) (fun _ _ known => known) run
    obtain ⟨read, reads, same⟩ := made object (List.mem_of_getElem? cell)
    exact ⟨inst, object, read, state, live, Bls.validateModelConfig_success.mp valid, reads, same⟩

def addsubTensor (name : String) : JsonTree := .object [
  ("name", .string name), ("data_type", .string "TYPE_FP32"), ("dims", .array [.int 4])]

def addsubConfig : JsonTree := .object [
  ("max_batch_size", .int 0),
  ("batch_input", .array []),
  ("batch_output", .array []),
  ("default_model_filename", .string "model.py"),
  ("input", .array [addsubTensor "INPUT0", addsubTensor "INPUT1"]),
  ("output", .array [addsubTensor "OUTPUT0", addsubTensor "OUTPUT1"])]

def addsubModel : ModelServer JsonTree := { gpuModel with config := .ok addsubConfig }

def addsubLoaded : Lifecycle JsonTree BackendModel :=
  ((fresh 0).modelInitialize BackendModel.doubling Bls.backend addsubModel).2

def addsubInstance : InstanceServer JsonTree :=
  { gpuInstance with
    modelInstanceKind := .ok .cpu
    hostPolicy := .ok (.object [("cpu", .object [])]) }

def addsubStarted : Lifecycle JsonTree BackendModel :=
  (addsubLoaded.instanceInitialize gpuAnswers Bls.backend 0 addsubInstance).2

theorem bls_loads_addsub : Bls.Valid addsubConfig ∧ ∃ read, Reads false addsubConfig read := by
  have loaded : Reaches BackendModel.doubling gpuAnswers Bls.backend (fresh 0) addsubLoaded :=
    Relation.ReflTransGen.single ⟨_, .modelInitialize addsubModel⟩
  have started : Reaches BackendModel.doubling gpuAnswers Bls.backend (fresh 0) addsubStarted :=
    loaded.tail ⟨_, .instanceInitialize 0 addsubInstance ⟨_, rfl, rfl, rfl⟩⟩
  obtain ⟨inst, object, read, state, live, valid, reads, _⟩ :=
    (bls_loads started).2 0 ⟨_, rfl, rfl, rfl⟩
  have pointed : addsubStarted.stateOf 0 = some addsubStarted.instances.cells[0] := rfl
  obtain rfl := Option.some.inj (pointed.symm.trans state)
  have found : addsubStarted.models.live 0 = some addsubStarted.models.cells[0] := rfl
  obtain rfl := Option.some.inj (found.symm.trans live)
  exact ⟨valid, read, reads⟩

end Lifecycle

end TritonBackend
