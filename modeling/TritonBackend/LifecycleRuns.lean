import TritonBackend.InstanceStreams
import TritonBackend.LifecycleCore

/-!
What holds of a backend's models, instances and streams, whatever the server answers and in
whatever order it calls.
-/

namespace TritonBackend

open Custody

namespace Lifecycle

section
variable {Value State Work : Type} [TritonJsonMembers Value]

def streamOf (b : Lifecycle Value State) (cell : Nat) : Option Nat :=
  b.instances.cells[cell]?.bind fun inst => inst.stream

def Streamed (b : Lifecycle Value State) (inst : ModelInstance) : Prop :=
  if inst.kind = .gpu then
    ∃ stream, inst.stream = some stream ∧
      b.cuda.streams[stream]? = some { deviceId := inst.deviceId, priority := 0 }
  else inst.stream = none

/-- The holder is set up and has the state that an instance points to. -/
def HasModel (b : Lifecycle Value State) (model pointer : Nat) : Prop :=
  ∃ holder, b.models.holders[model]? = some holder ∧ holder.closed = false ∧
    holder.ready = true ∧ holder.cell = some pointer

def Linked (b : Lifecycle Value State) (holder : Holder Nat) : Prop :=
  holder.closed = false → ∀ cell, holder.cell = some cell →
    holder.ready = true ∧
      ∃ inst, b.instances.cells[cell]? = some inst ∧ b.HasModel holder.tag inst.modelState

structure Orderly (answers : CudaAnswers) (device : Int) (b : Lifecycle Value State) : Prop where
  models : Kept b.models
  instances : Kept b.instances
  linked : ∀ holder ∈ b.instances.holders, b.Linked holder
  fits : ∀ inst ∈ b.instances.cells, ∃ object, b.models.cells[inst.modelState]? = some object ∧
    Fits answers object.config inst.toBackendModelInstance
  streamed : ∀ inst ∈ b.instances.cells, b.Streamed inst
  streams : (List.range b.cuda.streams.length).Perm
    ((b.instances.cells.filterMap fun inst => inst.stream) ++ b.abandoned)
  destroyed : b.cuda.destroyed = b.instances.deleted.filterMap b.streamOf
  device : answers.Restores device → b.cuda.device = device

variable {growth : Growable.Growth} {answers : CudaAnswers} {kind : BackendKind Value State Work}
  {device : Int} {b : Lifecycle Value State}

theorem fresh_orderly : Orderly answers device (fresh device : Lifecycle Value State) where
  models := empty_kept
  instances := empty_kept
  linked := nofun
  fits := nofun
  streamed := nofun
  streams := List.Perm.refl _
  destroyed := rfl
  device _ := rfl

/-! The calls for a model. -/

/-- Models may come and go, as long as those of open instances stay. -/
theorem Orderly.with_models (orderly : Orderly answers device b)
    {models : Store Unit (ModelObject Value State)} (kept : Kept models)
    (holders : ∀ holder ∈ b.instances.holders, holder.closed = false → holder.ready = true →
      ∀ found, b.models.holders[holder.tag]? = some found → models.holders[holder.tag]? = some found)
    (cells : ∀ (pointer : Nat) (object : ModelObject Value State),
      b.models.cells[pointer]? = some object →
      ∃ revised, models.cells[pointer]? = some revised ∧ revised.config = object.config) :
    Orderly answers device { b with models } where
  models := kept
  instances := orderly.instances
  linked holder member isOpen cell given := by
    obtain ⟨ready, inst, here, found, stands, rest⟩ := orderly.linked holder member isOpen cell given
    exact ⟨ready, inst, here, found, holders holder member isOpen ready found stands, rest⟩
  fits inst member := by
    obtain ⟨object, here, fits⟩ := orderly.fits inst member
    obtain ⟨revised, there, config⟩ := cells _ object here
    exact ⟨revised, there, config ▸ fits⟩
  streamed := orderly.streamed
  streams := orderly.streams
  destroyed := orderly.destroyed
  device := orderly.device

theorem modelInitialize_orderly (orderly : Orderly answers device b) (server : ModelServer Value) :
    Orderly answers device (b.modelInitialize growth kind server).2 := by
  have appended {α : Type} {items : List α} (more : List α) {idx : Nat} {item : α}
      (here : items[idx]? = some item) : (items ++ more)[idx]? = some item := by
    rw [List.getElem?_append_left (List.getElem?_eq_some_iff.mp here).1, here]
  unfold modelInitialize
  cases newModel growth kind server with
  | error error =>
      exact orderly.with_models (refuse_kept orderly.models ())
        (fun _ _ _ _ _ here => appended _ here) (fun _ _ here => ⟨_, here, rfl⟩)
  | ok model =>
      simp only
      split
      · exact orderly.with_models (lose_kept orderly.models () model)
          (fun _ _ _ _ _ here => appended _ here) (fun _ _ here => ⟨_, appended _ here, rfl⟩)
      · split
        · exact orderly.with_models (entrust_kept orderly.models () false model)
            (fun _ _ _ _ _ here => appended _ here) (fun _ _ here => ⟨_, appended _ here, rfl⟩)
        · exact orderly.with_models (entrust_kept orderly.models () true model)
            (fun _ _ _ _ _ here => appended _ here) (fun _ _ here => ⟨_, appended _ here, rfl⟩)

theorem modelFinalize_orderly (orderly : Orderly answers device b) {model : Nat}
    (modelState : Option TritonError) (isOpen : b.models.Open model)
    (idle : ∀ inst ∈ b.instances.holders, inst.tag = model → inst.ready = true →
      inst.closed = true) : Orderly answers device (b.modelFinalize model modelState).2 := by
  obtain ⟨holder, here, still⟩ := isOpen
  unfold modelFinalize
  split
  · exact orderly
  · refine orderly.with_models (close_kept orderly.models here still _) ?_ ?_
    -- an open instance is one of another model
    · intro inst member isOpen ready found stands
      have other : inst.tag ≠ model := by
        intro same
        rw [idle inst member same ready] at isOpen
        cases isOpen
      rw [Store.close, here]
      exact (List.getElem?_set_ne (Ne.symm other)).trans stands
    · intro pointer object stands
      rw [Store.close, here]
      exact ⟨object, stands, rfl⟩

theorem execute_orderly (orderly : Orderly answers device b) (idx : Nat) (work : Work) :
    Orderly answers device (b.execute kind idx work).2 := by
  unfold execute
  split
  · exact orderly
  next inst _ =>
    split
    · exact orderly
    next object _ =>
      refine orderly.with_models (revise_kept orderly.models _ _) (fun _ _ _ _ _ stands => stands) ?_
      intro pointer found here
      rw [Store.revise, List.getElem?_modify, here]
      refine ⟨_, rfl, ?_⟩
      split <;> rfl

/-! The calls for an instance. -/

theorem streamed_opens (orderly : Orderly answers device b) {cuda : Cuda} {opened : List CudaStream}
    (opens : b.cuda.Opens answers cuda opened) {inst : ModelInstance}
    (member : inst ∈ b.instances.cells) : Streamed { b with cuda } inst := by
  have before := orderly.streamed inst member
  unfold Streamed at before ⊢
  split
  next gpu =>
    rw [if_pos gpu] at before
    obtain ⟨stream, own, here⟩ := before
    refine ⟨stream, own, ?_⟩
    rw [opens.streams, List.getElem?_append_left (List.getElem?_eq_some_iff.mp here).1, here]
  next other =>
    rw [if_neg other] at before
    exact before

theorem destroyed_appends (orderly : Orderly answers device b) {instances : Store Nat ModelInstance}
    {more : List ModelInstance} (cells : instances.cells = b.instances.cells ++ more) :
    b.instances.deleted.filterMap b.streamOf =
      b.instances.deleted.filterMap (streamOf { b with instances }) := by
  refine List.filterMap_congr fun cell deleted => ?_
  have inside := orderly.instances.deleted_inside deleted
  simp only [streamOf, cells, List.getElem?_append_left inside]

/-- A constructor has thrown, and what it opened stays behind. -/
theorem throws_orderly (orderly : Orderly answers device b) {cuda : Cuda} {opened : List CudaStream}
    (opens : b.cuda.Opens answers cuda opened) (model : Nat) :
    Orderly answers device { b with
      cuda
      instances := b.instances.refuse model
      abandoned := b.abandoned ++ List.range' b.cuda.streams.length
        (cuda.streams.length - b.cuda.streams.length) } where
  models := orderly.models
  instances := refuse_kept orderly.instances model
  linked holder member := by
    rcases List.mem_append.mp member with old | new
    · exact orderly.linked holder old
    · obtain rfl := List.mem_singleton.mp new
      exact fun _ => nofun
  fits := orderly.fits
  streamed _ member := streamed_opens orderly opens member
  streams := by
    have later : cuda.streams.length - b.cuda.streams.length = opened.length := by
      rw [opens.streams, List.length_append, Nat.add_sub_cancel_left]
    rw [later, opens.streams, List.length_append, List.range_eq_range', ← List.range'_append,
      ← List.range_eq_range', ← List.append_assoc, Nat.zero_add, Nat.one_mul]
    exact orderly.streams.append_right _
  destroyed := opens.destroyed.trans orderly.destroyed
  device restores := (opens.restored (orderly.device restores ▸ restores)).trans
    (orderly.device restores)

theorem makes_orderly (orderly : Orderly answers device b) {cuda : Cuda} {opened : List CudaStream}
    (opens : b.cuda.Opens answers cuda opened) (inst : ModelInstance)
    (own : inst.Streams b.cuda opened)
    (fits : ∃ object, b.models.cells[inst.modelState]? = some object ∧
      Fits answers object.config inst.toBackendModelInstance)
    {instances : Store Nat ModelInstance} (kept : Kept instances)
    (cells : instances.cells = b.instances.cells ++ [inst])
    (deleted : instances.deleted = b.instances.deleted)
    (linked : ∀ holder ∈ instances.holders, Linked { b with instances } holder) :
    Orderly answers device { b with cuda, instances } where
  models := orderly.models
  instances := kept
  linked := linked
  fits made member := by
    rw [cells] at member
    rcases List.mem_append.mp member with old | new
    · exact orderly.fits made old
    · obtain rfl := List.mem_singleton.mp new
      exact fits
  streamed made member := by
    rw [cells] at member
    rcases List.mem_append.mp member with old | new
    · exact streamed_opens orderly opens old
    · obtain rfl := List.mem_singleton.mp new
      unfold BackendModelInstance.Streams at own
      unfold Streamed
      split
      next gpu =>
        rw [if_pos gpu] at own
        refine ⟨_, own.1, ?_⟩
        simp [opens.streams, own.2]
      next other =>
        rw [if_neg other] at own
        exact own.1
  streams := by
    simp only [cells, opens.streams, List.filterMap_append, List.length_append]
    unfold BackendModelInstance.Streams at own
    split at own
    next =>
      obtain ⟨stream, rfl⟩ := own
      rw [List.length_singleton, List.range_succ, List.filterMap_cons, stream, List.append_assoc]
      refine (orderly.streams.append_right _).trans ?_
      rw [List.append_assoc]
      exact List.Perm.append_left _ List.perm_append_comm
    next =>
      obtain ⟨none, rfl⟩ := own
      rw [List.filterMap_cons, none]
      simpa using orderly.streams
  destroyed := by
    rw [opens.destroyed, deleted, orderly.destroyed]
    exact destroyed_appends orderly cells
  device restores := (opens.restored (orderly.device restores ▸ restores)).trans
    (orderly.device restores)

omit [TritonJsonMembers Value] in
theorem Linked.appends {holder : Holder Nat} (linked : b.Linked holder)
    {instances : Store Nat ModelInstance} {more : List ModelInstance}
    (cells : instances.cells = b.instances.cells ++ more) : Linked { b with instances } holder := by
  intro isOpen cell given
  obtain ⟨ready, inst, here, found⟩ := linked isOpen cell given
  refine ⟨ready, inst, ?_, found⟩
  rw [cells, List.getElem?_append_left (List.getElem?_eq_some_iff.mp here).1, here]

inductive Initializes (answers : CudaAnswers) (kind : BackendKind Value State Work)
    (b : Lifecycle Value State) (model : Nat) (server : InstanceServer Value) :
    CallResult × Lifecycle Value State → Prop
  | refused (error : TritonError) (calls : instanceCalls kind server = .error error) :
      Initializes answers kind b model server
        (.returned (some error), { b with instances := b.instances.refuse model })
  | undefined (calls : instanceCalls kind server = .ok ())
      (missing : ∀ pointer, b.models.pointer model = some pointer → b.models.live pointer = none) :
      Initializes answers kind b model server (.undefined, b)
  | thrown (calls : instanceCalls kind server = .ok ()) (pointer : Nat)
      (object : ModelObject Value State) (here : b.models.pointer model = some pointer)
      (live : b.models.live pointer = some object) (exception : InstanceException) (cuda : Cuda)
      (created : BackendModelInstance.create answers server object.config b.cuda =
        (.error exception, cuda)) :
      Initializes answers kind b model server (exception.result, { b with
        cuda
        instances := b.instances.refuse model
        abandoned := b.abandoned ++ List.range' b.cuda.streams.length
          (cuda.streams.length - b.cuda.streams.length) })
  | lost (calls : instanceCalls kind server = .ok ()) (pointer : Nat)
      (object : ModelObject Value State) (here : b.models.pointer model = some pointer)
      (live : b.models.live pointer = some object) (inst : BackendModelInstance) (cuda : Cuda)
      (created : BackendModelInstance.create answers server object.config b.cuda = (.ok inst, cuda))
      (error : TritonError) (handed : server.modelInstanceSetState = some error) :
      Initializes answers kind b model server (.returned (some error), { b with
        cuda
        instances := b.instances.lose model { inst with modelState := pointer } })
  | made (calls : instanceCalls kind server = .ok ()) (pointer : Nat)
      (object : ModelObject Value State) (here : b.models.pointer model = some pointer)
      (live : b.models.live pointer = some object) (inst : BackendModelInstance) (cuda : Cuda)
      (created : BackendModelInstance.create answers server object.config b.cuda = (.ok inst, cuda))
      (handed : server.modelInstanceSetState = none) :
      Initializes answers kind b model server (.returned none, { b with
        cuda
        instances := b.instances.entrust model true { inst with modelState := pointer } })

theorem instanceInitialize_cases (answers : CudaAnswers) (kind : BackendKind Value State Work)
    (b : Lifecycle Value State) (model : Nat) (server : InstanceServer Value) :
    Initializes answers kind b model server (b.instanceInitialize answers kind model server) := by
  unfold instanceInitialize
  cases calls : instanceCalls kind server with
  | error error => exact .refused error calls
  | ok _ =>
      simp only
      cases here : b.models.pointer model with
      | none => exact .undefined calls (by simp [here])
      | some pointer =>
          simp only
          cases live : b.models.live pointer with
          | none => exact .undefined calls (by simp [here, live])
          | some object =>
              simp only
              rcases created : BackendModelInstance.create answers server object.config b.cuda with
                ⟨exception | inst, cuda⟩
              · simp only
                exact .thrown calls pointer object here live exception cuda created
              · simp only
                cases handed : server.modelInstanceSetState with
                | some error =>
                    exact .lost calls pointer object here live inst cuda created error handed
                | none => exact .made calls pointer object here live inst cuda created handed

theorem instanceInitialize_orderly (orderly : Orderly answers device b) {model : Nat}
    (server : InstanceServer Value) (ready : b.models.Ready model) :
    Orderly answers device (b.instanceInitialize answers kind model server).2 := by
  have linked {instances : Store Nat ModelInstance} {more : List ModelInstance}
      (cells : instances.cells = b.instances.cells ++ more) {added : Holder Nat}
      (own : Linked { b with instances } added) :
      ∀ holder ∈ b.instances.holders ++ [added], Linked { b with instances } holder := by
    intro holder member
    rcases List.mem_append.mp member with old | new
    · exact (orderly.linked holder old).appends cells
    · exact List.mem_singleton.mp new ▸ own
  have initializes := instanceInitialize_cases answers kind b model server
  generalize b.instanceInitialize answers kind model server = done at initializes ⊢
  cases initializes with
  | refused error calls => simpa using throws_orderly orderly Cuda.Opens.refl model
  | undefined calls missing => exact orderly
  | thrown calls pointer object here live exception cuda created =>
      obtain ⟨opened, opens, _⟩ := create_makes answers object.config server b.cuda
      rw [created] at opens
      exact throws_orderly orderly opens model
  | lost calls pointer object here live inst cuda created error handed =>
      obtain ⟨opened, opens, makes⟩ := create_makes answers object.config server b.cuda
      rw [created] at opens makes
      obtain ⟨fits, own⟩ := makes inst rfl
      exact makes_orderly orderly opens { inst with modelState := pointer } own
        ⟨object, (live_some live).2, fits⟩ (lose_kept orderly.instances model _) rfl rfl
        (linked rfl fun _ => nofun)
  | made calls pointer object here live inst cuda created handed =>
      obtain ⟨opened, opens, makes⟩ := create_makes answers object.config server b.cuda
      rw [created] at opens makes
      obtain ⟨fits, own⟩ := makes inst rfl
      refine makes_orderly orderly opens { inst with modelState := pointer } own
        ⟨object, (live_some live).2, fits⟩ (entrust_kept orderly.instances model true _) rfl rfl
        (linked rfl ?_)
      rintro _ _ ⟨⟩
      obtain ⟨found, stands, isOpen, isReady⟩ := ready
      rw [Store.pointer, stands] at here
      exact ⟨rfl, _, List.getElem?_concat_length, found, stands, isOpen, isReady, here⟩

theorem Orderly.state (orderly : Orderly answers device b) {idx : Nat} {holder : Holder Nat}
    (here : b.instances.holders[idx]? = some holder) (isOpen : holder.closed = false) :
    b.stateOf idx = holder.cell.bind fun cell => b.instances.cells[cell]? := by
  cases given : holder.cell with
  | none => simp [stateOf, Store.pointer, here, given]
  | some cell =>
      have held := mem_held.mpr ⟨holder, List.mem_of_getElem? here, isOpen, given⟩
      simp [stateOf, Store.pointer, here, given, orderly.instances.undeleted held, Store.live]

theorem close_destroyed (orderly : Orderly answers device b) {idx : Nat} {holder : Holder Nat}
    (here : b.instances.holders[idx]? = some holder) (state : b.stateOf idx =
      holder.cell.bind fun cell => b.instances.cells[cell]?) (answered : Bool) :
    let cuda := if answered then deleteState (b.stateOf idx) b.cuda else b.cuda
    cuda.streams = b.cuda.streams ∧ cuda.device = b.cuda.device ∧
      cuda.destroyed = (b.instances.close idx answered).deleted.filterMap b.streamOf := by
  rw [Store.close, here, state]
  cases answered with
  | false => exact ⟨rfl, rfl, orderly.destroyed⟩
  | true =>
      simp only [if_true, List.filterMap_append, ← orderly.destroyed]
      cases holder.cell with
      | none => exact ⟨rfl, rfl, (List.append_nil _).symm⟩
      | some cell =>
          rw [Option.bind_some]
          cases found : b.instances.cells[cell]? with
          | none => simp [deleteState, streamOf, found]
          | some inst =>
              refine ⟨destroy_streams _ _, destroy_device _ _, ?_⟩
              rw [deleteState, destroy_destroyed]
              simp only [Option.toList_some, List.filterMap_cons, streamOf, found, Option.bind_some]
              cases inst.stream <;> rfl

theorem instanceFinalize_orderly (orderly : Orderly answers device b) {idx : Nat}
    (instanceState : Option TritonError) (isOpen : b.instances.Open idx) :
    Orderly answers device (b.instanceFinalize idx instanceState).2 := by
  obtain ⟨holder, here, still⟩ := isOpen
  obtain ⟨streams, sameDevice, destroyed⟩ :=
    close_destroyed orderly here (orderly.state here still) instanceState.isNone
  have kept := close_kept orderly.instances here still instanceState.isNone
  have cells : (b.instances.close idx instanceState.isNone).cells = b.instances.cells := by
    rw [Store.close, here]
  have same : (b.instances.close idx instanceState.isNone).cells = b.instances.cells ++ [] := by
    rw [cells, List.append_nil]
  unfold instanceFinalize
  rw [orderly.instances.sound ⟨holder, here, still⟩, Bool.and_false, if_neg Bool.false_ne_true]
  exact {
    models := orderly.models
    instances := kept
    linked := by
      intro closed member
      rw [Store.close, here] at member
      rcases List.mem_or_eq_of_mem_set member with old | rfl
      · exact (orderly.linked closed old).appends same
      · intro stillOpen
        cases stillOpen
    fits := by
      intro inst member
      rw [cells] at member
      exact orderly.fits inst member
    streamed := by
      intro inst member
      rw [cells] at member
      have before := orderly.streamed inst member
      rw [Streamed, ← streams] at before
      exact before
    streams := by
      rw [cells, streams]
      exact orderly.streams
    destroyed := by
      refine destroyed.trans (List.filterMap_congr fun cell _ => ?_)
      rw [streamOf, streamOf, cells]
    device := fun restores => sameDevice.trans (orderly.device restores) }

/-! Runs. -/

theorem calls_orderly (orderly : Orderly answers device b)
    {done : CallResult × Lifecycle Value State}
    (calls : Calls growth answers kind b done) : Orderly answers device done.2 := by
  cases calls with
  | modelInitialize server => exact modelInitialize_orderly orderly server
  | modelFinalize model modelState isOpen idle =>
      exact modelFinalize_orderly orderly modelState isOpen idle
  | instanceInitialize model server ready => exact instanceInitialize_orderly orderly server ready
  | instanceFinalize idx instanceState isOpen =>
      exact instanceFinalize_orderly orderly instanceState isOpen
  | execute idx work ready => exact execute_orderly orderly idx work

theorem run_orderly (run : Reaches growth answers kind (fresh device) b) :
    Orderly answers device b := by
  induction run with
  | refl => exact fresh_orderly
  | tail _ step orderly =>
      obtain ⟨_, calls⟩ := step
      exact calls_orderly orderly calls

/-! What holds of the models that are set up. -/

theorem instanceInitialize_models (model : Nat) (server : InstanceServer Value) :
    (b.instanceInitialize answers kind model server).2.models = b.models := by
  have initializes := instanceInitialize_cases answers kind b model server
  generalize b.instanceInitialize answers kind model server = done at initializes ⊢
  cases initializes <;> rfl

def Validated (kind : BackendKind Value State Work) (models : Store Unit (ModelObject Value State))
    (holder : Holder Unit) : Prop :=
  holder.ready = true → ∃ pointer object, holder.cell = some pointer ∧
    models.cells[pointer]? = some object ∧ kind.validate object.config = .ok ()

omit [TritonJsonMembers Value] in
theorem Validated.keeps {models later : Store Unit (ModelObject Value State)} {holder : Holder Unit}
    (validated : Validated kind models holder)
    (cells : ∀ (pointer : Nat) (object : ModelObject Value State),
      models.cells[pointer]? = some object →
      ∃ revised, later.cells[pointer]? = some revised ∧ revised.config = object.config) :
    Validated kind later holder := by
  intro ready
  obtain ⟨pointer, object, given, here, valid⟩ := validated ready
  obtain ⟨revised, there, config⟩ := cells pointer object here
  exact ⟨pointer, revised, given, there, config ▸ valid⟩

omit [TritonJsonMembers Value] in
theorem validated_concat {models later : Store Unit (ModelObject Value State)}
    {more : List (ModelObject Value State)} {added : Holder Unit}
    (all : ∀ holder ∈ models.holders, Validated kind models holder)
    (holders : later.holders = models.holders ++ [added])
    (cells : later.cells = models.cells ++ more) (own : Validated kind later added) :
    ∀ holder ∈ later.holders, Validated kind later holder := by
  intro holder member
  rw [holders] at member
  rcases List.mem_append.mp member with old | new
  · refine (all holder old).keeps fun pointer object here => ⟨object, ?_, rfl⟩
    rw [cells, List.getElem?_append_left (List.getElem?_eq_some_iff.mp here).1, here]
  · obtain rfl := List.mem_singleton.mp new
    exact own

theorem modelInitialize_validated (server : ModelServer Value)
    (all : ∀ holder ∈ b.models.holders, Validated kind b.models holder) :
    ∀ holder ∈ (b.modelInitialize growth kind server).2.models.holders,
      Validated kind (b.modelInitialize growth kind server).2.models holder := by
  unfold modelInitialize
  cases newModel growth kind server with
  | error error => exact validated_concat all rfl (List.append_nil _).symm nofun
  | ok model =>
      simp only
      split
      · exact validated_concat all rfl rfl nofun
      · split
        next => exact validated_concat all rfl rfl nofun
        next valid =>
          exact validated_concat all rfl rfl
            fun _ => ⟨_, model, rfl, List.getElem?_concat_length, valid⟩

theorem calls_validated (all : ∀ holder ∈ b.models.holders, Validated kind b.models holder)
    {done : CallResult × Lifecycle Value State} (calls : Calls growth answers kind b done) :
    ∀ holder ∈ done.2.models.holders, Validated kind done.2.models holder := by
  cases calls with
  | modelInitialize server => exact modelInitialize_validated server all
  | modelFinalize model modelState isOpen idle =>
      obtain ⟨closing, here, _⟩ := isOpen
      unfold modelFinalize
      split
      · exact all
      · intro holder member
        rw [Store.close, here] at member ⊢
        rcases List.mem_or_eq_of_mem_set member with old | rfl
        · exact all holder old
        · exact all closing (List.mem_of_getElem? here)
  | instanceInitialize model server ready =>
      rw [instanceInitialize_models]
      exact all
  | instanceFinalize idx instanceState isOpen =>
      unfold instanceFinalize
      split <;> exact all
  | execute idx work ready =>
      unfold execute
      split
      · exact all
      · split
        · exact all
        · intro holder member
          refine (all holder member).keeps fun pointer object here => ?_
          rw [Store.revise, List.getElem?_modify, here]
          refine ⟨_, rfl, ?_⟩
          split <;> rfl

theorem run_validated (run : Reaches growth answers kind (fresh device) b) :
    ∀ holder ∈ b.models.holders, Validated kind b.models holder := by
  induction run with
  | refl => exact nofun
  | tail _ step all =>
      obtain ⟨_, calls⟩ := step
      exact calls_validated all calls

/-! What holds of every model's state. -/

section
variable {holds : ModelObject Value State → Prop}
  (made : ∀ server object, newModel growth kind server = .ok object → holds object)
  (executed : ∀ work object, holds object →
    holds { object with state := (kind.execute work object.state).2 })
include made executed

theorem calls_models (all : ∀ object ∈ b.models.cells, holds object)
    {done : CallResult × Lifecycle Value State} (calls : Calls growth answers kind b done) :
    ∀ object ∈ done.2.models.cells, holds object := by
  cases calls with
  | modelInitialize server =>
      unfold modelInitialize
      cases created : newModel growth kind server with
      | error error => exact all
      | ok model =>
          have appended : ∀ object ∈ b.models.cells ++ [model], holds object := by
            rintro object member
            rcases List.mem_append.mp member with old | new
            · exact all object old
            · obtain rfl := List.mem_singleton.mp new
              exact made server object created
          simp only
          split
          · exact appended
          · split <;> exact appended
  | modelFinalize model modelState isOpen idle =>
      unfold modelFinalize Store.close
      split
      · exact all
      · split <;> exact all
  | instanceInitialize model server ready =>
      rw [instanceInitialize_models]
      exact all
  | instanceFinalize idx instanceState isOpen =>
      unfold instanceFinalize
      split <;> exact all
  | execute idx work ready =>
      unfold execute
      split
      · exact all
      · split
        · exact all
        · intro object member
          obtain ⟨place, here⟩ := List.mem_iff_getElem?.mp member
          rw [Store.revise, List.getElem?_modify] at here
          obtain ⟨before, found, rfl⟩ := Option.map_eq_some_iff.mp here
          split
          · exact executed work before (all before (List.mem_of_getElem? found))
          · exact all before (List.mem_of_getElem? found)

theorem run_models (run : Reaches growth answers kind (fresh device) b) :
    ∀ object ∈ b.models.cells, holds object := by
  induction run with
  | refl => exact nofun
  | tail _ step all =>
      obtain ⟨_, calls⟩ := step
      exact calls_models made executed all calls

end

end

end Lifecycle

end TritonBackend
