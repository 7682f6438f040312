import TritonBackend.Custody
import TritonBackend.ExecuteCore
import TritonBackend.InstanceCore
import Mathlib.Logic.Relation

/-!
The life cycle of a backend's models and instances. The server initializes models, initializes
instances of the models that are loaded, has the instances execute batches and finalizes them,
any number of them at the same time; a model is finalized when its instances have been.
-/

namespace TritonBackend

open Custody

/-- What the server answers about a model. `config` is its parsed configuration. -/
structure ModelServer (Value : Type) where
  modelName : Except TritonError String
  modelVersion : Except TritonError Nat
  modelRepository : Except TritonError (Bool × String)
  modelServer : Option TritonError
  modelBackend : Option TritonError
  backendMemoryManager : Option TritonError
  modelConfig : Option TritonError
  serializeToJson : Option TritonError
  config : Except TritonError Value
  messageDelete : Option TritonError
  logVerbose : Bool
  modelSetState : Option TritonError

structure ModelObject (Value State : Type) where
  name : String
  version : Nat
  repositoryPath : String
  config : Value
  state : State

section
variable {Value : Type} [TritonJson Value] (growth : Growable.Growth) (server : ModelServer Value)

def BackendModel.parsed (config : Value) : Except TritonError BackendModel :=
  match parseModelConfig growth (create false) config with
  | (some error, _) => .error error
  | (none, model) => .ok model

def BackendModel.construct : Except TritonError (ModelObject Value BackendModel) := do
  let name ← server.modelName
  let version ← server.modelVersion
  let repository ← server.modelRepository
  if repository.1 = false then .error {
    code := .unsupported
    message := "unsupported repository artifact type for model '" ++ name ++ "'" }
  else
    answered server.modelServer
    answered server.modelBackend
    answered server.backendMemoryManager
    answered server.modelConfig
    answered server.serializeToJson
    answered server.messageDelete
    let config ← server.config
    let state ← parsed growth config
    .ok { name, version, repositoryPath := repository.2, config, state }

end

/-! What the backends do not share. -/

structure BackendKind (Value State Work : Type) where
  modelQueries : ModelServer Value → Except TritonError Unit
  construct : ModelServer Value → Value → BackendModel → Except TritonError State
  validate : Value → Except TritonError Unit
  instanceQueries : InstanceServer Value → Except TritonError Unit
  /-- What executing a batch returns, where the process survives it, and makes of the model's
  state. -/
  execute : Work → State → Option TritonError × State

structure ModelInstance extends BackendModelInstance where
  modelState : Nat
deriving DecidableEq, Repr

/-- `abandoned` lists the streams of constructors that have thrown. -/
structure Lifecycle (Value State : Type) where
  cuda : Cuda
  models : Store Unit (ModelObject Value State)
  instances : Store Nat ModelInstance
  abandoned : List Nat

inductive CallResult
  | returned (error : Option TritonError)
  /-- A `BackendModelException` that nothing in the backend catches. -/
  | escaped (error : TritonError)
  /-- The code goes on with a null pointer or a deleted object. -/
  | undefined
deriving DecidableEq

def InstanceException.result : InstanceException → CallResult
  | .backendModelInstance error => .returned (some error)
  | .backendModel error => .escaped error

namespace Lifecycle

section
variable {Value State Work : Type} [TritonJsonMembers Value] (growth : Growable.Growth)
  (answers : CudaAnswers) (kind : BackendKind Value State Work)

def fresh (device : Int) : Lifecycle Value State := {
  cuda := Cuda.fresh device
  models := Store.empty
  instances := Store.empty
  abandoned := [] }

/-! The calls for a model. -/

def newModel (server : ModelServer Value) : Except TritonError (ModelObject Value State) := do
  kind.modelQueries server
  let model ← BackendModel.construct growth server
  let state ← kind.construct server model.config model.state
  .ok { model with state }

def modelInitialize (server : ModelServer Value) (b : Lifecycle Value State) :
    CallResult × Lifecycle Value State :=
  match newModel growth kind server with
  | .error error => (.returned (some error), { b with models := b.models.refuse () })
  | .ok model =>
      match server.modelSetState with
      | some error => (.returned (some error), { b with models := b.models.lose () model })
      | none =>
          match kind.validate model.config with
          | .error error =>
              (.returned (some error), { b with models := b.models.entrust () false model })
          | .ok _ => (.returned none, { b with models := b.models.entrust () true model })

/-- `modelState` is the answer to the call that reads the state. -/
def modelFinalize (model : Nat) (modelState : Option TritonError) (b : Lifecycle Value State) :
    CallResult × Lifecycle Value State :=
  if modelState.isNone && b.models.dangles model then (.undefined, b)
  else (.returned modelState, { b with models := b.models.close model modelState.isNone })

/-! The calls for an instance. -/

def instanceCalls (server : InstanceServer Value) : Except TritonError Unit := do
  kind.instanceQueries server
  answered server.modelInstanceModel
  answered server.modelState

def instanceInitialize (model : Nat) (server : InstanceServer Value) (b : Lifecycle Value State) :
    CallResult × Lifecycle Value State :=
  match instanceCalls kind server with
  | .error error => (.returned (some error), { b with instances := b.instances.refuse model })
  | .ok _ =>
      match b.models.pointer model with
      | none => (.undefined, b)
      | some modelState =>
          match b.models.live modelState with
          | none => (.undefined, b)
          | some object =>
              let created := BackendModelInstance.create answers server object.config b.cuda
              match created.1 with
              | .error exception =>
                  (exception.result, { b with
                    cuda := created.2
                    instances := b.instances.refuse model
                    abandoned := b.abandoned ++ List.range' b.cuda.streams.length
                      (created.2.streams.length - b.cuda.streams.length) })
              | .ok inst =>
                  match server.modelInstanceSetState with
                  | some error => (.returned (some error), { b with
                      cuda := created.2
                      instances := b.instances.lose model { inst with modelState } })
                  | none => (.returned none, { b with
                      cuda := created.2
                      instances := b.instances.entrust model true { inst with modelState } })

def stateOf (b : Lifecycle Value State) (idx : Nat) : Option ModelInstance :=
  (b.instances.pointer idx).bind b.instances.live

def deleteState (state : Option ModelInstance) (cuda : Cuda) : Cuda :=
  match state with
  | none => cuda
  | some inst => inst.destroy cuda

def instanceFinalize (idx : Nat) (instanceState : Option TritonError) (b : Lifecycle Value State) :
    CallResult × Lifecycle Value State :=
  if instanceState.isNone && b.instances.dangles idx then (.undefined, b)
  else (.returned instanceState, { b with
    instances := b.instances.close idx instanceState.isNone
    cuda := if instanceState.isNone then deleteState (b.stateOf idx) b.cuda else b.cuda })

def execute (idx : Nat) (work : Work) (b : Lifecycle Value State) :
    CallResult × Lifecycle Value State :=
  match b.stateOf idx with
  | none => (.undefined, b)
  | some inst =>
      match b.models.live inst.modelState with
      | none => (.undefined, b)
      | some object => (.returned (kind.execute work object.state).1, { b with
          models := b.models.revise inst.modelState fun object =>
            { object with state := (kind.execute work object.state).2 } })

/-- What the server calls, and when: it loads and executes only what has been set up, and
finalizes a model behind its instances and nothing twice. -/
inductive Calls (b : Lifecycle Value State) : CallResult × Lifecycle Value State → Prop
  | modelInitialize (server : ModelServer Value) : Calls b (b.modelInitialize growth kind server)
  | modelFinalize (model : Nat) (modelState : Option TritonError) (isOpen : b.models.Open model)
      (idle : ∀ inst ∈ b.instances.holders, inst.tag = model → inst.ready = true →
        inst.closed = true) : Calls b (b.modelFinalize model modelState)
  | instanceInitialize (model : Nat) (server : InstanceServer Value) (ready : b.models.Ready model) :
      Calls b (b.instanceInitialize answers kind model server)
  | instanceFinalize (idx : Nat) (instanceState : Option TritonError)
      (isOpen : b.instances.Open idx) : Calls b (b.instanceFinalize idx instanceState)
  | execute (idx : Nat) (work : Work) (ready : b.instances.Ready idx) :
      Calls b (b.execute kind idx work)

def Step (b b' : Lifecycle Value State) : Prop :=
  ∃ result, Calls growth answers kind b (result, b')

def Reaches : Lifecycle Value State → Lifecycle Value State → Prop :=
  Relation.ReflTransGen (Step growth answers kind)

end

end Lifecycle

end TritonBackend
