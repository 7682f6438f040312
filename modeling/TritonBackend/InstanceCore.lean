import TritonBackend.ModelConfigCore

/-!
`BackendModelInstance`: its constructor, which opens a CUDA stream for an instance on a GPU, and
its destructor. The calls are those of one thread, whose current device is part of the state.
-/

namespace TritonBackend

/-- What is left of `TritonJson` that instances are made from. -/
class TritonJsonMembers (Value : Type) extends TritonJson Value where
  asString : Value → Except TritonError String
  members : Value → Except TritonError (List String)

def JsonTree.names : JsonTree → Except TritonError (List String)
  | .object members => .ok (members.map Prod.fst)
  | _ => .error (JsonTree.expected "object")

instance : TritonJsonMembers JsonTree where
  asString value := JsonTree.toText (some value)
  members := JsonTree.names

/-! The CUDA runtime. -/

structure CudaStream where
  deviceId : Int
  priority : Int
deriving DecidableEq, Repr

/-- `tick` counts the calls. `destroyed` lists what `cudaStreamDestroy` was called for, which
logs its failure. -/
structure Cuda where
  tick : Nat
  device : Int
  streams : List CudaStream
  destroyed : List Nat
deriving DecidableEq, Repr

/-- The outcomes of the calls, by their ticks; an error is its `cudaGetErrorString`. -/
structure CudaAnswers where
  getDevice : Nat → Option String
  setDevice : Nat → Int → Option String
  streamCreate : Nat → Option String
  deviceProperties : Nat → Int → Except String (Int × Int)

section
variable (answers : CudaAnswers)

namespace Cuda

def fresh (device : Int) : Cuda := {
  tick := 0
  device
  streams := []
  destroyed := [] }

def called (cuda : Cuda) : Cuda := { cuda with tick := cuda.tick + 1 }

def getDevice (cuda : Cuda) : Except String Int × Cuda :=
  (match answers.getDevice cuda.tick with
    | some error => .error error
    | none => .ok cuda.device, cuda.called)

def setDevice (deviceId : Int) (cuda : Cuda) : Option String × Cuda :=
  let error := answers.setDevice cuda.tick deviceId
  (error, { cuda.called with device := if error.isSome then cuda.device else deviceId })

/-- `cudaStreamCreateWithPriority`, on the current device. -/
def streamCreate (priority : Int) (cuda : Cuda) : Except String Nat × Cuda :=
  match answers.streamCreate cuda.tick with
  | some error => (.error error, cuda.called)
  | none => (.ok cuda.streams.length, { cuda.called with
      streams := cuda.streams ++ [{ deviceId := cuda.device, priority }] })

def deviceProperties (deviceId : Int) (cuda : Cuda) : Except String (Int × Int) × Cuda :=
  (answers.deviceProperties cuda.tick deviceId, cuda.called)

def streamDestroy (stream : Nat) (cuda : Cuda) : Cuda :=
  { cuda.called with destroyed := cuda.destroyed ++ [stream] }

end Cuda

def overridden (deviceId : Int) (current : Except String Int) : Option Int :=
  match current with
  | .error _ => none
  | .ok current => if current = deviceId then none else some current

def createCudaStream (deviceId priority : Int) (cuda : Cuda) : Except TritonError Nat × Cuda :=
  let current := cuda.getDevice answers
  let saved := overridden deviceId current.1
  let selected : Option String × Cuda :=
    match current.1, saved with
    | .error error, _ => (some error, current.2)
    | .ok _, some _ => current.2.setDevice answers deviceId
    | .ok _, none => (none, current.2)
  let created : Except String Nat × Cuda :=
    match selected.1 with
    | some error => (.error error, selected.2)
    | none => selected.2.streamCreate answers priority
  let restored : Cuda :=
    match saved with
    | some device => (created.2.setDevice answers device).2
    | none => created.2
  match created.1 with
  | .error error =>
      (.error { code := .internal, message := "unable to create stream: " ++ error }, restored)
  | .ok stream => (.ok stream, restored)

end

/-! The constructor. -/

inductive InstanceGroupKind
  | auto | cpu | gpu | model
deriving DecidableEq, Repr

/-- What the server answers about an instance. `hostPolicy` is the parsed message. -/
structure InstanceServer (Value : Type) where
  modelInstanceName : Except TritonError String
  modelInstanceKind : Except TritonError InstanceGroupKind
  modelInstanceDeviceId : Except TritonError Int
  modelInstanceHostPolicy : Option TritonError
  serializeToJson : Option TritonError
  hostPolicy : Except TritonError Value
  modelInstanceModel : Option TritonError
  modelState : Option TritonError
  modelInstanceSetState : Option TritonError

structure BackendModelInstance where
  name : String
  kind : InstanceGroupKind
  deviceId : Int
  artifactFilename : String
  stream : Option Nat
  hostPolicyName : String
deriving DecidableEq, Repr

inductive InstanceException
  | backendModelInstance (error : TritonError)
  | backendModel (error : TritonError)
deriving DecidableEq, Repr

def answered (error : Option TritonError) : Except TritonError Unit :=
  match error with
  | some error => .error error
  | none => .ok ()

section
variable (answers : CudaAnswers) {Value : Type} [TritonJsonMembers Value]
  (server : InstanceServer Value) (config : Value)

def namedInstance : Except TritonError BackendModelInstance := do
  let name ← server.modelInstanceName
  let kind ← server.modelInstanceKind
  let deviceId ← server.modelInstanceDeviceId
  let artifactFilename ← TritonJson.memberAsString config "default_model_filename"
  .ok { name, kind, deviceId, artifactFilename, stream := none, hostPolicyName := "" }

/-- The file of a compute capability; one that is not a string leaves the default. -/
def ccModelFilename (default cc : String) : String :=
  match TritonJson.find config "cc_model_filenames" with
  | none => default
  | some ccNames =>
      match TritonJson.find ccNames cc with
      | none => default
      | some ccName =>
          match TritonJsonMembers.asString ccName with
          | .error _ => default
          | .ok filename => filename

def chooseArtifact (named : BackendModelInstance) (cuda : Cuda) : Except TritonError String × Cuda :=
  match named.kind with
  | .cpu | .model => (.ok named.artifactFilename, cuda)
  | .gpu =>
      let properties := cuda.deviceProperties answers named.deviceId
      match properties.1 with
      | .error error =>
          (.error {
            code := .internal
            message := "unable to get CUDA device properties for " ++ named.name ++ ": " ++ error },
            properties.2)
      | .ok (major, minor) =>
          (.ok (ccModelFilename config named.artifactFilename
            (toString major ++ "." ++ toString minor)), properties.2)
  | .auto =>
      (.error { code := .internal, message := "unexpected instance kind for " ++ named.name }, cuda)

def openStream (named : BackendModelInstance) (cuda : Cuda) :
    Except TritonError (Option Nat) × Cuda :=
  if named.kind = .gpu then
    let created := createCudaStream answers named.deviceId 0 cuda
    (created.1.map some, created.2)
  else (.ok none, cuda)

/-- Reading the host policy throws the exception of the model. -/
def hostPolicyNames : Except TritonError (List String) := do
  answered server.modelInstanceHostPolicy
  answered server.serializeToJson
  let hostPolicy ← server.hostPolicy
  TritonJsonMembers.members hostPolicy

def chooseHostPolicy (name : String) : Except InstanceException String :=
  match hostPolicyNames server with
  | .error error => .error (.backendModel error)
  | .ok [hostPolicyName] => .ok hostPolicyName
  | .ok _ => .error (.backendModelInstance {
      code := .internal
      message := "unexpected no host policy for " ++ name })

def BackendModelInstance.create (cuda : Cuda) :
    Except InstanceException BackendModelInstance × Cuda :=
  match namedInstance server config with
  | .error error => (.error (.backendModelInstance error), cuda)
  | .ok named =>
      let chosen := chooseArtifact answers config named cuda
      match chosen.1 with
      | .error error => (.error (.backendModelInstance error), chosen.2)
      | .ok artifactFilename =>
          let opened := openStream answers named chosen.2
          match opened.1 with
          | .error error => (.error (.backendModelInstance error), opened.2)
          | .ok stream =>
              ((chooseHostPolicy server named.name).map fun hostPolicyName =>
                { named with artifactFilename, stream, hostPolicyName }, opened.2)

end

def BackendModelInstance.destroy (inst : BackendModelInstance) (cuda : Cuda) : Cuda :=
  match inst.stream with
  | some stream => cuda.streamDestroy stream
  | none => cuda

end TritonBackend
