import TritonBackend.InstanceCore

/-!
What making an instance does to the CUDA runtime: it opens a stream for an instance on a GPU, on
the instance's device, and leaves the device of its caller set.
-/

namespace TritonBackend

def CudaAnswers.Restores (answers : CudaAnswers) (device : Int) : Prop :=
  ∀ tick, answers.setDevice tick device = none

namespace Cuda

/-- From one state to a later one that has opened these streams. -/
structure Opens (answers : CudaAnswers) (cuda cuda' : Cuda) (opened : List CudaStream) : Prop where
  streams : cuda'.streams = cuda.streams ++ opened
  destroyed : cuda'.destroyed = cuda.destroyed
  restored : answers.Restores cuda.device → cuda'.device = cuda.device

section
variable {answers : CudaAnswers} {cuda cuda' last : Cuda}

theorem Opens.none (streams : cuda'.streams = cuda.streams)
    (destroyed : cuda'.destroyed = cuda.destroyed) (device : cuda'.device = cuda.device) :
    Opens answers cuda cuda' [] where
  streams := by rw [streams, List.append_nil]
  destroyed := destroyed
  restored _ := device

theorem Opens.refl : Opens answers cuda cuda [] := Opens.none rfl rfl rfl

theorem Opens.trans {opened later : List CudaStream} (first : Opens answers cuda cuda' opened)
    (second : Opens answers cuda' last later) : Opens answers cuda last (opened ++ later) where
  streams := by rw [second.streams, first.streams, List.append_assoc]
  destroyed := second.destroyed.trans first.destroyed
  restored restores := by
    have same := first.restored restores
    rw [second.restored (same ▸ restores), same]

theorem deviceProperties_opens (deviceId : Int) :
    Opens answers cuda (cuda.deviceProperties answers deviceId).2 [] := Opens.none rfl rfl rfl

end

end Cuda

section
variable (answers : CudaAnswers)

/-- The outcome of `CreateCudaStream`, and the streams it has opened. -/
structure Created (deviceId priority : Int) (cuda : Cuda) (done : Except TritonError Nat × Cuda) :
    Prop where
  opens : cuda.Opens answers done.2
    (if done.1.isOk then [{ deviceId, priority }] else [])
  stream : ∀ stream, done.1 = .ok stream → stream = cuda.streams.length

theorem streamCreate_cases (priority : Int) (cuda : Cuda) :
    (∃ error, cuda.streamCreate answers priority = (.error error, cuda.called)) ∨
      cuda.streamCreate answers priority = (.ok cuda.streams.length, { cuda.called with
        streams := cuda.streams ++ [{ deviceId := cuda.device, priority }] }) := by
  unfold Cuda.streamCreate
  cases answers.streamCreate cuda.tick with
  | some error => exact .inl ⟨error, rfl⟩
  | none => exact .inr rfl

theorem setDevice_restored {device : Int} (restores : answers.Restores device) (cuda : Cuda) :
    (cuda.setDevice answers device).2.device = device := by
  simp [Cuda.setDevice, restores cuda.tick]

theorem createCudaStream_created (deviceId priority : Int) (cuda : Cuda) :
    Created answers deviceId priority cuda (createCudaStream answers deviceId priority cuda) := by
  unfold createCudaStream Cuda.getDevice
  cases answers.getDevice cuda.tick with
  | some error => exact ⟨Cuda.Opens.none rfl rfl rfl, nofun⟩
  | none =>
      by_cases same : cuda.device = deviceId
      · subst same
        simp only [overridden, if_true]
        rcases streamCreate_cases answers priority cuda.called with ⟨error, failed⟩ | made
        · rw [failed]
          exact ⟨Cuda.Opens.none rfl rfl rfl, nofun⟩
        · rw [made]
          refine ⟨⟨rfl, rfl, fun _ => rfl⟩, ?_⟩
          rintro stream ⟨⟩
          rfl
      -- the device of the caller is set again, whether or not there is a stream
      · simp only [overridden, if_neg same]
        unfold Cuda.setDevice
        cases answers.setDevice cuda.called.tick deviceId with
        | some error =>
            exact ⟨⟨(List.append_nil _).symm, rfl, fun restores =>
              setDevice_restored answers restores _⟩, nofun⟩
        | none =>
            rcases streamCreate_cases answers priority { cuda.called.called with device := deviceId }
              with ⟨error, failed⟩ | made
            · simp only [Option.isSome_none, Bool.false_eq_true, if_false, failed]
              exact ⟨⟨(List.append_nil _).symm, rfl, fun restores =>
                setDevice_restored answers restores _⟩, nofun⟩
            · simp only [Option.isSome_none, Bool.false_eq_true, if_false, made]
              refine ⟨⟨rfl, rfl, fun restores => setDevice_restored answers restores _⟩, ?_⟩
              rintro stream ⟨⟩
              rfl

end

/-! An instance that was made. -/

section
variable (answers : CudaAnswers) {Value : Type} [TritonJsonMembers Value] (config : Value)

/-- The file of an instance: the default one, or on a GPU that of the compute capability, where
the configuration has one. -/
structure Fits (inst : BackendModelInstance) : Prop where
  known : inst.kind ≠ .auto
  artifact : ∃ default, TritonJson.memberAsString config "default_model_filename" = .ok default ∧
    if inst.kind = .gpu then
      ∃ tick major minor, answers.deviceProperties tick inst.deviceId = .ok (major, minor) ∧
        inst.artifactFilename =
          ccModelFilename config default (toString major ++ "." ++ toString minor)
    else inst.artifactFilename = default

def BackendModelInstance.Streams (inst : BackendModelInstance) (cuda : Cuda)
    (opened : List CudaStream) : Prop :=
  if inst.kind = .gpu then
    inst.stream = some cuda.streams.length ∧ opened = [{ deviceId := inst.deviceId, priority := 0 }]
  else inst.stream = none ∧ opened = []

theorem chooseArtifact_fits {named : BackendModelInstance} (cuda : Cuda)
    (default : TritonJson.memberAsString config "default_model_filename" =
      .ok named.artifactFilename) :
    let chosen := chooseArtifact answers config named cuda
    cuda.Opens answers chosen.2 [] ∧ ∀ artifactFilename, chosen.1 = .ok artifactFilename →
      Fits answers config { named with artifactFilename } := by
  unfold chooseArtifact
  cases kind : named.kind with
  | auto => exact ⟨Cuda.Opens.refl, nofun⟩
  | cpu =>
      refine ⟨Cuda.Opens.refl, ?_⟩
      rintro _ ⟨⟩
      exact ⟨by simp, _, default, by simp⟩
  | model =>
      refine ⟨Cuda.Opens.refl, ?_⟩
      rintro _ ⟨⟩
      exact ⟨by simp, _, default, by simp⟩
  | gpu =>
      simp only [Cuda.deviceProperties]
      cases properties : answers.deviceProperties cuda.tick named.deviceId with
      | error error => exact ⟨Cuda.deviceProperties_opens named.deviceId, nofun⟩
      | ok capability =>
          obtain ⟨major, minor⟩ := capability
          refine ⟨Cuda.deviceProperties_opens named.deviceId, ?_⟩
          rintro _ ⟨⟩
          exact ⟨by simp, _, default, cuda.tick, major, minor, properties, rfl⟩

theorem openStream_streams (named : BackendModelInstance) (cuda : Cuda) :
    let opening := openStream answers named cuda
    ∃ opened, cuda.Opens answers opening.2 opened ∧
      (∀ stream, opening.1 = .ok stream →
        BackendModelInstance.Streams { named with stream } cuda opened) ∧
      ∀ error, opening.1 = .error error → opened = [] := by
  unfold openStream BackendModelInstance.Streams
  by_cases gpu : named.kind = .gpu
  · have created := createCudaStream_created answers named.deviceId 0 cuda
    simp only [if_pos gpu]
    refine ⟨_, created.opens, ?_⟩
    cases made : (createCudaStream answers named.deviceId 0 cuda).1 with
    | error error => exact ⟨nofun, fun _ _ => rfl⟩
    | ok stream =>
        rw [created.stream stream made]
        refine ⟨?_, nofun⟩
        rintro _ ⟨⟩
        exact ⟨rfl, rfl⟩
  · simp only [if_neg gpu]
    refine ⟨[], Cuda.Opens.refl, ?_, nofun⟩
    rintro _ ⟨⟩
    exact ⟨rfl, rfl⟩

theorem namedInstance_kind {server : InstanceServer Value} {named : BackendModelInstance}
    (known : namedInstance server config = .ok named) : server.modelInstanceKind = .ok named.kind := by
  simp only [namedInstance, Fallible.bind_success, Except.ok.injEq] at known
  obtain ⟨_, _, _, kind, _, _, _, _, rfl⟩ := known
  exact kind

theorem namedInstance_artifact {server : InstanceServer Value} {named : BackendModelInstance}
    (known : namedInstance server config = .ok named) :
    TritonJson.memberAsString config "default_model_filename" = .ok named.artifactFilename := by
  simp only [namedInstance, Fallible.bind_success, Except.ok.injEq] at known
  obtain ⟨_, _, _, _, _, _, _, default, rfl⟩ := known
  exact default

/-- The constructor gets to the host policy, with this stream for the instance. -/
structure Prepared (server : InstanceServer Value) (cuda : Cuda) (named : BackendModelInstance)
    (artifactFilename : String) (stream : Option Nat) : Prop where
  known : namedInstance server config = .ok named
  chosen : (chooseArtifact answers config named cuda).1 = .ok artifactFilename
  opened : (openStream answers named (chooseArtifact answers config named cuda).2).1 = .ok stream

variable {answers config} in
theorem Prepared.create {server : InstanceServer Value} {cuda : Cuda} {named : BackendModelInstance}
    {artifactFilename : String} {stream : Option Nat}
    (prepared : Prepared answers config server cuda named artifactFilename stream) :
    BackendModelInstance.create answers server config cuda =
      ((chooseHostPolicy server named.name).map fun hostPolicyName =>
        { named with artifactFilename, stream, hostPolicyName },
        (openStream answers named (chooseArtifact answers config named cuda).2).2) := by
  simp only [BackendModelInstance.create, prepared.known, prepared.chosen, prepared.opened]

/-- What the constructor throws before the host policy is the exception of the instance, and no
stream is open then. -/
theorem create_cases (server : InstanceServer Value) (cuda : Cuda) :
    let created := BackendModelInstance.create answers server config cuda
    (∃ error, created.1 = .error (.backendModelInstance error) ∧
      cuda.Opens answers created.2 [] ∧
      ∀ named artifactFilename stream,
        ¬ Prepared answers config server cuda named artifactFilename stream) ∨
      ∃ named artifactFilename stream,
        Prepared answers config server cuda named artifactFilename stream := by
  unfold BackendModelInstance.create
  cases known : namedInstance server config with
  | error error =>
      refine .inl ⟨error, rfl, Cuda.Opens.refl, ?_⟩
      intro named artifactFilename stream prepared
      cases known.symm.trans prepared.known
  | ok named =>
      obtain ⟨chosen, _⟩ :=
        chooseArtifact_fits answers config cuda (namedInstance_artifact config known)
      simp only
      cases artifact : (chooseArtifact answers config named cuda).1 with
      | error error =>
          refine .inl ⟨error, rfl, chosen, ?_⟩
          intro other artifactFilename stream prepared
          obtain rfl := Except.ok.inj (known.symm.trans prepared.known)
          cases artifact.symm.trans prepared.chosen
      | ok artifactFilename =>
          obtain ⟨opened, opens, _, failed⟩ :=
            openStream_streams answers named (chooseArtifact answers config named cuda).2
          simp only
          cases opening : (openStream answers named (chooseArtifact answers config named cuda).2).1 with
          | error error =>
              obtain rfl := failed error opening
              refine .inl ⟨error, rfl, chosen.trans opens, ?_⟩
              intro other artifactFilename stream prepared
              obtain rfl := Except.ok.inj (known.symm.trans prepared.known)
              cases opening.symm.trans prepared.opened
          | ok stream => exact .inr ⟨named, artifactFilename, stream, known, artifact, opening⟩

variable {answers config} in
theorem Prepared.opens {server : InstanceServer Value} {cuda : Cuda} {named : BackendModelInstance}
    {artifactFilename : String} {stream : Option Nat}
    (prepared : Prepared answers config server cuda named artifactFilename stream) :
    ∃ opened, cuda.Opens answers (BackendModelInstance.create answers server config cuda).2 opened ∧
      Fits answers config { named with artifactFilename } ∧
      BackendModelInstance.Streams { named with stream } cuda opened := by
  obtain ⟨chosen, fits⟩ :=
    chooseArtifact_fits answers config cuda (namedInstance_artifact config prepared.known)
  obtain ⟨opened, opens, streams, _⟩ :=
    openStream_streams answers named (chooseArtifact answers config named cuda).2
  have own := streams stream prepared.opened
  rw [BackendModelInstance.Streams, chosen.streams, List.append_nil] at own
  rw [prepared.create]
  exact ⟨opened, chosen.trans opens, fits artifactFilename prepared.chosen, own⟩

theorem create_makes (server : InstanceServer Value) (cuda : Cuda) :
    let created := BackendModelInstance.create answers server config cuda
    ∃ opened, cuda.Opens answers created.2 opened ∧ ∀ inst, created.1 = .ok inst →
      Fits answers config inst ∧ inst.Streams cuda opened := by
  rcases create_cases answers config server cuda with ⟨error, thrown, opens, _⟩ |
    ⟨named, artifactFilename, stream, prepared⟩
  · refine ⟨[], opens, ?_⟩
    intro inst made
    cases thrown.symm.trans made
  · obtain ⟨opened, opens, fits, own⟩ := prepared.opens
    refine ⟨opened, opens, ?_⟩
    rw [prepared.create]
    cases chooseHostPolicy server named.name with
    | error exception => exact nofun
    | ok hostPolicyName =>
        rintro _ ⟨⟩
        exact ⟨⟨fits.known, fits.artifact⟩, own⟩

/-- A constructor that throws has opened a stream only for an instance on a GPU whose host policy
it could not choose. -/
theorem create_throws {server : InstanceServer Value} {cuda : Cuda} {exception : InstanceException}
    (thrown : (BackendModelInstance.create answers server config cuda).1 = .error exception) :
    let streams := (BackendModelInstance.create answers server config cuda).2.streams
    streams.length = cuda.streams.length ∨ streams.length = cuda.streams.length + 1 ∧
      server.modelInstanceKind = .ok .gpu ∧
        ∃ name, chooseHostPolicy server name = .error exception := by
  rcases create_cases answers config server cuda with ⟨_, _, opens, _⟩ |
    ⟨named, artifactFilename, stream, prepared⟩
  · exact .inl (by rw [opens.streams, List.append_nil])
  · obtain ⟨opened, opens, _, own⟩ := prepared.opens
    rw [BackendModelInstance.Streams] at own
    split at own
    next gpu =>
      refine .inr ⟨by rw [opens.streams, own.2, List.length_append, List.length_singleton], ?_,
        named.name, ?_⟩
      · rw [namedInstance_kind config prepared.known]
        exact congrArg Except.ok gpu
      · rw [prepared.create] at thrown
        cases policy : chooseHostPolicy server named.name with
        | error other =>
            rw [policy] at thrown
            exact congrArg Except.error (Except.error.inj thrown)
        | ok hostPolicyName =>
            rw [policy] at thrown
            cases thrown
    next => exact .inl (by rw [opens.streams, own.2, List.append_nil])

theorem create_escapes {server : InstanceServer Value} {cuda : Cuda} {error : TritonError} :
    (BackendModelInstance.create answers server config cuda).1 = .error (.backendModel error) ↔
      hostPolicyNames server = .error error ∧ ∃ named artifactFilename stream,
        Prepared answers config server cuda named artifactFilename stream := by
  rcases create_cases answers config server cuda with ⟨other, thrown, _, unprepared⟩ |
    ⟨named, artifactFilename, stream, prepared⟩
  · rw [thrown]
    refine ⟨nofun, ?_⟩
    rintro ⟨_, named, artifactFilename, stream, prepared⟩
    exact absurd prepared (unprepared _ _ _)
  · rw [prepared.create, chooseHostPolicy]
    cases policy : hostPolicyNames server with
    | error found =>
        simp only [Except.map, Except.error.injEq, InstanceException.backendModel.injEq]
        exact ⟨fun same => ⟨same, _, _, _, prepared⟩, fun escapes => escapes.1⟩
    | ok names =>
        refine ⟨?_, fun escapes => nomatch escapes.1⟩
        rcases names with _ | ⟨name, _ | ⟨other, rest⟩⟩
        · exact nofun
        · exact nofun
        · exact nofun

end

/-! The destructor. -/

@[simp] theorem destroy_streams (inst : BackendModelInstance) (cuda : Cuda) :
    (inst.destroy cuda).streams = cuda.streams := by
  unfold BackendModelInstance.destroy
  split <;> rfl

@[simp] theorem destroy_device (inst : BackendModelInstance) (cuda : Cuda) :
    (inst.destroy cuda).device = cuda.device := by
  unfold BackendModelInstance.destroy
  split <;> rfl

theorem destroy_destroyed (inst : BackendModelInstance) (cuda : Cuda) :
    (inst.destroy cuda).destroyed = cuda.destroyed ++ inst.stream.toList := by
  unfold BackendModelInstance.destroy
  cases inst.stream with
  | none => exact (List.append_nil _).symm
  | some stream => rfl

end TritonBackend
