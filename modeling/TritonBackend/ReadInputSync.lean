import TritonBackend.ReadInputCore
import TritonBackend.GatheredTensor
import TritonBackend.LaidCopies

/-!
What a successful `ReadInputTensor` leaves in the destination, and when `cuda_used` tells whether
the stream has to be waited for. Each copy overwrites the flag, so that it speaks of the last
buffer only. A copy that CUDA was asked for has landed once the stream is waited for.
-/

namespace TritonBackend

open CopyStream

/-! The copies of a call. -/

def readSegments (offset : Nat) : List MemoryDesc → List Segment
  | [] => []
  | desc :: rest => { source := desc, offset } :: readSegments (offset + desc.byteSize) rest

theorem readSegments_laid (start : Nat) (descs : List MemoryDesc) :
    Laid Segment.offset (fun segment => segment.source.byteSize) start (readSegments start descs) := by
  induction descs generalizing start with
  | nil => trivial
  | cons desc rest ih => exact ⟨rfl, ih _⟩

@[simp] theorem readSegments_sources (start : Nat) (descs : List MemoryDesc) :
    (readSegments start descs).map Segment.source = descs := by
  induction descs generalizing start with
  | nil => rfl
  | cons desc rest ih => rw [readSegments, List.map_cons, ih]

abbrev readCopy (buffer : Address) : Segment → Copy Block :=
  laidCopy Segment.offset (fun segment => segment.source.byteSize)
    (fun segment => segment.source.address) buffer

def copiedAtOnce (memoryType : MemoryType) (copyOnStream : Bool) (desc : MemoryDesc) : Bool :=
  desc.memoryType ≠ .gpu && memoryType ≠ .gpu && !copyOnStream

theorem copiedAtOnce_iff {memoryType : MemoryType} {copyOnStream : Bool} {desc : MemoryDesc} :
    copiedAtOnce memoryType copyOnStream desc = true ↔
      desc.memoryType ≠ .gpu ∧ memoryType ≠ .gpu ∧ copyOnStream = false := by
  simp [copiedAtOnce, and_assoc]

def readAction (memoryType : MemoryType) (copyOnStream : Bool) (buffer : Address)
    (segment : Segment) : Action Block UInt8 :=
  if copiedAtOnce memoryType copyOnStream segment.source then .host (.copy (readCopy buffer segment))
  else .stream [readCopy buffer segment]

def flagAfter (memoryType : MemoryType) (copyOnStream cudaUsed : Bool) (descs : List MemoryDesc) :
    Bool :=
  match descs.getLast? with
  | none => cudaUsed
  | some last => !copiedAtOnce memoryType copyOnStream last

theorem buffers_cons {input : Input} {b : Nat} {desc : MemoryDesc} {rest : List MemoryDesc}
    (ahead : input.buffers.drop b = desc :: rest) :
    input.buffers[b]? = some desc ∧ input.buffers.drop (b + 1) = rest := by
  constructor
  · rw [← List.head?_drop, ahead]
    rfl
  · rw [← List.tail_drop, ahead]
    rfl

theorem flagAfter_cons (memoryType : MemoryType) (copyOnStream cudaUsed : Bool) (desc : MemoryDesc)
    (rest : List MemoryDesc) : flagAfter memoryType copyOnStream cudaUsed (desc :: rest) =
      flagAfter memoryType copyOnStream (!copiedAtOnce memoryType copyOnStream desc) rest := by
  cases rest with
  | nil => rfl
  | cons next later => simp only [flagAfter, List.getLast?_cons_cons]; rfl

section
variable (env : Env) (inputName : String) (input : Input) (buffer : Address)
  (memoryType : MemoryType) (memoryTypeId : Int) (copyOnStream : Bool)

theorem copyBuffer_sound {s : Sys} {msg : String} {desc : MemoryDesc} {offset : Nat}
    (success : (copyBuffer env s msg desc.memoryType desc.memoryTypeId memoryType memoryTypeId
      desc.byteSize desc.address (buffer.advance offset) copyOnStream).error = none) :
    desc.Sound := by
  intro null
  by_contra bytes
  have unset : desc.byteSize > 0 ∧ isNull desc.address = true :=
    ⟨Nat.pos_of_ne_zero bytes, by simp [isNull, MemoryDesc.address, null]⟩
  simp [copyBuffer, unset, errorNew] at success

theorem copyBuffer_success (s : Sys) (msg : String) (desc : MemoryDesc) (offset : Nat)
    (success : (copyBuffer env s msg desc.memoryType desc.memoryTypeId memoryType memoryTypeId
      desc.byteSize desc.address (buffer.advance offset) copyOnStream).error = none) :
    let copied := copyBuffer env s msg desc.memoryType desc.memoryTypeId memoryType memoryTypeId
      desc.byteSize desc.address (buffer.advance offset) copyOnStream
    copied.sys.actions =
        s.actions ++ [readAction memoryType copyOnStream buffer { source := desc, offset }] ∧
      copied.cudaUsed = !copiedAtOnce memoryType copyOnStream desc := by
  intro copied
  have outcome := copyBuffer_outcome env s msg desc.memoryType desc.memoryTypeId memoryType
    memoryTypeId desc.byteSize desc.address (buffer.advance offset) copyOnStream
  have atOnce : copied.cudaUsed = false ↔ copiedAtOnce memoryType copyOnStream desc = true :=
    (copyBuffer_cudaUsed success).trans copiedAtOnce_iff.symm
  change CopyOutcome s _ copied at outcome
  change copied.error = none at success
  generalize copied = result at outcome atOnce success ⊢
  cases outcome with
  | host =>
      have host := atOnce.mp rfl
      simp only [readAction, host, if_true, actions_issue]
      exact ⟨rfl, rfl⟩
  | stream tick =>
      have queued : copiedAtOnce memoryType copyOnStream desc = false :=
        Bool.eq_false_iff.mpr fun host => Bool.noConfusion (atOnce.mpr host)
      simp only [readAction, queued, Bool.false_eq_true, if_false, actions_issue]
      exact ⟨rfl, rfl⟩
  | failed tick error => cases success

theorem readInputBuffers_success (s : Sys) (cudaUsed : Bool) (offset b : Nat)
    {descs : List MemoryDesc} (ahead : input.buffers.drop b = descs)
    (success : (readInputBuffers env inputName input buffer memoryType memoryTypeId copyOnStream s
      cudaUsed offset b descs.length).error = none) :
    let read := readInputBuffers env inputName input buffer memoryType memoryTypeId copyOnStream s
      cudaUsed offset b descs.length
    read.sys.actions = s.actions ++
        (readSegments offset descs).map (readAction memoryType copyOnStream buffer) ∧
      read.cudaUsed = flagAfter memoryType copyOnStream cudaUsed descs ∧
      ∀ desc ∈ descs, desc.Sound := by
  induction descs generalizing s cudaUsed offset b with
  | nil => simp [readInputBuffers, readSegments, flagAfter]
  | cons desc rest ih =>
      obtain ⟨there, later⟩ := buffers_cons ahead
      simp only [List.length_cons, readInputBuffers, inputBuffer, call_eq, Option.bind_some, there]
        at success ⊢
      cases failed : env.outcome s.tick .inputBuffer with
      | some error => simp [failed] at success
      | none =>
          simp only [failed] at success ⊢
          have step := copyBuffer_success env buffer memoryType memoryTypeId copyOnStream
            { s with tick := s.tick + 1 } "Failed to copy buffer" desc offset
          have sound := @copyBuffer_sound env buffer memoryType memoryTypeId copyOnStream
            { s with tick := s.tick + 1 } "Failed to copy buffer" desc offset
          generalize copyBuffer env _ _ _ _ _ _ _ _ _ _ = copied at step sound success ⊢
          cases outcome : copied.error with
          | some error => simp [outcome] at success
          | none =>
              simp only [outcome] at success ⊢
              obtain ⟨actions, flag⟩ := step outcome
              obtain ⟨others, last, rest⟩ := ih copied.sys copied.cudaUsed _ (b + 1) later success
              refine ⟨?_, ?_, ?_⟩
              · rw [others, actions, readSegments, List.map_cons, List.append_assoc]
                rfl
              · rw [last, flag, flagAfter_cons]
              · exact List.forall_mem_cons.mpr ⟨sound outcome, rest⟩

end

/-! What has landed. -/

section
variable {memoryType : MemoryType} {copyOnStream : Bool} {buffer : Address}

theorem run_readActions (device : Device Block UInt8) (segments : List Segment) :
    device.run (segments.map (readAction memoryType copyOnStream buffer)) = { device with
      landed := device.landed ++ (segments.filter fun segment =>
        copiedAtOnce memoryType copyOnStream segment.source).map (.copy ∘ readCopy buffer)
      queue := device.queue ++ (segments.filter fun segment =>
        !copiedAtOnce memoryType copyOnStream segment.source).map (readCopy buffer) } := by
  induction segments generalizing device with
  | nil => simp
  | cons segment rest ih =>
      rw [List.map_cons]
      refine (ih _).trans ?_
      cases atOnce : copiedAtOnce memoryType copyOnStream segment.source <;>
        simp [readAction, atOnce, Device.step]

theorem readSegments_total (start : Nat) (descs : List MemoryDesc) :
    ((readSegments start descs).map fun segment => segment.source.byteSize).sum =
      bufferByteSize descs := by
  conv_rhs => rw [bufferByteSize, ← readSegments_sources start descs, List.map_map]
  rfl

theorem readSegments_bytes (memory : Memory Block UInt8) (start : Nat) (descs : List MemoryDesc) :
    ((readSegments start descs).flatMap fun segment =>
      valuesAt memory segment.source.address segment.source.byteSize) = bufferBytes memory descs := by
  conv_rhs => rw [bufferBytes, ← readSegments_sources start descs, List.flatMap_map]

/-- Once every copy that moves a byte has landed, the buffer holds the input. -/
theorem read_landed {descs : List MemoryDesc}
    (apart : ∀ desc ∈ descs, desc.address.block ≠ buffer.block) {effects : List (Effect Block UInt8)}
    (each : ∀ effect ∈ effects,
      (∃ segment ∈ readSegments 0 descs, effect = .copy (readCopy buffer segment)) ∨
        effect.target.block ≠ buffer.block ∧
          ∀ desc ∈ descs, effect.target.block ≠ desc.address.block)
    (all : ∀ segment ∈ readSegments 0 descs, 0 < segment.source.byteSize →
      .copy (readCopy buffer segment) ∈ effects) (memory : Memory Block UInt8) :
    valuesAt (applyAll effects memory) buffer (bufferByteSize descs) = bufferBytes memory descs := by
  have source {segment : Segment} (member : segment ∈ readSegments 0 descs) :
      segment.source ∈ descs := by
    rw [← readSegments_sources 0 descs]
    exact List.mem_map_of_mem member
  rw [← readSegments_total 0, ← readSegments_bytes memory 0]
  refine applyAll_laid (readSegments_laid 0 descs) (fun segment member => apart _ (source member))
    (fun effect present => ?_) all
  rcases each effect present with own | ⟨elsewhere, spares⟩
  · exact Or.inl own
  · exact Or.inr ⟨elsewhere, fun segment member => spares _ (source member)⟩

end

/-! What a call comes to. -/

section
variable (env : Env) (policies : String → String → List MemoryDesc) (s : Sys) {request : Request}
  {inputName : String} {input : Input} (buffer : Address) (capacity : Nat) (memoryType : MemoryType)
  (memoryTypeId : Int) (cudaUsed : Bool) (hostPolicyName : Option String) (copyOnStream : Bool)

inductive ReadOutcome (s : Sys) (input : Input) (capacity : Nat) (read : CopyResult) :
    ReadResult → Prop
  | failed (error : TritonError) (cudaUsed : Bool) (tick : Nat) :
      ReadOutcome s input capacity read {
        error := some error, bufferByteSize := capacity, cudaUsed, sys := { s with tick } }
  | interrupted (room : input.byteSize ≤ capacity) (error : TritonError)
      (stopped : read.error = some error) : ReadOutcome s input capacity read {
        error := some error, bufferByteSize := capacity, cudaUsed := read.cudaUsed, sys := read.sys }
  | done (room : input.byteSize ≤ capacity) (success : read.error = none) :
      ReadOutcome s input capacity read {
        error := none, bufferByteSize := input.byteSize, cudaUsed := read.cudaUsed
        sys := read.sys }

theorem readInputTensor_outcome (named : request.input? inputName = some input) :
    let given := input.forHostPolicy policies hostPolicyName
    ReadOutcome s given capacity
      (readInputBuffers env inputName given buffer memoryType memoryTypeId copyOnStream
        { s with tick := s.tick + 2 } cudaUsed 0 0 given.buffers.length)
      (readInputTensor env policies s request inputName buffer capacity memoryType memoryTypeId
        cudaUsed hostPolicyName copyOnStream) := by
  simp only [readInputTensor, requestInput, inputProperties, call_eq, List.getElem?_cons_zero,
    Option.bind_some, named]
  cases env.outcome s.tick (.requestInput 0) with
  | some error => exact ReadOutcome.failed error cudaUsed _
  | none =>
      simp only
      cases env.outcome (s.tick + 1) .inputProperties with
      | some error => exact ReadOutcome.failed error cudaUsed _
      | none =>
          simp only
          split
          next room =>
            generalize readInputBuffers env _ _ _ _ _ _ _ _ _ _ _ = read
            cases stopped : read.error with
            | some error => exact ReadOutcome.interrupted room error stopped
            | none => exact ReadOutcome.done room stopped
          next large => exact ReadOutcome.failed _ cudaUsed _

end

/-! The promise. -/

/-- The caller's view of a call: the size of the input, its bytes in the destination once the
stream is waited for where the flag says so, or an error before anything is written. What is
queued before the call touches neither side. -/
structure ReadsTensor (s : Sys) (input : Input) (buffer : Address) (capacity : Nat)
    (result : ReadResult) : Prop where
  size : result.error = none → result.bufferByteSize = input.byteSize
  holds : result.error = none →
    (∀ copy ∈ s.device.queue, copy.target.block ≠ buffer.block ∧
      ∀ desc ∈ input.buffers, copy.target.block ≠ desc.address.block) →
    ∀ initial, valuesAt
      ((if result.cudaUsed then result.sys.device.step .awaitStream else result.sys.device).memory
        initial) buffer input.byteSize = bufferBytes (s.device.memory initial) input.buffers
  refused : capacity < input.byteSize →
    result.error ≠ none ∧ result.sys.actions = s.actions ∧ result.bufferByteSize = capacity

/-- The copy of the last buffer is one of those that the stream makes, or none of them moves a
byte. -/
def FlagTells (memoryType : MemoryType) (copyOnStream : Bool) (descs : List MemoryDesc) : Prop :=
  memoryType = .gpu ∨ copyOnStream = true ∨
    (∀ last ∈ descs.getLast?, last.memoryType = .gpu) ∨
      ∀ desc ∈ descs, 0 < desc.byteSize → desc.memoryType ≠ .gpu

instance (memoryType : MemoryType) (copyOnStream : Bool) (descs : List MemoryDesc) :
    Decidable (FlagTells memoryType copyOnStream descs) := by
  unfold FlagTells
  infer_instance

theorem FlagTells.atOnce {memoryType : MemoryType} {copyOnStream cudaUsed : Bool}
    {descs : List MemoryDesc} (tells : FlagTells memoryType copyOnStream descs)
    (quiet : flagAfter memoryType copyOnStream cudaUsed descs = false) {desc : MemoryDesc}
    (member : desc ∈ descs) (bytes : 0 < desc.byteSize) :
    copiedAtOnce memoryType copyOnStream desc = true := by
  cases last : descs.getLast? with
  | none =>
      rw [List.getLast?_eq_none_iff.mp last] at member
      cases member
  | some final =>
      simp only [flagAfter, last, Bool.not_eq_false', copiedAtOnce_iff] at quiet
      obtain ⟨host, destination, blocking⟩ := quiet
      rw [copiedAtOnce_iff]
      rcases tells with device | streamed | ended | hosts
      · exact absurd device destination
      · rw [blocking] at streamed
        cases streamed
      · exact absurd (ended final last) host
      · exact ⟨hosts desc member bytes, destination, blocking⟩

section
variable {memoryType : MemoryType} {copyOnStream : Bool} {buffer : Address}
  {descs : List MemoryDesc} {device : Device Block UInt8}

theorem awaited_holds (apart : ∀ desc ∈ descs, desc.address.block ≠ buffer.block)
    (spares : ∀ copy ∈ device.queue, copy.target.block ≠ buffer.block ∧
      ∀ desc ∈ descs, copy.target.block ≠ desc.address.block) (initial : Memory Block UInt8) :
    valuesAt (((device.run ((readSegments 0 descs).map
        (readAction memoryType copyOnStream buffer))).step .awaitStream).memory initial) buffer
      (bufferByteSize descs) = bufferBytes (device.memory initial) descs := by
  rw [run_readActions]
  simp only [Device.step, Device.memory, List.append_assoc, applyAll_append _ _ initial]
  refine read_landed apart ?_ ?_ _
  · intro effect present
    simp only [List.map_append, List.mem_append, List.mem_map, List.mem_filter] at present
    rcases present with ⟨segment, ⟨member, -⟩, rfl⟩ | ⟨copy, queued, rfl⟩ |
      ⟨_, ⟨segment, ⟨member, -⟩, rfl⟩, rfl⟩
    · exact Or.inl ⟨segment, member, rfl⟩
    · exact Or.inr (spares copy queued)
    · exact Or.inl ⟨segment, member, rfl⟩
  · intro segment member _
    simp only [List.map_append, List.mem_append, List.mem_map, List.mem_filter]
    cases atOnce : copiedAtOnce memoryType copyOnStream segment.source with
    | true => exact Or.inl ⟨segment, ⟨member, atOnce⟩, rfl⟩
    | false => exact Or.inr (Or.inr ⟨_, ⟨segment, ⟨member, by simp [atOnce]⟩, rfl⟩, rfl⟩)

theorem unawaited_holds (apart : ∀ desc ∈ descs, desc.address.block ≠ buffer.block)
    (atOnce : ∀ desc ∈ descs, 0 < desc.byteSize → copiedAtOnce memoryType copyOnStream desc = true)
    (initial : Memory Block UInt8) :
    valuesAt ((device.run ((readSegments 0 descs).map
        (readAction memoryType copyOnStream buffer))).memory initial) buffer
      (bufferByteSize descs) = bufferBytes (device.memory initial) descs := by
  rw [run_readActions]
  simp only [Device.memory, applyAll_append]
  refine read_landed apart ?_ ?_ _
  · intro effect present
    obtain ⟨segment, inside, rfl⟩ := List.mem_map.mp present
    exact Or.inl ⟨segment, (List.mem_filter.mp inside).1, rfl⟩
  · intro segment member bytes
    have source : segment.source ∈ descs := by
      rw [← readSegments_sources 0 descs]
      exact List.mem_map_of_mem member
    exact List.mem_map.mpr ⟨segment, List.mem_filter.mpr ⟨member, atOnce _ source bytes⟩, rfl⟩

end

section
variable (env : Env) (policies : String → String → List MemoryDesc) (s : Sys) {request : Request}
  {inputName : String} {input : Input} (buffer : Address) (capacity : Nat) (memoryType : MemoryType)
  (memoryTypeId : Int) (cudaUsed : Bool) (hostPolicyName : Option String) (copyOnStream : Bool)

theorem readInputBuffers_device (inputName : String) (given : Input) {read : CopyResult}
    (same : readInputBuffers env inputName given buffer memoryType memoryTypeId copyOnStream s
      cudaUsed 0 0 given.buffers.length = read) (success : read.error = none) :
    read.sys.device = s.device.run
        ((readSegments 0 given.buffers).map (readAction memoryType copyOnStream buffer)) ∧
      read.cudaUsed = flagAfter memoryType copyOnStream cudaUsed given.buffers ∧
      ∀ desc ∈ given.buffers, desc.Sound := by
  subst same
  obtain ⟨actions, flag, sound⟩ := readInputBuffers_success env inputName given buffer memoryType
    memoryTypeId copyOnStream s cudaUsed 0 0 List.drop_zero success
  refine ⟨?_, flag, sound⟩
  rw [Sys.device, actions, Sys.device, Device.run, List.foldl_append]
  rfl

theorem readInputTensor_reads (named : request.input? inputName = some input)
    (apart : ∀ desc ∈ (input.forHostPolicy policies hostPolicyName).buffers,
      desc.address.block ≠ buffer.block)
    (tells : (input.forHostPolicy policies hostPolicyName).byteSize ≤ capacity →
      FlagTells memoryType copyOnStream (input.forHostPolicy policies hostPolicyName).buffers ∨
        ∃ desc ∈ (input.forHostPolicy policies hostPolicyName).buffers, ¬ desc.Sound) :
    ReadsTensor s (input.forHostPolicy policies hostPolicyName) buffer capacity
      (readInputTensor env policies s request inputName buffer capacity memoryType memoryTypeId
        cudaUsed hostPolicyName copyOnStream) := by
  have outcome := readInputTensor_outcome env policies s buffer capacity memoryType memoryTypeId
    cudaUsed hostPolicyName copyOnStream named
  simp only at outcome
  generalize readInputTensor env policies s request _ _ _ _ _ _ _ _ = result at outcome ⊢
  generalize input.forHostPolicy policies hostPolicyName = given at outcome apart tells ⊢
  generalize copies : readInputBuffers env _ _ _ _ _ _ _ _ _ _ _ = read at outcome
  cases outcome with
  | failed error flag tick =>
      constructor
      · intro success
        cases success
      · intro success
        cases success
      · intro _
        exact ⟨Option.some_ne_none _, rfl, rfl⟩
  | interrupted room error stopped =>
      constructor
      · intro success
        cases success
      · intro success
        cases success
      · intro large
        exact absurd room (Nat.not_le_of_lt large)
  | done room success =>
      obtain ⟨device, flag, sound⟩ := readInputBuffers_device env _ buffer memoryType memoryTypeId
        cudaUsed copyOnStream inputName given copies success
      have tells : FlagTells memoryType copyOnStream given.buffers :=
        (tells room).resolve_right fun ⟨desc, member, unsound⟩ => unsound (sound desc member)
      constructor
      · intro _
        rfl
      · intro _ spares initial
        simp only [device, flag]
        cases waits : flagAfter memoryType copyOnStream cudaUsed given.buffers with
        | true => exact awaited_holds apart spares initial
        | false => exact unawaited_holds apart (fun desc => tells.atOnce waits) initial
      · intro large
        exact absurd room (Nat.not_le_of_lt large)

end

/-! A flag that does not tell. -/

/-- The server finds what it is asked for and CUDA starts the copies. -/
def Env.Answers (env : Env) : Prop := ∀ tick call, env.outcome tick call = none

theorem copyBuffer_answered {env : Env} (answers : env.Answers) (s : Sys) (msg : String)
    {desc : MemoryDesc} (sound : desc.Sound) (memoryType : MemoryType) (memoryTypeId : Int)
    {dst : Address} (given : isNull dst = false) (copyOnStream : Bool) :
    (copyBuffer env s msg desc.memoryType desc.memoryTypeId memoryType memoryTypeId desc.byteSize
      desc.address dst copyOnStream).error = none := by
  have source : ¬ (desc.byteSize > 0 ∧ isNull desc.address = true) := by
    rintro ⟨bytes, null⟩
    simp only [isNull, MemoryDesc.address, beq_iff_eq] at null
    have empty := sound (by omega)
    omega
  simp only [copyBuffer, source, given, Bool.false_eq_true, and_false, if_false, call_eq,
    answers s.tick]
  split
  · split <;> rfl
  · rfl

theorem readInputBuffers_answered {env : Env} (answers : env.Answers) (inputName : String)
    (input : Input) {buffer : Address} (given : ∀ count, isNull (buffer.advance count) = false)
    (memoryType : MemoryType) (memoryTypeId : Int) (copyOnStream : Bool) (s : Sys) (cudaUsed : Bool)
    (offset b : Nat) {descs : List MemoryDesc} (ahead : input.buffers.drop b = descs)
    (sound : ∀ desc ∈ descs, desc.Sound) :
    (readInputBuffers env inputName input buffer memoryType memoryTypeId copyOnStream s cudaUsed
      offset b descs.length).error = none := by
  induction descs generalizing s cudaUsed offset b with
  | nil => rfl
  | cons desc rest ih =>
      obtain ⟨there, later⟩ := buffers_cons ahead
      obtain ⟨first, rest⟩ := List.forall_mem_cons.mp sound
      have copied := copyBuffer_answered answers { s with tick := s.tick + 1 }
        "Failed to copy buffer" first memoryType memoryTypeId (given offset) copyOnStream
      simp only [List.length_cons, readInputBuffers, inputBuffer, call_eq, Option.bind_some, there,
        answers s.tick, copied]
      exact ih _ _ _ _ later rest

theorem readInputTensor_answered {env : Env} (answers : env.Answers)
    (policies : String → String → List MemoryDesc) (s : Sys) {request : Request}
    {inputName : String} {input : Input} (named : request.input? inputName = some input)
    (buffer : Address) (given : ∀ count, isNull (buffer.advance count) = false) {capacity : Nat}
    (memoryType : MemoryType) (memoryTypeId : Int) (cudaUsed : Bool) (hostPolicyName : Option String)
    (copyOnStream : Bool)
    (sound : ∀ desc ∈ (input.forHostPolicy policies hostPolicyName).buffers, desc.Sound)
    (room : (input.forHostPolicy policies hostPolicyName).byteSize ≤ capacity) :
    let read := readInputBuffers env inputName (input.forHostPolicy policies hostPolicyName) buffer
      memoryType memoryTypeId copyOnStream { s with tick := s.tick + 2 } cudaUsed 0 0
      (input.forHostPolicy policies hostPolicyName).buffers.length
    read.error = none ∧
      readInputTensor env policies s request inputName buffer capacity memoryType memoryTypeId
          cudaUsed hostPolicyName copyOnStream = {
        error := none
        bufferByteSize := (input.forHostPolicy policies hostPolicyName).byteSize
        cudaUsed := read.cudaUsed
        sys := read.sys } := by
  have success := readInputBuffers_answered answers inputName
    (input.forHostPolicy policies hostPolicyName) given memoryType memoryTypeId copyOnStream
    { s with tick := s.tick + 2 } cudaUsed 0 0 List.drop_zero sound
  refine ⟨success, ?_⟩
  simp only [readInputTensor, requestInput, inputProperties, call_eq, List.getElem?_cons_zero,
    Option.bind_some, named, answers s.tick, answers (s.tick + 1), room, if_true, success]

/-- A byte that only the stream will copy is not there yet. -/
theorem pending_untouched {memoryType : MemoryType} {copyOnStream : Bool} {buffer : Address}
    {descs : List MemoryDesc} (device : Device Block UInt8) (initial : Memory Block UInt8)
    {segment : Segment} (member : segment ∈ readSegments 0 descs)
    (bytes : 0 < segment.source.byteSize)
    (pending : copiedAtOnce memoryType copyOnStream segment.source = false) :
    (device.run ((readSegments 0 descs).map
        (readAction memoryType copyOnStream buffer))).memory initial buffer.block
        (buffer.offset + segment.offset) =
      device.memory initial buffer.block (buffer.offset + segment.offset) := by
  rw [run_readActions]
  simp only [Device.memory, applyAll_append]
  refine applyAll_untouched _ _ fun effect present written => ?_
  obtain ⟨other, inside, rfl⟩ := List.mem_map.mp present
  obtain ⟨there, atOnce⟩ := List.mem_filter.mp inside
  obtain ⟨-, lower, upper⟩ := written
  simp only [Function.comp_apply, Effect.target, Effect.byteSize, laidCopy, advance_offset]
    at lower upper
  obtain rfl := (readSegments_laid 0 descs).same there member segment.offset (by omega) (by omega)
  rw [pending] at atOnce
  cases atOnce

theorem FlagTells.silent {memoryType : MemoryType} {copyOnStream : Bool} {descs : List MemoryDesc}
    (untold : ¬ FlagTells memoryType copyOnStream descs) (cudaUsed : Bool) :
    flagAfter memoryType copyOnStream cudaUsed descs = false ∧
      ∃ desc ∈ descs, 0 < desc.byteSize ∧ copiedAtOnce memoryType copyOnStream desc = false := by
  simp only [FlagTells, not_or, Bool.not_eq_true] at untold
  obtain ⟨destination, blocking, ended, hosts⟩ := untold
  push Not at ended hosts
  obtain ⟨last, final, host⟩ := ended
  obtain ⟨desc, member, bytes, device⟩ := hosts
  constructor
  · simp only [flagAfter, Option.mem_def.mp final, Bool.not_eq_false', copiedAtOnce_iff]
    exact ⟨host, destination, blocking⟩
  · refine ⟨desc, member, bytes, ?_⟩
    rw [← Bool.not_eq_true, copiedAtOnce_iff]
    exact fun both => both.1 device

theorem not_readsTensor_of_silent {env : Env} (answers : env.Answers)
    {policies : String → String → List MemoryDesc} {request : Request} {inputName : String}
    {input : Input} (named : request.input? inputName = some input) {n : Nat} {offset : Int}
    {capacity : Nat} {memoryType : MemoryType} {memoryTypeId : Int} {cudaUsed : Bool}
    (hostPolicyName : Option String) {copyOnStream : Bool}
    (sound : ∀ desc ∈ (input.forHostPolicy policies hostPolicyName).buffers, desc.Sound)
    (room : (input.forHostPolicy policies hostPolicyName).byteSize ≤ capacity)
    (silent : ¬ FlagTells memoryType copyOnStream (input.forHostPolicy policies hostPolicyName).buffers) :
    ¬ ReadsTensor (Sys.fresh 1) (input.forHostPolicy policies hostPolicyName)
      { block := .tensor n, offset } capacity
      (readInputTensor env policies (Sys.fresh 1) request inputName { block := .tensor n, offset }
        capacity memoryType memoryTypeId cudaUsed hostPolicyName copyOnStream) := by
  intro reads
  obtain ⟨success, result⟩ := readInputTensor_answered answers policies (Sys.fresh 1) named
    { block := .tensor n, offset } (fun _ => rfl) memoryType memoryTypeId cudaUsed
    hostPolicyName copyOnStream sound room
  obtain ⟨device, flag, -⟩ := readInputBuffers_device env _ { block := .tensor n, offset } memoryType
    memoryTypeId cudaUsed copyOnStream inputName _ rfl success
  obtain ⟨quiet, desc, member, bytes, pending⟩ := FlagTells.silent silent cudaUsed
  obtain ⟨segment, inside, rfl⟩ : ∃ segment ∈ readSegments 0
      (input.forHostPolicy policies hostPolicyName).buffers, segment.source = desc := by
    rwa [← readSegments_sources 0 (input.forHostPolicy policies hostPolicyName).buffers,
      List.mem_map] at member
  rw [result] at reads
  have holds := reads.holds rfl (fun copy queued => by cases queued) inputOnes
  simp only [device, flag, quiet, Bool.false_eq_true, if_false] at holds
  -- the flag is off although the first byte of this buffer is still to come
  have bound := ((readSegments_laid 0 _).bounds inside).2
  rw [readSegments_total, Nat.zero_add] at bound
  have ones : bufferBytes ((Sys.fresh 1).device.memory inputOnes)
      (input.forHostPolicy policies hostPolicyName).buffers =
        List.replicate (input.forHostPolicy policies hostPolicyName).byteSize 1 := inputOnes_bytes _
  rw [ones, List.eq_replicate_iff] at holds
  have landed := holds.2 _ (List.mem_map_of_mem (List.mem_range.mpr
    (Nat.lt_of_lt_of_le (Nat.lt_add_of_pos_right bytes) bound)))
  rw [pending_untouched _ _ inside bytes pending] at landed
  have zero : (0 : UInt8) = 1 := landed
  exact absurd zero (by decide)


/-- A call keeps its promise on every server and from every state exactly if the input does not
fit, the flag tells, or the call stops at a null pointer. -/
theorem readsTensor_iff (policies : String → String → List MemoryDesc) {request : Request}
    {inputName : String} {input : Input} (named : request.input? inputName = some input) (n : Nat)
    (offset : Int) (capacity : Nat) (memoryType : MemoryType) (memoryTypeId : Int) (cudaUsed : Bool)
    (hostPolicyName : Option String) (copyOnStream : Bool) :
    (∀ env s, ReadsTensor s (input.forHostPolicy policies hostPolicyName)
      { block := .tensor n, offset } capacity
      (readInputTensor env policies s request inputName { block := .tensor n, offset } capacity
        memoryType memoryTypeId cudaUsed hostPolicyName copyOnStream)) ↔
      ((input.forHostPolicy policies hostPolicyName).byteSize ≤ capacity →
        FlagTells memoryType copyOnStream (input.forHostPolicy policies hostPolicyName).buffers ∨
          ∃ desc ∈ (input.forHostPolicy policies hostPolicyName).buffers, ¬ desc.Sound) := by
  constructor
  · intro reads room
    by_contra silent
    simp only [not_or, not_exists, not_and, not_not] at silent
    have answers : (Env.successful gatherSegments).Answers := fun _ _ => rfl
    exact not_readsTensor_of_silent answers named hostPolicyName silent.2 room silent.1 (reads _ _)
  · intro tells env s
    exact readInputTensor_reads env policies s { block := .tensor n, offset } capacity memoryType
      memoryTypeId cudaUsed hostPolicyName copyOnStream named (fun desc _ same => by cases same) tells

/-- Four bytes in each of these memories. -/
def splitRequest (memoryTypes : List MemoryType) : Request :=
  inputRequest (memoryTypes.map fun memoryType => {
    buffer := 4096, byteSize := 4, memoryType, memoryTypeId := 0 })

theorem readsTensor_hostFirst : ReadsTensor (Sys.fresh 1)
    ((splitRequest [.cpu, .gpu]).inputs.headD { name := "", shape := [], buffers := [] })
    { block := .tensor 0, offset := 0 } 8
    (readInputTensor (Env.successful gatherSegments) (fun _ _ => []) (Sys.fresh 1)
      (splitRequest [.cpu, .gpu]) "INPUT" { block := .tensor 0, offset := 0 } 8 .cpuPinned 0 false
      none false) :=
  (readsTensor_iff (fun _ _ => []) rfl 0 0 8 .cpuPinned 0 false none false).mpr
    (fun _ => Or.inl (by decide)) _ _

/-- A device buffer with a host buffer behind it: the flag is off while the first is on its way. -/
theorem not_readsTensor_deviceFirst : ¬ ReadsTensor (Sys.fresh 1)
    ((splitRequest [.gpu, .cpu]).inputs.headD { name := "", shape := [], buffers := [] })
    { block := .tensor 0, offset := 0 } 8
    (readInputTensor (Env.successful gatherSegments) (fun _ _ => []) (Sys.fresh 1)
      (splitRequest [.gpu, .cpu]) "INPUT" { block := .tensor 0, offset := 0 } 8 .cpuPinned 0 false
      none false) :=
  not_readsTensor_of_silent (fun _ _ => rfl) rfl none (by decide) (by decide) (by decide)

end TritonBackend
