import TritonBackend.ReadInputSync
import Std.Data.String.ToNat

/-!
The two overloads of `ReadInputTensor` on buffers in CPU memory. The one for CPU memory reads
what the input has without a host policy, whichever policy it is called with.
-/

namespace TritonBackend

open CopyStream

section
variable (env : Env) (policies : String → String → List MemoryDesc) (s : Sys) (request : Request)
  (inputName : String) (buffer : Address) (capacity : Nat) (cudaUsed : Bool)
  (hostPolicyName : Option String)

/-- The general overload with the destination of the other one. -/
abbrev readToCpu : ReadResult :=
  readInputTensor env policies s request inputName buffer capacity .cpu 0 cudaUsed hostPolicyName
    false

/-- The same error or success, the same size and the same bytes, which are those registered for
the policy. -/
structure OverloadsAgree (initial : Memory Block UInt8) (cpu general : ReadResult) : Prop where
  error : cpu.error = general.error
  size : cpu.bufferByteSize = general.bufferByteSize
  bytes : valuesAt (cpu.sys.device.memory initial) buffer capacity =
    valuesAt (general.sys.device.memory initial) buffer capacity
  reads : cpu.error = none → ∀ input, request.input? inputName = some input →
    valuesAt (cpu.sys.device.memory initial) buffer
        (input.forHostPolicy policies hostPolicyName).byteSize =
      bufferBytes (s.device.memory initial) (input.forHostPolicy policies hostPolicyName).buffers

/-- Without the policy the server has as many bytes for the input and, where they fit, the same
ones. -/
def SameWithoutPolicy (memory : Memory Block UInt8) : Prop :=
  ∀ input, request.input? inputName = some input →
    input.byteSize = (input.forHostPolicy policies hostPolicyName).byteSize ∧
      (input.byteSize ≤ capacity → bufferBytes memory input.buffers =
        bufferBytes memory (input.forHostPolicy policies hostPolicyName).buffers)

end

theorem readInputTensorCpu_eq (env : Env) (policies : String → String → List MemoryDesc) (s : Sys)
    (request : Request) (inputName : String) (buffer : Address) (capacity : Nat)
    (hostPolicyName : Option String) :
    readInputTensorCpu env policies s request inputName buffer capacity hostPolicyName =
      readToCpu env policies s request inputName buffer capacity false none := rfl

/-! Calls on a server that answers. -/

section
variable {memoryType : MemoryType} {copyOnStream : Bool} {buffer : Address}
  {descs : List MemoryDesc} {device : Device Block UInt8}

theorem behind_untouched (initial : Memory Block UInt8) {position : Nat}
    (behind : bufferByteSize descs ≤ position) :
    (device.run ((readSegments 0 descs).map
        (readAction memoryType copyOnStream buffer))).memory initial buffer.block
        (buffer.offset + position) =
      device.memory initial buffer.block (buffer.offset + position) := by
  rw [run_readActions]
  simp only [Device.memory, applyAll_append]
  refine applyAll_untouched _ _ fun effect present written => ?_
  obtain ⟨segment, inside, rfl⟩ := List.mem_map.mp present
  have bound := ((readSegments_laid 0 descs).bounds (List.mem_filter.mp inside).1).2
  rw [readSegments_total] at bound
  obtain ⟨-, lower, upper⟩ := written
  simp only [Function.comp_apply, Effect.target, Effect.byteSize, laidCopy, advance_offset]
    at lower upper
  omega

/-- The whole buffer of the caller: the input, and behind it what was there. -/
theorem unawaited_capacity (apart : ∀ desc ∈ descs, desc.address.block ≠ buffer.block)
    (atOnce : ∀ desc ∈ descs, 0 < desc.byteSize → copiedAtOnce memoryType copyOnStream desc = true)
    (initial : Memory Block UInt8) (more : Nat) :
    valuesAt ((device.run ((readSegments 0 descs).map
        (readAction memoryType copyOnStream buffer))).memory initial) buffer
        (bufferByteSize descs + more) =
      bufferBytes (device.memory initial) descs ++
        valuesAt (device.memory initial) (buffer.advance (bufferByteSize descs)) more := by
  rw [valuesAt_append, unawaited_holds apart atOnce]
  congr 1
  refine valuesAt_congr.mpr fun index _ => ?_
  rw [advance_block, advance_offset, Int.add_assoc, ← Int.natCast_add]
  exact behind_untouched initial (Nat.le_add_right _ index)

end

section
variable {env : Env} (answers : env.Answers) (policies : String → String → List MemoryDesc)
  (s : Sys) {request : Request} {inputName : String} {input : Input} (buffer : Address)
  {capacity : Nat} (cudaUsed : Bool) (hostPolicyName : Option String)
include answers

theorem readToCpu_missing (missing : request.input? inputName = none) :
    readToCpu env policies s request inputName buffer capacity cudaUsed hostPolicyName = {
      error := some (env.rejected inputName), bufferByteSize := capacity, cudaUsed
      sys := { s with tick := s.tick + 1 } } := by
  simp only [readInputTensor, requestInput, call_eq, List.getElem?_cons_zero, Option.bind_some,
    missing, answers s.tick]

theorem readToCpu_large (named : request.input? inputName = some input)
    (large : capacity < (input.forHostPolicy policies hostPolicyName).byteSize) :
    readToCpu env policies s request inputName buffer capacity cudaUsed hostPolicyName = {
      error := errorNew .invalidArg (getRequestId request ++
        "buffer too small for input tensor '" ++ inputName ++ "', " ++ toString capacity ++ " < " ++
        toString (input.forHostPolicy policies hostPolicyName).byteSize)
      bufferByteSize := capacity, cudaUsed, sys := { s with tick := s.tick + 2 } } := by
  simp only [readInputTensor, requestInput, inputProperties, call_eq, List.getElem?_cons_zero,
    Option.bind_some, named, answers s.tick, answers (s.tick + 1), Nat.not_le_of_lt large, if_false]

/-- A call with room reads the buffers and leaves the bytes behind them alone. -/
theorem readToCpu_fits (named : request.input? inputName = some input)
    (given : ∀ count, isNull (buffer.advance count) = false)
    (apart : ∀ desc ∈ (input.forHostPolicy policies hostPolicyName).buffers,
      desc.address.block ≠ buffer.block)
    (hosts : ∀ desc ∈ (input.forHostPolicy policies hostPolicyName).buffers, desc.memoryType ≠ .gpu)
    (sound : ∀ desc ∈ (input.forHostPolicy policies hostPolicyName).buffers, desc.Sound)
    (room : (input.forHostPolicy policies hostPolicyName).byteSize ≤ capacity)
    (initial : Memory Block UInt8) :
    let read := readToCpu env policies s request inputName buffer capacity cudaUsed hostPolicyName
    read.error = none ∧
      read.bufferByteSize = (input.forHostPolicy policies hostPolicyName).byteSize ∧
      valuesAt (read.sys.device.memory initial) buffer
          (input.forHostPolicy policies hostPolicyName).byteSize =
        bufferBytes (s.device.memory initial) (input.forHostPolicy policies hostPolicyName).buffers ∧
      valuesAt (read.sys.device.memory initial) buffer capacity =
        bufferBytes (s.device.memory initial) (input.forHostPolicy policies hostPolicyName).buffers ++
          valuesAt (s.device.memory initial)
            (buffer.advance (input.forHostPolicy policies hostPolicyName).byteSize)
            (capacity - (input.forHostPolicy policies hostPolicyName).byteSize) := by
  obtain ⟨success, result⟩ := readInputTensor_answered answers policies s named buffer given .cpu 0
    cudaUsed hostPolicyName false sound room
  obtain ⟨device, -⟩ := readInputBuffers_device env _ buffer .cpu 0 cudaUsed false inputName _ rfl
    success
  simp only [readToCpu, result, device, true_and]
  generalize input.forHostPolicy policies hostPolicyName = registered at apart hosts room ⊢
  have host : MemoryType.cpu ≠ .gpu := by decide
  have atOnce (desc : MemoryDesc) (member : desc ∈ registered.buffers) (_ : 0 < desc.byteSize) :
      copiedAtOnce .cpu false desc = true := copiedAtOnce_iff.mpr ⟨hosts desc member, host, rfl⟩
  refine ⟨unawaited_holds apart atOnce initial, ?_⟩
  obtain ⟨more, rfl⟩ := Nat.exists_eq_add_of_le room
  rw [Nat.add_sub_cancel_left]
  exact unawaited_capacity apart atOnce initial more

end

theorem tooSmall_injective {text : String} {byteSize other : Nat}
    (same : errorNew .invalidArg (text ++ toString byteSize) =
      errorNew .invalidArg (text ++ toString other)) : byteSize = other := by
  simp only [errorNew, Option.some.injEq, TritonError.mk.injEq, true_and] at same
  exact Nat.repr_injective ((String.append_right_inj text).mp same)

section
variable {env : Env} (answers : env.Answers) {policies : String → String → List MemoryDesc}
  {s : Sys} {request : Request} {inputName : String} {input : Input} {buffer : Address}
  {capacity : Nat} {cudaUsed : Bool} {hostPolicyName : Option String}
  {initial : Memory Block UInt8}
include answers

theorem overloadsAgree_named (named : request.input? inputName = some input)
    (given : ∀ count, isNull (buffer.advance count) = false)
    (apart : ∀ desc : MemoryDesc, desc.address.block ≠ buffer.block)
    (hosts : ∀ policy, ∀ desc ∈ (input.forHostPolicy policies policy).buffers,
      desc.memoryType ≠ .gpu)
    (sound : ∀ policy, ∀ desc ∈ (input.forHostPolicy policies policy).buffers, desc.Sound) :
    OverloadsAgree policies s request inputName buffer capacity hostPolicyName initial
        (readToCpu env policies s request inputName buffer capacity false none)
        (readToCpu env policies s request inputName buffer capacity cudaUsed hostPolicyName) ↔
      input.byteSize = (input.forHostPolicy policies hostPolicyName).byteSize ∧
        (input.byteSize ≤ capacity → bufferBytes (s.device.memory initial) input.buffers =
          bufferBytes (s.device.memory initial)
            (input.forHostPolicy policies hostPolicyName).buffers) := by
  have fits (flag : Bool) (policy : Option String)
      (room : (input.forHostPolicy policies policy).byteSize ≤ capacity) :=
    readToCpu_fits answers policies s buffer flag policy named given (fun desc _ => apart desc)
      (hosts policy) (sound policy) room initial
  have large (flag : Bool) (policy : Option String)
      (small : ¬ (input.forHostPolicy policies policy).byteSize ≤ capacity) :=
    readToCpu_large answers policies s buffer flag policy named (Nat.lt_of_not_le small)
  by_cases own : input.byteSize ≤ capacity <;>
    by_cases registered : (input.forHostPolicy policies hostPolicyName).byteSize ≤ capacity
  -- both calls read
  · obtain ⟨success, size, reads, whole⟩ := fits false none own
    obtain ⟨others, other, -, there⟩ := fits cudaUsed hostPolicyName registered
    simp only [Input.forHostPolicy] at size reads whole
    constructor
    · intro agree
      have same := size.symm.trans (agree.size.trans other)
      have bytes := agree.bytes
      rw [whole, there] at bytes
      refine ⟨same, fun _ => List.append_inj_left bytes ?_⟩
      rw [length_bufferBytes, length_bufferBytes]
      exact same
    · rintro ⟨same, bytes⟩
      constructor
      · exact success.trans others.symm
      · exact size.trans (same.trans other.symm)
      · rw [whole, there, bytes own, same]
      · intro _ found also
        obtain rfl := Option.some.inj (named.symm.trans also)
        rw [← same, reads, bytes own]
  -- one of them has no room
  · constructor
    · intro agree
      have impossible := agree.error
      rw [(fits false none own).1, large cudaUsed hostPolicyName registered] at impossible
      cases impossible
    · rintro ⟨same, -⟩
      exact absurd (same ▸ own) registered
  · constructor
    · intro agree
      have impossible := agree.error
      rw [large false none own, (fits cudaUsed hostPolicyName registered).1] at impossible
      cases impossible
    · rintro ⟨same, -⟩
      exact absurd (same ▸ registered) own
  -- neither has, and the error names the size
  · rw [large false none own, large cudaUsed hostPolicyName registered]
    constructor
    · intro agree
      exact ⟨tooSmall_injective agree.error, fun room => absurd room own⟩
    · rintro ⟨same, -⟩
      constructor
      · rw [← same]
        rfl
      · rfl
      · rfl
      · intro success
        cases success

end

/-- On buffers in CPU memory the overloads agree exactly if the policy makes no difference. -/
theorem overloadsAgree_iff {env : Env} (answers : env.Answers)
    (policies : String → String → List MemoryDesc) (s : Sys) {request : Request}
    {inputName : String} (hosts : ∀ input, request.input? inputName = some input →
      ∀ policy, ∀ desc ∈ (input.forHostPolicy policies policy).buffers, desc.memoryType ≠ .gpu)
    (sound : ∀ input, request.input? inputName = some input →
      ∀ policy, ∀ desc ∈ (input.forHostPolicy policies policy).buffers, desc.Sound)
    (n : Nat) (offset : Int) (capacity : Nat) (cudaUsed : Bool) (hostPolicyName : Option String)
    (initial : Memory Block UInt8) :
    OverloadsAgree policies s request inputName { block := .tensor n, offset } capacity
        hostPolicyName initial
        (readInputTensorCpu env policies s request inputName { block := .tensor n, offset } capacity
          hostPolicyName)
        (readToCpu env policies s request inputName { block := .tensor n, offset } capacity cudaUsed
          hostPolicyName) ↔
      SameWithoutPolicy policies request inputName capacity hostPolicyName
        (s.device.memory initial) := by
  cases named : request.input? inputName with
  | none =>
      rw [readInputTensorCpu_eq, readToCpu_missing answers policies s _ false none named,
        readToCpu_missing answers policies s _ cudaUsed hostPolicyName named]
      constructor
      · intro _ input found
        rw [named] at found
        cases found
      · intro _
        constructor
        · rfl
        · rfl
        · rfl
        · intro success
          cases success
  | some input =>
      refine (overloadsAgree_named answers named (fun _ => rfl) (fun desc same => by cases same)
        (hosts input named) (sound input named)).trans ?_
      simp only [SameWithoutPolicy, named, Option.some.injEq, forall_eq']

def eightBytes : Request := inputRequest [hostBuffer 1024 8]

/-- One NUMA node has the same bytes in two buffers, the others have an input of half the size. -/
def numaPolicies (_ hostPolicyName : String) : List MemoryDesc :=
  if hostPolicyName = "numa_0" then [hostBuffer 1024 4, hostBuffer 1028 4]
  else [hostBuffer 2048 4]

theorem numaPolicies_host {input : Input} (found : eightBytes.input? "INPUT" = some input)
    (policy : Option String) {desc : MemoryDesc}
    (member : desc ∈ (input.forHostPolicy numaPolicies policy).buffers) :
    desc.memoryType ≠ .gpu ∧ desc.Sound := by
  obtain rfl := Option.some.inj found
  cases policy with
  | none =>
      have host : ∀ held ∈ [hostBuffer 1024 8], held.memoryType ≠ .gpu ∧ held.Sound := by decide
      exact host desc member
  | some hostPolicyName =>
      by_cases near : hostPolicyName = "numa_0"
      · subst near
        have host : ∀ held ∈ numaPolicies "INPUT" "numa_0", held.memoryType ≠ .gpu ∧ held.Sound := by
          decide
        exact host desc member
      · have host : ∀ held ∈ [hostBuffer 2048 4], held.memoryType ≠ .gpu ∧ held.Sound := by decide
        rw [Input.forHostPolicy, numaPolicies, if_neg near] at member
        exact host desc member

theorem overloadsAgree_near :
    OverloadsAgree numaPolicies (Sys.fresh 1) eightBytes "INPUT"
      { block := .tensor 0, offset := 0 } 8 (some "numa_0") inputOnes
      (readInputTensorCpu (Env.successful gatherSegments) numaPolicies (Sys.fresh 1) eightBytes
        "INPUT" { block := .tensor 0, offset := 0 } 8 (some "numa_0"))
      (readToCpu (Env.successful gatherSegments) numaPolicies (Sys.fresh 1) eightBytes
        "INPUT" { block := .tensor 0, offset := 0 } 8 false (some "numa_0")) := by
  refine (overloadsAgree_iff (fun _ _ => rfl) numaPolicies (Sys.fresh 1)
    (fun input found policy desc member => (numaPolicies_host found policy member).1)
    (fun input found policy desc member => (numaPolicies_host found policy member).2) 0 0 8 false
    (some "numa_0") inputOnes).mpr ?_
  intro input found
  obtain rfl := Option.some.inj found
  exact ⟨by decide, fun _ => by decide⟩

theorem not_overloadsAgree_far :
    ¬ OverloadsAgree numaPolicies (Sys.fresh 1) eightBytes "INPUT"
      { block := .tensor 0, offset := 0 } 8 (some "numa_1") inputOnes
      (readInputTensorCpu (Env.successful gatherSegments) numaPolicies (Sys.fresh 1) eightBytes
        "INPUT" { block := .tensor 0, offset := 0 } 8 (some "numa_1"))
      (readToCpu (Env.successful gatherSegments) numaPolicies (Sys.fresh 1) eightBytes
        "INPUT" { block := .tensor 0, offset := 0 } 8 false (some "numa_1")) := by
  intro agree
  exact absurd agree.size (by decide)

end TritonBackend
