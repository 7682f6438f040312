import TritonBackend.GatheredTensor
import Mathlib.Data.List.Chain
import Mathlib.Data.List.Forall2

/-!
The input iterator as its callers see it. What repeated calls give cuts the buffers of the
batch into runs that lie one behind the other in one memory.
-/

namespace TritonBackend

open CopyStream

section
variable (env : Env) (requests : List Request) (inputName : String) (coalesce : Bool)

/-- The chunks of calls of `GetNextContiguousInput` until one returns false. -/
def remainingInputs (kept : ContiguousBuffer) (it : InputIterator) (s : Sys) :
    List ContiguousBuffer :=
  let next := getNextContiguousInput env requests inputName coalesce kept it s
  if next.found then next.input :: remainingInputs next.input next.iterator next.sys else []
termination_by (requests.length - it.currRequestIdx, it.currBufferCnt - it.currBufferIdx)
decreasing_by
  rename_i found
  rcases getNextContiguousInput_behind env requests inputName coalesce kept it s found with
    fewer | ⟨same, fewer⟩
  · exact Prod.Lex.left _ _ fewer
  · rw [same]
    exact Prod.Lex.right _ fewer

def iteratedInputs (kept : ContiguousBuffer) (s : Sys) : List ContiguousBuffer :=
  let created := InputIterator.create env requests inputName s
  remainingInputs env requests inputName coalesce kept created.1 created.2

end

def batchVisits (inputName : String) (requests : List Request) : List (Nat × MemoryDesc) :=
  requests.zipIdx.flatMap fun entry => (requestBuffers inputName entry.1).map (Prod.mk entry.2)

/-- The second buffer begins where the first one ends, in the same memory. -/
structure Follows (first second : Nat × MemoryDesc) : Prop where
  place : first.2.buffer + first.2.byteSize = second.2.buffer
  memoryType : second.2.memoryType = first.2.memoryType
  memoryTypeId : second.2.memoryTypeId = first.2.memoryTypeId

structure MadeOf (coalesce : Bool) (chunk : ContiguousBuffer) (run : List (Nat × MemoryDesc)) :
    Prop where
  nonempty : run ≠ []
  contiguous : run.IsChain Follows
  first : ∀ visit ∈ run.head?, chunk.memoryDesc = { visit.2 with byteSize := chunk.byteSize } ∧
    chunk.startRequestIdx = visit.1
  last : ∀ visit ∈ run.getLast?, chunk.endRequestIdx = visit.1
  byteSize : chunk.byteSize = (run.map fun visit => visit.2.byteSize).sum
  single : coalesce = false → run.length = 1

def Partitions (coalesce : Bool) (chunks : List ContiguousBuffer)
    (visits : List (Nat × MemoryDesc)) : Prop :=
  ∃ runs, runs.flatten = visits ∧ List.Forall₂ (MadeOf coalesce) chunks runs

/-! The calls. -/

section
variable {env : Env} {requests : List Request} {inputName : String} {coalesce : Bool}

theorem remainingInputs_eq (looks : LooksUp env requests inputName) (kept : ContiguousBuffer)
    (it : InputIterator) (s : Sys) {left : List (Nat × MemoryDesc)}
    (resumes : it.Resumes requests inputName coalesce left) :
    remainingInputs env requests inputName coalesce kept it s = mergeBuffers coalesce left := by
  induction kept, it, s using remainingInputs.induct env requests inputName coalesce
    generalizing left with
  | case1 kept it s next found =>
      rename_i ih
      obtain ⟨_, none | ⟨_, left', later, merged⟩⟩ := getNextContiguousInput_eq looks resumes kept s
      · exact absurd (none.1.symm.trans found) Bool.false_ne_true
      · rw [remainingInputs, if_pos found, merged, ih later]
  | case2 kept it s next =>
      rename_i found
      obtain ⟨_, ⟨_, rfl⟩ | ⟨some, _⟩⟩ := getNextContiguousInput_eq looks resumes kept s
      · rw [remainingInputs, if_neg found]
        rfl
      · exact absurd some found

theorem iteratedInputs_eq (looks : LooksUp env requests inputName) (kept : ContiguousBuffer)
    (s : Sys) : iteratedInputs env requests inputName coalesce kept s =
      inputChunks coalesce inputName requests := by
  rcases split : requests.map (requestBuffers inputName) with _ | ⟨buffers, rest⟩
  · obtain rfl := List.map_eq_nil_iff.mp split
    have ended : (InputIterator.create env [] inputName s).1.currBufferCnt = 0 := by
      simp [InputIterator.create, lookupRequest, holdInput, countBuffers, requestInput,
        inputProperties, call_eq, looks.found, looks.described]
    have none : ∀ kept s', (getNextContiguousInput env [] inputName coalesce kept
        (InputIterator.create env [] inputName s).1 s').found = false := by
      simp [getNextContiguousInput, ended]
    rw [iteratedInputs, remainingInputs, none, if_neg Bool.false_ne_true]
    rfl
  · obtain ⟨_, resumes⟩ := create_resumes looks coalesce s split
    rw [inputChunks, split]
    exact remainingInputs_eq looks kept _ _ resumes

end

/-! The runs. -/

theorem visitedFrom_some {coalesce : Bool} {inputs : List (List MemoryDesc)}
    (some : ∀ buffers ∈ inputs, buffers ≠ []) (idx : Nat) :
    visitedFrom coalesce idx inputs =
      (inputs.zipIdx idx).flatMap fun entry => entry.1.map (Prod.mk entry.2) := by
  induction inputs generalizing idx with
  | nil => rfl
  | cons buffers rest ih =>
      have filled : buffers.isEmpty = false := by
        rw [List.isEmpty_eq_false_iff]
        exact some buffers List.mem_cons_self
      rw [visitedFrom, filled, Bool.and_false, if_neg Bool.false_ne_true,
        ih (fun other member => some other (List.mem_cons_of_mem _ member)), List.zipIdx_cons,
        List.flatMap_cons]

theorem inputChunks_some {coalesce : Bool} {inputName : String} {requests : List Request}
    (some : ∀ request ∈ requests, requestBuffers inputName request ≠ []) :
    inputChunks coalesce inputName requests =
      mergeBuffers coalesce (batchVisits inputName requests) := by
  have visits : batchVisits inputName requests =
      visitedFrom coalesce 0 (requests.map (requestBuffers inputName)) := by
    rw [visitedFrom_some (by simpa using some), batchVisits, List.zipIdx_map, List.flatMap_map]
    rfl
  rw [visits, inputChunks]
  cases requests with
  | nil => rfl
  | cons request rest =>
      have filled : (requestBuffers inputName request).isEmpty = false := by
        rw [List.isEmpty_eq_false_iff]
        exact some request List.mem_cons_self
      simp only [List.map_cons, resumedFrom, visitedFrom, filled, Bool.and_false,
        Bool.false_eq_true, if_false]

theorem madeOf_single (coalesce : Bool) (idx : Nat) (desc : MemoryDesc) :
    MadeOf coalesce (singleChunk idx desc) [(idx, desc)] where
  nonempty := List.cons_ne_nil _ _
  contiguous := List.isChain_singleton _
  first visit same := by
    obtain rfl := Option.some.inj same
    exact ⟨rfl, rfl⟩
  last visit same := by
    obtain rfl := Option.some.inj same
    rfl
  byteSize := by simp [singleChunk, ContiguousBuffer.byteSize]
  single _ := rfl

def EndsWith (chunk : ContiguousBuffer) (run : List (Nat × MemoryDesc)) : Prop :=
  ∀ visit ∈ run.getLast?, visit.2.buffer + visit.2.byteSize =
      chunk.memoryDesc.buffer + chunk.byteSize ∧
    visit.2.memoryType = chunk.memoryDesc.memoryType ∧
    visit.2.memoryTypeId = chunk.memoryDesc.memoryTypeId

theorem endsWith_single (idx : Nat) (desc : MemoryDesc) :
    EndsWith (singleChunk idx desc) [(idx, desc)] := by
  intro visit same
  obtain rfl := Option.some.inj same
  exact ⟨rfl, rfl, rfl⟩

theorem MadeOf.extend {coalesce : Bool} {chunk : ContiguousBuffer} {run : List (Nat × MemoryDesc)}
    (made : MadeOf coalesce chunk run) (ends : EndsWith chunk run) (idx : Nat) {desc : MemoryDesc}
    (merges : (coalesce && continues chunk.memoryDesc desc) = true) :
    MadeOf coalesce (chunk.extend idx desc.byteSize) (run ++ [(idx, desc)]) ∧
      EndsWith (chunk.extend idx desc.byteSize) (run ++ [(idx, desc)]) := by
  obtain ⟨merging, joins⟩ := Bool.and_eq_true_iff.mp merges
  simp only [continues, Bool.and_eq_true, beq_iff_eq] at joins
  obtain ⟨⟨place, memoryType⟩, memoryTypeId⟩ := joins
  have size : (chunk.extend idx desc.byteSize).byteSize = chunk.byteSize + desc.byteSize := rfl
  refine ⟨⟨by simp, ?_, ?_, ?_, ?_, ?_⟩, ?_⟩
  · refine List.isChain_append.mpr ⟨made.contiguous, List.isChain_singleton _, ?_⟩
    intro visit last other same
    obtain rfl := Option.some.inj same
    obtain ⟨atEnd, sameType, sameId⟩ := ends visit last
    exact ⟨atEnd.trans place, memoryType.symm.trans sameType.symm,
      memoryTypeId.symm.trans sameId.symm⟩
  · intro visit first
    rw [List.head?_append_of_ne_nil _ made.nonempty] at first
    obtain ⟨begins, starts⟩ := made.first visit first
    refine ⟨?_, starts⟩
    rw [size]
    simp only [ContiguousBuffer.extend, begins]
  · intro visit last
    rw [List.getLast?_concat] at last
    obtain rfl := Option.some.inj last
    rfl
  · rw [size, made.byteSize, List.map_append, List.sum_append]
    simp
  · intro off
    rw [off] at merging
    cases merging
  · intro visit last
    rw [List.getLast?_concat] at last
    obtain rfl := Option.some.inj last
    rw [size, ← Nat.add_assoc]
    exact ⟨congrArg (· + desc.byteSize) place.symm, memoryType.symm, memoryTypeId.symm⟩

theorem mergeInto_runs (coalesce : Bool) {chunk : ContiguousBuffer}
    {run : List (Nat × MemoryDesc)} (made : MadeOf coalesce chunk run) (ends : EndsWith chunk run)
    (rest : List (Nat × MemoryDesc)) :
    Partitions coalesce (mergeInto coalesce chunk rest) (run ++ rest) := by
  induction rest generalizing chunk run with
  | nil => exact ⟨[run], by simp, List.Forall₂.cons made List.Forall₂.nil⟩
  | cons visit rest ih =>
      obtain ⟨idx, desc⟩ := visit
      rw [mergeInto]
      split
      next merges =>
        obtain ⟨longer, endsLater⟩ := made.extend ends idx merges
        have cut := ih longer endsLater
        rwa [List.append_assoc] at cut
      next =>
        obtain ⟨runs, whole, later⟩ := ih (madeOf_single coalesce idx desc) (endsWith_single idx desc)
        refine ⟨run :: runs, ?_, List.Forall₂.cons made later⟩
        rw [List.flatten_cons, whole]
        rfl

theorem mergeBuffers_runs (coalesce : Bool) (visits : List (Nat × MemoryDesc)) :
    Partitions coalesce (mergeBuffers coalesce visits) visits := by
  cases visits with
  | nil => exact ⟨[], rfl, List.Forall₂.nil⟩
  | cons visit rest =>
      obtain ⟨idx, desc⟩ := visit
      exact mergeInto_runs coalesce (madeOf_single coalesce idx desc) (endsWith_single idx desc) rest

/-- Until it returns false the iterator gives the runs of the buffers, all of them. -/
theorem iteratedInputs_partition {env : Env} {requests : List Request} {inputName : String}
    (looks : LooksUp env requests inputName)
    (some : ∀ request ∈ requests, requestBuffers inputName request ≠ []) (coalesce : Bool)
    (kept : ContiguousBuffer) (s : Sys) :
    Partitions coalesce (iteratedInputs env requests inputName coalesce kept s)
      (batchVisits inputName requests) := by
  rw [iteratedInputs_eq looks, inputChunks_some some]
  exact mergeBuffers_runs coalesce _

/-- The second request has two buffers, and the first of them follows the first request's. -/
theorem iteratedInputs_partition_pair :
    let requests := [inputRequest [hostBuffer 4096 8],
      inputRequest [hostBuffer 4104 4, hostBuffer 8192 4]]
    Partitions true (iteratedInputs (Env.successful gatherSegments) requests "INPUT" true .default
      (Sys.fresh 2)) (batchVisits "INPUT" requests) :=
  iteratedInputs_partition (looksUp_successful (by decide)) (by decide) true .default (Sys.fresh 2)

end TritonBackend
