import TritonBackend.IteratorChunks

/-!
The iterator when some requests cannot be looked up. It still stands at each of them with
a buffer count of the request before, so its chunks leave no request out.
-/

namespace TritonBackend

def yieldChunks (env : Env) (requests : List Request) (inputName : String) (coalesce : Bool)
    (input : ContiguousBuffer) (it : InputIterator) (s : Sys) : List ContiguousBuffer × Sys :=
  let next := getNextContiguousInput env requests inputName coalesce input it s
  if next.found then
    let later := yieldChunks env requests inputName coalesce next.input next.iterator next.sys
    (next.input :: later.1, later.2)
  else ([], next.sys)
termination_by (requests.length - it.currRequestIdx, it.currBufferCnt - it.currBufferIdx)
decreasing_by
  rename_i found
  rcases getNextContiguousInput_behind env requests inputName coalesce input it s found with
    fewer | ⟨same, fewer⟩
  · exact Prod.Lex.left _ _ fewer
  · rw [same]
    exact Prod.Lex.right _ fewer

def iterateInput (env : Env) (requests : List Request) (inputName : String) (coalesce : Bool)
    (s : Sys) : List ContiguousBuffer × Sys :=
  let it := InputIterator.create env requests inputName s
  yieldChunks env requests inputName coalesce .default it.1 it.2

/-- The chunk is made of these buffers, each with its request and behind the one before. -/
inductive Holds : ContiguousBuffer → List (Nat × MemoryDesc) → Prop
  | single (idx desc) : Holds (singleChunk idx desc) [(idx, desc)]
  | extend (chunk visits idx desc) : Holds chunk visits →
      continues chunk.memoryDesc desc → Holds (chunk.extend idx desc.byteSize) (visits ++ [(idx, desc)])

/-- The chunks are made of these buffers, each once and in order. -/
inductive HoldAll : List ContiguousBuffer → List (Nat × MemoryDesc) → Prop
  | nil : HoldAll [] []
  | cons (chunk visits chunks later) : Holds chunk visits → HoldAll chunks later →
      HoldAll (chunk :: chunks) (visits ++ later)

/-- `TRITONBACKEND_RequestInput` fails for these requests, and every other call succeeds. A
request that is looked up has a buffer. -/
structure FailsFor (env : Env) (requests : List Request) (inputName : String)
    (failed : Nat → Bool) : Prop where
  inside : ∀ idx, failed idx → idx < requests.length
  failing : ∀ idx, failed idx → ∀ s, ∃ error,
    (requestInput env requests s idx inputName).1 = .error error
  named : ∀ idx request, requests[idx]? = some request → failed idx = false →
    (request.input? inputName).isSome
  found : ∀ tick idx, failed idx = false → env.outcome tick (.requestInput idx) = none
  described : ∀ tick, env.outcome tick .inputProperties = none
  buffered : ∀ tick, env.outcome tick .inputBuffer = none
  filled : ∀ request ∈ requests, ∀ input, request.input? inputName = some input →
    input.buffers ≠ []

def lookedUpFrom (failed : Nat → Bool) (idx : Nat) : List (List MemoryDesc) →
    List (Nat × MemoryDesc)
  | [] => []
  | buffers :: rest =>
      (if failed idx then [] else buffers.map (Prod.mk idx)) ++ lookedUpFrom failed (idx + 1) rest

/-- The run answers the failed requests, and its chunks hold the buffers of the others. -/
structure SkipsFailed (requests : List Request) (inputName : String) (failed : Nat → Bool)
    (s : Sys) (run : List ContiguousBuffer × Sys) : Prop where
  answered : ∀ idx, failed idx → run.2.responses[idx]? = some none ∧
    ∀ response, s.responses[idx]? = some (some response) → response ∈ run.2.sent
  buffers : HoldAll run.1 (lookedUpFrom failed 0 (batchBuffers inputName requests))
  apart : ∀ chunk ∈ run.1, ∀ idx ∈ chunk.requestRange, failed idx = false

/-! Every request is in the range of a chunk. -/

/-- The iterator is at request `idx`, before a buffer that it has counted. -/
structure InputIterator.Stands (it : InputIterator) (requestCount idx : Nat) : Prop where
  request : it.currRequestIdx = idx
  inside : idx < requestCount
  left : it.currBufferIdx < it.currBufferCnt
  more : it.reachEnd = false
  held : ∀ input, it.currInput = some input → input.buffers ≠ []

section
variable {env : Env} {requests : List Request} {inputName : String}

theorem requestInput_named {s : Sys} {idx : Nat} {input : Input}
    (held : (requestInput env requests s idx inputName).1 = .ok input) :
    ∃ request ∈ requests, request.input? inputName = some input := by
  simp only [requestInput, Sys.call] at held
  split at held
  next => contradiction
  next _ found =>
    obtain ⟨request, present, named⟩ := Option.bind_eq_some_iff.mp found
    simp only [Except.ok.injEq] at held
    exact ⟨request, List.mem_of_getElem? present, held ▸ named⟩
  next => contradiction

theorem holdInput_held
    (filled : ∀ request ∈ requests, ∀ input, request.input? inputName = some input →
      input.buffers ≠ [])
    (it : InputIterator) (s : Sys)
    (held : ∀ input, it.currInput = some input → input.buffers ≠ []) :
    let entered := (holdInput env requests inputName it s).1
    entered.currBufferCnt = it.currBufferCnt ∧ entered.reachEnd = it.reachEnd ∧
      ∀ input, entered.currInput = some input → input.buffers ≠ [] := by
  rw [holdInput]
  split
  next input _ looked =>
    obtain ⟨request, member, named⟩ :=
      requestInput_named (show (requestInput env requests s it.currRequestIdx inputName).1 = .ok input
        by rw [looked])
    refine ⟨rfl, rfl, fun other same => ?_⟩
    cases same
    exact filled request member input named
  next =>
    refine ⟨rfl, rfl, fun input same => ?_⟩
    simp only at same
    split at same
    · contradiction
    · exact held input same

theorem countBuffers_counts (it : InputIterator) (s : Sys)
    (held : ∀ input, it.currInput = some input → input.buffers ≠ [])
    (counted : 0 < it.currBufferCnt) :
    let entered := (countBuffers env inputName it s).1
    0 < entered.currBufferCnt ∧ entered.reachEnd = it.reachEnd ∧
      entered.currInput = it.currInput := by
  rw [countBuffers]
  split
  next input _ looked =>
    have same : it.currInput = some input := by
      simp only [inputProperties, Sys.call] at looked
      split at looked
      all_goals simp_all
    exact ⟨List.length_pos_iff.mpr (held input same), rfl, rfl⟩
  next => exact ⟨counted, rfl, rfl⟩

/-- Whether or not the lookup succeeds, there are buffers to visit. -/
theorem lookupRequest_counts
    (filled : ∀ request ∈ requests, ∀ input, request.input? inputName = some input →
      input.buffers ≠ [])
    (it : InputIterator) (s : Sys)
    (held : ∀ input, it.currInput = some input → input.buffers ≠ [])
    (counted : 0 < it.currBufferCnt) :
    let entered := (lookupRequest env requests inputName it s).1
    0 < entered.currBufferCnt ∧ entered.reachEnd = it.reachEnd ∧
      entered.currRequestIdx = it.currRequestIdx ∧
      ∀ input, entered.currInput = some input → input.buffers ≠ [] := by
  obtain ⟨sameCount, sameEnd, heldNow⟩ := @holdInput_held env _ _ filled it s held
  obtain ⟨countedNow, sameEndNow, sameInput⟩ := @countBuffers_counts env inputName
    (holdInput env requests inputName it s).1 (holdInput env requests inputName it s).2 heldNow
    (sameCount ▸ counted)
  refine ⟨countedNow, sameEndNow.trans sameEnd, lookupRequest_requestIdx .., fun input same => ?_⟩
  exact heldNow input (sameInput.symm.trans same)

theorem coalesceBuffers_stands (input : ContiguousBuffer) (it : InputIterator) (s : Sys)
    (count : Nat) :
    let next := coalesceBuffers env inputName input it s count
    next.input.startRequestIdx = input.startRequestIdx ∧
      (next.found = false ∧
        next.iterator = { it with currBufferIdx := it.currBufferIdx + count } ∧
        next.input.endRequestIdx = (if count = 0 then input.endRequestIdx else it.currRequestIdx) ∨
      next.found = true ∧ ∃ skipped < count,
        next.iterator = { it with currBufferIdx := it.currBufferIdx + skipped } ∧
        next.input.endRequestIdx =
          (if skipped = 0 then input.endRequestIdx else it.currRequestIdx)) := by
  induction count generalizing input it s with
  | zero => exact ⟨rfl, .inl ⟨rfl, rfl, rfl⟩⟩
  | succ count ih =>
      simp only [coalesceBuffers]
      split
      next merges =>
        obtain ⟨start, loop⟩ := ih
          (input.extend it.currRequestIdx (readBuffer env inputName it (env.uninitialized s.tick) s).1.byteSize)
          { it with currBufferIdx := it.currBufferIdx + 1 }
          (readBuffer env inputName it (env.uninitialized s.tick) s).2
        refine ⟨start, ?_⟩
        rcases loop with ⟨none, iterator, last⟩ | ⟨some, skipped, fewer, iterator, last⟩
        · refine .inl ⟨none, ?_, ?_⟩
          · rw [ContiguousBuffer.extend] at iterator
            rw [iterator, Nat.add_assoc, Nat.add_comm 1]
          · rw [if_neg (Nat.succ_ne_zero count)]
            exact last.trans (ite_self _)
        · refine .inr ⟨some, skipped + 1, Nat.succ_lt_succ fewer, ?_, ?_⟩
          · rw [ContiguousBuffer.extend] at iterator
            rw [iterator, Nat.add_assoc, Nat.add_comm 1]
          · rw [if_neg (Nat.succ_ne_zero skipped)]
            exact last.trans (ite_self _)
      next => exact ⟨rfl, .inr ⟨rfl, 0, Nat.succ_pos count, rfl, rfl⟩⟩

/-- After a chunk the iterator stands at its last request or the next, or has seen all. -/
def NextInput.Follows (next : NextInput) (requestCount : Nat) : Prop :=
  next.iterator.reachEnd = true ∧ next.input.endRequestIdx + 1 = requestCount ∨
    ∃ idx, next.iterator.Stands requestCount idx ∧ idx ≤ next.input.endRequestIdx + 1

theorem coalesceRequests_stands
    (filled : ∀ request ∈ requests, ∀ input, request.input? inputName = some input →
      input.buffers ≠ [])
    (input : ContiguousBuffer) (it : InputIterator) (s : Sys) (count : Nat)
    (inside : it.currRequestIdx + count + 1 = requests.length) (more : it.reachEnd = false)
    (held : ∀ input, it.currInput = some input → input.buffers ≠ [])
    (counted : 0 < it.currBufferCnt)
    (reaches : input.endRequestIdx = it.currRequestIdx ∨
      input.endRequestIdx + 1 = it.currRequestIdx ∧ it.currBufferIdx < it.currBufferCnt) :
    let next := coalesceRequests env requests inputName input it s count
    next.found = true ∧ next.input.startRequestIdx = input.startRequestIdx ∧
      input.endRequestIdx ≤ next.input.endRequestIdx ∧ next.Follows requests.length := by
  induction count generalizing input it s with
  | zero =>
      obtain ⟨start, loop⟩ := @coalesceBuffers_stands env inputName input it s
        (it.currBufferCnt - it.currBufferIdx)
      simp only [coalesceRequests]
      generalize coalesceBuffers env inputName input it s _ = next at start loop ⊢
      rcases loop with ⟨none, iterator, last⟩ | ⟨some, skipped, fewer, iterator, last⟩
      · rw [none, if_neg Bool.false_ne_true]
        refine ⟨rfl, start, ?_, .inl ⟨rfl, ?_⟩⟩ <;> simp only [last] <;> split <;> omega
      · rw [if_pos some]
        refine ⟨some, start, ?_, .inr ⟨it.currRequestIdx, ?_, ?_⟩⟩
        · rw [last]
          split <;> omega
        · rw [iterator]
          exact ⟨rfl, by omega, Nat.add_lt_of_lt_sub' fewer, more, held⟩
        · rw [last]
          split <;> omega
  | succ count ih =>
      obtain ⟨start, loop⟩ := @coalesceBuffers_stands env inputName input it s
        (it.currBufferCnt - it.currBufferIdx)
      simp only [coalesceRequests]
      generalize coalesceBuffers env inputName input it s _ = next at start loop ⊢
      rcases loop with ⟨none, iterator, last⟩ | ⟨some, skipped, fewer, iterator, last⟩
      · rw [none, if_neg Bool.false_ne_true]
        have reached : next.input.endRequestIdx = it.currRequestIdx := by
          rw [last]
          split <;> omega
        obtain ⟨countedNow, sameEnd, sameRequest, heldNow⟩ := @lookupRequest_counts env _ _ filled
          { next.iterator with currRequestIdx := next.iterator.currRequestIdx + 1 } next.sys
          (by rw [iterator]; exact held) (by rw [iterator]; exact counted)
        generalize lookupRequest env requests inputName _ next.sys = entered at *
        simp only [iterator] at sameEnd sameRequest
        obtain ⟨found, startNow, laterEnd, follows⟩ := ih next.input
          { entered.1 with currBufferIdx := 0 } entered.2 (by simp only [sameRequest]; omega)
          (sameEnd.trans more) heldNow countedNow
          (.inr ⟨by simp only [sameRequest, reached], countedNow⟩)
        exact ⟨found, startNow.trans start, Nat.le_trans (by omega) laterEnd, follows⟩
      · rw [if_pos some]
        refine ⟨some, start, ?_, .inr ⟨it.currRequestIdx, ?_, ?_⟩⟩
        · rw [last]
          split <;> omega
        · rw [iterator]
          exact ⟨rfl, by omega, Nat.add_lt_of_lt_sub' fewer, more, held⟩
        · rw [last]
          split <;> omega

theorem getNextContiguousInput_stands (env : Env)
    (filled : ∀ request ∈ requests, ∀ input, request.input? inputName = some input →
      input.buffers ≠ [])
    (coalesce : Bool) (input : ContiguousBuffer) {it : InputIterator} (s : Sys) {idx : Nat}
    (stands : it.Stands requests.length idx) :
    let next := getNextContiguousInput env requests inputName coalesce input it s
    next.found = true ∧ next.input.startRequestIdx = idx ∧
      idx ≤ next.input.endRequestIdx ∧ next.Follows requests.length := by
  have inside := stands.inside
  have left := stands.left
  have more : ¬ (it.reachEnd || decide (it.currBufferIdx ≥ it.currBufferCnt)) = true := by
    simpa [stands.more] using left
  simp only [getNextContiguousInput, if_neg more, stands.request]
  cases coalesce with
  | true =>
      exact coalesceRequests_stands filled (singleChunk idx _) _ _ _
        (by simp only; omega) stands.more stands.held (Nat.zero_lt_of_lt left) (.inl rfl)
  | false =>
      rw [if_neg Bool.false_ne_true]
      by_cases last : it.currBufferIdx + 1 ≥ it.currBufferCnt
      · rw [if_pos last]
        by_cases later : idx + 1 < requests.length
        · rw [if_pos later]
          obtain ⟨counted, sameEnd, sameRequest, held⟩ := @lookupRequest_counts env _ _ filled
            { it with currBufferIdx := it.currBufferIdx + 1, currRequestIdx := idx + 1 }
            (readBuffer env inputName it input.memoryDesc s).2 stands.held
            (Nat.zero_lt_of_lt left)
          exact ⟨rfl, rfl, Nat.le_refl idx, .inr ⟨idx + 1,
            ⟨sameRequest, later, counted, sameEnd.trans stands.more, held⟩, Nat.le_refl _⟩⟩
        · rw [if_neg later]
          exact ⟨rfl, rfl, Nat.le_refl idx, .inl ⟨rfl, by simp only; omega⟩⟩
      · rw [if_neg last]
        exact ⟨rfl, rfl, Nat.le_refl idx, .inr ⟨idx,
          ⟨rfl, inside, Nat.lt_of_not_le last, stands.more, stands.held⟩, Nat.le_succ idx⟩⟩

theorem mem_requestRange {chunk : ContiguousBuffer} {idx : Nat} :
    idx ∈ chunk.requestRange ↔ chunk.startRequestIdx ≤ idx ∧ idx ≤ chunk.endRequestIdx := by
  rw [ContiguousBuffer.requestRange, List.mem_range'_1]
  omega

/-- Each request from where the iterator stands on is in the range of a chunk. -/
theorem yieldChunks_covers
    (filled : ∀ request ∈ requests, ∀ input, request.input? inputName = some input →
      input.buffers ≠ [])
    (coalesce : Bool) (input : ContiguousBuffer) (it : InputIterator) (s : Sys) {first : Nat}
    (stands : it.Stands requests.length first) {idx : Nat} (later : first ≤ idx)
    (inside : idx < requests.length) :
    ∃ chunk ∈ (yieldChunks env requests inputName coalesce input it s).1,
      idx ∈ chunk.requestRange := by
  induction input, it, s using yieldChunks.induct env requests inputName coalesce
    generalizing first with
  | case1 input it s next found =>
      rename_i ih
      obtain ⟨_, start, reaches, follows⟩ :=
        getNextContiguousInput_stands env filled coalesce input s stands
      rw [yieldChunks, if_pos found]
      by_cases here : idx ≤ next.input.endRequestIdx
      · exact ⟨next.input, List.mem_cons_self, mem_requestRange.mpr ⟨start ▸ later, here⟩⟩
      · rcases follows with ⟨_, all⟩ | ⟨following, standsThere, near⟩
        · exact absurd (Nat.le_of_lt_succ (Nat.lt_of_lt_of_eq inside all.symm)) here
        · obtain ⟨chunk, member, inRange⟩ := ih standsThere
            (Nat.le_trans near (Nat.lt_of_not_le here))
          exact ⟨chunk, List.mem_cons_of_mem _ member, inRange⟩
  | case2 input it s next =>
      rename_i found
      exact absurd (getNextContiguousInput_stands env filled coalesce input s stands).1 found

end

section
variable {env : Env} {requests : List Request} {inputName : String} {failed : Nat → Bool}

theorem FailsFor.create_stands (fails : FailsFor env requests inputName failed)
    (batch : requests ≠ []) (first : failed 0 = false) (s : Sys) :
    (InputIterator.create env requests inputName s).1.Stands requests.length 0 := by
  obtain ⟨request, rest, rfl⟩ := List.exists_cons_of_ne_nil batch
  obtain ⟨input, named⟩ := Option.isSome_iff_exists.mp (fails.named 0 request rfl first)
  have buffers := fails.filled request List.mem_cons_self input named
  have entered : (InputIterator.create env (request :: rest) inputName s).1 = {
      currInput := some input
      currRequestIdx := 0
      currBufferIdx := 0
      currBufferCnt := input.buffers.length
      reachEnd := false } := by
    simp [InputIterator.create, lookupRequest, holdInput, countBuffers, requestInput,
      inputProperties, call_eq, fails.found _ _ first, fails.described, named]
  rw [entered]
  refine ⟨rfl, Nat.succ_pos _, List.length_pos_iff.mpr buffers, rfl, fun other same => ?_⟩
  cases same
  exact buffers

/-- A failed request is in the range of a chunk all the same. -/
theorem FailsFor.reaches_failed (fails : FailsFor env requests inputName failed)
    (batch : requests ≠ []) (first : failed 0 = false) {idx : Nat} (fails_idx : failed idx)
    (coalesce : Bool) (s : Sys) :
    ¬ SkipsFailed requests inputName failed s (iterateInput env requests inputName coalesce s) := by
  intro skips
  obtain ⟨chunk, member, inRange⟩ := yieldChunks_covers fails.filled coalesce .default _
    (InputIterator.create env requests inputName s).2 (fails.create_stands batch first s)
    (Nat.zero_le idx) (fails.inside idx fails_idx)
  have apart := skips.apart chunk member idx inRange
  exact absurd (apart.symm.trans fails_idx) Bool.false_ne_true

/-! Without a failure the chunks are as the buffers are. -/

theorem mergeInto_holds (coalesce : Bool) {chunk : ContiguousBuffer}
    {held : List (Nat × MemoryDesc)} (holds : Holds chunk held) (rest : List (Nat × MemoryDesc)) :
    HoldAll (mergeInto coalesce chunk rest) (held ++ rest) := by
  induction rest generalizing chunk held with
  | nil => exact .cons chunk held [] [] holds .nil
  | cons visit rest ih =>
      obtain ⟨idx, desc⟩ := visit
      rw [mergeInto]
      split
      next merges =>
        have same := (Bool.and_eq_true_iff.mp merges).2
        simpa using ih (.extend chunk held idx desc holds same)
      next => exact .cons chunk held _ _ holds (ih (.single idx desc))

theorem mergeBuffers_holds (coalesce : Bool) (left : List (Nat × MemoryDesc)) :
    HoldAll (mergeBuffers coalesce left) left := by
  cases left with
  | nil => exact .nil
  | cons visit rest => exact mergeInto_holds coalesce (.single visit.1 visit.2) rest

theorem yieldChunks_merged (looks : LooksUp env requests inputName) (coalesce : Bool)
    (input : ContiguousBuffer) (it : InputIterator) (s : Sys) {left : List (Nat × MemoryDesc)}
    (resumes : it.Resumes requests inputName coalesce left) :
    (yieldChunks env requests inputName coalesce input it s).1 = mergeBuffers coalesce left := by
  induction input, it, s using yieldChunks.induct env requests inputName coalesce
    generalizing left with
  | case1 input it s next found =>
      rename_i ih
      obtain ⟨_, ⟨none, _⟩ | ⟨_, left', later, merged⟩⟩ :=
        getNextContiguousInput_eq looks resumes input s
      · exact absurd (none.symm.trans found) Bool.false_ne_true
      · rw [yieldChunks, if_pos found, merged, ← ih later]
  | case2 input it s next =>
      rename_i found
      obtain ⟨_, ⟨_, rfl⟩ | ⟨some, _⟩⟩ := getNextContiguousInput_eq looks resumes input s
      · rw [yieldChunks, if_neg found]
        rfl
      · exact absurd some found

theorem visitedFrom_lookedUp (coalesce : Bool) (none : ∀ idx, failed idx = false) (idx : Nat)
    {inputs : List (List MemoryDesc)} (filled : ∀ buffers ∈ inputs, buffers ≠ []) :
    visitedFrom coalesce idx inputs = lookedUpFrom failed idx inputs := by
  induction inputs generalizing idx with
  | nil => rfl
  | cons buffers rest ih =>
      obtain ⟨here, later⟩ := List.forall_mem_cons.mp filled
      rw [visitedFrom, lookedUpFrom, ih (idx + 1) later, none idx]
      simp [here]

theorem FailsFor.looksUp (fails : FailsFor env requests inputName failed)
    (none : ∀ idx, failed idx = false) : LooksUp env requests inputName where
  named request member := by
    obtain ⟨idx, present⟩ := List.mem_iff_getElem?.mp member
    exact fails.named idx request present (none idx)
  found tick idx := fails.found tick idx (none idx)
  described := fails.described
  buffered := fails.buffered

theorem FailsFor.batchBuffers_filled (fails : FailsFor env requests inputName failed)
    (none : ∀ idx, failed idx = false) :
    ∀ buffers ∈ batchBuffers inputName requests, buffers ≠ [] := by
  intro buffers member
  obtain ⟨request, present, rfl⟩ := List.mem_map.mp member
  obtain ⟨input, named⟩ := Option.isSome_iff_exists.mp ((fails.looksUp none).named request present)
  rw [requestBuffers_of_input named, Ne]
  exact fails.filled request present input named

/-- The failed requests are skipped when there are none, and only then. -/
theorem skipsFailed_iff (fails : FailsFor env requests inputName failed) (batch : requests ≠ [])
    (first : failed 0 = false) (coalesce : Bool) (s : Sys) :
    SkipsFailed requests inputName failed s (iterateInput env requests inputName coalesce s) ↔
      ∀ idx, failed idx = false := by
  constructor
  · intro skips idx
    by_contra fails_idx
    exact fails.reaches_failed batch first (Bool.of_not_eq_false fails_idx) coalesce s skips
  · intro none
    have looks := fails.looksUp none
    have filled := fails.batchBuffers_filled none
    refine ⟨fun idx impossible => ?_, ?_, fun _ _ idx _ => none idx⟩
    · exact absurd ((none idx).symm.trans impossible) Bool.false_ne_true
    · rcases split : batchBuffers inputName requests with _ | ⟨buffers, rest⟩
      · exact absurd (List.map_eq_nil_iff.mp split) batch
      · obtain ⟨_, resumes⟩ := create_resumes looks coalesce s split
        rw [split] at filled
        obtain ⟨here, later⟩ := List.forall_mem_cons.mp filled
        rw [iterateInput, yieldChunks_merged looks coalesce _ _ _ resumes, resumedFrom,
          visitedFrom_lookedUp coalesce none 1 later, lookedUpFrom, none 0]
        simpa [here] using mergeBuffers_holds coalesce _

end

def maskRequests : List Request :=
  let mask (buffer : Nat) : Input := {
    name := "mask"
    shape := [1]
    buffers := [{ buffer, byteSize := 4, memoryType := .cpu, memoryTypeId := 0 }] }
  [{ id := "a", inputs := [mask 64], outputs := [] }, { id := "b", inputs := [], outputs := [] },
    { id := "c", inputs := [mask 128], outputs := [] }]

def omitsMask (idx : Nat) : Bool := idx == 1

theorem omitsMask_fails :
    FailsFor (Env.successful fun _ _ => []) maskRequests "mask" omitsMask where
  inside idx omits := by
    rw [omitsMask, beq_iff_eq] at omits
    rw [omits]
    decide
  failing idx omits s := by
    rw [omitsMask, beq_iff_eq] at omits
    rw [omits]
    exact ⟨_, rfl⟩
  named idx request present has := by
    match idx, present, has with
    | 0, rfl, _ => rfl
    | 2, rfl, _ => rfl
    | _ + 3, impossible, _ => simp [maskRequests] at impossible
  found _ _ _ := rfl
  described _ := rfl
  buffered _ := rfl
  filled request member input named := by
    simp only [maskRequests, List.mem_cons, List.not_mem_nil, or_false] at member
    rcases member with rfl | rfl | rfl
    · cases named
      exact List.cons_ne_nil _ _
    · cases named
    · cases named
      exact List.cons_ne_nil _ _

theorem skipsFailed_iff_omitsMask :
    SkipsFailed maskRequests "mask" omitsMask (Sys.fresh 3)
        (iterateInput (Env.successful fun _ _ => []) maskRequests "mask" true (Sys.fresh 3)) ↔
      ∀ idx, omitsMask idx = false :=
  skipsFailed_iff omitsMask_fails (List.cons_ne_nil _ _) rfl true (Sys.fresh 3)

/-- The second request omits its input, and a chunk is there for it. -/
theorem not_skipsFailed :
    FailsFor (Env.successful fun _ _ => []) maskRequests "mask" omitsMask ∧
      omitsMask 0 = false ∧
      ¬ SkipsFailed maskRequests "mask" omitsMask (Sys.fresh 3)
        (iterateInput (Env.successful fun _ _ => []) maskRequests "mask" false (Sys.fresh 3)) :=
  ⟨omitsMask_fails, rfl,
    omitsMask_fails.reaches_failed (List.cons_ne_nil _ _) rfl (rfl : omitsMask 1 = true) false
      (Sys.fresh 3)⟩

end TritonBackend
