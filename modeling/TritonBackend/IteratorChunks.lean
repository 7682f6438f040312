import TritonBackend.CollectorRun

/-!
The chunks that `InputIterator` finds when every lookup succeeds. It stops for good at a
request without buffers where it starts, and, unless it coalesces, at any other one.
-/

namespace TritonBackend

open CopyStream

def requestBuffers (inputName : String) (request : Request) : List MemoryDesc :=
  ((request.input? inputName).map Input.buffers).getD []

abbrev batchBuffers (inputName : String) (requests : List Request) : List (List MemoryDesc) :=
  requests.map (requestBuffers inputName)

/-- The buffers that the iterator visits from request `idx` on, each with its request. -/
def visitedFrom (coalesce : Bool) (idx : Nat) : List (List MemoryDesc) → List (Nat × MemoryDesc)
  | [] => []
  | buffers :: rest =>
      if !coalesce && buffers.isEmpty then []
      else buffers.map (Prod.mk idx) ++ visitedFrom coalesce (idx + 1) rest

/-- A request without buffers stops the iterator where it stands. -/
def resumedFrom (coalesce : Bool) (idx : Nat) (buffers : List MemoryDesc)
    (rest : List (List MemoryDesc)) : List (Nat × MemoryDesc) :=
  if buffers.isEmpty then []
  else buffers.map (Prod.mk idx) ++ visitedFrom coalesce (idx + 1) rest

def singleChunk (idx : Nat) (desc : MemoryDesc) : ContiguousBuffer := {
  memoryDesc := desc
  startRequestIdx := idx
  endRequestIdx := idx }

def ContiguousBuffer.extend (chunk : ContiguousBuffer) (idx byteSize : Nat) : ContiguousBuffer := {
  chunk with
  memoryDesc := { chunk.memoryDesc with byteSize := chunk.memoryDesc.byteSize + byteSize }
  endRequestIdx := idx }

/-- Buffers are merged into the chunk before them as long as they continue it. -/
def mergeInto (coalesce : Bool) (chunk : ContiguousBuffer) :
    List (Nat × MemoryDesc) → List ContiguousBuffer
  | [] => [chunk]
  | (idx, desc) :: rest =>
      if coalesce && continues chunk.memoryDesc desc then
        mergeInto coalesce (chunk.extend idx desc.byteSize) rest
      else chunk :: mergeInto coalesce (singleChunk idx desc) rest

def mergeBuffers (coalesce : Bool) : List (Nat × MemoryDesc) → List ContiguousBuffer
  | [] => []
  | (idx, desc) :: rest => mergeInto coalesce (singleChunk idx desc) rest

def inputChunks (coalesce : Bool) (inputName : String) (requests : List Request) :
    List ContiguousBuffer :=
  match requests.map (requestBuffers inputName) with
  | [] => []
  | buffers :: rest => mergeBuffers coalesce (resumedFrom coalesce 0 buffers rest)

structure LooksUp (env : Env) (requests : List Request) (inputName : String) : Prop where
  named : ∀ request ∈ requests, (request.input? inputName).isSome
  found : ∀ tick idx, env.outcome tick (.requestInput idx) = none
  described : ∀ tick, env.outcome tick .inputProperties = none
  buffered : ∀ tick, env.outcome tick .inputBuffer = none

structure InputIterator.At (it : InputIterator) (requests : List Request) (inputName : String)
    (idx next : Nat) : Prop where
  request : it.currRequestIdx = idx
  buffer : it.currBufferIdx = next
  held : ∃ request input, requests[idx]? = some request ∧ request.input? inputName = some input ∧
    it.currInput = some input ∧ it.currBufferCnt = input.buffers.length
  more : it.reachEnd = false

/-- What the iterator has still to visit. -/
def InputIterator.Resumes (it : InputIterator) (requests : List Request) (inputName : String)
    (coalesce : Bool) (left : List (Nat × MemoryDesc)) : Prop :=
  it.reachEnd = true ∧ left = [] ∨
    ∃ idx next buffers rest, it.At requests inputName idx next ∧
      (requests.map (requestBuffers inputName)).drop idx = buffers :: rest ∧
      left = resumedFrom coalesce idx (buffers.drop next) rest

section
variable {env : Env} {requests : List Request} {inputName : String}

theorem requestBuffers_of_input {request : Request} {input : Input}
    (held : request.input? inputName = some input) :
    requestBuffers inputName request = input.buffers := by
  simp [requestBuffers, held]

theorem lookupRequest_eq (looks : LooksUp env requests inputName) (it : InputIterator) (s : Sys)
    {request : Request} (present : requests[it.currRequestIdx]? = some request) :
    ∃ input, request.input? inputName = some input ∧
      lookupRequest env requests inputName it s =
        ({ it with currInput := some input, currBufferCnt := input.buffers.length },
          { s with tick := s.tick + 2 }) := by
  obtain ⟨input, held⟩ := Option.isSome_iff_exists.mp
    (looks.named request (List.mem_of_getElem? present))
  refine ⟨input, held, ?_⟩
  simp [lookupRequest, holdInput, countBuffers, requestInput, inputProperties, call_eq, looks.found,
    looks.described, present, held]

theorem readBuffer_eq (looks : LooksUp env requests inputName) {it : InputIterator}
    (kept : MemoryDesc) (s : Sys) {input : Input} (held : it.currInput = some input)
    {desc : MemoryDesc} {later : List MemoryDesc}
    (next : input.buffers.drop it.currBufferIdx = desc :: later) :
    readBuffer env inputName it kept s = (desc, { s with tick := s.tick + 1 }) := by
  have present : input.buffers[it.currBufferIdx]? = some desc := by
    rw [← List.head?_drop, next]
    rfl
  simp [readBuffer, inputBuffer, call_eq, looks.buffered, held, present]

theorem drop_request {idx : Nat} {buffers : List MemoryDesc} {rest : List (List MemoryDesc)}
    (split : (requests.map (requestBuffers inputName)).drop idx = buffers :: rest) :
    ∃ request, requests[idx]? = some request ∧ buffers = requestBuffers inputName request ∧
      (requests.map (requestBuffers inputName)).drop (idx + 1) = rest := by
  have first : (requests.map (requestBuffers inputName))[idx]? = some buffers := by
    rw [← List.head?_drop, split]
    rfl
  rw [List.getElem?_map, Option.map_eq_some_iff] at first
  obtain ⟨request, present, same⟩ := first
  refine ⟨request, present, same.symm, ?_⟩
  rw [← List.tail_drop, split, List.tail_cons]

theorem coalesceBuffers_eq (looks : LooksUp env requests inputName) (chunk : ContiguousBuffer)
    (it : InputIterator) (s : Sys) {input : Input} (held : it.currInput = some input)
    (descs : List MemoryDesc)
    (ahead : input.buffers.drop it.currBufferIdx = descs) :
    let next := coalesceBuffers env inputName chunk it s descs.length
    (∃ tick, next.sys = { s with tick }) ∧
      ((next.found = false ∧
        next.iterator = { it with currBufferIdx := it.currBufferIdx + descs.length } ∧
        ∀ rest, mergeInto true chunk (descs.map (Prod.mk it.currRequestIdx) ++ rest) =
          mergeInto true next.input rest) ∨
      (next.found = true ∧ ∃ count desc later, descs.drop count = desc :: later ∧
        next.iterator = { it with currBufferIdx := it.currBufferIdx + count } ∧
        ∀ rest, mergeInto true chunk (descs.map (Prod.mk it.currRequestIdx) ++ rest) =
          next.input :: mergeInto true (singleChunk it.currRequestIdx desc)
            (later.map (Prod.mk it.currRequestIdx) ++ rest))) := by
  induction descs generalizing chunk it s with
  | nil => exact ⟨⟨s.tick, rfl⟩, Or.inl ⟨rfl, rfl, fun rest => rfl⟩⟩
  | cons desc later ih =>
      have read := readBuffer_eq looks (env.uninitialized s.tick) s held ahead
      simp only [List.length_cons, coalesceBuffers, read]
      by_cases same : continues chunk.memoryDesc desc
      · rw [if_pos same]
        have behind : input.buffers.drop (it.currBufferIdx + 1) =
            later := by
          rw [← List.tail_drop, ahead, List.tail_cons]
        obtain ⟨tick, result⟩ := ih (chunk.extend it.currRequestIdx desc.byteSize)
          { it with currBufferIdx := it.currBufferIdx + 1 } { s with tick := s.tick + 1 } held behind
        simp only [ContiguousBuffer.extend] at tick result
        refine ⟨tick, ?_⟩
        have merged (rest : List (Nat × MemoryDesc)) :
            mergeInto true chunk ((desc :: later).map (Prod.mk it.currRequestIdx) ++ rest) =
              mergeInto true (chunk.extend it.currRequestIdx desc.byteSize)
                (later.map (Prod.mk it.currRequestIdx) ++ rest) := by
          simp [mergeInto, same]
        rcases result with ⟨none, iterator, all⟩ | ⟨some, count, gap, rest, split, iterator, all⟩
        · refine Or.inl ⟨none, ?_, fun rest => (merged rest).trans (all rest)⟩
          rw [iterator, Nat.add_assoc, Nat.add_comm 1]
        · refine Or.inr ⟨some, count + 1, gap, rest, split, ?_, fun more => (merged more).trans (all more)⟩
          rw [iterator, Nat.add_assoc, Nat.add_comm 1]
      · rw [if_neg same]
        refine ⟨⟨s.tick + 1, rfl⟩, Or.inr ⟨rfl, 0, desc, later, rfl, rfl, fun rest => ?_⟩⟩
        simp [mergeInto, same]

theorem InputIterator.At.input {it : InputIterator} {idx next : Nat}
    (stands : it.At requests inputName idx next) {buffers : List MemoryDesc}
    {rest : List (List MemoryDesc)}
    (split : (requests.map (requestBuffers inputName)).drop idx = buffers :: rest) :
    ∃ input, it.currInput = some input ∧ it.currBufferCnt = buffers.length ∧
      input.buffers = buffers := by
  obtain ⟨request, input, present, named, held, count⟩ := stands.held
  obtain ⟨request', present', rfl, _⟩ := drop_request split
  obtain rfl : request = request' := Option.some.inj (present.symm.trans present')
  rw [requestBuffers_of_input named]
  exact ⟨input, held, count, rfl⟩

theorem InputIterator.At.read (looks : LooksUp env requests inputName) {it : InputIterator}
    {idx next : Nat} (stands : it.At requests inputName idx next) {buffers : List MemoryDesc}
    {rest : List (List MemoryDesc)}
    (split : (requests.map (requestBuffers inputName)).drop idx = buffers :: rest)
    {desc : MemoryDesc} {later : List MemoryDesc} (ahead : buffers.drop next = desc :: later)
    (kept : MemoryDesc) (s : Sys) :
    (it.reachEnd || decide (it.currBufferIdx ≥ it.currBufferCnt)) = false ∧
      readBuffer env inputName it kept s = (desc, { s with tick := s.tick + 1 }) := by
  obtain ⟨input, held, count, same⟩ := stands.input split
  constructor
  · have sizes := congrArg List.length ahead
    simp only [List.length_drop, List.length_cons] at sizes
    rw [Bool.or_eq_false_iff]
    refine ⟨stands.more, decide_eq_false ?_⟩
    rw [stands.buffer, count]
    omega
  · exact readBuffer_eq looks kept s held
      (show input.buffers.drop it.currBufferIdx = desc :: later by
        rw [same, stands.buffer, ahead])

theorem InputIterator.At.advance {it : InputIterator} {idx next : Nat}
    (stands : it.At requests inputName idx next) (count : Nat) :
    InputIterator.At { it with currBufferIdx := it.currBufferIdx + count } requests inputName idx
      (next + count) :=
  ⟨stands.request, by rw [stands.buffer], stands.held, stands.more⟩

theorem lookupRequest_at (looks : LooksUp env requests inputName) {it : InputIterator} {idx : Nat}
    (request : it.currRequestIdx = idx) (more : it.reachEnd = false) (s : Sys)
    {buffers following : List MemoryDesc} {rest : List (List MemoryDesc)}
    (split : (requests.map (requestBuffers inputName)).drop idx = buffers :: following :: rest) :
    let entered := lookupRequest env requests inputName
      { it with currRequestIdx := it.currRequestIdx + 1 } s
    (∃ tick, entered.2 = { s with tick }) ∧
      InputIterator.At { entered.1 with currBufferIdx := 0 } requests inputName (idx + 1) 0 := by
  obtain ⟨_, _, _, behind⟩ := drop_request split
  obtain ⟨next, present, _, _⟩ := drop_request behind
  obtain ⟨input, named, looked⟩ := lookupRequest_eq looks
    { it with currRequestIdx := it.currRequestIdx + 1 } s (by rw [request]; exact present)
  rw [looked]
  exact ⟨⟨s.tick + 2, rfl⟩,
    ⟨congrArg (· + 1) request, rfl, ⟨next, input, present, named, rfl, rfl⟩, more⟩⟩

theorem coalesceBuffers_at (looks : LooksUp env requests inputName) (chunk : ContiguousBuffer)
    (it : InputIterator) (s : Sys) {idx next : Nat} (stands : it.At requests inputName idx next)
    {buffers : List MemoryDesc} {rest : List (List MemoryDesc)}
    (split : (requests.map (requestBuffers inputName)).drop idx = buffers :: rest) :
    let inner := coalesceBuffers env inputName chunk it s (it.currBufferCnt - it.currBufferIdx)
    (∃ tick, inner.sys = { s with tick }) ∧
      ((inner.found = false ∧ inner.iterator.currRequestIdx = idx ∧
        inner.iterator.reachEnd = false ∧
        ∀ more, mergeInto true chunk ((buffers.drop next).map (Prod.mk idx) ++ more) =
          mergeInto true inner.input more) ∨
      (inner.found = true ∧ ∃ left, inner.iterator.Resumes requests inputName true left ∧
        mergeInto true chunk
            ((buffers.drop next).map (Prod.mk idx) ++ visitedFrom true (idx + 1) rest) =
          inner.input :: mergeBuffers true left)) := by
  obtain ⟨input, held, count, same⟩ := stands.input split
  have ahead : input.buffers.drop it.currBufferIdx =
      buffers.drop next := by rw [same, stands.buffer]
  have length : it.currBufferCnt - it.currBufferIdx = (buffers.drop next).length := by
    rw [count, stands.buffer, List.length_drop]
  obtain ⟨sys, result⟩ := coalesceBuffers_eq looks chunk it s held _ ahead
  rw [length]
  refine ⟨sys, ?_⟩
  generalize coalesceBuffers env inputName chunk it s _ = inner at result ⊢
  rcases result with ⟨none, iterator, all⟩ | ⟨some, skipped, gap, later, tail, iterator, all⟩
  · refine Or.inl ⟨none, by rw [iterator]; exact stands.request, by rw [iterator]; exact stands.more, ?_⟩
    rwa [stands.request] at all
  · refine Or.inr ⟨some, _, Or.inr ⟨idx, next + skipped, buffers, rest, ?_, split, rfl⟩, ?_⟩
    · rw [iterator]
      exact stands.advance skipped
    · rw [← List.drop_drop, tail, ← stands.request, all]
      simp [resumedFrom, mergeBuffers]

/-- The loop over the requests ends the chunk at the first buffer that does not continue it. -/
theorem coalesceRequests_eq (looks : LooksUp env requests inputName) (chunk : ContiguousBuffer)
    (it : InputIterator) (s : Sys) {idx next : Nat} (stands : it.At requests inputName idx next)
    {buffers : List MemoryDesc} (rest : List (List MemoryDesc))
    (split : (requests.map (requestBuffers inputName)).drop idx = buffers :: rest) :
    let result := coalesceRequests env requests inputName chunk it s rest.length
    result.found = true ∧ (∃ tick, result.sys = { s with tick }) ∧
      ∃ left, result.iterator.Resumes requests inputName true left ∧
        mergeInto true chunk ((buffers.drop next).map (Prod.mk idx) ++ visitedFrom true (idx + 1) rest) =
          result.input :: mergeBuffers true left := by
  induction rest generalizing chunk it s idx next buffers with
  | nil =>
      obtain ⟨sys, result⟩ := coalesceBuffers_at looks chunk it s stands split
      simp only [List.length_nil, coalesceRequests]
      generalize coalesceBuffers env inputName chunk it s _ = inner at sys result ⊢
      rcases result with ⟨none, _, _, all⟩ | ⟨some, stopped⟩
      · simp only [none, Bool.false_eq_true, if_false]
        exact ⟨trivial, sys, [], Or.inl ⟨rfl, rfl⟩, all []⟩
      · simp only [some, if_true]
        exact ⟨trivial, sys, stopped⟩
  | cons following rest ih =>
      obtain ⟨⟨tick, sys⟩, result⟩ := coalesceBuffers_at looks chunk it s stands split
      simp only [List.length_cons, coalesceRequests]
      generalize coalesceBuffers env inputName chunk it s _ = inner at sys result ⊢
      rcases result with ⟨none, request, more, all⟩ | ⟨some, stopped⟩
      -- all buffers of this request joined the chunk, so the next request goes on with it
      · simp only [none, Bool.false_eq_true, if_false]
        obtain ⟨_, _, _, behind⟩ := drop_request split
        obtain ⟨⟨entered, looked⟩, stands'⟩ := lookupRequest_at looks request more inner.sys split
        obtain ⟨found, ⟨tick', sys'⟩, left, resumes, merged⟩ := ih inner.input _ _ stands' behind
        refine ⟨found, ⟨tick', by rw [sys', looked, sys]⟩, left, resumes, ?_⟩
        rw [all, ← merged]
        simp [visitedFrom]
      · simp only [some, if_true]
        exact ⟨trivial, ⟨tick, sys⟩, stopped⟩

theorem mergeInto_false (chunk : ContiguousBuffer) (rest : List (Nat × MemoryDesc)) :
    mergeInto false chunk rest = chunk :: rest.map fun visit => singleChunk visit.1 visit.2 := by
  induction rest generalizing chunk with
  | nil => rfl
  | cons visit rest ih => simp [mergeInto, ih]

theorem mergeBuffers_false (left : List (Nat × MemoryDesc)) :
    mergeBuffers false left = left.map fun visit => singleChunk visit.1 visit.2 := by
  cases left with
  | nil => rfl
  | cons visit rest => exact mergeInto_false _ rest

/-- Without coalescing each buffer is a chunk of its own. -/
theorem nextBuffer_eq (looks : LooksUp env requests inputName) {it : InputIterator} {idx next : Nat}
    (stands : it.At requests inputName idx next) {buffers : List MemoryDesc}
    {rest : List (List MemoryDesc)}
    (split : (requests.map (requestBuffers inputName)).drop idx = buffers :: rest)
    {desc : MemoryDesc} {later : List MemoryDesc} (ahead : buffers.drop next = desc :: later)
    (kept : ContiguousBuffer) (s : Sys) :
    let found := getNextContiguousInput env requests inputName false kept it s
    (∃ tick, found.sys = { s with tick }) ∧ found.found = true ∧ ∃ left,
      found.iterator.Resumes requests inputName false left ∧
        mergeBuffers false (resumedFrom false idx (buffers.drop next) rest) =
          found.input :: mergeBuffers false left := by
  obtain ⟨_, _, count, _⟩ := stands.input split
  have sizes : next + 1 + later.length = buffers.length := by
    have lengths := congrArg List.length ahead
    simp only [List.length_drop, List.length_cons] at lengths
    omega
  obtain ⟨more, read⟩ := stands.read looks split ahead kept.memoryDesc s
  simp only [getNextContiguousInput, more, Bool.false_eq_true, if_false, read]
  cases later with
  | cons another later =>
      have left : ¬ it.currBufferIdx + 1 ≥ it.currBufferCnt := by
        rw [stands.buffer, count, ← sizes, List.length_cons]
        omega
      rw [if_neg left]
      refine ⟨⟨s.tick + 1, rfl⟩, rfl, _, Or.inr ⟨idx, next + 1, buffers, rest, stands.advance 1,
        split, rfl⟩, ?_⟩
      rw [← List.drop_drop, ahead, stands.request]
      simp [resumedFrom, mergeBuffers_false, singleChunk]
  | nil =>
      have ends : it.currBufferIdx + 1 ≥ it.currBufferCnt := by
        rw [stands.buffer, count, ← sizes]
        exact Nat.le_refl _
      rw [if_pos ends]
      obtain ⟨_, _, _, behind⟩ := drop_request split
      cases rest with
      | nil =>
          have final : ¬ it.currRequestIdx + 1 < requests.length := by
            have none := congrArg List.length behind
            simp only [List.length_drop, List.length_map, List.length_nil] at none
            rw [stands.request]
            omega
          rw [if_neg final]
          refine ⟨⟨s.tick + 1, rfl⟩, rfl, [], Or.inl ⟨rfl, rfl⟩, ?_⟩
          rw [ahead, stands.request]
          simp [resumedFrom, visitedFrom, mergeBuffers_false, singleChunk]
      | cons following rest =>
          have follows : it.currRequestIdx + 1 < requests.length := by
            obtain ⟨_, present, _, _⟩ := drop_request behind
            rw [stands.request]
            exact (List.getElem?_eq_some_iff.mp present).1
          rw [if_pos follows]
          obtain ⟨⟨tick, looked⟩, entered⟩ := lookupRequest_at looks
            (stands.advance 1).request stands.more { s with tick := s.tick + 1 } split
          refine ⟨⟨tick, looked⟩, rfl, _, Or.inr ⟨idx + 1, 0, following, rest, entered, behind,
            rfl⟩, ?_⟩
          rw [ahead, stands.request]
          simp [resumedFrom, visitedFrom, mergeBuffers_false, singleChunk]

/-- Each call finds the next chunk, or nothing when none is left. -/
theorem getNextContiguousInput_eq (looks : LooksUp env requests inputName) {coalesce : Bool}
    {it : InputIterator} {left : List (Nat × MemoryDesc)}
    (resumes : it.Resumes requests inputName coalesce left) (kept : ContiguousBuffer) (s : Sys) :
    let next := getNextContiguousInput env requests inputName coalesce kept it s
    (∃ tick, next.sys = { s with tick }) ∧
      (next.found = false ∧ left = [] ∨ next.found = true ∧ ∃ left',
        next.iterator.Resumes requests inputName coalesce left' ∧
          mergeBuffers coalesce left = next.input :: mergeBuffers coalesce left') := by
  rcases resumes with ⟨ended, rfl⟩ | ⟨idx, next, buffers, rest, stands, split, rfl⟩
  · simp only [getNextContiguousInput, ended, Bool.true_or, if_true]
    exact ⟨⟨s.tick, rfl⟩, Or.inl ⟨trivial, trivial⟩⟩
  rcases ahead : buffers.drop next with _ | ⟨desc, later⟩
  -- a request without a buffer left is where the iterator stops, other requests or not
  · obtain ⟨_, _, count, _⟩ := stands.input split
    have passed : buffers.length ≤ next := List.drop_eq_nil_iff.mp ahead
    have ends : (it.reachEnd || decide (it.currBufferIdx ≥ it.currBufferCnt)) = true := by
      simp [stands.buffer, count, passed]
    simp only [getNextContiguousInput, ends, if_true]
    exact ⟨⟨s.tick, rfl⟩, Or.inl ⟨trivial, by simp [resumedFrom]⟩⟩
  cases coalesce with
  | false =>
      obtain ⟨sys, found⟩ := nextBuffer_eq looks stands split ahead kept s
      rw [ahead] at found
      exact ⟨sys, Or.inr found⟩
  | true =>
      obtain ⟨more, read⟩ := stands.read looks split ahead kept.memoryDesc s
      have length : requests.length - (idx + 1) = rest.length := by
        obtain ⟨_, _, _, behind⟩ := drop_request split
        rw [← behind, List.length_drop, List.length_map]
      obtain ⟨found, ⟨tick, sys⟩, left', resumes, merged⟩ := coalesceRequests_eq looks
        (singleChunk idx desc) { it with currBufferIdx := it.currBufferIdx + 1 }
        { s with tick := s.tick + 1 } (stands.advance 1) rest split
      simp only [getNextContiguousInput, more, Bool.false_eq_true, if_false, read, stands.request,
        if_true, length]
      simp only [singleChunk, stands.request] at found sys resumes merged
      refine ⟨⟨tick, sys⟩, Or.inr ⟨found, left', resumes, ?_⟩⟩
      rw [← merged, ← List.drop_drop, ahead]
      simp [resumedFrom, mergeBuffers, singleChunk]

theorem create_resumes (looks : LooksUp env requests inputName) (coalesce : Bool) (s : Sys)
    {buffers : List MemoryDesc} {rest : List (List MemoryDesc)}
    (split : requests.map (requestBuffers inputName) = buffers :: rest) :
    let it := InputIterator.create env requests inputName s
    (∃ tick, it.2 = { s with tick }) ∧
      it.1.Resumes requests inputName coalesce (resumedFrom coalesce 0 buffers rest) := by
  obtain ⟨request, present, _, _⟩ := drop_request (by rwa [List.drop_zero])
  obtain ⟨input, named, entered⟩ := lookupRequest_eq looks {
    currInput := none
    currRequestIdx := 0
    currBufferIdx := 0
    currBufferCnt := 0
    reachEnd := false } s present
  simp only [InputIterator.create, entered]
  exact ⟨⟨s.tick + 2, rfl⟩, Or.inr ⟨0, 0, buffers, rest,
    ⟨rfl, rfl, ⟨request, input, present, named, rfl, rfl⟩, rfl⟩, split, rfl⟩⟩

end

/-! `ProcessTensor` runs through the chunks of the input. -/

section
variable {env : Env} {cfg : CollectorConfig} {inputName : String}

theorem idles_tick (s : Sys) (tick : Nat) : s.Idles { s with tick } :=
  ⟨Sys.Reaches.count s tick, rfl⟩

theorem ChunkRun.prepend {tensor : Tensor} {c c' : Collector} {s : Sys} {offset : Nat}
    {chunks : List ContiguousBuffer} (idle : c.toSys.Idles s)
    (run : ChunkRun env cfg inputName tensor (c.withSys s) offset chunks c') :
    ChunkRun env cfg inputName tensor c offset chunks c' := by
  have joined {t : Sys} (later : s.Idles t) : c.toSys.Idles t :=
    ⟨idle.1.trans later.1, later.2.trans idle.2⟩
  cases run with
  | done _ t _ later => exact ChunkRun.done c t offset (joined later)
  | next _ t _ input rest _ later run => exact ChunkRun.next c t offset input rest c' (joined later) run

theorem processTensorLoop_run (looks : LooksUp env cfg.requests inputName) (tensor : Tensor)
    (c : Collector) (it : InputIterator) (kept : ContiguousBuffer) (offset : Nat)
    {left : List (Nat × MemoryDesc)}
    (resumes : it.Resumes cfg.requests inputName cfg.coalesceRequestInput left) :
    ChunkRun env cfg inputName tensor c offset (mergeBuffers cfg.coalesceRequestInput left)
      (processTensorLoop env cfg inputName tensor c it kept offset) := by
  induction c, it, kept, offset using processTensorLoop.induct env cfg inputName tensor
    generalizing left with
  | case1 c it kept offset next found =>
      rename_i ih
      obtain ⟨⟨tick, sys⟩, none | ⟨_, left', later, merged⟩⟩ :=
        getNextContiguousInput_eq looks resumes kept c.toSys
      · exact absurd (none.1.symm.trans found) Bool.false_ne_true
      · rw [processTensorLoop, if_pos found, merged]
        refine ChunkRun.next c _ offset _ _ _ ?_ (ih later)
        rw [sys]
        exact idles_tick c.toSys tick
  | case2 c it kept offset next =>
      rename_i found
      obtain ⟨⟨tick, sys⟩, ⟨_, rfl⟩ | ⟨some, _⟩⟩ :=
        getNextContiguousInput_eq looks resumes kept c.toSys
      · rw [processTensorLoop, if_neg found]
        refine ChunkRun.done c _ offset ?_
        rw [sys]
        exact idles_tick c.toSys tick
      · exact absurd some found

theorem processTensor_run (looks : LooksUp env cfg.requests inputName) (batch : cfg.requests ≠ [])
    (tensor : Tensor) (c : Collector) : ∃ after,
      ChunkRun env cfg inputName tensor c 0
        (inputChunks cfg.coalesceRequestInput inputName cfg.requests) after ∧
      processTensor env cfg inputName tensor c = finishTensor env cfg tensor after := by
  refine ⟨_, ?_, rfl⟩
  rcases split : cfg.requests.map (requestBuffers inputName) with _ | ⟨buffers, rest⟩
  · exact absurd (List.map_eq_nil_iff.mp split) batch
  · obtain ⟨⟨tick, sys⟩, resumes⟩ := create_resumes looks cfg.coalesceRequestInput c.toSys split
    rw [inputChunks, split]
    refine ChunkRun.prepend ?_ (processTensorLoop_run looks tensor _ _ _ 0 resumes)
    rw [sys]
    exact idles_tick c.toSys tick

end

/-! What the chunks hold. -/

def bufferBytes (memory : Memory Block UInt8) (descs : List MemoryDesc) : List UInt8 :=
  descs.flatMap fun desc => valuesAt memory desc.address desc.byteSize

def bufferByteSize (descs : List MemoryDesc) : Nat := (descs.map MemoryDesc.byteSize).sum

@[simp] theorem bufferBytes_nil (memory : Memory Block UInt8) : bufferBytes memory [] = [] := rfl

@[simp] theorem bufferBytes_cons (memory : Memory Block UInt8) (desc : MemoryDesc)
    (rest : List MemoryDesc) : bufferBytes memory (desc :: rest) =
      valuesAt memory desc.address desc.byteSize ++ bufferBytes memory rest := rfl

@[simp] theorem bufferBytes_append (memory : Memory Block UInt8) (first second : List MemoryDesc) :
    bufferBytes memory (first ++ second) = bufferBytes memory first ++ bufferBytes memory second := by
  simp [bufferBytes]

theorem length_bufferBytes (memory : Memory Block UInt8) (descs : List MemoryDesc) :
    (bufferBytes memory descs).length = bufferByteSize descs := by
  simp [bufferBytes, bufferByteSize, List.length_flatMap]

theorem totalByteSize_eq (chunks : List ContiguousBuffer) :
    totalByteSize chunks = bufferByteSize (chunks.map ContiguousBuffer.memoryDesc) := by
  rw [totalByteSize, bufferByteSize, List.map_map]
  rfl

theorem continues_bytes (memory : Memory Block UInt8) {desc next : MemoryDesc}
    (same : continues desc next = true) :
    valuesAt memory desc.address (desc.byteSize + next.byteSize) =
      valuesAt memory desc.address desc.byteSize ++ valuesAt memory next.address next.byteSize := by
  simp only [continues, Bool.and_eq_true, beq_iff_eq] at same
  obtain ⟨⟨place, memoryType⟩, memoryTypeId⟩ := same
  have address : desc.address.advance desc.byteSize = next.address := by
    simp only [MemoryDesc.address, Pointer.advance, memoryType, memoryTypeId, ← place]
    rfl
  rw [valuesAt_append, address]

theorem mergeInto_bytes (memory : Memory Block UInt8) (coalesce : Bool) (chunk : ContiguousBuffer)
    (rest : List (Nat × MemoryDesc)) :
    bufferBytes memory ((mergeInto coalesce chunk rest).map ContiguousBuffer.memoryDesc) =
      bufferBytes memory (chunk.memoryDesc :: rest.map Prod.snd) := by
  induction rest generalizing chunk with
  | nil => rfl
  | cons visit rest ih =>
      obtain ⟨idx, desc⟩ := visit
      rw [mergeInto]
      split
      next merges =>
        have joined := continues_bytes memory (Bool.and_eq_true_iff.mp merges).2
        simp only [ih, List.map_cons, bufferBytes_cons, ← List.append_assoc, ← joined]
        rfl
      next ends =>
        simp only [List.map_cons, bufferBytes_cons, ih]
        rfl

theorem mergeBuffers_bytes (memory : Memory Block UInt8) (coalesce : Bool)
    (left : List (Nat × MemoryDesc)) :
    bufferBytes memory ((mergeBuffers coalesce left).map ContiguousBuffer.memoryDesc) =
      bufferBytes memory (left.map Prod.snd) := by
  cases left with
  | nil => rfl
  | cons visit rest => exact mergeInto_bytes memory coalesce _ rest

theorem mergeInto_ranges (coalesce : Bool) (chunk : ContiguousBuffer)
    (rest : List (Nat × MemoryDesc)) (started : chunk.startRequestIdx ≤ chunk.endRequestIdx)
    (later : ∀ visit ∈ rest, chunk.startRequestIdx ≤ visit.1)
    (ordered : rest.Pairwise fun first second => first.1 ≤ second.1) :
    ∀ input ∈ mergeInto coalesce chunk rest, input.startRequestIdx ≤ input.endRequestIdx := by
  induction rest generalizing chunk with
  | nil => simpa [mergeInto] using started
  | cons visit rest ih =>
      obtain ⟨idx, desc⟩ := visit
      have reached := later (idx, desc) List.mem_cons_self
      rw [mergeInto]
      split
      · exact ih (chunk.extend idx desc.byteSize) reached
          (fun visit member => later visit (List.mem_cons_of_mem _ member)) ordered.of_cons
      · refine List.forall_mem_cons.mpr ⟨started, ih (singleChunk idx desc) (Nat.le_refl _) ?_
          ordered.of_cons⟩
        exact fun visit member => List.rel_of_pairwise_cons ordered member

theorem visitedFrom_ordered (coalesce : Bool) (idx : Nat) (inputs : List (List MemoryDesc)) :
    (∀ visit ∈ visitedFrom coalesce idx inputs, idx ≤ visit.1) ∧
      (visitedFrom coalesce idx inputs).Pairwise fun first second => first.1 ≤ second.1 := by
  induction inputs generalizing idx with
  | nil => simp [visitedFrom]
  | cons buffers rest ih =>
      obtain ⟨later, ordered⟩ := ih (idx + 1)
      rw [visitedFrom]
      split
      · simp
      · refine ⟨?_, List.pairwise_append.mpr ⟨?_, ordered, ?_⟩⟩
        · intro visit member
          rcases List.mem_append.mp member with here | behind
          · obtain ⟨desc, _, rfl⟩ := List.mem_map.mp here
            exact Nat.le_refl _
          · exact Nat.le_of_succ_le (later visit behind)
        · exact List.pairwise_map.mpr (List.pairwise_of_forall fun _ _ => Nat.le_refl _)
        · intro visit member other behind
          obtain ⟨desc, _, rfl⟩ := List.mem_map.mp member
          exact Nat.le_of_succ_le (later other behind)

/-- The requests behind the one where the iterator stops for good. -/
def unreached (coalesce first : Bool) : List (List MemoryDesc) → List (List MemoryDesc)
  | [] => []
  | buffers :: rest =>
      if buffers.isEmpty && (first || !coalesce) then rest else unreached coalesce false rest

theorem visitedFrom_unreached (coalesce : Bool) (idx : Nat) (inputs : List (List MemoryDesc)) :
    inputs.flatten = (visitedFrom coalesce idx inputs).map Prod.snd ++
      (unreached coalesce false inputs).flatten := by
  induction inputs generalizing idx with
  | nil => rfl
  | cons buffers rest ih =>
      rw [visitedFrom, unreached, Bool.false_or, Bool.and_comm]
      split
      next stops =>
        have none := (Bool.and_eq_true_iff.mp stops).1
        simp [List.isEmpty_iff.mp none]
      next goes =>
        rw [List.flatten_cons, ih (idx + 1)]
        simp [Function.comp_def]

/-- The chunks hold the buffers of the requests up to where the iterator stops. -/
theorem inputChunks_bytes (memory : Memory Block UInt8) (coalesce : Bool) (inputName : String)
    (requests : List Request) :
    bufferBytes memory (batchBuffers inputName requests).flatten =
      bufferBytes memory ((inputChunks coalesce inputName requests).map ContiguousBuffer.memoryDesc) ++
        bufferBytes memory (unreached coalesce true (batchBuffers inputName requests)).flatten := by
  rw [inputChunks, batchBuffers]
  generalize requests.map (requestBuffers inputName) = inputs
  cases inputs with
  | nil => rfl
  | cons buffers rest =>
      simp only [mergeBuffers_bytes, resumedFrom, unreached, Bool.true_or, Bool.and_true]
      split
      next none => simp [List.isEmpty_iff.mp none]
      next some =>
        rw [List.flatten_cons, visitedFrom_unreached coalesce 1 rest]
        simp [Function.comp_def]

theorem inputChunks_range {coalesce : Bool} {inputName : String} {requests : List Request}
    {input : ContiguousBuffer} (member : input ∈ inputChunks coalesce inputName requests) :
    ∃ idx, idx ∈ input.requestRange := by
  have spans : input.startRequestIdx ≤ input.endRequestIdx := by
    rw [inputChunks] at member
    generalize requests.map (requestBuffers inputName) = inputs at member
    rcases inputs with _ | ⟨_ | ⟨desc, descs⟩, rest⟩
    · cases member
    · cases member
    · obtain ⟨later, ordered⟩ := visitedFrom_ordered coalesce 1 rest
      refine mergeInto_ranges coalesce (singleChunk 0 desc) _ (Nat.le_refl _)
        (fun _ _ => Nat.zero_le _) (List.pairwise_append.mpr ⟨?_, ordered, ?_⟩) input member
      · exact List.pairwise_map.mpr (List.pairwise_of_forall fun _ _ => Nat.le_refl _)
      · intro visit here _ _
        obtain ⟨_, _, rfl⟩ := List.mem_map.mp here
        exact Nat.zero_le _
  refine ⟨input.startRequestIdx, ?_⟩
  simp only [ContiguousBuffer.requestRange, List.mem_range'_1]
  omega

theorem placed_bytes {memory initial : Memory Block UInt8} {target : Address}
    {chunks : List ContiguousBuffer}
    (placed : ∀ before input after, chunks = before ++ input :: after →
      ∀ index : Nat, index < input.byteSize →
        memory target.block (target.offset + totalByteSize before + index) =
          initial input.memoryDesc.address.block (input.memoryDesc.address.offset + index)) :
    valuesAt memory target (totalByteSize chunks) =
      bufferBytes initial (chunks.map ContiguousBuffer.memoryDesc) := by
  induction chunks generalizing target with
  | nil => rfl
  | cons input rest ih =>
      have head := placed [] input rest rfl
      have tail := @ih (target.advance input.byteSize) (by
        intro before next after split index bound
        have moved := placed (input :: before) next after (by rw [split]; rfl) index bound
        simpa [Int.add_assoc] using moved)
      rw [totalByteSize_cons, valuesAt_append, tail, List.map_cons, bufferBytes_cons]
      congr 1
      refine valuesAt_congr.mpr fun index bound => ?_
      simpa using head index bound

end TritonBackend
