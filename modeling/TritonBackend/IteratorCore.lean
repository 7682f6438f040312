import TritonBackend.CommonCore

/-!
`BackendInputCollector::InputIterator`: the buffers of one named input, request
by request, merged into contiguous chunks when the collector coalesces.
-/

namespace TritonBackend

open CopyStream

structure InputIterator where
  currInput : Option Input
  currRequestIdx : Nat
  currBufferIdx : Nat
  currBufferCnt : Nat
  reachEnd : Bool

structure NextInput where
  found : Bool
  input : ContiguousBuffer
  iterator : InputIterator
  sys : Sys

section
variable (env : Env) (requests : List Request) (inputName : String)

/-- Entering a request takes its input handle and then its buffer count, each with the
macro that does not leave the function: after a failed lookup the count of the request
before stays, and so does its handle unless the lookup sets it to nullptr. -/
def holdInput (it : InputIterator) (s : Sys) : InputIterator × Sys :=
  match requestInput env requests s it.currRequestIdx inputName with
  | (.ok input, s) => ({ it with currInput := some input }, s)
  | (.error error, s) =>
      ({ it with currInput := if env.nullsInput then none else it.currInput },
        respondAndSetNullIfError s it.currRequestIdx (some error))

def countBuffers (it : InputIterator) (s : Sys) : InputIterator × Sys :=
  match inputProperties env s inputName it.currInput with
  | (.ok input, s) => ({ it with currBufferCnt := input.buffers.length }, s)
  | (.error error, s) => (it, respondAndSetNullIfError s it.currRequestIdx (some error))

def lookupRequest (it : InputIterator) (s : Sys) : InputIterator × Sys :=
  let held := holdInput env requests inputName it s
  countBuffers env inputName held.1 held.2

def InputIterator.create (s : Sys) : InputIterator × Sys :=
  lookupRequest env requests inputName {
    currInput := none
    currRequestIdx := 0
    currBufferIdx := 0
    currBufferCnt := 0
    reachEnd := false } s

/-- The unchecked buffer lookup; a failed one leaves `kept` in the descriptor. -/
def readBuffer (it : InputIterator) (kept : MemoryDesc) (s : Sys) : MemoryDesc × Sys :=
  match inputBuffer env s inputName it.currInput it.currBufferIdx with
  | (.ok desc, s) => (desc, s)
  | (.error _, s) => (kept, s)

def continues (desc next : MemoryDesc) : Bool :=
  desc.buffer + desc.byteSize == next.buffer && desc.memoryType == next.memoryType &&
    desc.memoryTypeId == next.memoryTypeId

/-- The `for` loop over the rest of the current request's buffers; `found` tells
that it met a buffer that does not continue the chunk. -/
def coalesceBuffers (input : ContiguousBuffer) (it : InputIterator) (s : Sys) : Nat → NextInput
  | 0 => { found := false, input, iterator := it, sys := s }
  | count + 1 =>
      let next := readBuffer env inputName it (env.uninitialized s.tick) s
      if continues input.memoryDesc next.1 then
        coalesceBuffers {
            input with
            memoryDesc := {
              input.memoryDesc with byteSize := input.memoryDesc.byteSize + next.1.byteSize }
            endRequestIdx := it.currRequestIdx }
          { it with currBufferIdx := it.currBufferIdx + 1 } next.2 count
      else { found := true, input, iterator := it, sys := next.2 }

/-- The `do`-`while` loop over requests; `count` requests follow the current one. -/
def coalesceRequests (input : ContiguousBuffer) (it : InputIterator) (s : Sys) :
    Nat → NextInput
  | 0 =>
      let next := coalesceBuffers env inputName input it s (it.currBufferCnt - it.currBufferIdx)
      if next.found then next
      else { next with
        found := true
        iterator := { next.iterator with
          currRequestIdx := next.iterator.currRequestIdx + 1
          reachEnd := true } }
  | count + 1 =>
      let next := coalesceBuffers env inputName input it s (it.currBufferCnt - it.currBufferIdx)
      if next.found then next
      else
        let entered := lookupRequest env requests inputName
          { next.iterator with currRequestIdx := next.iterator.currRequestIdx + 1 } next.sys
        coalesceRequests next.input { entered.1 with currBufferIdx := 0 } entered.2 count

/-- `GetNextContiguousInput`. `input` is the caller's descriptor from the call before,
which is kept where a buffer lookup fails. -/
def getNextContiguousInput (coalesce : Bool) (input : ContiguousBuffer) (it : InputIterator)
    (s : Sys) : NextInput :=
  if it.reachEnd || it.currBufferIdx ≥ it.currBufferCnt then
    { found := false, input, iterator := it, sys := s }
  else
    let first := readBuffer env inputName it input.memoryDesc s
    let it := { it with currBufferIdx := it.currBufferIdx + 1 }
    let input : ContiguousBuffer := {
      memoryDesc := first.1
      startRequestIdx := it.currRequestIdx
      endRequestIdx := it.currRequestIdx }
    if coalesce then
      coalesceRequests env requests inputName input it first.2
        (requests.length - (it.currRequestIdx + 1))
    else if it.currBufferIdx ≥ it.currBufferCnt then
      if it.currRequestIdx + 1 < requests.length then
        let entered := lookupRequest env requests inputName
          { it with currRequestIdx := it.currRequestIdx + 1 } first.2
        { found := true, input, iterator := { entered.1 with currBufferIdx := 0 }
          sys := entered.2 }
      else {
        found := true, input, sys := first.2
        iterator := { it with currRequestIdx := it.currRequestIdx + 1, reachEnd := true } }
    else { found := true, input, iterator := it, sys := first.2 }

end

/-! Every chunk that is found leaves less to visit. -/

def InputIterator.Behind (requestCount : Nat) (next it : InputIterator) : Prop :=
  requestCount - next.currRequestIdx < requestCount - it.currRequestIdx ∨
    requestCount - next.currRequestIdx = requestCount - it.currRequestIdx ∧
      next.currBufferCnt - next.currBufferIdx < it.currBufferCnt - it.currBufferIdx

theorem lookupRequest_requestIdx (env : Env) (requests : List Request) (inputName : String)
    (it : InputIterator) (s : Sys) :
    (lookupRequest env requests inputName it s).1.currRequestIdx = it.currRequestIdx := by
  have held : (holdInput env requests inputName it s).1.currRequestIdx = it.currRequestIdx := by
    unfold holdInput
    split <;> rfl
  rw [← held]
  simp only [lookupRequest, countBuffers]
  split <;> rfl

theorem coalesceBuffers_indices (env : Env) (inputName : String) (input : ContiguousBuffer)
    (it : InputIterator) (s : Sys) (count : Nat) :
    let next := (coalesceBuffers env inputName input it s count).iterator
    next.currRequestIdx = it.currRequestIdx ∧ next.currBufferCnt = it.currBufferCnt ∧
      it.currBufferIdx ≤ next.currBufferIdx := by
  induction count generalizing input it s with
  | zero => simp [coalesceBuffers]
  | succ count ih =>
      simp only [coalesceBuffers]
      split
      · obtain ⟨request, buffers, later⟩ := ih {
            input with
            memoryDesc := {
              input.memoryDesc with
              byteSize := input.memoryDesc.byteSize +
                (readBuffer env inputName it (env.uninitialized s.tick) s).1.byteSize }
            endRequestIdx := it.currRequestIdx }
          { it with currBufferIdx := it.currBufferIdx + 1 }
          (readBuffer env inputName it (env.uninitialized s.tick) s).2
        exact ⟨request, buffers, Nat.le_of_succ_le later⟩
      · simp

theorem coalesceRequests_progress (env : Env) (requests : List Request) (inputName : String)
    (input : ContiguousBuffer) (it : InputIterator) (s : Sys) (count : Nat) :
    let next := (coalesceRequests env requests inputName input it s count).iterator
    it.currRequestIdx ≤ next.currRequestIdx ∧ next.currBufferCnt = it.currBufferCnt ∧
        it.currBufferIdx ≤ next.currBufferIdx ∨
      0 < count ∧ it.currRequestIdx < next.currRequestIdx := by
  induction count generalizing input it s with
  | zero =>
      have inner := coalesceBuffers_indices env inputName input it s (it.currBufferCnt - it.currBufferIdx)
      simp only [coalesceRequests]
      split
      · exact Or.inl ⟨Nat.le_of_eq inner.1.symm, inner.2⟩
      · exact Or.inl ⟨Nat.le_succ_of_le (Nat.le_of_eq inner.1.symm), inner.2⟩
  | succ count ih =>
      have inner := coalesceBuffers_indices env inputName input it s (it.currBufferCnt - it.currBufferIdx)
      simp only [coalesceRequests]
      split
      · exact Or.inl ⟨Nat.le_of_eq inner.1.symm, inner.2⟩
      · generalize coalesceBuffers env inputName input it s (it.currBufferCnt - it.currBufferIdx) = next
          at inner ⊢
        have entered := lookupRequest_requestIdx env requests inputName
          { next.iterator with currRequestIdx := next.iterator.currRequestIdx + 1 } next.sys
        generalize lookupRequest env requests inputName _ next.sys = later at entered ⊢
        have rest := ih next.input { later.1 with currBufferIdx := 0 } later.2
        dsimp only at rest entered inner
        refine Or.inr ⟨Nat.succ_pos _, ?_⟩
        omega

theorem getNextContiguousInput_behind (env : Env) (requests : List Request) (inputName : String)
    (coalesce : Bool) (input : ContiguousBuffer) (it : InputIterator) (s : Sys)
    (found : (getNextContiguousInput env requests inputName coalesce input it s).found = true) :
    (getNextContiguousInput env requests inputName coalesce input it s).iterator.Behind
      requests.length it := by
  unfold getNextContiguousInput at found ⊢
  split at found
  · simp at found
  next more =>
    simp only [more, Bool.false_eq_true, if_false]
    have left : it.currBufferIdx < it.currBufferCnt := by
      simp only [ge_iff_le, Bool.or_eq_true, decide_eq_true_eq, not_or, Nat.not_le] at more
      exact more.2
    split
    · have progress := coalesceRequests_progress env requests inputName {
          memoryDesc := (readBuffer env inputName it input.memoryDesc s).1
          startRequestIdx := it.currRequestIdx
          endRequestIdx := it.currRequestIdx }
        { it with currBufferIdx := it.currBufferIdx + 1 }
        (readBuffer env inputName it input.memoryDesc s).2 (requests.length - (it.currRequestIdx + 1))
      unfold InputIterator.Behind
      simp only at progress ⊢
      omega
    · split
      · split
        · have entered := lookupRequest_requestIdx env requests inputName
            { it with currBufferIdx := it.currBufferIdx + 1, currRequestIdx := it.currRequestIdx + 1 }
            (readBuffer env inputName it input.memoryDesc s).2
          unfold InputIterator.Behind
          simp only at entered ⊢
          omega
        · unfold InputIterator.Behind
          simp only
          omega
      · refine Or.inr ⟨rfl, ?_⟩
        dsimp only
        omega

end TritonBackend
