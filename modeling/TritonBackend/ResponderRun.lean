import TritonBackend.BackendCore
import TritonBackend.ResponderPlan

/-!
Whole runs of the responder. Between calls the plan holds the copies out of the deferred
blocks; `finalize` makes them once the stream has been waited for.
-/

namespace TritonBackend

open CopyStream

/-- A tensor that was there before the responder gives or stages anything. -/
structure OutputTensor.Placed (tensor : OutputTensor) (s : Sys) : Prop where
  direct : ¬ IsStaging tensor.buffer.block
  old : blockAge tensor.buffer.block ≤ s.nextBlock

theorem OutputTensor.Placed.mono {tensor : OutputTensor} {s s' : Sys} (placed : tensor.Placed s)
    (reaches : s.Reaches s') : tensor.Placed s' :=
  ⟨placed.direct, Nat.le_trans placed.old (reaches_nextBlock reaches)⟩

namespace Responder

def waiting (r : Responder) (tensor : OutputTensor) : List (Job Block Nat) :=
  sliceJobs tensor.buffer r.pendingPinnedOffset r.pendingPinnedOutputs ++
    r.deferredPinned.flatMap deferredJobs

structure Tidy (r : Responder) : Prop where
  sized : r.pendingPinnedByteSize = sliceBytes r.pendingPinnedOutputs
  pending : ∀ slice ∈ r.pendingPinnedOutputs, ¬ IsStaging slice.2.buffer.block
  drains : ∀ deferred ∈ r.deferredPinned, ∀ slice ∈ deferred.responses,
    ¬ IsStaging slice.2.buffer.block
  owed : r.deferredPinned ≠ [] → r.needSync = true

/-- `need_sync_` covers every copy put on the stream, and nothing is recorded. -/
def Tracks (r r' : Responder) : Prop :=
  r'.device.recorded = r.device.recorded ∧
    (r'.needSync = false → r.needSync = false ∧ r'.device.queue = r.device.queue)

theorem Tracks.refl (r : Responder) : r.Tracks r := ⟨rfl, fun none => ⟨none, rfl⟩⟩

theorem Tracks.trans {r r' r'' : Responder} (first : r.Tracks r') (second : r'.Tracks r'') :
    r.Tracks r'' := by
  refine ⟨second.1.trans first.1, fun none => ?_⟩
  obtain ⟨before, sameLate⟩ := second.2 none
  obtain ⟨start, sameEarly⟩ := first.2 before
  exact ⟨start, sameLate.trans sameEarly⟩

@[simp] theorem orSync_false (r : Responder) : orSync (false, r) = r := by
  simp [orSync]

theorem tracks_orSync {r : Responder} {result : Bool × Responder}
    (streams : Streams result.1 r.toSys result.2.toSys) (flag : result.2.needSync = r.needSync) :
    r.Tracks (orSync result) := by
  refine ⟨streams.recorded, fun none => ?_⟩
  simp only [orSync, Bool.or_eq_false_iff] at none
  exact ⟨flag ▸ none.1, streams.quiet none.2⟩

/-- The responder gets from `r` to `r'`, and its plan keeps up. -/
structure Moves (offers : Offers) (tensor : OutputTensor) (r r' : Responder) : Prop where
  serves : Sys.Serves offers (r.toSys, r.waiting tensor) (r'.toSys, r'.waiting tensor)
  tidy : r'.Tidy
  tracks : r.Tracks r'

/-- Between calls of an operation: what the next step starts from. -/
structure Stands (r : Responder) (tensor : OutputTensor) : Prop where
  tidy : r.Tidy
  placed : tensor.Placed r.toSys
  sound : r.toSys.Sound (r.waiting tensor)

section
variable {offers : Offers} {tensor : OutputTensor}

theorem Moves.refl {r : Responder} (tidy : r.Tidy) : Moves offers tensor r r :=
  ⟨Sys.Serves.refl _ _, tidy, Tracks.refl r⟩

theorem Moves.trans {r r' r'' : Responder} (first : Moves offers tensor r r')
    (second : Moves offers tensor r' r'') : Moves offers tensor r r'' :=
  ⟨first.serves.trans second.serves, second.tidy, first.tracks.trans second.tracks⟩

theorem Moves.stands {r r' : Responder} (moves : Moves offers tensor r r')
    (stands : r.Stands tensor) : r'.Stands tensor :=
  ⟨moves.tidy, stands.placed.mono (serves_reaches moves.serves),
    carries_sound (serves_carries moves.serves) stands.sound⟩

theorem Tidy.withSys {r : Responder} (tidy : r.Tidy) (s : Sys) : (r.withSys s).Tidy :=
  ⟨tidy.sized, tidy.pending, tidy.drains, tidy.owed⟩

theorem Moves.answers {r : Responder} (tidy : r.Tidy) {s : Sys} (answers : r.toSys.Answers s) :
    Moves offers tensor r (r.withSys s) := by
  have device := answers_device answers
  refine ⟨Sys.Serves.answers answers _, tidy.withSys s, ?_, fun none => ⟨none, ?_⟩⟩
  · rw [toSys_withSys, device]
  · rw [toSys_withSys, device]

theorem Moves.count (offers : Offers) (tensor : OutputTensor) {r : Responder} (tidy : r.Tidy)
    (tick : Nat) :
    Moves offers tensor r (r.withSys { r.toSys with tick }) :=
  ⟨(Sys.Serve.count r.toSys _ tick (Nat.le_refl r.nextBlock)).serves, tidy.withSys _, rfl,
    fun none => ⟨none, rfl⟩⟩

end

theorem isLive_iff {r : Responder} {idx : Nat} :
    r.isLive idx = true ↔ ∃ response, r.responses[idx]? = some (some response) := by
  rw [isLive]
  cases r.responses[idx]? with
  | none => simp
  | some slot => cases slot <;> simp

/-- The run of slices that is collected ends where the next one starts. -/
def Lined (r : Responder) (tensorOffset : Nat) : Prop :=
  0 < r.pendingPinnedByteSize → tensorOffset = r.pendingPinnedByteSize + r.pendingPinnedOffset

section
variable (env : Env) (cfg : ResponderConfig) (offers : Offers) {tensor : OutputTensor}

theorem flushPendingPinned_moves {r : Responder} (stands : r.Stands tensor) :
    let r' := orSync (flushPendingPinned env cfg r tensor)
    Moves offers tensor r r' ∧ r'.pendingPinnedOutputs = [] := by
  obtain ⟨added, flush⟩ := flushPendingPinned_flush env cfg offers r tensor
    (r.deferredPinned.flatMap deferredJobs) stands.tidy.sized stands.placed.direct
    stands.placed.old stands.tidy.pending stands.sound
  obtain ⟨serves, streams, fields, cuda, later⟩ := flush
  generalize flushPendingPinned env cfg r tensor = result at serves streams fields cuda ⊢
  obtain ⟨used, after⟩ := result
  simp only at serves streams fields cuda
  have outputs : (orSync (used, after)).pendingPinnedOutputs = [] := by
    simp only [orSync]
    rw [fields]
  have deferred : (orSync (used, after)).deferredPinned = r.deferredPinned ++ added := by
    simp only [orSync]
    rw [fields]
  refine ⟨⟨serves.trans (Sys.Serve.shuffle _ ?_).serves, ?_,
    tracks_orSync streams (by rw [fields])⟩, outputs⟩
  · rw [waiting, outputs, deferred, List.flatMap_append]
    exact List.perm_append_comm
  · refine ⟨?_, by simp [outputs], ?_, ?_⟩
    · rw [outputs]
      simp only [orSync]
      rw [fields]
      rfl
    · intro block member
      rw [deferred, List.mem_append] at member
      exact member.elim (stands.tidy.drains block) (later block)
    · intro some
      simp only [deferred, ne_eq, List.append_eq_nil_iff, not_and_or] at some
      simp only [orSync, Bool.or_eq_true]
      rw [fields]
      exact some.imp stands.tidy.owed cuda

theorem flushBefore_moves {r : Responder} (stands : r.Stands tensor) (tensorOffset : Nat) :
    let r' := flushBefore env cfg r tensor tensorOffset
    Moves offers tensor r r' ∧ r'.Lined tensorOffset := by
  simp only [flushBefore]
  split
  next ends =>
    obtain ⟨moves, none⟩ := flushPendingPinned_moves env cfg offers stands
    refine ⟨moves, ?_⟩
    intro some
    rw [moves.tidy.sized, none] at some
    exact absurd some (Nat.lt_irrefl 0)
  next stays =>
    refine ⟨Moves.refl stands.tidy, ?_⟩
    intro some
    by_contra apart
    exact stays ⟨some, apart⟩

/-! Giving a response its buffer. -/

theorem obtainBuffer_cases (r : Responder) (idx byteSize : Nat) (state : Bool) :
    (∃ error, obtainBuffer env r idx byteSize state =
      (.error error, { r.toSys with tick := r.tick + 1 })) ∨
    ∃ buffer memory, (buffer = { block := .output r.nextBlock, offset := 0 } ∨
        buffer = nullAddress ∧ byteSize = 0) ∧
      obtainBuffer env r idx byteSize state = (.ok (buffer, memory),
        { Sys.note { r.toSys with tick := r.tick + 1 } (.given idx buffer byteSize) with
          nextBlock := r.nextBlock + 1 }) := by
  simp only [obtainBuffer, call_eq]
  cases env.outcome r.tick (if state then .stateBuffer else .outputBuffer) with
  | some error => exact Or.inl ⟨error, rfl⟩
  | none =>
      refine Or.inr ⟨givenAddress (env.givenMemory r.tick) byteSize r.nextBlock,
        env.givenMemory r.tick, ?_, rfl⟩
      rw [givenAddress]
      split
      next null => exact Or.inr ⟨rfl, null.2⟩
      next => exact Or.inl rfl

theorem given_direct {buffer : Address} {n byteSize : Nat}
    (place : buffer = { block := .output n, offset := 0 } ∨ buffer = nullAddress ∧ byteSize = 0) :
    ¬ IsStaging buffer.block := by
  rintro ⟨m, same⟩
  rcases place with rfl | ⟨rfl, _⟩ <;> cases same

theorem addPendingPinned_serves {r : Responder} (stands : r.Stands tensor) {s : Sys}
    (later : r.nextBlock ≤ s.nextBlock) (idx : Nat) (output : OutputData) {tensorOffset : Nat}
    (lined : r.Lined tensorOffset) :
    Sys.Serves offers
      (s, sliceJob (tensor.buffer.advance tensorOffset) (idx, output) :: r.waiting tensor)
      (s, ((r.withSys s).addPendingPinned idx output tensorOffset).waiting tensor) := by
  have sized := stands.tidy.sized
  by_cases empty : r.pendingPinnedByteSize = 0
  · have targets : ∀ slice ∈ r.pendingPinnedOutputs, ¬ IsStaging slice.2.buffer.block ∧
        blockAge slice.2.buffer.block ≤ s.nextBlock := by
      intro slice member
      obtain ⟨before, after, split⟩ := List.append_of_mem member
      exact ⟨stands.tidy.pending slice member, Nat.le_trans (courier_target stands.sound.numbered
        (List.mem_append_left _ (mem_sliceJobs.mpr ⟨before, slice, after, split, rfl⟩))) later⟩
    have none : sliceBytes r.pendingPinnedOutputs = 0 := sized.symm.trans empty
    have moved := vacant_reroute s.nextBlock tensor.buffer r.pendingPinnedOffset tensorOffset
      r.pendingPinnedOutputs stands.placed.direct (Nat.le_trans stands.placed.old later) targets none
    have front : (sliceJob (tensor.buffer.advance tensorOffset) (idx, output) ::
          r.waiting tensor).Perm
        (sliceJobs tensor.buffer r.pendingPinnedOffset r.pendingPinnedOutputs ++
          (sliceJob (tensor.buffer.advance tensorOffset) (idx, output) ::
            r.deferredPinned.flatMap deferredJobs)) := List.perm_middle.symm
    refine (Sys.Serve.shuffle s front).serves.trans ?_
    have shape : ((r.withSys s).addPendingPinned idx output tensorOffset).waiting tensor =
        sliceJobs tensor.buffer tensorOffset r.pendingPinnedOutputs ++
          (sliceJob (tensor.buffer.advance tensorOffset) (idx, output) ::
            r.deferredPinned.flatMap deferredJobs) := by
      simp [waiting, addPendingPinned, withSys, empty, sliceJobs_append, sliceJobs, none]
    rw [shape]
    exact (Sys.Serve.reroute s s.tick _ moved).serves
  · refine (Sys.Serve.shuffle s ?_).serves
    have ends : r.pendingPinnedOffset + sliceBytes r.pendingPinnedOutputs = tensorOffset := by
      rw [lined (Nat.pos_of_ne_zero empty), sized, Nat.add_comm]
    have shape : ((r.withSys s).addPendingPinned idx output tensorOffset).waiting tensor =
        sliceJobs tensor.buffer r.pendingPinnedOffset r.pendingPinnedOutputs ++
          (sliceJob (tensor.buffer.advance tensorOffset) (idx, output) ::
            r.deferredPinned.flatMap deferredJobs) := by
      simp [waiting, addPendingPinned, withSys, empty, sliceJobs_append, sliceJobs, ends]
    rw [shape]
    exact List.perm_middle.symm

theorem addPendingPinned_tidy {r : Responder} (tidy : r.Tidy) (s : Sys) (idx : Nat)
    (output : OutputData) (direct : ¬ IsStaging output.buffer.block) (tensorOffset : Nat) :
    ((r.withSys s).addPendingPinned idx output tensorOffset).Tidy := by
  refine ⟨?_, ?_, tidy.drains, tidy.owed⟩
  · simp [addPendingPinned, withSys, tidy.sized]
  · intro slice member
    rcases List.mem_append.mp member with before | new
    · exact tidy.pending slice before
    · rw [List.mem_singleton] at new
      exact new ▸ direct

theorem setFixedSizeBuffer_moves {r : Responder} (stands : r.Stands tensor) {idx : Nat}
    (live : r.isLive idx = true) (outputName : String) {tensorByteSize tensorOffset : Nat}
    (lined : r.Lined tensorOffset)
    (offered : offers idx (tensor.buffer.advance tensorOffset) tensorByteSize) (state : Bool) :
    Moves offers tensor r (orSync
      (setFixedSizeBuffer env cfg r idx outputName tensorByteSize tensorOffset tensor state)) := by
  simp only [setFixedSizeBuffer]
  rcases obtainBuffer_cases env r idx tensorByteSize state with
    ⟨error, failed⟩ | ⟨buffer, memory, place, obtained⟩
  · simp only [failed, orSync_false]
    have counted := Moves.count offers tensor stands.tidy (r.tick + 1)
    exact counted.trans (Moves.answers counted.tidy (respondAndSetNullIfError_answers _ idx _))
  · obtain ⟨response, present⟩ := isLive_iff.mp live
    have direct := given_direct place
    have given (output : OutputData) (same : output.buffer = buffer)
        (size : output.bufferByteSize = tensorByteSize) : Sys.Serves offers
        (r.toSys, r.waiting tensor)
        ({ Sys.note { r.toSys with tick := r.tick + 1 } (.given idx buffer tensorByteSize) with
            nextBlock := r.nextBlock + 1 },
          sliceJob (tensor.buffer.advance tensorOffset) (idx, output) :: r.waiting tensor) := by
      subst same size
      exact (Sys.Serve.count r.toSys _ (r.tick + 1) (Nat.le_refl r.nextBlock)).serves.tail
        (Sys.Serve.give { r.toSys with tick := r.tick + 1 } _ idx response present
          (sliceJob (tensor.buffer.advance tensorOffset) (idx, output)) rfl place
          stands.placed.direct stands.placed.old offered)
    have device : Sys.device { Sys.note { r.toSys with tick := r.tick + 1 }
        (.given idx buffer tensorByteSize) with nextBlock := r.nextBlock + 1 } = r.device :=
      device_note r.toSys rfl
    have later : r.nextBlock ≤ Sys.nextBlock { Sys.note { r.toSys with tick := r.tick + 1 }
        (.given idx buffer tensorByteSize) with nextBlock := r.nextBlock + 1 } := Nat.le_succ _
    simp only [obtained]
    generalize Sys.mk _ _ _ _ = s at given device later ⊢
    split
    -- the slice waits to be staged
    · rw [orSync_false]
      refine ⟨(given _ rfl rfl).trans (addPendingPinned_serves offers stands later idx _ lined),
        addPendingPinned_tidy stands.tidy s idx _ direct tensorOffset, ?_, fun none => ⟨none, ?_⟩⟩
      · rw [toSys_addPendingPinned, toSys_withSys, device]
      · rw [toSys_addPendingPinned, toSys_withSys, device]
    -- the slice is copied now, and its response answered if that fails
    · have outcome := copyBuffer_outcome env s outputName tensor.memoryType tensor.memoryTypeId
        memory.memoryType memory.memoryTypeId tensorByteSize (tensor.buffer.advance tensorOffset)
        buffer cfg.copyOnStream
      generalize copyBuffer env s _ _ _ _ _ _ _ _ _ = copied at outcome ⊢
      have answers := respondAndSetNullIfError_answers copied.sys idx copied.error
      have streams := outcome.streams answers
      have attempted : Sys.Serves offers
          (s, sliceJob (tensor.buffer.advance tensorOffset) (idx, {
            name := outputName
            buffer
            bufferByteSize := tensorByteSize
            memoryType := memory.memoryType
            memoryTypeId := memory.memoryTypeId }) :: r.waiting tensor)
          (respondAndSetNullIfError copied.sys idx copied.error, r.waiting tensor) := by
        refine (Sys.Serve.attempt s _ _ _ copied outcome answers ?_
          (ready_untracked stands.placed.direct)
          (fun staging => absurd staging stands.placed.direct)).serves
        intro failed other member
        simp only [sliceJob, List.mem_singleton] at member
        subst member
        exact respondAndSetNullIfError_gone copied.sys other failed
      refine ⟨(given _ rfl rfl).trans attempted, ⟨stands.tidy.sized, stands.tidy.pending,
        stands.tidy.drains, fun some => ?_⟩, tracks_orSync ⟨?_, ?_⟩ rfl⟩
      · simp [orSync, withSys, stands.tidy.owed some]
      · rw [toSys_withSys, streams.recorded, device]
      · intro none
        rw [toSys_withSys, streams.quiet none, device]

/-! One response. -/

theorem respondToCall_moves {r : Responder} (stands : r.Stands tensor) (idx : Nat) (api : Call) :
    Moves offers tensor r (respondToCall env r idx api) := by
  have counted := Moves.count offers tensor stands.tidy (r.tick + 1)
  exact counted.trans (Moves.answers counted.tidy (respondAndSetNullIfError_answers _ idx _))

theorem respondToCall_lined {r : Responder} {tensorOffset : Nat} (lined : r.Lined tensorOffset)
    (idx : Nat) (api : Call) : (respondToCall env r idx api).Lined tensorOffset := lined

theorem setOutput_moves {r : Responder} (stands : r.Stands tensor) (idx : Nat)
    (outputName : String) {tensorByteSize tensorOffset : Nat} (lined : r.Lined tensorOffset)
    (offered : offers idx (tensor.buffer.advance tensorOffset) tensorByteSize) :
    Moves offers tensor r
      (setOutput env cfg r idx outputName tensorByteSize tensorOffset tensor) := by
  have called := respondToCall_moves env offers stands idx .responseOutput
  simp only [setOutput]
  split
  next live =>
    exact called.trans (setFixedSizeBuffer_moves env cfg offers (called.stands stands) live outputName
      (respondToCall_lined env lined idx _) offered false)
  next => exact called

theorem findOutput_moves {r : Responder} (stands : r.Stands tensor) (idx : Nat)
    (outputName : String) {tensorByteSize tensorOffset : Nat} (lined : r.Lined tensorOffset)
    (offered : offers idx (tensor.buffer.advance tensorOffset) tensorByteSize)
    (names : List String) :
    Moves offers tensor r
      (findOutput env cfg r idx outputName tensorByteSize tensorOffset tensor names) := by
  induction names generalizing r with
  | nil => exact Moves.refl stands.tidy
  | cons name rest ih =>
      have called := respondToCall_moves env offers stands idx .requestOutputName
      have next := called.stands stands
      have still := respondToCall_lined env lined idx .requestOutputName
      simp only [findOutput]
      split
      · exact called.trans (setOutput_moves env cfg offers next idx outputName still offered)
      · exact called.trans (ih next still)

theorem respondOutput_moves {r : Responder} (stands : r.Stands tensor) (idx : Nat)
    (outputName : String) {tensorByteSize tensorOffset : Nat} (lined : r.Lined tensorOffset)
    (offered : offers idx (tensor.buffer.advance tensorOffset) tensorByteSize) :
    Moves offers tensor r
      (respondOutput env cfg r idx outputName tensorByteSize tensorOffset tensor) := by
  have called := respondToCall_moves env offers stands idx .requestOutputCount
  simp only [respondOutput]
  split
  · split
    · exact called.trans (findOutput_moves env cfg offers (called.stands stands) idx outputName
        (respondToCall_lined env lined idx _) offered _)
    · exact called
  · exact Moves.refl stands.tidy

theorem respondState_moves {r : Responder} (stands : r.Stands tensor) (idx : Nat)
    (outputStateName : String) {tensorByteSize tensorOffset : Nat} (lined : r.Lined tensorOffset)
    (offered : offers idx (tensor.buffer.advance tensorOffset) tensorByteSize) :
    Moves offers tensor r
      (respondState env cfg r idx outputStateName tensorByteSize tensorOffset tensor).2 := by
  have called := respondToCall_moves env offers stands idx .stateNew
  simp only [respondState]
  split
  · split
    next live =>
      exact called.trans (setFixedSizeBuffer_moves env cfg offers (called.stands stands) live
        outputStateName (respondToCall_lined env lined idx _) offered true)
    next => exact called
  · exact Moves.refl stands.tidy

theorem enterResponse_moves {r : Responder} (stands : r.Stands tensor) (entry idx : Nat)
    (kind outputName : String) (tensorOffset : Nat) (batchnBatchSize batchSizeOffset : Int) :
    let r' := enterResponse env cfg r entry idx kind outputName tensor tensorOffset batchnBatchSize
      batchSizeOffset
    Moves offers tensor r r' ∧ r'.Lined tensorOffset := by
  obtain ⟨moves, lined⟩ := flushBefore_moves env cfg offers stands tensorOffset
  simp only [enterResponse]
  generalize flushBefore env cfg r tensor tensorOffset = flushed at moves lined ⊢
  split
  · rw [checkSplit]
    split
    · exact ⟨moves.trans (Moves.answers moves.tidy (respondAndSetNullIfError_answers _ idx _)), lined⟩
    · exact ⟨moves, lined⟩
  · exact ⟨moves, lined⟩

/-! The loops over the responses. -/

/-- Where a response's share begins: behind the shares of all requests before it. -/
def shareStart (share : Nat → Nat) (idx : Nat) : Nat := ((List.range idx).map share).sum

theorem shareStart_succ (share : Nat → Nat) (idx : Nat) :
    shareStart share (idx + 1) = shareStart share idx + share idx := by
  simp [shareStart, List.range_succ]

def SharesOf (tensor : OutputTensor) (share : Nat → Nat) : Offers := fun idx source size =>
  source = tensor.buffer.advance (shareStart share idx) ∧ size = share idx

/-- The first dimension is the only one that a request changes. -/
theorem tensorShare_responseShape (entry idx other : Nat) (datatype : DataType)
    (batchnShape : List Int) :
    tensorShare env cfg entry idx datatype (responseShape env cfg entry other batchnShape) =
      tensorShare env cfg entry idx datatype batchnShape := by
  simp only [tensorShare, responseShape]
  split <;> simp [List.set_set]

theorem processResponses_moves {r : Responder} (stands : r.Stands tensor) (entry : Nat)
    (outputName : String) (datatype : DataType) (batchnBatchSize : Int) {share : Nat → Nat}
    (batchnShape : List Int)
    (shares : ∀ idx, tensorShare env cfg entry idx datatype batchnShape = share idx)
    (batchSizeOffset : Int) (idx count : Nat) :
    Moves (SharesOf tensor share) tensor r (processResponses env cfg entry outputName datatype
      batchnBatchSize tensor batchnShape r batchSizeOffset (shareStart share idx) idx count).2 := by
  induction count generalizing r batchnShape batchSizeOffset idx with
  | zero => exact Moves.refl stands.tidy
  | succ count ih =>
      obtain ⟨entered, lined⟩ := enterResponse_moves env cfg (SharesOf tensor share) stands
        entry idx "output tensor" outputName (shareStart share idx) batchnBatchSize batchSizeOffset
      simp only [processResponses, shares]
      have responded := entered.trans (respondOutput_moves env cfg _ (entered.stands stands) idx
        outputName lined ⟨rfl, rfl⟩)
      rw [← shareStart_succ]
      exact responded.trans (ih (responded.stands stands) _
        (fun other => (tensorShare_responseShape env cfg entry other idx datatype batchnShape).trans
          (shares other)) _ _)

theorem processStates_moves {r : Responder} (stands : r.Stands tensor) (entry : Nat)
    (outputStateName : String) (datatype : DataType) (batchnBatchSize : Int) (states : List Nat)
    {share : Nat → Nat} (batchnShape : List Int)
    (shares : ∀ idx, tensorShare env cfg entry idx datatype batchnShape = share idx)
    (batchSizeOffset : Int) (idx count : Nat) :
    Moves (SharesOf tensor share) tensor r (processStates env cfg entry outputStateName datatype
      batchnBatchSize tensor states batchnShape r batchSizeOffset (shareStart share idx) idx
      count).2.2 := by
  induction count generalizing r states batchnShape batchSizeOffset idx with
  | zero => exact Moves.refl stands.tidy
  | succ count ih =>
      obtain ⟨entered, lined⟩ := enterResponse_moves env cfg (SharesOf tensor share) stands
        entry idx "output state tensor" outputStateName (shareStart share idx) batchnBatchSize
        batchSizeOffset
      simp only [processStates, shares]
      have responded := entered.trans (respondState_moves env cfg _ (entered.stands stands) idx
        outputStateName lined ⟨rfl, rfl⟩)
      rw [← shareStart_succ]
      exact responded.trans (ih (responded.stands stands) _ _
        (fun other => (tensorShare_responseShape env cfg entry other idx datatype batchnShape).trans
          (shares other)) _ _)

theorem scatterResponses_moves {r : Responder} (stands : r.Stands tensor) (entry : Nat)
    (batchOutput : BatchOutput) (idx count : Nat) :
    let share := fun idx => batchOutputShare env cfg entry idx batchOutput
    Moves (SharesOf tensor share) tensor r (scatterResponses env cfg entry batchOutput tensor r
      (shareStart share idx) idx count) := by
  intro share
  induction count generalizing r idx with
  | zero => exact Moves.refl stands.tidy
  | succ count ih =>
      obtain ⟨flushed, lined⟩ := flushBefore_moves env cfg (SharesOf tensor share) stands
        (shareStart share idx)
      have responded := flushed.trans (respondOutput_moves env cfg _ (flushed.stands stands) idx
        (batchOutput.targetNames.headD "") lined ⟨rfl, rfl⟩)
      have rest := ih (responded.stands stands) (idx + 1)
      rw [shareStart_succ] at rest
      exact responded.trans rest

end

/-! Between calls. -/

def owes (r : Responder) : List (Job Block Nat) := r.deferredPinned.flatMap deferredJobs

theorem waiting_of_empty {r : Responder} (pending : r.pendingPinnedOutputs = [])
    (tensor : OutputTensor) : r.waiting tensor = r.owes := by
  rw [waiting, pending]
  rfl

section
variable (cfg : ResponderConfig) (base : List (Copy Block))

/-- The flag and the event cover what the responder put on a stream that held `base`. -/
structure Synced (r : Responder) : Prop where
  settled : r.needSync = false → r.device.queue <:+ base
  recorded : r.needSync = true → cfg.event = true → r.device.recorded = r.device.queue.length

structure Calm (r : Responder) : Prop where
  pending : r.pendingPinnedOutputs = []
  tidy : r.Tidy
  synced : r.Synced cfg base

theorem calm_create (s : Sys) : (create s).Calm cfg s.device.queue :=
  ⟨rfl, ⟨rfl, by simp [create], by simp [create], fun some => absurd rfl some⟩,
    fun _ => List.suffix_refl _, fun sync => absurd sync Bool.false_ne_true⟩

theorem recordEvent_synced {r : Responder} (settled : r.needSync = false → r.device.queue <:+ base) :
    (r.recordEvent cfg).Synced cfg base := by
  by_cases records : r.needSync && cfg.event
  · rw [recordEvent, if_pos records]
    constructor
    · intro none
      simp only [toSys_withSys, device_issue]
      exact settled none
    · intro _ _
      simp only [toSys_withSys, device_issue]
      rfl
  · rw [recordEvent, if_neg records]
    refine ⟨settled, ?_⟩
    intro sync event
    simp [sync, event] at records

theorem recordEvent_fields (r : Responder) :
    r.recordEvent cfg = r.withSys (r.recordEvent cfg).toSys := by
  rw [recordEvent]
  split <;> rfl

theorem recordEvent_serves (offers : Offers) (r : Responder) (plan : List (Job Block Nat)) :
    Sys.Serves offers (r.toSys, plan) ((r.recordEvent cfg).toSys, plan) := by
  rw [recordEvent]
  split
  · exact (Sys.Serve.mark r.toSys plan .record rfl).serves
  · exact Sys.Serves.refl _ _

variable {cfg base}

theorem Synced.tracked {r r' : Responder} (synced : r.Synced cfg base) (tracks : r.Tracks r')
    (none : r'.needSync = false) : r'.device.queue <:+ base := by
  obtain ⟨before, same⟩ := tracks.2 none
  exact same ▸ synced.settled before

end

section
variable (env : Env) (cfg : ResponderConfig) (offers : Offers) {base : List (Copy Block)}

theorem Calm.stands {r : Responder} (calm : r.Calm cfg base) {tensor : OutputTensor}
    (placed : tensor.Placed r.toSys) (sound : r.toSys.Sound r.owes) : r.Stands tensor :=
  ⟨calm.tidy, placed, by rw [waiting_of_empty calm.pending]; exact sound⟩

theorem finishTensor_calm {r r' : Responder} {tensor : OutputTensor} (calm : r.Calm cfg base)
    (stands : r.Stands tensor) (moves : Moves offers tensor r r') :
    let r'' := finishTensor env cfg r' tensor
    Sys.Serves offers (r.toSys, r.owes) (r''.toSys, r''.owes) ∧ r''.Calm cfg base := by
  obtain ⟨flushed, none⟩ := flushPendingPinned_moves env cfg offers (moves.stands stands)
  simp only [finishTensor]
  generalize orSync (flushPendingPinned env cfg r' tensor) = after at flushed none ⊢
  have whole := moves.trans flushed
  have serves := whole.serves
  rw [waiting_of_empty calm.pending, waiting_of_empty none] at serves
  have recorded := recordEvent_serves cfg offers after after.owes
  have synced := recordEvent_synced cfg base fun none => calm.synced.tracked whole.tracks none
  have fields := recordEvent_fields cfg after
  generalize after.recordEvent cfg = r'' at recorded synced fields ⊢
  have same : r''.owes = after.owes := by rw [fields]; rfl
  rw [same]
  refine ⟨serves.trans recorded, ?_, ?_, synced⟩
  · rw [fields]
    exact none
  · rw [fields]
    exact whole.tidy.withSys _

/-! `Finalize`. -/

theorem copyOutputs_filled (source : Address) (memoryType : MemoryType) (memoryTypeId : Int)
    (offset : Nat) (cudaUsed : Bool) (s : Sys) (slices : ResponsesList)
    (targets : ∀ slice ∈ slices, ¬ IsStaging slice.2.buffer.block) (filled : Filled s) :
    Filled (copyOutputs env cfg source memoryType memoryTypeId offset cudaUsed s slices).2 := by
  induction slices generalizing offset cudaUsed s with
  | nil => exact filled
  | cons slice rest ih =>
      have outcome := copyBuffer_outcome env s slice.2.name memoryType memoryTypeId
        slice.2.memoryType slice.2.memoryTypeId slice.2.bufferByteSize (source.advance offset)
        slice.2.buffer cfg.copyOnStream
      exact ih _ _ _ (fun other member => targets other (List.mem_cons_of_mem _ member))
        (outcome_filled outcome (respondAndSetNullIfError_answers _ slice.1 _)
          (targets slice List.mem_cons_self) filled)

theorem copyDeferred_serves {r : Responder} (deferred : List DeferredOutputs)
    (drains : ∀ block ∈ deferred, ∀ slice ∈ block.responses, ¬ IsStaging slice.2.buffer.block)
    (filled : Filled r.toSys) :
    let r' := copyDeferred env cfg r deferred
    Sys.Serves offers (r.toSys, deferred.flatMap deferredJobs) (r'.toSys, []) ∧ r.Tracks r' ∧
      r' = { r with toSys := r'.toSys, needSync := r'.needSync } := by
  induction deferred generalizing r with
  | nil => exact ⟨Sys.Serves.refl _ _, Tracks.refl r, rfl⟩
  | cons block rest ih =>
      have direct := drains block List.mem_cons_self
      have others (later : DeferredOutputs) (member : later ∈ rest) :=
        drains later (List.mem_cons_of_mem _ member)
      obtain ⟨serves, streams, _⟩ := copyOutputs_serves env cfg offers block.pinnedMemory .cpuPinned
        0 0 false r.toSys block.responses (rest.flatMap deferredJobs) direct (by
          intro staging job member same
          obtain ⟨later, inside, drain⟩ := List.mem_flatMap.mp member
          obtain ⟨before, slice, after, split, rfl⟩ := mem_sliceJobs.mp drain
          exact others later inside slice (by simp [split]) (same ▸ staging)) (by
          intro staging copy queued same
          exact filled copy queued (same ▸ staging))
      have still := copyOutputs_filled env cfg block.pinnedMemory .cpuPinned 0 0 false r.toSys
        block.responses direct filled
      simp only [copyDeferred]
      generalize copyOutputs env cfg block.pinnedMemory .cpuPinned 0 0 false r.toSys block.responses =
        copied at serves streams still ⊢
      obtain ⟨later, tracks, fields⟩ := ih (r := orSync (copied.1, r.withSys copied.2)) others still
      refine ⟨serves.trans later, Tracks.trans (tracks_orSync streams rfl) tracks, ?_⟩
      rw [fields]
      rfl

theorem await_settled {r : Responder} (synced : r.Synced cfg base) (sync : r.needSync = true) :
    (r.toSys.issue (if cfg.event then .awaitEvent else .awaitStream)).device.queue = [] := by
  rw [device_issue]
  cases event : cfg.event with
  | false => rfl
  | true => simp only [if_true, Device.step, synced.recorded sync event, List.drop_length]

theorem await_serves (s : Sys) (plan : List (Job Block Nat)) :
    Sys.Serves offers (s, plan)
      (s.issue (if cfg.event then .awaitEvent else .awaitStream), plan) := by
  refine (Sys.Serve.mark s plan _ ?_).serves
  split <;> rfl

theorem finalize_calm {r : Responder} (calm : r.Calm cfg base) :
    let r' := (finalize env cfg r).2
    Sys.Serves offers (r.toSys, r.owes) (r'.toSys, []) ∧ r'.Calm cfg base ∧
      r'.deferredPinned = [] ∧ (finalize env cfg r).1 = r'.needSync := by
  by_cases some : r.deferredPinned = []
  · have waited : waitDeferred cfg r = r := by simp [waitDeferred, some]
    have empty : r.owes = [] := by simp [owes, some]
    simp only [finalize, waited, some, copyDeferred, List.isEmpty_nil, Bool.not_true,
      Bool.false_eq_true, if_false]
    rw [empty]
    exact ⟨Sys.Serves.refl _ _, ⟨calm.pending, ⟨calm.tidy.sized, calm.tidy.pending, by simp,
      fun none => absurd rfl none⟩, calm.synced.settled, calm.synced.recorded⟩, trivial, trivial⟩
  · have sync := calm.tidy.owed some
    have waited : waitDeferred cfg r = { r with
        toSys := r.toSys.issue (if cfg.event then .awaitEvent else .awaitStream)
        needSync := false } := by
      simp [waitDeferred, some, sync]
    -- the wait leaves nothing on the stream that could still fill a block
    have settled := await_settled cfg calm.synced sync
    have awaited := await_serves cfg offers r.toSys r.owes
    have left : (!r.deferredPinned.isEmpty) = true := by simp [some]
    simp only [finalize, waited]
    generalize r.toSys.issue (if cfg.event then .awaitEvent else .awaitStream) = s
      at settled awaited ⊢
    obtain ⟨serves, tracks, fields⟩ := copyDeferred_serves env cfg offers
      (r := { r with toSys := s, needSync := false }) r.deferredPinned calm.tidy.drains (by
        intro copy queued
        rw [settled] at queued
        simp at queued)
    generalize copyDeferred env cfg { r with toSys := s, needSync := false } r.deferredPinned = after
      at serves tracks fields ⊢
    have blocks : after.deferredPinned = r.deferredPinned := by rw [fields]
    have recorded := recordEvent_serves cfg offers after []
    have synced := recordEvent_synced cfg base (r := after) fun none => by
      rw [(tracks.2 none).2, settled]
      exact List.nil_suffix
    have same := recordEvent_fields cfg after
    simp only [blocks, left, if_true]
    generalize after.recordEvent cfg = r' at recorded synced same ⊢
    have sized : r'.pendingPinnedByteSize = r.pendingPinnedByteSize := by
      rw [same, fields]
      rfl
    have outputs : r'.pendingPinnedOutputs = r.pendingPinnedOutputs := by
      rw [same, fields]
      rfl
    refine ⟨(awaited.trans serves).trans recorded, ⟨outputs.trans calm.pending, ⟨?_, ?_, by simp,
      fun none => absurd rfl none⟩, synced.settled, synced.recorded⟩, trivial, trivial⟩
    · simp only [sized, outputs]
      exact calm.tidy.sized
    · simp [outputs, calm.pending]

end

end Responder

/-! Calls. -/

def ResponderCall.tensor? : ResponderCall → Option OutputTensor
  | .processTensor _ _ _ tensor | .processStateTensor _ _ _ tensor | .processBatchOutput _ tensor =>
      some tensor
  | .finalize => none

/-- The bytes of each response's share in a call that starts after `entry` calls of the server. -/
def ResponderCall.share (env : Env) (cfg : ResponderConfig) (entry : Nat) :
    ResponderCall → Nat → Nat
  | .processTensor _ datatype batchnShape _ | .processStateTensor _ datatype batchnShape _ =>
      fun idx => Responder.tensorShare env cfg entry idx datatype batchnShape
  | .processBatchOutput batchOutput _ =>
      fun idx => Responder.batchOutputShare env cfg entry idx batchOutput
  | .finalize => fun _ => 0

def ResponderCall.offers (env : Env) (cfg : ResponderConfig) (entry : Nat) (call : ResponderCall) :
    Offers := fun idx source size =>
  ∃ tensor, call.tensor? = some tensor ∧
    Responder.SharesOf tensor (call.share env cfg entry) idx source size

/-- What is done with a responder: calls, and synchronizations by its caller. -/
inductive ResponderStep
  | call (call : ResponderCall)
  | synchronize (event : Bool)

def ResponderStep.tensor? : ResponderStep → Option OutputTensor
  | .call made => made.tensor?
  | .synchronize _ => none

def ResponderStep.run (env : Env) (cfg : ResponderConfig) (r : Responder) :
    ResponderStep → Responder
  | .call made => made.run env cfg r
  | .synchronize event => r.withSys (r.toSys.issue (if event then .awaitEvent else .awaitStream))

def ResponderStep.offers (env : Env) (cfg : ResponderConfig) (entry : Nat) : ResponderStep → Offers
  | .call made => made.offers env cfg entry
  | .synchronize _ => fun _ _ _ => False

def Responder.runSteps (env : Env) (cfg : ResponderConfig) (r : Responder)
    (steps : List ResponderStep) : Responder :=
  steps.foldl (ResponderStep.run env cfg) r

namespace Responder

section
variable (env : Env) (cfg : ResponderConfig) {base : List (Copy Block)}

theorem call_calm {r : Responder} (calm : r.Calm cfg base) (sound : r.toSys.Sound r.owes)
    (call : ResponderCall)
    (placed : ∀ tensor, call.tensor? = some tensor → tensor.Placed r.toSys) :
    let r' := call.run env cfg r
    Sys.Serves (call.offers env cfg r.tick) (r.toSys, r.owes) (r'.toSys, r'.owes) ∧
      r'.Calm cfg base := by
  cases call with
  | processTensor outputName datatype batchnShape tensor =>
      have stands := calm.stands cfg (placed tensor rfl) sound
      have moves := processResponses_moves env cfg stands r.tick outputName datatype
        (batchnShape.headD 0) batchnShape (fun idx => rfl) 0 0 r.responses.length
      obtain ⟨serves, still⟩ := finishTensor_calm env cfg _ calm stands moves
      exact ⟨serves.mono fun idx source size offered => ⟨tensor, rfl, offered⟩, still⟩
  | processStateTensor outputStateName datatype batchnShape tensor =>
      have stands := calm.stands cfg (placed tensor rfl) sound
      have moves := processStates_moves env cfg stands r.tick outputStateName datatype
        (batchnShape.headD 0) [] batchnShape (fun idx => rfl) 0 0 r.responses.length
      obtain ⟨serves, still⟩ := finishTensor_calm env cfg _ calm stands moves
      exact ⟨serves.mono fun idx source size offered => ⟨tensor, rfl, offered⟩, still⟩
  | processBatchOutput batchOutput tensor =>
      have stands := calm.stands cfg (placed tensor rfl) sound
      have moves := scatterResponses_moves env cfg stands r.tick batchOutput 0 r.responses.length
      obtain ⟨serves, still⟩ := finishTensor_calm env cfg _ calm stands moves
      exact ⟨serves.mono fun idx source size offered => ⟨tensor, rfl, offered⟩, still⟩
  | finalize =>
      obtain ⟨serves, still, none, _⟩ :=
        finalize_calm env cfg (ResponderCall.finalize.offers env cfg r.tick) calm
      refine ⟨?_, still⟩
      have empty : (ResponderCall.finalize.run env cfg r).owes = [] := by
        rw [ResponderCall.run, owes, none]
        rfl
      rw [empty]
      exact serves

theorem synchronize_calm {r : Responder} (calm : r.Calm cfg base) (event : Bool) :
    (ResponderStep.run env cfg r (.synchronize event)).Calm cfg base := by
  refine ⟨calm.pending, calm.tidy.withSys _, ?_, ?_⟩
  · intro none
    have before := calm.synced.settled none
    simp only [ResponderStep.run, toSys_withSys, device_issue]
    cases event with
    | false => exact List.nil_suffix
    | true => exact (List.drop_suffix _ _).trans before
  · intro sync asked
    have recorded := calm.synced.recorded sync asked
    simp only [ResponderStep.run, toSys_withSys, device_issue]
    cases event with
    | false => rfl
    | true => simp [Device.step, recorded]

theorem step_calm {r : Responder} (calm : r.Calm cfg base) (sound : r.toSys.Sound r.owes)
    (step : ResponderStep)
    (placed : ∀ tensor, step.tensor? = some tensor → tensor.Placed r.toSys) :
    let r' := step.run env cfg r
    Sys.Serves (step.offers env cfg r.tick) (r.toSys, r.owes) (r'.toSys, r'.owes) ∧
      r'.Calm cfg base := by
  cases step with
  | call call => exact call_calm env cfg calm sound call placed
  | synchronize event =>
      refine ⟨(Sys.Serve.mark r.toSys r.owes _ ?_).serves, synchronize_calm env cfg calm event⟩
      split <;> rfl

theorem runSteps_calm {r : Responder} (calm : r.Calm cfg base) (sound : r.toSys.Sound r.owes)
    (steps : List ResponderStep)
    (placed : ∀ step ∈ steps, ∀ tensor, step.tensor? = some tensor → tensor.Placed r.toSys) :
    let r' := r.runSteps env cfg steps
    Sys.Serves (fun _ _ _ => True) (r.toSys, r.owes) (r'.toSys, r'.owes) ∧ r'.Calm cfg base := by
  induction steps generalizing r with
  | nil => exact ⟨Sys.Serves.refl _ _, calm⟩
  | cons step rest ih =>
      obtain ⟨serves, next⟩ := step_calm env cfg calm sound step (placed step List.mem_cons_self)
      obtain ⟨later, last⟩ := ih next (carries_sound (serves_carries serves) sound)
        (fun other member tensor same => (placed other (List.mem_cons_of_mem _ member) tensor same).mono
          (serves_reaches serves))
      exact ⟨(serves.mono fun _ _ _ _ => trivial).trans later, last⟩

end

end Responder

end TritonBackend
