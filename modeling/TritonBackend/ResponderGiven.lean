import TritonBackend.CollectorBlame
import TritonBackend.Scattering
import Mathlib.Algebra.Order.BigOperators.Group.List
import Mathlib.Data.List.Infix

/-!
What a responder hands out when nothing fails: every response that asked for the output is
given a buffer of the size of its share, and none is failed.
-/

namespace TritonBackend

open CopyStream

def Sys.Copied (s : Sys) : Prop := ∀ transfer, .failedCopy transfer ∉ s.log

theorem Sys.Reaches.copied {s s' : Sys} (reaches : s.Reaches s') (copied : s'.Copied) : s.Copied :=
  fun transfer failed => copied transfer ((reaches_log reaches).subset failed)

/-- Unless a copy fails, the responses are what they were. -/
structure Sys.Keeps (s s' : Sys) : Prop where
  reaches : s.Reaches s'
  kept : s'.Copied → s'.responses = s.responses

theorem Sys.Keeps.same {s s' : Sys} (reaches : s.Reaches s') (same : s'.responses = s.responses) :
    s.Keeps s' := ⟨reaches, fun _ => same⟩

theorem Sys.Keeps.refl (s : Sys) : s.Keeps s := Sys.Keeps.same (Sys.Reaches.refl s) rfl

theorem Sys.Keeps.trans {s s' s'' : Sys} (first : s.Keeps s') (second : s'.Keeps s'') :
    s.Keeps s'' :=
  ⟨first.reaches.trans second.reaches, fun copied =>
    (second.kept copied).trans (first.kept (second.reaches.copied copied))⟩

theorem Sys.Keeps.issue (s : Sys) (action : Action Block UInt8) : s.Keeps (s.issue action) :=
  Sys.Keeps.same (Sys.Reaches.issue s action) rfl

theorem Sys.Keeps.count (s : Sys) : s.Keeps { s with tick := s.tick + 1 } :=
  Sys.Keeps.same (Sys.Reaches.count s _) rfl

theorem CopyOutcome.keeps {s s' : Sys} {transfer : Copy Block} {result : CopyResult}
    (outcome : CopyOutcome s transfer result) (answers : result.sys.Answers s')
    (success : result.error = none → s' = result.sys) : s.Keeps s' := by
  refine ⟨outcome.reaches.trans answers.reaches, fun copied => ?_⟩
  cases failure : result.error with
  | none =>
      rw [success failure]
      cases outcome <;> rfl
  | some error =>
      have noted := outcome_noted outcome (by simp [failure])
      exact absurd noted (answers.reaches.copied copied transfer)

namespace Responder

section
variable (env : Env) (cfg : ResponderConfig)

theorem copyOutputs_keeps (source : Address) (memoryType : MemoryType) (memoryTypeId : Int)
    (offset : Nat) (cudaUsed : Bool) (s : Sys) (outputs : ResponsesList) :
    s.Keeps (copyOutputs env cfg source memoryType memoryTypeId offset cudaUsed s outputs).2 := by
  refine copyOutputs_relates Sys.Keeps.refl (fun first second => first.trans second) source
    memoryType memoryTypeId offset cudaUsed s outputs ?_
  intro slice _ _ _ s copied outcome
  refine outcome.keeps (respondAndSetNullIfError_answers _ _ _) fun success => ?_
  rw [success]
  rfl

theorem stagePinned_keeps (r : Responder) (pinnedMemory : Address) (tensor : OutputTensor) :
    r.toSys.Keeps (stagePinned env cfg r pinnedMemory tensor).2.toSys := by
  refine stagePinned_relates (fun first second => first.trans second) r pinnedMemory tensor ?_
    fun s => copyOutputs_keeps env cfg pinnedMemory .cpuPinned 0 0 false s r.pendingPinnedOutputs
  intro copied outcome
  refine ⟨fun _ => outcome.keeps (Sys.Answers.refl copied.sys) fun _ => rfl, fun error failed => ?_⟩
  refine outcome.keeps (failOutputs_answers _ _ _) fun success => ?_
  rw [failed] at success
  cases success

theorem flushPendingPinned_keeps (r : Responder) (tensor : OutputTensor) :
    r.toSys.Keeps (flushPendingPinned env cfg r tensor).2.toSys := by
  have allocates : r.toSys.Keeps (allocatePinned env r).2 := by
    refine Sys.Keeps.same (allocatePinned_reaches env r) ?_
    rcases allocatePinned_cases env r with ⟨tick, allocated⟩ | ⟨tick, allocated⟩
    · rw [allocated]
    · rw [allocated]
  simp only [flushPendingPinned]
  generalize allocatePinned env r = allocated at allocates ⊢
  refine allocates.trans ?_
  cases allocated.1 with
  | none => exact copyOutputs_keeps env cfg _ _ _ _ _ _ _
  | some pinnedMemory => exact stagePinned_keeps env cfg (r.withSys allocated.2) pinnedMemory tensor

theorem flushBefore_keeps (r : Responder) (tensor : OutputTensor) (tensorOffset : Nat) :
    r.toSys.Keeps (flushBefore env cfg r tensor tensorOffset).toSys := by
  rw [flushBefore]
  split
  · exact flushPendingPinned_keeps env cfg r tensor
  · exact Sys.Keeps.refl _

theorem recordEvent_keeps (r : Responder) : r.toSys.Keeps (r.recordEvent cfg).toSys := by
  rw [recordEvent]
  split
  · exact Sys.Keeps.issue _ _
  · exact Sys.Keeps.refl _

theorem finishTensor_keeps (r : Responder) (tensor : OutputTensor) :
    r.toSys.Keeps (finishTensor env cfg r tensor).toSys :=
  (flushPendingPinned_keeps env cfg r tensor).trans
    (recordEvent_keeps cfg (orSync (flushPendingPinned env cfg r tensor)))

theorem copyDeferred_keeps (r : Responder) (blocks : List DeferredOutputs) :
    r.toSys.Keeps (copyDeferred env cfg r blocks).toSys :=
  copyDeferred_relates Sys.Keeps.refl (fun first second => first.trans second) r blocks
    fun block _ s => copyOutputs_keeps env cfg block.pinnedMemory .cpuPinned 0 0 false s
      block.responses

theorem close_keeps (r : Responder) : r.toSys.Keeps (r.close env cfg) := by
  have waits : r.toSys.Keeps (waitDeferred cfg r).toSys := by
    rw [waitDeferred]
    split
    · exact Sys.Keeps.issue _ _
    · exact Sys.Keeps.refl _
  have copies := waits.trans
    (copyDeferred_keeps env cfg (waitDeferred cfg r) (waitDeferred cfg r).deferredPinned)
  have finishes : r.toSys.Keeps (finalize env cfg r).2.toSys := by
    simp only [finalize]
    split
    · exact copies.trans (recordEvent_keeps cfg _)
    · exact copies
  refine finishes.trans ?_
  simp only [close, synchronize]
  split
  · exact Sys.Keeps.issue _ _
  · exact Sys.Keeps.refl _

end

/-! The buffers. -/

/-- Between the two states the response is given a buffer of so many bytes. -/
def Gives (s s' : Sys) (idx byteSize : Nat) : Prop :=
  ∃ buffer, .given idx buffer byteSize ∈ s'.log.drop s.log.length

theorem gives_mono {first s s' last : Sys} (before : first.Reaches s) (after : s'.Reaches last)
    {idx byteSize : Nat} (gives : Gives s s' idx byteSize) : Gives first last idx byteSize := by
  obtain ⟨buffer, given⟩ := gives
  have longer := (reaches_log before).length_le
  have later := (List.IsPrefix.drop (reaches_log after) s.log.length).subset given
  exact ⟨buffer, (List.drop_sublist_drop_left last.log longer).subset later⟩

theorem keeps_live {r r' : Responder} (keeps : r.toSys.Keeps r'.toSys) (copied : r'.toSys.Copied)
    {idx : Nat} (live : r.isLive idx = true) : r'.isLive idx = true := by
  rw [isLive, keeps.kept copied]
  exact live

section
variable (env : Env) (cfg : ResponderConfig) (succeeds : ∀ tick api, env.outcome tick api = none)
include succeeds

theorem setFixedSizeBuffer_gives (r : Responder) (idx : Nat) (outputName : String)
    (tensorByteSize tensorOffset : Nat) (tensor : OutputTensor) (state : Bool) :
    let r' := (setFixedSizeBuffer env cfg r idx outputName tensorByteSize tensorOffset tensor state).2
    r.toSys.Keeps r'.toSys ∧ Gives r.toSys r'.toSys idx tensorByteSize := by
  have obtains := obtainBuffer_reaches env r idx tensorByteSize state
  simp only [setFixedSizeBuffer]
  rcases obtainBuffer_cases env r idx tensorByteSize state with
    ⟨error, failed⟩ | ⟨buffer, memory, _, obtained⟩
  · simp only [obtainBuffer, call_eq, succeeds, Prod.mk.injEq, reduceCtorEq, false_and] at failed
  · simp only [obtained] at obtains ⊢
    have given : Gives r.toSys { Sys.note { r.toSys with tick := r.tick + 1 }
        (.given idx buffer tensorByteSize) with nextBlock := r.nextBlock + 1 } idx tensorByteSize :=
      ⟨buffer, by simp⟩
    have keeps := Sys.Keeps.same obtains rfl
    generalize Sys.mk _ _ _ _ = s at given keeps ⊢
    split
    · exact ⟨keeps, given⟩
    · have outcome := copyBuffer_outcome env s outputName tensor.memoryType tensor.memoryTypeId
        memory.memoryType memory.memoryTypeId tensorByteSize (tensor.buffer.advance tensorOffset)
        buffer cfg.copyOnStream
      generalize copyBuffer env s _ _ _ _ _ _ _ _ _ = copied at outcome ⊢
      have copies : s.Keeps (respondAndSetNullIfError copied.sys idx copied.error) := by
        refine outcome.keeps (respondAndSetNullIfError_answers _ _ _) fun success => ?_
        rw [success]
        rfl
      exact ⟨keeps.trans copies, gives_mono (Sys.Reaches.refl _) copies.reaches given⟩

theorem respondToCall_succeeds (r : Responder) (idx : Nat) (api : Call) :
    respondToCall env r idx api = r.withSys { r.toSys with tick := r.tick + 1 } := by
  simp [respondToCall, call_eq, succeeds, respondAndSetNullIfError]

theorem setOutput_gives {r : Responder} {idx : Nat} (live : r.isLive idx = true)
    (outputName : String) (tensorByteSize tensorOffset : Nat) (tensor : OutputTensor) :
    let r' := setOutput env cfg r idx outputName tensorByteSize tensorOffset tensor
    r.toSys.Keeps r'.toSys ∧ Gives r.toSys r'.toSys idx tensorByteSize := by
  have counted := Sys.Keeps.count r.toSys
  have still : (r.withSys { r.toSys with tick := r.tick + 1 }).isLive idx = true := live
  simp only [setOutput, respondToCall_succeeds env succeeds, still, if_true]
  obtain ⟨keeps, gives⟩ := setFixedSizeBuffer_gives env cfg succeeds
    (r.withSys { r.toSys with tick := r.tick + 1 }) idx outputName tensorByteSize tensorOffset tensor
    false
  exact ⟨counted.trans keeps, gives_mono counted.reaches (Sys.Reaches.refl _) gives⟩

theorem findOutput_gives {r : Responder} {idx : Nat} (live : r.isLive idx = true)
    (outputName : String) (tensorByteSize tensorOffset : Nat) (tensor : OutputTensor)
    (names : List String) :
    let r' := findOutput env cfg r idx outputName tensorByteSize tensorOffset tensor names
    r.toSys.Keeps r'.toSys ∧ (outputName ∈ names → Gives r.toSys r'.toSys idx tensorByteSize) := by
  induction names generalizing r with
  | nil => exact ⟨Sys.Keeps.refl _, by simp⟩
  | cons name rest ih =>
      have counted := Sys.Keeps.count r.toSys
      have still : (r.withSys { r.toSys with tick := r.tick + 1 }).isLive idx = true := live
      simp only [findOutput, respondToCall_succeeds env succeeds, still, Bool.true_and, beq_iff_eq]
      split
      next asked =>
        obtain ⟨keeps, gives⟩ := setOutput_gives env cfg succeeds still outputName tensorByteSize
          tensorOffset tensor
        exact ⟨counted.trans keeps, fun _ =>
          gives_mono counted.reaches (Sys.Reaches.refl _) gives⟩
      next other =>
        obtain ⟨keeps, gives⟩ := ih still
        refine ⟨counted.trans keeps, fun member => ?_⟩
        have asked := (List.mem_cons.mp member).resolve_left other
        exact gives_mono counted.reaches (Sys.Reaches.refl _) (gives asked)

def outputNames (cfg : ResponderConfig) (idx : Nat) : List String :=
  (cfg.requests[idx]?.map Request.outputs).getD []

theorem respondOutput_gives (r : Responder) (idx : Nat) (outputName : String)
    (tensorByteSize tensorOffset : Nat) (tensor : OutputTensor) :
    let r' := respondOutput env cfg r idx outputName tensorByteSize tensorOffset tensor
    r.toSys.Keeps r'.toSys ∧ (r.isLive idx = true → outputName ∈ outputNames cfg idx →
      Gives r.toSys r'.toSys idx tensorByteSize) := by
  simp only [respondOutput]
  split
  next live =>
    have counted := Sys.Keeps.count r.toSys
    have still : (r.withSys { r.toSys with tick := r.tick + 1 }).isLive idx = true := live
    simp only [respondToCall_succeeds env succeeds, still, if_true]
    obtain ⟨keeps, gives⟩ := findOutput_gives env cfg succeeds still outputName tensorByteSize
      tensorOffset tensor (outputNames cfg idx)
    exact ⟨counted.trans keeps, fun _ asked =>
      gives_mono counted.reaches (Sys.Reaches.refl _) (gives asked)⟩
  next gone => exact ⟨Sys.Keeps.refl _, fun live => absurd live gone⟩

end

/-! The loop over the responses. -/

section
variable (env : Env) (cfg : ResponderConfig)

/-- The model's batch has room for the requests that are left, or its size is not known. -/
def Room (entry : Nat) (batchnBatchSize batchSizeOffset : Int) (idx count : Nat) : Prop :=
  batchnBatchSize = -1 ∨ (batchnBatchSize < 2 ^ 63 ∧ 0 ≤ batchSizeOffset ∧
    (∀ other ∈ List.range' idx count, 0 ≤ batchDim env cfg entry other) ∧
    batchSizeOffset + ((List.range' idx count).map (batchDim env cfg entry)).sum ≤ batchnBatchSize)

variable {env cfg}

theorem Room.next {entry : Nat} {batchnBatchSize batchSizeOffset : Int} {idx count : Nat}
    (batching : cfg.firstDimBatching = true)
    (room : Room env cfg entry batchnBatchSize batchSizeOffset idx (count + 1)) :
    ¬ (batchnBatchSize ≠ -1 ∧
        toInt64 (batchSizeOffset + batchDim env cfg entry idx) > batchnBatchSize) ∧
      Room env cfg entry batchnBatchSize (nextBatchOffset env cfg entry idx batchSizeOffset) (idx + 1)
        count := by
  rcases room with unknown | ⟨small, start, nonneg, fits⟩
  · exact ⟨fun split => split.1 unknown, Or.inl unknown⟩
  · simp only [List.range'_succ, List.map_cons, List.sum_cons, List.forall_mem_cons] at nonneg fits
    obtain ⟨first, others⟩ := nonneg
    have rest : 0 ≤ ((List.range' (idx + 1) count).map (batchDim env cfg entry)).sum := by
      refine List.sum_nonneg ?_
      intro dim member
      obtain ⟨other, inside, rfl⟩ := List.mem_map.mp member
      exact others other inside
    have exact : toInt64 (batchSizeOffset + batchDim env cfg entry idx) =
        batchSizeOffset + batchDim env cfg entry idx := toInt64_of_fits (by omega) (by omega)
    rw [nextBatchOffset, if_pos batching, exact]
    refine ⟨?_, Or.inr ⟨small, ?_, others, ?_⟩⟩ <;> omega

variable (env cfg)

theorem enterResponse_keeps (r : Responder) (entry : Nat) {idx : Nat} (kind outputName : String)
    (tensor : OutputTensor) (tensorOffset : Nat) {batchnBatchSize batchSizeOffset : Int}
    (fits : ¬ (batchnBatchSize ≠ -1 ∧
      toInt64 (batchSizeOffset + batchDim env cfg entry idx) > batchnBatchSize)) :
    r.toSys.Keeps (enterResponse env cfg r entry idx kind outputName tensor tensorOffset
      batchnBatchSize batchSizeOffset).toSys := by
  simp only [enterResponse, checkSplit, if_neg fits, ite_self]
  exact flushBefore_keeps env cfg r tensor tensorOffset

theorem processResponses_gives (succeeds : ∀ tick api, env.outcome tick api = none)
    (batching : cfg.firstDimBatching = true) (entry : Nat) (outputName : String)
    (datatype : DataType) (batchnBatchSize : Int) (tensor : OutputTensor) {share : Nat → Nat}
    (batchnShape : List Int)
    (shares : ∀ idx, tensorShare env cfg entry idx datatype batchnShape = share idx) (r : Responder)
    (batchSizeOffset : Int) (tensorOffset idx count : Nat)
    (room : Room env cfg entry batchnBatchSize batchSizeOffset idx count) :
    let r' := (processResponses env cfg entry outputName datatype batchnBatchSize tensor batchnShape r
      batchSizeOffset tensorOffset idx count).2
    r.toSys.Keeps r'.toSys ∧ (r'.toSys.Copied → ∀ other, idx ≤ other → other < idx + count →
      r.isLive other = true → outputName ∈ outputNames cfg other →
        Gives r.toSys r'.toSys other (share other)) := by
  induction count generalizing batchnShape r batchSizeOffset tensorOffset idx with
  | zero =>
      refine ⟨Sys.Keeps.refl _, fun _ other from_ below => ?_⟩
      omega
  | succ count ih =>
      -- the check passes for this request, and the others have room behind it
      obtain ⟨fits, later⟩ := room.next batching
      have enters := enterResponse_keeps env cfg r entry "output tensor" outputName tensor tensorOffset
        fits
      simp only [processResponses, shares]
      generalize enterResponse env cfg r entry idx "output tensor" outputName tensor tensorOffset
        batchnBatchSize batchSizeOffset = entered at enters ⊢
      obtain ⟨responds, given⟩ := respondOutput_gives env cfg succeeds entered idx outputName (share idx)
        tensorOffset tensor
      generalize respondOutput env cfg entered idx outputName (share idx) tensorOffset tensor =
        responded at responds given ⊢
      obtain ⟨rest, others⟩ := ih (responseShape env cfg entry idx batchnShape)
        (fun other => (tensorShare_responseShape env cfg entry other idx datatype batchnShape).trans
          (shares other)) responded (nextBatchOffset env cfg entry idx batchSizeOffset)
        (tensorOffset + share idx) (idx + 1) later
      have both := enters.trans responds
      refine ⟨both.trans rest, fun copied other lower upper live asked => ?_⟩
      by_cases mine : other = idx
      · subst other
        exact gives_mono enters.reaches rest.reaches
          (given (keeps_live enters ((responds.trans rest).reaches.copied copied) live) asked)
      · exact gives_mono both.reaches (Sys.Reaches.refl _) (others copied other (by omega) (by omega)
          (keeps_live both (rest.reaches.copied copied) live) asked)

theorem processTensor_gives (succeeds : ∀ tick api, env.outcome tick api = none)
    (batching : cfg.firstDimBatching = true) (r : Responder) (outputName : String)
    (datatype : DataType) (batchnShape : List Int) (tensor : OutputTensor)
    (room : Room env cfg r.tick (batchnShape.headD 0) 0 0 r.responses.length) :
    let r' := (processTensor env cfg r outputName datatype batchnShape tensor).2
    r.toSys.Keeps r'.toSys ∧ (r'.toSys.Copied → ∀ idx < r.responses.length, r.isLive idx = true →
      outputName ∈ outputNames cfg idx →
        Gives r.toSys r'.toSys idx (tensorShare env cfg r.tick idx datatype batchnShape)) := by
  obtain ⟨keeps, gives⟩ := processResponses_gives env cfg succeeds batching r.tick outputName datatype
    (batchnShape.headD 0) tensor batchnShape (fun _ => rfl) r 0 0 0 r.responses.length room
  simp only [processTensor]
  generalize processResponses env cfg r.tick outputName datatype (batchnShape.headD 0) tensor
    batchnShape r 0 0 0 r.responses.length = processed at keeps gives ⊢
  have finishes := finishTensor_keeps env cfg processed.2 tensor
  refine ⟨keeps.trans finishes, fun copied idx bound live asked => ?_⟩
  exact gives_mono (Sys.Reaches.refl _) finishes.reaches
    (gives (finishes.reaches.copied copied) idx (Nat.zero_le _) (by omega) live asked)

end

end Responder

end TritonBackend
