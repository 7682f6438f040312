import TritonBackend.ResponderBounds

/-!
Which states `ProcessStateTensor` returns. A state is put on the list as soon as it is made;
the response can still be failed by what follows, up to the flush of a block that its share
was staged in.
-/

namespace TritonBackend

open CopyStream

/-- No copy failed on the way. -/
def Sys.Copying (s s' : Sys) : Prop := ∀ transfer, .failedCopy transfer ∉ ownLog s s'

theorem Sys.Copying.same {s s' : Sys} (log : s'.log = s.log) : s.Copying s' := by
  intro transfer failed
  rw [ownLog, log, List.drop_length] at failed
  cases failed

theorem Sys.Copying.refl (s : Sys) : s.Copying s := Sys.Copying.same rfl

theorem copying_trans {s s' s'' : Sys} (first : s.Reaches s') (second : s'.Reaches s'') :
    s.Copying s'' ↔ s.Copying s' ∧ s'.Copying s'' := by
  simp only [Sys.Copying, ownLog_trans first second, List.mem_append, not_or, forall_and]

theorem Sys.Copying.note (s : Sys) (event : Event)
    (copied : ∀ transfer, event ≠ .failedCopy transfer) : s.Copying (s.note event) := by
  intro transfer failed
  rw [ownLog, log_note, List.drop_left, List.mem_singleton] at failed
  exact copied transfer failed.symm

theorem Sys.Copying.answers {s s' : Sys} (answers : s.Answers s') : s.Copying s' := by
  obtain ⟨sends, log, only⟩ := answers_log answers
  intro transfer failed
  rw [ownLog, log, List.drop_left] at failed
  obtain ⟨response, error, impossible⟩ := only _ failed
  cases impossible

/-- Either nothing failed and the responses are as they were, or a copy failed and so did one
of the responses that were served. -/
structure Sys.Serving (served : List Nat) (s s' : Sys) : Prop where
  reaches : s.Reaches s'
  outcome : s.Copying s' ∧ s'.responses = s.responses ∨
    ¬ s.Copying s' ∧ ∃ idx ∈ served, s'.Gone idx

theorem Sys.Serving.same {served : List Nat} {s s' : Sys} (reaches : s.Reaches s')
    (copying : s.Copying s') (responses : s'.responses = s.responses) : s.Serving served s' :=
  ⟨reaches, Or.inl ⟨copying, responses⟩⟩

theorem Sys.Serving.refl (served : List Nat) (s : Sys) : s.Serving served s :=
  Sys.Serving.same (Sys.Reaches.refl s) (Sys.Copying.refl s) rfl

theorem Sys.Serving.trans {served : List Nat} {s s' s'' : Sys} (first : s.Serving served s')
    (second : s'.Serving served s'') : s.Serving served s'' := by
  refine ⟨first.reaches.trans second.reaches, ?_⟩
  rw [copying_trans first.reaches second.reaches]
  rcases first.outcome with ⟨copied, same⟩ | ⟨failed, idx, member, gone⟩
  · rcases second.outcome with ⟨later, still⟩ | ⟨failed, lost⟩
    · exact Or.inl ⟨⟨copied, later⟩, still.trans same⟩
    · exact Or.inr ⟨fun both => failed both.2, lost⟩
  · exact Or.inr ⟨fun both => failed both.1, idx, member, reaches_gone second.reaches gone⟩

theorem CopyOutcome.serving {s s' : Sys} {transfer : Copy Block} {result : CopyResult}
    {served : List Nat} (outcome : CopyOutcome s transfer result) (answers : result.sys.Answers s')
    (success : result.error = none → s' = result.sys)
    (failure : result.error ≠ none → ∃ idx ∈ served, s'.Gone idx) : s.Serving served s' := by
  refine ⟨outcome.reaches.trans answers.reaches, ?_⟩
  rw [copying_trans outcome.reaches answers.reaches]
  cases outcome with
  | host =>
      rw [success rfl]
      exact Or.inl ⟨⟨Sys.Copying.note _ _ fun _ => Event.noConfusion, Sys.Copying.refl _⟩, rfl⟩
  | stream tick =>
      rw [success rfl]
      exact Or.inl ⟨⟨Sys.Copying.note _ _ fun _ => Event.noConfusion, Sys.Copying.refl _⟩, rfl⟩
  | failed tick error =>
      refine Or.inr ⟨fun both => both.1 transfer ?_, failure (Option.some_ne_none error)⟩
      simp [ownLog]

namespace Responder

section
variable (env : Env) (cfg : ResponderConfig)

theorem copyOutputs_serving (source : Address) (memoryType : MemoryType) (memoryTypeId : Int)
    (offset : Nat) (cudaUsed : Bool) (s : Sys) (slices : ResponsesList) :
    s.Serving (slices.map Prod.fst)
      (copyOutputs env cfg source memoryType memoryTypeId offset cudaUsed s slices).2 := by
  refine copyOutputs_relates (Sys.Serving.refl _) (fun first second => first.trans second) source
    memoryType memoryTypeId offset cudaUsed s slices ?_
  intro slice member _ _ s copied outcome
  refine outcome.serving (respondAndSetNullIfError_answers _ _ _) (fun success => ?_)
    fun failed => ⟨slice.1, List.mem_map_of_mem member, respondAndSetNullIfError_gone _ _ failed⟩
  rw [success]
  rfl

theorem allocatePinned_some (r : Responder) {pinned : Address}
    (allocated : (allocatePinned env r).1 = some pinned) : 0 < r.pendingPinnedByteSize := by
  rw [allocatePinned] at allocated
  split at allocated
  next some => exact some
  next => cases allocated

theorem stagePinned_serving (r : Responder) (pinned : Address) (tensor : OutputTensor)
    (some : r.pendingPinnedOutputs ≠ []) :
    r.toSys.Serving (r.pendingPinnedOutputs.map Prod.fst)
      (stagePinned env cfg r pinned tensor).2.toSys := by
  refine stagePinned_relates (fun first second => first.trans second) r pinned tensor ?_
    fun s => copyOutputs_serving env cfg pinned .cpuPinned 0 0 false s r.pendingPinnedOutputs
  intro copied outcome
  constructor
  · intro success
    exact outcome.serving (Sys.Answers.refl copied.sys) (fun _ => rfl) fun failed =>
      absurd success failed
  -- a block that cannot be staged fails all of its responses, of which there is one
  · intro error failed
    refine outcome.serving (failOutputs_answers _ _ _) (fun success => ?_) fun _ => ?_
    · rw [failed] at success
      cases success
    · obtain ⟨slice, rest, same⟩ := List.exists_cons_of_ne_nil some
      have member : slice.1 ∈ r.pendingPinnedOutputs.map Prod.fst := by
        rw [same]
        exact List.mem_cons_self
      exact ⟨slice.1, member, failOutputs_gone copied.sys (.some error) _ member⟩

theorem flushPendingPinned_serving (r : Responder) (tensor : OutputTensor)
    (sized : r.pendingPinnedByteSize = sliceBytes r.pendingPinnedOutputs) :
    r.toSys.Serving (r.pendingPinnedOutputs.map Prod.fst)
      (flushPendingPinned env cfg r tensor).2.toSys := by
  have reaches := allocatePinned_reaches env r
  have some (pinned : Address) := @allocatePinned_some env r pinned
  have allocates : r.toSys.Serving (r.pendingPinnedOutputs.map Prod.fst)
      (allocatePinned env r).2 := by
    rcases allocatePinned_cases env r with ⟨tick, allocated⟩ | ⟨tick, allocated⟩
    · rw [allocated] at reaches ⊢
      exact Sys.Serving.same reaches (Sys.Copying.same rfl) rfl
    · rw [allocated] at reaches ⊢
      exact Sys.Serving.same reaches (Sys.Copying.same rfl) rfl
  simp only [flushPendingPinned]
  generalize allocatePinned env r = allocated at allocates some ⊢
  obtain ⟨pinned, s⟩ := allocated
  refine allocates.trans ?_
  cases pinned with
  | none => exact copyOutputs_serving env cfg _ _ _ _ _ _ _
  | some pinned =>
      refine stagePinned_serving env cfg (r.withSys s) pinned tensor fun empty => ?_
      have size := some pinned rfl
      have none : r.pendingPinnedOutputs = [] := empty
      rw [sized, none] at size
      exact Nat.lt_irrefl 0 size

/-! One response. -/

theorem isLive_congr {r r' : Responder} {idx : Nat}
    (same : r'.responses[idx]? = r.responses[idx]?) : r'.isLive idx = r.isLive idx := by
  rw [isLive, isLive, same]

theorem gone_isLive {r : Responder} {idx : Nat} (gone : r.toSys.Gone idx) :
    r.isLive idx = false := by
  rw [Bool.eq_false_iff]
  intro live
  obtain ⟨response, present⟩ := isLive_iff.mp live
  exact gone response present

/-- Only one response is dealt with, and only its slice can be put on the list. -/
structure Apart (idx : Nat) (r r' : Responder) : Prop where
  others : ∀ other, other ≠ idx → r'.responses[other]? = r.responses[other]?
  sized : r'.pendingPinnedByteSize = sliceBytes r'.pendingPinnedOutputs
  listed : ∀ slice ∈ r'.pendingPinnedOutputs, slice ∈ r.pendingPinnedOutputs ∨ slice.1 = idx

theorem respond_others (s : Sys) (idx : Nat) (error : Option TritonError) {other : Nat}
    (different : other ≠ idx) :
    (respondAndSetNullIfError s idx error).responses[other]? = s.responses[other]? := by
  cases error with
  | none => rfl
  | some error =>
      simp only [respondAndSetNullIfError, sendIfNotNull]
      split
      · simp [Sys.setNull, Sys.responseSend, List.getElem?_set_ne different.symm]
      · rfl

theorem Apart.respond {r : Responder}
    (sized : r.pendingPinnedByteSize = sliceBytes r.pendingPinnedOutputs) {s : Sys}
    (same : s.responses = r.responses) (idx : Nat) (error : Option TritonError) :
    Apart idx r (r.withSys (respondAndSetNullIfError s idx error)) := by
  refine ⟨fun other different => ?_, sized, fun slice member => Or.inl member⟩
  rw [← same]
  exact respond_others s idx error different

theorem obtainBuffer_stateBuffer (r : Responder) (idx byteSize : Nat) :
    (∃ error, env.outcome r.tick .stateBuffer = some error ∧
      obtainBuffer env r idx byteSize true = (.error error, { r.toSys with tick := r.tick + 1 })) ∨
    ∃ buffer memory, env.outcome r.tick .stateBuffer = none ∧
      obtainBuffer env r idx byteSize true = (.ok (buffer, memory),
        { Sys.note { r.toSys with tick := r.tick + 1 } (.given idx buffer byteSize) with
          nextBlock := r.nextBlock + 1 }) := by
  simp only [obtainBuffer, call_eq, if_true]
  cases env.outcome r.tick .stateBuffer with
  | some error => exact Or.inl ⟨error, rfl, rfl⟩
  | none => exact Or.inr ⟨_, _, rfl, rfl⟩

theorem serving_live {r r' : Responder} {idx : Nat} (live : r.isLive idx = true)
    (serving : r.toSys.Serving [idx] r'.toSys) :
    r'.isLive idx = true ↔ r.toSys.Copying r'.toSys := by
  rcases serving.outcome with ⟨copying, same⟩ | ⟨failed, lost, member, gone⟩
  · have kept : r'.isLive idx = r.isLive idx := isLive_congr (congrArg (·[idx]?) same)
    exact ⟨fun _ => copying, fun _ => kept.trans live⟩
  · rw [List.mem_singleton] at member
    subst member
    rw [gone_isLive gone]
    exact ⟨fun still => absurd still Bool.false_ne_true, fun copying => absurd copying failed⟩

/-- A response keeps its slot as long as it is given a buffer and its copy is not failed. -/
theorem setFixedSizeBuffer_live {r : Responder}
    (sized : r.pendingPinnedByteSize = sliceBytes r.pendingPinnedOutputs) {idx : Nat}
    (live : r.isLive idx = true) (outputName : String) (tensorByteSize tensorOffset : Nat)
    (tensor : OutputTensor) :
    let r' := orSync (setFixedSizeBuffer env cfg r idx outputName tensorByteSize tensorOffset
      tensor true)
    Apart idx r r' ∧
      (r'.isLive idx = true ↔ env.outcome r.tick .stateBuffer = none ∧ r.toSys.Copying r'.toSys) := by
  simp only [setFixedSizeBuffer]
  rcases obtainBuffer_stateBuffer env r idx tensorByteSize with
    ⟨error, refused, failed⟩ | ⟨buffer, memory, granted, obtained⟩
  · simp only [failed, orSync_false, refused]
    have counted : Sys.responses { r.toSys with tick := r.tick + 1 } = r.responses := rfl
    refine ⟨Apart.respond sized counted idx (some error), ?_⟩
    have gone := respondAndSetNullIfError_gone { r.toSys with tick := r.tick + 1 } idx
      (Option.some_ne_none error)
    constructor
    · intro still
      rw [gone_isLive gone] at still
      cases still
    · intro both
      exact absurd both.1 (Option.some_ne_none error)
  · have given : r.toSys.Serving [idx] { Sys.note { r.toSys with tick := r.tick + 1 }
        (.given idx buffer tensorByteSize) with nextBlock := r.nextBlock + 1 } := by
      have reaches := obtainBuffer_reaches env r idx tensorByteSize true
      rw [obtained] at reaches
      refine Sys.Serving.same reaches ?_ rfl
      exact Sys.Copying.note r.toSys _ fun _ => Event.noConfusion
    simp only [obtained, granted, true_and]
    generalize same : Sys.mk _ _ _ _ = s at given ⊢
    have responses : s.responses = r.responses := by rw [← same]; rfl
    split
    -- the slice waits to be staged
    · rw [orSync_false]
      refine ⟨⟨fun other _ => congrArg (·[other]?) responses, ?_, fun slice member => ?_⟩,
        serving_live live given⟩
      · simp [addPendingPinned, withSys, sized]
      · rcases List.mem_append.mp member with before | new
        · exact Or.inl before
        · rw [List.mem_singleton.mp new]
          exact Or.inr rfl
    -- the slice is copied now, and its response answered if that fails
    · have outcome := copyBuffer_outcome env s outputName tensor.memoryType tensor.memoryTypeId
        memory.memoryType memory.memoryTypeId tensorByteSize (tensor.buffer.advance tensorOffset)
        buffer cfg.copyOnStream
      generalize copyBuffer env s _ _ _ _ _ _ _ _ _ = copied at outcome ⊢
      have copies : s.Serving [idx] (respondAndSetNullIfError copied.sys idx copied.error) := by
        refine outcome.serving (respondAndSetNullIfError_answers _ _ _) (fun success => ?_)
          fun failed => ⟨idx, List.mem_singleton_self idx, respondAndSetNullIfError_gone _ _ failed⟩
        rw [success]
        rfl
      have kept : copied.sys.responses = r.responses := by
        rw [← responses]
        cases outcome <;> rfl
      obtain ⟨others, size, listed⟩ := Apart.respond sized kept idx copied.error
      exact ⟨⟨others, size, listed⟩, serving_live live (given.trans copies)⟩

/-- The state of a request is made when its response is still there and `StateNew` succeeds. -/
def makesState (r : Responder) (idx : Nat) : Bool :=
  r.isLive idx && (env.outcome r.tick .stateNew).isNone

theorem respondToCall_stateNew (r : Responder) (idx : Nat) :
    respondToCall env r idx .stateNew = r.withSys (respondAndSetNullIfError
      { r.toSys with tick := r.tick + 1 } idx (env.outcome r.tick .stateNew)) := by
  simp only [respondToCall, call_eq]

theorem respondState_made (r : Responder) (idx : Nat) (outputStateName : String)
    (tensorByteSize tensorOffset : Nat) (tensor : OutputTensor) :
    (respondState env cfg r idx outputStateName tensorByteSize tensorOffset tensor).1 =
      bif makesState env r idx then [idx] else [] := by
  simp only [respondState, makesState, respondToCall_stateNew]
  cases live : r.isLive idx with
  | false => rfl
  | true =>
      cases env.outcome r.tick .stateNew with
      | some error =>
          have gone : (r.withSys (respondAndSetNullIfError { r.toSys with tick := r.tick + 1 } idx
              (some error))).isLive idx = false :=
            gone_isLive (respondAndSetNullIfError_gone _ idx (Option.some_ne_none error))
          simp only [if_true, gone]
          rfl
      | none =>
          have present : (r.withSys { r.toSys with tick := r.tick + 1 }).isLive idx = true := live
          simp only [if_true, respondAndSetNullIfError, present]
          rfl

theorem respondState_live {r : Responder}
    (sized : r.pendingPinnedByteSize = sliceBytes r.pendingPinnedOutputs) (idx : Nat)
    (outputStateName : String) (tensorByteSize tensorOffset : Nat) (tensor : OutputTensor) :
    let result := respondState env cfg r idx outputStateName tensorByteSize tensorOffset tensor
    Apart idx r result.2 ∧
      (makesState env r idx = false →
        result.2.isLive idx = false ∧ r.toSys.Copying result.2.toSys ∧
          result.2.pendingPinnedOutputs = r.pendingPinnedOutputs) ∧
      (makesState env r idx = true →
        (result.2.isLive idx = true ↔
          env.outcome (r.tick + 1) .stateBuffer = none ∧ r.toSys.Copying result.2.toSys)) := by
  have still : Apart idx r r := ⟨fun _ _ => rfl, sized, fun _ member => Or.inl member⟩
  cases live : r.isLive idx with
  | false =>
      simp only [respondState, makesState, live, Bool.false_and, Bool.false_eq_true, if_false]
      exact ⟨still, fun _ => ⟨trivial, Sys.Copying.refl _, trivial⟩, fun made => made.elim⟩
  | true =>
      simp only [respondState, live, if_true, respondToCall_stateNew, makesState, Bool.true_and]
      cases made : env.outcome r.tick .stateNew with
      | some error =>
          have gone : (r.withSys (respondAndSetNullIfError { r.toSys with tick := r.tick + 1 } idx
              (some error))).isLive idx = false :=
            gone_isLive (respondAndSetNullIfError_gone _ idx (Option.some_ne_none error))
          have answers := respondAndSetNullIfError_answers { r.toSys with tick := r.tick + 1 } idx
            (some error)
          have counted : Sys.responses { r.toSys with tick := r.tick + 1 } = r.responses := rfl
          simp only [gone, Bool.false_eq_true, if_false, Option.isNone_some]
          exact ⟨Apart.respond sized counted idx (some error),
            fun _ => ⟨trivial, fun transfer => Sys.Copying.answers answers transfer, rfl⟩,
            fun made => made.elim⟩
      | none =>
          have present : (r.withSys { r.toSys with tick := r.tick + 1 }).isLive idx = true := live
          simp only [respondAndSetNullIfError, present, if_true, Option.isNone_none]
          obtain ⟨⟨others, size, listed⟩, iff⟩ := setFixedSizeBuffer_live env cfg
            (r := r.withSys { r.toSys with tick := r.tick + 1 }) sized present outputStateName
            tensorByteSize tensorOffset tensor
          exact ⟨⟨others, size, listed⟩, fun made => Bool.noConfusion made, fun _ => iff⟩

/-! The loop. -/

theorem flushBefore_serving (r : Responder) (tensor : OutputTensor) (tensorOffset : Nat)
    (sized : r.pendingPinnedByteSize = sliceBytes r.pendingPinnedOutputs) :
    let r' := flushBefore env cfg r tensor tensorOffset
    r.toSys.Serving (r.pendingPinnedOutputs.map Prod.fst) r'.toSys ∧
      r'.pendingPinnedByteSize = sliceBytes r'.pendingPinnedOutputs ∧
      ∀ slice ∈ r'.pendingPinnedOutputs, slice ∈ r.pendingPinnedOutputs := by
  simp only [flushBefore]
  split
  · exact ⟨flushPendingPinned_serving env cfg r tensor sized, rfl, fun _ none => by cases none⟩
  · exact ⟨Sys.Serving.refl _ _, sized, fun _ member => member⟩

theorem entered_apart (loop : SplitLoop) (r : Responder) (idx : Nat)
    (sized : (loop.ahead env cfg r idx).pendingPinnedByteSize =
      sliceBytes (loop.ahead env cfg r idx).pendingPinnedOutputs) :
    Apart idx (loop.ahead env cfg r idx) (loop.entered env cfg r idx) ∧
      (loop.ahead env cfg r idx).toSys.Answers (loop.entered env cfg r idx).toSys ∧
      (loop.entered env cfg r idx).pendingPinnedOutputs =
        (loop.ahead env cfg r idx).pendingPinnedOutputs := by
  have same : Apart idx (loop.ahead env cfg r idx) (loop.ahead env cfg r idx) :=
    ⟨fun _ _ => rfl, sized, fun _ member => Or.inl member⟩
  simp only [SplitLoop.entered, enterResponse]
  split
  · have answers := checkSplit_answers env cfg (loop.ahead env cfg r idx) loop.entry idx loop.kind
      loop.outputName (loop.batchnShape.headD 0) (loop.batchOffset env cfg idx)
    simp only [checkSplit] at answers ⊢
    split
    next passed =>
      rw [if_pos passed] at answers
      exact ⟨Apart.respond sized rfl idx _, answers, rfl⟩
    next => exact ⟨same, Sys.Answers.refl _, rfl⟩
  · exact ⟨same, Sys.Answers.refl _, rfl⟩

/-- Whether the state of a request is made when the loop gets there. -/
def SplitLoop.makes (loop : SplitLoop) (r : Responder) (idx : Nat) : Bool :=
  makesState env (loop.entered env cfg (loop.behind env cfg r idx) idx) idx

def SplitLoop.Buffers (loop : SplitLoop) (r : Responder) (count : Nat) : Prop :=
  ∀ idx < count, loop.makes env cfg r idx = true →
    env.outcome ((loop.entered env cfg (loop.behind env cfg r idx) idx).tick + 1) .stateBuffer = none

def SplitLoop.Keeps (loop : SplitLoop) (r r' : Responder) (count : Nat) : Prop :=
  ∀ idx < count, loop.makes env cfg r idx = true → r'.isLive idx = true

/-- What holds behind the first requests: a response that is left has its state made, and the
states that are made keep their responses as long as nothing fails. -/
structure SplitLoop.Agrees (loop : SplitLoop) (r r' : Responder) (count : Nat) : Prop where
  lives : ∀ idx < count, r'.isLive idx = true → loop.makes env cfg r idx = true
  keeps : loop.Keeps env cfg r r' count ↔
    r.toSys.Copying r'.toSys ∧ loop.Buffers env cfg r count

structure SplitLoop.Returning (loop : SplitLoop) (r r' : Responder) (count : Nat) : Prop where
  reaches : r.toSys.Reaches r'.toSys
  sized : r'.pendingPinnedByteSize = sliceBytes r'.pendingPinnedOutputs
  listed : ∀ slice ∈ r'.pendingPinnedOutputs,
    slice.1 < count ∧ loop.makes env cfg r slice.1 = true
  agrees : loop.Agrees env cfg r r' count

variable {env cfg} {loop : SplitLoop} {r : Responder}

theorem SplitLoop.Returning.flush {r' r'' : Responder} {count : Nat}
    (returning : loop.Returning env cfg r r' count)
    (serving : r'.toSys.Serving (r'.pendingPinnedOutputs.map Prod.fst) r''.toSys) :
    loop.Agrees env cfg r r'' count := by
  have before := returning.agrees
  constructor
  · intro idx bound live
    refine before.lives idx bound ?_
    by_contra dead
    have gone : r'.toSys.Gone idx := fun response present =>
      dead (isLive_iff.mpr ⟨response, present⟩)
    rw [gone_isLive (reaches_gone serving.reaches gone)] at live
    cases live
  · rw [copying_trans returning.reaches serving.reaches, and_right_comm]
    rcases serving.outcome with ⟨copying, same⟩ | ⟨failed, lost, member, gone⟩
    · rw [and_iff_left copying, ← before.keeps]
      have kept (idx : Nat) : r''.isLive idx = r'.isLive idx :=
        isLive_congr (congrArg (·[idx]?) same)
      simp only [SplitLoop.Keeps, kept]
    · refine iff_of_false (fun keeps => ?_) fun both => failed both.2
      obtain ⟨slice, pending, rfl⟩ := List.mem_map.mp member
      obtain ⟨bound, made⟩ := returning.listed slice pending
      have live := keeps slice.1 bound made
      rw [gone_isLive gone] at live
      cases live


/-- One request more, when the part of a response is that of `ProcessStateTensor`. -/
theorem SplitLoop.Returning.step {count : Nat}
    (states : ∀ r idx share start, loop.respond r idx share start =
      (respondState env cfg r idx loop.outputName share start loop.tensor).2)
    (returning : loop.Returning env cfg r (loop.behind env cfg r count) count) :
    loop.Returning env cfg r (loop.behind env cfg r (count + 1)) (count + 1) := by
  obtain ⟨serving, sized, pending⟩ := flushBefore_serving env cfg (loop.behind env cfg r count)
    loop.tensor (loop.start env cfg count) returning.sized
  have ahead : loop.Agrees env cfg r (loop.ahead env cfg (loop.behind env cfg r count) count)
      count := returning.flush serving
  obtain ⟨entered, checks, waiting⟩ := entered_apart env cfg loop
    (loop.behind env cfg r count) count sized
  obtain ⟨responded, unmade, made⟩ := respondState_live env cfg entered.sized count
    loop.outputName (loop.share env cfg count) (loop.start env cfg count) loop.tensor
  have responds := respondState_reaches env cfg
    (loop.entered env cfg (loop.behind env cfg r count) count) count loop.outputName
    (loop.share env cfg count) (loop.start env cfg count) loop.tensor
  have next : loop.behind env cfg r (count + 1) = _ := states _ count _ _
  rw [← next] at responded unmade made responds
  have flushes : r.toSys.Reaches (loop.ahead env cfg (loop.behind env cfg r count) count).toSys :=
    returning.reaches.trans serving.reaches
  have enters := flushes.trans checks.reaches
  have kept (idx : Nat) (other : idx ≠ count) : (loop.behind env cfg r (count + 1)).isLive idx =
      (loop.ahead env cfg (loop.behind env cfg r count) count).isLive idx :=
    isLive_congr ((responded.others idx other).trans (entered.others idx other))
  refine ⟨enters.trans responds, responded.sized, fun slice member => ?_,
    fun idx bound live => ?_, ?_⟩
  · -- a slice that is new is that of the request whose state was made
    have old (before : slice ∈
        (loop.entered env cfg (loop.behind env cfg r count) count).pendingPinnedOutputs) :
        slice.1 < count ∧ loop.makes env cfg r slice.1 = true := by
      rw [waiting] at before
      exact returning.listed slice (pending slice before)
    cases makes : loop.makes env cfg r count with
    | false =>
        obtain ⟨-, -, same⟩ := unmade makes
        rw [same] at member
        exact (old member).imp_left (Nat.lt_trans · (Nat.lt_succ_self count))
    | true =>
        rcases responded.listed slice member with before | mine
        · exact (old before).imp_left (Nat.lt_trans · (Nat.lt_succ_self count))
        · rw [mine]
          exact ⟨Nat.lt_succ_self count, makes⟩
  · by_cases mine : idx = count
    · subst mine
      by_contra refused
      have dead := (unmade (Bool.eq_false_iff.mpr refused)).1
      rw [live] at dead
      cases dead
    · rw [kept idx mine] at live
      exact ahead.lives idx (by omega) live
  · have early : (∀ idx < count, loop.makes env cfg r idx = true →
        (loop.behind env cfg r (count + 1)).isLive idx = true) ↔
        r.toSys.Copying (loop.entered env cfg (loop.behind env cfg r count) count).toSys ∧
          loop.Buffers env cfg r count := by
      rw [copying_trans flushes checks.reaches, and_iff_left (Sys.Copying.answers checks),
        ← ahead.keeps]
      refine forall₃_congr fun idx bound _ => ?_
      rw [kept idx (by omega)]
    have last : (loop.makes env cfg r count = true →
        (loop.behind env cfg r (count + 1)).isLive count = true) ↔
        (loop.entered env cfg (loop.behind env cfg r count) count).toSys.Copying
            (loop.behind env cfg r (count + 1)).toSys ∧
          (loop.makes env cfg r count = true → env.outcome ((loop.entered env cfg
            (loop.behind env cfg r count) count).tick + 1) .stateBuffer = none) := by
      cases makes : loop.makes env cfg r count with
      | false =>
          obtain ⟨-, copying, -⟩ := unmade makes
          simp only [Bool.false_eq_true, false_implies, and_true, copying]
      | true =>
          simp only [true_implies, made makes, and_comm]
    rw [copying_trans enters responds, SplitLoop.Keeps, SplitLoop.Buffers, Nat.forall_lt_succ_right,
      Nat.forall_lt_succ_right, early, last, and_and_and_comm]
    rfl


theorem SplitLoop.Returning.behind
    (states : ∀ r idx share start, loop.respond r idx share start =
      (respondState env cfg r idx loop.outputName share start loop.tensor).2)
    (cleared : r.Cleared) (count : Nat) :
    loop.Returning env cfg r (loop.behind env cfg r count) count := by
  induction count with
  | zero =>
      obtain ⟨size, -, outputs⟩ := cleared
      refine ⟨Sys.Reaches.refl _, ?_, fun slice member => ?_, fun idx none => by omega, ?_⟩
      · rw [SplitLoop.behind, size, outputs, sliceBytes_nil]
      · rw [SplitLoop.behind, outputs] at member
        cases member
      · exact iff_of_true (fun idx none => by omega)
          ⟨Sys.Copying.refl _, fun idx none => by omega⟩
  | succ count ih => exact ih.step states

theorem SplitLoop.Returning.finish {r' : Responder} {count : Nat}
    (returning : loop.Returning env cfg r r' count) :
    loop.Agrees env cfg r (finishTensor env cfg r' loop.tensor) count := by
  have flushed := flushPendingPinned_serving env cfg r' loop.tensor returning.sized
  refine returning.flush (flushed.trans ?_)
  rw [finishTensor, recordEvent]
  split
  · refine Sys.Serving.same (Sys.Reaches.issue _ _) ?_ rfl
    exact Sys.Copying.note _ _ fun _ => Event.noConfusion
  · exact Sys.Serving.refl _ _

theorem madeStates_makes (count : Nat) :
    madeStates env cfg loop r count = (List.range count).filter (loop.makes env cfg r) := by
  induction count with
  | zero => rfl
  | succ count ih =>
      rw [madeStates_succ, ih, respondState_made, List.range_succ, List.filter_append,
        List.filter_singleton]
      rfl

end

end Responder

/-- The states that are returned are those of the requests whose responses are left, unless a
state that was made gets no buffer or a copy fails. -/
theorem statesReturned_iff (env : Env) (cfg : ResponderConfig) (s : Sys)
    (before : List ResponderStep) (outputStateName : String) (datatype : DataType)
    (batchnShape : List Int) (tensor : OutputTensor) :
    let r := (Responder.create s).runSteps env cfg before
    let loop := Responder.stateLoop env cfg r.tick outputStateName datatype batchnShape tensor
    let processed := r.processStateTensor env cfg outputStateName datatype batchnShape tensor
    processed.1 = (List.range r.responses.length).filter processed.2.2.isLive ↔
      loop.Buffers env cfg r r.responses.length ∧ r.toSys.Copying processed.2.2.toSys := by
  intro r loop processed
  have cleared := Responder.runSteps_cleared env cfg (Responder.cleared_create s) before
  obtain ⟨states, finished⟩ := Responder.processStateTensor_finished env cfg r outputStateName
    datatype batchnShape tensor
  have returning : loop.Returning env cfg r (loop.behind env cfg r r.responses.length) _ :=
    Responder.SplitLoop.Returning.behind (fun _ _ _ _ => rfl) cleared r.responses.length
  have agrees := returning.finish
  have same : processed.2.2 = Responder.finishTensor env cfg
      (loop.behind env cfg r r.responses.length) loop.tensor := finished
  rw [← same] at agrees
  have made : processed.1 = (List.range r.responses.length).filter (loop.makes env cfg r) :=
    states.trans (Responder.madeStates_makes r.responses.length)
  rw [made, and_comm, ← agrees.keeps]
  constructor
  · intro returned idx bound makes
    have member : idx ∈ (List.range r.responses.length).filter processed.2.2.isLive := by
      rw [← returned, List.mem_filter, List.mem_range]
      exact ⟨bound, makes⟩
    exact (List.mem_filter.mp member).2
  · intro keeps
    refine List.filter_congr fun idx member => ?_
    rw [List.mem_range] at member
    exact Bool.eq_iff_iff.mpr ⟨keeps idx member, agrees.lives idx member⟩

/-- The server has no buffer for the second of two states: its response is failed, and the state
is returned. -/
theorem statesReturned_refused :
    let cfg := ResponderConfig.pinned [rowsRequest 1, rowsRequest 1]
    let processed := (Responder.create (Sys.fresh 2)).processStateTensor (refusing .stateBuffer 3) cfg
      "STATE" .int32 [2] gpuOutput
    ¬ processed.1 = (List.range 2).filter processed.2.2.isLive := by
  decide

end TritonBackend
