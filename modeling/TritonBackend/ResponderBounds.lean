import TritonBackend.ResponderTurns
import TritonBackend.ResponderOwnership

/-!
What the copies of `ProcessTensor` and `ProcessStateTensor` read. A response gets its share
only when the batch sizes up to its own fit in the model's, so the bytes that are copied, and
the blocks that they are staged in, stay inside the tensor.
-/

namespace TritonBackend

open CopyStream

/-- Every copy tried on the way is an allowed one. -/
structure Sys.Tries (allowed : Copy Block → Prop) (s s' : Sys) : Prop where
  reaches : s.Reaches s'
  within : ∀ transfer, .copy transfer ∈ attempts (ownLog s s') → allowed transfer

section
variable {allowed : Copy Block → Prop}

theorem Sys.Tries.silent {s s' : Sys} (added : List Event) (reaches : s.Reaches s')
    (log : s'.log = s.log ++ added) (none : attempts added = []) : s.Tries allowed s' := by
  refine ⟨reaches, fun transfer tried => ?_⟩
  rw [ownLog, log, List.drop_left, none] at tried
  cases tried

theorem Sys.Tries.same {s s' : Sys} (reaches : s.Reaches s') (log : s'.log = s.log) :
    s.Tries allowed s' :=
  Sys.Tries.silent [] reaches (by rw [log, List.append_nil]) rfl

theorem Sys.Tries.refl (s : Sys) : s.Tries allowed s := Sys.Tries.same (Sys.Reaches.refl s) rfl

theorem ownLog_trans {s s' s'' : Sys} (first : s.Reaches s') (second : s'.Reaches s'') :
    ownLog s s'' = ownLog s s' ++ ownLog s' s'' := by
  obtain ⟨early, firstLog⟩ := reaches_log first
  obtain ⟨late, secondLog⟩ := reaches_log second
  rw [ownLog, ownLog, ownLog, ← secondLog, ← firstLog, List.append_assoc, List.drop_left,
    List.drop_left, ← List.append_assoc, List.drop_left]

theorem Sys.Tries.trans {s s' s'' : Sys} (first : s.Tries allowed s')
    (second : s'.Tries allowed s'') : s.Tries allowed s'' := by
  refine ⟨first.reaches.trans second.reaches, fun transfer tried => ?_⟩
  rw [ownLog_trans first.reaches second.reaches, attempts_append, List.mem_append] at tried
  exact tried.elim (first.within transfer) (second.within transfer)

theorem Sys.Tries.answers {s s' : Sys} (answers : s.Answers s') : s.Tries allowed s' := by
  obtain ⟨sends, log, only⟩ := answers_log answers
  refine Sys.Tries.silent sends answers.reaches log ?_
  rw [attempts, List.flatMap_eq_nil_iff]
  intro event member
  obtain ⟨response, error, rfl⟩ := only event member
  rfl

theorem CopyOutcome.tries {s s' : Sys} {transfer : Copy Block} {result : CopyResult}
    (outcome : CopyOutcome s transfer result) (permitted : allowed transfer)
    (answers : result.sys.Answers s') : s.Tries allowed s' := by
  refine Sys.Tries.trans ⟨outcome.reaches, fun other tried => ?_⟩ (Sys.Tries.answers answers)
  obtain ⟨event, log, kind⟩ := outcome.log
  rw [ownLog, log, List.drop_left, attempts_singleton] at tried
  have mine : event.attempts = [.copy transfer] := by
    rcases kind with rfl | ⟨action, rfl, effects⟩
    · rfl
    · exact effects
  rw [mine, List.mem_singleton] at tried
  cases tried
  exact permitted

end

/-- A copy out of the first bytes of the tensor, or out of a pinned block that was allocated
since. -/
def ReadsInside (tensor : OutputTensor) (byteSize first : Nat) (transfer : Copy Block) : Prop :=
  (∃ start, transfer.source = tensor.buffer.advance start ∧ start + transfer.byteSize ≤ byteSize) ∨
    ∃ n, first ≤ n ∧ transfer.source.block = .staging n

namespace Responder

/-- The slices that are collected lie in the first bytes of the tensor. -/
structure Collected (r : Responder) (byteSize : Nat) : Prop where
  sized : r.pendingPinnedByteSize = sliceBytes r.pendingPinnedOutputs
  inside : r.pendingPinnedOffset + r.pendingPinnedByteSize ≤ byteSize

structure TriesInside (tensor : OutputTensor) (byteSize first : Nat) (r r' : Responder) :
    Prop where
  tries : r.toSys.Tries (ReadsInside tensor byteSize first) r'.toSys
  collected : r'.Collected byteSize

section
variable {tensor : OutputTensor} {byteSize first : Nat}

theorem TriesInside.trans {r r' r'' : Responder} (before : TriesInside tensor byteSize first r r')
    (after : TriesInside tensor byteSize first r' r'') : TriesInside tensor byteSize first r r'' :=
  ⟨before.tries.trans after.tries, after.collected⟩

theorem TriesInside.withSys {r : Responder} (collected : r.Collected byteSize) {s : Sys}
    (tries : r.toSys.Tries (ReadsInside tensor byteSize first) s) :
    TriesInside tensor byteSize first r (r.withSys s) :=
  ⟨tries, collected.sized, collected.inside⟩

theorem TriesInside.refl {r : Responder} (collected : r.Collected byteSize) :
    TriesInside tensor byteSize first r r := ⟨Sys.Tries.refl _, collected⟩

theorem TriesInside.orSync {r : Responder} {result : Bool × Responder}
    (tries : TriesInside tensor byteSize first r result.2) :
    TriesInside tensor byteSize first r (orSync result) :=
  ⟨tries.tries, tries.collected.sized, tries.collected.inside⟩

end

section
variable (env : Env) (cfg : ResponderConfig)

theorem copyOutputs_tries {allowed : Copy Block → Prop} (source : Address) (memoryType : MemoryType)
    (memoryTypeId : Int) (offset : Nat) (cudaUsed : Bool) (s : Sys) (slices : ResponsesList)
    (permitted : ∀ start size target, start + size ≤ offset + sliceBytes slices →
      allowed { source := source.advance start, target, byteSize := size }) :
    s.Tries allowed
      (copyOutputs env cfg source memoryType memoryTypeId offset cudaUsed s slices).2 :=
  copyOutputs_relates Sys.Tries.refl (fun first second => first.trans second) source memoryType
    memoryTypeId offset cudaUsed s slices fun slice _ start bound _ copied outcome =>
      outcome.tries (permitted start slice.2.bufferByteSize slice.2.buffer bound)
        (respondAndSetNullIfError_answers copied.sys slice.1 copied.error)

theorem stagePinned_tries {r : Responder} {tensor : OutputTensor} {byteSize first n : Nat}
    (collected : r.Collected byteSize) (fresh : first ≤ n) :
    r.toSys.Tries (ReadsInside tensor byteSize first)
      (stagePinned env cfg r (stagingAddress n) tensor).2.toSys := by
  refine stagePinned_relates (fun first second => first.trans second) r (stagingAddress n) tensor ?_
    fun s => ?_
  · intro copied outcome
    have block : ReadsInside tensor byteSize first {
        source := tensor.buffer.advance r.pendingPinnedOffset
        target := stagingAddress n
        byteSize := r.pendingPinnedByteSize } := Or.inl ⟨_, rfl, collected.inside⟩
    exact ⟨fun _ => outcome.tries block (Sys.Answers.refl copied.sys),
      fun error _ => outcome.tries block (failOutputs_answers _ _ _)⟩
  -- the copies to the responses read the staged block only
  · exact copyOutputs_tries env cfg (stagingAddress n) .cpuPinned 0 0 false s
      r.pendingPinnedOutputs fun start size target _ => Or.inr ⟨n, fresh, rfl⟩

theorem flushPendingPinned_tries {r : Responder} (tensor : OutputTensor) {byteSize first : Nat}
    (collected : r.Collected byteSize) (fresh : first ≤ r.nextBlock) :
    TriesInside tensor byteSize first r (orSync (flushPendingPinned env cfg r tensor)) := by
  refine TriesInside.orSync ⟨?_, rfl, ?_⟩
  · have allocates := allocatePinned_reaches env r
    simp only [flushPendingPinned, toSys_clearPendingPinned]
    rcases allocatePinned_cases env r with ⟨tick, allocated⟩ | ⟨tick, allocated⟩
    · rw [allocated] at allocates ⊢
      have kept : (r.withSys { r.toSys with tick, nextBlock := r.nextBlock + 1 }).Collected byteSize :=
        ⟨collected.sized, collected.inside⟩
      exact Sys.Tries.trans (Sys.Tries.same allocates rfl) (stagePinned_tries env cfg kept fresh)
    · rw [allocated] at allocates ⊢
      refine Sys.Tries.trans (Sys.Tries.same allocates rfl) ?_
      refine copyOutputs_tries env cfg tensor.buffer tensor.memoryType tensor.memoryTypeId _ false _ _
        fun start size target bound => Or.inl ⟨start, rfl, ?_⟩
      have whole := collected.inside
      rw [collected.sized] at whole
      exact Nat.le_trans bound whole
  · simp only [flushPendingPinned, clearPendingPinned]
    omega

theorem flushBefore_tries {r : Responder} (tensor : OutputTensor) {byteSize first : Nat}
    (collected : r.Collected byteSize) (fresh : first ≤ r.nextBlock) (tensorOffset : Nat) :
    TriesInside tensor byteSize first r (flushBefore env cfg r tensor tensorOffset) ∧
      (flushBefore env cfg r tensor tensorOffset).Lined tensorOffset := by
  simp only [flushBefore]
  split
  next ends =>
    refine ⟨flushPendingPinned_tries env cfg tensor collected fresh, fun some => ?_⟩
    exact absurd some (Nat.lt_irrefl 0)
  next stays =>
    refine ⟨TriesInside.refl collected, fun some => ?_⟩
    by_contra apart
    exact stays ⟨some, apart⟩

theorem obtainBuffer_tries (allowed : Copy Block → Prop) (r : Responder) (idx byteSize : Nat)
    (state : Bool) : r.toSys.Tries allowed (obtainBuffer env r idx byteSize state).2 := by
  have reaches := obtainBuffer_reaches env r idx byteSize state
  rcases obtainBuffer_cases env r idx byteSize state with
    ⟨error, failed⟩ | ⟨buffer, memory, _, obtained⟩
  · rw [failed] at reaches ⊢
    exact Sys.Tries.same reaches rfl
  · rw [obtained] at reaches ⊢
    exact Sys.Tries.silent _ reaches rfl rfl

theorem addPendingPinned_collected {r : Responder} {byteSize tensorOffset : Nat}
    (collected : r.Collected byteSize) (lined : r.Lined tensorOffset) (s : Sys) (idx : Nat)
    (output : OutputData) (room : tensorOffset + output.bufferByteSize ≤ byteSize) :
    ((r.withSys s).addPendingPinned idx output tensorOffset).Collected byteSize := by
  have size : (r.withSys s).pendingPinnedByteSize = r.pendingPinnedByteSize := rfl
  have begins : (r.withSys s).pendingPinnedOffset = r.pendingPinnedOffset := rfl
  have whole := collected.inside
  constructor
  · simp [addPendingPinned, withSys, collected.sized]
  · simp only [addPendingPinned]
    by_cases empty : (r.withSys s).pendingPinnedByteSize = 0
    · rw [if_pos empty]
      omega
    · have behind := lined (Nat.pos_of_ne_zero empty)
      rw [if_neg empty]
      omega

theorem setFixedSizeBuffer_tries {r : Responder} {tensor : OutputTensor}
    {byteSize first tensorOffset : Nat} (collected : r.Collected byteSize)
    (lined : r.Lined tensorOffset) (idx : Nat) (outputName : String) {tensorByteSize : Nat}
    (room : tensorOffset + tensorByteSize ≤ byteSize) (state : Bool) :
    TriesInside tensor byteSize first r (orSync (setFixedSizeBuffer env cfg r idx outputName
      tensorByteSize tensorOffset tensor state)) := by
  have obtains := obtainBuffer_tries env (ReadsInside tensor byteSize first) r idx tensorByteSize
    state
  simp only [setFixedSizeBuffer]
  generalize obtainBuffer env r idx tensorByteSize state = obtained at obtains ⊢
  obtain ⟨given, s⟩ := obtained
  cases given with
  | error error =>
      exact TriesInside.orSync (TriesInside.withSys collected
        (obtains.trans (Sys.Tries.answers (respondAndSetNullIfError_answers s idx (some error)))))
  | ok given =>
      obtain ⟨buffer, memory⟩ := given
      simp only
      split
      · exact TriesInside.orSync ⟨obtains, addPendingPinned_collected collected lined s idx _ room⟩
      · have outcome := copyBuffer_outcome env s outputName tensor.memoryType tensor.memoryTypeId
          memory.memoryType memory.memoryTypeId tensorByteSize (tensor.buffer.advance tensorOffset)
          buffer cfg.copyOnStream
        generalize copyBuffer env s _ _ _ _ _ _ _ _ _ = copied at outcome ⊢
        exact TriesInside.orSync (TriesInside.withSys collected (obtains.trans
          (outcome.tries (Or.inl ⟨_, rfl, room⟩)
            (respondAndSetNullIfError_answers copied.sys idx copied.error))))

theorem respondToCall_tries {r : Responder} (tensor : OutputTensor) {byteSize : Nat} (first : Nat)
    (collected : r.Collected byteSize) (idx : Nat) (api : Call) :
    TriesInside tensor byteSize first r (respondToCall env r idx api) :=
  TriesInside.withSys collected ((Sys.Tries.same (Sys.Reaches.call env r.toSys api) rfl).trans
    (Sys.Tries.answers (respondAndSetNullIfError_answers _ idx _)))

section
variable {tensor : OutputTensor} {byteSize first : Nat}

theorem setOutput_tries {r : Responder} (collected : r.Collected byteSize) {tensorOffset : Nat}
    (lined : r.Lined tensorOffset) (idx : Nat) (outputName : String) {tensorByteSize : Nat}
    (room : tensorOffset + tensorByteSize ≤ byteSize) :
    TriesInside tensor byteSize first r
      (setOutput env cfg r idx outputName tensorByteSize tensorOffset tensor) := by
  have called := respondToCall_tries env tensor first collected idx .responseOutput
  simp only [setOutput]
  split
  · exact called.trans (setFixedSizeBuffer_tries env cfg called.collected
      (respondToCall_lined env lined idx _) idx outputName room false)
  · exact called

theorem findOutput_tries {r : Responder} (collected : r.Collected byteSize) {tensorOffset : Nat}
    (lined : r.Lined tensorOffset) (idx : Nat) (outputName : String) {tensorByteSize : Nat}
    (room : tensorOffset + tensorByteSize ≤ byteSize) (names : List String) :
    TriesInside tensor byteSize first r
      (findOutput env cfg r idx outputName tensorByteSize tensorOffset tensor names) := by
  induction names generalizing r with
  | nil => exact TriesInside.refl collected
  | cons name rest ih =>
      have called := respondToCall_tries env tensor first collected idx .requestOutputName
      have still := respondToCall_lined env lined idx .requestOutputName
      simp only [findOutput]
      split
      · exact called.trans (setOutput_tries env cfg called.collected still idx outputName room)
      · exact called.trans (ih called.collected still)

theorem respondOutput_tries {r : Responder} (collected : r.Collected byteSize) {tensorOffset : Nat}
    (lined : r.Lined tensorOffset) (idx : Nat) (outputName : String) {tensorByteSize : Nat}
    (room : r.isLive idx = true → tensorOffset + tensorByteSize ≤ byteSize) :
    TriesInside tensor byteSize first r
      (respondOutput env cfg r idx outputName tensorByteSize tensorOffset tensor) := by
  have called := respondToCall_tries env tensor first collected idx .requestOutputCount
  simp only [respondOutput]
  split
  next live =>
    split
    · exact called.trans (findOutput_tries env cfg called.collected
        (respondToCall_lined env lined idx _) idx outputName (room live) _)
    · exact called
  next => exact TriesInside.refl collected

theorem respondState_tries {r : Responder} (collected : r.Collected byteSize) {tensorOffset : Nat}
    (lined : r.Lined tensorOffset) (idx : Nat) (outputStateName : String) {tensorByteSize : Nat}
    (room : r.isLive idx = true → tensorOffset + tensorByteSize ≤ byteSize) :
    TriesInside tensor byteSize first r
      (respondState env cfg r idx outputStateName tensorByteSize tensorOffset tensor).2 := by
  have called := respondToCall_tries env tensor first collected idx .stateNew
  simp only [respondState]
  split
  next live =>
    split
    · exact called.trans (setFixedSizeBuffer_tries env cfg called.collected
        (respondToCall_lined env lined idx _) idx outputStateName (room live) true)
    · exact called
  next => exact TriesInside.refl collected

end

/-! The loop. -/

section
variable {loop : SplitLoop} {byteSize : Nat}

theorem SplitLoop.entered_tries (loop : SplitLoop) {r : Responder} {first : Nat}
    (collected : r.Collected byteSize) (fresh : first ≤ r.nextBlock) (idx : Nat) :
    TriesInside loop.tensor byteSize first r (loop.entered env cfg r idx) ∧
      (loop.entered env cfg r idx).Lined (loop.start env cfg idx) := by
  obtain ⟨flushed, lined⟩ := flushBefore_tries env cfg loop.tensor collected fresh
    (loop.start env cfg idx)
  simp only [SplitLoop.entered, enterResponse]
  generalize flushBefore env cfg r loop.tensor (loop.start env cfg idx) = r' at flushed lined ⊢
  split
  · rw [checkSplit]
    split
    · exact ⟨flushed.trans (TriesInside.withSys flushed.collected
        (Sys.Tries.answers (respondAndSetNullIfError_answers r'.toSys idx _))), lined⟩
    · exact ⟨flushed, lined⟩
  · exact ⟨flushed, lined⟩

/-- A part that reads a live response's share only, where that lies inside the tensor. -/
def SplitLoop.ReadsShares (loop : SplitLoop) (byteSize first : Nat) : Prop :=
  ∀ (r : Responder) (idx share start : Nat), r.Collected byteSize → r.Lined start →
    (r.isLive idx = true → start + share ≤ byteSize) →
    TriesInside loop.tensor byteSize first r (loop.respond r idx share start)

theorem SplitLoop.finished_tries {r : Responder} (reads : loop.ReadsShares byteSize r.nextBlock)
    (collected : r.Collected byteSize)
    (room : ∀ idx < r.responses.length,
      (loop.entered env cfg (loop.behind env cfg r idx) idx).isLive idx = true →
        loop.start env cfg idx + loop.share env cfg idx ≤ byteSize) :
    r.toSys.Tries (ReadsInside loop.tensor byteSize r.nextBlock) (loop.finished env cfg r).toSys := by
  have behind (count : Nat) (bound : count ≤ r.responses.length) :
      TriesInside loop.tensor byteSize r.nextBlock r (loop.behind env cfg r count) := by
    induction count with
    | zero => exact TriesInside.refl collected
    | succ idx ih =>
        have before := ih (by omega)
        obtain ⟨entered, lined⟩ := SplitLoop.entered_tries env cfg loop before.collected
          (reaches_nextBlock before.tries.reaches) idx
        exact before.trans (entered.trans
          (reads _ idx _ _ entered.collected lined (room idx (by omega))))
  have whole := behind r.responses.length (Nat.le_refl _)
  have flushed := flushPendingPinned_tries env cfg loop.tensor whole.collected
    (reaches_nextBlock whole.tries.reaches)
  refine (whole.trans flushed).tries.trans ?_
  simp only [SplitLoop.finished, finishTensor, recordEvent]
  split
  · exact Sys.Tries.silent _ (Sys.Reaches.issue _ _) (log_issue _ _) rfl
  · exact Sys.Tries.refl _

end

end

/-! Bytes and batch sizes count the same rows. -/

def batchTotal (env : Env) (cfg : ResponderConfig) (entry idx : Nat) : Int :=
  ((List.range idx).map (batchDim env cfg entry)).sum

theorem batchTotal_succ (env : Env) (cfg : ResponderConfig) (entry idx : Nat) :
    batchTotal env cfg entry (idx + 1) =
      batchTotal env cfg entry idx + batchDim env cfg entry idx := by
  simp [batchTotal, List.range_succ]

/-- The shape is known, the requests have batch sizes, and neither these nor the bytes that they
take overflow. -/
structure SplitSizes (env : Env) (cfg : ResponderConfig) (entry : Nat) (datatype : DataType)
    (batchnShape : List Int) (count : Nat) : Prop where
  ranked : batchnShape ≠ []
  given : KnownShape datatype batchnShape
  nonneg : ∀ idx < count, 0 ≤ batchDim env cfg entry idx
  batch : batchTotal env cfg entry count < 2 ^ 63
  whole : KnownShape datatype (batchnShape.set 0 (batchTotal env cfg entry count))

def rowByteSize (datatype : DataType) (batchnShape : List Int) : Int :=
  batchnShape.tail.prod * dataTypeByteSize datatype

theorem shapeByteSize_rows (datatype : DataType) {batchnShape : List Int}
    (ranked : batchnShape ≠ []) (rows : Int) :
    shapeByteSize datatype (batchnShape.set 0 rows) = rows * rowByteSize datatype batchnShape := by
  obtain ⟨dim, rest, rfl⟩ := List.exists_cons_of_ne_nil ranked
  rw [List.set_cons_zero, shapeByteSize, shapeElementCount, if_neg (List.cons_ne_nil _ _),
    List.prod_cons, rowByteSize, List.tail_cons, Int.mul_assoc]

section
variable {env : Env} {cfg : ResponderConfig} {entry : Nat} {datatype : DataType}
  {batchnShape : List Int} {count : Nat}

theorem SplitSizes.row_nonneg (sizes : SplitSizes env cfg entry datatype batchnShape count) :
    0 ≤ rowByteSize datatype batchnShape := by
  refine Int.mul_nonneg (List.prod_nonneg fun dim member => ?_) (Int.natCast_nonneg _)
  exact sizes.given.nonneg dim (List.mem_of_mem_tail member)

theorem SplitSizes.total_mono (sizes : SplitSizes env cfg entry datatype batchnShape count)
    {first last : Nat} (order : first ≤ last) (bound : last ≤ count) :
    batchTotal env cfg entry first ≤ batchTotal env cfg entry last := by
  induction last, order using Nat.le_induction with
  | base => exact Int.le_refl _
  | succ last order ih =>
      have before := ih (by omega)
      have dim := sizes.nonneg last (by omega)
      rw [batchTotal_succ]
      omega

theorem SplitSizes.total_nonneg (sizes : SplitSizes env cfg entry datatype batchnShape count)
    {idx : Nat} (bound : idx ≤ count) : 0 ≤ batchTotal env cfg entry idx :=
  sizes.total_mono (Nat.zero_le idx) bound

/-- No more rows than the requests have together fit in memory. -/
theorem SplitSizes.known_rows (sizes : SplitSizes env cfg entry datatype batchnShape count)
    {rows : Int} (nonneg : 0 ≤ rows) (few : rows ≤ batchTotal env cfg entry count) :
    KnownShape datatype (batchnShape.set 0 rows) := by
  refine ⟨sizes.given.fixed, fun dim member => ?_, ?_⟩
  · rcases List.mem_or_eq_of_mem_set member with inside | rfl
    · exact sizes.given.nonneg dim inside
    · exact nonneg
  · have whole := sizes.whole.fits
    rw [shapeByteSize_rows datatype sizes.ranked] at whole ⊢
    exact Int.lt_of_le_of_lt (Int.mul_le_mul_of_nonneg_right few sizes.row_nonneg) whole

theorem SplitSizes.share (sizes : SplitSizes env cfg entry datatype batchnShape count)
    (batching : cfg.firstDimBatching = true) {idx : Nat} (bound : idx < count) :
    tensorShare env cfg entry idx datatype batchnShape =
      (batchDim env cfg entry idx * rowByteSize datatype batchnShape).toNat := by
  have nonneg := sizes.nonneg idx bound
  have before := sizes.total_nonneg (Nat.le_of_lt bound)
  have few : batchDim env cfg entry idx ≤ batchTotal env cfg entry count := by
    have step := batchTotal_succ env cfg entry idx
    have order := sizes.total_mono (Nat.succ_le_of_lt bound) (Nat.le_refl count)
    rw [Nat.succ_eq_add_one] at order
    omega
  rw [tensorShare, responseShape, if_pos batching,
    getByteSize_toSize (sizes.known_rows nonneg few), shapeByteSize_rows datatype sizes.ranked]

theorem SplitSizes.start (sizes : SplitSizes env cfg entry datatype batchnShape count)
    (batching : cfg.firstDimBatching = true) {idx : Nat} (bound : idx ≤ count) :
    shareStart (fun idx => tensorShare env cfg entry idx datatype batchnShape) idx =
      (batchTotal env cfg entry idx * rowByteSize datatype batchnShape).toNat := by
  induction idx with
  | zero =>
      rw [batchTotal, List.range_zero, List.map_nil, List.sum_nil, Int.zero_mul]
      rfl
  | succ idx ih =>
      have row := sizes.row_nonneg
      have before := Int.mul_nonneg (sizes.total_nonneg (Nat.le_of_succ_le bound)) row
      have mine := Int.mul_nonneg (sizes.nonneg idx (by omega)) row
      rw [shareStart_succ, ih (by omega), sizes.share batching (by omega), batchTotal_succ,
        Int.add_mul, Int.toNat_add before mine]

/-- A share of rows that the model's batch has lies inside the tensor. -/
theorem SplitSizes.inside (sizes : SplitSizes env cfg entry datatype batchnShape count)
    (batching : cfg.firstDimBatching = true) {idx : Nat} (bound : idx < count)
    (fits : batchTotal env cfg entry (idx + 1) ≤ batchnShape.headD 0) :
    shareStart (fun idx => tensorShare env cfg entry idx datatype batchnShape) idx +
        tensorShare env cfg entry idx datatype batchnShape ≤
      toSize (getByteSize datatype batchnShape) := by
  have given : batchnShape.set 0 (batchnShape.headD 0) = batchnShape := by
    obtain ⟨dim, rest, same⟩ := List.exists_cons_of_ne_nil sizes.ranked
    rw [same]
    rfl
  have size := shapeByteSize_rows datatype sizes.ranked (batchnShape.headD 0)
  rw [given] at size
  rw [← shareStart_succ (fun idx => tensorShare env cfg entry idx datatype batchnShape),
    sizes.start batching bound, getByteSize_toSize sizes.given, size]
  exact Int.toNat_le_toNat (Int.mul_le_mul_of_nonneg_right fits sizes.row_nonneg)

/-! The check. -/

/-- What the loop reads, and whom it fails because the model's batch is too small. -/
structure SplitLoop.KeepsInside (env : Env) (cfg : ResponderConfig) (loop : SplitLoop)
    (r final : Responder) : Prop where
  reads : ∀ transfer, .copy transfer ∈ attempts (ownLog r.toSys final.toSys) →
    ReadsInside loop.tensor (toSize (getByteSize loop.datatype loop.batchnShape)) r.nextBlock transfer
  passes : ∀ idx < r.responses.length,
    let before := loop.ahead env cfg (loop.behind env cfg r idx) idx
    let checked := loop.entered env cfg (loop.behind env cfg r idx) idx
    before.toSys.Reaches checked.toSys ∧ checked.toSys.Reaches final.toSys
  refuses : ∀ idx < r.responses.length,
    let before := loop.ahead env cfg (loop.behind env cfg r idx) idx
    let checked := loop.entered env cfg (loop.behind env cfg r idx) idx
    let total := batchTotal env cfg loop.entry (idx + 1)
    ∀ response, before.responses[idx]? = some (some response) →
      loop.batchnShape.headD 0 < total →
      checked.log = before.log ++ [.send response (some (splitError cfg idx loop.kind loop.outputName
        total (loop.batchnShape.headD 0)))] ∧ checked.isLive idx = false
  spares : ∀ idx < r.responses.length,
    let before := loop.ahead env cfg (loop.behind env cfg r idx) idx
    let checked := loop.entered env cfg (loop.behind env cfg r idx) idx
    ¬ (before.isLive idx = true ∧
        loop.batchnShape.headD 0 < batchTotal env cfg loop.entry (idx + 1)) →
      checked = before

section
variable {loop : SplitLoop}

theorem SplitLoop.batchOffset_total (batching : cfg.firstDimBatching = true)
    (sizes : SplitSizes env cfg loop.entry datatype batchnShape count) {idx : Nat}
    (bound : idx ≤ count) : loop.batchOffset env cfg idx = batchTotal env cfg loop.entry idx := by
  induction idx with
  | zero => rfl
  | succ idx ih =>
      have nonneg := sizes.total_nonneg bound
      have most := sizes.total_mono bound (Nat.le_refl count)
      have fits := sizes.batch
      rw [SplitLoop.batchOffset, nextBatchOffset, if_pos batching, ih (by omega), ← batchTotal_succ]
      exact toInt64_of_fits nonneg (by omega)

/-- The check passes on the batch size in the request's place. -/
theorem SplitLoop.entered_eq (batching : cfg.firstDimBatching = true)
    (sizes : SplitSizes env cfg loop.entry loop.datatype loop.batchnShape count) (r : Responder)
    {idx : Nat} (bound : idx < count) :
    loop.entered env cfg r idx =
      if loop.batchnShape.headD 0 < batchTotal env cfg loop.entry (idx + 1) then
        (loop.ahead env cfg r idx).withSys
          (sendIfNotNull (loop.ahead env cfg r idx).toSys idx (some (splitError cfg idx loop.kind
            loop.outputName (batchTotal env cfg loop.entry (idx + 1)) (loop.batchnShape.headD 0))))
      else loop.ahead env cfg r idx := by
  have known : loop.batchnShape.headD 0 ≠ -1 := by
    obtain ⟨dim, rest, same⟩ := List.exists_cons_of_ne_nil sizes.ranked
    have nonneg := sizes.given.nonneg dim (by rw [same]; exact List.mem_cons_self)
    rw [same, List.headD_cons]
    omega
  have nonneg := sizes.total_nonneg (Nat.succ_le_of_lt bound)
  have most := sizes.total_mono (Nat.succ_le_of_lt bound) (Nat.le_refl count)
  have fits := sizes.batch
  have expected : toInt64 (loop.batchOffset env cfg idx + batchDim env cfg loop.entry idx) =
      batchTotal env cfg loop.entry (idx + 1) := by
    rw [loop.batchOffset_total batching sizes (Nat.le_of_lt bound), ← batchTotal_succ]
    exact toInt64_of_fits nonneg (by rw [Nat.succ_eq_add_one] at most; omega)
  simp only [SplitLoop.entered, SplitLoop.ahead, enterResponse, if_pos batching, checkSplit, expected,
    ne_eq, known, not_false_eq_true, true_and, gt_iff_lt]
  rfl

theorem SplitLoop.keepsInside (batching : cfg.firstDimBatching = true) {r : Responder}
    (collected : r.Collected 0)
    (sizes : SplitSizes env cfg loop.entry loop.datatype loop.batchnShape r.responses.length)
    (reads : ∀ byteSize, loop.ReadsShares byteSize r.nextBlock)
    (steps : ∀ (r : Responder) idx share start,
      r.toSys.Reaches (loop.respond r idx share start).toSys) :
    loop.KeepsInside env cfg r (loop.finished env cfg r) := by
  have room : r.Collected (toSize (getByteSize loop.datatype loop.batchnShape)) :=
    ⟨collected.sized, Nat.le_trans collected.inside (Nat.zero_le _)⟩
  constructor
  · refine (SplitLoop.finished_tries env cfg (reads _) room fun idx bound live => ?_).within
    -- a response that is live behind the check has its rows in the model's batch
    refine sizes.inside batching bound ?_
    by_contra beyond
    rw [SplitLoop.entered_eq batching sizes _ bound, if_pos (Int.not_le.mp beyond)] at live
    obtain ⟨response, present⟩ := isLive_iff.mp live
    exact sendIfNotNull_gone _ idx _ response present
  · intro idx bound
    refine ⟨?_, ?_⟩
    · simp only [SplitLoop.entered_eq batching sizes _ bound]
      split
      · exact (sendIfNotNull_answers _ _ _).reaches
      · exact Sys.Reaches.refl _
    · refine (steps _ idx (loop.share env cfg idx) (loop.start env cfg idx)).trans ?_
      exact (SplitLoop.behind_reaches steps r (Nat.succ_le_of_lt bound)).trans
        (finishTensor_reaches env cfg _ loop.tensor)
  · intro idx bound before checked total response present beyond
    have sent : checked = before.withSys (sendIfNotNull before.toSys idx (some (splitError cfg idx
        loop.kind loop.outputName total (loop.batchnShape.headD 0)))) :=
      (SplitLoop.entered_eq batching sizes _ bound).trans (if_pos beyond)
    rw [sent]
    refine ⟨?_, ?_⟩
    · simp only [withSys, sendIfNotNull, present]
      rfl
    · rw [Bool.eq_false_iff]
      intro live
      obtain ⟨other, still⟩ := isLive_iff.mp live
      exact sendIfNotNull_gone _ idx _ other still
  · intro idx bound before checked spared
    simp only [checked, SplitLoop.entered_eq batching sizes _ bound]
    split
    next beyond =>
      have gone : before.isLive idx = false := by
        rw [Bool.eq_false_iff]
        exact fun live => spared ⟨live, beyond⟩
      have unsent (error : Option TritonError) : sendIfNotNull before.toSys idx error = before.toSys := by
        rw [sendIfNotNull]
        split
        next response present =>
          rw [isLive_iff.mpr ⟨response, present⟩] at gone
          cases gone
        next => rfl
      rw [unsent]
      rfl
    next => rfl

end

end

/-! Between calls nothing is collected. -/

def Cleared (r : Responder) : Prop :=
  r.pendingPinnedByteSize = 0 ∧ r.pendingPinnedOffset = 0 ∧ r.pendingPinnedOutputs = []

theorem cleared_create (s : Sys) : (create s).Cleared := ⟨rfl, rfl, rfl⟩

theorem Cleared.collected {r : Responder} (cleared : r.Cleared) : r.Collected 0 := by
  obtain ⟨size, begins, outputs⟩ := cleared
  exact ⟨by rw [size, outputs, sliceBytes_nil], by rw [size, begins]⟩

section
variable (env : Env) (cfg : ResponderConfig)

theorem recordEvent_cleared {r : Responder} (cleared : r.Cleared) : (r.recordEvent cfg).Cleared := by
  rw [recordEvent]
  split
  · exact cleared
  · exact cleared

theorem finishTensor_cleared (r : Responder) (tensor : OutputTensor) :
    (finishTensor env cfg r tensor).Cleared := recordEvent_cleared cfg ⟨rfl, rfl, rfl⟩

theorem copyDeferred_cleared {r : Responder} (cleared : r.Cleared) (blocks : List DeferredOutputs) :
    (copyDeferred env cfg r blocks).Cleared := by
  induction blocks generalizing r with
  | nil => exact cleared
  | cons block rest ih =>
      rw [copyDeferred]
      exact ih cleared

theorem finalize_cleared {r : Responder} (cleared : r.Cleared) : (finalize env cfg r).2.Cleared := by
  have waited : (waitDeferred cfg r).Cleared := by
    rw [waitDeferred]
    split
    · exact cleared
    · exact cleared
  have copied := copyDeferred_cleared env cfg waited (waitDeferred cfg r).deferredPinned
  simp only [finalize]
  split
  · exact recordEvent_cleared cfg copied
  · exact copied

theorem stepRun_cleared {r : Responder} (cleared : r.Cleared) (step : ResponderStep) :
    (step.run env cfg r).Cleared := by
  cases step with
  | call made =>
      cases made with
      | processTensor outputName datatype batchnShape tensor => exact finishTensor_cleared env cfg _ tensor
      | processStateTensor outputStateName datatype batchnShape tensor =>
          exact finishTensor_cleared env cfg _ tensor
      | processBatchOutput batchOutput tensor => exact finishTensor_cleared env cfg _ tensor
      | finalize => exact finalize_cleared env cfg cleared
  | synchronize event => exact cleared

theorem runSteps_cleared {r : Responder} (cleared : r.Cleared) (steps : List ResponderStep) :
    (r.runSteps env cfg steps).Cleared := by
  induction steps generalizing r with
  | nil => exact cleared
  | cons step rest ih => exact ih (stepRun_cleared env cfg cleared step)

end

end Responder

/-- In every call of any run of a responder the copies stay inside the tensor as it was given,
and the responses that are failed for the batch size are the live ones beyond it. -/
theorem tensorSplits_inside (env : Env) (cfg : ResponderConfig)
    (batching : cfg.firstDimBatching = true) (s : Sys) (before : List ResponderStep)
    (outputName : String) (datatype : DataType) (batchnShape : List Int) (tensor : OutputTensor) :
    let r := (Responder.create s).runSteps env cfg before
    Responder.SplitSizes env cfg r.tick datatype batchnShape r.responses.length →
      (Responder.outputLoop env cfg r.tick outputName datatype batchnShape tensor).KeepsInside env cfg
          r (r.processTensor env cfg outputName datatype batchnShape tensor).2 ∧
        (Responder.stateLoop env cfg r.tick outputName datatype batchnShape tensor).KeepsInside env cfg
          r (r.processStateTensor env cfg outputName datatype batchnShape tensor).2.2 := by
  intro r sizes
  have collected : r.Collected 0 :=
    (Responder.runSteps_cleared env cfg (Responder.cleared_create s) before).collected
  constructor
  · rw [Responder.processTensor_finished]
    refine Responder.SplitLoop.keepsInside batching collected sizes ?_ ?_
    · intro byteSize r' idx share start kept lined room
      exact Responder.respondOutput_tries env cfg kept lined idx outputName room
    · intro r' idx share start
      exact Responder.respondOutput_reaches env cfg r' idx outputName share start tensor
  · rw [(Responder.processStateTensor_finished env cfg r outputName datatype batchnShape tensor).2]
    refine Responder.SplitLoop.keepsInside batching collected sizes ?_ ?_
    · intro byteSize r' idx share start kept lined room
      exact Responder.respondState_tries env cfg kept lined idx outputName room
    · intro r' idx share start
      exact Responder.respondState_reaches env cfg r' idx outputName share start tensor

/-- A batch of two rows for requests of one row and of three: the second response is failed. -/
theorem tensorSplits_inside_rows :
    let env := Env.successful gatherSegments
    let cfg := ResponderConfig.pinned [rowsRequest 1, rowsRequest 3]
    let r := Responder.create (Sys.fresh 2)
    (Responder.outputLoop env cfg r.tick "OUTPUT" .int32 [2] gpuOutput).KeepsInside env cfg r
        (r.processTensor env cfg "OUTPUT" .int32 [2] gpuOutput).2 ∧
      (Responder.stateLoop env cfg r.tick "OUTPUT" .int32 [2] gpuOutput).KeepsInside env cfg r
        (r.processStateTensor env cfg "OUTPUT" .int32 [2] gpuOutput).2.2 := by
  refine tensorSplits_inside _ _ rfl (Sys.fresh 2) [] "OUTPUT" .int32 [2] gpuOutput ?_
  exact ⟨by decide, by decide, by decide, by decide, by decide⟩

end TritonBackend
