import TritonBackend.BatchOutputParse
import TritonBackend.Scattering

/-!
The shape that `ProcessBatchOutput` gives a response. Its unknown dimensions are taken from the
source input, whose own number of dimensions nothing looks at. A dimension that the input does
not have is whatever stands behind its shape, so what is read there shows when that is changed.
-/

namespace TritonBackend

/-- The same server with other values behind the shapes. -/
def Env.withStray (env : Env) (strayDim : Nat → Nat → Nat → Int) : Env := { env with strayDim }

namespace Responder

section
variable (env : Env) (cfg : ResponderConfig)

/-- The shape that the lookup of the source input shows for a request. -/
def sourceShape (entry idx : Nat) (batchOutput : BatchOutput) : List Int :=
  lookupShape env entry idx
    (cfg.requests[idx]?.bind (·.input? (batchOutput.sourceInputs.headD "")))

/-- The source input has fewer dimensions than a position that is to be taken from it. -/
def LacksDim (entry idx : Nat) (batchOutput : BatchOutput) : Prop :=
  ∃ dim, batchOutput.outputShape[dim]? = some (-1) ∧
    (sourceShape env cfg entry idx batchOutput).length ≤ dim

/-- Only dimensions that exist are read: none of the shapes, and nothing else in the run, depends
on what stands behind them. A request that lacks one has its response failed. -/
structure ReadsExisting (r : Responder) (batchOutput : BatchOutput) (tensor : OutputTensor) :
    Prop where
  shapes : ∀ strayDim, ∀ idx < r.responses.length,
    batchOutputShape (env.withStray strayDim) cfg r.tick idx batchOutput =
      batchOutputShape env cfg r.tick idx batchOutput
  run : ∀ strayDim, processBatchOutput (env.withStray strayDim) cfg r batchOutput tensor =
    processBatchOutput env cfg r batchOutput tensor
  fails : ∀ idx < r.responses.length, LacksDim env cfg r.tick idx batchOutput →
    (processBatchOutput env cfg r batchOutput tensor).toSys.Gone idx

/-! Nothing but the shapes looks behind them. -/

section
variable (strayDim : Nat → Nat → Nat → Int)

theorem copyOutputs_withStray (source : Address) (memoryType : MemoryType) (memoryTypeId : Int)
    (offset : Nat) (cudaUsed : Bool) (s : Sys) (slices : ResponsesList) :
    copyOutputs (env.withStray strayDim) cfg source memoryType memoryTypeId offset cudaUsed s
        slices =
      copyOutputs env cfg source memoryType memoryTypeId offset cudaUsed s slices := by
  induction slices generalizing offset cudaUsed s with
  | nil => rfl
  | cons slice rest ih => exact ih _ _ _

theorem flushPendingPinned_withStray (r : Responder) (tensor : OutputTensor) :
    flushPendingPinned (env.withStray strayDim) cfg r tensor =
      flushPendingPinned env cfg r tensor := by
  simp only [flushPendingPinned, copyPending, stagePinned, copyOutputs_withStray]
  rfl

theorem findOutput_withStray (r : Responder) (idx : Nat) (outputName : String)
    (tensorByteSize tensorOffset : Nat) (tensor : OutputTensor) (names : List String) :
    findOutput (env.withStray strayDim) cfg r idx outputName tensorByteSize tensorOffset tensor
        names =
      findOutput env cfg r idx outputName tensorByteSize tensorOffset tensor names := by
  induction names generalizing r with
  | nil => rfl
  | cons name rest ih =>
      simp only [findOutput, ih]
      rfl

theorem respondOutput_withStray (r : Responder) (idx : Nat) (outputName : String)
    (tensorByteSize tensorOffset : Nat) (tensor : OutputTensor) :
    respondOutput (env.withStray strayDim) cfg r idx outputName tensorByteSize tensorOffset tensor =
      respondOutput env cfg r idx outputName tensorByteSize tensorOffset tensor := by
  simp only [respondOutput, findOutput_withStray]
  rfl

theorem scatterResponses_withStray (entry : Nat) (batchOutput : BatchOutput)
    (tensor : OutputTensor) (r : Responder) (tensorOffset idx count : Nat)
    (shapes : ∀ other, idx ≤ other → other < idx + count →
      batchOutputShape (env.withStray strayDim) cfg entry other batchOutput =
        batchOutputShape env cfg entry other batchOutput) :
    scatterResponses (env.withStray strayDim) cfg entry batchOutput tensor r tensorOffset idx
        count =
      scatterResponses env cfg entry batchOutput tensor r tensorOffset idx count := by
  induction count generalizing r tensorOffset idx with
  | zero => rfl
  | succ count ih =>
      have share : batchOutputShare (env.withStray strayDim) cfg entry idx batchOutput =
          batchOutputShare env cfg entry idx batchOutput := by
        rw [batchOutputShare, batchOutputShare, shapes idx (Nat.le_refl idx) (by omega)]
      simp only [scatterResponses, flushBefore, flushPendingPinned_withStray, share,
        respondOutput_withStray]
      exact ih _ _ _ fun other above below => shapes other (by omega) (by omega)

end

theorem batchOutputShape_dim (entry idx : Nat) (batchOutput : BatchOutput) (dim : Nat) :
    (batchOutputShape env cfg entry idx batchOutput)[dim]? =
      batchOutput.outputShape[dim]?.map fun size =>
        if size = -1 then
          readDim env entry idx (sourceShape env cfg entry idx batchOutput) dim
        else size := by
  rw [batchOutputShape, List.getElem?_mapIdx]
  rfl

/-- A dimension is read where the shape of the batch output leaves it open. -/
theorem batchOutputShape_withStray (entry idx : Nat) (batchOutput : BatchOutput) :
    (∀ strayDim, batchOutputShape (env.withStray strayDim) cfg entry idx batchOutput =
        batchOutputShape env cfg entry idx batchOutput) ↔
      ¬ LacksDim env cfg entry idx batchOutput := by
  constructor
  · rintro same ⟨dim, unknown, beyond⟩
    -- what stands there is made another number
    have shapes := same fun entry request dim => env.strayDim entry request dim + 1
    have dims := congrArg (·[dim]?) shapes
    have here : (sourceShape env cfg entry idx batchOutput)[dim]? = none :=
      List.getElem?_eq_none beyond
    have there : (sourceShape (env.withStray fun entry request dim =>
        env.strayDim entry request dim + 1) cfg entry idx batchOutput)[dim]? = none := here
    simp only [batchOutputShape_dim, unknown, Option.map_some, if_true, readDim,
      List.getD_eq_getElem?_getD, here, there, Option.getD_none, Option.some.injEq] at dims
    exact absurd dims (Int.ne_of_gt (Int.lt_succ _))
  · intro enough strayDim
    refine List.ext_getElem? fun dim => ?_
    have source : sourceShape (env.withStray strayDim) cfg entry idx batchOutput =
        sourceShape env cfg entry idx batchOutput := rfl
    rw [batchOutputShape_dim, batchOutputShape_dim, source]
    cases given : batchOutput.outputShape[dim]? with
    | none => rfl
    | some size =>
        by_cases unknown : size = -1
        · subst unknown
          have inside : dim < (sourceShape env cfg entry idx batchOutput).length := by
            by_contra beyond
            exact enough ⟨dim, given, Nat.le_of_not_lt beyond⟩
          simp only [Option.map_some, if_true, readDim, List.getD_eq_getElem?_getD,
            List.getElem?_eq_getElem inside, Option.getD_some]
        · simp only [Option.map_some, unknown, if_false]

/-- Only dimensions that exist are read exactly when the source input of every request has each of
the dimensions that the batch output leaves open. -/
theorem readsExisting_iff (r : Responder) (batchOutput : BatchOutput) (tensor : OutputTensor) :
    ReadsExisting env cfg r batchOutput tensor ↔
      ∀ idx < r.responses.length, ∀ dim, batchOutput.outputShape[dim]? = some (-1) →
        dim < (sourceShape env cfg r.tick idx batchOutput).length := by
  constructor
  · intro reads idx bound dim unknown
    have enough := (batchOutputShape_withStray env cfg r.tick idx batchOutput).mp
      fun strayDim => reads.shapes strayDim idx bound
    by_contra beyond
    exact enough ⟨dim, unknown, Nat.le_of_not_lt beyond⟩
  · intro enough
    have has (idx : Nat) (bound : idx < r.responses.length) :
        ¬ LacksDim env cfg r.tick idx batchOutput := by
      rintro ⟨dim, unknown, beyond⟩
      have inside := enough idx bound dim unknown
      omega
    have shapes (strayDim : Nat → Nat → Nat → Int) (idx : Nat) (bound : idx < r.responses.length) :
        batchOutputShape (env.withStray strayDim) cfg r.tick idx batchOutput =
          batchOutputShape env cfg r.tick idx batchOutput :=
      (batchOutputShape_withStray env cfg r.tick idx batchOutput).mpr (has idx bound) strayDim
    refine ⟨shapes, fun strayDim => ?_, fun idx bound lacks => absurd lacks (has idx bound)⟩
    have scattered := scatterResponses_withStray env cfg strayDim r.tick batchOutput tensor r 0 0
      r.responses.length fun other _ below => shapes strayDim other (by omega)
    simp only [processBatchOutput, scattered, finishTensor, flushPendingPinned_withStray]

end

end Responder

/-- A batch output as it stands in the vector that `ParseFromModelConfig` fills. -/
def BatchOutput.parsed (batchOutput : BatchOutput) : ParsedBatchOutput where
  targetNames := batchOutput.targetNames
  dataType := some batchOutput.dataType
  outputShape := batchOutput.outputShape
  sourceInputs := batchOutput.sourceInputs

/-- A batch output of two unknown dimensions is parsed, and a request has an input of one: its
response is not failed. -/
theorem not_readsExisting_scores :
    let result := BackendModel.parseBatchOutputs BackendModel.doubling
      (scoresConfig 0 [-1, -1] "scores") (BackendModel.create false)
    let cfg := ResponderConfig.pinned [{
      id := ""
      inputs := [{ name := "tokens", shape := [4], buffers := [] }]
      outputs := ["scores"] }]
    let batchOutput : BatchOutput := {
      targetNames := ["scores"]
      dataType := .fp32
      outputShape := [-1, -1]
      sourceInputs := ["tokens"] }
    (result.1 = none ∧ result.2.batchOutputs.elements = [batchOutput.parsed]) ∧
      (Responder.processBatchOutput (Env.successful gatherSegments) cfg
        (Responder.create (Sys.fresh 1)) batchOutput gpuOutput).isLive 0 = true ∧
      ¬ Responder.ReadsExisting (Env.successful gatherSegments) cfg
        (Responder.create (Sys.fresh 1)) batchOutput gpuOutput := by
  intro result cfg batchOutput
  refine ⟨⟨rfl, rfl⟩, by decide, fun reads => ?_⟩
  have same := reads.shapes (fun _ _ _ => 7) 0 (by decide)
  exact absurd same (by decide)

end TritonBackend
