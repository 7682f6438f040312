import TritonBackend.GatheredBatch
import TritonBackend.ResponderGiven

/-!
Gathering a batch and scattering the gathered tensor as the output. The collector places the
requests by the sizes of their buffers and the responder by their shapes; where both agree,
each request gets back the bytes of its own input.
-/

namespace TritonBackend

open CopyStream

/-! One request's stretch of a batch. -/

/-- The part of gathered bytes that lies behind those of the requests before it. -/
theorem valuesAt_request {memory initial : Memory Block UInt8} {target : Address}
    {before after : List (List MemoryDesc)} {buffers : List MemoryDesc}
    (held : valuesAt memory target (bufferByteSize (before ++ buffers :: after).flatten) =
      bufferBytes initial (before ++ buffers :: after).flatten) :
    valuesAt memory (target.advance (bufferByteSize before.flatten)) (bufferByteSize buffers) =
      bufferBytes initial buffers := by
  simp only [List.flatten_append, List.flatten_cons, bufferByteSize_append, bufferBytes_append,
    valuesAt_append] at held
  have behind := (List.append_inj held (by simp [length_bufferBytes])).2
  exact (List.append_inj behind (by simp [length_bufferBytes])).1

theorem shareStart_buffers {share : Nat → Nat} {inputs : List (List MemoryDesc)}
    (shares : ∀ idx buffers, inputs[idx]? = some buffers → share idx = bufferByteSize buffers)
    {idx : Nat} (bound : idx ≤ inputs.length) :
    Responder.shareStart share idx = bufferByteSize (inputs.take idx).flatten := by
  induction idx with
  | zero => rfl
  | succ idx ih =>
      have present : inputs[idx]? = some inputs[idx] := List.getElem?_eq_getElem bound
      rw [Responder.shareStart_succ, ih (Nat.le_of_succ_le bound), shares idx _ present,
        List.take_add_one, present, Option.toList_some, List.flatten_concat, bufferByteSize_append]

/-! The batch. -/

/-- A request with a single input, which holds a batch of items of one shape. -/
structure EchoRequest (inputName : String) (datatype : DataType) (item : List Int) where
  id : String
  outputs : List String
  batch : Nat
  buffers : List MemoryDesc
  filled : buffers ≠ []
  sized : (bufferByteSize buffers : Int) = getByteSize datatype (batch :: item)

section
variable {inputName : String} {datatype : DataType} {item : List Int}

def EchoRequest.request (echo : EchoRequest inputName datatype item) : Request := {
  id := echo.id
  inputs := [{ name := inputName, shape := echo.batch :: item, buffers := echo.buffers }]
  outputs := echo.outputs }

def batchTotal (echoes : List (EchoRequest inputName datatype item)) : Nat :=
  (echoes.map EchoRequest.batch).sum

theorem sum_batches (echoes : List (EchoRequest inputName datatype item)) :
    (echoes.map fun echo => (echo.batch : Int)).sum = batchTotal echoes := by
  induction echoes with
  | nil => rfl
  | cons echo rest ih => simp [batchTotal] at ih ⊢; omega

/-- The shape that a model passes for its output: the batch size left open or summed up. -/
def BatchnShape (echoes : List (EchoRequest inputName datatype item)) (shape : List Int) : Prop :=
  shape = wildcardDim :: item ∨ batchTotal echoes < 2 ^ 63 ∧ shape = (batchTotal echoes : Int) :: item

theorem EchoRequest.input (echo : EchoRequest inputName datatype item) :
    echo.request.input? inputName =
      some { name := inputName, shape := echo.batch :: item, buffers := echo.buffers } := by
  simp [request, Request.input?]

theorem EchoRequest.requestBuffers (echo : EchoRequest inputName datatype item) :
    TritonBackend.requestBuffers inputName echo.request = echo.buffers :=
  requestBuffers_of_input echo.input

theorem batchBuffers_echoes (echoes : List (EchoRequest inputName datatype item)) :
    batchBuffers inputName (echoes.map EchoRequest.request) = echoes.map EchoRequest.buffers := by
  rw [batchBuffers, List.map_map]
  exact List.map_congr_left fun echo _ => echo.requestBuffers

theorem EchoRequest.toSize (echo : EchoRequest inputName datatype item) :
    TritonBackend.toSize (getByteSize datatype (echo.batch :: item)) = bufferByteSize echo.buffers := by
  have small : getByteSize datatype (echo.batch :: item) < 2 ^ 63 := by
    simp only [getByteSize]
    split
    · decide
    split
    · decide
    · simp only [toInt64, Int.bmod_def]
      omega
  rw [← echo.sized] at small ⊢
  exact toSize_of_fits (Int.natCast_nonneg _) small

/-! What the responder reads off the requests. -/

section
variable {env : Env} {cfg : ResponderConfig} {echoes : List (EchoRequest inputName datatype item)}

theorem batchDim_echo (requests : cfg.requests = echoes.map EchoRequest.request)
    (shapes : ∀ entry request, env.unsetShape entry request = none) {idx : Nat}
    {echo : EchoRequest inputName datatype item} (present : echoes[idx]? = some echo) (entry : Nat) :
    Responder.batchDim env cfg entry idx = echo.batch := by
  simp [Responder.batchDim, Responder.lookupShape, Responder.readDim, requests, shapes, present,
    EchoRequest.request]

theorem tensorShare_echo (requests : cfg.requests = echoes.map EchoRequest.request)
    (batching : cfg.firstDimBatching = true)
    (shapes : ∀ entry request, env.unsetShape entry request = none) {batchnShape : List Int}
    (shape : BatchnShape echoes batchnShape) {idx : Nat} {echo : EchoRequest inputName datatype item}
    (present : echoes[idx]? = some echo) (entry : Nat) :
    Responder.tensorShare env cfg entry idx datatype batchnShape = bufferByteSize echo.buffers := by
  have own : Responder.responseShape env cfg entry idx batchnShape = (echo.batch : Int) :: item := by
    rw [Responder.responseShape, if_pos batching, batchDim_echo requests shapes present]
    rcases shape with rfl | ⟨_, rfl⟩
    · rfl
    · rfl
  rw [Responder.tensorShare, own, echo.toSize]

theorem room_echoes (requests : cfg.requests = echoes.map EchoRequest.request)
    (shapes : ∀ entry request, env.unsetShape entry request = none) {batchnShape : List Int}
    (shape : BatchnShape echoes batchnShape) (entry : Nat) :
    Responder.Room env cfg entry (batchnShape.headD 0) 0 0 echoes.length := by
  have dims : (List.range' 0 echoes.length).map (Responder.batchDim env cfg entry) =
      echoes.map fun echo => (echo.batch : Int) := by
    refine List.ext_getElem (by simp) ?_
    intro idx _ bound
    rw [List.length_map] at bound
    simp [batchDim_echo requests shapes (List.getElem?_eq_getElem bound) entry]
  rcases shape with rfl | ⟨small, rfl⟩
  · exact Or.inl rfl
  · refine Or.inr ⟨by simpa using small, Int.le_refl 0, ?_, ?_⟩
    · intro other member
      have inside : Responder.batchDim env cfg entry other ∈
          (List.range' 0 echoes.length).map (Responder.batchDim env cfg entry) :=
        List.mem_map_of_mem member
      rw [dims] at inside
      obtain ⟨echo, _, same⟩ := List.mem_map.mp inside
      omega
    · rw [dims, sum_batches, Int.zero_add]
      exact Int.le_refl _

end

/-! Both components, one after the other. -/

def Tensor.output (tensor : Tensor) : OutputTensor := {
  buffer := tensor.buffer
  memoryType := tensor.memoryType
  memoryTypeId := tensor.memoryTypeId }

def scatterCall (env : Env) (cfg : ResponderConfig) (outputName : String) (datatype : DataType)
    (batchnShape : List Int) (tensor : Tensor) (s : Sys) : Responder :=
  (ResponderCall.processTensor outputName datatype batchnShape tensor.output).run env cfg
    (Responder.create s)

def scatterTensor (env : Env) (cfg : ResponderConfig) (outputName : String) (datatype : DataType)
    (batchnShape : List Int) (tensor : Tensor) (s : Sys) : Sys :=
  (scatterCall env cfg outputName datatype batchnShape tensor s).close env cfg

/-- Every call of the server and of the CUDA runtime succeeds, and so does every copy. -/
structure NothingFails (env : Env) (done : Sys) : Prop where
  calls : ∀ tick api, env.outcome tick api = none
  shapes : ∀ entry request, env.unsetShape entry request = none
  copies : done.Copied

/-- Each request that asked for the output has been given a buffer, and what it has been given
holds the bytes of its own input. -/
def Echoed (requests : List Request) (inputName outputName : String) (initial : Memory Block UInt8)
    (gathered done : Sys) : Prop :=
  ∀ idx request, requests[idx]? = some request → outputName ∈ request.outputs →
    ¬ done.Gone idx ∧
      (∃ buffer size, .given idx buffer size ∈ done.log.drop gathered.log.length) ∧
      ∀ buffer size, .given idx buffer size ∈ done.log.drop gathered.log.length →
        valuesAt (done.device.memory initial) buffer size =
          bufferBytes initial (requestBuffers inputName request)

theorem looksUp_echoes {env : Env} (calls : ∀ tick api, env.outcome tick api = none)
    (echoes : List (EchoRequest inputName datatype item)) :
    LooksUp env (echoes.map EchoRequest.request) inputName := by
  refine ⟨?_, fun tick idx => calls _ _, fun tick => calls _ _, fun tick => calls _ _⟩
  intro request member
  obtain ⟨echo, _, rfl⟩ := List.mem_map.mp member
  simp [echo.input]

theorem fresh_live {requestCount idx : Nat} (bound : idx < requestCount) :
    ¬ (Sys.fresh requestCount).Gone idx := by
  intro gone
  exact gone idx (by simp [Sys.fresh, bound])

theorem gatherTensor_reaches (env : Env) (cfg : CollectorConfig) (inputName : String)
    (tensor : Tensor) (s : Sys) (bufferReadyEvent : Bool) :
    s.Reaches (gatherTensor env cfg inputName tensor s bufferReadyEvent) := by
  have gathers := processTensor_reaches env cfg inputName tensor (Collector.create s bufferReadyEvent)
  exact (gathers.trans (finalize_reaches env cfg _)).trans (synchronize_reaches cfg _ _)

theorem scatterCall_calm (env : Env) (cfg : ResponderConfig) (outputName : String)
    (datatype : DataType) (batchnShape : List Int) {tensor : Tensor} {s : Sys}
    (supplied : tensor.Supplied) (numbered : (s.courier []).Numbered blockAge) :
    (scatterCall env cfg outputName datatype batchnShape tensor s).Calm cfg s.device.queue := by
  refine (Responder.call_calm env cfg (Responder.calm_create cfg s) ⟨numbered, List.Pairwise.nil⟩ _
    ?_).2
  intro other same
  cases same
  exact ⟨(supplied.placed s).direct, (supplied.placed s).old⟩

theorem scatterTensor_reaches (env : Env) (cfg : ResponderConfig) (outputName : String)
    (datatype : DataType) (batchnShape : List Int) (tensor : Tensor) (s : Sys) :
    s.Reaches (scatterTensor env cfg outputName datatype batchnShape tensor s) := by
  have scatters := Responder.processTensor_reaches env cfg (Responder.create s) outputName datatype
    batchnShape tensor.output
  exact scatters.trans (Responder.close_keeps env cfg _).reaches

theorem scatterTensor_given {env : Env} {cfg : ResponderConfig} {outputName : String}
    {datatype : DataType} {batchnShape : List Int} {tensor : Tensor} {s : Sys}
    (supplied : tensor.Supplied) (numbered : (s.courier []).Numbered blockAge) {idx size : Nat}
    {buffer : Address}
    (given : .given idx buffer size ∈
      (scatterTensor env cfg outputName datatype batchnShape tensor s).log.drop s.log.length) :
    .given idx buffer size ∈
      (scatterCall env cfg outputName datatype batchnShape tensor s).log.drop s.log.length := by
  have scatters : s.Reaches (scatterCall env cfg outputName datatype batchnShape tensor s).toSys :=
    Responder.processTensor_reaches env cfg (Responder.create s) outputName datatype batchnShape
      tensor.output
  have calm := scatterCall_calm env cfg outputName datatype batchnShape supplied numbered
  rw [scatterTensor] at given
  generalize scatterCall env cfg outputName datatype batchnShape tensor s = r at scatters calm given ⊢
  obtain ⟨closes, _⟩ := Responder.close_serves env cfg (fun _ _ _ => False) calm
  obtain ⟨added, log⟩ := reaches_log (serves_reaches closes)
  rw [← log, List.drop_append_of_le_length (reaches_log scatters).length_le, List.mem_append] at given
  rcases given with early | late
  · exact early
  · obtain ⟨_, _, _, _, _, _, _, _, never⟩ := serves_given closes log.symm late
    exact absurd never id

/-- What the collector leaves to the responder. -/
structure BatchGathered (echoes : List (EchoRequest inputName datatype item)) (tensor : Tensor)
    (initial : Memory Block UInt8) (gathered : Sys) : Prop where
  sized : gathered.responses.length = echoes.length
  live : ∀ idx < echoes.length, ¬ gathered.Gone idx
  idle : gathered.device.queue = []
  numbered : (gathered.courier []).Numbered blockAge
  held : valuesAt (gathered.device.memory initial) tensor.buffer
    (bufferByteSize (echoes.map EchoRequest.buffers).flatten) =
      bufferBytes initial (echoes.map EchoRequest.buffers).flatten

theorem batchGathered (env : Env) (cfg : CollectorConfig)
    {echoes : List (EchoRequest inputName datatype item)}
    (requests : cfg.requests = echoes.map EchoRequest.request) (batch : cfg.requests ≠ [])
    (sync : cfg.useAsyncCpuCopy = false) (kernel : env.runGatherKernel = tritonGatherKernel)
    (calls : ∀ tick api, env.outcome tick api = none) (bufferReadyEvent : Bool) {tensor : Tensor}
    (supplied : tensor.Supplied)
    (fits : bufferByteSize (echoes.map EchoRequest.buffers).flatten ≤ tensor.byteSize)
    {place : Block → Int} (launches : LaunchesFit cfg place [inputCall cfg inputName tensor])
    (copied : (gatherTensor env cfg inputName tensor (Sys.fresh echoes.length)
      bufferReadyEvent).Copied) (initial : Memory Block UInt8) :
    BatchGathered echoes tensor initial
      (gatherTensor env cfg inputName tensor (Sys.fresh echoes.length) bufferReadyEvent) := by
  have looks : LooksUp env cfg.requests inputName := requests ▸ looksUp_echoes calls echoes
  have buffers : batchBuffers inputName cfg.requests = echoes.map EchoRequest.buffers := by
    rw [requests, batchBuffers_echoes]
  have filled : ∀ descs ∈ batchBuffers inputName cfg.requests, descs ≠ [] := by
    intro descs member
    rw [buffers] at member
    obtain ⟨echo, _, rfl⟩ := List.mem_map.mp member
    simpa [EchoRequest.buffers] using echo.filled
  have size := inputChunks_byteSize cfg.coalesceRequestInput inputName cfg.requests
  rw [buffers] at size
  have room : totalByteSize (inputChunks cfg.coalesceRequestInput inputName cfg.requests) ≤
      tensor.byteSize := by omega
  have placed := supplied.placed (Sys.fresh echoes.length)
  obtain ⟨carries, idle, _⟩ := gatherTensor_carries env cfg True sync looks batch
    (s := Sys.fresh echoes.length) rfl bufferReadyEvent placed
    (launches.performs kernel _ List.mem_cons_self)
  have held := gatherTensor_held env cfg kernel sync looks batch filled
    (s := Sys.fresh echoes.length) rfl bufferReadyEvent supplied room launches copied initial
  rw [buffers] at held
  refine ⟨?_, ?_, idle, ?_, held⟩
  · have reached := gatherTensor_reaches env cfg inputName tensor (Sys.fresh echoes.length)
      bufferReadyEvent
    rw [reaches_length reached]
    simp [Sys.fresh]
  · intro idx bound gone
    exact fresh_live bound (gatherTensor_spares env cfg kernel sync looks batch
      (s := Sys.fresh echoes.length) rfl bufferReadyEvent placed room copied gone)
  · exact Sys.Carries.numbered True carries
      (callJobs_numbered rfl (by simpa [inputCall] using placed))

theorem scatterCall_gives {env : Env} {cfg : ResponderConfig}
    {echoes : List (EchoRequest inputName datatype item)}
    (requests : cfg.requests = echoes.map EchoRequest.request)
    (batching : cfg.firstDimBatching = true) (outputName : String) {batchnShape : List Int}
    (shape : BatchnShape echoes batchnShape) (tensor : Tensor) {s : Sys}
    (calls : ∀ tick api, env.outcome tick api = none)
    (shapes : ∀ entry request, env.unsetShape entry request = none)
    (sized : s.responses.length = echoes.length) (live : ∀ idx < echoes.length, ¬ s.Gone idx) :
    let r := scatterCall env cfg outputName datatype batchnShape tensor s
    s.Keeps r.toSys ∧ (r.toSys.Copied → ∀ idx < echoes.length,
      outputName ∈ Responder.outputNames cfg idx → ∃ size, Responder.Gives s r.toSys idx size) := by
  have room := room_echoes requests shapes shape s.tick
  rw [← sized] at room
  obtain ⟨keeps, gives⟩ := Responder.processTensor_gives env cfg calls batching (Responder.create s)
    outputName datatype batchnShape tensor.output room
  refine ⟨keeps, fun copied idx bound asked => ⟨_, gives copied idx (sized ▸ bound) ?_ asked⟩⟩
  by_contra dead
  refine live idx bound fun response slot => dead ?_
  exact Responder.isLive_iff.mpr ⟨response, slot⟩

theorem echoed_of_gathered (env : Env) (cfg : ResponderConfig)
    {echoes : List (EchoRequest inputName datatype item)}
    (requests : cfg.requests = echoes.map EchoRequest.request)
    (batching : cfg.firstDimBatching = true) {tensor : Tensor} (supplied : tensor.Supplied)
    (outputName : String) {batchnShape : List Int} (shape : BatchnShape echoes batchnShape)
    {initial : Memory Block UInt8} {gathered : Sys}
    (collected : BatchGathered echoes tensor initial gathered)
    (success : NothingFails env
      (scatterTensor env cfg outputName datatype batchnShape tensor gathered)) :
    Echoed cfg.requests inputName outputName initial gathered
      (scatterTensor env cfg outputName datatype batchnShape tensor gathered) := by
  obtain ⟨calls, shapes, copied⟩ := success
  intro idx request present asked
  have names : Responder.outputNames cfg idx = request.outputs := by
    simp [Responder.outputNames, present]
  rw [requests, List.getElem?_map, Option.map_eq_some_iff] at present
  obtain ⟨echo, present, rfl⟩ := present
  have bound : idx < echoes.length := (List.getElem?_eq_some_iff.mp present).1
  obtain ⟨keeps, gives⟩ := scatterCall_gives requests batching outputName shape tensor calls shapes
    collected.sized collected.live
  have closes := Responder.close_keeps env cfg
    (scatterCall env cfg outputName datatype batchnShape tensor gathered)
  have live : ¬ (scatterTensor env cfg outputName datatype batchnShape tensor gathered).Gone idx := by
    intro gone
    have same := (keeps.trans closes).kept copied
    exact collected.live idx bound fun response slot => gone response (same ▸ slot)
  refine ⟨live, ?_, ?_⟩
  · obtain ⟨size, buffer, given⟩ := gives (closes.reaches.copied copied) idx bound (names ▸ asked)
    obtain ⟨buffer, given⟩ :=
      Responder.gives_mono (Sys.Reaches.refl gathered) closes.reaches ⟨buffer, given⟩
    exact ⟨buffer, size, given⟩
  -- the share that the buffer holds lies where the tensor has the request's own bytes
  · intro buffer size given
    obtain ⟨_, _, held⟩ := sharesHeld env cfg collected.idle collected.numbered [] []
      (.processTensor outputName datatype batchnShape tensor.output) rfl (by
        intro step member other same
        rw [List.nil_append, List.mem_singleton] at member
        subst member
        cases same
        exact ⟨(supplied.placed gathered).direct, (supplied.placed gathered).old⟩) initial idx buffer
      size (scatterTensor_given supplied collected.numbered given) live
    have shares (other : Nat) (descs : List MemoryDesc)
        (here : (echoes.map EchoRequest.buffers)[other]? = some descs) :
        (ResponderCall.processTensor outputName datatype batchnShape tensor.output).share env cfg
          gathered.tick other = bufferByteSize descs := by
      rw [List.getElem?_map, Option.map_eq_some_iff] at here
      obtain ⟨found, here, rfl⟩ := here
      exact tensorShare_echo requests batching shapes shape here gathered.tick
    have mine : (echoes.map EchoRequest.buffers)[idx]? = some echo.buffers := by simp [present]
    have inside : idx < (echoes.map EchoRequest.buffers).length := by simpa using bound
    have split : echoes.map EchoRequest.buffers = (echoes.map EchoRequest.buffers).take idx ++
        echo.buffers :: (echoes.map EchoRequest.buffers).drop (idx + 1) := by
      rw [← Option.some.inj ((List.getElem?_eq_getElem inside).symm.trans mine),
        ← List.drop_eq_getElem_cons inside, List.take_append_drop]
    have whole := collected.held
    rw [split] at whole
    have own := valuesAt_request whole
    rw [← shareStart_buffers shares (Nat.le_of_lt inside), ← shares idx _ mine] at own
    rw [echo.requestBuffers]
    exact held.trans own

section
variable (env : Env) (cfg : CollectorConfig) (responderCfg : ResponderConfig)

/-- While its launches fit, what is gathered and scattered comes back to its request. -/
theorem echoed_of_launchesFit (echoes : List (EchoRequest inputName datatype item))
    (requests : cfg.requests = echoes.map EchoRequest.request)
    (shared : responderCfg.requests = cfg.requests) (batching : responderCfg.firstDimBatching = true)
    (sync : cfg.useAsyncCpuCopy = false) (kernel : env.runGatherKernel = tritonGatherKernel)
    (bufferReadyEvent : Bool) {tensor : Tensor} (supplied : tensor.Supplied)
    (fits : bufferByteSize (echoes.map EchoRequest.buffers).flatten ≤ tensor.byteSize)
    (outputName : String) {batchnShape : List Int} (shape : BatchnShape echoes batchnShape)
    (success : NothingFails env (scatterTensor env responderCfg outputName datatype batchnShape tensor
      (gatherTensor env cfg inputName tensor (Sys.fresh echoes.length) bufferReadyEvent)))
    (place : Block → Int) (launches : LaunchesFit cfg place [inputCall cfg inputName tensor]) (initial : Memory Block UInt8) :
    let gathered := gatherTensor env cfg inputName tensor (Sys.fresh echoes.length) bufferReadyEvent
    Echoed cfg.requests inputName outputName initial gathered
      (scatterTensor env responderCfg outputName datatype batchnShape tensor gathered) := by
  intro gathered
  by_cases batch : cfg.requests = []
  · intro idx request present
    simp [batch] at present
  have scattered := scatterTensor_reaches env responderCfg outputName datatype batchnShape tensor gathered
  have collected := batchGathered env cfg requests batch sync kernel success.calls bufferReadyEvent
    supplied fits launches (scattered.copied success.copies) initial
  rw [← shared]
  exact echoed_of_gathered env responderCfg (shared.trans requests) batching supplied outputName shape
    collected success

end

end

/-! Two requests for a GPU tensor, in a staged and two launched chunks. -/

def pinnedBuffer (buffer byteSize : Nat) : MemoryDesc := {
  buffer, byteSize
  memoryType := .cpuPinned
  memoryTypeId := 0 }

def pairEchoes : List (EchoRequest "INPUT" .int16 [1]) := [
  { id := "first", outputs := ["OUTPUT"], batch := 1
    buffers := [pinnedBuffer 1536 2]
    filled := List.cons_ne_nil _ _
    sized := by decide },
  { id := "second", outputs := ["OTHER", "OUTPUT"], batch := 2
    buffers := [hostBuffer 2560 3, pinnedBuffer 640 1]
    filled := List.cons_ne_nil _ _
    sized := by decide }]

def wideEchoes : List (EchoRequest "INPUT" .uint8 []) := [
  { id := "wide", outputs := ["OUTPUT"], batch := 2 ^ 31
    buffers := [pinnedBuffer 5120 (2 ^ 31)]
    filled := List.cons_ne_nil _ _
    sized := by decide }]

def launchingGather (requests : List Request) (byteSize : Nat) : Sys :=
  gatherTensor (Env.successful tritonGatherKernel) (CollectorConfig.launching requests) "INPUT"
    (gpuTensor byteSize) (Sys.fresh requests.length) false

def pinnedScatter (requests : List Request) (datatype : DataType) (batchnShape : List Int)
    (byteSize : Nat) (gathered : Sys) : Sys :=
  scatterTensor (Env.successful tritonGatherKernel) (ResponderConfig.pinned requests) "OUTPUT" datatype
    batchnShape (gpuTensor byteSize) gathered

theorem copied_of_any {s : Sys} (none : s.log.any Event.failed = false) : s.Copied := by
  intro transfer member
  have failed := List.any_eq_false.mp none _ member
  exact failed rfl

theorem pair_copied :
    (pinnedScatter (pairEchoes.map EchoRequest.request) .int16 [3, 1] 6
      (launchingGather (pairEchoes.map EchoRequest.request) 6)).Copied := by
  refine copied_of_any ?_
  rw [launchingGather, gatherTensor, processTensor, processTensorLoop, if_pos (by decide +kernel),
    processTensorLoop, if_pos (by decide +kernel), processTensorLoop, if_pos (by decide +kernel),
    processTensorLoop, if_neg (by decide +kernel)]
  decide +kernel

theorem echoed_pair :
    let requests := pairEchoes.map EchoRequest.request
    Echoed requests "INPUT" "OUTPUT" inputOnes (launchingGather requests 6)
      (pinnedScatter requests .int16 [3, 1] 6 (launchingGather requests 6)) :=
  echoed_of_launchesFit (Env.successful tritonGatherKernel) _ _ pairEchoes rfl rfl rfl rfl rfl false
    ⟨0, rfl⟩ (by decide) "OUTPUT" (Or.inr ⟨by decide, rfl⟩) ⟨fun _ _ => rfl, fun _ _ => rfl, pair_copied⟩
    (fun _ => 256) (by decide +kernel) inputOnes

theorem wide_lost :
    let gathered := launchingGather (wideEchoes.map EchoRequest.request) (2 ^ 31)
    let done := pinnedScatter (wideEchoes.map EchoRequest.request) .uint8 [-1] (2 ^ 31) gathered
    done.log.any Event.failed = false ∧
      .given 0 { block := .output 3, offset := 0 } (2 ^ 31) ∈ done.log.drop gathered.log.length ∧
      done.device.memory inputOnes (.output 3) 0 = 0 := by
  rw [launchingGather, gatherTensor, processTensor, processTensorLoop, if_pos (by decide +kernel),
    processTensorLoop, if_neg (by decide +kernel)]
  decide +kernel

theorem not_echoed_wide :
    let requests := wideEchoes.map EchoRequest.request
    let gathered := launchingGather requests (2 ^ 31)
    let done := pinnedScatter requests .uint8 [-1] (2 ^ 31) gathered
    NothingFails (Env.successful tritonGatherKernel) done ∧
      ¬ Echoed requests "INPUT" "OUTPUT" inputOnes gathered done := by
  intro requests gathered done
  obtain ⟨copied, given, missing⟩ := wide_lost
  refine ⟨⟨fun _ _ => rfl, fun _ _ => rfl, copied_of_any copied⟩, fun echoed => ?_⟩
  have held := (echoed 0 _ rfl (by decide)).2.2 _ _ given
  have first := valuesAt_congr.mp (held.trans (List.append_nil _)) 0 (by decide)
  exact absurd (missing.symm.trans first) (by decide)

end TritonBackend
