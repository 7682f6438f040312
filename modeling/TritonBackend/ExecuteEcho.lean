import TritonBackend.ExecuteModel
import TritonBackend.ExecuteProtocol
import TritonBackend.RoundTrip
import TritonBackend.StateReturn

/-!
What the clients of a batch get. Whatever fails on the way, a response that is sent without
an error has been given a buffer for the output, and it holds the bytes of the request's own
input.
-/

namespace TritonBackend

open CopyStream

/-! A response that is still live has been given its buffer. -/

namespace Responder

section
variable (env : Env) (cfg : ResponderConfig)

theorem live_of_reaches {r r' : Responder} (reaches : r.toSys.Reaches r'.toSys) {idx : Nat}
    (live : r'.isLive idx = true) : r.isLive idx = true := by
  by_contra gone
  have absent : r.toSys.Gone idx := fun response present =>
    gone (isLive_iff.mpr ⟨response, present⟩)
  rw [gone_isLive (reaches_gone reaches absent)] at live
  cases live

theorem setFixedSizeBuffer_given (r : Responder) (idx : Nat) (outputName : String)
    (tensorByteSize tensorOffset : Nat) (tensor : OutputTensor) (state : Bool) :
    let r' := (setFixedSizeBuffer env cfg r idx outputName tensorByteSize tensorOffset tensor state).2
    r'.isLive idx = true → Gives r.toSys r'.toSys idx tensorByteSize := by
  intro r' live
  have obtains := obtainBuffer_reaches env r idx tensorByteSize state
  simp only [r', setFixedSizeBuffer] at live ⊢
  rcases obtainBuffer_cases env r idx tensorByteSize state with
    ⟨error, failed⟩ | ⟨buffer, memory, _, obtained⟩
  · simp only [failed] at live
    have gone := respondAndSetNullIfError_gone { r.toSys with tick := r.tick + 1 } idx
      (Option.some_ne_none error)
    obtain ⟨response, present⟩ := isLive_iff.mp live
    exact absurd present (gone response)
  · simp only [obtained] at obtains ⊢
    have given : Gives r.toSys { Sys.note { r.toSys with tick := r.tick + 1 }
        (.given idx buffer tensorByteSize) with nextBlock := r.nextBlock + 1 } idx tensorByteSize :=
      ⟨buffer, by simp⟩
    generalize Sys.mk _ _ _ _ = s at given obtains ⊢
    split
    · exact given
    · have outcome := copyBuffer_outcome env s outputName tensor.memoryType tensor.memoryTypeId
        memory.memoryType memory.memoryTypeId tensorByteSize (tensor.buffer.advance tensorOffset)
        buffer cfg.copyOnStream
      exact gives_mono (Sys.Reaches.refl _) (outcome.reaches.respond idx _) given

theorem setOutput_given (r : Responder) (idx : Nat) (outputName : String)
    (tensorByteSize tensorOffset : Nat) (tensor : OutputTensor)
    (live : (setOutput env cfg r idx outputName tensorByteSize tensorOffset tensor).isLive idx = true) :
    Gives r.toSys (setOutput env cfg r idx outputName tensorByteSize tensorOffset tensor).toSys idx
      tensorByteSize := by
  have called := respondToCall_reaches env r idx .responseOutput
  simp only [setOutput] at live ⊢
  split at live
  next still =>
    rw [if_pos still]
    exact gives_mono called (Sys.Reaches.refl _) (setFixedSizeBuffer_given env cfg _ idx outputName
      tensorByteSize tensorOffset tensor false live)
  next gone => exact absurd live gone

theorem findOutput_given (r : Responder) (idx : Nat) (outputName : String)
    (tensorByteSize tensorOffset : Nat) (tensor : OutputTensor) (names : List String)
    (asked : outputName ∈ names)
    (live : (findOutput env cfg r idx outputName tensorByteSize tensorOffset tensor names).isLive idx =
      true) :
    Gives r.toSys (findOutput env cfg r idx outputName tensorByteSize tensorOffset tensor names).toSys
      idx tensorByteSize := by
  induction names generalizing r with
  | nil => cases asked
  | cons name rest ih =>
      have called := respondToCall_reaches env r idx .requestOutputName
      simp only [findOutput] at live ⊢
      split at live
      next matched =>
        rw [if_pos matched]
        exact gives_mono called (Sys.Reaches.refl _) (setOutput_given env cfg _ idx outputName
          tensorByteSize tensorOffset tensor live)
      next other =>
        rw [if_neg other]
        have still := live_of_reaches (findOutput_reaches env cfg _ idx outputName tensorByteSize
          tensorOffset tensor rest) live
        have later : outputName ∈ rest := by
          refine (List.mem_cons.mp asked).resolve_left fun same => other ?_
          rw [still, same, Bool.true_and, beq_self_eq_true]
        exact gives_mono called (Sys.Reaches.refl _) (ih _ later live)

theorem respondOutput_given (r : Responder) (idx : Nat) (outputName : String)
    (tensorByteSize tensorOffset : Nat) (tensor : OutputTensor)
    (asked : outputName ∈ outputNames cfg idx)
    (live : (respondOutput env cfg r idx outputName tensorByteSize tensorOffset tensor).isLive idx =
      true) :
    Gives r.toSys (respondOutput env cfg r idx outputName tensorByteSize tensorOffset tensor).toSys idx
      tensorByteSize := by
  have called := respondToCall_reaches env r idx .requestOutputCount
  simp only [respondOutput] at live ⊢
  split at live
  next started =>
    rw [if_pos started]
    split at live
    next still =>
      rw [if_pos still]
      exact gives_mono called (Sys.Reaches.refl _) (findOutput_given env cfg _ idx outputName
        tensorByteSize tensorOffset tensor _ asked live)
    next gone => exact absurd live gone
  next gone => exact absurd live gone

theorem processResponses_given (entry : Nat) (outputName : String) (datatype : DataType)
    (batchnBatchSize : Int) (tensor : OutputTensor) {share : Nat → Nat} (batchnShape : List Int)
    (shares : ∀ idx, tensorShare env cfg entry idx datatype batchnShape = share idx) (r : Responder)
    (batchSizeOffset : Int) (tensorOffset idx count : Nat) {other : Nat} (lower : idx ≤ other)
    (upper : other < idx + count) (asked : outputName ∈ outputNames cfg other) :
    let r' := (processResponses env cfg entry outputName datatype batchnBatchSize tensor batchnShape r
      batchSizeOffset tensorOffset idx count).2
    r'.isLive other = true → Gives r.toSys r'.toSys other (share other) := by
  induction count generalizing batchnShape r batchSizeOffset tensorOffset idx with
  | zero => omega
  | succ count ih =>
      have enters := enterResponse_reaches env cfg r entry idx "output tensor" outputName tensor
        tensorOffset batchnBatchSize batchSizeOffset
      simp only [processResponses, shares]
      generalize enterResponse env cfg r entry idx "output tensor" outputName tensor tensorOffset
        batchnBatchSize batchSizeOffset = entered at enters ⊢
      have responds := respondOutput_reaches env cfg entered idx outputName (share idx) tensorOffset
        tensor
      intro live
      have later := processResponses_reaches env cfg entry outputName datatype batchnBatchSize tensor
        (responseShape env cfg entry idx batchnShape)
        (respondOutput env cfg entered idx outputName (share idx) tensorOffset tensor)
        (nextBatchOffset env cfg entry idx batchSizeOffset) (tensorOffset + share idx) (idx + 1) count
      by_cases mine : other = idx
      · subst other
        exact gives_mono enters later (respondOutput_given env cfg entered idx outputName (share idx)
          tensorOffset tensor asked (live_of_reaches later live))
      · exact gives_mono (enters.trans responds) (Sys.Reaches.refl _) (ih _
          (fun other => (tensorShare_responseShape env cfg entry other idx datatype batchnShape).trans
            (shares other)) _ _ _ (idx + 1) (by omega) (by omega) live)

end

end Responder

/-! What is gathered. Each chunk is a buffer of one request, which loses its response when
the copy fails. -/

theorem visitedFrom_split (idx : Nat) {before after : List (List MemoryDesc)}
    {buffers : List MemoryDesc} (filled : ∀ descs ∈ before ++ buffers :: after, descs ≠ []) :
    visitedFrom false idx (before ++ buffers :: after) = visitedFrom false idx before ++
      (buffers.map (Prod.mk (idx + before.length)) ++
        visitedFrom false (idx + before.length + 1) after) := by
  induction before generalizing idx with
  | nil =>
      have some : buffers.isEmpty = false := by simpa using filled buffers (by simp)
      simp [visitedFrom, some]
  | cons first rest ih =>
      have some : first.isEmpty = false := by simpa using filled first (by simp)
      have later := ih (idx + 1) fun descs member => filled descs (List.mem_cons_of_mem _ member)
      simp only [List.cons_append, visitedFrom, some, Bool.and_false, Bool.false_eq_true, if_false,
        later, List.append_assoc, List.length_cons]
      rw [show idx + 1 + rest.length = idx + (rest.length + 1) by omega]

theorem inputChunks_single {inputName : String} {requests : List Request}
    (filled : ∀ descs ∈ batchBuffers inputName requests, descs ≠ []) :
    inputChunks false inputName requests =
      (visitedFrom false 0 (batchBuffers inputName requests)).map fun visit =>
        singleChunk visit.1 visit.2 := by
  unfold batchBuffers at filled ⊢
  rw [inputChunks]
  generalize requests.map (requestBuffers inputName) = inputs at filled ⊢
  cases inputs with
  | nil => rfl
  | cons buffers rest =>
      have some : buffers.isEmpty = false := by simpa using filled buffers (by simp)
      simp [mergeBuffers_false, resumedFrom, visitedFrom, some]

theorem inputChunks_split {inputName : String} {requests : List Request}
    (filled : ∀ descs ∈ batchBuffers inputName requests, descs ≠ [])
    {before after : List (List MemoryDesc)} {buffers : List MemoryDesc}
    (split : batchBuffers inputName requests = before ++ buffers :: after) :
    ∃ early late, inputChunks false inputName requests =
        early ++ (buffers.map (singleChunk before.length) ++ late) ∧
      totalByteSize early = bufferByteSize before.flatten := by
  have visited := visitedFrom_unreached false 0 before
  rw [unreached_filled false false fun descs member => filled descs (by simp [split, member])]
    at visited
  rw [inputChunks_single filled, split]
  rw [split] at filled
  rw [visitedFrom_split 0 filled]
  refine ⟨(visitedFrom false 0 before).map fun visit => singleChunk visit.1 visit.2,
    (visitedFrom false (0 + before.length + 1) after).map fun visit => singleChunk visit.1 visit.2,
    by simp [Function.comp_def], ?_⟩
  rw [visited, List.flatten_nil, List.append_nil, totalByteSize_eq]
  simp [singleChunk, Function.comp_def]

/-- What the collector leaves to the responder: the input of each request that is still
live, at its place in the tensor. -/
structure InputCollected (inputs : List (List MemoryDesc)) (initial : Memory Block UInt8)
    (tensor : Tensor) (s : Sys) : Prop where
  idle : s.device.queue = []
  numbered : (s.courier []).Numbered blockAge
  placed : tensor.Placed s
  held : ∀ before buffers after, inputs = before ++ buffers :: after → ¬ s.Gone before.length →
    valuesAt (s.device.memory initial) (tensor.buffer.advance (bufferByteSize before.flatten))
      (bufferByteSize buffers) = bufferBytes initial buffers

section
variable (env : Env) {cfg : CollectorConfig}

theorem collected_of_silent {inputs : List (List MemoryDesc)} {initial : Memory Block UInt8}
    {tensor : Tensor} {s : Sys} (fresh : s.log = []) (placed : tensor.Placed s)
    (held : ∀ before buffers after, inputs = before ++ buffers :: after →
      valuesAt initial (tensor.buffer.advance (bufferByteSize before.flatten))
        (bufferByteSize buffers) = bufferBytes initial buffers) :
    InputCollected inputs initial tensor s where
  idle := by rw [fresh_device fresh]; rfl
  numbered := fresh_numbered fresh (by simp)
  placed := placed
  held before buffers after split _ := by
    rw [fresh_memory fresh]
    exact held before buffers after split

/-- The copying path, whatever fails on it. -/
theorem processTensor_collected (direct : cfg.Direct) {inputName : String}
    (looks : LooksUp env cfg.requests inputName) (batch : cfg.requests ≠ [])
    (filled : ∀ descs ∈ batchBuffers inputName cfg.requests, descs ≠ []) {s : Sys}
    (fresh : s.log = []) (tick : Nat) {tensor : Tensor}
    (place : tensor.buffer = { block := .gathered s.nextBlock, offset := 0 })
    (sized : tensor.byteSize = bufferByteSize (batchBuffers inputName cfg.requests).flatten)
    (initial : Memory Block UInt8) :
    let ready := (Collector.create s false).withSys { s with tick, nextBlock := s.nextBlock + 1 }
    let c := processTensor env cfg inputName tensor ready
    c.needSync = false →
      InputCollected (batchBuffers inputName cfg.requests) initial tensor c.toSys := by
  intro ready c flag
  have bare : ready.Bare := (bare_create s false).sameGroups (sameGroups_withSys _ _)
  have block : tensor.buffer.block = .gathered s.nextBlock := by rw [place]
  obtain ⟨after, run, shape⟩ := processTensor_run looks batch tensor ready
  rw [direct.single] at run
  obtain ⟨carries, last, tracks⟩ := chunkRun_direct env True direct run bare []
  rw [List.append_nil] at carries
  have same : c = after := shape.trans (finishTensor_direct env direct last tensor)
  rw [same] at flag ⊢
  have admitted : s.Carries True [] ready.toSys
      (tensorJobs tensor 0 (inputChunks false inputName cfg.requests)) := by
    have planned := admit_carries s tick block (inputChunks false inputName cfg.requests) []
    rwa [List.append_nil] at planned
  have numbered : (s.courier []).Numbered blockAge := fresh_numbered fresh (by simp)
  have still : ready.toSys.device = Device.fresh := fresh_device (s := ready.toSys) fresh
  have settled : after.toSys.device.queue = [] := by
    rw [(tracks.2 flag).2, still]
    rfl
  refine ⟨settled, Sys.Carries.numbered True (admitted.trans carries) numbered, ?_, ?_⟩
  · refine ⟨?_, ?_⟩
    · rintro ⟨n, same⟩
      rw [block] at same
      cases same
    · have reached := chunkRun_reaches env cfg run
      rw [block]
      exact reaches_nextBlock reached
  -- a chunk whose copy failed has cost its request the response
  · intro before buffers later split live
    obtain ⟨early, late, chunks, size⟩ := inputChunks_split filled split
    have total := inputChunks_byteSize false inputName cfg.requests
    rw [unreached_filled _ _ filled, List.flatten_nil, bufferByteSize_nil, Nat.add_zero] at total
    have held : valuesAt (after.toSys.device.memory initial)
        (tensor.buffer.advance (bufferByteSize before.flatten))
        (totalByteSize (buffers.map (singleChunk before.length))) = bufferBytes initial
          ((buffers.map (singleChunk before.length)).map ContiguousBuffer.memoryDesc) :=
      placed_bytes (by
        intro first input rest parts index bound
        have mine : before.length ∈ input.requestRange := by
          have present : input ∈ buffers.map (singleChunk before.length) := by simp [parts]
          obtain ⟨desc, _, rfl⟩ := List.mem_map.mp present
          simp [singleChunk, ContiguousBuffer.requestRange]
        have planned : chunkJob input (tensor.buffer.advance
            (bufferByteSize before.flatten + totalByteSize first)) ∈
              tensorJobs tensor 0 (inputChunks false inputName cfg.requests) := by
          refine mem_tensorJobs.mpr ⟨early ++ first, input, rest ++ late, ?_, ?_, ?_⟩
          · rw [chunks, parts]
            simp
          · rw [sized, total, chunks, parts]
            simp only [totalByteSize_append, totalByteSize_cons]
            omega
          · rw [Nat.zero_add, totalByteSize_append, size]
        have delivered := midway_delivered initial (by rw [fresh_device fresh]; rfl)
          ⟨numbered, List.Pairwise.nil⟩ admitted carries settled planned mine
          (fun lost => live lost.1) (Nat.zero_le _) (by simp) bound
        rw [fresh_memory fresh] at delivered
        simpa [chunkJob, chunkTransfer, Int.add_assoc] using delivered)
    rw [totalByteSize_eq, List.map_map] at held
    simpa [Function.comp_def, singleChunk] using held

/-- The whole call: the input where it lies, or a new buffer. -/
theorem processTensorDst_collected (direct : cfg.Direct) {inputName : String}
    (looks : LooksUp env cfg.requests inputName)
    (filled : ∀ descs ∈ batchBuffers inputName cfg.requests, descs ≠ [])
    (counts : countsAll (batchBuffers inputName cfg.requests).flatten = true) {s : Sys}
    (fresh : s.log = []) (allowedInputTypes : List (MemoryType × Int)) (kept : MemoryDesc)
    (initial : Memory Block UInt8) :
    let gathered := processTensorDst env cfg inputName none 0 allowedInputTypes kept
      (Collector.create s false)
    gathered.error = none → gathered.collector.needSync = false →
      InputCollected (batchBuffers inputName cfg.requests) initial gathered.dst
        gathered.collector.toSys := by
  intro gathered success flag
  obtain ⟨size, _, path⟩ := processTensorDst_eq env cfg looks 0 allowedInputTypes kept
    (Collector.create s false) rfl success
  change gathered.dst.byteSize = _ at size
  rw [countsAll_iff.mp counts] at size
  rcases path with ⟨_, ⟨memoryType, memoryTypeId, block⟩, whole, tick, same⟩ | ⟨_, place, tick, same⟩
  · change gathered.collector = _ at same
    change gathered.dst.buffer.block = _ at block
    rw [same]
    refine collected_of_silent fresh ⟨?_, ?_⟩ ?_
    · rintro ⟨n, staging⟩
      rw [block] at staging
      cases staging
    · rw [block]
      exact Nat.zero_le _
    · intro before buffers after split
      have held := (whole initial).trans (bufferBytes_counted initial counts)
      change valuesAt initial gathered.dst.buffer gathered.dst.byteSize = _ at held
      rw [size, split] at held
      exact valuesAt_request held
  · change gathered.collector = (fillTensor env cfg inputName gathered.dst _).collector at same
    change gathered.dst.buffer = _ at place
    by_cases empty : gathered.dst.byteSize = 0
    · rw [same, fillTensor, if_neg (not_not_intro empty)]
      refine collected_of_silent fresh ⟨?_, ?_⟩ ?_
      · rintro ⟨n, staging⟩
        rw [place] at staging
        cases staging
      · rw [place]
        exact Nat.le_refl _
      · intro before buffers after split
        have none : bufferByteSize buffers = 0 := by
          have total := size.symm.trans empty
          rw [split, List.flatten_append, List.flatten_cons, bufferByteSize_append,
            bufferByteSize_append] at total
          omega
        rw [none, valuesAt_zero]
        exact (List.length_eq_zero_iff.mp ((length_bufferBytes initial buffers).trans none)).symm
    · have batch : cfg.requests ≠ [] := by
        intro none
        exact empty (size.trans (by simp [none]))
      rw [same, fillTensor_collector env cfg inputName empty] at flag ⊢
      exact processTensor_collected env direct looks batch filled fresh tick place size initial flag

end

section
variable (server : Server) (requests : List Request)

/-- An error of the call, as of one that finds no memory, costs every request its response. -/
theorem collectInput_collected {inputName : String} (looks : LooksUp server.toEnv requests inputName)
    (filled : ∀ descs ∈ batchBuffers inputName requests, descs ≠ [])
    (counts : countsAll (batchBuffers inputName requests).flatten = true)
    (initial : Memory Block UInt8) :
    let collected := collectInput server requests inputName (Sys.fresh requests.length)
    collected.needSync = false → (∃ idx < requests.length, ¬ collected.sys.Gone idx) →
      InputCollected (batchBuffers inputName requests) initial collected.tensor collected.sys := by
  intro collected flag ⟨idx, bound, live⟩
  have direct := inputCollector_direct server requests
  obtain ⟨bare, _⟩ := processTensorDst_bare server.toEnv refuses_refusing direct inputName 0
    hostInputTypes (server.uninitialized (Sys.fresh requests.length).tick)
    (bare_create (Sys.fresh requests.length) false)
  have held := processTensorDst_collected server.toEnv direct looks filled counts
    (s := Sys.fresh requests.length) rfl hostInputTypes
    (server.uninitialized (Sys.fresh requests.length).tick) initial
  simp only [collected, collectInput] at flag live ⊢
  generalize processTensorDst server.toEnv (inputCollector server requests) inputName none 0
    hostInputTypes _ _ = gathered at bare held flag live ⊢
  have still := bare.sameGroups (sameGroups_withSys gathered.collector
    (respondAllAndSetNullIfError gathered.collector.toSys requests.length gathered.error))
  rw [finalize_bare server.toEnv still] at flag live ⊢
  rw [toSys_waitBufferReady, toSys_withSys] at live ⊢
  cases failed : gathered.error with
  | some error =>
      rw [failed] at live
      refine absurd ?_ live
      exact sendFrom_gone gathered.collector.toSys _ 0 requests.length (Nat.zero_le idx) (by omega)
  | none =>
      exact held failed flag

end

/-! What is scattered. -/

namespace Responder

section
variable (env : Env) (cfg : ResponderConfig)

theorem close_given {base : List (Copy Block)} {r : Responder} (calm : r.Calm cfg base) {s : Sys}
    (reached : s.Reaches r.toSys) {idx size : Nat} {buffer : Address}
    (given : .given idx buffer size ∈ (r.close env cfg).log.drop s.log.length) :
    .given idx buffer size ∈ r.log.drop s.log.length := by
  obtain ⟨closes, _⟩ := close_serves env cfg (fun _ _ _ => False) calm
  obtain ⟨added, log⟩ := reaches_log (serves_reaches closes)
  rw [← log, List.drop_append_of_le_length (reaches_log reached).length_le, List.mem_append] at given
  rcases given with early | late
  · exact early
  · obtain ⟨_, _, _, _, _, _, _, _, never⟩ := serves_given closes log.symm late
    exact absurd never id

/-- One call on a responder of its own and `Finalize`: a response that is live at the end
has what it asked for. -/
theorem scattered {s : Sys} (idle : s.device.queue = []) (numbered : (s.courier []).Numbered blockAge)
    (outputName : String) (datatype : DataType) (shape : List Int) {tensor : OutputTensor}
    (placed : tensor.Placed s) (initial : Memory Block UInt8) {idx : Nat} :
    let call := ResponderCall.processTensor outputName datatype shape tensor
    let done := (call.run env cfg (create s)).close env cfg
    let share := call.share env cfg s.tick
    ¬ done.Gone idx →
      (idx < s.responses.length → outputName ∈ outputNames cfg idx → Gives s done idx (share idx)) ∧
      ∀ buffer size, .given idx buffer size ∈ done.log.drop s.log.length →
        size = share idx ∧ valuesAt (done.device.memory initial) buffer size =
          valuesAt (s.device.memory initial) (tensor.buffer.advance (shareStart share idx))
            (share idx) := by
  intro call done share live
  have start : (create s).Calm cfg s.device.queue := calm_create cfg s
  have located (other : OutputTensor) (same : call.tensor? = some other) : other.Placed s := by
    cases same
    exact placed
  obtain ⟨made, calm⟩ := call_calm env cfg start ⟨numbered, List.Pairwise.nil⟩ call located
  have reached : s.Reaches (call.run env cfg (create s)).toSys := serves_reaches made
  obtain ⟨closes, _⟩ := close_serves env cfg (fun _ _ _ => True) calm
  constructor
  · intro bound asked
    have still : (call.run env cfg (create s)).isLive idx = true := by
      by_contra dead
      exact live (reaches_gone (serves_reaches closes) fun response present =>
        dead (isLive_iff.mpr ⟨response, present⟩))
    have finishes := finishTensor_reaches env cfg (processResponses env cfg s.tick outputName datatype
      (shape.headD 0) tensor shape (create s) 0 0 0 s.responses.length).2 tensor
    have given := processResponses_given env cfg s.tick outputName datatype (shape.headD 0) tensor
      shape (fun _ => rfl) (create s) 0 0 0 s.responses.length (Nat.zero_le idx) (by omega) asked
      (live_of_reaches finishes still)
    exact gives_mono (Sys.Reaches.refl _) (finishes.trans (serves_reaches closes)) given
  · intro buffer size given
    obtain ⟨_, sized, held⟩ := sharesHeld env cfg idle numbered [] [] call rfl (by
      intro step member other same
      rw [List.nil_append, List.mem_singleton] at member
      subst member
      exact located other same) initial idx buffer size (close_given env cfg calm reached given) live
    exact ⟨sized, held⟩

end

end Responder

/-! The batch. -/

/-- A request for the model: its one input has the model's type and shape, and the server holds
all of its bytes, none of them at a null pointer. -/
def ModelState.Accepts (model : ModelState) (request : Request) : Prop :=
  ∃ input batch, request.inputs = [input] ∧ input.name = model.inputName ∧
    input.shape = model.itemsShape batch ∧ input.buffers ≠ [] ∧
    (∀ desc ∈ input.buffers, desc.Sound) ∧
    (bufferByteSize input.buffers : Int) =
      getByteSize model.datatype input.shape

theorem getByteSize_small (datatype : DataType) (shape : List Int) :
    getByteSize datatype shape < 2 ^ 63 := by
  simp only [getByteSize]
  split
  · decide
  split
  · decide
  · simp only [toInt64, Int.bmod_def]
    omega

theorem toSize_of_bytes {datatype : DataType} {shape : List Int} {size : Nat}
    (sized : (size : Int) = getByteSize datatype shape) :
    toSize (getByteSize datatype shape) = size := by
  have small := getByteSize_small datatype shape
  rw [← sized] at small ⊢
  exact toSize_of_fits (Int.natCast_nonneg size) small

theorem accepts_buffers {model : ModelState} {request : Request} (accepts : model.Accepts request) :
    (request.input? model.inputName).isSome ∧ requestBuffers model.inputName request ≠ [] ∧
      ∀ desc ∈ requestBuffers model.inputName request, desc.Sound := by
  obtain ⟨input, batch, single, named, _, filled, sound, _⟩ := accepts
  have found : request.input? model.inputName = some input := by
    simp [Request.input?, single, named]
  rw [requestBuffers_of_input found, found]
  exact ⟨rfl, filled, sound⟩

section
variable {model : ModelState}

theorem accepts_share {env : Env} {cfg : ResponderConfig}
    (batching : cfg.firstDimBatching = model.supportsFirstDimBatching)
    (shapes : ∀ entry request, env.unsetShape entry request = none) {idx : Nat} {request : Request}
    (present : cfg.requests[idx]? = some request) (accepts : model.Accepts request) (entry : Nat) :
    Responder.tensorShare env cfg entry idx model.datatype (model.itemsShape (-1)) =
      bufferByteSize (requestBuffers model.inputName request) := by
  obtain ⟨input, batch, single, named, shape, _, _, sized⟩ := accepts
  have found : request.input? model.inputName = some input := by
    simp [Request.input?, single, named]
  have own : Responder.responseShape env cfg entry idx (model.itemsShape (-1)) = input.shape := by
    rw [Responder.responseShape, batching, shape, ModelState.itemsShape, ModelState.itemsShape]
    split
    next first =>
      simp [Responder.batchDim, Responder.lookupShape, Responder.readDim, shapes, present, single,
        shape, ModelState.itemsShape, first]
    next none => rfl
  rw [Responder.tensorShare, own, requestBuffers_of_input found]
  exact toSize_of_bytes sized

/-- The clients have what they asked for: each response that is sent without an error has been
given a buffer for the output, and all that it has been given holds the input. -/
def ModelState.Echoes (model : ModelState) (requests : List Request) (initial : Memory Block UInt8)
    (done : Sys) : Prop :=
  ∀ idx request, requests[idx]? = some request → .send idx none ∈ done.log →
    (model.outputName ∈ request.outputs → ∃ buffer size, .given idx buffer size ∈ done.log) ∧
    ∀ buffer size, .given idx buffer size ∈ done.log →
      valuesAt (done.device.memory initial) buffer size =
        bufferBytes initial (requestBuffers model.inputName request)

theorem sendRemaining_given {s : Sys} {idx size : Nat} {buffer : Address} :
    .given idx buffer size ∈ (sendRemaining s).log ↔ .given idx buffer size ∈ s.log := by
  rw [sendRemaining, sendRemainingFrom_log]
  simp

theorem sendRemaining_device (s : Sys) : (sendRemaining s).device = s.device := by
  have same : (sendRemaining s).actions = s.actions := by
    rw [sendRemaining, Sys.actions, sendRemainingFrom_log, List.filterMap_append]
    simp [Event.action?, Sys.actions]
  rw [Sys.device, same, Sys.device]

variable (server : Server) (requests : List Request)

theorem respondOutput_close (firstDimBatching : Bool) (outputName : String) (datatype : DataType)
    (shape : List Int) (tensor : Tensor) (s : Sys) :
    let responded := respondOutput server requests firstDimBatching outputName datatype shape tensor s
    responded.needSync = false → responded.sys =
      ((ResponderCall.processTensor outputName datatype shape tensor.output).run server.toEnv
        (outputResponder requests firstDimBatching) (Responder.create s)).close server.toEnv
          (outputResponder requests firstDimBatching) := by
  intro responded flag
  simp only [responded, respondOutput] at flag ⊢
  simp only [Responder.close, ResponderCall.run, Tensor.output, flag, Responder.synchronize,
    Bool.false_eq_true, if_false]

theorem accepts_batch (accepted : ∀ request ∈ requests, model.Accepts request) :
    (∀ descs ∈ batchBuffers model.inputName requests, descs ≠ []) ∧
      countsAll (batchBuffers model.inputName requests).flatten = true := by
  constructor
  · intro descs member
    obtain ⟨other, inside, rfl⟩ := List.mem_map.mp member
    exact (accepts_buffers (accepted other inside)).2.1
  · refine countsAll_of_sound fun desc member => ?_
    obtain ⟨buffers, held, inside⟩ := List.mem_flatten.mp member
    obtain ⟨other, present, rfl⟩ := List.mem_map.mp held
    exact (accepts_buffers (accepted other present)).2.2 desc inside

theorem batchBuffers_split (inputName : String) {idx : Nat} {request : Request}
    (present : requests[idx]? = some request) :
    let buffers := batchBuffers inputName requests
    buffers[idx]? = some (requestBuffers inputName request) ∧ (buffers.take idx).length = idx ∧
      buffers = buffers.take idx ++ requestBuffers inputName request :: buffers.drop (idx + 1) := by
  intro buffers
  have mine : buffers[idx]? = some (requestBuffers inputName request) := by simp [buffers, present]
  obtain ⟨inside, same⟩ := List.getElem?_eq_some_iff.mp mine
  refine ⟨mine, List.length_take_of_le (Nat.le_of_lt inside), ?_⟩
  rw [← same, ← List.drop_eq_getElem_cons inside, List.take_append_drop]

theorem echoBatch_echoes (accepted : ∀ request ∈ requests, model.Accepts request)
    (looks : LooksUp server.toEnv requests model.inputName)
    (shapes : ∀ entry request, server.unsetShape entry request = none)
    (initial : Memory Block UInt8) :
    let done := echoBatch server requests model.supportsFirstDimBatching model.inputName
      model.outputName model.datatype (model.itemsShape (-1))
    done.unexpectedSync = false → model.Echoes requests initial done.sys := by
  intro done flag idx request present sent
  have bound : idx < requests.length := (List.getElem?_eq_some_iff.mp present).1
  obtain ⟨filled, counts⟩ := accepts_batch requests accepted
  have collected := collectInput_collected server requests looks filled counts initial
  have gathers := collectInput_logs server requests gathers_refusing model.inputName
    (Sys.fresh requests.length)
  have collects := collectInput_reaches server requests model.inputName (Sys.fresh requests.length)
  simp only [done, echoBatch] at flag sent ⊢
  generalize collectInput server requests model.inputName (Sys.fresh requests.length) = gathered
    at collected gathers collects flag sent ⊢
  obtain ⟨text, made⟩ : ∃ text, typedString server model.datatype gathered = some text := by
    refine Option.ne_none_iff_exists'.mp fun unmade => ?_
    simp only [unmade] at sent
    exact absurd rfl ((gathers.all rfl sent).1 idx)
  simp only [made, Bool.or_eq_false_iff] at flag sent ⊢
  have responds := respondOutput_reaches server requests model.supportsFirstDimBatching
    model.outputName model.datatype (model.itemsShape (-1)) gathered.tensor gathered.sys
  have refuses := respondOutput_logs server requests model.supportsFirstDimBatching
    model.outputName model.datatype (model.itemsShape (-1)) gathered.tensor gathered.sys
  have closes := respondOutput_close server requests model.supportsFirstDimBatching
    model.outputName model.datatype (model.itemsShape (-1)) gathered.tensor gathered.sys flag.2
  generalize respondOutput server requests model.supportsFirstDimBatching model.outputName
    model.datatype (model.itemsShape (-1)) gathered.tensor gathered.sys = responded
    at responds refuses closes flag sent ⊢
  -- a success is sent by the last loop, to a response that is still live
  have answered := reaches_answered (collects.trans responds) (fresh_answered requests.length)
  have silent := (gathers.mono fun event kept => kept.1).trans refuses
  have slot := (sendRemaining_live answered (fun response member =>
    silent.all rfl member response rfl) idx).mpr sent
  have live : ¬ responded.sys.Gone idx := by
    intro gone
    rw [sendRemaining, sendRemainingFrom_responses] at slot
    obtain ⟨response, held⟩ := Option.isSome_iff_exists.mp slot
    obtain ⟨found, here, rfl⟩ := Option.bind_eq_some_iff.mp held
    exact gone response here
  have input := collected flag.1 ⟨idx, bound, fun gone => live (reaches_gone responds gone)⟩
  have given (buffer : Address) (size : Nat) (member : .given idx buffer size ∈ responded.sys.log) :
      .given idx buffer size ∈ responded.sys.log.drop gathered.sys.log.length := by
    obtain ⟨added, log⟩ := reaches_log responds
    rw [← log] at member ⊢
    rw [List.drop_left]
    refine (List.mem_append.mp member).resolve_left fun early => ?_
    exact (gathers.all rfl early).2 idx buffer size rfl
  rw [closes] at live given responds ⊢
  obtain ⟨gives, held⟩ := Responder.scattered server.toEnv
    (outputResponder requests model.supportsFirstDimBatching) input.idle input.numbered
    model.outputName model.datatype (model.itemsShape (-1))
    (show gathered.tensor.output.Placed gathered.sys from ⟨input.placed.direct, input.placed.old⟩)
    initial live
  have lengths : gathered.sys.responses.length = requests.length := by
    rw [reaches_length collects]
    simp [Sys.fresh]
  constructor
  · intro asked
    obtain ⟨buffer, member⟩ := gives (lengths ▸ bound)
      (by simpa [Responder.outputNames, outputResponder, present] using asked)
    exact ⟨buffer, _, sendRemaining_given.mpr (List.mem_of_mem_drop member)⟩
  -- the share starts where the collector has put the request's own bytes
  · intro buffer size member
    obtain ⟨_, bytes⟩ := held buffer size (given buffer size (sendRemaining_given.mp member))
    have shares (other : Nat) (descs : List MemoryDesc)
        (here : (batchBuffers model.inputName requests)[other]? = some descs) :
        (ResponderCall.processTensor model.outputName model.datatype (model.itemsShape (-1))
          gathered.tensor.output).share server.toEnv
            (outputResponder requests model.supportsFirstDimBatching) gathered.sys.tick other =
          bufferByteSize descs := by
      rw [List.getElem?_map, Option.map_eq_some_iff] at here
      obtain ⟨found, here, rfl⟩ := here
      exact accepts_share rfl shapes here (accepted found (List.mem_of_getElem? here)) _
    obtain ⟨mine, before, split⟩ := batchBuffers_split requests model.inputName present
    have own := input.held _ _ _ split (by
      rw [before]
      exact fun gone => live (reaches_gone responds gone))
    rw [sendRemaining_device, bytes, shares idx _ mine, shareStart_buffers shares (by simp; omega)]
    exact own

end

/-! Any number of calls. -/

def ModelState.serve (model : ModelState) (calls : List (Server × List Request)) : ModelState :=
  calls.foldl (fun model call => (model.execute call.1 call.2).2) model

theorem execute_model (server : Server) (requests : List Request) {model : ModelState}
    (shaped : model.Shaped) :
    let after := (model.execute server requests).2
    after.Shaped ∧
      ∃ shapeInitialized batchShape, after = { model with shapeInitialized, batchShape } := by
  have same : ∃ shapeInitialized batchShape,
      model.tensorShape.2 = { model with shapeInitialized, batchShape } := by
    rw [ModelState.tensorShape]
    split
    · exact ⟨_, _, rfl⟩
    · exact ⟨_, _, rfl⟩
  unfold ModelState.execute
  split
  · exact ⟨shaped, _, _, rfl⟩
  · split
    · exact ⟨shaped, _, _, rfl⟩
    · exact ⟨(tensorShape_shaped shaped).2, same⟩

theorem serve_model (calls : List (Server × List Request)) {model : ModelState}
    (shaped : model.Shaped) :
    (model.serve calls).Shaped ∧ ∃ shapeInitialized batchShape,
      model.serve calls = { model with shapeInitialized, batchShape } := by
  induction calls generalizing model with
  | nil => exact ⟨shaped, _, _, rfl⟩
  | cons call rest ih =>
      obtain ⟨still, initialized, kept, same⟩ := execute_model call.1 call.2 shaped
      obtain ⟨last, initialized', kept', later⟩ := ih still
      exact ⟨last, initialized', kept', later.trans (by rw [same])⟩

/-- A call that refuses its batch or passes it on sends nothing but echoes. -/
theorem executed_echoes {model : ModelState} (server : Server) {requests : List Request}
    (accepted : ∀ request ∈ requests, model.Accepts request)
    (looks : LooksUp server.toEnv requests model.inputName)
    (shapes : ∀ entry request, server.unsetShape entry request = none)
    (initial : Memory Block UInt8) {done : Executed}
    (cases : (∃ error, done = Executed.refused requests.length error) ∨
      done.toEcho = echoBatch server requests model.supportsFirstDimBatching
        model.inputName model.outputName model.datatype (model.itemsShape (-1))) :
    done.unexpectedSync = false → model.Echoes requests initial done.sys := by
  intro flag idx request present sent
  rcases cases with ⟨error, rfl⟩ | passed
  · cases sent
  · have echoes := echoBatch_echoes server requests accepted looks shapes initial
    rw [← passed] at echoes
    exact echoes flag idx request present sent

/-- A model whose kept shape may have been set up has its batch echoed. -/
theorem execute_echoes {model current : ModelState} (still : current.Shaped)
    (same : ∃ shapeInitialized batchShape, current = { model with shapeInitialized, batchShape })
    (server : Server) {requests : List Request}
    (accepted : ∀ request ∈ requests, model.Accepts request)
    (looks : LooksUp server.toEnv requests model.inputName)
    (shapes : ∀ entry request, server.unsetShape entry request = none)
    (initial : Memory Block UInt8) :
    let done := (current.execute server requests).1
    done.unexpectedSync = false → model.Echoes requests initial done.sys := by
  intro done
  obtain ⟨initialized, kept, rfl⟩ := same
  have shape := (tensorShape_shaped still).1
  refine executed_echoes server accepted looks shapes initial ?_
  rcases execute_cases server requests _ with ⟨_, refused⟩ | ⟨_, _, passed, _, _⟩
  · exact Or.inl refused
  · rw [shape] at passed
    exact Or.inr passed

def rowsModelConfig : JsonTree := .object [
  ("input", .array [.object [
    ("name", .string "IN"), ("data_type", .string "TYPE_UINT8"), ("dims", .array [.int 2])]]),
  ("output", .array [.object [
    ("name", .string "OUT"), ("data_type", .string "TYPE_UINT8"), ("dims", .array [.int 2])]])]

def rowsModel : ModelState := {
  BackendModel.create false with
  maxBatchSize := 8
  inputName := "IN"
  outputName := "OUT"
  datatype := .uint8
  shapeInitialized := false
  nbShape := [2]
  batchShape := [] }

def hostServer : Server := {
  Env.successful gatherSegments with
  modelInstanceState := none
  responseNew := fun _ => none
  requestInputByIndex := fun _ => none
  inputProperties := fun _ => none
  workerCount := 0
  byteOrder := .littleEndian
  dataTypeString := fun _ => ""
  initial := inputOnes
  readable := fun _ _ => true }

def rowsBatch : List Request := [
  { id := "split"
    inputs := [{
      name := "IN"
      shape := [3, 2]
      buffers := [hostBuffer 4096 4, hostBuffer 8192 2] }]
    outputs := ["OUT"] },
  { id := "single"
    inputs := [{ name := "IN", shape := [2, 2], buffers := [hostBuffer 5120 4] }]
    outputs := ["OUT"] }]

theorem rowsBatch_accepted : ∀ request ∈ rowsBatch, rowsModel.Accepts request := by
  intro request member
  simp only [rowsBatch, List.mem_cons, List.not_mem_nil, or_false] at member
  rcases member with rfl | rfl
  · exact ⟨_, 3, rfl, rfl, rfl, List.cons_ne_nil _ _, by decide, by decide⟩
  · exact ⟨_, 2, rfl, rfl, rfl, List.cons_ne_nil _ _, by decide, by decide⟩

theorem rowsBatch_looks : LooksUp hostServer.toEnv rowsBatch "IN" :=
  ⟨fun request member => (accepts_buffers (rowsBatch_accepted request member)).1, fun _ _ => rfl,
    fun _ => rfl, fun _ => rfl⟩

def Echo.Succeeds (done : Echo) (requestCount : Nat) : Prop :=
  done.unexpectedSync = false ∧ done.faulted = false ∧
    ∀ idx < requestCount, .send idx none ∈ done.sys.log

instance (done : Echo) (requestCount : Nat) : Decidable (done.Succeeds requestCount) := by
  unfold Echo.Succeeds
  infer_instance

theorem rows_succeed :
    (echoBatch hostServer rowsBatch true "IN" "OUT" .uint8 [-1, 2]).Succeeds 2 := by
  have filled : processTensorDst hostServer.toEnv (inputCollector hostServer rowsBatch) "IN" none 0
      hostInputTypes (hostServer.uninitialized (Sys.fresh 2).tick)
      (Collector.create (Sys.fresh 2) false) =
        fillTensor hostServer.toEnv (inputCollector hostServer rowsBatch) "IN" {
          buffer := { block := .gathered 0, offset := 0 }
          byteSize := 10
          memoryType := .cpuPinned
          memoryTypeId := 0 } ((Collector.create (Sys.fresh 2) false).withSys
            { Sys.fresh 2 with tick := 8, nextBlock := 1 }) := rfl
  rw [echoBatch, collectInput, show rowsBatch.length = 2 from rfl, filled, fillTensor,
    if_pos (by decide), processTensor, processTensorLoop, if_pos (by decide +kernel),
    processTensorLoop, if_pos (by decide +kernel), processTensorLoop, if_pos (by decide +kernel),
    processTensorLoop, if_neg (by decide +kernel)]
  decide +kernel

def BackendModel.minimalState (model : BackendModel) : ModelState := {
  model with
  inputName := "IN0"
  outputName := "OUT0"
  datatype := .int32
  shapeInitialized := false
  nbShape := [4]
  batchShape := [] }

theorem minimalEchoes (model : BackendModel) (server : Server) {requests : List Request}
    (accepted : ∀ request ∈ requests, model.minimalState.Accepts request)
    (looks : LooksUp server.toEnv requests "IN0")
    (shapes : ∀ entry request, server.unsetShape entry request = none)
    (initial : Memory Block UInt8) :
    let done := model.execute server requests
    done.unexpectedSync = false → model.minimalState.Echoes requests initial done.sys := by
  intro done
  refine executed_echoes server accepted looks shapes initial ?_
  rcases minimal_cases server requests model with ⟨_, refused⟩ | ⟨_, _, passed, _⟩
  · exact Or.inl refused
  · exact Or.inr passed

def in0Batch : List Request := [
  { id := "single"
    inputs := [{ name := "IN0", shape := [4], buffers := [hostBuffer 3072 16] }]
    outputs := ["OUT0"] },
  { id := "split"
    inputs := [{
      name := "IN0"
      shape := [4]
      buffers := [hostBuffer 6144 6, hostBuffer 2048 10] }]
    outputs := ["OUT0"] }]

theorem in0_succeeds :
    (echoBatch hostServer in0Batch false "IN0" "OUT0" .int32 [4]).Succeeds 2 := by
  have filled : processTensorDst hostServer.toEnv (inputCollector hostServer in0Batch) "IN0" none 0
      hostInputTypes (hostServer.uninitialized (Sys.fresh 2).tick)
      (Collector.create (Sys.fresh 2) false) =
        fillTensor hostServer.toEnv (inputCollector hostServer in0Batch) "IN0" {
          buffer := { block := .gathered 0, offset := 0 }
          byteSize := 32
          memoryType := .cpuPinned
          memoryTypeId := 0 } ((Collector.create (Sys.fresh 2) false).withSys
            { Sys.fresh 2 with tick := 8, nextBlock := 1 }) := rfl
  rw [echoBatch, collectInput, show in0Batch.length = 2 from rfl, filled, fillTensor,
    if_pos (by decide), processTensor, processTensorLoop, if_pos (by decide +kernel),
    processTensorLoop, if_pos (by decide +kernel), processTensorLoop, if_pos (by decide +kernel),
    processTensorLoop, if_neg (by decide +kernel)]
  decide +kernel

theorem in0Batch_accepted : ∀ request ∈ in0Batch,
    (BackendModel.create false).minimalState.Accepts request := by
  intro request member
  simp only [in0Batch, List.mem_cons, List.not_mem_nil, or_false] at member
  rcases member with rfl | rfl <;>
    exact ⟨_, 1, rfl, rfl, rfl, List.cons_ne_nil _ _, by decide, by decide⟩

theorem in0Batch_looks : LooksUp hostServer.toEnv in0Batch "IN0" :=
  ⟨fun request member => (accepts_buffers (in0Batch_accepted request member)).1, fun _ _ => rfl,
    fun _ => rfl, fun _ => rfl⟩

theorem minimalEchoes_in0 :
    let done := (BackendModel.create false).execute hostServer in0Batch
    done.Succeeds 2 ∧ (BackendModel.create false).minimalState.Echoes in0Batch inputOnes done.sys := by
  have sent : ((BackendModel.create false).execute hostServer in0Batch).Succeeds 2 := in0_succeeds
  exact ⟨sent, minimalEchoes (BackendModel.create false) hostServer in0Batch_accepted
    in0Batch_looks (fun _ _ => rfl) inputOnes sent.1⟩

end TritonBackend
