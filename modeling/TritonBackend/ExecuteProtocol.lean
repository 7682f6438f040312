import TritonBackend.DirectCollector
import TritonBackend.ExecuteCore
import TritonBackend.Responses
import Mathlib.Algebra.Order.Ring.Int

/-!
What a backend owes the server for a batch: nothing once it returns an error, and
otherwise one response and one release for every request, whatever fails on the way. The
statistics count a request as a success exactly when its response was sent without an error.
-/

namespace TritonBackend

open CopyStream

def Report.statistics? : Report → Option (Nat × Bool)
  | .statistics request success => some (request, success)
  | _ => none

def Report.release? : Report → Option Nat
  | .release request => some request
  | _ => none

def Report.batch? : Report → Option Nat
  | .batchStatistics total => some total
  | _ => none

/-- Nothing is sent or released by a call that returns an error; by any other every request is
answered once, and released once behind that. -/
structure Executed.Settles (done : Executed) (requestCount : Nat) : Prop where
  returned : done.error ≠ none → done.sys.log = [] ∧ done.reports = []
  answered : done.error = none → ∀ idx < requestCount, done.sys.sent.count idx = 1
  named : ∀ idx ∈ done.sys.sent, idx < requestCount
  released : done.error = none → done.reports.filterMap Report.release? = List.range requestCount

/-- The statistics tell the requests whose responses were sent without an error. -/
structure Executed.Reported (done : Executed) (requestCount total : Nat) : Prop where
  requests : done.reports.filterMap Report.statistics? =
    (List.range requestCount).map fun idx => (idx, decide (.send idx none ∈ done.sys.log))
  batch : done.reports.filterMap Report.batch? = [total]

/-! The batch. -/

section
variable (server : Server) (requests : List Request)

theorem inputCollector_direct : (inputCollector server requests).Direct := ⟨rfl, rfl, rfl, rfl⟩

theorem collectInput_reaches (inputName : String) (s : Sys) :
    s.Reaches (collectInput server requests inputName s).sys := by
  have gathers := processTensorDst_reaches server.toEnv (inputCollector server requests) inputName
    none 0 hostInputTypes (server.uninitialized s.tick) (Collector.create s false)
  simp only [collectInput]
  generalize processTensorDst server.toEnv _ inputName none 0 hostInputTypes _ _ = gathered
    at gathers ⊢
  have answers := respondAllAndSetNullIfError_answers gathered.collector.toSys requests.length
    gathered.error
  exact (gathers.trans answers.reaches).trans
    (finalize_reaches server.toEnv (inputCollector server requests) (gathered.collector.withSys _))

theorem collectInput_logs {kind : Event → Prop} (refusing : Refusing kind) (inputName : String)
    (s : Sys) : s.Logs kind (collectInput server requests inputName s).sys := by
  obtain ⟨bare, refuses⟩ := processTensorDst_bare server.toEnv refusing
    (inputCollector_direct server requests) inputName 0 hostInputTypes
    (server.uninitialized s.tick) (bare_create s false)
  simp only [collectInput]
  generalize processTensorDst server.toEnv _ inputName none 0 hostInputTypes _ _ = gathered
    at bare refuses ⊢
  rw [finalize_bare server.toEnv (bare.sameGroups (sameGroups_withSys gathered.collector _)),
    toSys_waitBufferReady]
  exact refuses.trans (respondAllAndSetNullIfError_logs refusing _ _ _)

theorem respondOutput_reaches (firstDimBatching : Bool) (outputName : String) (datatype : DataType)
    (shape : List Int) (tensor : Tensor) (s : Sys) :
    s.Reaches (respondOutput server requests firstDimBatching outputName datatype shape tensor
      s).sys := by
  have scatters := Responder.processTensor_reaches server.toEnv
    (outputResponder requests firstDimBatching) (Responder.create s) outputName datatype shape {
      buffer := tensor.buffer
      memoryType := tensor.memoryType
      memoryTypeId := tensor.memoryTypeId }
  exact scatters.trans (Responder.finalize_reaches server.toEnv _ _)

theorem respondOutput_logs (firstDimBatching : Bool) (outputName : String) (datatype : DataType)
    (shape : List Int) (tensor : Tensor) (s : Sys) :
    s.Logs Event.Refuses (respondOutput server requests firstDimBatching outputName datatype shape tensor
      s).sys := by
  have scatters := Responder.processTensor_logs refuses_refusing given_refuses server.toEnv
    (outputResponder requests firstDimBatching) (Responder.create s) outputName datatype shape {
      buffer := tensor.buffer
      memoryType := tensor.memoryType
      memoryTypeId := tensor.memoryTypeId }
  exact scatters.trans (Responder.finalize_logs refuses_refusing server.toEnv _ _)

end

/-! The last loop. -/

theorem sendRemainingFrom_log (s : Sys) (responses : List (Option Nat)) :
    (sendRemainingFrom s responses).log =
      s.log ++ responses.reduceOption.map fun response => .send response none := by
  induction responses generalizing s with
  | nil => simp [sendRemainingFrom, List.reduceOption_nil]
  | cons first rest ih =>
      cases first with
      | none => simp [sendRemainingFrom, ih, List.reduceOption_cons_of_none]
      | some response =>
          simp [sendRemainingFrom, ih, Sys.responseSend, List.reduceOption_cons_of_some]

theorem sendRemainingFrom_responses (s : Sys) (responses : List (Option Nat)) :
    (sendRemainingFrom s responses).responses = s.responses := by
  induction responses generalizing s with
  | nil => rfl
  | cons first rest ih => cases first <;> exact ih _

/-- The slots that the last loop leaves are those of the responses it sends without an error. -/
theorem sendRemaining_live {s : Sys} {requestCount : Nat} (answered : s.Answered requestCount)
    (refused : ∀ response, .send response none ∉ s.log) (idx : Nat) :
    (((sendRemaining s).responses[idx]?).bind id).isSome = true ↔
      .send idx none ∈ (sendRemaining s).log := by
  rw [sendRemaining, sendRemainingFrom_responses, sendRemainingFrom_log, List.mem_append,
    or_iff_right (refused idx), List.mem_map]
  constructor
  · intro live
    obtain ⟨response, present⟩ := Option.isSome_iff_exists.mp live
    obtain ⟨slot, found, rfl⟩ := Option.bind_eq_some_iff.mp present
    obtain ⟨rfl, _⟩ := answered.live idx response found
    exact ⟨response, List.reduceOption_mem_iff.mpr (List.mem_of_getElem? found), rfl⟩
  · rintro ⟨response, member, same⟩
    cases same
    obtain ⟨slot, found⟩ := List.getElem?_of_mem (List.reduceOption_mem_iff.mp member)
    obtain ⟨rfl, _⟩ := answered.live slot idx found
    simp [found]

theorem reaches_sentInside {s s' : Sys} {requestCount : Nat} (reaches : s.Reaches s')
    (answered : s.Answered requestCount) (inside : ∀ idx ∈ s.sent, idx < requestCount) :
    ∀ idx ∈ s'.sent, idx < requestCount := by
  induction reaches with
  | refl => exact inside
  | @tail before after earlier step ih =>
      have names := reaches_answered earlier answered
      cases step with
      | quiet event silent => simpa [silent] using ih
      | count tick nextBlock later => exact ih
      | answer _ answers =>
          cases answers with
          | respond slot response error live =>
              have bound := (List.getElem?_eq_some_iff.mp live).1
              obtain ⟨rfl, _⟩ := names.live slot response live
              intro idx member
              simp only [Sys.responseSend, sent_setNull, sent_note, Event.sent?,
                Option.toList_some, List.mem_append, List.mem_singleton] at member
              rcases member with early | rfl
              · exact ih idx early
              · exact names.length ▸ bound

theorem sendRemaining_inside {s : Sys} {requestCount : Nat} (answered : s.Answered requestCount)
    (inside : ∀ idx ∈ s.sent, idx < requestCount) {idx : Nat}
    (member : idx ∈ (sendRemaining s).sent) : idx < requestCount := by
  rw [sendRemaining, sendRemainingFrom_sent, List.mem_append] at member
  rcases member with before | left
  · exact inside idx before
  · obtain ⟨slot, found⟩ := List.getElem?_of_mem (List.reduceOption_mem_iff.mp left)
    obtain ⟨rfl, _⟩ := answered.live slot idx found
    exact answered.length ▸ (List.getElem?_eq_some_iff.mp found).1

section
variable (server : Server) (requests : List Request) (firstDimBatching : Bool)
  (inputName outputName : String) (datatype : DataType) (shape : List Int)

theorem echoBatch_faulted :
    (echoBatch server requests firstDimBatching inputName outputName datatype shape).faulted = true ↔
      typedString server datatype
        (collectInput server requests inputName (Sys.fresh requests.length)) = none := by
  simp only [echoBatch]
  split
  next unmade => simp [unmade]
  next made => simp [made]

theorem echoBatch_answered (survives : (echoBatch server requests firstDimBatching inputName
      outputName datatype shape).faulted = false) :
    ∃ s, (echoBatch server requests firstDimBatching inputName outputName datatype shape).sys =
      sendRemaining s ∧ s.Answered requests.length ∧ (∀ idx ∈ s.sent, idx < requests.length) ∧
      ∀ response, .send response none ∉ s.log := by
  have collects := collectInput_reaches server requests inputName (Sys.fresh requests.length)
  have refuses := collectInput_logs server requests refuses_refusing inputName
    (Sys.fresh requests.length)
  simp only [echoBatch] at survives ⊢
  generalize collectInput server requests inputName (Sys.fresh requests.length) = collected
    at collects refuses survives ⊢
  cases made : typedString server datatype collected with
  | none => simp [made] at survives
  | some text =>
  simp only
  have responds := respondOutput_reaches server requests firstDimBatching outputName datatype shape
    collected.tensor collected.sys
  have refused := respondOutput_logs server requests firstDimBatching outputName datatype shape
    collected.tensor collected.sys
  have reached := collects.trans responds
  have fresh := fresh_answered requests.length
  have silent : ∀ idx ∈ (Sys.fresh requests.length).sent, idx < requests.length := by
    intro idx member
    cases member
  exact ⟨_, rfl, reaches_answered reached fresh, reaches_sentInside reached fresh silent,
    fun response sent => (refuses.trans refused).all rfl sent response rfl⟩

theorem echoBatch_sent (survives : (echoBatch server requests firstDimBatching inputName
      outputName datatype shape).faulted = false) (idx : Nat) (bound : idx < requests.length) :
    (echoBatch server requests firstDimBatching inputName outputName datatype shape).sys.sent.count
      idx = 1 := by
  obtain ⟨s, same, answered, _, _⟩ := echoBatch_answered server requests firstDimBatching inputName
    outputName datatype shape survives
  rw [same]
  exact sendRemaining_count answered bound

/-- Until the text for the log is made nothing is sent but errors. -/
theorem echoBatch_silent (faulted : (echoBatch server requests firstDimBatching inputName
      outputName datatype shape).faulted = true) (response : Nat) :
    .send response none ∉
      (echoBatch server requests firstDimBatching inputName outputName datatype shape).sys.log := by
  have unmade := (echoBatch_faulted server requests firstDimBatching inputName outputName datatype
    shape).mp faulted
  simp only [echoBatch, unmade]
  intro sent
  exact (collectInput_logs server requests refuses_refusing inputName
    (Sys.fresh requests.length)).all rfl sent response rfl

end

/-! A whole call. -/

section
variable (server : Server) (requests : List Request)

theorem reportRequests_releases (responses : List (Option Nat)) (requestCount : Nat) :
    (reportRequests responses requestCount).filterMap Report.release? = List.range requestCount := by
  rw [reportRequests, List.filterMap_flatMap]
  exact List.flatMap_singleton' _

theorem reportRequests_statistics (responses : List (Option Nat)) (requestCount : Nat) :
    (reportRequests responses requestCount).filterMap Report.statistics? =
      (List.range requestCount).map fun idx => (idx, (responses[idx]?.bind id).isSome) := by
  rw [reportRequests, List.filterMap_flatMap]
  exact (List.map_eq_flatMap).symm

theorem reportRequests_batch (responses : List (Option Nat)) (requestCount : Nat) :
    (reportRequests responses requestCount).filterMap Report.batch? = [] := by
  simp [reportRequests, List.filterMap_flatMap, Report.batch?]

/-- The instance has a state and every request gets a response. -/
def Begins (requestCount : Nat) : Prop :=
  server.modelInstanceState = none ∧ createResponses server 0 requestCount = none

theorem execute_cases (model : ModelState) :
    let done := (model.execute server requests).1
    ¬ Begins server requests.length ∧
        (∃ error, done = Executed.refused requests.length error) ∨
      Begins server requests.length ∧ done.error = none ∧
      done.toEcho = echoBatch server requests model.supportsFirstDimBatching
        model.inputName model.outputName model.datatype model.tensorShape.1 ∧
      ∃ tick, done.reports = if done.faulted then [] else
        reportRequests done.sys.responses requests.length ++
          [.batchStatistics (totalBatchSize server requests model.supportsFirstDimBatching tick)] := by
  unfold ModelState.execute
  split
  next error failed => exact Or.inl ⟨fun begins => absurd begins.1 (by simp [failed]), error, rfl⟩
  next found =>
    split
    next error failed => exact Or.inl ⟨fun begins => absurd begins.2 (by simp [failed]), error, rfl⟩
    next created => exact Or.inr ⟨⟨found, created⟩, rfl, rfl, _, rfl⟩

theorem minimal_cases (model : BackendModel) :
    let done := model.execute server requests
    ¬ Begins server requests.length ∧
        (∃ error, done = Executed.refused requests.length error) ∨
      Begins server requests.length ∧ done.error = none ∧
      done.toEcho = echoBatch server requests model.supportsFirstDimBatching
        "IN0" "OUT0" .int32 ((if model.supportsFirstDimBatching then [-1] else []) ++ [4]) ∧
      done.reports = if done.faulted then [] else (List.range requests.length).map .release := by
  unfold BackendModel.execute
  split
  next error failed => exact Or.inl ⟨fun begins => absurd begins.1 (by simp [failed]), error, rfl⟩
  next found =>
    split
    next error failed => exact Or.inl ⟨fun begins => absurd begins.2 (by simp [failed]), error, rfl⟩
    next created => exact Or.inr ⟨⟨found, created⟩, rfl, rfl, rfl⟩

/-! The reported size of the batch. -/

theorem toSize_add (total : Nat) (sum : Int) (size : Int) (same : total = toSize sum) :
    toSize (total + size) = toSize (sum + size) := by
  subst same
  simp only [toSize]
  omega

/-- The first dimensions of the requests' inputs, as far as they can be looked up. -/
def batchSizes (tick : Nat) : List Int :=
  (List.range requests.length).filterMap fun request =>
    (firstShape server requests request).map fun shape =>
      Responder.readDim server.toEnv tick request shape 0

theorem foldl_addBatchSize (tick : Nat) (indices : List Nat) (total : Nat) (sum : Int)
    (same : total = toSize sum) :
    indices.foldl (addBatchSize server requests tick) total =
      toSize (sum + (indices.filterMap fun request =>
        (firstShape server requests request).map fun shape =>
          Responder.readDim server.toEnv tick request shape 0).sum) := by
  induction indices generalizing total sum with
  | nil => simpa using same
  | cons request rest ih =>
      rw [List.foldl_cons, List.filterMap_cons]
      cases shape : firstShape server requests request with
      | none =>
          rw [addBatchSize, shape]
          exact ih total sum same
      | some shape' =>
          rw [addBatchSize, shape, Option.map_some, List.sum_cons, ← Int.add_assoc]
          exact ih _ _ (toSize_add total sum _ same)

theorem totalBatchSize_eq (firstDimBatching : Bool) (tick : Nat) :
    totalBatchSize server requests firstDimBatching tick =
      if firstDimBatching then toSize (batchSizes server requests tick).sum else requests.length := by
  unfold totalBatchSize
  split
  · have summed := foldl_addBatchSize server requests tick (List.range requests.length) 0 0 rfl
    rwa [Int.zero_add] at summed
  · rfl

/-! What is owed. -/

theorem refused_settles (error : TritonError) :
    (Executed.refused requests.length error).Settles requests.length where
  returned _ := ⟨rfl, rfl⟩
  answered succeeded := by cases succeeded
  named := by
    intro idx member
    cases member
  released succeeded := by cases succeeded

theorem echoBatch_settles (firstDimBatching : Bool) (inputName outputName : String)
    (datatype : DataType) (shape : List Int) {done : Executed} (succeeded : done.error = none)
    (same : done.toEcho = echoBatch server requests firstDimBatching inputName outputName datatype
      shape) (survives : done.faulted = false)
    (released : done.reports.filterMap Report.release? = List.range requests.length) :
    done.Settles requests.length where
  returned failed := absurd succeeded failed
  answered _ := by
    rw [same] at survives ⊢
    exact echoBatch_sent server requests firstDimBatching inputName outputName datatype shape survives
  named := by
    intro idx member
    rw [same] at survives member
    obtain ⟨s, last, answered, inside, _⟩ := echoBatch_answered server requests firstDimBatching
      inputName outputName datatype shape survives
    rw [last] at member
    exact sendRemaining_inside answered inside member
  released _ := released

theorem echoBatch_reported (firstDimBatching : Bool) (inputName outputName : String)
    (datatype : DataType) (shape : List Int) {done : Executed} (total : Nat)
    (same : done.toEcho = echoBatch server requests firstDimBatching inputName outputName datatype
      shape) (survives : done.faulted = false)
    (reports : done.reports =
      reportRequests done.sys.responses requests.length ++ [.batchStatistics total]) :
    done.Reported requests.length total where
  requests := by
    rw [reports, List.filterMap_append, reportRequests_statistics]
    rw [same] at survives ⊢
    obtain ⟨s, last, answered, _, refused⟩ := echoBatch_answered server requests firstDimBatching
      inputName outputName datatype shape survives
    rw [last]
    simp only [List.filterMap_cons, List.filterMap_nil, Report.statistics?, List.append_nil]
    refine List.map_congr_left fun idx _ => ?_
    rw [Prod.mk.injEq, Bool.eq_iff_iff, decide_eq_true_iff]
    exact ⟨rfl, sendRemaining_live answered refused idx⟩
  batch := by
    rw [reports, List.filterMap_append, reportRequests_batch]
    rfl

/-! The text for the log. -/

/-- The datatype has no size to divide by, or one of the elements that the tensor has room for
cannot be loaded. -/
def Server.Unprintable (datatype : DataType) (tensor : Tensor) : Prop :=
  dataTypeByteSize datatype = 0 ∨ ∃ type, elementType datatype = some type ∧
    ∃ place < tensor.byteSize / type.size,
      server.loads (tensor.buffer.advance (place * type.size)) type.size = false

theorem typedString_made {datatype : DataType} {collected : Passed}
    {result : Option TritonError × TypedString}
    (made : bufferAsTypedString server.byteOrder (collected.sys.device.memory server.initial)
      collected.tensor.buffer server.dataTypeString "" collected.tensor.byteSize datatype =
        some result) :
    typedString server datatype collected = none ↔
      ∃ load ∈ result.2.loads, server.loads load.1 load.2 = false := by
  rw [typedString, made, Option.bind_some]
  generalize result.2.loads = loads
  generalize result.2.str = str
  split
  next all => simpa using List.all_eq_true.mp all
  next some => simpa using some

theorem typedString_none (datatype : DataType) (collected : Passed) :
    typedString server datatype collected = none ↔ server.Unprintable datatype collected.tensor := by
  rw [Server.Unprintable]
  by_cases sizeless : dataTypeByteSize datatype = 0
  · refine ⟨fun _ => Or.inl sizeless, fun _ => ?_⟩
    rw [typedString, bufferAsTypedString, sizeQuotient, if_pos sizeless]
    rfl
  rw [or_iff_right sizeless]
  cases supported : elementType datatype with
  | none =>
      rw [typedString_made server (bufferAsTypedString_refused _ _ _ supported sizeless)]
      constructor
      · rintro ⟨load, none, -⟩
        cases none
      · rintro ⟨type, impossible, -⟩
        cases impossible
  | some type =>
      rw [typedString_made server (bufferAsTypedString_supported _ _ _ supported)]
      simp only [bufferAsTypedStringOf, appendElements_loads, List.nil_append, List.mem_map,
        List.mem_range'_1, Nat.zero_le, true_and, Nat.zero_add, Option.some.injEq, exists_eq_left']
      constructor
      · rintro ⟨load, ⟨place, below, rfl⟩, fails⟩
        exact ⟨place, below, fails⟩
      · rintro ⟨place, below, fails⟩
        exact ⟨_, ⟨place, below, rfl⟩, fails⟩

/-- The process has gone down over the log: nothing is reported or released, and no response has
been sent without an error. -/
structure Executed.Fell (done : Executed) : Prop where
  reports : done.reports = []
  refused : ∀ idx, .send idx none ∉ done.sys.log

theorem echoBatch_fell (firstDimBatching : Bool) (inputName outputName : String)
    (datatype : DataType) (shape : List Int) {done : Executed}
    (same : done.toEcho = echoBatch server requests firstDimBatching inputName outputName datatype
      shape) (faulted : done.faulted = true) (reports : done.reports = []) : done.Fell where
  reports := reports
  refused idx := by
    rw [same] at faulted ⊢
    exact echoBatch_silent server requests firstDimBatching inputName outputName datatype shape
      faulted idx

def gatheredTensor (inputName : String) : Tensor :=
  (collectInput server requests inputName (Sys.fresh requests.length)).tensor

/-- The two ends of a call: it settles its batch, or goes down where the text for the log cannot be
made of the tensor. -/
structure Executed.Ends (done : Executed) (inputName : String) (datatype : DataType) : Prop where
  settles : done.faulted = false → done.Settles requests.length
  fell : done.faulted = true → done.Fell
  faults : done.faulted = true ↔ Begins server requests.length ∧
    server.Unprintable datatype (gatheredTensor server requests inputName)

theorem refused_ends (never : ¬ Begins server requests.length) (error : TritonError)
    (inputName : String) (datatype : DataType) :
    (Executed.refused requests.length error).Ends server requests inputName datatype where
  settles _ := refused_settles requests error
  fell faulted := by cases faulted
  faults := by
    constructor
    · intro faulted
      cases faulted
    · intro begins
      exact absurd begins.1 never

theorem echoBatch_ends (firstDimBatching : Bool) (inputName outputName : String)
    (datatype : DataType) (shape : List Int) {done : Executed}
    (begins : Begins server requests.length) (succeeded : done.error = none)
    (same : done.toEcho = echoBatch server requests firstDimBatching inputName outputName datatype
      shape)
    (released : done.faulted = false →
      done.reports.filterMap Report.release? = List.range requests.length)
    (left : done.faulted = true → done.reports = []) :
    done.Ends server requests inputName datatype where
  settles survives := echoBatch_settles server requests _ _ _ _ _ succeeded same survives
    (released survives)
  fell faulted := echoBatch_fell server requests _ _ _ _ _ same faulted (left faulted)
  faults := by
    have faults := (echoBatch_faulted server requests firstDimBatching inputName outputName datatype
      shape).trans (typedString_none server datatype _)
    rw [← same] at faults
    exact ⟨fun faulted => ⟨begins, faults.mp faulted⟩, fun both => faults.mpr both.2⟩

end

end TritonBackend
