import TritonBackend.BlsRuns
import TritonBackend.Fallible
import Mathlib.Data.List.Count
import Mathlib.Data.List.Nodup
import Mathlib.Data.List.ReduceOption
import Mathlib.Data.List.Perm.Subperm

/-!
Who deletes what. However the callbacks come, an internal request is deleted once, with one
exception, and the responses are what the answers of the server make of them.
-/

namespace TritonBackend

namespace Bls

section
variable (server : BlsServer) (requests : List BlsRequest)

/-- The first internal request is with the server already, and the second cannot even be made. -/
def staleOf (r : Nat) : List InternalId :=
  if usable server r && sends server requests ⟨r, 0⟩ && !made server ⟨r, 1⟩ then [⟨r, 0⟩] else []

/-- The internal requests that the server takes over and whose responses nobody waits for. -/
def abandonedOf (r : Nat) : List InternalId :=
  if sendsBoth server requests r then if passes server requests r 0 then [] else [⟨r, 1⟩]
  else sentOf server requests r

def successAnswer (r : Nat) : SentResponse :=
  { request := r
    error := none
    outputs := outputsUpTo server requests r (passedOf server requests r) }

def answerTo (r : Nat) : Option SentResponse :=
  if (server.responseNew r).isNone then
    some (if sendsBoth server requests r then successAnswer server requests r
      else { request := r, error := some sendError, outputs := [] })
  else none

def internalInput (input : BlsInput) : InternalInput :=
  { name := input.name
    datatype := input.datatype
    shape := input.shape
    data := firstInputBuffer input }

def copyOf (request : BlsRequest) (icount : Nat) : InternalRequest :=
  { modelName := modelName icount
    id := request.id
    correlationId := request.correlationId
    flags := request.flags
    inputs := request.inputs.map internalInput
    requestedOutputs := request.outputs }

variable {server requests} {s : BlsState}

/-! The internal requests. -/

theorem mem_ids {r count : Nat} {inner : InternalId} :
    inner ∈ ids r count ↔ inner.request = r ∧ inner.icount < count := by
  simp only [ids, List.mem_map, List.mem_range]
  constructor
  · rintro ⟨icount, below, rfl⟩
    exact ⟨rfl, below⟩
  · rintro ⟨rfl, below⟩
    exact ⟨inner.icount, below, rfl⟩

theorem ids_nodup (r count : Nat) : (ids r count).Nodup := by
  refine List.Nodup.map ?_ List.nodup_range
  intro one other same
  exact congrArg InternalId.icount same

theorem createdOf_sublist (r : Nat) : (createdOf server requests r).Sublist (ids r 2) := by
  have all : ids r 2 = [⟨r, 0⟩] ++ [⟨r, 1⟩] := rfl
  unfold createdOf
  split
  · exact List.nil_sublist _
  · rw [all]
    refine List.Sublist.append ?_ ?_ <;> split <;> simp

section
variable {each : Nat → List InternalId} (own : ∀ r, (each r).Sublist (ids r 2))
include own

theorem upTo_request {r : Nat} {inner : InternalId} (member : inner ∈ upTo each r) :
    inner.request < r := by
  obtain ⟨other, below, inside⟩ := List.mem_flatMap.mp member
  rw [(mem_ids.mp ((own other).mem inside)).1]
  exact List.mem_range.mp below

theorem upTo_append_nodup {r : Nat} {last : List InternalId} (part : last.Sublist (ids r 2))
    (before : (upTo each r).Nodup) : (upTo each r ++ last).Nodup := by
  refine List.Nodup.append before (part.nodup (ids_nodup r 2)) ?_
  intro inner early late
  have below := upTo_request own early
  have same := (mem_ids.mp (part.mem late)).1
  omega

theorem upTo_nodup (r : Nat) : (upTo each r).Nodup := by
  induction r with
  | zero => exact List.nodup_nil
  | succ r nodup =>
      rw [upTo_succ]
      exact upTo_append_nodup own (own r) nodup

end

theorem ids_sublist {icount : Nat} (upper : icount ≤ 2) (r : Nat) : (ids r icount).Sublist (ids r 2) :=
  (List.range_sublist.mpr upper).map _

/-- The server's deletions and the catch block's own together make up for what was made for a
request, and once too often for a stale pointer. -/
theorem owned_each (r : Nat) :
    sentOf server requests r ++ (droppedOf server requests r).reduceOption =
      createdOf server requests r ++ staleOf server requests r := by
  unfold sentOf droppedOf createdOf staleOf
  by_cases ready : usable server r = true
  · cases first : sends server requests ⟨r, 0⟩ with
    | false => cases new : made server ⟨r, 0⟩ <;> simp [ready, List.reduceOption]
    | true =>
        have made_ := made_of_sends first
        cases second : sends server requests ⟨r, 1⟩ with
        | false => cases new : made server ⟨r, 1⟩ <;> simp [ready, made_, List.reduceOption]
        | true => simp [ready, made_, made_of_sends second]
  · simp [ready]

theorem append_swap {α : Type} (one other third last : List α) :
    (one ++ other ++ (third ++ last)).Perm (one ++ third ++ (other ++ last)) := by
  rw [List.append_assoc, List.append_assoc]
  exact List.Perm.append_left one (List.perm_append_comm_assoc other third last)

theorem owned_upTo (r : Nat) :
    (upTo (sentOf server requests) r ++ (upTo (droppedOf server requests) r).reduceOption).Perm
      (upTo (createdOf server requests) r ++ upTo (staleOf server requests) r) := by
  induction r with
  | zero => exact List.Perm.refl _
  | succ r owned =>
      rw [upTo_succ, upTo_succ, upTo_succ, upTo_succ, List.reduceOption_append]
      refine (append_swap _ _ _ _).trans (List.Perm.trans ?_ (append_swap _ _ _ _))
      exact owned.append (List.Perm.of_eq (owned_each r))

theorem upTo_sublist {α : Type} (each : Nat → List α) {r count : Nat} (upper : r ≤ count) :
    (upTo each r).Sublist (upTo each count) := by
  induction upper with
  | refl => exact List.Sublist.refl _
  | step _ part =>
      rw [upTo_succ]
      exact part.trans (List.sublist_append_left _ _)

/-- What the server and the catch block delete stays within what was made, a stale pointer apart. -/
theorem owned_within (stands : Stands server requests s) :
    (s.handed ++ s.requestDeletes.reduceOption).Subperm
      (s.created ++ upTo (staleOf server requests) requests.length) := by
  have owned := stands.requestsOwned.filterMap id
  simp only [List.filterMap_append, List.filterMap_map, Function.id_comp, List.filterMap_some] at owned
  refine owned.subperm.trans ?_
  have at_ := stands.point
  rw [stands.created]
  have within (r : Nat) (upper : r ≤ requests.length) :
      (upTo (sentOf server requests) r ++ (upTo (droppedOf server requests) r).reduceOption).Subperm
        (upTo (createdOf server requests) r ++ upTo (staleOf server requests) requests.length) :=
    (owned_upTo r).subperm.trans ((upTo_sublist _ upper).append_left _).subperm
  have next (r : Nat) (bound : r < requests.length) :
      (upTo (sentOf server requests) (r + 1) ++
        (upTo (droppedOf server requests) r).reduceOption).Subperm
          (upTo (createdOf server requests) (r + 1) ++
            upTo (staleOf server requests) requests.length) := by
    have fewer := (upTo_sublist (droppedOf server requests) (Nat.le_succ r)).filterMap id
    exact (fewer.append_left _).subperm.trans (within (r + 1) bound)
  cases here : s.point with
  | execute r =>
      rw [here] at at_
      exact within r at_
  | send r icount irequest =>
      rw [here] at at_
      have more := (List.subperm_append_right (ids r icount)).mpr (within r (Nat.le_of_lt at_.1))
      refine List.Subperm.trans (List.Perm.subperm ?_) (more.trans (List.Perm.subperm ?_))
      · simp only [sentUpTo, droppedUpTo, List.append_assoc]
        exact List.perm_append_comm.append_left _
      · simp only [createdUpTo, List.append_assoc]
        exact List.perm_append_comm.append_left _
  | sendFailed r irequest =>
      rw [here] at at_
      exact next r at_.1
  | await r icount =>
      rw [here] at at_
      exact next r at_.1
  | undefined r icount =>
      rw [here] at at_
      exact next r at_.1
  | returned => exact within requests.length (Nat.le_refl _)

theorem created_nodup (stands : Stands server requests s) : s.created.Nodup := by
  have at_ := stands.point
  rw [stands.created]
  have all : ∀ r, (upTo (createdOf server requests) r).Nodup := upTo_nodup createdOf_sublist
  cases here : s.point with
  | send r icount irequest =>
      rw [here] at at_
      exact upTo_append_nodup createdOf_sublist (ids_sublist at_.2.1 r) (all r)
  | execute r => exact all r
  | sendFailed r irequest => exact all (r + 1)
  | await r icount => exact all (r + 1)
  | undefined r icount => exact all (r + 1)
  | returned => exact all requests.length

/-- No internal request is leaked or deleted twice, whatever the order of the callbacks, but
for the first of two where the second is not made. -/
theorem internalRequests_owned
    (run : BlsState.Reaches server requests (BlsState.start server requests) s) :
    s.created.Nodup ∧
      (s.handed ++ s.requestDeletes.reduceOption).Subperm
        (s.created ++ upTo (staleOf server requests) requests.length) ∧
      (s.point = .returned → (s.handed ++ s.requestDeletes.reduceOption).Perm
        (s.created ++ upTo (staleOf server requests) requests.length)) := by
  have stands := run_stands run
  refine ⟨created_nodup stands, owned_within stands, ?_⟩
  intro returned
  have owned := stands.requestsOwned.filterMap id
  simp only [List.filterMap_append, List.filterMap_map, Function.id_comp, List.filterMap_some] at owned
  rw [stands.created, returned]
  rw [returned] at owned
  exact owned.trans (owned_upTo requests.length)

def drive (server : BlsServer) (requests : List BlsRequest) : Nat → BlsState → BlsState
  | 0, s => s
  | count + 1, s =>
      match s.advance server requests with
      | some s' => drive server requests count s'
      | none => s

theorem drive_reaches (server : BlsServer) (requests : List BlsRequest) (count : Nat)
    (s : BlsState) :
    BlsState.Reaches server requests s (drive server requests count s) := by
  induction count generalizing s with
  | zero => exact Relation.ReflTransGen.refl
  | succ count further =>
      unfold drive
      cases advanced : s.advance server requests with
      | some s' => exact (further s').head (.advance s s' advanced)
      | none => exact Relation.ReflTransGen.refl

def secondRefused : BlsServer :=
  { responseNew := fun _ => none
    outcome := fun inner api =>
      if inner.icount = 1 ∧ api matches .inferenceRequestNew then
        some { code := .unavailable, message := "model is unloading" }
      else none
    modelReady := fun _ => true
    txnFlags := fun _ => 0
    infer := fun _ _ => {
      error := none
      output := fun _ => .error { code := .notFound, message := "no output" } }
    outputMemory := fun _ => .cpu }

def addsub : BlsRequest :=
  { id := "17", correlationId := 0, flags := 0, inputs := [], outputs := ["OUTPUT0", "OUTPUT1"] }

theorem secondRefused_run : ∃ s, BlsState.Reaches secondRefused [addsub]
    (BlsState.start secondRefused [addsub]) s ∧ s.point = .returned ∧ s.handed = [] ∧
      s.created = [⟨0, 0⟩] ∧ s.unanswered.length = 1 := by
  have sent := drive_reaches secondRefused [addsub] 2
    (BlsState.start secondRefused [addsub])
  have given := sent.tail (.requestComplete _ ⟨0, 0⟩ (List.mem_singleton_self _))
  exact ⟨_, given.trans (drive_reaches _ _ 3 _), rfl, rfl, rfl, rfl⟩

theorem internalRequests_owned_stale : ∃ s, BlsState.Reaches secondRefused [addsub]
    (BlsState.start secondRefused [addsub]) s ∧ s.point = .returned ∧
      s.requestDeletes.reduceOption.Perm [⟨0, 0⟩, ⟨0, 0⟩] := by
  obtain ⟨s, run, returned, given, created, _⟩ := secondRefused_run
  refine ⟨s, run, returned, ?_⟩
  have owned := (internalRequests_owned run).2.2 returned
  rw [given, created] at owned
  exact owned

/-! The internal responses. -/

theorem awaited_abandoned (r : Nat) :
    awaitedOf server requests r ++ abandonedOf server requests r = sentOf server requests r := by
  unfold awaitedOf abandonedOf
  cases both : sendsBoth server requests r with
  | false => simp
  | true =>
      rw [sentOf_both both]
      cases passes server requests r 0 <;> rfl

theorem upTo_append {α : Type} (one other : Nat → List α) (r : Nat) :
    (upTo one r ++ upTo other r).Perm (upTo (fun idx => one idx ++ other idx) r) := by
  induction r with
  | zero => exact List.Perm.refl _
  | succ r swapped =>
      rw [upTo_succ, upTo_succ, upTo_succ]
      exact (append_swap _ _ _ _).trans (swapped.append_right _)

/-- At the end the responses that nobody waited for are with the server, or in a promise. -/
theorem returned_abandoned (stands : Stands server requests s) (returned : s.point = .returned) :
    ((s.unanswered ++ s.futures).map Prod.fst).Perm
      (upTo (abandonedOf server requests) requests.length) := by
  have owned := stands.responsesOwned
  rw [returned] at owned
  have parts := upTo_append (awaitedOf server requests) (abandonedOf server requests) requests.length
  simp only [awaited_abandoned] at parts
  exact (List.perm_append_right_iff _).mp
    (owned.trans (parts.symm.trans List.perm_append_comm))

/-! The responses of the requests. -/

theorem answers_each (r : Nat) :
    refusalOf server requests r ++ (successOf server requests r).toList =
      (answerTo server requests r).toList := by
  unfold refusalOf successOf answerTo executedSlot createdSlot successAnswer
  cases both : sendsBoth server requests r <;> cases created : server.responseNew r <;> simp

theorem filterMap_upTo {α : Type} (each : Nat → Option α) (r : Nat) :
    (List.range r).filterMap each = upTo (fun idx => (each idx).toList) r := by
  rw [upTo, List.filterMap_eq_flatMap_toList]

theorem returned_answers (stands : Stands server requests s) (returned : s.point = .returned) :
    s.sent.Perm ((List.range requests.length).filterMap (answerTo server requests)) := by
  have all := stands.sent (by rw [returned]; trivial)
  rw [returned] at all
  rw [all, sentResponsesUpTo, filterMap_upTo, filterMap_upTo]
  simp only [← answers_each]
  exact upTo_append _ _ requests.length

theorem returned_reports (stands : Stands server requests s) (returned : s.point = .returned) :
    s.reports = ((List.range requests.length).flatMap fun r =>
      [.statistics r ((answerTo server requests r).any fun answer => answer.error.isNone), .release r]) ++
        [.batchStatistics 1] := by
  rw [stands.reports, returned, reportsAt]
  have success (r : Nat) : (executedSlot server requests r).isSome =
      (answerTo server requests r).any fun answer => answer.error.isNone := by
    unfold executedSlot answerTo createdSlot successAnswer
    cases sendsBoth server requests r <;> cases server.responseNew r <;> rfl
  simp only [success]

/-! The content of the internal requests. -/

theorem addInputs_content {inner : InternalId} {inputs : List BlsInput}
    {irequest result : InternalRequest} {count : Nat}
    (added : addInputs server inner irequest count inputs = .ok result) :
    result = { irequest with inputs := irequest.inputs ++ inputs.map internalInput } := by
  induction inputs generalizing irequest count with
  | nil =>
      cases added
      simp
  | cons input rest content =>
      simp only [addInputs, Fallible.bind_success] at added
      obtain ⟨_, _, _, _, _, _, _, _, _, _, added⟩ := added
      rw [content added]
      simp [internalInput]

theorem addOutputs_content {inner : InternalId} {names : List String}
    {irequest result : InternalRequest} {count : Nat}
    (added : addOutputs server inner irequest count names = .ok result) :
    result = { irequest with requestedOutputs := irequest.requestedOutputs ++ names } := by
  induction names generalizing irequest count with
  | nil =>
      cases added
      simp
  | cons name rest content =>
      simp only [addOutputs, Fallible.bind_success] at added
      obtain ⟨_, _, _, _, added⟩ := added
      rw [content added]
      simp

theorem sendInternal_content {request : BlsRequest} {inner : InternalId} {content : InternalRequest}
    (sent : sendInternal server request inner = .ok content) :
    content = copyOf request inner.icount := by
  simp only [sendInternal, prepareInferenceInput, prepareInferenceOutput,
    Fallible.bind_success] at sent
  obtain ⟨fresh, prepared, filled, ⟨_, _, added⟩, full, ⟨_, _, requested⟩, _, _, same⟩ := sent
  simp only [prepareInferenceRequest, Fallible.bind_success] at prepared
  obtain ⟨_, _, _, _, _, _, _, _, _, _, made⟩ := prepared
  cases same
  cases made
  rw [addOutputs_content requested, addInputs_content added]
  simp [copyOf]

/-- What the server works on are copies of the requests, with the first buffer of each input. -/
theorem internalRequests_copied
    (run : BlsState.Reaches server requests (BlsState.start server requests) s) :
    ∀ answer ∈ s.unanswered ++ s.futures, ∃ request, requests[answer.1.request]? = some request ∧
      answer.2 = server.infer answer.1 (copyOf request answer.1.icount) := by
  intro answer member
  have given := (run_stands run).answers answer member
  simp only [answerOf, contentOf, Option.map_eq_some_iff, Option.bind_eq_some_iff] at given
  obtain ⟨content, ⟨request, present, sent⟩, answered⟩ := given
  refine ⟨request, present, ?_⟩
  cases outcome : sendInternal server request answer.1 with
  | error error =>
      rw [outcome] at sent
      cases sent
  | ok content' =>
      rw [outcome] at sent
      cases sent
      rw [← answered, sendInternal_content outcome]

/-- A server whose models give back the sizes of what they are given. -/
def sizing : BlsServer :=
  { secondRefused with
    outcome := fun _ _ => none
    infer := fun _ irequest => {
      error := none
      output := fun count =>
        match irequest.inputs[count]? with
        | none => .error { code := .notFound, message := "no output" }
        | some input => .ok {
            name := input.name
            datatype := input.datatype
            shape := input.shape
            bytes := [UInt8.ofNat input.data.byteSize] } } }

def chunkedInput (name : String) (first last : Nat) : BlsInput :=
  { name
    shape := [16]
    buffers := [
      { buffer := 4096, byteSize := first, memoryType := .cpu, memoryTypeId := 0 },
      { buffer := 8192, byteSize := last, memoryType := .cpu, memoryTypeId := 0 }]
    datatype := .uint8 }

def chunked : BlsRequest :=
  { addsub with inputs := [chunkedInput "INPUT0" 4 12, chunkedInput "INPUT1" 8 8] }

theorem internalRequests_copied_chunked : ∃ s, BlsState.Reaches sizing [chunked]
    (BlsState.start sizing [chunked]) s ∧ ∃ first second, s.unanswered = [first, second] ∧
      first.2.output 0 = .ok { name := "INPUT0", datatype := .uint8, shape := [16], bytes := [4] } ∧
      second.2.output 1 = .ok { name := "INPUT1", datatype := .uint8, shape := [16], bytes := [8] } := by
  have sent := drive_reaches sizing [chunked] 3 (BlsState.start sizing [chunked])
  refine ⟨_, sent, _, _, rfl, ?_, ?_⟩
  · obtain ⟨request, present, answered⟩ := internalRequests_copied sent _ (List.mem_cons_self ..)
    cases present
    exact congrArg (InternalResponse.output · 0) answered
  · obtain ⟨request, present, answered⟩ :=
      internalRequests_copied sent _ (List.mem_cons_of_mem _ (List.mem_cons_self ..))
    cases present
    exact congrArg (InternalResponse.output · 1) answered

/-- A request is answered once, with an error only if an internal request could not be sent: an
error of an internal response cuts the outputs short and is not passed on. -/
theorem requests_answered
    (run : BlsState.Reaches server requests (BlsState.start server requests) s)
    (returned : s.point = .returned) :
    s.sent.Perm ((List.range requests.length).filterMap (answerTo server requests)) ∧
      s.reports = ((List.range requests.length).flatMap fun r =>
        [.statistics r ((answerTo server requests r).any fun answer => answer.error.isNone),
          .release r]) ++ [.batchStatistics 1] :=
  ⟨returned_answers (run_stands run) returned, returned_reports (run_stands run) returned⟩

theorem requests_answered_refused : ∃ s, BlsState.Reaches secondRefused [addsub]
    (BlsState.start secondRefused [addsub]) s ∧
      s.sent.Perm [{ request := 0, error := some sendError, outputs := [] }] ∧
      s.reports = [.statistics 0 false, .release 0, .batchStatistics 1] := by
  obtain ⟨s, run, returned, _⟩ := secondRefused_run
  exact ⟨s, run, requests_answered run returned⟩

end

end Bls

end TritonBackend
