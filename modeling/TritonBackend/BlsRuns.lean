import TritonBackend.BlsCore
import Mathlib.Data.List.Basic

/-!
What every run of `ProcessRequests` has in common. What the backend's thread has done up to a
point depends on the answers of the server only, not on when the callbacks come; what is
left open is who has an internal request or a response by then.
-/

namespace TritonBackend

namespace Bls

section
variable (server : BlsServer) (requests : List BlsRequest)

/-! What becomes of a request. -/

def usable (r : Nat) : Bool := modelUsable server ⟨r, 0⟩ && modelUsable server ⟨r, 1⟩

def contentOf (inner : InternalId) : Option InternalRequest :=
  (requests[inner.request]?).bind fun request => (sendInternal server request inner).toOption

def sends (inner : InternalId) : Bool := (contentOf server requests inner).isSome

def made (inner : InternalId) : Bool := (newInferenceRequest server inner).isOk

def sendsBoth (r : Nat) : Bool :=
  usable server r && sends server requests ⟨r, 0⟩ && sends server requests ⟨r, 1⟩

def answerOf (inner : InternalId) : Option InternalResponse :=
  (contentOf server requests inner).map (server.infer inner)

def answersWell (inner : InternalId) : Bool :=
  (answerOf server requests inner).any fun response => response.error.isNone

def tensorOf (r icount : Nat) : Option ResponseTensor :=
  (answerOf server requests ⟨r, icount⟩).bind fun response => (response.output icount).toOption

/-- The output of the internal response can be copied into the response. -/
def fills (r icount : Nat) : Bool :=
  (server.responseNew r).isNone && (tensorOf server requests r icount).isSome &&
    (server.outcome ⟨r, icount⟩ .responseOutput).isNone &&
    (server.outcome ⟨r, icount⟩ .outputBuffer).isNone &&
    server.outputMemory ⟨r, icount⟩ != .gpu

def passes (r icount : Nat) : Bool :=
  answersWell server requests ⟨r, icount⟩ && fills server requests r icount

def sentOf (r : Nat) : List InternalId :=
  if usable server r && sends server requests ⟨r, 0⟩ then
    ⟨r, 0⟩ :: if sends server requests ⟨r, 1⟩ then [⟨r, 1⟩] else []
  else []

/-- The pointer that the catch block deletes. Where the second internal request is not even
made it still is the first. -/
def droppedOf (r : Nat) : List (Option InternalId) :=
  if !usable server r then []
  else if !sends server requests ⟨r, 0⟩ then [if made server ⟨r, 0⟩ then some ⟨r, 0⟩ else none]
  else if !sends server requests ⟨r, 1⟩ then [some (if made server ⟨r, 1⟩ then ⟨r, 1⟩ else ⟨r, 0⟩)]
  else []

def ids (r count : Nat) : List InternalId := (List.range count).map (InternalId.mk r)

def createdOf (r : Nat) : List InternalId :=
  if !usable server r then []
  else (if made server ⟨r, 0⟩ then [⟨r, 0⟩] else []) ++
    if sends server requests ⟨r, 0⟩ && made server ⟨r, 1⟩ then [⟨r, 1⟩] else []

def awaitedOf (r : Nat) : List InternalId :=
  if sendsBoth server requests r then ids r (if passes server requests r 0 then 2 else 1) else []

def faults (r : Nat) : Bool :=
  sendsBoth server requests r &&
    (answersWell server requests ⟨r, 0⟩ && !fills server requests r 0 ||
      passes server requests r 0 && answersWell server requests ⟨r, 1⟩ &&
        !fills server requests r 1)

def passedOf (r : Nat) : Nat :=
  if passes server requests r 0 then if passes server requests r 1 then 2 else 1 else 0

def outputsUpTo (r icount : Nat) : List ResponseTensor :=
  (List.range icount).filterMap (tensorOf server requests r)

def createdSlot (r : Nat) : Option (List ResponseTensor) :=
  if (server.responseNew r).isNone then some [] else none

def executedSlot (r : Nat) : Option (List ResponseTensor) :=
  if sendsBoth server requests r then
    (createdSlot server r).map fun _ => outputsUpTo server requests r (passedOf server requests r)
  else none

def refusalOf (r : Nat) : List SentResponse :=
  if !sendsBoth server requests r && (server.responseNew r).isNone then
    [{ request := r, error := some sendError, outputs := [] }]
  else []

def successOf (r : Nat) : Option SentResponse :=
  (executedSlot server requests r).map fun outputs => { request := r, error := none, outputs }

/-! What has been done up to a point. -/

def upTo {α : Type} (each : Nat → List α) (r : Nat) : List α := (List.range r).flatMap each

def sentUpTo : BlsPoint → List InternalId
  | .execute r => upTo (sentOf server requests) r
  | .send r icount _ => upTo (sentOf server requests) r ++ ids r icount
  | .sendFailed r _ | .await r _ | .undefined r _ => upTo (sentOf server requests) (r + 1)
  | .returned => upTo (sentOf server requests) requests.length

def createdUpTo : BlsPoint → List InternalId
  | .execute r => upTo (createdOf server requests) r
  | .send r icount _ => upTo (createdOf server requests) r ++ ids r icount
  | .sendFailed r _ | .await r _ | .undefined r _ => upTo (createdOf server requests) (r + 1)
  | .returned => upTo (createdOf server requests) requests.length

def executed : BlsPoint → Nat
  | .execute r | .send r _ _ | .sendFailed r _ | .await r _ | .undefined r _ => r
  | .returned => requests.length

def droppedUpTo : BlsPoint → List (Option InternalId)
  | .execute r | .send r _ _ | .sendFailed r _ | .await r _ | .undefined r _ =>
      upTo (droppedOf server requests) r
  | .returned => upTo (droppedOf server requests) requests.length

def awaitedUpTo : BlsPoint → List InternalId
  | .execute r | .send r _ _ | .sendFailed r _ => upTo (awaitedOf server requests) r
  | .await r icount => upTo (awaitedOf server requests) r ++ ids r icount
  | .undefined r icount => upTo (awaitedOf server requests) r ++ ids r (icount + 1)
  | .returned => upTo (awaitedOf server requests) requests.length

/-- A response that is given up is not deleted any more. -/
def deletedUpTo : BlsPoint → List InternalId
  | .undefined r icount => upTo (awaitedOf server requests) r ++ ids r icount
  | point => awaitedUpTo server requests point

def slotAt : BlsPoint → Nat → Option (List ResponseTensor)
  | .execute r, idx | .send r _ _, idx | .sendFailed r _, idx =>
      if idx < r then executedSlot server requests idx else createdSlot server idx
  | .await r icount, idx | .undefined r icount, idx =>
      if idx < r then executedSlot server requests idx
      else if idx = r then (createdSlot server idx).map fun _ => outputsUpTo server requests idx icount
      else createdSlot server idx
  | .returned, idx => executedSlot server requests idx

def sentResponsesUpTo : BlsPoint → List SentResponse
  | .execute r | .send r _ _ | .sendFailed r _ | .await r _ | .undefined r _ =>
      upTo (refusalOf server requests) r
  | .returned => upTo (refusalOf server requests) requests.length ++
      (List.range requests.length).filterMap (successOf server requests)

def reportsAt : BlsPoint → List Report
  | .returned => ((List.range requests.length).flatMap fun r =>
      [.statistics r (executedSlot server requests r).isSome, .release r]) ++ [.batchStatistics 1]
  | _ => []

def At : BlsPoint → Prop
  | .execute r => r ≤ requests.length
  | .send r icount irequest => r < requests.length ∧ icount ≤ 2 ∧ usable server r = true ∧
      (∀ earlier < icount, sends server requests ⟨r, earlier⟩ = true) ∧
      irequest = if icount = 0 then none else some ⟨r, icount - 1⟩
  | .sendFailed r irequest => r < requests.length ∧ sendsBoth server requests r = false ∧
      droppedOf server requests r = [irequest]
  | .await r icount => r < requests.length ∧ icount ≤ 2 ∧ sendsBoth server requests r = true ∧
      ∀ earlier < icount, passes server requests r earlier = true
  | .undefined r icount => r < requests.length ∧ icount < 2 ∧ sendsBoth server requests r = true ∧
      (∀ earlier < icount, passes server requests r earlier = true) ∧
      answersWell server requests ⟨r, icount⟩ = true ∧ fills server requests r icount = false
  | .returned => True

def Defined : BlsPoint → Prop
  | .undefined _ _ => False
  | _ => True

/-- The invariant: what has been made, sent and deleted so far, up to the order in which
the callbacks come. -/
structure Stands (s : BlsState) : Prop where
  point : At server requests s.point
  clean : ∀ r < executed requests s.point, faults server requests r = false
  created : s.created = createdUpTo server requests s.point
  requestsOwned : (s.handed.map some ++ s.requestDeletes).Perm
    ((sentUpTo server requests s.point).map some ++ droppedUpTo server requests s.point)
  responsesOwned : ((s.unanswered ++ s.futures).map Prod.fst ++ awaitedUpTo server requests s.point).Perm
    (sentUpTo server requests s.point)
  answers : ∀ answer ∈ s.unanswered ++ s.futures,
    answerOf server requests answer.1 = some answer.2
  responseDeletes : s.responseDeletes = deletedUpTo server requests s.point
  slots : Defined s.point →
    s.responses = (List.range requests.length).map (slotAt server requests s.point)
  sent : Defined s.point → s.sent = sentResponsesUpTo server requests s.point
  reports : s.reports = reportsAt server requests s.point

variable {server requests} {s : BlsState}

/-! The callbacks. -/

theorem requestComplete_stands (stands : Stands server requests s) {inner : InternalId}
    (held : inner ∈ s.handed) :
    Stands server requests { s with
      handed := s.handed.erase inner
      requestDeletes := s.requestDeletes ++ [some inner] } where
  point := stands.point
  clean := stands.clean
  created := stands.created
  requestsOwned := by
    refine List.Perm.trans ?_ stands.requestsOwned
    have taken := (List.perm_cons_erase held).map some
    rw [← List.append_assoc]
    refine List.perm_append_comm.trans ?_
    rw [List.singleton_append, ← List.cons_append]
    exact taken.symm.append_right s.requestDeletes
  responsesOwned := stands.responsesOwned
  answers := stands.answers
  responseDeletes := stands.responseDeletes
  slots := stands.slots
  sent := stands.sent
  reports := stands.reports

theorem responseComplete_stands (stands : Stands server requests s)
    {before after : List (InternalId × InternalResponse)} {answer : InternalId × InternalResponse}
    (split : s.unanswered = before ++ answer :: after) :
    Stands server requests { s with
      unanswered := before ++ after
      futures := s.futures ++ [answer] } := by
  have moved : (before ++ after ++ (s.futures ++ [answer])).Perm (s.unanswered ++ s.futures) := by
    rw [split, List.append_assoc, List.append_assoc, List.cons_append]
    refine List.Perm.append_left before ?_
    rw [← List.append_assoc]
    exact List.perm_append_comm
  exact {
    point := stands.point
    clean := stands.clean
    created := stands.created
    requestsOwned := stands.requestsOwned
    responsesOwned := ((moved.map Prod.fst).append_right _).trans stands.responsesOwned
    answers := fun other member => stands.answers other (moved.mem_iff.mp member)
    responseDeletes := stands.responseDeletes
    slots := stands.slots
    sent := stands.sent
    reports := stands.reports }

/-! The backend's thread. -/

theorem upTo_succ {α : Type} (each : Nat → List α) (r : Nat) :
    upTo each (r + 1) = upTo each r ++ each r := by
  simp [upTo, List.range_succ]

theorem ids_succ (r count : Nat) : ids r (count + 1) = ids r count ++ [⟨r, count⟩] := by
  simp [ids, List.range_succ]

@[simp] theorem ids_zero (r : Nat) : ids r 0 = [] := rfl

theorem sentOf_both {r : Nat} (both : sendsBoth server requests r = true) :
    sentOf server requests r = ids r 2 := by
  simp only [sendsBoth, Bool.and_eq_true] at both
  simp [sentOf, both, ids, List.range_succ]

theorem droppedOf_both {r : Nat} (both : sendsBoth server requests r = true) :
    droppedOf server requests r = [] := by
  simp only [sendsBoth, Bool.and_eq_true] at both
  simp [droppedOf, both]

theorem made_of_sends {inner : InternalId} (sent : sends server requests inner = true) :
    made server inner = true := by
  unfold sends contentOf at sent
  cases present : requests[inner.request]? with
  | none => simp [present] at sent
  | some request =>
      rw [present, Option.bind_some] at sent
      unfold made
      cases new : newInferenceRequest server inner with
      | ok => rfl
      | error error =>
          have failed : sendInternal server request inner = .error error := by
            simp only [sendInternal, prepareInferenceRequest, new]
            rfl
          rw [failed] at sent
          cases sent

theorem createdOf_both {r : Nat} (both : sendsBoth server requests r = true) :
    createdOf server requests r = ids r 2 := by
  simp only [sendsBoth, Bool.and_eq_true] at both
  simp [createdOf, both, made_of_sends both.1.2, made_of_sends both.2, ids, List.range_succ]

theorem faults_failed {r : Nat} (failed : sendsBoth server requests r = false) :
    faults server requests r = false := by
  simp [faults, failed]

theorem clean_next {r : Nat} (clean : ∀ earlier < r, faults server requests earlier = false)
    (well : faults server requests r = false) :
    ∀ earlier < r + 1, faults server requests earlier = false := by
  intro earlier below
  rcases Nat.lt_succ_iff_lt_or_eq.mp below with before | rfl
  · exact clean earlier before
  · exact well

theorem awaitedOf_failed {r : Nat} (failed : sendsBoth server requests r = false) :
    awaitedOf server requests r = [] := by
  simp [awaitedOf, failed]

theorem slots_set {slots slots' : Nat → Option (List ResponseTensor)} {r count : Nat}
    (others : ∀ idx, idx ≠ r → slots' idx = slots idx) :
    ((List.range count).map slots).set r (slots' r) = (List.range count).map slots' := by
  refine List.ext_getElem (by simp) ?_
  intro idx _ bound
  rw [List.getElem_set]
  by_cases same : r = idx
  · subst same
    simp
  · simp [same, others idx (Ne.symm same)]

theorem respondAndSetNull_eq (s : BlsState) (r : Nat) (error : TritonError) :
    s.respondAndSetNull r error = { s with
      responses := (s.respondAndSetNull r error).responses
      sent := (s.respondAndSetNull r error).sent } := by
  unfold BlsState.respondAndSetNull
  split <;> rfl

theorem slotAt_next (r idx : Nat) (other : idx ≠ r) :
    slotAt server requests (.execute (r + 1)) idx = slotAt server requests (.execute r) idx := by
  have same : idx < r + 1 ↔ idx < r := by omega
  simp [slotAt, same]

/-- A request whose internal requests cannot both be sent is refused, if its response was created. -/
theorem respond_refused {point point' : BlsPoint} {r : Nat} (bound : r < requests.length)
    (failed : sendsBoth server requests r = false)
    (slots : s.responses = (List.range requests.length).map (slotAt server requests point))
    (sent : s.sent = upTo (refusalOf server requests) r)
    (ahead : slotAt server requests point r = createdSlot server r)
    (others : ∀ idx, idx ≠ r → slotAt server requests point' idx = slotAt server requests point idx)
    (behind : slotAt server requests point' r = none) :
    (s.respondAndSetNull r sendError).responses =
        (List.range requests.length).map (slotAt server requests point') ∧
      (s.respondAndSetNull r sendError).sent = upTo (refusalOf server requests) (r + 1) := by
  have slot : s.responses[r]? = some (createdSlot server r) := by
    rw [slots, List.getElem?_map, List.getElem?_range bound, Option.map_some, ahead]
  have changed : ((List.range requests.length).map (slotAt server requests point)).set r
      (slotAt server requests point' r) = _ := slots_set others
  rw [behind, ← slots] at changed
  rw [← changed, upTo_succ, ← sent]
  unfold BlsState.respondAndSetNull
  cases created : server.responseNew r with
  | none =>
      have live : createdSlot server r = some [] := by simp [createdSlot, created]
      rw [slot, live]
      simp [refusalOf, failed, created]
  | some error =>
      have null : createdSlot server r = none := by simp [createdSlot, created]
      rw [slot, null]
      rw [null] at slot
      obtain ⟨inside, same⟩ := List.getElem?_eq_some_iff.mp slot
      refine ⟨?_, by simp [refusalOf, created]⟩
      have kept := List.set_getElem_self inside
      rw [same] at kept
      exact kept.symm

theorem enterExecute_stands (stands : Stands server requests s) {r : Nat} (here : s.point = .execute r)
    (bound : r < requests.length) : Stands server requests (s.enterExecute server r) := by
  obtain ⟨_, clean, created, owned, awaited, answers, deletes, slots, sent, reports⟩ := stands
  rw [here] at clean created owned awaited deletes slots sent reports
  unfold BlsState.enterExecute
  split
  next ready =>
    exact {
      point := ⟨bound, Nat.zero_le 2, ready, by simp, rfl⟩
      clean
      created := by simpa [BlsState.goTo, createdUpTo] using created
      requestsOwned := by simpa [BlsState.goTo, sentUpTo, droppedUpTo] using owned
      responsesOwned := by simpa [BlsState.goTo, sentUpTo, awaitedUpTo] using awaited
      answers
      responseDeletes := deletes
      slots := slots
      sent := sent
      reports := reports }
  next unready =>
    have refused : usable server r = false := Bool.eq_false_iff.mpr unready
    have failed : sendsBoth server requests r = false := by simp [sendsBoth, refused]
    obtain ⟨responses, refusals⟩ := respond_refused bound failed (slots trivial) (sent trivial)
      (by simp [slotAt]) (slotAt_next r) (by simp [slotAt, executedSlot, failed])
    have nothing : sentOf server requests r = [] := by simp [sentOf, refused]
    have dropped : droppedOf server requests r = [] := by simp [droppedOf, refused]
    have none : createdOf server requests r = [] := by simp [createdOf, refused]
    rw [respondAndSetNull_eq, responses, refusals]
    exact {
      point := bound
      clean := clean_next clean (faults_failed failed)
      created := by simpa [BlsState.goTo, createdUpTo, upTo_succ, none] using created
      requestsOwned := by
        simpa [BlsState.goTo, sentUpTo, droppedUpTo, upTo_succ, nothing, dropped] using owned
      responsesOwned := by
        simpa [BlsState.goTo, sentUpTo, awaitedUpTo, upTo_succ, nothing, awaitedOf_failed failed]
          using awaited
      answers
      responseDeletes := by
        simpa [BlsState.goTo, deletedUpTo, awaitedUpTo, upTo_succ, awaitedOf_failed failed]
          using deletes
      slots := fun _ => rfl
      sent := fun _ => rfl
      reports := reports }

theorem finish_stands (stands : Stands server requests s) {r : Nat} (here : s.point = .execute r)
    (past : ¬ r < requests.length) : Stands server requests s.finish := by
  obtain ⟨at_, clean, created, owned, awaited, answers, deletes, slots, sent, reports⟩ := stands
  rw [here] at at_ clean created owned awaited deletes slots sent reports
  obtain rfl : r = requests.length := Nat.le_antisymm at_ (Nat.le_of_not_lt past)
  have executed : s.responses = (List.range requests.length).map (executedSlot server requests) := by
    rw [slots trivial]
    refine List.map_congr_left fun idx member => ?_
    simp [slotAt, List.mem_range.mp member]
  have indexed : s.responses.zipIdx =
      (List.range requests.length).map fun idx => (executedSlot server requests idx, idx) := by
    rw [executed]
    refine List.ext_getElem (by simp) ?_
    simp
  exact {
    point := trivial
    clean
    created
    requestsOwned := owned
    responsesOwned := awaited
    answers
    responseDeletes := deletes
    slots := fun _ => executed
    sent := fun _ => by
      simp only [BlsState.finish, sent trivial, indexed, List.filterMap_map]
      rfl
    reports := by
      simp only [BlsState.finish, indexed, List.flatMap_map]
      rfl }

theorem sendFailed_at {r icount : Nat} {irequest : Option InternalId} (bound : r < requests.length)
    (less : icount < 2) (ready : usable server r = true)
    (earlier : ∀ other < icount, sends server requests ⟨r, other⟩ = true)
    (pointer : irequest = if icount = 0 then none else some ⟨r, icount - 1⟩)
    (failed : sends server requests ⟨r, icount⟩ = false) :
    At server requests
        (.sendFailed r (if made server ⟨r, icount⟩ then some ⟨r, icount⟩ else irequest)) ∧
      sentOf server requests r = ids r icount ∧
      createdOf server requests r =
        ids r icount ++ if made server ⟨r, icount⟩ then [⟨r, icount⟩] else [] := by
  have cases : icount = 0 ∨ icount = 1 := by omega
  rcases cases with rfl | rfl
  · rw [if_pos rfl] at pointer
    subst pointer
    exact ⟨⟨bound, by simp [sendsBoth, failed], by simp [droppedOf, ready, failed]⟩,
      by simp [sentOf, failed], by simp [createdOf, ready, failed]⟩
  · have first := earlier 0 Nat.one_pos
    rw [if_neg Nat.one_ne_zero] at pointer
    subst pointer
    refine ⟨⟨bound, by simp [sendsBoth, failed], ?_⟩, by simp [sentOf, ready, first, failed, ids],
      by simp [createdOf, ready, first, made_of_sends first, ids]⟩
    by_cases new : made server ⟨r, 1⟩ = true <;> simp [droppedOf, ready, first, failed, new]

theorem sendNext_stands (stands : Stands server requests s) {r icount : Nat}
    {irequest : Option InternalId} (here : s.point = .send r icount irequest) (less : icount < 2)
    {request : BlsRequest} (present : requests[r]? = some request) :
    Stands server requests (s.sendNext server request r icount irequest) := by
  obtain ⟨at_, clean, created, owned, awaited, answers, deletes, slots, sent, reports⟩ := stands
  rw [here] at at_ clean created owned awaited deletes slots sent reports
  obtain ⟨bound, _, ready, earlier, pointer⟩ := at_
  have content : contentOf server requests ⟨r, icount⟩ =
      (sendInternal server request ⟨r, icount⟩).toOption := by
    simp [contentOf, present]
  cases made : sendInternal server request ⟨r, icount⟩ with
  | ok content' =>
      rw [made] at content
      have next : s.sendNext server request r icount irequest = { s with
          point := .send r (icount + 1) (some ⟨r, icount⟩)
          created := s.created ++ [⟨r, icount⟩]
          handed := s.handed ++ [⟨r, icount⟩]
          unanswered := s.unanswered ++ [(⟨r, icount⟩, server.infer ⟨r, icount⟩ content')] } := by
        simp only [BlsState.sendNext, made]
      rw [next]
      have sent_ : sends server requests ⟨r, icount⟩ = true := by
        rw [sends, content]
        rfl
      have answer : answerOf server requests ⟨r, icount⟩ =
          some (server.infer ⟨r, icount⟩ content') := by
        rw [answerOf, content]
        rfl
      exact {
        point := by
          refine ⟨bound, less, ready, ?_, by simp⟩
          intro other below
          rcases Nat.lt_succ_iff_lt_or_eq.mp below with before | rfl
          · exact earlier other before
          · exact sent_
        clean
        created := by simp [created, createdUpTo, ids_succ]
        requestsOwned := by
          simp only [sentUpTo, droppedUpTo, ids_succ, List.map_append, List.map_cons, List.map_nil,
            ← List.append_assoc] at owned ⊢
          rw [List.append_assoc, List.append_assoc]
          exact List.perm_middle.trans ((owned.cons _).trans List.perm_middle.symm)
        responsesOwned := by
          simp only [sentUpTo, awaitedUpTo, ids_succ, List.map_append, List.map_cons,
            List.append_assoc, List.singleton_append] at awaited ⊢
          refine List.perm_middle.trans ((awaited.cons _).trans ?_)
          rw [← List.append_assoc]
          exact (List.perm_append_singleton _ _).symm
        answers := by
          intro other member
          simp only [List.append_assoc, List.mem_append, List.mem_singleton] at member answers
          rcases member with old | rfl | later
          · exact answers other (Or.inl old)
          · exact answer
          · exact answers other (Or.inr later)
        responseDeletes := deletes
        slots := slots
        sent := sent
        reports := reports }
  | error error =>
      rw [made] at content
      have next : s.sendNext server request r icount irequest = { s with
          point := .sendFailed r
            (if Bls.made server ⟨r, icount⟩ then some ⟨r, icount⟩ else irequest)
          created := s.created ++ if Bls.made server ⟨r, icount⟩ then [⟨r, icount⟩] else [] } := by
        simp only [BlsState.sendNext, made, Bls.made]
        split
        next new => simp only [new, if_true]
        next old => simp [old, BlsState.goTo]
      rw [next]
      have failed : sends server requests ⟨r, icount⟩ = false := by
        rw [sends, content]
        rfl
      obtain ⟨stops, partly, all⟩ := sendFailed_at bound less ready earlier pointer failed
      exact {
        point := stops
        clean
        created := by simp [created, createdUpTo, upTo_succ, all]
        requestsOwned := by simpa [sentUpTo, droppedUpTo, upTo_succ, partly] using owned
        responsesOwned := by simpa [sentUpTo, awaitedUpTo, upTo_succ, partly] using awaited
        answers
        responseDeletes := deletes
        slots := slots
        sent := sent
        reports := reports }

theorem catchSend_stands (stands : Stands server requests s) {r : Nat} {irequest : Option InternalId}
    (here : s.point = .sendFailed r irequest) : Stands server requests (s.catchSend r irequest) := by
  obtain ⟨at_, clean, created, owned, awaited, answers, deletes, slots, sent, reports⟩ := stands
  rw [here] at at_ clean created owned awaited deletes slots sent reports
  obtain ⟨bound, failed, dropped⟩ := at_
  have refused := respond_refused (s := { s with
      requestDeletes := s.requestDeletes ++ [irequest] }) bound failed (slots trivial) (sent trivial)
    (by simp [slotAt]) (slotAt_next r) (by simp [slotAt, executedSlot, failed])
  unfold BlsState.catchSend
  rw [respondAndSetNull_eq, refused.1, refused.2]
  exact {
    point := bound
    clean := clean_next clean (faults_failed failed)
    created
    requestsOwned := by
      simp only [BlsState.goTo, sentUpTo, droppedUpTo, upTo_succ, dropped] at owned ⊢
      rw [← List.append_assoc, ← List.append_assoc]
      simpa using owned.append_right [irequest]
    responsesOwned := by
      simpa [BlsState.goTo, sentUpTo, awaitedUpTo, upTo_succ, awaitedOf_failed failed] using awaited
    answers
    responseDeletes := by
      simpa [BlsState.goTo, deletedUpTo, awaitedUpTo, upTo_succ, awaitedOf_failed failed] using deletes
    slots := fun _ => rfl
    sent := fun _ => rfl
    reports := reports }

theorem createdSlot_started (r : Nat) :
    ((createdSlot server r).map fun _ => outputsUpTo server requests r 0) = createdSlot server r := by
  unfold createdSlot
  split <;> rfl

theorem awaitFirst_stands (stands : Stands server requests s) {r icount : Nat}
    {irequest : Option InternalId} (here : s.point = .send r icount irequest) (past : ¬ icount < 2) :
    Stands server requests (s.goTo (.await r 0)) := by
  obtain ⟨at_, clean, created, owned, awaited, answers, deletes, slots, sent, reports⟩ := stands
  rw [here] at at_ clean created owned awaited deletes slots sent reports
  obtain ⟨bound, upper, ready, earlier, _⟩ := at_
  obtain rfl : icount = 2 := by omega
  have both : sendsBoth server requests r = true := by
    simp [sendsBoth, ready, earlier 0 Nat.two_pos, earlier 1 Nat.one_lt_two]
  exact {
    point := ⟨bound, Nat.zero_le 2, both, by simp⟩
    clean
    created := by
      simpa [BlsState.goTo, createdUpTo, upTo_succ, createdOf_both both] using created
    requestsOwned := by
      simpa [BlsState.goTo, sentUpTo, droppedUpTo, upTo_succ, sentOf_both both] using owned
    responsesOwned := by
      simpa [BlsState.goTo, sentUpTo, awaitedUpTo, upTo_succ, sentOf_both both] using awaited
    answers
    responseDeletes := by simpa [BlsState.goTo, deletedUpTo, awaitedUpTo] using deletes
    slots := fun _ => by
      rw [BlsState.goTo, slots trivial]
      refine List.map_congr_left fun idx _ => ?_
      simp only [slotAt]
      split
      · rfl
      · split
        · exact (createdSlot_started idx).symm
        · rfl
    sent := sent
    reports := reports }

theorem stopped_at {r icount : Nat} (both : sendsBoth server requests r = true) (less : icount < 2)
    (earlier : ∀ other < icount, passes server requests r other = true)
    (stops : passes server requests r icount = false) :
    awaitedOf server requests r = ids r (icount + 1) ∧ passedOf server requests r = icount := by
  have cases : icount = 0 ∨ icount = 1 := by omega
  rcases cases with rfl | rfl
  · simp [awaitedOf, both, passedOf, stops]
  · simp [awaitedOf, both, passedOf, stops, earlier 0 Nat.one_pos]

theorem passed_both {r : Nat} (both : sendsBoth server requests r = true)
    (earlier : ∀ other < 2, passes server requests r other = true) :
    awaitedOf server requests r = ids r 2 ∧ passedOf server requests r = 2 := by
  simp [awaitedOf, both, passedOf, earlier 0 Nat.two_pos, earlier 1 Nat.one_lt_two]

theorem faults_stopped {r icount : Nat} (less : icount < 2)
    (earlier : ∀ other < icount, passes server requests r other = true)
    (stops : answersWell server requests ⟨r, icount⟩ = false) : faults server requests r = false := by
  have cases : icount = 0 ∨ icount = 1 := by omega
  rcases cases with rfl | rfl
  · simp [faults, passes, stops]
  · have first := earlier 0 Nat.one_pos
    simp only [passes, Bool.and_eq_true] at first
    simp [faults, stops, first.2]

theorem executed_slots {r icount : Nat} (both : sendsBoth server requests r = true)
    (passed : passedOf server requests r = icount) (idx : Nat) :
    slotAt server requests (.await r icount) idx = slotAt server requests (.execute (r + 1)) idx := by
  simp only [slotAt]
  by_cases before : idx < r
  · simp [before, Nat.lt_succ_of_lt before]
  · by_cases same : idx = r
    · subst same
      simp [executedSlot, both, passed]
    · have behind : ¬ idx < r + 1 := by omega
      simp [before, same, behind]

theorem endAwait_stands (stands : Stands server requests s) {r icount : Nat}
    (here : s.point = .await r icount) (past : ¬ icount < 2) :
    Stands server requests (s.goTo (.execute (r + 1))) := by
  obtain ⟨at_, clean, created, owned, awaited, answers, deletes, slots, sent, reports⟩ := stands
  rw [here] at at_ clean created owned awaited deletes slots sent reports
  obtain ⟨bound, upper, both, earlier⟩ := at_
  obtain rfl : icount = 2 := by omega
  obtain ⟨all, passed⟩ := passed_both both earlier
  exact {
    point := bound
    clean := clean_next clean (by
      simp only [passes, Bool.and_eq_true] at earlier
      simp [faults, (earlier 0 Nat.two_pos).2, (earlier 1 Nat.one_lt_two).2])
    created
    requestsOwned := by
      simpa [BlsState.goTo, sentUpTo, droppedUpTo, upTo_succ, droppedOf_both both] using owned
    responsesOwned := by
      simpa [BlsState.goTo, sentUpTo, awaitedUpTo, upTo_succ, all] using awaited
    answers
    responseDeletes := by simpa [BlsState.goTo, deletedUpTo, awaitedUpTo, upTo_succ, all] using deletes
    slots := fun _ => by
      rw [BlsState.goTo, slots trivial]
      exact List.map_congr_left fun idx _ => executed_slots both passed idx
    sent := fun _ => by
      simpa [BlsState.goTo, sentResponsesUpTo, upTo_succ, refusalOf, both] using sent trivial
    reports := reports }

theorem future_taken {futures : List (InternalId × InternalResponse)} {inner : InternalId}
    {future : InternalId × InternalResponse}
    (found : futures.find? (fun future => future.1 == inner) = some future) :
    future.1 = inner ∧ future ∈ futures ∧
      (futures.map Prod.fst).Perm
        (inner :: (futures.eraseP fun future => future.1 == inner).map Prod.fst) := by
  obtain ⟨same, before, after, split, others⟩ := List.find?_eq_some_iff_append.mp found
  rw [beq_iff_eq] at same
  have erased : (futures.eraseP fun future => future.1 == inner) = before ++ after := by
    rw [split, List.eraseP_append_right _ (by simpa using others)]
    simp [same]
  refine ⟨same, by simp [split], ?_⟩
  rw [erased, split]
  simp [same]

theorem constructOutput_cases (s : BlsState) {r icount : Nat} {response : InternalResponse}
    (answer : answerOf server requests ⟨r, icount⟩ = some response) {outputs : List ResponseTensor}
    (slot : s.responses[r]? = some ((createdSlot server r).map fun _ => outputs)) :
    let s' := BlsState.constructOutput server s r icount response
    (fills server requests r icount = true ∧ ∃ tensor, tensorOf server requests r icount = some tensor ∧
      s' = { s with
        point := .await r (icount + 1)
        responses := s.responses.set r (some (outputs ++ [tensor]))
        responseDeletes := s.responseDeletes ++ [⟨r, icount⟩] }) ∨
    (fills server requests r icount = false ∧ ∃ responses sent, s' = { s with
      point := .undefined r icount
      responses
      sent }) := by
  have refused (error : TritonError) : ∃ responses sent,
      (s.respondAndSetNull r error).goTo (.undefined r icount) = { s with
        point := .undefined r icount
        responses
        sent } := by
    rw [respondAndSetNull_eq]
    exact ⟨_, _, rfl⟩
  have tensors : tensorOf server requests r icount = (response.output icount).toOption := by
    simp [tensorOf, answer]
  intro s'
  simp only [s', BlsState.constructOutput, fills, tensors, slot]
  cases output : response.output icount with
  | error error => exact Or.inr ⟨by simp [Except.toOption], refused error⟩
  | ok tensor =>
      cases created : server.responseNew r with
      | some error =>
          simp only [createdSlot, created]
          exact Or.inr ⟨by simp, s.responses, s.sent, rfl⟩
      | none =>
          simp only [createdSlot, created, Option.isNone_none, if_true, Option.map_some]
          cases out : server.outcome ⟨r, icount⟩ .responseOutput with
          | some error => exact Or.inr ⟨by simp, refused error⟩
          | none =>
              cases buffer : server.outcome ⟨r, icount⟩ .outputBuffer with
              | some error => exact Or.inr ⟨by simp, refused error⟩
              | none =>
                  by_cases gpu : server.outputMemory ⟨r, icount⟩ = .gpu
                  · simp only [gpu, if_true]
                    exact Or.inr ⟨by simp, refused outputBufferError⟩
                  · simp only [gpu, if_false]
                    exact Or.inl ⟨by simp [Except.toOption, gpu], tensor, rfl, rfl⟩

theorem takeResponse_stands (stands : Stands server requests s) {r icount : Nat}
    (here : s.point = .await r icount) (less : icount < 2) {future : InternalId × InternalResponse}
    (found : s.futures.find? (fun future => future.1 == ⟨r, icount⟩) = some future) :
    Stands server requests (BlsState.takeResponse server { s with
      futures := s.futures.eraseP fun future => future.1 == ⟨r, icount⟩ } r icount future.2) := by
  obtain ⟨at_, clean, created, owned, awaited, answers, deletes, slots, sent, reports⟩ := stands
  rw [here] at at_ clean created owned awaited deletes slots sent reports
  obtain ⟨bound, _, both, earlier⟩ := at_
  obtain ⟨mine, member, taken⟩ := future_taken found
  have answer : answerOf server requests ⟨r, icount⟩ = some future.2 := by
    rw [← mine]
    exact answers future (List.mem_append_right _ member)
  have others : ∀ other ∈ s.unanswered ++ s.futures.eraseP (fun future => future.1 == ⟨r, icount⟩),
      answerOf server requests other.1 = some other.2 := by
    intro other present
    refine answers other ?_
    rcases List.mem_append.mp present with left | arrived
    · exact List.mem_append_left _ left
    · exact List.mem_append_right _ (List.mem_of_mem_eraseP arrived)
  have waited : ((s.unanswered ++ s.futures.eraseP fun future => future.1 == ⟨r, icount⟩).map Prod.fst ++
      (upTo (awaitedOf server requests) r ++ ids r (icount + 1))).Perm
        (upTo (sentOf server requests) (r + 1)) := by
    refine List.Perm.trans ?_ awaited
    rw [awaitedUpTo, ids_succ, List.map_append, List.map_append, List.append_assoc, List.append_assoc]
    refine List.Perm.append_left _ ?_
    rw [← List.append_assoc, ← List.append_assoc]
    refine (List.perm_append_singleton _ _).trans ?_
    rw [← List.cons_append, ← List.cons_append]
    simpa only [List.append_assoc] using taken.symm.append_right _
  have well : answersWell server requests ⟨r, icount⟩ = future.2.error.isNone := by
    simp [answersWell, answer]
  unfold BlsState.takeResponse
  cases failed : future.2.error with
  -- the other response is left where it is, and the request's own goes on as it stands
  | some error =>
      have stops : passes server requests r icount = false := by
        simp [passes, well, failed]
      obtain ⟨all, passed⟩ := stopped_at both less earlier stops
      exact {
        point := bound
        clean := clean_next clean (faults_stopped less earlier (by simp [well, failed]))
        created
        requestsOwned := by
          simpa [sentUpTo, droppedUpTo, upTo_succ, droppedOf_both both] using owned
        responsesOwned := by simpa [sentUpTo, awaitedUpTo, upTo_succ, all] using waited
        answers := others
        responseDeletes := by
          simp [deletes, deletedUpTo, awaitedUpTo, upTo_succ, all, ids_succ]
        slots := fun _ => by
          rw [show s.responses = _ from slots trivial]
          exact List.map_congr_left fun idx _ => executed_slots both passed idx
        sent := fun _ => by
          simpa [sentResponsesUpTo, upTo_succ, refusalOf, both] using sent trivial
        reports := reports }
  | none =>
      have slot : s.responses[r]? = some ((createdSlot server r).map fun _ =>
          outputsUpTo server requests r icount) := by
        rw [slots trivial, List.getElem?_map, List.getElem?_range bound]
        simp [slotAt]
      rcases constructOutput_cases { s with
          futures := s.futures.eraseP fun future => future.1 == ⟨r, icount⟩ } answer slot with
        ⟨filled, tensor, copied, same⟩ | ⟨unfilled, responses, sent', same⟩
      · have passed : passes server requests r icount = true := by simp [passes, well, failed, filled]
        have live : createdSlot server r = some [] := by
          simp only [fills, Bool.and_eq_true] at filled
          simp [createdSlot, filled.1.1.1.1]
        have more : outputsUpTo server requests r (icount + 1) =
            outputsUpTo server requests r icount ++ [tensor] := by
          simp [outputsUpTo, List.range_succ, copied]
        rw [same]
        exact {
          point := by
            refine ⟨bound, less, both, ?_⟩
            intro other below
            rcases Nat.lt_succ_iff_lt_or_eq.mp below with before | rfl
            · exact earlier other before
            · exact passed
          clean
          created
          requestsOwned := owned
          responsesOwned := waited
          answers := others
          responseDeletes := by simp [deletes, deletedUpTo, awaitedUpTo, ids_succ]
          slots := fun _ => by
            have changed : ((List.range requests.length).map
                (slotAt server requests (.await r icount))).set r
                  (slotAt server requests (.await r (icount + 1)) r) = _ :=
              slots_set fun idx other => by simp [slotAt, other]
            rw [← slots trivial] at changed
            rw [← changed]
            simp [slotAt, live, more]
          sent := sent
          reports := reports }
      · rw [same]
        exact {
          point := ⟨bound, less, both, earlier, by simp [well, failed], unfilled⟩
          clean
          created
          requestsOwned := owned
          responsesOwned := waited
          answers := others
          responseDeletes := deletes
          slots := False.elim
          sent := False.elim
          reports := reports }

theorem advance_stands (stands : Stands server requests s) {s' : BlsState}
    (advanced : s.advance server requests = some s') : Stands server requests s' := by
  unfold BlsState.advance at advanced
  split at advanced
  next r here =>
    cases advanced
    split
    next bound => exact enterExecute_stands stands here bound
    next past => exact finish_stands stands here past
  next r icount irequest here =>
    split at advanced
    next less =>
      obtain ⟨request, present, rfl⟩ := Option.map_eq_some_iff.mp advanced
      exact sendNext_stands stands here less present
    next past =>
      cases advanced
      exact awaitFirst_stands stands here past
  next r irequest here =>
    cases advanced
    exact catchSend_stands stands here
  next r icount here =>
    split at advanced
    next less =>
      obtain ⟨future, found, rfl⟩ := Option.map_eq_some_iff.mp advanced
      exact takeResponse_stands stands here less found
    next past =>
      cases advanced
      exact endAwait_stands stands here past
  next => cases advanced
  next => cases advanced

theorem start_stands : Stands server requests (BlsState.start server requests) where
  point := Nat.zero_le _
  clean _ none := absurd none (Nat.not_lt_zero _)
  created := rfl
  requestsOwned := List.Perm.refl _
  responsesOwned := List.Perm.refl _
  answers := by simp [BlsState.start]
  responseDeletes := rfl
  slots _ := List.map_congr_left fun idx _ => by simp [slotAt, createdSlot, BlsState.start]
  sent _ := rfl
  reports := rfl

theorem run_stands (run : BlsState.Reaches server requests (BlsState.start server requests) s) :
    Stands server requests s := by
  induction run with
  | refl => exact start_stands
  | tail _ step stands =>
      cases step with
      | advance s' advanced => exact advance_stands stands advanced
      | requestComplete inner held => exact requestComplete_stands stands held
      | responseComplete before after answer split => exact responseComplete_stands stands split

end

end Bls

end TritonBackend
