import TritonBackend.ResponderRun
import TritonBackend.Shapes

/-!
A response that is still live at the end has its own part of the model's tensor in every
buffer that it was given: the bytes behind those of all requests before it.
-/

namespace TritonBackend

open CopyStream

/-! A buffer that is given has its copy on the plan. -/

theorem serve_given {offers : Offers} {state state' : Sys × List (Job Block Nat)}
    (step : Sys.Serve offers state state') :
    ∃ added, state'.1.log = state.1.log ++ added ∧ ∀ idx buffer size,
      .given idx buffer size ∈ added → ∃ job ∈ state'.2, job.clients = [idx] ∧
        job.transfer.target = buffer ∧ job.transfer.byteSize = size ∧
        offers idx job.transfer.source size := by
  have sends {added : List Event}
      (only : ∀ event ∈ added, ∃ response error, event = .send response error) (idx : Nat)
      (buffer : Address) (size : Nat) : .given idx buffer size ∉ added := by
    intro member
    obtain ⟨response, error, same⟩ := only _ member
    cases same
  cases step with
  | count s plan tick later => exact ⟨[], by simp⟩
  | answer s s' plan answered =>
      obtain ⟨added, log, only⟩ := answers_log (Relation.ReflTransGen.single answered)
      exact ⟨added, log, fun idx buffer size member => absurd member (sends only idx buffer size)⟩
  | mark s plan action none => exact ⟨[.device action], rfl, by simp⟩
  | give s plan idx response live job mine target direct old offered =>
      refine ⟨[.given idx job.transfer.target job.transfer.byteSize], rfl, ?_⟩
      intro other buffer size member
      rw [List.mem_singleton, Event.given.injEq] at member
      obtain ⟨rfl, rfl, rfl⟩ := member
      exact ⟨job, List.mem_cons_self, mine, rfl, rfl, offered⟩
  | attempt s s' job rest result outcome answers told ready arrived =>
      obtain ⟨event, noted, kind⟩ := outcome.log
      obtain ⟨added, log, only⟩ := answers_log answers
      refine ⟨event :: added, by simp [log, noted], ?_⟩
      intro idx buffer size member
      rcases List.mem_cons.mp member with rfl | sent
      · rcases kind with failed | ⟨action, made, _⟩
        · cases failed
        · cases made
      · exact absurd sent (sends only idx buffer size)
  | reroute s tick rest reroutes => exact ⟨[], by simp⟩
  | shuffle s same => exact ⟨[], by simp⟩

/-- There was a moment when the copy into a given buffer was planned. -/
theorem serves_given {offers : Offers} {state state' : Sys × List (Job Block Nat)}
    (run : Sys.Serves offers state state') {added : List Event}
    (log : state'.1.log = state.1.log ++ added) {idx size : Nat} {buffer : Address}
    (given : .given idx buffer size ∈ added) :
    ∃ mid, Sys.Serves offers state mid ∧ Sys.Serves offers mid state' ∧
      ∃ job ∈ mid.2, job.clients = [idx] ∧ job.transfer.target = buffer ∧
        job.transfer.byteSize = size ∧ offers idx job.transfer.source size := by
  induction run generalizing added with
  | refl =>
      have none : added = [] := by simpa using log
      simp [none] at given
  | @tail before last run step ih =>
      obtain ⟨early, first⟩ := reaches_log (serves_reaches run)
      obtain ⟨late, second, planned⟩ := serve_given step
      have split : added = early ++ late := by
        rw [second, ← first, List.append_assoc] at log
        exact (List.append_cancel_left log).symm
      rw [split, List.mem_append] at given
      rcases given with already | new
      · obtain ⟨mid, toMid, fromMid, rest⟩ := ih first.symm already
        exact ⟨mid, toMid, fromMid.tail step, rest⟩
      · exact ⟨last, run.tail step, Sys.Serves.refl _ _, planned idx buffer size new⟩

/-! The shares. -/

def ResponderCall.datatype : ResponderCall → DataType
  | .processTensor _ datatype _ _ | .processStateTensor _ datatype _ _ => datatype
  | .processBatchOutput batchOutput _ => batchOutput.dataType
  | .finalize => .invalid

def ResponderCall.shape (env : Env) (cfg : ResponderConfig) (entry : Nat) :
    ResponderCall → Nat → List Int
  | .processTensor _ _ batchnShape _ | .processStateTensor _ _ batchnShape _ =>
      fun idx => Responder.responseShape env cfg entry idx batchnShape
  | .processBatchOutput batchOutput _ =>
      fun idx => Responder.batchOutputShape env cfg entry idx batchOutput
  | .finalize => fun _ => []

def ResponderCall.shareByteSize (env : Env) (cfg : ResponderConfig) (entry : Nat)
    (call : ResponderCall) (idx : Nat) : Nat :=
  (shapeByteSize call.datatype (call.shape env cfg entry idx)).toNat

theorem share_known {env : Env} {cfg : ResponderConfig} {entry : Nat} {call : ResponderCall}
    {idx : Nat} (known : KnownShape call.datatype (call.shape env cfg entry idx)) :
    call.share env cfg entry idx = call.shareByteSize env cfg entry idx := by
  cases call with
  | processTensor outputName datatype batchnShape tensor => exact getByteSize_toSize known
  | processStateTensor outputStateName datatype batchnShape tensor => exact getByteSize_toSize known
  | processBatchOutput batchOutput tensor => exact getByteSize_toSize known
  | finalize => exact absurd known.fixed (Nat.lt_irrefl 0)

theorem shareStart_congr {share share' : Nat → Nat} {idx : Nat}
    (same : ∀ earlier < idx, share earlier = share' earlier) :
    Responder.shareStart share idx = Responder.shareStart share' idx := by
  rw [Responder.shareStart, Responder.shareStart]
  congr 1
  exact List.map_congr_left fun earlier member => same earlier (List.mem_range.mp member)

/-! The end of a run. -/

def Responder.close (env : Env) (cfg : ResponderConfig) (r : Responder) : Sys :=
  let finalized := r.finalize env cfg
  finalized.2.synchronize cfg finalized.1

section
variable (env : Env) (cfg : ResponderConfig)

theorem Responder.close_serves (offers : Offers) {base : List (Copy Block)} {r : Responder}
    (calm : r.Calm cfg base) :
    Sys.Serves offers (r.toSys, r.owes) (r.close env cfg, []) ∧
      (r.close env cfg).device.queue <:+ base := by
  obtain ⟨serves, still, _, sync⟩ := finalize_calm env cfg offers calm
  simp only [close, sync]
  generalize (finalize env cfg r).2 = r' at serves still ⊢
  rw [synchronize]
  split
  next flag =>
    refine ⟨serves.trans (await_serves cfg offers r'.toSys []), ?_⟩
    rw [await_settled cfg still.synced flag]
    exact List.nil_suffix
  next flag => exact ⟨serves, still.synced.settled (Bool.eq_false_of_not_eq_true flag)⟩

/-- What the live responses hold at the end of what a call gave them. -/
def SharesDelivered (start : Memory Block UInt8) (called : Responder) (call : ResponderCall)
    (tensor : OutputTensor) (before done : Sys) (initial : Memory Block UInt8) : Prop :=
  ∀ idx buffer size, .given idx buffer size ∈ called.log.drop before.log.length →
    ¬ done.Gone idx →
    let share := call.shareByteSize env cfg before.tick
    size = share idx ∧ valuesAt (done.device.memory initial) buffer size =
      valuesAt start (tensor.buffer.advance (Responder.shareStart share idx)) (share idx)

/-- The bytes that a live response was given for its share, whatever shape that is the size of. -/
theorem sharesHeld {s : Sys} (idle : s.device.queue = [])
    (numbered : (s.courier []).Numbered blockAge) (before after : List ResponderStep)
    (call : ResponderCall) {tensor : OutputTensor} (named : call.tensor? = some tensor)
    (placed : ∀ step ∈ before ++ .call call :: after, ∀ tensor, step.tensor? = some tensor →
      tensor.Placed s) (initial : Memory Block UInt8) :
    let r := (Responder.create s).runSteps env cfg before
    let called := call.run env cfg r
    let done := (called.runSteps env cfg after).close env cfg
    let share := call.share env cfg r.tick
    ∀ idx buffer size, .given idx buffer size ∈ called.log.drop r.log.length → ¬ done.Gone idx →
      idx < s.responses.length ∧ size = share idx ∧ valuesAt (done.device.memory initial) buffer size =
        valuesAt (s.device.memory initial)
          (tensor.buffer.advance (Responder.shareStart share idx)) (share idx) := by
  intro r called done share idx buffer size given live
  have start : (Responder.create s).Calm cfg s.device.queue := Responder.calm_create cfg s
  have sound : s.Sound [] := ⟨numbered, List.Pairwise.nil⟩
  have placedAt (step : ResponderStep) (member : step ∈ before ++ .call call :: after) {s' : Sys}
      (reached : s.Reaches s') (other : OutputTensor) (same : step.tensor? = some other) :
      other.Placed s' := (placed step member other same).mono reached
  obtain ⟨toCall, calm⟩ := Responder.runSteps_calm env cfg start sound before
    (fun step member => placedAt step (List.mem_append_left _ member) (Sys.Reaches.refl s))
  have soundAt := carries_sound (serves_carries toCall) sound
  obtain ⟨made, calm'⟩ := Responder.call_calm env cfg calm soundAt call
    (placedAt (.call call) (by simp) (serves_reaches toCall))
  have reached := (serves_reaches toCall).trans (serves_reaches made)
  obtain ⟨toEnd, last⟩ := Responder.runSteps_calm env cfg calm'
    (carries_sound (serves_carries made) soundAt) after
    (fun step member => placedAt step (by simp [member]) reached)
  obtain ⟨closes, queue⟩ := Responder.close_serves env cfg (fun _ _ _ => True) last
  have settled : done.device.queue = [] := by
    rw [idle] at queue
    exact List.suffix_nil.mp queue
  obtain ⟨added, log⟩ := reaches_log (serves_reaches made)
  have inside : .given idx buffer size ∈ added := by
    have dropped : called.log.drop r.log.length = added := by
      rw [← log]
      exact List.drop_left
    exact dropped ▸ given
  -- when the buffer was given the copy into it came onto the plan
  obtain ⟨mid, toMid, fromMid, job, member, mine, target, bytes, other, same, source, shared⟩ :=
    serves_given made log.symm inside
  obtain rfl : tensor = other := Option.some.inj (named.symm.trans same)
  have bound : idx < s.responses.length := by
    by_contra outside
    refine live fun response present => outside ?_
    have whole := (reached.trans (serves_reaches toEnd)).trans (serves_reaches closes)
    exact Nat.lt_of_lt_of_eq (List.getElem?_eq_some_iff.mp present).1 (reaches_length whole)
  refine ⟨bound, shared, ?_⟩
  rw [← show size = share idx from shared]
  refine valuesAt_congr.mpr fun index within => ?_
  have delivered := midway_delivered initial idle sound
    ((serves_carries toCall).trans (serves_carries toMid))
    ((serves_carries fromMid).trans ((serves_carries toEnd).trans (serves_carries closes))) settled
    member (by simp [mine]) (fun lost => live lost.1) (by
      rw [source]
      exact (placed (.call call) (by simp) tensor named).old) (by simp) (by
      rw [bytes]
      exact within)
  rw [target, source] at delivered
  exact delivered

/-- Any calls may come before and behind the one that is looked at. -/
theorem sharesDelivered {s : Sys} (idle : s.device.queue = [])
    (numbered : (s.courier []).Numbered blockAge) (before after : List ResponderStep)
    (call : ResponderCall) {tensor : OutputTensor} (named : call.tensor? = some tensor)
    (placed : ∀ step ∈ before ++ .call call :: after, ∀ tensor, step.tensor? = some tensor →
      tensor.Placed s)
    (known : ∀ idx < s.responses.length, KnownShape call.datatype
      (call.shape env cfg ((Responder.create s).runSteps env cfg before).tick idx))
    (initial : Memory Block UInt8) :
    let r := (Responder.create s).runSteps env cfg before
    let called := call.run env cfg r
    SharesDelivered env cfg (s.device.memory initial) called call tensor r.toSys
      ((called.runSteps env cfg after).close env cfg) initial := by
  intro r called idx buffer size given live share
  obtain ⟨bound, sized, held⟩ := sharesHeld env cfg idle numbered before after call named placed
    initial idx buffer size given live
  have shares (earlier : Nat) (within : earlier ≤ idx) :
      call.share env cfg r.tick earlier = share earlier :=
    share_known (known earlier (Nat.lt_of_le_of_lt within bound))
  have begins := shareStart_congr fun earlier less => shares earlier (Nat.le_of_lt less)
  rw [shares idx (Nat.le_refl idx)] at sized held
  rw [begins] at held
  exact ⟨sized, held⟩

end

/-! Three requests of which each gets its rows of a GPU tensor, staged and deferred. -/

def rowsRequest (rows : Int) : Request := {
  id := ""
  inputs := [{ name := "INPUT", shape := [rows], buffers := [] }]
  outputs := ["OUTPUT"] }

def ResponderConfig.pinned (requests : List Request) : ResponderConfig := {
  requests
  firstDimBatching := true
  pinnedEnabled := true
  event := true
  copyOnStream := false }

def gpuOutput : OutputTensor := {
  buffer := { block := .tensor 0, offset := 0 }
  memoryType := .gpu
  memoryTypeId := 0 }

theorem gpuOutput_placed (s : Sys) : gpuOutput.Placed s := by
  refine ⟨?_, Nat.zero_le _⟩
  rintro ⟨n, staging⟩
  cases staging

def positions : Memory Block UInt8
  | .tensor _, position => UInt8.ofNat position.toNat
  | _, _ => 0

def rowsCall : ResponderCall := .processTensor "OUTPUT" .int32 [-1] gpuOutput

theorem sharesDelivered_rows :
    let cfg := ResponderConfig.pinned [rowsRequest 1, rowsRequest 2, rowsRequest 3]
    let env := Env.successful gatherSegments
    let r := Responder.create (Sys.fresh 3)
    SharesDelivered env cfg positions (rowsCall.run env cfg r) rowsCall gpuOutput r.toSys
      (((rowsCall.run env cfg r).runSteps env cfg [.call .finalize]).close env cfg) positions := by
  refine sharesDelivered _ _ (s := Sys.fresh 3) rfl (fresh_numbered rfl (by simp)) []
    [.call .finalize] rowsCall rfl ?_ (by decide +kernel) positions
  intro step member tensor same
  simp only [List.nil_append, List.mem_cons, List.not_mem_nil, or_false] at member
  rcases member with rfl | rfl
  · cases same
    exact gpuOutput_placed _
  · cases same

end TritonBackend
