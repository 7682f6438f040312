import TritonBackend.Scattering

/-!
Once a response is sent, its buffers belong to the server. The responder leaves them alone as
long as it sends no response while one of its buffers still waits for its bytes.
-/

namespace TritonBackend

open CopyStream

/-- What was tried: the effects issued and the copies that failed. -/
def Event.attempts : Event → List (Effect Block UInt8)
  | .device action => action.effects
  | .failedCopy transfer => [.copy transfer]
  | _ => []

def attempts (log : List Event) : List (Effect Block UInt8) := log.flatMap Event.attempts

/-- The response has a buffer that nobody has tried to fill. -/
def Awaits (log : List Event) (idx : Nat) : Prop :=
  ∃ buffer size, .given idx buffer size ∈ log ∧ 0 < size ∧
    ∀ effect ∈ attempts log, ¬ (effect.target = buffer ∧ effect.byteSize = size)

/-- Behind the sending of a response nothing writes into a buffer that it was given. -/
def SentUntouched (log : List Event) : Prop :=
  ∀ before idx error after, log = before ++ .send idx error :: after →
    ∀ buffer size, .given idx buffer size ∈ log → ∀ action, .device action ∈ after →
      ∀ effect ∈ action.effects, ∀ block position, buffer.Covers size block position →
        ¬ effect.Writes block position

/-- No response is sent while a buffer of its own waits. -/
def SentFilled (log : List Event) : Prop :=
  ∀ before idx error after, log = before ++ .send idx error :: after → ¬ Awaits before idx

@[simp] theorem attempts_nil : attempts [] = [] := rfl

@[simp] theorem attempts_append (first second : List Event) :
    attempts (first ++ second) = attempts first ++ attempts second := by
  simp [attempts]

@[simp] theorem attempts_singleton (event : Event) : attempts [event] = event.attempts := by
  simp [attempts]

theorem SentFilled.of_append {first second : List Event} (filled : SentFilled (first ++ second)) :
    SentFilled first :=
  fun before idx error after split => filled before idx error (after ++ second) (by simp [split])

theorem sentUntouched_concat {own : List Event} {event : Event} (untouched : SentUntouched own)
    (spares : ∀ idx error, .send idx error ∈ own → ∀ buffer size, .given idx buffer size ∈ own →
      ∀ effect ∈ event.attempts, ∀ block position, buffer.Covers size block position →
        ¬ effect.Writes block position)
    (gives : ∀ idx error, .send idx error ∈ own → ∀ buffer size, event ≠ .given idx buffer size) :
    SentUntouched (own ++ [event]) := by
  intro before idx error after split buffer size given action member effect inside block position
    covered
  rcases List.eq_nil_or_concat after with rfl | ⟨rest, last, rfl⟩
  · simp at member
  have shape : own ++ [event] = (before ++ .send idx error :: rest) ++ [last] := by
    simpa using split
  obtain ⟨rfl, same⟩ := List.append_inj' shape rfl
  rw [List.cons.injEq] at same
  obtain ⟨rfl, _⟩ := same
  have sent : Event.send idx error ∈ before ++ .send idx error :: rest := by simp
  have known : .given idx buffer size ∈ before ++ .send idx error :: rest := by
    rcases List.mem_append.mp given with earlier | new
    · exact earlier
    · exact absurd (List.mem_singleton.mp new).symm (gives idx error sent buffer size)
  rw [List.concat_eq_append] at member
  rcases List.mem_append.mp member with earlier | new
  · exact untouched before idx error rest rfl buffer size known action earlier effect inside block
      position covered
  · rw [List.mem_singleton] at new
    subst new
    exact spares idx error sent buffer size known effect inside block position covered

/-! What holds of the log and the plan while no response is sent early. -/

/-- A slot holds the response of its own number. -/
def Sys.Named (s : Sys) : Prop :=
  ∀ idx response : Nat, s.responses[idx]? = some (some response) → response = idx

def Spared (own : List Event) (plan : List (Job Block Nat)) (idx : Nat) : Prop :=
  ∀ buffer size, .given idx buffer size ∈ own → ∀ job ∈ plan, ∀ block position,
    buffer.Covers size block position → ¬ (job.effect : Effect Block UInt8).Writes block position

structure Guarded (own : List Event) (s : Sys) (plan : List (Job Block Nat)) : Prop where
  named : s.Named
  numbered : ∀ effect ∈ attempts own ++ plan.map Job.effect,
    blockAge effect.target.block ≤ s.nextBlock
  once : WritesOnce (attempts own ++ plan.map Job.effect)
  given : ∀ idx buffer size, .given idx buffer size ∈ own → 0 < size →
    blockAge buffer.block ≤ s.nextBlock
  gone : ∀ idx error, .send idx error ∈ own → s.Gone idx
  spared : ∀ idx error, .send idx error ∈ own → Spared own plan idx
  untouched : SentUntouched own

theorem covers_positive {buffer : Address} {size : Nat} {block : Block} {position : Int}
    (covered : buffer.Covers size block position) : 0 < size := by
  obtain ⟨_, lower, upper⟩ := covered
  omega

theorem noted_before {own : List Event} {event other : Event} (member : other ∈ own ++ [event])
    (differs : event ≠ other) : other ∈ own := by
  rcases List.mem_append.mp member with before | new
  · exact before
  · exact absurd (List.mem_singleton.mp new).symm differs

section
variable {own : List Event} {s s' : Sys} {plan : List (Job Block Nat)}

theorem named_setNull (named : s.Named) (idx response : Nat) (error : Option TritonError) :
    ((s.responseSend response error).setNull idx).Named := by
  intro other found present
  by_cases same : idx = other
  · subst same
    simp only [Sys.setNull, Sys.responseSend, responses_note, List.getElem?_set_self'] at present
    cases slot : s.responses[idx]? <;> simp [slot] at present
  · refine named other found ?_
    simpa [Sys.setNull, Sys.responseSend, List.getElem?_set_ne same] using present

/-- A response that waits for nothing has its buffers written already, and the plan stays
away from what is written. -/
theorem spared_of_filled (guarded : Guarded own s plan) {idx : Nat} (filled : ¬ Awaits own idx) :
    Spared own plan idx := by
  intro buffer size given job member block position covered written
  refine filled ⟨buffer, size, given, covers_positive covered, ?_⟩
  rintro effect tried ⟨rfl, rfl⟩
  exact (List.pairwise_append.mp guarded.once).2.2 effect tried job.effect
    (List.mem_map_of_mem member) block position covered written

theorem guarded_answer (guarded : Guarded own s plan) {idx response : Nat}
    {error : Option TritonError} (live : s.responses[idx]? = some (some response))
    (filled : SentFilled (own ++ [.send response error])) :
    Guarded (own ++ [.send response error]) ((s.responseSend response error).setNull idx) plan := by
  have mine := guarded.named idx response live
  subst mine
  have step : s.Answer ((s.responseSend response error).setNull response) :=
    Sys.Answer.respond s response response error live
  have none : attempts (own ++ [.send response error]) = attempts own := by
    simp [Event.attempts]
  have givens {other size : Nat} {buffer : Address}
      (member : .given other buffer size ∈ own ++ [Event.send response error]) :
      .given other buffer size ∈ own :=
    noted_before member (by simp)
  constructor
  · exact named_setNull guarded.named response response error
  · rw [none]
    exact guarded.numbered
  · rw [none]
    exact guarded.once
  · exact fun other buffer size member => guarded.given other buffer size (givens member)
  · intro other told member
    rcases List.mem_append.mp member with before | new
    · exact answer_gone step (guarded.gone other told before)
    · rw [List.mem_singleton, Event.send.injEq] at new
      obtain ⟨rfl, rfl⟩ := new
      have inside := (List.getElem?_eq_some_iff.mp live).1
      simp [Sys.Gone, Sys.setNull, Sys.responseSend, inside]
  · intro other told member
    have still : Spared own plan other := by
      rcases List.mem_append.mp member with before | new
      · exact guarded.spared other told before
      -- the response just sent had nothing left to wait for
      · rw [List.mem_singleton, Event.send.injEq] at new
        obtain ⟨rfl, rfl⟩ := new
        exact spared_of_filled guarded (filled own other told [] rfl)
    exact fun buffer size given => still buffer size (givens given)
  · exact sentUntouched_concat guarded.untouched (by simp [Event.attempts]) (by simp)

theorem guarded_answers (guarded : Guarded own s plan) (answers : s.Answers s') :
    ∃ added, s'.log = s.log ++ added ∧
      (SentFilled (own ++ added) → Guarded (own ++ added) s' plan) := by
  induction answers with
  | refl => exact ⟨[], by simp, fun _ => by simpa using guarded⟩
  | tail _ answered ih =>
      obtain ⟨added, log, before⟩ := ih
      cases answered with
      | respond idx response error live =>
          refine ⟨added ++ [.send response error], by simp [Sys.setNull, Sys.responseSend, log], ?_⟩
          intro filled
          rw [← List.append_assoc] at filled ⊢
          exact guarded_answer (before filled.of_append) live filled

theorem guarded_attempt {job : Job Block Nat} (guarded : Guarded own s (job :: plan))
    {event : Event} (tried : event.attempts = [job.effect])
    (silent : ∀ idx error, event ≠ .send idx error)
    (gives : ∀ idx buffer size, event ≠ .given idx buffer size)
    (responses : s'.responses = s.responses) (blocks : s'.nextBlock = s.nextBlock) :
    Guarded (own ++ [event]) s' plan := by
  have same : attempts (own ++ [event]) ++ plan.map Job.effect =
      attempts own ++ (job :: plan).map Job.effect := by
    simp [tried]
  have sends {idx : Nat} {error : Option TritonError}
      (member : .send idx error ∈ own ++ [event]) : .send idx error ∈ own :=
    noted_before member (silent idx error)
  have givens {idx size : Nat} {buffer : Address}
      (member : .given idx buffer size ∈ own ++ [event]) : .given idx buffer size ∈ own :=
    noted_before member (gives idx buffer size)
  constructor
  · rw [Sys.Named, responses]
    exact guarded.named
  · rw [same, blocks]
    exact guarded.numbered
  · rw [same]
    exact guarded.once
  · rw [blocks]
    exact fun idx buffer size member => guarded.given idx buffer size (givens member)
  · intro idx error member
    rw [Sys.Gone, responses]
    exact guarded.gone idx error (sends member)
  · intro idx error member buffer size given other inside
    exact guarded.spared idx error (sends member) buffer size (givens given) other
      (List.mem_cons_of_mem _ inside)
  · refine sentUntouched_concat guarded.untouched ?_
      (fun idx error _ buffer size => gives idx buffer size)
    intro idx error sent buffer size given effect member
    rw [tried, List.mem_singleton] at member
    subst member
    exact guarded.spared idx error sent buffer size given job List.mem_cons_self

theorem guarded_quiet (guarded : Guarded own s plan) {event : Event}
    (tries : event.attempts = []) (silent : ∀ idx error, event ≠ .send idx error)
    (gives : ∀ idx buffer size, event ≠ .given idx buffer size) :
    Guarded (own ++ [event]) (s.note event) plan := by
  have same : attempts (own ++ [event]) = attempts own := by simp [tries]
  have sends {idx : Nat} {error : Option TritonError}
      (member : .send idx error ∈ own ++ [event]) : .send idx error ∈ own :=
    noted_before member (silent idx error)
  have givens {idx size : Nat} {buffer : Address}
      (member : .given idx buffer size ∈ own ++ [event]) : .given idx buffer size ∈ own :=
    noted_before member (gives idx buffer size)
  refine ⟨guarded.named, same ▸ guarded.numbered, same ▸ guarded.once, ?_, ?_, ?_, ?_⟩
  · exact fun idx buffer size member => guarded.given idx buffer size (givens member)
  · exact fun idx error member => guarded.gone idx error (sends member)
  · exact fun idx error member buffer size given =>
      guarded.spared idx error (sends member) buffer size (givens given)
  · exact sentUntouched_concat guarded.untouched (by simp [tries])
      (fun idx error _ buffer size => gives idx buffer size)

/-- Other jobs take over: they write where the old ones would have, or into new blocks. -/
theorem guarded_reroute {nextBlock : Nat} {old new rest : List (Job Block Nat)}
    (guarded : Guarded own s (old ++ rest)) (tick : Nat)
    (reroutes : Reroute (V := UInt8) IsStaging blockAge True s.nextBlock nextBlock old new) :
    Guarded own { s with tick, nextBlock } (new ++ rest) := by
  obtain ⟨named, numbered, once, given, gone, spared, untouched⟩ := guarded
  simp only [List.map_append] at numbered once
  refine ⟨named, ?_, ?_, ?_, gone, ?_, untouched⟩
  · intro effect member
    simp only [List.map_append, List.mem_append] at member numbered
    rcases member with before | added | kept
    · exact Nat.le_trans (numbered effect (Or.inl before)) reroutes.later
    · obtain ⟨job, inNew, rfl⟩ := List.mem_map.mp added
      exact (reroutes.aged job inNew).1
    · exact Nat.le_trans (numbered effect (Or.inr (Or.inr kept))) reroutes.later
  · rw [List.map_append]
    refine writesOnce_reroute trivial once reroutes fun effect member => numbered effect ?_
    simp only [List.mem_append] at member ⊢
    tauto
  · exact fun idx buffer size member bytes =>
      Nat.le_trans (given idx buffer size member bytes) reroutes.later
  · intro idx error sent buffer size known job member block position covered written
    rcases List.mem_append.mp member with inNew | kept
    · have bound := given idx buffer size known (covers_positive covered)
      rcases reroutes.inside trivial job inNew block position written with fresh | ⟨origin, inOld, same⟩
      · rw [covered.1] at fresh
        exact absurd fresh (Nat.not_lt.mpr bound)
      · exact spared idx error sent buffer size known origin (List.mem_append_left _ inOld) block
          position covered same
    · exact spared idx error sent buffer size known job (List.mem_append_right _ kept) block position
        covered written

theorem guarded_shuffle {plan' : List (Job Block Nat)} (guarded : Guarded own s plan)
    (same : plan.Perm plan') : Guarded own s plan' := by
  have images := same.map (Job.effect (V := UInt8))
  refine ⟨guarded.named, ?_, writesOnce_perm (images.append_left _) guarded.once, guarded.given,
    guarded.gone, ?_, guarded.untouched⟩
  · exact fun effect member => guarded.numbered effect ((images.append_left _).mem_iff.mpr member)
  · exact fun idx error sent buffer size given job member =>
      guarded.spared idx error sent buffer size given job (same.mem_iff.mpr member)

theorem guarded_give (guarded : Guarded own s plan) {idx response : Nat}
    (live : s.responses[idx]? = some (some response)) {job : Job Block Nat}
    (target : job.transfer.target = { block := .output s.nextBlock, offset := 0 } ∨
      job.transfer.target = nullAddress ∧ job.transfer.byteSize = 0)
    (old : blockAge job.transfer.source.block ≤ s.nextBlock) :
    Guarded (own ++ [.given idx job.transfer.target job.transfer.byteSize])
      { s.note (.given idx job.transfer.target job.transfer.byteSize) with
        nextBlock := s.nextBlock + 1 } (job :: plan) := by
  have front : Guarded own s ([] ++ plan) := guarded
  have rerouted : Guarded own { s with nextBlock := s.nextBlock + 1 } (job :: plan) :=
    guarded_reroute front s.tick (give_reroute s.nextBlock target old)
  have same : attempts (own ++ [Event.given idx job.transfer.target job.transfer.byteSize]) =
      attempts own := by
    simp [Event.attempts]
  have other {idx' : Nat} {error : Option TritonError} (sent : .send idx' error ∈ own) :
      idx' ≠ idx := by
    rintro rfl
    exact guarded.gone idx' error sent response live
  have sends {idx' : Nat} {error : Option TritonError} (member : .send idx' error ∈
      own ++ [Event.given idx job.transfer.target job.transfer.byteSize]) :
      .send idx' error ∈ own :=
    noted_before member (by simp)
  -- `idx` is still live, so it is none of the responses that have been sent
  refine ⟨guarded.named, same ▸ rerouted.numbered, same ▸ rerouted.once, ?_, ?_, ?_, ?_⟩
  · intro idx' buffer size member bytes
    rcases List.mem_append.mp member with before | new
    · exact rerouted.given idx' buffer size before bytes
    · rw [List.mem_singleton, Event.given.injEq] at new
      obtain ⟨rfl, rfl, rfl⟩ := new
      rcases target with fresh | ⟨_, empty⟩
      · rw [fresh]
        exact Nat.le_refl _
      · omega
  · exact fun idx' error member => guarded.gone idx' error (sends member)
  · intro idx' error member buffer size known
    rcases List.mem_append.mp known with before | new
    · exact rerouted.spared idx' error (sends member) buffer size before
    · rw [List.mem_singleton, Event.given.injEq] at new
      exact absurd new.1 (other (sends member))
  · refine sentUntouched_concat guarded.untouched (by simp [Event.attempts]) ?_
    intro idx' error sent buffer size given
    rw [Event.given.injEq] at given
    exact other sent given.1.symm

end

theorem outcome_guarded {own : List Event} {s : Sys} {plan : List (Job Block Nat)}
    {job : Job Block Nat} (guarded : Guarded own s (job :: plan)) {result : CopyResult}
    (outcome : CopyOutcome s job.transfer result) :
    ∃ event, result.sys.log = s.log ++ [event] ∧ Guarded (own ++ [event]) result.sys plan := by
  cases outcome with
  | host => exact ⟨_, rfl, guarded_attempt guarded rfl (by simp) (by simp) rfl rfl⟩
  | stream tick => exact ⟨_, rfl, guarded_attempt guarded rfl (by simp) (by simp) rfl rfl⟩
  | failed tick error => exact ⟨_, rfl, guarded_attempt guarded rfl (by simp) (by simp) rfl rfl⟩

theorem serve_guarded {offers : Offers} {state state' : Sys × List (Job Block Nat)}
    (step : Sys.Serve offers state state') {own : List Event}
    (guarded : Guarded own state.1 state.2) :
    ∃ added, state'.1.log = state.1.log ++ added ∧
      (SentFilled (own ++ added) → Guarded (own ++ added) state'.1 state'.2) := by
  cases step with
  | count s plan tick later =>
      refine ⟨[], by simp, fun _ => ?_⟩
      rw [List.append_nil]
      have bounds := fun effect member => Nat.le_trans (guarded.numbered effect member) later
      exact ⟨guarded.named, bounds, guarded.once, fun idx buffer size member bytes =>
        Nat.le_trans (guarded.given idx buffer size member bytes) later, guarded.gone,
        guarded.spared, guarded.untouched⟩
  | answer s s' plan answered =>
      exact guarded_answers guarded (Relation.ReflTransGen.single answered)
  | mark s plan action none =>
      exact ⟨[.device action], rfl, fun _ => guarded_quiet guarded none (by simp) (by simp)⟩
  | give s plan idx response live job mine target direct old offered =>
      exact ⟨_, rfl, fun _ => guarded_give guarded live target old⟩
  | attempt s s' job rest result outcome answers told ready arrived =>
      obtain ⟨event, noted, tried⟩ := outcome_guarded guarded outcome
      obtain ⟨added, log, still⟩ := guarded_answers tried answers
      refine ⟨event :: added, by simp [log, noted], fun filled => ?_⟩
      have shape : own ++ event :: added = own ++ [event] ++ added := by simp
      rw [shape] at filled ⊢
      exact still filled
  | reroute s tick rest reroutes =>
      exact ⟨[], by simp, fun _ => by simpa using guarded_reroute guarded tick reroutes⟩
  | shuffle s same => exact ⟨[], by simp, fun _ => by simpa using guarded_shuffle guarded same⟩

theorem serves_guarded {offers : Offers} {state state' : Sys × List (Job Block Nat)}
    (run : Sys.Serves offers state state') (guarded : Guarded [] state.1 state.2) :
    ∃ own, state'.1.log = state.1.log ++ own ∧
      (SentFilled own → Guarded own state'.1 state'.2) := by
  induction run with
  | refl => exact ⟨[], by simp, fun _ => guarded⟩
  | @tail before last run step ih =>
      obtain ⟨early, first, soFar⟩ := ih
      -- once a response has been sent early the whole run has sent one early
      by_cases filled : SentFilled early
      · obtain ⟨late, second, next⟩ := serve_guarded step (soFar filled)
        exact ⟨early ++ late, by simp [first, second], next⟩
      · obtain ⟨late, second, _⟩ := serve_given step
        refine ⟨early ++ late, by simp [first, second], ?_⟩
        intro whole
        exact absurd whole.of_append filled

/-! Whole runs. -/

def ownLog (s done : Sys) : List Event := done.log.drop s.log.length

/-- In a run that sends no response early, nothing is written behind its sending. -/
theorem sentUntouched_of_sentFilled (env : Env) (cfg : ResponderConfig) {s : Sys} (named : s.Named)
    (numbered : (s.courier []).Numbered blockAge) (steps : List ResponderStep)
    (placed : ∀ step ∈ steps, ∀ tensor, step.tensor? = some tensor → tensor.Placed s) :
    let own := ownLog s (((Responder.create s).runSteps env cfg steps).close env cfg)
    SentFilled own → SentUntouched own := by
  obtain ⟨serves, calm⟩ := Responder.runSteps_calm env cfg (Responder.calm_create cfg s)
    (show s.Sound [] from ⟨numbered, List.Pairwise.nil⟩) steps placed
  obtain ⟨closes, _⟩ := Responder.close_serves env cfg (fun _ _ _ => True) calm
  have start : Guarded [] s [] := by
    refine ⟨named, by simp, List.Pairwise.nil, by simp, by simp, by simp, ?_⟩
    intro before idx error after split
    simp at split
  obtain ⟨own, log, guarded⟩ := serves_guarded (serves.trans closes) start
  have same : ownLog s (((Responder.create s).runSteps env cfg steps).close env cfg) = own := by
    rw [ownLog, log]
    exact List.drop_left
  simp only [same]
  exact fun filled => (guarded filled).untouched

def Event.givenTo? : Event → Option Nat
  | .given idx _ _ => some idx
  | _ => none

theorem sentFilled_of_apart {own : List Event}
    (apart : ∀ idx ∈ own.filterMap Event.sent?, idx ∉ own.filterMap Event.givenTo?) :
    SentFilled own := by
  rintro before idx error after rfl ⟨buffer, size, given, _⟩
  refine apart idx (List.mem_filterMap.mpr ⟨.send idx error, by simp, rfl⟩)
    (List.mem_filterMap.mpr ⟨.given idx buffer size, ?_, rfl⟩)
  exact List.mem_append_left _ given

theorem fresh_named (requestCount : Nat) : (Sys.fresh requestCount).Named := by
  intro idx response present
  simp only [Sys.fresh, List.getElem?_map, Option.map_eq_some_iff] at present
  obtain ⟨found, inRange, same⟩ := present
  obtain ⟨_, equal⟩ := List.getElem?_eq_some_iff.mp inRange
  simp only [List.getElem_range, Option.some.injEq] at equal same
  exact same.symm.trans equal.symm

/-! A GPU tensor of two rows. In one run the server has no buffer for the second response, in
the other the copy into the pinned block fails. -/

def refusing (call : Call) (tick : Nat) : Env :=
  { Env.successful gatherSegments with
    outcome := fun now api =>
      if api = call ∧ tick ≤ now then some { code := .internal, message := "refused" } else none }

def rowsConfig : ResponderConfig := ResponderConfig.pinned [rowsRequest 1, rowsRequest 1]

def rowsLog (env : Env) : List Event :=
  ownLog (Sys.fresh 2)
    (((Responder.create (Sys.fresh 2)).runSteps env rowsConfig [.call rowsCall]).close env rowsConfig)

theorem sentUntouched_refused : SentUntouched (rowsLog (refusing .outputBuffer 4)) := by
  refine sentUntouched_of_sentFilled _ _ (fresh_named 2) (fresh_numbered rfl (by simp))
    [.call rowsCall] ?_ (sentFilled_of_apart (by decide +kernel))
  intro step member tensor same
  rw [List.mem_singleton] at member
  subst member
  cases same
  exact gpuOutput_placed _

/-- Both responses are sent, and then the block that was never filled is copied to them. -/
theorem not_sentUntouched_failed : ¬ SentUntouched (rowsLog (refusing .memcpyAsync 0)) := by
  intro untouched
  have split : rowsLog (refusing .memcpyAsync 0) =
      (rowsLog (refusing .memcpyAsync 0)).take 3 ++
        .send 0 (errorNew .internal "pinned buffer: failed to perform CUDA copy: refused") ::
          (rowsLog (refusing .memcpyAsync 0)).drop 4 := by
    decide +kernel
  refine untouched _ 0 _ _ split { block := .output 0, offset := 0 } 4 (by decide +kernel)
    (.host (.copy {
      source := { block := .staging 2, offset := 0 }
      target := { block := .output 0, offset := 0 }
      byteSize := 4 })) (by decide +kernel) _ List.mem_cons_self (.output 0) 0 (by decide)
    (by decide)

end TritonBackend
