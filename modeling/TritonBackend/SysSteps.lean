import TritonBackend.CommonCore
import TritonBackend.CopyPlan

/-!
What the shared state can do in one step: note something quiet, count a call or an
allocation, or answer a live response and set its slot to null. The results on responses rest on
these steps alone. A copy attempt has three outcomes, listed in `CopyOutcome`, and takes its
job off the courier's plan.
-/

namespace TritonBackend

open CopyStream

def Sys.Gone (s : Sys) (idx : Nat) : Prop :=
  ∀ response, s.responses[idx]? ≠ some (some response)

inductive Sys.Answer : Sys → Sys → Prop
  | respond (s : Sys) (idx response : Nat) (error : Option TritonError)
      (live : s.responses[idx]? = some (some response)) :
      Answer s ((s.responseSend response error).setNull idx)

inductive Sys.Step : Sys → Sys → Prop
  | quiet (s : Sys) (event : Event) (silent : event.sent? = none) : Step s (s.note event)
  | count (s : Sys) (tick nextBlock : Nat) (later : s.nextBlock ≤ nextBlock) :
      Step s { s with tick, nextBlock }
  | answer (s s' : Sys) (answered : s.Answer s') : Step s s'

def Sys.Answers : Sys → Sys → Prop := Relation.ReflTransGen Sys.Answer

def Sys.Reaches : Sys → Sys → Prop := Relation.ReflTransGen Sys.Step

theorem Sys.Answers.trans {s s' s'' : Sys} (first : s.Answers s') (second : s'.Answers s'') :
    s.Answers s'' := Relation.ReflTransGen.trans first second

theorem Sys.Reaches.trans {s s' s'' : Sys} (first : s.Reaches s') (second : s'.Reaches s'') :
    s.Reaches s'' := Relation.ReflTransGen.trans first second

theorem Sys.Answers.refl (s : Sys) : s.Answers s := Relation.ReflTransGen.refl

theorem Sys.Reaches.refl (s : Sys) : s.Reaches s := Relation.ReflTransGen.refl

theorem Sys.Step.reaches {s s' : Sys} (step : s.Step s') : s.Reaches s' :=
  Relation.ReflTransGen.single step

theorem Sys.Answers.reaches {s s' : Sys} (answers : s.Answers s') : s.Reaches s' := by
  induction answers with
  | refl => exact Relation.ReflTransGen.refl
  | tail _ answered ih => exact ih.tail (Sys.Step.answer _ _ answered)

/-! Fields under the primitive operations. -/

@[simp] theorem responses_note (s : Sys) (event : Event) :
    (s.note event).responses = s.responses := rfl

@[simp] theorem nextBlock_note (s : Sys) (event : Event) :
    (s.note event).nextBlock = s.nextBlock := rfl

@[simp] theorem log_note (s : Sys) (event : Event) : (s.note event).log = s.log ++ [event] := rfl

@[simp] theorem actions_note (s : Sys) (event : Event) :
    (s.note event).actions = s.actions ++ event.action?.toList := by
  cases event <;> simp [Sys.actions, Sys.note, Event.action?]

@[simp] theorem sent_note (s : Sys) (event : Event) :
    (s.note event).sent = s.sent ++ event.sent?.toList := by
  cases event <;> simp [Sys.sent, Sys.note, Event.sent?]

@[simp] theorem responses_issue (s : Sys) (action : Action Block UInt8) :
    (s.issue action).responses = s.responses := rfl

@[simp] theorem nextBlock_issue (s : Sys) (action : Action Block UInt8) :
    (s.issue action).nextBlock = s.nextBlock := rfl

@[simp] theorem log_issue (s : Sys) (action : Action Block UInt8) :
    (s.issue action).log = s.log ++ [.device action] := rfl

@[simp] theorem actions_issue (s : Sys) (action : Action Block UInt8) :
    (s.issue action).actions = s.actions ++ [action] := actions_note s (.device action)

@[simp] theorem sent_issue (s : Sys) (action : Action Block UInt8) :
    (s.issue action).sent = s.sent := by simp [Sys.issue, Event.sent?]

@[simp] theorem actions_count (s : Sys) (tick nextBlock : Nat) :
    Sys.actions { s with tick, nextBlock } = s.actions := rfl

@[simp] theorem sent_count (s : Sys) (tick nextBlock : Nat) :
    Sys.sent { s with tick, nextBlock } = s.sent := rfl

@[simp] theorem actions_setNull (s : Sys) (idx : Nat) : (s.setNull idx).actions = s.actions := rfl

@[simp] theorem sent_setNull (s : Sys) (idx : Nat) : (s.setNull idx).sent = s.sent := rfl

theorem call_eq (env : Env) (s : Sys) (api : Call) :
    s.call env api = (env.outcome s.tick api, { s with tick := s.tick + 1 }) := rfl

theorem Sys.Reaches.issue (s : Sys) (action : Action Block UInt8) : s.Reaches (s.issue action) :=
  (Sys.Step.quiet s (.device action) rfl).reaches

theorem Sys.Reaches.count (s : Sys) (tick : Nat) : s.Reaches { s with tick } :=
  (Sys.Step.count s tick s.nextBlock (Nat.le_refl _)).reaches

theorem Sys.Reaches.call (env : Env) (s : Sys) (api : Call) : s.Reaches (s.call env api).2 :=
  Sys.Reaches.count s (s.tick + 1)

/-! Answering responses. -/

theorem answer_actions {s s' : Sys} (answered : s.Answer s') : s'.actions = s.actions := by
  cases answered with
  | respond idx response error live => simp [Sys.responseSend, Event.action?]

theorem answers_actions {s s' : Sys} (answers : s.Answers s') : s'.actions = s.actions := by
  induction answers with
  | refl => rfl
  | tail _ answered ih => exact (answer_actions answered).trans ih

theorem answers_nextBlock {s s' : Sys} (answers : s.Answers s') :
    s'.nextBlock = s.nextBlock := by
  induction answers with
  | refl => rfl
  | tail _ answered ih =>
      cases answered with
      | respond idx response error live => exact ih

theorem answers_tick {s s' : Sys} (answers : s.Answers s') : s'.tick = s.tick := by
  induction answers with
  | refl => rfl
  | tail _ answered ih =>
      cases answered with
      | respond idx response error live => exact ih

theorem answers_log {s s' : Sys} (answers : s.Answers s') :
    ∃ sends, s'.log = s.log ++ sends ∧ ∀ event ∈ sends, ∃ response error,
      event = .send response error := by
  induction answers with
  | refl => exact ⟨[], by simp⟩
  | tail _ answered ih =>
      obtain ⟨sends, log, only⟩ := ih
      cases answered with
      | respond idx response error live =>
          refine ⟨sends ++ [.send response error], ?_, ?_⟩
          · simp [Sys.setNull, Sys.responseSend, log]
          · intro event member
            rcases List.mem_append.mp member with before | new
            · exact only event before
            · exact ⟨response, error, List.mem_singleton.mp new⟩

theorem answer_gone {s s' : Sys} (answered : s.Answer s') {idx : Nat} (gone : s.Gone idx) :
    s'.Gone idx := by
  cases answered with
  | respond other response error live =>
      intro found present
      by_cases same : other = idx
      · subst same
        have inside := (List.getElem?_eq_some_iff.mp live).1
        simp [Sys.setNull, Sys.responseSend, inside] at present
      · refine gone found ?_
        simpa [Sys.setNull, Sys.responseSend, List.getElem?_set_ne same] using present

theorem step_gone {s s' : Sys} (step : s.Step s') {idx : Nat} (gone : s.Gone idx) :
    s'.Gone idx := by
  cases step with
  | quiet event silent => exact gone
  | count tick nextBlock later => exact gone
  | answer s' answered => exact answer_gone answered gone

theorem reaches_gone {s s' : Sys} (reaches : s.Reaches s') {idx : Nat} (gone : s.Gone idx) :
    s'.Gone idx := by
  induction reaches with
  | refl => exact gone
  | tail _ step ih => exact step_gone step ih

theorem reaches_nextBlock {s s' : Sys} (reaches : s.Reaches s') : s.nextBlock ≤ s'.nextBlock := by
  induction reaches with
  | refl => exact Nat.le_refl _
  | tail _ step ih =>
      cases step with
      | quiet event silent => exact ih
      | count tick nextBlock later => exact Nat.le_trans ih later
      | answer s' answered =>
          cases answered with
          | respond idx response error live => exact ih

theorem reaches_length {s s' : Sys} (reaches : s.Reaches s') :
    s'.responses.length = s.responses.length := by
  induction reaches with
  | refl => rfl
  | tail _ step ih =>
      cases step with
      | quiet event silent => exact ih
      | count tick nextBlock later => exact ih
      | answer s' answered =>
          cases answered with
          | respond idx response error live => exact (List.length_set ..).trans ih

theorem inactive_of_actions {s s' : Sys} {events : List Event} (log : s.log ++ events = s'.log)
    (same : s'.actions = s.actions) : ∀ event ∈ events, event.action? = none := by
  rw [Sys.actions, ← log, List.filterMap_append] at same
  exact List.filterMap_eq_nil_iff.mp (List.append_right_eq_self.mp same)

theorem reaches_log {s s' : Sys} (reaches : s.Reaches s') : s.log <+: s'.log := by
  induction reaches with
  | refl => exact List.prefix_refl _
  | tail _ step ih =>
      cases step with
      | quiet event silent => exact ih.trans (List.prefix_append _ _)
      | count tick nextBlock later => exact ih
      | answer s' answered =>
          cases answered with
          | respond idx response error live => exact ih.trans (List.prefix_append _ _)

theorem reaches_sent {s s' : Sys} (reaches : s.Reaches s') {idx response : Nat}
    (live : s.responses[idx]? = some (some response)) :
    s'.responses[idx]? = some (some response) ∨
      s'.responses[idx]? = some none ∧ response ∈ s'.sent := by
  induction reaches with
  | refl => exact Or.inl live
  | tail _ step ih =>
      cases step with
      | quiet event silent =>
          rw [sent_note]
          exact ih.imp_right fun ⟨null, sent⟩ => ⟨null, List.mem_append_left _ sent⟩
      | count tick nextBlock later => exact ih
      | answer s' answered =>
          cases answered with
          | respond other found error present =>
              have inside := (List.getElem?_eq_some_iff.mp present).1
              by_cases same : other = idx
              · subst other
                rcases ih with unsent | ⟨null, _⟩
                · rw [unsent] at present
                  cases present
                  refine Or.inr ⟨by simp [Sys.setNull, Sys.responseSend, inside], ?_⟩
                  simp [Sys.responseSend, Event.sent?]
                · rw [null] at present
                  cases present
              · refine ih.imp (fun unsent => ?_) fun ⟨null, sent⟩ => ⟨?_, ?_⟩
                · simpa [Sys.setNull, Sys.responseSend, List.getElem?_set_ne same] using unsent
                · simpa [Sys.setNull, Sys.responseSend, List.getElem?_set_ne same] using null
                · simp [Sys.responseSend, sent]

theorem sendIfNotNull_answers (s : Sys) (idx : Nat) (error : Option TritonError) :
    s.Answers (sendIfNotNull s idx error) := by
  unfold sendIfNotNull
  split
  next response live => exact Relation.ReflTransGen.single (Sys.Answer.respond s idx response error live)
  next => exact Sys.Answers.refl s

theorem sendIfNotNull_gone (s : Sys) (idx : Nat) (error : Option TritonError) :
    (sendIfNotNull s idx error).Gone idx := by
  unfold sendIfNotNull
  split
  next response live =>
    have inside := (List.getElem?_eq_some_iff.mp live).1
    simp [Sys.Gone, Sys.setNull, Sys.responseSend, inside]
  next other => exact other

theorem sendIfNotNull_other (s : Sys) (idx : Nat) (error : Option TritonError) {other : Nat}
    (different : other ≠ idx) (gone : (sendIfNotNull s idx error).Gone other) : s.Gone other := by
  unfold sendIfNotNull at gone
  split at gone
  next response live =>
    intro found present
    refine gone found ?_
    simpa [Sys.setNull, Sys.responseSend, List.getElem?_set_ne different.symm] using present
  next => exact gone

theorem respondAndSetNullIfError_answers (s : Sys) (idx : Nat) (error : Option TritonError) :
    s.Answers (respondAndSetNullIfError s idx error) := by
  cases error with
  | none => exact Sys.Answers.refl s
  | some error => exact sendIfNotNull_answers s idx (some error)

theorem Sys.Reaches.respond {s s' : Sys} (reaches : s.Reaches s') (idx : Nat)
    (error : Option TritonError) : s.Reaches (respondAndSetNullIfError s' idx error) :=
  reaches.trans (respondAndSetNullIfError_answers s' idx error).reaches

theorem device_issue (s : Sys) (action : Action Block UInt8) :
    (s.issue action).device = s.device.step action := by
  simp [Sys.device]

/-- Work of the host alone: nothing is put on the stream and no event is recorded. -/
structure Sys.Hosts (s s' : Sys) : Prop where
  reaches : s.Reaches s'
  queue : s'.device.queue = s.device.queue
  recorded : s'.device.recorded = s.device.recorded

theorem Sys.Hosts.refl (s : Sys) : s.Hosts s := ⟨Sys.Reaches.refl s, rfl, rfl⟩

theorem Sys.Hosts.trans {s s' s'' : Sys} (first : s.Hosts s') (second : s'.Hosts s'') :
    s.Hosts s'' :=
  ⟨first.reaches.trans second.reaches, second.queue.trans first.queue,
    second.recorded.trans first.recorded⟩

theorem Sys.Hosts.count (s : Sys) (tick : Nat) : s.Hosts { s with tick } :=
  ⟨Sys.Reaches.count s tick, rfl, rfl⟩

theorem Sys.Hosts.respond {s s' : Sys} (hosts : s.Hosts s') (idx : Nat)
    (error : Option TritonError) : s.Hosts (respondAndSetNullIfError s' idx error) := by
  have same : (respondAndSetNullIfError s' idx error).device = s'.device := by
    rw [Sys.device, Sys.device, answers_actions (respondAndSetNullIfError_answers s' idx error)]
  exact ⟨hosts.reaches.respond idx error, by rw [same, hosts.queue], by rw [same, hosts.recorded]⟩

theorem Sys.Hosts.issue (s : Sys) (effect : Effect Block UInt8) : s.Hosts (s.issue (.host effect)) :=
  ⟨Sys.Reaches.issue s _, by rw [device_issue]; rfl, by rw [device_issue]; rfl⟩


theorem sendFrom_answers (s : Sys) (error : Option TritonError) (idx count : Nat) :
    s.Answers (sendFrom s error idx count) := by
  induction count generalizing s idx with
  | zero => exact Sys.Answers.refl s
  | succ count ih => exact (sendIfNotNull_answers s idx error).trans (ih _ (idx + 1))

theorem sendFrom_gone (s : Sys) (error : Option TritonError) (idx count : Nat) {other : Nat}
    (lower : idx ≤ other) (upper : other < idx + count) :
    (sendFrom s error idx count).Gone other := by
  induction count generalizing s idx with
  | zero => omega
  | succ count ih =>
      by_cases same : other = idx
      · subst same
        exact reaches_gone (sendFrom_answers _ error _ count).reaches (sendIfNotNull_gone s other error)
      · exact ih (sendIfNotNull s idx error) (idx + 1) (by omega) (by omega)

theorem sendFrom_other (s : Sys) (error : Option TritonError) (idx count : Nat) {other : Nat}
    (outside : other < idx ∨ idx + count ≤ other)
    (gone : (sendFrom s error idx count).Gone other) : s.Gone other := by
  induction count generalizing s idx with
  | zero => exact gone
  | succ count ih =>
      have earlier := ih (sendIfNotNull s idx error) (idx + 1) (by omega) gone
      exact sendIfNotNull_other s idx error (by omega) earlier

def ContiguousBuffer.requestRange (input : ContiguousBuffer) : List Nat :=
  List.range' input.startRequestIdx (input.endRequestIdx + 1 - input.startRequestIdx)

theorem failRequests_answers (s : Sys) (error : Option TritonError) (input : ContiguousBuffer) :
    s.Answers (failRequests s error input) := sendFrom_answers s error _ _

theorem failRequests_gone (s : Sys) (error : Option TritonError) (input : ContiguousBuffer)
    {idx : Nat} (member : idx ∈ input.requestRange) : (failRequests s error input).Gone idx := by
  obtain ⟨lower, upper⟩ := List.mem_range'_1.mp member
  exact sendFrom_gone s error _ _ lower upper

theorem failRequests_other (s : Sys) (error : Option TritonError) (input : ContiguousBuffer)
    {idx : Nat} (outside : idx ∉ input.requestRange)
    (gone : (failRequests s error input).Gone idx) : s.Gone idx := by
  refine sendFrom_other s error _ _ ?_ gone
  have range := mt List.mem_range'_1.mpr outside
  omega

theorem failAllRequests_answers (s : Sys) (error : Option TritonError)
    (inputs : List ContiguousBuffer) : s.Answers (failAllRequests s error inputs) := by
  induction inputs generalizing s with
  | nil => exact Sys.Answers.refl s
  | cons input rest ih => exact (failRequests_answers s error input).trans (ih _)

theorem failAllRequests_gone (s : Sys) (error : Option TritonError)
    (inputs : List ContiguousBuffer) {input : ContiguousBuffer} (member : input ∈ inputs)
    {idx : Nat} (inside : idx ∈ input.requestRange) :
    (failAllRequests s error inputs).Gone idx := by
  induction inputs generalizing s with
  | nil => simp at member
  | cons first rest ih =>
      rcases List.mem_cons.mp member with same | later
      · subst same
        exact reaches_gone (failAllRequests_answers _ error rest).reaches
          (failRequests_gone s error input inside)
      · exact ih (failRequests s error first) later

theorem failAllRequests_other (s : Sys) (error : Option TritonError)
    (inputs : List ContiguousBuffer) {idx : Nat}
    (outside : ∀ input ∈ inputs, idx ∉ input.requestRange)
    (gone : (failAllRequests s error inputs).Gone idx) : s.Gone idx := by
  induction inputs generalizing s with
  | nil => exact gone
  | cons first rest ih =>
      have later := ih (failRequests s error first)
        (fun input member => outside input (List.mem_cons_of_mem _ member)) gone
      exact failRequests_other s error first (outside first List.mem_cons_self) later

/-! Copies and allocations. -/

inductive CopyOutcome (s : Sys) (transfer : Copy Block) : CopyResult → Prop
  | host : CopyOutcome s transfer {
      error := none, cudaUsed := false, sys := s.issue (.host (.copy transfer)) }
  | stream (tick : Nat) : CopyOutcome s transfer {
      error := none, cudaUsed := true
      sys := Sys.issue { s with tick } (.stream [transfer]) }
  | failed (tick : Nat) (error : TritonError) : CopyOutcome s transfer {
      error := some error, cudaUsed := false
      sys := Sys.note { s with tick } (.failedCopy transfer) }

theorem copyBuffer_outcome (env : Env) (s : Sys) (msg : String) (srcMemoryType : MemoryType)
    (srcMemoryTypeId : Int) (dstMemoryType : MemoryType) (dstMemoryTypeId : Int)
    (byteSize : Nat) (src dst : Address) (copyOnStream : Bool) :
    CopyOutcome s { source := src, target := dst, byteSize }
      (copyBuffer env s msg srcMemoryType srcMemoryTypeId dstMemoryType dstMemoryTypeId byteSize
        src dst copyOnStream) := by
  unfold copyBuffer
  simp only [errorNew, call_eq]
  split
  · exact CopyOutcome.failed s.tick _
  · split
    · exact CopyOutcome.failed s.tick _
    · split
      · split
        · exact CopyOutcome.stream s.tick
        · exact CopyOutcome.host
      · generalize env.outcome s.tick _ = outcome
        cases outcome with
        | none => exact CopyOutcome.stream (s.tick + 1)
        | some error => exact CopyOutcome.failed (s.tick + 1) _

/-- A copy between host memories is made at once unless it is to be put on the stream. -/
theorem copyBuffer_cudaUsed {env : Env} {s : Sys} {msg : String} {srcMemoryType : MemoryType}
    {srcMemoryTypeId : Int} {dstMemoryType : MemoryType} {dstMemoryTypeId : Int} {byteSize : Nat}
    {src dst : Address} {copyOnStream : Bool}
    (success : (copyBuffer env s msg srcMemoryType srcMemoryTypeId dstMemoryType dstMemoryTypeId
      byteSize src dst copyOnStream).error = none) :
    (copyBuffer env s msg srcMemoryType srcMemoryTypeId dstMemoryType dstMemoryTypeId byteSize src
      dst copyOnStream).cudaUsed = false ↔
        srcMemoryType ≠ .gpu ∧ dstMemoryType ≠ .gpu ∧ copyOnStream = false := by
  simp only [copyBuffer, errorNew, call_eq] at success ⊢
  split at success
  · cases success
  · split at success
    · cases success
    next source target =>
      simp only [source, target, if_false]
      by_cases host : srcMemoryType ≠ .gpu ∧ dstMemoryType ≠ .gpu
      · cases copyOnStream <;> simp [host]
      · have apart : ¬ (srcMemoryType ≠ .gpu ∧ dstMemoryType ≠ .gpu ∧ copyOnStream = false) :=
          fun both => host ⟨both.1, both.2.1⟩
        simp only [host, if_false] at success ⊢
        generalize env.outcome s.tick _ = outcome at success ⊢
        cases outcome with
        | some error => cases success
        | none => exact iff_of_false Bool.noConfusion apart

theorem CopyOutcome.log {s : Sys} {transfer : Copy Block} {result : CopyResult}
    (outcome : CopyOutcome s transfer result) :
    ∃ event, result.sys.log = s.log ++ [event] ∧
      (event = .failedCopy transfer ∨
        ∃ action, event = .device action ∧ action.effects = [.copy transfer]) := by
  cases outcome with
  | host => exact ⟨_, rfl, Or.inr ⟨_, rfl, rfl⟩⟩
  | stream tick => exact ⟨_, rfl, Or.inr ⟨_, rfl, rfl⟩⟩
  | failed tick error => exact ⟨_, rfl, Or.inl rfl⟩

theorem CopyOutcome.reaches {s : Sys} {transfer : Copy Block} {result : CopyResult}
    (outcome : CopyOutcome s transfer result) : s.Reaches result.sys := by
  cases outcome with
  | host => exact Sys.Reaches.issue s _
  | stream tick => exact (Sys.Reaches.count s tick).trans (Sys.Reaches.issue _ _)
  | failed tick error =>
      exact (Sys.Reaches.count s tick).trans (Sys.Step.quiet _ (.failedCopy transfer) rfl).reaches

theorem CopyOutcome.unused {s : Sys} {transfer : Copy Block} {result : CopyResult}
    (outcome : CopyOutcome s transfer result) {error : TritonError}
    (failed : result.error = some error) : result.cudaUsed = false := by
  cases outcome with
  | host => rfl
  | stream tick => cases failed
  | failed tick error => rfl

theorem createFrom_hosts (env : Env) (s : Sys) (place : Nat → Block) (memoryTypeId : Int)
    (byteSize : Nat) (failures : String) (allocTypes : List AllocationType) :
    s.Hosts (createFrom env s place memoryTypeId byteSize failures allocTypes).2 := by
  induction allocTypes generalizing s failures with
  | nil => exact Sys.Hosts.refl s
  | cons allocType rest ih =>
      simp only [createFrom, call_eq]
      cases env.outcome s.tick (.allocate allocType) with
      | none => exact ⟨(Sys.Step.count s _ _ (Nat.le_succ _)).reaches, rfl, rfl⟩
      | some error => exact (Sys.Hosts.count s _).trans (ih _ _)

theorem createBackendMemory_hosts (env : Env) (s : Sys) (place : Nat → Block)
    (allocTypes : List AllocationType) (memoryTypeId : Int) (byteSize : Nat) :
    s.Hosts (createBackendMemory env s place allocTypes memoryTypeId byteSize).2 := by
  cases allocTypes with
  | nil => exact Sys.Hosts.refl s
  | cons allocType rest => exact createFrom_hosts env s place memoryTypeId byteSize "" _

theorem createFrom_sys (env : Env) (s : Sys) (place : Nat → Block) (memoryTypeId : Int)
    (byteSize : Nat) (failures : String) (allocTypes : List AllocationType) :
    let created := createFrom env s place memoryTypeId byteSize failures allocTypes
    (∃ tick allocType, allocType ∈ allocTypes ∧ created = (.ok {
        allocType, memoryTypeId, byteSize
        memoryPtr := { block := place s.nextBlock, offset := 0 } },
        { s with tick, nextBlock := s.nextBlock + 1 })) ∨
      ∃ tick error, created = (.error error, { s with tick }) := by
  induction allocTypes generalizing s failures with
  | nil => exact Or.inr ⟨s.tick, _, rfl⟩
  | cons allocType rest ih =>
      simp only [createFrom, call_eq]
      cases env.outcome s.tick (.allocate allocType) with
      | none => exact Or.inl ⟨s.tick + 1, allocType, List.mem_cons_self, rfl⟩
      | some error =>
          rcases ih { s with tick := s.tick + 1 }
            ("\n\t" ++ allocType.name ++ ": " ++ error.message ++ failures) with
            ⟨tick, chosen, member, same⟩ | failed
          · exact Or.inl ⟨tick, chosen, List.mem_cons_of_mem _ member, same⟩
          · exact Or.inr failed

theorem createBackendMemory_sys (env : Env) (s : Sys) (place : Nat → Block)
    (allocTypes : List AllocationType) (memoryTypeId : Int) (byteSize : Nat) :
    let created := createBackendMemory env s place allocTypes memoryTypeId byteSize
    (∃ tick allocType, allocType ∈ allocTypes ∧ created = (.ok {
        allocType, memoryTypeId, byteSize
        memoryPtr := { block := place s.nextBlock, offset := 0 } },
        { s with tick, nextBlock := s.nextBlock + 1 })) ∨
      ∃ tick error, created = (.error error, { s with tick }) := by
  cases allocTypes with
  | nil => exact Or.inr ⟨s.tick, _, rfl⟩
  | cons allocType rest => exact createFrom_sys env s place memoryTypeId byteSize "" _

/-! The state as a courier: its clients are the slots of the responses. -/

def IsStaging (block : Block) : Prop := ∃ n, block = .staging n

/-- The number of a block that is allocated on the way, counted from 1. -/
def blockAge : Block → Nat
  | .gathered n | .staging n | .scratch n | .output n => n + 1
  | _ => 0

/-- A response is given up when its slot is null and a copy has failed. -/
def Sys.Lost (s : Sys) (idx : Nat) : Prop := s.Gone idx ∧ ∃ transfer, .failedCopy transfer ∈ s.log

theorem reaches_lost {s s' : Sys} (reaches : s.Reaches s') {idx : Nat} (lost : s.Lost idx) :
    s'.Lost idx := by
  obtain ⟨gone, transfer, failed⟩ := lost
  exact ⟨reaches_gone reaches gone, transfer, (reaches_log reaches).subset failed⟩

def Sys.courier (s : Sys) (plan : List (Job Block Nat)) : Courier Block UInt8 Nat :=
  ⟨s.actions, plan, s.nextBlock, s.Lost⟩

abbrev Sys.Carries (faithful : Prop) (s : Sys) (plan : List (Job Block Nat)) (s' : Sys)
    (plan' : List (Job Block Nat)) : Prop :=
  (s.courier plan).Steps IsStaging blockAge faithful (s'.courier plan')

section
variable {faithful : Prop}

theorem Sys.Carries.refl (s : Sys) (plan : List (Job Block Nat)) : s.Carries faithful plan s plan :=
  Relation.ReflTransGen.refl

theorem Sys.Carries.trans {s s' s'' : Sys} {plan plan' plan'' : List (Job Block Nat)}
    (first : s.Carries faithful plan s' plan') (second : s'.Carries faithful plan' s'' plan'') :
    s.Carries faithful plan s'' plan'' := Relation.ReflTransGen.trans first second

theorem Sys.Carries.shuffle (s : Sys) {plan plan' : List (Job Block Nat)}
    (same : plan.Perm plan') : s.Carries faithful plan s plan' :=
  Relation.ReflTransGen.single (Courier.Step.shuffle _ _ _ _ _ same)

theorem Sys.Carries.idle {s s' : Sys} (reaches : s.Reaches s') (same : s'.actions = s.actions)
    (plan : List (Job Block Nat)) : s.Carries faithful plan s' plan := by
  have step : Courier.Step IsStaging blockAge faithful ⟨s.actions, plan, s.nextBlock, s.Lost⟩
      ⟨s.actions, plan, s'.nextBlock, s'.Lost⟩ :=
    Courier.Step.lose _ _ _ _ _ _ (reaches_nextBlock reaches)
      (fun idx lost => reaches_lost reaches lost)
  refine Relation.ReflTransGen.single ?_
  unfold Sys.courier
  rw [same]
  exact step

theorem Sys.Carries.answers {s s' : Sys} (answers : s.Answers s') (plan : List (Job Block Nat)) :
    s.Carries faithful plan s' plan :=
  Sys.Carries.idle answers.reaches (answers_actions answers) plan

theorem Sys.Carries.act (s : Sys) (tick : Nat) (action : Action Block UInt8)
    (jobs rest : List (Job Block Nat)) (made : action.effects = jobs.map Job.effect)
    (ready : Ready IsStaging jobs rest)
    (arrived : ∀ effect, action = .host effect →
      effect.Undisturbed IsStaging (s.device.queue.map .copy)) :
    s.Carries faithful (jobs ++ rest) (Sys.issue { s with tick } action) rest := by
  have step : Courier.Step IsStaging blockAge faithful ⟨s.actions, jobs ++ rest, s.nextBlock, s.Lost⟩
      ⟨s.actions ++ [action], rest, s.nextBlock, s.Lost⟩ :=
    Courier.Step.act action _ jobs rest _ _ made ready arrived
  have keeps : Courier.Step IsStaging blockAge faithful
      ⟨s.actions ++ [action], rest, s.nextBlock, s.Lost⟩
      ⟨s.actions ++ [action], rest, s.nextBlock, (Sys.issue { s with tick } action).Lost⟩ :=
    Courier.Step.lose _ _ _ _ _ _ (Nat.le_refl _) (fun idx lost =>
      reaches_lost ((Sys.Reaches.count s tick).trans (Sys.Reaches.issue _ action)) lost)
  refine Relation.ReflTransGen.tail (Relation.ReflTransGen.single step) ?_
  rw [Sys.courier, actions_issue]
  exact keeps

theorem Sys.Carries.reroute (s : Sys) (tick : Nat) {nextBlock : Nat}
    {old new : List (Job Block Nat)} (rest : List (Job Block Nat))
    (reroutes : Reroute (V := UInt8) IsStaging blockAge faithful s.nextBlock nextBlock old new) :
    s.Carries faithful (old ++ rest) { s with tick, nextBlock } (new ++ rest) :=
  Relation.ReflTransGen.single (Courier.Step.reroute s.actions old new rest _ _ s.Lost reroutes)

theorem ready_untracked {job : Job Block Nat} {rest : List (Job Block Nat)}
    (direct : ¬ IsStaging job.transfer.source.block) : Ready IsStaging [job] rest := by
  intro other member staging
  rw [List.mem_singleton] at member
  subst member
  exact absurd staging direct

/-- One attempt takes its job off the plan: either the copy is issued, or `s'` has
given up the job's clients. -/
theorem CopyOutcome.carries {s s' : Sys} {transfer : Copy Block} {result : CopyResult}
    (outcome : CopyOutcome s transfer result) (answers : result.sys.Answers s')
    {clients : List Nat} {rest : List (Job Block Nat)}
    (told : result.error ≠ none → ∀ idx ∈ clients, s'.Gone idx)
    (ready : Ready IsStaging [{ transfer, clients }] rest)
    (arrived : IsStaging transfer.source.block →
      ∀ copy ∈ s.device.queue, copy.target.block ≠ transfer.source.block) :
    s.Carries faithful ({ transfer, clients } :: rest) s' rest := by
  have after : Sys.Carries faithful _ _ _ _ := Sys.Carries.answers answers rest
  cases outcome with
  | host =>
      refine (Sys.Carries.act s s.tick (.host (.copy transfer)) [{ transfer, clients }] rest rfl
        ready ?_).trans after
      rintro effect same block read staging other member
      cases same
      cases read
      obtain ⟨copy, queued, rfl⟩ := List.mem_map.mp member
      exact arrived staging copy queued
  | stream tick =>
      refine (Sys.Carries.act s tick (.stream [transfer]) [{ transfer, clients }] rest rfl ready
        ?_).trans after
      intro effect same
      cases same
  | failed tick error =>
      have step : Courier.Step IsStaging blockAge faithful
          ⟨s.actions, { transfer, clients } :: rest, s.nextBlock, s.Lost⟩
          ⟨s.actions, rest, s.nextBlock, s'.Lost⟩ := by
        have noted : s.Reaches s' := ((Sys.Reaches.count s tick).trans
          (Sys.Step.quiet _ (.failedCopy transfer) rfl).reaches).trans answers.reaches
        have logged : .failedCopy transfer ∈ s'.log :=
          (reaches_log answers.reaches).subset (by simp)
        exact Courier.Step.fail _ _ _ _ _ _
          (fun idx member => ⟨told (by simp) idx member, transfer, logged⟩)
          (fun idx lost => reaches_lost noted lost)
      refine Relation.ReflTransGen.single ?_
      have sameActions : s'.actions = s.actions := by
        rw [answers_actions answers]
        simp [Event.action?, Sys.actions]
      have sameBlock : s'.nextBlock = s.nextBlock := (answers_nextBlock answers).trans rfl
      unfold Sys.courier
      rw [sameActions, sameBlock]
      exact step

end

/-! The start and the end of a run. -/

theorem fresh_device {s : Sys} (fresh : s.log = []) : s.device = Device.fresh := by
  simp [Sys.device, Sys.actions, fresh]

theorem fresh_memory {s : Sys} (fresh : s.log = []) (initial : Memory Block UInt8) :
    s.device.memory initial = initial := by
  rw [fresh_device fresh]
  rfl

theorem fresh_timed {s : Sys} (fresh : s.log = []) (plan : List (Job Block Nat)) :
    (s.courier plan).Timed IsStaging := by
  have none : s.actions = [] := by simp [Sys.actions, fresh]
  constructor
  · rw [Sys.courier, none]
    exact readsLanded_nil _
  · intro job member staging effect issuedBefore
    simp [Sys.courier, none] at issuedBefore

theorem fresh_numbered {s : Sys} (fresh : s.log = []) {plan : List (Job Block Nat)}
    (aged : ∀ job ∈ plan, blockAge job.transfer.target.block ≤ s.nextBlock ∧
      blockAge job.transfer.source.block ≤ s.nextBlock) : (s.courier plan).Numbered blockAge := by
  have none : s.actions = [] := by simp [Sys.actions, fresh]
  intro effect member
  simp only [Sys.courier, none, issued_nil, List.nil_append] at member
  obtain ⟨job, planned, rfl⟩ := List.mem_map.mp member
  refine ⟨(aged job planned).1, ?_⟩
  intro block read
  simp only [effect_readBlock, Option.some.injEq] at read
  exact read ▸ (aged job planned).2

/-- Blocks in use are numbered, and the plan writes no byte twice. -/
structure Sys.Sound (s : Sys) (plan : List (Job Block Nat)) : Prop where
  numbered : (s.courier plan).Numbered blockAge
  apart : plan.Pairwise fun first second =>
    (first.effect : Effect Block UInt8).Apart second.effect

/-- The courier of a run that starts at `s`. -/
def Sys.departs (s : Sys) (plan : List (Job Block Nat)) : Courier Block UInt8 Nat :=
  ⟨[], plan, s.nextBlock, s.Lost⟩

section
variable {s s' : Sys} {plan plan' : List (Job Block Nat)}

theorem carries_departs {faithful : Prop} (carries : s.Carries faithful plan s' plan') :
    ∃ own, s'.actions = s.actions ++ own ∧
      (s.departs plan).Steps IsStaging blockAge faithful ⟨own, plan', s'.nextBlock, s'.Lost⟩ := by
  rw [Sys.Carries, Sys.courier, ← List.append_nil s.actions] at carries
  exact steps_rebase carries

theorem departs_owned (sound : s.Sound plan) : (s.departs plan).Owned :=
  List.pairwise_map.mpr sound.apart

theorem departs_numbered (sound : s.Sound plan) : (s.departs plan).Numbered blockAge :=
  fun effect member => sound.numbered effect (List.mem_append_right _ member)

theorem departs_timed (s : Sys) (plan : List (Job Block Nat)) :
    (s.departs plan).Timed IsStaging :=
  ⟨readsLanded_nil _, fun _ _ _ _ member => absurd member (List.not_mem_nil)⟩

theorem departs_confined (s : Sys) (plan : List (Job Block Nat)) :
    (s.departs plan).Confined blockAge s.nextBlock fun block position =>
      ∃ job ∈ plan, (job.effect : Effect Block UInt8).Writes block position := by
  refine ⟨Nat.le_refl _, ?_⟩
  intro effect member block position written
  obtain ⟨job, planned, rfl⟩ := List.mem_map.mp member
  exact Or.inr ⟨job, planned, written⟩

theorem carries_sound (carries : s.Carries True plan s' plan') (sound : s.Sound plan) :
    s'.Sound plan' := by
  refine ⟨numbered_steps carries sound.numbered, ?_⟩
  obtain ⟨own, _, steps⟩ := carries_departs carries
  have owned := owned_steps trivial steps (departs_numbered sound) (departs_owned sound)
  exact List.pairwise_map.mp (List.pairwise_append.mp owned).2.1

end

section
variable {s mid done : Sys} {plan midPlan : List (Job Block Nat)} (initial : Memory Block UInt8)

theorem midway_delivered (idle : s.device.queue = []) (sound : s.Sound plan)
    (reached : s.Carries True plan mid midPlan) (carries : mid.Carries True midPlan done [])
    (settled : done.device.queue = []) {job : Job Block Nat} (member : job ∈ midPlan) {idx : Nat}
    (mine : idx ∈ job.clients) (live : ¬ done.Lost idx)
    (old : blockAge job.transfer.source.block ≤ s.nextBlock)
    (stable : ∀ other ∈ plan, ∀ position,
      ¬ (other.effect : Effect Block UInt8).Writes job.transfer.source.block position)
    {index : Nat} (bound : index < job.transfer.byteSize) :
    done.device.memory initial job.transfer.target.block (job.transfer.target.offset + index) =
      s.device.memory initial job.transfer.source.block (job.transfer.source.offset + index) := by
  obtain ⟨early, first, toMid⟩ := carries_departs reached
  have fromMid := carries
  rw [Sys.Carries, Sys.courier, first] at fromMid
  obtain ⟨own, same, toDone⟩ := steps_rebase fromMid
  have acted : done.actions = s.actions ++ own := same
  have whole : (s.departs plan).Steps IsStaging blockAge True ⟨own, [], done.nextBlock, done.Lost⟩ :=
    Relation.ReflTransGen.trans toMid toDone
  have confined := confined_steps trivial whole (departs_confined s plan)
  have promise : Courier.Kept IsStaging ⟨early, midPlan, mid.nextBlock, mid.Lost⟩ idx job.transfer :=
    kept_of_planned ⟨job, member, mine, rfl⟩
  have kept := kept_steps trivial toDone (Nat.zero_lt_of_lt bound) promise
  have drained : (Device.fresh.run own).queue = [] := by
    rw [Sys.device, acted, run_settled idle] at settled
    exact settled
  rw [Sys.device, acted, memory_settled idle]
  refine delivered (s.device.memory initial)
    (timed_steps whole (departs_numbered sound) (departs_timed s plan))
    (owned_steps trivial whole (departs_numbered sound) (departs_owned sound)) rfl drained kept live
    ?_ bound
  intro effect issuedBefore position written
  rcases confined.writes effect (List.mem_append_left _ issuedBefore) _ position written with
    young | ⟨other, planned, overwritten⟩
  · exact absurd young (Nat.not_lt.mpr old)
  · exact stable other planned position overwritten

theorem plan_delivered (fresh : s.log = []) (sound : s.Sound plan)
    (carries : s.Carries True plan done []) (settled : done.device.queue = []) {job : Job Block Nat}
    (member : job ∈ plan) {idx : Nat} (mine : idx ∈ job.clients) (live : ¬ done.Lost idx)
    (stable : ∀ other ∈ plan, ∀ position,
      ¬ (other.effect : Effect Block UInt8).Writes job.transfer.source.block position)
    {index : Nat} (bound : index < job.transfer.byteSize) :
    done.device.memory initial job.transfer.target.block (job.transfer.target.offset + index) =
      initial job.transfer.source.block (job.transfer.source.offset + index) := by
  have old := (sound.numbered job.effect (List.mem_append_right _ (List.mem_map_of_mem member))).2 _ rfl
  rw [midway_delivered initial (by rw [fresh_device fresh]; rfl) sound (Sys.Carries.refl s plan)
    carries settled member mine live old stable bound, fresh_memory fresh]

theorem midway_untouched (carries : mid.Carries True midPlan done []) {block : Block}
    {position : Int} (old : blockAge block ≤ mid.nextBlock)
    (outside : ∀ effect ∈ issued mid.actions ++ midPlan.map Job.effect,
      ¬ effect.Writes block position) :
    done.device.memory initial block position = initial block position := by
  have start : (mid.courier midPlan).Confined blockAge mid.nextBlock fun block position =>
      ∃ effect ∈ issued mid.actions ++ midPlan.map Job.effect, effect.Writes block position :=
    ⟨Nat.le_refl _, fun effect member block position written => Or.inr ⟨effect, member, written⟩⟩
  have confined := confined_steps trivial carries start
  refine replay_untouched initial fun effect issuedBefore written => ?_
  rcases confined.writes effect (List.mem_append_left _ issuedBefore) _ position written with
    young | ⟨other, present, overwritten⟩
  · exact absurd young (Nat.not_lt.mpr old)
  · exact outside other present overwritten

/-- Memory that was there before and that nothing was planned for is as it was. -/
theorem plan_untouched (fresh : s.log = []) (carries : s.Carries True plan done []) {block : Block}
    {position : Int} (old : blockAge block ≤ s.nextBlock)
    (outside : ∀ job ∈ plan, ¬ (job.effect : Effect Block UInt8).Writes block position) :
    done.device.memory initial block position = initial block position := by
  refine midway_untouched initial carries old ?_
  have none : s.actions = [] := by simp [Sys.actions, fresh]
  intro effect member
  simp only [none, issued_nil, List.nil_append] at member
  obtain ⟨job, planned, rfl⟩ := List.mem_map.mp member
  exact outside job planned

end

end TritonBackend
