import TritonBackend.CollectorRun

/-!
What a pinned buffer holds when it is read: the copy of each chunk into it has been issued
by then, or has failed.
-/

namespace TritonBackend

open CopyStream

/-- The copy has been issued, or `CopyBuffer` has returned an error for it. -/
def Tried (actions : List (Action Block UInt8)) (failed : List (Copy Block))
    (transfer : Copy Block) : Prop :=
  .copy transfer ∈ issued actions ∨ transfer ∈ failed

def AllTried (actions : List (Action Block UInt8)) (failed : List (Copy Block)) (memory : Address)
    (segments : List Segment) : Prop :=
  ∀ transfer ∈ gatherSegments segments memory, Tried actions failed transfer

/-- The bytes from the pointer on are those of chunks that lie one behind the other, and each
chunk's copy to its place there has been tried. -/
def Stocked (actions : List (Action Block UInt8)) (failed : List (Copy Block)) (memory : Address)
    (byteSize : Nat) : Prop :=
  ∃ chunks, byteSize = totalByteSize chunks ∧
    AllTried actions failed memory (segmentsFrom 0 chunks)

/-- A pinned buffer is stocked whenever it is read. -/
def ReadsStocked (log : List Event) : Prop :=
  ∀ before action after, log = before ++ .device action :: after →
    ∀ drain, .copy drain ∈ action.effects → IsStaging drain.source.block →
      Stocked (before.filterMap Event.action?) (before.filterMap Event.failed?) drain.source
        drain.byteSize

section
variable {actions : List (Action Block UInt8)} {failed : List (Copy Block)}

theorem Tried.mono {transfer : Copy Block} (tried : Tried actions failed transfer)
    (later : List (Action Block UInt8)) (refused : List (Copy Block)) :
    Tried (actions ++ later) (failed ++ refused) transfer := by
  rcases tried with made | gone
  · refine Or.inl ?_
    rw [issued_append]
    exact List.mem_append_left _ made
  · exact Or.inr (List.mem_append_left _ gone)

theorem Tried.after {transfer : Copy Block} (tried : Tried actions failed transfer)
    (earlier : List (Action Block UInt8)) (refused : List (Copy Block)) :
    Tried (earlier ++ actions) (refused ++ failed) transfer := by
  rcases tried with made | gone
  · refine Or.inl ?_
    rw [issued_append]
    exact List.mem_append_right _ made
  · exact Or.inr (List.mem_append_right _ gone)

theorem AllTried.mono {memory : Address} {segments : List Segment}
    (filled : AllTried actions failed memory segments) (later : List (Action Block UInt8))
    (refused : List (Copy Block)) : AllTried (actions ++ later) (failed ++ refused) memory segments :=
  fun transfer member => (filled transfer member).mono later refused

theorem allTried_append {memory : Address} {first second : List Segment} :
    AllTried actions failed memory (first ++ second) ↔
      AllTried actions failed memory first ∧ AllTried actions failed memory second := by
  simp only [AllTried, gatherSegments, List.map_append, List.mem_append, or_imp, forall_and]

theorem allTried_flatMap {α : Type} {memory : Address} {parts : List α} {segments : α → List Segment} :
    AllTried actions failed memory (parts.flatMap segments) ↔
      ∀ part ∈ parts, AllTried actions failed memory (segments part) := by
  induction parts with
  | nil => simp [AllTried, gatherSegments]
  | cons part rest ih =>
      rw [List.flatMap_cons, allTried_append, ih, List.forall_mem_cons]

theorem Stocked.mono {memory : Address} {byteSize : Nat}
    (stocked : Stocked actions failed memory byteSize) (later : List (Action Block UInt8))
    (refused : List (Copy Block)) :
    Stocked (actions ++ later) (failed ++ refused) memory byteSize := by
  obtain ⟨chunks, sized, filled⟩ := stocked
  exact ⟨chunks, sized, filled.mono later refused⟩

end

theorem log_split {log log' : List Event} (grows : log <+: log') :
    ∃ later refused, log'.filterMap Event.action? = log.filterMap Event.action? ++ later ∧
      log'.filterMap Event.failed? = log.filterMap Event.failed? ++ refused := by
  obtain ⟨events, rfl⟩ := grows
  exact ⟨_, _, List.filterMap_append, List.filterMap_append⟩

theorem AllTried.grows {s s' : Sys} {memory : Address} {segments : List Segment}
    (filled : AllTried s.actions s.failed memory segments) (grows : s.log <+: s'.log) :
    AllTried s'.actions s'.failed memory segments := by
  obtain ⟨later, refused, actions, failed⟩ := log_split grows
  rw [Sys.actions, Sys.failed, actions, failed]
  exact filled.mono later refused

theorem Stocked.grows {s s' : Sys} {memory : Address} {byteSize : Nat}
    (stocked : Stocked s.actions s.failed memory byteSize) (grows : s.log <+: s'.log) :
    Stocked s'.actions s'.failed memory byteSize := by
  obtain ⟨chunks, sized, filled⟩ := stocked
  exact ⟨chunks, sized, filled.grows grows⟩

theorem CopyOutcome.tried {s : Sys} {transfer : Copy Block} {result : CopyResult}
    (outcome : CopyOutcome s transfer result) :
    Tried result.sys.actions result.sys.failed transfer := by
  obtain ⟨event, log, rfl | ⟨action, rfl, effects⟩⟩ := outcome.log
  · refine Or.inr ?_
    rw [Sys.failed, log]
    simp [Event.failed?]
  · refine Or.inl ?_
    rw [Sys.actions, log]
    simp [Event.action?, effects]

/-- A pinned buffer is stocked whenever one of the actions reads it. -/
def ReadsFull (actions : List (Action Block UInt8)) (failed : List (Copy Block)) : Prop :=
  ∀ before action after, actions = before ++ action :: after →
    ∀ drain, .copy drain ∈ action.effects → IsStaging drain.source.block →
      Stocked before failed drain.source drain.byteSize

theorem ReadsFull.mono {actions : List (Action Block UInt8)} {failed : List (Copy Block)}
    (full : ReadsFull actions failed) (refused : List (Copy Block)) :
    ReadsFull actions (failed ++ refused) := by
  intro before action after split drain member staging
  have stocked := (full before action after split drain member staging).mono [] refused
  rwa [List.append_nil] at stocked

theorem readsFull_concat {actions : List (Action Block UInt8)} {failed : List (Copy Block)}
    {action : Action Block UInt8} :
    ReadsFull (actions ++ [action]) failed ↔ ReadsFull actions failed ∧
      ∀ drain, .copy drain ∈ action.effects → IsStaging drain.source.block →
        Stocked actions failed drain.source drain.byteSize := by
  constructor
  · intro full
    refine ⟨?_, full actions action [] rfl⟩
    intro before earlier after split
    exact full before earlier (after ++ [action]) (by simp [split])
  · rintro ⟨full, last⟩ before other after split
    rcases List.eq_nil_or_concat after with rfl | ⟨middle, final, rfl⟩
    · obtain ⟨rfl, same⟩ := List.append_inj' split rfl
      rw [← List.singleton_inj.mp same]
      exact last
    · rw [List.concat_eq_append, ← List.cons_append, ← List.append_assoc] at split
      exact full before other middle (List.append_inj' split rfl).1

/-! The log of the main thread. -/

theorem readsStocked_concat {log : List Event} {event : Event} :
    ReadsStocked (log ++ [event]) ↔ ReadsStocked log ∧
      ∀ action, event = .device action → ∀ drain, .copy drain ∈ action.effects →
        IsStaging drain.source.block →
        Stocked (log.filterMap Event.action?) (log.filterMap Event.failed?) drain.source
          drain.byteSize := by
  constructor
  · intro reads
    refine ⟨?_, fun action same => reads log action [] (same ▸ rfl)⟩
    intro before action after split
    exact reads before action (after ++ [event]) (by simp [split])
  · rintro ⟨reads, last⟩ before action after split
    rcases List.eq_nil_or_concat after with rfl | ⟨middle, final, rfl⟩
    · obtain ⟨rfl, same⟩ := List.append_inj' split rfl
      exact last action (List.singleton_inj.mp same)
    · rw [List.concat_eq_append, ← List.cons_append, ← List.append_assoc] at split
      exact reads before action middle (List.append_inj' split rfl).1

theorem ReadsStocked.extend {log events : List Event} (reads : ReadsStocked log)
    (spares : ∀ action, .device action ∈ events → action.Spares IsStaging) :
    ReadsStocked (log ++ events) := by
  induction events using List.reverseRecOn with
  | nil => rwa [List.append_nil]
  | append_singleton events event ih =>
      rw [← List.append_assoc, readsStocked_concat]
      refine ⟨ih fun action member => spares action (List.mem_append_left _ member), ?_⟩
      rintro action rfl drain member staging
      exact absurd staging (spares action (by simp) (.copy drain) member _ rfl)

theorem ReadsStocked.prior {log log' : List Event} (reads : ReadsStocked log')
    (grows : log <+: log') : ReadsStocked log := by
  obtain ⟨events, rfl⟩ := grows
  intro before action after split
  exact reads before action (after ++ events) (by simp [split])

theorem ReadsStocked.full {log : List Event} (reads : ReadsStocked log) :
    ReadsFull (log.filterMap Event.action?) (log.filterMap Event.failed?) := by
  induction log using List.reverseRecOn with
  | nil =>
      intro before action after split
      simp at split
  | append_singleton log event ih =>
      obtain ⟨earlier, last⟩ := readsStocked_concat.mp reads
      rw [List.filterMap_append, List.filterMap_append]
      have full := (ih earlier).mono ([event].filterMap Event.failed?)
      cases started : event.action? with
      | none =>
          have idle : [event].filterMap Event.action? = [] := by simp [started]
          rwa [idle, List.append_nil]
      | some action =>
          obtain rfl : event = .device action := by
            cases event <;> simp_all [Event.action?]
          refine readsFull_concat.mpr ⟨full, ?_⟩
          intro drain member staging
          have stocked := (last action rfl drain member staging).mono []
            ([Event.device action].filterMap Event.failed?)
          rwa [List.append_nil] at stocked

theorem answers_sends {s s' : Sys} (answers : s.Answers s') :
    ∃ events, s'.log = s.log ++ events ∧ ∀ action, Event.device action ∉ events := by
  induction answers with
  | refl => exact ⟨[], by simp⟩
  | tail _ answered ih =>
      obtain ⟨events, log, sends⟩ := ih
      cases answered with
      | respond idx response error live =>
          refine ⟨events ++ [.send response error], ?_, ?_⟩
          · simp [Sys.setNull, Sys.responseSend, Sys.note, log]
          · simpa using sends

theorem ReadsStocked.copied {s s' : Sys} {transfer : Copy Block} {result : CopyResult}
    (reads : ReadsStocked s.log) (outcome : CopyOutcome s transfer result)
    (answers : result.sys.Answers s')
    (stocked : Stocked s.actions s.failed transfer.source transfer.byteSize) :
    ReadsStocked s'.log := by
  obtain ⟨event, log, made⟩ := outcome.log
  obtain ⟨events, sent, quiet⟩ := answers_sends answers
  rw [sent]
  refine ReadsStocked.extend ?_ fun action member => absurd member (quiet action)
  rw [log, readsStocked_concat]
  refine ⟨reads, ?_⟩
  rintro action rfl drain member staging
  rcases made with failed | ⟨same, started, effects⟩
  · cases failed
  · cases started
    rw [effects, List.mem_singleton] at member
    cases member
    exact stocked

/-! The synchronous branch. -/

section
variable (env : Env) (cfg : CollectorConfig)

theorem setInputTensors_tried (inputName : String) (tensor : Tensor) (offset : Nat)
    (cudaUsed : Bool) (c : Collector) (inputs : List ContiguousBuffer)
    (fits : offset + totalByteSize inputs ≤ tensor.byteSize) :
    let c' := (setInputTensors env cfg inputName tensor offset cudaUsed c inputs).2
    AllTried c'.actions c'.toSys.failed tensor.buffer (segmentsFrom offset inputs) := by
  induction inputs generalizing offset cudaUsed c with
  | nil => simp [AllTried, segmentsFrom, gatherSegments]
  | cons input rest ih =>
      rw [totalByteSize_cons] at fits
      have room : offset + input.byteSize ≤ tensor.byteSize := by omega
      obtain ⟨copied, outcome, _, answers, _⟩ :=
        directCopy_attempt env cfg c inputName input tensor offset true
      simp only [setInputTensors, setInputTensor_direct env cfg c inputName input tensor offset true room]
      generalize directCopy env cfg c inputName input tensor offset true = result at answers ⊢
      have own : AllTried copied.sys.actions copied.sys.failed tensor.buffer
          [{ source := input.memoryDesc, offset }] := by
        intro transfer member
        rw [gatherSegments, List.map_singleton, List.mem_singleton] at member
        rw [member]
        exact outcome.tried
      have later := setInputTensors_reaches env cfg inputName tensor (offset + input.byteSize)
        (cudaUsed || result.1) result.2 rest
      have grown := own.grows ((reaches_log answers.reaches).trans (reaches_log later))
      exact allTried_append.mpr
        ⟨grown, ih (offset + input.byteSize) (cudaUsed || result.1) result.2 (by omega)⟩

end

end TritonBackend
