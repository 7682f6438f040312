import TritonBackend.CollectorCore
import TritonBackend.FirstKept

/-!
`BackendMemory::Create` and the errors that it owns. The attempts of the list form that fail
leave an error each; a map keyed by the type of the attempt holds them until they are deleted.
-/

namespace TritonBackend

open FirstKept

/-- What CUDA and the server answer one attempt; a string is a CUDA error. -/
structure AllocationAnswers where
  hostAlloc : Nat → Except String Nat
  getDevice : Except String Int
  setDevice : Int → Option String
  malloc : Nat → Except String Nat
  managerAllocate : MemoryType → Int → Nat → Except TritonError Nat

structure MemoryObject where
  allocType : AllocationType
  memoryTypeId : Int
  buffer : Nat
  byteSize : Nat
  ownsBuffer : Bool
deriving DecidableEq, Repr

/-- The form of `Create` for one type, with or without `TRITON_ENABLE_GPU`. Failing to go
back to the device that was current is only logged. -/
def createOfType (enableGpu : Bool) (answers : AllocationAnswers) (allocType : AllocationType)
    (memoryTypeId : Int) (byteSize : Nat) : Except TritonError MemoryObject :=
  let created (buffer : Nat) : MemoryObject :=
    { allocType, memoryTypeId, buffer, byteSize, ownsBuffer := true }
  match allocType with
  | .cpuPinned =>
      if enableGpu then
        match answers.hostAlloc byteSize with
        | .error text => .error {
            code := .unavailable
            message := "failed to allocate pinned system memory" ++ ": " ++ text }
        | .ok buffer => .ok (created buffer)
      else .error { code := .unsupported, message := "pinned-memory allocation not supported" }
  | .gpu =>
      if enableGpu then
        match answers.getDevice with
        | .error text => .error {
            code := .internal
            message := "failed to get device" ++ ": " ++ text }
        | .ok currentDevice =>
            let overridden := currentDevice ≠ memoryTypeId
            match if overridden then answers.setDevice memoryTypeId else none with
            | some text => .error {
                code := .internal
                message := "failed to set device" ++ ": " ++ text }
            | none =>
                match answers.malloc byteSize with
                | .error text => .error {
                    code := .unavailable
                    message := "failed to allocate GPU memory: " ++ text }
                | .ok buffer => .ok (created buffer)
      else .error { code := .unsupported, message := "GPU allocation not supported" }
  | .cpu | .cpuPinnedPool | .gpuPool =>
      (answers.managerAllocate allocType.memoryType memoryTypeId byteSize).map created

/-! The list form. -/

structure ErrorObject where
  id : Nat
  error : TritonError
deriving DecidableEq, Repr

inductive MemoryEvent
  | attempted (allocType : AllocationType)
  | errorNew (object : ErrorObject)
  | errorDelete (id : Nat)
deriving DecidableEq, Repr

def MemoryEvent.attempt? : MemoryEvent → Option AllocationType
  | .attempted allocType => some allocType
  | _ => none

structure Attempts where
  memory : Option MemoryObject
  errors : List (AllocationType × ErrorObject)
  events : List MemoryEvent

structure Creation where
  returned : Option ErrorObject
  memory : Option MemoryObject
  events : List MemoryEvent

def deletions (errors : List (AllocationType × ErrorObject)) : List MemoryEvent :=
  errors.map fun entry => .errorDelete entry.2.id

def allFailedMessage (errors : List (AllocationType × ErrorObject)) : String :=
  errors.foldl (fun message entry =>
    message ++ "\n\t" ++ entry.1.name ++ ": " ++ entry.2.error.message)
    "BackendMemory::Create, all allocation types failed:"

section
variable (attempt : Nat → AllocationType → Except TritonError MemoryObject)

/-- The loop over the types; `k` counts the attempts and names the error that one leaves. -/
def attemptTypes (k : Nat) (attempts : Attempts) : List AllocationType → Attempts
  | [] => attempts
  | allocType :: rest =>
      match attempt k allocType with
      | .ok memory => { attempts with
          memory := some memory
          events := attempts.events ++ [.attempted allocType] }
      | .error error =>
          attemptTypes (k + 1) {
            memory := none
            errors := insert attempts.errors (allocType, { id := k, error })
            events := attempts.events ++ [.attempted allocType, .errorNew { id := k, error }] } rest

/-- `visit` is the order in which a loop goes over the map of the errors. -/
def createOfTypes (visit : Visit (AllocationType × ErrorObject)) (allocTypes : List AllocationType) :
    Creation :=
  if allocTypes.length = 0 then
    let object : ErrorObject := {
      id := 0
      error := {
        code := .invalidArg
        message := "BackendMemory::Create, at least one allocation type must be specified" } }
    { returned := some object, memory := none, events := [.errorNew object] }
  else
    let attempts := attemptTypes attempt 0 { memory := none, errors := [], events := [] } allocTypes
    let errors := visit.order attempts.errors
    match attempts.memory with
    | none =>
        let object : ErrorObject := {
          id := allocTypes.length
          error := { code := .unavailable, message := allFailedMessage errors } }
        { returned := some object
          memory := none
          events := attempts.events ++ deletions errors ++ [.errorNew object] }
    | some memory => {
        returned := none
        memory
        events := attempts.events ++ deletions errors }

/-! What is expected of it. -/

def Fails (allocTypes : List AllocationType) (k : Nat) : Prop :=
  ∀ allocType, allocTypes[k]? = some allocType → ∃ error, attempt k allocType = .error error

structure FirstSuccess (allocTypes : List AllocationType) (k : Nat) (memory : MemoryObject) :
    Prop where
  success : ∃ allocType, allocTypes[k]? = some allocType ∧ attempt k allocType = .ok memory
  before : ∀ j < k, Fails attempt allocTypes j

/-- The first attempt that succeeds makes the memory and is the last one. Without one there is one
new error. All other errors are deleted, each once. -/
structure Settles (allocTypes : List AllocationType) (creation : Creation) : Prop where
  success : creation.returned = none ↔ ∃ k memory, FirstSuccess attempt allocTypes k memory
  memory : ∀ k memory, FirstSuccess attempt allocTypes k memory → creation.memory = some memory ∧
    creation.events.filterMap MemoryEvent.attempt? = allocTypes.take (k + 1)
  failure : ∀ object, creation.returned = some object →
    creation.memory = none ∧ creation.events.count (.errorNew object) = 1 ∧
      creation.events.count (.errorDelete object.id) = 0 ∧
      ∀ k allocType error, allocTypes[k]? = some allocType → attempt k allocType = .error error →
        object.id ≠ k
  released : ∀ object, .errorNew object ∈ creation.events → creation.returned ≠ some object →
    creation.events.count (.errorDelete object.id) = 1

/-- A type that has failed is not attempted again unless to succeed. -/
def DistinctFailures (allocTypes : List AllocationType) : Prop :=
  ∀ i j allocType, i < j → allocTypes[i]? = some allocType → allocTypes[j]? = some allocType →
    ∃ k ≤ j, ¬ Fails attempt allocTypes k

end

/-! The attempts that fail. -/

section
variable (attempt : Nat → AllocationType → Except TritonError MemoryObject)

/-- The types that fail ahead of the first success, with the errors that they leave. -/
def failures (k : Nat) : List AllocationType → List (AllocationType × ErrorObject)
  | [] => []
  | allocType :: rest =>
      match attempt k allocType with
      | .ok _ => []
      | .error error => (allocType, { id := k, error }) :: failures (k + 1) rest

def failureEvents (errors : List (AllocationType × ErrorObject)) : List MemoryEvent :=
  errors.flatMap fun entry => [.attempted entry.1, .errorNew entry.2]

theorem failures_ids (k : Nat) (allocTypes : List AllocationType) :
    (failures attempt k allocTypes).map (fun entry => entry.2.id) =
      List.range' k (failures attempt k allocTypes).length := by
  induction allocTypes generalizing k with
  | nil => rfl
  | cons allocType rest ih =>
      rw [failures]
      split
      · rfl
      · rw [List.map_cons, ih, List.length_cons, List.range'_succ]

theorem failures_apart (k : Nat) (allocTypes : List AllocationType) :
    (failures attempt k allocTypes).Nodup := by
  refine List.Nodup.of_map (fun entry => entry.2.id) ?_
  rw [failures_ids]
  exact List.nodup_range'

theorem fails_head {k : Nat} {allocType : AllocationType} {error : TritonError}
    (failed : attempt k allocType = .error error) (rest : List AllocationType) :
    Fails (fun n => attempt (k + n)) (allocType :: rest) 0 := by
  intro other same
  obtain rfl := Option.some.inj same
  exact ⟨error, failed⟩

theorem fails_later {k j : Nat} {allocType : AllocationType} {rest : List AllocationType} :
    Fails (fun n => attempt (k + n)) (allocType :: rest) (j + 1) ↔
      Fails (fun n => attempt (k + 1 + n)) rest j := by
  have shift : k + (j + 1) = k + 1 + j := by omega
  simp only [Fails, shift, List.getElem?_cons_succ]

theorem mem_failures {k : Nat} {allocTypes : List AllocationType} {entry : AllocationType × ErrorObject} :
    entry ∈ failures attempt k allocTypes ↔ ∃ i, entry.2.id = k + i ∧
      allocTypes[i]? = some entry.1 ∧ attempt (k + i) entry.1 = .error entry.2.error ∧
        ∀ j < i, Fails (fun n => attempt (k + n)) allocTypes j := by
  induction allocTypes generalizing k with
  | nil => simp [failures]
  | cons allocType rest ih =>
      rw [failures]
      split
      next memory made =>
        constructor
        · intro impossible
          cases impossible
        · rintro ⟨i, -, there, failed, before⟩
          cases i with
          | zero =>
              obtain rfl := Option.some.inj there
              rw [Nat.add_zero, made] at failed
              cases failed
          | succ i =>
              obtain ⟨error, failed⟩ := before 0 (Nat.succ_pos i) allocType rfl
              have same : attempt k allocType = .error error := failed
              rw [made] at same
              cases same
      next error failed =>
        have shift (i : Nat) : k + 1 + i = k + (i + 1) := by omega
        rw [List.mem_cons, ih]
        constructor
        · rintro (rfl | ⟨i, id, there, fails, before⟩)
          · exact ⟨0, rfl, rfl, failed, fun j below => absurd below (Nat.not_lt_zero j)⟩
          · refine ⟨i + 1, by rw [id, shift], there, by rwa [← shift], fun j below => ?_⟩
            cases j with
            | zero => exact fails_head attempt failed rest
            | succ j => exact (fails_later attempt).mpr (before j (by omega))
        · rintro ⟨i, id, there, fails, before⟩
          cases i with
          | zero =>
              obtain ⟨type, ⟨number, text⟩⟩ := entry
              obtain rfl := Option.some.inj there
              obtain rfl := id
              rw [Nat.add_zero, failed] at fails
              obtain rfl := Except.error.inj fails
              exact Or.inl rfl
          | succ i =>
              refine Or.inr ⟨i, by rw [id, shift], there, by rwa [shift], fun j below => ?_⟩
              exact (fails_later attempt).mp (before (j + 1) (by omega))

/-- What the loop has done when it stops, at the first success or at the end of the list. -/
theorem attemptTypes_outcome (k : Nat) (attempts : Attempts) (allocTypes : List AllocationType)
    (empty : attempts.memory = none) :
    let done := attemptTypes attempt k attempts allocTypes
    done.errors = insertAll attempts.errors (failures attempt k allocTypes) ∧
      ((∃ i allocType memory, allocTypes[i]? = some allocType ∧
          attempt (k + i) allocType = .ok memory ∧
          (failures attempt k allocTypes).map Prod.fst = allocTypes.take i ∧
          (∀ j < i, Fails (fun n => attempt (k + n)) allocTypes j) ∧
          done.memory = some memory ∧ done.events = attempts.events ++
            failureEvents (failures attempt k allocTypes) ++ [.attempted allocType]) ∨
        (failures attempt k allocTypes).map Prod.fst = allocTypes ∧
          (∀ j, Fails (fun n => attempt (k + n)) allocTypes j) ∧ done.memory = none ∧
          done.events = attempts.events ++ failureEvents (failures attempt k allocTypes)) := by
  induction allocTypes generalizing k attempts with
  | nil =>
      refine ⟨rfl, Or.inr ⟨rfl, ?_, empty, (List.append_nil _).symm⟩⟩
      intro j allocType there
      cases there
  | cons allocType rest ih =>
      rw [attemptTypes, failures]
      cases outcome : attempt k allocType with
      | ok memory =>
          refine ⟨rfl, Or.inl ⟨0, allocType, memory, rfl, outcome, rfl, ?_, rfl, ?_⟩⟩
          · exact fun j below => absurd below (Nat.not_lt_zero j)
          · simp [failureEvents]
      | error error =>
          have shift (i : Nat) : k + 1 + i = k + (i + 1) := by omega
          have first := fails_head attempt outcome rest
          obtain ⟨errors, stops⟩ := ih (k + 1) {
            memory := none
            errors := insert attempts.errors (allocType, { id := k, error })
            events := attempts.events ++ [.attempted allocType, .errorNew { id := k, error }] } rfl
          refine ⟨errors, ?_⟩
          rcases stops with ⟨i, last, memory, there, made, types, before, kept, events⟩ |
            ⟨types, all, kept, events⟩
          · refine Or.inl ⟨i + 1, last, memory, there, by rwa [← shift], ?_, fun j below => ?_, kept, ?_⟩
            · exact congrArg (List.cons allocType) types
            · cases j with
              | zero => exact first
              | succ j => exact (fails_later attempt).mpr (before j (by omega))
            · rw [events]
              simp [failureEvents]
          · refine Or.inr ⟨congrArg (List.cons allocType) types, fun j => ?_, kept, ?_⟩
            · cases j with
              | zero => exact first
              | succ j => exact (fails_later attempt).mpr (all j)
            · rw [events]
              simp [failureEvents]

end

/-! The errors that are deleted. -/

section
variable (attempt : Nat → AllocationType → Except TritonError MemoryObject)
  (visit : Visit (AllocationType × ErrorObject))

def keptErrors (allocTypes : List AllocationType) : List (AllocationType × ErrorObject) :=
  visit.order (insertAll [] (failures attempt 0 allocTypes))

theorem mem_keptErrors {allocTypes : List AllocationType} {entry : AllocationType × ErrorObject} :
    entry ∈ keptErrors attempt visit allocTypes ↔
      entry ∈ insertAll [] (failures attempt 0 allocTypes) :=
  (visit.perm _).mem_iff

theorem failure_of_kept {allocTypes : List AllocationType} {entry : AllocationType × ErrorObject}
    (kept : entry ∈ keptErrors attempt visit allocTypes) : entry ∈ failures attempt 0 allocTypes := by
  simpa using (insertAll_sublist [] _).subset ((mem_keptErrors attempt visit).mp kept)

theorem failures_inj {allocTypes : List AllocationType} {first second : AllocationType × ErrorObject}
    (mine : first ∈ failures attempt 0 allocTypes) (theirs : second ∈ failures attempt 0 allocTypes)
    (same : first.2.id = second.2.id) : first = second := by
  refine List.inj_on_of_nodup_map (f := fun entry => entry.2.id) ?_ mine theirs same
  rw [failures_ids]
  exact List.nodup_range'

theorem count_deletions (allocTypes : List AllocationType) (id : Nat) :
    (deletions (keptErrors attempt visit allocTypes)).count (.errorDelete id) =
      if ∃ entry ∈ keptErrors attempt visit allocTypes, entry.2.id = id then 1 else 0 := by
  have apart : (keptErrors attempt visit allocTypes).Nodup := by
    refine (visit.perm _).nodup_iff.mpr ((insertAll_sublist [] _).nodup ?_)
    rw [List.nil_append]
    exact failures_apart attempt 0 allocTypes
  have once : (deletions (keptErrors attempt visit allocTypes)).Nodup := by
    refine apart.map_on fun first mine second theirs same => ?_
    exact failures_inj attempt (failure_of_kept attempt visit mine)
      (failure_of_kept attempt visit theirs) (MemoryEvent.errorDelete.inj same)
  rw [once.count, deletions]
  simp only [List.mem_map, MemoryEvent.errorDelete.injEq]

theorem count_failureEvents (errors : List (AllocationType × ErrorObject)) (id : Nat) :
    (failureEvents errors).count (.errorDelete id) = 0 := by
  rw [List.count_eq_zero]
  simp [failureEvents]

theorem failures_distinct_iff (allocTypes : List AllocationType) :
    ((failures attempt 0 allocTypes).map Prod.fst).Nodup ↔ DistinctFailures attempt allocTypes := by
  have listed {entry : AllocationType × ErrorObject} :
      entry ∈ failures attempt 0 allocTypes ↔ allocTypes[entry.2.id]? = some entry.1 ∧
        attempt entry.2.id entry.1 = .error entry.2.error ∧
          ∀ j < entry.2.id, Fails attempt allocTypes j := by
    rw [mem_failures]
    simp only [Nat.zero_add]
    constructor
    · rintro ⟨_, rfl, rest⟩
      exact rest
    · exact fun rest => ⟨_, rfl, rest⟩
  constructor
  · intro distinct i j allocType before there again
    by_contra none
    have all (k : Nat) (bound : k ≤ j) : Fails attempt allocTypes k := by
      by_contra success
      exact none ⟨k, bound, success⟩
    obtain ⟨early, failed⟩ := all i (Nat.le_of_lt before) allocType there
    obtain ⟨late, failedAgain⟩ := all j (Nat.le_refl j) allocType again
    have first : (allocType, ErrorObject.mk i early) ∈ failures attempt 0 allocTypes :=
      listed.mpr ⟨there, failed, fun k below => all k (by simp only at below; omega)⟩
    have second : (allocType, ErrorObject.mk j late) ∈ failures attempt 0 allocTypes :=
      listed.mpr ⟨again, failedAgain, fun k below => all k (Nat.le_of_lt below)⟩
    have same := List.inj_on_of_nodup_map distinct first second rfl
    simp only [Prod.mk.injEq, ErrorObject.mk.injEq] at same
    omega
  · intro distinct
    refine (failures_apart attempt 0 allocTypes).map_on fun first mine second theirs same => ?_
    obtain ⟨there, failed, before⟩ := listed.mp mine
    obtain ⟨again, failedAgain, earlier⟩ := listed.mp theirs
    refine failures_inj attempt mine theirs ?_
    have upTo {entry : AllocationType × ErrorObject} (member : entry ∈ failures attempt 0 allocTypes)
        (k : Nat) (bound : k ≤ entry.2.id) : Fails attempt allocTypes k := by
      obtain ⟨here, fails, ahead⟩ := listed.mp member
      rcases Nat.lt_or_eq_of_le bound with below | rfl
      · exact ahead k below
      · intro other found
        obtain rfl := Option.some.inj (here.symm.trans found)
        exact ⟨_, fails⟩
    rcases Nat.lt_trichotomy first.2.id second.2.id with below | equal | above
    · obtain ⟨k, bound, success⟩ := distinct _ _ _ below there (same ▸ again)
      exact absurd (upTo theirs k bound) success
    · exact equal
    · obtain ⟨k, bound, success⟩ := distinct _ _ _ above again (same ▸ there)
      exact absurd (upTo mine k bound) success

/-! The list form as a whole. -/

inductive CreationOutcome (allocTypes : List AllocationType) : Creation → Prop
  | success (i : Nat) (allocType : AllocationType) (memory : MemoryObject)
      (first : FirstSuccess attempt allocTypes i memory)
      (types : allocTypes[i]? = some allocType ∧
        (failures attempt 0 allocTypes).map Prod.fst = allocTypes.take i) :
      CreationOutcome allocTypes {
        returned := none
        memory := some memory
        events := failureEvents (failures attempt 0 allocTypes) ++ [.attempted allocType] ++
          deletions (keptErrors attempt visit allocTypes) }
  | failure (all : ∀ j, Fails attempt allocTypes j)
      (types : (failures attempt 0 allocTypes).map Prod.fst = allocTypes) (error : TritonError) :
      CreationOutcome allocTypes {
        returned := some { id := allocTypes.length, error }
        memory := none
        events := failureEvents (failures attempt 0 allocTypes) ++
          deletions (keptErrors attempt visit allocTypes) ++
            [.errorNew { id := allocTypes.length, error }] }

theorem createOfTypes_outcome {allocTypes : List AllocationType} (some : allocTypes ≠ []) :
    CreationOutcome attempt visit allocTypes (createOfTypes attempt visit allocTypes) := by
  obtain ⟨errors, stops⟩ := attemptTypes_outcome attempt 0
    { memory := none, errors := [], events := [] } allocTypes rfl
  have nonempty : allocTypes.length ≠ 0 := fun none => some (List.eq_nil_of_length_eq_zero none)
  have kept : visit.order (insertAll [] (failures attempt 0 allocTypes)) =
      keptErrors attempt visit allocTypes := rfl
  simp only [Nat.zero_add, List.nil_append] at stops
  simp only [createOfTypes, nonempty, if_false, errors, kept]
  rcases stops with ⟨i, allocType, memory, there, made, types, before, found, events⟩ |
    ⟨types, all, none, events⟩
  · rw [found, events]
    exact CreationOutcome.success i allocType memory ⟨⟨allocType, there, made⟩, before⟩ ⟨there, types⟩
  · rw [none, events]
    exact CreationOutcome.failure all types _

variable {attempt visit}

theorem mem_failureEvents {errors : List (AllocationType × ErrorObject)} {object : ErrorObject} :
    .errorNew object ∈ failureEvents errors ↔ ∃ entry ∈ errors, entry.2 = object := by
  simp [failureEvents, eq_comm (b := object)]

theorem attempts_failureEvents (errors : List (AllocationType × ErrorObject)) :
    (failureEvents errors).filterMap MemoryEvent.attempt? = errors.map Prod.fst := by
  induction errors with
  | nil => rfl
  | cons entry rest ih => exact congrArg (List.cons entry.1) ih

theorem attempts_deletions (errors : List (AllocationType × ErrorObject)) :
    (deletions errors).filterMap MemoryEvent.attempt? = [] := by
  rw [deletions, List.filterMap_map]
  exact List.filterMap_eq_nil_iff.mpr fun entry _ => rfl

theorem not_deleted_new (errors : List (AllocationType × ErrorObject)) (object : ErrorObject) :
    .errorNew object ∉ deletions errors := by
  simp [deletions]

theorem Fails.not_made {allocTypes : List AllocationType} {k : Nat} {memory : MemoryObject}
    (fails : Fails attempt allocTypes k)
    (made : ∃ allocType, allocTypes[k]? = some allocType ∧ attempt k allocType = .ok memory) :
    False := by
  obtain ⟨allocType, there, success⟩ := made
  obtain ⟨error, failed⟩ := fails allocType there
  rw [success] at failed
  cases failed

theorem FirstSuccess.unique {allocTypes : List AllocationType} {i k : Nat} {memory other : MemoryObject}
    (first : FirstSuccess attempt allocTypes i memory) (second : FirstSuccess attempt allocTypes k other) :
    k = i ∧ other = memory := by
  have same : k = i := by
    rcases Nat.lt_trichotomy k i with below | equal | above
    · exact ((first.before k below).not_made second.success).elim
    · exact equal
    · exact ((second.before i above).not_made first.success).elim
  subst same
  obtain ⟨allocType, there, made⟩ := first.success
  obtain ⟨again, here, success⟩ := second.success
  obtain rfl := Option.some.inj (there.symm.trans here)
  rw [made] at success
  exact ⟨rfl, (Except.ok.inj success).symm⟩

/-- An error that an attempt leaves is deleted once if the map keeps it, and else not at all. -/
theorem released_iff_kept {allocTypes : List AllocationType} :
    (∀ entry ∈ failures attempt 0 allocTypes,
        (deletions (keptErrors attempt visit allocTypes)).count (.errorDelete entry.2.id) = 1) ↔
      DistinctFailures attempt allocTypes := by
  rw [← failures_distinct_iff, ← all_kept_iff (failures_apart attempt 0 allocTypes)]
  refine forall₂_congr fun entry member => ?_
  rw [count_deletions, ← mem_keptErrors attempt visit]
  constructor
  · intro once
    split at once
    next found =>
      obtain ⟨other, kept, same⟩ := found
      rwa [failures_inj attempt member (failure_of_kept attempt visit kept) same.symm]
    next => cases once
  · intro kept
    exact if_pos ⟨entry, kept, rfl⟩

theorem failure_place {allocTypes : List AllocationType} {entry : AllocationType × ErrorObject}
    (member : entry ∈ failures attempt 0 allocTypes) : entry.2.id < allocTypes.length := by
  obtain ⟨i, id, there, -⟩ := (mem_failures attempt).mp member
  rw [Nat.zero_add] at id
  exact id ▸ (List.getElem?_eq_some_iff.mp there).1

section
variable {allocTypes : List AllocationType} {creation : Creation}

theorem CreationOutcome.count_deleted (outcome : CreationOutcome attempt visit allocTypes creation)
    (id : Nat) : creation.events.count (.errorDelete id) =
      (deletions (keptErrors attempt visit allocTypes)).count (.errorDelete id) := by
  cases outcome with
  | success i allocType memory first types =>
      rw [List.count_append, List.count_append, count_failureEvents]
      simp
  | failure all types error =>
      rw [List.count_append, List.count_append, count_failureEvents]
      simp

theorem CreationOutcome.made (outcome : CreationOutcome attempt visit allocTypes creation)
    {entry : AllocationType × ErrorObject} (member : entry ∈ failures attempt 0 allocTypes) :
    .errorNew entry.2 ∈ creation.events ∧ creation.returned ≠ some entry.2 := by
  have made := mem_failureEvents.mpr ⟨entry, member, rfl⟩
  cases outcome with
  | success i allocType memory first types =>
      exact ⟨List.mem_append_left _ (List.mem_append_left _ made), nofun⟩
  | failure all types error =>
      refine ⟨List.mem_append_left _ (List.mem_append_left _ made), fun same => ?_⟩
      have place := failure_place member
      rw [← Option.some.inj same] at place
      exact Nat.lt_irrefl _ place

/-- What is neither the returned error nor one that an attempt left was never made. -/
theorem CreationOutcome.left (outcome : CreationOutcome attempt visit allocTypes creation)
    {object : ErrorObject} (made : .errorNew object ∈ creation.events)
    (other : creation.returned ≠ some object) :
    ∃ entry ∈ failures attempt 0 allocTypes, entry.2 = object := by
  cases outcome with
  | success i allocType memory first types =>
      simp only [List.mem_append, List.mem_singleton, not_deleted_new, or_false,
        mem_failureEvents] at made
      rcases made with found | impossible
      · exact found
      · cases impossible
  | failure all types error =>
      simp only [List.mem_append, not_deleted_new, or_false, mem_failureEvents,
        List.mem_singleton, MemoryEvent.errorNew.injEq] at made
      rcases made with found | same
      · exact found
      · exact absurd (congrArg some same.symm) other

theorem CreationOutcome.returned_new (outcome : CreationOutcome attempt visit allocTypes creation)
    {object : ErrorObject} (returned : creation.returned = some object) :
    object.id = allocTypes.length ∧ creation.memory = none ∧
      creation.events.count (.errorNew object) = 1 ∧
      creation.events.count (.errorDelete object.id) = 0 := by
  have deleted := outcome.count_deleted object.id
  cases outcome with
  | success i allocType memory first types => cases returned
  | failure all types error =>
      obtain rfl := Option.some.inj returned
      have older : .errorNew { id := allocTypes.length, error } ∉
          failureEvents (failures attempt 0 allocTypes) := by
        intro made
        obtain ⟨entry, member, equal⟩ := mem_failureEvents.mp made
        have place := failure_place member
        rw [equal] at place
        exact Nat.lt_irrefl _ place
      refine ⟨rfl, rfl, ?_, ?_⟩
      · rw [List.count_append, List.count_append, List.count_eq_zero_of_not_mem older,
          List.count_eq_zero_of_not_mem (not_deleted_new _ _)]
        simp
      · rw [deleted, count_deletions, if_neg]
        rintro ⟨entry, kept, equal⟩
        exact Nat.ne_of_lt (failure_place (failure_of_kept attempt visit kept)) equal

theorem CreationOutcome.success_iff (outcome : CreationOutcome attempt visit allocTypes creation) :
    creation.returned = none ↔ ∃ k memory, FirstSuccess attempt allocTypes k memory := by
  cases outcome with
  | success i allocType memory first types => exact iff_of_true rfl ⟨i, memory, first⟩
  | failure all types error =>
      refine iff_of_false nofun ?_
      rintro ⟨k, memory, first⟩
      exact (all k).not_made first.success

theorem CreationOutcome.returns_first (outcome : CreationOutcome attempt visit allocTypes creation)
    {k : Nat} {memory : MemoryObject} (second : FirstSuccess attempt allocTypes k memory) :
    creation.memory = some memory ∧
      creation.events.filterMap MemoryEvent.attempt? = allocTypes.take (k + 1) := by
  cases outcome with
  | success i allocType made first types =>
      obtain ⟨rfl, rfl⟩ := first.unique second
      refine ⟨rfl, ?_⟩
      rw [List.filterMap_append, List.filterMap_append, attempts_failureEvents,
        attempts_deletions, types.2, List.append_nil, List.take_add_one, types.1]
      rfl
  | failure all types error => exact ((all k).not_made second.success).elim

end

/-- The errors of all failed attempts are deleted exactly if no type fails twice; the rest is as
expected for every list. -/
theorem settles_iff {allocTypes : List AllocationType} (nonempty : allocTypes ≠ []) :
    Settles attempt allocTypes (createOfTypes attempt visit allocTypes) ↔
      DistinctFailures attempt allocTypes := by
  have outcome := createOfTypes_outcome attempt visit nonempty
  generalize createOfTypes attempt visit allocTypes = creation at outcome ⊢
  rw [← @released_iff_kept attempt visit allocTypes]
  constructor
  · intro settles entry member
    obtain ⟨made, other⟩ := outcome.made member
    rw [← outcome.count_deleted]
    exact settles.released entry.2 made other
  · intro released
    constructor
    · exact outcome.success_iff
    · intro k memory first
      exact outcome.returns_first first
    · intro object returned
      obtain ⟨id, empty, made, spared⟩ := outcome.returned_new returned
      refine ⟨empty, made, spared, fun k allocType text there _ => ?_⟩
      rw [id]
      exact Nat.ne_of_gt (List.getElem?_eq_some_iff.mp there).1
    · intro object made other
      obtain ⟨entry, member, rfl⟩ := outcome.left made other
      rw [outcome.count_deleted]
      exact released entry member

end

theorem distinctFailures_of_nodup {attempt : Nat → AllocationType → Except TritonError MemoryObject}
    {allocTypes : List AllocationType} (distinct : allocTypes.Nodup) :
    DistinctFailures attempt allocTypes := by
  intro i j allocType before there again
  have same := (List.nodup_iff_getElem?_ne_getElem?.mp distinct) i j before
    (List.getElem?_eq_some_iff.mp again).1
  exact absurd (there.trans again.symm) same

/-- The lists that the collector asks for name no type twice. -/
theorem allocationTypes_distinct (attempt : Nat → AllocationType → Except TritonError MemoryObject)
    (memoryType : MemoryType) : DistinctFailures attempt (allocationTypes memoryType) := by
  refine distinctFailures_of_nodup ?_
  cases memoryType <;> decide

def exhausted : AllocationAnswers := {
  hostAlloc := fun _ => .error "out of memory"
  getDevice := .ok 0
  setDevice := fun _ => none
  malloc := fun _ => .error "out of memory"
  managerAllocate := fun _ _ _ => .error { code := .unavailable, message := "out of memory" } }

theorem settles_iff_pinned : Settles (fun _ allocType => createOfType true exhausted allocType 0 64)
    (allocationTypes .cpuPinned) (createOfTypes (fun _ allocType =>
      createOfType true exhausted allocType 0 64) (Visit.oldestFirst _) (allocationTypes .cpuPinned)) :=
  (settles_iff (by decide)).mpr (allocationTypes_distinct _ .cpuPinned)

/-- The second error of a type that fails twice is not in the map, and never deleted. -/
theorem not_settles_twice : ¬ Settles (fun _ allocType => createOfType true exhausted allocType 0 64)
    [.cpu, .cpu] (createOfTypes (fun _ allocType => createOfType true exhausted allocType 0 64)
      (Visit.oldestFirst _) [.cpu, .cpu]) := by
  intro settles
  have released := settles.released
    { id := 1, error := { code := .unavailable, message := "out of memory" } }
  exact absurd (released (by decide) (by decide)) (by decide)

end TritonBackend
