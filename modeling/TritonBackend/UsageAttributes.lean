import TritonBackend.CommonCore
import TritonBackend.Fallible
import TritonBackend.TrackerCore
import Mathlib.Data.List.Nodup

/-!
`SerializeToBufferAttributes`: the counters of a `MemoryUsage` as buffer attributes. The object
owns the attributes and takes them again for the next call, also the null pointer that a failed
`TRITONSERVER_BufferAttributesNew` leaves behind.
-/

namespace TritonBackend

open Fallible

structure BufferAttributes where
  memoryType : MemoryType
  memoryTypeId : Nat
  byteSize : Nat
deriving DecidableEq, Repr

def BufferAttributes.new : BufferAttributes := { memoryType := .cpu, memoryTypeId := 0, byteSize := 0 }

/-- `buffer_attributes_` with the server's objects behind it; `none` is the null pointer. -/
structure AttributeStore where
  bufferAttributes : List (Option Nat)
  objects : Nat → BufferAttributes
  nextObject : Nat

def AttributeStore.empty : AttributeStore := {
  bufferAttributes := []
  objects := fun _ => .new
  nextObject := 0 }

/-- What the server answers the calls about one element of `buffer_attributes_`. -/
structure SlotAnswers where
  new : Option TritonError
  setMemoryType : Option TritonError
  setMemoryTypeId : Option TritonError
  setByteSize : Option TritonError

/-- A call on its way; `passed` is what the setters have been given. -/
structure Serialization extends AttributeStore where
  usageIdx : Nat
  passed : List (Option Nat)

structure Counter where
  memoryType : MemoryType
  memoryTypeId : Nat
  byteSize : BitVec 64
deriving DecidableEq

def Serialization.entry (s : Serialization) : Option Nat := s.bufferAttributes.getD s.usageIdx none

/-- Makes room for one more object, which stays null if there is none. -/
def Serialization.reserve (answer : Option TritonError) (s : Serialization) :
    Outcome TritonError Serialization :=
  if s.usageIdx ≥ s.bufferAttributes.length then
    match answer with
    | some error => (some error, { s with bufferAttributes := s.bufferAttributes ++ [none] })
    | none => (none, { s with
        bufferAttributes := s.bufferAttributes ++ [some s.nextObject]
        objects := Function.update s.objects s.nextObject .new
        nextObject := s.nextObject + 1 })
  else (none, s)

/-- A setter on the entry. A null pointer is passed like any other. -/
def Serialization.set (answer : Option TritonError) (change : BufferAttributes → BufferAttributes)
    (s : Serialization) : Outcome TritonError Serialization :=
  (answer, { s with
    passed := s.passed ++ [s.entry]
    objects :=
      match s.entry, answer with
      | some object, none => Function.update s.objects object (change (s.objects object))
      | _, _ => s.objects })

section
variable (answers : Nat → SlotAnswers)

/-- One pass of the loop over the devices, for a counter that is not zero. The setter takes
the byte size as a `size_t`. -/
def setAttributes (s : Serialization) (counter : Counter) : Outcome TritonError Serialization :=
  let slot := answers s.usageIdx
  andThen (s.reserve slot.new) fun s =>
  andThen (s.set slot.setMemoryType fun object =>
    { object with memoryType := counter.memoryType }) fun s =>
  andThen (s.set slot.setMemoryTypeId fun object =>
    { object with memoryTypeId := counter.memoryTypeId }) fun s =>
  andThen (s.set slot.setByteSize fun object =>
    { object with byteSize := counter.byteSize.toNat }) fun s =>
  (none, { s with usageIdx := s.usageIdx + 1 })

def setAttributesForDevice (memoryType : MemoryType) (s : Serialization)
    (devices : List (BitVec 64)) : Outcome TritonError Serialization :=
  forEach (fun s device =>
    if device.1 ≠ 0 then
      setAttributes answers s { memoryType, memoryTypeId := device.2, byteSize := device.1 }
    else (none, s)) s devices.zipIdx

structure SerializeResult where
  returned : Except TritonError (List (Option Nat))
  passed : List (Option Nat)
  store : AttributeStore

/-- The elements of `*usage` up to `*usage_size` are what is returned. -/
def serializeToBufferAttributes (usage : MemoryUsage) (store : AttributeStore) : SerializeResult :=
  let tracker := usage.cuptiTracker
  if !tracker.valid then {
    returned := .error { code := .internal, message := "MemoryUsage record is invalid." }
    passed := []
    store }
  else
    let result :=
      andThen (setAttributesForDevice answers .cpu { store with usageIdx := 0, passed := [] }
        tracker.systemMemoryUsageByte.values) fun s =>
      andThen (setAttributesForDevice answers .cpuPinned s
        tracker.pinnedMemoryUsageByte.values) fun s =>
      setAttributesForDevice answers .gpu s tracker.cudaMemoryUsageByte.values
    { returned :=
        match result.1 with
        | some error => .error error
        | none => .ok (result.2.bufferAttributes.take result.2.usageIdx)
      passed := result.2.passed
      store := result.2.toAttributeStore }

end

/-! An object over its life. -/

structure AttributedUsage where
  usage : MemoryUsage
  store : AttributeStore

def AttributedUsage.create (cudaDeviceCount : Nat) : AttributedUsage :=
  { usage := .create cudaDeviceCount, store := .empty }

inductive UsageEvent
  | receive (memoryRecord : ActivityMemory)
  | addAssign (rhs : MemoryUsage)
  | serialize (answers : Nat → SlotAnswers)

def AttributedUsage.step (s : AttributedUsage) : UsageEvent → AttributedUsage
  | .receive memoryRecord => { s with usage := (s.usage.receive memoryRecord).1 }
  | .addAssign rhs => { s with usage := s.usage.addAssign rhs }
  | .serialize answers => { s with store := (serializeToBufferAttributes answers s.usage s.store).store }

def AttributedUsage.run (s : AttributedUsage) (events : List UsageEvent) : AttributedUsage :=
  events.foldl step s

/-! What is expected of a call. -/

def deviceCounters (memoryType : MemoryType) (devices : List (BitVec 64)) : List Counter :=
  devices.zipIdx.map fun device =>
    { memoryType, memoryTypeId := device.2, byteSize := device.1 }

/-- The counters that are not zero: system, pinned, CUDA, and by device. -/
def MemoryUsage.counters (usage : MemoryUsage) : List Counter :=
  (deviceCounters .cpu usage.cuptiTracker.systemMemoryUsageByte.values ++
    deviceCounters .cpuPinned usage.cuptiTracker.pinnedMemoryUsageByte.values ++
      deviceCounters .gpu usage.cuptiTracker.cudaMemoryUsageByte.values).filter
        fun counter => counter.byteSize ≠ 0

structure Counter.HeldBy (counter : Counter) (objects : Nat → BufferAttributes)
    (handle : Option Nat) : Prop where
  held : ∃ object, handle = some object ∧
    (objects object).memoryType = counter.memoryType ∧
      (objects object).memoryTypeId = counter.memoryTypeId ∧
        ((objects object).byteSize : Int) = counter.byteSize.toInt

structure Serializes (s : AttributedUsage) (result : SerializeResult) : Prop where
  returned : ∀ handles, result.returned = .ok handles → handles.Nodup ∧
    List.Forall₂ (fun counter handle => counter.HeldBy result.store.objects handle)
      s.usage.counters handles
  spared : none ∉ result.passed

/-- The server succeeds in what is asked of it for the element in place `k`. -/
structure Grants (store : AttributeStore) (answers : Nat → SlotAnswers) (k : Nat) : Prop where
  new : k < store.bufferAttributes.length ∨ (answers k).new = none
  setMemoryType : (answers k).setMemoryType = none
  setMemoryTypeId : (answers k).setMemoryTypeId = none
  setByteSize : (answers k).setByteSize = none

/-- No element that the call comes to is one that an earlier failure left null; and if all its
calls of the server succeed, no counter is negative. -/
structure Serializable (s : AttributedUsage) (answers : Nat → SlotAnswers) : Prop where
  reserved : s.usage.cuptiTracker.valid = true → ∀ k < s.usage.counters.length,
    (∀ j < k, Grants s.store answers j) → s.store.bufferAttributes[k]? ≠ some none
  positive : s.usage.cuptiTracker.valid = true →
    (∀ k < s.usage.counters.length, Grants s.store answers k) →
      ∀ counter ∈ s.usage.counters, 0 ≤ counter.byteSize.toInt

/-! One counter. -/

/-- No object stands in two places, and the next one is new. -/
structure AttributeStore.Sound (store : AttributeStore) : Prop where
  apart : ∀ (i j object : Nat), store.bufferAttributes[i]? = some (some object) →
    store.bufferAttributes[j]? = some (some object) → i = j
  allocated : ∀ (i object : Nat), store.bufferAttributes[i]? = some (some object) →
    object < store.nextObject

theorem empty_sound : AttributeStore.empty.Sound := by
  constructor <;> simp [AttributeStore.empty]

theorem Sound.null {store : AttributeStore} (sound : store.Sound) :
    ({ store with bufferAttributes := store.bufferAttributes ++ [none] } : AttributeStore).Sound := by
  have before {i object : Nat} (there : (store.bufferAttributes ++ [none])[i]? = some (some object)) :
      store.bufferAttributes[i]? = some (some object) := by
    rw [List.getElem?_append] at there
    split at there
    · exact there
    · rw [List.getElem?_singleton] at there
      split at there <;> simp at there
  constructor
  · exact fun i j object mine theirs => sound.apart i j object (before mine) (before theirs)
  · exact fun i object there => sound.allocated i object (before there)

theorem Sound.grown {store : AttributeStore} (sound : store.Sound) (objects : Nat → BufferAttributes) :
    ({ bufferAttributes := store.bufferAttributes ++ [some store.nextObject], objects,
       nextObject := store.nextObject + 1 } : AttributeStore).Sound := by
  have cases {i object : Nat}
      (there : (store.bufferAttributes ++ [some store.nextObject])[i]? = some (some object)) :
      store.bufferAttributes[i]? = some (some object) ∨
        i = store.bufferAttributes.length ∧ object = store.nextObject := by
    rw [List.getElem?_append] at there
    split at there
    · exact Or.inl there
    · rw [List.getElem?_singleton] at there
      split at there
      · refine Or.inr ⟨by omega, ?_⟩
        simpa [eq_comm] using there
      · simp at there
  constructor
  · intro i j object mine theirs
    rcases cases mine with mine | ⟨rfl, rfl⟩
    · rcases cases theirs with theirs | ⟨rfl, rfl⟩
      · exact sound.apart i j object mine theirs
      · exact absurd (sound.allocated i _ mine) (Nat.lt_irrefl _)
    · rcases cases theirs with theirs | ⟨rfl, -⟩
      · exact absurd (sound.allocated j _ theirs) (Nat.lt_irrefl _)
      · rfl
  · intro i object there
    rcases cases there with before | ⟨-, rfl⟩
    · exact Nat.lt_succ_of_lt (sound.allocated i object before)
    · exact Nat.lt_succ_self _

def Counter.attributes (counter : Counter) : BufferAttributes := {
  memoryType := counter.memoryType
  memoryTypeId := counter.memoryTypeId
  byteSize := counter.byteSize.toNat }

/-- The three setters, one behind the other, on an element that is there. -/
def setEntry (slot : SlotAnswers) (counter : Counter) (s : Serialization) :
    Outcome TritonError Serialization :=
  andThen (s.set slot.setMemoryType fun object =>
    { object with memoryType := counter.memoryType }) fun s =>
  andThen (s.set slot.setMemoryTypeId fun object =>
    { object with memoryTypeId := counter.memoryTypeId }) fun s =>
  andThen (s.set slot.setByteSize fun object =>
    { object with byteSize := counter.byteSize.toNat }) fun s =>
  (none, { s with usageIdx := s.usageIdx + 1 })

theorem setAttributes_eq (answers : Nat → SlotAnswers) (s : Serialization) (counter : Counter) :
    setAttributes answers s counter =
      andThen (s.reserve (answers s.usageIdx).new) (setEntry (answers s.usageIdx) counter) := rfl

inductive EntrySet (slot : SlotAnswers) (counter : Counter) (s : Serialization) :
    Outcome TritonError Serialization → Prop
  | success (memoryType : slot.setMemoryType = none) (memoryTypeId : slot.setMemoryTypeId = none)
      (byteSize : slot.setByteSize = none) :
      EntrySet slot counter s (none, { s with
        usageIdx := s.usageIdx + 1
        passed := s.passed ++ [s.entry, s.entry, s.entry]
        objects :=
          match s.entry with
          | some object => Function.update s.objects object counter.attributes
          | none => s.objects })
  | failure (error : TritonError) (more : Nat) (objects : Nat → BufferAttributes)
      (failed : ¬ (slot.setMemoryType = none ∧ slot.setMemoryTypeId = none ∧ slot.setByteSize = none)) :
      EntrySet slot counter s (some error, { s with
        passed := s.passed ++ List.replicate (more + 1) s.entry
        objects })

theorem set_null {s : Serialization} (null : s.entry = none) (answer : Option TritonError)
    (change : BufferAttributes → BufferAttributes) :
    s.set answer change = (answer, { s with passed := s.passed ++ [none] }) := by
  simp [Serialization.set, null]

theorem set_object {s : Serialization} {object : Nat} (entry : s.entry = some object)
    (change : BufferAttributes → BufferAttributes) :
    s.set none change = (none, { s with
      passed := s.passed ++ [some object]
      objects := Function.update s.objects object (change (s.objects object)) }) := by
  simp [Serialization.set, entry]

theorem setEntry_cases (slot : SlotAnswers) (counter : Counter) (s : Serialization) :
    EntrySet slot counter s (setEntry slot counter s) := by
  cases memoryType : slot.setMemoryType with
  | some error =>
      rw [setEntry, memoryType]
      exact EntrySet.failure error 0 _ fun all => by simp [memoryType] at all
  | none =>
      cases memoryTypeId : slot.setMemoryTypeId with
      | some error =>
          rw [setEntry, memoryType, memoryTypeId]
          simp only [Serialization.set, andThen, List.append_assoc]
          exact EntrySet.failure error 1 _ fun all => by simp [memoryTypeId] at all
      | none =>
          cases byteSize : slot.setByteSize with
          | some error =>
              rw [setEntry, memoryType, memoryTypeId, byteSize]
              simp only [Serialization.set, andThen, List.append_assoc]
              exact EntrySet.failure error 2 _ fun all => by simp [byteSize] at all
          | none =>
              have outcome : EntrySet slot counter s _ :=
                EntrySet.success memoryType memoryTypeId byteSize
              rw [setEntry, memoryType, memoryTypeId, byteSize]
              cases entry : s.entry with
              | none =>
                  have null (passed : List (Option Nat)) :
                      ({ s with passed } : Serialization).entry = none := entry
                  rw [set_null entry]
                  simp only [andThen, set_null (null _), List.append_assoc]
                  rw [entry] at outcome
                  exact outcome
              | some object =>
                  have there (passed : List (Option Nat)) (objects : Nat → BufferAttributes) :
                      ({ s with passed, objects } : Serialization).entry = some object := entry
                  rw [set_object entry]
                  simp only [andThen, set_object (there _ _), List.append_assoc,
                    Function.update_self, Function.update_idem]
                  rw [entry] at outcome
                  exact outcome

/-- What a counter's pass of the loop comes to: it takes the next element, a new one behind the
last, unless a call of the server fails. -/
structure SetTo (s : Serialization) (counter : Counter) (s' : Serialization) : Prop where
  usageIdx : s'.usageIdx = s.usageIdx + 1
  length : s'.bufferAttributes.length = max s.bufferAttributes.length (s.usageIdx + 1)
  others : ∀ i : Nat, i ≠ s.usageIdx → s'.bufferAttributes[i]? = s.bufferAttributes[i]?
  null : s'.bufferAttributes[s.usageIdx]? = some none → s.bufferAttributes[s.usageIdx]? = some none
  held : ∀ object, s'.bufferAttributes[s.usageIdx]? = some (some object) →
    s'.objects object = counter.attributes
  frame : ∀ i object : Nat, i ≠ s.usageIdx → s.bufferAttributes[i]? = some (some object) →
    s'.objects object = s.objects object

section
variable {answers : Nat → SlotAnswers} {s : Serialization} {counter : Counter}

theorem entry_of_there {handle : Option Nat} (there : s.bufferAttributes[s.usageIdx]? = some handle) :
    s.entry = handle := by
  rw [Serialization.entry, List.getD_eq_getElem?_getD, there, Option.getD_some]

theorem reserve_cases (bound : s.usageIdx ≤ s.bufferAttributes.length) (answer : Option TritonError) :
    (s.usageIdx < s.bufferAttributes.length ∧ s.reserve answer = (none, s)) ∨
      s.usageIdx = s.bufferAttributes.length ∧
        ((∃ error, answer = some error ∧ s.reserve answer = (some error, { s with
            bufferAttributes := s.bufferAttributes ++ [none] })) ∨
          answer = none ∧ s.reserve answer = (none, { s with
            bufferAttributes := s.bufferAttributes ++ [some s.nextObject]
            objects := Function.update s.objects s.nextObject .new
            nextObject := s.nextObject + 1 })) := by
  unfold Serialization.reserve
  rcases Nat.lt_or_eq_of_le bound with room | full
  · exact Or.inl ⟨room, if_neg (Nat.not_le_of_lt room)⟩
  · refine Or.inr ⟨full, ?_⟩
    simp only [ge_iff_le, full, Nat.le_refl, if_true]
    cases answer with
    | some error => exact Or.inl ⟨error, rfl, rfl⟩
    | none => exact Or.inr ⟨rfl, rfl⟩

theorem setEntry_outcome (answers : Nat → SlotAnswers) (counter : Counter) (sound : s.Sound)
    {handle : Option Nat} (there : s.bufferAttributes[s.usageIdx]? = some handle) :
    let result := setEntry (answers s.usageIdx) counter s
    result.2.Sound ∧ (none ∈ result.2.passed ↔ none ∈ s.passed ∨ handle = none) ∧
      (((answers s.usageIdx).setMemoryType = none ∧ (answers s.usageIdx).setMemoryTypeId = none ∧
          (answers s.usageIdx).setByteSize = none ∧ result.1 = none ∧ SetTo s counter result.2) ∨
        (¬ ((answers s.usageIdx).setMemoryType = none ∧ (answers s.usageIdx).setMemoryTypeId = none ∧
          (answers s.usageIdx).setByteSize = none) ∧ result.1 ≠ none)) := by
  have entry := entry_of_there there
  have cases := setEntry_cases (answers s.usageIdx) counter s
  generalize setEntry (answers s.usageIdx) counter s = outcome at cases ⊢
  have bound := (List.getElem?_eq_some_iff.mp there).1
  cases cases with
  | failure error more objects failed =>
      intro result
      refine ⟨⟨sound.apart, sound.allocated⟩, ?_, Or.inr ⟨failed, Option.some_ne_none _⟩⟩
      simp [result, entry, eq_comm]
  | success memoryType memoryTypeId byteSize =>
      intro result
      refine ⟨⟨sound.apart, sound.allocated⟩, ?_, Or.inl ⟨memoryType, memoryTypeId, byteSize, rfl, ?_⟩⟩
      · simp [result, entry, eq_comm]
      · constructor
        · rfl
        · exact (Nat.max_eq_left bound).symm
        · exact fun i _ => rfl
        · exact fun null => null
        · intro object mine
          obtain rfl := Option.some.inj (there.symm.trans mine)
          simp [result, entry]
        · intro i object other mine
          cases handle with
          | none => simp [result, entry]
          | some taken =>
              have apart : object ≠ taken := fun same =>
                other (sound.apart i s.usageIdx object mine (same ▸ there))
              simp [result, entry, apart]

theorem setTo_grown (sound : s.Sound) (full : s.usageIdx = s.bufferAttributes.length)
    {s' : Serialization} (set : SetTo { s with
      bufferAttributes := s.bufferAttributes ++ [some s.nextObject]
      objects := Function.update s.objects s.nextObject .new
      nextObject := s.nextObject + 1 } counter s') : SetTo s counter s' := by
  have before {i : Nat} (other : i ≠ s.usageIdx) :
      (s.bufferAttributes ++ [some s.nextObject])[i]? = s.bufferAttributes[i]? := by
    rw [List.getElem?_append]
    split
    · rfl
    · rw [List.getElem?_eq_none (by rw [List.length_singleton]; omega),
        List.getElem?_eq_none (by omega)]
  have last : (s.bufferAttributes ++ [some s.nextObject])[s.usageIdx]? = some (some s.nextObject) := by
    rw [full, List.getElem?_concat_length]
  constructor
  · exact set.usageIdx
  · have length := set.length
    simp only [List.length_append, List.length_singleton] at length
    omega
  · exact fun i other => (set.others i other).trans (before other)
  · intro null
    exact absurd (last.symm.trans (set.null null)) (by simp)
  · exact set.held
  · intro i object other mine
    have kept := set.frame i object other ((before other).trans mine)
    rw [kept]
    exact Function.update_of_ne (Nat.ne_of_lt (sound.allocated i object mine)) _ _

theorem setAttributes_outcome (answers : Nat → SlotAnswers) (counter : Counter) (sound : s.Sound)
    (bound : s.usageIdx ≤ s.bufferAttributes.length) :
    let result := setAttributes answers s counter
    result.2.Sound ∧
      (none ∈ result.2.passed ↔ none ∈ s.passed ∨ s.bufferAttributes[s.usageIdx]? = some none) ∧
      ((Grants s.toAttributeStore answers s.usageIdx ∧ result.1 = none ∧ SetTo s counter result.2) ∨
        ¬ Grants s.toAttributeStore answers s.usageIdx ∧ result.1 ≠ none) := by
  rw [setAttributes_eq]
  rcases reserve_cases bound (answers s.usageIdx).new with ⟨room, reserved⟩ | ⟨full, grown⟩
  · have there := List.getElem?_eq_getElem room
    obtain ⟨sound', nulls, outcome⟩ := setEntry_outcome answers counter sound there
    rw [reserved]
    refine ⟨sound', nulls.trans (or_congr Iff.rfl ?_), ?_⟩
    · rw [there, Option.some.injEq]
    · rcases outcome with ⟨memoryType, memoryTypeId, byteSize, success, set⟩ | ⟨failed, error⟩
      · exact Or.inl ⟨⟨Or.inl room, memoryType, memoryTypeId, byteSize⟩, success, set⟩
      · exact Or.inr ⟨fun grants => failed
          ⟨grants.setMemoryType, grants.setMemoryTypeId, grants.setByteSize⟩, error⟩
  · have absent : s.bufferAttributes[s.usageIdx]? = none :=
      List.getElem?_eq_none (Nat.le_of_eq full.symm)
    rcases grown with ⟨error, answer, reserved⟩ | ⟨answer, reserved⟩
    · rw [reserved]
      refine ⟨Sound.null sound, ?_, Or.inr ⟨fun grants => ?_, Option.some_ne_none _⟩⟩
      · simp [andThen, absent]
      · rcases grants.new with room | none
        · exact Nat.ne_of_lt room full
        · rw [answer] at none
          cases none
    · have last : (s.bufferAttributes ++ [some s.nextObject])[s.usageIdx]? = some (some s.nextObject) := by
        rw [full, List.getElem?_concat_length]
      obtain ⟨sound', nulls, outcome⟩ := setEntry_outcome answers counter (s := { s with
          bufferAttributes := s.bufferAttributes ++ [some s.nextObject]
          objects := Function.update s.objects s.nextObject .new
          nextObject := s.nextObject + 1 }) (Sound.grown sound _) last
      rw [reserved]
      refine ⟨sound', nulls.trans (or_congr Iff.rfl ?_), ?_⟩
      · simp [absent]
      · rcases outcome with ⟨memoryType, memoryTypeId, byteSize, success, set⟩ | ⟨failed, error⟩
        · exact Or.inl ⟨⟨Or.inr answer, memoryType, memoryTypeId, byteSize⟩, success,
            setTo_grown sound full set⟩
        · exact Or.inr ⟨fun grants => failed
            ⟨grants.setMemoryType, grants.setMemoryTypeId, grants.setByteSize⟩, error⟩

/-! All the counters of a call. -/

structure FilledTo (s : Serialization) (counters : List Counter) (s' : Serialization) : Prop where
  usageIdx : s'.usageIdx = s.usageIdx + counters.length
  bound : s'.usageIdx ≤ s'.bufferAttributes.length
  before : ∀ i < s.usageIdx, s'.bufferAttributes[i]? = s.bufferAttributes[i]?
  null : ∀ k < counters.length, s'.bufferAttributes[s.usageIdx + k]? = some none →
    s.bufferAttributes[s.usageIdx + k]? = some none
  held : ∀ (k object : Nat) counter, counters[k]? = some counter →
    s'.bufferAttributes[s.usageIdx + k]? = some (some object) →
      s'.objects object = counter.attributes
  frame : ∀ i object : Nat, i < s.usageIdx → s.bufferAttributes[i]? = some (some object) →
    s'.objects object = s.objects object

theorem SetTo.grants {s' : Serialization} (set : SetTo s counter s') (k : Nat) :
    Grants s'.toAttributeStore answers (s'.usageIdx + k) ↔
      Grants s.toAttributeStore answers (s.usageIdx + (k + 1)) := by
  have place : s'.usageIdx + k = s.usageIdx + (k + 1) := by
    rw [set.usageIdx]
    omega
  have room : s.usageIdx + (k + 1) < s'.bufferAttributes.length ↔
      s.usageIdx + (k + 1) < s.bufferAttributes.length := by
    rw [set.length]
    omega
  rw [place]
  constructor
  · exact fun grants => ⟨grants.new.imp_left room.mp, grants.2, grants.3, grants.4⟩
  · exact fun grants => ⟨grants.new.imp_left room.mpr, grants.2, grants.3, grants.4⟩

theorem SetTo.later {s' : Serialization} (set : SetTo s counter s') (k : Nat) :
    s'.bufferAttributes[s'.usageIdx + k]? = s.bufferAttributes[s.usageIdx + (k + 1)]? := by
  have place : s'.usageIdx + k = s.usageIdx + (k + 1) := by
    rw [set.usageIdx]
    omega
  rw [place]
  exact set.others _ (by omega)

theorem SetTo.filled {rest : List Counter} {middle s' : Serialization} (set : SetTo s counter middle)
    (filled : FilledTo middle rest s') : FilledTo s (counter :: rest) s' := by
  have first : s'.bufferAttributes[s.usageIdx]? = middle.bufferAttributes[s.usageIdx]? :=
    filled.before _ (by rw [set.usageIdx]; omega)
  have place (k : Nat) : s.usageIdx + (k + 1) = middle.usageIdx + k := by
    rw [set.usageIdx]
    omega
  constructor
  · rw [filled.usageIdx, set.usageIdx, List.length_cons]
    omega
  · exact filled.bound
  · intro i below
    rw [filled.before i (by rw [set.usageIdx]; omega)]
    exact set.others i (Nat.ne_of_lt below)
  · intro k below null
    cases k with
    | zero => exact set.null (first ▸ null)
    | succ k =>
        rw [← set.later]
        rw [place] at null
        exact filled.null k (Nat.lt_of_succ_lt_succ below) null
  · intro k object other there mine
    cases k with
    | zero =>
        obtain rfl := Option.some.inj there
        rw [Nat.add_zero, first] at mine
        rw [filled.frame s.usageIdx object (by rw [set.usageIdx]; omega) mine]
        exact set.held object mine
    | succ k =>
        rw [place] at mine
        exact filled.held k object other there mine
  · intro i object below mine
    have apart := Nat.ne_of_lt below
    rw [filled.frame i object (by rw [set.usageIdx]; omega) ((set.others i apart).trans mine)]
    exact set.frame i object apart mine

theorem forEach_outcome (answers : Nat → SlotAnswers) (counters : List Counter) (sound : s.Sound)
    (bound : s.usageIdx ≤ s.bufferAttributes.length) :
    let result := forEach (setAttributes answers) s counters
    result.2.Sound ∧
      (none ∈ result.2.passed ↔ none ∈ s.passed ∨ ∃ k < counters.length,
        (∀ j < k, Grants s.toAttributeStore answers (s.usageIdx + j)) ∧
          s.bufferAttributes[s.usageIdx + k]? = some none) ∧
      (((∀ k < counters.length, Grants s.toAttributeStore answers (s.usageIdx + k)) ∧
          result.1 = none ∧ FilledTo s counters result.2) ∨
        ¬ (∀ k < counters.length, Grants s.toAttributeStore answers (s.usageIdx + k)) ∧
          result.1 ≠ none) := by
  induction counters generalizing s with
  | nil =>
      refine ⟨sound, ?_, Or.inl ⟨fun k impossible => absurd impossible (Nat.not_lt_zero k), rfl, ?_⟩⟩
      · simp [forEach]
      · constructor <;> simp [forEach, bound]
  | cons counter rest ih =>
      obtain ⟨sound', nulls, outcome⟩ := setAttributes_outcome answers counter sound bound
      rw [forEach]
      generalize setAttributes answers s counter = first at sound' nulls outcome ⊢
      obtain ⟨error, middle⟩ := first
      rcases outcome with ⟨grants, none, set⟩ | ⟨stops, failed⟩
      · obtain rfl : error = .none := none
        have room : middle.usageIdx ≤ middle.bufferAttributes.length := by
          rw [set.usageIdx, set.length]
          omega
        obtain ⟨sound'', later, finished⟩ := ih sound' room
        have all (n : Nat) :
            (∀ k < n + 1, Grants s.toAttributeStore answers (s.usageIdx + k)) ↔
              ∀ k < n, Grants middle.toAttributeStore answers (middle.usageIdx + k) := by
          rw [Nat.forall_lt_succ_left, and_iff_right (show Grants _ _ (s.usageIdx + 0) from grants)]
          exact forall₂_congr fun k _ => (set.grants k).symm
        refine ⟨sound'', later.trans ?_, ?_⟩
        · rw [nulls, or_assoc, List.length_cons, Nat.exists_lt_succ_left]
          refine or_congr Iff.rfl (or_congr ?_ ?_)
          · exact (and_iff_right fun j impossible => absurd impossible (Nat.not_lt_zero j)).symm
          · refine exists_congr fun k => and_congr Iff.rfl ?_
            rw [all, set.later]
        · rw [List.length_cons, all]
          rcases finished with ⟨every, success, filled⟩ | finished
          · exact Or.inl ⟨every, success, set.filled filled⟩
          · exact Or.inr finished
      · obtain ⟨error, rfl⟩ := Option.ne_none_iff_exists'.mp failed
        have never : ¬ ∀ k < (counter :: rest).length,
            Grants s.toAttributeStore answers (s.usageIdx + k) :=
          fun every => stops (every 0 (Nat.succ_pos _))
        refine ⟨sound', nulls.trans (or_congr Iff.rfl ?_), Or.inr ⟨never, failed⟩⟩
        constructor
        · intro null
          exact ⟨0, Nat.succ_pos _, fun j impossible => absurd impossible (Nat.not_lt_zero j), null⟩
        · rintro ⟨k, below, every, null⟩
          cases k with
          | zero => exact null
          | succ k => exact absurd (every 0 (Nat.succ_pos k)) stops

theorem setAttributesForDevice_eq (answers : Nat → SlotAnswers) (memoryType : MemoryType)
    (s : Serialization) (devices : List (BitVec 64)) :
    setAttributesForDevice answers memoryType s devices = forEach (setAttributes answers) s
      ((deviceCounters memoryType devices).filter fun counter => counter.byteSize ≠ 0) := by
  rw [← forEach_filter, deviceCounters, forEach_map, setAttributesForDevice]
  simp only [decide_eq_true_eq]

/-- The three loops are one over the counters that are not zero. -/
theorem serializeToBufferAttributes_eq (answers : Nat → SlotAnswers) (usage : MemoryUsage)
    (store : AttributeStore) (valid : usage.cuptiTracker.valid = true) :
    let result := forEach (setAttributes answers) { store with usageIdx := 0, passed := [] }
      usage.counters
    serializeToBufferAttributes answers usage store = {
      returned :=
        match result.1 with
        | some error => .error error
        | none => .ok (result.2.bufferAttributes.take result.2.usageIdx)
      passed := result.2.passed
      store := result.2.toAttributeStore } := by
  simp only [serializeToBufferAttributes, valid, Bool.not_true, Bool.false_eq_true, if_false,
    setAttributesForDevice_eq, MemoryUsage.counters, List.filter_append, forEach_append,
    andThen_assoc]

theorem serializeToBufferAttributes_sound (answers : Nat → SlotAnswers) (usage : MemoryUsage)
    {store : AttributeStore} (sound : store.Sound) :
    (serializeToBufferAttributes answers usage store).store.Sound := by
  cases valid : usage.cuptiTracker.valid with
  | true =>
      rw [serializeToBufferAttributes_eq answers usage store valid]
      exact (forEach_outcome answers usage.counters (s := { store with usageIdx := 0, passed := [] })
        sound (Nat.zero_le _)).1
  | false => simpa [serializeToBufferAttributes, valid] using sound

theorem toInt_of_nonneg {value : BitVec 64} : (value.toNat : Int) = value.toInt ↔ 0 ≤ value.toInt := by
  have bound := value.isLt
  rw [BitVec.toInt_eq_toNat_cond]
  split <;> omega

/-- Elements that are not null hold the counters, each in an object of its own. -/
theorem FilledTo.holds {store : AttributeStore} {counters : List Counter} {s' : Serialization}
    (filled : FilledTo { store with usageIdx := 0, passed := [] } counters s') (sound : s'.Sound)
    (reserved : ∀ k < counters.length, store.bufferAttributes[k]? ≠ some none) :
    (s'.bufferAttributes.take s'.usageIdx).Nodup ∧
      List.Forall₂ (fun counter handle => ∃ object, handle = some object ∧
        s'.objects object = counter.attributes) counters
          (s'.bufferAttributes.take s'.usageIdx) := by
  obtain ⟨usageIdx, bound, -, null, held, -⟩ := filled
  simp only [Nat.zero_add] at usageIdx null held
  have length : (s'.bufferAttributes.take s'.usageIdx).length = counters.length := by
    rw [List.length_take]
    omega
  have there {k : Nat} (below : k < counters.length) :
      ∃ object, (s'.bufferAttributes.take s'.usageIdx)[k]? = some (some object) ∧
        s'.bufferAttributes[k]? = some (some object) := by
    have room : k < s'.bufferAttributes.length := by omega
    rw [List.getElem?_take_of_lt (by omega), List.getElem?_eq_getElem room]
    cases handle : s'.bufferAttributes[k] with
    | none =>
        refine absurd (null k below ?_) (reserved k below)
        rw [List.getElem?_eq_getElem room, handle]
    | some object => exact ⟨object, rfl, rfl⟩
  constructor
  · refine List.nodup_iff_getElem?_ne_getElem?.mpr fun i j before below same => ?_
    rw [length] at below
    obtain ⟨first, mine, here⟩ := there (Nat.lt_trans before below)
    obtain ⟨second, theirs, again⟩ := there below
    rw [mine, theirs] at same
    obtain rfl := Option.some.inj (Option.some.inj same)
    exact Nat.ne_of_lt before (sound.apart i j first here again)
  · refine List.forall₂_iff_get.mpr ⟨length.symm, fun k below room => ?_⟩
    obtain ⟨object, mine, here⟩ := there below
    refine ⟨object, ?_, held k object _ (List.getElem?_eq_getElem below) here⟩
    exact Option.some.inj ((List.getElem?_eq_getElem room).symm.trans mine)

theorem FilledTo.returns_iff {store : AttributeStore} {counters : List Counter} {s' : Serialization}
    (filled : FilledTo { store with usageIdx := 0, passed := [] } counters s') (sound : s'.Sound)
    (reserved : ∀ k < counters.length, store.bufferAttributes[k]? ≠ some none) :
    ((s'.bufferAttributes.take s'.usageIdx).Nodup ∧
      List.Forall₂ (fun counter handle => counter.HeldBy s'.objects handle) counters
        (s'.bufferAttributes.take s'.usageIdx)) ↔
      ∀ counter ∈ counters, 0 ≤ counter.byteSize.toInt := by
  obtain ⟨apart, each⟩ := filled.holds sound reserved
  constructor
  · rintro ⟨-, held⟩ counter member
    obtain ⟨k, below, rfl⟩ := List.getElem_of_mem member
    have room : k < (s'.bufferAttributes.take s'.usageIdx).length := by rwa [← each.length_eq]
    obtain ⟨object, same, attributes⟩ := each.get below room
    obtain ⟨other, same', -, -, size⟩ := (held.get below room).held
    obtain rfl := Option.some.inj (same.symm.trans same')
    rw [attributes] at size
    exact toInt_of_nonneg.mp size
  · intro positive
    refine ⟨apart, List.forall₂_iff_get.mpr ⟨each.length_eq, fun k below room => ?_⟩⟩
    obtain ⟨object, same, attributes⟩ := each.get below room
    have size := positive _ (List.get_mem _ ⟨k, below⟩)
    refine ⟨object, same, ?_⟩
    rw [attributes]
    exact ⟨rfl, rfl, toInt_of_nonneg.mpr size⟩

theorem serializes_invalid (answers : Nat → SlotAnswers) {u : AttributedUsage}
    (invalid : u.usage.cuptiTracker.valid = false) :
    Serializes u (serializeToBufferAttributes answers u.usage u.store) := by
  have refused : serializeToBufferAttributes answers u.usage u.store = {
      returned := .error { code := .internal, message := "MemoryUsage record is invalid." }
      passed := []
      store := u.store } := by
    simp [serializeToBufferAttributes, invalid]
  rw [refused]
  exact ⟨nofun, List.not_mem_nil⟩

theorem serializes_call_iff (answers : Nat → SlotAnswers) {u : AttributedUsage}
    (sound : u.store.Sound) :
    Serializes u (serializeToBufferAttributes answers u.usage u.store) ↔ Serializable u answers := by
  cases valid : u.usage.cuptiTracker.valid with
  | false =>
      refine iff_of_true (serializes_invalid answers valid) ⟨?_, ?_⟩
      · exact fun impossible => Bool.noConfusion (valid.symm.trans impossible)
      · exact fun impossible => Bool.noConfusion (valid.symm.trans impossible)
  | true =>
      obtain ⟨sound', nulls, outcome⟩ := forEach_outcome answers u.usage.counters
        (s := { u.store with usageIdx := 0, passed := [] }) sound (Nat.zero_le _)
      rw [serializeToBufferAttributes_eq answers u.usage u.store valid]
      generalize forEach (setAttributes answers) _ u.usage.counters = result at sound' nulls outcome ⊢
      simp only [List.not_mem_nil, false_or, Nat.zero_add] at nulls outcome
      have spared : none ∉ result.2.passed ↔ ∀ k < u.usage.counters.length,
          (∀ j < k, Grants u.store answers j) → u.store.bufferAttributes[k]? ≠ some none := by
        rw [nulls]
        push Not
        rfl
      rcases outcome with ⟨every, success, filled⟩ | ⟨stops, failed⟩
      · rw [success]
        have returns (reserved : ∀ k < u.usage.counters.length,
            (∀ j < k, Grants u.store answers j) → u.store.bufferAttributes[k]? ≠ some none) :=
          filled.returns_iff sound' fun k below =>
            reserved k below fun j before => every j (Nat.lt_trans before below)
        constructor
        · intro serializes
          have reserved := spared.mp serializes.spared
          exact ⟨fun _ => reserved, fun _ _ => (returns reserved).mp (serializes.returned _ rfl)⟩
        · intro serializable
          have reserved := serializable.reserved valid
          refine ⟨fun handles returned => ?_, spared.mpr reserved⟩
          obtain rfl := Except.ok.inj returned
          exact (returns reserved).mpr (serializable.positive valid every)
      · obtain ⟨error, gives⟩ := Option.ne_none_iff_exists'.mp failed
        rw [gives]
        constructor
        · intro serializes
          exact ⟨fun _ => spared.mp serializes.spared, fun _ every => absurd every stops⟩
        · intro serializable
          exact ⟨nofun, spared.mpr (serializable.reserved valid)⟩

end

/-! Whole histories. -/

theorem step_sound {u : AttributedUsage} (sound : u.store.Sound) (event : UsageEvent) :
    (u.step event).store.Sound := by
  cases event with
  | receive memoryRecord => exact sound
  | addAssign rhs => exact sound
  | serialize answers => exact serializeToBufferAttributes_sound answers u.usage sound

theorem run_sound {u : AttributedUsage} (sound : u.store.Sound) (events : List UsageEvent) :
    (u.run events).store.Sound := by
  induction events generalizing u with
  | nil => exact sound
  | cons event rest ih => exact ih (step_sound sound event)

def SerializesAlways (cudaDeviceCount : Nat) (events : List UsageEvent) : Prop :=
  ∀ before answers after, events = before ++ .serialize answers :: after →
    let u := (AttributedUsage.create cudaDeviceCount).run before
    Serializes u (serializeToBufferAttributes answers u.usage u.store)

def SerializableAlways (cudaDeviceCount : Nat) (events : List UsageEvent) : Prop :=
  ∀ before answers after, events = before ++ .serialize answers :: after →
    Serializable ((AttributedUsage.create cudaDeviceCount).run before) answers

theorem serializesAlways_iff (cudaDeviceCount : Nat) (events : List UsageEvent) :
    SerializesAlways cudaDeviceCount events ↔ SerializableAlways cudaDeviceCount events :=
  forall₄_congr fun before answers _ _ =>
    serializes_call_iff answers (run_sound empty_sound before)

def willing : Nat → SlotAnswers := fun _ =>
  { new := none, setMemoryType := none, setMemoryTypeId := none, setByteSize := none }

def pinnedRecord (operation : MemoryOperation) : ActivityMemory := {
  correlationId := 1
  memoryOperationType := operation
  memoryKind := .pinned
  deviceId := 0
  bytes := 64 }

/-- A release of memory that was allocated before the tracking is reported as 2^64 - 64 bytes. -/
theorem not_serializesAlways_negative : ¬ SerializesAlways 1
    [.receive (pinnedRecord .release), .serialize willing] := by
  intro always
  have held := ((always [_] willing [] rfl).returned [some 0] (by decide)).2
  obtain ⟨object, same, -, -, size⟩ := (held.get (i := 0) (by decide) (by decide)).held
  obtain rfl := Option.some.inj same
  exact absurd size (by decide)

end TritonBackend
