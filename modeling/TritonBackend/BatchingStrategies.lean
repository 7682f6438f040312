import TritonBackend.Offers
import TritonBackend.ParseValues

/-!
The volume batching strategy. The server begins a batch, asks for each request whether it
should be included, and finishes the batch; each batch has user data of its own.
-/

namespace TritonBackend

open Numerals Offers

structure QueuedRequest where
  inputCount : Except TritonError Nat
  inputByIndex : Nat → Except TritonError Unit
  dataByteSize : Nat → Except TritonError Nat

def sized (bytes : Nat) : QueuedRequest :=
  { inputCount := .ok 1
    inputByIndex := fun _ => .ok ()
    dataByteSize := fun _ => .ok bytes }

structure IncludeAnswer where
  error : Option TritonError
  shouldInclude : Bool
  userp : UInt32

namespace VolumeBatching

/-- The loop over the inputs, in `unsigned int`. -/
def addVolumes (request : QueuedRequest) (pendingVolume : UInt32) :
    List Nat → Except TritonError UInt32
  | [] => .ok pendingVolume
  | count :: rest => do
      request.inputByIndex count
      let dataByteSize ← request.dataByteSize count
      addVolumes request (pendingVolume + UInt32.ofNat dataByteSize) rest

def pendingVolume (request : QueuedRequest) : Except TritonError UInt32 := do
  let inputCount ← request.inputCount
  addVolumes request 0 (List.range inputCount)

def modelBatchIncludeRequest (request : QueuedRequest) (remainingVolume : UInt32) :
    IncludeAnswer :=
  match pendingVolume request with
  | .error error => {
      error := some error
      shouldInclude := false
      userp := remainingVolume }
  | .ok pendingVolume =>
      if pendingVolume ≤ remainingVolume then {
        error := none
        shouldInclude := true
        userp := remainingVolume - pendingVolume }
      else {
        error := none
        shouldInclude := false
        userp := remainingVolume }

def modelBatchInitialize (batcher : UInt32) : UInt32 := batcher

structure BatcherCreated where
  outcome : CallOutcome
  batcher : Option UInt32

section
variable {Value : Type} [TritonJson Value]

/-- `modelConfig` is the parsed configuration, or the error of its serialization. -/
def modelBatcherInitialize (modelConfig : Except TritonError Value) : BatcherCreated :=
  let refused (error : TritonError) : BatcherCreated :=
    { outcome := .returned (some error)
      batcher := none }
  match modelConfig with
  | .error error => refused error
  | .ok modelConfig =>
      match TritonJson.find modelConfig "parameters" with
      | none => refused {
          code := .notFound
          message := "Unable to find parameters in model config" }
      | some params =>
          match TritonJson.find params "MAX_BATCH_VOLUME_BYTES" with
          | none => refused {
              code := .notFound
              message := "Unable to find MAX_BATCH_VOLUME_BYTES parameter in model config" }
          | some volumeParam =>
              match TritonJson.memberAsString volumeParam "string_value" with
              | .error error => refused error
              | .ok maxVolumeBytesStr =>
                  -- an `unsigned long` has 64 bits
                  match stoull maxVolumeBytesStr with
                  | .ok maxVolumeBytes => {
                      outcome := .returned none
                      batcher := some (UInt32.ofNat maxVolumeBytes.toNat) }
                  | .error .invalidArgument => refused {
                      code := .invalidArg
                      message := "failed to convert '" ++ maxVolumeBytesStr ++
                        "' to unsigned int64" }
                  | .error .outOfRange => {
                      outcome := .thrown .outOfRange
                      batcher := none }

end

def rule (batcher : UInt32) : Rule QueuedRequest UInt32 :=
  { initial := modelBatchInitialize batcher
    offer := fun remainingVolume request =>
      let answer := modelBatchIncludeRequest request remainingVolume
      (answer.shouldInclude, answer.userp) }

/-! What the volumes amount to. -/

def readable (request : QueuedRequest) (count : Nat) : Bool :=
  (request.inputByIndex count).isOk && (request.dataByteSize count).isOk

def inputSize (request : QueuedRequest) (count : Nat) : Nat :=
  match request.dataByteSize count with
  | .ok size => size
  | .error _ => 0

/-- The bytes of a request all of whose inputs can be looked up. -/
def volume (request : QueuedRequest) : Option Nat :=
  match request.inputCount with
  | .error _ => none
  | .ok inputCount =>
      if (List.range inputCount).all (readable request) then
        some ((List.range inputCount).map (inputSize request)).sum
      else none

def charge (request : QueuedRequest) : Nat := (volume request).getD 0 % 2 ^ 32

/-- Each request is taken if there is room for it, and one that cannot be looked up is not. -/
def greedy : Nat → List QueuedRequest → List QueuedRequest
  | _, [] => []
  | room, request :: rest =>
      if (volume request).isSome && charge request ≤ room then
        request :: greedy (room - charge request) rest
      else greedy room rest

theorem addVolumes_eq (request : QueuedRequest) (start : UInt32) (counts : List Nat) :
    (addVolumes request start counts).toOption =
      if counts.all (readable request) then
        some (start + UInt32.ofNat (counts.map (inputSize request)).sum)
      else none := by
  induction counts generalizing start with
  | nil => simp [addVolumes, Except.toOption]
  | cons count rest later =>
      cases found : request.inputByIndex count with
      | error error =>
          have stops : addVolumes request start (count :: rest) = .error error := by
            rw [addVolumes, found]
            rfl
          simp [stops, readable, found, Except.isOk, Except.toBool, Except.toOption]
      | ok input =>
          cases size : request.dataByteSize count with
          | error error =>
              have stops : addVolumes request start (count :: rest) = .error error := by
                rw [addVolumes, found, size]
                rfl
              simp [stops, readable, found, size, Except.isOk, Except.toBool, Except.toOption]
          | ok dataByteSize =>
              have goes : addVolumes request start (count :: rest) =
                  addVolumes request (start + UInt32.ofNat dataByteSize) rest := by
                rw [addVolumes, found, size]
                rfl
              have here : readable request count = true := by
                rw [readable, found, size]
                rfl
              have bytes : inputSize request count = dataByteSize := by simp [inputSize, size]
              rw [goes, later, List.all_cons, here, Bool.true_and, List.map_cons, List.sum_cons, bytes,
                UInt32.ofNat_add, UInt32.add_assoc]

theorem pendingVolume_eq (request : QueuedRequest) :
    (pendingVolume request).toOption = (volume request).map UInt32.ofNat := by
  cases counted : request.inputCount with
  | error error =>
      have stops : pendingVolume request = .error error := by
        rw [pendingVolume, counted]
        rfl
      simp [stops, volume, counted, Except.toOption]
  | ok inputCount =>
      have goes : pendingVolume request = addVolumes request 0 (List.range inputCount) := by
        rw [pendingVolume, counted]
        rfl
      rw [goes, addVolumes_eq, volume, counted]
      simp only [UInt32.zero_add]
      split <;> rfl

theorem offer_cases (batcher remaining : UInt32) (request : QueuedRequest) :
    (rule batcher).offer remaining request =
      if (volume request).isSome && charge request ≤ remaining.toNat then
        (true, remaining - UInt32.ofNat (charge request))
      else (false, remaining) := by
  have pending := pendingVolume_eq request
  simp only [rule, modelBatchIncludeRequest]
  cases measured : pendingVolume request with
  | error error =>
      rw [measured] at pending
      have unmeasured : volume request = none := Option.map_eq_none_iff.mp pending.symm
      simp [unmeasured]
  | ok volume' =>
      rw [measured] at pending
      obtain ⟨bytes, known, rfl⟩ := Option.map_eq_some_iff.mp pending.symm
      have fits : UInt32.ofNat bytes ≤ remaining ↔ charge request ≤ remaining.toNat := by
        rw [UInt32.le_iff_toNat_le, UInt32.toNat_ofNat', charge, known]
        rfl
      have same : UInt32.ofNat (charge request) = UInt32.ofNat bytes := by
        rw [charge, known]
        exact UInt32.ofNat_mod_size
      by_cases room : charge request ≤ remaining.toNat
      · simp [known, room, fits.mpr room, same]
      · simp [known, room, mt fits.mp room]

theorem takes_greedy (batcher remaining : UInt32) (requests : List QueuedRequest) :
    (rule batcher).takes remaining requests = greedy remaining.toNat requests ∧
      ((rule batcher).after remaining requests).toNat +
        ((greedy remaining.toNat requests).map charge).sum = remaining.toNat := by
  induction requests generalizing remaining with
  | nil => exact ⟨rfl, rfl⟩
  | cons request rest later =>
      rw [Rule.takes, after_cons, greedy, offer_cases]
      by_cases room : ((volume request).isSome && charge request ≤ remaining.toNat) = true
      · have less : charge request ≤ remaining.toNat := by
          simp only [Bool.and_eq_true, decide_eq_true_eq] at room
          exact room.2
        have small : (UInt32.ofNat (charge request)).toNat = charge request := by
          rw [UInt32.toNat_ofNat', charge, Nat.mod_mod]
        have left : (remaining - UInt32.ofNat (charge request)).toNat =
            remaining.toNat - charge request := by
          rw [UInt32.toNat_sub_of_le, small]
          rw [UInt32.le_iff_toNat_le, small]
          exact less
        obtain ⟨same, kept⟩ := later (remaining - UInt32.ofNat (charge request))
        rw [left] at same kept
        rw [if_pos room, if_pos room]
        refine ⟨congrArg (List.cons request) same, ?_⟩
        rw [List.map_cons, List.sum_cons, ← Nat.add_assoc, Nat.add_right_comm]
        change ((rule batcher).after (remaining - UInt32.ofNat (charge request)) rest).toNat +
          ((greedy (remaining.toNat - charge request) rest).map charge).sum + charge request = _
        rw [kept, Nat.sub_add_cancel less]
      · rw [if_neg room, if_neg room]
        exact later remaining

theorem batch_taken {batcher : UInt32} {batch : Group QueuedRequest UInt32}
    (formed : Formed (rule batcher) batch) : batch.taken = greedy batcher.toNat batch.offered :=
  formed.taken.trans (takes_greedy batcher batcher batch.offered).1

/-- Every batch takes what fits, and what is left is what it was made with less what it took. -/
theorem batches_greedy (batcher : UInt32) {batches : List (Group QueuedRequest UInt32)}
    (run : Reaches (rule batcher) [] batches) :
    ∀ batch ∈ batches, batch.taken = greedy batcher.toNat batch.offered ∧
      ∀ remaining, batch.state = some remaining →
        remaining.toNat + (batch.taken.map charge).sum = batcher.toNat := by
  intro batch member
  have formed := run_formed run batch member
  refine ⟨batch_taken formed, ?_⟩
  intro remaining isOpen
  rw [batch_taken formed, formed.state remaining isOpen]
  exact (takes_greedy batcher batcher batch.offered).2

theorem batches_greedy_three : ∃ batch, Reaches (rule 5) [] [batch] ∧
    batch.taken = [sized 3, sized 2] ∧
      batch.state.map (fun remaining => remaining.toNat + (batch.taken.map charge).sum) = some 5 := by
  obtain ⟨batch, run, offered, state⟩ :=
    reaches_offered (rule 5) [sized 3, sized 4, sized 2, sized 1]
  obtain ⟨taken, kept⟩ := batches_greedy 5 run batch (List.mem_singleton_self batch)
  refine ⟨batch, run, ?_, ?_⟩
  · rw [taken, offered]
    rfl
  · rw [state, Option.map_some, kept _ state]
    rfl

/-! What a batch can come to. -/

theorem greedy_sublist (room : Nat) (requests : List QueuedRequest) :
    (greedy room requests).Sublist requests := by
  induction requests generalizing room with
  | nil => exact List.Sublist.refl _
  | cons request rest later =>
      rw [greedy]
      split
      · exact (later _).cons_cons request
      · exact (later room).cons request

theorem greedy_charged (room : Nat) (requests : List QueuedRequest) :
    ((greedy room requests).map charge).sum ≤ room := by
  induction requests generalizing room with
  | nil => exact Nat.zero_le room
  | cons request rest later =>
      rw [greedy]
      split
      next fits =>
        simp only [Bool.and_eq_true, decide_eq_true_eq] at fits
        rw [List.map_cons, List.sum_cons]
        have less := later (room - charge request)
        omega
      next => exact later room

theorem batch_charged {batcher : UInt32} {batch : Group QueuedRequest UInt32}
    (formed : Formed (rule batcher) batch) : (batch.taken.map charge).sum ≤ batcher.toNat := by
  rw [batch_taken formed]
  exact greedy_charged _ _

/-- Below the width of an `unsigned int` a request counts for all of its bytes. -/
theorem batch_volume {batcher : UInt32} {batch : Group QueuedRequest UInt32}
    (formed : Formed (rule batcher) batch)
    (small : ∀ request ∈ batch.taken, (volume request).getD 0 < 2 ^ 32) :
    (batch.taken.map fun request => (volume request).getD 0).sum ≤ batcher.toNat := by
  have charged : (batch.taken.map fun request => (volume request).getD 0) = batch.taken.map charge :=
    List.map_congr_left fun request inside => (Nat.mod_eq_of_lt (small request inside)).symm
  rw [charged]
  exact batch_charged formed

section
variable {Value : Type} [TritonJson Value]

theorem initialize_denoted {modelConfig params : Value} {text : String} {bytes : Int}
    (found : TritonJson.find modelConfig "parameters" = some params)
    (configured : Configured params "MAX_BATCH_VOLUME_BYTES" text)
    (denotes : unsignedLongLong.Denotes text bytes) :
    modelBatcherInitialize (.ok modelConfig) = {
      outcome := .returned none
      batcher := some (UInt32.ofNat bytes.toNat) } := by
  obtain ⟨volumeParam, present, string⟩ := configured
  simp only [modelBatcherInitialize, found, present, string]
  rw [show stoull text = .ok bytes from stoull_converts.denoted denotes]

/-- The batches of a model stay within the bytes it is configured for, as long as no request
has more than an `unsigned int` counts. -/
theorem batches_bounded {modelConfig params : Value} {text : String} {bytes : Int}
    (found : TritonJson.find modelConfig "parameters" = some params)
    (configured : Configured params "MAX_BATCH_VOLUME_BYTES" text)
    (denotes : unsignedLongLong.Denotes text bytes) :
    ∃ batcher, modelBatcherInitialize (.ok modelConfig) = {
        outcome := .returned none
        batcher := some batcher } ∧
      ∀ batches, Reaches (rule batcher) [] batches → ∀ batch ∈ batches,
        batch.taken.Sublist batch.offered ∧ (batch.taken.map charge).sum ≤ bytes.toNat % 2 ^ 32 ∧
          ((∀ request ∈ batch.taken, (volume request).getD 0 < 2 ^ 32) →
            (batch.taken.map fun request => (volume request).getD 0).sum ≤ bytes.toNat % 2 ^ 32) := by
  refine ⟨_, initialize_denoted found configured denotes, ?_⟩
  intro batches run batch member
  have formed := run_formed run batch member
  rw [← UInt32.toNat_ofNat']
  refine ⟨?_, batch_charged formed, batch_volume formed⟩
  rw [batch_taken formed]
  exact greedy_sublist _ _

def boundedConfig : JsonTree := .object [
  ("parameters", .object [("MAX_BATCH_VOLUME_BYTES", .object [("string_value", .string "5")])])]

theorem batches_bounded_five : ∃ batcher, modelBatcherInitialize (.ok boundedConfig) = {
    outcome := .returned none
    batcher := some batcher } ∧
    ∀ batches, Reaches (rule batcher) [] batches → ∀ batch ∈ batches,
      (batch.taken.map charge).sum ≤ 5 := by
  have denotes : unsignedLongLong.Denotes (toString (5 : Int)) 5 :=
    denotes_toString (by decide) (by decide) (by decide)
  have params : TritonJson.find boundedConfig "parameters" = some _ := rfl
  obtain ⟨batcher, created, bounded⟩ := batches_bounded params ⟨_, rfl, rfl⟩ denotes
  exact ⟨batcher, created, fun batches run batch member => (bounded batches run batch member).2.1⟩

end

end VolumeBatching

end TritonBackend
