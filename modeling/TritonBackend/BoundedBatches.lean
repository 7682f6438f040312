import TritonBackend.BatchingStrategies
import TritonBackend.GatheredTensor
import TritonBackend.ReadInputCore
import Mathlib.Algebra.Order.BigOperators.Group.List
import Mathlib.Algebra.Order.Group.Nat

/-!
What the volume strategy does for a backend: of a batch that it forms, no input takes more
memory to gather than the batch was made for, unless the host policy of the backend has more
bytes for it than the strategy was told of.
-/

namespace TritonBackend

open Offers

namespace VolumeBatching

def requestBytes (request : Request) : Nat := (request.inputs.map Input.byteSize).sum

/-- What the strategy is told of a request: the bytes of each input, in all of the buffers that
it has without a host policy. -/
def queued (request : Request) : QueuedRequest :=
  { inputCount := .ok request.inputs.length
    inputByIndex := fun _ => .ok ()
    dataByteSize := fun count => .ok ((request.inputs[count]?.map Input.byteSize).getD 0) }

theorem volume_queued (request : Request) : volume (queued request) = some (requestBytes request) := by
  have all : (List.range request.inputs.length).all (readable (queued request)) = true :=
    List.all_eq_true.mpr fun _ _ => rfl
  have sizes : (List.range request.inputs.length).map (inputSize (queued request)) =
      request.inputs.map Input.byteSize := by
    refine List.ext_getElem (by simp) ?_
    intro idx _ bound
    have inside : idx < request.inputs.length := by simpa using bound
    simp [inputSize, queued, inside]
  simp only [volume, queued]
  change (if (List.range request.inputs.length).all (readable (queued request)) = true then
    some ((List.range request.inputs.length).map (inputSize (queued request))).sum else none) = _
  rw [if_pos all, sizes]
  rfl

section
variable (policies : String → String → List MemoryDesc) (hostPolicyName : Option String)
  (inputName : String)

/-- A request as a collector with the host policy has it. -/
def forHostPolicy (request : Request) : Request :=
  { request with inputs := request.inputs.map (Input.forHostPolicy policies · hostPolicyName) }

/-- What an input has under the host policy beyond what it has without one. -/
def excess (request : Request) : Nat :=
  match request.input? inputName with
  | none => 0
  | some input => (input.forHostPolicy policies hostPolicyName).byteSize - input.byteSize

theorem forHostPolicy_input (request : Request) :
    (forHostPolicy policies hostPolicyName request).input? inputName =
      (request.input? inputName).map (Input.forHostPolicy policies · hostPolicyName) := by
  rw [forHostPolicy, Request.input?, Request.input?, List.find?_map]
  congr 1
  refine congrArg (List.find? · request.inputs) (funext fun input => ?_)
  cases hostPolicyName <;> rfl

theorem requestBuffers_within (request : Request) :
    bufferByteSize (requestBuffers inputName (forHostPolicy policies hostPolicyName request)) ≤
      requestBytes request + excess policies hostPolicyName inputName request := by
  have policy := forHostPolicy_input policies hostPolicyName inputName request
  cases held : request.input? inputName with
  | none =>
      rw [held] at policy
      simp [requestBuffers, policy]
  | some input =>
      rw [held] at policy
      have inside : input.byteSize ≤ requestBytes request :=
        List.le_sum_of_mem (List.mem_map_of_mem (List.mem_of_find?_eq_some held))
      have bytes : bufferByteSize (input.forHostPolicy policies hostPolicyName).buffers =
          (input.forHostPolicy policies hostPolicyName).byteSize := rfl
      rw [requestBuffers_of_input policy, bytes, excess, held]
      simp only
      omega

theorem batchBuffers_within (requests : List Request) :
    bufferByteSize
        (batchBuffers inputName (requests.map (forHostPolicy policies hostPolicyName))).flatten ≤
      (requests.map requestBytes).sum +
        (requests.map (excess policies hostPolicyName inputName)).sum := by
  induction requests with
  | nil => exact Nat.le_refl 0
  | cons request rest later =>
      have first := requestBuffers_within policies hostPolicyName inputName request
      rw [batchBuffers] at later
      rw [batchBuffers, List.map_cons, List.map_cons, List.flatten_cons, bufferByteSize_append,
        List.map_cons, List.sum_cons, List.map_cons, List.sum_cons]
      omega

end

/-! A host policy with more bytes for one of two inputs. -/

def smallRequests : List Request := [inputRequest [firstBuffer], inputRequest [lastBuffer]]

def widePolicies (_inputName _hostPolicyName : String) : List MemoryDesc := [hostBuffer 16384 6]

def wideConfig : CollectorConfig :=
  CollectorConfig.plain (smallRequests.map (forHostPolicy widePolicies (some "gpu_0")))

end VolumeBatching

end TritonBackend
