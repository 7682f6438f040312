import TritonBackend.CommonCore

/-!
`ReadInputTensor`: the buffers of an input of one request, copied one behind the other into
the caller's buffer.
-/

namespace TritonBackend

open CopyStream

/-- The input as the server has it for a host policy, whose buffers `policies` registers by the
names of the input and the policy. Without a policy they are the input's own. -/
def Input.forHostPolicy (policies : String → String → List MemoryDesc) (input : Input) :
    Option String → Input
  | none => input
  | some hostPolicyName => { input with buffers := policies input.name hostPolicyName }

def Input.byteSize (input : Input) : Nat := (input.buffers.map MemoryDesc.byteSize).sum

structure ReadResult where
  error : Option TritonError
  bufferByteSize : Nat
  cudaUsed : Bool
  sys : Sys

section
variable (env : Env) (policies : String → String → List MemoryDesc)

/-- The loop over the buffers from `b` on. Each copy sets `cuda_used` anew. -/
def readInputBuffers (inputName : String) (input : Input) (buffer : Address)
    (memoryType : MemoryType) (memoryTypeId : Int) (copyOnStream : Bool) (s : Sys)
    (cudaUsed : Bool) (outputBufferOffset b : Nat) : Nat → CopyResult
  | 0 => { error := none, cudaUsed, sys := s }
  | count + 1 =>
      match inputBuffer env s inputName (some input) b with
      | (.error error, s) => { error := some error, cudaUsed, sys := s }
      | (.ok desc, s) =>
          let copied := copyBuffer env s "Failed to copy buffer" desc.memoryType desc.memoryTypeId
            memoryType memoryTypeId desc.byteSize desc.address (buffer.advance outputBufferOffset)
            copyOnStream
          match copied.error with
          | some error => { copied with error := some error }
          | none =>
              readInputBuffers inputName input buffer memoryType memoryTypeId copyOnStream copied.sys
                copied.cudaUsed (outputBufferOffset + desc.byteSize) (b + 1) count

/-- `cudaUsed` is what the caller's flag holds before the call. -/
def readInputTensor (s : Sys) (request : Request) (inputName : String) (buffer : Address)
    (bufferByteSize : Nat) (memoryType : MemoryType) (memoryTypeId : Int) (cudaUsed : Bool)
    (hostPolicyName : Option String) (copyOnStream : Bool) : ReadResult :=
  match requestInput env [request] s 0 inputName with
  | (.error error, s) => { error := some error, bufferByteSize, cudaUsed, sys := s }
  | (.ok input, s) =>
      match inputProperties env s inputName (some (input.forHostPolicy policies hostPolicyName)) with
      | (.error error, s) => { error := some error, bufferByteSize, cudaUsed, sys := s }
      | (.ok input, s) =>
          if input.byteSize ≤ bufferByteSize then
            let read := readInputBuffers env inputName input buffer memoryType memoryTypeId
              copyOnStream s cudaUsed 0 0 input.buffers.length
            match read.error with
            | some error => {
                error := some error, bufferByteSize, cudaUsed := read.cudaUsed, sys := read.sys }
            | none => {
                error := none, bufferByteSize := input.byteSize, cudaUsed := read.cudaUsed
                sys := read.sys }
          else {
            error := errorNew .invalidArg (getRequestId request ++
              "buffer too small for input tensor '" ++ inputName ++ "', " ++
              toString bufferByteSize ++ " < " ++ toString input.byteSize)
            bufferByteSize, cudaUsed, sys := s }

/-- The overload for CPU memory. It does not pass `hostPolicyName` on, and nothing reads the flag
that it passes. -/
def readInputTensorCpu (s : Sys) (request : Request) (inputName : String) (buffer : Address)
    (bufferByteSize : Nat) (_hostPolicyName : Option String) : ReadResult :=
  readInputTensor env policies s request inputName buffer bufferByteSize .cpu 0 false none false

end

end TritonBackend
