import TritonBackend.Gathering
import TritonBackend.IteratorChunks

/-!
`ProcessTensor` without a given buffer. A scan of every buffer of the batch sizes the tensor
and decides whether it can be used where it lies; otherwise the iterator's chunks are
gathered into a new buffer. Both visit the same bytes unless the iterator stops early.
-/

namespace TritonBackend

open CopyStream

def adjoins (desc : MemoryDesc) : List MemoryDesc → Bool
  | [] => true
  | next :: rest =>
      continues desc next &&
        adjoins { desc with byteSize := desc.byteSize + next.byteSize } rest

/-- The null pointers at the front. The scan forgets one when another buffer follows it. -/
def forgotten : List MemoryDesc → List MemoryDesc
  | desc :: next :: rest => if desc.buffer = 0 then desc :: forgotten (next :: rest) else []
  | _ => []

def counted : List MemoryDesc → List MemoryDesc
  | desc :: next :: rest =>
      if desc.buffer = 0 then counted (next :: rest) else desc :: next :: rest
  | descs => descs

/-- What the scan forgets holds no bytes. -/
def countsAll (descs : List MemoryDesc) : Bool :=
  (forgotten descs).all fun desc => desc.byteSize == 0

/-- The input is used where it lies: all the buffers that the scan counts are one stretch of
memory of an allowed kind. -/
def zeroCopies (coalesce : Bool) (allowedInputTypes : List (MemoryType × Int))
    (descs : List MemoryDesc) : Bool :=
  match counted descs with
  | [] => false
  | first :: rest =>
      (rest.isEmpty || coalesce && adjoins first rest) &&
        (first.byteSize + bufferByteSize rest ≠ 0 &&
          allowedInputTypes.contains (first.memoryType, first.memoryTypeId))

/-- Every buffer behind the point where the iterator stops is empty. -/
def reachesAll (coalesce : Bool) (inputs : List (List MemoryDesc)) : Bool :=
  (unreached coalesce true inputs).flatten.all fun desc => desc.byteSize == 0

@[simp] theorem bufferByteSize_nil : bufferByteSize [] = 0 := rfl

@[simp] theorem bufferByteSize_cons (desc : MemoryDesc) (rest : List MemoryDesc) :
    bufferByteSize (desc :: rest) = desc.byteSize + bufferByteSize rest := rfl

theorem bufferByteSize_append (first second : List MemoryDesc) :
    bufferByteSize (first ++ second) = bufferByteSize first + bufferByteSize second := by
  simp [bufferByteSize]

theorem bufferByteSize_eq_zero {descs : List MemoryDesc} :
    bufferByteSize descs = 0 ↔ (descs.all fun desc => desc.byteSize == 0) = true := by
  induction descs with
  | nil => simp
  | cons desc rest ih => simp [ih, Nat.add_eq_zero_iff]

theorem forgotten_append_counted (descs : List MemoryDesc) :
    forgotten descs ++ counted descs = descs := by
  induction descs with
  | nil => rfl
  | cons desc rest ih =>
      cases rest with
      | nil => rfl
      | cons next rest =>
          simp only [forgotten, counted]
          split
          · rw [List.cons_append, ih]
          · rfl

theorem bufferByteSize_counted (descs : List MemoryDesc) :
    bufferByteSize (forgotten descs) + bufferByteSize (counted descs) = bufferByteSize descs := by
  rw [← bufferByteSize_append, forgotten_append_counted]

theorem bufferBytes_empty (memory : Memory Block UInt8) {descs : List MemoryDesc}
    (none : bufferByteSize descs = 0) : bufferBytes memory descs = [] :=
  List.length_eq_zero_iff.mp ((length_bufferBytes memory descs).trans none)

theorem countsAll_iff {descs : List MemoryDesc} :
    countsAll descs = true ↔ bufferByteSize (counted descs) = bufferByteSize descs := by
  have split := bufferByteSize_counted descs
  rw [countsAll, ← bufferByteSize_eq_zero]
  omega

theorem bufferBytes_counted (memory : Memory Block UInt8) {descs : List MemoryDesc}
    (counts : countsAll descs = true) : bufferBytes memory (counted descs) = bufferBytes memory descs := by
  rw [countsAll, ← bufferByteSize_eq_zero] at counts
  conv_rhs => rw [← forgotten_append_counted descs, bufferBytes_append, bufferBytes_empty _ counts]
  rfl

theorem bufferByteSize_counted_le (descs : List MemoryDesc) :
    bufferByteSize (counted descs) ≤ bufferByteSize descs := by
  have split := bufferByteSize_counted descs
  omega

theorem countsAll_of_sound {descs : List MemoryDesc} (sound : ∀ desc ∈ descs, desc.Sound) :
    countsAll descs = true := by
  induction descs with
  | nil => rfl
  | cons desc rest ih =>
      cases rest with
      | nil => rfl
      | cons next later =>
          have counts := ih fun other member => sound other (List.mem_cons_of_mem _ member)
          simp only [countsAll, forgotten] at counts ⊢
          split
          next null => simp [sound desc List.mem_cons_self null, counts]
          next => rfl

theorem adjoins_bytes (memory : Memory Block UInt8) {desc : MemoryDesc} {rest : List MemoryDesc}
    (adjoined : adjoins desc rest = true) :
    valuesAt memory desc.address (desc.byteSize + bufferByteSize rest) =
      bufferBytes memory (desc :: rest) := by
  induction rest generalizing desc with
  | nil => simp
  | cons next rest ih =>
      obtain ⟨same, later⟩ := Bool.and_eq_true_iff.mp adjoined
      have joined := ih later
      have pair := continues_bytes memory same
      simp only [bufferBytes_cons, bufferByteSize_cons, ← List.append_assoc, ← Nat.add_assoc] at joined ⊢
      rw [← pair]
      exact joined

/-! The scan, once every lookup succeeds. -/

section
variable (env : Env) (cfg : CollectorConfig)

theorem scanBuffers_eq {inputName : String} (looks : LooksUp env cfg.requests inputName)
    (request : Nat) (input : Input) (scan : ContiguousScan) (s : Sys) (idx : Nat)
    (descs : List MemoryDesc) (ahead : input.buffers.drop idx = descs) :
    let scanned := scanBuffers env cfg inputName request (some input) scan s idx descs.length
    scanned.1 = descs.foldl (scanBuffer cfg) scan ∧ ∃ tick, scanned.2 = { s with tick } := by
  induction descs generalizing scan s idx with
  | nil => exact ⟨rfl, s.tick, rfl⟩
  | cons desc later ih =>
      have present : input.buffers[idx]? = some desc := by
        rw [← List.head?_drop, ahead]
        rfl
      have looked : scanLookup env inputName request (some input) s idx =
          (desc, { s with tick := s.tick + 1 }) := by
        simp [scanLookup, inputBuffer, call_eq, looks.buffered, present]
      have behind : input.buffers.drop (idx + 1) = later := by
        rw [← List.tail_drop, ahead, List.tail_cons]
      simp only [List.length_cons, scanBuffers, looked, List.foldl_cons]
      exact ih (scanBuffer cfg scan desc) { s with tick := s.tick + 1 } (idx + 1) behind

theorem scanRequest_eq {inputName : String} (looks : LooksUp env cfg.requests inputName)
    (scan : ContiguousScan) (s : Sys) {idx : Nat} {request : Request}
    (present : cfg.requests[idx]? = some request) :
    let scanned := scanRequest env cfg inputName scan s idx
    scanned.1 = (requestBuffers inputName request).foldl (scanBuffer cfg) scan ∧
      ∃ tick, scanned.2 = { s with tick } := by
  obtain ⟨input, held⟩ := Option.isSome_iff_exists.mp
    (looks.named request (List.mem_of_getElem? present))
  have handle : scanHandle env cfg inputName s idx =
      (some input, { s with tick := s.tick + 1 }) := by
    simp [scanHandle, requestInput, call_eq, looks.found, present, held]
  have count : scanCount env inputName idx (some input) { s with tick := s.tick + 1 } =
      (input.buffers.length, { s with tick := s.tick + 2 }) := by
    simp [scanCount, inputProperties, call_eq, looks.described]
  obtain ⟨scanned, tick, sys⟩ := scanBuffers_eq env cfg looks idx input scan
    { s with tick := s.tick + 2 } 0 _ rfl
  rw [List.drop_zero] at scanned sys
  simp only [scanRequest, handle, count]
  exact ⟨scanned.trans (by rw [requestBuffers_of_input held]), tick, sys⟩

theorem scanRequestsFrom_eq {inputName : String} (looks : LooksUp env cfg.requests inputName)
    (scan : ContiguousScan) (s : Sys) (idx : Nat) (requests : List Request)
    (ahead : cfg.requests.drop idx = requests) :
    let scanned := scanRequestsFrom env cfg inputName scan s idx requests.length
    scanned.1 = (requests.map (requestBuffers inputName)).flatten.foldl (scanBuffer cfg) scan ∧
      ∃ tick, scanned.2 = { s with tick } := by
  induction requests generalizing scan s idx with
  | nil => exact ⟨rfl, s.tick, rfl⟩
  | cons request later ih =>
      have present : cfg.requests[idx]? = some request := by
        rw [← List.head?_drop, ahead]
        rfl
      have behind : cfg.requests.drop (idx + 1) = later := by
        rw [← List.tail_drop, ahead, List.tail_cons]
      obtain ⟨first, tick, sys⟩ := scanRequest_eq env cfg looks scan s present
      simp only [List.length_cons, scanRequestsFrom, List.map_cons, List.flatten_cons,
        List.foldl_append, ← first]
      obtain ⟨rest, tick', sys'⟩ := ih (scanRequest env cfg inputName scan s idx).1
        (scanRequest env cfg inputName scan s idx).2 (idx + 1) behind
      exact ⟨rest, tick', sys'.trans (by rw [sys])⟩

theorem getInputBufferIfContiguous_eq {inputName : String}
    (looks : LooksUp env cfg.requests inputName) (kept : MemoryDesc) (s : Sys) :
    let scanned := getInputBufferIfContiguous env cfg inputName kept s
    scanned.1 = (cfg.requests.map (requestBuffers inputName)).flatten.foldl (scanBuffer cfg)
        { desc := { kept with buffer := 0, byteSize := 0 }, expectedNextBuffer := 0,
          contiguous := true } ∧
      ∃ tick, scanned.2 = { s with tick } :=
  scanRequestsFrom_eq env cfg looks _ s 0 cfg.requests rfl

theorem scan_behind (scan : ContiguousScan) (found : scan.desc.buffer ≠ 0)
    (ends : scan.contiguous = true →
      scan.expectedNextBuffer = scan.desc.buffer + scan.desc.byteSize) (descs : List MemoryDesc) :
    let scanned := descs.foldl (scanBuffer cfg) scan
    scanned.contiguous = (scan.contiguous &&
        (descs.isEmpty || cfg.coalesceRequestInput && adjoins scan.desc descs)) ∧
      scanned.desc = { scan.desc with byteSize := scan.desc.byteSize + bufferByteSize descs } := by
  induction descs generalizing scan with
  | nil => simp
  | cons next rest ih =>
      obtain ⟨desc, expected, contiguous⟩ := scan
      simp only at found ends
      simp only [List.foldl_cons, scanBuffer, if_pos found]
      split
      next same =>
        simp only [Bool.and_eq_true, beq_iff_eq] at same
        obtain ⟨contiguity, size⟩ := ih {
            desc := { desc with byteSize := desc.byteSize + next.byteSize }
            expectedNextBuffer := expected + next.byteSize
            contiguous } found (fun held => by
          have start := ends held
          simp only
          omega)
        refine ⟨contiguity.trans ?_, size.trans (by simp [Nat.add_assoc])⟩
        cases contiguous with
        | false => rfl
        | true =>
            have start := ends rfl
            have joined : continues desc next = true := by
              simp [continues, ← start, same]
            cases rest <;> simp [adjoins, joined, same]
      next other =>
        obtain ⟨contiguity, size⟩ := ih {
            desc := { desc with byteSize := desc.byteSize + next.byteSize }
            expectedNextBuffer := expected
            contiguous := false } found (fun held => by cases held)
        refine ⟨contiguity.trans ?_, size.trans (by simp [Nat.add_assoc])⟩
        cases contiguous with
        | false => rfl
        | true =>
            have start := ends rfl
            cases coalesces : cfg.coalesceRequestInput with
            | false => simp
            | true =>
                have parts : continues desc next = false := by
                  simp [coalesces] at other
                  simp [continues, ← start]
                  tauto
                simp [adjoins, parts]

/-- The scan decides as `zeroCopies` says, and sizes the tensor by the buffers it counts. -/
theorem scan_zeroCopies (allowedInputTypes : List (MemoryType × Int)) (descs : List MemoryDesc)
    (scan : ContiguousScan) (unset : scan.desc.buffer = 0)
    (empty : descs = [] → scan.desc.byteSize = 0) (contiguous : scan.contiguous = true) :
    let scanned := descs.foldl (scanBuffer cfg) scan
    scanned.desc.byteSize = bufferByteSize (counted descs) ∧
      (scanned.contiguous && scanned.desc.byteSize ≠ 0 &&
        allowedInputTypes.contains (scanned.desc.memoryType, scanned.desc.memoryTypeId)) =
          zeroCopies cfg.coalesceRequestInput allowedInputTypes descs ∧
      (zeroCopies cfg.coalesceRequestInput allowedInputTypes descs = true → ∀ memory,
        valuesAt memory scanned.desc.address scanned.desc.byteSize =
          bufferBytes memory (counted descs)) := by
  induction descs generalizing scan with
  | nil => simp [zeroCopies, counted, empty]
  | cons desc rest ih =>
      obtain ⟨before, expected, held⟩ := scan
      simp only at unset contiguous
      subst contiguous
      have start : scanBuffer cfg { desc := before, expectedNextBuffer := expected, contiguous := true }
          desc = { desc, expectedNextBuffer := desc.buffer + desc.byteSize, contiguous := true } := by
        simp [scanBuffer, unset]
      simp only [List.foldl_cons, start]
      cases rest with
      | nil => exact ⟨rfl, rfl, fun _ memory => by simp [counted]⟩
      | cons next later =>
          by_cases null : desc.buffer = 0
          · have dropped : counted (desc :: next :: later) = counted (next :: later) := if_pos null
            simp only [zeroCopies, dropped]
            exact ih _ null (fun none => absurd none (List.cons_ne_nil _ _)) rfl
          · have all : counted (desc :: next :: later) = desc :: next :: later := if_neg null
            generalize next :: later = rest at all ⊢
            obtain ⟨contiguity, size⟩ := scan_behind cfg {
                desc
                expectedNextBuffer := desc.buffer + desc.byteSize
                contiguous := true } null (fun _ => rfl) rest
            have kept : zeroCopies cfg.coalesceRequestInput allowedInputTypes (desc :: rest) =
                ((rest.isEmpty || cfg.coalesceRequestInput && adjoins desc rest) &&
                  (desc.byteSize + bufferByteSize rest ≠ 0 &&
                    allowedInputTypes.contains (desc.memoryType, desc.memoryTypeId))) := by
              simp only [zeroCopies, all]
            simp only [contiguity, size, kept, all, Bool.true_and]
            refine ⟨rfl, by rw [Bool.and_assoc], ?_⟩
            intro taken memory
            have adjoined : adjoins desc rest = true := by
              cases rest with
              | nil => rfl
              | cons next rest => simpa using (Bool.and_eq_true_iff.mp
                  ((Bool.and_eq_true_iff.mp taken).1)).2
            exact adjoins_bytes memory adjoined

/-! The new buffer. -/

theorem allocateAllowed_eq (place : Nat → Block) (byteSize : Nat) (s : Sys)
    (allowedInputTypes : List (MemoryType × Int)) :
    let allocated := allocateAllowed env place byteSize s allowedInputTypes
    (∃ tick memory, allocated = (some memory, { s with tick, nextBlock := s.nextBlock + 1 }) ∧
        memory.memoryPtr = { block := place s.nextBlock, offset := 0 } ∧
        memory.byteSize = byteSize ∧
        (memory.memoryType, memory.memoryTypeId) ∈ allowedInputTypes) ∨
      ∃ tick, allocated = (none, { s with tick }) := by
  induction allowedInputTypes generalizing s with
  | nil => exact Or.inr ⟨s.tick, rfl⟩
  | cons pair rest ih =>
      obtain ⟨memoryType, memoryTypeId⟩ := pair
      simp only [allocateAllowed]
      rcases createBackendMemory_sys env s place (allocationTypes memoryType) memoryTypeId byteSize with
        ⟨tick, allocType, member, created⟩ | ⟨tick, error, created⟩
      · have sameType : allocType.memoryType = memoryType := by
          cases memoryType <;> simp [allocationTypes] at member <;> rcases member with rfl | rfl <;> rfl
        simp only [created]
        refine Or.inl ⟨tick, _, rfl, rfl, rfl, ?_⟩
        simp [BackendMemory.memoryType, sameType]
      · simp only [created]
        rcases ih { s with tick } with ⟨tick', memory, same, address, size, allowed⟩ | ⟨tick', same⟩
        · exact Or.inl ⟨tick', memory, same, address, size, List.mem_cons_of_mem _ allowed⟩
        · exact Or.inr ⟨tick', same⟩

theorem Collector.Calm.idle {c : Collector} (calm : c.Calm cfg) {s : Sys} (idle : c.toSys.Idles s) :
    (c.withSys s).Calm cfg := by
  have device : s.device = c.device := by rw [Sys.device, Sys.device, idle.2]
  refine ⟨calm.pinned, calm.kernel, ⟨calm.tidy.pinnedSized, calm.tidy.pinnedFits,
    calm.tidy.kernelSized, calm.tidy.kernelCounted, calm.tidy.kernelIdle, calm.tidy.kernelFits,
    calm.tidy.drains, calm.tidy.owed, calm.tidy.alone⟩, ?_, ?_⟩
  · rw [toSys_withSys, device]
    exact calm.synced.settled
  · rw [toSys_withSys, device]
    exact calm.synced.recorded

theorem admit_carries (s : Sys) (tick : Nat) {tensor : Tensor}
    (place : tensor.buffer.block = .gathered s.nextBlock) (chunks : List ContiguousBuffer)
    (rest : List (Job Block Nat)) :
    s.Carries True rest { s with tick, nextBlock := s.nextBlock + 1 }
      (tensorJobs tensor 0 chunks ++ rest) := by
  have reroutes : Reroute (V := UInt8) IsStaging blockAge True s.nextBlock (s.nextBlock + 1) []
      (tensorJobs tensor 0 chunks) := by
    refine ⟨?_, ?_, ?_, ?_, ?_, Nat.le_succ _, ?_⟩
    · simp
    · intro _
      exact tensorJobs_apart tensor 0 chunks
    · intro _ job member block position written
      rw [(tensorJobs_inside member written).1, place]
      exact Or.inl (Nat.lt_succ_self _)
    · intro job member
      obtain ⟨before, input, after, _, _, rfl⟩ := mem_tensorJobs.mp member
      refine ⟨?_, Nat.zero_le _⟩
      simp only [chunkJob, chunkTransfer, advance_block, place]
      exact Nat.le_refl _
    · intro job member staging
      obtain ⟨before, input, after, _, _, rfl⟩ := mem_tensorJobs.mp member
      simp only [chunkJob, chunkTransfer, advance_block, place] at staging
      obtain ⟨n, same⟩ := staging
      cases same
    · intro _ origin member
      cases member
  exact Sys.Carries.reroute s tick rest reroutes

theorem inputs_untouched {s done : Sys} (fresh : s.log = []) {calls : List TensorCall}
    (supplied : ∀ call ∈ calls, call.tensor.Supplied)
    (carries : s.Carries True (callJobs calls) done []) (initial : Memory Block UInt8)
    (memoryType : MemoryType) (memoryTypeId position : Int) :
    done.device.memory initial (.input memoryType memoryTypeId) position =
      initial (.input memoryType memoryTypeId) position := by
  refine plan_untouched initial fresh carries (Nat.zero_le _) ?_
  intro job member written
  obtain ⟨call, present, inside⟩ := List.mem_flatMap.mp member
  obtain ⟨n, place⟩ := supplied call present
  have same := (tensorJobs_inside inside written).1
  rw [place] at same
  cases same

/-! What the call promises. -/

/-- The tensor holds the buffers one behind the other, in memory of an allowed kind. -/
structure TensorGathered (descs : List MemoryDesc) (allowedInputTypes : List (MemoryType × Int))
    (initial : Memory Block UInt8) (dst : Tensor) (done : Sys) : Prop where
  sized : dst.byteSize = bufferByteSize descs
  held : valuesAt (done.device.memory initial) dst.buffer dst.byteSize = bufferBytes initial descs
  allowed : (dst.memoryType, dst.memoryTypeId) ∈ allowedInputTypes

theorem inputOnes_bytes (descs : List MemoryDesc) :
    bufferBytes inputOnes descs = List.replicate (bufferByteSize descs) 1 := by
  induction descs with
  | nil => rfl
  | cons desc rest ih =>
      have ones : valuesAt inputOnes desc.address desc.byteSize = List.replicate desc.byteSize 1 := by
        simp [valuesAt, inputOnes, MemoryDesc.address, List.map_const']
      rw [bufferBytes_cons, ih, ones, bufferByteSize_cons, List.replicate_add]

/-- The copying path. The iterator's chunks are carried to the new buffer from its allocation on. -/
theorem newTensor_carries (kernel : env.runGatherKernel = gatherSegments)
    (sync : cfg.useAsyncCpuCopy = false) {inputName : String}
    (looks : LooksUp env cfg.requests inputName) (batch : cfg.requests ≠ [])
    {after : List TensorCall} (supplied : ∀ call ∈ after, call.tensor.Supplied) {c : Collector}
    (calm : c.Calm cfg) (numbered : (c.toSys.courier
      (c.deferredPinned.map drainJob ++ callJobs after)).Numbered blockAge) (tick : Nat)
    {tensor : Tensor} (place : tensor.buffer = { block := .gathered c.nextBlock, offset := 0 }) :
    let jobs := tensorJobs tensor 0 (inputChunks cfg.coalesceRequestInput inputName cfg.requests) ++
      (c.deferredPinned.map drainJob ++ callJobs after)
    let ready := c.withSys { c.toSys with tick, nextBlock := c.nextBlock + 1 }
    let done := closeCollector env cfg (processTensor env cfg inputName tensor ready) after
    c.toSys.Carries True (c.deferredPinned.map drainJob ++ callJobs after) ready.toSys jobs ∧
      ready.toSys.Carries True jobs done [] ∧ done.device.queue = [] := by
  intro jobs ready done
  have block : tensor.buffer.block = .gathered c.nextBlock := by rw [place]
  have admitted : c.toSys.Carries True (c.deferredPinned.map drainJob ++ callJobs after)
    ready.toSys jobs := admit_carries c.toSys tick block _ _
  have calmReady : ready.Calm cfg := calm.idle cfg
    ⟨(Sys.Step.count c.toSys tick (c.nextBlock + 1) (Nat.le_succ _)).reaches, rfl⟩
  have placed : tensor.Placed ready.toSys := by
    constructor
    · rintro ⟨n, same⟩
      rw [block] at same
      cases same
    · rw [block]
      exact Nat.le_refl _
  obtain ⟨filled, run, shape⟩ := processTensor_run looks batch tensor ready
  have swapped : ready.toSys.Carries True jobs ready.toSys (ready.deferredPinned.map drainJob ++
      (tensorJobs tensor 0 (inputChunks cfg.coalesceRequestInput inputName cfg.requests) ++
        callJobs after)) := by
    refine Sys.Carries.shuffle _ ?_
    simp only [jobs, ← List.append_assoc]
    exact List.perm_append_comm.append_right _
  have numberedReady := Sys.Carries.numbered True swapped
    (Sys.Carries.numbered True admitted numbered)
  obtain ⟨gathers, calmAfter⟩ := tensor_carries env cfg True sync run calmReady placed numberedReady
    (fun launch _ _ => gatherSegments_performs env True kernel launch.1)
  obtain ⟨closes, settled⟩ := closeCollector_carries env cfg True sync calmAfter
    (fun call member => (supplied call member).placed _)
    (Sys.Carries.numbered True gathers numberedReady)
    (fun call _ launch _ _ => gatherSegments_performs env True kernel launch.1)
  rw [← shape] at gathers closes settled
  exact ⟨admitted, swapped.trans (gathers.trans closes), settled⟩

theorem newTensor_held (kernel : env.runGatherKernel = gatherSegments)
    (sync : cfg.useAsyncCpuCopy = false) {inputName : String}
    (looks : LooksUp env cfg.requests inputName) (batch : cfg.requests ≠ []) {s : Sys}
    (fresh : s.log = []) {before after : List TensorCall}
    (supplied : ∀ call ∈ before ++ after, call.tensor.Supplied)
    (apart : (before ++ after).Pairwise fun first second => first.tensor.Apart second.tensor)
    {c : Collector} (calm : c.Calm cfg)
    (reached : s.Carries True (callJobs (before ++ after)) c.toSys
      (c.deferredPinned.map drainJob ++ callJobs after)) (tick : Nat) {tensor : Tensor}
    (place : tensor.buffer = { block := .gathered c.nextBlock, offset := 0 }) :
    let chunks := inputChunks cfg.coalesceRequestInput inputName cfg.requests
    let ready := c.withSys { c.toSys with tick, nextBlock := c.nextBlock + 1 }
    let done := closeCollector env cfg (processTensor env cfg inputName tensor ready) after
    totalByteSize chunks ≤ tensor.byteSize → (∀ transfer, .failedCopy transfer ∉ done.log) →
    ∀ initial, valuesAt (done.device.memory initial) tensor.buffer (totalByteSize chunks) =
      bufferBytes initial (chunks.map ContiguousBuffer.memoryDesc) := by
  intro chunks ready done fits success initial
  have numbered := callJobs_numbered fresh fun call member => (supplied call member).placed s
  obtain ⟨admitted, carries, settled⟩ := newTensor_carries env cfg kernel sync looks batch
    (fun call member => supplied call (List.mem_append_right _ member)) calm
    (Sys.Carries.numbered True reached numbered) tick place
  refine placed_bytes ?_
  intro first input last split index bound
  have inside : input ∈ chunks := by simp [split]
  obtain ⟨idx, range⟩ := inputChunks_range inside
  have planned : chunkJob input (tensor.buffer.advance (totalByteSize first)) ∈
      tensorJobs tensor 0 chunks := by
    refine mem_tensorJobs.mpr ⟨first, input, last, split, ?_, by rw [Nat.zero_add]⟩
    rw [split, totalByteSize_append, totalByteSize_cons] at fits
    omega
  have live : ¬ done.Lost idx := by
    rintro ⟨_, transfer, failed⟩
    exact success transfer failed
  have delivered := midway_delivered initial (by rw [fresh_device fresh]; rfl)
    ⟨numbered, callJobs_apart apart⟩ (reached.trans admitted) carries settled (List.mem_append_left _ planned) range live
    (Nat.zero_le _) (by
      intro other present position written
      obtain ⟨call, member, within⟩ := List.mem_flatMap.mp present
      obtain ⟨n, tensorBlock⟩ := supplied call member
      have same := (tensorJobs_inside within written).1
      rw [tensorBlock] at same
      cases same) bound
  rw [fresh_memory fresh] at delivered
  simpa [chunkJob, chunkTransfer] using delivered

theorem newTensor_behind (kernel : env.runGatherKernel = gatherSegments)
    (sync : cfg.useAsyncCpuCopy = false) {inputName : String}
    (looks : LooksUp env cfg.requests inputName) (batch : cfg.requests ≠ [])
    {after : List TensorCall} (supplied : ∀ call ∈ after, call.tensor.Supplied) {c : Collector}
    (calm : c.Calm cfg) (numbered : (c.toSys.courier
      (c.deferredPinned.map drainJob ++ callJobs after)).Numbered blockAge) (tick : Nat)
    {tensor : Tensor} (place : tensor.buffer = { block := .gathered c.nextBlock, offset := 0 })
    (initial : Memory Block UInt8) {index : Nat}
    (behind : totalByteSize (inputChunks cfg.coalesceRequestInput inputName cfg.requests) ≤ index) :
    let ready := c.withSys { c.toSys with tick, nextBlock := c.nextBlock + 1 }
    let done := closeCollector env cfg (processTensor env cfg inputName tensor ready) after
    done.device.memory initial tensor.buffer.block index = initial tensor.buffer.block index := by
  obtain ⟨_, carries, _⟩ := newTensor_carries env cfg kernel sync looks batch supplied calm numbered
    tick place
  refine midway_untouched initial carries (by rw [place]; exact Nat.le_refl _) ?_
  intro effect member written
  have old (known : effect ∈ issued c.actions ++
      (c.deferredPinned.map drainJob ++ callJobs after).map Job.effect) : False := by
    have bound := (numbered effect known).1
    rw [← written.1, place] at bound
    exact Nat.not_succ_le_self _ bound
  simp only [List.map_append, List.mem_append] at member old
  rcases member with issuedBefore | planned | rest
  · exact old (Or.inl issuedBefore)
  · obtain ⟨job, present, rfl⟩ := List.mem_map.mp planned
    obtain ⟨first, input, last, split, _, rfl⟩ := mem_tensorJobs.mp present
    have upper := ((writes_iff _ _ _).mp written).2.2
    simp only [chunkJob, chunkTransfer, advance_offset, place] at upper
    rw [split, totalByteSize_append, totalByteSize_cons] at behind
    omega
  · exact old (Or.inr rest)

theorem inputChunks_byteSize (coalesce : Bool) (inputName : String) (requests : List Request) :
    bufferByteSize (batchBuffers inputName requests).flatten =
      totalByteSize (inputChunks coalesce inputName requests) +
        bufferByteSize (unreached coalesce true (batchBuffers inputName requests)).flatten := by
  have same := congrArg List.length (inputChunks_bytes inputOnes coalesce inputName requests)
  simpa only [List.length_append, length_bufferBytes, ← totalByteSize_eq] using same

/-- A call that succeeds uses the input where it lies or fills a new buffer. -/
theorem processTensorDst_eq {inputName : String} (looks : LooksUp env cfg.requests inputName)
    (bufferByteSize' : Nat) (allowedInputTypes : List (MemoryType × Int)) (kept : MemoryDesc)
    (c : Collector) {gathered : Gathered}
    (result : processTensorDst env cfg inputName none bufferByteSize' allowedInputTypes kept c =
      gathered) (success : gathered.error = none) :
    let descs := (batchBuffers inputName cfg.requests).flatten
    gathered.dst.byteSize = bufferByteSize (counted descs) ∧
      (gathered.dst.memoryType, gathered.dst.memoryTypeId) ∈ allowedInputTypes ∧
      ((zeroCopies cfg.coalesceRequestInput allowedInputTypes descs = true ∧
        (∃ memoryType memoryTypeId, gathered.dst.buffer.block = .input memoryType memoryTypeId) ∧
        (∀ memory, valuesAt memory gathered.dst.buffer gathered.dst.byteSize =
          bufferBytes memory (counted descs)) ∧
        ∃ tick, gathered.collector = c.withSys { c.toSys with tick }) ∨
      (zeroCopies cfg.coalesceRequestInput allowedInputTypes descs = false ∧
        gathered.dst.buffer = { block := .gathered c.nextBlock, offset := 0 } ∧
        ∃ tick, gathered.collector = (fillTensor env cfg inputName gathered.dst
          (c.withSys { c.toSys with tick, nextBlock := c.nextBlock + 1 })).collector)) := by
  obtain ⟨scan, tick, sys⟩ := getInputBufferIfContiguous_eq env cfg looks kept c.toSys
  obtain ⟨size, decides, bytes⟩ := scan_zeroCopies cfg allowedInputTypes _
    { desc := { kept with buffer := 0, byteSize := 0 }, expectedNextBuffer := 0,
      contiguous := true } rfl (fun _ => rfl) rfl
  rw [← scan] at size decides bytes
  simp only [processTensorDst] at result
  generalize getInputBufferIfContiguous env cfg inputName kept c.toSys = scanned
    at result scan sys size decides bytes
  split at result
  · subst result
    cases success
  split at result
  next taken =>
    subst result
    rw [decides] at taken
    have allowed := decides.trans taken
    simp only [Bool.and_eq_true, List.contains_iff_mem] at allowed
    exact ⟨size, allowed.2, Or.inl ⟨taken, ⟨_, _, rfl⟩, bytes taken, tick, by rw [sys]⟩⟩
  next refused =>
    rw [decides, Bool.not_eq_true] at refused
    rw [toSys_withSys, sys] at result
    rcases allocateAllowed_eq env .gathered scanned.1.desc.byteSize { c.toSys with tick }
      allowedInputTypes with ⟨tick', memory, allocated, address, held, allowed⟩ | ⟨tick', allocated⟩
    · rw [allocated] at result
      subst result
      exact ⟨held.trans size, allowed, Or.inr ⟨refused, address, tick', rfl⟩⟩
    · rw [allocated] at result
      subst result
      cases success

theorem fillTensor_collector (inputName : String) {tensor : Tensor} (some : tensor.byteSize ≠ 0)
    (c : Collector) : (fillTensor env cfg inputName tensor c).collector =
      processTensor env cfg inputName tensor c := if_pos some

theorem not_gathered_of_unreached (kernel : env.runGatherKernel = gatherSegments)
    (sync : cfg.useAsyncCpuCopy = false) {inputName : String}
    (looks : LooksUp env cfg.requests inputName) {after : List TensorCall}
    (supplied : ∀ call ∈ after, call.tensor.Supplied) {c : Collector} (calm : c.Calm cfg)
    (numbered : (c.toSys.courier
      (c.deferredPinned.map drainJob ++ callJobs after)).Numbered blockAge) (bufferByteSize' : Nat)
    (allowedInputTypes : List (MemoryType × Int)) (kept : MemoryDesc) {gathered : Gathered}
    (result : processTensorDst env cfg inputName none bufferByteSize' allowedInputTypes kept c =
      gathered) (success : gathered.error = none)
    (refused : zeroCopies cfg.coalesceRequestInput allowedInputTypes
      (batchBuffers inputName cfg.requests).flatten = false)
    (stops : reachesAll cfg.coalesceRequestInput (batchBuffers inputName cfg.requests) = false) :
    ¬ TensorGathered (batchBuffers inputName cfg.requests).flatten allowedInputTypes inputOnes
      gathered.dst (closeCollector env cfg gathered.collector after) := by
  intro delivered
  have size := delivered.sized
  obtain ⟨-, _, ⟨taken, _⟩ | ⟨_, address, tick, filled⟩⟩ := processTensorDst_eq env cfg looks
    bufferByteSize' allowedInputTypes kept c result success
  · exact absurd (refused.symm.trans taken) Bool.false_ne_true
  have total := inputChunks_byteSize cfg.coalesceRequestInput inputName cfg.requests
  have some : bufferByteSize (unreached cfg.coalesceRequestInput true
      (batchBuffers inputName cfg.requests)).flatten ≠ 0 := by
    intro none
    exact absurd (stops.symm.trans (bufferByteSize_eq_zero.mp none)) Bool.false_ne_true
  have batch : cfg.requests ≠ [] := by
    intro none
    simp [none, unreached] at some
  have bytes : gathered.dst.byteSize ≠ 0 := by omega
  rw [fillTensor_collector env cfg inputName bytes] at filled
  have still := newTensor_behind env cfg kernel sync looks batch supplied calm numbered tick address
    inputOnes (Nat.le_refl _)
  simp only [← filled] at still
  have ones := delivered.held
  rw [inputOnes_bytes, size, List.eq_replicate_iff] at ones
  have missed := ones.2 _ (List.mem_map_of_mem (List.mem_range.mpr (show
    totalByteSize (inputChunks cfg.coalesceRequestInput inputName cfg.requests) <
      bufferByteSize (batchBuffers inputName cfg.requests).flatten by omega)))
  simp only [address, Int.zero_add] at missed still
  have zero : (0 : UInt8) = 1 := still.symm.trans missed
  exact absurd zero (by decide)

/-- The tensor holds the whole input exactly when the scan counts every byte and the iterator
visits them. -/
theorem tensorGathered_iff (kernel : env.runGatherKernel = gatherSegments)
    (sync : cfg.useAsyncCpuCopy = false) {inputName : String}
    (looks : LooksUp env cfg.requests inputName) {s : Sys} (fresh : s.log = [])
    (bufferReadyEvent : Bool) {before after : List TensorCall}
    (supplied : ∀ call ∈ before ++ after, call.tensor.Supplied)
    (apart : (before ++ after).Pairwise fun first second => first.tensor.Apart second.tensor)
    (bufferByteSize' : Nat) (allowedInputTypes : List (MemoryType × Int)) (kept : MemoryDesc)
    {gathered : Gathered}
    (result : processTensorDst env cfg inputName none bufferByteSize' allowedInputTypes kept
      (gatherTensors env cfg (Collector.create s bufferReadyEvent) before) = gathered)
    (success : gathered.error = none)
    (arrives : ∀ transfer,
      .failedCopy transfer ∉ (closeCollector env cfg gathered.collector after).log) :
    (∀ initial, TensorGathered (batchBuffers inputName cfg.requests).flatten allowedInputTypes
        initial gathered.dst (closeCollector env cfg gathered.collector after)) ↔
      countsAll (batchBuffers inputName cfg.requests).flatten = true ∧
        (zeroCopies cfg.coalesceRequestInput allowedInputTypes
            (batchBuffers inputName cfg.requests).flatten = true ∨
          reachesAll cfg.coalesceRequestInput (batchBuffers inputName cfg.requests) = true) := by
  have numbered := callJobs_numbered fresh fun call member => (supplied call member).placed s
  have both : callJobs (before ++ after) = callJobs before ++ callJobs after := by simp [callJobs]
  have started := gatherTensors_carries env cfg True sync (calm_of_fresh cfg fresh bufferReadyEvent)
    (fun call member => (supplied call (List.mem_append_left _ member)).placed _) (both ▸ numbered)
    (fun call _ launch _ _ => gatherSegments_performs env True kernel launch.1)
  generalize gatherTensors env cfg (Collector.create s bufferReadyEvent) before = c
    at result started
  obtain ⟨reached, calm⟩ := started
  have start : s.Carries True (callJobs (before ++ after)) c.toSys
    (c.deferredPinned.map drainJob ++ callJobs after) := both ▸ reached
  have numberedMid := Sys.Carries.numbered True start numbered
  have suppliedAfter (call : TensorCall) (member : call ∈ after) : call.tensor.Supplied :=
    supplied call (List.mem_append_right _ member)
  constructor
  -- memory that is 1 in the inputs and 0 elsewhere shows a byte that was not reached
  · intro delivered
    refine ⟨?_, ?_⟩
    · have size := (processTensorDst_eq env cfg looks bufferByteSize' allowedInputTypes kept c result
        success).1
      exact countsAll_iff.mpr (size.symm.trans (delivered inputOnes).sized)
    by_contra neither
    rw [not_or, Bool.not_eq_true, Bool.not_eq_true] at neither
    exact not_gathered_of_unreached env cfg kernel sync looks suppliedAfter calm numberedMid
      bufferByteSize' allowedInputTypes kept result success neither.1 neither.2 (delivered inputOnes)
  rintro ⟨counts, covered⟩ initial
  obtain ⟨size, allowed, path⟩ := processTensorDst_eq env cfg looks bufferByteSize'
    allowedInputTypes kept c result success
  rw [countsAll_iff.mp counts] at size
  refine ⟨size, ?_, allowed⟩
  rcases path with ⟨_, ⟨memoryType, memoryTypeId, block⟩, same, tick, collector⟩ |
    ⟨refused, address, tick, filled⟩
  -- nothing writes the requests' memory, where the input is used in place
  · have idle := idles_tick c.toSys tick
    have waited : c.toSys.Carries True (c.deferredPinned.map drainJob ++ callJobs after)
      { c.toSys with tick } _ := Sys.Carries.idle idle.1 idle.2 _
    obtain ⟨closes, _⟩ := closeCollector_carries env cfg True sync (calm.idle cfg idle)
      (fun call member => (suppliedAfter call member).placed _)
      (Sys.Carries.numbered True waited numberedMid)
      (fun call _ launch _ _ => gatherSegments_performs env True kernel launch.1)
    rw [collector]
    refine (valuesAt_congr.mpr fun index _ => ?_).trans
      ((same initial).trans (bufferBytes_counted initial counts))
    rw [block]
    exact inputs_untouched fresh supplied (start.trans (waited.trans closes)) initial _ _ _
  -- what the iterator leaves out holds no bytes
  · have reaches := covered.resolve_left (by simp [refused])
    rw [reachesAll, ← bufferByteSize_eq_zero] at reaches
    have total := inputChunks_byteSize cfg.coalesceRequestInput inputName cfg.requests
    have bytes := inputChunks_bytes initial cfg.coalesceRequestInput inputName cfg.requests
    by_cases empty : gathered.dst.byteSize = 0
    · rw [empty, valuesAt_zero, bufferBytes_empty initial (size.symm.trans empty)]
    have batch : cfg.requests ≠ [] := by
      intro none
      exact empty (size.trans (by simp [none]))
    rw [fillTensor_collector env cfg inputName empty] at filled
    have held := newTensor_held env cfg kernel sync looks batch fresh supplied apart calm start tick
      address (by omega) (filled ▸ arrives) initial
    have whole : gathered.dst.byteSize =
        totalByteSize (inputChunks cfg.coalesceRequestInput inputName cfg.requests) := by
      omega
    rw [filled, whole, bytes, bufferBytes_empty initial reaches, List.append_nil]
    exact held

end

/-! Two batches whose buffers do not adjoin. -/

def hostBuffer (buffer byteSize : Nat) : MemoryDesc := {
  buffer, byteSize
  memoryType := .cpu
  memoryTypeId := 0 }

def inputRequest (buffers : List MemoryDesc) : Request := {
  id := ""
  inputs := [{ name := "INPUT", shape := [], buffers }]
  outputs := [] }

def firstBuffer : MemoryDesc := hostBuffer 4096 4

def lastBuffer : MemoryDesc := hostBuffer 8192 4

def pairConfig : CollectorConfig :=
  CollectorConfig.plain [inputRequest [firstBuffer], inputRequest [lastBuffer]]

def gapConfig : CollectorConfig :=
  CollectorConfig.plain [inputRequest [firstBuffer], inputRequest [], inputRequest [lastBuffer]]

def gatherInput (cfg : CollectorConfig) : Gathered :=
  processTensorDst (Env.successful gatherSegments) cfg "INPUT" none 0 [(.cpu, 0)]
    ContiguousBuffer.default.memoryDesc (Collector.create (Sys.fresh cfg.requests.length) false)

def finishInput (cfg : CollectorConfig) : Sys :=
  closeCollector (Env.successful gatherSegments) cfg (gatherInput cfg).collector []

theorem looksUp_successful {requests : List Request}
    (named : ∀ request ∈ requests, (request.input? "INPUT").isSome) :
    LooksUp (Env.successful gatherSegments) requests "INPUT" :=
  ⟨named, fun _ _ => rfl, fun _ => rfl, fun _ => rfl⟩

def Event.failed : Event → Bool
  | .failedCopy _ => true
  | _ => false

theorem pair_arrives :
    ∀ transfer, .failedCopy transfer ∉ (finishInput pairConfig).log := by
  have filled : (gatherInput pairConfig).collector =
      processTensor (Env.successful gatherSegments) pairConfig "INPUT" (gatherInput pairConfig).dst
        ((Collector.create (Sys.fresh 2) false).withSys
          { Sys.fresh 2 with tick := 7, nextBlock := 1 }) := rfl
  have none : (finishInput pairConfig).log.any Event.failed = false := by
    rw [finishInput, filled, processTensor, processTensorLoop, if_pos (by decide +kernel),
      processTensorLoop, if_pos (by decide +kernel), processTensorLoop, if_neg (by decide +kernel)]
    decide +kernel
  intro transfer member
  have failed := List.any_eq_false.mp none _ member
  exact failed rfl

theorem tensorGathered_pair :
    TensorGathered (batchBuffers "INPUT" pairConfig.requests).flatten [(.cpu, 0)] inputOnes
      (gatherInput pairConfig).dst (finishInput pairConfig) := by
  have looks : LooksUp (Env.successful gatherSegments) pairConfig.requests "INPUT" :=
    looksUp_successful (by decide)
  have supplied : ∀ call ∈ ([] ++ [] : List TensorCall), call.tensor.Supplied := by simp
  have gathered := (tensorGathered_iff (Env.successful gatherSegments) pairConfig rfl rfl looks rfl
    false supplied List.Pairwise.nil 0 [(.cpu, 0)] ContiguousBuffer.default.memoryDesc rfl rfl
    pair_arrives).mpr ⟨by decide, Or.inr (by decide)⟩
  exact gathered inputOnes

theorem not_tensorGathered_gap :
    ¬ ∀ initial, TensorGathered (batchBuffers "INPUT" gapConfig.requests).flatten [(.cpu, 0)] initial
      (gatherInput gapConfig).dst (finishInput gapConfig) := by
  intro delivered
  have looks : LooksUp (Env.successful gatherSegments) gapConfig.requests "INPUT" :=
    looksUp_successful (by decide)
  refine not_gathered_of_unreached (Env.successful gatherSegments) gapConfig rfl rfl looks (by simp)
    (calm_create gapConfig false rfl) (callJobs_numbered rfl (by simp)) 0 [(.cpu, 0)]
    ContiguousBuffer.default.memoryDesc rfl rfl (by decide) (by decide) (delivered inputOnes)

end TritonBackend
