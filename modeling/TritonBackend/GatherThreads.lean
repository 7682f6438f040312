import TritonBackend.CollectorKernel
import TritonBackend.LaidCopies
import TritonBackend.ThreadStores
import Mathlib.Algebra.Order.BigOperators.Group.List
import Mathlib.Algebra.Order.Ring.Nat
import Mathlib.Data.List.ProdSigma

/-!
The gather kernel thread by thread. A block of 512 threads copies one segment, four bytes at a
time when its size and both ends are multiples of four and else byte by byte; sizes, offsets
and loop counters are held in an `int`. Which thread copies a byte, and that all of them
are copied, is settled for any order of the threads.
-/

namespace TritonBackend

open CopyStream

def threadblockSize : Nat := 512

instance : NeZero threadblockSize := ⟨by decide⟩

/-- The values below which an `int` stays. -/
def intLimit : Nat := 2 ^ 31

section
variable (place : Block → Int)

/-- `(uint64_t)pointer % 4 == 0`, where the blocks of memory are at these addresses. -/
def isAligned (pointer : Address) : Bool := (place pointer.block + pointer.offset) % 4 = 0

/-- `output_buffer + byte_size_offset`. -/
def Segment.outputAt (segment : Segment) (output : Address) : Address :=
  { output with offset := output.offset + toInt32 segment.offset }

/-- `byte_size`, an `int`. -/
def Segment.kernelSize (segment : Segment) : Int := toInt32 segment.source.byteSize

/-- The bytes that are copied at once. -/
def Segment.elementSize (segment : Segment) (output : Address) : Nat :=
  if segment.kernelSize.tmod 4 = 0 ∧ isAligned place segment.source.address ∧
      isAligned place (segment.outputAt output) then 4
  else 1

def Segment.elementCopy (segment : Segment) (output : Address) (size elem : Nat) : Copy Block := {
  source := segment.source.address.advance (elem * size)
  target := (segment.outputAt output).advance (elem * size)
  byteSize := size }

/-- `TritonGatherKernel` for one thread of the block of a segment. An `elem_id` that overflows
leaves it undefined. -/
def Segment.runThread (segment : Segment) (output : Address) (laneId : Nat) :
    Option (List (Copy Block)) :=
  let size := segment.elementSize place output
  (strideFrom intLimit threadblockSize (segment.kernelSize.tdiv size) laneId).map fun elems =>
    elems.map (segment.elementCopy output size)

/-- What the thread with this `blockIdx.x` and `threadIdx.x` copies. A grid has fewer than
2^31 blocks, so the index of the request is the block's. -/
def threadCopies (segments : List Segment) (output : Address) (thread : Nat × Nat) :
    List (Copy Block) :=
  (segments[thread.1]?.bind fun segment => segment.runThread place output thread.2).getD []

def grid (segments : List Segment) : List (Nat × Nat) :=
  List.range segments.length ×ˢ List.range threadblockSize

def segmentBytes (segments : List Segment) : Nat :=
  (segments.map fun segment => segment.source.byteSize).sum

def Defined (segments : List Segment) (output : Address) : Prop :=
  ∀ segment ∈ segments, ∀ laneId < threadblockSize,
    (segment.runThread place output laneId).isSome

/-- The launch gathers the segments: every thread is defined, each byte of the output is written by
one thread, nothing outside is, and in whatever order the threads run the segments stand one
behind the other in the end. -/
structure Gathers (segments : List Segment) (output : Address) : Prop where
  defined : Defined place segments output
  once : ∀ position < segmentBytes segments, ∃! thread, thread ∈ grid segments ∧
    ∃ copy ∈ threadCopies place segments output thread,
      copy.target.Covers copy.byteSize output.block (output.offset + position)
  inside : ∀ thread ∈ grid segments, ∀ copy ∈ threadCopies place segments output thread,
    ∀ block position, copy.target.Covers copy.byteSize block position →
      output.Covers (segmentBytes segments) block position
  gathered : ∀ merged, Interleaves ((grid segments).map (threadCopies place segments output)) merged →
    ∀ memory : Memory Block UInt8,
      valuesAt (applyAll (merged.map .copy) memory) output (segmentBytes segments) =
        segments.flatMap fun segment =>
          valuesAt memory segment.source.address segment.source.byteSize

/-- The kernel can hold the size and the offset of a segment, and count through its elements. -/
structure Segment.Fits (segment : Segment) (output : Address) : Prop where
  size : segment.source.byteSize < intLimit
  offset : segment.offset < intLimit
  counts : segment.elementSize place output = 1 →
    segment.source.byteSize + threadblockSize ≤ intLimit

def GroupFits (group : List ContiguousBuffer) (output : Address) : Prop :=
  ∀ segment ∈ segmentsFrom 0 group, 0 < segment.source.byteSize → segment.Fits place output

instance (segment : Segment) (output : Address) : Decidable (segment.Fits place output) :=
  decidable_of_iff (segment.source.byteSize < intLimit ∧ segment.offset < intLimit ∧
    (segment.elementSize place output = 1 → segment.source.byteSize + threadblockSize ≤ intLimit))
    ⟨fun fits => ⟨fits.1, fits.2.1, fits.2.2⟩, fun fits => ⟨fits.size, fits.offset, fits.counts⟩⟩

instance (group : List ContiguousBuffer) (output : Address) :
    Decidable (GroupFits place group output) := by
  unfold GroupFits
  infer_instance

end

/-! One thread. -/

section
variable {place : Block → Int} {segment : Segment} {output : Address}

theorem elementSize_cases (place : Block → Int) (segment : Segment) (output : Address) :
     segment.elementSize place output = 1 ∨
    segment.elementSize place output = 4 ∧ segment.kernelSize.tmod 4 = 0 := by
  rw [Segment.elementSize]
  split
  next words => exact Or.inr ⟨rfl, words.1⟩
  next => exact Or.inl rfl

theorem elementSize_pos (place : Block → Int) (segment : Segment) (output : Address) :
    0 < segment.elementSize place output := by
  rcases elementSize_cases place segment output with
    single | ⟨words, -⟩ <;> omega

theorem toInt32_lt (value : Nat) : toInt32 value < intLimit := by
  have width : ((2 ^ 32 : Nat) : Int) = 4294967296 := by decide
  have half : (4294967296 + 1 : Int) / 2 = intLimit := by decide
  have positive : 0 < 2 ^ 32 := by decide
  have bound := Int.bmod_lt (x := value) positive
  rw [width, half] at bound
  exact bound

theorem bmod_natCast_le (value width : Nat) : (value : Int).bmod width ≤ value := by
  have remainder : (value : Int) % width ≤ value := by exact_mod_cast Nat.mod_le value width
  rw [Int.bmod_def]
  split <;> omega

theorem toInt32_le (value : Nat) : toInt32 value ≤ value := bmod_natCast_le value (2 ^ 32)

theorem toInt32_of_fits {value : Nat} (fits : value < intLimit) : toInt32 value = value :=
  toInt32_of_lt fits

theorem kernelSize_lt (segment : Segment) : segment.kernelSize < intLimit := toInt32_lt _

theorem kernelSize_le (segment : Segment) : segment.kernelSize ≤ segment.source.byteSize :=
  toInt32_le _

theorem element_lt_count (byte : Nat) :
    ((byte / segment.elementSize place output : Nat) : Int) <
        segment.kernelSize.tdiv (segment.elementSize place output) ↔
      (byte : Int) < segment.kernelSize := by
  rcases elementSize_cases place segment output with
    single | ⟨words, whole⟩
  · rw [single, Nat.div_one, Nat.cast_one, Int.tdiv_one]
  · have exactly := Int.mul_tdiv_cancel_of_tmod_eq_zero whole
    rw [words, Nat.cast_ofNat]
    omega

theorem elementCopy_covers {size elem : Nat} (positive : 0 < size) {block : Block} {position : Int} :
    (segment.elementCopy output size elem).target.Covers
        (segment.elementCopy output size elem).byteSize block position ↔
      block = output.block ∧ ∃ byte : Nat,
        position = (segment.outputAt output).offset + byte ∧ byte / size = elem := by
  simp only [Pointer.Covers, Segment.elementCopy, advance_block, advance_offset]
  refine and_congr Iff.rfl ⟨?_, ?_⟩
  · rintro ⟨lower, upper⟩
    obtain ⟨byte, rfl⟩ := Int.le.dest lower
    refine ⟨elem * size + byte, by push_cast; omega, ?_⟩
    have inside : byte < size := by omega
    rw [Nat.mul_comm, Nat.mul_add_div positive, Nat.div_eq_of_lt inside, Nat.add_zero]
  · rintro ⟨byte, rfl, rfl⟩
    have below := Nat.div_mul_le_self byte size
    have above := Nat.lt_div_mul_add (a := byte) positive
    omega

/-- From the lane on in steps of the block: the elements of the residue of the lane. -/
theorem mem_runThread {laneId : Nat} (lane : laneId < threadblockSize) {copies : List (Copy Block)}
    (runs : segment.runThread place output laneId = some copies) {copy : Copy Block} :
    copy ∈ copies ↔ ∃ elem : Nat,
      (elem : Int) < segment.kernelSize.tdiv (segment.elementSize place output) ∧
        elem % threadblockSize = laneId ∧
        copy = segment.elementCopy output (segment.elementSize place output) elem := by
  obtain ⟨elems, strides, rfl⟩ := Option.map_eq_some_iff.mp runs
  have residue (elem : Nat) : elem ∈ elems ↔ (elem : Int) < segment.kernelSize.tdiv
      (segment.elementSize place output) ∧ elem % threadblockSize = laneId := by
    rw [(strideFrom_some strides elem).1]
    simp only [threadblockSize] at lane ⊢
    omega
  simp only [List.mem_map, residue, and_assoc, eq_comm (b := copy)]

theorem runThread_covers {laneId : Nat} (lane : laneId < threadblockSize) {copies : List (Copy Block)}
    (runs : segment.runThread place output laneId = some copies) {block : Block} {position : Int} :
    (∃ copy ∈ copies, copy.target.Covers copy.byteSize block position) ↔
      block = output.block ∧ ∃ byte : Nat, (byte : Int) < segment.kernelSize ∧
        position = (segment.outputAt output).offset + byte ∧
        byte / segment.elementSize place output % threadblockSize = laneId := by
  have positive := elementSize_pos place segment output
  constructor
  · rintro ⟨copy, member, covers⟩
    obtain ⟨elem, below, mine, rfl⟩ := (mem_runThread lane runs).mp member
    obtain ⟨same, byte, there, rfl⟩ := (elementCopy_covers positive).mp covers
    exact ⟨same, byte, (element_lt_count byte).mp below, there, mine⟩
  · rintro ⟨same, byte, below, there, mine⟩
    refine ⟨_, (mem_runThread lane runs).mpr ⟨_, (element_lt_count byte).mpr below, mine, rfl⟩, ?_⟩
    exact (elementCopy_covers positive).mpr ⟨same, byte, there, rfl⟩

end

/-! The threads of a launch. -/

section
variable {place : Block → Int} {segments : List Segment} {output : Address}

theorem mem_grid {thread : Nat × Nat} :
    thread ∈ grid segments ↔ thread.1 < segments.length ∧ thread.2 < threadblockSize := by
  rw [grid, List.mem_product, List.mem_range, List.mem_range]

theorem threadCopies_run {thread : Nat × Nat} {segment : Segment}
    (mine : segments[thread.1]? = some segment) {copies : List (Copy Block)}
    (runs : segment.runThread place output thread.2 = some copies) :
    threadCopies place segments output thread = copies := by
  rw [threadCopies, mine, Option.bind_some, runs, Option.getD_some]

theorem threadCopies_covers (defined : Defined place segments output) {thread : Nat × Nat}
    (member : thread ∈ grid segments) {block : Block} {position : Int} :
    (∃ copy ∈ threadCopies place segments output thread,
        copy.target.Covers copy.byteSize block position) ↔
      ∃ segment, segments[thread.1]? = some segment ∧ block = output.block ∧
        ∃ byte : Nat, (byte : Int) < segment.kernelSize ∧
          position = (segment.outputAt output).offset + byte ∧
          byte / segment.elementSize place output % threadblockSize = thread.2 := by
  obtain ⟨bound, lane⟩ := mem_grid.mp member
  have mine := List.getElem?_eq_getElem bound
  obtain ⟨copies, runs⟩ := Option.isSome_iff_exists.mp
    (defined _ (List.getElem_mem bound) thread.2 lane)
  rw [threadCopies_run mine runs, runThread_covers lane runs]
  simp only [mine, Option.some.injEq, exists_eq_left']

theorem mem_threadCopies (defined : Defined place segments output) {thread : Nat × Nat}
    (member : thread ∈ grid segments) {copy : Copy Block}
    (copied : copy ∈ threadCopies place segments output thread) :
    ∃ segment elem, segments[thread.1]? = some segment ∧
      copy = segment.elementCopy output (segment.elementSize place output) elem := by
  obtain ⟨bound, lane⟩ := mem_grid.mp member
  have mine := List.getElem?_eq_getElem bound
  obtain ⟨copies, runs⟩ := Option.isSome_iff_exists.mp
    (defined _ (List.getElem_mem bound) thread.2 lane)
  rw [threadCopies_run mine runs] at copied
  obtain ⟨elem, -, -, same⟩ := (mem_runThread lane runs).mp copied
  exact ⟨_, elem, mine, same⟩

end

/-! The layout of a group. -/

theorem segmentsFrom_laid (start : Nat) (group : List ContiguousBuffer) :
    Laid Segment.offset (fun segment => segment.source.byteSize) start (segmentsFrom start group) := by
  induction group generalizing start with
  | nil => trivial
  | cons input rest ih => exact ⟨rfl, ih _⟩

theorem segmentsFrom_bounds {group : List ContiguousBuffer} {segment : Segment}
    (member : segment ∈ segmentsFrom 0 group) :
    segment.offset + segment.source.byteSize ≤ segmentBytes (segmentsFrom 0 group) := by
  have bounds := (segmentsFrom_laid 0 group).bounds member
  rw [Nat.zero_add] at bounds
  exact bounds.2

theorem segmentsFrom_at {group : List ContiguousBuffer} {position : Nat}
    (upper : position < segmentBytes (segmentsFrom 0 group)) :
    ∃ (index : Nat) (segment : Segment), (segmentsFrom 0 group)[index]? = some segment ∧
      segment.offset ≤ position ∧ position < segment.offset + segment.source.byteSize := by
  refine (segmentsFrom_laid 0 group).at (Nat.zero_le _) ?_
  rwa [Nat.zero_add]

theorem segmentsFrom_restrict {output : Address} {start : Nat} {group : List ContiguousBuffer}
    (restrict : ∀ input ∈ group, input.memoryDesc.address.block ≠ output.block) {segment : Segment}
    (member : segment ∈ segmentsFrom start group) :
    segment.source.address.block ≠ output.block := by
  induction group generalizing start with
  | nil => cases member
  | cons input rest ih =>
      rcases List.mem_cons.mp member with rfl | later
      · exact restrict input List.mem_cons_self
      · exact ih (fun other inside => restrict other (List.mem_cons_of_mem _ inside)) later

/-! A launch that gathers. -/

section
variable {place : Block → Int} {group : List ContiguousBuffer} {output : Address}

/-- The last element is some thread's, whose counter is stepped once more behind it. -/
theorem Defined.counts (defined : Defined place (segmentsFrom 0 group) output) {segment : Segment}
    (member : segment ∈ segmentsFrom 0 group) (single : segment.elementSize place output = 1)
    {size : Nat} (same : segment.kernelSize = size) : size + threadblockSize ≤ intLimit := by
  by_cases empty : size = 0
  · rw [empty]
    decide
  · have lane : (size - 1) % threadblockSize < threadblockSize := Nat.mod_lt _ (by decide)
    obtain ⟨copies, runs⟩ := Option.isSome_iff_exists.mp (defined segment member _ lane)
    obtain ⟨elems, strides, -⟩ := Option.map_eq_some_iff.mp runs
    obtain ⟨mem, room⟩ := strideFrom_some strides (size - 1)
    rw [same, single, Nat.cast_one, Int.tdiv_one] at mem
    simp only [threadblockSize] at mem room ⊢
    have last := room (mem.mpr (by omega))
    omega

theorem Gathers.sizes (gathers : Gathers place (segmentsFrom 0 group) output) {segment : Segment}
    (member : segment ∈ segmentsFrom 0 group) :
    segment.kernelSize = segment.source.byteSize := by
  have atMost (segment : Segment) : segment.kernelSize.toNat ≤ segment.source.byteSize := by
    have most := kernelSize_le segment
    generalize segment.kernelSize = size at most ⊢
    omega
  -- the bytes that are written are at most those the kernel's sizes count
  let positions := Finset.Ico output.offset (output.offset + segmentBytes (segmentsFrom 0 group))
  have count : positions.card = segmentBytes (segmentsFrom 0 group) := by
    rw [Int.card_Ico]
    omega
  have covered (position : Int) (inside : position ∈ positions) :
      ∃ span : Int × Nat, span ∈ ((segmentsFrom 0 group).map fun segment =>
        ((segment.outputAt output).offset, segment.kernelSize.toNat)) ∧
        span.1 ≤ position ∧ position < span.1 + span.2 := by
    obtain ⟨lower, upper⟩ := Finset.mem_Ico.mp inside
    obtain ⟨index, rfl⟩ := Int.le.dest lower
    obtain ⟨thread, ⟨present, written⟩, -⟩ := gathers.once index (by omega)
    obtain ⟨writer, mine, -, byte, below, there, -⟩ :=
      (threadCopies_covers gathers.defined present).mp written
    exact ⟨_, List.mem_map_of_mem (List.mem_of_getElem? mine), by simp only; omega⟩
  have counted := card_covered covered
  simp only [count, List.map_map, Function.comp_def, segmentBytes] at counted
  have exactly : segment.kernelSize.toNat = segment.source.byteSize := by
    refine Nat.le_antisymm (atMost segment) (Nat.le_of_not_lt fun less => ?_)
    have fewer := List.sum_lt_sum (l := segmentsFrom 0 group)
      (fun segment => segment.kernelSize.toNat) (fun segment => segment.source.byteSize)
      (fun segment _ => atMost segment) ⟨segment, member, less⟩
    exact absurd fewer (Nat.not_lt_of_le counted)
  by_cases empty : segment.source.byteSize = 0
  · exact toInt32_of_fits (by rw [empty]; decide)
  · generalize segment.kernelSize = size at exactly ⊢
    omega

/-- A segment whose offset is too large goes where another segment stands. -/
theorem Gathers.offsets (gathers : Gathers place (segmentsFrom 0 group) output) {segment : Segment}
    (member : segment ∈ segmentsFrom 0 group) (bytes : 0 < segment.source.byteSize) :
    segment.offset < intLimit := by
  by_contra large
  have size := gathers.sizes member
  obtain ⟨index, mine⟩ := List.getElem?_of_mem member
  obtain ⟨bound, -⟩ := List.getElem?_eq_some_iff.mp mine
  have first : (index, 0) ∈ grid (segmentsFrom 0 group) :=
    mem_grid.mpr ⟨bound, (by decide : 0 < threadblockSize)⟩
  have written := (threadCopies_covers gathers.defined first).mpr ⟨segment, mine, rfl, 0,
    by omega, rfl, by rw [Nat.zero_div, Nat.zero_mod]⟩
  obtain ⟨copy, copied, covers⟩ := written
  obtain ⟨-, lower, upper⟩ := gathers.inside _ first copy copied _ _ covers
  have offsetAt : (segment.outputAt output).offset = output.offset + toInt32 segment.offset := rfl
  have below := toInt32_lt segment.offset
  obtain ⟨position, narrowed⟩ := Int.eq_ofNat_of_zero_le (a := toInt32 segment.offset) (by omega)
  obtain ⟨other, second, theirs, inside⟩ :=
    @segmentsFrom_at group position (by omega)
  have theirSize := gathers.sizes (List.mem_of_getElem? theirs)
  have theirOffset : (second.outputAt output).offset = output.offset + second.offset := by
    rw [Segment.outputAt, toInt32_of_fits (by omega)]
  obtain ⟨room, -⟩ := List.getElem?_eq_some_iff.mp theirs
  obtain ⟨byte, rfl⟩ := Nat.exists_eq_add_of_le inside.1
  have copies : (byte : Int) < second.kernelSize := by
    rw [theirSize]
    omega
  have lane : (other, byte / second.elementSize place output % threadblockSize) ∈
      grid (segmentsFrom 0 group) := mem_grid.mpr ⟨room, Nat.mod_lt _ (by decide)⟩
  have there : output.offset + (second.offset + byte : Nat) = (second.outputAt output).offset + byte :=
    by omega
  have overwritten := (threadCopies_covers gathers.defined lane).mpr
    ⟨second, theirs, rfl, byte, copies, there, rfl⟩
  have place : (segment.outputAt output).offset + (0 : Nat) = output.offset +
      (second.offset + byte : Nat) := by omega
  rw [place] at covers
  have same := (gathers.once _ (by omega)).unique ⟨first, copy, copied, covers⟩
    ⟨lane, overwritten⟩
  have index : index = other := congrArg Prod.fst same
  subst index
  rw [mine, Option.some.injEq] at theirs
  subst theirs
  omega

end

/-! A group that fits. -/

section
variable {place : Block → Int} {group : List ContiguousBuffer} {output : Address}

theorem GroupFits.size (fits : GroupFits place group output) {segment : Segment}
    (member : segment ∈ segmentsFrom 0 group) : segment.kernelSize = segment.source.byteSize := by
  by_cases empty : segment.source.byteSize = 0
  · exact toInt32_of_fits (by rw [empty]; decide)
  · exact toInt32_of_fits (fits segment member (Nat.pos_of_ne_zero empty)).size

theorem GroupFits.outputAt (fits : GroupFits place group output) {segment : Segment}
    (member : segment ∈ segmentsFrom 0 group) (bytes : 0 < segment.source.byteSize) :
    (segment.outputAt output).offset = output.offset + segment.offset := by
  rw [Segment.outputAt, toInt32_of_fits (fits segment member bytes).offset]

theorem GroupFits.segmentsFit (fits : GroupFits place group output) : SegmentsFit group :=
  fun segment member bytes => ⟨(fits segment member bytes).size, (fits segment member bytes).offset⟩

theorem GroupFits.defined (fits : GroupFits place group output) :
    Defined place (segmentsFrom 0 group) output := by
  intro segment member laneId lane
  rw [Segment.runThread, Option.isSome_map]
  refine strideFrom_isSome ?_ laneId
  by_cases empty : segment.source.byteSize = 0
  · rw [fits.size member, empty, Nat.cast_zero, Int.zero_tdiv]
    decide
  · have held := fits segment member (Nat.pos_of_ne_zero empty)
    have size := held.size
    rw [fits.size member]
    rcases elementSize_cases place segment output with
      single | ⟨words, -⟩
    · have counts := held.counts single
      rw [single, Nat.cast_one, Int.tdiv_one]
      omega
    -- four bytes at a time the counter stays far from its limit
    · rw [words, Nat.cast_ofNat, Int.tdiv_eq_ediv_of_nonneg (Int.natCast_nonneg _)]
      simp only [threadblockSize, intLimit, Nat.reducePow] at size ⊢
      omega

theorem GroupFits.covers (fits : GroupFits place group output) {thread : Nat × Nat}
    (member : thread ∈ grid (segmentsFrom 0 group)) {block : Block} {position : Int} :
    (∃ copy ∈ threadCopies place (segmentsFrom 0 group) output thread,
        copy.target.Covers copy.byteSize block position) ↔
      ∃ segment, (segmentsFrom 0 group)[thread.1]? = some segment ∧ block = output.block ∧
        ∃ byte < segment.source.byteSize, position = output.offset + (segment.offset + byte : Nat) ∧
          byte / segment.elementSize place output % threadblockSize = thread.2 := by
  rw [threadCopies_covers fits.defined member]
  refine exists_congr fun segment => and_congr_right fun mine => and_congr_right fun _ =>
    exists_congr fun byte => ?_
  have inside := List.mem_of_getElem? mine
  rw [fits.size inside, Int.ofNat_lt]
  refine and_congr_right fun below => ?_
  rw [fits.outputAt inside (Nat.zero_lt_of_lt below), Nat.cast_add, Int.add_assoc]

theorem GroupFits.once (fits : GroupFits place group output) {position : Nat}
    (bound : position < segmentBytes (segmentsFrom 0 group)) :
    ∃! thread, thread ∈ grid (segmentsFrom 0 group) ∧
      ∃ copy ∈ threadCopies place (segmentsFrom 0 group) output thread,
        copy.target.Covers copy.byteSize output.block (output.offset + position) := by
  obtain ⟨index, segment, mine, lower, upper⟩ := segmentsFrom_at bound
  obtain ⟨room, -⟩ := List.getElem?_eq_some_iff.mp mine
  obtain ⟨byte, rfl⟩ := Nat.exists_eq_add_of_le lower
  have lane : (index, byte / segment.elementSize place output % threadblockSize) ∈
      grid (segmentsFrom 0 group) := mem_grid.mpr ⟨room, Nat.mod_lt _ (by decide)⟩
  refine ⟨_, ⟨lane, (fits.covers lane).mpr ⟨segment, mine, rfl, byte, by omega, rfl, rfl⟩⟩, ?_⟩
  rintro ⟨other, laneId⟩ ⟨present, written⟩
  obtain ⟨second, theirs, -, later, below, there, rfl⟩ := (fits.covers present).mp written
  obtain rfl := (segmentsFrom_laid 0 group).unique theirs mine _ (by omega) ⟨lower, upper⟩
  obtain rfl := Option.some.inj (theirs.symm.trans mine)
  have same : later = byte := by omega
  rw [same]

theorem GroupFits.inside (fits : GroupFits place group output) {thread : Nat × Nat}
    (member : thread ∈ grid (segmentsFrom 0 group)) {copy : Copy Block}
    (copied : copy ∈ threadCopies place (segmentsFrom 0 group) output thread) {block : Block}
    {position : Int} (covers : copy.target.Covers copy.byteSize block position) :
    output.Covers (segmentBytes (segmentsFrom 0 group)) block position := by
  obtain ⟨segment, mine, same, byte, below, rfl, -⟩ :=
    (fits.covers member).mp ⟨copy, copied, covers⟩
  have upper := segmentsFrom_bounds (List.mem_of_getElem? mine)
  exact ⟨same, by omega, by omega⟩

theorem mem_merged {segments : List Segment} {merged : List (Copy Block)}
    (interleaves : Interleaves ((grid segments).map (threadCopies place segments output)) merged)
    {copy : Copy Block} :
    copy ∈ merged ↔ ∃ thread ∈ grid segments, copy ∈ threadCopies place segments output thread := by
  rw [interleaves.mem_iff]
  simp only [List.mem_map, exists_exists_and_eq_and]

theorem GroupFits.taken (fits : GroupFits place group output) {thread : Nat × Nat}
    (inside : thread ∈ grid (segmentsFrom 0 group)) {copy : Copy Block}
    (copied : copy ∈ threadCopies place (segmentsFrom 0 group) output thread) {block : Block}
    {position : Int} (covers : copy.target.Covers copy.byteSize block position) :
    ∃ segment, (segmentsFrom 0 group)[thread.1]? = some segment ∧
      copy.source.block = segment.source.address.block ∧
      copy.source.offset - copy.target.offset =
        segment.source.address.offset - (output.offset + segment.offset) ∧
      ∃ byte < segment.source.byteSize,
        position = output.offset + (segment.offset + byte : Nat) := by
  obtain ⟨segment, elem, mine, rfl⟩ := mem_threadCopies fits.defined inside copied
  obtain ⟨writer, same, -, byte, below, there, -⟩ :=
    (fits.covers inside).mp ⟨_, copied, covers⟩
  obtain rfl := Option.some.inj (mine.symm.trans same)
  have target := fits.outputAt (List.mem_of_getElem? mine) (Nat.zero_lt_of_lt below)
  refine ⟨segment, mine, rfl, ?_, byte, below, there⟩
  simp only [Segment.elementCopy, advance_offset]
  omega

/-- In the end a byte of a segment stands at its place, whichever thread came last. -/
theorem GroupFits.landed (fits : GroupFits place group output)
    (restrict : ∀ input ∈ group, input.memoryDesc.address.block ≠ output.block)
    {merged : List (Copy Block)} (interleaves : Interleaves ((grid (segmentsFrom 0 group)).map
      (threadCopies place (segmentsFrom 0 group) output)) merged) (memory : Memory Block UInt8)
    {segment : Segment} (member : segment ∈ segmentsFrom 0 group) {byte : Nat}
    (below : byte < segment.source.byteSize) :
    applyAll (merged.map .copy) memory output.block (output.offset + (segment.offset + byte : Nat)) =
      memory segment.source.address.block (segment.source.address.offset + byte) := by
  have room := segmentsFrom_bounds member
  have bound : segment.offset + byte < segmentBytes (segmentsFrom 0 group) := by omega
  obtain ⟨thread, ⟨inside, copy, copied, covers⟩, -⟩ := fits.once bound
  -- whatever covers the byte takes it from this segment
  have taken {thread : Nat × Nat} (inside : thread ∈ grid (segmentsFrom 0 group))
      {copy : Copy Block} (copied : copy ∈ threadCopies place (segmentsFrom 0 group) output thread)
      (covers : copy.target.Covers copy.byteSize output.block
        (output.offset + (segment.offset + byte : Nat))) :
      copy.source.block = segment.source.address.block ∧ copy.source.offset - copy.target.offset =
        segment.source.address.offset - (output.offset + segment.offset) := by
    obtain ⟨origin, theirs, source, shift, later, within, there⟩ := fits.taken inside copied covers
    obtain ⟨index, mine⟩ := List.getElem?_of_mem member
    obtain rfl := (segmentsFrom_laid 0 group).unique theirs mine (segment.offset + byte)
      (by omega) (by omega)
    obtain rfl := Option.some.inj (theirs.symm.trans mine)
    exact ⟨source, shift⟩
  have target {copy : Copy Block} (present : copy ∈ merged) : copy.target.block = output.block := by
    obtain ⟨thread, inside, copied⟩ := (mem_merged interleaves).mp present
    obtain ⟨origin, _, -, rfl⟩ := mem_threadCopies fits.defined inside copied
    rfl
  obtain ⟨source, shift⟩ := taken inside copied covers
  have present := (mem_merged interleaves).mpr ⟨thread, inside, copied⟩
  refine (applyAll_agree (List.mem_map_of_mem present) covers ?kept ?agree).trans ?value
  case value =>
      rw [source]
      congr 1
      omega
  case kept =>
      intro effect listed
      obtain ⟨other, there, rfl⟩ := List.mem_map.mp listed
      rw [source, Effect.target, target there]
      exact (segmentsFrom_restrict restrict member).symm
  case agree =>
      intro effect listed written
      obtain ⟨other, there, rfl⟩ := List.mem_map.mp listed
      obtain ⟨writer, within, theirs⟩ := (mem_merged interleaves).mp there
      obtain ⟨same, apart⟩ := taken within theirs written
      exact ⟨other, rfl, same.trans source.symm, apart.trans shift.symm⟩

end

/-! The launch as one copy for each segment. -/

def Segment.wholeCopy (segment : Segment) (output : Address) : Copy Block := {
  source := segment.source.address
  target := segment.outputAt output
  byteSize := segment.kernelSize.toNat }

theorem tritonGatherKernel_wholeCopy (segments : List Segment) (output : Address) :
    tritonGatherKernel segments output = segments.map fun segment => segment.wholeCopy output := rfl

section
variable {place : Block → Int} {group : List ContiguousBuffer} {output : Address}

theorem GroupFits.wholeCopy_covers (fits : GroupFits place group output) {segment : Segment}
    (member : segment ∈ segmentsFrom 0 group) {block : Block} {position : Int} :
    (segment.wholeCopy output).target.Covers (segment.wholeCopy output).byteSize block position ↔
      block = output.block ∧ ∃ byte < segment.source.byteSize,
        position = output.offset + (segment.offset + byte : Nat) := by
  simp only [Pointer.Covers, Segment.wholeCopy, fits.size member, Int.toNat_natCast]
  refine and_congr Iff.rfl ⟨?_, ?_⟩
  · rintro ⟨lower, upper⟩
    have target := fits.outputAt member (by omega)
    obtain ⟨byte, rfl⟩ := Int.le.dest lower
    exact ⟨byte, by omega, by omega⟩
  · rintro ⟨byte, below, rfl⟩
    have target := fits.outputAt member (Nat.zero_lt_of_lt below)
    omega

theorem GroupFits.wholeCopies_landed (fits : GroupFits place group output)
    (restrict : ∀ input ∈ group, input.memoryDesc.address.block ≠ output.block)
    (memory : Memory Block UInt8) {segment : Segment} (member : segment ∈ segmentsFrom 0 group)
    {byte : Nat} (below : byte < segment.source.byteSize) :
    applyAll ((tritonGatherKernel (segmentsFrom 0 group) output).map .copy) memory output.block
        (output.offset + (segment.offset + byte : Nat)) =
      memory segment.source.address.block (segment.source.address.offset + byte) := by
  have covers := (fits.wholeCopy_covers member).mpr ⟨rfl, byte, below, rfl⟩
  have present := List.mem_map_of_mem (f := fun segment => segment.wholeCopy output) member
  have target := fits.outputAt member (Nat.zero_lt_of_lt below)
  rw [tritonGatherKernel_wholeCopy]
  refine (applyAll_agree (List.mem_map_of_mem present) covers ?kept ?agree).trans ?value
  case value =>
      simp only [Segment.wholeCopy]
      congr 1
      omega
  case kept =>
      intro effect there
      obtain ⟨_, copied, rfl⟩ := List.mem_map.mp there
      obtain ⟨origin, -, rfl⟩ := List.mem_map.mp copied
      exact (segmentsFrom_restrict restrict member).symm
  case agree =>
      intro effect there written
      obtain ⟨_, copied, rfl⟩ := List.mem_map.mp there
      obtain ⟨origin, inside, rfl⟩ := List.mem_map.mp copied
      obtain ⟨-, later, within, same⟩ := (fits.wholeCopy_covers inside).mp written
      obtain rfl := (segmentsFrom_laid 0 group).same inside member (segment.offset + byte)
        (by omega) (by omega)
      exact ⟨_, rfl, rfl, rfl⟩

/-- What any order of the threads comes to. -/
theorem GroupFits.threads_refine (fits : GroupFits place group output)
    (restrict : ∀ input ∈ group, input.memoryDesc.address.block ≠ output.block)
    {merged : List (Copy Block)} (interleaves : Interleaves ((grid (segmentsFrom 0 group)).map
      (threadCopies place (segmentsFrom 0 group) output)) merged) (memory : Memory Block UInt8) :
    applyAll (merged.map .copy) memory =
      applyAll ((tritonGatherKernel (segmentsFrom 0 group) output).map .copy) memory := by
  funext block position
  by_cases inside : ∃ segment ∈ segmentsFrom 0 group, block = output.block ∧
      ∃ byte < segment.source.byteSize, position = output.offset + (segment.offset + byte : Nat)
  · obtain ⟨segment, member, rfl, byte, below, rfl⟩ := inside
    rw [fits.landed restrict interleaves memory member below,
      fits.wholeCopies_landed restrict memory member below]
  · rw [applyAll_untouched, applyAll_untouched]
    · intro effect member written
      obtain ⟨copy, whole, rfl⟩ := List.mem_map.mp member
      obtain ⟨segment, present, rfl⟩ := List.mem_map.mp whole
      exact inside ⟨segment, present, (fits.wholeCopy_covers present).mp written⟩
    · intro effect member written
      obtain ⟨copy, present, rfl⟩ := List.mem_map.mp member
      obtain ⟨thread, within, copied⟩ := (mem_merged interleaves).mp present
      obtain ⟨segment, mine, same, byte, below, there, -⟩ :=
        (fits.covers within).mp ⟨copy, copied, written⟩
      exact inside ⟨segment, List.mem_of_getElem? mine, same, byte, below, there⟩

end

theorem groupFits_of_total {place : Block → Int} {group : List ContiguousBuffer} {output : Address}
    (total : segmentBytes (segmentsFrom 0 group) + threadblockSize ≤ intLimit) :
    GroupFits place group output := by
  intro segment member bytes
  have upper := segmentsFrom_bounds member
  have block : 0 < threadblockSize := by decide
  constructor
  · omega
  · omega
  · intro single
    omega

theorem Gathers.fits {place : Block → Int} {group : List ContiguousBuffer} {output : Address}
    (gathers : Gathers place (segmentsFrom 0 group) output) : GroupFits place group output := by
  intro segment member bytes
  have size := gathers.sizes member
  constructor
  · have below := kernelSize_lt segment
    rwa [size, Int.ofNat_lt] at below
  · exact gathers.offsets member bytes
  · intro single
    exact gathers.defined.counts member single size

/-- The gather kernel gathers a group exactly if sizes, offsets and counts stay within an `int`.
Nothing that is read is in the output, as its `__restrict` says. -/
theorem gathers_iff {place : Block → Int} {group : List ContiguousBuffer} {output : Address}
    (restrict : ∀ input ∈ group, input.memoryDesc.address.block ≠ output.block) :
    Gathers place (segmentsFrom 0 group) output ↔ GroupFits place group output := by
  constructor
  · exact Gathers.fits
  · intro fits
    constructor
    · exact fits.defined
    · intro position bound
      exact fits.once bound
    · intro thread member copy copied block position covers
      exact fits.inside member copied covers
    · intro merged interleaves memory
      have landed := (segmentsFrom_laid 0 group).values fun segment member byte below =>
        fits.landed restrict interleaves memory member below
      rwa [advance_zero] at landed

def deviceBuffer (buffer byteSize : Nat) : ContiguousBuffer := {
  memoryDesc := { buffer, byteSize, memoryType := .gpu, memoryTypeId := 0 }
  startRequestIdx := 0
  endRequestIdx := 0 }

/-- A segment of five bytes leaves the next one at an odd place. -/
theorem gathers_pair : Gathers (fun _ => 256) (segmentsFrom 0 [deviceBuffer 64 5, deviceBuffer 128 8])
    { block := .tensor 0, offset := 0 } :=
  (gathers_iff (by decide)).mpr (groupFits_of_total (by decide))

/-- The size of a segment of 2 GiB is negative in an `int`, and nothing of it is copied. -/
theorem not_gathers_large : ¬ Gathers (fun _ => 256) (segmentsFrom 0 [deviceBuffer 64 (2 ^ 31)])
    { block := .tensor 0, offset := 0 } := by
  intro gathers
  have size := (gathers.fits _ List.mem_cons_self (by decide)).size
  exact absurd size (by decide)

end TritonBackend
