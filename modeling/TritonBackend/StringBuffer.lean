import TritonBackend.CommonCore
import TritonBackend.Framing
import Mathlib.Data.UInt

/-!
`ValidateStringBuffer`. A run lists the strings it passed and the places it loaded
a length from; what it accepts is the documented format, except that up to three
bytes may be left over.
-/

namespace TritonBackend

open CopyStream Framing

/-- The order in which the platform stores the bytes of an integer. -/
inductive ByteOrder
  | littleEndian
  | bigEndian
deriving DecidableEq, Repr

def ByteOrder.arrange (order : ByteOrder) (bytes : List UInt8) : List UInt8 :=
  match order with
  | .littleEndian => bytes
  | .bigEndian => bytes.reverse

def uint32Bytes (order : ByteOrder) (value : Nat) : List UInt8 :=
  order.arrange [value.toUInt8, (value / 2 ^ 8).toUInt8, (value / 2 ^ 16).toUInt8,
    (value / 2 ^ 24).toUInt8]

def uint32Value (order : ByteOrder) (bytes : List UInt8) : Nat :=
  match order.arrange bytes with
  | [first, second, third, fourth] =>
      first.toNat + 2 ^ 8 * second.toNat + 2 ^ 16 * third.toNat + 2 ^ 24 * fourth.toNat
  | _ => 0

@[simp] theorem length_arrange (order : ByteOrder) (bytes : List UInt8) :
    (order.arrange bytes).length = bytes.length := by
  cases order with
  | littleEndian => rfl
  | bigEndian => exact List.length_reverse

@[simp] theorem arrange_arrange (order : ByteOrder) (bytes : List UInt8) :
    order.arrange (order.arrange bytes) = bytes := by
  cases order with
  | littleEndian => rfl
  | bigEndian => exact List.reverse_reverse bytes

theorem uint32Value_bytes (order : ByteOrder) {value : Nat} (fits : value < 2 ^ 32) :
    uint32Value order (uint32Bytes order value) = value := by
  simp only [uint32Value, uint32Bytes, arrange_arrange, Nat.toUInt8, UInt8.toNat_ofNat']
  omega

theorem uint32Value_lt (order : ByteOrder) (bytes : List UInt8) :
    uint32Value order bytes < 2 ^ 32 := by
  rw [uint32Value]
  split
  · rename_i first second third fourth _
    have firstBound := first.toNat_lt
    have secondBound := second.toNat_lt
    have thirdBound := third.toNat_lt
    have fourthBound := fourth.toNat_lt
    omega
  · omega

theorem uint32Bytes_value (order : ByteOrder) {bytes : List UInt8} (width : bytes.length = 4) :
    uint32Bytes order (uint32Value order bytes) = bytes := by
  have arranged : (order.arrange bytes).length = 4 := by rw [length_arrange, width]
  rw [uint32Value, uint32Bytes]
  split
  · rename_i first second third fourth same
    have firstBound := first.toNat_lt
    have secondBound := second.toNat_lt
    have thirdBound := third.toNat_lt
    have fourthBound := fourth.toNat_lt
    rw [← arrange_arrange order bytes, same]
    congr 1
    simp only [List.cons.injEq, and_true, Nat.toUInt8]
    refine ⟨?_, ?_, ?_, ?_⟩ <;> apply UInt8.toNat.inj <;> rw [UInt8.toNat_ofNat'] <;> omega
  · rename_i other
    match same : order.arrange bytes, arranged with
    | [first, second, third, fourth], _ => exact (other _ _ _ _ same).elim

/-- The 4-byte length in front of each string. -/
def uint32Code (order : ByteOrder) : LengthCode UInt8 where
  width := 4
  limit := 2 ^ 32
  write := uint32Bytes order
  read := uint32Value order
  write_length value := by rw [uint32Bytes, length_arrange]; rfl
  read_write _ fits := uint32Value_bytes order fits
  read_lt := uint32Value_lt order
  write_read _ width := uint32Bytes_value order width

/-- What `ValidateStringBuffer` has read so far: the pairs in `*str_list`, which is
`none` for a null pointer, and the places and sizes of its loads. -/
structure StringReader where
  strList : Option (List (Address × Nat))
  loads : List (Address × Nat)
deriving DecidableEq, Repr

def StringReader.load (reader : StringReader) (place : Address) (size : Nat) : StringReader :=
  { reader with loads := reader.loads ++ [(place, size)] }

def StringReader.pushBack (reader : StringReader) (place : Address) (len : Nat) : StringReader :=
  { reader with strList := reader.strList.map fun listed => listed ++ [(place, len)] }

structure StringRequest where
  expectedElementCnt : Nat
  inputName : String
deriving DecidableEq, Repr

def StringRequest.unexpectedNumber (request : StringRequest) (elementIdx : Nat) : String :=
  "unexpected number of string elements " ++ toString (elementIdx + 1) ++
    " for inference input '" ++ request.inputName ++ "', expecting " ++
    toString request.expectedElementCnt

def StringRequest.incompleteString (request : StringRequest) (len remaining : Nat) : String :=
  "incomplete string data for inference input '" ++ request.inputName ++
    "', expecting string of length " ++ toString len ++ " but only " ++ toString remaining ++
    " bytes available"

def StringRequest.wrongNumber (request : StringRequest) (elementIdx : Nat) : String :=
  "expected " ++ toString request.expectedElementCnt ++ " strings for inference input '" ++
    request.inputName ++ "', got " ++ toString elementIdx

/-- The loop of `ValidateStringBuffer` from element `elementIdx` on, and what follows it. -/
def validateStrings (order : ByteOrder) (memory : Memory Block UInt8) (request : StringRequest)
    (elementIdx : Nat) (buffer : Address) (remainingBytes : Nat) (reader : StringReader) :
    Option TritonError × StringReader :=
  if 4 ≤ remainingBytes then
    if request.expectedElementCnt ≤ elementIdx then
      (errorNew .invalidArg (request.unexpectedNumber elementIdx), reader)
    else
      let len := uint32Value order (valuesAt memory buffer 4)
      let loaded := reader.load buffer 4
      let remaining := remainingBytes - 4
      let content := buffer.advance 4
      if remaining < len then
        (errorNew .invalidArg (request.incompleteString len remaining), loaded)
      else
        validateStrings order memory request (elementIdx + 1) (content.advance len)
          (remaining - len) (loaded.pushBack content len)
  else if elementIdx ≠ request.expectedElementCnt then
    (errorNew .internal (request.wrongNumber elementIdx), reader)
  else (none, reader)
termination_by remainingBytes

def validateStringBuffer (order : ByteOrder) (memory : Memory Block UInt8) (buffer : Address)
    (bufferByteSize expectedElementCnt : Nat) (inputName : String)
    (strList : Option (List (Address × Nat))) : Option TritonError × StringReader :=
  validateStrings order memory { expectedElementCnt, inputName } 0 buffer bufferByteSize
    { strList, loads := [] }

/-- The pairs listed for strings whose encoding starts at an offset of the buffer. -/
def listedStrings (order : ByteOrder) (buffer : Address) (start : Nat)
    (strings : List (List UInt8)) : List (Address × Nat) :=
  ((uint32Code order).spans start strings).map fun span => (buffer.advance span.1, span.2)

/-- From an offset on, the buffer holds the strings passed and then a rest. -/
structure Passes (order : ByteOrder) (memory : Memory Block UInt8) (buffer : Address)
    (start size : Nat) (before after : StringReader) (strings : List (List UInt8))
    (rest : List UInt8) : Prop where
  fits : (uint32Code order).Fits strings
  bytes : valuesAt memory (buffer.advance start) size = (uint32Code order).encode strings ++ rest
  listed : after.strList =
    before.strList.map fun earlier => earlier ++ listedStrings order buffer start strings
  loads : ∃ loads, after.loads = before.loads ++ loads ∧ ∀ load ∈ loads, ∃ offset,
    load = (buffer.advance offset, 4) ∧ start ≤ offset ∧ offset + 4 ≤ start + size

section
variable {order : ByteOrder} {memory : Memory Block UInt8} {request : StringRequest}
  {buffer : Address}

theorem passes_nothing (start size : Nat) (reader : StringReader) :
    Passes order memory buffer start size reader reader []
      (valuesAt memory (buffer.advance start) size) where
  fits := by simp [LengthCode.Fits]
  bytes := rfl
  listed := by simp [listedStrings, LengthCode.spans]
  loads := ⟨[], by simp⟩

theorem passes_load {start size : Nat} (reader : StringReader) (enough : 4 ≤ size) :
    Passes order memory buffer start size reader (reader.load (buffer.advance start) 4) []
      (valuesAt memory (buffer.advance start) size) where
  fits := by simp [LengthCode.Fits]
  bytes := rfl
  listed := by simp [StringReader.load, listedStrings, LengthCode.spans]
  loads := by
    refine ⟨[(buffer.advance start, 4)], rfl, ?_⟩
    intro load member
    rw [List.mem_singleton.mp member]
    exact ⟨start, rfl, Nat.le_refl _, by omega⟩

theorem element_bytes {start size len : Nat} (enough : 4 ≤ size)
    (length : len = uint32Value order (valuesAt memory (buffer.advance start) 4))
    (complete : len ≤ size - 4) :
    valuesAt memory (buffer.advance start) size = uint32Bytes order len ++
      (valuesAt memory (buffer.advance (start + 4)) len ++
        valuesAt memory (buffer.advance (start + 4 + len)) (size - 4 - len)) := by
  have parts : size = 4 + (len + (size - 4 - len)) := by omega
  rw [length, uint32Bytes_value order (length_valuesAt _ _ _), ← length]
  conv_lhs => rw [parts]
  rw [valuesAt_append, valuesAt_append]
  simp only [advance_advance, Nat.add_assoc]

theorem passes_element {start size len : Nat} {before after : StringReader}
    {strings : List (List UInt8)} {rest : List UInt8} (enough : 4 ≤ size)
    (length : len = uint32Value order (valuesAt memory (buffer.advance start) 4))
    (complete : len ≤ size - 4)
    (passes : Passes order memory buffer (start + 4 + len) (size - 4 - len)
      ((before.load (buffer.advance start) 4).pushBack (buffer.advance (start + 4)) len) after
      strings rest) :
    Passes order memory buffer start size before after
      (valuesAt memory (buffer.advance (start + 4)) len :: strings) rest where
  fits := by
    refine fits_cons.mpr ⟨?_, passes.fits⟩
    rw [length_valuesAt, length]
    exact uint32Value_lt order _
  bytes := by
    rw [element_bytes enough length complete, passes.bytes]
    simp only [LengthCode.encode, uint32Code, length_valuesAt, List.append_assoc]
  listed := by
    rw [passes.listed]
    simp only [StringReader.pushBack, StringReader.load, Option.map_map, listedStrings,
      LengthCode.spans, uint32Code, length_valuesAt, List.map_cons]
    congr 1
    funext earlier
    simp only [Function.comp, List.append_assoc, List.singleton_append]
  loads := by
    obtain ⟨loads, after_loads, placed⟩ := passes.loads
    refine ⟨(buffer.advance start, 4) :: loads, ?_, ?_⟩
    · rw [after_loads]
      simp only [StringReader.pushBack, StringReader.load, List.append_assoc,
        List.singleton_append]
    · intro load member
      rcases List.mem_cons.mp member with rfl | later
      · exact ⟨start, rfl, Nat.le_refl _, by omega⟩
      · obtain ⟨offset, place, lower, upper⟩ := placed load later
        exact ⟨offset, place, by omega, by omega⟩

variable (order memory request buffer) in
/-- Whatever the bytes are, a run passes a number of strings, no more than asked for. -/
theorem validateStrings_passes (start size elementIdx : Nat) (reader : StringReader)
    (within : elementIdx ≤ request.expectedElementCnt) :
    ∃ strings rest,
      Passes order memory buffer start size reader
        (validateStrings order memory request elementIdx (buffer.advance start) size reader).2
        strings rest ∧
      elementIdx + strings.length ≤ request.expectedElementCnt ∧
      ((validateStrings order memory request elementIdx (buffer.advance start) size reader).1 =
          none →
        elementIdx + strings.length = request.expectedElementCnt ∧ rest.length < 4) := by
  induction size using Nat.strongRecOn generalizing start elementIdx reader with
  | ind size ih =>
      rw [validateStrings]
      split
      · rename_i enough
        split
        · exact ⟨[], _, passes_nothing start size reader, within, by simp [errorNew]⟩
        · rename_i more
          generalize length : uint32Value order (valuesAt memory (buffer.advance start) 4) = len
          simp only [advance_advance]
          split
          · exact ⟨[], _, passes_load reader enough, within, by simp [errorNew]⟩
          · rename_i incomplete
            have complete : len ≤ size - 4 := by omega
            -- the header and the string are consumed, so what is left is shorter
            obtain ⟨strings, rest, passes, counted, accepted⟩ := ih (size - 4 - len) (by omega)
              (start + 4 + len) (elementIdx + 1) ((reader.load (buffer.advance start) 4).pushBack
                (buffer.advance (start + 4)) len) (by omega)
            refine ⟨_, rest, passes_element enough length.symm complete passes, ?_, ?_⟩
            · rw [List.length_cons]
              omega
            · intro success
              obtain ⟨all, short⟩ := accepted success
              rw [List.length_cons]
              exact ⟨by omega, short⟩
      · split
        · exact ⟨[], _, passes_nothing start size reader, within, by simp [errorNew]⟩
        · rename_i short matched
          refine ⟨[], _, passes_nothing start size reader, within, fun _ => ?_⟩
          rw [length_valuesAt]
          simp only [List.length_nil]
          omega

theorem element_read {start size : Nat} {string after : List UInt8}
    (fits : string.length < 2 ^ 32)
    (bytes : valuesAt memory (buffer.advance start) size =
      uint32Bytes order string.length ++ (string ++ after)) :
    4 + string.length ≤ size ∧
      uint32Value order (valuesAt memory (buffer.advance start) 4) = string.length ∧
      valuesAt memory (buffer.advance (start + 4 + string.length)) (size - 4 - string.length) =
        after := by
  have sizes := congrArg List.length bytes
  have header : (uint32Bytes order string.length).length = 4 :=
    (uint32Code order).write_length string.length
  rw [length_valuesAt, List.length_append, List.length_append, header] at sizes
  have parts : size = 4 + (string.length + (size - 4 - string.length)) := by omega
  rw [parts, valuesAt_append, valuesAt_append, advance_advance, advance_advance] at bytes
  obtain ⟨first, later⟩ := List.append_inj bytes (by rw [length_valuesAt, header])
  obtain ⟨_, last⟩ := List.append_inj later (length_valuesAt _ _ _)
  refine ⟨by omega, ?_, ?_⟩
  · rw [first, uint32Value_bytes order fits]
  · rw [← last]

variable (order memory request buffer) in
theorem validateStrings_accepts (strings : List (List UInt8)) (start size elementIdx : Nat)
    (reader : StringReader) {rest : List UInt8} (fits : (uint32Code order).Fits strings)
    (bytes : valuesAt memory (buffer.advance start) size =
      (uint32Code order).encode strings ++ rest)
    (short : rest.length < 4)
    (count : elementIdx + strings.length = request.expectedElementCnt) :
    (validateStrings order memory request elementIdx (buffer.advance start) size reader).1 =
        none ∧
      (validateStrings order memory request elementIdx (buffer.advance start) size reader).2.strList =
        reader.strList.map fun earlier => earlier ++ listedStrings order buffer start strings := by
  induction strings generalizing start size elementIdx reader with
  | nil =>
      have size_short : ¬ 4 ≤ size := by
        have sizes := congrArg List.length bytes
        rw [length_valuesAt] at sizes
        simp only [LengthCode.encode, List.nil_append] at sizes
        omega
      have matched : elementIdx = request.expectedElementCnt := by simpa using count
      rw [validateStrings, if_neg size_short, if_neg (not_not.mpr matched)]
      simp [listedStrings, LengthCode.spans]
  | cons string others ih =>
      rw [List.length_cons] at count
      have fits := fits_cons.mp fits
      simp only [LengthCode.encode, List.append_assoc] at bytes
      obtain ⟨enough, length, later⟩ := element_read fits.1 bytes
      have again := ih (start + 4 + string.length) (size - 4 - string.length) (elementIdx + 1)
        ((reader.load (buffer.advance start) 4).pushBack (buffer.advance (start + 4)) string.length)
        fits.2 later (by omega)
      rw [validateStrings, if_pos (by omega), if_neg (by omega)]
      simp only [length, advance_advance]
      rw [if_neg (by omega)]
      refine ⟨again.1, ?_⟩
      rw [again.2]
      simp only [StringReader.pushBack, StringReader.load, Option.map_map, listedStrings,
        LengthCode.spans, uint32Code, List.map_cons]
      congr 1
      funext earlier
      simp only [Function.comp, List.append_assoc, List.singleton_append]

end

/-! What the whole function accepts and lists. -/

/-- The bytes are exactly so many strings, each behind its length. -/
def WellFormed (order : ByteOrder) (count : Nat) (bytes : List UInt8) : Prop :=
  ∃ strings, strings.length = count ∧ (uint32Code order).Fits strings ∧
    bytes = (uint32Code order).encode strings

/-- Behind so many strings stand bytes that are too few for another length. -/
def LeavesOver (order : ByteOrder) (count : Nat) (bytes : List UInt8) : Prop :=
  ∃ strings rest, strings.length = count ∧ (uint32Code order).Fits strings ∧
    bytes = (uint32Code order).encode strings ++ rest ∧ 0 < rest.length ∧ rest.length < 4

theorem leavesOver_malformed {order : ByteOrder} {count : Nat} {bytes : List UInt8}
    (leaves : LeavesOver order count bytes) : ¬ WellFormed order count bytes := by
  rintro ⟨strings, counted, fits, same⟩
  obtain ⟨others, rest, othersCounted, othersFit, split, some_left, _⟩ := leaves
  have whole : (uint32Code order).encode strings ++ [] =
      (uint32Code order).encode others ++ rest := by
    rw [List.append_nil, ← same, split]
  obtain ⟨_, empty⟩ := encode_injective fits othersFit (counted.trans othersCounted.symm) whole
  rw [← empty] at some_left
  exact absurd some_left (Nat.lt_irrefl 0)

theorem validateStringBuffer_success {order : ByteOrder} {memory : Memory Block UInt8}
    {buffer : Address} {bufferByteSize expectedElementCnt : Nat} {inputName : String}
    {strList : Option (List (Address × Nat))} :
    (validateStringBuffer order memory buffer bufferByteSize expectedElementCnt inputName
        strList).1 = none ↔
      WellFormed order expectedElementCnt (valuesAt memory buffer bufferByteSize) ∨
        LeavesOver order expectedElementCnt (valuesAt memory buffer bufferByteSize) := by
  rw [validateStringBuffer, ← advance_zero buffer]
  constructor
  · intro success
    obtain ⟨strings, rest, passes, _, accepted⟩ := validateStrings_passes order
      memory { expectedElementCnt, inputName } buffer 0 bufferByteSize 0 { strList, loads := [] }
      (Nat.zero_le _)
    obtain ⟨counted, short⟩ := accepted success
    rw [Nat.zero_add] at counted
    rcases Nat.eq_zero_or_pos rest.length with none_left | some_left
    · refine .inl ⟨strings, counted, passes.fits, ?_⟩
      rw [passes.bytes, List.length_eq_zero_iff.mp none_left, List.append_nil]
    · exact .inr ⟨strings, rest, counted, passes.fits, passes.bytes, some_left, short⟩
  · rintro (⟨strings, counted, fits, bytes⟩ | ⟨strings, rest, counted, fits, bytes, _, short⟩)
    · exact (validateStrings_accepts order memory _ buffer strings 0 bufferByteSize 0 _ fits
        (bytes.trans (List.append_nil _).symm) (by simp) (by simpa using counted)).1
    · exact (validateStrings_accepts order memory _ buffer strings 0 bufferByteSize 0 _ fits bytes short
        (by simpa using counted)).1

/-- `ValidateStringBuffer` accepts exactly the documented format unless one to three
bytes are left over. -/
theorem validateStringBuffer_exact (order : ByteOrder) (memory : Memory Block UInt8)
    (buffer : Address) (bufferByteSize expectedElementCnt : Nat) (inputName : String)
    (strList : Option (List (Address × Nat))) :
    ((validateStringBuffer order memory buffer bufferByteSize expectedElementCnt inputName
          strList).1 = none ↔
        WellFormed order expectedElementCnt (valuesAt memory buffer bufferByteSize)) ↔
      ¬ LeavesOver order expectedElementCnt (valuesAt memory buffer bufferByteSize) := by
  rw [validateStringBuffer_success]
  constructor
  · intro exactly leaves
    exact leavesOver_malformed leaves (exactly.mp (.inr leaves))
  · intro covered
    exact ⟨fun accepted => accepted.resolve_right covered, .inl⟩

/-- One empty string and a byte more are accepted as one string. -/
theorem not_validateStringBuffer_exact :
    let memory : Memory Block UInt8 := fun _ _ => 0
    let buffer : Address := { block := .tensor 0, offset := 0 }
    ¬ ((validateStringBuffer .littleEndian memory buffer 5 1 "INPUT0" (some [])).1 = none ↔
      WellFormed .littleEndian 1 (valuesAt memory buffer 5)) := by
  intro memory buffer exactly
  have leaves : LeavesOver .littleEndian 1 (valuesAt memory buffer 5) :=
    ⟨[[]], [0], rfl, by decide, by decide, by decide, by decide⟩
  exact leavesOver_malformed leaves (exactly.mp (validateStringBuffer_success.mpr (.inr leaves)))

def Within (buffer : Address) (size : Nat) (place : Address × Nat) : Prop :=
  ∃ offset, place.1 = buffer.advance offset ∧ offset + place.2 ≤ size

def Precedes (first second : Address × Nat) : Prop :=
  first.1.block = second.1.block ∧ first.1.offset + first.2 ≤ second.1.offset

theorem valuesAt_slice {memory : Memory Block UInt8} {buffer : Address} {size offset len : Nat}
    (inside : offset + len ≤ size) :
    valuesAt memory (buffer.advance offset) len =
      ((valuesAt memory buffer size).drop offset).take len := by
  have parts : size = offset + (len + (size - offset - len)) := by omega
  rw [parts, valuesAt_append, valuesAt_append]
  rw [List.drop_left' (length_valuesAt _ _ _), List.take_left' (length_valuesAt _ _ _)]

theorem listedStrings_within {order : ByteOrder} {buffer : Address}
    {strings : List (List UInt8)} {size : Nat}
    (inside : ((uint32Code order).encode strings).length ≤ size) :
    ∀ place ∈ listedStrings order buffer 0 strings, Within buffer size place := by
  intro place member
  obtain ⟨span, spanned, rfl⟩ := List.mem_map.mp member
  have bounds := spans_bounds spanned
  exact ⟨span.1, rfl, by simp only; omega⟩

theorem listedStrings_ordered (order : ByteOrder) (buffer : Address)
    (strings : List (List UInt8)) :
    (listedStrings order buffer 0 strings).Pairwise Precedes := by
  refine List.pairwise_map.mpr ((spans_apart 0 strings).imp ?_)
  intro first second apart
  exact ⟨rfl, by simp only [advance_offset]; omega⟩

theorem listedStrings_hold {order : ByteOrder} {memory : Memory Block UInt8} {buffer : Address}
    {strings : List (List UInt8)} {rest : List UInt8} {size : Nat}
    (bytes : valuesAt memory buffer size = (uint32Code order).encode strings ++ rest) :
    (listedStrings order buffer 0 strings).map (fun place => valuesAt memory place.1 place.2) =
      strings := by
  have sizes := congrArg List.length bytes
  rw [length_valuesAt, List.length_append] at sizes
  have slices : ((uint32Code order).spans 0 strings).map (fun span =>
      (([] ++ ((uint32Code order).encode strings ++ rest)).drop span.1).take span.2) = strings :=
    spans_slices rest rfl
  conv_rhs => rw [← slices]
  rw [listedStrings, List.map_map]
  apply List.map_congr_left
  intro span spanned
  have bounds := spans_bounds spanned
  rw [Function.comp, valuesAt_slice (show span.1 + span.2 ≤ size by omega), bytes, List.nil_append]

/-- Whatever the bytes are, the loads stay in the buffer and the strings listed are in
order, apart and its first bytes; what was encoded is listed again. -/
theorem validateStringBuffer_lists (order : ByteOrder) (memory : Memory Block UInt8)
    (buffer : Address) (bufferByteSize expectedElementCnt : Nat) (inputName : String) :
    let result := validateStringBuffer order memory buffer bufferByteSize expectedElementCnt
      inputName (some [])
    (∀ load ∈ result.2.loads, Within buffer bufferByteSize load) ∧
    (∃ listed, result.2.strList = some listed ∧ listed.length ≤ expectedElementCnt ∧
      (∀ place ∈ listed, Within buffer bufferByteSize place) ∧ listed.Pairwise Precedes ∧
      (uint32Code order).encode (listed.map fun place => valuesAt memory place.1 place.2) <+:
        valuesAt memory buffer bufferByteSize) ∧
    ∀ strings : List (List UInt8), strings.length = expectedElementCnt →
      (∀ string ∈ strings, string.length < 2 ^ 32) →
      valuesAt memory buffer bufferByteSize = (uint32Code order).encode strings →
      result.1 = none ∧ ∃ listed, result.2.strList = some listed ∧
        listed.map (fun place => valuesAt memory place.1 place.2) = strings := by
  intro result
  have started : result = validateStrings order memory { expectedElementCnt, inputName } 0
      (buffer.advance 0) bufferByteSize { strList := some [], loads := [] } := by
    rw [advance_zero]
    rfl
  obtain ⟨strings, rest, passes, counted, _⟩ := validateStrings_passes order memory
    { expectedElementCnt, inputName } buffer 0 bufferByteSize 0
    { strList := some [], loads := [] } (Nat.zero_le _)
  rw [← started] at passes
  have bytes := passes.bytes
  rw [advance_zero] at bytes
  have sizes := congrArg List.length bytes
  rw [length_valuesAt, List.length_append] at sizes
  refine ⟨?_, ⟨listedStrings order buffer 0 strings, passes.listed, ?_, ?_, ?_, ?_⟩, ?_⟩
  · obtain ⟨loads, listed, placed⟩ := passes.loads
    intro load member
    rw [listed, List.nil_append] at member
    obtain ⟨offset, rfl, _, upper⟩ := placed load member
    exact ⟨offset, rfl, by simpa using upper⟩
  · rw [listedStrings, List.length_map, spans_length]
    simpa using counted
  · exact listedStrings_within (by omega)
  · exact listedStrings_ordered order buffer strings
  · rw [listedStrings_hold bytes, bytes]
    exact List.prefix_append _ _
  · intro encoded encodedCount fits encodedBytes
    have accepted := validateStrings_accepts order memory
      { expectedElementCnt, inputName } buffer encoded 0 bufferByteSize 0
      { strList := some [], loads := [] } fits
      (by rw [advance_zero, List.append_nil, encodedBytes]) (by simp) (by simpa using encodedCount)
    rw [← started] at accepted
    exact ⟨accepted.1, _, accepted.2,
      listedStrings_hold (encodedBytes.trans (List.append_nil _).symm)⟩

end TritonBackend
