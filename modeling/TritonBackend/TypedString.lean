import TritonBackend.StringBuffer
import TritonBackend.Numerals
import TritonBackend.Separated

/-!
`BufferAsTypedString`. The number of elements is a quotient by the size of the data type,
taken ahead of the switch that would refuse a data type without one.
-/

namespace TritonBackend

open CopyStream Numerals Separated

structure FloatFormat where
  exponentBits : Nat
  mantissaBits : Nat
deriving DecidableEq, Repr

def binary32 : FloatFormat := {
  exponentBits := 8
  mantissaBits := 23 }

def binary64 : FloatFormat := {
  exponentBits := 11
  mantissaBits := 52 }

/-- The quotient rounded to the nearest, ties to even. -/
def roundedQuotient (n d : Nat) : Nat :=
  let quotient := n / d
  let rest := n % d
  if 2 * rest < d ∨ (2 * rest = d ∧ quotient % 2 = 0) then quotient else quotient + 1

/-- The decimal notation of a number of millionths, with six places. -/
def fixedNumber (millionths : Nat) : String :=
  toString (millionths / 10 ^ 6) ++ "." ++
    String.ofList ((Nat.toDigits 10 (10 ^ 6 + millionths % 10 ^ 6)).drop 1)

/-- `std::to_string` of a floating-point number, which formats it with `%f`. -/
def FloatFormat.fixedString (format : FloatFormat) (bits : Nat) : String :=
  let mantissa := bits % 2 ^ format.mantissaBits
  let exponent := bits / 2 ^ format.mantissaBits % 2 ^ format.exponentBits
  let negative := bits / 2 ^ (format.mantissaBits + format.exponentBits) % 2 = 1
  let significand := if exponent = 0 then mantissa else 2 ^ format.mantissaBits + mantissa
  let scale := 2 ^ (2 ^ (format.exponentBits - 1) - 1 + format.mantissaBits)
  let magnitude :=
    if exponent = 2 ^ format.exponentBits - 1 then if mantissa = 0 then "inf" else "nan"
    else fixedNumber (roundedQuotient (significand * 2 ^ max exponent 1 * 10 ^ 6) scale)
  if negative then "-" ++ magnitude else magnitude

example : binary32.fixedString 0x3fc00000 = "1.500000" := by decide +kernel
example : binary64.fixedString 0x3fb999999999999a = "0.100000" := by decide +kernel

inductive Element
  | integer (value : Int)
  | floating (format : FloatFormat) (bits : Nat)
deriving DecidableEq, Repr

def Element.text : Element → String
  | .integer value => toString value
  | .floating format bits => format.fixedString bits

/-- The types that the template is instantiated at. -/
inductive ElementType
  | unsigned (size : Nat)
  | signed (size : Nat)
  | float
  | double
deriving DecidableEq, Repr

def ElementType.size : ElementType → Nat
  | .unsigned size => size
  | .signed size => size
  | .float => 4
  | .double => 8

def unsignedValue (order : ByteOrder) (bytes : List UInt8) : Nat :=
  (order.arrange bytes).foldr (fun byte higher => byte.toNat + 2 ^ 8 * higher) 0

def ElementType.element (type : ElementType) (order : ByteOrder) (bytes : List UInt8) : Element :=
  match type with
  | .unsigned _ => .integer (unsignedValue order bytes)
  | .signed size => .integer ((unsignedValue order bytes : Int).bmod (2 ^ (8 * size)))
  | .float => .floating binary32 (unsignedValue order bytes)
  | .double => .floating binary64 (unsignedValue order bytes)

structure TypedString where
  str : String
  loads : List (Address × Nat)
deriving DecidableEq, Repr

section
variable (order : ByteOrder) (memory : Memory Block UInt8) (buffer : Address)

def appendElements (type : ElementType) (i : Nat) (typed : TypedString) : Nat → TypedString
  | 0 => typed
  | remaining + 1 =>
      let place := buffer.advance (i * type.size)
      let element := type.element order (valuesAt memory place type.size)
      let str := if i ≠ 0 then typed.str ++ ", " else typed.str
      appendElements type (i + 1) {
        str := str ++ element.text
        loads := typed.loads ++ [(place, type.size)] } remaining

def bufferAsTypedStringOf (type : ElementType) (str : String) (elementCnt : Nat) : TypedString :=
  let typed := appendElements order memory buffer type 0 {
    str := str ++ "[ "
    loads := [] } elementCnt
  { typed with str := typed.str ++ " ]" }

/-- The quotient of two sizes; a division by zero is undefined. -/
def sizeQuotient (n d : Nat) : Option Nat := if d = 0 then none else some (n / d)

def bufferAsTypedString (dataTypeString : DataType → String) (str : String)
    (bufferByteSize : Nat) (datatype : DataType) : Option (Option TritonError × TypedString) :=
  (sizeQuotient bufferByteSize (dataTypeByteSize datatype)).map fun elementCnt =>
    match datatype with
    | .uint8 => (none, bufferAsTypedStringOf order memory buffer (.unsigned 1) str elementCnt)
    | .uint16 => (none, bufferAsTypedStringOf order memory buffer (.unsigned 2) str elementCnt)
    | .uint32 => (none, bufferAsTypedStringOf order memory buffer (.unsigned 4) str elementCnt)
    | .uint64 => (none, bufferAsTypedStringOf order memory buffer (.unsigned 8) str elementCnt)
    | .int8 => (none, bufferAsTypedStringOf order memory buffer (.signed 1) str elementCnt)
    | .int16 => (none, bufferAsTypedStringOf order memory buffer (.signed 2) str elementCnt)
    | .int32 => (none, bufferAsTypedStringOf order memory buffer (.signed 4) str elementCnt)
    | .int64 => (none, bufferAsTypedStringOf order memory buffer (.signed 8) str elementCnt)
    | .fp32 => (none, bufferAsTypedStringOf order memory buffer .float str elementCnt)
    | .fp64 => (none, bufferAsTypedStringOf order memory buffer .double str elementCnt)
    | _ => (errorNew .invalidArg ("class result not available for output due to " ++
        "unsupported type '" ++ dataTypeString datatype ++ "'"), { str := str, loads := [] })

end

def elementType : DataType → Option ElementType
  | .uint8 => some (.unsigned 1)
  | .uint16 => some (.unsigned 2)
  | .uint32 => some (.unsigned 4)
  | .uint64 => some (.unsigned 8)
  | .int8 => some (.signed 1)
  | .int16 => some (.signed 2)
  | .int32 => some (.signed 4)
  | .int64 => some (.signed 8)
  | .fp32 => some .float
  | .fp64 => some .double
  | _ => none

def elementsFrom (order : ByteOrder) (memory : Memory Block UInt8) (buffer : Address)
    (type : ElementType) (i cnt : Nat) : List Element :=
  (List.range' i cnt).map fun place =>
    type.element order (valuesAt memory (buffer.advance (place * type.size)) type.size)

def ElementType.IsInteger (type : ElementType) : Prop := type ≠ .float ∧ type ≠ .double

def bracketed (pieces : List String) : String := "[ " ++ ", ".intercalate pieces ++ " ]"

structure Shown (order : ByteOrder) (memory : Memory Block UInt8) (buffer : Address) (str : String)
    (bufferByteSize : Nat) (datatype : DataType) (error : Option TritonError)
    (typed : TypedString) : Prop where
  inside : ∀ load ∈ typed.loads, ∃ offset, load.1 = buffer.advance offset ∧
    offset + load.2 ≤ bufferByteSize
  listed {type : ElementType} : elementType datatype = some type → error = none ∧
    typed.str = str ++ bracketed ((elementsFrom order memory buffer type 0
      (bufferByteSize / type.size)).map Element.text)
  recovered {type : ElementType} : elementType datatype = some type → type.IsInteger →
    ∃ values : List Int, elementsFrom order memory buffer type 0 (bufferByteSize / type.size) =
      values.map Element.integer ∧
    ∀ others : List Int, typed.str = str ++ bracketed (others.map toString) → others = values
  refused : elementType datatype = none → error ≠ none ∧ typed.str = str

section
variable {order : ByteOrder} {memory : Memory Block UInt8} {buffer : Address}

theorem elementsFrom_succ (type : ElementType) (i cnt : Nat) :
    elementsFrom order memory buffer type i (cnt + 1) =
      type.element order (valuesAt memory (buffer.advance (i * type.size)) type.size) ::
        elementsFrom order memory buffer type (i + 1) cnt := by
  rw [elementsFrom, List.range'_succ, List.map_cons]
  rfl

theorem appendElements_later (type : ElementType) {i : Nat} (later : i ≠ 0) (typed : TypedString)
    (cnt : Nat) :
    (appendElements order memory buffer type i typed cnt).str = typed.str ++
      String.join ((elementsFrom order memory buffer type i cnt).map fun element =>
        ", " ++ element.text) := by
  induction cnt generalizing i typed with
  | zero => simp [appendElements, elementsFrom]
  | succ cnt ih =>
      rw [appendElements, ih (Nat.succ_ne_zero i), elementsFrom_succ, List.map_cons,
        String.join_cons, if_pos later]
      simp only [String.append_assoc]

theorem appendElements_str (type : ElementType) (typed : TypedString) (cnt : Nat) :
    (appendElements order memory buffer type 0 typed cnt).str = typed.str ++
      ", ".intercalate ((elementsFrom order memory buffer type 0 cnt).map Element.text) := by
  cases cnt with
  | zero => simp [appendElements, elementsFrom]
  | succ cnt =>
      rw [appendElements, appendElements_later type (Nat.succ_ne_zero 0), elementsFrom_succ,
        List.map_cons, intercalate_cons_join, List.map_map, if_neg (by decide),
        String.append_assoc]
      rfl

theorem appendElements_loads (type : ElementType) (i : Nat) (typed : TypedString) (cnt : Nat) :
    (appendElements order memory buffer type i typed cnt).loads = typed.loads ++
      (List.range' i cnt).map fun place => (buffer.advance (place * type.size), type.size) := by
  induction cnt generalizing i typed with
  | zero => simp [appendElements]
  | succ cnt ih =>
      rw [appendElements, ih, List.range'_succ, List.map_cons, List.append_assoc]
      rfl

theorem bufferAsTypedStringOf_str (type : ElementType) (str : String) (cnt : Nat) :
    (bufferAsTypedStringOf order memory buffer type str cnt).str =
      str ++ bracketed ((elementsFrom order memory buffer type 0 cnt).map Element.text) := by
  simp only [bufferAsTypedStringOf, appendElements_str, bracketed, String.append_assoc]

/-- As many elements as fit into the buffer are loaded from inside it. -/
theorem bufferAsTypedStringOf_inside (type : ElementType) (str : String) (bufferByteSize : Nat) :
    ∀ load ∈ (bufferAsTypedStringOf order memory buffer type str
        (bufferByteSize / type.size)).loads,
      ∃ offset, load.1 = buffer.advance offset ∧ offset + load.2 ≤ bufferByteSize := by
  intro load member
  simp only [bufferAsTypedStringOf, appendElements_loads, List.nil_append, List.mem_map,
    List.mem_range'_1, Nat.zero_le, true_and, Nat.zero_add] at member
  obtain ⟨place, below, rfl⟩ := member
  refine ⟨place * type.size, rfl, ?_⟩
  calc
    place * type.size + type.size = (place + 1) * type.size := (Nat.succ_mul place type.size).symm
    _ ≤ bufferByteSize / type.size * type.size := Nat.mul_le_mul_right _ below
    _ ≤ bufferByteSize := Nat.div_mul_le_self _ _

theorem elementsFrom_integers {type : ElementType} (isInteger : type.IsInteger) (i cnt : Nat) :
    ∃ values : List Int,
      elementsFrom order memory buffer type i cnt = values.map Element.integer := by
  cases type with
  | float => exact absurd rfl isInteger.1
  | double => exact absurd rfl isInteger.2
  | unsigned size =>
      exact ⟨_, (List.map_map (f := fun place : Nat => (unsignedValue order
        (valuesAt memory (buffer.advance (place * size)) size) : Int))).symm⟩
  | signed size =>
      exact ⟨_, (List.map_map (f := fun place : Nat => (unsignedValue order
        (valuesAt memory (buffer.advance (place * size)) size) : Int).bmod
          (2 ^ (8 * size)))).symm⟩

theorem integers_delimited : Delimited isSymbol (fun value : Int => (toString value).toList)
    ", ".toList " ]".toList where
  injective := toString_injective
  nonempty value := by
    obtain ⟨negated, magnitude, isNumeral, -⟩ := numeral_toString value
    exact numeral_nonempty isNumeral
  inside value := by
    obtain ⟨negated, magnitude, isNumeral, -⟩ := numeral_toString value
    exact numeral_symbols isNumeral
  between := ⟨',', [' '], rfl, rfl⟩
  closes := by
    rintro first ⟨⟩
    rfl
  apart := by decide

theorem bracketed_integers {values others : List Int}
    (same : bracketed (others.map toString) = bracketed (values.map toString)) :
    others = values := by
  rw [bracketed, bracketed, String.append_assoc, String.append_assoc] at same
  exact intercalate_injective integers_delimited ((String.append_right_inj _).mp same)

theorem elementType_size {datatype : DataType} {type : ElementType}
    (supported : elementType datatype = some type) : dataTypeByteSize datatype = type.size := by
  cases datatype <;> cases supported <;> rfl

theorem bufferAsTypedString_supported (dataTypeString : DataType → String) (str : String)
    (bufferByteSize : Nat) {datatype : DataType} {type : ElementType}
    (supported : elementType datatype = some type) :
    bufferAsTypedString order memory buffer dataTypeString str bufferByteSize datatype =
      some (none, bufferAsTypedStringOf order memory buffer type str
        (bufferByteSize / type.size)) := by
  rw [← elementType_size supported]
  cases datatype <;> cases supported <;> rfl

theorem bufferAsTypedString_refused (dataTypeString : DataType → String) (str : String)
    (bufferByteSize : Nat) {datatype : DataType} (unsupported : elementType datatype = none)
    (sized : dataTypeByteSize datatype ≠ 0) :
    bufferAsTypedString order memory buffer dataTypeString str bufferByteSize datatype =
      some (errorNew .invalidArg ("class result not available for output due to " ++
        "unsupported type '" ++ dataTypeString datatype ++ "'"), {
          str := str
          loads := [] }) := by
  rw [bufferAsTypedString, sizeQuotient, if_neg sized, Option.map_some]
  cases datatype <;> first | rfl | cases unsupported

theorem shown_supported (str : String) (bufferByteSize : Nat) {datatype : DataType}
    {type : ElementType} (supported : elementType datatype = some type) :
    Shown order memory buffer str bufferByteSize datatype none
      (bufferAsTypedStringOf order memory buffer type str (bufferByteSize / type.size)) where
  inside := bufferAsTypedStringOf_inside type str bufferByteSize
  listed := by
    intro other same
    obtain rfl := Option.some.inj (supported.symm.trans same)
    exact ⟨rfl, bufferAsTypedStringOf_str type str _⟩
  recovered := by
    intro other same isInteger
    obtain rfl := Option.some.inj (supported.symm.trans same)
    obtain ⟨values, integers⟩ := elementsFrom_integers isInteger 0 (bufferByteSize / type.size)
    refine ⟨values, integers, fun others text => ?_⟩
    rw [bufferAsTypedStringOf_str, integers, List.map_map] at text
    exact bracketed_integers ((String.append_right_inj _).mp text).symm
  refused unsupported := by
    rw [supported] at unsupported
    cases unsupported

/-- What is expected holds exactly of the data types with a size. -/
theorem bufferAsTypedString_shown_iff (dataTypeString : DataType → String) (str : String)
    (bufferByteSize : Nat) (datatype : DataType) :
    (∃ error typed,
      bufferAsTypedString order memory buffer dataTypeString str bufferByteSize datatype =
        some (error, typed) ∧
      Shown order memory buffer str bufferByteSize datatype error typed) ↔
    dataTypeByteSize datatype ≠ 0 := by
  constructor
  · rintro ⟨error, typed, defined, -⟩ sizeless
    rw [bufferAsTypedString, sizeQuotient, if_pos sizeless] at defined
    cases defined
  · intro sized
    cases supported : elementType datatype with
    | some type =>
        exact ⟨none, _, bufferAsTypedString_supported dataTypeString str bufferByteSize supported,
          shown_supported str bufferByteSize supported⟩
    | none =>
        refine ⟨_, _, bufferAsTypedString_refused dataTypeString str bufferByteSize supported sized,
          ?_⟩
        constructor
        · exact nofun
        · exact fun same => nomatch supported.symm.trans same
        · exact fun same => nomatch supported.symm.trans same
        · intro _
          exact ⟨Option.some_ne_none _, rfl⟩

end

/-- The size of strings is divided by 0 before the data type is refused. -/
theorem not_shown_bytes : ¬ ∃ error typed,
    bufferAsTypedString .littleEndian (fun _ _ => 0) nullAddress (fun _ => "BYTES") "" 4 .bytes =
      some (error, typed) ∧
    Shown .littleEndian (fun _ _ => 0) nullAddress "" 4 .bytes error typed := by
  rintro ⟨error, typed, defined, -⟩
  cases defined

end TritonBackend
