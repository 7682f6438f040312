import TritonBackend.CommonCore
import TritonBackend.Fallible

/-!
The part of the `TritonJson` interface that configurations are read through. A handle
to a JSON value is opaque; every access may fail with an error of its own.
-/

namespace TritonBackend

open Fallible

class TritonJson (Value : Type) where
  /-- `Find`: the member, or nothing when there is none. -/
  find : Value → String → Option Value
  /-- `ArraySize`. -/
  arraySize : Value → Nat
  asBool : Value → Except TritonError Bool
  memberAsArray : Value → String → Except TritonError Value
  memberAsString : Value → String → Except TritonError String
  memberAsInt : Value → String → Except TritonError Int
  memberAsBool : Value → String → Except TritonError Bool
  indexAsObject : Value → Nat → Except TritonError Value
  indexAsString : Value → Nat → Except TritonError String
  indexAsInt : Value → Nat → Except TritonError Int
  indexAsDouble : Value → Nat → Except TritonError Float
  indexAsBool : Value → Nat → Except TritonError Bool
  /-- `PrettyWrite`; what it writes is only logged. -/
  prettyWrite : Value → Except TritonError Unit

/-- A 64-bit value assigned to an `int32_t` or an `int`. -/
def narrowInt32 (value : Int) : Int := value.bmod (2 ^ 32)

section
variable {Value : Type} [TritonJson Value]

/-- A loop over the objects of an array that may not be there. -/
def forObjects {σ : Type} (array : Option Value) (step : σ → Value → Outcome TritonError σ)
    (state : σ) : Outcome TritonError σ :=
  match array with
  | none => (none, state)
  | some array =>
      forEach (fun state idx => reading (TritonJson.indexAsObject array idx) state (step state))
        state (List.range (TritonJson.arraySize array))

def readObjects (array : Option Value) : Except TritonError (List Value) :=
  match array with
  | none => .ok []
  | some array => readAll (TritonJson.indexAsObject array) (List.range (TritonJson.arraySize array))

theorem forObjects_success {σ : Type} {array : Option Value}
    {step : σ → Value → Outcome TritonError σ} {state last : σ} :
    forObjects array step state = (none, last) ↔
      ∃ objects, readObjects array = .ok objects ∧ forEach step state objects = (none, last) := by
  cases array with
  | none => simp [forObjects, readObjects, forEach]
  | some array => exact forEach_reading fun _ _ _ => reading_success

/-- What a well-typed array holds: each of its places can be read, to the item that stands
there. -/
def TritonJson.Holds {α β : Type} (read : Nat → Except TritonError α) (size : Nat) (holds : α → β → Prop)
    (items : List β) : Prop :=
  List.Forall₂ (fun idx item => ∃ value, read idx = .ok value ∧ holds value item)
    (List.range size) items

/-- The array `name` holds these objects. -/
def TritonJson.Objects {β : Type} (value : Value) (name : String) (holds : Value → β → Prop)
    (items : List β) : Prop :=
  ∃ array, TritonJson.memberAsArray value name = .ok array ∧
    TritonJson.Holds (TritonJson.indexAsObject array) (TritonJson.arraySize array) holds items

def TritonJson.Strings (value : Value) (name : String) (items : List String) : Prop :=
  ∃ array, TritonJson.memberAsArray value name = .ok array ∧
    TritonJson.Holds (TritonJson.indexAsString array) (TritonJson.arraySize array) Eq items

def TritonJson.Ints (value : Value) (name : String) (items : List Int) : Prop :=
  ∃ array, TritonJson.memberAsArray value name = .ok array ∧
    TritonJson.Holds (TritonJson.indexAsInt array) (TritonJson.arraySize array) Eq items

theorem TritonJson.holds_read {α : Type} {read : Nat → Except TritonError α} {size : Nat}
    {items : List α} : TritonJson.Holds read size Eq items ↔
      readAll read (List.range size) = .ok items := by
  rw [TritonJson.Holds, readAll_success]
  simp only [exists_eq_right]

theorem TritonJson.objects_sized {β : Type} {value : Value} {name : String}
    {holds : Value → β → Prop} {items : List β} :
    TritonJson.Objects value name holds items ↔
      ∃ array, TritonJson.memberAsArray value name = .ok array ∧
        TritonJson.arraySize array = items.length ∧
        List.Forall₂ (fun idx item => ∃ io, TritonJson.indexAsObject array idx = .ok io ∧
          holds io item) (List.range items.length) items := by
  refine exists_congr fun array => and_congr_right fun _ => ?_
  rw [TritonJson.Holds]
  constructor
  · intro held
    have size : TritonJson.arraySize array = items.length := by simpa using held.length_eq
    exact ⟨size, size ▸ held⟩
  · rintro ⟨size, held⟩
    exact size ▸ held

def readStrings (value : Value) (name : String) : Except TritonError (List String) :=
  (TritonJson.memberAsArray value name).bind fun array =>
    readAll (TritonJson.indexAsString array) (List.range (TritonJson.arraySize array))

theorem TritonJson.Strings.read {value : Value} {name : String} {items : List String}
    (strings : TritonJson.Strings value name items) : readStrings value name = .ok items := by
  obtain ⟨array, isArray, holds⟩ := strings
  rw [readStrings, isArray]
  exact TritonJson.holds_read.mp holds

end

/-- A JSON document as a tree, read the way the interface documents. -/
inductive JsonTree
  | bool (value : Bool)
  | int (value : Int)
  | string (value : String)
  | array (elements : List JsonTree)
  | object (members : List (String × JsonTree))

namespace JsonTree

def member : JsonTree → String → Option JsonTree
  | .object members, name => members.lookup name
  | _, _ => none

def size : JsonTree → Nat
  | .array elements => elements.length
  | _ => 0

def element : JsonTree → Nat → Option JsonTree
  | .array elements, idx => elements[idx]?
  | _, _ => none

def expected (type : String) : TritonError :=
  { code := .invalidArg, message := "attempt to access JSON non-" ++ type ++ " as " ++ type }

def toBool : Option JsonTree → Except TritonError Bool
  | some (.bool value) => .ok value
  | _ => .error (expected "boolean")

def toInt : Option JsonTree → Except TritonError Int
  | some (.int value) => .ok value
  | _ => .error (expected "signed-integer")

def toDouble : Option JsonTree → Except TritonError Float
  | some (.int value) => .ok (Float.ofInt value)
  | _ => .error (expected "number")

def toText : Option JsonTree → Except TritonError String
  | some (.string value) => .ok value
  | _ => .error (expected "string")

def toArray : Option JsonTree → Except TritonError JsonTree
  | some (.array elements) => .ok (.array elements)
  | _ => .error (expected "array")

def toObject : Option JsonTree → Except TritonError JsonTree
  | some (.object members) => .ok (.object members)
  | _ => .error (expected "object")

end JsonTree

open JsonTree in
instance : TritonJson JsonTree where
  find := member
  arraySize := size
  asBool value := toBool (some value)
  memberAsArray value name := toArray (member value name)
  memberAsString value name := toText (member value name)
  memberAsInt value name := toInt (member value name)
  memberAsBool value name := toBool (member value name)
  indexAsObject value idx := toObject (element value idx)
  indexAsString value idx := toText (element value idx)
  indexAsInt value idx := toInt (element value idx)
  indexAsDouble value idx := toDouble (element value idx)
  indexAsBool value idx := toBool (element value idx)
  prettyWrite _ := .ok ()

end TritonBackend
