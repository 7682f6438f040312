import TritonBackend.JsonCore

/-!
`GetBooleanSequenceControlProperties` and `GetTypedSequenceControlProperties`: which
tensor, of which type and values, a sequence batcher uses for a kind of control.
-/

namespace TritonBackend

open Fallible

/-- The arguments that are only read. -/
structure ControlQuery where
  modelName : String
  controlKind : String
  required : Bool
deriving DecidableEq, Repr

/-- What a scan of `control_input` carries along; `out` is what the function returns. -/
structure ControlScan (Out : Type) where
  seenTensors : List String
  seenControl : Bool
  out : Out

section
variable {Value : Type} [TritonJson Value] {Out : Type}

/-- A control under the name of its entry. The kind asked for may be given once. -/
def matchControl (query : ControlQuery)
    (onControl : String → Value → Out → Outcome TritonError Out) (inputName : String)
    (scan : ControlScan Out) (control : String × Value) : Outcome TritonError (ControlScan Out) :=
  if control.1 ≠ query.controlKind then (none, scan)
  else if scan.seenControl then
    (errorNew .invalidArg ("sequence batching specifies multiple " ++ query.controlKind ++
      " tensors for " ++ query.modelName), scan)
  else
    let applied := onControl inputName control.2 scan.out
    (applied.1, { scan with seenControl := true, out := applied.2 })

/-- Notes the name of an entry, which has to be new, before its controls are looked at. -/
def enterTensor (query : ControlQuery) (scan : ControlScan Out) (inputName : String)
    (next : ControlScan Out → Outcome TritonError (ControlScan Out)) :
    Outcome TritonError (ControlScan Out) :=
  if inputName = "" then
    (errorNew .invalidArg ("sequence batching control tensor must have a name for " ++
      query.modelName), scan)
  else if inputName ∈ scan.seenTensors then
    (errorNew .invalidArg ("sequence batching control tensor '" ++ inputName ++
      "' is specified for multiple control kinds for " ++ query.modelName), scan)
  else next { scan with seenTensors := inputName :: scan.seenTensors }

def scanControl (query : ControlQuery)
    (onControl : String → Value → Out → Outcome TritonError Out) (inputName : String)
    (scan : ControlScan Out) (c : Value) : Outcome TritonError (ControlScan Out) :=
  reading (TritonJson.memberAsString c "kind") scan fun kind =>
    matchControl query onControl inputName scan (kind, c)

def scanControlInput (query : ControlQuery)
    (onControl : String → Value → Out → Outcome TritonError Out) (scan : ControlScan Out)
    (controlInput : Value) : Outcome TritonError (ControlScan Out) :=
  reading (TritonJson.memberAsString controlInput "name") scan fun inputName =>
    enterTensor query scan inputName
      (forObjects (TritonJson.find controlInput "control") (scanControl query onControl inputName))

/-- The two functions up to what they do with the control that they look for. -/
def getSequenceControlProperties (query : ControlQuery)
    (onControl : String → Value → Out → Outcome TritonError Out) (clear : Out → Out)
    (batcher : Value) (out : Out) : Outcome TritonError Out :=
  let scanned := forObjects (TritonJson.find batcher "control_input")
    (scanControlInput query onControl) { seenTensors := [], seenControl := false, out }
  match scanned.1 with
  | some error => (some error, scanned.2.out)
  | none =>
      if scanned.2.seenControl then (none, scanned.2.out)
      else if query.required then
        (errorNew .invalidArg ("sequence batching control tensor must specify a " ++
          query.controlKind ++ " value for " ++ query.modelName), scanned.2.out)
      else (none, clear scanned.2.out)

/-! The two functions. An argument that is a null pointer is `none`. -/

/-- `found_int32`, `found_fp32` and `found_bool`: the array, when it is not empty. -/
def foundArray (c : Value) (key : String) : Option Value :=
  (TritonJson.find c key).filter fun array => 0 < TritonJson.arraySize array

structure BooleanControl where
  tensorName : String
  tensorDatatype : Option String
  fp32FalseValue : Option Float32
  fp32TrueValue : Option Float32
  int32FalseValue : Option Int
  int32TrueValue : Option Int
  boolFalseValue : Option Bool
  boolTrueValue : Option Bool

/-- Writes through a pointer unless it is null. -/
def putElement {α β : Type} (element : Except TritonError α) (convert : α → β)
    (pointer : Option β) (store : Option β → BooleanControl) (out : BooleanControl) :
    Outcome TritonError BooleanControl :=
  match pointer with
  | none => (none, out)
  | some _ => reading element out fun value => (none, store (some (convert value)))

def ControlQuery.wrongEntries (query : ControlQuery) (key : String) : String :=
  "sequence batching control '" ++ key ++ "' must have exactly 2 entries for " ++
    query.controlKind ++ " for " ++ query.modelName

def BooleanControl.setDatatype (out : BooleanControl) (datatype : String) : BooleanControl :=
  { out with tensorDatatype := out.tensorDatatype.map fun _ => datatype }

def putFalseTrue (query : ControlQuery) (key datatype : String) (array : Value)
    (putFalse putTrue : BooleanControl → Outcome TritonError BooleanControl)
    (out : BooleanControl) : Outcome TritonError BooleanControl :=
  if TritonJson.arraySize array ≠ 2 then (errorNew .invalidArg (query.wrongEntries key), out)
  else andThen (putFalse (out.setDatatype datatype)) putTrue

def putInt32 (query : ControlQuery) (array : Value) : BooleanControl →
    Outcome TritonError BooleanControl :=
  putFalseTrue query "int32_false_true" "TYPE_INT32" array
    (fun out => putElement (TritonJson.indexAsInt array 0) narrowInt32 out.int32FalseValue
      (fun value => { out with int32FalseValue := value }) out)
    (fun out => putElement (TritonJson.indexAsInt array 1) narrowInt32 out.int32TrueValue
      (fun value => { out with int32TrueValue := value }) out)

def putFp32 (query : ControlQuery) (array : Value) : BooleanControl →
    Outcome TritonError BooleanControl :=
  putFalseTrue query "fp32_false_true" "TYPE_FP32" array
    (fun out => putElement (TritonJson.indexAsDouble array 0) Float.toFloat32 out.fp32FalseValue
      (fun value => { out with fp32FalseValue := value }) out)
    (fun out => putElement (TritonJson.indexAsDouble array 1) Float.toFloat32 out.fp32TrueValue
      (fun value => { out with fp32TrueValue := value }) out)

def putBool (query : ControlQuery) (array : Value) : BooleanControl →
    Outcome TritonError BooleanControl :=
  putFalseTrue query "bool_false_true" "TYPE_BOOL" array
    (fun out => putElement (TritonJson.indexAsBool array 0) id out.boolFalseValue
      (fun value => { out with boolFalseValue := value }) out)
    (fun out => putElement (TritonJson.indexAsBool array 1) id out.boolTrueValue
      (fun value => { out with boolTrueValue := value }) out)

def setBooleanControl (query : ControlQuery) (inputName : String) (c : Value)
    (out : BooleanControl) : Outcome TritonError BooleanControl :=
  let named := { out with tensorName := inputName }
  match foundArray c "int32_false_true", foundArray c "fp32_false_true",
      foundArray c "bool_false_true" with
  | none, none, none =>
      (errorNew .invalidArg ("sequence batching must specify either 'int32_false_true', " ++
        "'fp32_false_true' or 'bool_false_true' for " ++ query.controlKind ++ " for " ++
        query.modelName), named)
  | some array, none, none => putInt32 query array named
  | none, some array, none => putFp32 query array named
  | none, none, some array => putBool query array named
  | _, _, _ =>
      (errorNew .invalidArg ("sequence batching specifies more than one from " ++
        "'int32_false_true', 'fp32_false_true' and 'bool_false_true' for " ++
        query.controlKind ++ " for " ++ query.modelName), named)

def getBooleanSequenceControlProperties (batcher : Value) (query : ControlQuery)
    (out : BooleanControl) : Outcome TritonError BooleanControl :=
  getSequenceControlProperties query (setBooleanControl query)
    (fun out => { out with tensorName := "" }) batcher out

structure TypedControl where
  tensorName : String
  tensorDatatype : Option String
deriving DecidableEq, Repr

def setTypedControl (query : ControlQuery) (inputName : String) (c : Value)
    (out : TypedControl) : Outcome TritonError TypedControl :=
  let named := { out with tensorName := inputName }
  andThen
    (match named.tensorDatatype with
      | none => (none, named)
      | some _ => reading (TritonJson.memberAsString c "data_type") named fun datatype =>
          (none, { named with tensorDatatype := some datatype }))
    fun typed =>
      if (foundArray c "fp32_false_true").isSome || (foundArray c "int32_false_true").isSome ||
          (foundArray c "bool_false_true").isSome then
        (errorNew .invalidArg ("sequence batching must not specify either 'int32_false_true', " ++
          "'fp32_false_true' or 'bool_false_true' for " ++ query.controlKind ++ " for " ++
          query.modelName), typed)
      else (none, typed)

def getTypedSequenceControlProperties (batcher : Value) (query : ControlQuery)
    (out : TypedControl) : Outcome TritonError TypedControl :=
  getSequenceControlProperties query (setTypedControl query)
    (fun out => { out with tensorName := "" }) batcher out

end

end TritonBackend
