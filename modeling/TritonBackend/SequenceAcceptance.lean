import TritonBackend.SequenceControls

/-!
Which sequence batchers the two functions accept, and what they return for them. A well-typed
batcher is told as the lists it holds; the conditions are on these, in whatever order.
-/

namespace TritonBackend

open Fallible

structure Control where
  kind : String
  dataType : Option String
  int32FalseTrue : Option (List Int)
  fp32FalseTrue : Option (List Float)
  boolFalseTrue : Option (List Bool)

structure ControlInput where
  name : String
  control : Option (List Control)

structure SequenceBatcher where
  controlInput : Option (List ControlInput)

section
variable {Value : Type} [TritonJson Value]

/-- An array that need not be there. -/
def TritonJson.OptionalArray {α β : Type} (read : Value → Nat → Except TritonError α)
    (holds : α → β → Prop) (value : Value) (key : String) : Option (List β) → Prop
  | none => TritonJson.find value key = none
  | some items => ∃ array, TritonJson.find value key = some array ∧
      TritonJson.Holds (read array) (TritonJson.arraySize array) holds items

structure Control.Types (c : Value) (control : Control) : Prop where
  kind : TritonJson.memberAsString c "kind" = .ok control.kind
  dataType : (TritonJson.memberAsString c "data_type").toOption = control.dataType
  int32FalseTrue : TritonJson.OptionalArray TritonJson.indexAsInt Eq c "int32_false_true"
    control.int32FalseTrue
  fp32FalseTrue : TritonJson.OptionalArray TritonJson.indexAsDouble Eq c "fp32_false_true"
    control.fp32FalseTrue
  boolFalseTrue : TritonJson.OptionalArray TritonJson.indexAsBool Eq c "bool_false_true"
    control.boolFalseTrue

structure ControlInput.Types (controlInput : Value) (input : ControlInput) : Prop where
  name : TritonJson.memberAsString controlInput "name" = .ok input.name
  control : TritonJson.OptionalArray TritonJson.indexAsObject Control.Types controlInput "control"
    input.control

/-- The object is a well-typed sequence batcher, and this is what it says. -/
def SequenceBatcher.Types (batcher : Value) (b : SequenceBatcher) : Prop :=
  TritonJson.OptionalArray TritonJson.indexAsObject ControlInput.Types batcher "control_input"
    b.controlInput

end

def ControlInput.ofKind (kind : String) (input : ControlInput) : List (String × Control) :=
  ((input.control.getD []).filter fun control => control.kind = kind).map fun control =>
    (input.name, control)

namespace SequenceBatcher

def inputs (b : SequenceBatcher) : List ControlInput := b.controlInput.getD []

def ofKind (b : SequenceBatcher) (kind : String) : List (String × Control) :=
  b.inputs.flatMap (ControlInput.ofKind kind)

/-- The conditions on the names and on how often the kind is given. -/
structure Stands (b : SequenceBatcher) (kind : String) (required : Bool) : Prop where
  nonempty : ∀ input ∈ b.inputs, input.name ≠ ""
  distinct : (b.inputs.map ControlInput.name).Nodup
  once : (b.ofKind kind).length ≤ 1
  present : required = true → (b.ofKind kind).length = 1

end SequenceBatcher

inductive FalseTrue
  | int32 (falseValue trueValue : Int)
  | fp32 (falseValue trueValue : Float)
  | bool (falseValue trueValue : Bool)

/-- The lengths of the three arrays, an absent one taken as empty. -/
def Control.lengths (control : Control) : List Nat :=
  [(control.int32FalseTrue.getD []).length, (control.fp32FalseTrue.getD []).length,
    (control.boolFalseTrue.getD []).length]

/-- There is exactly one array that is not empty, and it has two entries. -/
def Control.OneArray (control : Control) : Prop := (control.lengths.filter fun n => n ≠ 0) = [2]

def Control.NoArray (control : Control) : Prop := ∀ n ∈ control.lengths, n = 0

/-- The values that an array of the control gives. -/
def Control.Gives (control : Control) : FalseTrue → Prop
  | .int32 falseValue trueValue => control.int32FalseTrue = some [falseValue, trueValue]
  | .fp32 falseValue trueValue => control.fp32FalseTrue = some [falseValue, trueValue]
  | .bool falseValue trueValue => control.boolFalseTrue = some [falseValue, trueValue]

def BooleanControl.write (out : BooleanControl) : FalseTrue → BooleanControl
  | .int32 falseValue trueValue => { out with
      tensorDatatype := some "TYPE_INT32"
      int32FalseValue := some falseValue
      int32TrueValue := some trueValue }
  | .fp32 falseValue trueValue => { out with
      tensorDatatype := some "TYPE_FP32"
      fp32FalseValue := some falseValue.toFloat32
      fp32TrueValue := some trueValue.toFloat32 }
  | .bool falseValue trueValue => { out with
      tensorDatatype := some "TYPE_BOOL"
      boolFalseValue := some falseValue
      boolTrueValue := some trueValue }

structure BooleanControl.NonNull (out : BooleanControl) : Prop where
  tensorDatatype : out.tensorDatatype.isSome
  fp32FalseValue : out.fp32FalseValue.isSome
  fp32TrueValue : out.fp32TrueValue.isSome
  int32FalseValue : out.int32FalseValue.isSome
  int32TrueValue : out.int32TrueValue.isSome
  boolFalseValue : out.boolFalseValue.isSome
  boolTrueValue : out.boolTrueValue.isSome

/-! What is read of a well-typed batcher. -/

section
variable {Value : Type} [TritonJson Value]

theorem optional_objects {β : Type} {holds : Value → β → Prop} {value : Value} {key : String}
    {items : Option (List β)}
    (typed : TritonJson.OptionalArray TritonJson.indexAsObject holds value key items) :
    ∃ objects, readObjects (TritonJson.find value key) = .ok objects ∧
      List.Forall₂ holds objects (items.getD []) := by
  cases items with
  | none =>
      rw [show TritonJson.find value key = none from typed]
      exact ⟨[], rfl, List.Forall₂.nil⟩
  | some items =>
      obtain ⟨array, found, held⟩ := typed
      rw [found]
      exact readAll_forall₂ held

def ControlHolds (read : String × Value) (control : Control) : Prop :=
  read.1 = control.kind ∧ control.Types read.2

structure ControlEntry.Holds (entry : ControlEntry Value) (input : ControlInput) : Prop where
  name : entry.name = input.name
  controls : List.Forall₂ ControlHolds entry.controls (input.control.getD [])

theorem readControl_holds {c : Value} {control : Control} (typed : control.Types c) :
    ∃ read, readControl c = .ok read ∧ ControlHolds read control := by
  rw [readControl, typed.kind]
  exact ⟨(control.kind, c), rfl, rfl, typed⟩

theorem readEntry_holds {controlInput : Value} {input : ControlInput}
    (typed : input.Types controlInput) :
    ∃ entry, readEntry controlInput = .ok entry ∧ ControlEntry.Holds entry input := by
  obtain ⟨objects, areObjects, types⟩ := optional_objects typed.control
  obtain ⟨controls, areRead, held⟩ := readAll_forall₂ (types.imp fun _ _ => readControl_holds)
  rw [readEntry, typed.name]
  simp only [Except.bind, areObjects, areRead, Except.map]
  exact ⟨_, rfl, rfl, held⟩

theorem readEntries_holds {batcher : Value} {b : SequenceBatcher} (typed : b.Types batcher) :
    ∃ entries, readEntries batcher = .ok entries ∧
      List.Forall₂ ControlEntry.Holds entries b.inputs := by
  obtain ⟨objects, areObjects, types⟩ := optional_objects typed
  rw [readEntries, areObjects]
  exact readAll_forall₂ (types.imp fun _ _ => readEntry_holds)

def MentionHolds (read : String × Value) (control : String × Control) : Prop :=
  read.1 = control.1 ∧ control.2.Types read.2

theorem entryMentions_hold (kind : String) {entry : ControlEntry Value} {input : ControlInput}
    (held : ControlEntry.Holds entry input) :
    List.Forall₂ MentionHolds (entry.mentions kind) (input.ofKind kind) := by
  obtain ⟨name, controls⟩ := held
  rw [ControlEntry.mentions, ControlInput.ofKind, name]
  generalize entry.controls = reads at controls
  generalize input.control.getD [] = items at controls
  induction controls with
  | nil => exact List.Forall₂.nil
  | @cons read control _ _ here _ ih =>
      rw [List.filter_cons, List.filter_cons, here.1]
      split
      · exact List.Forall₂.cons ⟨rfl, here.2⟩ ih
      · exact ih

theorem mentions_hold (kind : String) {entries : List (ControlEntry Value)} {b : SequenceBatcher}
    (held : List.Forall₂ ControlEntry.Holds entries b.inputs) :
    List.Forall₂ MentionHolds (mentions kind entries) (b.ofKind kind) := by
  rw [mentions, SequenceBatcher.ofKind]
  generalize b.inputs = inputs at held
  induction held with
  | nil => exact List.Forall₂.nil
  | cons here _ ih =>
      rw [List.flatMap_cons, List.flatMap_cons]
      exact List.rel_append (entryMentions_hold kind here) ih

theorem namesStand_inputs {entries : List (ControlEntry Value)} {inputs : List ControlInput}
    (held : List.Forall₂ ControlEntry.Holds entries inputs) :
    NamesStand entries ↔
      (∀ input ∈ inputs, input.name ≠ "") ∧ (inputs.map ControlInput.name).Nodup := by
  have names : entries.map ControlEntry.name = inputs.map ControlInput.name := by
    induction held with
    | nil => rfl
    | cons here _ ih => rw [List.map_cons, List.map_cons, here.name, ih]
  have nonempty : (∀ name ∈ entries.map ControlEntry.name, name ≠ "") ↔
      ∀ name ∈ inputs.map ControlInput.name, name ≠ "" := by rw [names]
  simp only [List.forall_mem_map] at nonempty
  rw [← nonempty, ← names]
  exact ⟨fun stand => ⟨stand.nonempty, stand.nodup⟩, fun both => ⟨both.1, both.2⟩⟩

/-! What is made of a control. -/

theorem holds_two {α : Type} {read : Nat → Except TritonError α} {size : Nat} {items : List α}
    (held : TritonJson.Holds read size Eq items) (two : size = 2) :
    ∃ falseValue trueValue, items = [falseValue, trueValue] ∧ read 0 = .ok falseValue ∧
      read 1 = .ok trueValue := by
  subst two
  obtain ⟨_, rest, ⟨falseValue, isFalse, rfl⟩, later, rfl⟩ := List.forall₂_cons_left_iff.mp held
  obtain ⟨_, none, ⟨trueValue, isTrue, rfl⟩, last, rfl⟩ := List.forall₂_cons_left_iff.mp later
  obtain rfl := List.forall₂_nil_left_iff.mp last
  exact ⟨falseValue, trueValue, rfl, isFalse, isTrue⟩

theorem holds_size {α : Type} {read : Nat → Except TritonError α} {size : Nat} {items : List α}
    (held : TritonJson.Holds read size Eq items) : size = items.length := by
  rw [← held.length_eq, List.length_range]

theorem putFalseTrue_success {query : ControlQuery} {key datatype : String} {array : Value}
    {putFalse putTrue : BooleanControl → Outcome TritonError BooleanControl}
    {out last : BooleanControl} :
    putFalseTrue query key datatype array putFalse putTrue out = (none, last) ↔
      TritonJson.arraySize array = 2 ∧ ∃ middle,
        putFalse (out.setDatatype datatype) = (none, middle) ∧ putTrue middle = (none, last) := by
  rw [putFalseTrue]
  by_cases two : TritonJson.arraySize array = 2
  · simp only [two, ne_eq, not_true_eq_false, if_false, true_and, andThen_success]
  · simp [two, errorNew]

theorem foundArray_typed {α : Type} {read : Value → Nat → Except TritonError α} {c : Value}
    {key : String} {items : Option (List α)}
    (typed : TritonJson.OptionalArray read Eq c key items) :
    ((items.getD []).length = 0 ∧ foundArray c key = none) ∨
      ∃ array, (items.getD []).length ≠ 0 ∧ foundArray c key = some array ∧
        TritonJson.Holds (read array) (TritonJson.arraySize array) Eq (items.getD []) := by
  rw [foundArray]
  cases items with
  | none =>
      rw [show TritonJson.find c key = none from typed]
      exact Or.inl ⟨rfl, rfl⟩
  | some items =>
      obtain ⟨array, found, held⟩ := typed
      have size := holds_size held
      rw [found, Option.getD_some]
      by_cases empty : items.length = 0
      · refine Or.inl ⟨empty, ?_⟩
        simp [Option.filter, size, empty]
      · refine Or.inr ⟨array, empty, ?_, held⟩
        simp [Option.filter, size, Nat.pos_of_ne_zero empty]

theorem narrowInt32_inRange {value : Int} (least : -2 ^ 31 ≤ value) (most : value < 2 ^ 31) :
    narrowInt32 value = value := Int.bmod_eq_of_le (by omega) (by omega)

theorem map_present {α β : Type} {pointer : Option α} (present : pointer.isSome) (value : β) :
    (pointer.map fun _ => value) = some value := by
  cases pointer with
  | none => cases present
  | some _ => rfl

/-- Neither pointer is null, so both entries are written. -/
theorem putElement_present {α β : Type} {element : Except TritonError α} {convert : α → β}
    {pointer : Option β} {store : Option β → BooleanControl} {out : BooleanControl} {value : α}
    (present : pointer.isSome) (isRead : element = .ok value) :
    putElement element convert pointer store out = (none, store (some (convert value))) := by
  cases pointer with
  | none => cases present
  | some _ => rw [putElement, isRead, reading]

theorem putFalseTrue_two {α : Type} {query : ControlQuery} {key datatype : String} {array : Value}
    {read : Nat → Except TritonError α} {items : List α} {out last : BooleanControl}
    {putFalse putTrue : BooleanControl → Outcome TritonError BooleanControl}
    {write : α → α → BooleanControl}
    (held : TritonJson.Holds read (TritonJson.arraySize array) Eq items)
    (puts : ∀ falseValue trueValue, items = [falseValue, trueValue] → read 0 = .ok falseValue →
      read 1 = .ok trueValue → ∃ middle, putFalse (out.setDatatype datatype) = (none, middle) ∧
        putTrue middle = (none, write falseValue trueValue)) :
    putFalseTrue query key datatype array putFalse putTrue out = (none, last) ↔
      ∃ falseValue trueValue,
        items = [falseValue, trueValue] ∧ last = write falseValue trueValue := by
  rw [putFalseTrue_success]
  constructor
  · rintro ⟨two, middle, first, second⟩
    obtain ⟨falseValue, trueValue, same, isFalse, isTrue⟩ := holds_two held two
    obtain ⟨between, firstPut, secondPut⟩ := puts falseValue trueValue same isFalse isTrue
    rw [firstPut] at first
    rw [← (Prod.mk.inj first).2, secondPut] at second
    exact ⟨falseValue, trueValue, same, (Prod.mk.inj second).2.symm⟩
  · rintro ⟨falseValue, trueValue, same, rfl⟩
    have two : TritonJson.arraySize array = 2 := by rw [holds_size held, same]; rfl
    obtain ⟨first, second, both, isFalse, isTrue⟩ := holds_two held two
    obtain ⟨rfl, rfl⟩ : falseValue = first ∧ trueValue = second := by
      simpa [same] using both
    exact ⟨two, puts falseValue trueValue same isFalse isTrue⟩

theorem putInt32_success {query : ControlQuery} {array : Value} {items : List Int}
    {out last : BooleanControl}
    (held : TritonJson.Holds (TritonJson.indexAsInt array) (TritonJson.arraySize array) Eq items)
    (pointers : out.NonNull) (inRange : ∀ item ∈ items, -2 ^ 31 ≤ item ∧ item < 2 ^ 31) :
    putInt32 query array out = (none, last) ↔ ∃ falseValue trueValue,
      items = [falseValue, trueValue] ∧ last = out.write (.int32 falseValue trueValue) := by
  refine putFalseTrue_two held fun falseValue trueValue same isFalse isTrue => ?_
  subst same
  have falseIn := inRange falseValue (by simp)
  have trueIn := inRange trueValue (by simp)
  refine ⟨_, putElement_present pointers.int32FalseValue isFalse,
    (putElement_present pointers.int32TrueValue isTrue).trans ?_⟩
  rw [narrowInt32_inRange falseIn.1 falseIn.2, narrowInt32_inRange trueIn.1 trueIn.2]
  simp only [BooleanControl.setDatatype, map_present pointers.tensorDatatype]
  rfl

theorem putFp32_success {query : ControlQuery} {array : Value} {items : List Float}
    {out last : BooleanControl}
    (held : TritonJson.Holds (TritonJson.indexAsDouble array) (TritonJson.arraySize array) Eq items)
    (pointers : out.NonNull) :
    putFp32 query array out = (none, last) ↔ ∃ falseValue trueValue,
      items = [falseValue, trueValue] ∧ last = out.write (.fp32 falseValue trueValue) := by
  refine putFalseTrue_two held fun falseValue trueValue same isFalse isTrue => ?_
  refine ⟨_, putElement_present pointers.fp32FalseValue isFalse,
    (putElement_present pointers.fp32TrueValue isTrue).trans ?_⟩
  simp only [BooleanControl.setDatatype, map_present pointers.tensorDatatype]
  rfl

theorem putBool_success {query : ControlQuery} {array : Value} {items : List Bool}
    {out last : BooleanControl}
    (held : TritonJson.Holds (TritonJson.indexAsBool array) (TritonJson.arraySize array) Eq items)
    (pointers : out.NonNull) :
    putBool query array out = (none, last) ↔ ∃ falseValue trueValue,
      items = [falseValue, trueValue] ∧ last = out.write (.bool falseValue trueValue) := by
  refine putFalseTrue_two held fun falseValue trueValue same isFalse isTrue => ?_
  refine ⟨_, putElement_present pointers.boolFalseValue isFalse,
    (putElement_present pointers.boolTrueValue isTrue).trans ?_⟩
  simp only [BooleanControl.setDatatype, map_present pointers.tensorDatatype]
  rfl

theorem getD_pair {α : Type} {items : Option (List α)} {first second : α} :
    items.getD [] = [first, second] ↔ items = some [first, second] := by
  cases items with
  | none => simp
  | some items => simp

theorem absent_pair {α : Type} {items : Option (List α)} (absent : (items.getD []).length = 0)
    (first second : α) : items ≠ some [first, second] := by
  rintro rfl
  cases absent

theorem exists_falseTrue {P : FalseTrue → Prop} :
    (∃ values, P values) ↔ (∃ falseValue trueValue, P (.int32 falseValue trueValue)) ∨
      (∃ falseValue trueValue, P (.fp32 falseValue trueValue)) ∨
        ∃ falseValue trueValue, P (.bool falseValue trueValue) := by
  constructor
  · rintro ⟨values, held⟩
    cases values with
    | int32 falseValue trueValue => exact Or.inl ⟨_, _, held⟩
    | fp32 falseValue trueValue => exact Or.inr (Or.inl ⟨_, _, held⟩)
    | bool falseValue trueValue => exact Or.inr (Or.inr ⟨_, _, held⟩)
  · rintro (⟨_, _, held⟩ | ⟨_, _, held⟩ | ⟨_, _, held⟩) <;> exact ⟨_, held⟩

theorem foundArray_none {α : Type} {read : Value → Nat → Except TritonError α} {c : Value}
    {key : String} {items : Option (List α)}
    (typed : TritonJson.OptionalArray read Eq c key items) :
    (foundArray c key).isNone ↔ (items.getD []).length = 0 := by
  rcases foundArray_typed typed with ⟨absent, none⟩ | ⟨array, present, found, -⟩
  · simp [none, absent]
  · simp [found, present]

/-- A control of the kind that is looked for, with the values of its one array. -/
theorem setBooleanControl_success {query : ControlQuery} {name : String} {c : Value}
    {control : Control} (typed : control.Types c) {out last : BooleanControl}
    (pointers : out.NonNull)
    (inRange : ∀ item ∈ control.int32FalseTrue.getD [], -2 ^ 31 ≤ item ∧ item < 2 ^ 31) :
    setBooleanControl query name c out = (none, last) ↔
      control.OneArray ∧ ∃ values, control.Gives values ∧
        last = { out with tensorName := name }.write values := by
  have named : { out with tensorName := name }.NonNull := { pointers with }
  simp only [setBooleanControl, Control.OneArray, Control.lengths]
  rcases foundArray_typed typed.int32FalseTrue with
    ⟨noInt32, int32⟩ | ⟨int32s, someInt32, int32, heldInt32⟩
  · rcases foundArray_typed typed.fp32FalseTrue with
      ⟨noFp32, fp32⟩ | ⟨fp32s, someFp32, fp32, heldFp32⟩
    · rcases foundArray_typed typed.boolFalseTrue with
        ⟨noBool, bool⟩ | ⟨bools, someBool, bool, heldBool⟩
      · simp [int32, fp32, bool, noInt32, noFp32, noBool, errorNew]
      · simp only [int32, fp32, bool, putBool_success heldBool named, exists_falseTrue, Control.Gives,
          absent_pair noInt32, absent_pair noFp32, ← getD_pair, false_and, exists_false, false_or]
        refine (and_iff_right_of_imp ?_).symm
        rintro ⟨falseValue, trueValue, same, -⟩
        simp [noInt32, noFp32, same]
    · rcases foundArray_typed typed.boolFalseTrue with
        ⟨noBool, bool⟩ | ⟨bools, someBool, bool, heldBool⟩
      · simp only [int32, fp32, bool, putFp32_success heldFp32 named, exists_falseTrue, Control.Gives,
          absent_pair noInt32, absent_pair noBool, ← getD_pair, false_and, exists_false, false_or, or_false]
        refine (and_iff_right_of_imp ?_).symm
        rintro ⟨falseValue, trueValue, same, -⟩
        simp [noInt32, noBool, same]
      · simp [int32, fp32, bool, noInt32, someFp32, someBool, errorNew]
  · rcases foundArray_typed typed.fp32FalseTrue with
      ⟨noFp32, fp32⟩ | ⟨fp32s, someFp32, fp32, heldFp32⟩
    · rcases foundArray_typed typed.boolFalseTrue with
        ⟨noBool, bool⟩ | ⟨bools, someBool, bool, heldBool⟩
      · simp only [int32, fp32, bool, putInt32_success heldInt32 named inRange, exists_falseTrue,
          Control.Gives, absent_pair noFp32, absent_pair noBool, ← getD_pair, false_and, exists_false, or_false]
        refine (and_iff_right_of_imp ?_).symm
        rintro ⟨falseValue, trueValue, same, -⟩
        simp [noFp32, noBool, same]
      · simp [int32, fp32, bool, someInt32, noFp32, someBool, errorNew]
    · rcases foundArray_typed typed.boolFalseTrue with
        ⟨noBool, bool⟩ | ⟨bools, someBool, bool, heldBool⟩
      · simp [int32, fp32, bool, someInt32, someFp32, noBool, errorNew]
      · simp [int32, fp32, bool, someInt32, someFp32, someBool, errorNew]

theorem setTypedControl_success {query : ControlQuery} {name : String} {c : Value}
    {control : Control} (typed : control.Types c) {out last : TypedControl}
    (pointer : out.tensorDatatype.isSome) :
    setTypedControl query name c out = (none, last) ↔
      control.NoArray ∧ ∃ dataType, control.dataType = some dataType ∧
        last = { tensorName := name, tensorDatatype := some dataType } := by
  have arrays : ((foundArray c "fp32_false_true").isSome ||
      (foundArray c "int32_false_true").isSome || (foundArray c "bool_false_true").isSome) = false ↔
        control.NoArray := by
    simp only [Bool.or_eq_false_iff, Option.isSome_eq_false_iff,
      foundArray_none typed.int32FalseTrue, foundArray_none typed.fp32FalseTrue,
      foundArray_none typed.boolFalseTrue, Control.NoArray, Control.lengths, List.forall_mem_cons,
      List.not_mem_nil, false_implies, implies_true, and_true, and_assoc, and_left_comm]
  obtain ⟨before, present⟩ := Option.isSome_iff_exists.mp pointer
  simp only [setTypedControl, present, ← typed.dataType]
  cases TritonJson.memberAsString c "data_type" with
  | error error => simp [reading, andThen, Except.toOption]
  | ok dataType =>
      simp only [reading, andThen, Except.toOption, Option.some.injEq, exists_eq_left', ← arrays]
      cases (foundArray c "fp32_false_true").isSome || (foundArray c "int32_false_true").isSome ||
          (foundArray c "bool_false_true").isSome with
      | false => simp [eq_comm]
      | true => simp [errorNew]

/-! The whole batcher. -/

variable {Out : Type} {query : ControlQuery}
  {onControl : String → Value → Out → Outcome TritonError Out}

theorem properties_typed {batcher : Value} {b : SequenceBatcher} (typed : b.Types batcher)
    {clear : Out → Out} {out last : Out} {result : String → Control → Out → Prop}
    (controls : ∀ name c control, (name, control) ∈ b.ofKind query.controlKind → control.Types c →
      (onControl name c out = (none, last) ↔ result name control last)) :
    getSequenceControlProperties query onControl clear batcher out = (none, last) ↔
      b.Stands query.controlKind query.required ∧
        ((b.ofKind query.controlKind = [] ∧ last = clear out) ∨
          ∃ name control, b.ofKind query.controlKind = [(name, control)] ∧
            result name control last) := by
  obtain ⟨entries, areRead, held⟩ := readEntries_holds typed
  have listed := mentions_hold query.controlKind held
  have stands : b.Stands query.controlKind query.required ↔ NamesStand entries ∧
      (b.ofKind query.controlKind).length ≤ 1 ∧
      (query.required = true → (b.ofKind query.controlKind).length = 1) := by
    rw [namesStand_inputs held]
    exact ⟨fun stands => ⟨⟨stands.nonempty, stands.distinct⟩, stands.once, stands.present⟩,
      fun all => ⟨all.1.1, all.1.2, all.2.1, all.2.2⟩⟩
  rw [properties_success, stands]
  simp only [areRead, Except.ok.injEq, exists_eq_left']
  generalize mentions query.controlKind entries = reads at listed
  generalize b.ofKind query.controlKind = items at listed controls
  cases listed with
  | nil => simp [and_assoc]
  | @cons read item _ _ here later =>
      cases later with
      | nil =>
          obtain ⟨name, c⟩ := read
          obtain ⟨found, control⟩ := item
          obtain ⟨rfl, types⟩ := here
          have accepts := controls _ c control List.mem_cons_self types
          simp [accepts]
      | cons _ _ => simp

/-- The conditions, and what is returned, for a function that accepts some of the controls. -/
structure Answers (b : SequenceBatcher) (query : ControlQuery) (accepts : Control → Prop)
    (clear : Out → Out) (returns : String → Control → Out → Prop) (out : Out)
    (result : Outcome TritonError Out) : Prop where
  accepts : result.1 = none ↔ b.Stands query.controlKind query.required ∧
    ∀ found ∈ b.ofKind query.controlKind, accepts found.2
  unmapped : result.1 = none → b.ofKind query.controlKind = [] → result.2 = clear out
  mapped : result.1 = none → ∀ name control, b.ofKind query.controlKind = [(name, control)] →
    returns name control result.2

theorem answers_typed {batcher : Value} {b : SequenceBatcher} (typed : b.Types batcher)
    {clear : Out → Out} {out : Out} {accepts : Control → Prop}
    {returns : String → Control → Out → Prop}
    (controls : ∀ name c control last, (name, control) ∈ b.ofKind query.controlKind →
      control.Types c →
      (onControl name c out = (none, last) ↔ accepts control ∧ returns name control last))
    (returned : ∀ name control, accepts control → ∃ last, returns name control last) :
    Answers b query accepts clear returns out
      (getSequenceControlProperties query onControl clear batcher out) := by
  have succeeds (last : Out) := @properties_typed _ _ _ query onControl batcher b typed clear out
    last (fun name control last => accepts control ∧ returns name control last)
    fun name c control member types => controls name c control last member types
  generalize getSequenceControlProperties query onControl clear batcher out = result at succeeds ⊢
  have whole (success : result.1 = none) := (succeeds result.2).mp (Prod.ext success rfl)
  refine ⟨⟨fun success => ?_, fun both => ?_⟩, fun success unlisted => ?_,
    fun success name control listed => ?_⟩
  · obtain ⟨stands, ⟨unlisted, -⟩ | ⟨name, control, listed, accepted, -⟩⟩ := whole success
    · rw [unlisted]
      exact ⟨stands, fun _ member => absurd member List.not_mem_nil⟩
    · rw [listed]
      refine ⟨stands, fun found member => ?_⟩
      rw [List.mem_singleton.mp member]
      exact accepted
  · obtain ⟨stands, accepted⟩ := both
    have once := stands.once
    cases items : b.ofKind query.controlKind with
    | nil =>
        rw [(succeeds (clear out)).mpr ⟨stands, Or.inl ⟨items, rfl⟩⟩]
    | cons found rest =>
        obtain ⟨name, control⟩ := found
        rw [items] at once accepted
        obtain rfl : rest = [] := List.eq_nil_of_length_eq_zero (by simpa using once)
        have accepts := accepted (name, control) List.mem_cons_self
        obtain ⟨last, returns⟩ := returned name control accepts
        rw [(succeeds last).mpr ⟨stands, Or.inr ⟨name, control, items, accepts, returns⟩⟩]
  · obtain ⟨-, ⟨-, cleared⟩ | ⟨name, control, listed, -⟩⟩ := whole success
    · exact cleared
    · rw [unlisted] at listed
      cases listed
  · obtain ⟨-, ⟨unlisted, -⟩ | ⟨name', control', again, -, returns⟩⟩ := whole success
    · rw [unlisted] at listed
      cases listed
    · rw [listed] at again
      cases again
      exact returns

end

/-- The entries of the arrays of integers fit an `int32_t`. -/
def SequenceBatcher.InRange (b : SequenceBatcher) : Prop :=
  ∀ input ∈ b.inputs, ∀ control ∈ input.control.getD [], ∀ item ∈ control.int32FalseTrue.getD [],
    -2 ^ 31 ≤ item ∧ item < 2 ^ 31

theorem SequenceBatcher.InRange.ofKind {b : SequenceBatcher} (inRange : b.InRange) {kind : String}
    {name : String} {control : Control} (member : (name, control) ∈ b.ofKind kind) :
    ∀ item ∈ control.int32FalseTrue.getD [], -2 ^ 31 ≤ item ∧ item < 2 ^ 31 := by
  obtain ⟨input, present, mentioned⟩ := List.mem_flatMap.mp member
  obtain ⟨found, inside, same⟩ := List.mem_map.mp mentioned
  cases same
  exact inRange input present control (List.mem_filter.mp inside).1

theorem Control.OneArray.gives {control : Control} (one : control.OneArray) :
    ∃ values, control.Gives values := by
  rw [Control.OneArray, Control.lengths] at one
  by_cases noInt32 : (control.int32FalseTrue.getD []).length = 0
  · rw [List.filter_cons_of_neg (by simp [noInt32])] at one
    by_cases noFp32 : (control.fp32FalseTrue.getD []).length = 0
    · rw [List.filter_cons_of_neg (by simp [noFp32])] at one
      by_cases noBool : (control.boolFalseTrue.getD []).length = 0
      · rw [List.filter_cons_of_neg (by simp [noBool])] at one
        cases one
      · rw [List.filter_cons_of_pos (by simpa using noBool)] at one
        obtain ⟨falseValue, trueValue, same⟩ := List.length_eq_two.mp (List.cons.inj one).1
        exact ⟨.bool falseValue trueValue, getD_pair.mp same⟩
    · rw [List.filter_cons_of_pos (by simpa using noFp32)] at one
      obtain ⟨falseValue, trueValue, same⟩ := List.length_eq_two.mp (List.cons.inj one).1
      exact ⟨.fp32 falseValue trueValue, getD_pair.mp same⟩
  · rw [List.filter_cons_of_pos (by simpa using noInt32)] at one
    obtain ⟨falseValue, trueValue, same⟩ := List.length_eq_two.mp (List.cons.inj one).1
    exact ⟨.int32 falseValue trueValue, getD_pair.mp same⟩

section
variable {Value : Type} [TritonJson Value]

def BooleanAnswers (b : SequenceBatcher) (batcher : Value) (query : ControlQuery)
    (out : BooleanControl) : Prop :=
  Answers b query Control.OneArray (fun out => { out with tensorName := "" })
    (fun name control last => ∃ values, control.Gives values ∧
      last = { out with tensorName := name }.write values) out
    (getBooleanSequenceControlProperties batcher query out)

def TypedAnswers (b : SequenceBatcher) (batcher : Value) (query : ControlQuery)
    (out : TypedControl) : Prop :=
  Answers b query (fun control => control.NoArray ∧ control.dataType.isSome)
    (fun out => { out with tensorName := "" })
    (fun name control last => ∃ dataType, control.dataType = some dataType ∧
      last = { tensorName := name, tensorDatatype := some dataType }) out
    (getTypedSequenceControlProperties batcher query out)

/-- The two functions accept the batchers that they are to accept, and never both one that has a
control of the kind. -/
theorem sequenceControls_answer (batcher : Value) (b : SequenceBatcher) (typed : b.Types batcher)
    (inRange : b.InRange) (query : ControlQuery) (out : BooleanControl) (pointers : out.NonNull)
    (typedOut : TypedControl) (pointer : typedOut.tensorDatatype.isSome) :
    BooleanAnswers b batcher query out ∧ TypedAnswers b batcher query typedOut ∧
      (b.ofKind query.controlKind ≠ [] →
        ¬ ((getBooleanSequenceControlProperties batcher query out).1 = none ∧
          (getTypedSequenceControlProperties batcher query typedOut).1 = none)) := by
  have boolean : BooleanAnswers b batcher query out :=
    answers_typed typed (fun name c control last member types =>
      setBooleanControl_success types pointers (inRange.ofKind member)) fun name control one => by
        obtain ⟨values, gives⟩ := one.gives
        exact ⟨_, values, gives, rfl⟩
  have untyped : TypedAnswers b batcher query typedOut := by
    refine answers_typed typed (fun name c control last member types => ?_)
      fun name control both => ?_
    · rw [setTypedControl_success types pointer, and_assoc]
      refine and_congr_right fun _ => ?_
      rw [Option.isSome_iff_exists]
      exact ⟨fun given => ⟨given.imp fun _ both => both.1, given⟩, And.right⟩
    · obtain ⟨dataType, given⟩ := Option.isSome_iff_exists.mp both.2
      exact ⟨_, dataType, given, rfl⟩
  refine ⟨boolean, untyped, fun listed both => ?_⟩
  obtain ⟨found, member⟩ := List.exists_mem_of_ne_nil _ listed
  have one := (boolean.accepts.mp both.1).2 found member
  have none := ((untyped.accepts.mp both.2).2 found member).1
  have empty : found.2.lengths.filter (fun n => n ≠ 0) = [] :=
    List.filter_eq_nil_iff.mpr fun n inside => by simpa using none n inside
  rw [Control.OneArray, empty] at one
  cases one

end

def startAndReadyBatcher : SequenceBatcher :=
  let control (kind : String) : Control := {
    kind
    dataType := none
    int32FalseTrue := some [0, 1]
    fp32FalseTrue := none
    boolFalseTrue := none }
  { controlInput := some [{
      name := "CONTROL"
      control := some [control "CONTROL_SEQUENCE_START", control "CONTROL_SEQUENCE_READY"] }] }

theorem startAndReady_types : startAndReadyBatcher.Types startAndReady := by
  have pair (array : JsonTree) (same : array = .array [.int 0, .int 1]) :
      TritonJson.Holds (TritonJson.indexAsInt array) 2 Eq [0, 1] := by
    rw [same]
    exact List.Forall₂.cons ⟨0, rfl, rfl⟩ (List.Forall₂.cons ⟨1, rfl, rfl⟩ List.Forall₂.nil)
  refine ⟨_, rfl, List.Forall₂.cons ⟨_, rfl, rfl, ⟨_, rfl, ?_⟩⟩ List.Forall₂.nil⟩
  refine List.Forall₂.cons ⟨_, rfl, rfl, rfl, ⟨_, rfl, pair _ rfl⟩, rfl, rfl⟩ ?_
  exact List.Forall₂.cons ⟨_, rfl, rfl, rfl, ⟨_, rfl, pair _ rfl⟩, rfl, rfl⟩ List.Forall₂.nil

theorem sequenceControls_answer_start :
    let query : ControlQuery :=
      { modelName := "sequence", controlKind := "CONTROL_SEQUENCE_START", required := true }
    let out : BooleanControl := {
      tensorName := ""
      tensorDatatype := some ""
      fp32FalseValue := some 0
      fp32TrueValue := some 0
      int32FalseValue := some 0
      int32TrueValue := some 0
      boolFalseValue := some false
      boolTrueValue := some false }
    let typedOut : TypedControl := { tensorName := "", tensorDatatype := some "" }
    BooleanAnswers startAndReadyBatcher startAndReady query out ∧
      TypedAnswers startAndReadyBatcher startAndReady query typedOut ∧
      (startAndReadyBatcher.ofKind query.controlKind ≠ [] →
        ¬ ((getBooleanSequenceControlProperties startAndReady query out).1 = none ∧
          (getTypedSequenceControlProperties startAndReady query typedOut).1 = none)) := by
  intro query out typedOut
  exact sequenceControls_answer startAndReady startAndReadyBatcher startAndReady_types
    (by rw [SequenceBatcher.InRange]; decide) query out ⟨rfl, rfl, rfl, rfl, rfl, rfl, rfl⟩ typedOut rfl

end TritonBackend
