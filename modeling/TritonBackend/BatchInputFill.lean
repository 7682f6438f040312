import TritonBackend.GatheredTensor
import TritonBackend.BatchInputCore
import TritonBackend.HostStores
import TritonBackend.Shapes
import Mathlib.Algebra.BigOperators.Ring.List
import Mathlib.Algebra.Order.BigOperators.Group.List

/-!
What `ProcessBatchInput` leaves in a tensor on the host. The shape is made by one loop over
the requests and the values by another; both are compared with the values that the kind
stands for.
-/

namespace TritonBackend

open CopyStream

structure FindsShapes (env : Env) (requests : List Request) (name : String)
    (shapes : List (List Int)) : Prop where
  length : shapes.length = requests.length
  named : ∀ (idx : Nat) shape, shapes[idx]? = some shape → ∃ request input,
    requests[idx]? = some request ∧ request.input? name = some input ∧ input.shape = shape
  found : ∀ tick idx, idx < requests.length → env.outcome tick (.requestInput idx) = none
  described : ∀ tick, env.outcome tick .inputProperties = none

/-- The host has stored these bytes there, and nothing else. -/
def Sys.Stores (s s' : Sys) (address : Address) (bytes : List UInt8) : Prop :=
  ∀ initial, s'.device.memory initial = stored address bytes (s.device.memory initial)

theorem Sys.Stores.count (s : Sys) (tick : Nat) (address : Address) :
    s.Stores { s with tick } address [] := fun _ => (stored_nil address _).symm

theorem Sys.Stores.issue (s : Sys) (address : Address) (bytes : List UInt8) :
    s.Stores (s.issue (.host (.store address bytes))) address bytes := by
  intro initial
  simp [Sys.issue, Sys.note, Sys.device, Sys.actions, Event.action?, Device.memory, Device.step,
    applyAll, stored]

theorem Sys.Stores.append {s s' s'' : Sys} {address : Address} {first second : List UInt8}
    (before : s.Stores s' address first)
    (after : s'.Stores s'' (address.advance first.length) second) :
    s.Stores s'' address (first ++ second) := fun initial => by
  rw [after, before, stored_append]

theorem issue_copy_memory (s : Sys) (transfer : Copy Block) (initial : Memory Block UInt8) :
    (s.issue (.host (.copy transfer))).device.memory initial =
      (Effect.copy transfer).apply (s.device.memory initial) := by
  simp [Sys.issue, Sys.note, Sys.device, Sys.actions, Event.action?, Device.memory, Device.step,
    applyAll]

def valueBytes (env : Env) (dataType : DataType) (value : Int) : List UInt8 :=
  elementBytes (elementBits env dataType value)

@[simp] theorem length_valueBytes (env : Env) (dataType : DataType) (value : Int) :
    (valueBytes env dataType value).length = 4 := rfl

theorem length_flatMap_valueBytes (env : Env) (dataType : DataType) (values : List Int) :
    (values.flatMap (valueBytes env dataType)).length = 4 * values.length := by
  simp [List.length_flatMap, Nat.mul_comm]

theorem scanl_tail (next : Int → Int → Int) (value : Int) (counts : List Int) :
    counts.scanl next value = value :: (counts.scanl next value).tail := by
  cases counts with
  | nil => rw [List.scanl_nil, List.tail_cons]
  | cons count rest => rw [List.scanl_cons, List.tail_cons]

section
variable {env : Env} {cfg : CollectorConfig} {name : String} {shapes : List (List Int)}

theorem inputShape_eq (finds : FindsShapes env cfg.requests name shapes) (s : Sys) {idx : Nat}
    {shape : List Int} {rest : List (List Int)} (split : shapes.drop idx = shape :: rest) :
    inputShape env cfg name s idx = (.ok shape, { s with tick := s.tick + 2 }) := by
  have present : shapes[idx]? = some shape := by
    rw [← List.head?_drop, split]
    rfl
  obtain ⟨request, input, there, named, rfl⟩ := finds.named idx shape present
  have inside := (List.getElem?_eq_some_iff.mp there).1
  simp [inputShape, requestInput, inputProperties, call_eq, finds.found _ _ inside,
    finds.described, there, named, Except.map]

theorem drop_succ {idx : Nat} {shape : List Int} {rest : List (List Int)}
    (split : shapes.drop idx = shape :: rest) : shapes.drop (idx + 1) = rest := by
  rw [← List.tail_drop, split, List.tail_cons]

theorem foldShapes_eq {α : Type} (finds : FindsShapes env cfg.requests name shapes)
    (step : α → List Int → α) (value : α) (s : Sys) {request : Nat} {rest : List (List Int)}
    (split : shapes.drop request = rest) :
    (foldShapes env cfg name step value s request rest.length).1 = .ok (rest.foldl step value) ∧
      ∃ tick, (foldShapes env cfg name step value s request rest.length).2 = { s with tick } := by
  induction rest generalizing value s request with
  | nil => exact ⟨rfl, s.tick, rfl⟩
  | cons shape rest ih =>
      obtain ⟨folded, tick, sys⟩ := ih (step value shape) { s with tick := s.tick + 2 }
        (drop_succ split)
      simp only [List.length_cons, foldShapes, inputShape_eq finds s split]
      exact ⟨folded, tick, sys⟩

theorem storeCounts_eq (finds : FindsShapes env cfg.requests name shapes) (dataType : DataType)
    (next : Int → Int → Int) (buffer : Address) {byteSize : Nat}
    (room : 4 * shapes.length ≤ byteSize) (value : Int) (s : Sys) {request : Nat}
    (inside : request ≤ shapes.length)
    {rest : List (List Int)} (split : shapes.drop request = rest) :
    let counts := rest.map getElementCount
    ∃ s', storeCounts env cfg dataType next name buffer byteSize value s request rest.length =
        (.ok (counts.foldl next value, 4 * shapes.length), s') ∧
      s.Stores s' (buffer.advance (4 * request))
        ((counts.scanl next value).tail.flatMap (valueBytes env dataType)) := by
  induction rest generalizing value s request with
  | nil =>
      have ends : request = shapes.length :=
        Nat.le_antisymm inside (List.drop_eq_nil_iff.mp split)
      exact ⟨s, by rw [ends]; rfl, Sys.Stores.count s s.tick _⟩
  | cons shape rest ih =>
      have bound : request < shapes.length := by
        rw [← Nat.not_le, ← List.drop_eq_nil_iff, split]
        exact List.cons_ne_nil _ _
      have fits : ¬ 4 * request + 4 > byteSize := by omega
      simp only [List.length_cons, storeCounts, if_neg fits, inputShape_eq finds s split]
      obtain ⟨s', result, stores⟩ := ih (next value (getElementCount shape))
        (storeElement env dataType { s with tick := s.tick + 2 } (buffer.advance (4 * request))
          (next value (getElementCount shape))) bound (drop_succ split)
      refine ⟨s', result, ?_⟩
      have first : s.Stores _ (buffer.advance (4 * request))
          (valueBytes env dataType (next value (getElementCount shape))) :=
        Sys.Stores.issue { s with tick := s.tick + 2 } _ _
      rw [List.map_cons, List.scanl_cons, List.tail_cons, scanl_tail, List.flatMap_cons]
      exact first.append (by rwa [length_valueBytes, advance_advance])

theorem setCounts_eq (finds : FindsShapes env cfg.requests name shapes) (dataType : DataType)
    (next : Int → Int → Int) (rest : Int → Int) (buffer : Address) (s : Sys) :
    ∃ s', setCounts env cfg dataType next rest name buffer (4 * shapes.length) s = (none, s') ∧
      s.Stores s' buffer
        (((shapes.map getElementCount).scanl next 0).tail.flatMap (valueBytes env dataType)) := by
  obtain ⟨s', result, stores⟩ := storeCounts_eq finds dataType next buffer (Nat.le_refl _) 0 s
    (Nat.zero_le _) (List.drop_zero (l := shapes))
  refine ⟨s', ?_, ?_⟩
  · rw [setCounts, ← finds.length, result]
    simp only [Nat.sub_self, Nat.zero_div]
    rfl
  · simpa using stores

/-! Shapes of items, each repeated for the size of its batch. -/

theorem storeShape_stores (dataType : DataType) (s : Sys) (address : Address) (dims : List Int) :
    s.Stores (storeShape env dataType s address dims) address
      (dims.flatMap (valueBytes env dataType)) := by
  induction dims generalizing s address with
  | nil => exact Sys.Stores.count s s.tick address
  | cons dim rest ih =>
      rw [storeShape, List.flatMap_cons]
      exact (Sys.Stores.issue s address _).append (ih _ _)

theorem repeatItem_stores {s s' : Sys} {buffer : Address} {item : List UInt8} (idx count : Nat)
    (stores : s.Stores s' buffer (List.replicate (idx + 1) item).flatten) :
    s.Stores (repeatItem buffer item.length s' (idx + 1) count) buffer
      (List.replicate (idx + 1 + count) item).flatten := by
  induction count generalizing s' idx with
  | zero => exact stores
  | succ count ih =>
      have order : idx + 1 + (count + 1) = idx + 1 + 1 + count := by omega
      rw [repeatItem, order]
      refine ih (idx + 1) fun initial => ?_
      rw [issue_copy_memory, stores, copy_repeated]

/-- The values of one request: its shape without the batch dimension, for each item. -/
def itemShapes (shape : List Int) : List Int :=
  (List.replicate (shape.headD 0).toNat shape.tail).flatten

theorem length_itemShapes (shape : List Int) :
    (itemShapes shape).length = (shape.headD 0).toNat * (shape.length - 1) := by
  simp [itemShapes]

theorem itemShapes_bytes (dataType : DataType) (shape : List Int) :
    (itemShapes shape).flatMap (valueBytes env dataType) =
      (List.replicate (shape.headD 0).toNat
        (shape.tail.flatMap (valueBytes env dataType))).flatten := by
  rw [itemShapes]
  induction (shape.headD 0).toNat with
  | zero => rfl
  | succ count ih =>
      rw [List.replicate_succ, List.flatten_cons, List.flatMap_append, ih, List.replicate_succ,
        List.flatten_cons]

theorem storeItems_stores (dataType : DataType) (s : Sys) (buffer : Address) {shape : List Int}
    (ranked : shape ≠ []) (some : 1 ≤ shape.headD 0) :
    s.Stores
      (repeatItem buffer (4 * itemRank shape) (storeShape env dataType s buffer shape.tail) 1
        ((shape.headD 0).toNat - 1)) buffer
      ((itemShapes shape).flatMap (valueBytes env dataType)) := by
  have size : 4 * itemRank shape = (shape.tail.flatMap (valueBytes env dataType)).length := by
    rw [length_flatMap_valueBytes, itemRank, if_neg (mt List.length_eq_zero_iff.mp ranked),
      List.length_tail]
  have once : s.Stores (storeShape env dataType s buffer shape.tail) buffer
      (List.replicate (0 + 1) (shape.tail.flatMap (valueBytes env dataType))).flatten := by
    simpa using storeShape_stores dataType s buffer shape.tail
  have whole := repeatItem_stores 0 ((shape.headD 0).toNat - 1) once
  have count : 0 + 1 + ((shape.headD 0).toNat - 1) = (shape.headD 0).toNat := by omega
  rw [count] at whole
  rw [size, itemShapes_bytes]
  exact whole

theorem toSize_natCast {size : Nat} (fits : size < 2 ^ 63) : toSize (size : Int) = size := by
  rw [toSize_of_fits (Int.natCast_nonneg size) (by omega), Int.toNat_natCast]

theorem setBatchItemShapeFrom_eq (finds : FindsShapes env cfg.requests name shapes)
    (dataType : DataType) (buffer : Address) {byteSize : Nat} (small : byteSize < 2 ^ 63)
    (s : Sys) (offset : Nat) {request : Nat} {rest : List (List Int)}
    (split : shapes.drop request = rest)
    (items : ∀ shape ∈ rest, shape ≠ [] ∧ 1 ≤ shape.headD 0 ∧ shape.headD 0 < 2 ^ 31)
    (room : offset + 4 * (rest.flatMap itemShapes).length ≤ byteSize) :
    ∃ s', setBatchItemShapeFrom env cfg dataType name buffer byteSize s offset request
        rest.length = (none, s') ∧
      s.Stores s' (buffer.advance offset)
        ((rest.flatMap itemShapes).flatMap (valueBytes env dataType)) := by
  induction rest generalizing s offset request with
  | nil => exact ⟨s, rfl, Sys.Stores.count s s.tick _⟩
  | cons shape rest ih =>
      obtain ⟨⟨ranked, some, upper⟩, later⟩ := List.forall_mem_cons.mp items
      rw [List.flatMap_cons, List.length_append] at room
      have batchSize : toSize (shape.headD 0) = (shape.headD 0).toNat :=
        toSize_of_fits (by omega) (by omega)
      have length : (shape.headD 0).toNat * (4 * itemRank shape) =
          4 * (itemShapes shape).length := by
        rw [length_itemShapes, itemRank, if_neg (mt List.length_eq_zero_iff.mp ranked),
          Nat.mul_left_comm]
      have extent : toSize (toSize (shape.headD 0) * (4 * itemRank shape : Nat)) =
          4 * (itemShapes shape).length := by
        rw [batchSize, ← Int.natCast_mul, length, toSize_natCast (by omega)]
      have reached : toSize ((offset : Int) + (4 * (itemShapes shape).length : Nat)) =
          offset + 4 * (itemShapes shape).length := by
        rw [← Int.natCast_add, toSize_natCast (by omega)]
      have fits : ¬ offset + 4 * (itemShapes shape).length > byteSize := by omega
      have stored := @storeItems_stores env dataType { s with tick := s.tick + 2 }
        (buffer.advance offset) shape ranked some
      simp only [List.length_cons, setBatchItemShapeFrom, inputShape_eq finds s split, extent,
        reached, if_neg fits]
      obtain ⟨s', result, stores⟩ := ih
        (repeatItem (buffer.advance offset) (4 * itemRank shape)
          (storeShape env dataType { s with tick := s.tick + 2 } (buffer.advance offset) shape.tail)
          1 ((shape.headD 0).toNat - 1))
        (offset + 4 * (itemShapes shape).length) (drop_succ split) later (by omega)
      refine ⟨s', result, ?_⟩
      rw [List.flatMap_cons, List.flatMap_append]
      exact Sys.Stores.append stored (by rwa [length_flatMap_valueBytes, advance_advance])

end

/-! What each kind stands for. -/

def batchTensorShape (kind : BatchInputKind) (shapes : List (List Int)) : List Int :=
  match kind with
  | .batchElementCount | .batchAccumulatedElementCount => [(shapes.length : Int)]
  | .batchAccumulatedElementCountWithZero => [(shapes.length : Int) + 1]
  | .batchMaxElementCountAsShape => [(shapes.map List.prod).foldl max 0]
  | .batchItemShape =>
      [(shapes.map fun shape => shape.headD 0).sum, ((shapes.headD []).length : Int) - 1]
  | .batchItemShapeFlatten =>
      [(shapes.map fun shape => shape.headD 0 * ((shape.length : Int) - 1)).sum]

theorem batchTensorShape_ne_nil (kind : BatchInputKind) (shapes : List (List Int)) :
    batchTensorShape kind shapes ≠ [] := by
  cases kind <;> exact List.cons_ne_nil _ _

def batchTensorValues (kind : BatchInputKind) (shapes : List (List Int)) : Option (List Int) :=
  let counts := shapes.map List.prod
  match kind with
  | .batchElementCount => some counts
  | .batchAccumulatedElementCount => some (counts.scanl (· + ·) 0).tail
  | .batchAccumulatedElementCountWithZero => some (counts.scanl (· + ·) 0)
  | .batchMaxElementCountAsShape => none
  | .batchItemShape | .batchItemShapeFlatten => some (shapes.flatMap itemShapes)

/-- Dimensions, element counts and their running sums fit in `int32_t`. Where the values
are items, the requests have one rank and at least one item each. -/
structure ShapesFit (kind : BatchInputKind) (shapes : List (List Int)) : Prop where
  ranked : ∀ shape ∈ shapes, shape ≠ []
  dims : ∀ shape ∈ shapes, ∀ dim ∈ shape, 0 ≤ dim ∧ dim < 2 ^ 31
  sums : (shapes.map List.prod).sum < 2 ^ 31
  items : kind = .batchItemShape ∨ kind = .batchItemShapeFlatten →
    ∃ rank, 2 ≤ rank ∧ ∀ shape ∈ shapes, shape.length = rank ∧ 1 ≤ shape.headD 0

section
variable {shapes : List (List Int)}

theorem elementCountFrom_toInt64 {dims : List Int} (nonneg : ∀ dim ∈ dims, 0 ≤ dim)
    (some : dims ≠ []) (cnt : Int) :
    toInt64 (elementCountFrom false cnt dims) = elementCountFrom false cnt dims := by
  induction dims generalizing cnt with
  | nil => exact absurd rfl some
  | cons dim rest ih =>
      obtain ⟨lower, later⟩ := List.forall_mem_cons.mp nonneg
      have known : dim ≠ wildcardDim := by
        rw [wildcardDim]
        omega
      rw [elementCountFrom, if_neg known, if_neg Bool.false_ne_true]
      cases rest with
      | nil => exact Int.bmod_bmod
      | cons next rest => exact ih later (List.cons_ne_nil _ _) _

theorem getElementCount_fits {dims : List Int} (nonneg : ∀ dim ∈ dims, 0 ≤ dim)
    (ranked : dims ≠ []) (fits : dims.prod < 2 ^ 63) : getElementCount dims = dims.prod := by
  cases dims with
  | nil => exact absurd rfl ranked
  | cons dim rest =>
      obtain ⟨lower, later⟩ := List.forall_mem_cons.mp nonneg
      have known : dim ≠ wildcardDim := by
        rw [wildcardDim]
        omega
      rw [getElementCount, elementCountFrom, if_neg known, if_pos rfl]
      cases rest with
      | nil => simp [elementCountFrom]
      | cons next rest =>
          rw [← elementCountFrom_toInt64 later (List.cons_ne_nil _ _) dim,
            elementCountFrom_prod later, ← List.prod_cons]
          exact toInt64_of_fits (List.prod_nonneg nonneg) fits

theorem ShapesFit.prod_nonneg {kind : BatchInputKind} (fits : ShapesFit kind shapes) :
    ∀ count ∈ shapes.map List.prod, 0 ≤ count := by
  intro count member
  obtain ⟨shape, present, rfl⟩ := List.mem_map.mp member
  exact List.prod_nonneg fun dim inside => (fits.dims shape present dim inside).1

theorem ShapesFit.counts {kind : BatchInputKind} (fits : ShapesFit kind shapes) :
    shapes.map getElementCount = shapes.map List.prod := by
  refine List.map_congr_left fun shape present => ?_
  have most := List.single_le_sum fits.prod_nonneg shape.prod (List.mem_map_of_mem present)
  have sums := fits.sums
  exact getElementCount_fits (fun dim inside => (fits.dims shape present dim inside).1)
    (fits.ranked shape present) (by omega)

theorem scanl_toSize {counts : List Int} (nonneg : ∀ count ∈ counts, 0 ≤ count) {value : Int}
    (start : 0 ≤ value) (fits : value + counts.sum < 2 ^ 63) :
    counts.scanl (fun value count => (toSize (value + count) : Int)) value =
      counts.scanl (· + ·) value := by
  induction counts generalizing value with
  | nil => rw [List.scanl_nil, List.scanl_nil]
  | cons count rest ih =>
      obtain ⟨here, later⟩ := List.forall_mem_cons.mp nonneg
      rw [List.sum_cons] at fits
      have most := List.sum_nonneg later
      have wraps : (toSize (value + count) : Int) = value + count := by
        rw [toSize_of_fits (by omega) (by omega)]
        omega
      rw [List.scanl_cons, List.scanl_cons, wraps, ih later (by omega) (by omega)]

theorem foldl_toInt64 {size : List Int → Int} (nonneg : ∀ shape ∈ shapes, 0 ≤ size shape)
    {value : Int} (start : 0 ≤ value) (fits : value + (shapes.map size).sum < 2 ^ 63) :
    shapes.foldl (fun value shape => toInt64 (value + size shape)) value =
      value + (shapes.map size).sum := by
  induction shapes generalizing value with
  | nil => simp
  | cons shape rest ih =>
      obtain ⟨here, later⟩ := List.forall_mem_cons.mp nonneg
      rw [List.map_cons, List.sum_cons] at fits ⊢
      have most : 0 ≤ (rest.map size).sum := List.sum_nonneg (by simpa using later)
      rw [List.foldl_cons, toInt64_of_fits (by omega) (by omega),
        ih later (by omega) (by omega), Int.add_assoc]

theorem foldl_itemShape {rank : Nat} (ranks : ∀ shape ∈ shapes, shape.length = rank)
    (value : Int) (last : Int) :
    shapes.foldl (fun value shape =>
        (toInt64 (value.1 + shape.headD 0), (itemRank shape : Int))) (value, last) =
      (shapes.foldl (fun value shape => toInt64 (value + shape.headD 0)) value,
        if shapes = [] then last else
          if rank = 0 then ((2 ^ 32 - 1 : Nat) : Int) else ((rank - 1 : Nat) : Int)) := by
  induction shapes generalizing value last with
  | nil => rfl
  | cons shape rest ih =>
      obtain ⟨here, later⟩ := List.forall_mem_cons.mp ranks
      rw [List.foldl_cons, ih later, List.foldl_cons, itemRank, here]
      split
      · simp
      · simp

theorem sum_items {rank : Nat} (ranks : ∀ shape ∈ shapes, shape.length = rank) :
    (shapes.map fun shape => shape.headD 0 * ((shape.length : Int) - 1)).sum =
      (shapes.map fun shape => shape.headD 0).sum * ((rank : Int) - 1) := by
  rw [← List.sum_map_mul_right]
  congr 1
  exact List.map_congr_left fun shape present => by rw [ranks shape present]

theorem length_items (items : ∀ shape ∈ shapes, shape ≠ [] ∧ 0 ≤ shape.headD 0) :
    ((shapes.flatMap itemShapes).length : Int) =
      (shapes.map fun shape => shape.headD 0 * ((shape.length : Int) - 1)).sum := by
  induction shapes with
  | nil => rfl
  | cons shape rest ih =>
      obtain ⟨⟨ranked, nonneg⟩, later⟩ := List.forall_mem_cons.mp items
      have length : 1 ≤ shape.length := List.length_pos_iff.mpr ranked
      rw [List.flatMap_cons, List.length_append, List.map_cons, List.sum_cons, ← ih later,
        length_itemShapes, Int.natCast_add, Int.natCast_mul, Int.toNat_of_nonneg nonneg,
        Int.natCast_sub length, Int.natCast_one]

/-- The shape and the values of a kind agree on how many elements there are. -/
theorem ShapesFit.length_values {kind : BatchInputKind} (fits : ShapesFit kind shapes)
    (batch : shapes ≠ []) {values : List Int}
    (isValues : batchTensorValues kind shapes = some values) :
    (values.length : Int) = (batchTensorShape kind shapes).prod := by
  have items (isItems : kind = .batchItemShape ∨ kind = .batchItemShapeFlatten) :
      ((shapes.flatMap itemShapes).length : Int) =
        (shapes.map fun shape => shape.headD 0 * ((shape.length : Int) - 1)).sum := by
    obtain ⟨rank, _, ranks⟩ := fits.items isItems
    exact length_items fun shape present =>
      ⟨fits.ranked shape present, by have := (ranks shape present).2; omega⟩
  cases kind with
  | batchElementCount =>
      cases isValues
      simp [batchTensorShape]
  | batchAccumulatedElementCount =>
      cases isValues
      simp [batchTensorShape]
  | batchAccumulatedElementCountWithZero =>
      cases isValues
      simp [batchTensorShape]
  | batchMaxElementCountAsShape => cases isValues
  | batchItemShape =>
      cases isValues
      obtain ⟨rank, _, ranks⟩ := fits.items (.inl rfl)
      obtain ⟨first, rest, rfl⟩ := List.exists_cons_of_ne_nil batch
      have firstRank := (ranks first List.mem_cons_self).1
      rw [items (.inl rfl), sum_items fun shape present => (ranks shape present).1]
      simp [batchTensorShape, firstRank]
  | batchItemShapeFlatten =>
      cases isValues
      rw [items (.inr rfl)]
      simp [batchTensorShape]

theorem foldl_max_nonneg {counts : List Int} {value : Int} (start : 0 ≤ value) :
    0 ≤ counts.foldl max value := by
  induction counts generalizing value with
  | nil => exact start
  | cons count rest ih => exact ih (Int.le_trans start (Int.le_max_left value count))

theorem ShapesFit.known {kind : BatchInputKind} (fits : ShapesFit kind shapes)
    (batch : shapes ≠ []) (addressable : shapeByteSize .int32 (batchTensorShape kind shapes) < 2 ^ 63) :
    KnownShape .int32 (batchTensorShape kind shapes) where
  fixed := by decide
  fits := addressable
  nonneg := by
    have items (isItems : kind = .batchItemShape ∨ kind = .batchItemShapeFlatten) :
        ∀ shape ∈ shapes, 0 ≤ shape.headD 0 ∧ (0 : Int) ≤ (shape.length : Int) - 1 := by
      obtain ⟨rank, _, ranks⟩ := fits.items isItems
      intro shape present
      obtain ⟨length, some⟩ := ranks shape present
      omega
    cases kind with
    | batchElementCount => simp [batchTensorShape]
    | batchAccumulatedElementCount => simp [batchTensorShape]
    | batchAccumulatedElementCountWithZero =>
        rw [batchTensorShape, List.forall_mem_singleton]
        omega
    | batchMaxElementCountAsShape =>
        rw [batchTensorShape, List.forall_mem_singleton]
        exact foldl_max_nonneg (Int.le_refl 0)
    | batchItemShape =>
        obtain ⟨first, rest, rfl⟩ := List.exists_cons_of_ne_nil batch
        rw [batchTensorShape, List.forall_mem_cons, List.forall_mem_singleton]
        refine ⟨List.sum_nonneg ?_, (items (.inl rfl) first List.mem_cons_self).2⟩
        exact List.forall_mem_map.mpr fun shape present => (items (.inl rfl) shape present).1
    | batchItemShapeFlatten =>
        rw [batchTensorShape, List.forall_mem_singleton]
        refine List.sum_nonneg (List.forall_mem_map.mpr fun shape present => ?_)
        exact Int.mul_nonneg (items (.inr rfl) shape present).1 (items (.inr rfl) shape present).2

end

/-! The call. -/

/-- Memory of this size, which no object exceeds, can be had of one of the allowed types, all
of which are on the host. -/
structure CanAllocate (env : Env) (allowed : List (MemoryType × Int)) (byteSize : Int) : Prop where
  host : ∀ pair ∈ allowed, pair.1 ≠ .gpu
  offered : ∃ pair ∈ allowed, ∃ allocType ∈ allocationTypes pair.1,
    ∀ tick, env.outcome tick (.allocate allocType) = none
  addressable : byteSize < 2 ^ 63

def int32Bytes (value : Int) : List UInt8 := elementBytes (BitVec.ofInt 32 value)

section
variable {env : Env} {cfg : CollectorConfig} {shapes : List (List Int)}
  {batchInput : BatchInput}

theorem ShapesFit.foldl_items (fits : ShapesFit .batchItemShape shapes) (batch : shapes ≠ [])
    (known : KnownShape .int32 (batchTensorShape .batchItemShape shapes)) :
    shapes.foldl (fun value shape => (toInt64 (value.1 + shape.headD 0), (itemRank shape : Int)))
        ((0 : Int), (0 : Int)) =
      ((shapes.map fun shape => shape.headD 0).sum, ((shapes.headD []).length : Int) - 1) := by
  have small := known.fits
  obtain ⟨rank, atLeast, ranks⟩ := fits.items (.inl rfl)
  obtain ⟨first, rest, rfl⟩ := List.exists_cons_of_ne_nil batch
  have firstRank := (ranks first List.mem_cons_self).1
  have nonneg : ∀ shape ∈ first :: rest, 0 ≤ shape.headD 0 := fun shape present =>
    Int.le_trans Int.one_nonneg (ranks shape present).2
  have most : 0 ≤ ((first :: rest).map fun shape => shape.headD 0).sum :=
    List.sum_nonneg (List.forall_mem_map.mpr nonneg)
  -- the tensor has at least as many elements as there are items
  have fewer : ((first :: rest).map fun shape => shape.headD 0).sum < 2 ^ 63 := by
    rw [batchTensorShape, shapeByteSize, shapeElementCount, if_neg (List.cons_ne_nil _ _),
      List.prod_cons, List.prod_singleton, List.headD_cons, firstRank] at small
    have grows := le_mul_of_one_le_right most (show (1 : Int) ≤ (rank : Int) - 1 by omega)
    simp only [dataTypeByteSize] at small
    omega
  rw [foldl_itemShape fun shape present => (ranks shape present).1,
    foldl_toInt64 nonneg (Int.le_refl 0) (by omega), if_neg (List.cons_ne_nil _ _),
    if_neg (show rank ≠ 0 by omega), List.headD_cons, firstRank, Int.zero_add,
    Int.natCast_sub (show 1 ≤ rank by omega), Int.natCast_one]

theorem ShapesFit.foldl_flattened (fits : ShapesFit .batchItemShapeFlatten shapes)
    (known : KnownShape .int32 (batchTensorShape .batchItemShapeFlatten shapes)) :
    shapes.foldl (fun value shape => toInt64 (value + toInt64 (shape.headD 0 * itemRank shape)))
        (0 : Int) =
      (shapes.map fun shape => shape.headD 0 * ((shape.length : Int) - 1)).sum := by
  have small := known.fits
  obtain ⟨rank, atLeast, ranks⟩ := fits.items (.inr rfl)
  have nonneg : ∀ shape ∈ shapes, 0 ≤ shape.headD 0 * ((shape.length : Int) - 1) := by
    intro shape present
    obtain ⟨length, some⟩ := ranks shape present
    exact Int.mul_nonneg (by omega) (by omega)
  have fewer : (shapes.map fun shape => shape.headD 0 * ((shape.length : Int) - 1)).sum <
      2 ^ 63 := by
    have most := List.sum_nonneg (List.forall_mem_map.mpr nonneg)
    rw [batchTensorShape, shapeByteSize, shapeElementCount, if_neg (List.cons_ne_nil _ _),
      List.prod_singleton] at small
    simp only [dataTypeByteSize] at small
    omega
  -- no single product wraps, since each is at most their sum
  have stepped : ∀ shape ∈ shapes, toInt64 (shape.headD 0 * (itemRank shape : Int)) =
      shape.headD 0 * ((shape.length : Int) - 1) := by
    intro shape present
    obtain ⟨length, some⟩ := ranks shape present
    have below := List.single_le_sum (List.forall_mem_map.mpr nonneg) _
      (List.mem_map_of_mem present)
    rw [itemRank, if_neg (show shape.length ≠ 0 by omega),
      Int.natCast_sub (show 1 ≤ shape.length by omega), Int.natCast_one]
    exact toInt64_of_fits (nonneg shape present) (by omega)
  have same := List.foldl_ext _
    (fun value shape => toInt64 (value + shape.headD 0 * ((shape.length : Int) - 1))) (0 : Int)
    fun value shape present => congrArg (fun size => toInt64 (value + size)) (stepped shape present)
  rw [same, foldl_toInt64 nonneg (Int.le_refl 0) (by omega), Int.zero_add]

theorem batchInputShape_eq (finds : FindsShapes env cfg.requests batchInput.sourceInput shapes)
    (fits : ShapesFit batchInput.kind shapes) (batch : shapes ≠ [])
    (known : KnownShape .int32 (batchTensorShape batchInput.kind shapes)) (s : Sys) :
    (batchInputShape env cfg batchInput s).1 = .ok (batchTensorShape batchInput.kind shapes) ∧
      ∃ tick, (batchInputShape env cfg batchInput s).2 = { s with tick } := by
  have folds {α : Type} (step : α → List Int → α) (value : α) :=
    foldShapes_eq finds step value s (List.drop_zero (l := shapes))
  rw [finds.length] at folds
  rw [batchInputShape]
  cases kind : batchInput.kind with
  | batchElementCount => exact ⟨by rw [batchTensorShape, finds.length], s.tick, rfl⟩
  | batchAccumulatedElementCount => exact ⟨by rw [batchTensorShape, finds.length], s.tick, rfl⟩
  | batchAccumulatedElementCountWithZero =>
      exact ⟨by rw [batchTensorShape, finds.length], s.tick, rfl⟩
  | batchMaxElementCountAsShape =>
      obtain ⟨folded, counted⟩ := folds (fun value shape => max value (getElementCount shape)) (0 : Int)
      refine ⟨?_, counted⟩
      simp only [folded, Except.map, batchTensorShape]
      rw [← fits.counts, List.foldl_map]
  | batchItemShape =>
      obtain ⟨folded, counted⟩ := folds (fun value shape =>
        (toInt64 (value.1 + shape.headD 0), (itemRank shape : Int))) ((0 : Int), (0 : Int))
      refine ⟨?_, counted⟩
      rw [kind] at fits known
      simp only [folded, Except.map, batchTensorShape, fits.foldl_items batch known]
  | batchItemShapeFlatten =>
      obtain ⟨folded, counted⟩ := folds (fun value shape =>
        toInt64 (value + toInt64 (shape.headD 0 * itemRank shape))) (0 : Int)
      refine ⟨?_, counted⟩
      rw [kind] at fits known
      simp only [folded, Except.map, batchTensorShape, fits.foldl_flattened known]

theorem scanl_latest (counts : List Int) (value : Int) :
    (counts.scanl (fun _ count => count) value).tail = counts := by
  induction counts generalizing value with
  | nil => rw [List.scanl_nil, List.tail_cons]
  | cons count rest ih => rw [List.scanl_cons, List.tail_cons, scanl_tail, ih]

theorem setElementCount_eq (finds : FindsShapes env cfg.requests batchInput.sourceInput shapes)
    {kind : BatchInputKind} (fits : ShapesFit kind shapes) (dataType : DataType) (buffer : Address)
    (s : Sys) :
    ∃ s', setElementCount env cfg dataType batchInput.sourceInput buffer (4 * shapes.length) s =
        (none, s') ∧
      s.Stores s' buffer ((shapes.map List.prod).flatMap (valueBytes env dataType)) := by
  rw [← fits.counts, ← scanl_latest (shapes.map getElementCount) 0]
  exact setCounts_eq finds dataType _ _ buffer s

theorem setAccumulatedElementCount_eq
    (finds : FindsShapes env cfg.requests batchInput.sourceInput shapes)
    {kind : BatchInputKind} (fits : ShapesFit kind shapes) (dataType : DataType) (buffer : Address)
    (s : Sys) :
    ∃ s', setAccumulatedElementCount env cfg dataType batchInput.sourceInput buffer
        (4 * shapes.length) s = (none, s') ∧
      s.Stores s' buffer
        (((shapes.map List.prod).scanl (· + ·) 0).tail.flatMap (valueBytes env dataType)) := by
  have small := fits.sums
  rw [← scanl_toSize fits.prod_nonneg (Int.le_refl 0) (by omega), ← fits.counts]
  exact setCounts_eq finds dataType _ _ buffer s

theorem setBatchItemShape_eq (finds : FindsShapes env cfg.requests batchInput.sourceInput shapes)
    {kind : BatchInputKind} (fits : ShapesFit kind shapes)
    (isItems : kind = .batchItemShape ∨ kind = .batchItemShapeFlatten) (dataType : DataType)
    (buffer : Address) (small : 4 * (shapes.flatMap itemShapes).length < 2 ^ 63) (s : Sys) :
    ∃ s', setBatchItemShape env cfg dataType batchInput.sourceInput buffer
        (4 * (shapes.flatMap itemShapes).length) s = (none, s') ∧
      s.Stores s' buffer ((shapes.flatMap itemShapes).flatMap (valueBytes env dataType)) := by
  obtain ⟨rank, _, ranks⟩ := fits.items isItems
  have items : ∀ shape ∈ shapes, shape ≠ [] ∧ 1 ≤ shape.headD 0 ∧ shape.headD 0 < 2 ^ 31 := by
    intro shape present
    have ranked := fits.ranked shape present
    obtain ⟨dim, rest, rfl⟩ := List.exists_cons_of_ne_nil ranked
    exact ⟨ranked, (ranks _ present).2, (fits.dims _ present dim List.mem_cons_self).2⟩
  have filled := setBatchItemShapeFrom_eq finds dataType buffer small s 0
    (List.drop_zero (l := shapes)) items (by omega)
  rw [finds.length, advance_zero] at filled
  exact filled

theorem fillBatchInput_eq (finds : FindsShapes env cfg.requests batchInput.sourceInput shapes)
    (fits : ShapesFit batchInput.kind shapes) (buffer : Address) {byteSize : Nat}
    (small : byteSize < 2 ^ 63)
    (sized : ∀ values, batchTensorValues batchInput.kind shapes = some values →
      byteSize = 4 * values.length) (s : Sys) :
    ∃ s', fillBatchInput env cfg batchInput buffer byteSize s = (none, s') ∧
      ∀ values, batchTensorValues batchInput.kind shapes = some values → ∀ initial,
        valuesAt (s'.device.memory initial) buffer byteSize =
          values.flatMap (valueBytes env batchInput.dataType) := by
  -- whatever stood there before, a store of the size of the tensor is what is read
  have filled {s s' : Sys} {values other : List Int} (size : byteSize = 4 * values.length)
      (stores : s.Stores s' buffer (values.flatMap (valueBytes env batchInput.dataType)))
      (same : some values = some other) (initial : Memory Block UInt8) :
      valuesAt (s'.device.memory initial) buffer byteSize =
        other.flatMap (valueBytes env batchInput.dataType) := by
    cases same
    rw [stores, size, ← length_flatMap_valueBytes env batchInput.dataType, valuesAt_stored]
  rw [fillBatchInput]
  cases kind : batchInput.kind with
  | batchElementCount =>
      rw [kind] at sized
      have size : byteSize = 4 * shapes.length := by simpa using sized _ rfl
      obtain ⟨s', result, stores⟩ := setElementCount_eq finds fits batchInput.dataType buffer s
      exact ⟨s', by rw [size]; exact result, fun _ same => filled (sized _ rfl) stores same⟩
  | batchAccumulatedElementCount =>
      rw [kind] at sized
      have size : byteSize = 4 * shapes.length := by simpa using sized _ rfl
      obtain ⟨s', result, stores⟩ :=
        setAccumulatedElementCount_eq finds fits batchInput.dataType buffer s
      exact ⟨s', by rw [size]; exact result, fun _ same => filled (sized _ rfl) stores same⟩
  | batchAccumulatedElementCountWithZero =>
      rw [kind] at sized
      have size : byteSize = 4 * shapes.length + 4 := by simpa [Nat.mul_add] using sized _ rfl
      have behind : toSize ((byteSize : Int) - 4) = 4 * shapes.length := by
        rw [toSize_of_fits (by omega) (by omega)]
        omega
      obtain ⟨s', result, stores⟩ := setAccumulatedElementCount_eq finds fits batchInput.dataType
        (buffer.advance 4) (storeElement env batchInput.dataType s buffer 0)
      have whole : s.Stores s' buffer (((shapes.map List.prod).scanl (· + ·) 0).flatMap
          (valueBytes env batchInput.dataType)) := by
        rw [scanl_tail, List.flatMap_cons]
        exact (Sys.Stores.issue s buffer (valueBytes env batchInput.dataType 0)).append stores
      exact ⟨s', by simp only [behind, result], fun _ same => filled (sized _ rfl) whole same⟩
  | batchMaxElementCountAsShape => exact ⟨s, rfl, fun _ impossible => by cases impossible⟩
  | batchItemShape =>
      rw [kind] at sized
      have size := sized _ rfl
      obtain ⟨s', result, stores⟩ := setBatchItemShape_eq finds fits (.inl kind)
        batchInput.dataType buffer (size ▸ small) (storeElement env batchInput.dataType s buffer 0)
      exact ⟨s', by rw [size]; exact result, fun _ same => filled size stores same⟩
  | batchItemShapeFlatten =>
      rw [kind] at sized
      have size := sized _ rfl
      obtain ⟨s', result, stores⟩ := setBatchItemShape_eq finds fits (.inr kind)
        batchInput.dataType buffer (size ▸ small) (storeElement env batchInput.dataType s buffer 0)
      exact ⟨s', by rw [size]; exact result, fun _ same => filled size stores same⟩

theorem createFrom_ok {allocTypes : List AllocationType} {allocType : AllocationType}
    (member : allocType ∈ allocTypes)
    (succeeds : ∀ tick, env.outcome tick (.allocate allocType) = none) (s : Sys)
    (place : Nat → Block) (memoryTypeId : Int) (byteSize : Nat) (failures : String) :
    ∃ memory, (createFrom env s place memoryTypeId byteSize failures allocTypes).1 = .ok memory := by
  induction allocTypes generalizing s failures with
  | nil => cases member
  | cons first rest ih =>
      simp only [createFrom, call_eq]
      cases outcome : env.outcome s.tick (.allocate first) with
      | none => exact ⟨_, rfl⟩
      | some error =>
          rcases List.mem_cons.mp member with rfl | later
          · rw [succeeds] at outcome
            cases outcome
          · exact ih later _ _

theorem createBackendMemory_ok {allocTypes : List AllocationType} {allocType : AllocationType}
    (member : allocType ∈ allocTypes)
    (succeeds : ∀ tick, env.outcome tick (.allocate allocType) = none) (s : Sys)
    (place : Nat → Block) (memoryTypeId : Int) (byteSize : Nat) :
    ∃ memory, (createBackendMemory env s place allocTypes memoryTypeId byteSize).1 = .ok memory := by
  cases allocTypes with
  | nil => cases member
  | cons first rest => exact createFrom_ok member succeeds s place memoryTypeId byteSize ""

theorem allocateAllowed_found {allowed : List (MemoryType × Int)} {pair : MemoryType × Int}
    (member : pair ∈ allowed) {allocType : AllocationType}
    (offered : allocType ∈ allocationTypes pair.1)
    (succeeds : ∀ tick, env.outcome tick (.allocate allocType) = none) (place : Nat → Block)
    (byteSize : Nat) (s : Sys) : (allocateAllowed env place byteSize s allowed).1 ≠ none := by
  induction allowed generalizing s with
  | nil => cases member
  | cons first rest ih =>
      obtain ⟨memoryType, memoryTypeId⟩ := first
      simp only [allocateAllowed]
      cases created : (createBackendMemory env s place (allocationTypes memoryType) memoryTypeId
        byteSize).1 with
      | ok memory => exact Option.some_ne_none memory
      | error error =>
          rcases List.mem_cons.mp member with rfl | later
          · obtain ⟨memory, ok⟩ :=
              createBackendMemory_ok offered succeeds s place memoryTypeId byteSize
            rw [ok] at created
            cases created
          · exact ih later _

theorem CanAllocate.allocates {allowed : List (MemoryType × Int)} {byteSize : Int}
    (can : CanAllocate env allowed byteSize) (place : Nat → Block) (size : Nat) (s : Sys) :
    ∃ s' memory, allocateAllowed env place size s allowed = (some memory, s') ∧
      memory.byteSize = size ∧ memory.memoryType ≠ .gpu := by
  obtain ⟨pair, member, allocType, offered, succeeds⟩ := can.offered
  rcases allocateAllowed_eq env place size s allowed with
    ⟨tick, memory, allocated, _, sized, offered⟩ | ⟨tick, failed⟩
  · exact ⟨_, memory, allocated, sized, can.host _ offered⟩
  · exact absurd (by rw [failed]) (allocateAllowed_found member offered succeeds place size s)

/-- A batch input is made in a buffer of its shape's size, filled with the values of its kind. -/
theorem processBatchInput_fills
    (finds : FindsShapes env cfg.requests batchInput.sourceInput shapes)
    (fits : ShapesFit batchInput.kind shapes) (batch : shapes ≠ [])
    (int32 : batchInput.dataType = .int32) {allowed : List (MemoryType × Int)}
    (can : CanAllocate env allowed
      (shapeByteSize .int32 (batchTensorShape batchInput.kind shapes)))
    (bufferByteSize : Nat) (kept : Tensor) (c : Collector) :
    let gathered := processBatchInput env cfg batchInput none bufferByteSize allowed kept c
    gathered.error = none ∧
      (∀ s, (batchInputShape env cfg batchInput s).1 =
        .ok (batchTensorShape batchInput.kind shapes)) ∧
      gathered.dst.byteSize = shapeByteSize .int32 (batchTensorShape batchInput.kind shapes) ∧
      ∀ values, batchTensorValues batchInput.kind shapes = some values → ∀ initial,
        valuesAt (gathered.collector.device.memory initial) gathered.dst.buffer
          gathered.dst.byteSize = values.flatMap int32Bytes := by
  have known := fits.known batch can.addressable
  have shaped := batchInputShape_eq finds fits batch known
  have nonneg : 0 ≤ shapeByteSize .int32 (batchTensorShape batchInput.kind shapes) :=
    Int.mul_nonneg (elementCount_nonneg known.nonneg) (Int.natCast_nonneg _)
  obtain ⟨pair, member, _⟩ := can.offered
  have offers : allowed.length ≠ 0 := List.length_pos_iff.mpr (List.ne_nil_of_mem member) |>.ne'
  obtain ⟨tick, sys⟩ := (shaped c.waitBufferReady.toSys).2
  obtain ⟨s, memory, allocated, sized, host⟩ := can.allocates .gathered
    (toSize (getByteSize batchInput.dataType (batchTensorShape batchInput.kind shapes)))
    { c.waitBufferReady.toSys with tick }
  rw [int32, getByteSize_toSize known] at sized
  have agrees (values : List Int) (isValues : batchTensorValues batchInput.kind shapes = some values) :
      memory.byteSize = 4 * values.length := by
    have length := fits.length_values batch isValues
    have bytes : shapeByteSize .int32 (batchTensorShape batchInput.kind shapes) =
        (batchTensorShape batchInput.kind shapes).prod * 4 := by
      rw [shapeByteSize, shapeElementCount, if_neg (batchTensorShape_ne_nil _ _)]
      rfl
    omega
  obtain ⟨s', filled, contents⟩ := fillBatchInput_eq finds fits memory.memoryPtr
    (by rw [sized]; have := can.addressable; omega) agrees s
  have result : processBatchInput env cfg batchInput none bufferByteSize allowed kept c = {
      error := none, dst := memory.tensor, collector := c.waitBufferReady.withSys s' } := by
    simp only [processBatchInput, if_neg offers, (shaped c.waitBufferReady.toSys).1, sys, allocated,
      fillBatchTensor, BackendMemory.tensor, if_pos host]
    simp only [toSys_withSys, filled]
    rfl
  simp only [result]
  refine ⟨trivial, fun s => (shaped s).1, ?_, fun values isValues initial => ?_⟩
  · simp only [BackendMemory.tensor, sized]
    omega
  · rw [int32] at contents
    exact contents values isValues initial

end

def shapedRequests (shapes : List (List Int)) : List Request := shapes.map fun shape => {
  id := "", inputs := [{ name := "tokens", shape, buffers := [] }], outputs := [] }

theorem shapedRequests_finds (shapes : List (List Int)) :
    FindsShapes (Env.successful fun _ _ => []) (shapedRequests shapes) "tokens" shapes where
  length := (List.length_map _).symm
  named idx shape present := by
    refine ⟨{ id := "", inputs := [{ name := "tokens", shape, buffers := [] }], outputs := [] },
      { name := "tokens", shape, buffers := [] }, ?_, rfl, rfl⟩
    rw [shapedRequests, List.getElem?_map, present]
    rfl
  found _ _ _ := rfl
  described _ := rfl

def tokenShapes : BatchInput := {
  kind := .batchItemShape
  targetNames := ["shapes"]
  dataType := .int32
  sourceInputs := ["tokens"] }

/-- Two items of shape [3] and one of shape [5]. -/
theorem processBatchInput_fills_items :
    let gathered := processBatchInput (Env.successful fun _ _ => [])
      (CollectorConfig.plain (shapedRequests [[2, 3], [1, 5]])) tokenShapes none 0 [(.cpu, 0)]
      { buffer := nullAddress, byteSize := 0, memoryType := .cpu, memoryTypeId := 0 }
      (Collector.create (Sys.fresh 2) false)
    gathered.error = none ∧ gathered.dst.byteSize = 12 ∧
      valuesAt (gathered.collector.device.memory fun _ _ => 0) gathered.dst.buffer
        gathered.dst.byteSize = [3, 0, 0, 0, 3, 0, 0, 0, 5, 0, 0, 0] := by
  have fits : ShapesFit .batchItemShape [[2, 3], [1, 5]] := {
    ranked := by decide
    dims := by decide
    sums := by decide
    items := fun _ => ⟨2, by decide, by decide⟩ }
  have can : CanAllocate (Env.successful fun _ _ => []) [(.cpu, 0)]
      (shapeByteSize .int32 (batchTensorShape .batchItemShape [[2, 3], [1, 5]])) := {
    host := by decide
    offered := ⟨_, List.mem_singleton_self _, .cpu, by decide, fun _ => rfl⟩
    addressable := by decide }
  have finds : FindsShapes (Env.successful fun _ _ => [])
      (CollectorConfig.plain (shapedRequests [[2, 3], [1, 5]])).requests tokenShapes.sourceInput
      [[2, 3], [1, 5]] := shapedRequests_finds _
  obtain ⟨succeeds, _, sized, filled⟩ := processBatchInput_fills finds fits (by decide) rfl can 0
    { buffer := nullAddress, byteSize := 0, memoryType := .cpu, memoryTypeId := 0 }
    (Collector.create (Sys.fresh 2) false)
  have twelve : shapeByteSize .int32 (batchTensorShape tokenShapes.kind [[2, 3], [1, 5]]) = 12 := by
    decide
  exact ⟨succeeds, Int.ofNat.inj (sized.trans twelve), filled _ rfl _⟩

end TritonBackend
