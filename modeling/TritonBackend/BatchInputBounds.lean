import TritonBackend.BatchInputFill

/-!
Where `ProcessBatchInput` writes. The values are stored in a host buffer, which for a GPU
tensor is copied to it as a whole. Each kind checks the size of the buffer in a place of its
own, so each has its own condition for staying inside.
-/

namespace TritonBackend

open CopyStream

/-- The host has made these writes, and nothing else was done on the device. -/
def Sys.Writes (s s' : Sys) (effects : List (Effect Block UInt8)) : Prop :=
  s'.actions = s.actions ++ effects.map .host

theorem Sys.Writes.count (s : Sys) (tick : Nat) : s.Writes { s with tick } [] :=
  (List.append_nil _).symm

theorem Sys.Writes.issue (s : Sys) (effect : Effect Block UInt8) :
    s.Writes (s.issue (.host effect)) [effect] := actions_issue s _

theorem Sys.Writes.trans {s s' s'' : Sys} {first second : List (Effect Block UInt8)}
    (before : s.Writes s' first) (after : s'.Writes s'' second) :
    s.Writes s'' (first ++ second) := by
  rw [Sys.Writes, after, before, List.map_append, List.append_assoc]

def AllInside (buffer : Address) (byteSize : Nat) (effects : List (Effect Block UInt8)) : Prop :=
  ∀ effect ∈ effects, effect.Inside buffer byteSize

theorem allInside_nil (buffer : Address) (byteSize : Nat) : AllInside buffer byteSize [] :=
  List.forall_mem_nil _

theorem allInside_append {buffer : Address} {byteSize : Nat} {first second : List (Effect Block UInt8)} :
    AllInside buffer byteSize (first ++ second) ↔
      AllInside buffer byteSize first ∧ AllInside buffer byteSize second := List.forall_mem_append

theorem allInside_cons {buffer : Address} {byteSize : Nat} {effect : Effect Block UInt8}
    {rest : List (Effect Block UInt8)} :
    AllInside buffer byteSize (effect :: rest) ↔
      effect.Inside buffer byteSize ∧ AllInside buffer byteSize rest := List.forall_mem_cons

section
variable (env : Env) (cfg : CollectorConfig)

/-- The shapes that a loop over the requests comes to see, up to the first failed lookup. -/
def foundShapes (name : String) (s : Sys) (request : Nat) : Nat → List (List Int)
  | 0 => []
  | count + 1 =>
      let looked := inputShape env cfg name s request
      match looked.1 with
      | .error _ => []
      | .ok shape => shape :: foundShapes name looked.2 (request + 1) count

end

def sourceShapes (requests : List Request) (name : String) : List (List Int) :=
  requests.filterMap fun request => (request.input? name).map Input.shape

section
variable (env : Env) (cfg : CollectorConfig) (name : String)

/-- A lookup depends on the number of calls so far alone, and only counts its own. -/
theorem inputShape_tick (tick request : Nat) :
    ∃ looked later, (∀ s : Sys, s.tick = tick →
        inputShape env cfg name s request = (looked, { s with tick := later })) ∧
      ∀ shape, looked = .ok shape → ∃ found input, cfg.requests[request]? = some found ∧
        found.input? name = some input ∧ input.shape = shape := by
  cases failed : env.outcome tick (.requestInput request) with
  | some error =>
      refine ⟨.error error, tick + 1, fun s same => ?_, fun shape ok => by cases ok⟩
      simp only [inputShape, requestInput, call_eq, same, failed]
  | none =>
      cases named : cfg.requests[request]?.bind (·.input? name) with
      | none =>
          refine ⟨.error (env.rejected name), tick + 1, fun s same => ?_, fun shape ok => by cases ok⟩
          simp only [inputShape, requestInput, call_eq, same, failed, named]
      | some input =>
          obtain ⟨found, present, here⟩ := Option.bind_eq_some_iff.mp named
          cases unread : env.outcome (tick + 1) .inputProperties with
          | some error =>
              refine ⟨.error error, tick + 2, fun s same => ?_, fun shape ok => by cases ok⟩
              simp only [inputShape, requestInput, inputProperties, call_eq, same, failed, named,
                unread, Except.map]
          | none =>
              refine ⟨.ok input.shape, tick + 2, fun s same => ?_, fun shape ok => ?_⟩
              · simp only [inputShape, requestInput, inputProperties, call_eq, same, failed, named,
                  unread, Except.map]
              · cases ok
                exact ⟨found, input, present, here, rfl⟩

theorem foundShapes_tick (s s' : Sys) (same : s'.tick = s.tick) (request count : Nat) :
    foundShapes env cfg name s' request count = foundShapes env cfg name s request count := by
  induction count generalizing s s' request with
  | zero => rfl
  | succ count ih =>
      obtain ⟨looked, later, lookup, _⟩ := inputShape_tick env cfg name s.tick request
      have rest := ih { s with tick := later } { s' with tick := later } rfl (request + 1)
      simp only [foundShapes, lookup s rfl, lookup s' same]
      cases looked with
      | error error => rfl
      | ok shape => simp only [rest]

theorem foundShapes_prefix (s : Sys) (request count : Nat) :
    foundShapes env cfg name s request count <+: sourceShapes (cfg.requests.drop request) name := by
  induction count generalizing s request with
  | zero => exact List.nil_prefix
  | succ count ih =>
      obtain ⟨looked, later, lookup, found⟩ := inputShape_tick env cfg name s.tick request
      simp only [foundShapes, lookup s rfl]
      cases looked with
      | error error => exact List.nil_prefix
      | ok shape =>
          obtain ⟨first, input, present, named, rfl⟩ := found shape rfl
          have split : cfg.requests.drop request = first :: cfg.requests.drop (request + 1) := by
            obtain ⟨bound, rfl⟩ := List.getElem?_eq_some_iff.mp present
            exact List.drop_eq_getElem_cons bound
          have head : sourceShapes (cfg.requests.drop request) name =
              input.shape :: sourceShapes (cfg.requests.drop (request + 1)) name := by
            rw [split, sourceShapes, List.filterMap_cons, named]
            rfl
          rw [head]
          exact (List.prefix_cons_inj _).mpr (ih _ _)

theorem length_foundShapes (s : Sys) (request count : Nat) :
    (foundShapes env cfg name s request count).length ≤ count := by
  induction count generalizing s request with
  | zero => exact Nat.le_refl 0
  | succ count ih =>
      rw [foundShapes]
      cases (inputShape env cfg name s request).1 with
      | error error => exact Nat.zero_le _
      | ok shape => exact Nat.succ_le_succ (ih _ _)

/-! Element counts: every store is checked. -/

theorem storeElement_writes (dataType : DataType) (s : Sys) (address : Address) (value : Int) :
    s.Writes (storeElement env dataType s address value)
      [.store address (valueBytes env dataType value)] := Sys.Writes.issue s _

theorem storeElement_inside (dataType : DataType) (value : Int) (buffer : Address)
    {offset byteSize : Nat} (room : offset + 4 ≤ byteSize) :
    AllInside buffer byteSize
      [.store (buffer.advance offset) (valueBytes env dataType value)] := by
  rw [allInside_cons]
  exact ⟨inside_advance rfl room, allInside_nil _ _⟩

theorem storeRepeated_writes (dataType : DataType) (value : Int) (buffer : Address) (s : Sys)
    {offset count byteSize : Nat} (room : offset + 4 * count ≤ byteSize) :
    ∃ effects, s.Writes (storeRepeated env dataType value buffer s offset count) effects ∧
      AllInside buffer byteSize effects := by
  induction count generalizing s offset with
  | zero => exact ⟨[], Sys.Writes.count s s.tick, allInside_nil _ _⟩
  | succ count ih =>
      have next : offset + 4 + 4 * count ≤ byteSize := by omega
      have here : offset + 4 ≤ byteSize := by omega
      obtain ⟨effects, writes, inside⟩ := ih
        (storeElement env dataType s (buffer.advance offset) value) next
      have first := storeElement_inside env dataType value buffer here
      exact ⟨_, (storeElement_writes env dataType s _ value).trans writes,
        allInside_append.mpr ⟨first, inside⟩⟩

theorem storeCounts_writes (dataType : DataType) (next : Int → Int → Int) (buffer : Address)
    (byteSize : Nat) (value : Int) (s : Sys) (request count : Nat) :
    let stored := storeCounts env cfg dataType next name buffer byteSize value s request count
    (∃ effects, s.Writes stored.2 effects ∧ AllInside buffer byteSize effects) ∧
      ∀ last, stored.1 = .ok last →
        last.2 = 4 * (request + count) ∧ (0 < count → 4 * (request + count) ≤ byteSize) := by
  induction count generalizing value s request with
  | zero =>
      refine ⟨⟨[], Sys.Writes.count s s.tick, allInside_nil _ _⟩, fun last ok => ?_⟩
      cases ok
      exact ⟨rfl, fun impossible => absurd impossible (Nat.lt_irrefl 0)⟩
  | succ count ih =>
      by_cases full : 4 * request + 4 > byteSize
      · simp only [storeCounts, if_pos full]
        exact ⟨⟨[], Sys.Writes.count s s.tick, allInside_nil _ _⟩, fun last ok => by cases ok⟩
      · obtain ⟨looked, later, lookup, _⟩ := inputShape_tick env cfg name s.tick request
        simp only [storeCounts, if_neg full, lookup s rfl]
        cases looked with
        | error error =>
            exact ⟨⟨[], Sys.Writes.count s later, allInside_nil _ _⟩, fun last ok => by cases ok⟩
        | ok shape =>
            obtain ⟨⟨effects, writes, inside⟩, ends⟩ := ih (next value (getElementCount shape))
              (storeElement env dataType { s with tick := later } (buffer.advance (4 * request))
                (next value (getElementCount shape))) (request + 1)
            have first := storeElement_inside env dataType (next value (getElementCount shape))
              buffer (Nat.le_of_not_gt full)
            have counted : s.Writes { s with tick := later } [] := Sys.Writes.count s later
            refine ⟨⟨_, (counted.trans (storeElement_writes env dataType _ _ _)).trans writes,
              allInside_append.mpr ⟨first, inside⟩⟩, fun last ok => ?_⟩
            obtain ⟨offset, room⟩ := ends last ok
            refine ⟨by omega, fun _ => ?_⟩
            by_cases more : 0 < count
            · have := room more
              omega
            · omega

theorem setCounts_writes (dataType : DataType) (next : Int → Int → Int) (rest : Int → Int)
    (buffer : Address) (byteSize : Nat) (s : Sys) :
    let filled := setCounts env cfg dataType next rest name buffer byteSize s
    (∃ effects, s.Writes filled.2 effects ∧ AllInside buffer byteSize effects) ∧
      (filled.1 = none → 4 * cfg.requests.length ≤ byteSize) := by
  obtain ⟨⟨effects, writes, inside⟩, ends⟩ := storeCounts_writes env cfg name dataType next buffer
    byteSize 0 s 0 cfg.requests.length
  simp only [setCounts]
  generalize storeCounts env cfg dataType next name buffer byteSize 0 s 0 cfg.requests.length =
    stored at writes ends
  obtain ⟨result, s'⟩ := stored
  cases result with
  | error error => exact ⟨⟨effects, writes, inside⟩, fun succeeds => by cases succeeds⟩
  | ok last =>
      obtain ⟨value, offset⟩ := last
      obtain ⟨same, room⟩ := ends _ rfl
      simp only [Nat.zero_add] at same room
      have within : 4 * cfg.requests.length ≤ byteSize := by
        by_cases more : 0 < cfg.requests.length
        · exact room more
        · omega
      have left : offset + 4 * ((byteSize - offset) / 4) ≤ byteSize := by omega
      obtain ⟨more, later, beyond⟩ := storeRepeated_writes env dataType (rest value) buffer s' left
      exact ⟨⟨_, Sys.Writes.trans writes later, allInside_append.mpr ⟨inside, beyond⟩⟩, fun _ => within⟩

/-! Items: a row is stored before it is repeated, whatever the leading dimension is. -/

theorem storeShape_writes (dataType : DataType) (s : Sys) (buffer : Address) (offset : Nat)
    (dims : List Int) :
    ∃ effects, s.Writes (storeShape env dataType s (buffer.advance offset) dims) effects ∧
      (storeShape env dataType s (buffer.advance offset) dims).tick = s.tick ∧
      ∀ byteSize, offset ≤ byteSize →
        (AllInside buffer byteSize effects ↔ offset + 4 * dims.length ≤ byteSize) := by
  induction dims generalizing s offset with
  | nil =>
      refine ⟨[], Sys.Writes.count s s.tick, rfl, fun byteSize reached => ?_⟩
      simpa [allInside_nil] using reached
  | cons dim rest ih =>
      obtain ⟨effects, writes, tick, inside⟩ := ih
        (storeElement env dataType s (buffer.advance offset) dim) (offset + 4)
      simp only [storeShape, advance_advance] at writes tick ⊢
      refine ⟨_, (storeElement_writes env dataType s _ dim).trans writes, tick,
        fun byteSize reached => ?_⟩
      rw [allInside_append, List.length_cons]
      by_cases room : offset + 4 ≤ byteSize
      · rw [inside byteSize room, and_iff_right (storeElement_inside env dataType dim buffer room)]
        omega
      · have outside : ¬ (Effect.store (buffer.advance offset) (valueBytes env dataType dim)).Inside
            buffer byteSize := not_inside_advance rfl (by simp [Effect.byteSize]) (by
          rw [Effect.byteSize, length_valueBytes]
          omega)
        constructor
        · intro both
          exact absurd (allInside_cons.mp both.1).1 outside
        · intro fits
          omega

theorem repeatItem_writes (buffer : Address) (itemSize offset : Nat) (s : Sys) (idx count : Nat) :
    ∃ effects, s.Writes (repeatItem (buffer.advance offset) itemSize s idx count) effects ∧
      (repeatItem (buffer.advance offset) itemSize s idx count).tick = s.tick ∧
      ∀ byteSize, offset + (idx + count) * itemSize ≤ byteSize → AllInside buffer byteSize effects := by
  induction count generalizing s idx with
  | zero => exact ⟨[], Sys.Writes.count s s.tick, rfl, fun byteSize _ => allInside_nil _ _⟩
  | succ count ih =>
      obtain ⟨effects, writes, tick, inside⟩ := ih
        (s.issue (.host (.copy {
          source := buffer.advance offset
          target := (buffer.advance offset).advance (idx * itemSize)
          byteSize := itemSize }))) (idx + 1)
      refine ⟨_, (Sys.Writes.issue s _).trans writes, tick, fun byteSize room => ?_⟩
      have whole : (idx + (count + 1)) * itemSize = idx * itemSize + itemSize + count * itemSize := by
        rw [Nat.add_mul, Nat.add_mul, Nat.one_mul]
        omega
      have later : (idx + 1 + count) * itemSize = (idx + (count + 1)) * itemSize := by
        congr 1
        omega
      refine allInside_append.mpr ⟨allInside_cons.mpr ⟨?_, allInside_nil _ _⟩,
        inside byteSize (by omega)⟩
      refine inside_advance (advance_advance _ _ _) ?_
      simp only [Effect.byteSize]
      omega

end

/-- A request whose leading dimension is 0 has no values, but needs room for one row behind
the values of the requests before it. -/
def RowsFit (byteSize offset : Nat) : List (List Int) → Prop
  | [] => True
  | shape :: rest =>
      (shape.headD 0 = 0 → offset ≤ byteSize → offset + 4 * (shape.length - 1) ≤ byteSize) ∧
        RowsFit byteSize (offset + 4 * (itemShapes shape).length) rest

theorem rowsFit_behind {byteSize offset : Nat} (behind : byteSize < offset)
    (shapes : List (List Int)) : RowsFit byteSize offset shapes := by
  induction shapes generalizing offset with
  | nil => trivial
  | cons shape rest ih =>
      refine ⟨fun _ reached => absurd reached (Nat.not_le.mpr behind), ih ?_⟩
      omega

/-- Requests of any ranks from 1 on, whose items have sizes that add up in `size_t`. -/
structure ItemShapes (shapes : List (List Int)) : Prop where
  ranked : ∀ shape ∈ shapes, shape ≠ []
  nonneg : ∀ shape ∈ shapes, ∀ dim ∈ shape, 0 ≤ dim
  addressable : 4 * (shapes.flatMap itemShapes).length < 2 ^ 64

theorem ItemShapes.initial {shapes found : List (List Int)} (items : ItemShapes shapes)
    (isPrefix : found <+: shapes) : ItemShapes found := by
  obtain ⟨rest, rfl⟩ := isPrefix
  refine ⟨fun shape member => items.ranked shape (List.mem_append_left _ member),
    fun shape member => items.nonneg shape (List.mem_append_left _ member), ?_⟩
  have whole := items.addressable
  rw [List.flatMap_append, List.length_append] at whole
  omega

theorem ItemShapes.of_cons {shape : List Int} {rest : List (List Int)}
    (items : ItemShapes (shape :: rest)) : ItemShapes rest := by
  refine ⟨fun other member => items.ranked other (List.mem_cons_of_mem _ member),
    fun other member => items.nonneg other (List.mem_cons_of_mem _ member), ?_⟩
  have whole := items.addressable
  rw [List.flatMap_cons, List.length_append] at whole
  omega

theorem toSize_lt {size : Nat} (fits : size < 2 ^ 64) : toSize (size : Int) = size := by
  rw [toSize, Int.emod_eq_of_lt (Int.natCast_nonneg size) (by omega), Int.toNat_natCast]

theorem itemExtent_eq {shape : List Int} (ranked : shape ≠ []) (nonneg : 0 ≤ shape.headD 0)
    (fits : 4 * (itemShapes shape).length < 2 ^ 64) :
    toSize (toSize (shape.headD 0) * (4 * itemRank shape : Nat)) = 4 * (itemShapes shape).length := by
  have length : (shape.headD 0).toNat * (4 * itemRank shape) = 4 * (itemShapes shape).length := by
    rw [length_itemShapes, itemRank, if_neg (mt List.length_eq_zero_iff.mp ranked),
      Nat.mul_left_comm]
  by_cases row : 4 * itemRank shape = 0
  · rw [row, Nat.mul_zero] at length
    rw [row, ← length]
    rfl
  · have head : (shape.headD 0).toNat < 2 ^ 64 := by
      have most := Nat.le_mul_of_pos_right (shape.headD 0).toNat (Nat.pos_of_ne_zero row)
      omega
    have batchSize : toSize (shape.headD 0) = (shape.headD 0).toNat := by
      rw [← Int.toNat_of_nonneg nonneg, toSize_lt head, Int.toNat_natCast]
    rw [batchSize, ← Int.natCast_mul, length, toSize_lt fits]

section
variable (env : Env) (cfg : CollectorConfig) (name : String)

theorem storeItems_writes (dataType : DataType) (s : Sys) (buffer : Address) (offset : Nat)
    {shape : List Int} (ranked : shape ≠ []) (nonneg : 0 ≤ shape.headD 0) :
    let stored := repeatItem (buffer.advance offset) (4 * itemRank shape)
      (storeShape env dataType s (buffer.advance offset) shape.tail) 1 ((shape.headD 0).toNat - 1)
    ∃ effects, s.Writes stored effects ∧ stored.tick = s.tick ∧
      ∀ byteSize, offset + 4 * (itemShapes shape).length ≤ byteSize →
        (AllInside buffer byteSize effects ↔
          (shape.headD 0 = 0 → offset ≤ byteSize → offset + 4 * (shape.length - 1) ≤ byteSize)) := by
  obtain ⟨row, rowWrites, rowTick, rowInside⟩ :=
    storeShape_writes env dataType s buffer offset shape.tail
  obtain ⟨others, otherWrites, otherTick, othersInside⟩ := repeatItem_writes buffer
    (4 * itemRank shape) offset (storeShape env dataType s (buffer.advance offset) shape.tail) 1
    ((shape.headD 0).toNat - 1)
  refine ⟨row ++ others, rowWrites.trans otherWrites, otherTick.trans rowTick,
    fun byteSize room => ?_⟩
  have rank : itemRank shape = shape.length - 1 :=
    if_neg (mt List.length_eq_zero_iff.mp ranked)
  have values : 4 * (itemShapes shape).length =
      (shape.headD 0).toNat * (4 * (shape.length - 1)) := by
    rw [length_itemShapes, Nat.mul_left_comm]
  rw [allInside_append, rowInside byteSize (by omega), List.length_tail]
  by_cases none : shape.headD 0 = 0
  · -- no item: nothing is repeated, and the row may still not fit
    have repeats : others = [] := by
      simp only [none, Int.toNat_zero, Nat.zero_sub, repeatItem] at otherWrites
      have same := List.append_cancel_left (otherWrites.symm.trans (List.append_nil _).symm)
      exact List.map_eq_nil_iff.mp same
    rw [repeats, and_iff_left (allInside_nil _ _)]
    constructor
    · intro fits _ _
      exact fits
    · intro fits
      exact fits none (by omega)
  · have items : (shape.headD 0).toNat = 1 + ((shape.headD 0).toNat - 1) := by omega
    have split : (shape.headD 0).toNat * (4 * (shape.length - 1)) = 4 * (shape.length - 1) +
        ((shape.headD 0).toNat - 1) * (4 * (shape.length - 1)) := by
      rw [items, Nat.add_mul, Nat.one_mul, Nat.add_sub_cancel_left]
    have inside : AllInside buffer byteSize others := by
      refine othersInside byteSize ?_
      rw [← items, rank, ← values]
      exact room
    constructor
    · intro _ impossible
      exact absurd impossible none
    · intro _
      exact ⟨by omega, inside⟩

theorem setBatchItemShapeFrom_writes (dataType : DataType) (buffer : Address) {byteSize : Nat}
    (s : Sys) {offset : Nat} (request count : Nat) {shapes : List (List Int)}
    (found : foundShapes env cfg name s request count = shapes) (items : ItemShapes shapes)
    (small : offset + 4 * (shapes.flatMap itemShapes).length < 2 ^ 64)
    (reached : offset ≤ byteSize) :
    let filled := setBatchItemShapeFrom env cfg dataType name buffer byteSize s offset request count
    (∃ effects, s.Writes filled.2 effects ∧
        (AllInside buffer byteSize effects ↔ RowsFit byteSize offset shapes)) ∧
      (filled.1 = none → offset + 4 * (shapes.flatMap itemShapes).length ≤ byteSize) := by
  induction count generalizing s offset request shapes with
  | zero =>
      subst found
      exact ⟨⟨[], Sys.Writes.count s s.tick, iff_of_true (allInside_nil _ _) trivial⟩, fun _ => reached⟩
  | succ count ih =>
      obtain ⟨looked, later, lookup, _⟩ := inputShape_tick env cfg name s.tick request
      simp only [foundShapes, lookup s rfl] at found
      simp only [setBatchItemShapeFrom, lookup s rfl]
      cases looked with
      | error error =>
          subst found
          exact ⟨⟨[], Sys.Writes.count s later, iff_of_true (allInside_nil _ _) trivial⟩,
            fun succeeds => by cases succeeds⟩
      | ok shape =>
          subst found
          have ranked := items.ranked shape List.mem_cons_self
          have nonneg : 0 ≤ shape.headD 0 := by
            obtain ⟨dim, rest, rfl⟩ := List.exists_cons_of_ne_nil ranked
            exact items.nonneg _ List.mem_cons_self dim List.mem_cons_self
          rw [List.flatMap_cons, List.length_append] at small ⊢
          have extent := itemExtent_eq ranked nonneg (by omega)
          have behind : toSize ((offset : Int) + (4 * (itemShapes shape).length : Nat)) =
              offset + 4 * (itemShapes shape).length := by
            rw [← Int.natCast_add, toSize_lt (by omega)]
          simp only [extent, behind]
          by_cases full : offset + 4 * (itemShapes shape).length > byteSize
          · rw [if_pos full]
            have empty (none : shape.headD 0 = 0) : (itemShapes shape).length = 0 := by
              rw [length_itemShapes, none, Int.toNat_zero, Nat.zero_mul]
            refine ⟨⟨[], Sys.Writes.count s later, iff_of_true (allInside_nil _ _)
              ⟨fun none _ => ?_, rowsFit_behind full _⟩⟩, fun succeeds => by cases succeeds⟩
            have := empty none
            omega
          · rw [if_neg full]
            obtain ⟨row, writes, tick, inside⟩ := storeItems_writes env dataType
              { s with tick := later } buffer offset ranked nonneg
            obtain ⟨⟨effects, after, insideAfter⟩, room⟩ := ih _ (request + 1)
              (foundShapes_tick env cfg name _ _ tick (request + 1) count)
              items.of_cons (by omega) (Nat.not_lt.mp full)
            have counted : s.Writes { s with tick := later } [] := Sys.Writes.count s later
            refine ⟨⟨_, (counted.trans writes).trans after, ?_⟩, fun succeeds => ?_⟩
            · rw [List.nil_append, allInside_append, inside byteSize (Nat.not_lt.mp full), insideAfter]
              rfl
            · have := room succeeds
              omega

end

/-! The kinds together. -/

/-- When a kind's values stay inside a buffer of this size. -/
def BatchInputRoom (kind : BatchInputKind) (shapes : List (List Int)) (byteSize : Nat) : Prop :=
  match kind with
  | .batchElementCount | .batchAccumulatedElementCount | .batchMaxElementCountAsShape => True
  | .batchAccumulatedElementCountWithZero => 4 ≤ byteSize
  | .batchItemShape | .batchItemShapeFlatten => 4 ≤ byteSize ∧ RowsFit byteSize 0 shapes

def ValuesFit (kind : BatchInputKind) (shapes : List (List Int)) (byteSize : Nat) : Prop :=
  ∀ values, batchTensorValues kind shapes = some values → 4 * values.length ≤ byteSize

section
variable (env : Env) (cfg : CollectorConfig) (batchInput : BatchInput)

theorem allInside_firstElement (dataType : DataType) (value : Int) (buffer : Address)
    (byteSize : Nat) :
    AllInside buffer byteSize [.store buffer (valueBytes env dataType value)] ↔ 4 ≤ byteSize := by
  constructor
  · intro inside
    by_contra beyond
    have first : (Effect.store buffer (valueBytes env dataType value)).target = buffer.advance 0 :=
      (advance_zero buffer).symm
    have size : (Effect.store buffer (valueBytes env dataType value)).byteSize = 4 := rfl
    exact not_inside_advance first (by omega) (by omega) (allInside_cons.mp inside).1
  · intro room
    have first : 0 + 4 ≤ byteSize := by omega
    have inside := storeElement_inside env dataType value buffer first
    rwa [advance_zero] at inside

theorem setBatchItemShape_writes (dataType : DataType) (buffer : Address) (byteSize : Nat) (s : Sys)
    {shapes : List (List Int)}
    (found : foundShapes env cfg batchInput.sourceInput s 0 cfg.requests.length = shapes)
    (items : ItemShapes shapes) :
    let filled := setBatchItemShape env cfg dataType batchInput.sourceInput buffer byteSize
      (storeElement env dataType s buffer 0)
    (∃ effects, s.Writes filled.2 effects ∧
        (AllInside buffer byteSize effects ↔ 4 ≤ byteSize ∧ RowsFit byteSize 0 shapes)) ∧
      (filled.1 = none → 4 * (shapes.flatMap itemShapes).length ≤ byteSize) := by
  have same : (storeElement env dataType s buffer 0).tick = s.tick := rfl
  obtain ⟨⟨effects, writes, inside⟩, room⟩ := setBatchItemShapeFrom_writes env cfg
    batchInput.sourceInput dataType buffer (storeElement env dataType s buffer 0) 0
    cfg.requests.length ((foundShapes_tick env cfg _ _ _ same 0 _).trans found) items
    (by simpa using items.addressable) (Nat.zero_le byteSize)
  refine ⟨⟨_, (storeElement_writes env dataType s buffer 0).trans writes, ?_⟩, fun succeeds => ?_⟩
  · rw [allInside_append, allInside_firstElement, inside]
  · simpa using room succeeds

theorem fillBatchInput_writes (buffer : Address) (byteSize : Nat) (s : Sys)
    {shapes : List (List Int)}
    (found : foundShapes env cfg batchInput.sourceInput s 0 cfg.requests.length = shapes)
    (items : batchInput.kind = .batchItemShape ∨ batchInput.kind = .batchItemShapeFlatten →
      ItemShapes shapes) :
    let filled := fillBatchInput env cfg batchInput buffer byteSize s
    (∃ effects, s.Writes filled.2 effects ∧
        (AllInside buffer byteSize effects ↔ BatchInputRoom batchInput.kind shapes byteSize)) ∧
      (BatchInputRoom batchInput.kind shapes byteSize → filled.1 = none →
        ValuesFit batchInput.kind shapes byteSize) := by
  have few : shapes.length ≤ cfg.requests.length := by
    rw [← found]
    exact length_foundShapes env cfg _ s 0 _
  simp only [fillBatchInput]
  cases kind : batchInput.kind with
  | batchElementCount =>
      obtain ⟨⟨effects, writes, inside⟩, room⟩ := setCounts_writes env cfg batchInput.sourceInput
        batchInput.dataType (fun _ count => count) (fun _ => 0) buffer byteSize s
      refine ⟨⟨effects, writes, iff_of_true inside trivial⟩, fun _ succeeds values same => ?_⟩
      have whole := room succeeds
      cases same
      rw [List.length_map]
      omega
  | batchAccumulatedElementCount =>
      obtain ⟨⟨effects, writes, inside⟩, room⟩ := setCounts_writes env cfg batchInput.sourceInput
        batchInput.dataType
        (fun value count => toSize (value + count)) (fun value => value) buffer byteSize s
      refine ⟨⟨effects, writes, iff_of_true inside trivial⟩, fun _ succeeds values same => ?_⟩
      have whole := room succeeds
      cases same
      rw [List.length_tail, List.length_scanl, List.length_map, Nat.add_sub_cancel]
      omega
  | batchAccumulatedElementCountWithZero =>
      obtain ⟨⟨effects, writes, inside⟩, room⟩ := setCounts_writes env cfg batchInput.sourceInput
        batchInput.dataType
        (fun value count => toSize (value + count)) (fun value => value) (buffer.advance 4)
        (toSize ((byteSize : Int) - 4)) (storeElement env batchInput.dataType s buffer 0)
      -- where the first element fits, what is left of the buffer does not wrap around
      have behind (fits : 4 ≤ byteSize) : 4 + toSize ((byteSize : Int) - 4) ≤ byteSize := by
        have left : (byteSize : Int) - 4 = (byteSize - 4 : Nat) := by omega
        have most := Nat.mod_le (byteSize - 4) (2 ^ 64)
        rw [toSize, left]
        omega
      refine ⟨⟨_, (storeElement_writes env batchInput.dataType s buffer 0).trans writes, ?_⟩,
        fun fits succeeds values same => ?_⟩
      · rw [allInside_append, allInside_firstElement]
        exact and_iff_left_of_imp fun fits effect member =>
          (inside effect member).of_advance.mono (behind fits)
      · have whole := room succeeds
        have left := behind fits
        cases same
        rw [List.length_scanl, List.length_map]
        omega
  | batchMaxElementCountAsShape =>
      exact ⟨⟨[], Sys.Writes.count s s.tick, iff_of_true (allInside_nil _ _) trivial⟩,
        fun _ _ values same => by cases same⟩
  | batchItemShape =>
      obtain ⟨writes, room⟩ := setBatchItemShape_writes env cfg batchInput batchInput.dataType buffer
        byteSize s found (items (Or.inl kind))
      refine ⟨writes, fun _ succeeds values same => ?_⟩
      cases same
      exact room succeeds
  | batchItemShapeFlatten =>
      obtain ⟨writes, room⟩ := setBatchItemShape_writes env cfg batchInput batchInput.dataType buffer
        byteSize s found (items (Or.inr kind))
      refine ⟨writes, fun _ succeeds values same => ?_⟩
      cases same
      exact room succeeds

end

/-! What the call fills. -/

/-- A tensor to fill, the host buffer that takes its values, and the state by then. -/
structure BatchFilling where
  tensor : Tensor
  host : Address
  sys : Sys

section
variable (env : Env) (cfg : CollectorConfig) (batchInput : BatchInput)

def batchTensor (buffer : Option Address) (bufferByteSize : Nat)
    (allowedInputTypes : List (MemoryType × Int)) (s : Sys) : Option (Tensor × Sys) :=
  match buffer with
  | some buffer =>
      match allowedInputTypes with
      | [(memoryType, memoryTypeId)] =>
          some ({ buffer, byteSize := bufferByteSize, memoryType, memoryTypeId }, s)
      | _ => none
  | none =>
      let shaped := batchInputShape env cfg batchInput s
      match shaped.1 with
      | .error _ => none
      | .ok shape =>
          let byteSize := toSize (getByteSize batchInput.dataType shape)
          let allocated := allocateAllowed env .gathered byteSize shaped.2 allowedInputTypes
          allocated.1.map fun memory => (memory.tensor, allocated.2)

def batchHost (tensor : Tensor) (s : Sys) : Option (Address × Sys) :=
  if tensor.memoryType ≠ .gpu then some (tensor.buffer, s)
  else
    let host := batchInputHost env tensor s
    match host.1 with
    | .error _ => none
    | .ok memory => some (memory.memoryPtr, host.2)

/-- None where the call ends without a buffer to fill. -/
def batchFilling (buffer : Option Address) (bufferByteSize : Nat)
    (allowedInputTypes : List (MemoryType × Int)) (s : Sys) : Option BatchFilling :=
  (batchTensor env cfg batchInput buffer bufferByteSize allowedInputTypes s).bind fun found =>
    (batchHost env found.1 found.2).map fun host =>
      { tensor := found.1, host := host.1, sys := host.2 }

end

/-- The host stores inside the host buffer, and a copy stays inside the tensor. -/
def BatchFilling.Contains (filling : BatchFilling) : Action Block UInt8 → Prop
  | .host effect => effect.Inside filling.host filling.tensor.byteSize
  | .stream copies => ∀ transfer ∈ copies,
      Effect.Inside (V := UInt8) (.copy transfer) filling.tensor.buffer filling.tensor.byteSize
  | _ => True

section
variable (env : Env) (cfg : CollectorConfig) (batchInput : BatchInput)

theorem copyBuffer_toGpu (s : Sys) (msg : String) (srcMemoryType : MemoryType)
    (srcMemoryTypeId dstMemoryTypeId : Int) (byteSize : Nat) (src dst : Address)
    (copyOnStream : Bool) :
    let copied := copyBuffer env s msg srcMemoryType srcMemoryTypeId .gpu dstMemoryTypeId byteSize
      src dst copyOnStream
    copied.sys.actions = s.actions ∨
      copied.sys.actions = s.actions ++ [.stream [{ source := src, target := dst, byteSize }]] := by
  intro copied
  have outcome := copyBuffer_outcome env s msg srcMemoryType srcMemoryTypeId .gpu dstMemoryTypeId
    byteSize src dst copyOnStream
  have atOnce : copied.error = none → copied.cudaUsed ≠ false := fun success flag =>
    ((copyBuffer_cudaUsed success).mp flag).2.1 rfl
  change CopyOutcome s _ copied at outcome
  generalize copied = result at outcome atOnce ⊢
  cases outcome with
  | host => exact absurd rfl (atOnce rfl)
  | stream tick => exact Or.inr (actions_issue _ _)
  | failed tick error => exact Or.inl (by simp [Event.action?])

theorem fillBatchTensor_host {tensor : Tensor} (c : Collector) {host : Address × Sys}
    (given : batchHost env tensor c.toSys = some host) :
    let filled := fillBatchTensor env cfg batchInput tensor c
    let stored := fillBatchInput env cfg batchInput host.1 tensor.byteSize host.2
    filled.dst = tensor ∧ (filled.error = none → stored.1 = none) ∧
      (filled.collector.actions = stored.2.actions ∨
        filled.collector.actions = stored.2.actions ++
          [.stream [{ source := host.1, target := tensor.buffer, byteSize := tensor.byteSize }]]) := by
  by_cases onHost : tensor.memoryType ≠ .gpu
  · rw [batchHost, if_pos onHost] at given
    cases given
    rw [fillBatchTensor, if_pos onHost]
    exact ⟨rfl, id, Or.inl rfl⟩
  · rw [batchHost, if_neg onHost] at given
    have device : tensor.memoryType = .gpu := not_not.mp onHost
    rw [fillBatchTensor, if_neg onHost]
    generalize batchInputHost env tensor c.toSys = made at given ⊢
    obtain ⟨made, s⟩ := made
    cases made with
    | error error => cases given
    | ok memory =>
        cases given
        simp only
        generalize fillBatchInput env cfg batchInput memory.memoryPtr tensor.byteSize s = stored
        obtain ⟨failure, s⟩ := stored
        cases failure with
        | some error =>
            refine ⟨rfl, ?_, Or.inl rfl⟩
            intro impossible
            cases impossible
        | none =>
            by_cases described : batchInput.kind = .batchMaxElementCountAsShape
            · simp only [if_pos described]
              exact ⟨trivial, fun _ => trivial, Or.inl rfl⟩
            · have outcome := copyBuffer_toGpu env s "batch input buffer" memory.memoryType
                memory.memoryTypeId tensor.memoryTypeId tensor.byteSize memory.memoryPtr tensor.buffer
                cfg.copyOnStream
              rw [← device] at outcome
              simp only [if_neg described]
              split
              · exact ⟨rfl, fun _ => trivial, outcome⟩
              · exact ⟨rfl, fun _ => trivial, outcome⟩

theorem foldShapes_sys {α : Type} (name : String) (step : α → List Int → α) (value : α) (s : Sys)
    (request count : Nat) :
    ∃ tick, (foldShapes env cfg name step value s request count).2 = { s with tick } := by
  induction count generalizing value s request with
  | zero => exact ⟨s.tick, rfl⟩
  | succ count ih =>
      obtain ⟨looked, later, lookup, _⟩ := inputShape_tick env cfg name s.tick request
      simp only [foldShapes, lookup s rfl]
      cases looked with
      | error error => exact ⟨later, rfl⟩
      | ok shape => exact ih (step value shape) { s with tick := later } (request + 1)

theorem batchInputShape_sys (s : Sys) :
    ∃ tick, (batchInputShape env cfg batchInput s).2 = { s with tick } := by
  rw [batchInputShape]
  cases batchInput.kind with
  | batchElementCount => exact ⟨s.tick, rfl⟩
  | batchAccumulatedElementCount => exact ⟨s.tick, rfl⟩
  | batchAccumulatedElementCountWithZero => exact ⟨s.tick, rfl⟩
  | batchMaxElementCountAsShape => exact foldShapes_sys env cfg _ _ _ s 0 _
  | batchItemShape => exact foldShapes_sys env cfg _ _ _ s 0 _
  | batchItemShapeFlatten => exact foldShapes_sys env cfg _ _ _ s 0 _

theorem allocateAllowed_actions (place : Nat → Block) (byteSize : Nat) (s : Sys)
    (allowed : List (MemoryType × Int)) :
    (allocateAllowed env place byteSize s allowed).2.actions = s.actions := by
  rcases @allocateAllowed_eq env place byteSize s allowed with
    ⟨tick, memory, allocated, _⟩ | ⟨tick, allocated⟩
  · rw [allocated]
    rfl
  · rw [allocated]
    rfl

theorem processBatchInput_tensor (buffer : Option Address) (bufferByteSize : Nat)
    (allowed : List (MemoryType × Int)) (kept : Tensor) (c : Collector) :
    let gathered := processBatchInput env cfg batchInput buffer bufferByteSize allowed kept c
    (batchTensor env cfg batchInput buffer bufferByteSize allowed c.toSys = none ∧
        gathered.error ≠ none ∧ gathered.collector.actions = c.actions) ∨
      ∃ tensor s, batchTensor env cfg batchInput buffer bufferByteSize allowed c.toSys =
          some (tensor, s) ∧ s.actions = c.actions ∧
        gathered = fillBatchTensor env cfg batchInput tensor (c.waitBufferReady.withSys s) := by
  have waited : c.waitBufferReady.toSys = c.toSys := by
    rw [Collector.waitBufferReady]
    split <;> rfl
  have failed : (c.waitBufferReady).actions = c.actions := by rw [waited]
  cases buffer with
  | some buffer =>
      rcases allowed with _ | ⟨⟨memoryType, memoryTypeId⟩, _ | ⟨second, rest⟩⟩
      · exact Or.inl ⟨rfl, Option.some_ne_none _, failed⟩
      · refine Or.inr ⟨_, _, rfl, rfl, ?_⟩
        have same : c.waitBufferReady.withSys c.toSys = c.waitBufferReady := by
          rw [← waited]
          rfl
        rw [same]
        rfl
      · exact Or.inl ⟨rfl, Option.some_ne_none _, failed⟩
  | none =>
      have looked : (batchInputShape env cfg batchInput c.toSys).2.actions = c.actions := by
        obtain ⟨tick, shaped⟩ := batchInputShape_sys env cfg batchInput c.toSys
        rw [shaped]
        rfl
      rw [processBatchInput, batchTensor, waited]
      generalize batchInputShape env cfg batchInput c.toSys = shaped at looked ⊢
      obtain ⟨result, s⟩ := shaped
      by_cases empty : allowed.length = 0
      · rw [List.length_eq_zero_iff] at empty
        subst empty
        refine Or.inl ⟨?_, Option.some_ne_none _, failed⟩
        cases result with
        | error error => rfl
        | ok shape => rfl
      · simp only [if_neg empty]
        cases result with
        | error error => exact Or.inl ⟨rfl, Option.some_ne_none _, looked⟩
        | ok shape =>
            have allocated := allocateAllowed_actions env .gathered
              (toSize (getByteSize batchInput.dataType shape)) s allowed
            simp only
            generalize allocateAllowed env .gathered
              (toSize (getByteSize batchInput.dataType shape)) s allowed = made at allocated ⊢
            obtain ⟨memory, s'⟩ := made
            cases memory with
            | none => exact Or.inl ⟨rfl, Option.some_ne_none _, allocated.trans looked⟩
            | some memory => exact Or.inr ⟨_, s', rfl, allocated.trans looked, rfl⟩

theorem batchHost_none {tensor : Tensor} (c : Collector)
    (ungiven : batchHost env tensor c.toSys = none) :
    (fillBatchTensor env cfg batchInput tensor c).error ≠ none ∧
      (fillBatchTensor env cfg batchInput tensor c).collector.actions = c.actions := by
  by_cases onHost : tensor.memoryType ≠ .gpu
  · rw [batchHost, if_pos onHost] at ungiven
    cases ungiven
  · rw [batchHost, if_neg onHost] at ungiven
    rw [fillBatchTensor, if_neg onHost]
    rcases createBackendMemory_sys env c.toSys .scratch [.cpuPinnedPool, .cpu] 0 tensor.byteSize with
      ⟨tick, allocType, _, made⟩ | ⟨tick, error, made⟩
    · rw [batchInputHost, made] at ungiven
      cases ungiven
    · rw [batchInputHost, made]
      exact ⟨Option.some_ne_none _, rfl⟩

theorem batchHost_sys {tensor : Tensor} {s : Sys} {host : Address × Sys}
    (given : batchHost env tensor s = some host) : host.2.actions = s.actions := by
  by_cases onHost : tensor.memoryType ≠ .gpu
  · rw [batchHost, if_pos onHost] at given
    cases given
    rfl
  · rw [batchHost, if_neg onHost] at given
    rcases createBackendMemory_sys env s .scratch [.cpuPinnedPool, .cpu] 0 tensor.byteSize with
      ⟨tick, allocType, _, made⟩ | ⟨tick, error, made⟩
    · rw [batchInputHost, made] at given
      cases given
      rfl
    · rw [batchInputHost, made] at given
      cases given

theorem contains_host {filling : BatchFilling} {effects : List (Effect Block UInt8)} :
    (∀ action ∈ effects.map Action.host, filling.Contains action) ↔
      AllInside filling.host filling.tensor.byteSize effects := by
  simp only [List.forall_mem_map, BatchFilling.Contains, AllInside]

theorem contains_copy (filling : BatchFilling) :
    filling.Contains (.stream [{
      source := filling.host
      target := filling.tensor.buffer
      byteSize := filling.tensor.byteSize }]) := by
  intro transfer member
  rw [List.mem_singleton] at member
  subst member
  exact fun _ _ written => written

end

section
variable (env : Env) (cfg : CollectorConfig) (batchInput : BatchInput)

/-- Every write of the call stays inside the buffer that it fills, and values that do not fit
are an error. -/
def StaysInside (buffer : Option Address) (bufferByteSize : Nat)
    (allowedInputTypes : List (MemoryType × Int)) (kept : Tensor) (c : Collector) : Prop :=
  let gathered := processBatchInput env cfg batchInput buffer bufferByteSize allowedInputTypes kept c
  match batchFilling env cfg batchInput buffer bufferByteSize allowedInputTypes c.toSys with
  | none => gathered.error ≠ none ∧ gathered.collector.actions = c.actions
  | some filling =>
      gathered.dst = filling.tensor ∧
        (∀ action ∈ gathered.collector.actions.drop c.actions.length, filling.Contains action) ∧
        (¬ ValuesFit batchInput.kind
            (foundShapes env cfg batchInput.sourceInput filling.sys 0 cfg.requests.length)
            filling.tensor.byteSize → gathered.error ≠ none)

end

/-- The counts are checked before each store. The zero in front of them, and the rows of a
request that has no items, are stored without a check. -/
theorem staysInside_iff (env : Env) (cfg : CollectorConfig) (batchInput : BatchInput)
    (items : batchInput.kind = .batchItemShape ∨ batchInput.kind = .batchItemShapeFlatten →
      ItemShapes (sourceShapes cfg.requests batchInput.sourceInput))
    (buffer : Option Address) (bufferByteSize : Nat) (allowed : List (MemoryType × Int))
    (kept : Tensor) (c : Collector) :
    StaysInside env cfg batchInput buffer bufferByteSize allowed kept c ↔
      ∀ filling, batchFilling env cfg batchInput buffer bufferByteSize allowed c.toSys =
          some filling →
        BatchInputRoom batchInput.kind
          (foundShapes env cfg batchInput.sourceInput filling.sys 0 cfg.requests.length)
          filling.tensor.byteSize := by
  rw [StaysInside]
  rcases processBatchInput_tensor env cfg batchInput buffer bufferByteSize allowed kept c with
    ⟨none, fails, unchanged⟩ | ⟨tensor, s, given, same, result⟩
  · have unfilled : batchFilling env cfg batchInput buffer bufferByteSize allowed c.toSys =
        .none := by rw [batchFilling, none, Option.bind_none]
    rw [unfilled]
    exact iff_of_true ⟨fails, unchanged⟩ fun filling impossible => by cases impossible
  · have actions : (c.waitBufferReady.withSys s).toSys = s := rfl
    cases hosted : batchHost env tensor s with
    | none =>
        have unfilled : batchFilling env cfg batchInput buffer bufferByteSize allowed c.toSys =
            none := by rw [batchFilling, given, Option.bind_some, hosted, Option.map_none]
        obtain ⟨fails, unchanged⟩ := batchHost_none env cfg batchInput
          (c.waitBufferReady.withSys s) hosted
        rw [unfilled, result]
        exact iff_of_true ⟨fails, unchanged.trans same⟩ fun filling impossible => by
          cases impossible
    | some host =>
        have filled : batchFilling env cfg batchInput buffer bufferByteSize allowed c.toSys =
            some { tensor, host := host.1, sys := host.2 } := by
          rw [batchFilling, given, Option.bind_some, hosted, Option.map_some]
        obtain ⟨dst, succeeds, copied⟩ := fillBatchTensor_host env cfg batchInput
          (c.waitBufferReady.withSys s) hosted
        have within := foundShapes_prefix env cfg batchInput.sourceInput host.2 0 cfg.requests.length
        rw [List.drop_zero] at within
        obtain ⟨⟨effects, writes, inside⟩, fits⟩ := fillBatchInput_writes env cfg batchInput
          host.1 tensor.byteSize host.2 rfl fun isItems => (items isItems).initial within
        rw [Sys.Writes, (batchHost_sys env hosted).trans same] at writes
        have contained : (∀ action ∈ (processBatchInput env cfg batchInput buffer bufferByteSize
            allowed kept c).collector.actions.drop c.actions.length,
            BatchFilling.Contains { tensor, host := host.1, sys := host.2 } action) ↔
            AllInside host.1 tensor.byteSize effects := by
          rw [result]
          rcases copied with kept | copied
          · rw [kept, writes, List.drop_left]
            exact contains_host
          · rw [copied, writes, List.append_assoc, List.drop_left, List.forall_mem_append,
              List.forall_mem_singleton]
            exact (and_iff_left (contains_copy _)).trans contains_host
        rw [filled]
        simp only [contained, inside, Option.some.injEq, forall_eq']
        constructor
        · intro stays
          exact stays.2.1
        · intro room
          refine ⟨by rw [result]; exact dst, room, fun unfit error => unfit ?_⟩
          rw [result] at error
          exact fits room (succeeds error)

/-! Item shapes in a buffer that the caller supplies. -/

def suppliedAddress : Address := { block := .tensor 0, offset := 0 }

def suppliedTensor (byteSize : Nat) : Tensor := {
  buffer := suppliedAddress
  byteSize
  memoryType := .cpu
  memoryTypeId := 0 }

def ShapesStayInside (shapes : List (List Int)) (byteSize : Nat) : Prop :=
  StaysInside (Env.successful fun _ _ => []) (CollectorConfig.plain (shapedRequests shapes))
    tokenShapes (some suppliedAddress) byteSize [(.cpu, 0)] (suppliedTensor 0)
    (Collector.create (Sys.fresh shapes.length) false)

/-- The row of the second request, which has no items, just fits behind that of the first. -/
theorem staysInside_row : ShapesStayInside [[2, 3], [0, 5]] 12 := by
  refine (staysInside_iff _ _ tokenShapes (fun _ => ?_) _ _ _ _ _).mpr fun filling given => ?_
  · exact ⟨by decide, by decide, by decide⟩
  · cases given
    exact ⟨by decide, fun impossible => absurd impossible (by decide), fun _ _ => by decide, trivial⟩

/-- A request of batch size 0 has no values, yet the second dimension of its shape is stored
behind a buffer of one element, and the call succeeds. -/
theorem not_staysInside_row :
    ItemShapes (sourceShapes (shapedRequests [[0, 3, 5]]) tokenShapes.sourceInput) ∧
      ¬ ShapesStayInside [[0, 3, 5]] 4 := by
  refine ⟨⟨by decide, by decide, by decide⟩, ?_⟩
  rintro ⟨_, within, _⟩
  have inside := within (.host (.store { block := .tensor 0, offset := 4 } [5, 0, 0, 0])) (by decide)
  have covered := inside (.tensor 0) 4 (by decide)
  exact absurd covered (by decide)

end TritonBackend
