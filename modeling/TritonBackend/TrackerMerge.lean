import TritonBackend.TrackerLedger
import Mathlib.Algebra.BigOperators.Group.List.Basic

/-!
`MemoryUsage::operator+=`: what merging the objects of a run into one gives, against one
object that all their records are attributed to. The counters add up; the validity of an
object that is merged into another is lost.
-/

namespace TritonBackend

open Registry

/-- The order in which objects, given by their addresses, are merged into one. -/
inductive MergeTree
  | object (address : Nat)
  | merge (into rhs : MergeTree)
deriving DecidableEq, Repr

namespace MergeTree

def leaves : MergeTree → List Nat
  | object address => [address]
  | merge into rhs => into.leaves ++ rhs.leaves

def target : MergeTree → Nat
  | object address => address
  | merge into _ => into.target

def combine (objects : Nat → MemoryUsage) : MergeTree → MemoryUsage
  | object address => objects address
  | merge into rhs => (into.combine objects).addAssign (rhs.combine objects)

theorem target_leaf (tree : MergeTree) : tree.target ∈ tree.leaves := by
  induction tree with
  | object address => exact List.mem_singleton_self address
  | merge into rhs ih _ => exact List.mem_append_left _ ih

end MergeTree

/-- A counter, or 0 where the object has none. -/
def MemoryUsage.value (usage : MemoryUsage) (region : MemoryRegion) (idx : Nat) : BitVec 64 :=
  (usage.counter region idx).getD 0

theorem addAssign_array (usage rhs : MemoryUsage) (region : MemoryRegion) :
    (usage.addAssign rhs).cuptiTracker.array region =
      (usage.cuptiTracker.array region).plus (rhs.cuptiTracker.array region) := by
  cases region <;> rfl

theorem addAssign_len (usage rhs : MemoryUsage) (region : MemoryRegion) :
    (usage.addAssign rhs).len region = usage.len region := by
  rw [MemoryUsage.len, addAssign_array]
  rfl

theorem addAssign_valid (usage rhs : MemoryUsage) : (usage.addAssign rhs).valid = usage.valid := rfl

theorem addAssign_value {usage rhs : MemoryUsage} {region : MemoryRegion}
    (same : rhs.len region = usage.len region) (idx : Nat) :
    (usage.addAssign rhs).value region idx = usage.value region idx + rhs.value region idx := by
  have usageSize := (usage.cuptiTracker.array region).len_eq
  have rhsSize := (rhs.cuptiTracker.array region).len_eq
  simp only [MemoryUsage.len] at same
  have whole : (usage.cuptiTracker.array region).values.drop (rhs.cuptiTracker.array region).len =
      [] := List.drop_of_length_le (by omega)
  simp only [MemoryUsage.value, MemoryUsage.counter, addAssign_array, CounterArray.plus, whole,
    List.append_nil, List.getElem?_zipWith]
  by_cases bound : idx < (usage.cuptiTracker.array region).values.length
  · rw [List.getElem?_eq_getElem bound,
      List.getElem?_eq_getElem (show idx < (rhs.cuptiTracker.array region).values.length by omega)]
    exact BitVec.add_comm _ _
  · rw [List.getElem?_eq_none (Nat.not_lt.mp bound), List.getElem?_eq_none
      (show (rhs.cuptiTracker.array region).values.length ≤ idx by omega)]
    simp

namespace MergeTree

variable {objects : Nat → MemoryUsage} {tree : MergeTree}

theorem combine_valid : (tree.combine objects).valid = (objects tree.target).valid := by
  induction tree with
  | object address => rfl
  | merge into rhs ih _ => exact (addAssign_valid _ _).trans ih

theorem combine_len {len : MemoryRegion → Nat}
    (same : ∀ address ∈ tree.leaves, ∀ region, (objects address).len region = len region)
    (region : MemoryRegion) : (tree.combine objects).len region = len region := by
  induction tree with
  | object address => exact same address (List.mem_singleton_self _) region
  | merge into rhs ih _ =>
      rw [combine, addAssign_len]
      exact ih fun address member => same address (List.mem_append_left _ member)

theorem combine_value {len : MemoryRegion → Nat}
    (same : ∀ address ∈ tree.leaves, ∀ region, (objects address).len region = len region)
    (region : MemoryRegion) (idx : Nat) :
    (tree.combine objects).value region idx =
      (tree.leaves.map fun address => (objects address).value region idx).sum := by
  induction tree with
  | object address => simp [combine, leaves]
  | merge into rhs ihInto ihRhs =>
      have sameInto (address : Nat) (member : address ∈ into.leaves) :=
        same address (List.mem_append_left _ member)
      have sameRhs (address : Nat) (member : address ∈ rhs.leaves) :=
        same address (List.mem_append_right _ member)
      have lens := (combine_len sameRhs region).trans (combine_len sameInto region).symm
      rw [combine, addAssign_value lens, ihInto sameInto, ihRhs sameRhs, leaves, List.map_append,
        List.sum_append]

end MergeTree

/-! Records of one object or of another. -/

/-- The memory record, when it is attributed to one of the objects. -/
def Activity.attributedAmong (addresses : List Nat) (before : List Activity) (record : Activity) :
    Option ActivityMemory :=
  addresses.findSome? fun address => record.attributedTo address before

def attributedAmong (addresses : List Nat) : List Activity → List ActivityMemory :=
  pickRecords (Activity.attributedAmong addresses)

theorem attributedTo_unique {first second : Nat} {before : List Activity} {record : Activity}
    {memory other : ActivityMemory} (taken : record.attributedTo first before = some memory)
    (again : record.attributedTo second before = some other) : first = second := by
  obtain ⟨rfl, stands⟩ := attributedTo_cases taken
  obtain ⟨same, standsToo⟩ := attributedTo_cases again
  obtain rfl : memory = other := by simpa using same
  rw [← table_standing] at stands standsToo
  exact Option.some.inj (stands.symm.trans standsToo)

section
variable (operation : MemoryOperation) (region : MemoryRegion) (idx : Nat)

theorem moved_among_record {addresses : List Nat} (once : addresses.Nodup)
    (before : List Activity) (record : Activity) :
    (addresses.map fun address =>
        moved operation region idx (record.attributedTo address before).toList).sum =
      moved operation region idx (record.attributedAmong addresses before).toList := by
  induction addresses with
  | nil => rfl
  | cons address rest ih =>
      rw [List.nodup_cons] at once
      rw [List.map_cons, List.sum_cons, ih once.2]
      simp only [Activity.attributedAmong, List.findSome?_cons]
      cases taken : record.attributedTo address before with
      | none => simp [moved_nil]
      | some memory =>
          have others : rest.findSome? (fun other => record.attributedTo other before) = none := by
            rw [List.findSome?_eq_none_iff]
            intro other member
            cases again : record.attributedTo other before with
            | none => rfl
            | some _ => exact absurd (attributedTo_unique taken again ▸ member) once.1
          simp [others, moved_nil]

theorem moved_among {addresses : List Nat} (once : addresses.Nodup) (records : List Activity) :
    (addresses.map fun address => moved operation region idx (attributed address records)).sum =
      moved operation region idx (attributedAmong addresses records) := by
  induction records using List.reverseRecOn with
  | nil =>
      have zeros : ∀ value ∈ addresses.map fun address =>
          moved operation region idx (attributed address []), value = 0 := by
        simp [attributed, pickRecords, moved_nil]
      exact List.sum_eq_zero zeros
  | append_singleton records record ih =>
      rw [attributedAmong, pickRecords_concat, moved_append, ← attributedAmong, ← ih,
        ← moved_among_record operation region idx once, ← List.sum_map_add]
      simp only [attributed_concat, moved_append]

end

theorem attributed_of_among {addresses : List Nat} {records : List Activity}
    {memory : ActivityMemory} (member : memory ∈ attributedAmong addresses records) :
    ∃ address ∈ addresses, memory ∈ attributed address records := by
  induction records using List.reverseRecOn with
  | nil => simp [attributedAmong, pickRecords] at member
  | append_singleton records record ih =>
      rw [attributedAmong, pickRecords_concat, List.mem_append] at member
      rcases member with earlier | last
      · obtain ⟨address, listed, within⟩ := ih earlier
        exact ⟨address, listed, by rw [attributed_concat]; exact List.mem_append_left _ within⟩
      · obtain ⟨address, listed, taken⟩ :=
          List.exists_of_findSome?_eq_some (Option.mem_toList.mp last)
        exact ⟨address, listed, by
          rw [attributed_concat, taken]
          exact List.mem_append_right _ (List.mem_singleton_self _)⟩

/-! Merging after a run. -/

/-- Objects that have just been made, the records of a run and the order of merging. -/
structure Merging where
  cudaDeviceCount : Nat
  records : List Activity
  tree : MergeTree
  once : tree.leaves.Nodup
  placed : ∀ address ∈ tree.leaves, address ≠ 0

namespace Merging

def usages (merging : Merging) (address : Nat) : Option MemoryUsage :=
  if address ∈ merging.tree.leaves then some (.create merging.cudaDeviceCount) else none

def object (merging : Merging) (address : Nat) : MemoryUsage :=
  (((DeviceMemoryTracker.start merging.usages).trackActivities merging.records).usages
    address).getD (.create merging.cudaDeviceCount)

def total (merging : Merging) : MemoryUsage := merging.tree.combine merging.object

/-- One object that all records of the others are attributed to. -/
def single (merging : Merging) : MemoryUsage :=
  (MemoryUsage.create merging.cudaDeviceCount).receiveAll
    (attributedAmong merging.tree.leaves merging.records)

/-- Merging gives a valid object exactly for valid objects, with the sums of their
counters, the counters of the one object. -/
structure Adds (merging : Merging) : Prop where
  valid_iff : merging.total.valid = true ↔
    ∀ address ∈ merging.tree.leaves, (merging.object address).valid = true
  sums : merging.total.valid = true → ∀ region idx, merging.total.value region idx =
    (merging.tree.leaves.map fun address => (merging.object address).value region idx).sum
  single_valid : merging.total.valid = true → merging.single.valid = true
  same : merging.total.valid = true → ∀ region idx,
    merging.total.value region idx = merging.single.value region idx

theorem object_eq (merging : Merging) {address : Nat} (member : address ∈ merging.tree.leaves) :
    merging.object address = (MemoryUsage.create merging.cudaDeviceCount).receiveAll
      (attributed address merging.records) := by
  rw [object, usages_run _ _ (merging.placed address member), usages, if_pos member]
  rfl

theorem object_accounts (merging : Merging) {address : Nat}
    (member : address ∈ merging.tree.leaves) :
    Accounts (.create merging.cudaDeviceCount) (merging.object address)
      (attributed address merging.records) := by
  rw [object_eq merging member]
  exact receiveAll_accounts _ _

theorem single_accounts (merging : Merging) :
    Accounts (.create merging.cudaDeviceCount) merging.single
      (attributedAmong merging.tree.leaves merging.records) :=
  receiveAll_accounts _ _

theorem total_valid (merging : Merging) :
    merging.total.valid = (merging.object merging.tree.target).valid := MergeTree.combine_valid

theorem sums_total (merging : Merging) (region : MemoryRegion) (idx : Nat) :
    merging.total.value region idx =
      (merging.tree.leaves.map fun address => (merging.object address).value region idx).sum :=
  MergeTree.combine_value (fun _ member => (merging.object_accounts member).len) region idx

end Merging

theorem create_value (cudaDeviceCount : Nat) {after : MemoryUsage} {own : List ActivityMemory}
    (accounts : Accounts (.create cudaDeviceCount) after own) (valid : after.valid = true)
    (region : MemoryRegion) (idx : Nat) :
    after.value region idx = if idx < (MemoryUsage.create cudaDeviceCount).len region then
      moved .allocation region idx own - moved .release region idx own else 0 := by
  have started : (MemoryUsage.create cudaDeviceCount).counter region idx =
      if idx < (MemoryUsage.create cudaDeviceCount).len region then some 0 else none := by
    cases region <;> exact List.getElem?_replicate
  rw [MemoryUsage.value, accounts.counter valid, started]
  split
  · simp
  · rfl

namespace Merging

theorem single_of_valid {merging : Merging}
    (valid : ∀ address ∈ merging.tree.leaves, (merging.object address).valid = true) :
    merging.single.valid = true ∧ ∀ region idx,
      merging.total.value region idx = merging.single.value region idx := by
  have single : merging.single.valid = true := by
    refine merging.single_accounts.valid_iff.mpr ⟨rfl, ?_⟩
    intro record member counts
    obtain ⟨address, listed, within⟩ := attributed_of_among member
    exact ((merging.object_accounts listed).valid_iff.mp (valid address listed)).2 record within
      counts
  refine ⟨single, ?_⟩
  intro region idx
  have each : merging.tree.leaves.map (fun address => (merging.object address).value region idx) =
      merging.tree.leaves.map fun address =>
        if idx < (MemoryUsage.create merging.cudaDeviceCount).len region then
          moved .allocation region idx (attributed address merging.records) -
            moved .release region idx (attributed address merging.records) else 0 :=
    List.map_congr_left fun address member =>
      create_value _ (merging.object_accounts member) (valid address member) region idx
  rw [sums_total, each, create_value _ merging.single_accounts single region idx,
    ← moved_among .allocation region idx merging.once,
    ← moved_among .release region idx merging.once]
  split
  · simp only [sub_eq_add_neg, List.sum_map_add]
    rw [List.sum_neg, List.map_map]
    rfl
  · simp

/-- `operator+=` adds up a run unless the object that is merged into is valid and one of
the others is not. -/
theorem adds_iff (merging : Merging) :
    merging.Adds ↔ (merging.object merging.tree.target).valid = false ∨
      ∀ address ∈ merging.tree.leaves, (merging.object address).valid = true := by
  constructor
  · intro adds
    cases target : (merging.object merging.tree.target).valid with
    | false => exact .inl rfl
    | true => exact .inr (adds.valid_iff.mp (merging.total_valid.trans target))
  · rintro (invalid | valid)
    · have lost : merging.total.valid = false := merging.total_valid.trans invalid
      have vacuous (valid : merging.total.valid = true) : False := by
        rw [lost] at valid
        contradiction
      refine ⟨⟨fun valid => (vacuous valid).elim, fun valid => ?_⟩, fun valid => (vacuous valid).elim,
        fun valid => (vacuous valid).elim, fun valid => (vacuous valid).elim⟩
      rw [valid _ merging.tree.target_leaf] at invalid
      contradiction
    · obtain ⟨single, same⟩ := single_of_valid valid
      exact ⟨⟨fun _ => valid, fun _ => merging.total_valid.trans (valid _ merging.tree.target_leaf)⟩,
        fun _ => merging.sums_total, fun _ => single, fun _ => same⟩

def incomplete : Merging where
  cudaDeviceCount := 1
  records := [
    .externalCorrelation .unknown 7 20,
    .memory2 {
      correlationId := 7
      memoryOperationType := .allocation
      memoryKind := .device
      deviceId := 1
      bytes := 4096 }]
  tree := .merge (.object 10) (.object 20)
  once := by decide
  placed := by decide

theorem not_adds_incomplete : ¬ incomplete.Adds := by
  intro adds
  have valid := adds.valid_iff.mp (by decide +kernel) 20 (by decide)
  exact absurd valid (by decide +kernel)

end Merging

end TritonBackend
