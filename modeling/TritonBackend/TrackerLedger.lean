import TritonBackend.TrackerCore
import Mathlib.Data.BitVec
import Mathlib.Tactic.Ring

/-!
What the counters of an object hold: what it started with and the balance of the records
attributed to it, as long as each of them could be counted.
-/

namespace TritonBackend

open Registry

/-! Attribution. -/

/-- A memory record uses a correlation id, an external correlation registers one. -/
def Activity.event? : Activity → Option (Registry.Event Nat Nat)
  | .memory2 record => some (.use record.correlationId)
  | .externalCorrelation .unknown correlationId externalId =>
      some (.register correlationId externalId)
  | .externalCorrelation (.other _) _ _ => none
  | .runtime => none
  | .other _ => none

def registrations (records : List Activity) : List (Registry.Event Nat Nat) :=
  records.filterMap Activity.event?

theorem activity_step (s : DeviceMemoryTracker) (record : Activity) :
    (s.trackActivityInternal record).activityToMemoryUsage =
      (record.event?.toList).foldl Registry.Event.apply s.activityToMemoryUsage := by
  cases record with
  | memory2 record =>
      simp only [DeviceMemoryTracker.trackActivityInternal, Activity.event?, Option.toList,
        List.foldl_cons, List.foldl_nil, Registry.Event.apply, Registry.Event.key, Registry.Event.value?]
      split
      · rename_i gone
        rw [← gone, Function.update_eq_self]
      · simp only [DeviceMemoryTracker.attribute]
        split
        · rfl
        · split <;> rfl
  | externalCorrelation externalKind correlationId externalId =>
      cases externalKind with
      | unknown => rfl
      | other kind => rfl
  | runtime => rfl
  | other kind => rfl

theorem activity_run (s : DeviceMemoryTracker) (records : List Activity) :
    (s.trackActivities records).activityToMemoryUsage =
      (registrations records).foldl Registry.Event.apply s.activityToMemoryUsage := by
  induction records generalizing s with
  | nil => rfl
  | cons record rest ih =>
      have split : registrations (record :: rest) =
          record.event?.toList ++ registrations rest := by
        cases e : record.event? <;> simp [registrations, e]
      rw [split, List.foldl_append, ← activity_step]
      exact ih _

/-- The memory record, when its id stands for the object after the records before it. -/
def Activity.attributedTo (address : Nat) (before : List Activity) :
    Activity → Option ActivityMemory
  | .memory2 record =>
      if Standing (registrations before) record.correlationId address then some record else none
  | _ => none

theorem attributedTo_cases {address : Nat} {before : List Activity} {record : Activity}
    {memory : ActivityMemory} (taken : record.attributedTo address before = some memory) :
    record = .memory2 memory ∧ Standing (registrations before) memory.correlationId address := by
  cases record with
  | memory2 record =>
      simp only [Activity.attributedTo] at taken
      split at taken
      · obtain rfl : record = memory := by simpa using taken
        exact ⟨rfl, ‹_›⟩
      · simp at taken
  | externalCorrelation externalKind correlationId externalId =>
      simp [Activity.attributedTo] at taken
  | runtime => simp [Activity.attributedTo] at taken
  | other kind => simp [Activity.attributedTo] at taken

/-- What is picked from each record, given the records before it. -/
def pickRecords (pick : List Activity → Activity → Option ActivityMemory)
    (records : List Activity) : List ActivityMemory :=
  (List.range records.length).filterMap fun idx =>
    (records[idx]?).bind (pick (records.take idx))

theorem pickRecords_concat (pick : List Activity → Activity → Option ActivityMemory)
    (records : List Activity) (record : Activity) :
    pickRecords pick (records ++ [record]) =
      pickRecords pick records ++ (pick records record).toList := by
  have earlier : (List.range records.length).filterMap (fun idx =>
      ((records ++ [record])[idx]?).bind (pick ((records ++ [record]).take idx))) =
      pickRecords pick records := by
    refine List.filterMap_congr fun idx member => ?_
    have below := List.mem_range.mp member
    rw [List.getElem?_append_left below, List.take_append_of_le_length (Nat.le_of_lt below)]
  have last : ((records ++ [record])[records.length]?).bind
      (pick ((records ++ [record]).take records.length)) = pick records record := by
    rw [List.getElem?_concat_length, List.take_left]
    rfl
  rw [pickRecords, List.length_append, List.length_singleton, List.range_succ,
    List.filterMap_append, earlier]
  simp only [List.filterMap_cons, List.filterMap_nil, last]
  cases pick records record <;> rfl

def attributed (address : Nat) : List Activity → List ActivityMemory :=
  pickRecords (Activity.attributedTo address)

theorem attributed_concat (address : Nat) (records : List Activity) (record : Activity) :
    attributed address (records ++ [record]) =
      attributed address records ++ (record.attributedTo address records).toList :=
  pickRecords_concat _ records record

/-! One record. -/

theorem usages_attributed {s : DeviceMemoryTracker} {record : ActivityMemory} {address : Nat}
    (place : address ≠ 0) (names : s.activityToMemoryUsage record.correlationId = some address) :
    (s.trackActivityInternal (.memory2 record)).usages address =
      (s.usages address).map fun usage => (usage.receive record).1 := by
  simp only [DeviceMemoryTracker.trackActivityInternal, names, DeviceMemoryTracker.attribute,
    if_neg place]
  cases live : s.usages address with
  | none => exact live
  | some usage => exact Function.update_self _ _ _

theorem usages_other {s : DeviceMemoryTracker} {record : Activity} {address : Nat}
    (unnamed : ∀ memory, record = .memory2 memory →
      s.activityToMemoryUsage memory.correlationId ≠ some address) :
    (s.trackActivityInternal record).usages address = s.usages address := by
  cases record with
  | memory2 record =>
      cases named : s.activityToMemoryUsage record.correlationId with
      | none => simp only [DeviceMemoryTracker.trackActivityInternal, named]
      | some other =>
          have apart : address ≠ other := by
            rintro rfl
            exact unnamed record rfl named
          simp only [DeviceMemoryTracker.trackActivityInternal, named,
            DeviceMemoryTracker.attribute]
          split
          · rfl
          · cases live : s.usages other with
            | none => rfl
            | some usage => exact Function.update_of_ne apart _ _
  | externalCorrelation externalKind correlationId externalId =>
      cases externalKind with
      | unknown => rfl
      | other kind => rfl
  | runtime => rfl
  | other kind => rfl

/-- The objects there are when the first record comes, and nothing registered. -/
def DeviceMemoryTracker.start (usages : Nat → Option MemoryUsage) : DeviceMemoryTracker :=
  { DeviceMemoryTracker.create with usages }

theorem activity_start (usages : Nat → Option MemoryUsage) (records : List Activity)
    (correlationId address : Nat) :
    ((DeviceMemoryTracker.start usages).trackActivities records).activityToMemoryUsage
        correlationId = some address ↔
      Standing (registrations records) correlationId address := by
  rw [activity_run]
  exact table_standing (registrations records) correlationId address

theorem trackActivities_concat (s : DeviceMemoryTracker) (records : List Activity)
    (record : Activity) :
    s.trackActivities (records ++ [record]) =
      (s.trackActivities records).trackActivityInternal record := by
  rw [DeviceMemoryTracker.trackActivities, List.foldl_append]
  rfl

theorem usages_step {usages : Nat → Option MemoryUsage} {records : List Activity}
    {record : Activity} {address : Nat} (place : address ≠ 0) :
    ((DeviceMemoryTracker.start usages).trackActivities (records ++ [record])).usages address =
      (((DeviceMemoryTracker.start usages).trackActivities records).usages address).map
        fun usage => (record.attributedTo address records).toList.foldl
          (fun usage memory => (usage.receive memory).1) usage := by
  rw [trackActivities_concat]
  cases taken : record.attributedTo address records with
  | none =>
      have unnamed (memory : ActivityMemory) (same : record = .memory2 memory) :
          ((DeviceMemoryTracker.start usages).trackActivities records).activityToMemoryUsage
            memory.correlationId ≠ some address := by
        rintro named
        rw [activity_start] at named
        simp [same, Activity.attributedTo, named] at taken
      rw [usages_other unnamed]
      cases ((DeviceMemoryTracker.start usages).trackActivities records).usages address <;> rfl
  | some memory =>
      obtain ⟨rfl, stands⟩ := attributedTo_cases taken
      exact usages_attributed place ((activity_start usages records _ _).mpr stands)

/-- An object goes through the records attributed to it, and through nothing else. -/
theorem usages_run (usages : Nat → Option MemoryUsage) (records : List Activity) {address : Nat}
    (place : address ≠ 0) :
    ((DeviceMemoryTracker.start usages).trackActivities records).usages address =
      (usages address).map fun usage => (attributed address records).foldl
        (fun usage memory => (usage.receive memory).1) usage := by
  induction records using List.reverseRecOn with
  | nil => cases live : usages address <;> simp [DeviceMemoryTracker.trackActivities,
      DeviceMemoryTracker.start, attributed, pickRecords, live]
  | append_singleton records record ih =>
      rw [usages_step place, ih, attributed_concat, Option.map_map]
      cases usages address with
      | none => rfl
      | some usage => simp only [Option.map_some, Function.comp, List.foldl_append]

/-! The records of one object. -/

def MemoryUsage.valid (usage : MemoryUsage) : Bool := usage.cuptiTracker.valid

def MemoryUsage.len (usage : MemoryUsage) (region : MemoryRegion) : Nat :=
  (usage.cuptiTracker.array region).len

def MemoryUsage.counter (usage : MemoryUsage) (region : MemoryRegion) (idx : Nat) :
    Option (BitVec 64) :=
  (usage.cuptiTracker.array region).values[idx]?

def MemoryUsage.holds (usage : MemoryUsage) (record : ActivityMemory) : Bool :=
  record.memoryKind.region?.any fun region => record.deviceId < usage.len region

/-- The bytes of the records of one operation on one region of one device. -/
def moved (operation : MemoryOperation) (region : MemoryRegion) (idx : Nat)
    (records : List ActivityMemory) : BitVec 64 :=
  ((records.filter fun record => record.memoryOperationType = operation ∧
    record.memoryKind.region? = some region ∧ record.deviceId = idx).map ActivityMemory.bytes).sum

def MemoryUsage.receiveAll (usage : MemoryUsage) (records : List ActivityMemory) : MemoryUsage :=
  records.foldl (fun usage record => (usage.receive record).1) usage

theorem moved_nil (operation : MemoryOperation) (region : MemoryRegion) (idx : Nat) :
    moved operation region idx [] = 0 := rfl

theorem moved_append (operation : MemoryOperation) (region : MemoryRegion) (idx : Nat)
    (first second : List ActivityMemory) :
    moved operation region idx (first ++ second) =
      moved operation region idx first + moved operation region idx second := by
  simp only [moved, List.filter_append, List.map_append, List.sum_append]

theorem moved_singleton (operation : MemoryOperation) (region : MemoryRegion) (idx : Nat)
    (record : ActivityMemory) :
    moved operation region idx [record] =
      if record.memoryOperationType = operation ∧ record.memoryKind.region? = some region ∧
        record.deviceId = idx then record.bytes else 0 := by
  by_cases matched : record.memoryOperationType = operation ∧
    record.memoryKind.region? = some region ∧ record.deviceId = idx
  · simp [moved, matched]
  · rw [if_neg matched, moved, List.filter_cons_of_neg (by simpa using matched)]
    rfl

theorem moved_uncounted {record : ActivityMemory} (uncounted : record.counts = false)
    (region : MemoryRegion) (idx : Nat) :
    moved .allocation region idx [record] = 0 ∧ moved .release region idx [record] = 0 := by
  rw [moved_singleton, moved_singleton]
  simp only [ActivityMemory.counts, Bool.or_eq_false_iff, decide_eq_false_iff_not] at uncounted
  exact ⟨if_neg fun matched => uncounted.1 matched.1, if_neg fun matched => uncounted.2 matched.1⟩

@[simp] theorem array_setArray (tracker : CuptiTracker) (region other : MemoryRegion)
    (array : CounterArray) :
    (tracker.setArray region array).array other =
      if other = region then array else tracker.array other := by
  cases region <;> cases other <;> rfl

def ActivityMemory.change (record : ActivityMemory) (value : BitVec 64) : BitVec 64 :=
  if record.memoryOperationType = .allocation then value + record.bytes else value - record.bytes

def MemoryUsage.invalidate (usage : MemoryUsage) : MemoryUsage :=
  { usage with cuptiTracker := { usage.cuptiTracker with valid := false } }

def MemoryUsage.modify (usage : MemoryUsage) (region : MemoryRegion) (idx : Nat)
    (change : BitVec 64 → BitVec 64) : MemoryUsage :=
  { usage with
    cuptiTracker := usage.cuptiTracker.setArray region
      ((usage.cuptiTracker.array region).modify idx change) }

/-- What becomes of an object to which a record is attributed, and the counter stored to. -/
inductive Received (usage : MemoryUsage) (record : ActivityMemory) :
    MemoryUsage × Option (MemoryRegion × Nat) → Prop
  | ignored : usage.valid = false ∨ record.counts = false →
      Received usage record (usage, none)
  | rejected : usage.valid = true → record.counts = true → usage.holds record = false →
      Received usage record (usage.invalidate, none)
  | counted {region} : usage.valid = true → record.counts = true →
      record.memoryKind.region? = some region → record.deviceId < usage.len region →
      Received usage record
        (usage.modify region record.deviceId record.change, some (region, record.deviceId))

theorem update_held {usage : MemoryUsage} {record : ActivityMemory} {region : MemoryRegion}
    (valid : usage.valid = true) (kind : record.memoryKind.region? = some region)
    (held : record.deviceId < usage.len region) :
    usage.cuptiTracker.update record (record.memoryOperationType = .allocation) =
      (usage.cuptiTracker.setArray region
        ((usage.cuptiTracker.array region).modify record.deviceId record.change),
        some (region, record.deviceId)) := by
  have inside : ¬ (usage.cuptiTracker.array region).len ≤ record.deviceId := Nat.not_le.mpr held
  rw [MemoryUsage.valid] at valid
  simp only [CuptiTracker.update, kind, updateMemoryTypeUsage, inside, if_false,
    decide_eq_true_eq, Option.map_some, Prod.mk.injEq, and_true]
  cases region <;> simp only [CuptiTracker.setArray, valid] <;> rfl

theorem update_refused {usage : MemoryUsage} {record : ActivityMemory} {region : MemoryRegion}
    (kind : record.memoryKind.region? = some region)
    (unheld : ¬ record.deviceId < usage.len region) :
    usage.cuptiTracker.update record (record.memoryOperationType = .allocation) =
      ({ usage.cuptiTracker with valid := false }, none) := by
  have outside : (usage.cuptiTracker.array region).len ≤ record.deviceId := Nat.not_lt.mp unheld
  simp only [CuptiTracker.update, kind, updateMemoryTypeUsage, outside, if_true, Option.map_none]
  cases region <;> rfl

theorem receive_received (usage : MemoryUsage) (record : ActivityMemory) :
    Received usage record (usage.receive record) := by
  cases valid : usage.valid with
  | false =>
      have quiet : usage.receive record = (usage, none) := by
        rw [MemoryUsage.valid] at valid
        simp [MemoryUsage.receive, valid]
      rw [quiet]
      exact .ignored (.inl valid)
  | true =>
      cases counts : record.counts with
      | false =>
          have quiet : usage.receive record = (usage, none) := by
            simp [MemoryUsage.receive, counts]
          rw [quiet]
          exact .ignored (.inr counts)
      | true =>
          have taken : usage.receive record =
              ({ usage with cuptiTracker := (usage.cuptiTracker.update record
                  (record.memoryOperationType = .allocation)).1 },
                (usage.cuptiTracker.update record
                  (record.memoryOperationType = .allocation)).2) := by
            rw [MemoryUsage.valid] at valid
            simp [MemoryUsage.receive, valid, counts]
          rw [taken]
          cases kind : record.memoryKind.region? with
          | none =>
              simp only [CuptiTracker.update, kind]
              exact .rejected valid counts (by simp [MemoryUsage.holds, kind])
          | some region =>
              by_cases held : record.deviceId < usage.len region
              · rw [update_held valid kind held]
                exact .counted valid counts kind held
              · rw [update_refused kind held]
                exact .rejected valid counts (by simp [MemoryUsage.holds, kind, held])

section
variable {usage : MemoryUsage} {record : ActivityMemory}
  {result : MemoryUsage × Option (MemoryRegion × Nat)}

theorem Received.len (received : Received usage record result) (region : MemoryRegion) :
    result.1.len region = usage.len region := by
  cases received with
  | ignored => rfl
  | rejected => cases region <;> rfl
  | @counted other _ _ _ _ =>
      simp only [MemoryUsage.len, MemoryUsage.modify, array_setArray]
      split
      · rename_i same
        rw [same]
        rfl
      · rfl

theorem Received.valid (received : Received usage record result) :
    result.1.valid = (usage.valid && (!record.counts || usage.holds record)) := by
  cases received with
  | ignored quiet =>
      rcases quiet with invalid | uncounted
      · rw [invalid, Bool.false_and]
      · rw [uncounted, Bool.not_false, Bool.true_or, Bool.and_true]
  | rejected valid counts unheld =>
      rw [valid, counts, unheld]
      rfl
  | @counted region valid counts kind held =>
      have same : (usage.modify region record.deviceId record.change).valid = usage.valid := by
        cases region <;> rfl
      simp [same, valid, MemoryUsage.holds, kind, held]

theorem Received.counter (received : Received usage record result) (valid : result.1.valid = true)
    (region : MemoryRegion) (idx : Nat) :
    result.1.counter region idx = (usage.counter region idx).map fun value =>
      value + moved .allocation region idx [record] - moved .release region idx [record] := by
  cases received with
  | ignored quiet =>
      have uncounted : record.counts = false := quiet.resolve_left fun invalid => by
        rw [valid] at invalid
        contradiction
      obtain ⟨allocated, released⟩ := moved_uncounted uncounted region idx
      rw [allocated, released]
      simp
  | rejected => contradiction
  | @counted other _ counts kind held =>
      have operation := counts
      simp only [ActivityMemory.counts, Bool.or_eq_true, decide_eq_true_eq] at operation
      rw [moved_singleton, moved_singleton]
      simp only [kind, Option.some.injEq]
      by_cases same : other = region ∧ record.deviceId = idx
      · obtain ⟨rfl, rfl⟩ := same
        have now : (usage.modify other record.deviceId record.change).counter other
            record.deviceId = (usage.counter other record.deviceId).map record.change := by
          simp only [MemoryUsage.counter, MemoryUsage.modify, array_setArray, if_true,
            CounterArray.modify, List.getElem?_modify_eq]
          rfl
        rw [now]
        refine congrArg (fun change => Option.map change _) (funext fun value => ?_)
        rcases operation with allocation | release
        · simp [ActivityMemory.change, allocation]
        · simp [ActivityMemory.change, release]
      · have still : (usage.modify other record.deviceId record.change).counter region idx =
            usage.counter region idx := by
          simp only [MemoryUsage.counter, MemoryUsage.modify, array_setArray]
          split
          · rename_i same_region
            have apart : record.deviceId ≠ idx := fun found => same ⟨same_region.symm, found⟩
            rw [same_region]
            exact List.getElem?_modify_ne _ _ apart
          · rfl
        rw [still, if_neg fun matched => same matched.2, if_neg fun matched => same matched.2]
        simp

theorem Received.stored (received : Received usage record result) {region : MemoryRegion}
    {idx : Nat} (stored : result.2 = some (region, idx)) : idx < usage.len region := by
  cases received with
  | ignored => contradiction
  | rejected => contradiction
  | counted _ _ _ held =>
      obtain ⟨rfl, rfl⟩ := Prod.mk.inj (Option.some.inj stored)
      exact held

theorem receive_len (region : MemoryRegion) :
    (usage.receive record).1.len region = usage.len region :=
  (receive_received usage record).len region

theorem receive_valid :
    (usage.receive record).1.valid = (usage.valid && (!record.counts || usage.holds record)) :=
  (receive_received usage record).valid

theorem receive_invalid (invalid : usage.valid = false) : usage.receive record = (usage, none) := by
  rw [MemoryUsage.valid] at invalid
  simp [MemoryUsage.receive, invalid]

end

/-- The counters agree with the records attributed, up to the first that has no counter. -/
structure Accounts (before after : MemoryUsage) (own : List ActivityMemory) : Prop where
  len : ∀ region, after.len region = before.len region
  valid_iff : after.valid = true ↔
    before.valid = true ∧ ∀ record ∈ own, record.counts = true → before.holds record = true
  counter : after.valid = true → ∀ region idx, after.counter region idx =
    (before.counter region idx).map fun value =>
      value + moved .allocation region idx own - moved .release region idx own

theorem accounts_nil (usage : MemoryUsage) : Accounts usage usage [] where
  len _ := rfl
  valid_iff := by simp
  counter _ region idx := by simp [moved_nil]

theorem accounts_concat {before after : MemoryUsage} {own : List ActivityMemory}
    (accounts : Accounts before after own) (record : ActivityMemory) :
    Accounts before (after.receive record).1 (own ++ [record]) where
  len region := (receive_len region).trans (accounts.len region)
  valid_iff := by
    have holds : after.holds record = before.holds record := by
      simp only [MemoryUsage.holds, accounts.len]
    rw [receive_valid, Bool.and_eq_true, accounts.valid_iff, holds]
    simp only [List.forall_mem_append, List.forall_mem_singleton, Bool.or_eq_true,
      Bool.not_eq_true', and_assoc]
    refine and_congr_right fun _ => and_congr_right fun _ => ?_
    cases record.counts <;> simp
  counter valid region idx := by
    have earlier : after.valid = true := by
      rw [receive_valid, Bool.and_eq_true] at valid
      exact valid.1
    rw [(receive_received after record).counter valid region idx, accounts.counter earlier,
      Option.map_map]
    refine congrArg (fun change => Option.map change _) (funext fun value => ?_)
    simp only [Function.comp, moved_append]
    ring

theorem receiveAll_accounts (usage : MemoryUsage) (own : List ActivityMemory) :
    Accounts usage (usage.receiveAll own) own := by
  induction own using List.reverseRecOn with
  | nil => exact accounts_nil usage
  | append_singleton own record ih =>
      rw [MemoryUsage.receiveAll, List.foldl_append]
      exact accounts_concat ih record

theorem receiveAll_invalid {usage : MemoryUsage} (invalid : usage.valid = false)
    (own : List ActivityMemory) : usage.receiveAll own = usage := by
  induction own with
  | nil => rfl
  | cons record rest ih =>
      rw [MemoryUsage.receiveAll, List.foldl_cons, receive_invalid invalid]
      exact ih

/-! A whole run. -/

theorem usages_kept {usages : Nat → Option MemoryUsage} {records : List Activity}
    {record : Activity} {address : Nat} (place : address ≠ 0)
    (other : record.attributedTo address records = none) :
    ((DeviceMemoryTracker.start usages).trackActivities (records ++ [record])).usages address =
      ((DeviceMemoryTracker.start usages).trackActivities records).usages address := by
  rw [usages_step place, other]
  exact Option.map_id'

theorem usages_frozen {usages : Nat → Option MemoryUsage} (first second : List Activity)
    {address : Nat} {usage : MemoryUsage} (place : address ≠ 0)
    (held : ((DeviceMemoryTracker.start usages).trackActivities first).usages address = some usage)
    (invalid : usage.valid = false) :
    ((DeviceMemoryTracker.start usages).trackActivities (first ++ second)).usages address =
      some usage := by
  induction second using List.reverseRecOn with
  | nil => rwa [List.append_nil]
  | append_singleton second record ih =>
      rw [← List.append_assoc, usages_step place, ih, Option.map_some]
      exact congrArg some (receiveAll_invalid invalid _)

theorem accessed_step (s : DeviceMemoryTracker) (record : Activity) :
    ((s.trackActivityInternal record).stores = s.stores ∧
        (s.trackActivityInternal record).dangling = s.dangling ∧
        ∀ memory address, record = .memory2 memory →
          s.activityToMemoryUsage memory.correlationId = some address → address = 0) ∨
      ∃ memory address, record = .memory2 memory ∧
        s.activityToMemoryUsage memory.correlationId = some address ∧ address ≠ 0 ∧
        ((s.usages address = none ∧ (s.trackActivityInternal record).stores = s.stores ∧
            (s.trackActivityInternal record).dangling =
              s.dangling ++ [{ address, record := memory }]) ∨
          ∃ usage, s.usages address = some usage ∧
            (s.trackActivityInternal record).stores = s.stores ++
              ((usage.receive memory).2.map fun place =>
                { usage := address, region := place.1, idx := place.2 : CounterPlace }).toList ∧
            (s.trackActivityInternal record).dangling = s.dangling) := by
  cases record with
  | memory2 memory =>
      cases named : s.activityToMemoryUsage memory.correlationId with
      | none =>
          refine .inl ⟨?_, ?_, ?_⟩
          · simp only [DeviceMemoryTracker.trackActivityInternal, named]
          · simp only [DeviceMemoryTracker.trackActivityInternal, named]
          · rintro _ address ⟨⟩ other
            simp [named] at other
      | some address =>
          by_cases null : address = 0
          · refine .inl ⟨?_, ?_, ?_⟩
            · simp only [DeviceMemoryTracker.trackActivityInternal, named,
                DeviceMemoryTracker.attribute, if_pos null]
            · simp only [DeviceMemoryTracker.trackActivityInternal, named,
                DeviceMemoryTracker.attribute, if_pos null]
            · rintro _ other ⟨⟩ same
              rw [named, Option.some.injEq] at same
              rw [← same, null]
          · refine .inr ⟨memory, address, rfl, named, null, ?_⟩
            simp only [DeviceMemoryTracker.trackActivityInternal, named,
              DeviceMemoryTracker.attribute, if_neg null]
            cases live : s.usages address with
            | none => exact .inl ⟨rfl, rfl, rfl⟩
            | some usage => exact .inr ⟨usage, rfl, rfl, rfl⟩
  | externalCorrelation externalKind correlationId externalId =>
      cases externalKind with
      | unknown => exact .inl ⟨rfl, rfl, by simp⟩
      | other kind => exact .inl ⟨rfl, rfl, by simp⟩
  | runtime => exact .inl ⟨rfl, rfl, by simp⟩
  | other kind => exact .inl ⟨rfl, rfl, by simp⟩

theorem mem_registrations {records : List Activity} {correlationId address : Nat}
    (member : Registry.Event.register correlationId address ∈ registrations records) :
    .externalCorrelation .unknown correlationId address ∈ records := by
  obtain ⟨record, present, same⟩ := List.mem_filterMap.mp member
  cases record with
  | memory2 memory => simp [Activity.event?] at same
  | externalCorrelation externalKind otherId externalId =>
      cases externalKind with
      | unknown =>
          simp only [Activity.event?, Option.some.injEq, Registry.Event.register.injEq] at same
          obtain ⟨rfl, rfl⟩ := same
          exact present
      | other kind => simp [Activity.event?] at same
  | runtime => simp [Activity.event?] at same
  | other kind => simp [Activity.event?] at same

/-- The counters that the records of a run store to are inside the arrays of the objects
that there are. -/
theorem stores_run (usages : Nat → Option MemoryUsage) (records : List Activity) :
    ∀ place ∈ ((DeviceMemoryTracker.start usages).trackActivities records).stores,
      ∃ usage, usages place.usage = some usage ∧ place.idx < usage.len place.region := by
  induction records using List.reverseRecOn with
  | nil => simp [DeviceMemoryTracker.trackActivities, DeviceMemoryTracker.start,
      DeviceMemoryTracker.create]
  | append_singleton records record inside =>
      rw [trackActivities_concat]
      rcases accessed_step ((DeviceMemoryTracker.start usages).trackActivities records) record with
        ⟨stores, _, _⟩ | ⟨memory, address, rfl, _, place, accessed⟩
      · rwa [stores]
      · rcases accessed with ⟨_, stores, _⟩ | ⟨usage, live, stores, _⟩
        · rwa [stores]
        · rw [stores]
          intro counter member
          rcases List.mem_append.mp member with earlier | last
          · exact inside counter earlier
          · obtain ⟨stored, received, rfl⟩ := Option.map_eq_some_iff.mp (Option.mem_toList.mp last)
            rw [usages_run usages records place, Option.map_eq_some_iff] at live
            obtain ⟨started, begun, rfl⟩ := live
            have within := (receive_received _ memory).stored received
            rw [← MemoryUsage.receiveAll, (receiveAll_accounts started _).len] at within
            exact ⟨started, begun, within⟩

/-- Whenever a memory record is attributed to an address, the address is null or there is an
object at it. -/
def AttributesLive (usages : Nat → Option MemoryUsage) (records : List Activity) : Prop :=
  ∀ first record second address memory, records = first ++ record :: second →
    record.attributedTo address first = some memory →
    address = 0 ∨ ∃ usage, usages address = some usage

theorem attributesLive_concat (usages : Nat → Option MemoryUsage) (records : List Activity)
    (record : Activity) :
    AttributesLive usages (records ++ [record]) ↔ AttributesLive usages records ∧
      ∀ address memory, record.attributedTo address records = some memory →
        address = 0 ∨ ∃ usage, usages address = some usage := by
  constructor
  · intro live
    refine ⟨?_, fun address memory taken => live records record [] address memory rfl taken⟩
    intro first earlier second address memory split taken
    exact live first earlier (second ++ [record]) address memory (by simp [split]) taken
  · rintro ⟨live, last⟩ first next second address memory split taken
    rcases List.eq_nil_or_concat second with rfl | ⟨before, final, rfl⟩
    · obtain ⟨rfl, same⟩ := List.append_inj' split rfl
      rw [← List.singleton_inj.mp same] at taken
      exact last address memory taken
    · rw [List.concat_eq_append, ← List.cons_append, ← List.append_assoc] at split
      exact live first next before address memory (List.append_inj' split rfl).1 taken

/-- No record uses an address as that of an object that is not there exactly when none is
attributed to such an address. -/
theorem dangling_iff (usages : Nat → Option MemoryUsage) (records : List Activity) :
    ((DeviceMemoryTracker.start usages).trackActivities records).dangling = [] ↔
      AttributesLive usages records := by
  induction records using List.reverseRecOn with
  | nil => simp [DeviceMemoryTracker.trackActivities, DeviceMemoryTracker.start,
      DeviceMemoryTracker.create, AttributesLive]
  | append_singleton records record ih =>
      rw [trackActivities_concat, attributesLive_concat, ← ih]
      rcases accessed_step ((DeviceMemoryTracker.start usages).trackActivities records) record with
        ⟨_, dangling, unnamed⟩ | ⟨memory, address, rfl, named, place, accessed⟩
      · rw [dangling, iff_self_and]
        intro _ address memory taken
        obtain ⟨rfl, stands⟩ := attributedTo_cases taken
        exact .inl (unnamed memory address rfl ((activity_start usages records _ _).mpr stands))
      · have taken : (Activity.memory2 memory).attributedTo address records = some memory :=
          if_pos ((activity_start usages records _ _).mp named)
        have started := usages_run usages records place
        rcases accessed with ⟨dead, _, dangling⟩ | ⟨usage, live, _, dangling⟩
        · rw [started, Option.map_eq_none_iff] at dead
          rw [dangling]
          constructor
          · intro empty
            simp at empty
          · rintro ⟨_, last⟩
            rcases last address memory taken with null | ⟨usage, live⟩
            · exact absurd null place
            · simp [dead] at live
        · rw [started, Option.map_eq_some_iff] at live
          obtain ⟨begun, live, _⟩ := live
          rw [dangling, iff_self_and]
          intro _ other again same
          obtain ⟨alike, stands⟩ := attributedTo_cases same
          obtain rfl : memory = again := by simpa using alike
          rw [← activity_start usages] at stands
          rw [named, Option.some.injEq] at stands
          exact .inr ⟨begun, stands ▸ live⟩

/-- What the records of a stream do to the objects there are. -/
structure TracksRecords (usages : Nat → Option MemoryUsage) (records : List Activity) : Prop where
  accounts : ∀ address usage, address ≠ 0 → usages address = some usage → ∃ now,
    ((DeviceMemoryTracker.start usages).trackActivities records).usages address = some now ∧
      Accounts usage now (attributed address records)
  frozen : ∀ first second address usage, records = first ++ second → address ≠ 0 →
    ((DeviceMemoryTracker.start usages).trackActivities first).usages address = some usage →
    usage.valid = false →
    ((DeviceMemoryTracker.start usages).trackActivities records).usages address = some usage
  others : ∀ first record second address, records = first ++ record :: second → address ≠ 0 →
    record.attributedTo address first = none →
    ((DeviceMemoryTracker.start usages).trackActivities (first ++ [record])).usages address =
      ((DeviceMemoryTracker.start usages).trackActivities first).usages address
  stores : ∀ place ∈ ((DeviceMemoryTracker.start usages).trackActivities records).stores,
    ∃ usage, usages place.usage = some usage ∧ place.idx < usage.len place.region
  dangling : ((DeviceMemoryTracker.start usages).trackActivities records).dangling = []

theorem tracksRecords_iff (usages : Nat → Option MemoryUsage) (records : List Activity) :
    TracksRecords usages records ↔ AttributesLive usages records := by
  rw [← dangling_iff]
  constructor
  · exact TracksRecords.dangling
  · intro dangling
    refine ⟨?_, ?_, ?_, stores_run usages records, dangling⟩
    · intro address usage place held
      rw [usages_run usages records place, held]
      exact ⟨_, rfl, receiveAll_accounts usage _⟩
    · intro first second address usage split place held invalid
      rw [split]
      exact usages_frozen first second place held invalid
    · intro first record second address _ place other
      exact usages_kept place other

/-- The record of an allocation comes for an id that stands for a destroyed object. -/
def staleAllocation : List Activity := [
  .externalCorrelation .unknown 7 8,
  .memory2 {
    correlationId := 7, memoryOperationType := .allocation, memoryKind := .device, deviceId := 0,
    bytes := 4096 }]

theorem not_tracksRecords : ¬ TracksRecords (fun _ => none) staleAllocation := by
  intro tracks
  exact absurd tracks.dangling (by decide +kernel)

end TritonBackend
