import TritonBackend.Registry

/-!
`DeviceMemoryTracker`: CUPTI activity records are attributed to the `MemoryUsage` that an
external correlation record names, and change its counters. An object is known by the
address of its `cupti_tracker_`.
-/

namespace TritonBackend

open Registry

structure CounterArray where
  values : List (BitVec 64)
  len : Nat
  len_eq : len = values.length
deriving DecidableEq

def CounterArray.zeros (len : Nat) : CounterArray :=
  { values := List.replicate len 0, len, len_eq := by simp }

def CounterArray.modify (array : CounterArray) (idx : Nat) (change : BitVec 64 → BitVec 64) :
    CounterArray :=
  { values := array.values.modify idx change, len := array.len, len_eq := by simp [array.len_eq] }

inductive MemoryRegion
  | system | pinned | cuda
deriving DecidableEq, Repr

structure CuptiTracker where
  systemMemoryUsageByte : CounterArray
  pinnedMemoryUsageByte : CounterArray
  cudaMemoryUsageByte : CounterArray
  valid : Bool
deriving DecidableEq

def CuptiTracker.array (tracker : CuptiTracker) : MemoryRegion → CounterArray
  | .system => tracker.systemMemoryUsageByte
  | .pinned => tracker.pinnedMemoryUsageByte
  | .cuda => tracker.cudaMemoryUsageByte

def CuptiTracker.setArray (tracker : CuptiTracker) (region : MemoryRegion)
    (array : CounterArray) : CuptiTracker :=
  match region with
  | .system => { tracker with systemMemoryUsageByte := array }
  | .pinned => { tracker with pinnedMemoryUsageByte := array }
  | .cuda => { tracker with cudaMemoryUsageByte := array }

structure MemoryUsage where
  cuptiTracker : CuptiTracker
  tracked : Bool
deriving DecidableEq

def MemoryUsage.create (cudaDeviceCount : Nat) : MemoryUsage where
  cuptiTracker := {
    systemMemoryUsageByte := .zeros 1
    pinnedMemoryUsageByte := .zeros 1
    cudaMemoryUsageByte := .zeros cudaDeviceCount
    valid := true }
  tracked := false

/-- `std::transform` over the elements of the second array, into the first. -/
def CounterArray.plus (array rhs : CounterArray) : CounterArray where
  values := List.zipWith (fun other value => other + value) rhs.values array.values ++
    array.values.drop rhs.len
  len := array.len
  len_eq := by
    simp only [List.length_append, List.length_zipWith, List.length_drop, array.len_eq, rhs.len_eq]
    omega

def MemoryUsage.addAssign (usage rhs : MemoryUsage) : MemoryUsage where
  cuptiTracker := {
    systemMemoryUsageByte :=
      usage.cuptiTracker.systemMemoryUsageByte.plus rhs.cuptiTracker.systemMemoryUsageByte
    pinnedMemoryUsageByte :=
      usage.cuptiTracker.pinnedMemoryUsageByte.plus rhs.cuptiTracker.pinnedMemoryUsageByte
    cudaMemoryUsageByte :=
      usage.cuptiTracker.cudaMemoryUsageByte.plus rhs.cuptiTracker.cudaMemoryUsageByte
    valid := usage.cuptiTracker.valid }
  tracked := usage.tracked

/-! Activity records. -/

inductive MemoryOperation
  | allocation
  | release
  | other (operation : Nat)
deriving DecidableEq, Repr

inductive CuptiMemoryKind
  | device
  | pinned
  | pageable
  | other (kind : Nat)
deriving DecidableEq, Repr

structure ActivityMemory where
  correlationId : Nat
  memoryOperationType : MemoryOperation
  memoryKind : CuptiMemoryKind
  deviceId : Nat
  bytes : BitVec 64
deriving DecidableEq, Repr

inductive ExternalKind
  | unknown
  | other (kind : Nat)
deriving DecidableEq, Repr

inductive Activity
  | memory2 (record : ActivityMemory)
  | externalCorrelation (externalKind : ExternalKind) (correlationId externalId : Nat)
  | runtime
  | other (kind : Nat)
deriving DecidableEq, Repr

structure CounterPlace where
  usage : Nat
  region : MemoryRegion
  idx : Nat
deriving DecidableEq, Repr

/-- A use of an address as that of an object where there is none. `valid_` is read there,
and unless that reads as false a record that counts is stored to it, and to an element of
the array that the place seems to have. -/
structure DanglingUse where
  address : Nat
  record : ActivityMemory
deriving DecidableEq, Repr

/-- The tracker, the objects there are, each at its address, and what was accessed: the
counters stored to, and the uses of addresses where there was no object. -/
structure DeviceMemoryTracker where
  activityToMemoryUsage : Nat → Option Nat
  usages : Nat → Option MemoryUsage
  stores : List CounterPlace
  dangling : List DanglingUse

def DeviceMemoryTracker.create : DeviceMemoryTracker where
  activityToMemoryUsage := fun _ => none
  usages := fun _ => none
  stores := []
  dangling := []

/-- What `UpdateMemoryTypeUsage` returns, the array after it and the index stored to. -/
def updateMemoryTypeUsage (memoryRecord : ActivityMemory) (isAllocation : Bool)
    (memoryUsage : CounterArray) : Bool × CounterArray × Option Nat :=
  if memoryUsage.len ≤ memoryRecord.deviceId then (false, memoryUsage, none)
  else
    (true, memoryUsage.modify memoryRecord.deviceId fun value =>
      if isAllocation then value + memoryRecord.bytes else value - memoryRecord.bytes,
      some memoryRecord.deviceId)

def CuptiMemoryKind.region? : CuptiMemoryKind → Option MemoryRegion
  | .device => some .cuda
  | .pinned => some .pinned
  | .pageable => some .system
  | .other _ => none

def CuptiTracker.update (tracker : CuptiTracker) (memoryRecord : ActivityMemory)
    (isAllocation : Bool) : CuptiTracker × Option (MemoryRegion × Nat) :=
  match memoryRecord.memoryKind.region? with
  | none => ({ tracker with valid := false }, none)
  | some region =>
      let updated := updateMemoryTypeUsage memoryRecord isAllocation (tracker.array region)
      ({ tracker.setArray region updated.2.1 with valid := updated.1 },
        updated.2.2.map fun idx => (region, idx))

/-- A memory record is ignored unless it is of an allocation or a release. -/
def ActivityMemory.counts (record : ActivityMemory) : Bool :=
  record.memoryOperationType = .allocation || record.memoryOperationType = .release

def MemoryUsage.receive (usage : MemoryUsage) (memoryRecord : ActivityMemory) :
    MemoryUsage × Option (MemoryRegion × Nat) :=
  if !usage.cuptiTracker.valid || !memoryRecord.counts then (usage, none)
  else
    let updated := usage.cuptiTracker.update memoryRecord
      (memoryRecord.memoryOperationType = .allocation)
    ({ usage with cuptiTracker := updated.1 }, updated.2)

/-- The part of a memory record's case behind the lookup; the address may be null. -/
def DeviceMemoryTracker.attribute (s : DeviceMemoryTracker) (memoryRecord : ActivityMemory)
    (address : Nat) : DeviceMemoryTracker :=
  if address = 0 then s
  else
    match s.usages address with
    | none => { s with dangling := s.dangling ++ [{ address, record := memoryRecord }] }
    | some usage =>
        let received := usage.receive memoryRecord
        { s with
          usages := Function.update s.usages address (some received.1)
          stores := s.stores ++ (received.2.map fun place =>
            { usage := address, region := place.1, idx := place.2 : CounterPlace }).toList }

def DeviceMemoryTracker.trackActivityInternal (s : DeviceMemoryTracker) :
    Activity → DeviceMemoryTracker
  | .memory2 record =>
      match s.activityToMemoryUsage record.correlationId with
      | none => s
      | some address =>
          { s with
            activityToMemoryUsage := Function.update s.activityToMemoryUsage record.correlationId
              none }.attribute record address
  | .externalCorrelation .unknown correlationId externalId =>
      { s with
        activityToMemoryUsage := Function.update s.activityToMemoryUsage correlationId
          (some externalId) }
  | .externalCorrelation (.other _) _ _ => s
  | .runtime => s
  | .other _ => s

def DeviceMemoryTracker.trackActivities (s : DeviceMemoryTracker) (records : List Activity) :
    DeviceMemoryTracker :=
  records.foldl trackActivityInternal s

/-! The lifetime of the objects. -/

def DeviceMemoryTracker.setUsage (s : DeviceMemoryTracker) (address : Nat)
    (usage : Option MemoryUsage) : DeviceMemoryTracker :=
  { s with usages := Function.update s.usages address usage }

def DeviceMemoryTracker.setTracked (s : DeviceMemoryTracker) (address : Nat) (tracked : Bool) :
    DeviceMemoryTracker :=
  s.setUsage address ((s.usages address).map fun usage => { usage with tracked })

/-- `TrackThreadMemoryUsage`. CUPTI correlates the thread's activity with the address
from here on. -/
def DeviceMemoryTracker.trackThreadMemoryUsage (s : DeviceMemoryTracker) (address : Nat) :
    DeviceMemoryTracker :=
  s.setTracked address true

/-- `UntrackThreadMemoryUsage`, with the records that the flush delivers. -/
def DeviceMemoryTracker.untrackThreadMemoryUsage (s : DeviceMemoryTracker) (address : Nat)
    (flushed : List Activity) : DeviceMemoryTracker :=
  (s.trackActivities flushed).setTracked address false

/-- What happens to the tracker, in any order: objects are made, tracked, untracked and
freed, and CUPTI delivers records. `~MemoryUsage` untracks an object that is still tracked
and frees it. -/
inductive TrackerEvent
  | construct (address cudaDeviceCount : Nat)
  | track (address : Nat)
  | untrack (address : Nat) (flushed : List Activity)
  | free (address : Nat)
  | deliver (record : Activity)
deriving DecidableEq, Repr

def DeviceMemoryTracker.step (s : DeviceMemoryTracker) : TrackerEvent → DeviceMemoryTracker
  | .construct address cudaDeviceCount => s.setUsage address (some (.create cudaDeviceCount))
  | .track address => s.trackThreadMemoryUsage address
  | .untrack address flushed => s.untrackThreadMemoryUsage address flushed
  | .free address => s.setUsage address none
  | .deliver record => s.trackActivityInternal record

def DeviceMemoryTracker.run (s : DeviceMemoryTracker) (events : List TrackerEvent) :
    DeviceMemoryTracker :=
  events.foldl step s

end TritonBackend
