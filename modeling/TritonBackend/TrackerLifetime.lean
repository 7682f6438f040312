import TritonBackend.TrackerLedger

/-!
Objects that come and go. `UntrackThreadMemoryUsage` does not remove the entries of the
object, so an entry is left for each correlation whose memory record has not come.
-/

namespace TritonBackend

open Registry

def TrackerEvent.records : TrackerEvent → List Activity
  | .construct _ _ => []
  | .track _ => []
  | .untrack _ flushed => flushed
  | .free _ => []
  | .deliver record => [record]

def delivered (events : List TrackerEvent) : List Activity := events.flatMap TrackerEvent.records

theorem activity_event (s : DeviceMemoryTracker) (event : TrackerEvent) :
    (s.step event).activityToMemoryUsage =
      (registrations event.records).foldl Registry.Event.apply s.activityToMemoryUsage := by
  cases event with
  | construct address cudaDeviceCount => rfl
  | track address => rfl
  | untrack address flushed => exact activity_run s flushed
  | free address => rfl
  | deliver record => exact activity_run s [record]

theorem activity_events (s : DeviceMemoryTracker) (events : List TrackerEvent) :
    (s.run events).activityToMemoryUsage =
      (registrations (delivered events)).foldl Registry.Event.apply s.activityToMemoryUsage := by
  induction events generalizing s with
  | nil => rfl
  | cons event rest ih =>
      have split : registrations (delivered (event :: rest)) =
          registrations event.records ++ registrations (delivered rest) := by
        simp only [registrations, delivered, List.flatMap_cons, List.filterMap_append]
      rw [split, List.foldl_append, ← activity_event]
      exact ih _

/-- The entries of the table after a run are what stands among the records delivered. -/
theorem entry_iff (events : List TrackerEvent) (correlationId address : Nat) :
    (DeviceMemoryTracker.create.run events).activityToMemoryUsage correlationId = some address ↔
      Standing (registrations (delivered events)) correlationId address := by
  rw [activity_events]
  exact table_standing _ _ _

/-- The object has been untracked and is not tracked again, and no correlation record for
it has been delivered since. -/
def Untracked (address : Nat) (events : List TrackerEvent) : Prop :=
  ∃ earlier flushed later, events = earlier ++ .untrack address flushed :: later ∧
    .track address ∉ later ∧
    ∀ correlationId, .externalCorrelation .unknown correlationId address ∉ delivered later

/-- The tracker holds no entry for the address, and attributes no memory record to it. -/
structure Forgotten (address : Nat) (events : List TrackerEvent) : Prop where
  entries : ∀ correlationId,
    (DeviceMemoryTracker.create.run events).activityToMemoryUsage correlationId ≠ some address
  records : ∀ record : ActivityMemory,
    (Activity.memory2 record).attributedTo address (delivered events) = none

/-- At every time of a run, the objects that are untracked are forgotten. -/
def ForgetsUntracked (events : List TrackerEvent) : Prop :=
  ∀ first second address, events = first ++ second → Untracked address first →
    Forgotten address first

/-- Whenever an object is untracked, each correlation record for it, down to the last that
the flush delivers, has been followed by a record that uses its id again. -/
def CorrelationsUsed (events : List TrackerEvent) : Prop :=
  ∀ earlier address flushed later, events = earlier ++ .untrack address flushed :: later →
    Released (registrations (delivered earlier ++ flushed)) address

theorem forgotten_iff {address : Nat} {events : List TrackerEvent} :
    Forgotten address events ↔ Released (registrations (delivered events)) address := by
  rw [released_iff]
  constructor
  · intro forgotten correlationId stands
    exact forgotten.entries correlationId ((entry_iff _ _ _).mpr stands)
  · intro gone
    refine ⟨fun correlationId entry => gone correlationId ((entry_iff _ _ _).mp entry), ?_⟩
    intro record
    exact if_neg (gone record.correlationId)

theorem delivered_untrack (earlier later : List TrackerEvent) (address : Nat)
    (flushed : List Activity) :
    delivered (earlier ++ .untrack address flushed :: later) =
      (delivered earlier ++ flushed) ++ delivered later := by
  simp only [delivered, List.flatMap_append, List.flatMap_cons, TrackerEvent.records,
    List.append_assoc]

/-- Untracked objects are forgotten exactly when their correlations have been used up
whenever they are untracked. -/
theorem forgetsUntracked_iff (events : List TrackerEvent) :
    ForgetsUntracked events ↔ CorrelationsUsed events := by
  constructor
  · intro forgets earlier address flushed later split
    have untracked : Untracked address (earlier ++ [.untrack address flushed]) :=
      ⟨earlier, flushed, [], rfl, by simp, by simp [delivered]⟩
    have forgotten := forgets _ later address (by rw [split, List.append_assoc]; rfl) untracked
    rw [forgotten_iff, delivered_untrack] at forgotten
    simpa [delivered] using forgotten
  · intro used first second address split untracked
    obtain ⟨earlier, flushed, later, rfl, _, silent⟩ := untracked
    have released := used earlier address flushed (later ++ second) (by
      rw [split, List.append_assoc]
      rfl)
    rw [forgotten_iff, delivered_untrack, registrations, List.filterMap_append]
    exact released.append fun correlationId member =>
      silent correlationId (mem_registrations member)

def leftBehind : List TrackerEvent := [
  .construct 8 1, .track 8,
  .deliver (.externalCorrelation .unknown 7 8), .deliver .runtime,
  .untrack 8 []]

theorem not_forgetsUntracked : ¬ ForgetsUntracked leftBehind := by
  intro forgets
  have untracked : Untracked 8 leftBehind :=
    ⟨leftBehind.take 4, [], [], rfl, by decide, by simp [delivered]⟩
  exact (forgets leftBehind [] 8 rfl untracked).entries 7 (by decide +kernel)

end TritonBackend
