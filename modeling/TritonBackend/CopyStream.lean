import Mathlib.Data.List.Induction
import Mathlib.Data.List.Perm.Basic
import Mathlib.Tactic.Common

/-!
Copies between memory blocks, some made by the host at once and some put on one
asynchronous stream that an event can be recorded on. A queued copy lands when
the stream, or an event recorded behind it, is waited for.

The main result is `replay_copy`. When every address is written once and no block
is written after a read from it was issued, each copy's target ends up equal to
its source.
-/

namespace CopyStream

variable {β V : Type}

structure Pointer (β : Type) where
  block : β
  offset : Int
deriving DecidableEq, Repr

def Pointer.advance (pointer : Pointer β) (count : Nat) : Pointer β :=
  { pointer with offset := pointer.offset + count }

def Pointer.Covers (pointer : Pointer β) (size : Nat) (block : β) (position : Int) : Prop :=
  block = pointer.block ∧ pointer.offset ≤ position ∧ position < pointer.offset + size

instance [DecidableEq β] (pointer : Pointer β) (size : Nat) (block : β) (position : Int) :
    Decidable (pointer.Covers size block position) := by
  unfold Pointer.Covers
  infer_instance

@[simp] theorem advance_block (pointer : Pointer β) (count : Nat) :
    (pointer.advance count).block = pointer.block := rfl

@[simp] theorem advance_offset (pointer : Pointer β) (count : Nat) :
    (pointer.advance count).offset = pointer.offset + count := rfl

@[simp] theorem advance_zero (pointer : Pointer β) : pointer.advance 0 = pointer := by
  simp [Pointer.advance]

theorem advance_advance (pointer : Pointer β) (first second : Nat) :
    (pointer.advance first).advance second = pointer.advance (first + second) := by
  simp [Pointer.advance, Int.add_assoc]

structure Copy (β : Type) where
  source : Pointer β
  target : Pointer β
  byteSize : Nat
deriving DecidableEq, Repr

inductive Effect (β V : Type)
  | copy (transfer : Copy β)
  | store (target : Pointer β) (values : List V)
deriving DecidableEq

def Effect.target : Effect β V → Pointer β
  | .copy transfer => transfer.target
  | .store target _ => target

def Effect.byteSize : Effect β V → Nat
  | .copy transfer => transfer.byteSize
  | .store _ values => values.length

def Effect.Writes (effect : Effect β V) (block : β) (position : Int) : Prop :=
  effect.target.Covers effect.byteSize block position

instance [DecidableEq β] (effect : Effect β V) (block : β) (position : Int) :
    Decidable (effect.Writes block position) := by
  unfold Effect.Writes
  infer_instance

def Effect.readBlock : Effect β V → Option β
  | .copy transfer => some transfer.source.block
  | .store _ _ => none

abbrev Memory (β V : Type) := β → Int → V

def Effect.apply [DecidableEq β] (effect : Effect β V) (memory : Memory β V) : Memory β V :=
  fun block position =>
    if effect.Writes block position then
      match effect with
      | .copy transfer =>
          memory transfer.source.block
            (transfer.source.offset + (position - transfer.target.offset))
      | .store target values =>
          values.getD (position - target.offset).toNat (memory block position)
    else memory block position

def applyAll [DecidableEq β] (effects : List (Effect β V)) (memory : Memory β V) : Memory β V :=
  effects.foldl (fun memory effect => effect.apply memory) memory

inductive Action (β V : Type)
  | host (effect : Effect β V)
  | stream (copies : List (Copy β))
  | record
  | awaitEvent
  | awaitStream
deriving DecidableEq

def Action.effects : Action β V → List (Effect β V)
  | .host effect => [effect]
  | .stream copies => copies.map .copy
  | _ => []

def issued (actions : List (Action β V)) : List (Effect β V) :=
  actions.flatMap Action.effects

/-- `landed` is in the order of taking effect; `recorded` counts the queued copies
that the event covers. -/
structure Device (β V : Type) where
  landed : List (Effect β V)
  queue : List (Copy β)
  recorded : Nat

def Device.fresh : Device β V := { landed := [], queue := [], recorded := 0 }

def Device.step (device : Device β V) : Action β V → Device β V
  | .host effect => { device with landed := device.landed ++ [effect] }
  | .stream copies => { device with queue := device.queue ++ copies }
  | .record => { device with recorded := device.queue.length }
  | .awaitEvent => {
      landed := device.landed ++ (device.queue.take device.recorded).map .copy
      queue := device.queue.drop device.recorded
      recorded := 0 }
  | .awaitStream => {
      landed := device.landed ++ device.queue.map .copy
      queue := []
      recorded := 0 }

def Device.run (device : Device β V) (actions : List (Action β V)) : Device β V :=
  actions.foldl Device.step device

/-- What has landed, followed by what would land if the stream were waited for. -/
def Device.order (device : Device β V) : List (Effect β V) :=
  device.landed ++ device.queue.map .copy

def Device.memory [DecidableEq β] (device : Device β V) (initial : Memory β V) : Memory β V :=
  applyAll device.landed initial

@[simp] theorem issued_nil : issued ([] : List (Action β V)) = [] := rfl

@[simp] theorem issued_append (first second : List (Action β V)) :
    issued (first ++ second) = issued first ++ issued second := by
  simp [issued]

@[simp] theorem issued_cons (action : Action β V) (rest : List (Action β V)) :
    issued (action :: rest) = action.effects ++ issued rest := by
  simp [issued]

@[simp] theorem run_nil (device : Device β V) : device.run [] = device := rfl

@[simp] theorem run_concat (device : Device β V) (actions : List (Action β V))
    (action : Action β V) : device.run (actions ++ [action]) = (device.run actions).step action := by
  simp [Device.run]

/-! Memory after a list of effects. -/

theorem applyAll_append [DecidableEq β] (first second : List (Effect β V)) (memory : Memory β V) :
    applyAll (first ++ second) memory = applyAll second (applyAll first memory) := by
  simp [applyAll]

theorem apply_untouched [DecidableEq β] (effect : Effect β V) (memory : Memory β V)
    {block : β} {position : Int} (untouched : ¬ effect.Writes block position) :
    effect.apply memory block position = memory block position := by
  simp [Effect.apply, untouched]

theorem applyAll_untouched [DecidableEq β] (effects : List (Effect β V)) (memory : Memory β V)
    {block : β} {position : Int}
    (untouched : ∀ effect ∈ effects, ¬ effect.Writes block position) :
    applyAll effects memory block position = memory block position := by
  induction effects generalizing memory with
  | nil => rfl
  | cons effect rest ih =>
      have later := ih (effect.apply memory)
        (fun other member => untouched other (List.mem_cons_of_mem _ member))
      have first := apply_untouched effect memory (untouched effect List.mem_cons_self)
      exact later.trans first

theorem apply_copy [DecidableEq β] (copy : Copy β) (memory : Memory β V) {index : Nat}
    (bound : index < copy.byteSize) :
    (Effect.copy copy).apply memory copy.target.block (copy.target.offset + index) =
      memory copy.source.block (copy.source.offset + index) := by
  have written : (Effect.copy copy : Effect β V).Writes copy.target.block
      (copy.target.offset + index) := by
    refine ⟨rfl, ?_, ?_⟩ <;> simp only [Effect.target, Effect.byteSize] <;> omega
  have shifted : copy.target.offset + (index : Int) - copy.target.offset = index := by omega
  simp [Effect.apply, written, shifted]

def valuesAt (memory : Memory β V) (pointer : Pointer β) (size : Nat) : List V :=
  (List.range size).map fun index : Nat => memory pointer.block (pointer.offset + index)

@[simp] theorem valuesAt_zero (memory : Memory β V) (pointer : Pointer β) :
    valuesAt memory pointer 0 = [] := rfl

@[simp] theorem length_valuesAt (memory : Memory β V) (pointer : Pointer β) (size : Nat) :
    (valuesAt memory pointer size).length = size := by
  simp [valuesAt]

theorem valuesAt_append (memory : Memory β V) (pointer : Pointer β) (first second : Nat) :
    valuesAt memory pointer (first + second) =
      valuesAt memory pointer first ++ valuesAt memory (pointer.advance first) second := by
  simp [valuesAt, List.range_add, Int.add_assoc]

theorem valuesAt_congr {memory memory' : Memory β V} {pointer pointer' : Pointer β} {size : Nat} :
    valuesAt memory pointer size = valuesAt memory' pointer' size ↔ ∀ index : Nat, index < size →
      memory pointer.block (pointer.offset + index) =
        memory' pointer'.block (pointer'.offset + index) := by
  simp [valuesAt]

theorem writes_covers {effect : Effect β V} {block : β} {position : Int} :
    effect.Writes block position ↔
      block = effect.target.block ∧ effect.target.offset ≤ position ∧
        position < effect.target.offset + effect.byteSize := Iff.rfl

/-! The order in which effects land, for the reads from the blocks being tracked. -/

section
variable (tracked : β → Prop)

/-- No effect from the list on writes the tracked block that this effect reads. -/
def Effect.Undisturbed (effect : Effect β V) (later : List (Effect β V)) : Prop :=
  ∀ block, effect.readBlock = some block → tracked block →
    ∀ other ∈ later, other.target.block ≠ block

/-- Once an effect has read a tracked block, the effects behind it leave it alone. -/
def ReadsFirst (effects : List (Effect β V)) : Prop :=
  effects.Pairwise fun earlier later => earlier.Undisturbed tracked [later]

/-- The timing rule for one more action: nothing it issues writes a tracked block
already read, and a host action reads none that a queued copy still has to fill. -/
structure Timely (device : Device β V) (before : List (Effect β V)) (action : Action β V) :
    Prop where
  spares : ∀ effect ∈ before ++ action.effects, effect.Undisturbed tracked action.effects
  arrived : ∀ effect, action = .host effect →
    effect.Undisturbed tracked (device.queue.map .copy)

def ReadsLanded (device : Device β V) (actions : List (Action β V)) : Prop :=
  ∀ before action after, actions = before ++ action :: after →
    Timely tracked (device.run before) (issued before) action

end

def Effect.Apart (first second : Effect β V) : Prop :=
  ∀ block position, first.Writes block position → ¬ second.Writes block position

theorem Effect.Apart.symm {first second : Effect β V} (apart : first.Apart second) :
    second.Apart first :=
  fun block position written other => apart block position other written

def WritesOnce (effects : List (Effect β V)) : Prop :=
  effects.Pairwise Effect.Apart

variable {tracked : β → Prop}

def Action.Avoids (tracked : β → Prop) (action : Action β V) : Prop :=
  ∀ effect ∈ action.effects, ¬ tracked effect.target.block ∧
    ∀ block, effect.readBlock = some block → ¬ tracked block

def Action.Spares (tracked : β → Prop) (action : Action β V) : Prop :=
  ∀ effect ∈ action.effects, ∀ block, effect.readBlock = some block → ¬ tracked block

theorem Action.Avoids.spares {action : Action β V} (avoids : action.Avoids tracked) :
    action.Spares tracked := fun effect member => (avoids effect member).2

theorem Action.Avoids.timely {action : Action β V} (avoids : action.Avoids tracked)
    (device : Device β V) (before : List (Effect β V)) : Timely tracked device before action := by
  constructor
  · intro effect _ block _ known other member same
    exact (avoids other member).1 (same ▸ known)
  · intro effect same block read known
    subst same
    exact absurd known ((avoids effect List.mem_cons_self).2 block read)

theorem readsLanded_nil (device : Device β V) :
    ReadsLanded tracked device ([] : List (Action β V)) := by
  intro before action after split
  simp at split

theorem readsLanded_concat (device : Device β V) (actions : List (Action β V))
    (action : Action β V) :
    ReadsLanded tracked device (actions ++ [action]) ↔
      ReadsLanded tracked device actions ∧
        Timely tracked (device.run actions) (issued actions) action := by
  constructor
  · intro landed
    refine ⟨?_, landed actions action [] rfl⟩
    intro before other after split
    exact landed before other (after ++ [action]) (by simp [split])
  · rintro ⟨landed, timely⟩ before other after split
    rcases List.eq_nil_or_concat after with empty | ⟨rest, last, rfl⟩
    · subst after
      obtain ⟨rfl, same⟩ := List.append_inj' split rfl
      simp only [List.cons.injEq, and_true] at same
      exact same ▸ timely
    · have shape : actions ++ [action] = (before ++ other :: rest) ++ [last] := by
        simpa using split
      obtain ⟨rfl, _⟩ := List.append_inj' shape rfl
      exact landed before other rest rfl

theorem readsLanded_of_append {device : Device β V} {first second : List (Action β V)}
    (landed : ReadsLanded tracked device (first ++ second)) : ReadsLanded tracked device first :=
  fun before action after split => landed before action (after ++ second) (by simp [split])

theorem ReadsLanded.spares {device : Device β V} {before after : List (Action β V)}
    {action : Action β V} (landed : ReadsLanded tracked device (before ++ action :: after))
    {effect : Effect β V} (member : effect ∈ action.effects) :
    effect.Undisturbed tracked (issued (action :: after)) := by
  intro block read known write written
  obtain ⟨other, present, inside⟩ := List.mem_flatMap.mp written
  rcases List.mem_cons.mp present with same | later
  · subst same
    exact (landed before _ after rfl).spares effect (List.mem_append_right _ member) block read known
      write inside
  · obtain ⟨early, late, rfl⟩ := List.append_of_mem later
    refine (landed (before ++ action :: early) other late (by simp)).spares effect ?_ block read known
      write inside
    simp [member]

theorem ReadsFirst.append {first second : List (Effect β V)} (early : ReadsFirst tracked first)
    (late : ReadsFirst tracked second)
    (across : ∀ effect ∈ first, effect.Undisturbed tracked second) :
    ReadsFirst tracked (first ++ second) := by
  refine List.pairwise_append.mpr ⟨early, late, ?_⟩
  intro effect member other otherMember block read known target targetMember
  simp only [List.mem_singleton] at targetMember
  subst target
  exact across effect member block read known other otherMember

theorem readsFirst_of_spares {effects : List (Effect β V)}
    (spares : ∀ effect ∈ effects, effect.Undisturbed tracked effects) :
    ReadsFirst tracked effects := by
  refine List.pairwise_of_forall_mem_list ?_
  intro effect member other otherMember block read known target targetMember
  simp only [List.mem_singleton] at targetMember
  subst target
  exact spares effect member block read known other otherMember

theorem order_perm (device : Device β V) (actions : List (Action β V)) :
    (device.run actions).order.Perm (device.order ++ issued actions) := by
  induction actions using List.reverseRecOn with
  | nil => simp
  | append_singleton actions action ih =>
      rw [run_concat, issued_append, ← List.append_assoc]
      generalize device.run actions = current at ih ⊢
      refine List.Perm.trans ?_ (ih.append_right (issued [action]))
      cases action with
      | host effect =>
          simp only [Device.step, Device.order, issued_cons, Action.effects, issued_nil,
            List.append_nil, List.append_assoc]
          exact List.Perm.append_left _ List.perm_append_comm
      | stream copies => simp [Device.step, Device.order, Action.effects]
      | record => simp [Device.step, Device.order, Action.effects]
      | awaitEvent => simp [Device.step, Device.order, Action.effects]
      | awaitStream => simp [Device.step, Device.order, Action.effects]

/-- One timely action keeps reads ahead of the writes to the same block. -/
theorem readsFirst_step {device : Device β V} {before : List (Effect β V)} {action : Action β V}
    (ordered : ReadsFirst tracked device.order)
    (known : ∀ effect ∈ device.order, effect ∈ before)
    (timely : Timely tracked device before action) :
    ReadsFirst tracked (device.step action).order := by
  have fromBefore (effect : Effect β V) (member : effect ∈ device.order) :
      effect.Undisturbed tracked action.effects :=
    timely.spares effect (List.mem_append_left _ (known effect member))
  cases action with
  | host effect =>
      have parts := List.pairwise_append.mp ordered
      simp only [Device.step, Device.order, List.append_assoc]
      refine ReadsFirst.append parts.1
        (ReadsFirst.append (List.pairwise_singleton _ _) parts.2.1 ?_) ?_
      · intro other member
        rw [List.mem_singleton] at member
        exact member ▸ timely.arrived effect rfl
      · intro other member block read seen target targetMember
        rcases List.mem_append.mp targetMember with new | queued
        · exact fromBefore other (List.mem_append_left _ member) block read seen target new
        · exact parts.2.2 other member target queued block read seen target List.mem_cons_self
  | stream copies =>
      have own : ReadsFirst tracked (copies.map (Effect.copy (V := V))) :=
        readsFirst_of_spares fun effect member =>
          timely.spares effect (List.mem_append_right _ member)
      have joined := ReadsFirst.append ordered own fromBefore
      simpa [Device.step, Device.order] using joined
  | record => exact ordered
  | awaitEvent => simpa [Device.step, Device.order, ← List.map_append] using ordered
  | awaitStream => simpa [Device.step, Device.order] using ordered

theorem readsFirst_run {actions : List (Action β V)}
    (landed : ReadsLanded tracked Device.fresh actions) :
    ReadsFirst tracked (Device.fresh.run actions).order := by
  induction actions using List.reverseRecOn with
  | nil => exact List.Pairwise.nil
  | append_singleton actions action ih =>
      obtain ⟨earlier, timely⟩ := (readsLanded_concat _ _ _).mp landed
      rw [run_concat]
      refine readsFirst_step (ih earlier) ?_ timely
      intro effect member
      simpa [Device.order, Device.fresh] using (order_perm Device.fresh actions).mem_iff.mp member

theorem landed_perm {actions : List (Action β V)}
    (settled : (Device.fresh.run actions).queue = []) :
    (Device.fresh.run actions).landed.Perm (issued actions) := by
  have perm := order_perm Device.fresh actions
  simp only [Device.order, settled, List.map_nil, List.append_nil] at perm
  simpa [Device.fresh] using perm

theorem issued_spares {actions : List (Action β V)}
    (landed : ReadsLanded tracked Device.fresh actions) {effect : Effect β V}
    (member : effect ∈ issued actions) : effect.Undisturbed tracked [effect] := by
  obtain ⟨action, present, inside⟩ := List.mem_flatMap.mp member
  obtain ⟨early, late, rfl⟩ := List.append_of_mem present
  have timely := landed early action late rfl
  intro block read known other otherMember
  simp only [List.mem_singleton] at otherMember
  subst other
  exact timely.spares _ (List.mem_append_right _ inside) block read known _ inside

/-- Once nothing is in flight, the target of every copy equals its source, when the
source is tracked or never written. -/
theorem replay_copy [DecidableEq β] {actions : List (Action β V)} (initial : Memory β V)
    (landed : ReadsLanded tracked Device.fresh actions) (once : WritesOnce (issued actions))
    (settled : (Device.fresh.run actions).queue = [])
    {transfer : Copy β} (member : .copy transfer ∈ issued actions)
    (stable : tracked transfer.source.block ∨
      ∀ effect ∈ issued actions, ∀ position, ¬ effect.Writes transfer.source.block position)
    {index : Nat} (bound : index < transfer.byteSize) :
    (Device.fresh.run actions).memory initial transfer.target.block
        (transfer.target.offset + index) =
      (Device.fresh.run actions).memory initial transfer.source.block
        (transfer.source.offset + index) := by
  have ordered := readsFirst_run landed
  have perm := landed_perm settled
  have onceLanded : WritesOnce (Device.fresh.run actions).landed :=
    (perm.pairwise_iff Effect.Apart.symm).mpr once
  simp only [Device.order, settled, List.map_nil, List.append_nil] at ordered
  obtain ⟨before, after, split⟩ := List.append_of_mem (perm.mem_iff.mpr member)
  -- from the copy on nothing writes its source, and behind it nothing writes its target
  have sourceKept : ∀ effect ∈ (.copy transfer : Effect β V) :: after,
      ¬ effect.Writes transfer.source.block (transfer.source.offset + index) := by
    intro effect present written
    rcases stable with known | never
    · rw [split] at ordered
      have tail := (List.pairwise_append.mp ordered).2.1
      rcases List.mem_cons.mp present with same | later
      · subst same
        exact issued_spares landed member _ rfl known _ List.mem_cons_self written.1.symm
      · exact List.rel_of_pairwise_cons tail later _ rfl known effect List.mem_cons_self
          written.1.symm
    · have inLanded : effect ∈ (Device.fresh.run actions).landed := by
        rw [split]
        exact List.mem_append_right _ present
      exact never effect (perm.mem_iff.mp inLanded) _ written
  have targetKept : ∀ effect ∈ after,
      ¬ effect.Writes transfer.target.block (transfer.target.offset + index) := by
    intro effect present
    rw [split] at onceLanded
    have tailOnce := (List.pairwise_append.mp onceLanded).2.1
    refine List.rel_of_pairwise_cons tailOnce present _ _ ?_
    refine ⟨rfl, ?_, ?_⟩ <;> simp only [Effect.target, Effect.byteSize] <;> omega
  simp only [Device.memory, split]
  rw [applyAll_append, applyAll_untouched _ _ sourceKept]
  calc applyAll (.copy transfer :: after) (applyAll before initial) transfer.target.block
        (transfer.target.offset + index)
      = applyAll after ((Effect.copy transfer).apply (applyAll before initial))
        transfer.target.block (transfer.target.offset + index) := rfl
    _ = (Effect.copy transfer).apply (applyAll before initial) transfer.target.block
        (transfer.target.offset + index) := applyAll_untouched _ _ targetKept
    _ = applyAll before initial transfer.source.block (transfer.source.offset + index) :=
        apply_copy transfer _ bound

theorem replay_untouched [DecidableEq β] {actions : List (Action β V)} (initial : Memory β V)
    {block : β} {position : Int}
    (untouched : ∀ effect ∈ issued actions, ¬ effect.Writes block position) :
    (Device.fresh.run actions).memory initial block position = initial block position := by
  refine applyAll_untouched _ _ fun effect member => untouched effect ?_
  have inOrder : effect ∈ (Device.fresh.run actions).order := List.mem_append_left _ member
  simpa [Device.order, Device.fresh] using (order_perm Device.fresh actions).mem_iff.mp inOrder

/-! Runs that issue the same effects in different orders. -/

theorem replay_store [DecidableEq β] {actions : List (Action β V)} (initial : Memory β V)
    (once : WritesOnce (issued actions)) (settled : (Device.fresh.run actions).queue = [])
    {target : Pointer β} {values : List V} (member : .store target values ∈ issued actions)
    {index : Nat} (bound : index < values.length) :
    (Device.fresh.run actions).memory initial target.block (target.offset + index) = values[index] := by
  have perm := landed_perm settled
  have onceLanded : WritesOnce (Device.fresh.run actions).landed :=
    (perm.pairwise_iff Effect.Apart.symm).mpr once
  obtain ⟨before, after, split⟩ := List.append_of_mem (perm.mem_iff.mpr member)
  have written : (Effect.store target values).Writes target.block (target.offset + index) := by
    refine ⟨rfl, ?_, ?_⟩ <;> simp only [Effect.target, Effect.byteSize] <;> omega
  have kept : ∀ effect ∈ after, ¬ effect.Writes target.block (target.offset + index) := by
    intro effect present
    rw [split] at onceLanded
    exact List.rel_of_pairwise_cons (List.pairwise_append.mp onceLanded).2.1 present _ _ written
  have shifted : target.offset + (index : Int) - target.offset = index := by omega
  simp only [Device.memory, split]
  rw [applyAll_append]
  refine (applyAll_untouched after _ kept).trans ?_
  simp [Effect.apply, written, shifted, List.getD_eq_getElem?_getD, bound]

/-- Two settled runs end with the same memory when they issue the same effects, in any order:
each address is written once, and by the time a copy reads a block nothing writes it any more. -/
theorem memory_of_perm [DecidableEq β] {first second : List (Action β V)} (initial : Memory β V)
    (same : (issued first).Perm (issued second)) (once : WritesOnce (issued first))
    (landedFirst : ReadsLanded tracked Device.fresh first)
    (landedSecond : ReadsLanded tracked Device.fresh second)
    (settledFirst : (Device.fresh.run first).queue = [])
    (settledSecond : (Device.fresh.run second).queue = [])
    (stable : ∀ transfer, .copy transfer ∈ issued first → tracked transfer.source.block ∨
      ∀ effect ∈ issued first, ∀ position, ¬ effect.Writes transfer.source.block position) :
    (Device.fresh.run first).memory initial = (Device.fresh.run second).memory initial := by
  have perm := landed_perm settledFirst
  have ordered := readsFirst_run landedFirst
  simp only [Device.order, settledFirst, List.map_nil, List.append_nil] at ordered
  have onceSecond := (same.pairwise_iff Effect.Apart.symm).mp once
  -- along the order in which the first run's effects land
  have early (before : List (Effect β V)) :
      ∀ after, (Device.fresh.run first).landed = before ++ after →
      ∀ effect ∈ before, ∀ block position, effect.Writes block position →
        (Device.fresh.run first).memory initial block position =
          (Device.fresh.run second).memory initial block position := by
    induction before using List.reverseRecOn with
    | nil => simp
    | append_singleton before effect ih =>
        intro after split other member block position written
        rcases List.mem_append.mp member with earlier | last
        · exact ih (effect :: after) (by simp [split]) other earlier block position written
        rw [List.mem_singleton] at last
        subst last
        have present : other ∈ issued first := perm.mem_iff.mp (by simp [split])
        obtain ⟨rfl, lower, upper⟩ := writes_covers.mp written
        obtain ⟨index, found⟩ := Int.eq_ofNat_of_zero_le (Int.sub_nonneg_of_le lower)
        obtain rfl : position = other.target.offset + index := by omega
        have bound : index < other.byteSize := by omega
        cases other with
        | store target values =>
            simp only [Effect.byteSize] at bound
            exact (replay_store initial once settledFirst present bound).trans
              (replay_store initial onceSecond settledSecond (same.mem_iff.mp present) bound).symm
        | copy transfer =>
            have stableSecond : tracked transfer.source.block ∨ ∀ effect ∈ issued second,
                ∀ position, ¬ effect.Writes transfer.source.block position :=
              (stable transfer present).imp_right fun never effect inside =>
                never effect (same.mem_iff.mpr inside)
            refine (replay_copy initial landedFirst once settledFirst present
              (stable transfer present) bound).trans (Eq.trans ?_
                (replay_copy initial landedSecond onceSecond settledSecond
                  (same.mem_iff.mp present) stableSecond bound).symm)
            by_cases touched : ∃ writer ∈ issued first,
              writer.Writes transfer.source.block (transfer.source.offset + index)
            · obtain ⟨writer, inside, writes⟩ := touched
              have known := (stable transfer present).resolve_right fun never =>
                never writer inside _ writes
              -- the block is read now, so its writer has landed
              have landed := perm.mem_iff.mpr inside
              rw [split, List.append_assoc] at landed ordered
              refine ih ((.copy transfer) :: after) (by simp [split]) writer ?_ _ _ writes
              rcases List.mem_append.mp landed with before' | late
              · exact before'
              rcases List.mem_cons.mp late with own | later
              · subst own
                exact absurd writes.1.symm
                  (issued_spares landedFirst present _ rfl known _ List.mem_cons_self)
              · exact absurd writes.1.symm (List.rel_of_pairwise_cons
                  (List.pairwise_append.mp ordered).2.1 later _ rfl known writer List.mem_cons_self)
            · have clear : ∀ writer ∈ issued first,
                  ¬ writer.Writes transfer.source.block (transfer.source.offset + index) :=
                fun writer inside writes => touched ⟨writer, inside, writes⟩
              exact (replay_untouched initial clear).trans (replay_untouched initial
                fun writer inside => clear writer (same.mem_iff.mpr inside)).symm
  funext block position
  by_cases touched : ∃ writer ∈ issued first, writer.Writes block position
  · obtain ⟨writer, inside, writes⟩ := touched
    exact early _ [] (List.append_nil _).symm writer (perm.mem_iff.mpr inside) block position writes
  · have clear : ∀ writer ∈ issued first, ¬ writer.Writes block position :=
      fun writer inside writes => touched ⟨writer, inside, writes⟩
    exact (replay_untouched initial clear).trans (replay_untouched initial
      fun writer inside => clear writer (same.mem_iff.mpr inside)).symm

/-! The actions of one party on a stream that was in use before. -/

/-- The device holds `kept` ahead of what the party put on the stream. -/
structure Device.Ahead (kept : List (Copy β)) (whole own : Device β V) : Prop where
  queue : whole.queue = kept ++ own.queue
  recorded : whole.recorded = kept.length + own.recorded ∨
    own.recorded = 0 ∧ whole.recorded ≤ kept.length

theorem recorded_le (actions : List (Action β V)) :
    (Device.fresh.run actions).recorded ≤ (Device.fresh.run actions).queue.length := by
  induction actions using List.reverseRecOn with
  | nil => exact Nat.le_refl 0
  | append_singleton actions action ih =>
      rw [run_concat]
      generalize Device.fresh.run actions = device at ih ⊢
      cases action <;> simp [Device.step]
      · exact ih
      · omega

theorem ahead_step {kept : List (Copy β)} {whole own : Device β V} (ahead : whole.Ahead kept own)
    (action : Action β V) :
    ∃ kept', kept' <:+ kept ∧ (whole.step action).Ahead kept' (own.step action) := by
  obtain ⟨queue, recorded⟩ := ahead
  cases action with
  | host effect => exact ⟨kept, List.suffix_refl _, queue, recorded⟩
  | stream copies =>
      exact ⟨kept, List.suffix_refl _, by simp [Device.step, queue], recorded⟩
  | record =>
      exact ⟨kept, List.suffix_refl _, queue, Or.inl (by simp [Device.step, queue])⟩
  | awaitEvent =>
      rcases recorded with covered | ⟨none, within⟩
      · refine ⟨[], List.nil_suffix, ?_, Or.inl rfl⟩
        simp [Device.step, queue, covered, List.drop_append]
      · refine ⟨kept.drop whole.recorded, List.drop_suffix _ _, ?_, Or.inr ⟨rfl, Nat.zero_le _⟩⟩
        simp [Device.step, queue, none, List.drop_append_of_le_length within]
  | awaitStream => exact ⟨[], List.nil_suffix, rfl, Or.inl rfl⟩

theorem run_ahead (earlier own : List (Action β V)) :
    ∃ kept, kept <:+ (Device.fresh.run earlier).queue ∧
      (Device.fresh.run (earlier ++ own)).Ahead kept (Device.fresh.run own) := by
  induction own using List.reverseRecOn with
  | nil =>
      rw [List.append_nil]
      exact ⟨_, List.suffix_refl _, by simp [Device.fresh], Or.inr ⟨rfl, recorded_le earlier⟩⟩
  | append_singleton own action ih =>
      obtain ⟨kept, before, ahead⟩ := ih
      obtain ⟨kept', within, next⟩ := ahead_step ahead action
      rw [← List.append_assoc, run_concat, run_concat]
      exact ⟨kept', within.trans before, next⟩

/-- On a stream that is empty the party's actions run as they would on a fresh one. -/
theorem run_settled {earlier : List (Action β V)}
    (settled : (Device.fresh.run earlier).queue = []) (own : List (Action β V)) :
    Device.fresh.run (earlier ++ own) = { Device.fresh.run own with
      landed := (Device.fresh.run earlier).landed ++ (Device.fresh.run own).landed } := by
  induction own using List.reverseRecOn with
  | nil =>
      have none := recorded_le earlier
      rw [settled, List.length_nil, Nat.le_zero] at none
      rw [List.append_nil]
      generalize Device.fresh.run earlier = device at settled none ⊢
      obtain ⟨landed, queue, recorded⟩ := device
      simp only at settled none
      subst settled none
      simp [Device.fresh]
  | append_singleton own action ih =>
      rw [← List.append_assoc, run_concat, run_concat, ih]
      cases action <;> simp [Device.step]

theorem memory_settled [DecidableEq β] {earlier : List (Action β V)}
    (settled : (Device.fresh.run earlier).queue = []) (own : List (Action β V))
    (initial : Memory β V) :
    (Device.fresh.run (earlier ++ own)).memory initial =
      (Device.fresh.run own).memory ((Device.fresh.run earlier).memory initial) := by
  rw [run_settled settled]
  exact applyAll_append _ _ initial

end CopyStream
