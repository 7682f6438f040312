import Mathlib.Data.List.Basic
import Mathlib.Data.List.Induction
import Mathlib.Data.List.Nodup
import Mathlib.Data.List.Perm.Basic
import Mathlib.Logic.Relation

/-!
Cells that are handed to holders. A holder is given its cell when it is set up, and the cell is
deleted when the holder is closed. A cell that cannot be handed over, or that its holder does
not give back, is lost.
-/

namespace Custody

structure Holder (Tag : Type) where
  tag : Tag
  ready : Bool
  cell : Option Nat
  closed : Bool

/-- `deleted` and `lost` are in the order in which that happened. -/
structure Store (Tag Cell : Type) where
  cells : List Cell
  holders : List (Holder Tag)
  deleted : List Nat
  lost : List Nat

variable {Tag Cell : Type}

def Holder.held (holder : Holder Tag) : Option Nat := if holder.closed then none else holder.cell

namespace Store

def empty : Store Tag Cell := {
  cells := []
  holders := []
  deleted := []
  lost := [] }

def held (store : Store Tag Cell) : List Nat := store.holders.filterMap Holder.held

def refuse (store : Store Tag Cell) (tag : Tag) : Store Tag Cell :=
  { store with holders := store.holders ++ [{ tag, ready := false, cell := none, closed := false }] }

def lose (store : Store Tag Cell) (tag : Tag) (cell : Cell) : Store Tag Cell :=
  { store.refuse tag with
    cells := store.cells ++ [cell]
    lost := store.lost ++ [store.cells.length] }

def entrust (store : Store Tag Cell) (tag : Tag) (ready : Bool) (cell : Cell) : Store Tag Cell :=
  { store with
    cells := store.cells ++ [cell]
    holders := store.holders ++
      [{ tag, ready, cell := some store.cells.length, closed := false }] }

/-- Closing a holder; `answered` tells whether it gives its cell back. -/
def close (store : Store Tag Cell) (idx : Nat) (answered : Bool) : Store Tag Cell :=
  match store.holders[idx]? with
  | none => store
  | some holder =>
      let given := holder.cell.toList
      { store with
        holders := store.holders.set idx { holder with closed := true }
        deleted := if answered then store.deleted ++ given else store.deleted
        lost := if answered then store.lost else store.lost ++ given }

def pointer (store : Store Tag Cell) (idx : Nat) : Option Nat := store.holders[idx]?.bind Holder.cell

/-- What a pointer leads to; nothing is behind one to a deleted cell. -/
def live (store : Store Tag Cell) (cell : Nat) : Option Cell :=
  if cell ∈ store.deleted then none else store.cells[cell]?

def dangles (store : Store Tag Cell) (idx : Nat) : Bool :=
  (store.pointer idx).any fun cell => decide (cell ∈ store.deleted)

def Open (store : Store Tag Cell) (idx : Nat) : Prop :=
  ∃ holder, store.holders[idx]? = some holder ∧ holder.closed = false

def Ready (store : Store Tag Cell) (idx : Nat) : Prop :=
  ∃ holder, store.holders[idx]? = some holder ∧ holder.closed = false ∧ holder.ready = true

def revise (store : Store Tag Cell) (idx : Nat) (change : Cell → Cell) : Store Tag Cell :=
  { store with cells := store.cells.modify idx change }

end Store

theorem mem_held {store : Store Tag Cell} {cell : Nat} : cell ∈ store.held ↔
    ∃ holder ∈ store.holders, holder.closed = false ∧ holder.cell = some cell := by
  simp only [Store.held, List.mem_filterMap, Holder.held]
  refine exists_congr fun holder => and_congr_right fun _ => ?_
  cases holder.closed
  · simp
  · simp

/-! Every cell is in one place. -/

structure Kept (store : Store Tag Cell) : Prop where
  placed : (List.range store.cells.length).Perm (store.held ++ store.deleted ++ store.lost)
  given : ∀ holder ∈ store.holders, holder.ready = true → holder.cell.isSome

theorem empty_kept : Kept (Store.empty : Store Tag Cell) where
  placed := List.Perm.refl _
  given := nofun

namespace Kept

variable {store : Store Tag Cell} (kept : Kept store)
include kept

theorem nodup : (store.held ++ store.deleted ++ store.lost).Nodup :=
  kept.placed.nodup_iff.mp List.nodup_range

theorem inside {cell : Nat} (held : cell ∈ store.held) : cell < store.cells.length :=
  List.mem_range.mp (kept.placed.mem_iff.mpr (by simp [held]))

theorem deleted_inside {cell : Nat} (deleted : cell ∈ store.deleted) : cell < store.cells.length :=
  List.mem_range.mp (kept.placed.mem_iff.mpr (by simp [deleted]))

theorem undeleted {cell : Nat} (held : cell ∈ store.held) : cell ∉ store.deleted := by
  have apart := (List.nodup_append.mp (List.nodup_append.mp kept.nodup).1).2.2
  exact fun deleted => apart cell held cell deleted rfl

theorem live {cell : Nat} (held : cell ∈ store.held) :
    ∃ found, store.cells[cell]? = some found ∧ store.live cell = some found := by
  have here := List.getElem?_eq_getElem (kept.inside held)
  exact ⟨_, here, by rw [Store.live, if_neg (kept.undeleted held), here]⟩

theorem ready {idx : Nat} (ready : store.Ready idx) :
    ∃ holder cell found, store.holders[idx]? = some holder ∧ holder.closed = false ∧
      holder.cell = some cell ∧ store.live cell = some found := by
  obtain ⟨holder, here, isOpen, isReady⟩ := ready
  have member := List.mem_of_getElem? here
  obtain ⟨cell, given⟩ := Option.isSome_iff_exists.mp (kept.given holder member isReady)
  obtain ⟨found, _, live⟩ := kept.live (mem_held.mpr ⟨holder, member, isOpen, given⟩)
  exact ⟨holder, cell, found, here, isOpen, given, live⟩

theorem sound {idx : Nat} (isOpen : store.Open idx) : store.dangles idx = false := by
  obtain ⟨holder, here, isOpen⟩ := isOpen
  have member := List.mem_of_getElem? here
  cases given : holder.cell with
  | none => simp [Store.dangles, Store.pointer, here, given]
  | some cell =>
      have undeleted := kept.undeleted (mem_held.mpr ⟨holder, member, isOpen, given⟩)
      simp [Store.dangles, Store.pointer, here, given, undeleted]

end Kept

section
variable {store : Store Tag Cell}

theorem live_some {cell : Nat} {found : Cell} (live : store.live cell = some found) :
    cell ∉ store.deleted ∧ store.cells[cell]? = some found := by
  rw [Store.live] at live
  split at live
  next => cases live
  next undeleted => exact ⟨undeleted, live⟩

theorem filterMap_range {α β : Type} (items : List α) (view : α → Option β) :
    ((List.range items.length).filterMap fun idx => items[idx]?.bind view) =
      items.filterMap view := by
  induction items using List.reverseRecOn with
  | nil => rfl
  | append_singleton items item ih =>
      rw [List.length_append, List.length_singleton, List.range_succ, List.filterMap_append,
        List.filterMap_append, ← ih]
      refine congrArg₂ _ (List.filterMap_congr fun idx member => ?_) ?_
      · rw [List.getElem?_append_left (List.mem_range.mp member)]
      · rw [List.filterMap_cons, List.getElem?_concat_length, Option.bind_some]
        rfl

@[simp] theorem refuse_held (tag : Tag) : (store.refuse tag).held = store.held := by
  simp [Store.held, Store.refuse, Holder.held]

theorem refuse_kept (kept : Kept store) (tag : Tag) : Kept (store.refuse tag) where
  placed := by
    rw [refuse_held]
    exact kept.placed
  given holder member ready := by
    rcases List.mem_append.mp member with old | new
    · exact kept.given holder old ready
    · obtain rfl := List.mem_singleton.mp new
      cases ready

theorem lose_kept (kept : Kept store) (tag : Tag) (cell : Cell) : Kept (store.lose tag cell) where
  placed := by
    have same : (store.lose tag cell).held = store.held := refuse_held tag
    rw [same]
    simp only [Store.lose, Store.refuse, List.length_append, List.length_singleton, List.range_succ,
      ← List.append_assoc]
    exact kept.placed.append_right _
  given := (refuse_kept kept tag).given

@[simp] theorem entrust_held (tag : Tag) (ready : Bool) (cell : Cell) :
    (store.entrust tag ready cell).held = store.held ++ [store.cells.length] := by
  simp [Store.held, Store.entrust, Holder.held]

theorem entrust_kept (kept : Kept store) (tag : Tag) (ready : Bool) (cell : Cell) :
    Kept (store.entrust tag ready cell) where
  placed := by
    rw [entrust_held]
    simp only [Store.entrust, List.length_append, List.length_singleton, List.range_succ]
    calc (List.range store.cells.length ++ [store.cells.length]).Perm
          (store.cells.length :: List.range store.cells.length) := List.perm_append_singleton _ _
      _ |>.Perm (store.cells.length :: (store.held ++ store.deleted ++ store.lost)) :=
          kept.placed.cons _
      _ |>.Perm (store.held ++ [store.cells.length] ++ store.deleted ++ store.lost) := by
          simpa using List.perm_middle.symm
  given holder member isReady := by
    rcases List.mem_append.mp member with old | new
    · exact kept.given holder old isReady
    · obtain rfl := List.mem_singleton.mp new
      rfl

theorem close_held {idx : Nat} {holder : Holder Tag} (here : store.holders[idx]? = some holder)
    (isOpen : holder.closed = false) (answered : Bool) :
    ((store.close idx answered).held ++ holder.cell.toList).Perm store.held := by
  obtain ⟨bound, rfl⟩ := List.getElem?_eq_some_iff.mp here
  have whole : store.held = (store.holders.take idx).filterMap Holder.held ++
      (store.holders[idx].cell.toList ++ (store.holders.drop (idx + 1)).filterMap Holder.held) := by
    conv_lhs => rw [Store.held, ← List.take_append_drop idx store.holders,
      List.drop_eq_getElem_cons bound, List.filterMap_append, List.filterMap_cons, Holder.held, isOpen]
    cases store.holders[idx].cell with
    | none => rfl
    | some cell => rfl
  have left : (store.close idx answered).held = (store.holders.take idx).filterMap Holder.held ++
      (store.holders.drop (idx + 1)).filterMap Holder.held := by
    simp only [Store.close, here, Store.held, List.set_eq_take_append_cons_drop, if_pos bound,
      List.filterMap_append, List.filterMap_cons, Holder.held, if_true]
  rw [left, whole, List.append_assoc]
  exact List.Perm.append_left _ List.perm_append_comm

theorem close_gone {idx : Nat} {holder : Holder Tag} (here : store.holders[idx]? = some holder)
    (answered : Bool) :
    ((store.close idx answered).deleted ++ (store.close idx answered).lost).Perm
      (holder.cell.toList ++ (store.deleted ++ store.lost)) := by
  cases answered with
  | true =>
      simp only [Store.close, here, if_true, ← List.append_assoc]
      exact List.perm_append_comm.append_right _
  | false =>
      simp only [Store.close, here, Bool.false_eq_true, if_false, ← List.append_assoc]
      exact List.perm_append_comm.trans (by rw [List.append_assoc])

theorem close_kept (kept : Kept store) {idx : Nat} {holder : Holder Tag}
    (here : store.holders[idx]? = some holder) (isOpen : holder.closed = false) (answered : Bool) :
    Kept (store.close idx answered) where
  placed := by
    have same : (store.close idx answered).cells = store.cells := by rw [Store.close, here]
    rw [same, List.append_assoc]
    calc (List.range store.cells.length).Perm (store.held ++ (store.deleted ++ store.lost)) := by
          simpa using kept.placed
      _ |>.Perm ((store.close idx answered).held ++ holder.cell.toList ++
          (store.deleted ++ store.lost)) := (close_held here isOpen answered).symm.append_right _
      _ |>.Perm ((store.close idx answered).held ++
          ((store.close idx answered).deleted ++ (store.close idx answered).lost)) := by
          rw [List.append_assoc]
          exact (close_gone here answered).symm.append_left _
  given := by
    intro closed member ready
    rw [Store.close, here] at member
    rcases List.mem_or_eq_of_mem_set member with old | rfl
    · exact kept.given closed old ready
    · exact kept.given holder (List.mem_of_getElem? here) ready

@[simp] theorem revise_held (idx : Nat) (change : Cell → Cell) :
    (store.revise idx change).held = store.held := rfl

theorem revise_kept (kept : Kept store) (idx : Nat) (change : Cell → Cell) :
    Kept (store.revise idx change) where
  placed := by
    rw [revise_held]
    simpa [Store.revise] using kept.placed
  given := kept.given

/-! How cells leave their holders. -/

theorem close_deleted {idx : Nat} {cell : Nat} (given : store.pointer idx = some cell) :
    (store.close idx true).deleted = store.deleted ++ [cell] := by
  obtain ⟨holder, here, own⟩ := Option.bind_eq_some_iff.mp given
  simp [Store.close, here, own]

/-- From one store to the next: a cell is lost if it could not be handed over, and what a holder
has is deleted or lost when it is closed. -/
inductive Leaves (failed : Prop) (closing : Nat → Bool → Prop) (store : Store Tag Cell) :
    Store Tag Cell → Prop
  | keeps {later : Store Tag Cell} (deleted : later.deleted = store.deleted)
      (lost : later.lost = store.lost) : Leaves failed closing store later
  | loses (tag : Tag) (cell : Cell) (why : failed) : Leaves failed closing store (store.lose tag cell)
  | closes (idx : Nat) (answered : Bool) (why : closing idx answered) :
      Leaves failed closing store (store.close idx answered)

section
variable {failed : Prop} {closing : Nat → Bool → Prop} {later : Store Tag Cell}
  (leaves : Leaves failed closing store later) {cell : Nat}
include leaves

theorem Leaves.deleted (old : cell ∉ store.deleted) (new : cell ∈ later.deleted) :
    ∃ idx, closing idx true ∧ store.pointer idx = some cell := by
  cases leaves with
  | keeps deleted lost => exact absurd (deleted ▸ new) old
  | loses tag item why => exact absurd new old
  | closes idx answered why =>
      rw [Store.close] at new
      split at new
      next => exact absurd new old
      next holder here =>
        cases answered with
        | false => exact absurd new old
        | true =>
            have own := (List.mem_append.mp new).resolve_left old
            refine ⟨idx, why, ?_⟩
            rw [Store.pointer, here]
            exact Option.mem_toList.mp own

theorem Leaves.lost (old : cell ∉ store.lost) (new : cell ∈ later.lost) :
    failed ∧ cell = store.cells.length ∨
      ∃ idx, closing idx false ∧ store.pointer idx = some cell := by
  cases leaves with
  | keeps deleted lost => exact absurd (lost ▸ new) old
  | loses tag item why =>
      exact .inl ⟨why, List.mem_singleton.mp ((List.mem_append.mp new).resolve_left old)⟩
  | closes idx answered why =>
      rw [Store.close] at new
      split at new
      next => exact absurd new old
      next holder here =>
        cases answered with
        | true => exact absurd new old
        | false =>
            have own := (List.mem_append.mp new).resolve_left old
            refine .inr ⟨idx, why, ?_⟩
            rw [Store.pointer, here]
            exact Option.mem_toList.mp own

end

end

/-- What a run comes to, it comes to at one of its steps. -/
theorem entered {State : Type} {step : State → State → Prop} (holds : State → Prop)
    {first last : State} (run : Relation.ReflTransGen step first last) (before : ¬ holds first)
    (now : holds last) :
    ∃ state next, Relation.ReflTransGen step first state ∧ step state next ∧
      Relation.ReflTransGen step next last ∧ ¬ holds state ∧ holds next := by
  induction run with
  | refl => exact absurd now before
  | @tail middle last run stepped earlier =>
      by_cases already : holds middle
      · obtain ⟨state, next, start, step, rest, old, new⟩ := earlier already
        exact ⟨state, next, start, step, rest.tail stepped, old, new⟩
      · exact ⟨middle, last, run, stepped, .refl, already, now⟩

end Custody
