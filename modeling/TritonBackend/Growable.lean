import Mathlib.Data.List.Basic

/-!
A growing buffer keeps its block until an element no longer fits, and then moves to a
block of its own. A place in a block that was left behind is read no more.
-/

namespace Growable

structure Place where
  block : Nat
  idx : Nat
deriving DecidableEq, Repr

/-- How far a buffer grows; it always has room for one element more. -/
structure Growth where
  next : Nat → Nat
  grows : ∀ capacity, capacity < next capacity

structure Buffer (α : Type) where
  block : Nat
  capacity : Nat
  nextBlock : Nat
  elements : List α
  fits : elements.length ≤ capacity
  allocated : block < nextBlock

variable {α : Type}

namespace Buffer

def empty : Buffer α where
  block := 0
  capacity := 0
  nextBlock := 1
  elements := []
  fits := Nat.le_refl 0
  allocated := Nat.one_pos

def clear (buffer : Buffer α) : Buffer α :=
  { buffer with elements := [], fits := Nat.zero_le _ }

def emplaceBack (growth : Growth) (buffer : Buffer α) (element : α) : Buffer α :=
  if room : buffer.elements.length < buffer.capacity then
    { buffer with
      elements := buffer.elements ++ [element]
      fits := by rw [List.length_append]; exact room }
  else {
    block := buffer.nextBlock
    capacity := growth.next buffer.capacity
    nextBlock := buffer.nextBlock + 1
    elements := buffer.elements ++ [element]
    fits := by
      rw [List.length_append]
      exact Nat.lt_of_le_of_lt buffer.fits (growth.grows buffer.capacity)
    allocated := Nat.lt_succ_self _ }

def emplaceAll (growth : Growth) (buffer : Buffer α) (elements : List α) : Buffer α :=
  elements.foldl (emplaceBack growth) buffer

/-- The element in a place, unless the place is outside or in another block. -/
def read (buffer : Buffer α) (place : Place) : Option α :=
  if place.block = buffer.block then buffer.elements[place.idx]? else none

end Buffer

open Buffer

theorem emplaceBack_elements (growth : Growth) (buffer : Buffer α) (element : α) :
    (buffer.emplaceBack growth element).elements = buffer.elements ++ [element] := by
  rw [emplaceBack]
  split <;> rfl

theorem emplaceAll_elements (growth : Growth) (buffer : Buffer α) (elements : List α) :
    (buffer.emplaceAll growth elements).elements = buffer.elements ++ elements := by
  induction elements generalizing buffer with
  | nil => exact (List.append_nil _).symm
  | cons element rest ih =>
      rw [emplaceAll, List.foldl_cons, ← emplaceAll, ih, emplaceBack_elements, List.append_assoc,
        List.singleton_append]

theorem emplaceBack_moved (growth : Growth) (buffer : Buffer α) (element : α) :
    ((buffer.emplaceBack growth element).block = buffer.block ∧
        (buffer.emplaceBack growth element).capacity = buffer.capacity ∧
        buffer.elements.length < buffer.capacity) ∨
      ((buffer.emplaceBack growth element).block = buffer.nextBlock ∧
        buffer.elements.length = buffer.capacity) := by
  rw [emplaceBack]
  split
  · exact .inl ⟨rfl, rfl, ‹_›⟩
  · exact .inr ⟨rfl, Nat.le_antisymm buffer.fits (Nat.not_lt.mp ‹_›)⟩

theorem emplaceBack_nextBlock (growth : Growth) (buffer : Buffer α) (element : α) :
    buffer.nextBlock ≤ (buffer.emplaceBack growth element).nextBlock := by
  rw [emplaceBack]
  split
  · exact Nat.le_refl _
  · exact Nat.le_succ _

theorem emplaceAll_nextBlock (growth : Growth) (buffer : Buffer α) (elements : List α) :
    buffer.nextBlock ≤ (buffer.emplaceAll growth elements).nextBlock := by
  induction elements generalizing buffer with
  | nil => exact Nat.le_refl _
  | cons element rest ih => exact Nat.le_trans (emplaceBack_nextBlock growth buffer element) (ih _)

theorem emplaceAll_block (growth : Growth) (buffer : Buffer α) (elements : List α) :
    (buffer.emplaceAll growth elements).block = buffer.block ∨
      buffer.nextBlock ≤ (buffer.emplaceAll growth elements).block := by
  induction elements generalizing buffer with
  | nil => exact .inl rfl
  | cons element rest ih =>
      have later := ih (buffer.emplaceBack growth element)
      rw [emplaceAll, List.foldl_cons, ← emplaceAll]
      rcases later with same | fresh
      · rcases emplaceBack_moved growth buffer element with ⟨kept, _⟩ | ⟨moved, _⟩
        · exact .inl (same.trans kept)
        · exact .inr (Nat.le_of_eq (by rw [same, moved]))
      · exact .inr (Nat.le_trans (emplaceBack_nextBlock growth buffer element) fresh)

/-- The buffer stays in its block exactly when the elements fit there. -/
theorem emplaceAll_stays (growth : Growth) (buffer : Buffer α) (elements : List α) :
    (buffer.emplaceAll growth elements).block = buffer.block ↔
      buffer.elements.length + elements.length ≤ buffer.capacity := by
  induction elements generalizing buffer with
  | nil => simpa [emplaceAll] using buffer.fits
  | cons element rest ih =>
      have later := ih (buffer.emplaceBack growth element)
      rw [emplaceAll, List.foldl_cons, ← emplaceAll, List.length_cons]
      rw [emplaceBack_elements, List.length_append, List.length_singleton] at later
      rcases emplaceBack_moved growth buffer element with ⟨kept, capacity, _⟩ | ⟨moved, full⟩
      · rw [kept, capacity] at later
        rw [later]
        omega
      · have gone : buffer.block < (buffer.emplaceBack growth element).nextBlock :=
          Nat.lt_of_lt_of_le buffer.allocated (emplaceBack_nextBlock growth buffer element)
        have allocated := buffer.allocated
        rcases emplaceAll_block growth (buffer.emplaceBack growth element) rest with same | fresh
        · rw [same, moved]
          omega
        · omega

/-- A place in an earlier block reads what now stands there, if the block is still used. -/
theorem read_emplaceAll (growth : Growth) (buffer : Buffer α) (elements : List α) {place : Place}
    (known : place.block < buffer.nextBlock) (element : α) :
    (buffer.clear.emplaceAll growth elements).read place = some element ↔
      place.block = buffer.block ∧ elements.length ≤ buffer.capacity ∧
        elements[place.idx]? = some element := by
  have elementsAre := emplaceAll_elements growth buffer.clear elements
  have stays := emplaceAll_stays growth buffer.clear elements
  have block := emplaceAll_block growth buffer.clear elements
  simp only [clear, List.nil_append, List.length_nil, Nat.zero_add] at elementsAre stays block
  rw [Buffer.read, clear, elementsAre]
  constructor
  · intro found
    split at found
    · rename_i current
      rcases block with same | fresh
      · exact ⟨current.trans same, stays.mp same, found⟩
      · omega
    · contradiction
  · rintro ⟨current, fits, found⟩
    rw [if_pos (current.trans (stays.mpr fits).symm)]
    exact found

end Growable
