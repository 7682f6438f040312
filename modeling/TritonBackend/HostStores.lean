import TritonBackend.CopyStream
import Mathlib.Data.List.GetD

/-!
Stores that the host makes one behind the other come to one store. A copy is the store
of what stands at its source.
-/

namespace CopyStream

variable {β V : Type} [DecidableEq β]

def stored (target : Pointer β) (values : List V) (memory : Memory β V) : Memory β V :=
  (Effect.store target values).apply memory

theorem stored_covered {target : Pointer β} {values : List V} {memory : Memory β V} {block : β}
    {position : Int} (covered : target.Covers values.length block position) :
    stored target values memory block position =
      values.getD (position - target.offset).toNat (memory block position) := by
  have writes : (Effect.store target values).Writes block position := covered
  rw [stored, Effect.apply, if_pos writes]

theorem stored_uncovered {target : Pointer β} {values : List V} {memory : Memory β V} {block : β}
    {position : Int} (uncovered : ¬ target.Covers values.length block position) :
    stored target values memory block position = memory block position :=
  apply_untouched (.store target values) memory uncovered

theorem stored_nil (target : Pointer β) (memory : Memory β V) : stored target [] memory = memory := by
  funext block position
  refine stored_uncovered ?_
  rintro ⟨_, lower, upper⟩
  simp only [List.length_nil] at upper
  omega

theorem stored_append (target : Pointer β) (first second : List V) (memory : Memory β V) :
    stored (target.advance first.length) second (stored target first memory) =
      stored target (first ++ second) memory := by
  funext block position
  by_cases later : (target.advance first.length).Covers second.length block position
  · obtain ⟨same, lower, upper⟩ := later
    simp only [advance_block, advance_offset] at same lower upper
    have whole : target.Covers (first ++ second).length block position :=
      ⟨same, by omega, by rw [List.length_append]; omega⟩
    have covered : (target.advance first.length).Covers second.length block position :=
      ⟨same, lower, by rw [advance_offset]; omega⟩
    have apart : ¬ target.Covers first.length block position := fun covered => by
      have bound := covered.2.2
      omega
    rw [stored_covered covered, stored_covered whole, stored_uncovered apart,
      List.getD_append_right first second _ _ (by omega), advance_offset]
    congr 1
    omega
  · rw [stored_uncovered later]
    by_cases earlier : target.Covers first.length block position
    · obtain ⟨same, lower, upper⟩ := earlier
      have whole : target.Covers (first ++ second).length block position :=
        ⟨same, lower, by rw [List.length_append]; omega⟩
      rw [stored_covered ⟨same, lower, upper⟩, stored_covered whole,
        List.getD_append first second _ _ (by omega)]
    · rw [stored_uncovered earlier, stored_uncovered]
      rintro ⟨same, lower, upper⟩
      rw [List.length_append] at upper
      by_cases inFirst : position < target.offset + first.length
      · exact earlier ⟨same, lower, inFirst⟩
      · refine later ⟨same, ?_, ?_⟩ <;> rw [advance_offset] <;> omega

theorem valuesAt_stored_append (target : Pointer β) (first second : List V)
    (memory : Memory β V) :
    valuesAt (stored target (first ++ second) memory) target first.length = first := by
  refine List.ext_getElem (length_valuesAt _ _ _) fun index _ bound => ?_
  have covered : target.Covers (first ++ second).length target.block (target.offset + index) :=
    ⟨rfl, by omega, by rw [List.length_append]; omega⟩
  have place : (target.offset + (index : Int) - target.offset).toNat = index := by omega
  simp only [valuesAt, List.getElem_map, List.getElem_range, stored_covered covered, place]
  rw [List.getD_append first second _ _ bound, List.getD_eq_getElem _ _ bound]

theorem valuesAt_stored (target : Pointer β) (values : List V) (memory : Memory β V) :
    valuesAt (stored target values memory) target values.length = values := by
  simpa using valuesAt_stored_append target values [] memory

theorem apply_copy_stored (transfer : Copy β) (memory : Memory β V) :
    (Effect.copy transfer).apply memory =
      stored transfer.target (valuesAt memory transfer.source transfer.byteSize) memory := by
  funext block position
  by_cases covered : transfer.target.Covers transfer.byteSize block position
  · obtain ⟨rfl, lower, upper⟩ := covered
    obtain ⟨index, rfl⟩ := Int.le.dest lower
    have bound : index < transfer.byteSize := by omega
    have covers : transfer.target.Covers
        (valuesAt memory transfer.source transfer.byteSize).length transfer.target.block
        (transfer.target.offset + index) := by
      rw [length_valuesAt]
      exact ⟨rfl, lower, upper⟩
    have place : (transfer.target.offset + (index : Int) - transfer.target.offset).toNat = index := by
      omega
    rw [apply_copy transfer memory bound, stored_covered covers, place,
      List.getD_eq_getElem _ _ (by rwa [length_valuesAt])]
    simp [valuesAt]
  · rw [apply_untouched (.copy transfer) memory covered, stored_uncovered]
    rwa [length_valuesAt]

/-- A value that stands behind itself `count` times is copied behind them once more. -/
theorem copy_repeated (target : Pointer β) (item : List V) (count : Nat) (memory : Memory β V) :
    (Effect.copy {
        source := target
        target := target.advance ((count + 1) * item.length)
        byteSize := item.length }).apply
        (stored target (List.replicate (count + 1) item).flatten memory) =
      stored target (List.replicate (count + 2) item).flatten memory := by
  have length : (List.replicate (count + 1) item).flatten.length = (count + 1) * item.length := by
    simp
  have first : (List.replicate (count + 1) item).flatten =
      item ++ (List.replicate count item).flatten := rfl
  have last : (List.replicate (count + 2) item).flatten =
      (List.replicate (count + 1) item).flatten ++ item := by
    rw [List.replicate_succ', List.flatten_concat]
  rw [apply_copy_stored, last, ← stored_append, length]
  congr 1
  rw [first, valuesAt_stored_append]

/-! Effects that stay inside a buffer. -/

omit [DecidableEq β]

def Effect.Inside (effect : Effect β V) (target : Pointer β) (size : Nat) : Prop :=
  ∀ block position, effect.Writes block position → target.Covers size block position

theorem inside_advance {effect : Effect β V} {target : Pointer β} {offset size : Nat}
    (same : effect.target = target.advance offset) (room : offset + effect.byteSize ≤ size) :
    effect.Inside target size := by
  intro block position written
  rw [Effect.Writes, same] at written
  obtain ⟨block, lower, upper⟩ := written
  simp only [advance_block, advance_offset] at block lower upper
  exact ⟨block, by omega, by omega⟩

theorem Effect.Inside.of_advance {effect : Effect β V} {target : Pointer β} {offset size : Nat}
    (inside : effect.Inside (target.advance offset) size) : effect.Inside target (offset + size) := by
  intro block position written
  obtain ⟨block, lower, upper⟩ := inside block position written
  simp only [advance_block, advance_offset] at block lower upper
  exact ⟨block, by omega, by omega⟩

theorem Effect.Inside.mono {effect : Effect β V} {target : Pointer β} {size larger : Nat}
    (inside : effect.Inside target size) (room : size ≤ larger) : effect.Inside target larger := by
  intro block position written
  obtain ⟨block, lower, upper⟩ := inside block position written
  exact ⟨block, lower, by omega⟩

/-- The last byte that is written lies behind the buffer. -/
theorem not_inside_advance {effect : Effect β V} {target : Pointer β} {offset size : Nat}
    (same : effect.target = target.advance offset) (some : 0 < effect.byteSize)
    (beyond : size < offset + effect.byteSize) : ¬ effect.Inside target size := by
  intro inside
  have written : effect.Writes target.block (target.offset + (offset + effect.byteSize - 1 : Nat)) := by
    rw [Effect.Writes, same]
    refine ⟨rfl, ?_, ?_⟩ <;> simp only [advance_offset] <;> omega
  obtain ⟨_, _, upper⟩ := inside _ _ written
  omega

end CopyStream
