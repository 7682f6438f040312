import TritonBackend.CopyStream
import Mathlib.Algebra.GroupWithZero.Nat

/-!
Items that lie one behind the other, each from its own source. Once all of them are copied to
their places, in whatever order and with whatever else elsewhere, the target holds their
values one behind the other.
-/

namespace CopyStream

variable {α β V : Type}

/-! Items one behind the other. -/

def Laid (offset size : α → Nat) (start : Nat) : List α → Prop
  | [] => True
  | item :: rest => offset item = start ∧ Laid offset size (start + size item) rest

section
variable {offset size : α → Nat} {start : Nat} {items : List α}

theorem Laid.bounds (laid : Laid offset size start items) {item : α} (member : item ∈ items) :
    start ≤ offset item ∧ offset item + size item ≤ start + (items.map size).sum := by
  induction items generalizing start with
  | nil => cases member
  | cons first rest ih =>
      obtain ⟨place, later⟩ := laid
      rw [List.map_cons, List.sum_cons]
      rcases List.mem_cons.mp member with rfl | inside
      · omega
      · have bounds := ih later inside
        omega

theorem Laid.ordered (laid : Laid offset size start items) :
    items.Pairwise fun first second => offset first + size first ≤ offset second := by
  induction items generalizing start with
  | nil => exact List.Pairwise.nil
  | cons first rest ih =>
      obtain ⟨place, later⟩ := laid
      refine List.Pairwise.cons ?_ (ih later)
      intro item member
      have bounds := later.bounds member
      omega

theorem Laid.at (laid : Laid offset size start items) {position : Nat} (lower : start ≤ position)
    (upper : position < start + (items.map size).sum) :
    ∃ (index : Nat) (item : α), items[index]? = some item ∧
      offset item ≤ position ∧ position < offset item + size item := by
  induction items generalizing start with
  | nil => exact absurd upper (Nat.not_lt_of_le lower)
  | cons first rest ih =>
      obtain ⟨rfl, later⟩ := laid
      rw [List.map_cons, List.sum_cons] at upper
      by_cases inside : position < offset first + size first
      · exact ⟨0, first, rfl, lower, inside⟩
      · obtain ⟨index, item, there, covers⟩ := ih later (Nat.le_of_not_lt inside) (by omega)
        exact ⟨index + 1, item, there, covers⟩

theorem Laid.unique (laid : Laid offset size start items) {index other : Nat} {item second : α}
    (mine : items[index]? = some item) (theirs : items[other]? = some second) (position : Nat)
    (inside : offset item ≤ position ∧ position < offset item + size item)
    (within : offset second ≤ position ∧ position < offset second + size second) :
    index = other := by
  obtain ⟨bound, rfl⟩ := List.getElem?_eq_some_iff.mp mine
  obtain ⟨room, rfl⟩ := List.getElem?_eq_some_iff.mp theirs
  have ordered := List.pairwise_iff_getElem.mp laid.ordered
  by_contra apart
  rcases Nat.lt_or_gt_of_ne apart with before | after
  · have disjoint := ordered index other bound room before
    omega
  · have disjoint := ordered other index room bound after
    omega

theorem Laid.same (laid : Laid offset size start items) {item second : α} (mine : item ∈ items)
    (theirs : second ∈ items) (position : Nat)
    (inside : offset item ≤ position ∧ position < offset item + size item)
    (within : offset second ≤ position ∧ position < offset second + size second) :
    item = second := by
  obtain ⟨index, there⟩ := List.getElem?_of_mem mine
  obtain ⟨other, present⟩ := List.getElem?_of_mem theirs
  obtain rfl := laid.unique there present position inside within
  exact Option.some.inj (there.symm.trans present)

theorem Laid.values (laid : Laid offset size start items) {source : α → Pointer β}
    {target : Pointer β} {memory landed : Memory β V}
    (held : ∀ item ∈ items, ∀ index < size item,
      landed target.block (target.offset + (offset item + index : Nat)) =
        memory (source item).block ((source item).offset + index)) :
    valuesAt landed (target.advance start) (items.map size).sum =
      items.flatMap fun item => valuesAt memory (source item) (size item) := by
  induction items generalizing start with
  | nil => rfl
  | cons first rest ih =>
      obtain ⟨rfl, later⟩ := laid
      rw [List.map_cons, List.sum_cons, List.flatMap_cons, valuesAt_append, advance_advance]
      congr 1
      · refine valuesAt_congr.mpr fun index below => ?_
        have here := held first List.mem_cons_self index below
        rw [Int.natCast_add, ← Int.add_assoc] at here
        exact here
      · exact ih later fun item member => held item (List.mem_cons_of_mem _ member)

end

/-! Copies to their places. -/

section
variable [DecidableEq β] {memory : Memory β V}

/-- Where all that is written to a place is copied from one place that stays, it is what is
there. -/
theorem applyAll_agree {effects : List (Effect β V)} {transfer : Copy β}
    (member : .copy transfer ∈ effects) {block : β} {position : Int}
    (covers : transfer.target.Covers transfer.byteSize block position)
    (kept : ∀ effect ∈ effects, effect.target.block ≠ transfer.source.block)
    (agree : ∀ effect ∈ effects, effect.Writes block position → ∃ copy, effect = .copy copy ∧
      copy.source.block = transfer.source.block ∧
        copy.source.offset - copy.target.offset =
          transfer.source.offset - transfer.target.offset) :
    applyAll effects memory block position =
      memory transfer.source.block
        (transfer.source.offset + (position - transfer.target.offset)) := by
  induction effects using List.reverseRecOn with
  | nil => cases member
  | append_singleton effects last ih =>
      have mine : last ∈ effects ++ [last] := List.mem_append_right _ List.mem_cons_self
      rw [applyAll_append]
      by_cases written : last.Writes block position
      -- the last of them to write decides, and it reads what was there from the start
      · obtain ⟨copy, rfl, sameBlock, sameShift⟩ := agree last mine written
        have shift : copy.source.offset + (position - copy.target.offset) =
            transfer.source.offset + (position - transfer.target.offset) := by omega
        have read : applyAll effects memory transfer.source.block
            (transfer.source.offset + (position - transfer.target.offset)) =
              memory transfer.source.block
                (transfer.source.offset + (position - transfer.target.offset)) := by
          refine applyAll_untouched _ _ fun effect inside touched => ?_
          exact kept effect (List.mem_append_left _ inside) touched.1.symm
        have applied : Effect.apply (.copy copy) (applyAll effects memory) block position =
            applyAll effects memory copy.source.block
              (copy.source.offset + (position - copy.target.offset)) := if_pos written
        rw [← read, ← shift, ← sameBlock]
        exact applied
      · have inside : .copy transfer ∈ effects := by
          rcases List.mem_append.mp member with inside | same
          · exact inside
          · rw [List.mem_singleton] at same
            exact absurd (same ▸ covers) written
        have before := ih inside (fun effect present => kept effect (List.mem_append_left _ present))
          fun effect present => agree effect (List.mem_append_left _ present)
        rw [← before]
        exact apply_untouched last _ written

variable {offset size : α → Nat} {source : α → Pointer β} {target : Pointer β} {items : List α}

def laidCopy (offset size : α → Nat) (source : α → Pointer β) (target : Pointer β) (item : α) :
    Copy β := {
  source := source item
  target := target.advance (offset item)
  byteSize := size item }

theorem applyAll_laid (laid : Laid offset size 0 items)
    (apart : ∀ item ∈ items, (source item).block ≠ target.block) {effects : List (Effect β V)}
    (each : ∀ effect ∈ effects,
      (∃ item ∈ items, effect = .copy (laidCopy offset size source target item)) ∨
        effect.target.block ≠ target.block ∧
          ∀ item ∈ items, effect.target.block ≠ (source item).block)
    (all : ∀ item ∈ items, 0 < size item →
      .copy (laidCopy offset size source target item) ∈ effects) :
    valuesAt (applyAll effects memory) target (items.map size).sum =
      items.flatMap fun item => valuesAt memory (source item) (size item) := by
  refine Eq.trans (by rw [advance_zero]) (laid.values fun item member index below => ?_)
  have covers : (laidCopy offset size source target item).target.Covers (size item) target.block
      (target.offset + (offset item + index : Nat)) := by
    refine ⟨rfl, ?_, ?_⟩ <;> simp only [laidCopy, advance_offset] <;> omega
  refine (applyAll_agree (all item member (by omega)) covers ?kept ?agree).trans ?value
  case value =>
      simp only [laidCopy, advance_offset]
      congr 1
      omega
  case kept =>
      intro effect present
      rcases each effect present with ⟨other, -, rfl⟩ | ⟨-, spares⟩
      · exact (apart item member).symm
      · exact spares item member
  case agree =>
      intro effect present written
      rcases each effect present with ⟨other, inside, rfl⟩ | ⟨elsewhere, -⟩
      · obtain ⟨-, lower, upper⟩ := written
        simp only [Effect.target, Effect.byteSize, laidCopy, advance_offset] at lower upper
        obtain rfl := laid.same member inside (offset item + index) (by omega) (by omega)
        exact ⟨_, rfl, rfl, rfl⟩
      · exact absurd written.1.symm elsewhere

end

end CopyStream
