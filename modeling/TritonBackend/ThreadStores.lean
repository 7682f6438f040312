import Mathlib.Data.Finset.Card
import Mathlib.Order.Interval.Finset.Nat
import Mathlib.Data.Int.Interval

/-!
Threads that copy elements with no order between them. A thread's loop starts at its own
element and steps by the number of threads; its counter is a machine integer, and a counter
that leaves its range ends all that can be said of the thread.
-/

namespace CopyStream

/-! Any order of the threads. -/

/-- The threads run to their ends, each in its own order. -/
inductive Interleaves {α : Type} : List (List α) → List α → Prop
  | done {threads : List (List α)} (ended : ∀ thread ∈ threads, thread = []) :
      Interleaves threads []
  | step {before after : List (List α)} {item : α} {thread later : List α}
      (rest : Interleaves (before ++ thread :: after) later) :
      Interleaves (before ++ (item :: thread) :: after) (item :: later)

theorem Interleaves.mem_iff {α : Type} {threads : List (List α)} {merged : List α}
    (interleaves : Interleaves threads merged) {item : α} :
    item ∈ merged ↔ ∃ thread ∈ threads, item ∈ thread := by
  induction interleaves with
  | done ended =>
      constructor
      · intro member
        cases member
      · rintro ⟨thread, member, inside⟩
        rw [ended thread member] at inside
        cases inside
  | step _ ih =>
      rw [List.mem_cons, ih]
      simp only [List.mem_append, List.mem_cons, or_and_right, exists_or, exists_eq_left]
      rw [← or_assoc, ← or_assoc, or_comm (a := item = _)]
      simp only [or_assoc]

/-- A thread that has ended takes no more part. -/
theorem Interleaves.drop_ended {α : Type} {before after : List (List α)} {merged : List α}
    (interleaves : Interleaves (before ++ after) merged) :
    Interleaves (before ++ [] :: after) merged := by
  generalize whole : before ++ after = threads at interleaves
  induction interleaves generalizing before after with
  | done ended =>
      subst whole
      refine Interleaves.done fun thread member => ?_
      rcases List.mem_append.mp member with early | late
      · exact ended thread (List.mem_append_left _ early)
      · rcases List.mem_cons.mp late with rfl | late
        · rfl
        · exact ended thread (List.mem_append_right _ late)
  | @step first second item thread later rest ih =>
      rcases List.append_eq_append_iff.mp whole with ⟨middle, rfl, rfl⟩ | ⟨middle, rfl, split⟩
      · have step := @Interleaves.step α (before ++ [] :: middle) second item thread later
        simp only [List.append_assoc, List.cons_append] at step
        exact step (ih (List.append_assoc _ _ _).symm)
      · cases middle with
        | nil =>
            rw [List.nil_append] at split
            subst split
            have step := @Interleaves.step α (first ++ [[]]) second item thread later
            simp only [List.append_assoc, List.cons_append, List.nil_append, List.append_nil] at step ⊢
            exact step (ih rfl)
        | cons head middle =>
            obtain ⟨rfl, rfl⟩ := List.cons.inj split
            have step := @Interleaves.step α first (middle ++ [] :: after) item thread later
            simp only [List.append_assoc, List.cons_append] at step ⊢
            refine step ?_
            have smaller := @ih (first ++ thread :: middle) after (by simp)
            simpa only [List.append_assoc, List.cons_append] using smaller

/-! A thread's loop. -/

/-- The elements of a loop from `elem` up to `count`, unless its counter reaches the limit. -/
def strideFrom (limit step : Nat) [NeZero step] (count : Int) (elem : Nat) : Option (List Nat) :=
  if elem < count then
    if elem + step < limit then
      (strideFrom limit step count (elem + step)).map fun rest => elem :: rest
    else none
  else some []
termination_by limit - elem
decreasing_by
  have positive := Nat.pos_of_ne_zero (NeZero.ne step)
  omega

section
variable {limit step : Nat} [NeZero step]

/-- A loop that keeps its counter in range is through the elements of its own residue. -/
theorem strideFrom_some {count : Int} {elem : Nat} {elems : List Nat}
    (strides : strideFrom limit step count elem = some elems) (other : Nat) :
    (other ∈ elems ↔ elem ≤ other ∧ other < count ∧ (other - elem) % step = 0) ∧
      (other ∈ elems → other + step < limit) := by
  have positive := Nat.pos_of_ne_zero (NeZero.ne step)
  fun_induction strideFrom limit step count elem generalizing elems with
  | case1 elem within room ih =>
      obtain ⟨rest, later, rfl⟩ := Option.map_eq_some_iff.mp strides
      obtain ⟨mem, inRange⟩ := ih later
      -- the next element of the residue is the same or one step further
      have residue (above : elem ≤ other) : (other - elem) % step = 0 ↔
          other = elem ∨ elem + step ≤ other ∧ (other - (elem + step)) % step = 0 := by
        by_cases near : other - elem < step
        · rw [Nat.mod_eq_of_lt near]
          omega
        · rw [Nat.mod_eq_sub_mod (Nat.le_of_not_lt near), Nat.sub_add_eq]
          omega
      constructor
      · rw [List.mem_cons, mem]
        constructor
        · rintro (rfl | ⟨above, below, apart⟩)
          · exact ⟨Nat.le_refl _, within, by rw [Nat.sub_self, Nat.zero_mod]⟩
          · have start : elem ≤ other := by omega
            exact ⟨start, below, (residue start).mpr (Or.inr ⟨above, apart⟩)⟩
        · rintro ⟨start, below, apart⟩
          rcases (residue start).mp apart with same | ⟨above, apart⟩
          · exact Or.inl same
          · exact Or.inr ⟨above, below, apart⟩
      · intro member
        rcases List.mem_cons.mp member with rfl | inside
        · exact room
        · exact inRange inside
  | case2 elem within room => cases strides
  | case3 elem ended =>
      obtain rfl := Option.some.inj strides
      constructor
      · constructor
        · intro member
          cases member
        · rintro ⟨above, below, -⟩
          omega
      · intro member
        cases member

theorem strideFrom_isSome {count : Int} (fits : count + step ≤ limit) (elem : Nat) :
    (strideFrom limit step count elem).isSome := by
  fun_induction strideFrom limit step count elem with
  | case1 elem within room ih =>
      rw [Option.isSome_map]
      exact ih
  | case2 elem within room => omega
  | case3 elem ended => rfl

end

/-! Counting what is covered. -/

theorem card_covered {spans : List (Int × Nat)} {positions : Finset Int}
    (covered : ∀ position ∈ positions, ∃ span ∈ spans,
      span.1 ≤ position ∧ position < span.1 + span.2) :
    positions.card ≤ (spans.map Prod.snd).sum := by
  induction spans generalizing positions with
  | nil =>
      have none : positions = ∅ := by
        refine Finset.eq_empty_of_forall_notMem fun position member => ?_
        obtain ⟨span, impossible, -⟩ := covered position member
        cases impossible
      rw [none, Finset.card_empty]
      exact Nat.zero_le _
  | cons first rest ih =>
      let mine := positions.filter fun position => first.1 ≤ position ∧ position < first.1 + first.2
      have own : mine.card ≤ first.2 := by
        have inside : mine ⊆ Finset.Ico first.1 (first.1 + first.2) := fun position member =>
          Finset.mem_Ico.mpr (Finset.mem_filter.mp member).2
        have size := Finset.card_le_card inside
        rw [Int.card_Ico] at size
        omega
      have later := @ih (positions \ mine) fun position member => by
        obtain ⟨present, notMine⟩ := Finset.mem_sdiff.mp member
        obtain ⟨span, inside, covers⟩ := covered position present
        rcases List.mem_cons.mp inside with rfl | inside
        · exact absurd (Finset.mem_filter.mpr ⟨present, covers⟩) notMine
        · exact ⟨span, inside, covers⟩
      have split : (positions \ mine).card + mine.card = positions.card :=
        Finset.card_sdiff_add_card_eq_card (Finset.filter_subset _ positions)
      rw [List.map_cons, List.sum_cons]
      omega

end CopyStream
