import Mathlib.Data.List.Induction
import Mathlib.Logic.Function.Basic

/-!
A table whose entries are used up: an event registers a value under a key or uses the
key. What stands under a key is decided by the last event about it.
-/

namespace Registry

inductive Event (κ ω : Type)
  | register (key : κ) (value : ω)
  | use (key : κ)
deriving DecidableEq, Repr

variable {κ ω : Type}

def Event.key : Event κ ω → κ
  | .register key _ => key
  | .use key => key

def Event.value? : Event κ ω → Option ω
  | .register _ value => some value
  | .use _ => none

def Event.apply [DecidableEq κ] (table : κ → Option ω) (event : Event κ ω) : κ → Option ω :=
  Function.update table event.key event.value?

/-- The value that an event registered and that no later event replaced or used. -/
def Standing (history : List (Event κ ω)) (key : κ) (value : ω) : Prop :=
  ∃ earlier later, history = earlier ++ .register key value :: later ∧
    ∀ event ∈ later, event.key ≠ key

theorem not_standing_nil (key : κ) (value : ω) : ¬ Standing [] key value := by
  rintro ⟨earlier, later, split, _⟩
  simp at split

theorem standing_concat [DecidableEq κ] {history : List (Event κ ω)} {event : Event κ ω} {key : κ}
    {value : ω} :
    Standing (history ++ [event]) key value ↔
      if event.key = key then event.value? = some value else Standing history key value := by
  split
  · rename_i about
    constructor
    · rintro ⟨earlier, later, split, apart⟩
      rcases List.eq_nil_or_concat later with rfl | ⟨before, last, rfl⟩
      · obtain ⟨_, same⟩ := List.append_inj' split rfl
        rw [List.singleton_inj.mp same]
        rfl
      · rw [List.concat_eq_append, ← List.cons_append, ← List.append_assoc] at split
        obtain ⟨_, same⟩ := List.append_inj' split rfl
        rw [List.singleton_inj.mp same] at about
        exact absurd about (apart last (by simp))
    · intro registered
      cases event with
      | use other => simp [Event.value?] at registered
      | register other found =>
          obtain rfl : found = value := by simpa [Event.value?] using registered
          obtain rfl : other = key := about
          exact ⟨history, [], rfl, by simp⟩
  · rename_i other
    constructor
    · rintro ⟨earlier, later, split, apart⟩
      rcases List.eq_nil_or_concat later with rfl | ⟨before, last, rfl⟩
      · obtain ⟨_, same⟩ := List.append_inj' split rfl
        rw [List.singleton_inj.mp same] at other
        exact absurd rfl other
      · rw [List.concat_eq_append, ← List.cons_append, ← List.append_assoc] at split
        obtain ⟨same, _⟩ := List.append_inj' split rfl
        exact ⟨earlier, before, same, fun event member => apart event (by simp [member])⟩
    · rintro ⟨earlier, later, rfl, apart⟩
      refine ⟨earlier, later ++ [event], by simp, ?_⟩
      intro next member
      rcases List.mem_append.mp member with within | last
      · exact apart next within
      · rw [List.mem_singleton.mp last]
        exact other

/-- The table after a history holds exactly what stands. -/
theorem table_standing [DecidableEq κ] (history : List (Event κ ω)) (key : κ) (value : ω) :
    history.foldl Event.apply (fun _ => none) key = some value ↔ Standing history key value := by
  induction history using List.reverseRecOn with
  | nil => simp [not_standing_nil]
  | append_singleton history event ih =>
      rw [List.foldl_append, List.foldl_cons, List.foldl_nil, standing_concat, Event.apply]
      by_cases about : event.key = key
      · rw [if_pos about, ← about, Function.update_self]
      · rw [if_neg about, Function.update_of_ne (Ne.symm about)]
        exact ih

instance [DecidableEq κ] [DecidableEq ω] (history : List (Event κ ω)) (key : κ) (value : ω) :
    Decidable (Standing history key value) :=
  decidable_of_iff _ (table_standing history key value)

/-- Nothing registers the value without a later event about the same key. -/
def Released (history : List (Event κ ω)) (value : ω) : Prop :=
  ∀ earlier key later, history = earlier ++ .register key value :: later →
    ∃ event ∈ later, event.key = key

theorem released_iff {history : List (Event κ ω)} {value : ω} :
    Released history value ↔ ∀ key, ¬ Standing history key value := by
  constructor
  · rintro released key ⟨earlier, later, split, apart⟩
    obtain ⟨event, member, about⟩ := released earlier key later split
    exact apart event member about
  · intro gone earlier key later split
    by_contra unmatched
    refine gone key ⟨earlier, later, split, ?_⟩
    intro event member about
    exact unmatched ⟨event, member, about⟩

theorem Released.append {history more : List (Event κ ω)} {value : ω}
    (released : Released history value) (silent : ∀ key, .register key value ∉ more) :
    Released (history ++ more) value := by
  intro earlier key later split
  rcases List.append_eq_append_iff.mp split with ⟨middle, _, rest⟩ | ⟨middle, first, rest⟩
  · exact absurd (by rw [rest]; simp) (silent key)
  · cases middle with
    | nil => exact absurd (by rw [← List.nil_append more, ← rest]; simp) (silent key)
    | cons event middle =>
        obtain ⟨rfl, rfl⟩ := List.cons.inj rest
        obtain ⟨other, member, about⟩ := released earlier key middle first
        exact ⟨other, List.mem_append_left _ member, about⟩

end Registry
