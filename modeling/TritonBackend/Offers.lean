import Mathlib.Data.List.Basic
import Mathlib.Data.List.Induction
import Mathlib.Logic.Relation

/-!
Groups that are formed of the items offered to them. A rule decides, by a state of the
group's own, whether an item is taken; any number of groups are open at once.
-/

namespace Offers

structure Rule (Item State : Type) where
  initial : State
  offer : State → Item → Bool × State

structure Group (Item State : Type) where
  /-- Nothing once the group is closed. -/
  state : Option State
  offered : List Item
  taken : List Item

variable {Item State : Type} (rule : Rule Item State)

def Rule.after (state : State) (items : List Item) : State :=
  items.foldl (fun state item => (rule.offer state item).2) state

def Rule.takes (state : State) : List Item → List Item
  | [] => []
  | item :: rest =>
      let answer := rule.offer state item
      if answer.1 then item :: takes answer.2 rest else takes answer.2 rest

def Rule.opened : Group Item State :=
  { state := some rule.initial
    offered := []
    taken := [] }

def Rule.give (group : Group Item State) (state : State) (item : Item) : Group Item State :=
  let answer := rule.offer state item
  { state := some answer.2
    offered := group.offered ++ [item]
    taken := if answer.1 then group.taken ++ [item] else group.taken }

inductive Step : List (Group Item State) → List (Group Item State) → Prop
  | opens (groups : List (Group Item State)) : Step groups (groups ++ [rule.opened])
  | offers (groups : List (Group Item State)) (idx : Nat) (group : Group Item State) (state : State)
      (item : Item) (here : groups[idx]? = some group) (isOpen : group.state = some state) :
      Step groups (groups.set idx (rule.give group state item))
  | closes (groups : List (Group Item State)) (idx : Nat) (group : Group Item State)
      (here : groups[idx]? = some group) : Step groups (groups.set idx { group with state := none })

def Reaches : List (Group Item State) → List (Group Item State) → Prop :=
  Relation.ReflTransGen (Step rule)

variable {rule}

theorem after_cons (state : State) (item : Item) (rest : List Item) :
    rule.after state (item :: rest) = rule.after (rule.offer state item).2 rest := rfl

theorem after_append (state : State) (items : List Item) (item : Item) :
    rule.after state (items ++ [item]) = (rule.offer (rule.after state items) item).2 := by
  simp [Rule.after]

theorem takes_append (state : State) (items : List Item) (item : Item) :
    rule.takes state (items ++ [item]) = rule.takes state items ++
      if (rule.offer (rule.after state items) item).1 then [item] else [] := by
  induction items generalizing state with
  | nil => rfl
  | cons first rest later =>
      simp only [List.cons_append, Rule.takes, later]
      split <;> rfl

/-- A group is what the rule makes of the items offered to it alone. -/
structure Formed (rule : Rule Item State) (group : Group Item State) : Prop where
  taken : group.taken = rule.takes rule.initial group.offered
  state : ∀ state, group.state = some state → state = rule.after rule.initial group.offered

theorem give_formed {group : Group Item State} (formed : Formed rule group) {state : State}
    (isOpen : group.state = some state) (item : Item) : Formed rule (rule.give group state item) := by
  obtain rfl := formed.state state isOpen
  constructor
  · simp only [Rule.give, takes_append, ← formed.taken]
    split <;> simp
  · rintro _ ⟨⟩
    exact (after_append _ _ _).symm

theorem step_formed {groups groups' : List (Group Item State)} (step : Step rule groups groups')
    (formed : ∀ group ∈ groups, Formed rule group) : ∀ group ∈ groups', Formed rule group := by
  intro changed member
  cases step with
  | opens =>
      rcases List.mem_append.mp member with old | new
      · exact formed changed old
      · obtain rfl := List.mem_singleton.mp new
        exact ⟨rfl, by rintro _ ⟨⟩; rfl⟩
  | offers idx group state item here isOpen =>
      rcases List.mem_or_eq_of_mem_set member with old | rfl
      · exact formed changed old
      · exact give_formed (formed group (List.mem_of_getElem? here)) isOpen item
  | closes idx group here =>
      rcases List.mem_or_eq_of_mem_set member with old | rfl
      · exact formed changed old
      · exact ⟨(formed group (List.mem_of_getElem? here)).taken, nofun⟩

/-- Whatever is open at the same time, and in whatever order the items come. -/
theorem run_formed {groups : List (Group Item State)} (run : Reaches rule [] groups) :
    ∀ group ∈ groups, Formed rule group := by
  induction run with
  | refl => exact nofun
  | tail _ step formed => exact step_formed step formed

/-- Any items can be offered, in any order. -/
theorem reaches_offered (rule : Rule Item State) (items : List Item) :
    ∃ group, Reaches rule [] [group] ∧ group.offered = items ∧
      group.state = some (rule.after rule.initial items) := by
  induction items using List.reverseRecOn with
  | nil => exact ⟨rule.opened, Relation.ReflTransGen.single (.opens []), rfl, rfl⟩
  | append_singleton items item before =>
      obtain ⟨group, run, offered, state⟩ := before
      refine ⟨rule.give group _ item, run.tail (.offers [group] 0 group _ item rfl state), ?_, ?_⟩
      · simp [Rule.give, offered]
      · simp [Rule.give, after_append]

end Offers
