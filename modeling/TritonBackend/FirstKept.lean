import Mathlib.Data.List.Induction
import Mathlib.Data.List.Nodup
import Mathlib.Data.List.Perm.Basic

/-!
A map whose insertion leaves a key that is there alone, and whose entries are visited in an order
of its own. Of items inserted one by one all are kept exactly if their keys are distinct.
-/

namespace FirstKept

variable {κ ω : Type}

/-- Every entry is visited once, in some order. -/
structure Visit (α : Type) where
  order : List α → List α
  perm : ∀ entries, (order entries).Perm entries

def Visit.oldestFirst (α : Type) : Visit α := ⟨id, fun _ => List.Perm.refl _⟩

section
variable [DecidableEq κ]

def insert (entries : List (κ × ω)) (entry : κ × ω) : List (κ × ω) :=
  if entry.1 ∈ entries.map Prod.fst then entries else entries ++ [entry]

def insertAll (entries items : List (κ × ω)) : List (κ × ω) := items.foldl insert entries

theorem insert_sublist (entries : List (κ × ω)) (entry : κ × ω) :
    (insert entries entry).Sublist (entries ++ [entry]) := by
  rw [insert]
  split
  · exact List.sublist_append_left _ _
  · exact List.Sublist.refl _

theorem insert_distinct {entries : List (κ × ω)} (distinct : (entries.map Prod.fst).Nodup)
    (entry : κ × ω) : ((insert entries entry).map Prod.fst).Nodup := by
  rw [insert]
  split
  next => exact distinct
  next fresh =>
    rw [List.map_append, List.map_cons, List.map_nil]
    refine distinct.append (List.nodup_singleton _) ?_
    rintro key present same
    rw [List.mem_singleton] at same
    exact fresh (same ▸ present)

theorem insertAll_concat (entries items : List (κ × ω)) (item : κ × ω) :
    insertAll entries (items ++ [item]) = insert (insertAll entries items) item := by
  simp [insertAll]

theorem insertAll_sublist (entries items : List (κ × ω)) :
    (insertAll entries items).Sublist (entries ++ items) := by
  induction items using List.reverseRecOn with
  | nil => exact List.sublist_append_left _ _
  | append_singleton items item ih =>
      rw [insertAll_concat, ← List.append_assoc]
      exact (insert_sublist _ item).trans (ih.append_right [item])

theorem insertAll_distinct {entries : List (κ × ω)} (distinct : (entries.map Prod.fst).Nodup)
    (items : List (κ × ω)) : ((insertAll entries items).map Prod.fst).Nodup := by
  induction items using List.reverseRecOn with
  | nil => exact distinct
  | append_singleton items item ih =>
      rw [insertAll_concat]
      exact insert_distinct ih item

theorem insertAll_eq {entries items : List (κ × ω)}
    (distinct : ((entries ++ items).map Prod.fst).Nodup) :
    insertAll entries items = entries ++ items := by
  induction items using List.reverseRecOn with
  | nil => exact (List.append_nil _).symm
  | append_singleton items item ih =>
      rw [← List.append_assoc, List.map_append, List.nodup_append] at distinct
      obtain ⟨before, -, apart⟩ := distinct
      have fresh : item.1 ∉ (entries ++ items).map Prod.fst := fun present =>
        apart _ present _ (by simp) rfl
      rw [insertAll_concat, ih before, insert, if_neg fresh, List.append_assoc]

/-- Items are told apart, so one that is left out is missed. -/
theorem all_kept_iff {items : List (κ × ω)} (apart : items.Nodup) :
    (∀ item ∈ items, item ∈ insertAll [] items) ↔ (items.map Prod.fst).Nodup := by
  constructor
  · intro kept
    have keys : ((insertAll [] items).map Prod.fst).Nodup :=
      insertAll_distinct (by exact List.nodup_nil) items
    refine apart.map_on fun first mine second theirs same => ?_
    exact List.inj_on_of_nodup_map keys (kept first mine) (kept second theirs) same
  · intro distinct item member
    have whole : insertAll [] items = [] ++ items := insertAll_eq (by simpa using distinct)
    rw [whole]
    exact member

end

end FirstKept
