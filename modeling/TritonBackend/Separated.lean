import Mathlib.Data.List.TakeWhile

/-!
Texts that list items with a separator between them. Where no item has a symbol that a
separator or the close begins with, a text lists one sequence of items only.
-/

namespace Separated

variable {α β : Type}

/-- What stands behind the first item. -/
def following (write : β → List α) (separator close : List α) : List β → List α
  | [] => close
  | item :: rest => separator ++ (write item ++ following write separator close rest)

def listed (write : β → List α) (separator close : List α) : List β → List α
  | [] => close
  | item :: rest => write item ++ following write separator close rest

structure Delimited (inner : α → Bool) (write : β → List α) (separator close : List α) :
    Prop where
  injective : Function.Injective write
  nonempty (item : β) : write item ≠ []
  inside (item : β) : ∀ symbol ∈ write item, inner symbol = true
  between : ∃ first rest, separator = first :: rest ∧ inner first = false
  closes : ∀ first ∈ close.head?, inner first = false
  apart : separator.head? ≠ close.head?

theorem takeWhile_stops {inner : α → Bool} {word rest : List α}
    (inside : ∀ symbol ∈ word, inner symbol = true)
    (stops : ∀ first ∈ rest.head?, inner first = false) :
    (word ++ rest).takeWhile inner = word := by
  rw [List.takeWhile_append_of_pos inside]
  cases rest with
  | nil => exact List.append_nil word
  | cons first others =>
      have outside := stops first rfl
      rw [List.takeWhile_cons_of_neg (by simp [outside]), List.append_nil]

section
variable {inner : α → Bool} {write : β → List α} {separator close : List α}

theorem following_stops (delimited : Delimited inner write separator close) (items : List β) :
    ∀ first ∈ (following write separator close items).head?, inner first = false := by
  cases items with
  | nil => exact delimited.closes
  | cons item rest =>
      obtain ⟨symbol, others, rfl, outside⟩ := delimited.between
      rintro first ⟨⟩
      exact outside

theorem write_cancel (delimited : Delimited inner write separator close) {item other : β}
    {items others : List β}
    (same : write item ++ following write separator close items =
      write other ++ following write separator close others) :
    item = other ∧
      following write separator close items = following write separator close others := by
  have first := takeWhile_stops (delimited.inside item) (following_stops delimited items)
  have second := takeWhile_stops (delimited.inside other) (following_stops delimited others)
  have equal : write item = write other := by rw [← first, same, second]
  rw [equal] at same
  exact ⟨delimited.injective equal, List.append_cancel_left same⟩

theorem following_cons_ne_close (delimited : Delimited inner write separator close) (item : β)
    (rest : List β) : following write separator close (item :: rest) ≠ close := by
  intro same
  refine delimited.apart ?_
  obtain ⟨first, others, rfl, -⟩ := delimited.between
  rw [← same]
  rfl

theorem following_injective (delimited : Delimited inner write separator close) :
    Function.Injective (following write separator close) := by
  intro items
  induction items with
  | nil =>
      rintro (_ | ⟨other, others⟩) same
      · rfl
      · exact absurd same.symm (following_cons_ne_close delimited other others)
  | cons item rest ih =>
      rintro (_ | ⟨other, others⟩) same
      · exact absurd same (following_cons_ne_close delimited item rest)
      · obtain ⟨rfl, equal⟩ := write_cancel delimited (List.append_cancel_left same)
        rw [ih equal]

theorem listed_cons_ne_close (delimited : Delimited inner write separator close) (item : β)
    (rest : List β) : listed write separator close (item :: rest) ≠ close := by
  intro same
  have outside := delimited.closes
  have inside := delimited.inside item
  have nonempty := delimited.nonempty item
  rw [← same, listed] at outside
  cases written : write item with
  | nil => exact nonempty written
  | cons first others =>
      rw [written] at outside inside
      have contrary := inside first List.mem_cons_self
      rw [outside first rfl] at contrary
      cases contrary

theorem listed_injective (delimited : Delimited inner write separator close) :
    Function.Injective (listed write separator close) := by
  rintro (_ | ⟨item, rest⟩) (_ | ⟨other, others⟩) same
  · rfl
  · exact absurd same.symm (listed_cons_ne_close delimited other others)
  · exact absurd same (listed_cons_ne_close delimited item rest)
  · obtain ⟨rfl, equal⟩ := write_cancel delimited same
    rw [following_injective delimited equal]

end

section
variable {text : β → String} {separator close : String}

theorem intercalate_cons_join (first : String) (rest : List String) :
    separator.intercalate (first :: rest) =
      first ++ String.join (rest.map fun piece => separator ++ piece) := by
  induction rest generalizing first with
  | nil => simp
  | cons second others ih =>
      rw [String.intercalate_cons_cons, ih, List.map_cons, String.join_cons, String.append_assoc,
        String.append_assoc]

theorem toList_join_close (items : List β) :
    (String.join (items.map fun item => separator ++ text item) ++ close).toList =
      following (fun item => (text item).toList) separator.toList close.toList items := by
  induction items with
  | nil => simp [following]
  | cons item rest ih =>
      rw [List.map_cons, String.join_cons, String.append_assoc, String.append_assoc,
        String.toList_append, String.toList_append, ih]
      rfl

theorem toList_intercalate_close (items : List β) :
    (separator.intercalate (items.map text) ++ close).toList =
      listed (fun item => (text item).toList) separator.toList close.toList items := by
  cases items with
  | nil => simp [listed]
  | cons item rest =>
      rw [List.map_cons, intercalate_cons_join, List.map_map, String.append_assoc,
        String.toList_append]
      exact congrArg _ (toList_join_close rest)

theorem intercalate_injective {inner : Char → Bool}
    (delimited : Delimited inner (fun item => (text item).toList) separator.toList close.toList) :
    Function.Injective fun items : List β => separator.intercalate (items.map text) ++ close := by
  intro items others same
  refine listed_injective delimited ?_
  rw [← toList_intercalate_close, ← toList_intercalate_close]
  exact congrArg String.toList same

end

end Separated
