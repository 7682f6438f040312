import Mathlib.Data.List.Basic
import Mathlib.Data.List.Forall2

/-!
Programs that leave on their first error: an outcome is the error, if any, and the state
reached. The rules say what has to succeed for a sequence, a read or a loop to.
-/

namespace Fallible

abbrev Outcome (ε σ : Type) := Option ε × σ

variable {ε σ α β : Type}

def andThen (outcome : Outcome ε σ) (next : σ → Outcome ε σ) : Outcome ε σ :=
  match outcome.1 with
  | some error => (some error, outcome.2)
  | none => next outcome.2

/-- Goes on with a value that may not be there, in a state that reading it does not change. -/
def reading (value : Except ε α) (state : σ) (next : α → Outcome ε σ) : Outcome ε σ :=
  match value with
  | .error error => (some error, state)
  | .ok value => next value

def forEach (step : σ → α → Outcome ε σ) (state : σ) : List α → Outcome ε σ
  | [] => (none, state)
  | item :: rest => andThen (step state item) fun next => forEach step next rest

def readAll (read : α → Except ε β) : List α → Except ε (List β)
  | [] => .ok []
  | place :: rest =>
      match read place with
      | .error error => .error error
      | .ok value => (readAll read rest).map fun values => value :: values

theorem andThen_assoc (outcome : Outcome ε σ) (next last : σ → Outcome ε σ) :
    andThen (andThen outcome next) last = andThen outcome fun state => andThen (next state) last := by
  obtain ⟨_ | error, state⟩ := outcome
  · rfl
  · rfl

theorem andThen_success {outcome : Outcome ε σ} {next : σ → Outcome ε σ} {last : σ} :
    andThen outcome next = (none, last) ↔
      ∃ middle, outcome = (none, middle) ∧ next middle = (none, last) := by
  obtain ⟨_ | error, state⟩ := outcome
  · simp [andThen]
  · simp [andThen]

theorem reading_success {value : Except ε α} {state last : σ} {next : α → Outcome ε σ} :
    reading value state next = (none, last) ↔
      ∃ read, value = .ok read ∧ next read = (none, last) := by
  cases value with
  | error error => simp [reading]
  | ok read => simp [reading]

theorem bind_success {value : Except ε α} {next : α → Except ε β} {result : β} :
    (value >>= next) = .ok result ↔ ∃ read, value = .ok read ∧ next read = .ok result := by
  cases value with
  | error error => simp [bind, Except.bind]
  | ok read => simp [bind, Except.bind]

theorem then_success {first : Except ε Unit} {next : Except ε β} {result : β} :
    (first >>= fun _ => next) = .ok result ↔ first = .ok () ∧ next = .ok result := by
  cases first with
  | error error => simp [bind, Except.bind]
  | ok read => simp [bind, Except.bind]

theorem reading_taken {value : Except ε α} {state last : σ} {take : α → σ} :
    (reading value state fun read => ((none, take read) : Outcome ε σ)) = (none, last) ↔
      ∃ read, value = .ok read ∧ last = take read := by
  rw [reading_success]
  simp only [Prod.mk.injEq, true_and, eq_comm]

theorem forEach_cons_success {step : σ → α → Outcome ε σ} {state last : σ} {item : α}
    {rest : List α} :
    forEach step state (item :: rest) = (none, last) ↔
      ∃ middle, step state item = (none, middle) ∧
        forEach step middle rest = (none, last) := by
  rw [forEach, andThen_success]

theorem forEach_append (step : σ → α → Outcome ε σ) (state : σ) (items rest : List α) :
    forEach step state (items ++ rest) =
      andThen (forEach step state items) fun middle => forEach step middle rest := by
  induction items generalizing state with
  | nil => rfl
  | cons item items ih =>
      rw [List.cons_append, forEach, forEach]
      obtain ⟨_ | error, middle⟩ := step state item
      · exact ih middle
      · rfl

theorem forEach_map (step : σ → β → Outcome ε σ) (state : σ) (view : α → β) (items : List α) :
    forEach step state (items.map view) =
      forEach (fun state item => step state (view item)) state items := by
  induction items generalizing state with
  | nil => rfl
  | cons item rest ih =>
      rw [List.map_cons, forEach, forEach]
      congr 1
      funext middle
      exact ih middle

/-- Items that are skipped might as well not be there. -/
theorem forEach_filter (step : σ → α → Outcome ε σ) (state : σ) (kept : α → Bool)
    (items : List α) :
    forEach (fun state item => if kept item then step state item else (none, state)) state items =
      forEach step state (items.filter kept) := by
  induction items generalizing state with
  | nil => rfl
  | cons item rest ih =>
      rw [forEach, List.filter_cons]
      split
      · rw [forEach]
        congr 1
        funext middle
        exact ih middle
      · exact ih state

theorem forEach_append_success {step : σ → α → Outcome ε σ} {state last : σ}
    {items rest : List α} :
    forEach step state (items ++ rest) = (none, last) ↔
      ∃ middle, forEach step state items = (none, middle) ∧
        forEach step middle rest = (none, last) := by
  induction items generalizing state with
  | nil => simp [forEach]
  | cons item items ih =>
      rw [List.cons_append, forEach_cons_success]
      simp only [ih, forEach_cons_success]
      constructor
      · rintro ⟨first, stepped, middle, looped, later⟩
        exact ⟨middle, ⟨first, stepped, looped⟩, later⟩
      · rintro ⟨middle, ⟨first, stepped, looped⟩, later⟩
        exact ⟨first, stepped, middle, looped, later⟩

theorem readAll_cons {read : α → Except ε β} {place : α} {rest : List α} {values : List β} :
    readAll read (place :: rest) = .ok values ↔
      ∃ value later, read place = .ok value ∧ readAll read rest = .ok later ∧
        values = value :: later := by
  rw [readAll]
  cases read place with
  | error error => simp
  | ok value =>
      cases readAll read rest with
      | error error => simp [Except.map]
      | ok later => simp [Except.map, eq_comm]

theorem readAll_success {read : α → Except ε β} {places : List α} {values : List β} :
    readAll read places = .ok values ↔
      List.Forall₂ (fun place value => read place = .ok value) places values := by
  induction places generalizing values with
  | nil => simp [readAll, eq_comm]
  | cons place rest ih =>
      rw [readAll_cons]
      simp only [ih, List.forall₂_cons_left_iff]

/-- When every place can be read, all of them can, each to what belongs to it. -/
theorem readAll_forall₂ {γ : Type} {read : α → Except ε β} {holds : β → γ → Prop}
    {places : List α} {items : List γ}
    (each : List.Forall₂ (fun place item => ∃ value, read place = .ok value ∧ holds value item)
      places items) :
    ∃ values, readAll read places = .ok values ∧ List.Forall₂ holds values items := by
  induction each with
  | nil => exact ⟨[], rfl, List.Forall₂.nil⟩
  | cons here _ ih =>
      obtain ⟨value, isRead, held⟩ := here
      obtain ⟨values, areRead, allHeld⟩ := ih
      exact ⟨value :: values, readAll_cons.mpr ⟨value, values, isRead, areRead, rfl⟩,
        List.Forall₂.cons held allHeld⟩

/-- Where each place holds an item, they can all be read when the items can. -/
theorem readAll_congr {γ : Type} {read : α → Except ε β} {readItem : γ → Except ε β}
    {places : List α} {items : List γ}
    (each : List.Forall₂ (fun place item => read place = readItem item) places items) :
    readAll read places = readAll readItem items := by
  induction each with
  | nil => rfl
  | cons here _ ih => rw [readAll, readAll, here, ih]

/-- A loop that reads each item as it comes to it succeeds when all can be read and the
loop over what was read succeeds. -/
theorem forEach_reading {read : α → Except ε β} {step : σ → β → Outcome ε σ}
    {readingStep : σ → α → Outcome ε σ}
    (reads : ∀ state place last, readingStep state place = (none, last) ↔
      ∃ value, read place = .ok value ∧ step state value = (none, last))
    {state last : σ} {places : List α} :
    forEach readingStep state places = (none, last) ↔
      ∃ values, readAll read places = .ok values ∧ forEach step state values = (none, last) := by
  induction places generalizing state with
  | nil => simp [readAll, forEach]
  | cons place rest ih =>
      rw [forEach_cons_success]
      constructor
      · rintro ⟨middle, first, later⟩
        obtain ⟨value, here, stepped⟩ := (reads _ _ _).mp first
        obtain ⟨values, there, looped⟩ := ih.mp later
        exact ⟨value :: values, readAll_cons.mpr ⟨value, values, here, there, rfl⟩,
          forEach_cons_success.mpr ⟨middle, stepped, looped⟩⟩
      · rintro ⟨_, all, looped⟩
        obtain ⟨value, values, here, there, rfl⟩ := readAll_cons.mp all
        obtain ⟨middle, stepped, later⟩ := forEach_cons_success.mp looped
        exact ⟨middle, (reads _ _ _).mpr ⟨value, here, stepped⟩, ih.mpr ⟨values, there, later⟩⟩

theorem forEach_taking {read : α → Except ε β} {take : σ → β → σ}
    {takingStep : σ → α → Outcome ε σ}
    (takes : ∀ state place last, takingStep state place = (none, last) ↔
      ∃ value, read place = .ok value ∧ last = take state value)
    {state last : σ} {places : List α} :
    forEach takingStep state places = (none, last) ↔
      ∃ values, readAll read places = .ok values ∧ last = values.foldl take state := by
  induction places generalizing state with
  | nil => simp [readAll, forEach, eq_comm]
  | cons place rest ih =>
      rw [forEach_cons_success]
      constructor
      · rintro ⟨middle, first, later⟩
        obtain ⟨value, here, rfl⟩ := (takes _ _ _).mp first
        obtain ⟨values, there, rfl⟩ := ih.mp later
        exact ⟨value :: values, readAll_cons.mpr ⟨value, values, here, there, rfl⟩, rfl⟩
      · rintro ⟨_, all, rfl⟩
        obtain ⟨value, values, here, there, rfl⟩ := readAll_cons.mp all
        exact ⟨take state value, (takes _ _ _).mpr ⟨value, here, rfl⟩, ih.mpr ⟨values, there, rfl⟩⟩

theorem forEach_keeps {step : σ → α → Outcome ε σ} {invariant : σ → Prop}
    (keeps : ∀ state item last, invariant state → step state item = (none, last) →
      invariant last)
    {state last : σ} {items : List α} (start : invariant state)
    (success : forEach step state items = (none, last)) : invariant last := by
  induction items generalizing state with
  | nil =>
      rw [forEach, Prod.mk.injEq] at success
      rw [← success.2]
      exact start
  | cons item rest ih =>
      obtain ⟨middle, stepped, later⟩ := forEach_cons_success.mp success
      exact ih (keeps _ _ _ start stepped) later

end Fallible
