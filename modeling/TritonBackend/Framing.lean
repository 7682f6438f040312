import Mathlib.Data.List.Infix

/-!
Streams of strings, each behind its length. A `LengthCode` writes a length in a fixed
number of symbols; the encoding of a list of strings can be read back from the front.
-/

namespace Framing

structure LengthCode (α : Type) where
  width : Nat
  limit : Nat
  write : Nat → List α
  read : List α → Nat
  write_length : ∀ n, (write n).length = width
  read_write : ∀ n, n < limit → read (write n) = n
  read_lt : ∀ symbols, read symbols < limit
  write_read : ∀ symbols, symbols.length = width → write (read symbols) = symbols

variable {α : Type} (code : LengthCode α)

def LengthCode.encode : List (List α) → List α
  | [] => []
  | string :: rest => code.write string.length ++ (string ++ LengthCode.encode rest)

def LengthCode.Fits (strings : List (List α)) : Prop :=
  ∀ string ∈ strings, string.length < code.limit

instance (strings : List (List α)) : Decidable (code.Fits strings) :=
  inferInstanceAs (Decidable (∀ string ∈ strings, string.length < code.limit))

/-- Start and length of each string, for an encoding that starts at `start`. -/
def LengthCode.spans (start : Nat) : List (List α) → List (Nat × Nat)
  | [] => []
  | string :: rest =>
      (start + code.width, string.length) ::
        LengthCode.spans (start + code.width + string.length) rest

variable {code}

theorem spans_length (start : Nat) (strings : List (List α)) :
    (code.spans start strings).length = strings.length := by
  induction strings generalizing start with
  | nil => rfl
  | cons string rest ih => simp only [LengthCode.spans, List.length_cons, ih]

theorem fits_cons {string : List α} {rest : List (List α)} :
    code.Fits (string :: rest) ↔ string.length < code.limit ∧ code.Fits rest := by
  simp only [LengthCode.Fits, List.mem_cons, forall_eq_or_imp]

theorem frame_injective {first second : List α} {firstRest secondRest : List α}
    (firstFits : first.length < code.limit) (secondFits : second.length < code.limit)
    (same : code.write first.length ++ (first ++ firstRest) =
      code.write second.length ++ (second ++ secondRest)) :
    first = second ∧ firstRest = secondRest := by
  obtain ⟨lengths, rest⟩ := List.append_inj same
    (by rw [code.write_length, code.write_length])
  have length : first.length = second.length := by
    rw [← code.read_write _ firstFits, lengths, code.read_write _ secondFits]
  exact List.append_inj rest length

/-- As many strings are read back as are asked for. -/
theorem encode_injective {first second : List (List α)} {firstRest secondRest : List α}
    (firstFits : code.Fits first) (secondFits : code.Fits second)
    (count : first.length = second.length)
    (same : code.encode first ++ firstRest = code.encode second ++ secondRest) :
    first = second ∧ firstRest = secondRest := by
  induction first generalizing second with
  | nil =>
      rw [List.length_nil, eq_comm, List.length_eq_zero_iff] at count
      subst count
      exact ⟨rfl, same⟩
  | cons string rest ih =>
      cases second with
      | nil => simp at count
      | cons other others =>
          rw [fits_cons] at firstFits secondFits
          simp only [LengthCode.encode, List.append_assoc] at same
          obtain ⟨rfl, later⟩ := frame_injective firstFits.1 secondFits.1 same
          obtain ⟨rfl, ends⟩ := ih firstFits.2 secondFits.2 (by simpa using count) later
          exact ⟨rfl, ends⟩

theorem spans_bounds {start : Nat} {strings : List (List α)} {span : Nat × Nat}
    (member : span ∈ code.spans start strings) :
    start + code.width ≤ span.1 ∧
      span.1 + span.2 ≤ start + (code.encode strings).length := by
  induction strings generalizing start with
  | nil => simp [LengthCode.spans] at member
  | cons string rest ih =>
      simp only [LengthCode.encode, List.length_append, code.write_length]
      rcases List.mem_cons.mp member with rfl | later
      · exact ⟨Nat.le_refl _, by omega⟩
      · obtain ⟨lower, upper⟩ := ih later
        omega

theorem spans_apart (start : Nat) (strings : List (List α)) :
    (code.spans start strings).Pairwise fun first second => first.1 + first.2 ≤ second.1 := by
  induction strings generalizing start with
  | nil => exact List.Pairwise.nil
  | cons string rest ih =>
      refine List.pairwise_cons.mpr ⟨?_, ih _⟩
      intro second later
      have lower := (spans_bounds later).1
      simp only
      omega

/-- The spans of an encoding hold its strings, wherever it stands in the stream. -/
theorem spans_slices {start : Nat} {strings : List (List α)} {before : List α} (rest : List α)
    (position : before.length = start) :
    (code.spans start strings).map (fun span =>
      ((before ++ (code.encode strings ++ rest)).drop span.1).take span.2) = strings := by
  induction strings generalizing start before with
  | nil => rfl
  | cons string others ih =>
      have later := @ih (start + code.width + string.length)
        (before ++ code.write string.length ++ string)
        (by simp only [List.length_append, position, code.write_length])
      have skipped : start + code.width = (before ++ code.write string.length).length := by
        rw [List.length_append, position, code.write_length]
      simp only [List.append_assoc] at later
      simp only [LengthCode.encode, LengthCode.spans, List.map_cons, List.append_assoc, later]
      rw [skipped, ← List.append_assoc, List.drop_left, List.take_left]

end Framing
