import Mathlib.Algebra.Group.Int.Defs
import Mathlib.Algebra.Group.Nat.Defs
import Mathlib.Data.List.TakeWhile

/-!
Decimal numerals, and the conversions of the C++ library that read one from the front of a
string: white space is skipped, the longest numeral is converted, what follows is ignored.
-/

namespace Numerals

/-- `isspace` of the C locale. -/
def isSpace (c : Char) : Bool := c.toNat == 32 || (9 ≤ c.toNat && c.toNat ≤ 13)

def splitSign : List Char → Bool × List Char
  | '-' :: rest => (true, rest)
  | '+' :: rest => (false, rest)
  | text => (false, text)

/-- The numeral that a text starts with: whether it has a minus, and its magnitude. -/
def scan (text : List Char) : Option (Bool × Nat) :=
  let signed := splitSign (text.dropWhile isSpace)
  let digits := signed.2.takeWhile Char.isDigit
  if digits = [] then none else some (signed.1, Nat.ofDigitChars 10 digits 0)

inductive ConversionError
  | invalidArgument
  | outOfRange
deriving DecidableEq, Repr

def convert (read : Bool → Nat → Except ConversionError Int) (text : String) :
    Except ConversionError Int :=
  match scan text.toList with
  | none => .error .invalidArgument
  | some (negated, magnitude) => read negated magnitude

def signedValue (negated : Bool) (magnitude : Nat) : Int :=
  if negated then -magnitude else magnitude

def signedIn (least most : Int) (negated : Bool) (magnitude : Nat) :
    Except ConversionError Int :=
  let value := signedValue negated magnitude
  if least ≤ value ∧ value ≤ most then .ok value else .error .outOfRange

/-- A minus negates modulo the bound. -/
def unsignedBelow (bound : Nat) (negated : Bool) (magnitude : Nat) :
    Except ConversionError Int :=
  if bound ≤ magnitude then .error .outOfRange
  else if negated then .ok ((bound - magnitude) % bound : Nat)
  else .ok magnitude

def stoi : String → Except ConversionError Int := convert (signedIn (-2 ^ 31) (2 ^ 31 - 1))

def stoll : String → Except ConversionError Int := convert (signedIn (-2 ^ 63) (2 ^ 63 - 1))

def stoull : String → Except ConversionError Int := convert (unsignedBelow (2 ^ 64))

inductive Sign : List Char → Bool → Prop
  | absent : Sign [] false
  | plus : Sign ['+'] false
  | minus : Sign ['-'] true

structure Digits (digits : List Char) (magnitude : Nat) : Prop where
  nonempty : digits ≠ []
  digit : ∀ c ∈ digits, c.isDigit = true
  magnitude : Nat.ofDigitChars 10 digits 0 = magnitude

def Numeral (text : List Char) (negated : Bool) (magnitude : Nat) : Prop :=
  ∃ sign digits, text = sign ++ digits ∧ Sign sign negated ∧ Digits digits magnitude

/-- Behind white space, the text has a numeral in front. -/
def StartsNumeral (text : List Char) : Prop :=
  ∃ blanks numeral rest negated magnitude, text = blanks ++ (numeral ++ rest) ∧
    (∀ c ∈ blanks, isSpace c = true) ∧ Numeral numeral negated magnitude

theorem not_isSpace_of_isDigit {c : Char} (digit : c.isDigit = true) : isSpace c = false := by
  simp only [Char.isDigit, Bool.and_eq_true, decide_eq_true_eq, UInt32.le_iff_toNat_le,
    ge_iff_le] at digit
  have lower : 48 ≤ c.toNat := digit.1
  simp only [isSpace, Bool.or_eq_false_iff, beq_eq_false_iff_ne, Bool.and_eq_false_iff,
    decide_eq_false_iff_not]
  omega

theorem splitSign_digits {digits : List Char} (nonempty : digits ≠ [])
    (digit : ∀ c ∈ digits, c.isDigit = true) (rest : List Char) :
    splitSign (digits ++ rest) = (false, digits ++ rest) := by
  cases digits with
  | nil => exact absurd rfl nonempty
  | cons first others =>
      have isDigit := digit first List.mem_cons_self
      rw [List.cons_append, splitSign]
      · rintro more ⟨⟩
        simp at isDigit
      · rintro more ⟨⟩
        simp at isDigit

theorem Sign.split {sign : List Char} {negated : Bool} (isSign : Sign sign negated)
    {digits : List Char} (nonempty : digits ≠ []) (digit : ∀ c ∈ digits, c.isDigit = true)
    (rest : List Char) : splitSign (sign ++ (digits ++ rest)) = (negated, digits ++ rest) := by
  cases isSign with
  | absent => exact splitSign_digits nonempty digit rest
  | plus => rfl
  | minus => rfl

theorem sign_splitSign (text : List Char) :
    ∃ sign, text = sign ++ (splitSign text).2 ∧ Sign sign (splitSign text).1 := by
  unfold splitSign
  split
  next rest => exact ⟨['-'], rfl, .minus⟩
  next rest => exact ⟨['+'], rfl, .plus⟩
  next => exact ⟨[], rfl, .absent⟩

theorem Sign.dropSpace {sign : List Char} {negated : Bool} (isSign : Sign sign negated)
    {digits : List Char} (nonempty : digits ≠ []) (digit : ∀ c ∈ digits, c.isDigit = true)
    (rest : List Char) :
    (sign ++ (digits ++ rest)).dropWhile isSpace = sign ++ (digits ++ rest) := by
  cases isSign with
  | plus => rfl
  | minus => rfl
  | absent =>
      cases digits with
      | nil => exact absurd rfl nonempty
      | cons first others =>
          have isDigit := digit first List.mem_cons_self
          exact List.dropWhile_cons_of_neg (by simp [not_isSpace_of_isDigit isDigit])

/-- The digits behind a numeral would have been part of it. -/
theorem scan_append {blanks numeral rest : List Char} {negated : Bool} {magnitude : Nat}
    (space : ∀ c ∈ blanks, isSpace c = true) (isNumeral : Numeral numeral negated magnitude) :
    scan (blanks ++ (numeral ++ rest)) =
      some (negated, Nat.ofDigitChars 10 (rest.takeWhile Char.isDigit) magnitude) := by
  obtain ⟨sign, digits, rfl, isSign, nonempty, digit, rfl⟩ := isNumeral
  rw [scan, List.dropWhile_append_of_pos space, List.append_assoc,
    isSign.dropSpace nonempty digit, isSign.split nonempty digit]
  simp only [List.takeWhile_append_of_pos digit, List.append_eq_nil_iff, nonempty, false_and,
    ↓reduceIte, Nat.ofDigitChars_append]

theorem scan_numeral {text : List Char} {negated : Bool} {magnitude : Nat}
    (isNumeral : Numeral text negated magnitude) : scan text = some (negated, magnitude) := by
  have noBlanks : ∀ c ∈ ([] : List Char), isSpace c = true := by simp
  have scanned : scan ([] ++ (text ++ [])) = _ := scan_append noBlanks isNumeral
  rwa [List.nil_append, List.append_nil] at scanned

theorem scan_none_iff {text : List Char} : scan text = none ↔ ¬ StartsNumeral text := by
  constructor
  · rintro none ⟨blanks, numeral, rest, negated, magnitude, rfl, space, isNumeral⟩
    rw [scan_append space isNumeral] at none
    cases none
  · intro lacks
    by_contra some
    refine lacks ?_
    obtain ⟨sign, split, isSign⟩ := sign_splitSign (text.dropWhile isSpace)
    rw [scan] at some
    simp only [ite_eq_left_iff, reduceCtorEq, imp_false, not_not] at some
    generalize splitSign (text.dropWhile isSpace) = signed at split isSign some
    have whole := (List.takeWhile_append_dropWhile (p := isSpace) (l := text)).symm
    have digits := (List.takeWhile_append_dropWhile (p := Char.isDigit) (l := signed.2)).symm
    refine ⟨text.takeWhile isSpace, sign ++ signed.2.takeWhile Char.isDigit,
      signed.2.dropWhile Char.isDigit, signed.1, _, ?_, fun _ => List.mem_takeWhile_imp,
      sign, _, rfl, isSign, some, fun _ => List.mem_takeWhile_imp, rfl⟩
    rw [List.append_assoc, ← digits, ← split]
    exact whole

def isSymbol (c : Char) : Bool := c.isDigit || c == '-' || c == '+'

theorem Sign.symbols {sign : List Char} {negated : Bool} (isSign : Sign sign negated) :
    ∀ c ∈ sign, isSymbol c = true := by
  cases isSign with
  | absent => simp
  | plus => simp [isSymbol]
  | minus => simp [isSymbol]

theorem numeral_symbols {text : List Char} {negated : Bool} {magnitude : Nat}
    (isNumeral : Numeral text negated magnitude) : ∀ c ∈ text, isSymbol c = true := by
  obtain ⟨sign, digits, rfl, isSign, isDigits⟩ := isNumeral
  intro c member
  rcases List.mem_append.mp member with inSign | inDigits
  · exact isSign.symbols c inSign
  · simp [isSymbol, isDigits.digit c inDigits]

theorem numeral_nonempty {text : List Char} {negated : Bool} {magnitude : Nat}
    (isNumeral : Numeral text negated magnitude) : text ≠ [] := by
  obtain ⟨sign, digits, rfl, -, isDigits⟩ := isNumeral
  exact List.append_ne_nil_of_right_ne_nil sign isDigits.nonempty

theorem digits_repr (n : Nat) : Digits n.repr.toList n := by
  rw [Nat.toList_repr]
  constructor
  · exact Nat.toDigits_ne_nil
  · intro c member
    exact Nat.isDigit_of_mem_toDigits (by decide) (by decide) member
  · exact Nat.ofDigitChars_ten_toDigits

/-- What `std::to_string` writes is a numeral of the value. -/
theorem numeral_toString (value : Int) : ∃ negated magnitude,
    Numeral (toString value).toList negated magnitude ∧ signedValue negated magnitude = value ∧
      (negated = true → value < 0) := by
  cases value with
  | ofNat n => exact ⟨false, n, ⟨[], _, rfl, .absent, digits_repr n⟩, rfl, nofun⟩
  | negSucc n =>
      refine ⟨true, n + 1, ⟨['-'], _, ?_, .minus, digits_repr (n + 1)⟩, rfl, fun _ => ?_⟩
      · exact String.toList_append
      · exact Int.negSucc_lt_zero n

theorem toString_injective : Function.Injective fun value : Int => (toString value).toList := by
  intro value other same
  obtain ⟨negated, magnitude, isNumeral, rfl, -⟩ := numeral_toString value
  obtain ⟨negated', magnitude', isNumeral', rfl, -⟩ := numeral_toString other
  have scanned := scan_numeral isNumeral
  rw [show (toString (signedValue negated magnitude)).toList = _ from same,
    scan_numeral isNumeral'] at scanned
  cases scanned
  rfl

structure IntegerType where
  signed : Bool
  least : Int
  most : Int

def int : IntegerType := {
  signed := true
  least := -2 ^ 31
  most := 2 ^ 31 - 1 }

def longLong : IntegerType := {
  signed := true
  least := -2 ^ 63
  most := 2 ^ 63 - 1 }

def unsignedLongLong : IntegerType := {
  signed := false
  least := 0
  most := 2 ^ 64 - 1 }

/-- The text is a numeral, with a minus only if the type has signs, of a value that the type
represents. -/
structure IntegerType.Denotes (type : IntegerType) (text : String) (value : Int) : Prop where
  numeral : ∃ negated magnitude, Numeral text.toList negated magnitude ∧
    (negated = true → type.signed = true) ∧ signedValue negated magnitude = value
  least : type.least ≤ value
  most : value ≤ type.most

theorem denotes_toString {type : IntegerType} {value : Int} (least : type.least ≤ value)
    (most : value ≤ type.most) (sign : value < 0 → type.signed = true) :
    type.Denotes (toString value) value := by
  obtain ⟨negated, magnitude, isNumeral, same, negative⟩ := numeral_toString value
  exact ⟨⟨negated, magnitude, isNumeral, fun minus => sign (negative minus), same⟩, least, most⟩

structure Converts (conversion : String → Except ConversionError Int) (type : IntegerType) :
    Prop where
  invalid {text : String} :
    conversion text = .error .invalidArgument ↔ ¬ StartsNumeral text.toList
  denoted {text : String} {value : Int} : type.Denotes text value → conversion text = .ok value

theorem convert_converts {read : Bool → Nat → Except ConversionError Int} {type : IntegerType}
    (valid : ∀ negated magnitude, read negated magnitude ≠ .error .invalidArgument)
    (exact : ∀ negated magnitude, (negated = true → type.signed = true) →
      type.least ≤ signedValue negated magnitude → signedValue negated magnitude ≤ type.most →
        read negated magnitude = .ok (signedValue negated magnitude)) :
    Converts (convert read) type where
  invalid := by
    intro text
    rw [convert, ← scan_none_iff]
    split
    next none => exact iff_of_true rfl none
    next negated magnitude some =>
      exact iff_of_false (valid negated magnitude) (by simp [some])
  denoted := by
    rintro text value ⟨⟨negated, magnitude, isNumeral, sign, rfl⟩, least, most⟩
    rw [convert, scan_numeral isNumeral]
    exact exact negated magnitude sign least most

theorem signedIn_converts (least most : Int) :
    Converts (convert (signedIn least most)) { signed := true, least := least, most := most } := by
  refine convert_converts ?_ ?_
  · intro negated magnitude
    rw [signedIn]
    split
    · exact nofun
    · exact nofun
  · intro negated magnitude _ lower upper
    exact if_pos ⟨lower, upper⟩

theorem unsignedBelow_converts (bound : Nat) :
    Converts (convert (unsignedBelow bound))
      { signed := false, least := 0, most := bound - 1 } := by
  refine convert_converts ?_ ?_
  · intro negated magnitude
    rw [unsignedBelow]
    split_ifs
    · exact nofun
    · exact nofun
    · exact nofun
  · intro negated magnitude sign _ most
    cases negated with
    | true => cases sign rfl
    | false =>
        simp only [signedValue, Bool.false_eq_true, ↓reduceIte] at most ⊢
        have below : ¬ bound ≤ magnitude := by omega
        rw [unsignedBelow, if_neg below]
        rfl

theorem stoi_converts : Converts stoi int := signedIn_converts _ _

theorem stoll_converts : Converts stoll longLong := signedIn_converts _ _

theorem stoull_converts : Converts stoull unsignedLongLong := unsignedBelow_converts _

end Numerals
