import TritonBackend.JsonCore
import TritonBackend.Numerals

/-!
The integral values among the parameters of a configuration. Only `std::invalid_argument`
is caught: what the conversion ignores is accepted, and `std::out_of_range` escapes.
-/

namespace TritonBackend

open Numerals

inductive CallOutcome
  | returned (error : Option TritonError)
  | thrown (exception : ConversionError)
deriving DecidableEq

structure Parsed where
  outcome : CallOutcome
  parsedValue : Int
deriving DecidableEq

def parseValue (conversion : String → Except ConversionError Int) (target : String)
    (value : String) (parsedValue : Int) : Parsed :=
  match conversion value with
  | .ok converted => {
      outcome := .returned none
      parsedValue := converted }
  | .error .invalidArgument => {
      outcome := .returned (some {
        code := .invalidArg
        message := "failed to convert '" ++ value ++ "' to " ++ target ++ " number" })
      parsedValue := parsedValue }
  | .error .outOfRange => {
      outcome := .thrown .outOfRange
      parsedValue := parsedValue }

def parseLongLongValue : String → Int → Parsed := parseValue stoll "long long integral"

def parseUnsignedLongLongValue : String → Int → Parsed :=
  parseValue stoull "unsigned long long integral"

def parseIntValue : String → Int → Parsed := parseValue stoi "integral"

section
variable {Value : Type} [TritonJson Value]

def tryParseModelStringParameter (parse : String → Int → Parsed) (params : Value) (mkey : String)
    (value defaultValue : Int) : Parsed :=
  match TritonJson.find params mkey with
  | none => {
      outcome := .returned none
      parsedValue := defaultValue }
  | some jsonValue =>
      match TritonJson.memberAsString jsonValue "string_value" with
      | .error error => {
          outcome := .returned (some error)
          parsedValue := value }
      | .ok stringValue => parse stringValue value

def tryParseModelStringParameterInt (params : Value) (mkey : String) (value defaultValue : Int) :
    Parsed :=
  tryParseModelStringParameter parseIntValue params mkey value defaultValue

def tryParseModelStringParameterUint64 (params : Value) (mkey : String)
    (value defaultValue : Int) : Parsed :=
  tryParseModelStringParameter parseUnsignedLongLongValue params mkey value defaultValue

def Configured (params : Value) (mkey text : String) : Prop :=
  ∃ jsonValue, TritonJson.find params mkey = some jsonValue ∧
    TritonJson.memberAsString jsonValue "string_value" = .ok text

/-- No exception escapes, and a configured value is either refused or stored as it stands. -/
structure KeepsConfigured (type : IntegerType) (params : Value) (mkey : String)
    (parsed : Parsed) : Prop where
  returned : ∃ error, parsed.outcome = .returned error
  kept {text : String} : Configured params mkey text → parsed.outcome = .returned none →
    type.Denotes text parsed.parsedValue

end

/-- The call takes all of the text for a numeral of the type, or refuses it. -/
structure ParsesExactly (type : IntegerType) (text : String) (before : Int) (parsed : Parsed) :
    Prop where
  returned : ∃ error, parsed.outcome = .returned error
  success : parsed.outcome = .returned none ↔ ∃ value, type.Denotes text value
  stored {value : Int} : type.Denotes text value → parsed.parsedValue = value
  unchanged : (¬ ∃ value, type.Denotes text value) → parsed.parsedValue = before

/-- The text is a numeral of the type, or not even the front of it is a numeral. -/
def Handled (type : IntegerType) (text : String) : Prop :=
  (∃ value, type.Denotes text value) ∨ ¬ StartsNumeral text.toList

theorem denotes_unique {type : IntegerType} {text : String} {value other : Int}
    (first : type.Denotes text value) (second : type.Denotes text other) : value = other := by
  obtain ⟨negated, magnitude, isNumeral, -, rfl⟩ := first.numeral
  obtain ⟨negated', magnitude', isNumeral', -, rfl⟩ := second.numeral
  have same := (scan_numeral isNumeral).symm.trans (scan_numeral isNumeral')
  cases same
  rfl

variable {conversion : String → Except ConversionError Int} {type : IntegerType}

theorem parseValue_denoted (converts : Converts conversion type) (target : String) {text : String}
    {value : Int} (denotes : type.Denotes text value) (before : Int) :
    parseValue conversion target text before = {
      outcome := .returned none
      parsedValue := value } := by
  rw [parseValue, converts.denoted denotes]

/-- A text that is neither a numeral of the type nor without one in front is converted all the
same, or the conversion throws. -/
theorem parseValue_mishandled (converts : Converts conversion type) (target : String)
    {text : String} (starts : StartsNumeral text.toList) (before : Int) :
    (parseValue conversion target text before).outcome = .returned none ∨
      (parseValue conversion target text before).outcome = .thrown .outOfRange := by
  rw [parseValue]
  split
  next => exact Or.inl rfl
  next invalid => exact absurd starts (converts.invalid.mp invalid)
  next => exact Or.inr rfl

theorem handled_of_returned (converts : Converts conversion type) {target text : String}
    {before : Int}
    (returned : ∃ error, (parseValue conversion target text before).outcome = .returned error)
    (denoted : (parseValue conversion target text before).outcome = .returned none →
      ∃ value, type.Denotes text value) : Handled type text := by
  by_contra mishandled
  rw [Handled, not_or, not_not] at mishandled
  obtain ⟨foreign, starts⟩ := mishandled
  obtain ⟨error, returned⟩ := returned
  rcases parseValue_mishandled converts target starts before with success | thrown
  · exact foreign (denoted success)
  · exact nomatch returned.symm.trans thrown

theorem parseValue_refused (converts : Converts conversion type) (target : String)
    {text : String} (lacks : ¬ StartsNumeral text.toList) (before : Int) :
    parseValue conversion target text before = {
      outcome := .returned (some {
        code := .invalidArg
        message := "failed to convert '" ++ text ++ "' to " ++ target ++ " number" })
      parsedValue := before } := by
  rw [parseValue, converts.invalid.mpr lacks]

theorem parseValue_exactly_iff (converts : Converts conversion type) (target text : String)
    (before : Int) :
    ParsesExactly type text before (parseValue conversion target text before) ↔
      Handled type text := by
  constructor
  · intro exactly
    exact handled_of_returned converts exactly.returned exactly.success.mp
  · rintro (⟨value, denotes⟩ | lacks)
    · rw [parseValue_denoted converts target denotes]
      constructor
      · exact ⟨none, rfl⟩
      · exact iff_of_true rfl ⟨value, denotes⟩
      · intro other denoted
        exact denotes_unique denotes denoted
      · intro foreign
        exact absurd ⟨value, denotes⟩ foreign
    · have foreign : ¬ ∃ value, type.Denotes text value := by
        rintro ⟨value, denotes⟩
        have read := converts.denoted denotes
        rw [converts.invalid.mpr lacks] at read
        cases read
      rw [parseValue_refused converts target lacks]
      constructor
      · exact ⟨_, rfl⟩
      · exact iff_of_false nofun foreign
      · intro value denotes
        exact absurd ⟨value, denotes⟩ foreign
      · intro _
        rfl

section
variable {Value : Type} [TritonJson Value]

theorem tryParse_configured (parse : String → Int → Parsed) {params : Value} {mkey text : String}
    (configured : Configured params mkey text) (value defaultValue : Int) :
    tryParseModelStringParameter parse params mkey value defaultValue = parse text value := by
  obtain ⟨jsonValue, found, isString⟩ := configured
  simp only [tryParseModelStringParameter, found, isString]

/-- Without a configured string, the call returns its default or the error of the access. -/
theorem tryParse_other (parse : String → Int → Parsed) {params : Value} {mkey : String}
    (other : ∀ text, ¬ Configured params mkey text) (value defaultValue : Int) :
    ∃ error, (tryParseModelStringParameter parse params mkey value defaultValue).outcome =
      .returned error := by
  rw [tryParseModelStringParameter]
  split
  next => exact ⟨none, rfl⟩
  next jsonValue found =>
    split
    next error failed => exact ⟨some error, rfl⟩
    next text isString => exact absurd ⟨jsonValue, found, isString⟩ (other text)

theorem tryParse_keeps_iff (converts : Converts conversion type) (target : String) (params : Value)
    (mkey : String) (value defaultValue : Int) :
    KeepsConfigured type params mkey
        (tryParseModelStringParameter (parseValue conversion target) params mkey value
          defaultValue) ↔
      ∀ text, Configured params mkey text → Handled type text := by
  constructor
  · intro keeps text configured
    have kept := keeps.kept configured
    have returned := keeps.returned
    rw [tryParse_configured _ configured] at kept returned
    exact handled_of_returned converts returned fun success => ⟨_, kept success⟩
  · intro handled
    by_cases configured : ∃ text, Configured params mkey text
    · obtain ⟨text, configured⟩ := configured
      have exactly := (parseValue_exactly_iff converts target text value).mpr
        (handled text configured)
      constructor
      · rw [tryParse_configured _ configured]
        exact exactly.returned
      · intro other again success
        rw [tryParse_configured _ again] at success ⊢
        have exactly := (parseValue_exactly_iff converts target other value).mpr
          (handled other again)
        obtain ⟨parsed, denotes⟩ := exactly.success.mp success
        rw [exactly.stored denotes]
        exact denotes
    · constructor
      · exact tryParse_other _ (not_exists.mp configured) value defaultValue
      · intro text found
        exact absurd ⟨text, found⟩ configured

/-- A string is parsed as it should be exactly if it is handled, by every function and through
every configuration. -/
theorem parses_iff_handled :
    (∀ text before, ParsesExactly longLong text before (parseLongLongValue text before) ↔
      Handled longLong text) ∧
    (∀ text before, ParsesExactly int text before (parseIntValue text before) ↔
      Handled int text) ∧
    (∀ text before, ParsesExactly unsignedLongLong text before
        (parseUnsignedLongLongValue text before) ↔
      Handled unsignedLongLong text) ∧
    (∀ (params : Value) (mkey : String) (value defaultValue : Int),
      KeepsConfigured int params mkey
          (tryParseModelStringParameterInt params mkey value defaultValue) ↔
        ∀ text, Configured params mkey text → Handled int text) ∧
    ∀ (params : Value) (mkey : String) (value defaultValue : Int),
      KeepsConfigured unsignedLongLong params mkey
          (tryParseModelStringParameterUint64 params mkey value defaultValue) ↔
        ∀ text, Configured params mkey text → Handled unsignedLongLong text :=
  ⟨parseValue_exactly_iff stoll_converts _, parseValue_exactly_iff stoi_converts _,
    parseValue_exactly_iff stoull_converts _, tryParse_keeps_iff stoi_converts _,
    tryParse_keeps_iff stoull_converts _⟩

end

/-- An exception escapes; and `-1` is accepted as the largest number there is. -/
theorem not_parsesExactly :
    ¬ ParsesExactly int "2147483648" 0 (parseIntValue "2147483648" 0) ∧
    ¬ ParsesExactly unsignedLongLong "-1" 0 (parseUnsignedLongLongValue "-1" 0) := by
  constructor
  · intro exactly
    obtain ⟨error, returned⟩ := exactly.returned
    have thrown : (parseIntValue "2147483648" 0).outcome = .thrown .outOfRange := by decide
    exact nomatch returned.symm.trans thrown
  · intro exactly
    have success : (parseUnsignedLongLongValue "-1" 0).outcome = .returned none := by decide
    obtain ⟨value, denotes⟩ := exactly.success.mp success
    have stored : (parseUnsignedLongLongValue "-1" 0).parsedValue = 2 ^ 64 - 1 := by decide
    obtain ⟨negated, magnitude, isNumeral, sign, same⟩ := denotes.numeral
    rw [← exactly.stored denotes, stored] at same
    have scanned := scan_numeral isNumeral
    have minus : scan "-1".toList = some (true, 1) := by decide
    rw [minus] at scanned
    cases scanned
    cases sign rfl

end TritonBackend
