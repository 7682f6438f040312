import TritonBackend.ModelConfigCore

/-!
What a parse of a model configuration leaves behind. The configuration is read without the
model, and what is read is then loaded into it: the vectors are refilled, but the map of
the batch outputs and the two sets of names are only added to.
-/

namespace TritonBackend

open Fallible Growable

structure ReadInput where
  name : String
  allowRaggedBatch : Bool
  optional : Bool

structure ModelConfigReading where
  maxBatchSize : Int
  enablePinnedInput : Bool
  enablePinnedOutput : Bool
  batchInputs : List BatchInput
  batchOutputs : List ParsedBatchOutput
  inputs : List ReadInput

section
variable {Value : Type} [TritonJson Value]

def readEnabled (optimization : Value) (name : String) : Except TritonError Bool :=
  match TritonJson.find optimization name with
  | none => .ok false
  | some pinnedMemory => TritonJson.memberAsBool pinnedMemory "enable"

def readPinned (config : Value) (name : String) : Except TritonError Bool :=
  match TritonJson.find config "optimization" with
  | none => .ok false
  | some optimization => readEnabled optimization name

def readInput (allowOptional : Bool) (io : Value) : Except TritonError ReadInput := do
  let name ← TritonJson.memberAsString io "name"
  let allowRaggedBatch ← readOptionalBool io "allow_ragged_batch"
  let optional ← readOptionalBool io "optional"
  if optional && !allowOptional then
    invalidArg ("'optional' is set to true for input '" ++ name ++
      "' while the backend model doesn't support optional input")
  else .ok { name, allowRaggedBatch, optional }

def readEach {α : Type} (config : Value) (name : String) (read : Value → Except TritonError α) :
    Except TritonError (List α) := do
  let array ← TritonJson.memberAsArray config name
  let objects ← readObjects (some array)
  readAll read objects

/-- What is read from a configuration, for a model that allows optional inputs or not. -/
structure Reads (allowOptional : Bool) (config : Value) (read : ModelConfigReading) : Prop where
  maxBatchSize : ∃ mbs, TritonJson.memberAsInt config "max_batch_size" = .ok mbs ∧
    read.maxBatchSize = narrowInt32 mbs
  pinnedInput : readPinned config "input_pinned_memory" = .ok read.enablePinnedInput
  pinnedOutput : readPinned config "output_pinned_memory" = .ok read.enablePinnedOutput
  batchInputs : readEach config "batch_input" readBatchInput = .ok read.batchInputs
  batchOutputs : readEach config "batch_output" (readBatchOutput config) = .ok read.batchOutputs
  inputs : readEach config "input" (readInput allowOptional) = .ok read.inputs

theorem readEach_success {α : Type} {config : Value} {name : String}
    {read : Value → Except TritonError α} {values : List α} :
    readEach config name read = .ok values ↔
      ∃ array, TritonJson.memberAsArray config name = .ok array ∧
        ∃ objects, readObjects (some array) = .ok objects ∧ readAll read objects = .ok values := by
  rw [readEach]
  cases TritonJson.memberAsArray config name with
  | error error => simp [bind, Except.bind]
  | ok array =>
      cases isRead : readObjects (some array) with
      | error error => simp [bind, Except.bind, isRead]
      | ok objects => simp [bind, Except.bind, isRead]

theorem Reads.unique {allowOptional : Bool} {config : Value} {read again : ModelConfigReading}
    (reads : Reads allowOptional config read) (readsAgain : Reads allowOptional config again) :
    read = again := by
  obtain ⟨mbs, isMbs, narrowed⟩ := reads.maxBatchSize
  obtain ⟨mbsAgain, isMbsAgain, narrowedAgain⟩ := readsAgain.maxBatchSize
  have sameMbs : mbs = mbsAgain := Except.ok.inj (isMbs.symm.trans isMbsAgain)
  have samePinnedInput := Except.ok.inj (reads.pinnedInput.symm.trans readsAgain.pinnedInput)
  have samePinnedOutput := Except.ok.inj (reads.pinnedOutput.symm.trans readsAgain.pinnedOutput)
  have sameBatchInputs := Except.ok.inj (reads.batchInputs.symm.trans readsAgain.batchInputs)
  have sameBatchOutputs := Except.ok.inj (reads.batchOutputs.symm.trans readsAgain.batchOutputs)
  have sameInputs := Except.ok.inj (reads.inputs.symm.trans readsAgain.inputs)
  cases read
  cases again
  simp_all only

end

namespace BackendModel

def takeBatchInput (model : BackendModel) (batchInput : BatchInput) : BackendModel :=
  { model with batchInputs := model.batchInputs ++ [batchInput] }

def takeBatchOutput (growth : Growth) (model : BackendModel) (batchOutput : ParsedBatchOutput) :
    BackendModel :=
  { model with batchOutputs := model.batchOutputs.emplaceBack growth batchOutput }

def insertName (picks : ReadInput → Bool) (names : List String) (input : ReadInput) :
    List String :=
  if picks input then names.insert input.name else names

def takeInput (model : BackendModel) (input : ReadInput) : BackendModel :=
  { model with
    raggedInputs := insertName ReadInput.allowRaggedBatch model.raggedInputs input
    optionalInputs := insertName ReadInput.optional model.optionalInputs input }

def load (growth : Growth) (model : BackendModel) (read : ModelConfigReading) : BackendModel :=
  let batchOutputs := model.batchOutputs.clear.emplaceAll growth read.batchOutputs
  read.inputs.foldl takeInput { model with
    maxBatchSize := read.maxBatchSize
    enablePinnedInput := read.enablePinnedInput
    enablePinnedOutput := read.enablePinnedOutput
    batchInputs := read.batchInputs
    batchOutputs := batchOutputs
    batchOutputMap := mapOutputs batchOutputs.block model.batchOutputMap 0 batchOutputs.elements }

section
variable {Value : Type} [TritonJson Value] {growth : Growth} {model last : BackendModel}
  {config : Value}

theorem readingEnabled_success {optimization : Value} {name : String}
    {set : BackendModel → Bool → BackendModel} (unset : set model false = model) :
    (match TritonJson.find optimization name with
      | none => ((none, model) : Outcome TritonError BackendModel)
      | some pinnedMemory => reading (TritonJson.memberAsBool pinnedMemory "enable") model
          fun enable => (none, set model enable)) = (none, last) ↔
      ∃ enable, readEnabled optimization name = .ok enable ∧ last = set model enable := by
  rw [readEnabled]
  cases TritonJson.find optimization name with
  | none => simp [unset, eq_comm]
  | some pinnedMemory => exact reading_taken

theorem parsePinned_success (unset : model.enablePinnedInput = false)
    (unsetOutput : model.enablePinnedOutput = false) :
    parsePinned config model = (none, last) ↔
      ∃ input output, readPinned config "input_pinned_memory" = .ok input ∧
        readPinned config "output_pinned_memory" = .ok output ∧
        last = { model with enablePinnedInput := input, enablePinnedOutput := output } := by
  have keepsInput : { model with enablePinnedInput := false } = model := by rw [← unset]
  have keepsOutput (input : Bool) :
      { model with enablePinnedInput := input, enablePinnedOutput := false } =
        { model with enablePinnedInput := input } := by rw [← unsetOutput]
  rw [parsePinned, readPinned, readPinned]
  cases TritonJson.find config "optimization" with
  | none =>
      rw [← keepsInput, ← keepsOutput]
      simp [eq_comm]
  | some optimization =>
      let setsInput (model : BackendModel) (enable : Bool) : BackendModel :=
        { model with enablePinnedInput := enable }
      let setsOutput (model : BackendModel) (enable : Bool) : BackendModel :=
        { model with enablePinnedOutput := enable }
      constructor
      · intro parsed
        obtain ⟨middle, first, later⟩ := andThen_success.mp parsed
        obtain ⟨input, isInput, rfl⟩ :=
          (@readingEnabled_success _ _ _ _ _ _ setsInput keepsInput).mp first
        obtain ⟨output, isOutput, rfl⟩ :=
          (@readingEnabled_success _ _ _ _ _ _ setsOutput (keepsOutput input)).mp later
        exact ⟨input, output, isInput, isOutput, rfl⟩
      · rintro ⟨input, output, isInput, isOutput, rfl⟩
        exact andThen_success.mpr ⟨{ model with enablePinnedInput := input },
          (@readingEnabled_success _ _ _ _ _ _ setsInput keepsInput).mpr ⟨input, isInput, rfl⟩,
          (@readingEnabled_success _ _ _ _ _ _ setsOutput (keepsOutput input)).mpr
            ⟨output, isOutput, rfl⟩⟩

theorem readingEach_success {α : Type} {name : String} {read : Value → Except TritonError α}
    {step : BackendModel → Value → Outcome TritonError BackendModel}
    {take : BackendModel → α → BackendModel}
    (takes : ∀ state place after, step state place = (none, after) ↔
      ∃ value, read place = .ok value ∧ after = take state value) :
    (reading (TritonJson.memberAsArray config name) model fun array =>
        forObjects (some array) step model) = (none, last) ↔
      ∃ values, readEach config name read = .ok values ∧ last = values.foldl take model := by
  rw [reading_success]
  simp only [forObjects_success, forEach_taking takes, readEach_success]
  constructor
  · rintro ⟨array, isArray, objects, areObjects, values, areRead, taken⟩
    exact ⟨values, ⟨array, isArray, objects, areObjects, areRead⟩, taken⟩
  · rintro ⟨values, ⟨array, isArray, objects, areObjects, areRead⟩, taken⟩
    exact ⟨array, isArray, objects, areObjects, values, areRead, taken⟩

theorem foldl_takeBatchInput (batchInputs : List BatchInput) :
    batchInputs.foldl takeBatchInput model =
      { model with batchInputs := model.batchInputs ++ batchInputs } := by
  induction batchInputs generalizing model with
  | nil =>
      rw [List.foldl_nil, List.append_nil]
  | cons batchInput rest ih =>
      rw [List.foldl_cons, ih, takeBatchInput, List.append_assoc, List.singleton_append]

theorem parseBatchInputs_success :
    parseBatchInputs config model = (none, last) ↔
      ∃ batchInputs, readEach config "batch_input" readBatchInput = .ok batchInputs ∧
        last = { model with batchInputs } := by
  refine (@readingEach_success _ _ _ _ _ _ _ readBatchInput _ takeBatchInput
    fun _ _ _ => reading_taken).trans ?_
  simp only [foldl_takeBatchInput, List.nil_append]

theorem foldl_takeBatchOutput (batchOutputs : List ParsedBatchOutput) :
    batchOutputs.foldl (takeBatchOutput growth) model =
      { model with batchOutputs := model.batchOutputs.emplaceAll growth batchOutputs } := by
  induction batchOutputs generalizing model with
  | nil => rfl
  | cons batchOutput rest ih => exact ih

theorem parseBatchOutputs_success :
    parseBatchOutputs growth config model = (none, last) ↔
      ∃ batchOutputs, readEach config "batch_output" (readBatchOutput config) = .ok batchOutputs ∧
        last = { model with
          batchOutputs := model.batchOutputs.clear.emplaceAll growth batchOutputs } := by
  refine (@readingEach_success _ _ _ _ _ _ _ (readBatchOutput config) _
    (takeBatchOutput growth) fun _ _ _ => reading_taken).trans ?_
  simp only [foldl_takeBatchOutput]

theorem parseInput_success {allowOptional : Bool} {io : Value} :
    parseInput allowOptional model io = (none, last) ↔
      ∃ input, readInput allowOptional io = .ok input ∧ last = takeInput model input := by
  rw [parseInput, readInput]
  cases TritonJson.memberAsString io "name" with
  | error error => simp [reading, bind, Except.bind]
  | ok name =>
      cases readOptionalBool io "allow_ragged_batch" with
      | error error => simp [reading, bind, Except.bind]
      | ok allowRaggedBatch =>
          cases readOptionalBool io "optional" with
          | error error => simp [reading, bind, Except.bind]
          | ok optional =>
              have taken : (if allowRaggedBatch then
                  { model with raggedInputs := model.raggedInputs.insert name } else model) =
                  takeInput model { name, allowRaggedBatch, optional := false } := by
                rw [takeInput]
                cases allowRaggedBatch with
                | false => rfl
                | true => rfl
              simp only [reading, bind, Except.bind, taken]
              cases optional with
              | false => simp [eq_comm]
              | true =>
                  cases allowOptional with
                  | false => simp [invalidArg, errorNew]
                  | true => simp [takeInput, insertName, eq_comm (a := last)]

theorem parseInputs_success {allowOptional : Bool} :
    (reading (TritonJson.memberAsArray config "input") model fun configInputs =>
        forObjects (some configInputs) (parseInput allowOptional) model) = (none, last) ↔
      ∃ inputs, readEach config "input" (readInput allowOptional) = .ok inputs ∧
        last = inputs.foldl takeInput model :=
  readingEach_success fun _ _ _ => parseInput_success

/-- The steps of a parse that succeeds are the reads, and then the model is loaded. -/
theorem parseModelConfig_success :
    parseModelConfig growth model config = (none, last) ↔
      ∃ read, Reads model.allowOptional config read ∧ last = model.load growth read := by
  rw [parseModelConfig, reading_success]
  constructor
  · rintro ⟨mbs, isMbs, parsed⟩
    obtain ⟨_, first, parsed⟩ := andThen_success.mp parsed
    obtain ⟨input, output, isInput, isOutput, rfl⟩ := (parsePinned_success rfl rfl).mp first
    obtain ⟨_, second, parsed⟩ := andThen_success.mp parsed
    obtain ⟨batchInputs, areInputs, rfl⟩ := parseBatchInputs_success.mp second
    obtain ⟨_, third, parsed⟩ := andThen_success.mp parsed
    obtain ⟨batchOutputs, areOutputs, rfl⟩ := parseBatchOutputs_success.mp third
    obtain ⟨inputs, areRead, rfl⟩ := parseInputs_success.mp parsed
    exact ⟨⟨narrowInt32 mbs, input, output, batchInputs, batchOutputs, inputs⟩,
      ⟨⟨mbs, isMbs, rfl⟩, isInput, isOutput, areInputs, areOutputs, areRead⟩, rfl⟩
  · rintro ⟨read, ⟨⟨mbs, isMbs, narrowed⟩, isInput, isOutput, areInputs, areOutputs, areRead⟩, rfl⟩
    refine ⟨mbs, isMbs, ?_⟩
    refine andThen_success.mpr
      ⟨_, (parsePinned_success rfl rfl).mpr ⟨_, _, isInput, isOutput, rfl⟩, ?_⟩
    refine andThen_success.mpr ⟨_, parseBatchInputs_success.mpr ⟨_, areInputs, rfl⟩, ?_⟩
    refine andThen_success.mpr ⟨_, parseBatchOutputs_success.mpr ⟨_, areOutputs, rfl⟩, ?_⟩
    refine parseInputs_success.mpr ⟨_, areRead, ?_⟩
    rw [load, narrowed]

end

theorem mem_foldl_insertName {picks : ReadInput → Bool} {names : List String}
    {inputs : List ReadInput} {name : String} :
    name ∈ inputs.foldl (insertName picks) names ↔
      name ∈ names ∨ ∃ input ∈ inputs, picks input ∧ input.name = name := by
  induction inputs generalizing names with
  | nil => simp
  | cons input rest ih =>
      rw [List.foldl_cons, ih, insertName]
      by_cases picked : picks input
      · rw [if_pos picked, List.mem_insert_iff, List.exists_mem_cons_iff]
        simp only [picked, true_and, @eq_comm _ name, or_assoc, or_left_comm]
      · rw [if_neg picked, List.exists_mem_cons_iff]
        simp only [picked, Bool.false_eq_true, false_and, false_or]

theorem foldl_takeInput (model : BackendModel) (inputs : List ReadInput) :
    inputs.foldl takeInput model = { model with
      raggedInputs := inputs.foldl (insertName ReadInput.allowRaggedBatch) model.raggedInputs
      optionalInputs := inputs.foldl (insertName ReadInput.optional) model.optionalInputs } := by
  induction inputs generalizing model with
  | nil => rfl
  | cons input rest ih => exact ih _

def lists (name : String) (batchOutput : ParsedBatchOutput) : Bool :=
  batchOutput.targetNames.contains name

theorem foldl_emplaceOutput {map : String → Option Place} {place : Place} {names : List String}
    {name : String} :
    names.foldl (fun map name => emplaceOutput map place name) map name =
      (map name).or (if name ∈ names then some place else none) := by
  induction names generalizing map with
  | nil => simp
  | cons first rest ih =>
      rw [List.foldl_cons, ih, emplaceOutput]
      by_cases same : name = first
      · subst same
        cases entered : map name with
        | none => simp
        | some earlier => simp [entered]
      · cases (map first).isSome with
        | true => simp [same]
        | false => simp [same]

/-- An entry that is there stays; else a name is entered at the first output that lists it. -/
theorem mapOutputs_apply {block idx : Nat} {map : String → Option Place}
    {batchOutputs : List ParsedBatchOutput} {name : String} :
    mapOutputs block map idx batchOutputs name =
      (map name).or ((batchOutputs.findIdx? (lists name)).map fun found =>
        { block, idx := idx + found }) := by
  induction batchOutputs generalizing map idx with
  | nil => simp [mapOutputs]
  | cons batchOutput rest ih =>
      rw [mapOutputs, ih, foldl_emplaceOutput, List.findIdx?_cons, Option.or_assoc]
      congr 1
      by_cases listed : name ∈ batchOutput.targetNames
      · simp [listed, lists]
      · have unlisted : ¬ lists name batchOutput := by simp [lists, listed]
        rw [if_neg listed, if_neg unlisted, Option.none_or, Option.map_map]
        congr 1
        funext found
        rw [Function.comp_apply, Nat.add_assoc, Nat.add_comm 1]

/-- What the other components ask a model about its configuration. A pointer to a batch
output stands for the element it reads, if it reads one. -/
structure Derived where
  maxBatchSize : Int
  enablePinnedInput : Bool
  enablePinnedOutput : Bool
  batchInputs : List BatchInput
  batchOutputs : List ParsedBatchOutput
  findBatchOutput : String → Option (Option ParsedBatchOutput)
  isInputRagged : String → Bool
  isInputOptional : String → Bool

def derived (model : BackendModel) : Derived where
  maxBatchSize := model.maxBatchSize
  enablePinnedInput := model.enablePinnedInput
  enablePinnedOutput := model.enablePinnedOutput
  batchInputs := model.batchInputs
  batchOutputs := model.batchOutputs.elements
  findBatchOutput name := (model.findBatchOutput name).map model.batchOutputs.read
  isInputRagged := model.isInputRagged
  isInputOptional := model.isInputOptional

/-- No place is in a block that the storage of the batch outputs has yet to take. -/
def Placed (model : BackendModel) : Prop :=
  ∀ name place, model.findBatchOutput name = some place →
    place.block < model.batchOutputs.nextBlock

section
variable {growth : Growth} {model : BackendModel} {read : ModelConfigReading} {name : String}

theorem load_batchOutputs :
    (model.load growth read).batchOutputs =
      model.batchOutputs.clear.emplaceAll growth read.batchOutputs := by
  rw [load, foldl_takeInput]

theorem load_elements : (model.load growth read).batchOutputs.elements = read.batchOutputs := by
  rw [load_batchOutputs, emplaceAll_elements]
  rfl

theorem load_findBatchOutput :
    (model.load growth read).findBatchOutput name = (model.findBatchOutput name).or
      ((read.batchOutputs.findIdx? (lists name)).map fun idx =>
        { block := (model.load growth read).batchOutputs.block, idx }) := by
  rw [load_batchOutputs, findBatchOutput, load, foldl_takeInput]
  simp only [mapOutputs_apply, emplaceAll_elements, Nat.zero_add]
  rfl

theorem load_isInputRagged :
    (model.load growth read).isInputRagged name ↔
      model.isInputRagged name ∨
        ∃ input ∈ read.inputs, input.allowRaggedBatch ∧ input.name = name := by
  rw [isInputRagged, isInputRagged, List.contains_iff_mem, List.contains_iff_mem, load,
    foldl_takeInput]
  exact mem_foldl_insertName

theorem load_isInputOptional :
    (model.load growth read).isInputOptional name ↔
      model.isInputOptional name ∨
        ∃ input ∈ read.inputs, input.optional ∧ input.name = name := by
  rw [isInputOptional, isInputOptional, List.contains_iff_mem, List.contains_iff_mem, load,
    foldl_takeInput]
  exact mem_foldl_insertName

theorem load_nextBlock :
    model.batchOutputs.nextBlock ≤ (model.load growth read).batchOutputs.nextBlock := by
  rw [load_batchOutputs]
  exact emplaceAll_nextBlock growth model.batchOutputs.clear read.batchOutputs

theorem Placed.load (placed : model.Placed) : (model.load growth read).Placed := by
  intro name place found
  rw [load_findBatchOutput, Option.or_eq_some_iff] at found
  rcases found with kept | ⟨_, entered⟩
  · exact Nat.lt_of_lt_of_le (placed name place kept) load_nextBlock
  · obtain ⟨idx, _, rfl⟩ := Option.map_eq_some_iff.mp entered
    exact (model.load growth read).batchOutputs.allocated

theorem findIdx?_lists {batchOutputs : List ParsedBatchOutput} :
    (batchOutputs.findIdx? (lists name)).map (fun idx => batchOutputs[idx]?) =
      (batchOutputs.find? (lists name)).map some := by
  induction batchOutputs with
  | nil => rfl
  | cons batchOutput rest ih =>
      rw [List.findIdx?_cons, List.find?_cons]
      cases lists name batchOutput with
      | true => rfl
      | false => simpa [Function.comp_def] using ih

theorem load_derived_findBatchOutput :
    (model.load growth read).derived.findBatchOutput name =
      ((model.findBatchOutput name).map (model.load growth read).batchOutputs.read).or
        ((read.batchOutputs.find? (lists name)).map some) := by
  have reads (idx : Nat) : (model.load growth read).batchOutputs.read
      { block := (model.load growth read).batchOutputs.block, idx } = read.batchOutputs[idx]? := by
    rw [Buffer.read, if_pos rfl, load_elements]
  rw [derived]
  simp only [load_findBatchOutput, Option.map_or, Option.map_map, Function.comp_def, reads,
    findIdx?_lists]

/-- The entries of a model that a parse leaves in place are those the configuration would
make: its ragged and optional inputs are listed again, and so are the names of its batch
outputs, each first in the element that stands where its place points, in storage that is
large enough to stay. -/
structure Covers (read : ModelConfigReading) (model : BackendModel) : Prop where
  ragged : ∀ name, model.isInputRagged name →
    ∃ input ∈ read.inputs, input.allowRaggedBatch ∧ input.name = name
  optional : ∀ name, model.isInputOptional name →
    ∃ input ∈ read.inputs, input.optional ∧ input.name = name
  found : ∀ name place, model.findBatchOutput name = some place →
    place.block = model.batchOutputs.block ∧
    read.batchOutputs.length ≤ model.batchOutputs.capacity ∧
    ∃ batchOutput, read.batchOutputs.find? (lists name) = some batchOutput ∧
      read.batchOutputs[place.idx]? = some batchOutput

theorem load_read {place : Place} (placed : place.block < model.batchOutputs.nextBlock)
    (batchOutput : ParsedBatchOutput) :
    (model.load growth read).batchOutputs.read place = some batchOutput ↔
      place.block = model.batchOutputs.block ∧
        read.batchOutputs.length ≤ model.batchOutputs.capacity ∧
        read.batchOutputs[place.idx]? = some batchOutput := by
  rw [load_batchOutputs]
  exact read_emplaceAll growth model.batchOutputs read.batchOutputs placed batchOutput

/-- A name set to which a parse adds is that of a fresh model if it lists the old names. -/
theorem added_iff {before loaded alone : Bool} {listed : Prop} (now : loaded ↔ before ∨ listed)
    (fresh : alone ↔ listed) : loaded = alone ↔ (before → listed) := by
  rw [Bool.eq_iff_iff, now, fresh]
  constructor
  · intro same earlier
    exact same.mp (.inl earlier)
  · intro again
    exact ⟨fun either => either.elim again id, .inr⟩

theorem sameRagged_iff {allowOptional : Bool} :
    (model.load growth read).isInputRagged name =
        ((create allowOptional).load growth read).isInputRagged name ↔
      (model.isInputRagged name →
        ∃ input ∈ read.inputs, input.allowRaggedBatch ∧ input.name = name) :=
  added_iff load_isInputRagged (by rw [load_isInputRagged]; simp [isInputRagged, create])

theorem sameOptional_iff {allowOptional : Bool} :
    (model.load growth read).isInputOptional name =
        ((create allowOptional).load growth read).isInputOptional name ↔
      (model.isInputOptional name →
        ∃ input ∈ read.inputs, input.optional ∧ input.name = name) :=
  added_iff load_isInputOptional (by rw [load_isInputOptional]; simp [isInputOptional, create])

theorem sameFound_iff {allowOptional : Bool} (placed : model.Placed) :
    (model.load growth read).derived.findBatchOutput name =
        ((create allowOptional).load growth read).derived.findBatchOutput name ↔
      ∀ place, model.findBatchOutput name = some place →
        place.block = model.batchOutputs.block ∧
        read.batchOutputs.length ≤ model.batchOutputs.capacity ∧
        ∃ batchOutput, read.batchOutputs.find? (lists name) = some batchOutput ∧
          read.batchOutputs[place.idx]? = some batchOutput := by
  have fresh : (create allowOptional).findBatchOutput name = none := rfl
  rw [load_derived_findBatchOutput, load_derived_findBatchOutput, fresh, Option.map_none,
    Option.none_or]
  cases earlier : model.findBatchOutput name with
  | none => simp
  | some place =>
      rw [Option.map_some, Option.some_or]
      constructor
      · rintro same _ itself
        cases itself
        obtain ⟨batchOutput, first, reads⟩ := Option.map_eq_some_iff.mp same.symm
        obtain ⟨stays, fits, stands⟩ :=
          (load_read (placed name place earlier) batchOutput).mp reads.symm
        exact ⟨stays, fits, batchOutput, first, stands⟩
      · intro covered
        obtain ⟨stays, fits, batchOutput, first, stands⟩ := covered place rfl
        rw [first, Option.map_some,
          (load_read (placed name place earlier) batchOutput).mpr ⟨stays, fits, stands⟩]

theorem derived_load_iff {allowOptional : Bool} (placed : model.Placed) :
    (model.load growth read).derived = ((create allowOptional).load growth read).derived ↔
      Covers read model := by
  constructor
  · intro same
    exact {
      ragged := fun name => sameRagged_iff.mp (congrFun (congrArg Derived.isInputRagged same) name)
      optional := fun name =>
        sameOptional_iff.mp (congrFun (congrArg Derived.isInputOptional same) name)
      found := fun name =>
        (sameFound_iff placed).mp (congrFun (congrArg Derived.findBatchOutput same) name) }
  · intro covers
    have sameFound := funext fun name =>
      (@sameFound_iff growth _ _ _ allowOptional placed).mpr (covers.found name)
    have sameRagged := funext fun name =>
      (@sameRagged_iff growth _ _ _ allowOptional).mpr (covers.ragged name)
    have sameOptional := funext fun name =>
      (@sameOptional_iff growth _ _ _ allowOptional).mpr (covers.optional name)
    rw [derived, derived, load_elements, load_elements, Derived.mk.injEq]
    refine ⟨?_, ?_, ?_, ?_, rfl, sameFound, sameRagged, sameOptional⟩
    all_goals rw [load, load, foldl_takeInput, foldl_takeInput]

theorem Covers.load_reads (covers : Covers read model) (placed : model.Placed) {place : Place}
    (found : (model.load growth read).findBatchOutput name = some place) :
    ((model.load growth read).batchOutputs.read place).isSome := by
  rw [load_findBatchOutput, Option.or_eq_some_iff] at found
  rcases found with kept | ⟨_, entered⟩
  · obtain ⟨stays, fits, batchOutput, _, stands⟩ := covers.found name place kept
    rw [(load_read (placed name place kept) batchOutput).mpr ⟨stays, fits, stands⟩]
    rfl
  · obtain ⟨idx, isIdx, rfl⟩ := Option.map_eq_some_iff.mp entered
    obtain ⟨bound, _⟩ := List.findIdx?_eq_some_iff_getElem.mp isIdx
    rw [Buffer.read, if_pos rfl, load_elements, List.getElem?_eq_getElem bound]
    rfl

end

section
variable {Value : Type} [TritonJson Value] (growth : Growth) (allowOptional : Bool)
  (configs : List Value)

/-- After the last parse the model is as if it had parsed the last configuration alone. -/
def DerivedFromLast : Prop :=
  ∀ earlier last, configs = earlier ++ [last] →
    ∀ after, parseAll growth allowOptional configs = (none, after) →
      ∃ alone, parseModelConfig growth (create allowOptional) last = (none, alone) ∧
        after.derived = alone.derived ∧
        ∀ name place, after.findBatchOutput name = some place →
          (after.batchOutputs.read place).isSome

/-- The last configuration covers the entries that the earlier ones left behind. -/
def LastCovers : Prop :=
  ∀ earlier last, configs = earlier ++ [last] →
    ∀ model, parseAll growth allowOptional earlier = (none, model) →
      ∀ read, Reads allowOptional last read → Covers read model

variable {growth allowOptional configs}

theorem parseAll_placed {model : BackendModel}
    (parsed : parseAll growth allowOptional configs = (none, model)) :
    model.allowOptional = allowOptional ∧ model.Placed := by
  refine @forEach_keeps _ _ _ _ (fun model => model.allowOptional = allowOptional ∧ model.Placed)
    ?_ _ _ _ ⟨rfl, fun _ _ impossible => ?_⟩ parsed
  · rintro model config last ⟨allows, placed⟩ step
    obtain ⟨read, _, rfl⟩ := parseModelConfig_success.mp step
    refine ⟨?_, placed.load⟩
    rw [load, foldl_takeInput]
    exact allows
  · simp [findBatchOutput, create] at impossible

theorem derivedFromLast_iff :
    DerivedFromLast growth allowOptional configs ↔ LastCovers growth allowOptional configs := by
  constructor
  · rintro fromLast earlier last rfl model parsed read reads
    obtain ⟨allows, placed⟩ := parseAll_placed parsed
    have step : parseModelConfig growth model last = (none, model.load growth read) :=
      parseModelConfig_success.mpr ⟨read, allows.symm ▸ reads, rfl⟩
    have whole : parseAll growth allowOptional (earlier ++ [last]) =
        (none, model.load growth read) :=
      forEach_append_success.mpr ⟨model, parsed, forEach_cons_success.mpr ⟨_, step, rfl⟩⟩
    obtain ⟨alone, isAlone, same, _⟩ := fromLast earlier last rfl _ whole
    obtain ⟨again, readAgain, rfl⟩ := parseModelConfig_success.mp isAlone
    rw [readAgain.unique reads] at same
    exact (derived_load_iff placed).mp same
  · rintro covers earlier last rfl after parsed
    obtain ⟨model, before, step⟩ := forEach_append_success.mp parsed
    obtain ⟨_, step, ended⟩ := forEach_cons_success.mp step
    cases ended
    obtain ⟨allows, placed⟩ := parseAll_placed before
    obtain ⟨read, reads, rfl⟩ := parseModelConfig_success.mp step
    rw [allows] at reads
    have covered := covers earlier last rfl model before read reads
    exact ⟨_, parseModelConfig_success.mpr ⟨read, reads, rfl⟩, (derived_load_iff placed).mpr covered,
      fun name place => covered.load_reads placed⟩

end

def doubling : Growth where
  next capacity := max 1 (2 * capacity)
  grows capacity := by omega

def tokensConfig (batchOutputs : List JsonTree) : JsonTree := .object [
  ("max_batch_size", .int 8),
  ("batch_input", .array []),
  ("batch_output", .array batchOutputs),
  ("input", .array [.object [("name", .string "tokens"), ("dims", .array [.int (-1)])]]),
  ("output", .array [.object [
    ("name", .string "scores"), ("data_type", .string "TYPE_FP32"), ("dims", .array [.int 4])]])]

def scatterScores : JsonTree := .object [
  ("target_name", .array [.string "scores"]),
  ("kind", .string "BATCH_SCATTER_WITH_INPUT_SHAPE"),
  ("source_input", .array [.string "tokens"])]

theorem not_derivedFromLast :
    ¬ DerivedFromLast doubling false [tokensConfig [scatterScores], tokensConfig []] := by
  intro fromLast
  have succeeds : (parseAll doubling false
      [tokensConfig [scatterScores], tokensConfig []]).1 = none := by decide +kernel
  obtain ⟨alone, isAlone, same, _⟩ := fromLast [tokensConfig [scatterScores]] (tokensConfig []) rfl
    _ (Prod.ext succeeds rfl)
  have isAlone : (parseModelConfig doubling (create false) (tokensConfig [])).2 = alone := by
    rw [isAlone]
  subst isAlone
  have sameFound := congrFun (congrArg Derived.findBatchOutput same) "scores"
  revert sameFound
  decide +kernel

end BackendModel

end TritonBackend
