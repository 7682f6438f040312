import TritonBackend.SequenceCore
import Mathlib.Data.List.Nodup

/-!
What two calls for different kinds of control return. A name is refused when two entries
carry it; when one entry lists both kinds, both calls return its name.
-/

namespace TritonBackend

open Fallible

/-- An entry of `control_input`, with the kind and the object of each of its controls. -/
structure ControlEntry (Value : Type) where
  name : String
  controls : List (String × Value)

section
variable {Value Out : Type} {query : ControlQuery}
  {onControl : String → Value → Out → Outcome TritonError Out}

def ControlEntry.mentions (kind : String) (entry : ControlEntry Value) : List (String × Value) :=
  (entry.controls.filter fun control => control.1 = kind).map fun control =>
    (entry.name, control.2)

def mentions (kind : String) (entries : List (ControlEntry Value)) : List (String × Value) :=
  entries.flatMap (ControlEntry.mentions kind)

structure NamesStand (entries : List (ControlEntry Value)) : Prop where
  nonempty : ∀ entry ∈ entries, entry.name ≠ ""
  nodup : (entries.map ControlEntry.name).Nodup

def ControlScan.found (scan : ControlScan Out) : Bool × Out := (scan.seenControl, scan.out)

theorem namesStand_nil : NamesStand ([] : List (ControlEntry Value)) := ⟨by simp, by simp⟩

theorem namesStand_cons {entry : ControlEntry Value} {rest : List (ControlEntry Value)} :
    NamesStand (entry :: rest) ↔ entry.name ≠ "" ∧
      (∀ other ∈ rest, other.name ≠ entry.name) ∧ NamesStand rest := by
  constructor
  · rintro ⟨nonempty, nodup⟩
    rw [List.map_cons, List.nodup_cons] at nodup
    refine ⟨nonempty entry List.mem_cons_self, ?_, ?_, nodup.2⟩
    · intro other member same
      exact nodup.1 (List.mem_map.mpr ⟨other, member, same⟩)
    · exact fun other member => nonempty other (List.mem_cons_of_mem _ member)
  · rintro ⟨named, apart, nonempty, nodup⟩
    refine ⟨?_, ?_⟩
    · intro other member
      rcases List.mem_cons.mp member with rfl | later
      · exact named
      · exact nonempty other later
    · rw [List.map_cons, List.nodup_cons]
      refine ⟨?_, nodup⟩
      intro present
      obtain ⟨other, member, same⟩ := List.mem_map.mp present
      exact apart other member same

/-- Nothing is listed, or one control and none was found before it. -/
def Finds (onControl : String → Value → Out → Outcome TritonError Out)
    (listed : List (String × Value)) (before after : Bool × Out) : Prop :=
  (listed = [] ∧ after = before) ∨
    ∃ name c, listed = [(name, c)] ∧ before.1 = false ∧ after.1 = true ∧
      onControl name c before.2 = (none, after.2)

theorem finds_nil {before after : Bool × Out} :
    Finds onControl [] before after ↔ after = before := by simp [Finds]

theorem finds_single {name : String} {c : Value} {before after : Bool × Out} :
    Finds onControl [(name, c)] before after ↔
      before.1 = false ∧ after.1 = true ∧ onControl name c before.2 = (none, after.2) := by
  simp only [Finds, List.cons_ne_nil, false_and, false_or, List.cons.injEq, and_true,
    Prod.mk.injEq]
  constructor
  · rintro ⟨_, _, ⟨rfl, rfl⟩, found⟩
    exact found
  · exact fun found => ⟨name, c, ⟨rfl, rfl⟩, found⟩

theorem finds_append {first second : List (String × Value)} {before after : Bool × Out} :
    Finds onControl (first ++ second) before after ↔
      ∃ middle, Finds onControl first before middle ∧ Finds onControl second middle after := by
  constructor
  · rintro (⟨none, same⟩ | ⟨name, c, one, found⟩)
    · obtain ⟨rfl, rfl⟩ := List.append_eq_nil_iff.mp none
      exact ⟨before, .inl ⟨rfl, rfl⟩, .inl ⟨rfl, same⟩⟩
    · rcases List.append_eq_singleton_iff.mp one with ⟨rfl, rfl⟩ | ⟨rfl, rfl⟩
      · exact ⟨before, .inl ⟨rfl, rfl⟩, .inr ⟨name, c, rfl, found⟩⟩
      · exact ⟨after, .inr ⟨name, c, rfl, found⟩, .inl ⟨rfl, rfl⟩⟩
  · rintro ⟨middle, ⟨rfl, rfl⟩ | ⟨name, c, rfl, fresh, seen, called⟩, later⟩
    · exact later
    · rcases later with ⟨rfl, rfl⟩ | ⟨_, _, _, unseen, _⟩
      · exact .inr ⟨name, c, rfl, fresh, seen, called⟩
      · rw [seen] at unseen
        contradiction

theorem scan_same {scan last : ControlScan Out} :
    ((none, scan) : Outcome TritonError (ControlScan Out)) = (none, last) ↔
      last.seenTensors = scan.seenTensors ∧ last.found = scan.found := by
  obtain ⟨seenTensors, seenControl, out⟩ := scan
  obtain ⟨lastTensors, lastControl, lastOut⟩ := last
  simp only [ControlScan.found, Prod.mk.injEq, ControlScan.mk.injEq, true_and]
  constructor
  · rintro ⟨tensors, seen, same⟩
    exact ⟨tensors.symm, seen.symm, same.symm⟩
  · rintro ⟨tensors, seen, same⟩
    exact ⟨tensors.symm, seen.symm, same.symm⟩

theorem matchControl_success {name : String} {scan last : ControlScan Out}
    {control : String × Value} :
    matchControl query onControl name scan control = (none, last) ↔
      last.seenTensors = scan.seenTensors ∧
        Finds onControl (ControlEntry.mentions query.controlKind { name, controls := [control] })
          scan.found last.found := by
  by_cases kind : control.1 = query.controlKind
  · have listed : ControlEntry.mentions query.controlKind { name, controls := [control] } =
        [(name, control.2)] := by simp [ControlEntry.mentions, kind]
    rw [listed, finds_single]
    obtain ⟨seenTensors, seenControl, out⟩ := scan
    obtain ⟨lastTensors, lastControl, lastOut⟩ := last
    cases seenControl with
    | true => simp [matchControl, ControlScan.found, kind, errorNew]
    | false =>
        simp only [matchControl, ControlScan.found, kind, ne_eq, not_true_eq_false, if_false,
          Bool.false_eq_true, ControlScan.mk.injEq, Prod.ext_iff, true_and]
        constructor
        · rintro ⟨success, tensors, seen, same⟩
          exact ⟨tensors.symm, seen.symm, success, same⟩
        · rintro ⟨tensors, seen, success, same⟩
          exact ⟨success, tensors.symm, seen.symm, same⟩
  · have listed : ControlEntry.mentions query.controlKind { name, controls := [control] } =
        [] := by simp [ControlEntry.mentions, kind]
    rw [listed, finds_nil, matchControl, if_pos kind]
    exact scan_same

theorem matchControls_success {name : String} {controls : List (String × Value)}
    {scan last : ControlScan Out} :
    forEach (matchControl query onControl name) scan controls = (none, last) ↔
      last.seenTensors = scan.seenTensors ∧
        Finds onControl (ControlEntry.mentions query.controlKind { name, controls }) scan.found
          last.found := by
  induction controls generalizing scan with
  | nil =>
      have listed : ControlEntry.mentions query.controlKind
          ({ name, controls := [] } : ControlEntry Value) = [] := rfl
      rw [listed, finds_nil]
      exact scan_same
  | cons control rest ih =>
      have split : ControlEntry.mentions query.controlKind { name, controls := control :: rest } =
          ControlEntry.mentions query.controlKind { name, controls := [control] } ++
            ControlEntry.mentions query.controlKind { name, controls := rest } := by
        simp only [ControlEntry.mentions, ← List.map_append, ← List.filter_append,
          List.singleton_append]
      rw [forEach_cons_success, split, finds_append]
      constructor
      · rintro ⟨middle, first, later⟩
        obtain ⟨kept, found⟩ := matchControl_success.mp first
        obtain ⟨still, after⟩ := ih.mp later
        exact ⟨still.trans kept, middle.found, found, after⟩
      · rintro ⟨kept, ⟨seen, out⟩, found, after⟩
        exact ⟨{ seenTensors := scan.seenTensors, seenControl := seen, out },
          matchControl_success.mpr ⟨rfl, found⟩, ih.mpr ⟨kept, after⟩⟩

def matchEntry (query : ControlQuery)
    (onControl : String → Value → Out → Outcome TritonError Out) (scan : ControlScan Out)
    (entry : ControlEntry Value) : Outcome TritonError (ControlScan Out) :=
  enterTensor query scan entry.name fun scan =>
    forEach (matchControl query onControl entry.name) scan entry.controls

theorem enterTensor_success {scan last : ControlScan Out} {name : String}
    {next : ControlScan Out → Outcome TritonError (ControlScan Out)} :
    enterTensor query scan name next = (none, last) ↔
      name ≠ "" ∧ name ∉ scan.seenTensors ∧
        next { scan with seenTensors := name :: scan.seenTensors } = (none, last) := by
  rw [enterTensor]
  split
  · simp [errorNew, *]
  · split
    · simp [errorNew, *]
    · simp [*]

theorem matchEntries_success {entries : List (ControlEntry Value)} {scan last : ControlScan Out} :
    forEach (matchEntry query onControl) scan entries = (none, last) ↔
      NamesStand entries ∧ (∀ entry ∈ entries, entry.name ∉ scan.seenTensors) ∧
        last.seenTensors = (entries.map ControlEntry.name).reverse ++ scan.seenTensors ∧
        Finds onControl (mentions query.controlKind entries) scan.found last.found := by
  induction entries generalizing scan with
  | nil =>
      have listed : mentions query.controlKind ([] : List (ControlEntry Value)) = [] := rfl
      rw [listed, finds_nil, forEach, scan_same]
      simp [namesStand_nil]
  | cons entry rest ih =>
      have split : mentions query.controlKind (entry :: rest) =
          entry.mentions query.controlKind ++ mentions query.controlKind rest := rfl
      rw [forEach_cons_success, split, finds_append, namesStand_cons]
      simp only [matchEntry, enterTensor_success, matchControls_success]
      constructor
      · rintro ⟨middle, ⟨named, fresh, kept, found⟩, later⟩
        obtain ⟨stand, apart, seen, after⟩ := ih.mp later
        rw [kept] at apart seen
        refine ⟨⟨named, ?_, stand⟩, ?_, ?_, middle.found, found, after⟩
        · intro other member same
          exact apart other member (by rw [same]; exact List.mem_cons_self)
        · intro other member
          rcases List.mem_cons.mp member with rfl | later
          · exact fresh
          · exact fun earlier => apart other later (List.mem_cons_of_mem _ earlier)
        · rw [seen, List.map_cons, List.reverse_cons, List.append_assoc, List.singleton_append]
      · rintro ⟨⟨named, once, stand⟩, apart, seen, ⟨control, out⟩, found, after⟩
        refine ⟨{ seenTensors := entry.name :: scan.seenTensors, seenControl := control, out },
          ⟨named, apart entry List.mem_cons_self, rfl, found⟩, ih.mpr ⟨stand, ?_, ?_, after⟩⟩
        · intro other member earlier
          rcases List.mem_cons.mp earlier with same | earlier
          · exact once other member same
          · exact apart other (List.mem_cons_of_mem _ member) earlier
        · rw [seen, List.map_cons, List.reverse_cons, List.append_assoc, List.singleton_append]

end

/-! Reading the entries. -/

section
variable {Value : Type} [TritonJson Value] {Out : Type} {query : ControlQuery}
  {onControl : String → Value → Out → Outcome TritonError Out}

def readControl (c : Value) : Except TritonError (String × Value) :=
  (TritonJson.memberAsString c "kind").map fun kind => (kind, c)

def readEntry (controlInput : Value) : Except TritonError (ControlEntry Value) :=
  (TritonJson.memberAsString controlInput "name").bind fun name =>
    (readObjects (TritonJson.find controlInput "control")).bind fun objects =>
      (readAll readControl objects).map fun controls => { name, controls }

/-- The entries of `control_input`, when every one of them can be read to its end. -/
def readEntries (batcher : Value) : Except TritonError (List (ControlEntry Value)) :=
  (readObjects (TritonJson.find batcher "control_input")).bind fun objects =>
    readAll readEntry objects

theorem scanControl_success {name : String} {scan last : ControlScan Out} {c : Value} :
    scanControl query onControl name scan c = (none, last) ↔
      ∃ control, readControl c = .ok control ∧
        matchControl query onControl name scan control = (none, last) := by
  rw [scanControl, reading_success, readControl]
  cases TritonJson.memberAsString c "kind" with
  | error error => simp [Except.map]
  | ok kind => simp [Except.map]

theorem scanControlInput_success {scan last : ControlScan Out} {controlInput : Value} :
    scanControlInput query onControl scan controlInput = (none, last) ↔
      ∃ entry, readEntry controlInput = .ok entry ∧
        matchEntry query onControl scan entry = (none, last) := by
  rw [scanControlInput, reading_success]
  simp only [enterTensor_success, matchEntry, forObjects_success]
  constructor
  · rintro ⟨name, read, named, fresh, objects, listed, scanned⟩
    obtain ⟨controls, all, matched⟩ :=
      (forEach_reading fun _ _ _ => scanControl_success).mp scanned
    exact ⟨{ name, controls }, by simp [readEntry, read, listed, all, Except.bind, Except.map],
      named, fresh, matched⟩
  · rintro ⟨entry, read, named, fresh, matched⟩
    rw [readEntry] at read
    cases name : TritonJson.memberAsString controlInput "name" with
    | error error => simp [name, Except.bind] at read
    | ok inputName =>
        cases listed : readObjects (TritonJson.find controlInput "control") with
        | error error => simp [name, listed, Except.bind] at read
        | ok objects =>
            cases all : readAll readControl objects with
            | error error => simp [name, listed, all, Except.bind, Except.map] at read
            | ok controls =>
                simp only [name, listed, all, Except.bind, Except.map, Except.ok.injEq] at read
                subst read
                exact ⟨inputName, rfl, named, fresh, objects, rfl,
                  (forEach_reading fun _ _ _ => scanControl_success).mpr ⟨controls, all, matched⟩⟩

/-- The scan of a batcher succeeds on entries whose names can stand and that give the
kind at most once. -/
theorem scan_success {batcher : Value} {scan last : ControlScan Out} :
    forObjects (TritonJson.find batcher "control_input") (scanControlInput query onControl) scan =
        (none, last) ↔
      ∃ entries, readEntries batcher = .ok entries ∧
        forEach (matchEntry query onControl) scan entries = (none, last) := by
  rw [forObjects_success, readEntries]
  cases readObjects (TritonJson.find batcher "control_input") with
  | error error => simp [Except.bind]
  | ok objects =>
      simp only [Except.ok.injEq, exists_eq_left', Except.bind]
      exact forEach_reading fun _ _ _ => scanControlInput_success

/-- One control of the kind asked for is listed, under this name. -/
def Lists (kind name : String) (batcher c : Value) : Prop :=
  ∃ entries, readEntries batcher = .ok entries ∧ NamesStand entries ∧
    mentions kind entries = [(name, c)]

/-- The scan succeeds on names that can stand, when the kind asked for is listed once and its
control is accepted, or not at all and need not be. -/
theorem properties_success {clear : Out → Out} {batcher : Value} {out last : Out} :
    getSequenceControlProperties query onControl clear batcher out = (none, last) ↔
      ∃ entries, readEntries batcher = .ok entries ∧ NamesStand entries ∧
        ((mentions query.controlKind entries = [] ∧ query.required = false ∧ last = clear out) ∨
          ∃ name c, mentions query.controlKind entries = [(name, c)] ∧
            onControl name c out = (none, last)) := by
  rw [getSequenceControlProperties]
  generalize scanned : forObjects (TritonJson.find batcher "control_input")
    (scanControlInput query onControl) { seenTensors := [], seenControl := false, out } = result
  obtain ⟨error, scan⟩ := result
  constructor
  · intro success
    cases error with
    | some error => simp at success
    | none =>
        obtain ⟨entries, read, matched⟩ := scan_success.mp scanned
        obtain ⟨stand, _, _, finds⟩ := matchEntries_success.mp matched
        refine ⟨entries, read, stand, ?_⟩
        rcases finds with ⟨unlisted, same⟩ | ⟨name, c, listed, _, seen, called⟩
        · have unseen : scan.seenControl = false := congrArg Prod.fst same
          have kept : scan.out = out := congrArg Prod.snd same
          simp only [unseen, Bool.false_eq_true, if_false, kept] at success
          split at success
          · simp [errorNew] at success
          · next optional =>
              exact .inl ⟨unlisted, Bool.eq_false_iff.mpr optional, (Prod.mk.inj success).2.symm⟩
        · have seen : scan.seenControl = true := seen
          simp only [seen, if_true] at success
          rw [← (Prod.mk.inj success).2]
          exact .inr ⟨name, c, listed, called⟩
  · rintro ⟨entries, read, stand, finds⟩
    -- the state that the scan must end in is written down, and then found by `scan_success`
    let done (seenControl : Bool) (out : Out) : ControlScan Out := {
      seenTensors := (entries.map ControlEntry.name).reverse ++ []
      seenControl, out }
    rcases finds with ⟨unlisted, optional, rfl⟩ | ⟨name, c, listed, called⟩
    · have matched : forEach (matchEntry query onControl)
          { seenTensors := [], seenControl := false, out } entries = (none, done false out) :=
        matchEntries_success.mpr ⟨stand, fun _ _ => List.not_mem_nil, rfl, .inl ⟨unlisted, rfl⟩⟩
      rw [scan_success.mpr ⟨entries, read, matched⟩] at scanned
      obtain ⟨rfl, rfl⟩ := Prod.mk.inj scanned
      simp [done, optional]
    · have matched : forEach (matchEntry query onControl)
          { seenTensors := [], seenControl := false, out } entries = (none, done true last) :=
        matchEntries_success.mpr ⟨stand, fun _ _ => List.not_mem_nil, rfl,
          .inr ⟨name, c, listed, rfl, rfl, called⟩⟩
      rw [scan_success.mpr ⟨entries, read, matched⟩] at scanned
      obtain ⟨rfl, rfl⟩ := Prod.mk.inj scanned
      rfl

/-- The tensor returned is the one that lists the control, when its values are accepted. -/
theorem named_iff {tensorName : Out → String} {clear : Out → Out} {batcher : Value} {out : Out}
    {name : String} (names : ∀ name c out last, onControl name c out = (none, last) →
      tensorName last = name)
    (clears : ∀ out, tensorName (clear out) = "") (nonempty : name ≠ "") :
    ((getSequenceControlProperties query onControl clear batcher out).1 = none ∧
        tensorName (getSequenceControlProperties query onControl clear batcher out).2 = name) ↔
      ∃ c, Lists query.controlKind name batcher c ∧ (onControl name c out).1 = none := by
  constructor
  · rintro ⟨success, named⟩
    have result : getSequenceControlProperties query onControl clear batcher out =
        (none, (getSequenceControlProperties query onControl clear batcher out).2) :=
      Prod.ext success rfl
    obtain ⟨entries, read, stand, finds⟩ := properties_success.mp result
    rcases finds with ⟨_, _, cleared⟩ | ⟨found, c, listed, called⟩
    · rw [cleared, clears] at named
      exact absurd named.symm nonempty
    · have same : found = name := (names _ _ _ _ called).symm.trans named
      subst same
      exact ⟨c, ⟨entries, read, stand, listed⟩, congrArg Prod.fst called⟩
  · rintro ⟨c, ⟨entries, read, stand, listed⟩, accepted⟩
    have called : onControl name c out = (none, (onControl name c out).2) := Prod.ext accepted rfl
    rw [properties_success.mpr ⟨entries, read, stand, .inr ⟨name, c, listed, called⟩⟩]
    exact ⟨rfl, names _ _ _ _ called⟩

theorem putElement_names {α β : Type} {element : Except TritonError α} {convert : α → β}
    {pointer : Option β} {store : Option β → BooleanControl} {out last : BooleanControl}
    (success : putElement element convert pointer store out = (none, last))
    (keeps : ∀ value, (store value).tensorName = out.tensorName) :
    last.tensorName = out.tensorName := by
  cases pointer with
  | none => rw [← (Prod.mk.inj success).2]
  | some old =>
      obtain ⟨value, _, stored⟩ := reading_success.mp success
      rw [← (Prod.mk.inj stored).2]
      exact keeps _

theorem putFalseTrue_names {key datatype : String} {array : Value}
    {putFalse putTrue : BooleanControl → Outcome TritonError BooleanControl}
    {out last : BooleanControl}
    (keepsFalse : ∀ out last, putFalse out = (none, last) → last.tensorName = out.tensorName)
    (keepsTrue : ∀ out last, putTrue out = (none, last) → last.tensorName = out.tensorName)
    (success : putFalseTrue query key datatype array putFalse putTrue out = (none, last)) :
    last.tensorName = out.tensorName := by
  rw [putFalseTrue] at success
  split at success
  · simp [errorNew] at success
  · obtain ⟨middle, first, second⟩ := andThen_success.mp success
    rw [keepsTrue _ _ second, keepsFalse _ _ first]
    rfl

theorem setBooleanControl_names {name : String} {c : Value} {out last : BooleanControl}
    (success : setBooleanControl query name c out = (none, last)) : last.tensorName = name := by
  rw [setBooleanControl] at success
  split at success
  · simp [errorNew] at success
  · rw [putInt32] at success
    refine putFalseTrue_names ?_ ?_ success
    · exact fun _ _ put => putElement_names put fun _ => rfl
    · exact fun _ _ put => putElement_names put fun _ => rfl
  · rw [putFp32] at success
    refine putFalseTrue_names ?_ ?_ success
    · exact fun _ _ put => putElement_names put fun _ => rfl
    · exact fun _ _ put => putElement_names put fun _ => rfl
  · rw [putBool] at success
    refine putFalseTrue_names ?_ ?_ success
    · exact fun _ _ put => putElement_names put fun _ => rfl
    · exact fun _ _ put => putElement_names put fun _ => rfl
  · simp [errorNew] at success

theorem setTypedControl_names {name : String} {c : Value} {out last : TypedControl}
    (success : setTypedControl query name c out = (none, last)) : last.tensorName = name := by
  rw [setTypedControl, andThen_success] at success
  obtain ⟨typed, read, checked⟩ := success
  have same : last = typed := by
    split at checked
    · simp [errorNew] at checked
    · exact (Prod.mk.inj checked).2.symm
  rw [same]
  split at read
  · rw [← (Prod.mk.inj read).2]
  · obtain ⟨datatype, _, stored⟩ := reading_success.mp read
    rw [← (Prod.mk.inj stored).2]

end

/-! Pairs of calls. -/

/-- A call for a kind of control, with what its pointers hold before. -/
inductive ControlCall
  | boolean (query : ControlQuery) (out : BooleanControl)
  | typed (query : ControlQuery) (out : TypedControl)

namespace ControlCall

def kind : ControlCall → String
  | boolean query _ => query.controlKind
  | typed query _ => query.controlKind

section
variable {Value : Type} [TritonJson Value]

def run (batcher : Value) : ControlCall → Outcome TritonError String
  | boolean query out =>
      let result := getBooleanSequenceControlProperties batcher query out
      (result.1, result.2.tensorName)
  | typed query out =>
      let result := getTypedSequenceControlProperties batcher query out
      (result.1, result.2.tensorName)

/-- The type and values that a control gives are what the call expects. -/
def Accepts (name : String) (c : Value) : ControlCall → Prop
  | boolean query out => (setBooleanControl query name c out).1 = none
  | typed query out => (setTypedControl query name c out).1 = none

theorem run_named {call : ControlCall} {batcher : Value} {name : String} (nonempty : name ≠ "") :
    call.run batcher = (none, name) ↔
      ∃ c, Lists call.kind name batcher c ∧ call.Accepts name c := by
  rw [Prod.ext_iff]
  cases call with
  | boolean query out =>
      exact named_iff (fun _ _ _ _ => setBooleanControl_names) (fun _ => rfl) nonempty
  | typed query out =>
      exact named_iff (fun _ _ _ _ => setTypedControl_names) (fun _ => rfl) nonempty

end

end ControlCall

section
variable {Value : Type} [TritonJson Value]

/-- Two calls for different kinds never return the same tensor. -/
def ControlsApart (batcher : Value) (first second : ControlCall) : Prop :=
  first.kind ≠ second.kind → ∀ firstName secondName, first.run batcher = (none, firstName) →
    firstName ≠ "" → second.run batcher = (none, secondName) → secondName ≠ "" →
      firstName ≠ secondName

/-- One of the entries lists both kinds, each the only time and with values that its call
accepts. -/
structure SharedEntry (first second : ControlCall) (entries : List (ControlEntry Value))
    (entry : ControlEntry Value) (firstControl secondControl : Value) : Prop where
  distinct : first.kind ≠ second.kind
  present : entry ∈ entries
  firstInside : (first.kind, firstControl) ∈ entry.controls
  secondInside : (second.kind, secondControl) ∈ entry.controls
  firstOnce : (mentions first.kind entries).length = 1
  secondOnce : (mentions second.kind entries).length = 1
  firstAccepted : first.Accepts entry.name firstControl
  secondAccepted : second.Accepts entry.name secondControl

omit [TritonJson Value] in
theorem mention_inside {kind name : String} {c : Value} {entries : List (ControlEntry Value)}
    (listed : mentions kind entries = [(name, c)]) :
    ∃ entry ∈ entries, entry.name = name ∧ (kind, c) ∈ entry.controls := by
  have member : (name, c) ∈ mentions kind entries := by
    rw [listed]
    exact List.mem_singleton_self _
  obtain ⟨entry, present, mentioned⟩ := List.mem_flatMap.mp member
  obtain ⟨control, kept, same⟩ := List.mem_map.mp mentioned
  obtain ⟨inside, kinds⟩ := List.mem_filter.mp kept
  obtain ⟨rfl, rfl⟩ := Prod.mk.inj same
  rw [decide_eq_true_eq] at kinds
  rw [← kinds]
  exact ⟨entry, present, rfl, inside⟩

omit [TritonJson Value] in
theorem inside_mention {kind : String} {c : Value} {entries : List (ControlEntry Value)}
    {entry : ControlEntry Value} (present : entry ∈ entries) (inside : (kind, c) ∈ entry.controls)
    (once : (mentions kind entries).length = 1) : mentions kind entries = [(entry.name, c)] := by
  obtain ⟨mention, only⟩ := List.length_eq_one_iff.mp once
  have member : (entry.name, c) ∈ mentions kind entries :=
    List.mem_flatMap.mpr ⟨entry, present, List.mem_map.mpr
      ⟨(kind, c), List.mem_filter.mpr ⟨inside, decide_eq_true rfl⟩, rfl⟩⟩
  rw [only] at member ⊢
  rw [List.mem_singleton.mp member]

/-- Calls for two kinds return different tensors unless, of entries whose names can stand, one
lists both kinds. -/
theorem controlsApart_iff (batcher : Value) (first second : ControlCall) :
    ControlsApart batcher first second ↔
      ¬ ∃ entries entry firstControl secondControl, readEntries batcher = .ok entries ∧
        NamesStand entries ∧
        SharedEntry first second entries entry firstControl secondControl := by
  constructor
  · rintro apart ⟨entries, entry, firstControl, secondControl, read, stand, shared⟩
    have nonempty := stand.nonempty entry shared.present
    exact apart shared.distinct entry.name entry.name
      ((ControlCall.run_named nonempty).mpr ⟨_, ⟨entries, read, stand,
        inside_mention shared.present shared.firstInside shared.firstOnce⟩, shared.firstAccepted⟩)
      nonempty
      ((ControlCall.run_named nonempty).mpr ⟨_, ⟨entries, read, stand,
        inside_mention shared.present shared.secondInside shared.secondOnce⟩, shared.secondAccepted⟩)
      nonempty rfl
  · intro unshared distinct firstName secondName firstRun firstNonempty secondRun secondNonempty same
    subst same
    obtain ⟨firstControl, ⟨entries, read, stand, firstMentions⟩, firstAccepted⟩ :=
      (ControlCall.run_named firstNonempty).mp firstRun
    obtain ⟨secondControl, ⟨others, again, _, secondMentions⟩, secondAccepted⟩ :=
      (ControlCall.run_named firstNonempty).mp secondRun
    obtain rfl : entries = others := Except.ok.inj (read.symm.trans again)
    obtain ⟨entry, present, rfl, firstInside⟩ := mention_inside firstMentions
    obtain ⟨other, member, named, secondInside⟩ := mention_inside secondMentions
    obtain rfl : other = entry := List.inj_on_of_nodup_map stand.nodup member present named
    exact unshared ⟨entries, other, firstControl, secondControl, read, stand, {
      distinct, present, firstInside, secondInside, firstAccepted, secondAccepted
      firstOnce := by rw [firstMentions, List.length_singleton]
      secondOnce := by rw [secondMentions, List.length_singleton] }⟩

end

/-! One entry for two kinds. -/

def startAndReady : JsonTree :=
  let control (kind : String) : JsonTree :=
    .object [("kind", .string kind), ("int32_false_true", .array [.int 0, .int 1])]
  .object [("control_input", .array [.object [("name", .string "CONTROL"),
    ("control", .array [control "CONTROL_SEQUENCE_START", control "CONTROL_SEQUENCE_READY"])]])]

def controlCall (kind : String) : ControlCall :=
  .boolean { modelName := "sequence", controlKind := kind, required := true } {
    tensorName := ""
    tensorDatatype := none
    fp32FalseValue := none
    fp32TrueValue := none
    int32FalseValue := none
    int32TrueValue := none
    boolFalseValue := none
    boolTrueValue := none }

theorem not_controlsApart : ¬ ControlsApart startAndReady (controlCall "CONTROL_SEQUENCE_START")
    (controlCall "CONTROL_SEQUENCE_READY") := by
  intro apart
  exact apart (by decide) "CONTROL" "CONTROL" (by decide +kernel) (by decide) (by decide +kernel)
    (by decide) rfl

end TritonBackend
