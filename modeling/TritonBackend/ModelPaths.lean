import TritonBackend.CommonCore
import TritonBackend.Fallible
import Mathlib.Data.List.Sort
import Mathlib.Order.Basic

/-!
`JoinPath` and `ModelPaths`. A path is the names between its slashes, and joining keeps them
all, whatever slashes the segments begin or end with.
-/

namespace TritonBackend

open Fallible

def endsWithSlash (path : String) : Bool := path.toList.getLast? == some '/'

def isAbsolutePath (path : String) : Bool := path.toList.head? == some '/'

/-- One round of the loop of `JoinPath`. -/
def joinSegment (joined seg : String) : String :=
  if joined = "" then seg
  else if isAbsolutePath seg then
    if endsWithSlash joined then joined ++ String.ofList seg.toList.tail else joined ++ seg
  else (if endsWithSlash joined then joined else joined ++ "/") ++ seg

def joinPath (segments : List String) : String := segments.foldl joinSegment ""

def pathNames (path : String) : List (List Char) := (path.toList.splitOn '/').filter (· ≠ [])

/-! Joining. -/

theorem pathNames_slash (path rest : String) :
    pathNames (path ++ "/" ++ rest) = pathNames path ++ pathNames rest := by
  have split : (path ++ "/" ++ rest).toList = path.toList ++ '/' :: rest.toList := by simp
  rw [pathNames, split, List.splitOn_append_cons_self, List.filter_append]
  rfl

@[simp] theorem pathNames_empty : pathNames "" = [] := by decide

@[simp] theorem pathNames_trailing (path : String) : pathNames (path ++ "/") = pathNames path := by
  have whole := pathNames_slash path ""
  rwa [String.append_empty, pathNames_empty, List.append_nil] at whole

@[simp] theorem pathNames_leading (rest : String) : pathNames ("/" ++ rest) = pathNames rest := by
  have whole := pathNames_slash "" rest
  rwa [String.empty_append, pathNames_empty, List.nil_append] at whole

theorem endsWithSlash_eq {path : String} (ends : endsWithSlash path = true) :
    ∃ before, path = before ++ "/" := by
  rw [endsWithSlash, beq_iff_eq, List.getLast?_eq_some_iff] at ends
  obtain ⟨before, same⟩ := ends
  refine ⟨String.ofList before, String.toList_injective ?_⟩
  simp [same]

theorem isAbsolutePath_eq {path : String} (absolute : isAbsolutePath path = true) :
    path = "/" ++ String.ofList path.toList.tail := by
  rw [isAbsolutePath, beq_iff_eq, List.head?_eq_some_iff] at absolute
  obtain ⟨rest, same⟩ := absolute
  refine String.toList_injective ?_
  simp [same]

theorem joinSegment_names (joined seg : String) :
    pathNames (joinSegment joined seg) = pathNames joined ++ pathNames seg := by
  unfold joinSegment
  split
  next empty => simp [empty]
  next =>
    split
    next absolute =>
      have whole := isAbsolutePath_eq absolute
      generalize String.ofList seg.toList.tail = rest at whole ⊢
      subst whole
      split
      next ends =>
        obtain ⟨before, rfl⟩ := endsWithSlash_eq ends
        rw [pathNames_slash, pathNames_trailing, pathNames_leading]
      next => rw [← String.append_assoc, pathNames_slash, pathNames_leading]
    next =>
      split
      next ends =>
        obtain ⟨before, rfl⟩ := endsWithSlash_eq ends
        rw [pathNames_slash, pathNames_trailing]
      next => exact pathNames_slash joined seg

theorem joinSegment_extends {joined : String} (some : joined ≠ "") (seg : String) :
    ∃ rest, joinSegment joined seg = joined ++ rest := by
  unfold joinSegment
  rw [if_neg some]
  split
  · split
    · exact ⟨_, rfl⟩
    · exact ⟨_, rfl⟩
  · split
    · exact ⟨_, rfl⟩
    · exact ⟨"/" ++ seg, String.append_assoc⟩

theorem isAbsolutePath_append {path : String} (some : path ≠ "") (rest : String) :
    isAbsolutePath (path ++ rest) = isAbsolutePath path := by
  have first : path.toList ≠ [] := fun none => some (String.toList_eq_nil_iff.mp none)
  rw [isAbsolutePath, isAbsolutePath, String.toList_append, List.head?_append_of_ne_nil _ first]

theorem foldl_joinSegment (joined : String) (segments : List String) :
    pathNames (segments.foldl joinSegment joined) =
        pathNames joined ++ segments.flatMap pathNames ∧
      isAbsolutePath (segments.foldl joinSegment joined) =
        ((joined :: segments).find? (· ≠ "")).any isAbsolutePath := by
  induction segments generalizing joined with
  | nil =>
      by_cases empty : joined = ""
      · subst empty
        decide
      · simp [empty]
  | cons seg rest later =>
      obtain ⟨names, absolute⟩ := later (joinSegment joined seg)
      rw [List.foldl_cons]
      constructor
      · rw [names, joinSegment_names, List.flatMap_cons, List.append_assoc]
      · rw [absolute]
        by_cases empty : joined = ""
        · simp [joinSegment, empty]
        · obtain ⟨more, extended⟩ := joinSegment_extends empty seg
          have some : joined ++ more ≠ "" := by
            intro none
            exact empty (String.append_eq_empty_iff.mp none).1
          simp [extended, empty, some, isAbsolutePath_append empty]

/-- A joined path goes through the names of its segments, in their order, and is absolute if
the first segment that is not empty is. -/
theorem joinPath_names (segments : List String) :
    pathNames (joinPath segments) = segments.flatMap pathNames ∧
      isAbsolutePath (joinPath segments) = (segments.find? (· ≠ "")).any isAbsolutePath := by
  obtain ⟨names, absolute⟩ := foldl_joinSegment "" segments
  exact ⟨by simpa [joinPath] using names, by simpa [joinPath] using absolute⟩

/-! The files of a model. -/

structure FileSystem where
  /-- `opendir` and `readdir`. -/
  entries : String → Except TritonError (List String)
  isDirectory : String → Except TritonError Bool

/-- `contents->insert`; the entries of a set are in order. -/
def insertEntry (contents : List String) (entryname : String) : List String :=
  if entryname = "." ∨ entryname = ".." ∨ entryname ∈ contents then contents
  else contents.orderedInsert (· ≤ ·) entryname

def getDirectoryContents (fs : FileSystem) (path : String) : Except TritonError (List String) := do
  let entries ← fs.entries path
  return entries.foldl insertEntry []

/-- The loop that erases the directories, or what is none. -/
def eraseEntries (isDirectory : String → Except TritonError Bool) (directories : Bool) :
    List String → Except TritonError (List String)
  | [] => .ok []
  | filename :: rest => do
      let isDir ← isDirectory filename
      let kept ← eraseEntries isDirectory directories rest
      return if isDir == directories then kept else filename :: kept

def emplacePath (path : String) (modelPaths : String → Option String) (filename : String) :
    String → Option String :=
  fun name => (modelPaths name).or (if name = filename then some (joinPath [path, filename]) else none)

section
variable (fs : FileSystem) (path : String) (ignoreDirectories ignoreFiles : Bool)

def filterEntries (ignore directories : Bool) (modelFiles : List String) :
    Except TritonError (List String) :=
  if ignore then
    eraseEntries (fun filename => fs.isDirectory (joinPath [path, filename])) directories modelFiles
  else .ok modelFiles

def modelFiles : Except TritonError (List String) := do
  let contents ← getDirectoryContents fs path
  let kept ← filterEntries fs path ignoreDirectories true contents
  filterEntries fs path ignoreFiles false kept

end

def modelPaths (fs : FileSystem) (modelRepositoryPath : String) (version : Nat)
    (ignoreDirectories ignoreFiles : Bool) (modelPaths : String → Option String) :
    Option TritonError × (String → Option String) :=
  let path := joinPath [modelRepositoryPath, toString version]
  match modelFiles fs path ignoreDirectories ignoreFiles with
  | .error error => (some error, modelPaths)
  | .ok modelFiles => (none, modelFiles.foldl (emplacePath path) modelPaths)

theorem mem_contents {entries contents : List String} {name : String} :
    name ∈ entries.foldl insertEntry contents ↔
      name ∈ contents ∨ name ∈ entries ∧ name ≠ "." ∧ name ≠ ".." := by
  induction entries generalizing contents with
  | nil => simp
  | cons entry rest later =>
      rw [List.foldl_cons, later, insertEntry]
      split
      next left =>
        constructor
        · rintro (old | ⟨new, kept⟩)
          · exact Or.inl old
          · exact Or.inr ⟨List.mem_cons_of_mem _ new, kept⟩
        · rintro (old | ⟨new, here, parent⟩)
          · exact Or.inl old
          · rcases List.mem_cons.mp new with rfl | new
            · exact Or.inl ((left.resolve_left here).resolve_left parent)
            · exact Or.inr ⟨new, here, parent⟩
      next put =>
        rw [List.mem_orderedInsert, List.mem_cons]
        constructor
        · rintro ((rfl | old) | ⟨new, kept⟩)
          · exact Or.inr ⟨Or.inl rfl, fun here => put (Or.inl here),
              fun parent => put (Or.inr (Or.inl parent))⟩
          · exact Or.inl old
          · exact Or.inr ⟨Or.inr new, kept⟩
        · rintro (old | ⟨rfl | new, kept⟩)
          · exact Or.inl (Or.inr old)
          · exact Or.inl (Or.inl rfl)
          · exact Or.inr ⟨new, kept⟩

/-- What the file system says a name is; nothing if it cannot be told. -/
def directoryOf (isDirectory : String → Except TritonError Bool) (name : String) : Option Bool :=
  (isDirectory name).toOption

theorem eraseEntries_eq (isDirectory : String → Except TritonError Bool) (directories : Bool)
    (names : List String) :
    (eraseEntries isDirectory directories names).toOption =
      if names.all (fun name => (directoryOf isDirectory name).isSome) then
        some (names.filter fun name => directoryOf isDirectory name != some directories)
      else none := by
  induction names with
  | nil => rfl
  | cons name rest later =>
      rw [eraseEntries]
      cases told : isDirectory name with
      | error error => simp [directoryOf, told, Except.toOption, bind, Except.bind]
      | ok isDir =>
          have step : ((eraseEntries isDirectory directories rest).map fun kept =>
              if isDir == directories then kept else name :: kept).toOption =
              (eraseEntries isDirectory directories rest).toOption.map fun kept =>
                if isDir == directories then kept else name :: kept := by
            cases eraseEntries isDirectory directories rest <;> rfl
          change ((eraseEntries isDirectory directories rest).map fun kept =>
              if isDir == directories then kept else name :: kept).toOption = _
          rw [step, later]
          have here : directoryOf isDirectory name = some isDir := by
            simp [directoryOf, told, Except.toOption]
          by_cases all : rest.all (fun name => (directoryOf isDirectory name).isSome) = true
          · by_cases same : isDir = directories <;> simp [here, all, same]
          · simp [here, all]

theorem foldl_emplacePath (path : String) (paths : String → Option String) (files : List String)
    (name : String) :
    files.foldl (emplacePath path) paths name =
      (paths name).or (if name ∈ files then some (joinPath [path, name]) else none) := by
  induction files generalizing paths with
  | nil => simp
  | cons file rest later =>
      rw [List.foldl_cons, later, emplacePath]
      by_cases same : name = file
      · subst same
        cases paths name <;> simp
      · simp [same]

theorem toOption_bind {α β : Type} (value : Except TritonError α) (next : α → Except TritonError β) :
    (value >>= next).toOption = value.toOption.bind fun read => (next read).toOption := by
  cases value <;> rfl

theorem toOption_ok {α : Type} (value : α) :
    (Except.ok value : Except TritonError α).toOption = some value := rfl

section
variable (fs : FileSystem) (path : String) (ignoreDirectories ignoreFiles : Bool)

def directoryAt (name : String) : Option Bool :=
  directoryOf (fun filename => fs.isDirectory (joinPath [path, filename])) name

theorem filterEntries_eq (ignore directories : Bool) (names : List String) :
    (filterEntries fs path ignore directories names).toOption =
      if !ignore || names.all (fun name => (directoryAt fs path name).isSome) then
        some (names.filter fun name => !(ignore && directoryAt fs path name == some directories))
      else none := by
  unfold filterEntries
  cases ignore with
  | false => simp [toOption_ok]
  | true =>
      rw [if_pos rfl, eraseEntries_eq]
      rfl

def keeps (name : String) : Bool :=
  !(ignoreDirectories && directoryAt fs path name == some true) &&
    !(ignoreFiles && directoryAt fs path name == some false)

/-- All names that are looked at can be told. -/
def tells (names : List String) : Bool :=
  !(ignoreDirectories || ignoreFiles) || names.all fun name => (directoryAt fs path name).isSome

theorem modelFiles_eq {entries : List String} (listed : fs.entries path = .ok entries) :
    (modelFiles fs path ignoreDirectories ignoreFiles).toOption =
      if tells fs path ignoreDirectories ignoreFiles (entries.foldl insertEntry []) then
        some ((entries.foldl insertEntry []).filter (keeps fs path ignoreDirectories ignoreFiles))
      else none := by
  have contents : getDirectoryContents fs path = .ok (entries.foldl insertEntry []) := by
    rw [getDirectoryContents, listed]
    rfl
  generalize entries.foldl insertEntry [] = names at contents ⊢
  rw [modelFiles, toOption_bind, contents, toOption_ok, Option.bind_some, toOption_bind,
    filterEntries_eq]
  by_cases all : names.all (fun name => (directoryAt fs path name).isSome) = true
  · have some (kept : List String) (part : kept.Sublist names) :
        kept.all (fun name => (directoryAt fs path name).isSome) = true := by
      rw [List.all_eq_true] at all ⊢
      exact fun name member => all name (part.mem member)
    simp only [all, Bool.or_true, if_true, Option.bind_some, filterEntries_eq,
      some _ List.filter_sublist, List.filter_filter, tells]
    refine congrArg Option.some (List.filter_congr fun name _ => ?_)
    rw [keeps, Bool.and_comm]
  · cases ignoreDirectories with
    | true => simp [tells, all]
    | false =>
        have unchanged (names : List String) : names.filter (fun name =>
            !(false && directoryAt fs path name == some true)) = names := by simp
        simp only [Bool.not_false, if_true, Option.bind_some, unchanged,
          filterEntries_eq, all, tells, Bool.false_or, Bool.or_false]
        unfold keeps
        cases ignoreFiles <;> simp

variable {fs path ignoreDirectories ignoreFiles}

theorem directoryAt_some {name : String} {isDir : Bool} :
    directoryAt fs path name = some isDir ↔ fs.isDirectory (joinPath [path, name]) = .ok isDir := by
  rw [directoryAt, directoryOf]
  cases fs.isDirectory (joinPath [path, name]) <;> simp [Except.toOption]

theorem tells_iff {names : List String} :
    tells fs path ignoreDirectories ignoreFiles names = true ↔
      (ignoreDirectories = true ∨ ignoreFiles = true → ∀ name ∈ names,
        ∃ isDir, fs.isDirectory (joinPath [path, name]) = .ok isDir) := by
  simp only [tells, Bool.or_eq_true, Bool.not_eq_true', Bool.or_eq_false_iff, List.all_eq_true,
    Option.isSome_iff_exists, directoryAt_some]
  cases ignoreDirectories <;> cases ignoreFiles <;> simp

theorem keeps_iff {name : String} (told : ignoreDirectories = true ∨ ignoreFiles = true →
      ∃ isDir, fs.isDirectory (joinPath [path, name]) = .ok isDir) :
    keeps fs path ignoreDirectories ignoreFiles name = true ↔
      (ignoreDirectories = true → fs.isDirectory (joinPath [path, name]) = .ok false) ∧
        (ignoreFiles = true → fs.isDirectory (joinPath [path, name]) = .ok true) := by
  by_cases looks : ignoreDirectories = true ∨ ignoreFiles = true
  · obtain ⟨isDir, here⟩ := told looks
    rw [keeps, directoryAt_some.mpr here, here]
    cases isDir <;> simp
  · obtain ⟨directories, files⟩ := not_or.mp looks
    simp [keeps, directories, files]

variable (fs ignoreDirectories ignoreFiles)

/-- The names that are added are those in the directory that the flags leave, each under its own
path; a failure adds none. -/
theorem modelPaths_found (modelRepositoryPath : String) (version : Nat)
    (paths : String → Option String) {entries : List String}
    (listed : fs.entries (joinPath [modelRepositoryPath, toString version]) = .ok entries) :
    let path := joinPath [modelRepositoryPath, toString version]
    let listable (name : String) : Prop := name ∈ entries ∧ name ≠ "." ∧ name ≠ ".."
    let done := modelPaths fs modelRepositoryPath version ignoreDirectories ignoreFiles paths
    (done.1 = none ↔ (ignoreDirectories = true ∨ ignoreFiles = true →
      ∀ name, listable name → ∃ isDir, fs.isDirectory (joinPath [path, name]) = .ok isDir)) ∧
    (done.1 = none → ∀ name place, done.2 name = some place ↔
      paths name = some place ∨ paths name = none ∧ place = joinPath [path, name] ∧ listable name ∧
        (ignoreDirectories = true → fs.isDirectory (joinPath [path, name]) = .ok false) ∧
        (ignoreFiles = true → fs.isDirectory (joinPath [path, name]) = .ok true)) ∧
    (done.1 ≠ none → done.2 = paths) := by
  intro path listable done
  have files := modelFiles_eq fs path ignoreDirectories ignoreFiles listed
  have members (name : String) : name ∈ entries.foldl insertEntry [] ↔ listable name := by
    rw [mem_contents]
    simp [listable]
  have asks := @tells_iff fs path ignoreDirectories ignoreFiles (entries.foldl insertEntry [])
  simp only [members] at asks
  simp only [done, modelPaths]
  cases found : modelFiles fs path ignoreDirectories ignoreFiles with
  | error error =>
      rw [found] at files
      have untold : ¬ tells fs path ignoreDirectories ignoreFiles
          (entries.foldl insertEntry []) = true := by
        intro told
        rw [if_pos told] at files
        cases files
      exact ⟨iff_of_false nofun (mt asks.mpr untold), nofun, fun _ => rfl⟩
  | ok kept =>
      rw [found] at files
      have told : tells fs path ignoreDirectories ignoreFiles
          (entries.foldl insertEntry []) = true := by
        by_contra untold
        rw [if_neg untold] at files
        cases files
      rw [if_pos told] at files
      cases files
      refine ⟨iff_of_true rfl (asks.mp told), ?_, fun failed => absurd rfl failed⟩
      intro _ name place
      change List.foldl (emplacePath path) paths _ name = some place ↔ _
      rw [foldl_emplacePath]
      have left : name ∈ (entries.foldl insertEntry []).filter
          (keeps fs path ignoreDirectories ignoreFiles) ↔ listable name ∧
            (ignoreDirectories = true → fs.isDirectory (joinPath [path, name]) = .ok false) ∧
            (ignoreFiles = true → fs.isDirectory (joinPath [path, name]) = .ok true) := by
        rw [List.mem_filter, members]
        exact and_congr_right fun inside => keeps_iff fun looks => asks.mp told looks name inside
      rw [← left]
      cases there : paths name with
      | some old => simp
      | none =>
          by_cases kept : name ∈ (entries.foldl insertEntry []).filter
              (keeps fs path ignoreDirectories ignoreFiles)
          · simp [kept, eq_comm]
          · simp [kept]

def repository : FileSystem :=
  { entries := fun _ => .ok [".", "..", "model.onnx", "assets"]
    isDirectory := fun path => .ok (path = "/models/echo/1/assets") }

theorem modelPaths_found_file :
    let done := modelPaths repository "/models/echo/" 1 true false fun _ => none
    done.2 "model.onnx" = some "/models/echo/1/model.onnx" ∧ done.2 "assets" = none := by
  have all := modelPaths_found repository true false "/models/echo/" 1 (fun _ => none) rfl
  have succeeds := all.1.mpr fun _ name _ => ⟨_, rfl⟩
  intro done
  constructor
  · exact (all.2.1 succeeds _ _).mpr (Or.inr (by decide))
  · rw [Option.eq_none_iff_forall_ne_some]
    intro place found
    rcases (all.2.1 succeeds _ _).mp found with old | ⟨_, _, _, kept, _⟩
    · cases old
    · exact absurd (kept rfl) (by decide)

end

end TritonBackend
