import TritonBackend.CopyStream
import Mathlib.Logic.Relation

/-!
Transfers that are promised to clients and carried out one by one. A transfer is made
by one copy, or by one copy into a staging block and one out of it. A copy that
fails gives its clients up. `tracked` are the staging blocks, and `age` numbers the blocks
that are allocated on the way, so that a block older than the horizon is in use and
a younger one is not.

A run of such steps never writes an address twice (`owned_steps`), reads a staging block
only once it is filled (`timed_steps`) and leaves no client waiting: at its end each promised
transfer is done or its client has been given up (`delivered`).
-/

namespace CopyStream

variable {β V κ : Type}

structure Job (β κ : Type) where
  transfer : Copy β
  clients : List κ

def Job.effect (job : Job β κ) : Effect β V := .copy job.transfer

structure Courier (β V κ : Type) where
  done : List (Action β V)
  plan : List (Job β κ)
  horizon : Nat
  lost : κ → Prop

/-- The hop moves `size` bytes from `source` to `target`, perhaps among others. -/
def Copy.Carries (hop : Copy β) (source target : Pointer β) (size : Nat) : Prop :=
  ∃ skipped, skipped + size ≤ hop.byteSize ∧ source = hop.source.advance skipped ∧
    target = hop.target.advance skipped

def Planned (plan : List (Job β κ)) (client : κ) (hop : Copy β) : Prop :=
  ∃ job ∈ plan, client ∈ job.clients ∧ job.transfer = hop

def Courier.Hop (state : Courier β V κ) (client : κ) (hop : Copy β) : Prop :=
  .copy hop ∈ issued state.done ∨ Planned state.plan client hop

section
variable (tracked : β → Prop) (age : β → Nat) (faithful : Prop)

def Served (hops : Copy β → Prop) (transfer : Copy β) : Prop :=
  hops transfer ∨ ∃ middle first second, tracked middle.block ∧ hops first ∧ hops second ∧
    first.Carries transfer.source middle transfer.byteSize ∧
    second.Carries middle transfer.target transfer.byteSize

/-- A job that reads a staging block is made once no planned job fills that block. -/
def Ready (jobs rest : List (Job β κ)) : Prop :=
  ∀ job ∈ jobs, tracked job.transfer.source.block → ∀ other ∈ jobs ++ rest,
    other.transfer.target.block ≠ job.transfer.source.block

/-- Other jobs take over. In a faithful run each writes where an old one would have, or a new
block, and they do for every client what the old ones would have done. -/
structure Reroute (horizon horizon' : Nat) (old new : List (Job β κ)) : Prop where
  direct : ∀ job ∈ old, ¬ tracked job.transfer.source.block ∧ ¬ tracked job.transfer.target.block
  apart : faithful → new.Pairwise fun first second =>
    (first.effect : Effect β V).Apart second.effect
  inside : faithful → ∀ job ∈ new, ∀ block position,
    (job.effect : Effect β V).Writes block position →
    horizon < age block ∨ ∃ origin ∈ old, (origin.effect : Effect β V).Writes block position
  aged : ∀ job ∈ new, age job.transfer.target.block ≤ horizon' ∧
    age job.transfer.source.block ≤ horizon'
  unread : ∀ job ∈ new, tracked job.transfer.target.block → horizon < age job.transfer.target.block
  later : horizon ≤ horizon'
  served : faithful → ∀ origin ∈ old, 0 < origin.transfer.byteSize → ∀ client ∈ origin.clients,
    Served tracked (Planned new client) origin.transfer

inductive Courier.Step : Courier β V κ → Courier β V κ → Prop
  | act (action : Action β V) (done : List (Action β V)) (jobs rest : List (Job β κ))
      (horizon : Nat) (lost : κ → Prop)
      (made : action.effects = jobs.map Job.effect) (ready : Ready tracked jobs rest)
      (arrived : ∀ effect, action = .host effect →
        effect.Undisturbed tracked ((Device.fresh.run done).queue.map .copy)) :
      Step ⟨done, jobs ++ rest, horizon, lost⟩ ⟨done ++ [action], rest, horizon, lost⟩
  | fail (done : List (Action β V)) (job : Job β κ) (rest : List (Job β κ)) (horizon : Nat)
      (lost lost' : κ → Prop) (told : ∀ client ∈ job.clients, lost' client)
      (kept : ∀ client, lost client → lost' client) :
      Step ⟨done, job :: rest, horizon, lost⟩ ⟨done, rest, horizon, lost'⟩
  | lose (done : List (Action β V)) (plan : List (Job β κ)) (horizon horizon' : Nat)
      (lost lost' : κ → Prop) (later : horizon ≤ horizon')
      (kept : ∀ client, lost client → lost' client) :
      Step ⟨done, plan, horizon, lost⟩ ⟨done, plan, horizon', lost'⟩
  | shuffle (done : List (Action β V)) (plan plan' : List (Job β κ)) (horizon : Nat)
      (lost : κ → Prop) (same : plan.Perm plan') :
      Step ⟨done, plan, horizon, lost⟩ ⟨done, plan', horizon, lost⟩
  | reroute (done : List (Action β V)) (old new rest : List (Job β κ)) (horizon horizon' : Nat)
      (lost : κ → Prop) (reroutes : Reroute (V := V) tracked age faithful horizon horizon' old new) :
      Step ⟨done, old ++ rest, horizon, lost⟩ ⟨done, new ++ rest, horizon', lost⟩

def Courier.Steps : Courier β V κ → Courier β V κ → Prop :=
  Relation.ReflTransGen (Courier.Step tracked age faithful)

def Courier.Numbered (state : Courier β V κ) : Prop :=
  ∀ effect ∈ issued state.done ++ state.plan.map Job.effect,
    age effect.target.block ≤ state.horizon ∧
      ∀ block, effect.readBlock = some block → age block ≤ state.horizon

/-- Everything issued and everything planned writes somewhere else. -/
def Courier.Owned (state : Courier β V κ) : Prop :=
  WritesOnce (issued state.done ++ state.plan.map Job.effect)

/-- Blocks that were in use at `start` are only written inside the region. -/
structure Courier.Confined (start : Nat) (region : β → Int → Prop) (state : Courier β V κ) :
    Prop where
  later : start ≤ state.horizon
  writes : ∀ effect ∈ issued state.done ++ state.plan.map Job.effect, ∀ block position,
    effect.Writes block position → start < age block ∨ region block position

structure Courier.Timed (state : Courier β V κ) : Prop where
  landed : ReadsLanded tracked Device.fresh state.done
  unread : ∀ job ∈ state.plan, tracked job.transfer.target.block →
    ∀ effect ∈ issued state.done, effect.readBlock ≠ some job.transfer.target.block

def Courier.Kept (state : Courier β V κ) (client : κ) (transfer : Copy β) : Prop :=
  state.lost client ∨ Served tracked (state.Hop client) transfer

end

variable {tracked : β → Prop} {age : β → Nat} {faithful : Prop}

@[simp] theorem effect_target (job : Job β κ) :
    (job.effect : Effect β V).target = job.transfer.target := rfl

@[simp] theorem effect_readBlock (job : Job β κ) :
    (job.effect : Effect β V).readBlock = some job.transfer.source.block := rfl

theorem Served.mono {hops hops' : Copy β → Prop} {transfer : Copy β}
    (served : Served tracked hops transfer) (more : ∀ hop, hops hop → hops' hop) :
    Served tracked hops' transfer := by
  rcases served with direct | ⟨middle, first, second, staging, firstHop, secondHop, carries⟩
  · exact Or.inl (more _ direct)
  · exact Or.inr ⟨middle, first, second, staging, more _ firstHop, more _ secondHop, carries⟩

theorem carries_self (hop : Copy β) : hop.Carries hop.source hop.target hop.byteSize :=
  ⟨0, by omega, (advance_zero _).symm, (advance_zero _).symm⟩

theorem planned_append {first second : List (Job β κ)} {client : κ} {hop : Copy β} :
    Planned (first ++ second) client hop ↔ Planned first client hop ∨ Planned second client hop := by
  simp only [Planned, List.mem_append, or_and_right, exists_or]

theorem planned_perm {plan plan' : List (Job β κ)} {client : κ} {hop : Copy β}
    (same : plan.Perm plan') (planned : Planned plan client hop) : Planned plan' client hop := by
  obtain ⟨job, member, rest⟩ := planned
  exact ⟨job, same.mem_iff.mp member, rest⟩

/-! Blocks are numbered below the horizon. -/

theorem numbered_step {state state' : Courier β V κ} (step : state.Step tracked age faithful state')
    (numbered : state.Numbered age) : state'.Numbered age := by
  cases step with
  | act action done jobs rest horizon lost made ready arrived =>
      intro effect member
      refine numbered effect ?_
      simp only [issued_append, issued_cons, issued_nil, List.append_nil, made, List.map_append,
        List.mem_append] at member ⊢
      tauto
  | fail done job rest horizon lost lost' told kept =>
      intro effect member
      refine numbered effect ?_
      simp only [List.mem_append, List.map_cons, List.mem_cons] at member ⊢
      tauto
  | lose done plan horizon horizon' lost lost' later kept =>
      intro effect member
      obtain ⟨target, source⟩ := numbered effect member
      exact ⟨Nat.le_trans target later, fun block read => Nat.le_trans (source block read) later⟩
  | shuffle done plan plan' horizon lost same =>
      intro effect member
      refine numbered effect ?_
      have images := same.map (Job.effect (V := V))
      rw [List.mem_append] at member ⊢
      exact member.imp_right images.mem_iff.mpr
  | reroute done old new rest horizon horizon' lost reroutes =>
      intro effect member
      simp only [List.map_append, List.mem_append] at member
      -- only the new jobs may use blocks up to the new horizon
      have outside (kept : effect ∈ issued done ∨ effect ∈ rest.map Job.effect) :
          age effect.target.block ≤ horizon' ∧
            ∀ block, effect.readBlock = some block → age block ≤ horizon' := by
        have bounds := numbered effect (by
          simp only [List.map_append, List.mem_append]
          tauto)
        exact ⟨Nat.le_trans bounds.1 reroutes.later,
          fun block read => Nat.le_trans (bounds.2 block read) reroutes.later⟩
      rcases member with issuedBefore | planned | kept
      · exact outside (Or.inl issuedBefore)
      · obtain ⟨job, present, rfl⟩ := List.mem_map.mp planned
        obtain ⟨target, source⟩ := reroutes.aged job present
        refine ⟨target, ?_⟩
        intro block read
        simp only [effect_readBlock, Option.some.injEq] at read
        exact read ▸ source
      · exact outside (Or.inr kept)

/-! Nothing is written twice. -/

theorem writesOnce_perm {first second : List (Effect β V)} (same : first.Perm second)
    (once : WritesOnce first) : WritesOnce second :=
  (same.pairwise_iff Effect.Apart.symm).mp once

/-- New effects may replace old ones that wrote all their addresses, or use new blocks. -/
theorem writesOnce_reroute (held : faithful) {before rest : List (Effect β V)}
    {old new : List (Job β κ)} {horizon horizon' : Nat}
    (once : WritesOnce (before ++ (old.map Job.effect ++ rest)))
    (reroutes : Reroute (V := V) tracked age faithful horizon horizon' old new)
    (numbered : ∀ effect ∈ before ++ rest, age effect.target.block ≤ horizon) :
    WritesOnce (before ++ (new.map Job.effect ++ rest)) := by
  have gathered : WritesOnce (old.map Job.effect ++ (before ++ rest)) := by
    refine writesOnce_perm ?_ once
    rw [← List.append_assoc, ← List.append_assoc]
    exact List.perm_append_comm.append_right rest
  obtain ⟨_, others, across⟩ := List.pairwise_append.mp gathered
  have replaced : WritesOnce (new.map Job.effect ++ (before ++ rest)) := by
    refine List.pairwise_append.mpr ⟨List.pairwise_map.mpr (reroutes.apart held), others, ?_⟩
    intro effect member other present block position written overwritten
    obtain ⟨job, inNew, rfl⟩ := List.mem_map.mp member
    rcases reroutes.inside held job inNew block position written with fresh | ⟨origin, inOld, before⟩
    · have bound := numbered other present
      rw [← overwritten.1] at bound
      omega
    · exact across origin.effect (List.mem_map_of_mem inOld) other present block position before
        overwritten
  refine writesOnce_perm ?_ replaced
  rw [← List.append_assoc, ← List.append_assoc]
  exact List.perm_append_comm.append_right rest

theorem owned_step (held : faithful) {state state' : Courier β V κ}
    (step : state.Step tracked age faithful state')
    (numbered : state.Numbered age) (owned : state.Owned) : state'.Owned := by
  cases step with
  | act action done jobs rest horizon lost made ready arrived =>
      simpa [Courier.Owned, made] using owned
  | fail done job rest horizon lost lost' told kept =>
      exact owned.sublist (List.Sublist.append_left (List.sublist_cons_self _ _) _)
  | lose done plan horizon horizon' lost lost' later kept => exact owned
  | shuffle done plan plan' horizon lost same =>
      exact writesOnce_perm ((same.map _).append_left _) owned
  | reroute done old new rest horizon horizon' lost reroutes =>
      simp only [Courier.Owned, List.map_append] at owned ⊢
      refine writesOnce_reroute held owned reroutes ?_
      intro effect member
      refine (numbered effect ?_).1
      simp only [List.map_append, List.mem_append] at member ⊢
      tauto

theorem confined_step (held : faithful) {state state' : Courier β V κ}
    (step : state.Step tracked age faithful state') {start : Nat} {region : β → Int → Prop}
    (confined : state.Confined age start region) : state'.Confined age start region := by
  obtain ⟨later, writes⟩ := confined
  cases step with
  | act action done jobs rest horizon lost made ready arrived =>
      refine ⟨later, fun effect member => writes effect ?_⟩
      simp only [issued_append, issued_cons, issued_nil, List.append_nil, made, List.map_append,
        List.mem_append] at member ⊢
      tauto
  | fail done job rest horizon lost lost' told kept =>
      refine ⟨later, fun effect member => writes effect ?_⟩
      simp only [List.mem_append, List.map_cons, List.mem_cons] at member ⊢
      tauto
  | lose done plan horizon horizon' lost lost' grows kept =>
      exact ⟨Nat.le_trans later grows, writes⟩
  | shuffle done plan plan' horizon lost same =>
      refine ⟨later, fun effect member => writes effect ?_⟩
      have images := same.map (Job.effect (V := V))
      rw [List.mem_append] at member ⊢
      exact member.imp_right images.mem_iff.mpr
  | reroute done old new rest horizon horizon' lost reroutes =>
      refine ⟨Nat.le_trans later reroutes.later, ?_⟩
      intro effect member block position written
      simp only [List.map_append, List.mem_append] at member writes
      rcases member with before | replaced | kept
      · exact writes effect (Or.inl before) block position written
      · obtain ⟨job, inNew, rfl⟩ := List.mem_map.mp replaced
        rcases reroutes.inside held job inNew block position written with fresh | ⟨origin, inOld, same⟩
        · exact Or.inl (Nat.lt_of_le_of_lt later fresh)
        · exact writes origin.effect (Or.inr (Or.inl (List.mem_map_of_mem inOld))) block position
            same
      · exact writes effect (Or.inr (Or.inr kept)) block position written

/-! A staging block is filled before it is read. -/

theorem timed_step {state state' : Courier β V κ} (step : state.Step tracked age faithful state')
    (numbered : state.Numbered age) (timed : state.Timed tracked) : state'.Timed tracked := by
  obtain ⟨landed, unread⟩ := timed
  cases step with
  | act action done jobs rest horizon lost made ready arrived =>
      constructor
      · refine (readsLanded_concat _ _ _).mpr ⟨landed, ?_, arrived⟩
        intro effect member block read staging other present
        rw [made] at member present
        obtain ⟨writer, inJobs, rfl⟩ := List.mem_map.mp present
        rcases List.mem_append.mp member with earlier | own
        · intro same
          simp only [effect_target] at same
          exact unread writer (List.mem_append_left _ inJobs) (same.symm ▸ staging) effect earlier
            (same.symm ▸ read)
        · obtain ⟨reader, inside, rfl⟩ := List.mem_map.mp own
          simp only [effect_readBlock, Option.some.injEq] at read
          subst read
          exact ready reader inside staging writer (List.mem_append_left _ inJobs)
      · intro job member staging effect present
        simp only [issued_append, issued_cons, issued_nil, List.append_nil, List.mem_append,
          made] at present
        rcases present with earlier | own
        · exact unread job (List.mem_append_right _ member) staging effect earlier
        · obtain ⟨reader, inside, rfl⟩ := List.mem_map.mp own
          simp only [effect_readBlock, ne_eq, Option.some.injEq]
          intro same
          exact ready reader inside (same ▸ staging) job (List.mem_append_right _ member) same.symm
  | fail done job rest horizon lost lost' told kept =>
      exact ⟨landed, fun other member => unread other (List.mem_cons_of_mem _ member)⟩
  | lose done plan horizon horizon' lost lost' later kept => exact ⟨landed, unread⟩
  | shuffle done plan plan' horizon lost same =>
      exact ⟨landed, fun job member => unread job (same.mem_iff.mpr member)⟩
  | reroute done old new rest horizon horizon' lost reroutes =>
      refine ⟨landed, ?_⟩
      intro job member staging effect present read
      rcases List.mem_append.mp member with inNew | kept
      -- the block is younger than anything issued, so nobody has read it
      · have young := reroutes.unread job inNew staging
        have bound := (numbered effect (List.mem_append_left _ present)).2 _ read
        exact absurd young (Nat.not_lt.mpr bound)
      · exact unread job (List.mem_append_right _ kept) staging effect present read

/-! A promise is kept or its client is lost. -/

theorem hop_of_fail {done : List (Action β V)} {job : Job β κ} {rest : List (Job β κ)}
    {horizon : Nat} {lost lost' : κ → Prop} {client : κ} (other : client ∉ job.clients)
    {hop : Copy β} (present : Courier.Hop ⟨done, job :: rest, horizon, lost⟩ client hop) :
    Courier.Hop ⟨done, rest, horizon, lost'⟩ client hop := by
  rcases present with before | ⟨planned, member, mine, same⟩
  · exact Or.inl before
  · rcases List.mem_cons.mp member with rfl | later
    · exact absurd mine other
    · exact Or.inr ⟨planned, later, mine, same⟩

theorem hop_of_reroute {done : List (Action β V)} {old new rest : List (Job β κ)}
    {horizon horizon' : Nat} {lost : κ → Prop} {client : κ} {hop : Copy β}
    (outside : ∀ job ∈ old, job.transfer ≠ hop)
    (present : Courier.Hop ⟨done, old ++ rest, horizon, lost⟩ client hop) :
    Courier.Hop ⟨done, new ++ rest, horizon', lost⟩ client hop := by
  rcases present with before | planned
  · exact Or.inl before
  · rcases planned_append.mp planned with ⟨job, member, mine, same⟩ | kept
    · exact absurd same (outside job member)
    · exact Or.inr (planned_append.mpr (Or.inr kept))

theorem kept_step (held : faithful) {state state' : Courier β V κ}
    (step : state.Step tracked age faithful state')
    {client : κ} {transfer : Copy β} (bytes : 0 < transfer.byteSize)
    (promise : state.Kept tracked client transfer) : state'.Kept tracked client transfer := by
  cases step with
  | act action done jobs rest horizon lost made ready arrived =>
      refine promise.imp_right fun served => served.mono ?_
      intro hop present
      simp only [Courier.Hop, issued_append, issued_cons, issued_nil, List.append_nil,
        List.mem_append, made] at present ⊢
      rcases present with before | planned
      · exact Or.inl (Or.inl before)
      · rcases planned_append.mp planned with ⟨job, member, _, rfl⟩ | kept
        · exact Or.inl (Or.inr (List.mem_map_of_mem member))
        · exact Or.inr kept
  | fail done job rest horizon lost lost' told kept =>
      by_cases mine : client ∈ job.clients
      · exact Or.inl (told client mine)
      · rcases promise with gone | served
        · exact Or.inl (kept client gone)
        · exact Or.inr (served.mono fun hop present => hop_of_fail mine present)
  | lose done plan horizon horizon' lost lost' later kept =>
      exact promise.imp (kept client) fun served => served.mono fun hop present => present
  | shuffle done plan plan' horizon lost same =>
      exact promise.imp_right fun served =>
        served.mono fun hop present => present.imp_right (planned_perm same)
  | reroute done old new rest horizon horizon' lost reroutes =>
      -- the jobs that are replaced touch no staging block, so a promise in two hops stays
      refine promise.imp_right fun served => ?_
      rcases served with direct |
        ⟨middle, first, second, staging, firstHop, secondHop, carriesIn, carriesOut⟩
      · rcases direct with before | planned
        · exact Or.inl (Or.inl before)
        · rcases planned_append.mp planned with ⟨job, member, mine, rfl⟩ | kept
          · exact (reroutes.served held job member bytes client mine).mono fun hop present =>
              Or.inr (planned_append.mpr (Or.inl present))
          · exact Or.inl (Or.inr (planned_append.mpr (Or.inr kept)))
      · have intoMiddle : middle.block = first.target.block := by
          obtain ⟨_, _, _, same⟩ := carriesIn
          simp [same]
        have outOfMiddle : middle.block = second.source.block := by
          obtain ⟨_, _, same, _⟩ := carriesOut
          simp [same]
        refine Or.inr ⟨middle, first, second, staging, hop_of_reroute ?_ firstHop,
          hop_of_reroute ?_ secondHop, carriesIn, carriesOut⟩
        · rintro job member rfl
          exact (reroutes.direct job member).2 (intoMiddle ▸ staging)
        · rintro job member rfl
          exact (reroutes.direct job member).1 (outOfMiddle ▸ staging)

/-! Whole runs. -/

theorem numbered_steps {state state' : Courier β V κ} (steps : state.Steps tracked age faithful state')
    (numbered : state.Numbered age) : state'.Numbered age := by
  induction steps with
  | refl => exact numbered
  | tail _ step ih => exact numbered_step step ih

theorem owned_steps (held : faithful) {state state' : Courier β V κ}
    (steps : state.Steps tracked age faithful state')
    (numbered : state.Numbered age) (owned : state.Owned) : state'.Owned := by
  induction steps with
  | refl => exact owned
  | tail before step ih => exact owned_step held step (numbered_steps before numbered) ih

theorem confined_steps (held : faithful) {state state' : Courier β V κ}
    (steps : state.Steps tracked age faithful state') {start : Nat} {region : β → Int → Prop}
    (confined : state.Confined age start region) : state'.Confined age start region := by
  induction steps with
  | refl => exact confined
  | tail _ step ih => exact confined_step held step ih

theorem timed_steps {state state' : Courier β V κ} (steps : state.Steps tracked age faithful state')
    (numbered : state.Numbered age) (timed : state.Timed tracked) : state'.Timed tracked := by
  induction steps with
  | refl => exact timed
  | tail before step ih => exact timed_step step (numbered_steps before numbered) ih

theorem kept_steps (held : faithful) {state state' : Courier β V κ}
    (steps : state.Steps tracked age faithful state')
    {client : κ} {transfer : Copy β} (bytes : 0 < transfer.byteSize)
    (promise : state.Kept tracked client transfer) : state'.Kept tracked client transfer := by
  induction steps with
  | refl => exact promise
  | tail _ step ih => exact kept_step held step bytes ih

theorem kept_of_planned {state : Courier β V κ} {client : κ} {transfer : Copy β}
    (planned : Planned state.plan client transfer) : state.Kept tracked client transfer :=
  Or.inr (Or.inl (Or.inr planned))

/-- The bytes that an issued hop carried are at its end. -/
theorem carried [DecidableEq β] {actions : List (Action β V)} (initial : Memory β V)
    (landed : ReadsLanded tracked Device.fresh actions) (once : WritesOnce (issued actions))
    (settled : (Device.fresh.run actions).queue = [])
    {hop : Copy β} (member : .copy hop ∈ issued actions)
    (stable : tracked hop.source.block ∨
      ∀ effect ∈ issued actions, ∀ position, ¬ effect.Writes hop.source.block position)
    {source target : Pointer β} {size : Nat} (carries : hop.Carries source target size)
    {index : Nat} (bound : index < size) :
    (Device.fresh.run actions).memory initial target.block (target.offset + index) =
      (Device.fresh.run actions).memory initial source.block (source.offset + index) := by
  obtain ⟨skipped, fits, rfl, rfl⟩ := carries
  have inside : skipped + index < hop.byteSize := by omega
  have moved := replay_copy initial landed once settled member stable inside
  simpa [Int.add_assoc] using moved

theorem delivered [DecidableEq β] {state : Courier β V κ} (initial : Memory β V)
    (timed : state.Timed tracked) (owned : state.Owned) (finished : state.plan = [])
    (settled : (Device.fresh.run state.done).queue = [])
    {client : κ} {transfer : Copy β} (promise : state.Kept tracked client transfer)
    (live : ¬ state.lost client)
    (stable : ∀ effect ∈ issued state.done, ∀ position,
      ¬ effect.Writes transfer.source.block position)
    {index : Nat} (bound : index < transfer.byteSize) :
    (Device.fresh.run state.done).memory initial transfer.target.block
        (transfer.target.offset + index) =
      initial transfer.source.block (transfer.source.offset + index) := by
  have once : WritesOnce (issued state.done) := by
    simpa [Courier.Owned, finished] using owned
  have served := promise.resolve_left live
  have hopIssued {hop : Copy β} (present : state.Hop client hop) :
      Effect.copy hop ∈ issued state.done := by
    refine present.resolve_right ?_
    rintro ⟨job, member, _⟩
    simp [finished] at member
  have origin : (Device.fresh.run state.done).memory initial transfer.source.block
      (transfer.source.offset + index) =
        initial transfer.source.block (transfer.source.offset + index) :=
    replay_untouched initial fun effect member => stable effect member _
  rw [← origin]
  rcases served with direct |
    ⟨middle, first, second, staging, firstHop, secondHop, carriesIn, carriesOut⟩
  · exact replay_copy initial timed.landed once settled (hopIssued direct) (Or.inr stable) bound
  · have sameIn : transfer.source.block = first.source.block := by
      obtain ⟨_, _, same, _⟩ := carriesIn
      simp [same]
    have sameOut : middle.block = second.source.block := by
      obtain ⟨_, _, same, _⟩ := carriesOut
      simp [same]
    have filled := carried initial timed.landed once settled (hopIssued firstHop)
      (Or.inr (sameIn ▸ stable)) carriesIn bound
    have drained := carried initial timed.landed once settled (hopIssued secondHop)
      (Or.inl (sameOut ▸ staging)) carriesOut bound
    -- the two hops meet in the staging block
    exact drained.trans filled

/-! Runs that start when other actions have been done. -/

theorem step_rebase {earlier own : List (Action β V)} {plan : List (Job β κ)} {horizon : Nat}
    {lost : κ → Prop} {state' : Courier β V κ}
    (step : Courier.Step tracked age faithful ⟨earlier ++ own, plan, horizon, lost⟩ state') :
    ∃ own', state'.done = earlier ++ own' ∧ Courier.Step tracked age faithful
      ⟨own, plan, horizon, lost⟩ ⟨own', state'.plan, state'.horizon, state'.lost⟩ := by
  cases step with
  | act action _ jobs rest _ _ made ready arrived =>
      refine ⟨own ++ [action], List.append_assoc _ _ _, ?_⟩
      refine Courier.Step.act action own jobs rest horizon lost made ready ?_
      intro effect host block read known other queued
      obtain ⟨kept, _, ahead⟩ := run_ahead earlier own
      refine arrived effect host block read known other ?_
      rw [ahead.queue, List.map_append]
      exact List.mem_append_right _ queued
  | fail _ job rest _ _ lost' told kept =>
      exact ⟨own, rfl, Courier.Step.fail own job rest horizon lost lost' told kept⟩
  | lose _ _ _ horizon' _ lost' later kept =>
      exact ⟨own, rfl, Courier.Step.lose own plan horizon horizon' lost lost' later kept⟩
  | shuffle _ _ plan' _ _ same =>
      exact ⟨own, rfl, Courier.Step.shuffle own plan plan' horizon lost same⟩
  | reroute _ old new rest _ horizon' _ reroutes =>
      exact ⟨own, rfl, Courier.Step.reroute own old new rest horizon horizon' lost reroutes⟩

theorem steps_rebase {earlier own : List (Action β V)} {plan : List (Job β κ)} {horizon : Nat}
    {lost : κ → Prop} {state' : Courier β V κ}
    (steps : Courier.Steps tracked age faithful ⟨earlier ++ own, plan, horizon, lost⟩ state') :
    ∃ own', state'.done = earlier ++ own' ∧ Courier.Steps tracked age faithful
      ⟨own, plan, horizon, lost⟩ ⟨own', state'.plan, state'.horizon, state'.lost⟩ := by
  induction steps with
  | refl => exact ⟨own, rfl, Relation.ReflTransGen.refl⟩
  | @tail middle last _ step ih =>
      obtain ⟨own', same, before⟩ := ih
      obtain ⟨done, plan', horizon', lost'⟩ := middle
      simp only at same
      subst same
      obtain ⟨own'', same, next⟩ := step_rebase step
      exact ⟨own'', same, before.tail next⟩

end CopyStream
