import TritonBackend.BlsResults

/-!
That `ProcessRequests` of the BLS backend comes to an end, and where. Each round of its loops
counts for more than the callbacks that it gives the server to do.
-/

namespace TritonBackend

namespace Bls

section
variable {server : BlsServer} {requests : List BlsRequest} {s : BlsState}

def ahead (count : Nat) : BlsPoint → Nat
  | .execute r => 8 * (count - r) + 1
  | .send r icount _ => 8 * (count - r) - icount
  | .sendFailed r _ => 8 * (count - r) - 3
  | .await r icount => 8 * (count - r) - 3 - icount
  | .undefined _ _ | .returned => 0

def work (requests : List BlsRequest) (s : BlsState) : Nat :=
  3 * ahead requests.length s.point + s.handed.length + s.unanswered.length

theorem respondAndSetNull_kept (s : BlsState) (r : Nat) (error : TritonError) :
    (s.respondAndSetNull r error).handed = s.handed ∧
      (s.respondAndSetNull r error).unanswered = s.unanswered ∧
      (s.respondAndSetNull r error).futures = s.futures := by
  rw [respondAndSetNull_eq]
  exact ⟨rfl, rfl, rfl⟩

theorem constructOutput_kept (server : BlsServer) (s : BlsState) (r icount : Nat)
    (response : InternalResponse) :
    let s' := BlsState.constructOutput server s r icount response
    s'.handed = s.handed ∧ s'.unanswered = s.unanswered ∧ s'.futures = s.futures ∧
      (s'.point = .undefined r icount ∨ s'.point = .await r (icount + 1)) := by
  have refused (error : TritonError) :
      let s' := (s.respondAndSetNull r error).goTo (.undefined r icount)
      s'.handed = s.handed ∧ s'.unanswered = s.unanswered ∧ s'.futures = s.futures ∧
        (s'.point = .undefined r icount ∨ s'.point = .await r (icount + 1)) := by
    obtain ⟨handed, unanswered, futures⟩ := respondAndSetNull_kept s r error
    exact ⟨handed, unanswered, futures, Or.inl rfl⟩
  intro s'
  simp only [s', BlsState.constructOutput]
  split
  · exact refused _
  · split
    · split
      · exact refused _
      · split
        · exact refused _
        · split
          · exact refused _
          · exact ⟨rfl, rfl, rfl, Or.inr rfl⟩
    · exact ⟨rfl, rfl, rfl, Or.inl rfl⟩

theorem work_less {s' : BlsState} (handed : s'.handed = s.handed)
    (unanswered : s'.unanswered = s.unanswered)
    (less : ahead requests.length s'.point < ahead requests.length s.point) :
    work requests s' < work requests s := by
  rw [work, work, handed, unanswered]
  omega

theorem advance_work (stands : Stands server requests s) {s' : BlsState}
    (advanced : s.advance server requests = some s') : work requests s' < work requests s := by
  have at_ := stands.point
  unfold BlsState.advance at advanced
  split at advanced
  next r here =>
    cases advanced
    split
    next bound =>
      unfold BlsState.enterExecute
      split
      · refine work_less rfl rfl ?_
        rw [here]
        simp only [BlsState.goTo, ahead]
        omega
      · obtain ⟨handed, unanswered, _⟩ := respondAndSetNull_kept s r sendError
        refine work_less handed unanswered ?_
        rw [here]
        simp only [BlsState.goTo, ahead]
        omega
    next past =>
      refine work_less rfl rfl ?_
      rw [here]
      simp [BlsState.finish, ahead]
  next r icount irequest here =>
    rw [here] at at_
    have bound := at_.1
    split at advanced
    next less =>
      obtain ⟨request, present, rfl⟩ := Option.map_eq_some_iff.mp advanced
      simp only [BlsState.sendNext]
      split
      · simp only [work, here, ahead, List.length_append, List.length_singleton]
        omega
      · split
        all_goals
          refine work_less rfl rfl ?_
          rw [here]
          simp only [BlsState.goTo, ahead]
          omega
    next past =>
      have upper := at_.2.1
      cases advanced
      refine work_less rfl rfl ?_
      rw [here]
      simp only [BlsState.goTo, ahead]
      omega
  next r irequest here =>
    rw [here] at at_
    have bound := at_.1
    cases advanced
    obtain ⟨handed, unanswered, _⟩ := respondAndSetNull_kept { s with
      requestDeletes := s.requestDeletes ++ [irequest] } r sendError
    refine work_less handed unanswered ?_
    rw [here]
    simp only [BlsState.catchSend, BlsState.goTo, ahead]
    omega
  next r icount here =>
    rw [here] at at_
    have bound := at_.1
    split at advanced
    next less =>
      obtain ⟨future, found, rfl⟩ := Option.map_eq_some_iff.mp advanced
      simp only [BlsState.takeResponse]
      split
      · refine work_less rfl rfl ?_
        rw [here]
        simp only [ahead]
        omega
      · obtain ⟨handed, unanswered, _, point⟩ := constructOutput_kept server
          { s with futures := s.futures.eraseP fun future => future.1 == ⟨r, icount⟩ } r icount
          future.2
        refine work_less handed unanswered ?_
        rcases point with point | point <;>
          · rw [point, here]
            simp only [ahead]
            omega
    next past =>
      have upper := at_.2.1
      cases advanced
      refine work_less rfl rfl ?_
      rw [here]
      simp only [BlsState.goTo, ahead]
      omega
  next => cases advanced
  next => cases advanced

theorem step_work (stands : Stands server requests s) {s' : BlsState}
    (step : BlsState.Step server requests s s') : work requests s' < work requests s := by
  cases step with
  | advance s' advanced => exact advance_work stands advanced
  | requestComplete inner held =>
      have fewer := List.length_erase_add_one held
      simp only [work]
      omega
  | responseComplete before after answer split =>
      simp only [work, split, List.length_append, List.length_cons]
      omega

/-- Every run ends after a number of steps that depends on the number of requests only. -/
theorem run_bounded (run : Nat → BlsState) (count : Nat)
    (first : run 0 = BlsState.start server requests)
    (steps : ∀ k < count, BlsState.Step server requests (run k) (run (k + 1))) :
    count ≤ 24 * requests.length + 3 := by
  have along (k : Nat) (upper : k ≤ count) :
      BlsState.Reaches server requests (BlsState.start server requests) (run k) ∧
        work requests (run k) + k ≤ 24 * requests.length + 3 := by
    induction k with
    | zero =>
        rw [first]
        refine ⟨Relation.ReflTransGen.refl, ?_⟩
        simp only [work, BlsState.start, ahead, List.length_nil]
        omega
    | succ k before =>
        obtain ⟨reached, bounded⟩ := before (Nat.le_of_succ_le upper)
        have step := steps k upper
        have less := step_work (run_stands reached) step
        exact ⟨reached.tail step, by omega⟩
  have last := (along count (Nat.le_refl count)).2
  omega

theorem run_bounded_twice : 2 ≤ 24 * [addsub].length + 3 := by
  refine run_bounded
    (fun k => drive secondRefused [addsub] k (BlsState.start secondRefused [addsub])) 2 rfl ?_
  intro k below
  have cases : k = 0 ∨ k = 1 := by omega
  rcases cases with rfl | rfl <;> exact .advance _ _ rfl

/-! Where a run ends. -/

theorem awaitedOf_sublist (r : Nat) : (awaitedOf server requests r).Sublist (ids r 2) := by
  unfold awaitedOf
  split
  · split
    · exact ids_sublist (Nat.le_refl 2) r
    · exact ids_sublist (Nat.le_succ 1) r
  · exact List.nil_sublist _

theorem waited_coming (stands : Stands server requests s) {r icount : Nat}
    (here : s.point = .await r icount) (less : icount < 2) :
    (⟨r, icount⟩ : InternalId) ∈ (s.unanswered ++ s.futures).map Prod.fst := by
  have at_ := stands.point
  have owned := stands.responsesOwned
  rw [here] at at_ owned
  have sent : (⟨r, icount⟩ : InternalId) ∈ upTo (sentOf server requests) (r + 1) := by
    rw [upTo_succ, sentOf_both at_.2.2.1]
    exact List.mem_append_right _ (mem_ids.mpr ⟨rfl, less⟩)
  rcases List.mem_append.mp (owned.mem_iff.mpr sent) with coming | waited
  · exact coming
  · rcases List.mem_append.mp waited with early | late
    · exact absurd (upTo_request awaitedOf_sublist early) (Nat.lt_irrefl r)
    · exact absurd (mem_ids.mp late).2 (Nat.lt_irrefl icount)

theorem advance_none (stands : Stands server requests s)
    (none : s.advance server requests = none) :
    s.point = .returned ∨ (∃ r icount, s.point = .undefined r icount) ∨
      ∃ r icount, s.point = .await r icount ∧ icount < 2 ∧
        ∃ answer ∈ s.unanswered, answer.1 = ⟨r, icount⟩ := by
  have at_ := stands.point
  unfold BlsState.advance at none
  split at none
  next => cases none
  next r icount irequest here =>
    rw [here] at at_
    split at none
    · rw [List.getElem?_eq_getElem at_.1] at none
      cases none
    · cases none
  next => cases none
  next r icount here =>
    split at none
    next less =>
      refine Or.inr (Or.inr ⟨r, icount, here, less, ?_⟩)
      rw [Option.map_eq_none_iff, List.find?_eq_none] at none
      obtain ⟨answer, member, same⟩ := List.mem_map.mp (waited_coming stands here less)
      rcases List.mem_append.mp member with coming | come
      · exact ⟨answer, coming, same⟩
      · exact absurd (beq_iff_eq.mpr same) (none answer come)
    next => cases none
  next r icount here => exact Or.inr (Or.inl ⟨r, icount, here⟩)
  next here => exact Or.inl here

theorem faults_undefined (stands : Stands server requests s) {r icount : Nat}
    (here : s.point = .undefined r icount) :
    r < requests.length ∧ faults server requests r = true := by
  have at_ := stands.point
  rw [here] at at_
  obtain ⟨bound, less, both, earlier, well, unfilled⟩ := at_
  have cases : icount = 0 ∨ icount = 1 := by omega
  rcases cases with rfl | rfl
  · exact ⟨bound, by simp [faults, both, well, unfilled]⟩
  · exact ⟨bound, by simp [faults, both, earlier 0 Nat.one_pos, well, unfilled]⟩

/-- A run that goes no further has returned or gone on without a response, and which of the two
the order of the callbacks does not decide. -/
theorem stuck_where (run : BlsState.Reaches server requests (BlsState.start server requests) s)
    (stuck : ∀ s', ¬ BlsState.Step server requests s s') :
    s.handed = [] ∧ s.unanswered = [] ∧
      ((s.point = .returned ∧ ∀ r < requests.length, faults server requests r = false) ∨
        ∃ r icount, s.point = .undefined r icount ∧ r < requests.length ∧
          faults server requests r = true ∧ ∀ earlier < r, faults server requests earlier = false) := by
  have stands := run_stands run
  have clean := stands.clean
  have given : s.handed = [] := by
    refine List.eq_nil_iff_forall_not_mem.mpr fun inner held => ?_
    exact stuck _ (.requestComplete s inner held)
  have answered : s.unanswered = [] := by
    refine List.eq_nil_iff_forall_not_mem.mpr fun answer member => ?_
    obtain ⟨before, after, split⟩ := List.append_of_mem member
    exact stuck _ (.responseComplete s before after answer split)
  have none : s.advance server requests = none := by
    refine Option.eq_none_iff_forall_not_mem.mpr fun s' advanced => ?_
    exact stuck s' (.advance s s' advanced)
  refine ⟨given, answered, ?_⟩
  rcases advance_none stands none with here | ⟨r, icount, here⟩ | ⟨r, icount, _, _, answer, member, _⟩
  · rw [here] at clean
    exact Or.inl ⟨here, clean⟩
  · rw [here] at clean
    obtain ⟨bound, faulty⟩ := faults_undefined stands here
    exact Or.inr ⟨r, icount, here, bound, faulty, clean⟩
  · rw [answered] at member
    cases member

theorem stuck_where_returned : ∃ s, BlsState.Reaches secondRefused [addsub]
    (BlsState.start secondRefused [addsub]) s ∧ s.handed = [] ∧ s.unanswered = [] ∧
      s.point = .returned := by
  have sent := drive_reaches secondRefused [addsub] 2
    (BlsState.start secondRefused [addsub])
  have given := sent.tail (.requestComplete _ ⟨0, 0⟩ (List.mem_singleton_self _))
  have answered := given.tail (.responseComplete _ [] [] _ rfl)
  obtain ⟨s, run, none, nothing, nobody⟩ : ∃ s, BlsState.Reaches secondRefused [addsub]
      (BlsState.start secondRefused [addsub]) s ∧ s.advance secondRefused [addsub] = none ∧
        s.handed = [] ∧ s.unanswered = [] :=
    ⟨_, answered.trans (drive_reaches _ _ 3 _), rfl, rfl, rfl⟩
  have stuck : ∀ s', ¬ BlsState.Step secondRefused [addsub] s s' := by
    intro s' step
    cases step with
    | advance _ advanced =>
        rw [none] at advanced
        cases advanced
    | requestComplete inner held =>
        rw [nothing] at held
        cases held
    | responseComplete before after answer split =>
        rw [nobody] at split
        exact absurd split (by simp)
  obtain ⟨handed, unanswered, ⟨returned, _⟩ | ⟨r, _, _, bound, faulty, _⟩⟩ := stuck_where run stuck
  · exact ⟨s, run, handed, unanswered, returned⟩
  · obtain rfl : r = 0 := Nat.lt_one_iff.mp bound
    exact absurd faulty (by decide)

/-! A run in which the server answers only what is waited for. -/

theorem takeResponse_futures (s : BlsState) (r icount : Nat) (response : InternalResponse) :
    (BlsState.takeResponse server s r icount response).futures = s.futures := by
  unfold BlsState.takeResponse
  split
  · rfl
  · exact (constructOutput_kept server s r icount response).2.2.1

theorem advance_futures (none : s.futures = []) {s' : BlsState}
    (advanced : s.advance server requests = some s') : s'.futures = [] := by
  unfold BlsState.advance at advanced
  split at advanced
  next r here =>
    cases advanced
    split
    · unfold BlsState.enterExecute
      split
      · exact none
      · exact (respondAndSetNull_kept s r sendError).2.2.trans none
    · exact none
  next r icount irequest here =>
    split at advanced
    · obtain ⟨request, _, rfl⟩ := Option.map_eq_some_iff.mp advanced
      simp only [BlsState.sendNext]
      split
      · exact none
      · split <;> exact none
    · cases advanced
      exact none
  next r irequest here =>
    cases advanced
    exact (respondAndSetNull_kept { s with
      requestDeletes := s.requestDeletes ++ [irequest] } r sendError).2.2.trans none
  next r icount here =>
    split at advanced
    · rw [none] at advanced
      cases advanced
    · cases advanced
      exact none
  next => cases advanced
  next => cases advanced

theorem returns_lazily (clean : ∀ r < requests.length, faults server requests r = false)
    (run : BlsState.Reaches server requests (BlsState.start server requests) s)
    (none : s.futures = []) :
    ∃ last, BlsState.Reaches server requests (BlsState.start server requests) last ∧
      last.point = .returned ∧ last.futures = [] := by
  induction todo : work requests s using Nat.strongRecOn generalizing s with
  | ind todo later =>
      subst todo
      have stands := run_stands run
      cases advanced : s.advance server requests with
      | some s' =>
          exact later _ (advance_work stands advanced) (run.tail (.advance s s' advanced))
            (advance_futures none advanced) rfl
      | none =>
          rcases advance_none stands advanced with
            here | ⟨r, icount, here⟩ | ⟨r, icount, here, less, answer, member, same⟩
          · exact ⟨s, run, here, none⟩
          · obtain ⟨bound, faulty⟩ := faults_undefined stands here
            rw [clean r bound] at faulty
            cases faulty
          · obtain ⟨before, after, split⟩ := List.append_of_mem member
            have arrives : BlsState.Step server requests s _ :=
              .responseComplete s before after answer split
            have arrived := run.tail arrives
            have found : (s.futures ++ [answer]).find? (fun future => future.1 == ⟨r, icount⟩) =
                some answer := by
              simp [none, same]
            have next : BlsState.advance server requests { s with
                unanswered := before ++ after
                futures := s.futures ++ [answer] } = some (BlsState.takeResponse server { s with
                  unanswered := before ++ after
                  futures := (s.futures ++ [answer]).eraseP fun future => future.1 == ⟨r, icount⟩ }
                  r icount answer.2) := by
              simp only [BlsState.advance, here, less, if_true, found, Option.map_some]
            refine later _ ?_ (arrived.tail (.advance _ _ next)) ?_ rfl
            · exact Nat.lt_trans (advance_work (run_stands arrived) next) (step_work stands arrives)
            · rw [takeResponse_futures]
              simp [none, same]

/-- The responses that nobody waits for are never deleted, and `ProcessRequests` may return, and
release its requests, before the server has given any of them. -/
theorem abandoned_responses :
    (∀ s, BlsState.Reaches server requests (BlsState.start server requests) s →
      s.point = .returned →
        s.responseDeletes = upTo (awaitedOf server requests) requests.length ∧
          ((s.unanswered ++ s.futures).map Prod.fst).Perm
            (upTo (abandonedOf server requests) requests.length)) ∧
      ((∀ r < requests.length, faults server requests r = false) →
        ∃ s, BlsState.Reaches server requests (BlsState.start server requests) s ∧
          s.point = .returned ∧ (s.unanswered.map Prod.fst).Perm
            (upTo (abandonedOf server requests) requests.length)) := by
  constructor
  · intro s run returned
    have stands := run_stands run
    have deletes := stands.responseDeletes
    rw [returned] at deletes
    exact ⟨deletes, returned_abandoned stands returned⟩
  · intro clean
    obtain ⟨s, run, returned, none⟩ := returns_lazily clean Relation.ReflTransGen.refl rfl
    have owed := returned_abandoned (run_stands run) returned
    rw [none, List.append_nil] at owed
    exact ⟨s, run, returned, owed⟩

theorem abandoned_responses_first : ∃ s, BlsState.Reaches secondRefused [addsub]
    (BlsState.start secondRefused [addsub]) s ∧ s.point = .returned ∧
      (s.unanswered.map Prod.fst).Perm [⟨0, 0⟩] :=
  (@abandoned_responses secondRefused [addsub]).2 (by decide)

end

end Bls

end TritonBackend
