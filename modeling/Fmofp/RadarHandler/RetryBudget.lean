import Fmofp.RadarHandler.PendingRequests

/-! The retry budget of a request.  At any time at most one entry can lead to another transmission on
behalf of a request, and the retries that it counts bound the transmissions so far, as long as no
retransmission raises with its entry still there. -/

namespace Fmofp.RadarHandler

open Python Machine

namespace State

/-- Some pass can come to the entry. -/
def Live (s : State) (id : RequestId) : Prop := (id ∈ s.pending ∨ id ∈ s.todo) ∧ id ∉ s.expired

/-- The entry that the count of its request goes on from, and the transmissions it accounts for.
While a resending is under way that is the old entry, not the new one. -/
inductive Carries (s : State) : RequestId → ℕ → Prop
  | waiting {id : RequestId} (hlive : s.Live id) (hnew : ∀ old, s.resend ≠ .sending old id) :
      Carries s id ((s.objects id).retries + 1)
  | preparing {id : RequestId} (h : s.resend = .preparing id) : Carries s id (s.objects id).retries
  | sending {id new : RequestId} (h : s.resend = .sending id new) :
      Carries s id ((s.objects id).retries + 1)

/-- The shape of a state: what a pass has dealt with is not in the rest of its snapshot, and
identifiers are given in order. -/
structure WellFormed (s : State) : Prop where
  todo_nodup : s.todo.Nodup
  dealt : ∀ id ∈ s.todo, id ∉ s.expired
  noPass : s.passTime = none → s.todo = [] ∧ s.expired = [] ∧ s.resend = .idle
  pending_nodup : s.pending.Nodup
  pending_lt : ∀ id ∈ s.pending, id < s.nextId
  todo_lt : ∀ id ∈ s.todo, id < s.nextId
  expired_lt : ∀ id ∈ s.expired, id < s.nextId
  preparing : ∀ old, s.resend = .preparing old → old ∈ s.expired
  sending : ∀ old new, s.resend = .sending old new →
    old ∈ s.expired ∧ new < s.nextId ∧ new ∉ s.todo ∧ new ∉ s.expired ∧
      (s.objects new).origin = (s.objects old).origin
  origin_lt : ∀ id < s.nextId, (s.objects id).origin < s.nextId
  transmissions_lt : ∀ origin ∈ s.transmissions, origin < s.nextId

/-- The budget of one request. -/
structure Within (origin : RequestId) (s : State) : Prop where
  once : ∀ id id' n n', s.Carries id n → s.Carries id' n' → (s.objects id).origin = origin →
    (s.objects id').origin = origin → id = id'
  budget : ∀ id n, s.Carries id n → (s.objects id).origin = origin →
    s.attempts origin ≤ n ∧ (s.objects id).retries ≤ maxRetries
  bound : s.attempts origin ≤ maxRetries + 1

end State

open State

/-- What a step does. -/
inductive Moves (s : State) (a : Action) (s' : State) : Prop
  /-- At most some entries go, or callers start and stop waiting. -/
  | shrink (hsub : s'.pending.Sublist s.pending) (hobjects : s'.objects = s.objects)
      (htodo : s'.todo = s.todo) (hexpired : s'.expired = s.expired) (htime : s'.passTime = s.passTime)
      (hresend : s'.resend = s.resend) (hnext : s'.nextId = s.nextId)
      (hlog : s'.transmissions = s.transmissions)
  | send {r : PendingRequest} {sends : List RequestId} (horigin : r.origin = s.nextId)
      (hretries : r.retries = 0) (hs' : s' = { s.register r with sends := sends })
  | beginPass {now : ℚ} (hnone : s.passTime = none)
      (hs' : s' = { s with passTime := some now, todo := s.pending })
  | skip {id : RequestId} {rest : List RequestId} (htodo : s.todo = id :: rest)
      (hs' : s' = { s with todo := rest })
  | giveUp {id : RequestId} {rest : List RequestId} {passTime : ℚ} (htime : s.passTime = some passTime)
      (hidle : s.resend = .idle) (htodo : s.todo = id :: rest)
      (hs' : s' = { s with todo := rest, expired := s.expired ++ [id] })
  | retry {id : RequestId} {rest : List RequestId} {passTime now : ℚ}
      (htime : s.passTime = some passTime) (hidle : s.resend = .idle) (htodo : s.todo = id :: rest)
      (hretries : (s.objects id).retries < maxRetries)
      (hs' : s' = { s with
        objects := Function.update s.objects id ((s.objects id).incrementRetry now)
        todo := rest
        expired := s.expired ++ [id]
        resend := .preparing id })
  | transmit {old : RequestId} {r : PendingRequest} (hold : s.resend = .preparing old)
      (horigin : r.origin = (s.objects old).origin)
      (hs' : s' = { s.register r with resend := .sending old s.nextId })
  | refuse {old : RequestId} (hold : s.resend = .preparing old) (hs' : s' = { s with resend := .idle })
  | copied {old new : RequestId} (hold : s.resend = .sending old new)
      (hs' : s' = { s with
        objects := Function.update s.objects new
          { s.objects new with retries := (s.objects old).retries }
        resend := .idle })
  /-- The new entry is gone. -/
  | gone {old new : RequestId} (hold : s.resend = .sending old new) (hnew : new ∉ s'.pending)
      (hsub : s'.pending.Sublist s.pending) (hs' : s' = { s with pending := s'.pending, resend := .idle })
  | reset {old new : RequestId} (hold : s.resend = .sending old new)
      (hresets : ResetsBudget (s.objects new).origin s a)
      (hs' : s' = { s with resend := .idle })
  | endPass (hidle : s.resend = .idle) (htodo : s.todo = [])
      (hs' : s' = { s with
        passTime := none, expired := [], pending := s.pending.filter (· ∉ s.expired) })
  | stop (hs' : s' = { s with
      pending := [], passTime := none, todo := [], expired := [], resend := .idle })

theorem moves_nextState (s : State) (a : Action) : Moves s a (nextState s a) := by
  have hstay : Moves s a s := .shrink (List.Sublist.refl _) rfl rfl rfl rfl rfl rfl rfl
  cases a with
  | send requestType radarName data now => exact .send rfl rfl rfl
  | sendDone id outcome =>
    simp only [nextState]
    split_ifs
    · exact .shrink List.filter_sublist rfl rfl rfl rfl rfl rfl rfl
    · exact .shrink (List.Sublist.refl _) rfl rfl rfl rfl rfl rfl rfl
    · exact hstay
  | beginPass now =>
    simp only [nextState]
    split_ifs with hstarted hnone
    · exact .beginPass hnone rfl
    · exact hstay
    · exact .shrink (List.nil_sublist _) rfl rfl rfl rfl rfl rfl rfl
  | examine now =>
    simp only [nextState]
    split
    · rename_i passTime id rest htime hidle htodo
      unfold State.examine
      split_ifs with hexpired hretry
      · rw [Bool.and_eq_true] at hretry
        exact .retry htime hidle htodo (of_decide_eq_true hretry.1) rfl
      · exact .giveUp htime hidle htodo rfl
      · exact .skip htodo rfl
    · exact hstay
  | transmit now =>
    simp only [nextState]
    split
    · rename_i old hold
      exact .transmit (r := { s.objects old with timestamp := now, retries := 0 }) hold rfl rfl
    · exact hstay
  | refuse =>
    simp only [nextState]
    split
    · rename_i old hold
      exact .refuse hold rfl
    · exact hstay
  | resendDone outcome =>
    simp only [nextState]
    split
    · rename_i old new hold
      cases outcome with
      | sent =>
        simp only [State.resendDone]
        split_ifs with hnew
        · exact .copied hold rfl
        · exact .gone hold hnew (List.Sublist.refl _) rfl
      | failed =>
        exact .gone hold (by simp [State.resendDone, State.delete]) List.filter_sublist rfl
      | raised =>
        by_cases hnew : new ∈ s.pending
        · refine .reset hold ?_ rfl
          simp only [ResetsBudget, hold]
          exact ⟨hnew, trivial⟩
        · exact .gone hold hnew (List.Sublist.refl _) rfl
    · exact hstay
  | endPass =>
    simp only [nextState]
    split
    · rename_i passTime htime hidle htodo
      exact .endPass hidle htodo rfl
    · exact hstay
  | respond id => exact .shrink List.filter_sublist rfl rfl rfl rfl rfl rfl rfl
  | stop => exact .stop rfl
  | setStarted started => exact .shrink (List.Sublist.refl _) rfl rfl rfl rfl rfl rfl rfl

theorem wellFormed_idleHandler : idleHandler.WellFormed where
  todo_nodup := List.nodup_nil
  dealt := by simp [idleHandler]
  noPass := fun _ => ⟨rfl, rfl, rfl⟩
  pending_nodup := List.nodup_nil
  pending_lt := by simp [idleHandler]
  todo_lt := by simp [idleHandler]
  expired_lt := by simp [idleHandler]
  preparing := by simp [idleHandler]
  sending := by simp [idleHandler]
  origin_lt := by simp [idleHandler]
  transmissions_lt := by simp [idleHandler]

/-- A new entry of an earlier request, or of a new one. -/
theorem State.WellFormed.register {s : State} (hs : s.WellFormed) {r : PendingRequest}
    (horigin : r.origin ≤ s.nextId) : (s.register r).WellFormed := by
  have hne : ∀ id, id < s.nextId → Function.update s.objects s.nextId r id = s.objects id :=
    fun id hid => Function.update_of_ne hid.ne r s.objects
  exact {
    hs with
    pending_nodup := by
      refine List.Nodup.append hs.pending_nodup (List.nodup_singleton _) ?_
      rintro id hid hnew
      have hlt := hs.pending_lt id hid
      rw [List.mem_singleton.mp hnew] at hlt
      exact lt_irrefl _ hlt
    pending_lt := by
      intro id hid
      show id < s.nextId + 1
      rcases List.mem_append.mp hid with hid | hid
      · exact Nat.lt_succ_of_lt (hs.pending_lt id hid)
      · rw [List.mem_singleton.mp hid]
        exact Nat.lt_succ_self _
    todo_lt := fun id hid => Nat.lt_succ_of_lt (hs.todo_lt id hid)
    expired_lt := fun id hid => Nat.lt_succ_of_lt (hs.expired_lt id hid)
    sending := by
      intro old new hold
      obtain ⟨hexpired, hnew, htodo, hnotexpired, hsame⟩ := hs.sending old new hold
      refine ⟨hexpired, Nat.lt_succ_of_lt hnew, htodo, hnotexpired, ?_⟩
      show (Function.update s.objects s.nextId r new).origin =
        (Function.update s.objects s.nextId r old).origin
      rw [hne new hnew, hne old (hs.expired_lt old hexpired), hsame]
    origin_lt := by
      intro id hid
      show (Function.update s.objects s.nextId r id).origin < s.nextId + 1
      rcases Nat.lt_succ_iff_lt_or_eq.mp hid with hid | rfl
      · rw [hne id hid]
        exact Nat.lt_succ_of_lt (hs.origin_lt id hid)
      · rw [Function.update_self]
        exact Nat.lt_succ_of_le horigin
    transmissions_lt := by
      intro origin hmem
      show origin < s.nextId + 1
      rcases List.mem_cons.mp hmem with rfl | hmem
      · exact Nat.lt_succ_of_le horigin
      · exact Nat.lt_succ_of_lt (hs.transmissions_lt origin hmem) }

/-- An entry of the snapshot is dealt with. -/
theorem State.WellFormed.deal {s : State} (hs : s.WellFormed) {id : RequestId} {rest : List RequestId}
    {passTime : ℚ} (htime : s.passTime = some passTime) (hidle : s.resend = .idle)
    (htodo : s.todo = id :: rest) :
    { s with todo := rest, expired := s.expired ++ [id] }.WellFormed := by
  have hnodup := hs.todo_nodup
  rw [htodo, List.nodup_cons] at hnodup
  exact {
    hs with
    todo_nodup := hnodup.2
    dealt := by
      intro other hother hmem
      rcases List.mem_append.mp hmem with hmem | hmem
      · exact hs.dealt other (by rw [htodo]; exact List.mem_cons_of_mem _ hother) hmem
      · rw [List.mem_singleton.mp hmem] at hother
        exact hnodup.1 hother
    noPass := fun hnone => absurd (hnone : s.passTime = none) (by rw [htime]; exact nofun)
    todo_lt := fun other hother => hs.todo_lt other (by rw [htodo]; exact List.mem_cons_of_mem _ hother)
    expired_lt := by
      intro other hother
      rcases List.mem_append.mp hother with hother | hother
      · exact hs.expired_lt other hother
      · rw [List.mem_singleton.mp hother]
        exact hs.todo_lt id (by rw [htodo]; exact List.mem_cons_self)
    preparing := fun old hold => absurd (hidle.symm.trans hold) nofun
    sending := fun old new hold => absurd (hidle.symm.trans hold) nofun }

/-- The retries and times of entries do not matter. -/
theorem State.WellFormed.objects {s : State} (hs : s.WellFormed) {objects : RequestId → PendingRequest}
    (horigin : ∀ id, (objects id).origin = (s.objects id).origin) :
    { s with objects := objects }.WellFormed := by
  refine { hs with sending := ?_, origin_lt := ?_ }
  · intro old new hold
    obtain ⟨hexpired, hnew, htodo, hnotexpired, hsame⟩ := hs.sending old new hold
    exact ⟨hexpired, hnew, htodo, hnotexpired, by rw [horigin, horigin, hsame]⟩
  · intro id hid
    show (objects id).origin < s.nextId
    rw [horigin]
    exact hs.origin_lt id hid

/-- A resending is over. -/
theorem State.WellFormed.resend_idle {s : State} (hs : s.WellFormed) : { s with resend := .idle }.WellFormed :=
  { hs with
    noPass := fun hnone => ⟨(hs.noPass hnone).1, (hs.noPass hnone).2.1, rfl⟩
    preparing := nofun
    sending := nofun }

theorem State.WellFormed.pending_sublist {s : State} (hs : s.WellFormed) {pending : List RequestId}
    (hsub : pending.Sublist s.pending) : { s with pending := pending }.WellFormed :=
  { hs with
    pending_nodup := hs.pending_nodup.sublist hsub
    pending_lt := fun id hid => hs.pending_lt id (hsub.subset hid) }

theorem update_origin (objects : RequestId → PendingRequest) {id : RequestId} {r : PendingRequest}
    (h : r.origin = (objects id).origin) (other : RequestId) :
    (Function.update objects id r other).origin = (objects other).origin := by
  by_cases hother : other = id
  · rw [hother, Function.update_self, h]
  · rw [Function.update_of_ne hother]

theorem State.WellFormed.nextState {s : State} (hs : s.WellFormed) (a : Action) :
    (nextState s a).WellFormed := by
  have hmoves := moves_nextState s a
  generalize Fmofp.RadarHandler.nextState s a = s' at hmoves ⊢
  cases hmoves with
  | shrink hsub hobjects htodo hexpired htime hresend hnext hlog =>
    have hshrunk := hs.pending_sublist hsub
    cases s'
    simp only at hobjects htodo hexpired htime hresend hnext hlog
    subst hobjects htodo hexpired htime hresend hnext hlog
    exact { hshrunk with }
  | send horigin hretries hs' =>
    subst hs'
    exact { hs.register (le_of_eq horigin) with }
  | beginPass hnone hs' =>
    subst hs'
    obtain ⟨-, hexpired, hidle⟩ := hs.noPass hnone
    exact {
      hs with
      todo_nodup := hs.pending_nodup
      dealt := fun id _ => by
        show id ∉ s.expired
        rw [hexpired]
        exact List.not_mem_nil
      noPass := nofun
      todo_lt := hs.pending_lt
      sending := fun old new hold => absurd (hidle.symm.trans hold) nofun }
  | @skip id rest htodo hs' =>
    subst hs'
    have hnodup := hs.todo_nodup
    have hmem : ∀ other ∈ rest, other ∈ s.todo := fun other hother => by
      rw [htodo]
      exact List.mem_cons_of_mem _ hother
    rw [htodo, List.nodup_cons] at hnodup
    exact {
      hs with
      todo_nodup := hnodup.2
      dealt := fun other hother => hs.dealt other (hmem other hother)
      noPass := fun hnone => absurd ((hs.noPass hnone).1 ▸ htodo) nofun
      todo_lt := fun other hother => hs.todo_lt other (hmem other hother)
      sending := fun old new hold => by
        obtain ⟨hexpired, hnew, hnottodo, hnotexpired, hsame⟩ := hs.sending old new hold
        exact ⟨hexpired, hnew, fun hrest => hnottodo (hmem new hrest), hnotexpired, hsame⟩ }
  | giveUp htime hidle htodo hs' =>
    subst hs'
    exact hs.deal htime hidle htodo
  | @retry id rest passTime now htime hidle htodo hretries hs' =>
    subst hs'
    have horigin := update_origin s.objects (r := (s.objects id).incrementRetry now) rfl
    have hdealt := (hs.deal htime hidle htodo).objects horigin
    exact {
      hdealt with
      noPass := fun hnone => absurd (htime.symm.trans hnone) nofun
      preparing := fun old hold => by
        cases hold
        exact List.mem_append_right _ List.mem_cons_self
      sending := nofun }
  | @transmit old r hold horigin hs' =>
    subst hs'
    have hlt := hs.expired_lt old (hs.preparing old hold)
    have hregistered := hs.register (r := r)
      (horigin ▸ (hs.origin_lt old hlt).le)
    refine {
      hregistered with
      noPass := fun hnone => absurd (hold.symm.trans (hs.noPass hnone).2.2) nofun
      preparing := nofun
      sending := ?_ }
    intro old' new' hsending
    cases hsending
    have hnottodo : s.nextId ∉ s.todo := fun hmem => lt_irrefl _ (hs.todo_lt _ hmem)
    have hnotexpired : s.nextId ∉ s.expired := fun hmem => lt_irrefl _ (hs.expired_lt _ hmem)
    refine ⟨hs.preparing old hold, Nat.lt_succ_self _, hnottodo, hnotexpired, ?_⟩
    show (Function.update s.objects s.nextId r s.nextId).origin =
      (Function.update s.objects s.nextId r old).origin
    rw [Function.update_self, Function.update_of_ne hlt.ne, horigin]
  | refuse hold hs' =>
    subst hs'
    exact hs.resend_idle
  | @copied old new hold hs' =>
    subst hs'
    have horigin := update_origin s.objects
      (r := { s.objects new with retries := (s.objects old).retries }) rfl
    exact (hs.objects horigin).resend_idle
  | gone hold hnew hsub hs' =>
    rw [hs']
    exact { (hs.pending_sublist hsub).resend_idle with }
  | reset hold hresets hs' =>
    subst hs'
    exact hs.resend_idle
  | endPass hidle htodo hs' =>
    subst hs'
    exact {
      hs.pending_sublist (List.filter_sublist (p := (· ∉ s.expired))) with
      dealt := fun _ _ => List.not_mem_nil
      noPass := fun _ => ⟨htodo, rfl, hidle⟩
      expired_lt := nofun
      preparing := fun old hold => absurd (hidle.symm.trans hold) nofun
      sending := fun old new hold => absurd (hidle.symm.trans hold) nofun }
  | stop hs' =>
    subst hs'
    exact {
      hs with
      todo_nodup := List.nodup_nil
      dealt := nofun
      noPass := fun _ => ⟨rfl, rfl, rfl⟩
      pending_nodup := List.nodup_nil
      pending_lt := nofun
      todo_lt := nofun
      expired_lt := nofun
      preparing := nofun
      sending := nofun }

/-! ### The budget -/

theorem State.WellFormed.carries_lt {s : State} (hs : s.WellFormed) {id : RequestId} {n : ℕ}
    (h : s.Carries id n) : id < s.nextId := by
  cases h with
  | waiting hlive hnew => exact hlive.1.elim (hs.pending_lt id) (hs.todo_lt id)
  | preparing h => exact hs.expired_lt id (hs.preparing id h)
  | sending h => exact hs.expired_lt id (hs.sending id _ h).1

/-- Nothing new carries the budget of the request. -/
theorem State.Within.of_carries {origin : RequestId} {s s' : State} (hs : s.Within origin)
    (hlog : s'.attempts origin = s.attempts origin)
    (h : ∀ id n, s'.Carries id n → (s'.objects id).origin = origin →
      s.Carries id n ∧ s'.objects id = s.objects id) : s'.Within origin where
  once id id' n n' hid hid' horigin horigin' := by
    obtain ⟨hcarries, hsame⟩ := h id n hid horigin
    obtain ⟨hcarries', hsame'⟩ := h id' n' hid' horigin'
    rw [hsame] at horigin
    rw [hsame'] at horigin'
    exact hs.once id id' n n' hcarries hcarries' horigin horigin'
  budget id n hid horigin := by
    obtain ⟨hcarries, hsame⟩ := h id n hid horigin
    rw [hsame] at horigin ⊢
    rw [hlog]
    exact hs.budget id n hcarries horigin
  bound := by
    rw [hlog]
    exact hs.bound

/-- The same for a step that writes no entry. -/
theorem State.Within.of_live {origin : RequestId} {s s' : State} (hs : s.Within origin)
    (hobjects : s'.objects = s.objects) (hlog : s'.transmissions = s.transmissions)
    (hresend : s'.resend = s.resend ∨ s'.resend = .idle)
    (hlive : ∀ id, s'.Live id → (s.objects id).origin = origin →
      s.Live id ∧ ∀ old, s'.resend ≠ .sending old id → s.resend ≠ .sending old id) :
    s'.Within origin := by
  refine hs.of_carries (by rw [attempts, attempts, hlog]) fun id n hid horigin => ?_
  rw [hobjects] at horigin
  refine ⟨?_, by rw [hobjects]⟩
  cases hid with
  | waiting hwaiting hnew =>
    obtain ⟨hbefore, hnot⟩ := hlive id hwaiting horigin
    rw [hobjects]
    exact .waiting hbefore fun old => hnot old (hnew old)
  | preparing h =>
    rw [hobjects]
    rcases hresend with hresend | hresend
    · exact .preparing (hresend ▸ h)
    · rw [hresend] at h
      cases h
  | sending h =>
    rw [hobjects]
    rcases hresend with hresend | hresend
    · exact .sending (hresend ▸ h)
    · rw [hresend] at h
      cases h

theorem State.Within.send {origin : RequestId} {s : State} (hs : s.Within origin)
    (hwf : s.WellFormed) {r : PendingRequest} (horigin : r.origin = s.nextId)
    (hretries : r.retries = 0) (sends : List RequestId) :
    { s.register r with sends := sends }.Within origin := by
  have hcarries : ∀ id n, { s.register r with sends := sends }.Carries id n → id ≠ s.nextId →
      s.Carries id n ∧ (s.register r).objects id = s.objects id := by
    intro id n hid hne
    have hsame : (s.register r).objects id = s.objects id := Function.update_of_ne hne _ _
    refine ⟨?_, hsame⟩
    cases hid with
    | waiting hwaiting hnew =>
      show s.Carries id (((s.register r).objects id).retries + 1)
      rw [hsame]
      refine .waiting ⟨hwaiting.1.imp_left fun hmem => ?_, hwaiting.2⟩ hnew
      rcases List.mem_append.mp hmem with hmem | hmem
      · exact hmem
      · exact absurd (List.mem_singleton.mp hmem) hne
    | preparing h =>
      show s.Carries id ((s.register r).objects id).retries
      rw [hsame]
      exact .preparing h
    | sending h =>
      show s.Carries id (((s.register r).objects id).retries + 1)
      rw [hsame]
      exact .sending h
  have hself : (s.register r).objects s.nextId = r := Function.update_self _ _ _
  by_cases ho : origin = s.nextId
  · subst ho
    have hcount : s.attempts s.nextId = 0 :=
      List.count_eq_zero.mpr fun hmem => lt_irrefl _ (hwf.transmissions_lt _ hmem)
    have hattempts : { s.register r with sends := sends }.attempts s.nextId = 1 := by
      show (r.origin :: s.transmissions).count s.nextId = 1
      rw [horigin, List.count_cons_self]
      exact congrArg (· + 1) hcount
    have honly : ∀ id n, { s.register r with sends := sends }.Carries id n →
        ((s.register r).objects id).origin = s.nextId → id = s.nextId := by
      intro id n hid hid_origin
      by_contra hne
      obtain ⟨hbefore, hsame⟩ := hcarries id n hid hne
      rw [hsame] at hid_origin
      have hlt := hwf.origin_lt id (hwf.carries_lt hbefore)
      rw [hid_origin] at hlt
      exact lt_irrefl _ hlt
    refine ⟨fun id id' n n' hid hid' h h' => ?_, fun id n hid h => ?_, ?_⟩
    · rw [honly id n hid h, honly id' n' hid' h']
    · have hid_eq := honly id n hid h
      subst hid_eq
      rw [hattempts]
      show 1 ≤ n ∧ ((s.register r).objects s.nextId).retries ≤ maxRetries
      rw [hself, hretries]
      refine ⟨?_, Nat.zero_le _⟩
      cases hid with
      | waiting _ _ => exact Nat.le_add_left 1 _
      | preparing h => exact absurd (hwf.expired_lt _ (hwf.preparing _ h)) (lt_irrefl _)
      | sending _ => exact Nat.le_add_left 1 _
    · rw [hattempts]
      exact Nat.le_add_left 1 _
  · refine hs.of_carries ?_ fun id n hid h => ?_
    · show (r.origin :: s.transmissions).count origin = s.transmissions.count origin
      rw [horigin, List.count_cons_of_ne (Ne.symm ho)]
    · refine hcarries id n hid fun hid_eq => ho ?_
      subst hid_eq
      rw [← h]
      show ((s.register r).objects s.nextId).origin = s.nextId
      rw [hself, horigin]

/-- A retry begins: the entry counts it, and goes out of the pass. -/
theorem State.Within.retry {origin : RequestId} {s : State} (hs : s.Within origin)
    (hwf : s.WellFormed) {id : RequestId} {rest : List RequestId} {now : ℚ}
    (hidle : s.resend = .idle) (htodo : s.todo = id :: rest)
    (hretries : (s.objects id).retries < maxRetries) :
    { s with
      objects := Function.update s.objects id ((s.objects id).incrementRetry now)
      todo := rest
      expired := s.expired ++ [id]
      resend := .preparing id }.Within origin := by
  have hmem : id ∈ s.todo := by
    rw [htodo]
    exact List.mem_cons_self
  have hbefore : s.Carries id ((s.objects id).retries + 1) :=
    .waiting ⟨.inr hmem, hwf.dealt id hmem⟩ fun old hold => absurd (hidle.symm.trans hold) nofun
  generalize hs' : ({ s with
      objects := Function.update s.objects id ((s.objects id).incrementRetry now)
      todo := rest
      expired := s.expired ++ [id]
      resend := .preparing id } : State) = s'
  have hexpired : s'.expired = s.expired ++ [id] := by rw [← hs']
  have hresend : s'.resend = .preparing id := by rw [← hs']
  have hself : s'.objects id = (s.objects id).incrementRetry now := by
    rw [← hs']
    exact Function.update_self _ _ _
  have hother : ∀ other, other ≠ id → s'.objects other = s.objects other := by
    intro other hne
    rw [← hs']
    exact Function.update_of_ne hne _ _
  have hlog : s'.attempts origin = s.attempts origin := by rw [← hs']; rfl
  have hcarries : ∀ other n, s'.Carries other n →
      other = id ∧ n = (s.objects id).retries + 1 ∨
        other ≠ id ∧ s.Carries other n ∧ s'.objects other = s.objects other := by
    intro other n h
    cases h with
    | waiting hlive hnew =>
      have hne : other ≠ id := by
        rintro rfl
        exact hlive.2 (by rw [hexpired]; exact List.mem_append_right _ List.mem_cons_self)
      refine .inr ⟨hne, ?_, hother other hne⟩
      rw [hother other hne]
      refine .waiting ⟨?_, fun h => hlive.2 (by rw [hexpired]; exact List.mem_append_left _ h)⟩
        fun old hold => absurd (hidle.symm.trans hold) nofun
      rw [htodo]
      rw [← hs'] at hlive
      exact hlive.1.imp_right (List.mem_cons_of_mem _)
    | preparing h =>
      rw [hresend] at h
      cases h
      refine .inl ⟨rfl, ?_⟩
      rw [hself]
      rfl
    | sending h =>
      rw [hresend] at h
      cases h
  have horigin : ∀ other, (s'.objects other).origin = (s.objects other).origin := by
    intro other
    by_cases hne : other = id
    · rw [hne, hself]
      rfl
    · rw [hother other hne]
  refine ⟨fun a b n n' ha hb hao hbo => ?_, fun other n h ho => ?_, ?_⟩
  · rw [horigin] at hao hbo
    rcases hcarries a n ha with ⟨rfl, -⟩ | ⟨-, ha, -⟩ <;>
      rcases hcarries b n' hb with ⟨rfl, -⟩ | ⟨-, hb, -⟩
    · rfl
    · exact hs.once a b _ _ hbefore hb hao hbo
    · exact hs.once a b _ _ ha hbefore hao hbo
    · exact hs.once a b _ _ ha hb hao hbo
  · rw [horigin] at ho
    rw [hlog]
    rcases hcarries other n h with ⟨rfl, rfl⟩ | ⟨-, hother', hsame⟩
    · rw [hself]
      exact ⟨(hs.budget _ _ hbefore ho).1, hretries⟩
    · rw [hsame]
      exact hs.budget other n hother' ho
  · rw [hlog]
    exact hs.bound

/-- The retransmission: its old entry accounts for it. -/
theorem State.Within.transmit {origin : RequestId} {s : State} (hs : s.Within origin)
    (hwf : s.WellFormed) {old : RequestId} {r : PendingRequest} (hold : s.resend = .preparing old)
    (horigin : r.origin = (s.objects old).origin) :
    { s.register r with resend := .sending old s.nextId }.Within origin := by
  have hexpired := hwf.preparing old hold
  have hlt := hwf.expired_lt old hexpired
  generalize hs' : ({ s.register r with resend := .sending old s.nextId } : State) = s'
  have hresend : s'.resend = .sending old s.nextId := by rw [← hs']
  have hother : ∀ id, id ≠ s.nextId → s'.objects id = s.objects id := by
    intro id hne
    rw [← hs']
    exact Function.update_of_ne hne _ _
  have hlog : s'.attempts origin = s.attempts origin + if (s.objects old).origin = origin then 1 else 0 := by
    rw [← hs', ← horigin]
    show (r.origin :: s.transmissions).count origin = _
    rw [List.count_cons]
    simp only [beq_iff_eq]
    rfl
  have hcarries : ∀ id n, s'.Carries id n → s'.objects id = s.objects id ∧
      (id = old ∧ n = (s.objects old).retries + 1 ∨ id ≠ old ∧ s.Carries id n) := by
    intro id n h
    cases h with
    | waiting hlive hnew =>
      have hne : id ≠ s.nextId := by
        rintro rfl
        exact hnew old hresend
      have hsame := hother id hne
      refine ⟨hsame, .inr ⟨?_, ?_⟩⟩
      · rintro rfl
        rw [← hs'] at hlive
        exact hlive.2 hexpired
      · rw [hsame]
        rw [← hs'] at hlive
        refine .waiting ⟨hlive.1.imp_left fun hmem => ?_, hlive.2⟩ fun _ h => absurd (hold.symm.trans h) nofun
        rcases List.mem_append.mp hmem with hmem | hmem
        · exact hmem
        · exact absurd (List.mem_singleton.mp hmem) hne
    | preparing h =>
      rw [hresend] at h
      cases h
    | sending h =>
      rw [hresend] at h
      cases h
      have hsame := hother old hlt.ne
      exact ⟨hsame, .inl ⟨rfl, by rw [hsame]⟩⟩
  have hbefore : s.Carries old (s.objects old).retries := .preparing hold
  refine ⟨fun a b n n' ha hb hao hbo => ?_, fun id n h ho => ?_, ?_⟩
  · obtain ⟨hsame, ha⟩ := hcarries a n ha
    obtain ⟨hsame', hb⟩ := hcarries b n' hb
    rw [hsame] at hao
    rw [hsame'] at hbo
    rcases ha with ⟨rfl, -⟩ | ⟨-, ha⟩ <;> rcases hb with ⟨rfl, -⟩ | ⟨-, hb⟩
    · rfl
    · exact hs.once a b _ _ hbefore hb hao hbo
    · exact hs.once a b _ _ ha hbefore hao hbo
    · exact hs.once a b _ _ ha hb hao hbo
  · obtain ⟨hsame, h⟩ := hcarries id n h
    rw [hsame] at ho ⊢
    rw [hlog]
    rcases h with ⟨rfl, rfl⟩ | ⟨hne, h⟩
    · rw [if_pos ho]
      obtain ⟨hcount, hmax⟩ := hs.budget _ _ hbefore ho
      exact ⟨Nat.succ_le_succ hcount, hmax⟩
    · have hnot : (s.objects old).origin ≠ origin := fun heq => hne (hs.once id old _ _ h hbefore ho heq)
      rw [if_neg hnot]
      exact hs.budget id n h ho
  · rw [hlog]
    split_ifs with heq
    · obtain ⟨hcount, hmax⟩ := hs.budget _ _ hbefore heq
      exact Nat.succ_le_succ (hcount.trans hmax)
    · exact hs.bound

/-- After a success the new entry goes on with the count of the old one. -/
theorem State.Within.copied {origin : RequestId} {s : State} (hs : s.Within origin)
    (hwf : s.WellFormed) {old new : RequestId} (hold : s.resend = .sending old new) :
    { s with
      objects := Function.update s.objects new
        { s.objects new with retries := (s.objects old).retries }
      resend := .idle }.Within origin := by
  obtain ⟨hexpired, -, -, hnotexpired, hsame⟩ := hwf.sending old new hold
  generalize hs' : ({ s with
      objects := Function.update s.objects new
        { s.objects new with retries := (s.objects old).retries }
      resend := .idle } : State) = s'
  have hresend : s'.resend = .idle := by rw [← hs']
  have hself : s'.objects new = { s.objects new with retries := (s.objects old).retries } := by
    rw [← hs']
    exact Function.update_self _ _ _
  have hother : ∀ id, id ≠ new → s'.objects id = s.objects id := by
    intro id hne
    rw [← hs']
    exact Function.update_of_ne hne _ _
  have hlog : s'.attempts origin = s.attempts origin := by rw [← hs']; rfl
  have hbefore : s.Carries old ((s.objects old).retries + 1) := .sending hold
  have hcarries : ∀ id n, s'.Carries id n →
      id = new ∧ n = (s.objects old).retries + 1 ∨
        id ≠ new ∧ id ≠ old ∧ s.Carries id n ∧ s'.objects id = s.objects id := by
    intro id n h
    cases h with
    | waiting hlive hnew =>
      rw [← hs'] at hlive
      by_cases hid : id = new
      · subst hid
        exact .inl ⟨rfl, by rw [hself]⟩
      · refine .inr ⟨hid, ?_, ?_, hother id hid⟩
        · rintro rfl
          exact hlive.2 hexpired
        · rw [hother id hid]
          refine .waiting hlive fun old' hold' => hid ?_
          rw [hold] at hold'
          cases hold'
          rfl
    | preparing h =>
      rw [hresend] at h
      cases h
    | sending h =>
      rw [hresend] at h
      cases h
  have hnew : (s'.objects new).origin = (s.objects old).origin := by
    rw [hself]
    exact hsame
  refine ⟨fun a b n n' ha hb hao hbo => ?_, fun id n h ho => ?_, ?_⟩
  · rcases hcarries a n ha with ⟨rfl, -⟩ | ⟨-, haold, ha, hasame⟩ <;>
      rcases hcarries b n' hb with ⟨rfl, -⟩ | ⟨-, hbold, hb, hbsame⟩
    · rfl
    · rw [hnew] at hao
      rw [hbsame] at hbo
      exact absurd (hs.once b old _ _ hb hbefore hbo hao) hbold
    · rw [hnew] at hbo
      rw [hasame] at hao
      exact absurd (hs.once a old _ _ ha hbefore hao hbo) haold
    · rw [hasame] at hao
      rw [hbsame] at hbo
      exact hs.once a b _ _ ha hb hao hbo
  · rw [hlog]
    rcases hcarries id n h with ⟨rfl, rfl⟩ | ⟨-, -, hbefore', hsame'⟩
    · rw [hnew] at ho
      rw [hself]
      exact hs.budget _ _ hbefore ho
    · rw [hsame'] at ho ⊢
      exact hs.budget id n hbefore' ho
  · rw [hlog]
    exact hs.bound

theorem State.Within.nextState {origin : RequestId} {s : State} (hs : s.Within origin)
    (hwf : s.WellFormed) {a : Action} (hguard : ¬ResetsBudget origin s a) :
    (nextState s a).Within origin := by
  have hmoves := moves_nextState s a
  generalize Fmofp.RadarHandler.nextState s a = s' at hmoves ⊢
  cases hmoves with
  | shrink hsub hobjects htodo hexpired htime hresend hnext hlog =>
    refine hs.of_live hobjects hlog (.inl hresend) fun id hlive _ => ⟨⟨?_, ?_⟩, ?_⟩
    · rw [← htodo]
      exact hlive.1.imp_left fun h => hsub.subset h
    · rw [← hexpired]
      exact hlive.2
    · rw [hresend]
      exact fun _ h => h
  | send horigin hretries hs' =>
    subst hs'
    exact hs.send hwf horigin hretries _
  | beginPass hnone hs' =>
    subst hs'
    refine hs.of_live rfl rfl (.inl rfl) fun id hlive _ => ⟨⟨?_, hlive.2⟩, fun _ h => h⟩
    exact .inl (hlive.1.elim (fun h => h) fun h => h)
  | @skip id rest htodo hs' =>
    subst hs'
    refine hs.of_live rfl rfl (.inl rfl) fun id hlive _ => ⟨⟨?_, hlive.2⟩, fun _ h => h⟩
    rw [htodo]
    exact hlive.1.imp_right (List.mem_cons_of_mem _)
  | giveUp htime hidle htodo hs' =>
    subst hs'
    refine hs.of_live rfl rfl (.inl rfl) fun id hlive _ => ⟨⟨?_, ?_⟩, fun _ h => h⟩
    · rw [htodo]
      exact hlive.1.imp_right (List.mem_cons_of_mem _)
    · exact fun h => hlive.2 (List.mem_append_left _ h)
  | retry htime hidle htodo hretries hs' =>
    subst hs'
    exact hs.retry hwf hidle htodo hretries
  | transmit hold horigin hs' =>
    subst hs'
    exact hs.transmit hwf hold horigin
  | refuse hold hs' =>
    subst hs'
    exact hs.of_live rfl rfl (.inr rfl) fun id hlive _ =>
      ⟨hlive, fun _ _ h => absurd (hold.symm.trans h) nofun⟩
  | copied hold hs' =>
    subst hs'
    exact hs.copied hwf hold
  | @gone old new hold hnew hsub hs' =>
    obtain ⟨-, -, hnottodo, -, -⟩ := hwf.sending old new hold
    rw [hs']
    refine hs.of_live rfl rfl (.inr rfl) fun id hlive _ => ⟨⟨?_, hlive.2⟩, ?_⟩
    · exact hlive.1.imp_left fun h => hsub.subset h
    · intro old' _ hold'
      rw [hold] at hold'
      cases hold'
      exact hlive.1.elim hnew hnottodo
  | @reset old new hold hresets hs' =>
    subst hs'
    refine hs.of_live rfl rfl (.inr rfl) fun id hlive horigin => ⟨hlive, ?_⟩
    intro old' _ hold'
    rw [hold] at hold'
    cases hold'
    rw [horigin] at hresets
    exact hguard hresets
  | endPass hidle htodo hs' =>
    subst hs'
    refine hs.of_live rfl rfl (.inl rfl) fun id hlive _ => ⟨?_, fun _ h => h⟩
    rcases hlive.1 with h | h
    · obtain ⟨hpending, hnot⟩ := List.mem_filter.mp h
      exact ⟨.inl hpending, of_decide_eq_true hnot⟩
    · exact absurd (htodo ▸ h) List.not_mem_nil
  | stop hs' =>
    subst hs'
    refine hs.of_live rfl rfl (.inr rfl) fun id hlive _ => ?_
    exact absurd hlive.1 (by rintro (h | h) <;> exact List.not_mem_nil h)

theorem within_idleHandler (origin : RequestId) : idleHandler.Within origin := by
  have hnone : ∀ id n, ¬idleHandler.Carries id n := by
    intro id n h
    cases h with
    | waiting hlive _ => exact hlive.1.elim List.not_mem_nil List.not_mem_nil
    | preparing h => cases h
    | sending h => cases h
  exact ⟨fun id _ n _ h => absurd h (hnone id n), fun id n h => absurd h (hnone id n), Nat.zero_le _⟩

/-- Over every run, a request is transmitted at most once and `maxRetries` times again, if no
retransmission on its behalf raises with its entry still there. -/
theorem retry_budget (origin : RequestId) (actions : List Action)
    (h : Along retryStep (fun s a => ¬ResetsBudget origin s a) idleHandler actions) :
    (final retryStep idleHandler actions).attempts origin ≤ 1 + maxRetries := by
  have hstep : ∀ s a, s.WellFormed ∧ s.Within origin → ¬ResetsBudget origin s a →
      (nextState s a).WellFormed ∧ (nextState s a).Within origin := fun s a hs hguard =>
    ⟨hs.1.nextState a, hs.2.nextState hs.1 hguard⟩
  have hfinal := @invariant_along _ _ _ retryStep (fun s => s.WellFormed ∧ s.Within origin)
    (fun s a => ¬ResetsBudget origin s a) hstep idleHandler
    ⟨wellFormed_idleHandler, within_idleHandler origin⟩ actions [] (by rwa [List.append_nil])
  rw [Nat.add_comm]
  exact hfinal.2.bound

/-! ### A bus that always raises -/

/-- A pass at time `now` over one expired entry whose retransmission raises. -/
def raisingPass (now : ℚ) : List Action :=
  [.beginPass now, .examine now, .transmit now, .resendDone .raised, .endPass]

/-- The only pending entry is a status request for the first request, with a fresh budget. -/
structure Stranded (s : State) (id : RequestId) (now : ℚ) : Prop where
  pending : s.pending = [id]
  lt : id < s.nextId
  passTime : s.passTime = none
  todo : s.todo = []
  expired : s.expired = []
  resend : s.resend = .idle
  started : s.started = true
  requestType : (s.objects id).requestType = "status"
  timestamp : (s.objects id).timestamp = now
  retries : (s.objects id).retries = 0
  origin : (s.objects id).origin = 0

/-- The pass leaves the same situation behind, with one more transmission. -/
theorem Stranded.raisingPass {s : State} {id : RequestId} {now : ℚ} (h : Stranded s id now) :
    Stranded (final retryStep s (raisingPass (now + 6))) s.nextId (now + 6) ∧
      (final retryStep s (raisingPass (now + 6))).attempts 0 = s.attempts 0 + 1 := by
  have hexpired : (s.objects id).isExpired (now + 6) = true := by
    rw [PendingRequest.isExpired, PendingRequest.timeout, h.requestType, h.timestamp,
      if_neg (by decide)]
    norm_num
  have hretry : (s.objects id).shouldRetry = true := by
    rw [PendingRequest.shouldRetry, h.retries]
    rfl
  have hne : id ≠ s.nextId := h.lt.ne
  let spent := (s.objects id).incrementRetry (now + 6)
  let r := { spent with timestamp := now + 6, retries := 0 }
  let started : State := { s with passTime := some (now + 6), todo := [id] }
  let preparing : State := { started with
    objects := Function.update s.objects id spent
    todo := []
    expired := [id]
    resend := .preparing id }
  let sending : State := { preparing.register r with resend := .sending id s.nextId }
  have hbegin : nextState s (.beginPass (now + 6)) = started := by
    simp [nextState, h.started, h.passTime, h.pending, started]
  have hexamine : nextState started (.examine (now + 6)) = preparing := by
    simp [nextState, State.examine, started, preparing, h.resend, h.started, h.expired, hexpired,
      hretry, spent]
  have htransmit : nextState preparing (.transmit (now + 6)) = sending := by
    simp [nextState, sending, preparing, started, r]
  have hraised : nextState sending (.resendDone .raised) = { sending with resend := .idle } := rfl
  have hend : nextState { sending with resend := .idle } .endPass =
      { sending with
        resend := .idle, passTime := none, expired := [], pending := [s.nextId] } := by
    simp [nextState, sending, preparing, started, State.register, h.pending, hne.symm]
  have hfinal : final retryStep s (RadarHandler.raisingPass (now + 6)) =
      { sending with
        resend := .idle, passTime := none, expired := [], pending := [s.nextId] } := by
    simp only [RadarHandler.raisingPass, final_cons, final_nil, retryStep, hbegin, hexamine,
      htransmit, hraised, hend]
  have hnew : sending.objects s.nextId = r := Function.update_self _ _ _
  rw [hfinal]
  refine ⟨⟨rfl, Nat.lt_succ_self _, rfl, rfl, rfl, rfl, h.started, ?_, ?_, ?_, ?_⟩, ?_⟩
  · exact (congrArg PendingRequest.requestType hnew).trans h.requestType
  · exact congrArg PendingRequest.timestamp hnew
  · exact congrArg PendingRequest.retries hnew
  · exact (congrArg PendingRequest.origin hnew).trans h.origin
  · show (r.origin :: s.transmissions).count 0 = s.transmissions.count 0 + 1
    have horigin : r.origin = 0 := h.origin
    rw [horigin, List.count_cons_self]

/-- Any number of such passes. -/
def raisingPasses (now : ℚ) : ℕ → List Action
  | 0 => []
  | n + 1 => raisingPass (now + 6) ++ raisingPasses (now + 6) n

/-- While every retransmission raises, the request is never given up. -/
theorem Stranded.attempts {s : State} {id : RequestId} {now : ℚ} (h : Stranded s id now) (n : ℕ) :
    (final retryStep s (raisingPasses now n)).attempts 0 = s.attempts 0 + n := by
  induction n generalizing s id now with
  | zero => rfl
  | succ n ih =>
    obtain ⟨hnext, hattempts⟩ := h.raisingPass
    rw [raisingPasses, final_append, ih hnext, hattempts]
    omega

/-- A request that its caller got the identifier of. -/
def acceptedStatus : List Action :=
  [.send "status" "weather_radar" .none 0, .sendDone 0 .sent]

theorem stranded_acceptedStatus : Stranded (final retryStep idleHandler acceptedStatus) 0 0 :=
  ⟨rfl, Nat.zero_lt_one, rfl, rfl, rfl, rfl, rfl, rfl, rfl, rfl, rfl⟩

theorem unbounded_retries (n : ℕ) :
    (final retryStep idleHandler (acceptedStatus ++ raisingPasses 0 n)).attempts 0 = 1 + n := by
  rw [final_append, stranded_acceptedStatus.attempts]
  rfl

/-- Four retransmissions that raise make five transmissions. -/
theorem budget_exceeded :
    ¬∀ (origin : RequestId) (actions : List Action),
      (final retryStep idleHandler actions).attempts origin ≤ 1 + maxRetries := by
  intro h
  have hfour := h 0 (acceptedStatus ++ raisingPasses 0 4)
  rw [unbounded_retries] at hfour
  revert hfour
  decide

/-- A request whose only retransmission succeeds. -/
theorem retry_budget_sample :
    (final retryStep idleHandler
      (acceptedStatus ++ [.beginPass 6, .examine 6, .transmit 6, .resendDone .sent, .endPass])).attempts 0 ≤
        1 + maxRetries :=
  retry_budget 0 _ (by decide +kernel)

end Fmofp.RadarHandler
