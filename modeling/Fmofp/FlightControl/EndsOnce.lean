import Fmofp.FlightControl.PendingRequests

/-! Every request of the flight control handler ends once.  A pass deals with each entry whose window it
finds elapsed by itself, and each request that was sent is in one place: it waits in the table, or a
handler has it in hand, or it has had its response or its timeout. -/

namespace Fmofp.FlightControl

open Python Machine

/-- What one entry of the table becomes in a pass. -/
inductive Verdict where
  | kept
  | prolonged
  | givenUp
  deriving DecidableEq

def Pass.verdict (p : Pass) (id : RequestId) (r : PendingRequest) : Verdict :=
  if r.isExpired (p.check id) then if r.shouldRetry then .prolonged else .givenUp else .kept

section Loops

variable (p : Pass)

theorem extendWindows_spec (ids : List RequestId) (pending : Dict RequestId PendingRequest)
    (hids : ids.Nodup) (hpresent : ∀ id ∈ ids, Dict.has pending id = true) :
    (extendWindows p ids pending).1 = ids.map .extended ∧
      (extendWindows p ids pending).2.2 = true ∧
      (extendWindows p ids pending).2.1.map Prod.fst = pending.map Prod.fst ∧
      ∀ j, Dict.get? (extendWindows p ids pending).2.1 j =
        if j ∈ ids then (Dict.get? pending j).map (·.incrementRetry (p.stamp j))
        else Dict.get? pending j := by
  induction ids generalizing pending with
  | nil => simp [extendWindows]
  | cons id rest ih =>
    obtain ⟨hnew, hrest⟩ := List.nodup_cons.mp hids
    obtain ⟨r, hr⟩ := Dict.has_iff.mp (hpresent id List.mem_cons_self)
    have hstill : ∀ j ∈ rest, Dict.has (Dict.set pending id (r.incrementRetry (p.stamp id))) j = true := by
      intro j hj
      obtain ⟨r', hr'⟩ := Dict.has_iff.mp (hpresent j (List.mem_cons_of_mem _ hj))
      have hne : id ≠ j := fun h => hnew (h ▸ hj)
      exact Dict.has_iff.mpr ⟨r', by rw [Dict.get?_set_ne _ _ hne, hr']⟩
    obtain ⟨hevents, hdone, hkeys, hget⟩ := ih _ hrest hstill
    simp only [extendWindows, hr]
    refine ⟨by rw [hevents, List.map_cons], hdone, ?_, fun j => ?_⟩
    · rw [hkeys, Dict.keys_set_of_get? hr]
    · rw [hget]
      by_cases hj : j = id
      · subst hj
        rw [if_neg hnew, Dict.get?_set_self, if_pos List.mem_cons_self, hr]
        rfl
      · rw [Dict.get?_set_ne _ _ (Ne.symm hj)]
        simp only [List.mem_cons, hj, false_or]

theorem removeExpired_spec (ids : List RequestId) (pending : Dict RequestId PendingRequest)
    (hids : ids.Nodup) (hpresent : ∀ id ∈ ids, Dict.has pending id = true) :
    (removeExpired p ids pending).1 =
        ids.map (fun id => .timedOut id ((Dict.get? pending id).bind p.notification)) ∧
      (removeExpired p ids pending).2 = pending.filter (fun e => decide (e.1 ∉ ids)) := by
  induction ids generalizing pending with
  | nil => simp [removeExpired]
  | cons id rest ih =>
    obtain ⟨hnew, hrest⟩ := List.nodup_cons.mp hids
    obtain ⟨r, hr⟩ := Dict.has_iff.mp (hpresent id List.mem_cons_self)
    have hstill : ∀ j ∈ rest, Dict.get? (Dict.erase pending id) j = Dict.get? pending j := by
      intro j hj
      exact Dict.get?_erase_ne _ fun h => hnew (h ▸ hj)
    obtain ⟨hevents, hleft⟩ := ih (Dict.erase pending id) hrest fun j hj => by
      rw [Dict.has, hstill j hj]
      exact hpresent j (List.mem_cons_of_mem _ hj)
    simp only [removeExpired, hr]
    constructor
    · rw [hevents, List.map_cons, hr]
      congr 1
      exact List.map_congr_left fun j hj => by rw [hstill j hj]
    · rw [hleft, Dict.erase, List.filter_filter]
      apply List.filter_congr
      intro e _
      simp only [List.mem_cons, not_or, Bool.decide_and]
      exact Bool.and_comm _ _

/-- The keys of the entries that the pass deals with in one way. -/
def Pass.ids (pending : Dict RequestId PendingRequest) (v : Verdict) : List RequestId :=
  (pending.filter fun e => decide (p.verdict e.1 e.2 = v)).map Prod.fst

/-- What an entry of the table has become after the pass. -/
def Pass.left (id : RequestId) (r : PendingRequest) : Option PendingRequest :=
  match p.verdict id r with
  | .kept => some r
  | .prolonged => some (r.incrementRetry (p.stamp id))
  | .givenUp => none

variable {pending : Dict RequestId PendingRequest} (hnodup : (pending.map Prod.fst).Nodup)

include hnodup

theorem mem_ids {v : Verdict} {id : RequestId} :
    id ∈ p.ids pending v ↔ ∃ r, Dict.get? pending id = some r ∧ p.verdict id r = v := by
  constructor
  · intro h
    obtain ⟨⟨id', r⟩, he, rfl⟩ := List.mem_map.mp h
    obtain ⟨hmem, hv⟩ := List.mem_filter.mp he
    exact ⟨r, Dict.get?_of_mem hnodup hmem, of_decide_eq_true hv⟩
  · rintro ⟨r, hr, hv⟩
    refine List.mem_map.mpr ⟨(id, r), List.mem_filter.mpr ⟨?_, ?_⟩, rfl⟩
    · exact Dict.mem_of_get?_eq_some hr
    · exact decide_eq_true hv

theorem nodup_ids (v : Verdict) : (p.ids pending v).Nodup :=
  hnodup.sublist (List.filter_sublist.map Prod.fst)

omit hnodup in
theorem filter_found (q : PendingRequest → Bool) (v : Verdict)
    (hq : ∀ id r, r.isExpired (p.check id) = true → (q r = true ↔ p.verdict id r = v))
    (hv : v ≠ .kept) :
    ((p.found pending).filter fun e => q e.2).map Prod.fst = p.ids pending v := by
  rw [Pass.found, List.filter_filter, Pass.ids]
  congr 1
  apply List.filter_congr
  rintro ⟨id, r⟩ _
  cases hexp : r.isExpired (p.check id) with
  | true =>
    rw [Bool.and_true, Bool.eq_iff_iff, decide_eq_true_iff]
    exact hq id r hexp
  | false =>
    have hwaits : p.verdict id r = .kept := by simp [Pass.verdict, hexp]
    simp [hwaits, Ne.symm hv]

/-- A pass in one piece: the windows it finds elapsed, those that it prolonged, and the requests that it
gives up, each notified of by itself. -/
theorem cleanupPendingRequests_spec :
    (cleanupPendingRequests p pending).1 =
        ((p.found pending).map Prod.fst).map .elapsed ++ (p.ids pending .prolonged).map .extended ++
          (p.ids pending .givenUp).map
            (fun id => .timedOut id ((Dict.get? pending id).bind p.notification)) ∧
      ((cleanupPendingRequests p pending).2.map Prod.fst).Nodup ∧
      ∀ id, Dict.get? (cleanupPendingRequests p pending).2 id =
        (Dict.get? pending id).bind (p.left id) := by
  have hretry : ((p.found pending).filter fun e => e.2.shouldRetry).map Prod.fst =
      p.ids pending .prolonged := by
    apply filter_found p (fun r => r.shouldRetry) .prolonged
    · intro id r hexp
      cases hretry : r.shouldRetry <;> simp [Pass.verdict, hexp, hretry]
    · decide
  have hends : ((p.found pending).filter fun e => !e.2.shouldRetry).map Prod.fst =
      p.ids pending .givenUp := by
    apply filter_found p (fun r => !r.shouldRetry) .givenUp
    · intro id r hexp
      cases hretry : r.shouldRetry <;> simp [Pass.verdict, hexp, hretry]
    · decide
  have hhas : ∀ v, ∀ id ∈ p.ids pending v, Dict.has pending id = true := by
    intro v id hid
    obtain ⟨r, hr, -⟩ := (mem_ids p hnodup).mp hid
    exact Dict.has_iff.mpr ⟨r, hr⟩
  obtain ⟨hextended, hdone, hkeys, hget⟩ :=
    extendWindows_spec p _ pending (nodup_ids p hnodup .prolonged) (hhas .prolonged)
  have hapart : ∀ id ∈ p.ids pending .givenUp, id ∉ p.ids pending .prolonged := by
    intro id hid hid'
    obtain ⟨r, hr, hv⟩ := (mem_ids p hnodup).mp hid
    obtain ⟨r', hr', hv'⟩ := (mem_ids p hnodup).mp hid'
    rw [hr] at hr'
    cases hr'
    rw [hv] at hv'
    cases hv'
  obtain ⟨hremoved, hleft⟩ := removeExpired_spec p (p.ids pending .givenUp)
    (extendWindows p (p.ids pending .prolonged) pending).2.1 (nodup_ids p hnodup .givenUp) (by
      intro id hid
      rw [Dict.has, hget, if_neg (hapart id hid)]
      exact hhas .givenUp id hid)
  have heq : cleanupPendingRequests p pending =
      ((p.found pending).map (fun e => Event.elapsed e.1) ++
          (extendWindows p (p.ids pending .prolonged) pending).1 ++
          (removeExpired p (p.ids pending .givenUp)
            (extendWindows p (p.ids pending .prolonged) pending).2.1).1,
        (removeExpired p (p.ids pending .givenUp)
          (extendWindows p (p.ids pending .prolonged) pending).2.1).2) := by
    rw [cleanupPendingRequests, hretry, hends]
    exact if_pos hdone
  rw [heq]
  refine ⟨?_, ?_, fun id => ?_⟩
  · dsimp only
    rw [hextended, hremoved, List.map_map]
    congr 1
    apply List.map_congr_left
    intro id hid
    rw [hget, if_neg (hapart id hid)]
  · simp only [hleft]
    rw [← hkeys] at hnodup
    exact hnodup.sublist (List.filter_sublist.map Prod.fst)
  · simp only [hleft]
    rw [Dict.get?_filter _ (fun i => decide (i ∉ p.ids pending .givenUp)), hget]
    cases hr : Dict.get? pending id with
    | none => simp
    | some r =>
      have hmem : ∀ v, id ∈ p.ids pending v ↔ p.verdict id r = v := by
        intro v
        rw [mem_ids p hnodup, hr]
        simp
      simp only [hmem, Option.bind_some, Pass.left]
      cases p.verdict id r <;> simp

end Loops

/-! ### Counting -/

def isTimeout (id : RequestId) : Event → Bool
  | .timedOut i _ => decide (i = id)
  | _ => false

theorem State.timeouts_eq (s : State) (id : RequestId) : s.timeouts id = s.log.countP (isTimeout id) := by
  rw [State.timeouts]
  congr 1

section Counts

variable (ids : List RequestId) (id : RequestId)

theorem count_map_elapsed : (ids.map Event.elapsed).count (.elapsed id) = ids.count id :=
  List.count_map_of_injective ids _ (fun _ _ h => Event.elapsed.inj h) id

theorem count_map_extended : (ids.map Event.extended).count (.extended id) = ids.count id :=
  List.count_map_of_injective ids _ (fun _ _ h => Event.extended.inj h) id

theorem countP_map_timedOut (f : RequestId → Option Bool) :
    (ids.map fun i => Event.timedOut i (f i)).countP (isTimeout id) = ids.count id := by
  rw [List.countP_map]
  apply List.countP_congr
  intro i _
  simp [isTimeout]

theorem count_map_ne {f : RequestId → Event} {e : Event} (h : ∀ i, f i ≠ e) : (ids.map f).count e = 0 := by
  apply List.count_eq_zero_of_not_mem
  intro hmem
  obtain ⟨i, -, hi⟩ := List.mem_map.mp hmem
  exact h i hi

theorem countP_map_false {f : RequestId → Event} (h : ∀ i, isTimeout id (f i) = false) :
    (ids.map f).countP (isTimeout id) = 0 := by
  apply List.countP_eq_zero.mpr
  intro e he
  obtain ⟨i, -, rfl⟩ := List.mem_map.mp he
  simp [h i]

end Counts

section Pass

variable (p : Pass) {pending : Dict RequestId PendingRequest} (id : RequestId)

/-- How the pass deals with the entry of `id`, if there is one. -/
def Pass.treatment (pending : Dict RequestId PendingRequest) : Option Verdict :=
  (Dict.get? pending id).map (p.verdict id)

variable (hnodup : (pending.map Prod.fst).Nodup)

include hnodup

theorem count_ids (v : Verdict) :
    (p.ids pending v).count id = if p.treatment id pending = some v then 1 else 0 := by
  rw [(nodup_ids p hnodup v).count]
  apply if_congr _ rfl rfl
  rw [mem_ids p hnodup, Pass.treatment, Option.map_eq_some_iff]

theorem count_found :
    ((p.found pending).map Prod.fst).count id =
      if p.treatment id pending = none ∨ p.treatment id pending = some .kept then 0 else 1 := by
  have hwaits : ∀ r, r.isExpired (p.check id) = true ↔ p.verdict id r ≠ .kept := by
    intro r
    unfold Pass.verdict
    split_ifs <;> simp_all
  have hmem : id ∈ (p.found pending).map Prod.fst ↔
      ∃ r, Dict.get? pending id = some r ∧ r.isExpired (p.check id) = true := by
    constructor
    · intro h
      obtain ⟨⟨id', r⟩, he, rfl⟩ := List.mem_map.mp h
      obtain ⟨hmem, hexp⟩ := List.mem_filter.mp he
      exact ⟨r, Dict.get?_of_mem hnodup hmem, hexp⟩
    · rintro ⟨r, hr, hexp⟩
      exact List.mem_map.mpr ⟨(id, r),
        List.mem_filter.mpr ⟨Dict.mem_of_get?_eq_some hr, hexp⟩, rfl⟩
  have hfound : ((p.found pending).map Prod.fst).Nodup :=
    hnodup.sublist (List.filter_sublist.map Prod.fst)
  rw [hfound.count, Pass.treatment]
  simp only [hmem, hwaits]
  cases Dict.get? pending id with
  | none => simp
  | some r => cases p.verdict id r <;> simp

/-- What a pass adds to the counts of a request. -/
theorem pass_counts :
    (cleanupPendingRequests p pending).1.count (.recorded id) = 0 ∧
      (cleanupPendingRequests p pending).1.count (.elapsed id) =
        (if p.treatment id pending = none ∨ p.treatment id pending = some .kept then 0 else 1) ∧
      (cleanupPendingRequests p pending).1.count (.extended id) =
        (if p.treatment id pending = some .prolonged then 1 else 0) ∧
      (cleanupPendingRequests p pending).1.countP (isTimeout id) =
        (if p.treatment id pending = some .givenUp then 1 else 0) := by
  rw [(cleanupPendingRequests_spec p hnodup).1]
  simp only [List.count_append, List.countP_append]
  refine ⟨?_, ?_, ?_, ?_⟩
  · rw [count_map_ne _ (by simp), count_map_ne _ (by simp), count_map_ne _ (by simp)]
  · rw [count_map_elapsed, count_found p id hnodup, count_map_ne _ (by simp), count_map_ne _ (by simp)]
    omega
  · rw [count_map_extended, count_ids p id hnodup, count_map_ne _ (by simp), count_map_ne _ (by simp)]
    omega
  · rw [countP_map_timedOut, count_ids p id hnodup, countP_map_false _ _ fun _ => rfl,
      countP_map_false _ _ fun _ => rfl]
    omega

end Pass

/-! ### Where a request is -/

/-- The extensions of a request that inherits `k` retries. -/
def extensionBudget (k : ℤ) : ℕ := (maxRetries - k).toNat

namespace State

variable (s : State) (id : RequestId)

/-- The handlers that are about to record a response to the request. -/
def inHand : ℕ := s.held.countP fun h => decide (h.1.requestId = id)

/-- The places where the request is. -/
def places : ℕ :=
  s.records id + s.inHand id + s.timeouts id + if Dict.has s.pending id then 1 else 0

end State

/-- What holds of every state: the entries of the table are those of calls of `send_request`, with their
windows counted, and each call has put its request in one place. -/
structure Sound (uuid : ℕ → RequestId) (s : State) : Prop where
  nodup : (s.pending.map Prod.fst).Nodup
  entry : ∀ id r, Dict.get? s.pending id = some r → r.requestId = id ∧ r.completed = false ∧
    ∃ n k, uuid n = id ∧ s.issued[n]? = some k ∧ r.retryCount = k + s.findings id ∧
      s.findings id ≤ extensionBudget k
  windows : ∀ n k, s.issued[n]? = some k →
    s.extensions (uuid n) = min (s.findings (uuid n)) (extensionBudget k) ∧
      s.timeouts (uuid n) = if extensionBudget k < s.findings (uuid n) then 1 else 0
  issued : ∀ n < s.issued.length, s.places (uuid n) = 1
  unissued : ∀ id, (∀ n < s.issued.length, uuid n ≠ id) →
    s.places id = 0 ∧ s.findings id = 0 ∧ s.extensions id = 0

theorem sound_start (uuid : ℕ → RequestId) : Sound uuid start where
  nodup := List.nodup_nil
  entry := fun id r h => by cases h
  windows := fun n k h => by cases h
  issued := fun n h => by cases h
  unissued := fun id _ => ⟨rfl, rfl, rfl⟩

section Steps

variable {uuid : ℕ → RequestId} {s : State}

/-- A request that nobody has sent is not in the table. -/
theorem Sound.get?_unissued (h : Sound uuid s) {id : RequestId}
    (hid : ∀ n < s.issued.length, uuid n ≠ id) : Dict.get? s.pending id = none := by
  have hplaces := (h.unissued id hid).1
  rw [← Dict.has_eq_false]
  by_contra hhas
  rw [State.places, if_pos (by simpa using hhas)] at hplaces
  omega

theorem Sound.send (hinj : Function.Injective uuid) (h : Sound uuid s) (systemName requestType : String)
    (data : Value) (inheritedRetries : ℤ) (now : ℚ) :
    Sound uuid (nextState uuid s (.send systemName requestType data inheritedRetries now)) := by
  have hnew : ∀ n < s.issued.length, uuid n ≠ uuid s.issued.length := by
    intro n hn heq
    exact absurd (hinj heq) (by omega)
  have hnone := h.get?_unissued hnew
  obtain ⟨hplaces, hfindings, hextensions⟩ := h.unissued _ hnew
  have hlookup : ∀ n k, (s.issued ++ [inheritedRetries])[n]? = some k →
      s.issued[n]? = some k ∨ n = s.issued.length ∧ k = inheritedRetries := by
    intro n k hk
    rcases lt_trichotomy n s.issued.length with hlt | rfl | hgt
    · rw [List.getElem?_append_left hlt] at hk
      exact .inl hk
    · rw [List.getElem?_concat_length] at hk
      cases hk
      exact .inr ⟨rfl, rfl⟩
    · rw [List.getElem?_eq_none (by simp; omega)] at hk
      cases hk
  refine {
    nodup := Dict.nodup_keys_set h.nodup _ _
    entry := ?_
    windows := ?_
    issued := ?_
    unissued := ?_ }
  · intro id r hr
    simp only [nextState, Dict.get?_set] at hr
    split_ifs at hr with hid
    · cases hr
      refine ⟨hid, rfl, s.issued.length, inheritedRetries, hid, by simp [nextState], ?_, ?_⟩
      · show inheritedRetries = inheritedRetries + s.findings id
        rw [← hid, hfindings]
        simp
      · show s.findings id ≤ _
        rw [← hid, hfindings]
        omega
    · obtain ⟨hkey, hopen, n, k, hn, hk, hcount, hle⟩ := h.entry id r hr
      refine ⟨hkey, hopen, n, k, hn, ?_, hcount, hle⟩
      obtain ⟨hlt, -⟩ := List.getElem?_eq_some_iff.mp hk
      simp only [nextState]
      rw [List.getElem?_append_left hlt, hk]
  · intro n k hk
    rcases hlookup n k hk with hk | ⟨rfl, rfl⟩
    · exact h.windows n k hk
    · have htimeouts : s.timeouts (uuid s.issued.length) = 0 := by
        rw [State.places] at hplaces
        omega
      have hwindows : s.extensions (uuid s.issued.length) =
            min (s.findings (uuid s.issued.length)) (extensionBudget k) ∧
          s.timeouts (uuid s.issued.length) =
            if extensionBudget k < s.findings (uuid s.issued.length) then 1 else 0 := by
        rw [hextensions, htimeouts, hfindings]
        simp
      exact hwindows
  · intro n hn
    simp only [nextState, List.length_append, List.length_singleton] at hn
    show s.records _ + s.inHand _ + s.timeouts _ +
      (if Dict.has (Dict.set s.pending (uuid s.issued.length) _) (uuid n) then 1 else 0) = 1
    rw [Dict.has, Dict.get?_set]
    rcases Nat.lt_succ_iff_lt_or_eq.mp hn with hlt | rfl
    · rw [if_neg (Ne.symm (hnew n hlt))]
      exact h.issued n hlt
    · rw [if_pos rfl]
      rw [State.places, Dict.has, hnone] at hplaces
      simp only [Option.isSome_none, Bool.false_eq_true, if_false] at hplaces
      simp
      omega
  · intro id hid
    have hold : ∀ n < s.issued.length, uuid n ≠ id := fun n hn => hid n (by simp [nextState]; omega)
    obtain ⟨hplaces', hfindings', hextensions'⟩ := h.unissued id hold
    refine ⟨?_, hfindings', hextensions'⟩
    have hne : uuid s.issued.length ≠ id := hid _ (by simp [nextState])
    show s.records _ + s.inHand _ + s.timeouts _ +
      (if Dict.has (Dict.set s.pending (uuid s.issued.length) _) id then 1 else 0) = 0
    rw [Dict.has, Dict.get?_set, if_neg hne]
    exact hplaces'

/-- An entry is taken out of the table, and perhaps into the hands of a handler. -/
theorem Sound.take (h : Sound uuid s) {id : RequestId} {r : PendingRequest}
    (hr : Dict.get? s.pending id = some r) (m : Message) :
    Sound uuid { s with pending := Dict.erase s.pending id, held := s.held ++ [(r, m)] } := by
  have hkey := (h.entry id r hr).1
  have hplaces : ∀ j, State.places
      { s with pending := Dict.erase s.pending id, held := s.held ++ [(r, m)] } j = s.places j := by
    intro j
    simp only [State.places, State.records, State.timeouts, State.inHand, List.countP_append,
      List.countP_singleton, hkey, decide_eq_true_eq]
    by_cases hj : id = j
    · subst hj
      have hthere : Dict.has s.pending id = true := Dict.has_iff.mpr ⟨r, hr⟩
      have hgone : Dict.has (Dict.erase s.pending id) id = false := by
        rw [Dict.has_eq_false, Dict.get?_erase_self]
      rw [if_pos rfl, hthere, hgone]
      simp
      omega
    · have hsame : Dict.has (Dict.erase s.pending id) j = Dict.has s.pending j := by
        rw [Dict.has, Dict.get?_erase_ne _ hj, Dict.has]
      rw [if_neg hj, hsame]
      omega
  refine {
    nodup := Dict.nodup_keys_erase h.nodup id
    entry := fun j r' hr' => ?_
    windows := h.windows
    issued := fun n hn => (hplaces _).trans (h.issued n hn)
    unissued := fun j hj => ⟨(hplaces j).trans (h.unissued j hj).1, (h.unissued j hj).2⟩ }
  rw [Dict.get?_erase] at hr'
  split_ifs at hr'
  exact h.entry j r' hr'

theorem Sound.receive (h : Sound uuid s) (incoming : Incoming) :
    Sound uuid (nextState uuid s (.receive incoming)) := by
  cases incoming with
  | invalid => exact h
  | message m =>
    show Sound uuid (handleResponse s (.message m)).2
    simp only [handleResponse, popRequest]
    cases hkey : (Dict.getD m "request_id" .none).key? with
    | none => exact h
    | some v =>
      cases v with
      | str id =>
        cases hr : Dict.get? s.pending id with
        | none =>
          have hsame : Dict.erase s.pending id = s.pending := by
            rw [Dict.erase, List.filter_eq_self]
            intro e he
            have hne : e.1 ≠ id := by
              rintro rfl
              exact Dict.get?_eq_none_iff.mp hr (List.mem_map_of_mem he)
            simpa using hne
          simp only [hr, hsame]
          exact h
        | some r =>
          simp only [hr]
          exact h.take hr m
      | _ => exact h

theorem countP_eraseIdx {α : Type} {l : List α} {i : ℕ} {a : α} (ha : l[i]? = some a) (q : α → Bool) :
    l.countP q = (l.eraseIdx i).countP q + if q a then 1 else 0 := by
  induction l generalizing i with
  | nil => cases ha
  | cons b l ih =>
    cases i with
    | zero =>
      cases ha
      rw [List.eraseIdx_cons_zero, List.countP_cons]
    | succ i =>
      rw [List.eraseIdx_cons_succ, List.countP_cons, List.countP_cons, ih ha]
      omega

theorem Sound.record (h : Sound uuid s) (i : ℕ) : Sound uuid (nextState uuid s (.record i)) := by
  simp only [nextState]
  cases hi : s.held[i]? with
  | none => exact h
  | some e =>
    obtain ⟨r, m⟩ := e
    have hfindings : ∀ j, (s.log ++ [Event.recorded (r.setResponse m).requestId]).count (.elapsed j) =
        s.log.count (.elapsed j) := by simp
    have hextensions : ∀ j, (s.log ++ [Event.recorded (r.setResponse m).requestId]).count (.extended j) =
        s.log.count (.extended j) := by simp
    have htimeouts : ∀ j, State.timeouts { s with
        held := s.held.eraseIdx i, log := s.log ++ [Event.recorded (r.setResponse m).requestId] } j =
        s.timeouts j := by
      intro j
      rw [State.timeouts_eq, State.timeouts_eq]
      simp [isTimeout]
    have hplaces : ∀ j, State.places { s with
        held := s.held.eraseIdx i, log := s.log ++ [Event.recorded (r.setResponse m).requestId] } j =
        s.places j := by
      intro j
      have hheld := countP_eraseIdx hi (fun e => decide (e.1.requestId = j))
      simp only [State.places, htimeouts, State.records, State.inHand, List.count_append, hheld]
      simp only [PendingRequest.setResponse, List.count_singleton, beq_iff_eq, Event.recorded.injEq,
        decide_eq_true_eq]
      omega
    refine {
      nodup := h.nodup
      entry := fun j r' hr' => ?_
      windows := fun n k hk => ?_
      issued := fun n hn => (hplaces _).trans (h.issued n hn)
      unissued := fun j hj => ?_ }
    · simp only [State.findings, hfindings]
      exact h.entry j r' hr'
    · rw [htimeouts]
      simp only [State.extensions, State.findings, hfindings, hextensions]
      exact h.windows n k hk
    · simp only [hplaces, State.findings, State.extensions, hfindings, hextensions]
      exact h.unissued j hj

/-- The entry of a call of `send_request`, with the windows it has had. -/
theorem Sound.entry_of (hinj : Function.Injective uuid) (h : Sound uuid s) {n : ℕ} {k : ℤ}
    (hk : s.issued[n]? = some k) {r : PendingRequest} (hr : Dict.get? s.pending (uuid n) = some r) :
    r.completed = false ∧ r.retryCount = k + s.findings (uuid n) ∧
      s.findings (uuid n) ≤ extensionBudget k := by
  obtain ⟨-, hopen, n', k', hn, hk', hcount, hle⟩ := h.entry _ r hr
  cases hinj hn
  rw [hk] at hk'
  cases hk'
  exact ⟨hopen, hcount, hle⟩

theorem isSome_left (p : Pass) (id : RequestId) (r : PendingRequest) :
    (p.left id r).isSome = decide (p.verdict id r ≠ .givenUp) := by
  unfold Pass.left
  generalize p.verdict id r = v
  cases v <;> rfl

theorem verdict_prolonged {p : Pass} {id : RequestId} {r : PendingRequest}
    (h : p.verdict id r = .prolonged) : r.retryCount < maxRetries := by
  have hretry : r.shouldRetry = true := by
    unfold Pass.verdict at h
    split_ifs at h with hexp hretry
    exact hretry
  simp only [PendingRequest.shouldRetry, Bool.and_eq_true, decide_eq_true_eq] at hretry
  exact hretry.2

theorem verdict_givenUp {p : Pass} {id : RequestId} {r : PendingRequest} (hopen : r.completed = false)
    (h : p.verdict id r = .givenUp) : maxRetries ≤ r.retryCount := by
  have hretry : ¬ r.shouldRetry = true := by
    unfold Pass.verdict at h
    split_ifs at h with hexp hretry
    exact hretry
  simp only [PendingRequest.shouldRetry, hopen, Bool.not_false, Bool.true_and, decide_eq_true_eq,
    not_lt] at hretry
  exact hretry

theorem Sound.pass (hinj : Function.Injective uuid) (h : Sound uuid s) (p : Pass) :
    Sound uuid (nextState uuid s (.pass p)) := by
  obtain ⟨-, hnodup, hget⟩ := cleanupPendingRequests_spec p h.nodup
  have hpending : (nextState uuid s (.pass p)).pending = (cleanupPendingRequests p s.pending).2 := rfl
  have hrecords : ∀ id, (nextState uuid s (.pass p)).records id = s.records id := by
    intro id
    rw [State.records, nextState, List.count_append, (pass_counts p id h.nodup).1]
    rfl
  have hfindings : ∀ id, (nextState uuid s (.pass p)).findings id = s.findings id +
      if p.treatment id s.pending = none ∨ p.treatment id s.pending = some .kept then 0 else 1 := by
    intro id
    rw [State.findings, nextState, List.count_append, (pass_counts p id h.nodup).2.1]
    rfl
  have hextensions : ∀ id, (nextState uuid s (.pass p)).extensions id = s.extensions id +
      if p.treatment id s.pending = some .prolonged then 1 else 0 := by
    intro id
    rw [State.extensions, nextState, List.count_append, (pass_counts p id h.nodup).2.2.1]
    rfl
  have htimeouts : ∀ id, (nextState uuid s (.pass p)).timeouts id = s.timeouts id +
      if p.treatment id s.pending = some .givenUp then 1 else 0 := by
    intro id
    rw [State.timeouts_eq, nextState, List.countP_append, (pass_counts p id h.nodup).2.2.2,
      State.timeouts_eq]
  have hhas : ∀ id, Dict.has (nextState uuid s (.pass p)).pending id =
      (Dict.has s.pending id && decide (p.treatment id s.pending ≠ some .givenUp)) := by
    intro id
    rw [hpending, Dict.has, hget, Dict.has, Pass.treatment]
    cases hr : Dict.get? s.pending id with
    | none => rfl
    | some r =>
      rw [Option.bind_some, isSome_left, Option.map_some]
      simp
  have hplaces : ∀ id, (nextState uuid s (.pass p)).places id = s.places id := by
    intro id
    have hends : p.treatment id s.pending = some .givenUp → Dict.has s.pending id = true := by
      intro htreat
      obtain ⟨r, hr, -⟩ := Option.map_eq_some_iff.mp htreat
      exact Dict.has_iff.mpr ⟨r, hr⟩
    rw [State.places, hrecords, htimeouts, hhas, State.places]
    by_cases htreat : p.treatment id s.pending = some .givenUp
    · simp only [htreat, hends htreat, if_true, ne_eq, not_true, decide_false, Bool.and_false,
        Bool.false_eq_true, if_false]
      show _ + s.inHand id + _ + 0 = _
      omega
    · simp only [htreat, if_false, ne_eq, not_false_iff, decide_true, Bool.and_true]
      rfl
  refine {
    nodup := hnodup
    entry := fun id r hr => ?_
    windows := fun n k hk => ?_
    issued := fun n hn => (hplaces _).trans (h.issued n hn)
    unissued := fun id hid => ?_ }
  · rw [hpending, hget] at hr
    obtain ⟨r₀, hr₀, hleft⟩ := Option.bind_eq_some_iff.mp hr
    have htreat : p.treatment id s.pending = some (p.verdict id r₀) := by rw [Pass.treatment, hr₀]; rfl
    obtain ⟨hkey, hopen, n, k, hn, hk, hcount, hle⟩ := h.entry id r₀ hr₀
    rw [hfindings, htreat]
    rw [Pass.left] at hleft
    cases hverdict : p.verdict id r₀ with
    | kept =>
      rw [hverdict] at hleft
      cases hleft
      exact ⟨hkey, hopen, n, k, hn, hk, by simpa using hcount, by simpa using hle⟩
    | prolonged =>
      have hlt := verdict_prolonged hverdict
      rw [hverdict] at hleft
      cases hleft
      refine ⟨hkey, hopen, n, k, hn, hk, ?_, ?_⟩
      · simp only [PendingRequest.incrementRetry, hcount]
        simp
        omega
      · simp only [extensionBudget] at hle ⊢
        simp
        omega
    | givenUp =>
      rw [hverdict] at hleft
      cases hleft
  · have hbefore := h.windows n k hk
    rw [hextensions, hfindings, htimeouts]
    cases hr : Dict.get? s.pending (uuid n) with
    | none =>
      have htreat : p.treatment (uuid n) s.pending = none := by rw [Pass.treatment, hr]; rfl
      rw [htreat]
      exact hbefore
    | some r =>
      obtain ⟨hopen, hcount, hle⟩ := h.entry_of hinj hk hr
      have htreat : p.treatment (uuid n) s.pending = some (p.verdict (uuid n) r) := by
        rw [Pass.treatment, hr]
        rfl
      rw [htreat]
      cases hverdict : p.verdict (uuid n) r with
      | kept => exact hbefore
      | prolonged =>
        have hlt := verdict_prolonged hverdict
        have hroom : s.findings (uuid n) < extensionBudget k := by unfold extensionBudget at *; omega
        have hnever : s.timeouts (uuid n) = 0 := by
          rw [hbefore.2]
          exact if_neg (by omega)
        rw [hbefore.1, hnever]
        simp
        omega
      | givenUp =>
        have hge := verdict_givenUp hopen hverdict
        have hfull : s.findings (uuid n) = extensionBudget k := by unfold extensionBudget at *; omega
        have hnever : s.timeouts (uuid n) = 0 := by
          rw [hbefore.2]
          exact if_neg (by omega)
        rw [hbefore.1, hnever]
        simp
        omega
  · have hnone := h.get?_unissued hid
    have htreat : p.treatment id s.pending = none := by rw [Pass.treatment, hnone]; rfl
    obtain ⟨hp, hf, he⟩ := h.unissued id hid
    rw [hplaces, hfindings, hextensions, htreat]
    exact ⟨hp, by simpa using hf, by simpa using he⟩

end Steps

theorem Sound.step {uuid : ℕ → RequestId} (hinj : Function.Injective uuid) (s : State) (a : Action)
    (h : Sound uuid s) : Sound uuid (handlerStep uuid s a).2 := by
  cases a with
  | send systemName requestType data inheritedRetries now =>
    exact h.send hinj systemName requestType data inheritedRetries now
  | receive incoming => exact h.receive incoming
  | record i => exact h.record i
  | pass p => exact h.pass hinj p

theorem Sound.endsOnce {uuid : ℕ → RequestId} {s : State} (h : Sound uuid s) :
    EndsOnce uuid extensionBudget s where
  once := by
    intro id
    have hle : s.places id ≤ 1 := by
      by_cases hid : ∀ n < s.issued.length, uuid n ≠ id
      · rw [(h.unissued id hid).1]
        omega
      · push Not at hid
        obtain ⟨n, hn, rfl⟩ := hid
        rw [h.issued n hn]
    rw [State.places] at hle
    omega
  accounted := by
    intro n hn
    have hplaces := h.issued n hn
    rw [State.places] at hplaces
    by_cases hhas : Dict.has s.pending (uuid n) = true
    · exact .inl hhas
    · rw [if_neg hhas] at hplaces
      by_cases hhand : s.inHand (uuid n) = 0
      · exact .inr (.inr (by omega))
      · obtain ⟨e, he, hkey⟩ := List.countP_pos_iff.mp (Nat.pos_of_ne_zero hhand)
        exact .inr (.inl ⟨e, he, of_decide_eq_true hkey⟩)
  windows := h.windows
  notified := by
    intro p id r hr hexp hretry
    have hverdict : p.verdict id r = .givenUp := by
      rw [Pass.verdict, if_pos hexp, if_neg (by simp [hretry])]
    rw [(cleanupPendingRequests_spec p h.nodup).1]
    apply List.mem_append_right
    refine List.mem_map.mpr ⟨id, (mem_ids p h.nodup).mpr ⟨r, hr, hverdict⟩, ?_⟩
    rw [hr]
    rfl

/-- Every request ends once, in every run: with a response or with the timeout of the first pass that
finds its window elapsed after the extensions its `inherited_retries` leave it. -/
theorem ends_once (uuid : ℕ → RequestId) (hinj : Function.Injective uuid) (actions : List Action) :
    EndsOnce uuid extensionBudget (final (handlerStep uuid) start actions) :=
  (invariant_final (fun s : State => Sound uuid s) (fun s a hs => hs.step hinj s a)
    (sound_start uuid) actions).endsOnce

section Samples

def numbered (n : ℕ) : RequestId := String.ofList (List.replicate n 'a')

theorem numbered_injective : Function.Injective numbered := by
  intro m n h
  have hlength := congrArg String.length h
  simpa [numbered] using hlength

def passAt (now : ℚ) : Pass where
  check _ := now
  stamp _ := now
  surroundings _ := ⟨some false, some (.ok ())⟩

/-- A request that inherits all its retries and a pass after its window. -/
def spentRequest : List Action :=
  [.send "flight_control_system" "status" .none 3 0, .pass (passAt 6)]

/-- A request that inherits three retries is given up by the first pass that finds its window
elapsed. -/
theorem not_ends_once_inherited :
    ¬ ∀ (uuid : ℕ → RequestId), Function.Injective uuid → ∀ actions : List Action,
      EndsOnce uuid (fun _ => 3) (final (handlerStep uuid) start actions) := by
  intro h
  have hwindows := (h numbered numbered_injective spentRequest).windows 0 3 (by decide +kernel)
  have htimeouts : (final (handlerStep numbered) start spentRequest).timeouts (numbered 0) = 1 := by
    decide +kernel
  have hfindings : (final (handlerStep numbered) start spentRequest).findings (numbered 0) = 1 := by
    decide +kernel
  rw [htimeouts, hfindings] at hwindows
  exact absurd hwindows.2 (by decide)

theorem ends_once_sample :
    EndsOnce numbered extensionBudget (final (handlerStep numbered) start spentRequest) :=
  ends_once numbered numbered_injective spentRequest

end Samples

end Fmofp.FlightControl
