import Fmofp.AsyncHandler.Retries

/-! How often a message is put into the queue, and that it is not handled again after it has been.  The
tracked count bounds the puts as long as the passes respect it, and a completed message does not come
back as long as no copy of it waits and no pass puts it back before it is untracked. -/

namespace Fmofp.AsyncHandler.Retry

open Python Machine

/-- The condition on a step, for one message: a pass retries it only below the limit and before its
handler has completed, and when its handler completes no copy of it waits in the queue. -/
def Keeps (id : Value) (s : State) : Action → Prop
  | .finish worker true _ => s.workers worker = .handling id → id ∉ s.queue.items
  | .timeouts now healthy valid => ∀ t, Dict.get? s.tracking id = some t →
    now - t.timestamp > messageTimeout → State.shouldRetry t healthy = true → valid id = true →
      .completed id true ∉ s.log
  | .retry index true _ => ∀ passTime t, s.candidates[index]? = some (passTime, id) →
    Dict.get? s.tracking id = some t → t.retryCount < maxRetries ∧ .completed id true ∉ s.log
  | _ => True

/-- The messages that a step adds. -/
def Action.adds : Action → List Value
  | .add id _ _ _ | .buffer id _ => [id]
  | _ => []

/-- The message has not been in the queue. -/
structure Unseen (id : Value) (s : State) : Prop where
  untracked : Dict.get? s.tracking id = none
  neverPut : s.log.count (.put id) = 0
  notCompleted : .completed id true ∉ s.log
  absent : id ∉ s.queue.items
  notHandled : ∀ worker, s.workers worker ≠ .handling id

/-- What holds of one message, with what the buffer still holds. -/
structure Inv (id : Value) (s : State) : Prop where
  nodup : (s.tracking.map Prod.fst).Nodup
  budget : ∀ t, Dict.get? s.tracking id = some t → s.log.count (.put id) ≤ 1 + t.retryCount
  bound : s.log.count (.put id) ≤ 1 + maxRetries
  settled : .completed id true ∈ s.log → id ∉ s.queue.items
  never : NeverAgain id s.log
  once : s.buffered.count id ≤ 1
  unbuffered : id ∉ s.added → id ∉ s.buffered
  unseen : id ∉ s.added ∨ id ∈ s.buffered → Unseen id s

theorem mem_items_put {q : PriorityQueue Value} {item x id : Value} {p : Priority} {now : ℚ} :
    x ∈ (q.put item id p now).items ↔ x ∈ q.items ∨ x = item := by
  rw [← Multiset.mem_coe, PriorityQueue.put_items, Multiset.mem_add, Multiset.mem_coe,
    Multiset.mem_singleton]

theorem items_taskDone (q : PriorityQueue Value) (id : Value) (success : Bool) (now : ℚ) :
    (q.taskDone id success now).items = q.items := by
  unfold PriorityQueue.taskDone
  split <;> rfl

theorem mem_items_of_taken {q q' : PriorityQueue Value} {stopping : Bool} {item : Value}
    (h : (if stopping then q.takeFrom .high else q.get) = some (item, q')) :
    item ∈ q.items ∧ ∀ x ∈ q'.items, x ∈ q.items := by
  have hitems : (↑q.items : Multiset Value) = ↑q'.items + {item} := by
    split_ifs at h
    · exact PriorityQueue.takeFrom_items h
    · exact PriorityQueue.get_items h
  refine ⟨?_, fun x hx => ?_⟩
  · rw [← Multiset.mem_coe, hitems]
    exact Multiset.mem_add.mpr (.inr (Multiset.mem_singleton_self item))
  · rw [← Multiset.mem_coe, hitems]
    exact Multiset.mem_add.mpr (.inl (Multiset.mem_coe.mpr hx))

section Steps

variable {id : Value} {s : State}

/-- A message that is no longer tracked. -/
theorem Inv.erase (hs : Inv id s) (other : Value) :
    Inv id { s with tracking := Dict.erase s.tracking other } :=
  { hs with
    nodup := Dict.nodup_keys_erase hs.nodup other
    budget := fun t ht => by
      rw [Dict.get?_erase] at ht
      split_ifs at ht
      exact hs.budget t ht
    unseen := fun hnew => { hs.unseen hnew with
      untracked := by
        show Dict.get? (Dict.erase s.tracking other) id = none
        rw [Dict.get?_erase]
        split_ifs
        · rfl
        · exact (hs.unseen hnew).untracked } }

/-- Another message is tracked anew. -/
theorem Inv.set_other (hs : Inv id s) {other : Value} (hne : other ≠ id) (t : Tracked) :
    Inv id { s with tracking := Dict.set s.tracking other t } :=
  { hs with
    nodup := Dict.nodup_keys_set hs.nodup other t
    budget := fun t' ht' => by
      apply hs.budget
      rwa [← Dict.get?_set_ne s.tracking t hne]
    unseen := fun hnew => { hs.unseen hnew with
      untracked := (Dict.get?_set_ne s.tracking t hne).trans (hs.unseen hnew).untracked } }

theorem count_put_other {other : Value} (hne : other ≠ id) (log : List Event) :
    (Event.put other :: log).count (.put id) = log.count (.put id) :=
  List.count_cons_of_ne (by simpa using hne)

theorem mem_put_items_other {other : Value} (hne : other ≠ id) {p : Priority} {now : ℚ}
    (h : id ∈ (s.put other p now).queue.items) : id ∈ s.queue.items := by
  rcases mem_items_put.mp h with h | h
  · exact h
  · exact absurd h.symm hne

theorem completed_mem_put {other : Value} {p : Priority} {now : ℚ} :
    .completed id true ∈ (s.put other p now).log ↔ .completed id true ∈ s.log := by
  simp [State.put]

theorem Unseen.put_other (h : Unseen id s) {other : Value} (hne : other ≠ id) (p : Priority)
    (now : ℚ) : Unseen id (s.put other p now) where
  untracked := h.untracked
  neverPut := (count_put_other hne s.log).trans h.neverPut
  notCompleted hmem := h.notCompleted (completed_mem_put.mp hmem)
  absent hmem := h.absent (mem_put_items_other hne hmem)
  notHandled := h.notHandled

/-- Another message is put into the queue. -/
theorem Inv.put_other (hs : Inv id s) {other : Value} (hne : other ≠ id) (p : Priority) (now : ℚ) :
    Inv id (s.put other p now) :=
  { hs with
    budget := fun t ht => (count_put_other hne s.log).trans_le (hs.budget t ht)
    bound := (count_put_other hne s.log).trans_le hs.bound
    settled := fun hmem hitem =>
      hs.settled (completed_mem_put.mp hmem) (mem_put_items_other hne hitem)
    never := ⟨nofun, hs.never⟩
    unseen := fun hnew => (hs.unseen hnew).put_other hne p now }

/-- The message is put into the queue, and tracked with a count that allows for it. -/
theorem Inv.put_self (hs : Inv id s) (hadded : id ∈ s.added) (hbuffer : id ∉ s.buffered)
    (hbound : s.log.count (.put id) ≤ maxRetries)
    (hbudget : ∀ t, Dict.get? s.tracking id = some t → s.log.count (.put id) ≤ t.retryCount)
    (hopen : .completed id true ∉ s.log) (p : Priority) (now : ℚ) : Inv id (s.put id p now) := by
  have hputs : (Event.put id :: s.log).count (.put id) = s.log.count (.put id) + 1 :=
    List.count_cons_self
  refine { hs with budget := fun t ht => ?_, bound := ?_, settled := fun hmem => ?_,
                   never := ⟨nofun, hs.never⟩, unseen := fun hnew => ?_ }
  · have hcount := hbudget t ht
    show (Event.put id :: s.log).count (.put id) ≤ 1 + t.retryCount
    omega
  · show (Event.put id :: s.log).count (.put id) ≤ 1 + maxRetries
    omega
  · exact absurd (completed_mem_put.mp hmem) hopen
  · rcases hnew with hnew | hnew
    · exact absurd hadded hnew
    · exact absurd hnew hbuffer

/-- The message is tracked with one retry more. -/
theorem Inv.set_self (hs : Inv id s) (hadded : id ∈ s.added) (hbuffer : id ∉ s.buffered)
    {t : Tracked} (hbudget : s.log.count (.put id) ≤ 1 + t.retryCount) :
    Inv id { s with tracking := Dict.set s.tracking id t } := by
  refine { hs with nodup := Dict.nodup_keys_set hs.nodup id t, budget := fun u hu => ?_,
                   unseen := fun hnew => ?_ }
  · have hu' : t = u := by
      have h := (Dict.get?_set_self s.tracking id t).symm.trans hu
      exact Option.some.inj h
    rw [← hu']
    exact hbudget
  · rcases hnew with hnew | hnew
    · exact absurd hadded hnew
    · exact absurd hnew hbuffer

/-- A tracked message has been added, and no longer waits in the buffer. -/
theorem Inv.of_tracked (hs : Inv id s) {t : Tracked} (ht : Dict.get? s.tracking id = some t) :
    id ∈ s.added ∧ id ∉ s.buffered := by
  by_contra hnot
  have hnew : id ∉ s.added ∨ id ∈ s.buffered := by tauto
  rw [(hs.unseen hnew).untracked] at ht
  cases ht

theorem Inv.requeue_other (hs : Inv id s) {other : Value} (hne : other ≠ id) (t : Tracked)
    (passTime : ℚ) (valid : Bool) (now : ℚ) : Inv id (s.requeue other t passTime valid now) := by
  unfold State.requeue
  split_ifs
  · exact (hs.set_other hne _).put_other hne _ _
  · exact hs.erase other

theorem Inv.requeue (hs : Inv id s) {t : Tracked} (ht : Dict.get? s.tracking id = some t)
    {valid : Bool}
    (hkeeps : valid = true → t.retryCount < maxRetries ∧ .completed id true ∉ s.log)
    (passTime now : ℚ) : Inv id (s.requeue id t passTime valid now) := by
  unfold State.requeue
  split_ifs with hvalid
  · obtain ⟨hcount, hopen⟩ := hkeeps hvalid
    obtain ⟨hadded, hbuffer⟩ := hs.of_tracked ht
    have hbudget := hs.budget t ht
    have hmore := hs.set_self hadded hbuffer
      (t := { t with timestamp := passTime, retryCount := t.retryCount + 1 })
      (Nat.le_succ_of_le hbudget)
    refine hmore.put_self hadded hbuffer ?_ (fun u hu => ?_) hopen _ _
    · show s.log.count (.put id) ≤ maxRetries
      omega
    · have hu' : u.retryCount = t.retryCount + 1 := by
        have h := (Dict.get?_set_self s.tracking id _).symm.trans hu
        rw [← Option.some.inj h]
      show s.log.count (.put id) ≤ u.retryCount
      omega
  · exact hs.erase id

theorem retryCount_lt_of_shouldRetry {t : Tracked} {healthy : Bool}
    (h : State.shouldRetry t healthy = true) : t.retryCount < maxRetries := by
  unfold State.shouldRetry at h
  rw [Bool.and_eq_true] at h
  exact of_decide_eq_true h.2

/-- Another message that has timed out. -/
theorem handleTimedOut_other {e : Value × Tracked} (hne : e.1 ≠ id) (hs : Inv id s) (now : ℚ)
    (healthy : Bool) (valid : Value → Bool) :
    Inv id (s.handleTimedOut now healthy valid e) ∧
      Dict.get? (s.handleTimedOut now healthy valid e).tracking id = Dict.get? s.tracking id ∧
      (.completed id true ∈ (s.handleTimedOut now healthy valid e).log ↔ .completed id true ∈ s.log) := by
  have herase : Dict.get? (Dict.erase s.tracking e.1) id = Dict.get? s.tracking id :=
    Dict.get?_erase_ne s.tracking hne
  unfold State.handleTimedOut
  split_ifs
  · refine ⟨hs.requeue_other hne _ _ _ _, ?_⟩
    unfold State.requeue
    split_ifs
    · exact ⟨Dict.get?_set_ne s.tracking _ hne, by simp [State.put]⟩
    · exact ⟨herase, Iff.rfl⟩
  · exact ⟨hs.erase e.1, herase, Iff.rfl⟩

/-- The loop over the messages that have timed out. -/
theorem Inv.handleTimedOut_foldl (hs : Inv id s) {now : ℚ} {healthy : Bool} {valid : Value → Bool}
    {entries : List (Value × Tracked)} (hnodup : (entries.map Prod.fst).Nodup)
    (hcurrent : ∀ t, (id, t) ∈ entries → Dict.get? s.tracking id = some t)
    (hkeeps : ∀ t, (id, t) ∈ entries → State.shouldRetry t healthy = true → valid id = true →
      .completed id true ∉ s.log) :
    Inv id (entries.foldl (fun s e => s.handleTimedOut now healthy valid e) s) := by
  induction entries generalizing s with
  | nil => exact hs
  | cons e entries ih =>
    rw [List.map_cons, List.nodup_cons] at hnodup
    rw [List.foldl_cons]
    by_cases hid : e.1 = id
    · obtain ⟨e1, t⟩ := e
      subst hid
      have habsent : ∀ t', (e1, t') ∉ entries := fun t' hmem =>
        hnodup.1 (List.mem_map.mpr ⟨(e1, t'), hmem, rfl⟩)
      refine ih ?_ hnodup.2 (fun t' hmem => absurd hmem (habsent t'))
        fun t' hmem => absurd hmem (habsent t')
      unfold State.handleTimedOut
      split_ifs with hretry
      · exact hs.requeue (hcurrent t List.mem_cons_self)
          (fun hvalid => ⟨retryCount_lt_of_shouldRetry hretry,
            hkeeps t List.mem_cons_self hretry hvalid⟩) _ _
      · exact hs.erase e1
    · obtain ⟨hnext, htracking, hlog⟩ := handleTimedOut_other hid hs now healthy valid
      refine ih hnext hnodup.2 (fun t hmem => ?_) fun t hmem hretry hvalid => ?_
      · rw [htracking]
        exact hcurrent t (List.mem_cons_of_mem _ hmem)
      · rw [hlog]
        exact hkeeps t (List.mem_cons_of_mem _ hmem) hretry hvalid

theorem Inv.timeouts (hs : Inv id s) {now : ℚ} {healthy : Bool} {valid : Value → Bool}
    (hkeeps : Keeps id s (.timeouts now healthy valid)) :
    Inv id (nextState s (.timeouts now healthy valid)) := by
  have hmem : ∀ t, (id, t) ∈ s.timedOut now →
      Dict.get? s.tracking id = some t ∧ now - t.timestamp > messageTimeout := by
    intro t ht
    obtain ⟨htracking, hlate⟩ := List.mem_filter.mp ht
    exact ⟨Dict.get?_of_mem hs.nodup htracking, of_decide_eq_true hlate⟩
  refine hs.handleTimedOut_foldl (hs.nodup.sublist (List.filter_sublist.map Prod.fst))
    (fun t ht => (hmem t ht).1) fun t ht hretry hvalid => ?_
  exact hkeeps t (hmem t ht).1 (hmem t ht).2 hretry hvalid

theorem Inv.added (hs : Inv id s) (other : Value) : Inv id { s with added := other :: s.added } :=
  have hbefore : id ∉ other :: s.added → id ∉ s.added := fun hnew hmem =>
    hnew (List.mem_cons_of_mem other hmem)
  { hs with
    unbuffered := fun hnew => hs.unbuffered (hbefore hnew)
    unseen := fun hnew => { hs.unseen (hnew.imp_left hbefore) with } }

/-- The message is added for the first time. -/
theorem Inv.add_self (hs : Inv id s) (hnew : id ∉ s.added) (p : Priority) (valid : Bool) (now : ℚ) :
    Inv id (nextState s (.add id p valid now)) := by
  have hunseen := hs.unseen (.inl hnew)
  have hbuffer := hs.unbuffered hnew
  have htracked : Inv id { s with
      tracking := Dict.set s.tracking id ⟨now, p, 0⟩
      added := id :: s.added } :=
    (hs.added id).set_self List.mem_cons_self hbuffer (hunseen.neverPut.trans_le (Nat.zero_le _))
  simp only [nextState]
  split_ifs
  · refine htracked.put_self List.mem_cons_self hbuffer ?_ (fun t _ => ?_) hunseen.notCompleted p now
    · exact hunseen.neverPut.trans_le (Nat.zero_le _)
    · exact hunseen.neverPut.trans_le (Nat.zero_le _)
  · exact htracked

theorem Inv.add (hs : Inv id s) {other : Value} (hnew : other = id → id ∉ s.added) (p : Priority)
    (valid : Bool) (now : ℚ) : Inv id (nextState s (.add other p valid now)) := by
  by_cases hid : other = id
  · subst hid
    exact hs.add_self (hnew rfl) p valid now
  · have htracked := (hs.set_other hid ⟨now, p, 0⟩).added other
    simp only [nextState]
    split_ifs
    · exact htracked.put_other hid p now
    · exact htracked

/-- A message more in the buffer. -/
theorem count_buffered_append (s : State) (p : Priority) (other id : Value) :
    (priorities.flatMap (Function.update s.buffer p (s.buffer p ++ [other]))).count id =
      s.buffered.count id + [other].count id := by
  rw [← Multiset.coe_count, flatMap_update_append, Multiset.count_add, Multiset.coe_count,
    Multiset.coe_count]
  rfl

theorem Inv.buffer (hs : Inv id s) {other : Value} (hnew : other = id → id ∉ s.added)
    (p : Priority) : Inv id (nextState s (.buffer other p)) := by
  have hcount := count_buffered_append s p other id
  by_cases hid : other = id
  · subst hid
    have hunseen := hs.unseen (.inl (hnew rfl))
    have hnone : s.buffered.count other = 0 := List.count_eq_zero.mpr (hs.unbuffered (hnew rfl))
    refine { hs with once := ?_, unbuffered := fun h => ?_, unseen := fun _ => { hunseen with } }
    · refine hcount.trans_le ?_
      rw [hnone, List.count_singleton_self]
    · exact absurd List.mem_cons_self h
  · have hsame : (nextState s (.buffer other p)).buffered.count id = s.buffered.count id := by
      refine hcount.trans ?_
      rw [List.count_singleton, if_neg (by simpa using hid)]
      rfl
    have hmem : id ∈ (nextState s (.buffer other p)).buffered → id ∈ s.buffered := by
      intro h
      rw [← List.count_pos_iff] at h ⊢
      omega
    have hbefore : id ∉ other :: s.added → id ∉ s.added := fun h hin =>
      h (List.mem_cons_of_mem other hin)
    exact { hs with
      once := hsame.trans_le hs.once
      unbuffered := fun h hin => hs.unbuffered (hbefore h) (hmem hin)
      unseen := fun h => { hs.unseen (h.imp hbefore hmem) with } }

theorem allMessages_snd (s : State) : s.allMessages.map Prod.snd = s.buffered := by
  simp [State.allMessages, State.buffered, List.map_flatMap]

/-- The loop of a flush, over messages that the buffer no longer holds. -/
theorem Inv.flush_foldl (hs : Inv id s) {messages : List (Priority × Value)}
    (honce : (messages.map Prod.snd).count id ≤ 1) (hempty : id ∉ s.buffered)
    (hunseen : id ∈ messages.map Prod.snd → id ∈ s.added ∧ Unseen id s) (valid : Value → Bool)
    (now : ℚ) : Inv id (messages.foldl (fun s m => s.flushMessage valid now m) s) := by
  induction messages generalizing s with
  | nil => exact hs
  | cons m messages ih =>
    obtain ⟨p, other⟩ := m
    rw [List.map_cons] at honce hunseen
    rw [List.foldl_cons]
    unfold State.flushMessage
    by_cases hid : other = id
    · subst hid
      rw [List.count_cons_self] at honce
      have habsent : other ∉ messages.map Prod.snd := List.count_eq_zero.mp (by omega)
      obtain ⟨hadded, hnew⟩ := hunseen List.mem_cons_self
      refine ih ?_ (by omega) ?_ fun h => absurd h habsent
      · split_ifs
        · refine hs.put_self hadded hempty ?_ (fun t _ => ?_) hnew.notCompleted p now
          · exact hnew.neverPut.trans_le (Nat.zero_le _)
          · exact hnew.neverPut.trans_le (Nat.zero_le _)
        · exact hs
      · split_ifs
        · exact hempty
        · exact hempty
    · rw [List.count_cons_of_ne hid] at honce
      have hrest : id ∈ messages.map Prod.snd → id ∈ s.added ∧ Unseen id s := fun h =>
        hunseen (List.mem_cons_of_mem other h)
      split_ifs
      · exact ih (hs.put_other hid p now) honce hempty fun h =>
          ⟨(hrest h).1, (hrest h).2.put_other hid p now⟩
      · exact ih hs honce hempty hrest

theorem Inv.flush (hs : Inv id s) (valid : Value → Bool) (now : ℚ) :
    Inv id (nextState s (.flush valid now)) := by
  have hnobody : id ∉ ({ s with buffer := fun _ => [] } : State).buffered := by
    simp [State.buffered, priorities]
  have hemptied : Inv id { s with buffer := fun _ => [] } :=
    { hs with
      once := (List.count_eq_zero.mpr hnobody).trans_le (Nat.zero_le _)
      unbuffered := fun _ => hnobody
      unseen := fun hnew => { hs.unseen (hnew.imp_right fun h => absurd h hnobody) with } }
  refine hemptied.flush_foldl ?_ hnobody (fun hmem => ?_) valid now
  · rw [allMessages_snd]
    exact hs.once
  · rw [allMessages_snd] at hmem
    refine ⟨?_, { hs.unseen (.inr hmem) with }⟩
    by_contra hnew
    exact hs.unbuffered hnew hmem

theorem Inv.take (hs : Inv id s) (worker : ℕ) (stopping : Bool) :
    Inv id (nextState s (.take worker stopping)) := by
  simp only [nextState]
  split
  · rename_i item queue hidle hget
    obtain ⟨hitem, hrest⟩ := mem_items_of_taken hget
    have hputs : (Event.handed item :: s.log).count (.put id) = s.log.count (.put id) :=
      List.count_cons_of_ne (show Event.handed item ≠ .put id from nofun)
    refine { hs with budget := fun t ht => ?_, bound := ?_, settled := fun hmem hin => ?_,
                     never := ⟨fun he => ?_, hs.never⟩, unseen := fun hnew => ?_ }
    · exact hputs.trans_le (hs.budget t ht)
    · exact hputs.trans_le hs.bound
    · exact hs.settled (by simpa using hmem) (hrest id hin)
    · intro hcompleted
      cases he
      exact hs.settled hcompleted hitem
    · have hunseen := hs.unseen hnew
      refine { hunseen with neverPut := hputs.trans hunseen.neverPut
                            notCompleted := by simpa using hunseen.notCompleted
                            absent := fun h => hunseen.absent (hrest id h)
                            notHandled := fun w => ?_ }
      show Function.update s.workers worker (.handling item) w ≠ .handling id
      by_cases hw : w = worker
      · subst hw
        rw [Function.update_self]
        rintro h
        cases h
        exact hunseen.absent hitem
      · rw [Function.update_of_ne hw]
        exact hunseen.notHandled w
  · exact hs

theorem Inv.finish (hs : Inv id s) {worker : ℕ} {success : Bool} {now : ℚ}
    (hkeeps : Keeps id s (.finish worker success now)) :
    Inv id (nextState s (.finish worker success now)) := by
  simp only [nextState]
  split
  · rename_i handled hhandling
    have hitems : (s.finish worker handled success now).queue.items = s.queue.items :=
      items_taskDone s.queue (taskId handled) true now
    have hlog : (s.finish worker handled success now).log = .completed handled success :: s.log := rfl
    have hputs : (s.finish worker handled success now).log.count (.put id) = s.log.count (.put id) :=
      List.count_cons_of_ne (show Event.completed handled success ≠ .put id from nofun)
    refine { hs with budget := fun t ht => ?_, bound := ?_, settled := fun hmem => ?_, never := ?_,
                     unseen := fun hnew => ?_ }
    · exact hputs.trans_le (hs.budget t ht)
    · exact hputs.trans_le hs.bound
    · rw [hitems]
      rw [hlog] at hmem
      rcases List.mem_cons.mp hmem with hmem | hmem
      · cases hmem
        exact hkeeps hhandling
      · exact hs.settled hmem
    · rw [hlog]
      exact ⟨nofun, hs.never⟩
    · have hunseen := hs.unseen hnew
      refine ⟨hunseen.untracked, hputs.trans hunseen.neverPut, fun hmem => ?_, ?_, fun w => ?_⟩
      · rw [hlog] at hmem
        rcases List.mem_cons.mp hmem with hmem | hmem
        · cases hmem
          exact hunseen.notHandled worker hhandling
        · exact hunseen.notCompleted hmem
      · rw [hitems]
        exact hunseen.absent
      · show Function.update s.workers worker (.completed handled) w ≠ .handling id
        by_cases hw : w = worker
        · subst hw
          rw [Function.update_self]
          exact nofun
        · rw [Function.update_of_ne hw]
          exact hunseen.notHandled w
  · exact hs

theorem Inv.untrack (hs : Inv id s) (worker : ℕ) : Inv id (nextState s (.untrack worker)) := by
  simp only [nextState]
  split
  · rename_i done hdone
    have herased := hs.erase (taskId done)
    refine { herased with unseen := fun hnew => { herased.unseen hnew with notHandled := fun w => ?_ } }
    show Function.update s.workers worker .idle w ≠ .handling id
    by_cases hw : w = worker
    · subst hw
      rw [Function.update_self]
      exact nofun
    · rw [Function.update_of_ne hw]
      exact (herased.unseen hnew).notHandled w
  · exact hs

theorem Inv.retry (hs : Inv id s) {index : ℕ} {valid : Bool} {now : ℚ}
    (hkeeps : Keeps id s (.retry index valid now)) : Inv id (nextState s (.retry index valid now)) := by
  simp only [nextState]
  split
  · rename_i passTime candidate hcandidate
    have hdropped : Inv id { s with candidates := s.candidates.eraseIdx index } :=
      { hs with unseen := fun hnew => { hs.unseen hnew with } }
    split
    · rename_i t ht
      by_cases hid : candidate = id
      · subst hid
        refine hdropped.requeue ht (fun hvalid => ?_) _ _
        subst hvalid
        exact hkeeps passTime t hcandidate ht
      · exact hdropped.requeue_other hid _ _ _ _
    · exact hdropped
  · exact hs

theorem Inv.collect (hs : Inv id s) (passTime now : ℚ) :
    Inv id (nextState s (.collect passTime now)) :=
  { hs with unseen := fun hnew => { hs.unseen hnew with } }

theorem inv_nextState (hs : Inv id s) {a : Action} (hkeeps : Keeps id s a)
    (hnew : id ∈ a.adds → id ∉ s.added) : Inv id (nextState s a) := by
  cases a with
  | add other p valid now => exact hs.add (fun h => hnew (List.mem_singleton.mpr h.symm)) p valid now
  | buffer other p => exact hs.buffer (fun h => hnew (List.mem_singleton.mpr h.symm)) p
  | flush valid now => exact hs.flush valid now
  | take worker stopping => exact hs.take worker stopping
  | finish worker success now => exact hs.finish hkeeps
  | untrack worker => exact hs.untrack worker
  | timeouts now healthy valid => exact hs.timeouts hkeeps
  | collect passTime now => exact hs.collect passTime now
  | retry index valid now => exact hs.retry hkeeps

end Steps

theorem inv_idleHandler (id : Value) : Inv id idleHandler where
  nodup := List.nodup_nil
  budget t ht := by cases ht
  bound := Nat.zero_le _
  settled hmem := by cases hmem
  never := trivial
  once := Nat.zero_le _
  unbuffered _ := List.not_mem_nil
  unseen _ := ⟨rfl, rfl, List.not_mem_nil, List.not_mem_nil, fun _ => nofun⟩


def addedIds (actions : List Action) : List Value := actions.flatMap Action.adds

theorem handleTimedOut_foldl_added (now : ℚ) (healthy : Bool) (valid : Value → Bool)
    (entries : List (Value × Tracked)) (s : State) :
    (entries.foldl (fun s e => s.handleTimedOut now healthy valid e) s).added = s.added := by
  induction entries generalizing s with
  | nil => rfl
  | cons e entries ih =>
    rw [List.foldl_cons, ih]
    unfold State.handleTimedOut State.requeue
    split_ifs <;> rfl

theorem flush_foldl_added (valid : Value → Bool) (now : ℚ) (messages : List (Priority × Value))
    (s : State) : (messages.foldl (fun s m => s.flushMessage valid now m) s).added = s.added := by
  induction messages generalizing s with
  | nil => rfl
  | cons m messages ih =>
    rw [List.foldl_cons, ih]
    unfold State.flushMessage
    split_ifs <;> rfl

theorem added_nextState (s : State) (a : Action) : (nextState s a).added = a.adds ++ s.added := by
  cases a with
  | add id p valid now =>
    simp only [nextState]
    split_ifs <;> rfl
  | buffer id p => rfl
  | flush valid now => exact flush_foldl_added valid now _ _
  | take worker stopping =>
    simp only [nextState]
    split <;> rfl
  | finish worker success now =>
    simp only [nextState]
    split <;> rfl
  | untrack worker =>
    simp only [nextState]
    split <;> rfl
  | timeouts now healthy valid => exact handleTimedOut_foldl_added now healthy valid _ s
  | collect passTime now => rfl
  | retry index valid now =>
    simp only [nextState, State.requeue]
    repeat' split
    all_goals rfl

theorem inv_final {id : Value} {s : State} {actions : List Action} (hs : Inv id s)
    (hkeeps : Along retryStep (Keeps id) s actions)
    (honce : (addedIds actions).count id + s.added.count id ≤ 1) :
    Inv id (final retryStep s actions) := by
  induction actions generalizing s with
  | nil => exact hs
  | cons a actions ih =>
    have hsplit : (addedIds (a :: actions)).count id =
        a.adds.count id + (addedIds actions).count id := by
      rw [addedIds, List.flatMap_cons, List.count_append]
      rfl
    have hnext : (nextState s a).added.count id = a.adds.count id + s.added.count id := by
      rw [added_nextState, List.count_append]
    refine ih (inv_nextState hs hkeeps.1 fun hadds => ?_) hkeeps.2 ?_
    · have hone : 0 < a.adds.count id := List.count_pos_iff.mpr hadds
      apply List.count_eq_zero.mp
      omega
    · show (addedIds actions).count id + (nextState s a).added.count id ≤ 1
      omega

/-- A message that is added at most once, in a run whose steps all meet the condition. -/
theorem bounded_retries (id : Value) (actions : List Action) (honce : (addedIds actions).count id ≤ 1)
    (hkeeps : Along retryStep (Keeps id) idleHandler actions) :
    (final retryStep idleHandler actions).log.count (.put id) ≤ 1 + maxRetries ∧
      NeverAgain id (final retryStep idleHandler actions).log := by
  have hinv : Inv id (final retryStep idleHandler actions) :=
    inv_final (inv_idleHandler id) hkeeps honce
  exact ⟨hinv.bound, hinv.never⟩

/-- A message that the table of the queue has from its first `put`, at time 0. -/
structure Due (id : Value) (s : State) : Prop where
  table : s.queue.retryTracking = [(id, (0, 0))]
  tracked : ∃ t, Dict.get? s.tracking id = some t
  candidates : s.candidates = []

/-- The queue's part of a pass that has one candidate. -/
def retryingPass (now : ℚ) : List Action := [.collect now now, .retry 0 true now]

/-- The table still has the first stamp and the first count after a pass, so that the next one does
the same. -/
theorem Due.retryingPass {id : Value} {s : State} (h : Due id s) {now : ℚ} (hnow : retryDelay ≤ now) :
    Due id (final retryStep s (Retry.retryingPass now)) ∧
      (final retryStep s (Retry.retryingPass now)).log.count (.put id) = s.log.count (.put id) + 1 := by
  obtain ⟨t, ht⟩ := h.tracked
  have hdue : s.queue.getRetryCandidates maxRetries retryDelay now = ([id], s.queue) := by
    have hqueue : s.queue = ⟨s.queue.queues, [(id, (0, 0))]⟩ := by rw [← h.table]
    rw [hqueue]
    simp [PriorityQueue.getRetryCandidates, maxRetries, hnow]
  let collected : State := { s with candidates := [(now, id)] }
  let retried : State := { s with
    tracking := Dict.set s.tracking id { t with timestamp := now, retryCount := t.retryCount + 1 } }
  have hcollect : nextState s (.collect now now) = collected := by
    simp [nextState, hdue, h.candidates, collected]
  have hretry : nextState collected (.retry 0 true now) = retried.put id .high now := by
    simp [nextState, collected, ht, State.requeue, retried, h.candidates]
  have hfinal : final retryStep s (Retry.retryingPass now) = retried.put id .high now := by
    simp only [Retry.retryingPass, final_cons, final_nil, retryStep, hcollect, hretry]
  rw [hfinal]
  refine ⟨⟨?_, ⟨_, Dict.get?_set_self s.tracking id _⟩, h.candidates⟩, List.count_cons_self⟩
  show (s.queue.put id id .high now).retryTracking = _
  rw [PriorityQueue.put, h.table]
  simp [Dict.has, Dict.get?]

/-- Each pass puts a message that has not been completed into the queue once more, as long as it is
five seconds after the first time. -/
theorem Due.puts {id : Value} {s : State} (h : Due id s) {times : List ℚ}
    (htimes : ∀ now ∈ times, retryDelay ≤ now) :
    (final retryStep s (times.flatMap Retry.retryingPass)).log.count (.put id) =
      s.log.count (.put id) + times.length := by
  induction times generalizing s with
  | nil => rfl
  | cons now times ih =>
    obtain ⟨hnext, hputs⟩ := h.retryingPass (htimes now List.mem_cons_self)
    rw [List.flatMap_cons, final_append,
      ih hnext fun now hnow => htimes now (List.mem_cons_of_mem _ hnow), hputs, List.length_cons]
    omega

theorem unbounded_puts (id : Value) (p : Priority) {times : List ℚ}
    (htimes : ∀ now ∈ times, retryDelay ≤ now) :
    (final retryStep idleHandler
      (.add id p true 0 :: times.flatMap retryingPass)).log.count (.put id) = 1 + times.length := by
  have hadded : Due id (nextState idleHandler (.add id p true 0)) := by
    refine ⟨?_, ⟨⟨0, p, 0⟩, Dict.get?_set_self idleHandler.tracking id _⟩, rfl⟩
    simp [nextState, State.put, idleHandler, PriorityQueue.put, PriorityQueue.new, Dict.has, Dict.set]
  have hone : (nextState idleHandler (.add id p true 0)).log.count (.put id) = 1 :=
    List.count_singleton_self
  rw [final_cons, retryStep, hadded.puts htimes, hone]

/-- Passes from five seconds on, while the handler of the message is slow. -/
def slowHandler : List Action :=
  [.add (.str "m") .normal true 0, .take 0 false] ++ [5, 51 / 10, 52 / 10, 53 / 10].flatMap retryingPass

theorem retries_exceeded :
    ¬∀ (id : Value) (actions : List Action), (addedIds actions).count id ≤ 1 →
      (final retryStep idleHandler actions).log.count (.put id) ≤ 1 + maxRetries ∧
        NeverAgain id (final retryStep idleHandler actions).log := by
  intro h
  have hputs := (h (.str "m") slowHandler (by decide +kernel)).1
  revert hputs
  decide +kernel

/-- The handler completes, and a worker takes one of the copies. -/
theorem handled_again :
    ¬NeverAgain (.str "m") (final retryStep idleHandler
      (slowHandler ++ [.finish 0 true 6, .untrack 0, .take 0 false])).log := by
  decide +kernel

/-- A message that is retried once and then handled. -/
theorem bounded_retries_sample :
    (final retryStep idleHandler
        [.add (.str "m") .normal true 0, .timeouts 31 true fun _ => true, .take 0 false, .take 1 false,
          .finish 0 true 32, .untrack 0]).log.count (.put (.str "m")) ≤ 1 + maxRetries ∧
      NeverAgain (.str "m") (final retryStep idleHandler
        [.add (.str "m") .normal true 0, .timeouts 31 true fun _ => true, .take 0 false, .take 1 false,
          .finish 0 true 32, .untrack 0]).log := by
  refine bounded_retries (.str "m") _ (by decide +kernel) ⟨trivial, ?_, trivial, trivial, ?_, trivial, trivial⟩
  · intro _ _ _ _ _
    decide +kernel
  · intro _
    decide +kernel

end Fmofp.AsyncHandler.Retry
