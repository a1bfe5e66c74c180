import Fmofp.EventBus.Dispatch

/-! Every subscription that stays is called once with each item, if no unsubscription makes the iterator
over a list itself pass over an entry. -/

namespace Fmofp.EventBus

open Python Machine

variable {C : Type}

/-- The serial numbers tell all subscriptions for a key apart. -/
structure State.Numbered (s : State C) : Prop where
  nodup : ∀ key, (s.entries key).Nodup
  serial : ∀ key, ∀ e ∈ s.entries key, e.serial < s.subscriptions

theorem turn_subscribers (failed : Bool) (s : State C) :
    (s.turn failed).2.subscribers = s.subscribers ∧
      (s.turn failed).2.subscriptions = s.subscriptions := by
  unfold State.turn
  split
  · split <;> exact ⟨rfl, rfl⟩
  · exact ⟨rfl, rfl⟩
  · exact ⟨rfl, rfl⟩
  · exact ⟨rfl, rfl⟩
  · split <;> exact ⟨rfl, rfl⟩

variable [DecidableEq C]

theorem step_numbered {s : State C} (h : s.Numbered) (a : Action C) : (step s a).2.Numbered := by
  cases a with
  | publish item =>
    have hentries : (step s (.publish item)).2.entries = s.entries := by
      funext key
      rw [State.entries, (step_publish s item).1, State.entries]
    have hcount : (step s (.publish item)).2.subscriptions = s.subscriptions := by
      simp only [step, State.publish]
      split <;> rfl
    exact ⟨hentries ▸ h.nodup, by rw [hentries, hcount]; exact h.serial⟩
  | subscribe topic callback =>
    obtain ⟨-, -, hentries⟩ := step_subscribe s topic callback
    have hcount : (step s (.subscribe topic callback)).2.subscriptions =
        if topic.key?.isSome then s.subscriptions + 1 else s.subscriptions := by
      simp only [step, State.subscribe]
      cases topic.key? <;> rfl
    constructor
    · intro key
      rw [hentries]
      split_ifs
      · refine (h.nodup key).append (List.nodup_singleton _) fun e he he' => ?_
        have hlt := h.serial key e he
        rw [List.mem_singleton.mp he'] at hlt
        exact lt_irrefl _ hlt
      · rw [List.append_nil]
        exact h.nodup key
    · intro key e he
      rw [hentries] at he
      rw [hcount]
      rcases List.mem_append.mp he with he | he
      · have hlt := h.serial key e he
        split_ifs <;> omega
      · split_ifs at he with hkey
        · rw [List.mem_singleton.mp he, hkey, Option.isSome_some, if_pos rfl]
          exact Nat.lt_succ_self _
        · cases he
  | unsubscribe topic callback =>
    obtain ⟨-, -, hentries⟩ := step_unsubscribe s topic callback
    have hcount : (step s (.unsubscribe topic callback)).2.subscriptions = s.subscriptions := by
      simp only [step, State.unsubscribe]
      cases topic.key? with
      | none => rfl
      | some key =>
        simp only
        split <;> rfl
    constructor
    · intro key
      rw [hentries]
      split_ifs
      · exact (h.nodup key).sublist List.eraseP_sublist
      · exact h.nodup key
    · intro key e he
      rw [hentries] at he
      rw [hcount]
      split_ifs at he
      · exact h.serial key e (List.eraseP_sublist.mem he)
      · exact h.serial key e he
  | turn failed =>
    obtain ⟨hsubscribers, hcount⟩ := turn_subscribers failed s
    have hentries : (step s (.turn failed)).2.entries = s.entries := by
      funext key
      rw [State.entries, step, hsubscribers, State.entries]
    exact ⟨hentries ▸ h.nodup, by rw [hentries, step, hcount]; exact h.serial⟩

/-- An unsubscription that takes away an entry before the iterator while others are still to come: the
iterator then passes over one of them. -/
def skips (s : State C) : Action C → Bool
  | .unsubscribe topic callback => match s.handling with
    | some (_, .routing key next) =>
      decide (topic.key? = some key) && decide (next < (s.entries key).length) &&
        decide ((s.entries key).findIdx (fun e => decide (e.callback = callback)) < next)
    | _ => false
  | _ => false

section Tracking

variable (sub : Subscription C) (item : Item) (key : Value)

/-- How often a subscription was called since the item was taken, by how far the handling is. -/
def Tracks (calls : List (Subscription C × Item)) (s : State C) : Prop :=
  match s.handling with
  | none => calls.count (sub, item) = 1
  | some (item', .taken) => item' = item ∧ calls.count (sub, item) = 0
  | some (item', .delivering remaining) =>
    item' = item ∧ calls.count (sub, item) + remaining.count sub = 1
  | some (item', .routing key' next) => item' = item ∧ key' = key ∧
    ∃ j, (s.entries key)[j]? = some sub ∧ calls.count (sub, item) = if j < next then 1 else 0

variable {sub item key} {calls : List (Subscription C × Item)} {s : State C}

/-- A step that leaves the handling and the list of the key alone leaves the count right. -/
theorem tracks_of_same {a : Action C} (hhandling : (step s a).2.handling = s.handling)
    (hcalled : called s a = []) (hentries : ∀ j : ℕ, (s.entries key)[j]? = some sub →
      ((step s a).2.entries key)[j]? = some sub) (h : Tracks sub item key calls s) :
    Tracks sub item key (calls ++ called s a) (step s a).2 := by
  rw [hcalled, List.append_nil]
  unfold Tracks at h ⊢
  rw [hhandling]
  split at h
  · exact h
  · exact h
  · exact h
  · obtain ⟨hitem, hkey, j, hj, hcount⟩ := h
    exact ⟨hitem, hkey, j, hentries j hj, hcount⟩

theorem eraseP_eq_eraseIdx_findIdx {α : Type} (l : List α) (p : α → Bool) :
    l.eraseP p = l.eraseIdx (l.findIdx p) := by
  induction l with
  | nil => rfl
  | cons x xs ih =>
    rw [List.eraseP_cons, List.findIdx_cons]
    cases p x with
    | true => rfl
    | false => simp [ih]

/-- Where an entry is once an earlier or a later one was taken away, and on which side of the
iterator. -/
theorem position_eraseIdx {α : Type} {l : List α} (hl : l.Nodup) {x : α} {i j next : ℕ}
    (hj : l[j]? = some x) (hx : x ∈ l.eraseIdx i) (hguard : ¬(next < l.length ∧ i < next)) :
    ∃ j', (l.eraseIdx i)[j']? = some x ∧ (j' < next ↔ j < next) := by
  obtain ⟨j', hj'⟩ := List.mem_iff_getElem?.mp hx
  refine ⟨j', hj', ?_⟩
  rw [List.getElem?_eraseIdx] at hj'
  have hlt : j < l.length := (List.getElem?_eq_some_iff.mp hj).1
  split_ifs at hj' with hside
  · have hsame := (List.getElem?_inj hlt hl).mp (hj.trans hj'.symm)
    rw [hsame]
  · have hsame := (List.getElem?_inj hlt hl).mp (hj.trans hj'.symm)
    omega

theorem unsubscribe_tracks (topic : Value) (callback : C) (hnumbered : s.Numbered)
    (hafter : sub ∈ (step s (.unsubscribe topic callback)).2.entries key)
    (hguard : skips s (.unsubscribe topic callback) = false) (h : Tracks sub item key calls s) :
    Tracks sub item key (calls ++ called s (.unsubscribe topic callback))
      (step s (.unsubscribe topic callback)).2 := by
  obtain ⟨hhandling, hcalled, hentries⟩ := step_unsubscribe s topic callback
  by_cases htopic : topic.key? = some key
  · rw [hcalled, List.append_nil]
    unfold Tracks at h ⊢
    rw [hhandling]
    cases hprogress : s.handling with
    | none => simpa only [hprogress] using h
    | some handling =>
      obtain ⟨item', progress⟩ := handling
      cases progress with
      | taken => simpa only [hprogress] using h
      | delivering remaining => simpa only [hprogress] using h
      | routing key' next =>
        simp only [hprogress] at h ⊢
        obtain ⟨hitem, rfl, j, hj, hcount⟩ := h
        simp only [skips, hprogress, htopic, decide_true, Bool.true_and, Bool.and_eq_false_iff,
          decide_eq_false_iff_not] at hguard
        refine ⟨hitem, rfl, ?_⟩
        rw [hentries, if_pos htopic, eraseP_eq_eraseIdx_findIdx] at hafter
        rw [hentries, if_pos htopic, eraseP_eq_eraseIdx_findIdx]
        obtain ⟨j', hj', hside⟩ := position_eraseIdx (hnumbered.nodup key') hj hafter
          fun hlt => hguard.elim (fun h => h hlt.1) fun h => h hlt.2
        refine ⟨j', hj', ?_⟩
        rw [hcount]
        simp only [hside]
  · refine tracks_of_same hhandling hcalled (fun j hj => ?_) h
    rw [hentries, if_neg htopic]
    exact hj

theorem count_call (e : Subscription C) :
    List.count (sub, item) [(e, item)] = if e = sub then 1 else 0 := by
  rw [List.count_singleton]
  by_cases he : e = sub <;> simp [he]

theorem turn_tracks (failed : Bool) (hnumbered : s.Numbered) (hkey : keyOf item = some key)
    (hbefore : sub ∈ s.entries key) (hbusy : s.handling.isSome = true)
    (h : Tracks sub item key calls s) :
    Tracks sub item key (calls ++ called s (.turn failed)) (step s (.turn failed)).2 := by
  obtain ⟨⟨item', progress⟩, hhandling⟩ := Option.isSome_iff_exists.mp hbusy
  unfold Tracks at h
  simp only [hhandling] at h
  simp only [called, step, State.turn, hhandling]
  cases progress with
  | taken =>
    obtain ⟨rfl, hcount⟩ := h
    cases item' with
    | event topic data =>
      have htopic : topic.key? = some key := hkey
      have hone := List.count_eq_one_of_mem (hnumbered.nodup key) hbefore
      simp only [Answer.calls, List.append_nil, Tracks, State.beginHandling, htopic, Option.map_some]
      exact ⟨trivial, by omega⟩
    | message messageType rtAddress data =>
      have haddress : rtAddress.key? = some key := hkey
      have hhas : Dict.has s.subscribers key = true := by
        cases hget : Dict.get? s.subscribers key with
        | none => simp [State.entries, hget] at hbefore
        | some list => simp [Dict.has, hget]
      obtain ⟨j, hj⟩ := List.mem_iff_getElem?.mp hbefore
      simp only [Answer.calls, List.append_nil, Tracks, State.beginHandling, haddress,
        Option.bind_some, hhas, if_true]
      exact ⟨trivial, trivial, j, hj, by simp [hcount]⟩
    | other => cases hkey
  | delivering remaining =>
    obtain ⟨rfl, hcount⟩ := h
    cases remaining with
    | nil =>
      simp only [Answer.calls, List.append_nil, Tracks]
      simpa using hcount
    | cons e rest =>
      simp only [Answer.calls, Tracks]
      refine ⟨trivial, ?_⟩
      rw [List.count_cons] at hcount
      rw [List.count_append, count_call]
      by_cases he : e = sub
      · simp only [he, beq_self_eq_true, if_true] at hcount ⊢
        omega
      · simp only [he, beq_iff_eq, if_false] at hcount ⊢
        omega
  | routing key' next =>
    obtain ⟨rfl, rfl, j, hj, hcount⟩ := h
    cases hnext : (s.entries key')[next]? with
    | none =>
      have hpast := List.getElem?_eq_none_iff.mp hnext
      have hlt := (List.getElem?_eq_some_iff.mp hj).1
      simp only [hnext, Answer.calls, List.append_nil, Tracks, hcount]
      rw [if_pos (by omega)]
    | some e =>
      simp only [hnext, Answer.calls, Tracks]
      refine ⟨trivial, trivial, j, hj, ?_⟩
      rw [List.count_append, hcount, count_call]
      by_cases he : e = sub
      · subst he
        have hlt := (List.getElem?_eq_some_iff.mp hj).1
        have hsame := (List.getElem?_inj hlt (hnumbered.nodup key')).mp (hj.trans hnext.symm)
        simp [hsame]
      · have hother : j ≠ next := by
          rintro rfl
          exact he (Option.some.inj (hnext.symm.trans hj))
        have hside : j < next + 1 ↔ j < next := by omega
        simp [he, hside]

/-- A step keeps the count right for a subscription that stays. -/
theorem step_tracks (a : Action C) (hnumbered : s.Numbered) (hkey : keyOf item = some key)
    (hbefore : sub ∈ s.entries key) (hafter : sub ∈ (step s a).2.entries key)
    (hguard : skips s a = false) (hbusy : s.handling.isSome = true)
    (h : Tracks sub item key calls s) :
    Tracks sub item key (calls ++ called s a) (step s a).2 := by
  cases a with
  | publish item' =>
    obtain ⟨hsubscribers, hhandling, hcalled⟩ := step_publish s item'
    refine tracks_of_same hhandling hcalled (fun j hj => ?_) h
    rw [State.entries, hsubscribers]
    exact hj
  | subscribe topic callback =>
    obtain ⟨hhandling, hcalled, hentries⟩ := step_subscribe s topic callback
    refine tracks_of_same hhandling hcalled (fun j hj => ?_) h
    rw [hentries, List.getElem?_append_left (List.getElem?_eq_some_iff.mp hj).1]
    exact hj
  | unsubscribe topic callback => exact unsubscribe_tracks topic callback hnumbered hafter hguard h
  | turn failed => exact turn_tracks failed hnumbered hkey hbefore hbusy h

end Tracking

/-- The subscription is there after each part of the run. -/
def Held (s : State C) (key : Value) (sub : Subscription C) (actions : List (Action C)) : Prop :=
  ∀ part, part <+: actions → sub ∈ (final step s part).entries key

/-- The steps from the one that takes `item` out of the queue to the one that ends its handling. -/
structure Handles (s : State C) (item : Item) (actions : List (Action C)) : Prop where
  idle : s.handling = none
  front : s.eventQueue.head? = some item
  takes : ∃ failed rest, actions = .turn failed :: rest
  busy : ∀ part, part <+: actions → part ≠ [] → part ≠ actions →
    (final step s part).handling.isSome = true
  ended : (final step s actions).handling = none

theorem run_tracks {sub : Subscription C} {item : Item} {key : Value}
    {calls : List (Subscription C × Item)} {s : State C} {actions : List (Action C)}
    (hnumbered : s.Numbered) (hkey : keyOf item = some key) (hheld : Held s key sub actions)
    (hguard : Along step (fun s a => skips s a = false) s actions)
    (hbusy : ∀ part, part <+: actions → part ≠ actions → (final step s part).handling.isSome = true)
    (h : Tracks sub item key calls s) :
    Tracks sub item key (calls ++ collect step called s actions) (final step s actions) := by
  induction actions generalizing calls s with
  | nil => simpa using h
  | cons a rest ih =>
    have hinit {part : List (Action C)} (hpart : part <+: rest) : a :: part <+: a :: rest :=
      (List.prefix_cons_inj a).mpr hpart
    have hstep := step_tracks a hnumbered hkey (hheld [] List.nil_prefix)
      (hheld [a] (hinit List.nil_prefix)) hguard.1 (hbusy [] List.nil_prefix (by simp)) h
    rw [collect_cons, ← List.append_assoc, final_cons]
    refine ih (step_numbered hnumbered a) (fun part hpart => hheld (a :: part) (hinit hpart)) hguard.2
      (fun part hpart hne => hbusy (a :: part) (hinit hpart) (by simpa using hne)) hstep

/-- While an item is handled, a subscription that stays is called with it once. -/
theorem handled_once {s : State C} (hnumbered : s.Numbered) {item : Item} {actions : List (Action C)}
    (h : Handles s item actions) (hguard : Along step (fun s a => skips s a = false) s actions)
    {key : Value} (hkey : keyOf item = some key) {sub : Subscription C} (hheld : Held s key sub actions) :
    (collect step called s actions).count (sub, item) = 1 := by
  obtain ⟨failed, rest, rfl⟩ := h.takes
  obtain ⟨queue, hqueue⟩ := List.head?_eq_some_iff.mp h.front
  have hinit {part : List (Action C)} (hpart : part <+: rest) :
      .turn failed :: part <+: .turn failed :: rest := (List.prefix_cons_inj _).mpr hpart
  have hfirst : step s (.turn failed) =
      (.done, { s with eventQueue := queue, handling := some (item, .taken) }) := by
    simp only [step, State.turn, h.idle, hqueue]
  have htracks : Tracks sub item key [] (step s (.turn failed)).2 := by
    rw [hfirst]
    exact ⟨rfl, rfl⟩
  have hlast := run_tracks (step_numbered hnumbered (.turn failed)) hkey
    (fun part hpart => hheld _ (hinit hpart)) hguard.2
    (fun part hpart hne => h.busy _ (hinit hpart) (by simp) (by simpa using hne)) htracks
  have hended : (final step (step s (.turn failed)).2 rest).handling = none := h.ended
  simp only [Tracks, hended, List.nil_append] at hlast
  have hnone : called s (.turn failed) = [] := by
    rw [called, hfirst]
    rfl
  rw [collect_cons, hnone, List.nil_append]
  exact hlast

/-- The queue of the bus is one: what is published goes to its end and what is handled is taken from
its front. -/
theorem queue_step (s : State C) (a : Action C) :
    s.eventQueue ++ published s a = taken s a ++ (step s a).2.eventQueue := by
  cases a with
  | publish item =>
    simp only [published, taken, step, State.publish, List.nil_append]
    split <;> simp
  | subscribe topic callback =>
    simp only [published, taken, step, State.subscribe, List.append_nil, List.nil_append]
    split <;> rfl
  | unsubscribe topic callback =>
    simp only [published, taken, step, State.unsubscribe, List.append_nil, List.nil_append]
    split
    · rfl
    · split <;> rfl
  | turn failed =>
    have hpublished : published s (.turn failed) = [] := rfl
    rw [hpublished, List.append_nil]
    cases hhandling : s.handling with
    | none =>
      cases hqueue : s.eventQueue with
      | nil => simp [taken, step, State.turn, hhandling, hqueue]
      | cons item rest => simp [taken, step, State.turn, hhandling, hqueue]
    | some handling =>
      obtain ⟨item, progress⟩ := handling
      have hnone : taken s (.turn failed) = [] := by simp [taken, hhandling]
      rw [hnone, List.nil_append, step, State.turn, hhandling]
      rcases progress with _ | (_ | ⟨e, rest⟩) | ⟨key, next⟩
      · rfl
      · rfl
      · rfl
      · simp only
        split <;> rfl

/-- The processing thread by itself. -/
def turns (n : ℕ) : List (Action C) := List.replicate n (.turn false)

theorem delivering_ends (remaining : List (Subscription C)) {s : State C} {item : Item}
    (h : s.handling = some (item, .delivering remaining)) :
    ∃ n, (final step s (turns n)).handling = none ∧
      (final step s (turns n)).eventQueue = s.eventQueue := by
  induction remaining generalizing s with
  | nil =>
    refine ⟨1, ?_⟩
    simp [turns, step, State.turn, h]
  | cons e rest ih =>
    have hnext : (step s (.turn false)).2 = { s with handling := some (item, .delivering rest) } := by
      simp only [step, State.turn, h]
    have hhandling : (step s (.turn false)).2.handling = some (item, .delivering rest) := by
      rw [hnext]
    obtain ⟨n, hidle, hqueue⟩ := ih hhandling
    refine ⟨n + 1, hidle, ?_⟩
    rw [turns, List.replicate_succ, final_cons]
    exact hqueue.trans (by rw [hnext])

theorem routing_ends (k : ℕ) {s : State C} {item : Item} {key : Value} {next : ℕ}
    (h : s.handling = some (item, .routing key next)) (hk : (s.entries key).length ≤ next + k) :
    ∃ n, (final step s (turns n)).handling = none ∧
      (final step s (turns n)).eventQueue = s.eventQueue := by
  induction k generalizing s next with
  | zero =>
    refine ⟨1, ?_⟩
    have hend : (s.entries key)[next]? = none := List.getElem?_eq_none_iff.mpr hk
    simp [turns, step, State.turn, h, hend]
  | succ k ih =>
    cases hnext : (s.entries key)[next]? with
    | none =>
      refine ⟨1, ?_⟩
      simp [turns, step, State.turn, h, hnext]
    | some e =>
      have hstep : (step s (.turn false)).2 =
          { s with handling := some (item, .routing key (next + 1)) } := by
        simp only [step, State.turn, h, hnext]
      have hhandling : (step s (.turn false)).2.handling = some (item, .routing key (next + 1)) := by
        rw [hstep]
      have hshorter : ((step s (.turn false)).2.entries key).length ≤ next + 1 + k := by
        rw [hstep]
        exact hk.trans (by omega)
      obtain ⟨n, hidle, hqueue⟩ := ih hhandling hshorter
      refine ⟨n + 1, hidle, ?_⟩
      rw [turns, List.replicate_succ, final_cons]
      exact hqueue.trans (by rw [hstep])

theorem begun_ends {s : State C} (h : ∀ item, s.handling ≠ some (item, .taken)) :
    ∃ n, (final step s (turns n)).handling = none ∧
      (final step s (turns n)).eventQueue = s.eventQueue := by
  cases hhandling : s.handling with
  | none => exact ⟨0, hhandling, rfl⟩
  | some handling =>
    obtain ⟨item, progress⟩ := handling
    cases progress with
    | taken => exact absurd hhandling (h item)
    | delivering remaining => exact delivering_ends remaining hhandling
    | routing key next => exact routing_ends (s.entries key).length hhandling (by omega)

omit [DecidableEq C] in
theorem beginHandling_begun (s : State C) (item item' : Item) :
    s.beginHandling item ≠ some (item', .taken) := by
  cases item with
  | event topic data => cases h : topic.key? <;> simp [State.beginHandling, h]
  | message messageType rtAddress data =>
    cases h : rtAddress.key? with
    | none => simp [State.beginHandling, h]
    | some key => by_cases hkey : Dict.has s.subscribers key <;> simp [State.beginHandling, h, hkey]
  | other => simp [State.beginHandling]

/-- The handling of an item ends if nothing else happens. -/
theorem handling_ends (s : State C) : ∃ n, (final step s (turns n)).handling = none ∧
    (final step s (turns n)).eventQueue = s.eventQueue := by
  by_cases htaken : ∃ item, s.handling = some (item, .taken)
  · obtain ⟨item, hhandling⟩ := htaken
    have hstep : (step s (.turn false)).2 = { s with handling := s.beginHandling item } := by
      simp only [step, State.turn, hhandling]
    obtain ⟨n, hidle, hqueue⟩ := begun_ends (s := (step s (.turn false)).2)
      fun item' => by rw [hstep]; exact beginHandling_begun s item item'
    refine ⟨n + 1, hidle, ?_⟩
    rw [turns, List.replicate_succ, final_cons]
    exact hqueue.trans (by rw [hstep])
  · exact begun_ends fun item hhandling => htaken ⟨item, hhandling⟩

omit [DecidableEq C] in
theorem turns_add (m n : ℕ) : turns (m + n) = turns m ++ (turns n : List (Action C)) :=
  List.replicate_add m n _

/-- The processing thread takes all that is queued. -/
theorem queue_drains (s : State C) : ∃ n, (final step s (turns n)).eventQueue = [] := by
  obtain ⟨k, hk⟩ : ∃ k, s.eventQueue.length = k := ⟨_, rfl⟩
  induction k generalizing s with
  | zero => exact ⟨0, List.eq_nil_of_length_eq_zero hk⟩
  | succ k ih =>
    obtain ⟨n, hidle, hqueue⟩ := handling_ends s
    obtain ⟨item, rest, hrest⟩ := List.exists_of_length_succ _ (hqueue ▸ hk)
    have htake : (final step s (turns (n + 1))).eventQueue = rest := by
      rw [turns_add, final_append]
      generalize final step s (turns n) = s' at hidle hrest
      simp [turns, step, State.turn, hidle, hrest]
    obtain ⟨m, hm⟩ := ih (final step s (turns (n + 1))) (by
      rw [htake]
      have hlen := hqueue ▸ hk
      rw [hrest, List.length_cons] at hlen
      omega)
    exact ⟨n + 1 + m, by rw [turns_add, final_append]; exact hm⟩

omit [DecidableEq C] in
theorem start_numbered : (start : State C).Numbered :=
  ⟨fun _ => List.nodup_nil, fun _ _ he => absurd he List.not_mem_nil⟩

theorem final_numbered {s : State C} (h : s.Numbered) (actions : List (Action C)) :
    (final step s actions).Numbered :=
  invariant_reachable (fun s a (hs : s.Numbered) => step_numbered hs a) h ⟨actions, rfl⟩

/-- Valid items are taken in the order in which they are published, all of them if the thread goes on. -/
def TakesInOrder (actions : List (Action C)) : Prop :=
  collect step published start actions =
      collect step taken start actions ++ (final step start actions).eventQueue ∧
    ∃ n, (final step (final step start actions) (turns n)).eventQueue = []

/-- Every item that is handled in the run is handed once to each subscription for its key that stays. -/
def DeliversOnce (actions : List (Action C)) : Prop :=
  ∀ before during item, before ++ during <+: actions →
    Handles (final step start before) item during → ∀ key, keyOf item = some key →
    ∀ sub, Held (final step start before) key sub during →
      (collect step called (final step start before) during).count (sub, item) = 1

/-- The bus delivers every item in order and once in a run in which no unsubscription makes the iterator
over a list pass over an entry. -/
theorem delivered_exactly_once {actions : List (Action C)}
    (hguard : Along step (fun s a => skips s a = false) start actions) :
    TakesInOrder actions ∧ DeliversOnce actions := by
  refine ⟨⟨?_, queue_drains _⟩, ?_⟩
  · have hfifo := fifo step queue_step start actions
    exact hfifo
  · rintro before during item ⟨after, rfl⟩ hhandles key hkey sub hheld
    rw [List.append_assoc] at hguard
    have hduring : Along step (fun s a => skips s a = false) (final step start before) during := by
      refine along_iff.mpr fun before' a after' hsplit => ?_
      have h := along_iff.mp hguard (before ++ before') a (after' ++ after) (by rw [hsplit]; simp)
      rwa [final_append] at h
    exact handled_once (final_numbered start_numbered before) hhandles hduring hkey hheld

/-- Two callbacks for one RT address and a message to it. -/
def twoSubscribers : List (Action ℕ) :=
  [.subscribe (.int 5) 0, .subscribe (.int 5) 1, .publish (.message (.str "status") (.int 5) (some .none))]

/-- The message is handled while callback `c` is unsubscribed as soon as the first one is called. -/
def handledWhileUnsubscribing (c : ℕ) : List (Action ℕ) :=
  [.turn false, .turn false, .turn true, .unsubscribe (.int 5) c, .turn false]

theorem later_callback_unsubscribed :
    TakesInOrder (twoSubscribers ++ handledWhileUnsubscribing 1) ∧
      DeliversOnce (twoSubscribers ++ handledWhileUnsubscribing 1) :=
  delivered_exactly_once (by decide +kernel)

/-- A callback that unsubscribes itself keeps the message from the next one. -/
theorem own_callback_unsubscribed :
    ¬DeliversOnce (twoSubscribers ++ handledWhileUnsubscribing 0) := by
  intro h
  have hparts : ∀ part ∈ (handledWhileUnsubscribing 0).inits,
      (⟨1, 1⟩ : Subscription ℕ) ∈ (final step (final step start twoSubscribers) part).entries
        (.float 5) := by
    decide +kernel
  have hbusy : ∀ part ∈ (handledWhileUnsubscribing 0).inits, part ≠ [] →
      part ≠ handledWhileUnsubscribing 0 →
      (final step (final step start twoSubscribers) part).handling.isSome = true := by
    decide +kernel
  have hone := h twoSubscribers (handledWhileUnsubscribing 0) _ (List.prefix_refl _)
    ⟨by decide +kernel, rfl, ⟨false, _, rfl⟩,
      fun part hpart => hbusy part ((List.mem_inits _ _).mpr hpart), by decide +kernel⟩
    (.float 5) rfl ⟨1, 1⟩ fun part hpart => hparts part ((List.mem_inits _ _).mpr hpart)
  revert hone
  decide +kernel

end Fmofp.EventBus
