import Fmofp.AsyncHandler.Buffering

/-! What the operations of the buffer and the queue do with the entries: which of them they put into
the queue, in which order, and what they leave alone. -/

namespace Fmofp.AsyncHandler

open Python Machine

variable {env : Setting}

/-- The priority of a message can be told. -/
def Prioritized (env : Setting) (message : Message) : Prop :=
  (getPriority env.py message).toOption.isSome = true

instance (message : Message) : Decidable (Prioritized env message) := inferInstanceAs (Decidable (_ = _))

/-- `add_message` in `RUNNING` gets the entry into the queue. -/
def Entry.Processable (u : ℕ → String) (e : Entry env) : Prop :=
  Prioritized env e.message ∧ (e.identified u).Queueable

instance (u : ℕ → String) (e : Entry env) : Decidable (e.Processable u) :=
  inferInstanceAs (Decidable (_ ∧ _))

/-! ### What the operations place -/

namespace State

variable {u : ℕ → String}

/-- What an operation on the queue leaves alone. -/
structure Frame (s s' : State env) : Prop where
  handlerState : s'.handlerState = s.handlerState
  buffer : s'.buffer = s.buffer
  handed : s'.handed = s.handed
  calls : s'.calls = s.calls
  stateLockStuck : s'.stateLockStuck = s.stateLockStuck

theorem Frame.refl (s : State env) : Frame s s := ⟨rfl, rfl, rfl, rfl, rfl⟩

theorem Frame.trans {s s' s'' : State env} (h : Frame s s') (h' : Frame s' s'') : Frame s s'' :=
  ⟨h'.handlerState.trans h.handlerState, h'.buffer.trans h.buffer, h'.handed.trans h.handed,
    h'.calls.trans h.calls, h'.stateLockStuck.trans h.stateLockStuck⟩

theorem frame_register (s : State env) (e : Entry env) : Frame s (s.register e) := by
  unfold register
  split_ifs <;> exact ⟨rfl, rfl, rfl, rfl, rfl⟩

theorem register_queue (s : State env) (e : Entry env) : (s.register e).queue = s.queue := by
  unfold register
  split_ifs <;> rfl

theorem register_lockStuck (s : State env) (e : Entry env) :
    (s.register e).lockStuck = s.lockStuck := by
  unfold register
  split_ifs <;> rfl

/-- An entry is put into the queue of its priority if it can be. -/
theorem enqueue_eq (s : State env) (e : Entry env) (p : Priority) (now : ℚ) :
    s.enqueue e p now = match messageId e.message with
      | .ok id => { s.register e with queue := s.queue.put e id p now }
      | .error _ => s.register e := by
  exact if_pos e.valid

theorem frame_enqueue (s : State env) (e : Entry env) (p : Priority) (now : ℚ) :
    Frame s (s.enqueue e p now) := by
  rw [enqueue_eq]
  split
  · obtain ⟨hstate, hbuffer, hhanded, hcalls, hstuck⟩ := s.frame_register e
    exact ⟨hstate, hbuffer, hhanded, hcalls, hstuck⟩
  · exact s.frame_register e

theorem enqueue_lockStuck (s : State env) (e : Entry env) (p : Priority) (now : ℚ) :
    (s.enqueue e p now).lockStuck = s.lockStuck := by
  rw [enqueue_eq]
  split
  · exact s.register_lockStuck e
  · exact s.register_lockStuck e

theorem enqueue_queues (s : State env) (e : Entry env) (p : Priority) (now : ℚ) :
    (s.enqueue e p now).queue.queues =
      if e.Queueable then Function.update s.queue.queues p (s.queue.queues p ++ [e])
      else s.queue.queues := by
  rw [enqueue_eq]
  cases hid : messageId e.message with
  | ok id =>
    rw [if_pos (show e.Queueable by rw [Entry.Queueable, hid]; rfl)]
    rfl
  | error error =>
    have hnot : ¬e.Queueable := by
      rw [Entry.Queueable, hid]
      exact Bool.false_ne_true
    rw [if_neg hnot]
    exact congrArg PriorityQueue.queues (s.register_queue e)

theorem frame_process (s : State env) (e : Entry env) (now : ℚ) : Frame s (s.process u e now) := by
  unfold process
  split
  · dsimp only
    split_ifs
    · exact Frame.refl s
    · exact s.frame_enqueue _ _ _
    · exact Frame.refl s
  · exact Frame.refl s

theorem process_lockStuck (s : State env) (e : Entry env) (now : ℚ) :
    (s.process u e now).lockStuck = s.lockStuck := by
  unfold process
  split
  · dsimp only
    split_ifs
    · rfl
    · exact s.enqueue_lockStuck _ _ _
    · rfl
  · rfl

theorem enqueue_items (s : State env) (e : Entry env) (p : Priority) (now : ℚ) :
    (↑(s.enqueue e p now).queue.items : Multiset (Entry env)) =
      ↑s.queue.items + if e.Queueable then {e} else 0 := by
  rw [PriorityQueue.items, enqueue_queues]
  split_ifs
  · exact flatMap_update_append s.queue.queues p [e]
  · exact (add_zero _).symm

/-- While `lock` is free, `add_message` puts one entry of its call into the queue, or none. -/
theorem process_items {s : State env} (hlock : s.lockStuck = false) (e : Entry env) (now : ℚ) :
    (↑(s.process u e now).queue.items : Multiset (Entry env)) =
      ↑s.queue.items + if e.Processable u then {e.identified u} else 0 := by
  unfold process
  cases hpriority : getPriority env.py e.message with
  | error error =>
    have hnot : ¬e.Processable u := by
      rw [Entry.Processable, Prioritized, hpriority]
      exact fun h => Bool.false_ne_true h.1
    rw [if_neg hnot, add_zero]
  | ok p =>
    have hprocessable : e.Processable u ↔ (e.identified u).Queueable := by
      rw [Entry.Processable, Prioritized, hpriority]
      exact and_iff_right rfl
    by_cases hqueueable : (e.identified u).Queueable
    · simp [hprocessable, hqueueable, hlock, enqueue_items]
    · simp [hprocessable, hqueueable]

theorem identified_call (e : Entry env) : (e.identified u).call = e.call := by
  unfold Entry.identified
  split_ifs <;> rfl

/-- An identifier does not make a system known. -/
theorem unregistered_identified (s : State env) (e : Entry env) :
    s.Unregistered (e.identified u) ↔ s.Unregistered e := by
  unfold Entry.identified
  split_ifs
  · exact Iff.rfl
  · unfold Unregistered Setting.needsSystem
    rw [env.earlyVerdict_set_messageId]

theorem process_systems {s : State env} {e : Entry env} (h : ¬s.Unregistered e) (now : ℚ) :
    (s.process u e now).systems = s.systems := by
  have hregister : (s.register (e.identified u)).systems = s.systems := by
    rw [register, if_neg (mt (s.unregistered_identified e).mp h)]
  unfold process
  split
  · dsimp only
    split_ifs
    · rfl
    · rw [enqueue_eq]
      split <;> exact hregister
    · rfl
  · rfl

/-! ### The loops over the buffered messages -/

theorem frame_flushEntries (now : ℚ) (s : State env) (es : List (Priority × Entry env)) :
    Frame s (s.flushEntries now es) := by
  induction es generalizing s with
  | nil => exact Frame.refl s
  | cons x es ih =>
    rw [flushEntries]
    split_ifs
    · exact Frame.refl s
    · exact (s.frame_enqueue _ _ _).trans (ih _)

theorem flushEntries_lockStuck (now : ℚ) (s : State env) (es : List (Priority × Entry env)) :
    (s.flushEntries now es).lockStuck = s.lockStuck := by
  induction es generalizing s with
  | nil => rfl
  | cons x es ih =>
    rw [flushEntries]
    split_ifs
    · rfl
    · rw [ih, enqueue_lockStuck]

theorem flushEntries_items {s : State env} (hlock : s.lockStuck = false) (now : ℚ)
    (es : List (Priority × Entry env)) :
    (↑(s.flushEntries now es).queue.items : Multiset (Entry env)) =
      ↑s.queue.items + ↑((es.map Prod.snd).filter (·.Queueable)) := by
  induction es generalizing s with
  | nil => exact (add_zero _).symm
  | cons x es ih =>
    obtain ⟨p, e⟩ := x
    rw [flushEntries, if_neg (by simp [hlock]), ih ((enqueue_lockStuck ..).trans hlock), enqueue_items,
      add_assoc]
    congr 1
    by_cases hqueueable : e.Queueable
    · simp [hqueueable]
    · simp [hqueueable]

/-- A flush keeps the order of each priority. -/
theorem flushEntries_queues {s : State env} (hlock : s.lockStuck = false) (now : ℚ)
    {es : List (Priority × Entry env)} (hqueueable : ∀ x ∈ es, x.2.Queueable) (p : Priority) :
    (s.flushEntries now es).queue.queues p =
      s.queue.queues p ++ (es.filter (·.1 = p)).map Prod.snd := by
  induction es generalizing s with
  | nil => exact (List.append_nil _).symm
  | cons x es ih =>
    obtain ⟨q, e⟩ := x
    rw [flushEntries, if_neg (by simp [hlock]), ih ((enqueue_lockStuck ..).trans hlock)
      fun y hy => hqueueable y (List.mem_cons_of_mem _ hy), enqueue_queues,
      if_pos (hqueueable (q, e) List.mem_cons_self)]
    by_cases hq : q = p
    · subst hq
      simp
    · simp [hq, Function.update_of_ne (Ne.symm hq)]

theorem frame_drainEntries (now : ℚ) (s : State env) (es : List (Priority × Entry env)) :
    Frame s (s.drainEntries u now es) := by
  induction es generalizing s with
  | nil => exact Frame.refl s
  | cons x es ih =>
    rw [drainEntries]
    split_ifs
    · exact ⟨rfl, rfl, rfl, rfl, rfl⟩
    · exact (s.frame_process _ _).trans (ih _)

/-- Where every entry can be added, the end of `start` queues all of them. -/
theorem drainEntries_items {s : State env} (hlock : s.lockStuck = false) (now : ℚ)
    {l : List (Priority × Entry env)}
    (hgood : ∀ x ∈ l, ¬s.Unregistered x.2 ∧ x.2.Processable u) :
    (s.drainEntries u now l).lockStuck = false ∧
      (↑(s.drainEntries u now l).queue.items : Multiset (Entry env)).map Entry.call =
        (↑s.queue.items : Multiset (Entry env)).map Entry.call + ↑(l.map (·.2.call)) := by
  induction l generalizing s with
  | nil => exact ⟨hlock, (add_zero _).symm⟩
  | cons x l ih =>
    obtain ⟨p, e⟩ := x
    obtain ⟨hregistered, hprocessable⟩ := hgood (p, e) List.mem_cons_self
    have hsystems := process_systems (u := u) hregistered now
    have hlock' : (s.process u e now).lockStuck = false := (s.process_lockStuck e now).trans hlock
    obtain ⟨hstuck, hitems⟩ := ih hlock' fun y hy => by
      obtain ⟨hy1, hy2⟩ := hgood y (List.mem_cons_of_mem _ hy)
      refine ⟨?_, hy2⟩
      unfold Unregistered at hy1 ⊢
      rwa [hsystems]
    rw [drainEntries, if_neg hregistered]
    refine ⟨hstuck, ?_⟩
    rw [hitems, process_items hlock, if_pos hprocessable, Multiset.map_add, Multiset.map_singleton,
      identified_call, List.map_cons, ← Multiset.cons_coe, ← Multiset.singleton_add, add_assoc]

theorem drainEntries_length_le {s : State env} (hlock : s.lockStuck = false) (now : ℚ)
    (es : List (Priority × Entry env)) :
    (s.drainEntries u now es).queue.items.length ≤ s.queue.items.length + es.length := by
  induction es generalizing s with
  | nil => exact le_refl _
  | cons x es ih =>
    obtain ⟨p, e⟩ := x
    rw [drainEntries]
    split_ifs
    · exact Nat.le_add_right _ _
    · have hrest := ih ((s.process_lockStuck (u := u) e now).trans hlock)
      have hitems := congrArg Multiset.card (process_items (u := u) hlock e now)
      rw [Multiset.card_add, Multiset.coe_card, Multiset.coe_card] at hitems
      rw [List.length_cons]
      split_ifs at hitems
      · rw [Multiset.card_singleton] at hitems
        omega
      · rw [Multiset.card_zero] at hitems
        omega

/-- Where some entry cannot be added, the end of `start` loses one at least. -/
theorem drainEntries_length_lt {s : State env} (hlock : s.lockStuck = false) (now : ℚ)
    {es : List (Priority × Entry env)}
    (hbad : ∃ x ∈ es, ¬(¬s.Unregistered x.2 ∧ x.2.Processable u)) :
    (s.drainEntries u now es).queue.items.length < s.queue.items.length + es.length := by
  induction es generalizing s with
  | nil =>
    obtain ⟨x, hx, -⟩ := hbad
    exact absurd hx List.not_mem_nil
  | cons x es ih =>
    obtain ⟨p, e⟩ := x
    rw [drainEntries]
    split_ifs with hunregistered
    · exact Nat.lt_add_of_pos_right (Nat.succ_pos _)
    · have hlock' : (s.process u e now).lockStuck = false := (s.process_lockStuck e now).trans hlock
      have hitems := congrArg Multiset.card (process_items (u := u) hlock e now)
      rw [Multiset.card_add, Multiset.coe_card, Multiset.coe_card] at hitems
      rw [List.length_cons]
      by_cases hprocessable : e.Processable u
      · rw [if_pos hprocessable, Multiset.card_singleton] at hitems
        have hrest := ih hlock' ?_
        · omega
        · obtain ⟨y, hy, hbad⟩ := hbad
          rcases List.mem_cons.mp hy with rfl | hy
          · exact absurd ⟨hunregistered, hprocessable⟩ hbad
          · refine ⟨y, hy, ?_⟩
            unfold Unregistered at hbad ⊢
            rwa [process_systems hunregistered]
      · rw [if_neg hprocessable, Multiset.card_zero] at hitems
        have hrest := drainEntries_length_le (u := u) hlock' now es
        omega

end State

end Fmofp.AsyncHandler
