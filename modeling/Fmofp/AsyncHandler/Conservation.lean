import Fmofp.AsyncHandler.Placement

/-! The conservation of messages: exactly as long as some conditions on the calls are met, each message
for which `add_message` was called is in one place, and a flush moves all that is in the buffer. -/

namespace Fmofp.AsyncHandler

open Python Machine

variable {env : Setting}

namespace State

variable (s : State env)

/-- The messages that are somewhere. -/
def placed : Multiset (Entry env) := s.buffered + s.queue.items + s.handed

/-- Every message for which `add_message` was called is in the buffer, in the queue or handed to a
worker, exactly once. -/
def Conserved : Prop := s.placed.map Entry.call = Multiset.range s.calls

/-- Within each priority the buffer is in the order of the calls. -/
def InOrder : Prop := ∀ p, ((s.buffer p).map Entry.call).Pairwise (· < ·)

/-- All that is in the buffer goes to the ends of the queues of its priority, as it stands. -/
def MovesAll (s s' : State env) : Prop :=
  ∀ p, s'.buffer p = [] ∧ s'.queue.queues p = s.queue.queues p ++ s.buffer p

end State

/-- The condition under which a step loses nothing.  `add_message` gets the lock and can use the type
and the identifier of its message; a flush finds identifiers on all messages; and the end of `start`
finds messages that can be added, of systems that are registered. -/
def Keeps (uuid : ℕ → String) (s : State env) : Action env → Prop
  | .addMessage systemName message valid _ => s.stateLockStuck = false ∧
    if s.handlerState.Processing then (⟨s.calls, systemName, message, valid⟩ : Entry env).Processable uuid
    else s.handlerState = .stopping ∨ Prioritized env message
  | .flushBufferToQueue _ => s.handlerState.Processing → ∀ e ∈ s.buffered, e.Queueable
  | .drain _ => s.handlerState.Processing →
    ∀ e ∈ s.buffered, ¬s.Unregistered e ∧ e.Processable uuid
  | _ => True

/-! ### The invariant -/

namespace State

variable {uuid : ℕ → String}

structure Inv (s : State env) : Prop where
  conserved : s.Conserved
  inOrder : s.InOrder
  lockStuck : s.lockStuck = false
  stuck : s.stateLockStuck = true → ¬s.handlerState.Processing

theorem Conserved.card {s : State env} (h : s.Conserved) : Multiset.card s.placed = s.calls := by
  have hcard := congrArg Multiset.card h
  rwa [Multiset.card_map, Multiset.card_range] at hcard

/-- One entry more, of the next call. -/
theorem Conserved.add {s s' : State env} (hs : s.Conserved) {e : Entry env} (he : e.call = s.calls)
    (hplaced : s'.placed = s.placed + {e}) (hcalls : s'.calls = s.calls + 1) : s'.Conserved := by
  unfold Conserved at hs ⊢
  rw [hplaced, Multiset.map_add, hs, Multiset.map_singleton, he, hcalls, Multiset.range_succ,
    add_comm, Multiset.singleton_add]

/-- The next call is after all that are in the buffer. -/
theorem Conserved.call_lt {s : State env} (hs : s.Conserved) {p : Priority} {e : Entry env}
    (he : e ∈ s.buffer p) : e.call < s.calls := by
  rw [← Multiset.mem_range, ← hs]
  refine Multiset.mem_map_of_mem _ (Multiset.mem_add.mpr (.inl (Multiset.mem_add.mpr (.inl ?_))))
  exact Multiset.mem_coe.mpr (mem_flatMap_priorities.mpr ⟨p, he⟩)

theorem getAllMessages_snd (s : State env) : s.getAllMessages.1.map Prod.snd = s.buffered := by
  simp [getAllMessages, buffered, List.map_flatMap, Function.comp_def]

theorem getAllMessages_filter (s : State env) (p : Priority) :
    (s.getAllMessages.1.filter (·.1 = p)).map Prod.snd = s.buffer p := by
  cases p <;> simp [getAllMessages, priorities, List.filter_map, Function.comp_def]

theorem mem_getAllMessages {s : State env} {x : Priority × Entry env} (h : x ∈ s.getAllMessages.1) :
    x.2 ∈ s.buffered := by
  rw [← getAllMessages_snd]
  exact List.mem_map_of_mem h

/-- All entries of the buffer have gone to the queue. -/
theorem Inv.emptied {s s' : State env} (hs : s.Inv) (hframe : Frame s.getAllMessages.2 s')
    (hlock : s'.lockStuck = false)
    (hitems : (↑s'.queue.items : Multiset (Entry env)).map Entry.call =
      (↑s.queue.items : Multiset (Entry env)).map Entry.call + ↑(s.buffered.map Entry.call)) :
    s'.Inv := by
  have hbuffer : ∀ p, s'.buffer p = [] := fun p => congrFun hframe.buffer p
  have hempty : s'.buffered = [] := by simp [buffered, priorities, hbuffer]
  refine ⟨?_, fun p => ?_, hlock, ?_⟩
  · have hconserved := hs.conserved
    unfold Conserved placed at hconserved ⊢
    rw [hempty, hframe.handed, hframe.calls, Multiset.coe_nil, zero_add, Multiset.map_add, hitems,
      ← Multiset.map_coe, add_comm (Multiset.map _ _) (Multiset.map _ _), ← Multiset.map_add,
      ← Multiset.map_add]
    exact hconserved
  · rw [hbuffer p]
    exact List.Pairwise.nil
  · intro hstuck
    rw [hframe.handlerState]
    exact hs.stuck (hframe.stateLockStuck ▸ hstuck)

theorem Inv.process {s : State env} (hs : s.Inv) {e : Entry env} (he : e.call = s.calls) (now : ℚ)
    (hprocessable : e.Processable uuid) :
    (({ s with calls := s.calls + 1 } : State env).process uuid e now).Inv := by
  have hframe := ({ s with calls := s.calls + 1 } : State env).frame_process (u := uuid) e now
  have hlock := ({ s with calls := s.calls + 1 } : State env).process_lockStuck (u := uuid) e now
  have hitems := process_items (u := uuid) (s := { s with calls := s.calls + 1 }) hs.lockStuck e now
  rw [if_pos hprocessable] at hitems
  refine ⟨?_, ?_, hlock.trans hs.lockStuck, ?_⟩
  · refine hs.conserved.add (e := e.identified uuid) ((identified_call e).trans he) ?_ hframe.calls
    rw [placed, buffered, hframe.buffer, hframe.handed, hitems, placed, buffered]
    abel
  · unfold InOrder
    rw [hframe.buffer]
    exact hs.inOrder
  · rw [hframe.stateLockStuck, hframe.handlerState]
    exact hs.stuck

theorem Inv.store {s : State env} (hs : s.Inv) {e : Entry env} (he : e.call = s.calls)
    (hprioritized : s.handlerState = .stopping ∨ Prioritized env e.message) :
    (({ s with calls := s.calls + 1 } : State env).store e).Inv := by
  unfold State.store
  split
  · rename_i p hp
    refine ⟨?_, ?_, hs.lockStuck, hs.stuck⟩
    · refine hs.conserved.add he ?_ rfl
      have hbuffered := flatMap_update_append s.buffer p [e]
      rw [placed, buffered, hbuffered, placed, buffered, Multiset.coe_singleton]
      abel
    · intro q
      by_cases hq : q = p
      · subst hq
        show ((Function.update s.buffer q (s.buffer q ++ [e]) q).map Entry.call).Pairwise (· < ·)
        rw [Function.update_self, List.map_append, List.pairwise_append]
        refine ⟨hs.inOrder q, List.pairwise_singleton _ _, fun call hcall call' hcall' => ?_⟩
        obtain ⟨f, hf, rfl⟩ := List.mem_map.mp hcall
        rw [List.map_singleton, List.mem_singleton] at hcall'
        rw [hcall', he]
        exact hs.conserved.call_lt hf
      · show ((Function.update s.buffer p (s.buffer p ++ [e]) q).map Entry.call).Pairwise (· < ·)
        rw [Function.update_of_ne hq]
        exact hs.inOrder q
  · rename_i error hnone
    exfalso
    rcases hprioritized with hstopping | hprioritized
    · rw [if_pos hstopping] at hnone
      cases hnone
    · split_ifs at hnone
      rw [Prioritized, hnone] at hprioritized
      exact Bool.false_ne_true hprioritized

theorem Inv.flush {s : State env} (hs : s.Inv) (now : ℚ)
    (hqueueable : s.handlerState.Processing → ∀ e ∈ s.buffered, e.Queueable) :
    (s.flush now).Inv := by
  unfold State.flush
  split_ifs with hstuck hprocessing hstopped
  · exact hs
  · refine hs.emptied (s.getAllMessages.2.frame_flushEntries now _)
      ((s.getAllMessages.2.flushEntries_lockStuck now _).trans hs.lockStuck) ?_
    have hitems := flushEntries_items (s := s.getAllMessages.2) hs.lockStuck now s.getAllMessages.1
    rw [hitems, getAllMessages_snd, List.filter_eq_self.mpr fun e he =>
      decide_eq_true (hqueueable hprocessing e he), Multiset.map_add, Multiset.map_coe]
    rfl
  · refine ⟨hs.conserved, hs.inOrder, hs.lockStuck, fun _ => ?_⟩
    show ¬s.handlerState.Processing
    exact hprocessing
  · exact hs

theorem Inv.setState {s : State env} (hs : s.Inv) (new : HandlerState) : (s.setState new).Inv := by
  unfold State.setState
  split_ifs with hstuck hflush
  · exact hs
  · refine ⟨hs.conserved, hs.inOrder, hs.lockStuck, fun _ h => ?_⟩
    rcases h with h | h <;> cases h
  · exact ⟨hs.conserved, hs.inOrder, hs.lockStuck, fun h => absurd h hstuck⟩

theorem Inv.drain {s : State env} (hs : s.Inv) (now : ℚ)
    (hgood : ∀ e ∈ s.buffered, ¬s.Unregistered e ∧ e.Processable uuid) :
    (s.getAllMessages.2.drainEntries uuid now s.getAllMessages.1).Inv := by
  obtain ⟨hlock, hitems⟩ := drainEntries_items (u := uuid) (s := s.getAllMessages.2) hs.lockStuck now
    (l := s.getAllMessages.1) fun x hx => hgood x.2 (mem_getAllMessages hx)
  refine hs.emptied (s.getAllMessages.2.frame_drainEntries now _) hlock ?_
  rw [hitems, ← getAllMessages_snd, List.map_map]
  rfl

/-- A message goes from the queue to a worker. -/
theorem Inv.take {s : State env} (hs : s.Inv) {e : Entry env} {queue : PriorityQueue (Entry env)}
    (hitems : (↑s.queue.items : Multiset (Entry env)) = ↑queue.items + {e}) :
    ({ s with queue := queue, handed := s.handed ++ [e] } : State env).Inv := by
  refine ⟨?_, hs.inOrder, hs.lockStuck, hs.stuck⟩
  have hplaced : ({ s with queue := queue, handed := s.handed ++ [e] } : State env).placed = s.placed := by
    show (↑s.buffered + ↑queue.items + ↑(s.handed ++ [e]) : Multiset (Entry env)) =
      ↑s.buffered + ↑s.queue.items + ↑s.handed
    rw [hitems, ← Multiset.coe_add, Multiset.coe_singleton]
    abel
  unfold Conserved
  rw [hplaced]
  exact hs.conserved

end State

theorem inv_stoppedHandler : (stoppedHandler env).Inv where
  conserved := rfl
  inOrder _ := List.Pairwise.nil
  lockStuck := rfl
  stuck h := by cases h

theorem inv_nextState {uuid : ℕ → String} {s : State env} {a : Action env} (hs : s.Inv)
    (hkeeps : Keeps uuid s a) : (nextState uuid s a).Inv := by
  cases a with
  | addMessage systemName message valid now =>
    obtain ⟨hfree, hkeeps⟩ := hkeeps
    rw [nextState, if_neg (by rw [hfree]; exact Bool.false_ne_true)]
    split_ifs at hkeeps ⊢ with hprocessing
    · exact hs.process rfl now hkeeps
    · exact hs.store (e := ⟨s.calls, systemName, message, valid⟩) rfl hkeeps
  | setState new => exact hs.setState new
  | flushBufferToQueue now => exact hs.flush now hkeeps
  | drain now =>
    simp only [nextState]
    split_ifs with h
    · exact hs.drain now (hkeeps h.1)
    · exact hs
  | take =>
    simp only [nextState]
    split
    · rename_i e queue hget
      exact hs.take (PriorityQueue.get_items hget)
    · exact hs
  | takeHigh =>
    simp only [nextState]
    split
    · rename_i e queue hget
      exact hs.take (PriorityQueue.takeFrom_items hget)
    · exact hs

/-! ### The condition is exact -/

namespace State

variable {uuid : ℕ → String}

/-- Fewer messages than calls. -/
theorem not_conserved_of_card_lt {s : State env} (h : Multiset.card s.placed < s.calls) :
    ¬s.Conserved := fun hconserved => h.ne hconserved.card

theorem card_placed (s : State env) :
    Multiset.card s.placed = s.buffered.length + s.queue.items.length + s.handed.length := by
  rw [placed, Multiset.card_add, Multiset.card_add, Multiset.coe_card, Multiset.coe_card,
    Multiset.coe_card]

/-- A loop over the buffer that queues less than there is. -/
theorem not_conserved_of_fewer {s s' : State env} (hs : s.Inv) (hframe : Frame s.getAllMessages.2 s')
    (hfewer : s'.queue.items.length < s.queue.items.length + s.getAllMessages.1.length) :
    ¬s'.Conserved := by
  have hbuffer : ∀ p, s'.buffer p = [] := fun p => congrFun hframe.buffer p
  have hempty : s'.buffered = [] := by simp [buffered, priorities, hbuffer]
  have hlength : s.getAllMessages.1.length = s.buffered.length := by
    rw [← s.getAllMessages_snd, List.length_map]
  have hcard := hs.conserved.card
  apply not_conserved_of_card_lt
  rw [card_placed] at hcard ⊢
  rw [hempty, hframe.handed, hframe.calls]
  show 0 + s'.queue.items.length + s.handed.length < s.calls
  omega

end State

theorem not_conserved_addMessage {uuid : ℕ → String} {s : State env} (hs : s.Inv)
    {systemName : String} {message : Message} {valid : env.validateMessage systemName message = true}
    {now : ℚ} (hkeeps : ¬Keeps uuid s (.addMessage systemName message valid now)) :
    ¬(nextState uuid s (.addMessage systemName message valid now)).Conserved := by
  have hcard := hs.conserved.card
  have hcounted : Multiset.card ({ s with calls := s.calls + 1 } : State env).placed < s.calls + 1 :=
    Nat.lt_succ_of_le hcard.le
  rw [nextState]
  split_ifs with hstuck hprocessing
  · exact State.not_conserved_of_card_lt hcounted
  · have hnot : ¬(⟨s.calls, systemName, message, valid⟩ : Entry env).Processable uuid := fun h =>
      hkeeps ⟨Bool.eq_false_iff.mpr hstuck, by rwa [if_pos hprocessing]⟩
    have hframe := ({ s with calls := s.calls + 1 } : State env).frame_process (u := uuid)
      ⟨s.calls, systemName, message, valid⟩ now
    have hitems := State.process_items (u := uuid) (s := { s with calls := s.calls + 1 })
      hs.lockStuck ⟨s.calls, systemName, message, valid⟩ now
    rw [if_neg hnot, add_zero] at hitems
    apply State.not_conserved_of_card_lt
    rw [State.placed, State.buffered, hframe.buffer, hframe.handed, hframe.calls, hitems]
    exact hcounted
  · have hnot : ¬(s.handlerState = .stopping ∨ Prioritized env message) := fun h =>
      hkeeps ⟨Bool.eq_false_iff.mpr hstuck, by rwa [if_neg hprocessing]⟩
    rw [not_or] at hnot
    unfold State.store
    rw [if_neg hnot.1]
    split
    · rename_i p hp
      have hp' : getPriority env.py message = .ok p := hp
      exact absurd (by rw [Prioritized, hp']; rfl) hnot.2
    · exact State.not_conserved_of_card_lt hcounted

theorem not_conserved_nextState {uuid : ℕ → String} {s : State env} {a : Action env} (hs : s.Inv)
    (hkeeps : ¬Keeps uuid s a) : ¬(nextState uuid s a).Conserved := by
  cases a with
  | addMessage systemName message valid now => exact not_conserved_addMessage hs hkeeps
  | setState new => exact absurd trivial hkeeps
  | flushBufferToQueue now =>
    simp only [Keeps, not_forall] at hkeeps
    obtain ⟨hprocessing, e, he, hnot⟩ := hkeeps
    have hfree : ¬s.stateLockStuck = true := fun hstuck => hs.stuck hstuck hprocessing
    rw [nextState, State.flush, if_neg hfree, if_pos hprocessing]
    refine State.not_conserved_of_fewer hs (s.getAllMessages.2.frame_flushEntries now _) ?_
    have hitems := congrArg Multiset.card
      (State.flushEntries_items (s := s.getAllMessages.2) hs.lockStuck now s.getAllMessages.1)
    rw [Multiset.card_add, Multiset.coe_card, Multiset.coe_card, Multiset.coe_card] at hitems
    rw [hitems]
    apply Nat.add_lt_add_left
    have hlength : (s.getAllMessages.1.map Prod.snd).length = s.getAllMessages.1.length :=
      List.length_map Prod.snd
    rw [← hlength, s.getAllMessages_snd]
    apply List.length_filter_lt_length_iff_exists.mpr
    exact ⟨e, he, by simpa using hnot⟩
  | drain now =>
    simp only [Keeps, not_forall] at hkeeps
    obtain ⟨hprocessing, e, he, hnot⟩ := hkeeps
    rw [nextState, if_pos ⟨hprocessing, by rw [hs.lockStuck]; exact Bool.false_ne_true⟩]
    refine State.not_conserved_of_fewer hs (s.getAllMessages.2.frame_drainEntries now _) ?_
    apply State.drainEntries_length_lt (s := s.getAllMessages.2) hs.lockStuck
    rw [← s.getAllMessages_snd] at he
    obtain ⟨x, hx, rfl⟩ := List.mem_map.mp he
    exact ⟨x, hx, hnot⟩
  | take => exact absurd trivial hkeeps
  | takeHigh => exact absurd trivial hkeeps

/-! ### Runs -/

/-- The buffered messages survive a run: after every part of it each message is in one place, and
every flush in `RUNNING` or `DEGRADED` moves the whole buffer, which is in the order of arrival. -/
def Survive (uuid : ℕ → String) (actions : List (Action env)) : Prop :=
  (∀ before, before <+: actions →
    (final (bufferStep uuid) (stoppedHandler env) before).Conserved) ∧
  ∀ before now after, actions = before ++ .flushBufferToQueue now :: after →
    let s := final (bufferStep uuid) (stoppedHandler env) before
    s.handlerState.Processing → s.InOrder ∧ s.MovesAll (nextState uuid s (.flushBufferToQueue now))

theorem State.Inv.movesAll {s : State env} (hs : s.Inv) (now : ℚ)
    (hprocessing : s.handlerState.Processing) (hqueueable : ∀ e ∈ s.buffered, e.Queueable) :
    s.MovesAll (s.flush now) := by
  have hfree : ¬s.stateLockStuck = true := fun hstuck => hs.stuck hstuck hprocessing
  rw [State.flush, if_neg hfree, if_pos hprocessing]
  intro p
  have hframe := s.getAllMessages.2.frame_flushEntries now s.getAllMessages.1
  refine ⟨congrFun hframe.buffer p, ?_⟩
  rw [State.flushEntries_queues (s := s.getAllMessages.2) hs.lockStuck now
    (fun x hx => hqueueable x.2 (State.mem_getAllMessages hx)), s.getAllMessages_filter]
  rfl

/-- Buffered messages survive exactly the runs whose steps all meet the condition. -/
theorem buffered_messages_survive_iff (uuid : ℕ → String) (actions : List (Action env)) :
    Survive uuid actions ↔ Along (bufferStep uuid) (Keeps uuid) (stoppedHandler env) actions := by
  have hconserved := @along_iff_of_exact _ _ _ (bufferStep uuid) State.Inv State.Conserved (Keeps uuid)
    (fun s a hs hkeeps => inv_nextState hs hkeeps) (fun s hs => hs.conserved)
    (fun s a hs hnot => not_conserved_nextState hs hnot) (stoppedHandler env) inv_stoppedHandler actions
  rw [hconserved]
  constructor
  · exact And.left
  · intro h
    refine ⟨h, ?_⟩
    rintro before now after rfl s hprocessing
    have halong := hconserved.mpr h
    have hinv := @invariant_along _ _ _ (bufferStep uuid) State.Inv (Keeps uuid)
      (fun s a hs hkeeps => inv_nextState hs hkeeps) (stoppedHandler env) inv_stoppedHandler before _
      halong
    have hkeeps := along_iff.mp halong before (.flushBufferToQueue now) after rfl
    exact ⟨hinv.inOrder, hinv.movesAll now hprocessing (hkeeps hprocessing)⟩

/-! ### A message without an identifier -/

/-- What the radar handler adds for a shear update. -/
def shearUpdate : Message :=
  [("timestamp", .float 0), ("data", .dict []), ("command_word", .str "0100100000100011")]

/-- The update comes while the handler starts, and the buffer is flushed once it runs. -/
def lostUpdate : List (Action sampleSetting) :=
  [.setState .starting, .addMessage "weather_shear_update" shearUpdate (by decide +kernel) 0,
    .setState .running, .flushBufferToQueue 6]

theorem buffered_message_lost :
    ¬∀ (env : Setting) (uuid : ℕ → String) (actions : List (Action env)), Survive uuid actions := by
  intro h
  have hsurvive := h sampleSetting (fun _ => "u") lostUpdate
  have hlost : (final (bufferStep fun _ => "u") (stoppedHandler sampleSetting) lostUpdate).placed.map
      Entry.call = 0 := by decide +kernel
  have hone : (final (bufferStep fun _ => "u") (stoppedHandler sampleSetting) lostUpdate).calls = 1 := by
    decide +kernel
  have hconserved := hsurvive.1 lostUpdate (List.prefix_refl _)
  rw [State.Conserved, hlost, hone] at hconserved
  revert hconserved
  decide

end Fmofp.AsyncHandler
