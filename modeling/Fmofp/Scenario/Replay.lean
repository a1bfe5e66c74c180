import Fmofp.Machine.Run
import Fmofp.Scenario.Engine

/-! Runs of the scenario engine: the calls of one caller, in any order with the steps of the loop.  What is
dispatched since a start is the scenario in order of its triggers, each event once and when it is due, as
long as no `stop` gives up waiting and no pass begins after a load under a running loop. -/

namespace Fmofp.Scenario

open Machine Python

/-- An event that was dispatched: of which load, at which position, for which time. -/
structure Dispatch where
  generation : ℕ
  index : ℕ
  triggerS : ℚ
  deriving DecidableEq

/-- The engine and what has happened to it since the latest start. -/
structure Session where
  engine : Engine := .initial
  /-- The loads so far. -/
  generation : ℕ := 0
  /-- The loads at the latest start. -/
  startGeneration : ℕ := 0
  startedAt : Option ℚ := none
  /-- When the loop read its start time. -/
  begunAt : Option ℚ := none
  dispatched : List Dispatch := []
  stopReturned : Bool := false
  /-- The steps of the thread at which every event was due. -/
  lateTurns : ℕ := 0
  clock : ℚ := 0

inductive Act where
  | load (events : List ScenarioEvent)
  | start (now : ℚ)
  | stop (now : ℚ)
  /-- `stop` returns if its wait is over. -/
  | joined (now : ℚ)
  /-- The thread takes a step. -/
  | turn (now : ℚ)

namespace Session

variable (s : Session)

def triggers : List ℚ := s.engine.events.map ScenarioEvent.triggerS

/-- Every event is due by the start time of the loop. -/
def AllDue (now : ℚ) : Prop := s.begunAt ≠ none ∧ ∀ t ∈ s.triggers, s.begunAt.getD now + t ≤ now

instance (now : ℚ) : Decidable (s.AllDue now) := by
  unfold AllDue
  infer_instance

end Session

def step (s : Session) : Act → Option Dispatch × Session
  | .load events =>
    (none, if s.engine.joining ≠ none ∨ s.engine.locked = true then s
      else { s with engine := s.engine.load events, generation := s.generation + 1 })
  | .start now =>
    (none, if s.engine.joining = none ∧ s.engine.startable = true then
        { s with
          engine := s.engine.start
          startGeneration := s.generation
          startedAt := some now
          begunAt := none
          dispatched := []
          stopReturned := false
          lateTurns := 0
          clock := now }
      else { s with clock := now })
  | .stop now => (none, { s with engine := s.engine.stop now, clock := now })
  | .joined now =>
    (none, if s.engine.joined now = true then
        { s with engine := { s.engine with joining := none }, stopReturned := true, clock := now }
      else { s with clock := now })
  | .turn now =>
    let (event, engine) := s.engine.turn now
    let dispatch := event.map fun (index, event) => Dispatch.mk s.generation index event.triggerS
    (dispatch, { s with
      engine := engine
      begunAt := if s.engine.thread = .starting then some now else s.begunAt
      dispatched := s.dispatched ++ dispatch.toList
      lateTurns := if s.AllDue now then s.lateTurns + 1 else s.lateTurns
      clock := now })

/-- The clock does not go back. -/
def Timely (s : Session) : Act → Prop
  | .load _ => True
  | .start now | .stop now | .joined now | .turn now => s.clock ≤ now

instance (s : Session) (act : Act) : Decidable (Timely s act) := by
  unfold Timely
  split <;> infer_instance

/-- The event is the next one of the scenario that was started, and due. -/
structure InTurn (s : Session) (now : ℚ) (d : Dispatch) : Prop where
  once : ∀ d' ∈ s.dispatched, ¬(d'.generation = d.generation ∧ d'.index = d.index)
  order : ∀ d' ∈ s.dispatched, d'.triggerS ≤ d.triggerS
  due : ∃ start, s.startedAt = some start ∧ start + d.triggerS ≤ now
  running : s.stopReturned = false
  loaded : d.generation = s.startGeneration

/-- A run that was neither stopped nor reloaded has dispatched every event when it has ended, and when the
loop has taken enough steps since all of them were due. -/
def Completes (s : Session) : Prop :=
  s.startedAt ≠ none → s.engine.stopSet = false → s.generation = s.startGeneration →
    s.engine.thread = .absent ∨ 2 * s.engine.events.length + 7 ≤ s.lateTurns →
    ∀ index < s.engine.events.length,
      ∃ d ∈ s.dispatched, d.generation = s.startGeneration ∧ d.index = index

/-- What is promised of the dispatches and of a start after a stop. -/
def Promised (s : Session) : Act → Prop
  | .turn now => ∀ d, (step s (.turn now)).1 = some d → InTurn s now d
  | .start now => s.engine.joining = none → s.stopReturned = true →
    (step s (.start now)).2.engine.thread = .starting ∧ (step s (.start now)).2.startedAt = some now
  | _ => True

def Exact (s : Session) (act : Act) : Prop := Promised s act ∧ Completes (step s act).2

/-- `stop` returns when the thread has ended, a pass begins on the scenario that was started, and a start
after a stop has events. -/
def Guard (s : Session) : Act → Prop
  | .joined now => s.engine.joined now = true → s.engine.thread = .absent
  | .turn _ => (∃ elapsed, s.engine.thread = .acquiring elapsed) → s.generation = s.startGeneration
  | .start _ => s.engine.joining = none → s.stopReturned = true → s.engine.events ≠ []
  | _ => True

instance (s : Session) (act : Act) : Decidable (Guard s act) := by
  cases act with
  | turn now =>
    cases hthread : s.engine.thread with
    | acquiring elapsed =>
      exact decidable_of_iff (s.generation = s.startGeneration)
        ⟨fun h _ => h, fun h => h ⟨elapsed, hthread⟩⟩
    | _ => exact .isTrue fun ⟨_, h⟩ => Thread.noConfusion (hthread.symm.trans h)
  | load events => exact .isTrue trivial
  | stop now => exact .isTrue trivial
  | start now => exact inferInstanceAs (Decidable (_ → _ → _))
  | joined now => exact inferInstanceAs (Decidable (_ → _))

/-! ### What a run keeps -/

/-- The events dispatched are those at the front of the scenario. -/
structure Replayed (s : Session) : Prop where
  count : s.dispatched.length ≤ s.engine.events.length
  indices : s.dispatched.map Dispatch.index = List.range s.dispatched.length
  generations : ∀ d ∈ s.dispatched, d.generation = s.startGeneration
  triggers : s.dispatched.map Dispatch.triggerS = s.triggers.take s.dispatched.length
  fired : ∀ i event, s.engine.events[i]? = some event →
    (event.fired = true ↔ i < s.dispatched.length)

/-- The loop has read its start time. -/
structure Begun (s : Session) (ts : ℚ) : Prop where
  engine : s.engine.startTs = some ts
  begunAt : s.begunAt = some ts
  after : ∃ start, s.startedAt = some start ∧ start ≤ ts
  past : ts ≤ s.clock

/-- What holds of the times where the thread is. -/
def At (s : Session) : Thread → Prop
  | .absent => True
  | .starting => s.begunAt = none ∧ ∃ start, s.startedAt = some start ∧ start ≤ s.clock
  | .testing | .reading => ∃ ts, Begun s ts
  | .acquiring elapsed => ∃ ts, Begun s ts ∧ ts + elapsed ≤ s.clock
  | .passing elapsed next => (∃ ts, Begun s ts ∧ ts + elapsed ≤ s.clock) ∧
    s.generation = s.startGeneration ∧
    (next ≤ s.dispatched.length ∨ ∀ t, s.triggers[s.dispatched.length]? = some t → elapsed < t)
  | .checking allFired => (∃ ts, Begun s ts) ∧
    (s.generation = s.startGeneration →
      (allFired = true ↔ s.dispatched.length = s.engine.events.length))

/-- The steps that the thread still has to take at most, once every event is due. -/
def cost (triggers : List ℚ) : Thread → ℕ
  | .absent | .starting => 0
  | .checking _ => triggers.length + 4
  | .testing => triggers.length + 3
  | .reading => triggers.length + 2
  | .acquiring elapsed =>
    if ∀ t ∈ triggers, t ≤ elapsed then triggers.length + 1 else 2 * triggers.length + 6
  | .passing elapsed next =>
    if ∀ t ∈ triggers, t ≤ elapsed then triggers.length - next
    else triggers.length - next + triggers.length + 5

theorem cost_le (triggers : List ℚ) (thread : Thread) : cost triggers thread ≤ 2 * triggers.length + 6 := by
  cases thread with
  | absent => exact Nat.zero_le _
  | starting => exact Nat.zero_le _
  | checking allFired =>
    rw [cost]
    omega
  | testing =>
    rw [cost]
    omega
  | reading =>
    rw [cost]
    omega
  | acquiring elapsed =>
    rw [cost]
    split_ifs <;> omega
  | passing elapsed next =>
    rw [cost]
    split_ifs <;> omega

structure Sound (s : Session) : Prop where
  generation : s.startGeneration ≤ s.generation
  sorted : s.triggers.Pairwise (· ≤ ·)
  replayed : s.generation = s.startGeneration → Replayed s
  alive : s.engine.thread ≠ .absent → s.stopReturned = false
  placed : At s s.engine.thread
  late : s.generation = s.startGeneration → s.lateTurns ≠ 0 → s.AllDue s.clock
  budget : s.generation = s.startGeneration → s.startedAt ≠ none → s.engine.stopSet = false →
    s.dispatched.length = s.engine.events.length ∨
      s.engine.thread ≠ .absent ∧ s.lateTurns + cost s.triggers s.engine.thread ≤ 2 * s.triggers.length + 6

theorem sound_initial : Sound {} where
  generation := le_refl _
  sorted := List.Pairwise.nil
  replayed _ := ⟨le_refl _, rfl, by simp, rfl, by simp [Engine.initial]⟩
  alive h := absurd rfl h
  placed := trivial
  late _ h := absurd rfl h
  budget _ h := absurd rfl h

section

variable {s : Session} {now : ℚ}

theorem Session.AllDue.mono {now' : ℚ} (h : s.AllDue now) (hle : now ≤ now') : s.AllDue now' := by
  obtain ⟨hne, hdue⟩ := h
  obtain ⟨ts, hts⟩ := Option.ne_none_iff_exists'.mp hne
  refine ⟨hne, fun t ht => ?_⟩
  have hold := hdue t ht
  rw [hts, Option.getD_some] at hold ⊢
  exact hold.trans hle

/-- The times stay right when only the clock goes on. -/
theorem At.later {thread : Thread} (h : At s thread) (hclock : s.clock ≤ now) {engine : Engine} {returned : Bool}
    (hevents : engine.events = s.engine.events) (hstartTs : engine.startTs = s.engine.startTs) :
    At { s with engine := engine, stopReturned := returned, clock := now } thread := by
  have hbegun : ∀ ts, Begun s ts →
      Begun { s with engine := engine, stopReturned := returned, clock := now } ts := by
    intro ts hb
    exact ⟨hstartTs.trans hb.engine, hb.begunAt, hb.after, hb.past.trans hclock⟩
  have htriggers : ({ s with engine := engine, stopReturned := returned, clock := now } : Session).triggers =
      s.triggers := congrArg (List.map ScenarioEvent.triggerS) hevents
  cases thread with
  | absent => trivial
  | starting =>
    obtain ⟨hnone, start, hstart, hle⟩ := h
    exact ⟨hnone, start, hstart, hle.trans hclock⟩
  | testing =>
    obtain ⟨ts, hb⟩ := h
    exact ⟨ts, hbegun ts hb⟩
  | reading =>
    obtain ⟨ts, hb⟩ := h
    exact ⟨ts, hbegun ts hb⟩
  | acquiring elapsed =>
    obtain ⟨ts, hb, hle⟩ := h
    exact ⟨ts, hbegun ts hb, hle.trans hclock⟩
  | passing elapsed next =>
    obtain ⟨⟨ts, hb, hle⟩, hcurrent, hpassed⟩ := h
    refine ⟨⟨ts, hbegun ts hb, hle.trans hclock⟩, hcurrent, ?_⟩
    rw [htriggers]
    exact hpassed
  | checking allFired =>
    obtain ⟨⟨ts, hb⟩, hfired⟩ := h
    refine ⟨⟨ts, hbegun ts hb⟩, ?_⟩
    show _ → (_ ↔ _ = engine.events.length)
    rw [hevents]
    exact hfired

/-- A step that only the clock and the calls of `stop` see. -/
theorem Sound.later (h : Sound s) (hclock : s.clock ≤ now) {engine : Engine} {returned : Bool}
    (hevents : engine.events = s.engine.events) (hstartTs : engine.startTs = s.engine.startTs)
    (hthread : engine.thread = s.engine.thread)
    (hstop : engine.stopSet = false → s.engine.stopSet = false)
    (hreturned : engine.thread ≠ .absent → returned = s.stopReturned) :
    Sound { s with engine := engine, stopReturned := returned, clock := now } := by
  have htriggers : ({ s with engine := engine, stopReturned := returned, clock := now } : Session).triggers =
      s.triggers := congrArg (List.map ScenarioEvent.triggerS) hevents
  refine ⟨h.generation, htriggers ▸ h.sorted, fun hcurrent => ?_, fun halive => ?_, ?_, fun hcurrent hlate => ?_,
    fun hcurrent hstarted hset => ?_⟩
  · have hr := h.replayed hcurrent
    refine ⟨?_, hr.indices, hr.generations, htriggers.symm ▸ hr.triggers, ?_⟩
    · show _ ≤ engine.events.length
      rw [hevents]
      exact hr.count
    · show ∀ i event, engine.events[i]? = some event → _
      rw [hevents]
      exact hr.fired
  · exact (hreturned halive).trans (h.alive (hthread ▸ halive))
  · show At _ engine.thread
    rw [hthread]
    exact h.placed.later hclock hevents hstartTs
  · have hdue := (h.late hcurrent hlate).mono hclock
    exact ⟨hdue.1, htriggers.symm ▸ hdue.2⟩
  · have hbudget := h.budget hcurrent hstarted (hstop hset)
    show _ = engine.events.length ∨ engine.thread ≠ _ ∧ s.lateTurns + cost _ engine.thread ≤ _
    rw [htriggers, hevents, hthread]
    exact hbudget

theorem sound_load (h : Sound s) (events : List ScenarioEvent) : Sound (step s (.load events)).2 := by
  unfold step
  dsimp only
  split_ifs with hblocked
  · exact h
  push Not at hblocked
  obtain ⟨hjoining, hlocked⟩ := hblocked
  have hnext : s.startGeneration < s.generation + 1 := Nat.lt_succ_of_le h.generation
  have hengine : s.engine.load events = { s.engine with
      events := (events.map fun e => { e with fired := false }).insertionSort fun a b => a.triggerS ≤ b.triggerS
      log := [] } := by
    unfold Engine.load
    rw [if_neg]
    push Not
    exact ⟨hjoining, hlocked⟩
  rw [hengine]
  refine ⟨hnext.le, ?_, fun hcurrent => absurd hcurrent hnext.ne', h.alive, ?_,
    fun hcurrent => absurd hcurrent hnext.ne', fun hcurrent => absurd hcurrent hnext.ne'⟩
  · apply List.pairwise_map.mpr
    have htrans : IsTrans ScenarioEvent fun a b => a.triggerS ≤ b.triggerS :=
      ⟨fun _ _ _ hab hbc => le_trans hab hbc⟩
    have htotal : Std.Total fun a b : ScenarioEvent => a.triggerS ≤ b.triggerS :=
      ⟨fun a b => le_total a.triggerS b.triggerS⟩
    exact List.pairwise_insertionSort _ _
  · have hplaced := h.placed
    show At _ s.engine.thread
    cases hthread : s.engine.thread with
    | passing elapsed next => exact absurd (by rw [Engine.locked, hthread]) hlocked
    | absent => trivial
    | starting =>
      rw [hthread] at hplaced
      exact hplaced
    | testing =>
      rw [hthread] at hplaced
      obtain ⟨ts, hb⟩ := hplaced
      exact ⟨ts, hb.engine, hb.begunAt, hb.after, hb.past⟩
    | reading =>
      rw [hthread] at hplaced
      obtain ⟨ts, hb⟩ := hplaced
      exact ⟨ts, hb.engine, hb.begunAt, hb.after, hb.past⟩
    | acquiring elapsed =>
      rw [hthread] at hplaced
      obtain ⟨ts, hb, hle⟩ := hplaced
      exact ⟨ts, ⟨hb.engine, hb.begunAt, hb.after, hb.past⟩, hle⟩
    | checking allFired =>
      rw [hthread] at hplaced
      obtain ⟨⟨ts, hb⟩, -⟩ := hplaced
      exact ⟨⟨ts, hb.engine, hb.begunAt, hb.after, hb.past⟩, fun hcurrent => absurd hcurrent hnext.ne'⟩

theorem step_start_of_startable (hjoining : s.engine.joining = none) (hstartable : s.engine.startable = true) :
    (step s (.start now)).2 = { s with
      engine := { s.engine with
        stopSet := false
        events := s.engine.events.map fun e => { e with fired := false }
        thread := .starting }
      startGeneration := s.generation
      startedAt := some now
      begunAt := none
      dispatched := []
      stopReturned := false
      lateTurns := 0
      clock := now } := by
  unfold step Engine.start
  simp only [hjoining, hstartable, and_self, if_true]

theorem sound_start (h : Sound s) (hclock : s.clock ≤ now) : Sound (step s (.start now)).2 := by
  by_cases hstart : s.engine.joining = none ∧ s.engine.startable = true
  · rw [step_start_of_startable hstart.1 hstart.2]
    have htriggers : (s.engine.events.map fun e => { e with fired := false }).map ScenarioEvent.triggerS =
        s.triggers := List.map_map
    refine ⟨le_refl _, ?_, fun _ => ⟨Nat.zero_le _, rfl, by simp, rfl, fun i event hget => ?_⟩, fun _ => rfl,
      ⟨rfl, now, rfl, le_refl _⟩, fun _ hlate => absurd rfl hlate, fun _ _ _ => ?_⟩
    · show List.Pairwise _ (List.map _ _)
      rw [htriggers]
      exact h.sorted
    · rw [List.getElem?_map] at hget
      obtain ⟨e, -, rfl⟩ := Option.map_eq_some_iff.mp hget
      simp
    · refine Or.inr ⟨by simp, ?_⟩
      show 0 + 0 ≤ _
      omega
  · have hstep : (step s (.start now)).2 = { s with clock := now } := if_neg hstart
    rw [hstep]
    exact h.later hclock rfl rfl rfl id fun _ => rfl

theorem sound_stop (h : Sound s) (hclock : s.clock ≤ now) : Sound (step s (.stop now)).2 := by
  show Sound { s with engine := s.engine.stop now, clock := now }
  unfold Engine.stop
  split_ifs with hjoining
  · exact h.later hclock rfl rfl rfl (fun hset => absurd hset (by simp)) fun _ => rfl
  · exact h.later hclock rfl rfl rfl id fun _ => rfl

theorem sound_joined (h : Sound s) (hclock : s.clock ≤ now) (hguard : Guard s (.joined now)) :
    Sound (step s (.joined now)).2 := by
  unfold step
  dsimp only
  split_ifs with hjoined
  · exact h.later hclock rfl rfl rfl id fun halive => absurd (hguard hjoined) halive
  · exact h.later hclock rfl rfl rfl id fun _ => rfl

/-! ### A step of the thread -/

/-- What a step of the thread does that dispatches nothing. -/
theorem step_turn_of_none (hnone : (s.engine.turn now).1 = none) :
    step s (.turn now) = (none, { s with
      engine := (s.engine.turn now).2
      begunAt := if s.engine.thread = .starting then some now else s.begunAt
      lateTurns := if s.AllDue now then s.lateTurns + 1 else s.lateTurns
      clock := now }) := by
  unfold step
  dsimp only
  rw [hnone, Option.map_none, Option.toList_none, List.append_nil]

/-- A step that only moves the thread: each one brings it nearer to its end, once every event is due. -/
theorem Sound.moved (h : Sound s) (hclock : s.clock ≤ now) (hstarted : s.engine.thread ≠ .starting)
    (halive : s.engine.thread ≠ .absent) {thread : Thread}
    (hturn : s.engine.turn now = (none, { s.engine with thread := thread }))
    (hplaced : ∀ lateTurns,
      At { s with engine := { s.engine with thread := thread }, lateTurns := lateTurns, clock := now } thread)
    (hnear : s.generation = s.startGeneration → s.engine.stopSet = false →
      s.dispatched.length ≠ s.engine.events.length → thread ≠ .absent ∧
        (s.AllDue now → cost s.triggers thread < cost s.triggers s.engine.thread)) :
    Sound (step s (.turn now)).2 := by
  rw [step_turn_of_none (by rw [hturn]), if_neg hstarted, hturn]
  refine ⟨h.generation, h.sorted, fun hcurrent => ?_, fun _ => h.alive halive, hplaced _,
    fun hcurrent hlate => ?_, fun hcurrent hbegun hset => ?_⟩
  · have hr := h.replayed hcurrent
    exact ⟨hr.count, hr.indices, hr.generations, hr.triggers, hr.fired⟩
  · dsimp only at hlate ⊢
    split_ifs at hlate with hdue
    · exact hdue
    · exact (h.late hcurrent hlate).mono hclock
  · dsimp only at hbegun hset ⊢
    rcases h.budget hcurrent hbegun hset with hdone | ⟨-, hbudget⟩
    · exact Or.inl hdone
    by_cases hdone : s.dispatched.length = s.engine.events.length
    · exact Or.inl hdone
    obtain ⟨hpresent, hless⟩ := hnear hcurrent hset hdone
    have hbound := cost_le s.triggers thread
    refine Or.inr ⟨hpresent, ?_⟩
    show (if s.AllDue now then s.lateTurns + 1 else s.lateTurns) + cost s.triggers thread ≤
      2 * s.triggers.length + 6
    split_ifs with hdue
    · have := hless hdue
      omega
    · have hzero : s.lateTurns = 0 := by
        by_contra hlate
        exact hdue ((h.late hcurrent hlate).mono hclock)
      omega

theorem Begun.later {ts : ℚ} (h : Begun s ts) (hclock : s.clock ≤ now) {thread : Thread} {lateTurns : ℕ} :
    Begun { s with engine := { s.engine with thread := thread }, lateTurns := lateTurns, clock := now } ts :=
  ⟨h.engine, h.begunAt, h.after, h.past.trans hclock⟩

theorem sound_turn_starting (h : Sound s) (hclock : s.clock ≤ now) (hthread : s.engine.thread = .starting) :
    Sound (step s (.turn now)).2 := by
  have hplaced := h.placed
  rw [hthread] at hplaced
  obtain ⟨hnone, start, hstart, hle⟩ := hplaced
  have hnever : ¬s.AllDue s.clock := fun hdue => hdue.1 hnone
  have hnot : ¬s.AllDue now := fun hdue => hdue.1 hnone
  have hturn : s.engine.turn now = (none, { s.engine with startTs := some now, thread := .testing }) := by
    unfold Engine.turn
    rw [hthread]
  rw [step_turn_of_none (by rw [hturn]), if_pos hthread, if_neg hnot, hturn]
  have hzero : s.generation = s.startGeneration → s.lateTurns = 0 := by
    intro hcurrent
    by_contra hlate
    exact hnever (h.late hcurrent hlate)
  refine ⟨h.generation, h.sorted, fun hcurrent => ?_, fun _ => h.alive (by simp [hthread]), ?_,
    fun hcurrent hlate => absurd (hzero hcurrent) hlate, fun hcurrent _ _ => ?_⟩
  · have hr := h.replayed hcurrent
    exact ⟨hr.count, hr.indices, hr.generations, hr.triggers, hr.fired⟩
  · exact ⟨now, rfl, rfl, ⟨start, hstart, hle.trans hclock⟩, le_refl _⟩
  · refine Or.inr ⟨by simp, ?_⟩
    show s.lateTurns + (s.triggers.length + 3) ≤ 2 * s.triggers.length + 6
    rw [hzero hcurrent]
    omega

theorem sound_turn_testing (h : Sound s) (hclock : s.clock ≤ now) (hthread : s.engine.thread = .testing) :
    Sound (step s (.turn now)).2 := by
  have hplaced := h.placed
  rw [hthread] at hplaced
  obtain ⟨ts, hb⟩ := hplaced
  have hturn : s.engine.turn now =
      (none, { s.engine with thread := if s.engine.stopSet then .absent else .reading }) := by
    unfold Engine.turn
    rw [hthread]
  apply h.moved hclock (by simp [hthread]) (by simp [hthread]) hturn
  · intro lateTurns
    cases s.engine.stopSet with
    | false => exact ⟨ts, hb.later hclock⟩
    | true => trivial
  · intro _ hset _
    rw [hset, hthread]
    refine ⟨by simp, fun _ => ?_⟩
    show s.triggers.length + 2 < s.triggers.length + 3
    omega

/-- The time of a pass that is read when every event is due is not before any of them. -/
theorem due_of_allDue {ts elapsed : ℚ} (hb : Begun s ts) (h : s.AllDue now) (helapsed : now - ts ≤ elapsed) :
    ∀ t ∈ s.triggers, t ≤ elapsed := by
  intro t ht
  have hdue := h.2 t ht
  rw [hb.begunAt, Option.getD_some] at hdue
  linarith

theorem sound_turn_reading (h : Sound s) (hclock : s.clock ≤ now) (hthread : s.engine.thread = .reading) :
    Sound (step s (.turn now)).2 := by
  have hplaced := h.placed
  rw [hthread] at hplaced
  obtain ⟨ts, hb⟩ := hplaced
  have hturn : s.engine.turn now = (none, { s.engine with thread := .acquiring (now - ts) }) := by
    unfold Engine.turn
    rw [hthread]
    dsimp only
    rw [hb.engine, Option.getD_some]
  apply h.moved hclock (by simp [hthread]) (by simp [hthread]) hturn
  · intro lateTurns
    refine ⟨ts, hb.later hclock, ?_⟩
    show ts + (now - ts) ≤ now
    linarith
  · intro _ _ _
    rw [hthread]
    refine ⟨by simp, fun hdue => ?_⟩
    rw [cost, cost, if_pos (due_of_allDue hb hdue (le_refl _))]
    omega

theorem sound_turn_acquiring {elapsed : ℚ} (h : Sound s) (hclock : s.clock ≤ now)
    (hthread : s.engine.thread = .acquiring elapsed) (hguard : Guard s (.turn now)) :
    Sound (step s (.turn now)).2 := by
  have hplaced := h.placed
  rw [hthread] at hplaced
  obtain ⟨ts, hb, hle⟩ := hplaced
  have hturn : s.engine.turn now = (none, { s.engine with thread := .passing elapsed 0 }) := by
    unfold Engine.turn
    rw [hthread]
  apply h.moved hclock (by simp [hthread]) (by simp [hthread]) hturn
  · intro lateTurns
    exact ⟨⟨ts, hb.later hclock, hle.trans hclock⟩, hguard ⟨elapsed, hthread⟩, Or.inl (Nat.zero_le _)⟩
  · intro _ _ _
    rw [hthread]
    refine ⟨by simp, fun _ => ?_⟩
    rw [cost, cost]
    split_ifs <;> omega

/-- In a pass over the scenario that was started: the next event that is not dispatched is at the front of
what the pass has not come to, or not due. -/
theorem Sound.passing {elapsed : ℚ} {next : ℕ} (h : Sound s) (hthread : s.engine.thread = .passing elapsed next) :
    Replayed s ∧ (∃ ts, Begun s ts ∧ ts + elapsed ≤ s.clock) ∧ s.generation = s.startGeneration ∧
      (next ≤ s.dispatched.length ∨ ∀ t, s.triggers[s.dispatched.length]? = some t → elapsed < t) := by
  have hplaced := h.placed
  rw [hthread] at hplaced
  exact ⟨h.replayed hplaced.2.1, hplaced.1, hplaced.2.1, hplaced.2.2⟩

theorem Session.triggers_getElem? {i : ℕ} {event : ScenarioEvent} (hget : s.engine.events[i]? = some event) :
    s.triggers[i]? = some event.triggerS := by
  rw [Session.triggers, List.getElem?_map, hget, Option.map_some]

theorem Sound.triggers_le (h : Sound s) {i j : ℕ} {t u : ℚ} (hij : i ≤ j) (ht : s.triggers[i]? = some t)
    (hu : s.triggers[j]? = some u) : t ≤ u := by
  rcases hij.eq_or_lt with rfl | hlt
  · rw [ht] at hu
    exact (Option.some.inj hu).le
  · obtain ⟨hi, rfl⟩ := List.getElem?_eq_some_iff.mp ht
    obtain ⟨hj, rfl⟩ := List.getElem?_eq_some_iff.mp hu
    exact List.pairwise_iff_getElem.mp h.sorted i j hi hj hlt

/-- An event that a pass comes to and that is due is the first that is not dispatched. -/
theorem Sound.next_eq {elapsed : ℚ} {next : ℕ} {event : ScenarioEvent} (h : Sound s)
    (hthread : s.engine.thread = .passing elapsed next) (hget : s.engine.events[next]? = some event)
    (hfired : event.fired = false) (hdue : event.triggerS ≤ elapsed) : next = s.dispatched.length := by
  obtain ⟨hr, -, -, hpassed⟩ := h.passing hthread
  have hnot : ¬next < s.dispatched.length := by
    intro hlt
    rw [(hr.fired next event hget).mpr hlt] at hfired
    exact Bool.noConfusion hfired
  rcases hpassed with hle | hlater
  · omega
  by_contra hne
  have hlength : s.dispatched.length < s.engine.events.length :=
    (Nat.lt_of_le_of_ne (Nat.not_lt.mp hnot) (Ne.symm hne)).trans (List.getElem?_eq_some_iff.mp hget).1
  have hfirst := Session.triggers_getElem? (List.getElem?_eq_getElem hlength)
  have hlt := hlater _ hfirst
  have hle := h.triggers_le (Nat.not_lt.mp hnot) hfirst (Session.triggers_getElem? hget)
  linarith

theorem sound_turn_skipping {elapsed : ℚ} {next : ℕ} {event : ScenarioEvent} (h : Sound s)
    (hclock : s.clock ≤ now) (hthread : s.engine.thread = .passing elapsed next)
    (hget : s.engine.events[next]? = some event) (hskip : ¬(event.fired = false ∧ event.triggerS ≤ elapsed)) :
    Sound (step s (.turn now)).2 := by
  obtain ⟨hr, ⟨ts, hb, hle⟩, hcurrent, hpassed⟩ := h.passing hthread
  have hlength := (List.getElem?_eq_some_iff.mp hget).1
  have hturn : s.engine.turn now = (none, { s.engine with thread := .passing elapsed (next + 1) }) := by
    unfold Engine.turn
    rw [hthread]
    dsimp only
    rw [hget]
    dsimp only
    rw [if_neg hskip]
  apply h.moved hclock (by simp [hthread]) (by simp [hthread]) hturn
  · intro lateTurns
    refine ⟨⟨ts, hb.later hclock, hle.trans hclock⟩, hcurrent, ?_⟩
    rcases hpassed with hle' | hlater
    · rcases hle'.lt_or_eq with hlt | heq
      · exact Or.inl hlt
      · refine Or.inr fun t ht => ?_
        have hunfired : event.fired = false := by
          apply Bool.eq_false_iff.mpr
          intro hfired
          have := (hr.fired next event hget).mp hfired
          omega
        have htrigger := Session.triggers_getElem? hget
        rw [heq] at htrigger
        have htime : event.triggerS = t := Option.some.inj (htrigger.symm.trans ht)
        rw [← htime]
        exact not_le.mp fun hdue => hskip ⟨hunfired, hdue⟩
    · exact Or.inr hlater
  · intro _ _ _
    have hcount : s.triggers.length = s.engine.events.length := List.length_map _
    rw [hthread]
    refine ⟨by simp, fun _ => ?_⟩
    rw [cost, cost]
    split_ifs <;> omega

/-- At the end of a pass every event is fired exactly when every event is dispatched. -/
theorem Replayed.all_fired_iff (h : Replayed s) :
    s.engine.events.all ScenarioEvent.fired = true ↔ s.dispatched.length = s.engine.events.length := by
  rw [List.all_eq_true]
  constructor
  · intro hall
    by_contra hne
    have hlt : s.dispatched.length < s.engine.events.length := Nat.lt_of_le_of_ne h.count hne
    have hfired := hall _ (List.getElem_mem hlt)
    have := (h.fired _ _ (List.getElem?_eq_getElem hlt)).mp hfired
    omega
  · intro heq event hmem
    obtain ⟨i, hi, rfl⟩ := List.getElem_of_mem hmem
    exact (h.fired i _ (List.getElem?_eq_getElem hi)).mpr (heq ▸ hi)

theorem sound_turn_ending {elapsed : ℚ} {next : ℕ} (h : Sound s)
    (hclock : s.clock ≤ now) (hthread : s.engine.thread = .passing elapsed next)
    (hget : s.engine.events[next]? = none) : Sound (step s (.turn now)).2 := by
  obtain ⟨hr, ⟨ts, hb, hle⟩, hcurrent, hpassed⟩ := h.passing hthread
  have hlength := List.getElem?_eq_none_iff.mp hget
  have hturn : s.engine.turn now = (none, { s.engine with
      thread := .checking (s.engine.events.all ScenarioEvent.fired) }) := by
    unfold Engine.turn
    rw [hthread]
    dsimp only
    rw [hget]
  apply h.moved hclock (by simp [hthread]) (by simp [hthread]) hturn
  · intro lateTurns
    exact ⟨⟨ts, hb.later hclock⟩, fun _ => hr.all_fired_iff⟩
  · intro _ _ hne
    have hcount : s.triggers.length = s.engine.events.length := List.length_map _
    rw [hthread]
    refine ⟨by simp, fun _ => ?_⟩
    -- a pass at whose time everything was due has left nothing behind
    have hearly : ¬∀ t ∈ s.triggers, t ≤ elapsed := by
      intro hall
      have hlt : s.dispatched.length < s.engine.events.length := Nat.lt_of_le_of_ne hr.count hne
      rcases hpassed with hle' | hlater
      · omega
      · have hfirst := Session.triggers_getElem? (List.getElem?_eq_getElem hlt)
        exact absurd (hall _ (List.mem_of_getElem? hfirst)) (not_le.mpr (hlater _ hfirst))
    rw [cost, cost, if_neg hearly]
    omega

theorem sound_turn_checking {allFired : Bool} (h : Sound s) (hclock : s.clock ≤ now)
    (hthread : s.engine.thread = .checking allFired) : Sound (step s (.turn now)).2 := by
  have hplaced := h.placed
  rw [hthread] at hplaced
  obtain ⟨⟨ts, hb⟩, hfired⟩ := hplaced
  have hturn : s.engine.turn now = (none, { s.engine with
      thread := if allFired && !s.engine.events.isEmpty then .absent else .testing }) := by
    unfold Engine.turn
    rw [hthread]
  apply h.moved hclock (by simp [hthread]) (by simp [hthread]) hturn
  · intro lateTurns
    split_ifs
    · trivial
    · exact ⟨ts, hb.later hclock⟩
  · intro hcurrent _ hne
    have hnotall : allFired = false := Bool.eq_false_iff.mpr fun hall => hne ((hfired hcurrent).mp hall)
    rw [hnotall, hthread]
    refine ⟨by simp, fun _ => ?_⟩
    show s.triggers.length + 3 < s.triggers.length + 4
    omega

/-- A dispatch marks the event and takes the next place among the dispatched. -/
theorem step_turn_dispatching {elapsed : ℚ} {next : ℕ} {event : ScenarioEvent}
    (hthread : s.engine.thread = .passing elapsed next) (hget : s.engine.events[next]? = some event)
    (hfired : event.fired = false) (hdue : event.triggerS ≤ elapsed) :
    step s (.turn now) = (some ⟨s.generation, next, event.triggerS⟩, { s with
      engine := { s.engine with
        events := s.engine.events.set next { event with fired := true }
        log := s.engine.log ++ [⟨now, event.eventId, event.eventType, event.params⟩]
        thread := .passing elapsed (next + 1) }
      dispatched := s.dispatched ++ [⟨s.generation, next, event.triggerS⟩]
      lateTurns := if s.AllDue now then s.lateTurns + 1 else s.lateTurns
      clock := now }) := by
  have hturn : s.engine.turn now = (some (next, event), { s.engine with
      events := s.engine.events.set next { event with fired := true }
      log := s.engine.log ++ [⟨now, event.eventId, event.eventType, event.params⟩]
      thread := .passing elapsed (next + 1) }) := by
    unfold Engine.turn
    rw [hthread]
    dsimp only
    rw [hget]
    dsimp only
    rw [if_pos ⟨hfired, hdue⟩]
  have hstarted : s.engine.thread ≠ .starting := by
    rw [hthread]
    exact Thread.noConfusion
  unfold step
  dsimp only
  rw [hturn, if_neg hstarted]
  rfl

theorem map_triggerS_set {events : List ScenarioEvent} {i : ℕ} {event : ScenarioEvent}
    (hget : events[i]? = some event) :
    (events.set i { event with fired := true }).map ScenarioEvent.triggerS =
      events.map ScenarioEvent.triggerS := by
  obtain ⟨hi, rfl⟩ := List.getElem?_eq_some_iff.mp hget
  rw [List.map_set]
  apply List.ext_getElem (List.length_set)
  intro j hj hj'
  rw [List.getElem_set]
  split_ifs with heq
  · subst heq
    rw [List.getElem_map]
  · rfl

theorem sound_turn_dispatching {elapsed : ℚ} {next : ℕ} {event : ScenarioEvent} (h : Sound s)
    (hclock : s.clock ≤ now) (hthread : s.engine.thread = .passing elapsed next)
    (hget : s.engine.events[next]? = some event) (hfired : event.fired = false)
    (hdue : event.triggerS ≤ elapsed) : Sound (step s (.turn now)).2 := by
  obtain ⟨hr, ⟨ts, hb, hle⟩, hcurrent, -⟩ := h.passing hthread
  have hnext := h.next_eq hthread hget hfired hdue
  have hlength := (List.getElem?_eq_some_iff.mp hget).1
  have htriggers := map_triggerS_set hget
  rw [step_turn_dispatching hthread hget hfired hdue]
  refine ⟨h.generation, ?_, fun _ => ?_, fun _ => h.alive (by simp [hthread]), ?_, fun _ hlate => ?_,
    fun _ hstarted hset => ?_⟩
  · show List.Pairwise _ (List.map _ _)
    rw [htriggers]
    exact h.sorted
  · refine ⟨?_, ?_, fun d hd => ?_, ?_, fun i e hgete => ?_⟩
    · show (s.dispatched ++ [_]).length ≤ (s.engine.events.set _ _).length
      rw [List.length_append, List.length_set, List.length_singleton]
      omega
    · rw [List.map_append, List.length_append, List.length_singleton, List.range_succ, hr.indices, ← hnext]
      rfl
    · rcases List.mem_append.mp hd with hold | hnew
      · exact hr.generations d hold
      · rw [List.mem_singleton.mp hnew]
        exact hcurrent
    · show (s.dispatched ++ [_]).map _ = (List.map _ _).take (s.dispatched ++ [_]).length
      have hat : s.triggers[s.dispatched.length]? = some event.triggerS := by
        rw [← hnext]
        exact Session.triggers_getElem? hget
      rw [htriggers, List.map_append, List.length_append, List.length_singleton, List.take_add_one, hr.triggers]
      show _ = _ ++ (s.triggers[s.dispatched.length]?).toList
      rw [hat]
      rfl
    · have hgete' : (s.engine.events.set next { event with fired := true })[i]? = some e := hgete
      rw [List.getElem?_set, if_pos hlength] at hgete'
      show e.fired = true ↔ i < (s.dispatched ++ [_]).length
      rw [List.length_append, List.length_singleton]
      split_ifs at hgete' with heq
      · rw [← Option.some.inj hgete']
        simp only [true_iff]
        omega
      · rw [hr.fired i e hgete']
        omega
  · refine ⟨⟨ts, ⟨hb.engine, hb.begunAt, hb.after, hb.past.trans hclock⟩, hle.trans hclock⟩, hcurrent, Or.inl ?_⟩
    show next + 1 ≤ (s.dispatched ++ [_]).length
    rw [List.length_append, List.length_singleton]
    omega
  · have hall : s.AllDue now := by
      dsimp only at hlate
      split_ifs at hlate with hnow
      · exact hnow
      · exact (h.late hcurrent hlate).mono hclock
    refine ⟨hall.1, ?_⟩
    show ∀ t ∈ List.map _ _, _
    rw [htriggers]
    exact hall.2
  · have hcount : s.triggers.length = s.engine.events.length := List.length_map _
    rcases h.budget hcurrent hstarted hset with hdone | ⟨-, hbudget⟩
    · omega
    refine Or.inr ⟨by simp, ?_⟩
    show (if s.AllDue now then s.lateTurns + 1 else s.lateTurns) + cost (List.map _ _) _ ≤
      2 * (List.map _ _).length + 6
    rw [htriggers]
    show _ + cost s.triggers (.passing elapsed (next + 1)) ≤ 2 * s.triggers.length + 6
    have hbound := cost_le s.triggers (.passing elapsed (next + 1))
    have hless : cost s.triggers (.passing elapsed (next + 1)) + 1 ≤ cost s.triggers s.engine.thread := by
      rw [hthread, cost, cost]
      split_ifs <;> omega
    split_ifs with hnow <;> omega

/-- One step of the thread, wherever it is. -/
theorem sound_turn (h : Sound s) (hclock : s.clock ≤ now) (hguard : Guard s (.turn now)) :
    Sound (step s (.turn now)).2 := by
  cases hthread : s.engine.thread with
  | absent =>
    have hturn : s.engine.turn now = (none, s.engine) := by
      unfold Engine.turn
      rw [hthread]
    rw [step_turn_of_none (by rw [hturn]), if_neg (by simp [hthread]), hturn]
    refine ⟨h.generation, h.sorted, fun hcurrent => ?_, h.alive, ?_, fun hcurrent hlate => ?_,
      fun hcurrent hstarted hset => ?_⟩
    · have hr := h.replayed hcurrent
      exact ⟨hr.count, hr.indices, hr.generations, hr.triggers, hr.fired⟩
    · show At _ s.engine.thread
      rw [hthread]
      trivial
    · dsimp only at hlate ⊢
      split_ifs at hlate with hdue
      · exact hdue
      · exact (h.late hcurrent hlate).mono hclock
    · rcases h.budget hcurrent hstarted hset with hdone | ⟨hpresent, -⟩
      · exact Or.inl hdone
      · exact absurd hthread hpresent
  | starting => exact sound_turn_starting h hclock hthread
  | testing => exact sound_turn_testing h hclock hthread
  | reading => exact sound_turn_reading h hclock hthread
  | acquiring elapsed => exact sound_turn_acquiring h hclock hthread hguard
  | passing elapsed next =>
    cases hget : s.engine.events[next]? with
    | none => exact sound_turn_ending h hclock hthread hget
    | some event =>
      by_cases hdue : event.fired = false ∧ event.triggerS ≤ elapsed
      · exact sound_turn_dispatching h hclock hthread hget hdue.1 hdue.2
      · exact sound_turn_skipping h hclock hthread hget hdue
  | checking allFired => exact sound_turn_checking h hclock hthread

theorem sound_step (h : Sound s) {act : Act} (hguard : Timely s act ∧ Guard s act) : Sound (step s act).2 := by
  cases act with
  | load events => exact sound_load h events
  | start now => exact sound_start h hguard.1
  | stop now => exact sound_stop h hguard.1
  | joined now => exact sound_joined h hguard.1 hguard.2
  | turn now => exact sound_turn h hguard.1 hguard.2

/-! ### What a run delivers -/

theorem Sound.completes (h : Sound s) : Completes s := by
  intro hstarted hset hcurrent hend index hindex
  have hr := h.replayed hcurrent
  have hcount : s.triggers.length = s.engine.events.length := List.length_map _
  have hall : s.dispatched.length = s.engine.events.length := by
    rcases h.budget hcurrent hstarted hset with hdone | ⟨hpresent, hbudget⟩
    · exact hdone
    · rcases hend with habsent | hlate
      · exact absurd habsent hpresent
      · omega
  have hmem : index ∈ s.dispatched.map Dispatch.index := by
    rw [hr.indices, List.mem_range, hall]
    exact hindex
  obtain ⟨d, hd, heq⟩ := List.mem_map.mp hmem
  exact ⟨d, hd, hr.generations d hd, heq⟩

/-- A step of the thread that dispatches is in a pass, at an event that is due. -/
theorem dispatching_of_turn {d : Dispatch} (hd : (step s (.turn now)).1 = some d) :
    ∃ elapsed next event, s.engine.thread = .passing elapsed next ∧ s.engine.events[next]? = some event ∧
      event.fired = false ∧ event.triggerS ≤ elapsed ∧ d = ⟨s.generation, next, event.triggerS⟩ := by
  have hsome : (s.engine.turn now).1 ≠ none := by
    intro hnone
    rw [step_turn_of_none hnone] at hd
    cases hd
  unfold Engine.turn at hsome
  cases hthread : s.engine.thread with
  | passing elapsed next =>
    rw [hthread] at hsome
    cases hget : s.engine.events[next]? with
    | none =>
      simp only [hget] at hsome
      exact absurd rfl hsome
    | some event =>
      simp only [hget] at hsome
      split_ifs at hsome with hdue
      · rw [step_turn_dispatching hthread hget hdue.1 hdue.2] at hd
        exact ⟨elapsed, next, event, rfl, hget, hdue.1, hdue.2, (Option.some.inj hd).symm⟩
      · exact absurd rfl hsome
  | _ =>
    rw [hthread] at hsome
    exact absurd rfl hsome

theorem Sound.inTurn (h : Sound s) (hclock : s.clock ≤ now) {d : Dispatch}
    (hd : (step s (.turn now)).1 = some d) : InTurn s now d := by
  obtain ⟨elapsed, next, event, hthread, hget, hfired, hdue, rfl⟩ := dispatching_of_turn hd
  obtain ⟨hr, ⟨ts, hb, hle⟩, hcurrent, -⟩ := h.passing hthread
  have hnext := h.next_eq hthread hget hfired hdue
  obtain ⟨start, hstart, hbefore⟩ := hb.after
  refine ⟨fun d' hd' hsame => ?_, fun d' hd' => ?_, ⟨start, hstart, ?_⟩, h.alive (by simp [hthread]), hcurrent⟩
  · have hmem := List.mem_map_of_mem (f := Dispatch.index) hd'
    rw [hr.indices, List.mem_range, hsame.2, hnext] at hmem
    exact lt_irrefl _ hmem
  · have hmem := List.mem_map_of_mem (f := Dispatch.triggerS) hd'
    rw [hr.triggers] at hmem
    obtain ⟨j, hj, heq⟩ := List.mem_take_iff_getElem.mp hmem
    have hearlier : s.triggers[j]? = some d'.triggerS := by
      rw [← heq]
      exact List.getElem?_eq_getElem _
    exact h.triggers_le (by omega) hearlier (Session.triggers_getElem? hget)
  · show start + event.triggerS ≤ now
    linarith

/-- What the invariant says of the next step. -/
theorem Sound.exact (h : Sound s) {act : Act} (hguard : Timely s act ∧ Guard s act) : Exact s act := by
  refine ⟨?_, (sound_step h hguard).completes⟩
  cases act with
  | turn now => exact fun d hd => h.inTurn hguard.1 hd
  | start now =>
    intro hjoining hreturned
    have habsent : s.engine.thread = .absent := by
      by_contra halive
      rw [h.alive halive] at hreturned
      exact Bool.noConfusion hreturned
    have hstartable : s.engine.startable = true := by
      have hne := hguard.2 hjoining hreturned
      simp [Engine.startable, habsent, hne]
    rw [step_start_of_startable hjoining hstartable]
    exact ⟨rfl, rfl⟩
  | _ => trivial

end

/-- In every run in which `stop` returns only when the thread has ended, no pass begins on a scenario loaded
after the start, and a start after a stop has events. -/
theorem replayed_exactly (acts : List Act) (h : Along step (fun s act => Timely s act ∧ Guard s act) {} acts) :
    Along step Exact {} acts := by
  rw [along_iff]
  rintro before act after rfl
  have hsound : Sound (final step {} before) :=
    @invariant_along _ _ _ step Sound _ (fun _ _ hs hg => sound_step hs hg) _ sound_initial before (act :: after) h
  exact hsound.exact (along_iff.mp h before act after rfl)

/-- Two events, of which the second is due later than the first, in the order of the file. -/
def approach : List ScenarioEvent :=
  [{ eventId := "t1", eventType := "threat_launch", triggerS := 2 },
    { eventId := "c1", eventType := "radar_contact", triggerS := 0 }]

theorem replayed_exactly_approach :
    Along step Exact {} [.load approach, .start 1, .turn 1, .turn 1, .turn 1, .turn 1, .turn 1, .turn 1, .turn 1,
      .turn 2, .turn 3, .turn 3, .turn 3, .turn 3, .turn 3, .stop 4, .joined 4, .start 5] :=
  replayed_exactly _ (by decide +kernel)

/-- A dispatch that takes three seconds: `stop` gives up waiting, and the pass goes on with the next event. -/
theorem dispatched_after_stop :
    ¬∀ acts, Along step Timely {} acts → Along step Exact {} acts := by
  intro h
  have hrun := h [.load [{ eventId := "c1", eventType := "radar_contact", triggerS := 0 },
    { eventId := "w1", eventType := "weather_cell", triggerS := 0 }], .start 0, .turn 0, .turn 0, .turn 0, .turn 0,
    .turn 0, .stop 1, .joined 3, .turn 3] (by decide +kernel)
  obtain ⟨-, -, -, -, -, -, -, -, -, ⟨hpromised, -⟩, -⟩ := hrun
  have hrunning := (hpromised ⟨1, 1, 0⟩ (by decide +kernel)).running
  revert hrunning
  decide +kernel

end Fmofp.Scenario
