import Mathlib
import Fmofp.FlightControl.CleanupTimer

/-! The chain of expiry timers.  While the handler is started, the timer in the slot waits, or its pass
comes to publish the next one, because each timer is published once and reads itself from the slot; a
timer that another one has replaced stays replaced, and its pass ends. -/

namespace Fmofp.FlightControl

open Machine

namespace TimerState

variable (s : TimerState)

/-- The statement of `_start_cleanup_timer` that a thread is at. -/
def point : Option Timer → Option Rearm
  | none => match s.caller with
    | .startRearm p => some p
    | _ => none
  | some t => match s.phase t with
    | .running (.rearm p) => some p
    | _ => none

/-- The thread goes on with its next statement, or has returned. -/
def resume : Option Timer → Option Rearm → TimerState
  | none, some p => { s with caller := .startRearm p }
  | none, none => { s with caller := .idle }
  | some t, some p => s.setPhase t (.running (.rearm p))
  | some t, none => s.setPhase t .leaving

def rearmStep (thread : Option Timer) (p : Rearm) : TimerState :=
  (s.rearm thread p).1.resume thread (s.rearm thread p).2

/-- The phase of a pass that goes on with its next statement, or has returned. -/
def resumed : Option Rearm → Phase
  | some p => .running (.rearm p)
  | none => .leaving

end TimerState

namespace Rearm

/-- The local variable `timer`. -/
def timer : Rearm → Option Timer
  | .daemonize v | .launch v | .publish v => some v
  | _ => none

/-- The statement changes more than the local variables. -/
def writes : Rearm → Bool
  | .construct | .launch _ | .publish _ => true
  | _ => false

/-- What has become of the local timer so far. -/
def made (thread : Option Timer) : Rearm → Phase
  | .publish _ => .launched thread
  | _ => .made thread

end Rearm

open TimerState

section Resume

variable (s : TimerState) (thread : Option Timer) (n : Option Rearm) (p : Rearm) (t : Timer)

@[simp] theorem cleanupTimer_resume : (s.resume thread n).cleanupTimer = s.cleanupTimer := by
  cases thread <;> cases n <;> rfl

@[simp] theorem started_resume : (s.resume thread n).started = s.started := by
  cases thread <;> cases n <;> rfl

@[simp] theorem next_resume : (s.resume thread n).next = s.next := by
  cases thread <;> cases n <;> rfl

@[simp] theorem surplus_resume : (s.resume thread n).surplus = s.surplus := by
  cases thread <;> cases n <;> rfl

theorem phase_resume :
    (s.resume thread n).phase t = if thread = some t then resumed n else s.phase t := by
  cases thread with
  | none => cases n <;> rfl
  | some u =>
    by_cases h : u = t
    · subst h
      cases n <;> simp [resume, setPhase, resumed]
    · have hne : t ≠ u := Ne.symm h
      cases n <;> simp [resume, setPhase, h, hne]

/-- Most statements only read. -/
theorem rearm_fst (hread : p.writes = false) : (s.rearm thread p).1 = s := by
  cases p with
  | guard existing =>
    cases existing with
    | none => rfl
    | some u => rw [rearm]; split_ifs <;> rfl
  | check => rw [rearm]; split_ifs <;> rfl
  | read => rfl
  | daemonize v => rfl
  | construct => cases hread
  | launch v => cases hread
  | publish v => cases hread

@[simp] theorem started_rearm : (s.rearm thread p).1.started = s.started := by
  cases hread : p.writes with
  | false => rw [rearm_fst s thread p hread]
  | true => cases p <;> first | rfl | cases hread

@[simp] theorem caller_rearm : (s.rearm thread p).1.caller = s.caller := by
  cases hread : p.writes with
  | false => rw [rearm_fst s thread p hread]
  | true => cases p <;> first | rfl | cases hread

@[simp] theorem surplus_rearm : (s.rearm thread p).1.surplus = s.surplus := by
  cases hread : p.writes with
  | false => rw [rearm_fst s thread p hread]
  | true => cases p <;> first | rfl | cases hread

/-- A statement changes at most the phase of the timer that it makes. -/
theorem phase_rearm :
    (s.rearm thread p).1.phase t = match p with
      | .construct => if t = s.next then .made thread else s.phase t
      | .launch v => if t = v then .launched thread else s.phase t
      | .publish v => if t = v then .waiting else s.phase t
      | _ => s.phase t := by
  cases p with
  | construct => simp [rearm, setPhase, Function.update_apply]
  | launch v => simp [rearm, setPhase, Function.update_apply]
  | publish v => simp [rearm, setPhase, Function.update_apply]
  | _ => rw [rearm_fst s thread _ rfl]

theorem cleanupTimer_rearm :
    (s.rearm thread p).1.cleanupTimer = match p with
      | .publish v => some v
      | _ => s.cleanupTimer := by
  cases p with
  | construct => rfl
  | launch v => rfl
  | publish v => rfl
  | _ => rw [rearm_fst s thread _ rfl]

theorem next_rearm :
    (s.rearm thread p).1.next = if p = .construct then s.next + 1 else s.next := by
  cases p with
  | construct => rfl
  | launch v => rfl
  | publish v => rfl
  | _ => rw [rearm_fst s thread _ rfl]; rfl

end Resume

/-- The timer waits, or its pass is on the way to the next one: if it has read the slot, it has read
itself. -/
def OnTrack (s : TimerState) (t : Timer) : Prop :=
  s.phase t = .waiting ∨
    ∃ point, s.phase t = .running point ∧ ∀ existing, point = .rearm (.guard existing) → existing = some t

/-- The timer waits, or its pass has not come to a decision, or it is done. -/
inductive Doomed (t : Timer) : Phase → Prop
  | waiting : Doomed t .waiting
  | body : Doomed t (.running .body)
  | finallyCheck : Doomed t (.running .finallyCheck)
  | read : Doomed t (.running (.rearm .read))
  | guard {existing : Option Timer} (h : existing ≠ some t) :
      Doomed t (.running (.rearm (.guard existing)))
  | leaving : Doomed t .leaving
  | ended : Doomed t .ended

/-- The calls of `start` and `stop` and what they have done so far. -/
def CallerSound (s : TimerState) : Prop :=
  match s.caller with
  | .idle | .startCheck | .stopCheck => s.started = s.cleanupTimer.isSome
  | .startSet => s.started = false ∧ s.cleanupTimer = none
  | .startRearm (.guard (some _)) => s.started = true ∧ s.cleanupTimer.isSome = true
  | .startRearm _ => s.started = true
  | .stopSet => s.started = true ∧ s.cleanupTimer.isSome = true
  | .stopTest | .stopCancel | .stopClear => s.started = false

/-- What holds of every state of an undisturbed run. -/
structure TimersSound (s : TimerState) : Prop where
  fresh : ∀ t, s.next ≤ t → s.phase t = .absent
  own : ∀ thread p v, s.point thread = some p → p.timer = some v → s.phase v = p.made thread
  caller : CallerSound s
  silent : s.started = false → ∀ t, ¬ s.Rearming t
  track : s.started = true → ∀ t, s.cleanupTimer = some t → OnTrack s t
  doomed : ∀ t, s.surplus t = true → s.cleanupTimer ≠ some t ∧ Doomed t (s.phase t)

theorem Doomed.published {t : Timer} {phase : Phase} (h : Doomed t phase) :
    phase ≠ .absent ∧ (∀ owner, phase ≠ .made owner) ∧ ∀ owner, phase ≠ .launched owner := by
  cases h <;> simp

theorem Doomed.not_rearming {s : TimerState} {t : Timer} (h : Doomed t (s.phase t)) : ¬ s.Rearming t := by
  rintro ⟨point, hphase, hcommitted⟩
  rw [hphase] at h
  cases h <;> cases hcommitted

section Statements

variable {s : TimerState} {thread : Option Timer} {p : Rearm}

theorem cleanupTimer_rearmStep :
    (s.rearmStep thread p).cleanupTimer = match p with
      | .publish v => some v
      | _ => s.cleanupTimer := by
  rw [rearmStep, cleanupTimer_resume, cleanupTimer_rearm]

@[simp] theorem started_rearmStep : (s.rearmStep thread p).started = s.started := by
  rw [rearmStep, started_resume, started_rearm]

@[simp] theorem surplus_rearmStep : (s.rearmStep thread p).surplus = s.surplus := by
  rw [rearmStep, surplus_resume, surplus_rearm]

theorem next_rearmStep :
    (s.rearmStep thread p).next = if p = .construct then s.next + 1 else s.next := by
  rw [rearmStep, next_resume, next_rearm]

theorem phase_of_point {t : Timer} (h : s.point (some t) = some p) :
    s.phase t = .running (.rearm p) := by
  rw [point] at h
  split at h
  · rename_i p' hphase
    cases h
    exact hphase
  · cases h

theorem point_of_phase {t : Timer} (h : s.phase t = .running (.rearm p)) :
    s.point (some t) = some p := by
  rw [point, h]

theorem caller_of_point (h : s.point none = some p) : s.caller = .startRearm p := by
  rw [point] at h
  split at h
  · rename_i p' hcaller
    cases h
    exact hcaller
  · cases h

/-- The phase of the thread's own timer. -/
theorem phase_rearmStep_self (t : Timer) :
    (s.rearmStep (some t) p).phase t = resumed (s.rearm (some t) p).2 := by
  rw [rearmStep, phase_resume, if_pos rfl]

/-- What a statement leaves alone. -/
theorem phase_frame {t : Timer} (hthread : thread ≠ some t) (hnext : p = .construct → t ≠ s.next)
    (htimer : p.timer ≠ some t) : (s.rearmStep thread p).phase t = s.phase t := by
  rw [rearmStep, phase_resume, if_neg hthread, phase_rearm]
  cases p with
  | construct => exact if_neg (hnext rfl)
  | launch v => exact if_neg fun h => htimer (by rw [h]; rfl)
  | publish v => exact if_neg fun h => htimer (by rw [h]; rfl)
  | _ => rfl

/-- A timer that waits, runs or is done is changed by its own thread only. -/
theorem TimersSound.phase_published (h : TimersSound s) (hp : s.point thread = some p) {t : Timer}
    (hthread : thread ≠ some t) (habsent : s.phase t ≠ .absent)
    (hmade : ∀ owner, s.phase t ≠ .made owner) (hlaunched : ∀ owner, s.phase t ≠ .launched owner) :
    (s.rearmStep thread p).phase t = s.phase t := by
  apply phase_frame hthread
  · rintro - rfl
    exact habsent (h.fresh _ le_rfl)
  · intro htimer
    have hown := h.own thread p t hp htimer
    cases p with
    | publish v => exact hlaunched thread hown
    | _ => exact hmade thread hown

theorem point_rearmStep_self (hp : s.point thread = some p) :
    (s.rearmStep thread p).point thread = (s.rearm thread p).2 := by
  cases thread with
  | none =>
    rw [rearmStep, resume.eq_def]
    cases (s.rearm none p).2 <;> rfl
  | some t =>
    rw [point, phase_rearmStep_self]
    cases (s.rearm (some t) p).2 <;> rfl

/-- The other threads stay where they are. -/
theorem TimersSound.point_other (h : TimersSound s) (hp : s.point thread = some p)
    {other : Option Timer} (hne : other ≠ thread) :
    (s.rearmStep thread p).point other = s.point other := by
  cases other with
  | none =>
    have hcaller : (s.rearmStep thread p).caller = s.caller := by
      cases thread with
      | none => exact absurd rfl hne
      | some t =>
        rw [rearmStep, resume.eq_def]
        cases (s.rearm (some t) p).2 <;> exact caller_rearm s (some t) p
    rw [point, hcaller]
    rfl
  | some u =>
    rw [point, rearmStep, phase_resume, if_neg (Ne.symm hne), phase_rearm, point]
    cases p with
    | construct =>
      dsimp only
      split_ifs with hu
      · rw [hu, h.fresh _ le_rfl]
      · rfl
    | launch v =>
      dsimp only
      split_ifs with hu
      · rw [hu, h.own _ _ _ hp rfl]
        rfl
      · rfl
    | publish v =>
      dsimp only
      split_ifs with hu
      · rw [hu, h.own _ _ _ hp rfl]
        rfl
      · rfl
    | _ => rfl

theorem TimersSound.fresh_rearmStep (h : TimersSound s) (hp : s.point thread = some p) (t : Timer)
    (ht : (s.rearmStep thread p).next ≤ t) : (s.rearmStep thread p).phase t = .absent := by
  rw [next_rearmStep] at ht
  have hle : s.next ≤ t := by
    split_ifs at ht
    · exact Nat.le_of_succ_le ht
    · exact ht
  have habsent := h.fresh t hle
  rw [phase_frame, habsent]
  · rintro rfl
    rw [phase_of_point hp] at habsent
    cases habsent
  · rintro rfl rfl
    simp at ht
  · intro htimer
    have hown := h.own thread p t hp htimer
    rw [habsent] at hown
    cases p <;> cases hown

theorem TimersSound.own_rearmStep (h : TimersSound s) (hp : s.point thread = some p)
    (other : Option Timer) (p' : Rearm) (v : Timer) (hp' : (s.rearmStep thread p).point other = some p')
    (hv : p'.timer = some v) : (s.rearmStep thread p).phase v = p'.made other := by
  by_cases hother : other = thread
  · subst hother
    rw [point_rearmStep_self hp] at hp'
    have hself : ∀ w q, s.phase w = .made q ∨ s.phase w = .absent → other ≠ some w := by
      rintro w q hphase rfl
      rw [phase_of_point hp] at hphase
      rcases hphase with hphase | hphase <;> cases hphase
    cases p with
    | read =>
      cases hp'
      cases hv
    | guard existing =>
      cases existing with
      | none =>
        cases hp'
        cases hv
      | some u =>
        rw [rearm] at hp'
        split_ifs at hp'
        cases hp'
        cases hv
    | check =>
      rw [rearm] at hp'
      split_ifs at hp'
      cases hp'
      cases hv
    | construct =>
      cases hp'
      cases hv
      rw [rearmStep, phase_resume, if_neg (hself _ none (.inr (h.fresh _ le_rfl))), phase_rearm]
      exact if_pos rfl
    | daemonize w =>
      cases hp'
      cases hv
      have hown := h.own other (.daemonize v) v hp rfl
      rw [rearmStep, phase_resume, if_neg (hself _ other (.inl hown)), phase_rearm]
      exact hown
    | launch w =>
      cases hp'
      cases hv
      have hown := h.own other (.launch v) v hp rfl
      rw [rearmStep, phase_resume, if_neg (hself _ other (.inl hown)), phase_rearm]
      exact if_pos rfl
    | publish w => cases hp'
  · rw [h.point_other hp hother] at hp'
    have hown := h.own other p' v hp' hv
    have hthread : thread ≠ some v := by
      rintro rfl
      rw [phase_of_point hp] at hown
      cases p' <;> cases hown
    rw [phase_frame hthread, hown]
    · rintro - rfl
      rw [h.fresh _ le_rfl] at hown
      cases p' <;> cases hown
    · intro htimer
      have hmine := h.own thread p v hp htimer
      rw [hown] at hmine
      cases p <;> cases p' <;> cases hmine <;> exact hother rfl

theorem TimersSound.silent_rearmStep (h : TimersSound s) (hp : s.point thread = some p)
    (hstarted : s.started = false) (t : Timer) : ¬ (s.rearmStep thread p).Rearming t := by
  rintro ⟨point, hphase, hcommitted⟩
  have hpoint := point_of_phase hphase
  by_cases hthread : some t = thread
  · -- its own statement: only the look at `started` leads to the committed ones
    subst hthread
    rw [point_rearmStep_self hp] at hpoint
    have hbefore : p.isCommitted = false := by
      cases hcommit : p.isCommitted with
      | false => rfl
      | true => exact absurd ⟨p, phase_of_point hp, hcommit⟩ (h.silent hstarted t)
    cases p with
    | read =>
      cases hpoint
      cases hcommitted
    | guard existing =>
      cases existing with
      | none =>
        cases hpoint
        cases hcommitted
      | some u =>
        rw [rearm] at hpoint
        split_ifs at hpoint
        cases hpoint
        cases hcommitted
    | check =>
      rw [rearm, hstarted] at hpoint
      cases hpoint
    | _ => cases hbefore
  · rw [h.point_other hp hthread] at hpoint
    exact h.silent hstarted t ⟨point, phase_of_point hpoint, hcommitted⟩

theorem TimersSound.track_rearmStep (h : TimersSound s) (hp : s.point thread = some p)
    (hstarted : s.started = true) (t : Timer) (ht : (s.rearmStep thread p).cleanupTimer = some t) :
    OnTrack (s.rearmStep thread p) t := by
  rw [cleanupTimer_rearmStep] at ht
  by_cases hpublish : ∃ v, p = .publish v
  · obtain ⟨v, rfl⟩ := hpublish
    cases ht
    have hown := h.own thread _ t hp rfl
    have hthread : thread ≠ some t := by
      rintro rfl
      rw [phase_of_point hp] at hown
      cases hown
    left
    rw [rearmStep, phase_resume, if_neg hthread, phase_rearm]
    exact if_pos rfl
  · have hslot : s.cleanupTimer = some t := by
      cases p with
      | publish v => exact absurd ⟨v, rfl⟩ hpublish
      | _ => exact ht
    have htrack := h.track hstarted t hslot
    by_cases hthread : thread = some t
    · -- the pass of the timer in the slot: what it read is itself
      subst hthread
      have hphase := phase_of_point hp
      have hself : ∀ existing, p = .guard existing → existing = some t := by
        rintro existing rfl
        rcases htrack with hwaiting | ⟨point, hrunning, hexisting⟩
        · rw [hphase] at hwaiting
          cases hwaiting
        · rw [hphase] at hrunning
          cases hrunning
          exact hexisting existing rfl
      right
      rw [phase_rearmStep_self]
      cases p with
      | read =>
        refine ⟨_, rfl, fun existing heq => ?_⟩
        cases heq
        exact hslot
      | guard existing =>
        cases hself existing rfl
        refine ⟨.rearm .check, ?_, fun existing heq => by cases heq⟩
        simp [rearm, resumed]
      | check =>
        refine ⟨.rearm .construct, ?_, fun existing heq => by cases heq⟩
        simp [rearm, resumed, hstarted]
      | construct => exact ⟨_, rfl, fun existing heq => by cases heq⟩
      | daemonize v => exact ⟨_, rfl, fun existing heq => by cases heq⟩
      | launch v => exact ⟨_, rfl, fun existing heq => by cases heq⟩
      | publish v => exact absurd ⟨v, rfl⟩ hpublish
    · have hphase : (s.rearmStep thread p).phase t = s.phase t := by
        apply h.phase_published hp hthread
        all_goals
          rcases htrack with hwaiting | ⟨point, hrunning, -⟩
          · simp [hwaiting]
          · simp [hrunning]
      rw [OnTrack, hphase]
      exact htrack

theorem TimersSound.doomed_rearmStep (h : TimersSound s) (hp : s.point thread = some p)
    (hfinds : ∀ t existing, thread = some t → s.surplus t = true → p = .guard existing →
      ∃ u, existing = some u ∧ (s.phase u).isAlive = true) (t : Timer)
    (ht : (s.rearmStep thread p).surplus t = true) :
    (s.rearmStep thread p).cleanupTimer ≠ some t ∧ Doomed t ((s.rearmStep thread p).phase t) := by
  rw [surplus_rearmStep] at ht
  obtain ⟨hslot, hdoomed⟩ := h.doomed t ht
  constructor
  · rw [cleanupTimer_rearmStep]
    cases p with
    | publish v =>
      rintro heq
      cases heq
      rw [h.own thread _ t hp rfl] at hdoomed
      cases hdoomed
    | _ => exact hslot
  · by_cases hthread : thread = some t
    · subst hthread
      rw [phase_rearmStep_self]
      rw [phase_of_point hp] at hdoomed
      cases hdoomed with
      | read => exact .guard hslot
      | guard hne =>
        rename_i existing
        obtain ⟨u, rfl, halive⟩ := hfinds t existing rfl ht rfl
        have hreturns : (s.phase u).isAlive = true ∧ some t ≠ some u := ⟨halive, Ne.symm hne⟩
        rw [rearm, if_pos hreturns]
        exact .leaving
    · obtain ⟨habsent, hmade, hlaunched⟩ := hdoomed.published
      rw [h.phase_published hp hthread habsent hmade hlaunched]
      exact hdoomed

/-- A pass that publishes a timer leaves the caller where it may be. -/
theorem CallerSound.publish {s' : TimerState} (h : CallerSound s) (hcaller : s'.caller = s.caller)
    (hstarted : s.started = true) (hstarted' : s'.started = true) (hslot : s'.cleanupTimer.isSome = true) :
    CallerSound s' := by
  unfold CallerSound at h ⊢
  rw [hcaller]
  split at h
  · rw [hstarted', hslot]
  · rw [hstarted', hslot]
  · rw [hstarted', hslot]
  · rw [hstarted] at h
    cases h.1
  · exact ⟨hstarted', hslot⟩
  · exact hstarted'
  · exact ⟨hstarted', hslot⟩
  all_goals
    rw [hstarted] at h
    cases h

theorem CallerSound.congr {s' : TimerState} (h : CallerSound s) (hcaller : s'.caller = s.caller)
    (hstarted : s'.started = s.started) (hslot : s'.cleanupTimer = s.cleanupTimer) : CallerSound s' := by
  unfold CallerSound at h ⊢
  rw [hcaller, hstarted, hslot]
  exact h

theorem TimersSound.caller_rearmStep (h : TimersSound s) (hp : s.point thread = some p) :
    CallerSound (s.rearmStep thread p) := by
  cases thread with
  | some t =>
    have hcaller : (s.rearmStep (some t) p).caller = s.caller := by
      rw [rearmStep, resume.eq_def]
      cases (s.rearm (some t) p).2 <;> exact caller_rearm s (some t) p
    cases p with
    | publish v =>
      have hstarted : s.started = true := by
        by_contra hstopped
        exact h.silent (by simpa using hstopped) t ⟨.publish v, phase_of_point hp, rfl⟩
      exact h.caller.publish hcaller hstarted (by rw [started_rearmStep, hstarted])
        (by rw [cleanupTimer_rearmStep]; rfl)
    | _ => exact h.caller.congr hcaller started_rearmStep (by rw [cleanupTimer_rearmStep])
  | none =>
    have hcaller := h.caller
    rw [CallerSound, caller_of_point hp] at hcaller
    cases p with
    | read =>
      cases hslot : s.cleanupTimer with
      | none => simpa [CallerSound, rearmStep, rearm, resume, hslot] using hcaller
      | some u => simpa [CallerSound, rearmStep, rearm, resume, hslot] using hcaller
    | guard existing =>
      cases existing with
      | none => exact hcaller
      | some u =>
        rw [rearmStep, rearm]
        split_ifs
        · show s.started = s.cleanupTimer.isSome
          rw [hcaller.1, hcaller.2]
        · exact hcaller.1
    | check =>
      have hstarted : s.started = true := hcaller
      rw [rearmStep, rearm, if_pos hstarted]
      exact hstarted
    | construct => exact hcaller
    | daemonize v => exact hcaller
    | launch v => exact hcaller
    | publish v => exact hcaller

/-- One statement of `_start_cleanup_timer` keeps the chain sound. -/
theorem TimersSound.rearmStep (h : TimersSound s) (hp : s.point thread = some p)
    (hfinds : ∀ t existing, thread = some t → s.surplus t = true → p = .guard existing →
      ∃ u, existing = some u ∧ (s.phase u).isAlive = true) : TimersSound (s.rearmStep thread p) where
  fresh := h.fresh_rearmStep hp
  own := h.own_rearmStep hp
  caller := h.caller_rearmStep hp
  silent := fun hstarted => h.silent_rearmStep hp (by rwa [started_rearmStep] at hstarted)
  track := fun hstarted => h.track_rearmStep hp (by rwa [started_rearmStep] at hstarted)
  doomed := h.doomed_rearmStep hp hfinds

end Statements

section Moves

variable {s : TimerState}

/-- A timer that waits, runs or leaves goes on to a phase in which it makes no other timer. -/
theorem TimersSound.move (h : TimersSound s) {t : Timer} {phase : Phase}
    (hfrom : s.phase t ≠ .absent ∧ (∀ owner, s.phase t ≠ .made owner) ∧
      ∀ owner, s.phase t ≠ .launched owner)
    (hpoint : ∀ p, phase ≠ .running (.rearm p) ∨ p = .read)
    (htrack : s.started = true → OnTrack s t → s.cleanupTimer = some t → OnTrack (s.setPhase t phase) t)
    (hdoomed : Doomed t (s.phase t) → Doomed t phase) : TimersSound (s.setPhase t phase) := by
  have hself : (s.setPhase t phase).phase t = phase := Function.update_self ..
  have hother : ∀ u, u ≠ t → (s.setPhase t phase).phase u = s.phase u := fun u hu =>
    Function.update_of_ne hu ..
  have hread : ∀ p, phase = .running (.rearm p) → p = .read := fun p hphase =>
    (hpoint p).resolve_left (not_not_intro hphase)
  refine {
    fresh := fun u hu => ?_
    own := fun thread p v hp hv => ?_
    caller := h.caller
    silent := fun hstarted u => ?_
    track := fun hstarted u hu => ?_
    doomed := fun u hu => ?_ }
  · have hne : u ≠ t := by
      rintro rfl
      exact hfrom.1 (h.fresh u hu)
    rw [hother u hne]
    exact h.fresh u hu
  · have hp' : s.point thread = some p := by
      cases thread with
      | none => exact hp
      | some u =>
        by_cases hu : u = t
        · subst hu
          have hphase := phase_of_point hp
          rw [hself] at hphase
          cases hread p hphase
          cases hv
        · have hphase := phase_of_point hp
          rw [hother u hu] at hphase
          exact point_of_phase hphase
    have hown := h.own thread p v hp' hv
    have hne : v ≠ t := by
      rintro rfl
      cases p with
      | publish w => exact hfrom.2.2 thread hown
      | _ => exact hfrom.2.1 thread hown
    rw [hother v hne]
    exact hown
  · rintro ⟨point, hphase, hcommitted⟩
    by_cases hu : u = t
    · subst hu
      rw [hself] at hphase
      cases hread point hphase
      cases hcommitted
    · rw [hother u hu] at hphase
      exact h.silent hstarted u ⟨point, hphase, hcommitted⟩
  · by_cases hut : u = t
    · subst hut
      exact htrack hstarted (h.track hstarted u hu) hu
    · have hsame := h.track hstarted u hu
      rw [OnTrack, hother u hut]
      exact hsame
  · obtain ⟨hslot, hdoom⟩ := h.doomed u hu
    by_cases hut : u = t
    · subst hut
      rw [hself]
      exact ⟨hslot, hdoomed hdoom⟩
    · rw [hother u hut]
      exact ⟨hslot, hdoom⟩

theorem TimersSound.fire (h : TimersSound s) (t : Timer) :
    TimersSound (if s.phase t = .waiting then s.setPhase t (.running .body) else s) := by
  split_ifs with hwaiting
  · apply h.move
    · simp [hwaiting]
    · simp
    · intro _ _ _
      exact .inr ⟨.body, Function.update_self .., fun existing heq => by cases heq⟩
    · exact fun _ => .body
  · exact h

theorem TimersSound.exit (h : TimersSound s) (t : Timer) :
    TimersSound (if s.phase t = .leaving then s.setPhase t .ended else s) := by
  split_ifs with hleaving
  · apply h.move
    · simp [hleaving]
    · simp
    · rintro _ (hwaiting | ⟨point, hrunning, -⟩) _
      · rw [hleaving] at hwaiting
        cases hwaiting
      · rw [hleaving] at hrunning
        cases hrunning
    · exact fun _ => .ended
  · exact h

theorem TimersSound.pass (h : TimersSound s) (t : Timer)
    (hfinds : ∀ existing, s.surplus t = true → s.phase t = .running (.rearm (.guard existing)) →
      ∃ u, existing = some u ∧ (s.phase u).isAlive = true) : TimersSound (s.pass t) := by
  rw [TimerState.pass]
  split
  · rename_i hbody
    apply h.move
    · simp [hbody]
    · simp
    · intro _ _ _
      exact .inr ⟨.finallyCheck, Function.update_self .., fun existing heq => by cases heq⟩
    · exact fun _ => .finallyCheck
  · rename_i hfinally
    cases hstarted : s.started with
    | true =>
      apply h.move
      · simp [hfinally]
      · intro p
        simp only [if_true, ne_eq, Phase.running.injEq, PassPoint.rearm.injEq]
        exact (em (p = .read)).symm.imp_left Ne.symm
      · intro _ _ _
        exact .inr ⟨.rearm .read, Function.update_self .., fun existing heq => by cases heq⟩
      · exact fun _ => .read
    | false =>
      apply h.move
      · simp [hfinally]
      · simp
      · intro hcontra _ _
        rw [hstarted] at hcontra
        cases hcontra
      · exact fun _ => .leaving
  · rename_i p hrunning
    have hstep : TimersSound (s.rearmStep (some t) p) := by
      apply h.rearmStep (point_of_phase hrunning)
      rintro u existing heq hsurplus rfl
      cases heq
      exact hfinds existing hsurplus hrunning
    rw [TimerState.rearmStep, resume.eq_def] at hstep
    cases hresult : s.rearm (some t) p with
    | mk s' next =>
      rw [hresult] at hstep
      cases next <;> exact hstep
  · exact h

/-- A step of the caller outside `_start_cleanup_timer` changes no timer. -/
theorem TimersSound.call (h : TimersSound s) {s' : TimerState} (hphase : s'.phase = s.phase)
    (hnext : s'.next = s.next) (hsurplus : s'.surplus = s.surplus) (hcaller : CallerSound s')
    (hpoint : ∀ p, s'.point none = some p → p.timer = none)
    (hslot : s'.cleanupTimer = s.cleanupTimer ∨ s'.cleanupTimer = none)
    (hsilent : s'.started = false → ∀ t, ¬ s.Rearming t)
    (htrack : s'.started = true → s.started = true ∨ s'.cleanupTimer = none) : TimersSound s' where
  fresh := by
    rw [hphase, hnext]
    exact h.fresh
  own := by
    rintro (_ | t) p v hp hv
    · rw [hpoint p hp] at hv
      cases hv
    · rw [point, hphase] at hp
      rw [hphase]
      exact h.own (some t) p v hp hv
  caller := hcaller
  silent := by
    intro hstarted t
    rw [Rearming, hphase]
    exact hsilent hstarted t
  track := by
    intro hstarted t ht
    rw [OnTrack, hphase]
    rcases htrack hstarted with hbefore | hnone
    · rcases hslot with hsame | hnone
      · exact h.track hbefore t (hsame ▸ ht)
      · rw [hnone] at ht
        cases ht
    · rw [hnone] at ht
      cases ht
  doomed := by
    intro t ht
    rw [hsurplus] at ht
    obtain ⟨hne, hdoom⟩ := h.doomed t ht
    rw [hphase]
    refine ⟨?_, hdoom⟩
    rcases hslot with hsame | hnone
    · rwa [hsame]
    · simp [hnone]

/-- `cancel` only while the handler is stopped. -/
theorem TimersSound.cancel (h : TimersSound s) (hstarted : s.started = false) :
    TimersSound s.cancel ∧ s.cancel.caller = s.caller ∧ s.cancel.started = s.started := by
  rw [TimerState.cancel]
  split
  · exact ⟨h, rfl, rfl⟩
  · rename_i t _
    split_ifs with hwaiting
    · refine ⟨?_, rfl, rfl⟩
      apply h.move
      · simp [hwaiting]
      · simp
      · intro hcontra _ _
        rw [hstarted] at hcontra
        cases hcontra
      · exact fun _ => .leaving
    · exact ⟨h, rfl, rfl⟩

theorem TimersSound.callerStep (h : TimersSound s)
    (hstop : s.caller = .stopSet → ∀ t, ¬ s.Rearming t) : TimersSound s.callerStep := by
  have hsound := h.caller
  rw [TimerState.callerStep]
  cases hcaller : s.caller with
  | idle => exact h
  | startCheck =>
    dsimp only
    rw [CallerSound, hcaller] at hsound
    apply h.call
    iterate 3 rfl
    · cases hstarted : s.started with
      | true =>
        rw [hstarted] at hsound
        simpa [CallerSound, hstarted] using hsound
      | false =>
        rw [hstarted] at hsound
        refine ⟨rfl, ?_⟩
        exact Option.isNone_iff_eq_none.mp (by simpa using hsound.symm)
    · intro p hp
      cases hstarted : s.started <;> simp [point, hstarted] at hp
    · exact .inl rfl
    · exact h.silent
    · exact fun hstarted => .inl hstarted
  | startSet =>
    dsimp only
    rw [CallerSound, hcaller] at hsound
    apply h.call
    iterate 3 rfl
    · exact rfl
    · intro p hp
      cases hp
      rfl
    · exact .inl rfl
    · intro hcontra
      cases hcontra
    · exact fun _ => .inr hsound.2
  | startRearm p =>
    have hp : s.point none = some p := by rw [point, hcaller]
    have hstep := h.rearmStep hp (by rintro t existing hcontra; cases hcontra)
    rw [TimerState.rearmStep, resume.eq_def] at hstep
    dsimp only
    cases hresult : s.rearm none p with
    | mk s' next =>
      rw [hresult] at hstep
      cases next <;> exact hstep
  | stopCheck =>
    dsimp only
    rw [CallerSound, hcaller] at hsound
    apply h.call
    iterate 3 rfl
    · cases hstarted : s.started with
      | true =>
        rw [hstarted] at hsound
        exact ⟨rfl, hsound.symm⟩
      | false =>
        rw [hstarted] at hsound
        simpa [CallerSound, hstarted] using hsound
    · intro p hp
      cases hstarted : s.started <;> simp [point, hstarted] at hp
    · exact .inl rfl
    · exact h.silent
    · exact fun hstarted => .inl hstarted
  | stopSet =>
    dsimp only
    apply h.call
    iterate 3 rfl
    · exact rfl
    · intro p hp
      cases hp
    · exact .inl rfl
    · exact fun _ => hstop hcaller
    · intro hcontra
      cases hcontra
  | stopTest =>
    dsimp only
    have hstopped : s.started = false := by
      rw [CallerSound, hcaller] at hsound
      exact hsound
    apply h.call
    iterate 3 rfl
    · cases hslot : s.cleanupTimer with
      | none => simp [CallerSound, hstopped]
      | some t => exact hstopped
    · intro p hp
      cases hslot : s.cleanupTimer <;> simp [point, hslot] at hp
    · exact .inl rfl
    · exact h.silent
    · exact fun hstarted => .inl hstarted
  | stopCancel =>
    dsimp only
    have hstopped : s.started = false := by
      rw [CallerSound, hcaller] at hsound
      exact hsound
    obtain ⟨hcancel, -, hsame⟩ := h.cancel hstopped
    apply hcancel.call
    iterate 3 rfl
    · exact hsame.trans hstopped
    · intro p hp
      cases hp
    · exact .inl rfl
    · exact hcancel.silent
    · exact fun hstarted => .inl hstarted
  | stopClear =>
    dsimp only
    have hstopped : s.started = false := by
      rw [CallerSound, hcaller] at hsound
      exact hsound
    apply h.call
    iterate 3 rfl
    · exact hstopped
    · intro p hp
      cases hp
    · exact .inr rfl
    · exact h.silent
    · exact fun _ => .inr rfl

/-- The record of the surplus timers: none of them is in the slot. -/
theorem TimersSound.mark (h : TimersSound s) : TimersSound s.mark where
  fresh := h.fresh
  own := h.own
  caller := h.caller
  silent := h.silent
  track := h.track
  doomed := by
    intro t ht
    rcases Bool.or_eq_true_iff.mp ht with hbefore | hnow
    · exact h.doomed t hbefore
    · obtain ⟨hwaiting, hslot⟩ := Bool.and_eq_true_iff.mp hnow
      have hphase : s.phase t = .waiting := of_decide_eq_true hwaiting
      constructor
      · intro heq
        have heq : s.cleanupTimer = some t := heq
        rw [heq] at hslot
        simp at hslot
      · show Doomed t (s.phase t)
        rw [hphase]
        exact .waiting

theorem TimersSound.step (h : TimersSound s) (a : TimerAction) (hquiet : Undisturbed s a) :
    TimersSound (timerStep s a).2 := by
  apply TimersSound.mark
  cases a with
  | callStart =>
    rw [act]
    split_ifs with hidle
    · have hsound := h.caller
      rw [CallerSound, hidle] at hsound
      apply h.call
      iterate 3 rfl
      · exact hsound
      · intro p hp
        cases hp
      · exact .inl rfl
      · exact h.silent
      · exact fun hstarted => .inl hstarted
    · exact h
  | callStop =>
    rw [act]
    split_ifs with hidle
    · have hsound := h.caller
      rw [CallerSound, hidle] at hsound
      apply h.call
      iterate 3 rfl
      · exact hsound
      · intro p hp
        cases hp
      · exact .inl rfl
      · exact h.silent
      · exact fun hstarted => .inl hstarted
    · exact h
  | caller => exact h.callerStep hquiet
  | fire t => exact h.fire t
  | pass t => exact h.pass t hquiet
  | exit t => exact h.exit t

end Moves

theorem timersSound_notStarted : TimersSound notStarted where
  fresh := fun _ _ => rfl
  own := by
    rintro (_ | t) p v hp
    · cases hp
    · cases hp
  caller := rfl
  silent := by
    rintro - t ⟨point, hphase, -⟩
    cases hphase
  track := by
    intro hcontra
    cases hcontra
  doomed := by
    intro t hcontra
    cases hcontra

/-! ### Re-arming -/

section WillRearm

variable {s : TimerState} {t : Timer}

/-- The next statement of the pass brings it closer. -/
theorem TimerState.WillRearm.next (h : (s.pass t).WillRearm t) : s.WillRearm t := by
  obtain ⟨n, u, hphase⟩ := h
  exact ⟨n + 1, u, hphase⟩

theorem pass_eq_rearmStep {p : Rearm} (hp : s.phase t = .running (.rearm p)) :
    s.pass t = s.rearmStep (some t) p := by
  rw [TimerState.pass, hp, TimerState.rearmStep, resume.eq_def]
  dsimp only
  cases s.rearm (some t) p with
  | mk s' next => cases next <;> rfl

/-- A statement that does not return brings its successor closer. -/
theorem willRearm_of_next {p p' : Rearm} (hp : s.phase t = .running (.rearm p))
    (hnext : (s.rearm (some t) p).2 = some p') (hstarted : s.started = true)
    (h : ∀ s : TimerState, s.started = true → s.phase t = .running (.rearm p') → s.WillRearm t) :
    s.WillRearm t := by
  apply TimerState.WillRearm.next
  rw [pass_eq_rearmStep hp]
  apply h
  · rw [started_rearmStep, hstarted]
  · rw [phase_rearmStep_self, hnext]
    rfl

theorem willRearm_of_launch {v : Timer} (s : TimerState) (hstarted : s.started = true)
    (hp : s.phase t = .running (.rearm (.launch v))) : s.WillRearm t :=
  willRearm_of_next hp rfl hstarted fun _ _ hp => ⟨0, v, hp⟩

theorem willRearm_of_daemonize {v : Timer} (s : TimerState) (hstarted : s.started = true)
    (hp : s.phase t = .running (.rearm (.daemonize v))) : s.WillRearm t :=
  willRearm_of_next hp rfl hstarted willRearm_of_launch

theorem willRearm_of_construct (s : TimerState) (hstarted : s.started = true)
    (hp : s.phase t = .running (.rearm .construct)) : s.WillRearm t :=
  willRearm_of_next hp rfl hstarted willRearm_of_daemonize

theorem willRearm_of_check (s : TimerState) (hstarted : s.started = true)
    (hp : s.phase t = .running (.rearm .check)) : s.WillRearm t :=
  willRearm_of_next hp (by rw [rearm, if_pos hstarted]) hstarted willRearm_of_construct

theorem willRearm_of_guard (s : TimerState) (hstarted : s.started = true)
    (hp : s.phase t = .running (.rearm (.guard (some t)))) : s.WillRearm t :=
  willRearm_of_next hp (by simp [rearm]) hstarted willRearm_of_check

/-- The pass of a timer that has read itself, or has yet to read the slot that has it. -/
theorem willRearm_of_running (hstarted : s.started = true) {point : PassPoint}
    (hp : s.phase t = .running point)
    (hself : ∀ existing, point = .rearm (.guard existing) → existing = some t)
    (hslot : s.cleanupTimer = some t) : s.WillRearm t := by
  have hread : ∀ s : TimerState, s.started = true → s.cleanupTimer = some t →
      s.phase t = .running (.rearm .read) → s.WillRearm t := by
    intro s hstarted hslot hp
    exact willRearm_of_next hp (by rw [rearm, hslot]) hstarted willRearm_of_guard
  have hfinally : ∀ s : TimerState, s.started = true → s.cleanupTimer = some t →
      s.phase t = .running .finallyCheck → s.WillRearm t := by
    intro s hstarted hslot hp
    apply TimerState.WillRearm.next
    rw [TimerState.pass, hp]
    dsimp only
    rw [if_pos hstarted]
    exact hread (s.setPhase t _) hstarted hslot (Function.update_self ..)
  cases point with
  | body =>
    apply TimerState.WillRearm.next
    rw [TimerState.pass, hp]
    dsimp only
    exact hfinally _ hstarted hslot (Function.update_self ..)
  | finallyCheck => exact hfinally s hstarted hslot hp
  | rearm p =>
    cases p with
    | read => exact hread s hstarted hslot hp
    | guard existing =>
      cases hself existing rfl
      exact willRearm_of_guard s hstarted hp
    | check => exact willRearm_of_check s hstarted hp
    | construct => exact willRearm_of_construct s hstarted hp
    | daemonize v => exact willRearm_of_daemonize s hstarted hp
    | launch v => exact willRearm_of_launch s hstarted hp
    | publish v => exact ⟨0, v, hp⟩

end WillRearm

theorem TimersSound.chainSound {s : TimerState} (h : TimersSound s) : s.ChainSound where
  continues := by
    intro hstarted hidle
    have hcaller := h.caller
    rw [CallerSound, hidle] at hcaller
    obtain ⟨t, hslot⟩ := Option.isSome_iff_exists.mp (hcaller.symm.trans hstarted)
    rcases h.track hstarted t hslot with hwaiting | ⟨point, hp, hself⟩
    · exact ⟨t, .inl hwaiting⟩
    · exact ⟨t, .inr (willRearm_of_running hstarted hp hself hslot)⟩
  dies := fun t ht => (h.doomed t ht).2.not_rearming
  silent := h.silent

/-- In every state of a run that is undisturbed the timer chain goes on, a surplus timer has no
successor, and a stopped handler re-arms nothing. -/
theorem chain_sound (actions : List TimerAction)
    (h : Along timerStep Undisturbed notStarted actions) (before : List TimerAction)
    (hbefore : before <+: actions) : (final timerStep notStarted before).ChainSound := by
  obtain ⟨rest, rfl⟩ := hbefore
  exact (@invariant_along _ _ _ timerStep TimersSound Undisturbed
    (fun s a hs hquiet => hs.step a hquiet) notStarted timersSound_notStarted before rest h).chainSound

section Samples

/-- `start`, and the pass of its timer 0 up to the last look at `started`. -/
def firstRearm : List TimerAction :=
  .callStart :: List.replicate 9 .caller ++ .fire 0 :: List.replicate 5 (.pass 0)

/-- The pass goes on to publish timer 1 after `stop` has returned. -/
def stopDuringRearm : List TimerAction :=
  firstRearm ++ .callStop :: List.replicate 5 .caller

theorem not_chain_sound_stop :
    ¬ ∀ actions before : List TimerAction, before <+: actions →
      (final timerStep notStarted before).ChainSound := by
  intro h
  have hstopped : (final timerStep notStarted stopDuringRearm).started = false := by decide +kernel
  have hrearming : (final timerStep notStarted stopDuringRearm).Rearming 0 :=
    ⟨.construct, by decide +kernel, rfl⟩
  exact (h _ _ (List.prefix_refl stopDuringRearm)).silent hstopped 0 hrearming

/-- The step is no `stop` and no pass of a surplus timer. -/
def isPlain (s : TimerState) : TimerAction → Bool
  | .caller => decide (s.caller ≠ .stopSet)
  | .pass t => !s.surplus t
  | _ => true

theorem undisturbed_of_isPlain {s : TimerState} {a : TimerAction} (h : isPlain s a = true) :
    Undisturbed s a := by
  cases a with
  | caller => exact fun hstop => absurd hstop (of_decide_eq_true h)
  | pass t =>
    intro existing hsurplus
    have hnot : (!s.surplus t) = true := h
    rw [hsurplus] at hnot
    cases hnot
  | _ => exact trivial

theorem chain_sound_sample : (final timerStep notStarted firstRearm).ChainSound := by
  refine chain_sound firstRearm ?_ firstRearm (List.prefix_refl _)
  have hplain : Along timerStep (fun s a => isPlain s a = true) notStarted firstRearm := by
    decide +kernel
  rw [along_iff] at hplain ⊢
  exact fun before a after hsplit => undisturbed_of_isPlain (hplain before a after hsplit)

end Samples

end Fmofp.FlightControl
