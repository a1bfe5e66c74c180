import Fmofp.Operations.Tracker

/-! Tracked operations are performed exactly once, whatever the order of the steps: a key has one claim
at a time, and between its success and the next clear nobody claims it. -/

namespace Fmofp.Operations

open Python Machine

/-- The claims: at most one for each key, and each with its event in `_in_progress`. -/
structure Claims (s : State) : Prop where
  unique : ∀ c d k, (s.phase c).owned = some k → (s.phase d).owned = some k → c = d
  inProgress : ∀ c k, (s.phase c).owned = some k → Dict.has s.inProgress k = true

/-- A step that makes no new claim and keeps the events of the claims that are left. -/
theorem Claims.mono {s s' : State} (h : Claims s)
    (howned : ∀ c k, (s'.phase c).owned = some k → (s.phase c).owned = some k)
    (hevent : ∀ c k, (s'.phase c).owned = some k → Dict.has s.inProgress k = true →
      Dict.has s'.inProgress k = true) : Claims s' :=
  ⟨fun c d k hc hd => h.unique c d k (howned c k hc) (howned d k hd),
    fun c k hc => hevent c k hc (h.inProgress c k (howned c k hc))⟩

theorem owned_setPhase {s : State} {c d : ℕ} {p : Phase} {k : String}
    (hp : p.owned = some k → (s.phase c).owned = some k)
    (h : ((s.setPhase c p).phase d).owned = some k) : (s.phase d).owned = some k := by
  rw [setPhase_phase] at h
  split_ifs at h with hd
  · subst hd
    exact hp h
  · exact h

theorem claims_step {s : State} (h : Claims s) (a : Action) : Claims (step s a).2 := by
  have hmoves := step_moves s a
  generalize (step s a).1 = answer, (step s a).2 = s' at hmoves ⊢
  cases hmoves with
  | stay | mark | clear => exact ⟨h.unique, h.inProgress⟩
  | call hc | skip hc | await hc | wake hc | leave hc =>
    exact h.mono (fun d k => owned_setPhase (by simp [Phase.owned])) fun d k _ hin => hin
  | succeed hc | fail hc =>
    exact h.mono (fun d k => owned_setPhase (by simp [hc, Phase.owned])) fun d k _ hin => hin
  | record hc =>
    exact h.mono (fun d k => owned_setPhase (by simp [hc, Phase.owned])) fun d k _ hin => hin
  | notify hc =>
    exact h.mono (fun d k => owned_setPhase (by simp [Phase.owned])) fun d k _ hin => hin
  | @claim c k hc hdone hnone =>
    have hfree : ∀ d, (s.phase d).owned ≠ some k := by
      intro d hd
      have hin := h.inProgress d k hd
      rw [Dict.has, hnone] at hin
      cases hin
    have howned : ∀ d j, ((s.setPhase c (.performing k)).phase d).owned = some j →
        (d = c ∧ j = k) ∨ (d ≠ c ∧ (s.phase d).owned = some j) := by
      intro d j hd
      rw [setPhase_phase] at hd
      split_ifs at hd with hcase
      · exact .inl ⟨hcase, (Option.some.inj hd).symm⟩
      · exact .inr ⟨hcase, hd⟩
    constructor
    · intro d d' j hd hd'
      rcases howned d j hd with ⟨hdc, rfl⟩ | ⟨-, hold⟩
      · rcases howned d' j hd' with ⟨hdc', -⟩ | ⟨-, hold'⟩
        · rw [hdc, hdc']
        · exact absurd hold' (hfree d')
      · rcases howned d' j hd' with ⟨-, rfl⟩ | ⟨-, hold'⟩
        · exact absurd hold (hfree d)
        · exact h.unique d d' j hold hold'
    · intro d j hd
      show Dict.has (Dict.set s.inProgress k s.nextEvent) j = true
      rw [Dict.has, Dict.get?_set]
      rcases howned d j hd with ⟨-, rfl⟩ | ⟨-, hold⟩
      · simp
      · split_ifs
        · rfl
        · exact h.inProgress d j hold
  | @release c event k result hc hevent =>
    refine h.mono (fun d j => owned_setPhase (by simp [Phase.owned])) fun d j hd hin => ?_
    have hne : k ≠ j := by
      rintro rfl
      have hdc : d = c := by
        refine h.unique d c k (owned_setPhase (by simp [Phase.owned]) hd) ?_
        rw [hc, Phase.owned]
      subst hdc
      change ((s.setPhase d (.notifying event result)).phase d).owned = some k at hd
      rw [setPhase_phase, if_pos rfl] at hd
      simp [Phase.owned] at hd
    show Dict.has (Dict.erase s.inProgress k) j = true
    rw [Dict.has, Dict.get?_erase_ne _ hne]
    exact hin

theorem claims (actions : List Action) : Claims (final step start actions) := by
  refine invariant_final Claims (fun s a hs => claims_step hs a) ?_ actions
  exact ⟨fun c d k hc => absurd hc (by simp [start, Phase.owned]),
    fun c k hc => absurd hc (by simp [start, Phase.owned])⟩

/-- A callback for the key has succeeded: it is about to be recorded, or it is recorded and nobody
performs it. -/
def Settled (k : String) (s : State) : Prop :=
  (∃ c value, s.phase c = .performed k value) ∨
    (Dict.has s.completed k = true ∧ ∀ c, s.phase c ≠ .performing k)

theorem not_performing {s : State} (hs : Claims s) {k : String} (h : Settled k s) (c : ℕ) :
    s.phase c ≠ .performing k := by
  rcases h with ⟨d, value, hd⟩ | ⟨-, hnobody⟩
  · intro hc
    have hcd : c = d := hs.unique c d k (by rw [hc, Phase.owned]) (by rw [hd, Phase.owned])
    rw [← hcd, hc] at hd
    cases hd
  · exact hnobody c

theorem has_completed_step (s : State) (a : Action) (k : String) :
    Dict.has (step s a).2.completed k = true ↔
      (step s a).1 = .recorded k ∨ (Dict.has s.completed k = true ∧ a.clears k = false) := by
  have hmoves := step_moves s a
  generalize (step s a).1 = answer, (step s a).2 = s' at hmoves ⊢
  have hset : ∀ (j now : String), Dict.has (Dict.set s.completed j now) k = true ↔
      Answer.recorded j = .recorded k ∨ Dict.has s.completed k = true := by
    intro j now
    rw [Dict.has, Dict.get?_set, Answer.recorded.injEq]
    by_cases hj : j = k <;> simp [hj, Dict.has]
  cases hmoves with
  | stay h => simp [h k]
  | record => simpa [Action.clears] using hset _ _
  | mark => simpa [Action.clears] using hset _ _
  | clear => simp [has_clear, Action.clears]
  | call | skip | await | claim | wake | succeed | fail | release | leave | notify =>
    simp [Action.clears]

/-- Nobody comes to perform a key that is recorded. -/
theorem performing_step {s : State} {a : Action} {c : ℕ} {k : String}
    (h : (step s a).2.phase c = .performing k) :
    s.phase c = .performing k ∨ ((step s a).1 = .claimed k ∧ Dict.has s.completed k = false) := by
  have hmoves := step_moves s a
  generalize (step s a).1 = answer, (step s a).2 = s' at hmoves h ⊢
  have hother : ∀ {d : ℕ} {p : Phase}, p ≠ .performing k →
      (s.setPhase d p).phase c = .performing k → s.phase c = .performing k := by
    intro d p hp hset
    rw [setPhase_phase] at hset
    split_ifs at hset
    · exact absurd hset hp
    · exact hset
  cases hmoves with
  | stay | mark | clear => exact .inl h
  | call | skip | await | wake | succeed | fail | leave => exact .inl (hother (by simp) h)
  | record | release | notify => exact .inl (hother (by simp) h)
  | @claim d j hd hdone hnone =>
    change (s.setPhase d (.performing j)).phase c = .performing k at h
    rw [setPhase_phase] at h
    split_ifs at h
    · obtain rfl := Phase.performing.inj h
      exact .inr ⟨rfl, hdone⟩
    · exact .inl h

theorem performed_step {s : State} {a : Action} {c : ℕ} {k : String} {value : Value}
    (h : s.phase c = .performed k value) :
    (step s a).2.phase c = .performed k value ∨ (step s a).1 = .recorded k := by
  have hmoves := step_moves s a
  generalize (step s a).1 = answer, (step s a).2 = s' at hmoves ⊢
  have hother : ∀ {d : ℕ} (p : Phase), s.phase d ≠ .performed k value →
      (s.setPhase d p).phase c = .performed k value := by
    intro d p hd
    rw [setPhase_phase, if_neg (by rintro rfl; exact hd h)]
    exact h
  cases hmoves with
  | stay | mark | clear => exact .inl h
  | call hd | skip hd | await hd | wake hd | succeed hd | fail hd | leave hd =>
    exact .inl (hother _ (by rw [hd]; simp))
  | claim hd | release hd | notify hd => exact .inl (hother _ (by rw [hd]; simp))
  | @record d j now value' hd =>
    by_cases hdc : d = c
    · subst hdc
      rw [h] at hd
      exact .inr (by rw [(Phase.performed.inj hd).1])
    · left
      show (s.setPhase d _).phase c = _
      rw [setPhase_phase, if_neg (Ne.symm hdc)]
      exact h

theorem settled_step {s : State} (hs : Claims s) {k : String} (h : Settled k s) {a : Action}
    (hclear : a.clears k = false) : Settled k (step s a).2 := by
  have hnobody := not_performing hs h
  rcases h with ⟨c, value, hc⟩ | ⟨hdone, -⟩
  · rcases performed_step (a := a) hc with hstays | hrecorded
    · exact .inl ⟨c, value, hstays⟩
    · refine .inr ⟨(has_completed_step s a k).mpr (.inl hrecorded), fun d hd => ?_⟩
      rcases performing_step hd with hperforming | ⟨hclaimed, -⟩
      · exact hnobody d hperforming
      · rw [hrecorded] at hclaimed
        cases hclaimed
  · refine .inr ⟨(has_completed_step s a k).mpr (.inr ⟨hdone, hclear⟩), fun d hd => ?_⟩
    rcases performing_step hd with hperforming | ⟨-, hfree⟩
    · exact hnobody d hperforming
    · rw [hdone] at hfree
      cases hfree

/-- The callback that succeeds was in flight, and its key is settled. -/
theorem settled_of_succeeded {s : State} {a : Action} {k : String}
    (h : (step s a).1 = .succeeded k) :
    (∃ c, s.phase c = .performing k) ∧ Settled k (step s a).2 := by
  have hmoves := step_moves s a
  generalize (step s a).1 = answer, (step s a).2 = s' at hmoves h ⊢
  subst h
  cases hmoves with
  | @succeed c k value hc =>
    refine ⟨⟨c, hc⟩, .inl ⟨c, value, ?_⟩⟩
    rw [setPhase_phase, if_pos rfl]

/-- After a success no callback for the key succeeds before a clear. -/
theorem not_succeeded {s : State} (hs : Claims s) {k : String} (h : Settled k s)
    {actions : List Action} (hclear : ∀ a ∈ actions, a.clears k = false) (last : Action) :
    (step (final step s actions) last).1 ≠ .succeeded k := by
  induction actions generalizing s with
  | nil =>
    intro hsucceeded
    obtain ⟨⟨c, hc⟩, -⟩ := settled_of_succeeded hsucceeded
    exact not_performing hs h c hc
  | cons a actions ih =>
    rw [List.forall_mem_cons] at hclear
    exact ih (claims_step hs a) (settled_step hs h hclear.1) hclear.2

/-- In the run, an action with the property has recorded the key, and no later one has cleared it. -/
def RecordedBy (P : Action → Prop) (k : String) (actions : List Action) : Prop :=
  ∃ before a after, actions = before ++ a :: after ∧ P a ∧
    (step (final step start before) a).1 = .recorded k ∧ ∀ b ∈ after, b.clears k = false

theorem RecordedBy.append {P : Action → Prop} {k : String} {actions : List Action}
    (h : RecordedBy P k actions) {a : Action} (ha : a.clears k = false) :
    RecordedBy P k (actions ++ [a]) := by
  obtain ⟨before, b, after, rfl, hb, hrecorded, hclear⟩ := h
  refine ⟨before, b, after ++ [a], by simp, hb, hrecorded, fun c hc => ?_⟩
  rcases List.mem_append.mp hc with hc | hc
  · exact hclear c hc
  · rw [List.mem_singleton.mp hc]
    exact ha

theorem final_concat (actions : List Action) (a : Action) :
    final step start (actions ++ [a]) = (step (final step start actions) a).2 := by
  rw [final_append, final_cons, final_nil]

/-- What is in `_completed` was recorded and not cleared since. -/
theorem recordedBy_of_completed {k : String} {actions : List Action}
    (h : Dict.has (final step start actions).completed k = true) :
    RecordedBy (fun _ => True) k actions := by
  induction actions using List.reverseRecOn with
  | nil => cases h
  | append_singleton actions a ih =>
    rw [final_concat, has_completed_step] at h
    rcases h with hrecorded | ⟨hdone, hclear⟩
    · exact ⟨actions, a, [], rfl, trivial, hrecorded, by simp⟩
    · exact (ih hdone).append hclear

def IsMark (k : String) : Action → Prop
  | .mark operationName identifier _ => key operationName identifier = k
  | _ => False

/-- A callback that has not succeeded: it is in flight, or it has raised. -/
def Unsuccessful (k : String) (p : Phase) : Prop :=
  p = .performing k ∨ ∃ e, p = .releasing k (.error e)

theorem unsuccessful_step {s : State} {a : Action} {c : ℕ} {k : String}
    (h : Unsuccessful k ((step s a).2.phase c)) :
    Unsuccessful k (s.phase c) ∨ ((step s a).1 = .claimed k ∧ Dict.has s.completed k = false) := by
  rcases h with h | ⟨e, h⟩
  · exact (performing_step h).imp_left .inl
  · left
    have hmoves := step_moves s a
    generalize (step s a).1 = answer, (step s a).2 = s' at hmoves h
    have hother : ∀ {d : ℕ} {p : Phase}, p ≠ .releasing k (.error e) →
        (s.setPhase d p).phase c = .releasing k (.error e) → Unsuccessful k (s.phase c) := by
      intro d p hp hset
      rw [setPhase_phase] at hset
      split_ifs at hset
      · exact absurd hset hp
      · exact .inr ⟨e, hset⟩
    cases hmoves with
    | stay | mark | clear => exact .inr ⟨e, h⟩
    | call | skip | await | claim | wake | succeed | record | release | leave | notify =>
      exact hother (by simp) h
    | @fail d j e' hd =>
      rw [setPhase_phase] at h
      split_ifs at h with hcase
      · subst hcase
        exact .inl (by rw [hd, (Phase.releasing.inj h).1])
      · exact .inr ⟨e, h⟩

/-- A key that is recorded while a callback for it has not succeeded was marked. -/
theorem recordedBy_mark {k : String} {actions : List Action} {c : ℕ}
    (hc : Unsuccessful k ((final step start actions).phase c))
    (h : Dict.has (final step start actions).completed k = true) :
    RecordedBy (IsMark k) k actions := by
  induction actions using List.reverseRecOn with
  | nil => cases h
  | append_singleton actions a ih =>
    rw [final_concat] at h hc
    have hclaims := claims actions
    rcases (has_completed_step _ a k).mp h with hrecorded | ⟨hdone, hclear⟩
    · refine ⟨actions, a, [], rfl, ?_, hrecorded, by simp⟩
      have hbefore : Unsuccessful k ((final step start actions).phase c) := by
        rcases unsuccessful_step hc with hbefore | ⟨hclaimed, -⟩
        · exact hbefore
        · rw [hrecorded] at hclaimed
          cases hclaimed
      have hmoves := step_moves (final step start actions) a
      rw [hrecorded] at hmoves
      generalize (step (final step start actions) a).2 = s' at hmoves
      cases hmoves with
      | mark => rfl
      | @record d k now value hd =>
        have hcd : c = d := by
          refine hclaims.unique c d k ?_ (by rw [hd, Phase.owned])
          rcases hbefore with hbefore | ⟨e, hbefore⟩ <;> rw [hbefore, Phase.owned]
        subst hcd
        rcases hbefore with hbefore | ⟨e, hbefore⟩ <;> rw [hd] at hbefore <;> cases hbefore
    · rcases unsuccessful_step hc with hbefore | ⟨-, hfree⟩
      · exact (ih hbefore hdone).append hclear
      · rw [hdone] at hfree
        cases hfree

/-- When a callback has raised, the release of its claim leaves the key free, and the next caller
claims it unless it was marked. -/
theorem claimable_of_failed {k : String} {actions : List Action} {c : ℕ} {e : Exception}
    (hc : (final step start actions).phase c = .releasing k (.error e)) :
    Dict.get? (final step start (actions ++ [.release c])).inProgress k = none ∧
      ∀ d, (final step start (actions ++ [.release c])).phase d = .calling k →
        (step (final step start (actions ++ [.release c])) (.enter d)).1 = .claimed k ∨
          RecordedBy (IsMark k) k actions := by
  have hin := (claims actions).inProgress c k (by rw [hc, Phase.owned])
  obtain ⟨event, hevent⟩ := Option.isSome_iff_exists.mp hin
  have hrelease : final step start (actions ++ [.release c]) =
      { (final step start actions).setPhase c (.notifying event (.error e)) with
        inProgress := Dict.erase (final step start actions).inProgress k } := by
    rw [final_concat]
    simp only [step, State.release, hc, hevent]
  have hfree : Dict.get? (final step start (actions ++ [.release c])).inProgress k = none := by
    rw [hrelease]
    exact Dict.get?_erase_self _ k
  refine ⟨hfree, fun d hd => ?_⟩
  cases hdone : Dict.has (final step start actions).completed k with
  | true => exact .inr (recordedBy_mark (.inr ⟨e, hc⟩) hdone)
  | false =>
    left
    have hcompleted : Dict.has (final step start (actions ++ [.release c])).completed k = false := by
      rw [hrelease]
      exact hdone
    simp [step, State.enter, hd, hcompleted, hfree]

/-- In every run: no two callbacks for one key are in flight; between two successes for a key there is
a clear of it; who is skipped is skipped for a record that no clear has dropped; and a callback that
raises leaves its key to be claimed again, unless it was marked. -/
theorem exactly_once (actions : List Action) :
    (∀ c d k, (final step start actions).phase c = .performing k →
      (final step start actions).phase d = .performing k → c = d) ∧
    (∀ k before first between last after,
      actions = before ++ first :: (between ++ last :: after) →
      (step (final step start before) first).1 = .succeeded k →
      (step (final step start (before ++ first :: between)) last).1 = .succeeded k →
      ∃ a ∈ between, a.clears k = true) ∧
    (∀ k before a after, actions = before ++ a :: after →
      (step (final step start before) a).1 = .skipped k → RecordedBy (fun _ => True) k before) ∧
    (∀ k c e, (final step start actions).phase c = .releasing k (.error e) →
      Dict.get? (final step start (actions ++ [.release c])).inProgress k = none ∧
      ∀ d, (final step start (actions ++ [.release c])).phase d = .calling k →
        (step (final step start (actions ++ [.release c])) (.enter d)).1 = .claimed k ∨
          RecordedBy (IsMark k) k actions) := by
  refine ⟨fun c d k hc hd => ?_, ?_, ?_, fun k c e hc => claimable_of_failed hc⟩
  · exact (claims actions).unique c d k (by rw [hc, Phase.owned]) (by rw [hd, Phase.owned])
  · intro k before first between last after _ hfirst hlast
    by_contra! hclear
    have hsettled := (settled_of_succeeded hfirst).2
    rw [final_append, final_cons] at hlast
    exact not_succeeded (claims_step (claims before) first) hsettled
      (fun a ha => by simpa using hclear a ha) last hlast
  · intro k before a after _ hskipped
    have hmoves := step_moves (final step start before) a
    rw [hskipped] at hmoves
    generalize (step (final step start before) a).2 = s' at hmoves
    cases hmoves with
    | skip hc hdone => exact recordedBy_of_completed hdone

/-- A callback that raises, one that succeeds, a caller that is skipped, and a clear before the next
success. -/
def sampleActions : List Action :=
  [.call 0 "init" "db", .enter 0, .call 1 "init" "db", .enter 1, .finish 0 (.error .valueError),
    .release 0, .notify 0, .wake 1, .enter 1, .finish 1 (.ok .none), .record 1 "09:00", .release 1,
    .notify 1, .call 2 "init" "db", .enter 2, .clear (some "init") none, .call 2 "init" "db", .enter 2,
    .finish 2 (.ok .none)]

theorem exactly_once_sample :
    (∃ a ∈ (sampleActions.drop 10).take 8, a.clears "init::db" = true) ∧
      RecordedBy (fun _ => True) "init::db" (sampleActions.take 14) := by
  have h := exactly_once sampleActions
  exact ⟨h.2.1 "init::db" (sampleActions.take 9) (.finish 1 (.ok .none)) _ (.finish 2 (.ok .none)) []
      rfl rfl rfl,
    h.2.2.1 "init::db" _ (.enter 2) (sampleActions.drop 15) rfl rfl⟩

end Fmofp.Operations
