import Fmofp.Machine.Run
import Fmofp.Display.DataCoordinator

/-! Runs of `RadarDisplayDataCoordinator` with the history of the calls: what was stored when, what a
cleanup took out, and when the cleanups were.  Items that a cleanup took out stay away, and items of the
latest call are there for their time to live, in the runs whose cleanups judge every item by the time of
that call and whose empty lists are not filled from the backup. -/

namespace Fmofp.Display

open Machine Python

/-- What the calls so far did: for each type the latest call that stored and its items, for each id of a
type when it was stored last and whether it was taken out since, and the times of the cleanups. -/
structure History where
  latest : String → Option (ℚ × List Item)
  storedAt : String → String → Option ℚ
  expired : String → String → Bool
  cleanups : List ℚ
  clock : ℚ

structure Session where
  coordinator : Coordinator
  history : History

def Session.initial (now : ℚ) : Session where
  coordinator := .initial now
  history := ⟨fun _ => none, fun _ _ => none, fun _ _ => false, [], now⟩

/-- A call, with the clock as it reads in it. -/
inductive Call where
  | storeData (dataType requestId : String) (items : List RawItem) (check clean : ℚ)
  | getData (dataType : String) (now : ℚ)
  | cleanupExpired (now : ℚ)
  | resetData (dataType : Option String)

namespace History

variable (h : History)

def stored (dataType : String) (items : List Item) (now : ℚ) : History where
  latest := fun t => if t = dataType then some (now, items) else h.latest t
  storedAt := fun t id => if t = dataType ∧ id ∈ items.map Item.id then some now else h.storedAt t id
  expired := fun t id => if t = dataType ∧ id ∈ items.map Item.id then false else h.expired t id
  cleanups := h.cleanups
  clock := now

/-- An id is taken out of a type when fewer items there have it. -/
def cleaned (before after : Coordinator) (now : ℚ) : History :=
  { h with
    expired := fun t id => h.expired t id ||
      decide ((after.current t).countP (·.id = id) < (before.current t).countP (·.id = id))
    cleanups := now :: h.cleanups
    clock := now }

def reset (dataType : Option String) : History :=
  { h with latest := fun t => if dataType = none ∨ dataType = some t then none else h.latest t }

/-- The latest items of the type were stored their time to live ago, or before. -/
def overdue (dataType : String) (ttl now : ℚ) : Bool :=
  match h.latest dataType with
  | some latest => decide (ttl ≤ now - latest.1)
  | none => false

end History

/-- One call, and what it returns of the data. -/
def step (py : Runtime) (s : Session) : Call → List Item × Session
  | .storeData dataType requestId items check clean =>
    let coordinator := (s.coordinator.storeData py dataType requestId items check clean).2
    match acceptedItems py dataType requestId items with
    | .error _ => ([], { s with coordinator := coordinator })
    | .ok processed =>
      let kept := s.coordinator.kept dataType processed
      let stored := s.history.stored dataType processed check
      ([], ⟨coordinator, if check - kept.lastCleanup > cleanupInterval then
        stored.cleaned kept (kept.cleanupExpired clean) clean else stored⟩)
  | .getData dataType now =>
    let (data, coordinator) := s.coordinator.getData dataType true now
    (data, ⟨coordinator, { s.history with clock := now }⟩)
  | .cleanupExpired now =>
    let coordinator := s.coordinator.cleanupExpired now
    ([], ⟨coordinator, s.history.cleaned s.coordinator coordinator now⟩)
  | .resetData dataType => ([], ⟨s.coordinator.resetData dataType, s.history.reset dataType⟩)

/-- The clock does not go back. -/
def Timely (s : Session) : Call → Prop
  | .storeData _ _ _ check clean => s.history.clock ≤ check ∧ check ≤ clean
  | .getData _ now => s.history.clock ≤ now
  | .cleanupExpired now => s.history.clock ≤ now
  | .resetData _ => True

/-- A cleanup was in every period of `cleanupInterval` seconds from a time to another. -/
def Regular (cleanups : List ℚ) (start stop : ℚ) : Prop :=
  ∀ t, start ≤ t → t + cleanupInterval ≤ stop → ∃ c ∈ cleanups, t ≤ c ∧ c ≤ t + cleanupInterval

/-- What a call returns was not taken out since it was stored, has all items of the latest call in their
time to live, and nothing that is overdue by more than a period of regular cleanups. -/
structure Fresh (s : Session) (dataType : String) (now : ℚ) (data : List Item) : Prop where
  notExpired : ∀ x ∈ data, s.history.expired dataType x.id = false
  complete : ∀ t items, s.history.latest dataType = some (t, items) →
    now - t < s.coordinator.ttl dataType → ∀ x ∈ items, x ∈ data
  recent : ∀ x ∈ data, ∃ t, s.history.storedAt dataType x.id = some t ∧
    ¬(t + s.coordinator.ttl dataType + cleanupInterval < now ∧ Regular s.history.cleanups t now)

def Correct (py : Runtime) (s : Session) : Call → Prop
  | .getData dataType now => Fresh s dataType now (step py s (.getData dataType now)).1
  | _ => True

/-! ### When the stamps judge the items as the times of the calls do -/

/-- Every item, when its turn comes, is taken out or not as given. -/
def honestItems (now ttl : ℚ) (overdue : Bool) : List Item → Dict String ℚ → Bool
  | [], _ => true
  | item :: items, timestamps => (expired now ttl timestamps item.id == overdue) &&
    honestItems now ttl overdue items (restamp now ttl timestamps item.id)

def honestStores (h : History) (now : ℚ) : Dict String Store → Dict String ℚ → Bool
  | [], _ => true
  | (dataType, store) :: stores, timestamps =>
    honestItems now store.ttl (h.overdue dataType store.ttl now) store.current timestamps &&
      honestStores h now stores (sweepItems now store.ttl store.current timestamps).2

/-- A cleanup takes out the items that are overdue and no others. -/
def Honest (h : History) (c : Coordinator) (now : ℚ) : Prop :=
  honestStores h now c.stores c.timestamps = true

/-- No item of the backup passes for fresh where the current list is empty. -/
def Exhausted (c : Coordinator) (dataType : String) (now : ℚ) : Prop :=
  match Dict.get? c.stores dataType with
  | some store => store.current = [] → ∀ item ∈ store.backup, c.usesBackup now store item.id = false
  | none => True

/-- The cleanup that follows when items are stored, if one does, is honest. -/
def StoresHonestly (s : Session) (dataType : String) (check clean : ℚ) :
    Except Exception (List Item) → Prop
  | .ok processed =>
    check - (s.coordinator.kept dataType processed).lastCleanup > cleanupInterval →
      Honest (s.history.stored dataType processed check) (s.coordinator.kept dataType processed) clean
  | .error _ => True

def Guard (py : Runtime) (s : Session) : Call → Prop
  | .storeData dataType requestId items check clean =>
    StoresHonestly s dataType check clean (acceptedItems py dataType requestId items)
  | .getData dataType now => Exhausted s.coordinator dataType now
  | .cleanupExpired now => Honest s.history s.coordinator now
  | .resetData _ => True

instance (s : Session) (call : Call) : Decidable (Timely s call) := by
  cases call <;> unfold Timely <;> infer_instance

instance (h : History) (c : Coordinator) (now : ℚ) : Decidable (Honest h c now) := by
  unfold Honest
  infer_instance

instance (c : Coordinator) (dataType : String) (now : ℚ) : Decidable (Exhausted c dataType now) := by
  unfold Exhausted
  split <;> infer_instance

instance (s : Session) (dataType : String) (check clean : ℚ) (accepted : Except Exception (List Item)) :
    Decidable (StoresHonestly s dataType check clean accepted) := by
  cases accepted <;> unfold StoresHonestly <;> infer_instance

instance (py : Runtime) (s : Session) (call : Call) : Decidable (Guard py s call) := by
  cases call <;> unfold Guard <;> infer_instance

theorem sweepItems_of_honest {now ttl : ℚ} {overdue : Bool} {items : List Item}
    {timestamps : Dict String ℚ} (h : honestItems now ttl overdue items timestamps = true) :
    (sweepItems now ttl items timestamps).1 = if overdue then [] else items := by
  induction items generalizing timestamps with
  | nil => cases overdue <;> rfl
  | cons item items ih =>
    obtain ⟨hfirst, hrest⟩ := Bool.and_eq_true_iff.mp h
    have hexpired : expired now ttl timestamps item.id = overdue := beq_iff_eq.mp hfirst
    rw [sweepItems, ih hrest]
    dsimp only
    rw [hexpired]
    cases overdue <;> rfl

/-- The store of a type after an honest cleanup. -/
def sweptStore (h : History) (dataType : String) (now : ℚ) (store : Store) : Store :=
  { store with current := if h.overdue dataType store.ttl now then [] else store.current }

theorem get?_sweepStores {h : History} {now : ℚ} {stores : Dict String Store}
    {timestamps : Dict String ℚ} (hhonest : honestStores h now stores timestamps = true)
    (dataType : String) : Dict.get? (sweepStores now stores timestamps).1 dataType =
      (Dict.get? stores dataType).map (sweptStore h dataType now) := by
  induction stores generalizing timestamps with
  | nil => rfl
  | cons e stores ih =>
    obtain ⟨t, store⟩ := e
    obtain ⟨hfirst, hrest⟩ := Bool.and_eq_true_iff.mp hhonest
    rw [sweepStores]
    dsimp only
    rw [Dict.get?_cons, Dict.get?_cons, ih hrest, sweepItems_of_honest hfirst]
    by_cases ht : t = dataType
    · rw [if_pos ht, if_pos ht, ← ht]
      rfl
    · rw [if_neg ht, if_neg ht]

theorem get?_cleanupExpired {h : History} {c : Coordinator} {now : ℚ} (hhonest : Honest h c now)
    (dataType : String) : Dict.get? (c.cleanupExpired now).stores dataType =
      (Dict.get? c.stores dataType).map (sweptStore h dataType now) := by
  unfold Coordinator.cleanupExpired
  split_ifs with hany
  · exact get?_sweepStores hhonest dataType
  · cases hget : Dict.get? c.stores dataType with
    | none => rfl
    | some store =>
      have hempty : store.current = [] := by
        by_contra hne
        apply hany
        apply List.any_eq_true.mpr
        exact ⟨_, Dict.mem_of_get?_eq_some hget, by simpa using hne⟩
      simp [sweptStore, ← hempty]

theorem freshBackup_of_unused {c : Coordinator} {now : ℚ} {store : Store} {items : List Item}
    (h : ∀ item ∈ items, c.usesBackup now store item.id = false) :
    c.freshBackup now store items c.timestamps = ([], c.timestamps) := by
  induction items with
  | nil => rfl
  | cons item items ih =>
    have hunused := h item List.mem_cons_self
    have hrest := ih fun x hx => h x (List.mem_cons_of_mem item hx)
    cases hbackup : Dict.get? store.backupTimestamps item.id with
    | some stamp => simp [Coordinator.freshBackup, hbackup, hunused, hrest]
    | none => cases hprimary : Dict.get? c.timestamps item.id with
      | some stamp => simp [Coordinator.freshBackup, hbackup, hprimary, hunused, hrest]
      | none => simp [Coordinator.usesBackup, hbackup, hprimary] at hunused

/-- A call that finds no fresh backup returns the current list and changes nothing. -/
theorem getData_of_exhausted {c : Coordinator} {dataType : String} {now : ℚ}
    (h : Exhausted c dataType now) : c.getData dataType true now = (c.current dataType, c) := by
  unfold Exhausted at h
  unfold Coordinator.getData Coordinator.current
  cases hget : Dict.get? c.stores dataType with
  | none => rfl
  | some store =>
    rw [hget] at h
    dsimp only at h ⊢
    split_ifs with hempty hfresh
    · rw [freshBackup_of_unused (h (by simpa using hempty))]
      simp at hempty
      rw [hempty]
    · exfalso
      apply hfresh
      rw [freshBackup_of_unused (h (by simpa using hempty))]
      rfl
    · rfl

/-! ### What honest calls keep -/

/-- The items of the latest call, of the time `t`, are current until a cleanup is their time to live after
it, and gone from then on. -/
structure Live (h : History) (dataType : String) (store : Store) (t : ℚ) (items : List Item) : Prop where
  past : t ≤ h.clock
  backup : store.backup = items
  current : (store.current = items ∧ ∀ c ∈ h.cleanups, c < t + store.ttl) ∨
    (store.current = [] ∧ ∃ c ∈ h.cleanups, t + store.ttl ≤ c)
  notExpired : ∀ x ∈ store.current, h.expired dataType x.id = false
  storedAt : ∀ x ∈ items, h.storedAt dataType x.id = some t

/-- The store of a type agrees with the history. -/
def Agrees (h : History) (dataType : String) : Option Store → Prop
  | none => h.latest dataType = none
  | some store => 0 < store.ttl ∧ match h.latest dataType with
    | some (t, items) => Live h dataType store t items
    | none => store.current = [] ∧ store.backup = []

structure Sound (s : Session) : Prop where
  agrees : ∀ dataType, Agrees s.history dataType (Dict.get? s.coordinator.stores dataType)
  cleanups : ∀ c ∈ s.history.cleanups, c ≤ s.history.clock

theorem sound_initial (now : ℚ) : Sound (.initial now) where
  agrees dataType := by
    show Agrees _ dataType (Dict.get? [_, _, _] dataType)
    simp only [Dict.get?_cons, Dict.get?_nil]
    split_ifs <;> simp [Agrees, emptyStore, Session.initial]
  cleanups := by simp [Session.initial]

theorem Live.mono {h h' : History} {dataType : String} {store : Store} {t : ℚ} {items : List Item}
    (hlive : Live h dataType store t items) (hclock : h.clock ≤ h'.clock)
    (hcleanups : h'.cleanups = h.cleanups) (hexpired : h'.expired dataType = h.expired dataType)
    (hstored : h'.storedAt dataType = h.storedAt dataType) : Live h' dataType store t items where
  past := le_trans hlive.past hclock
  backup := hlive.backup
  current := by
    rw [hcleanups]
    exact hlive.current
  notExpired := by
    rw [hexpired]
    exact hlive.notExpired
  storedAt := by
    rw [hstored]
    exact hlive.storedAt

/-- A type is not touched by what only moves the clock for it. -/
theorem Agrees.mono {h h' : History} {dataType : String} {store : Option Store}
    (hagrees : Agrees h dataType store) (hclock : h.clock ≤ h'.clock)
    (hlatest : h'.latest dataType = h.latest dataType) (hcleanups : h'.cleanups = h.cleanups)
    (hexpired : h'.expired dataType = h.expired dataType)
    (hstored : h'.storedAt dataType = h.storedAt dataType) : Agrees h' dataType store := by
  cases store with
  | none => exact hlatest.trans hagrees
  | some store =>
    obtain ⟨httl, hrest⟩ := hagrees
    refine ⟨httl, ?_⟩
    rw [hlatest]
    cases hl : h.latest dataType with
    | none =>
      rw [hl] at hrest
      exact hrest
    | some latest =>
      rw [hl] at hrest
      exact hrest.mono hclock hcleanups hexpired hstored

theorem Coordinator.ttl_pos {s : Session} (h : Sound s) (dataType : String) :
    0 < s.coordinator.ttl dataType := by
  have hagrees := h.agrees dataType
  unfold Coordinator.ttl
  cases hget : Dict.get? s.coordinator.stores dataType with
  | none => norm_num
  | some store =>
    rw [hget] at hagrees
    exact hagrees.1

theorem sound_stored {s : Session} (h : Sound s) {dataType : String} {items : List Item} {now : ℚ}
    (hnow : s.history.clock ≤ now) :
    Sound ⟨s.coordinator.kept dataType items, s.history.stored dataType items now⟩ where
  agrees t := by
    obtain ⟨store, hcurrent, hbackup, httl, hget⟩ := get?_kept s.coordinator dataType items
    have hpos := Coordinator.ttl_pos h dataType
    rw [← httl] at hpos
    show Agrees _ t (Dict.get? (s.coordinator.kept dataType items).stores t)
    rw [hget]
    by_cases ht : t = dataType
    · subst ht
      rw [if_pos rfl]
      refine ⟨hpos, ?_⟩
      simp only [History.stored, if_true]
      refine ⟨le_refl now, hbackup, .inl ⟨hcurrent, fun c hc => ?_⟩, fun x hx => ?_, fun x hx => ?_⟩
      · have hpast := h.cleanups c hc
        linarith
      · rw [hcurrent] at hx
        exact if_pos ⟨rfl, List.mem_map_of_mem hx⟩
      · exact if_pos ⟨rfl, List.mem_map_of_mem hx⟩
    · rw [if_neg ht]
      refine (h.agrees t).mono hnow (if_neg ht) rfl (funext fun id => ?_) (funext fun id => ?_)
      · exact if_neg fun hboth => ht hboth.1
      · exact if_neg fun hboth => ht hboth.1
  cleanups c hc := le_trans (h.cleanups c hc) hnow

/-- A cleanup empties the lists that are overdue and leaves the others as they are. -/
theorem sound_cleaned {s : Session} (h : Sound s) {now : ℚ} (hnow : s.history.clock ≤ now)
    (hhonest : Honest s.history s.coordinator now) :
    Sound ⟨s.coordinator.cleanupExpired now,
      s.history.cleaned s.coordinator (s.coordinator.cleanupExpired now) now⟩ where
  agrees t := by
    have hagrees := h.agrees t
    have hget := get?_cleanupExpired hhonest t
    show Agrees _ t (Dict.get? (s.coordinator.cleanupExpired now).stores t)
    cases hstore : Dict.get? s.coordinator.stores t with
    | none =>
      rw [hstore] at hagrees hget
      rw [hget]
      exact hagrees
    | some store =>
      rw [hstore] at hagrees hget
      rw [hget]
      obtain ⟨httl, hrest⟩ := hagrees
      refine ⟨httl, ?_⟩
      show match s.history.latest t with
        | some (t', items) => Live _ t (sweptStore s.history t now store) t' items
        | none => _
      cases hl : s.history.latest t with
      | none =>
        rw [hl] at hrest
        simp [sweptStore, hrest]
      | some latest =>
        obtain ⟨time, items⟩ := latest
        rw [hl] at hrest
        have hbefore : s.coordinator.current t = store.current := by
          rw [Coordinator.current, hstore]
        have hafter : (s.coordinator.cleanupExpired now).current t =
            (sweptStore s.history t now store).current := by
          rw [Coordinator.current, hget]
          rfl
        have hverdict : s.history.overdue t store.ttl now = decide (store.ttl ≤ now - time) := by
          rw [History.overdue, hl]
        refine ⟨le_trans hrest.past hnow, hrest.backup, ?_, fun x hx => ?_, hrest.storedAt⟩
        · rw [sweptStore, hverdict]
          rcases hrest.current with ⟨hcurrent, hearlier⟩ | ⟨hcurrent, c, hc, hlate⟩
          · by_cases hdue : store.ttl ≤ now - time
            · right
              refine ⟨by simp [hdue], now, List.mem_cons_self, ?_⟩
              show time + store.ttl ≤ now
              linarith
            · left
              refine ⟨by simpa [hdue] using hcurrent, fun c hc => ?_⟩
              show c < time + store.ttl
              rcases List.mem_cons.mp hc with rfl | hc
              · linarith
              · exact hearlier c hc
          · right
            exact ⟨by simp [hcurrent], c, List.mem_cons_of_mem now hc, hlate⟩
        · -- an item that is still there was kept with its whole list
          have hkept : (sweptStore s.history t now store).current = store.current := by
            unfold sweptStore at hx ⊢
            dsimp only at hx ⊢
            split_ifs at hx ⊢
            · cases hx
            · rfl
          show (s.history.expired t x.id || decide _) = false
          rw [hafter, hbefore, hkept]
          rw [hkept] at hx
          simp [hrest.notExpired x hx]
  cleanups c hc := by
    rcases List.mem_cons.mp hc with rfl | hc
    · exact le_refl _
    · exact le_trans (h.cleanups c hc) hnow

theorem get?_resetData (c : Coordinator) (dataType : Option String) (t : String) :
    Dict.get? (c.resetData dataType).stores t = if dataType = none ∨ dataType = some t then
      (Dict.get? c.stores t).map Coordinator.cleared else Dict.get? c.stores t := by
  cases dataType with
  | none =>
    rw [if_pos (.inl rfl)]
    exact Dict.get?_map_value c.stores Coordinator.cleared t
  | some dataType =>
    simp only [reduceCtorEq, false_or, Option.some.injEq]
    unfold Coordinator.resetData
    dsimp only
    split_ifs with hhas ht ht
    · rw [Dict.get?_modify, if_pos ht]
    · rw [Dict.get?_modify, if_neg ht]
    · subst ht
      rw [Dict.has_eq_false.mp (by simpa using hhas)]
      rfl
    · rfl

theorem sound_reset {s : Session} (h : Sound s) (dataType : Option String) :
    Sound ⟨s.coordinator.resetData dataType, s.history.reset dataType⟩ where
  agrees t := by
    have hagrees := h.agrees t
    show Agrees _ t (Dict.get? (s.coordinator.resetData dataType).stores t)
    rw [get?_resetData]
    by_cases hreset : dataType = none ∨ dataType = some t
    · rw [if_pos hreset]
      have hlatest : (s.history.reset dataType).latest t = none := if_pos hreset
      cases hget : Dict.get? s.coordinator.stores t with
      | none => exact hlatest
      | some store =>
        rw [hget] at hagrees
        refine ⟨hagrees.1, ?_⟩
        rw [hlatest]
        exact ⟨rfl, rfl⟩
    · rw [if_neg hreset]
      exact hagrees.mono (le_refl _) (if_neg hreset) rfl rfl rfl
  cleanups := h.cleanups

theorem sound_ensure {s : Session} (h : Sound s) (dataType : String) :
    Sound { s with coordinator := s.coordinator.ensure dataType } where
  agrees t := by
    have hagrees := h.agrees t
    show Agrees _ t (Dict.get? (s.coordinator.ensure dataType).stores t)
    unfold Coordinator.ensure
    split_ifs with hhas
    · exact hagrees
    · by_cases ht : dataType = t
      · subst ht
        rw [Dict.has_eq_false.mp (by simpa using hhas)] at hagrees
        rw [Dict.get?_set_self]
        refine ⟨by norm_num [emptyStore], ?_⟩
        rw [show s.history.latest dataType = none from hagrees]
        exact ⟨rfl, rfl⟩
      · rw [Dict.get?_set_ne _ _ ht]
        exact hagrees
  cleanups := h.cleanups

/-- A call that stores, and the cleanup that follows if one is due. -/
theorem step_of_accepted {py : Runtime} {s : Session} {dataType requestId : String}
    {items : List RawItem} {processed : List Item}
    (h : acceptedItems py dataType requestId items = .ok processed) (check clean : ℚ) :
    let kept := s.coordinator.kept dataType processed
    let stored := s.history.stored dataType processed check
    (step py s (.storeData dataType requestId items check clean)).2 =
      if check - kept.lastCleanup > cleanupInterval then
        ⟨{ kept.cleanupExpired clean with lastCleanup := check },
          stored.cleaned kept (kept.cleanupExpired clean) clean⟩
      else ⟨kept, stored⟩ := by
  unfold Coordinator.kept
  by_cases hdue : check - ((s.coordinator.ensure dataType).keep dataType processed).lastCleanup >
      cleanupInterval
  · simp [step, Coordinator.storeData, h, Coordinator.kept, hdue]
  · simp [step, Coordinator.storeData, h, Coordinator.kept, hdue]

theorem step_of_rejected {py : Runtime} {s : Session} {dataType requestId : String}
    {items : List RawItem} {e : Exception} (h : acceptedItems py dataType requestId items = .error e)
    (check clean : ℚ) : (step py s (.storeData dataType requestId items check clean)).2 =
      if requestId = "" ∨ items = [] then s
      else { s with coordinator := s.coordinator.ensure dataType } := by
  simp only [step, Coordinator.storeData, h]
  split_ifs <;> rfl

theorem step_of_exhausted {py : Runtime} {s : Session} {dataType : String} {now : ℚ}
    (h : Exhausted s.coordinator dataType now) : step py s (.getData dataType now) =
      (s.coordinator.current dataType, { s with history := { s.history with clock := now } }) := by
  simp only [step, getData_of_exhausted h]

theorem sound_step (py : Runtime) {s : Session} {call : Call} (h : Sound s) (htimely : Timely s call)
    (hguard : Guard py s call) : Sound (step py s call).2 := by
  cases call with
  | storeData dataType requestId items check clean =>
    cases haccepted : acceptedItems py dataType requestId items with
    | error e =>
      rw [step_of_rejected haccepted]
      split_ifs
      · exact h
      · exact sound_ensure h dataType
    | ok processed =>
      have hstored := @sound_stored s h dataType processed check htimely.1
      have hhonest : StoresHonestly s dataType check clean (.ok processed) := by
        rw [← haccepted]
        exact hguard
      rw [step_of_accepted haccepted]
      split_ifs with hdue
      · have hcleaned := sound_cleaned hstored htimely.2 (hhonest hdue)
        exact ⟨hcleaned.agrees, hcleaned.cleanups⟩
      · exact hstored
  | getData dataType now =>
    rw [step_of_exhausted hguard]
    refine ⟨fun t => ?_, fun c hc => le_trans (h.cleanups c hc) htimely⟩
    exact (h.agrees t).mono htimely rfl rfl rfl rfl
  | cleanupExpired now => exact sound_cleaned h htimely hguard
  | resetData dataType => exact sound_reset h dataType

theorem Agrees.fresh {s : Session} {dataType : String} {store : Store} {now : ℚ}
    (h : Agrees s.history dataType (some store)) (httl : s.coordinator.ttl dataType = store.ttl)
    (hcleanups : ∀ c ∈ s.history.cleanups, c ≤ s.history.clock) (hnow : s.history.clock ≤ now) :
    Fresh s dataType now store.current := by
  obtain ⟨hpos, hrest⟩ := h
  cases hl : s.history.latest dataType with
  | none =>
    rw [hl] at hrest
    rw [hrest.1]
    refine ⟨nofun, fun t items hlatest => ?_, nofun⟩
    rw [hl] at hlatest
    cases hlatest
  | some latest =>
    obtain ⟨time, stored⟩ := latest
    rw [hl] at hrest
    have hlive : Live s.history dataType store time stored := hrest
    refine ⟨hlive.notExpired, fun t items hlatest hyoung x hx => ?_, fun x hx => ?_⟩
    · obtain ⟨rfl, rfl⟩ := Prod.mk.inj (Option.some.inj (hl.symm.trans hlatest))
      rcases hlive.current with ⟨hcurrent, -⟩ | ⟨-, c, hc, hlate⟩
      · rw [hcurrent]
        exact hx
      · -- a cleanup that found them overdue would be in the future
        have hpast := hcleanups c hc
        rw [httl] at hyoung
        linarith
    · rcases hlive.current with ⟨hcurrent, hearlier⟩ | ⟨hcurrent, -⟩
      · rw [hcurrent] at hx
        refine ⟨time, hlive.storedAt x hx, ?_⟩
        rintro ⟨hlong, hregular⟩
        rw [httl] at hlong
        obtain ⟨c, hc, hlate, -⟩ := hregular (time + store.ttl) (by linarith) (by linarith)
        have hearly := hearlier c hc
        linarith
      · rw [hcurrent] at hx
        cases hx

/-- What is returned is current, and what is current is fresh. -/
theorem correct_of_sound (py : Runtime) {s : Session} {call : Call} (h : Sound s)
    (htimely : Timely s call) (hguard : Guard py s call) : Correct py s call := by
  cases call with
  | getData dataType now =>
    have hagrees := h.agrees dataType
    rw [Correct, step_of_exhausted hguard]
    cases hget : Dict.get? s.coordinator.stores dataType with
    | none =>
      rw [hget] at hagrees
      rw [Coordinator.current, hget]
      refine ⟨nofun, fun t items hlatest => ?_, nofun⟩
      rw [show s.history.latest dataType = none from hagrees] at hlatest
      cases hlatest
    | some store =>
      rw [hget] at hagrees
      have httl : s.coordinator.ttl dataType = store.ttl := by rw [Coordinator.ttl, hget]
      rw [Coordinator.current, hget]
      exact hagrees.fresh httl h.cleanups htimely
  | _ => trivial

/-- Items that were taken out stay away, those of the latest call are there for their time to live, and
regular cleanups leave none that is older, in the runs whose cleanups take out the items that are overdue
and no others, and where no empty list is filled from the backup. -/
theorem fresh_throughout (py : Runtime) (start : ℚ) (calls : List Call)
    (h : Along (step py) (fun s call => Timely s call ∧ Guard py s call) (.initial start) calls) :
    Along (step py) (Correct py) (.initial start) calls := by
  rw [along_iff] at h ⊢
  rintro before call after rfl
  have hsound : Sound (final (step py) (.initial start) before) :=
    @invariant_along _ _ _ (step py) Sound (fun s call => Timely s call ∧ Guard py s call)
      (fun s call hs hcall => sound_step py hs hcall.1 hcall.2) _ (sound_initial start) before
      (call :: after) (along_iff.mpr h)
  obtain ⟨htimely, hguard⟩ := h before call after rfl
  exact correct_of_sound py hsound htimely hguard

/-- One echo, away from the origin. -/
def echo : RawItem where
  isDict := true
  id := some "r_0"
  fields := [("position", .tuple [.int 1, .int 2])]

/-- The echo is stamped by the cleanup of the call that stores it, and stored again a second later. -/
theorem fresh_throughout_restored : Along (step .ascii) (Correct .ascii) (.initial 0)
    [.storeData "vil" "r" [echo] 10 10, .storeData "vil" "r" [echo] 11 11, .getData "vil" 12,
      .cleanupExpired 20, .getData "vil" 21] :=
  fresh_throughout .ascii 0 _ (by decide +kernel)

/-- The echo is taken out as expired, and is back at the next call. -/
theorem expired_echo_returns :
    let calls := [Call.storeData "vil" "r" [echo] 1 1, .cleanupExpired 2, .cleanupExpired 7,
      .getData "vil" 8]
    Along (step .ascii) Timely (.initial 0) calls ∧
      ¬Along (step .ascii) (Correct .ascii) (.initial 0) calls := by
  refine ⟨by decide +kernel, fun h => ?_⟩
  have hnotExpired := h.2.2.2.1.notExpired
  revert hnotExpired
  decide +kernel

end Fmofp.Display
