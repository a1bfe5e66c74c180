import Fmofp.HardwareHealth.LRUStatus

/-! Forced faults over whole runs.  An override holds until it is cleared, and the entries that scenarios
declare go with their overrides.  Clearing by a key takes the oldest override that the key matches, which
is the one that the key has set only if no older one matches too. -/

namespace Fmofp.HardwareHealth

open Python Machine

namespace LRUStatusMonitor

/-! ### What holds of every id -/

/-- An entry next to its override: a forced id has the forced state, and an entry that is not of the
catalogue was declared by a scenario and has its override still. -/
structure SoundEntry (lruId : String) (lru : LRU) (forced : Option (HealthState × String)) : Prop where
  id : lru.lruId = lruId
  catalogued : lru.accessor = true ↔ lruId ∈ catalogueIds
  declared : lru.accessor = false → endsWith lru.name scenarioDeclared = true ∧ forced.isSome = true
  forced : ∀ override ∈ forced, lruId ≠ "" ∧ lru.health = override.1

/-- What a monitor has for an id; an id without an entry is not forced and not of the catalogue. -/
def SoundAt (m : LRUStatusMonitor) (lruId : String) : Prop :=
  match Dict.get? m.lrus lruId with
  | some lru => SoundEntry lruId lru (Dict.get? m.forcedFaults lruId)
  | none => Dict.get? m.forcedFaults lruId = none ∧ lruId ∉ catalogueIds

structure Sound (m : LRUStatusMonitor) : Prop where
  keys : (m.lrus.map Prod.fst).Nodup
  soundAt : ∀ lruId, m.SoundAt lruId

theorem soundAt_of_get? {m : LRUStatusMonitor} {lruId : String} {lru : LRU}
    (hget : Dict.get? m.lrus lruId = some lru) :
    m.SoundAt lruId ↔ SoundEntry lruId lru (Dict.get? m.forcedFaults lruId) := by
  rw [SoundAt, hget]

theorem Sound.entry {m : LRUStatusMonitor} (hm : m.Sound) {lruId : String} {lru : LRU}
    (hget : Dict.get? m.lrus lruId = some lru) :
    SoundEntry lruId lru (Dict.get? m.forcedFaults lruId) :=
  (soundAt_of_get? hget).mp (hm.soundAt lruId)

/-- What is the same for an id is sound for it still. -/
theorem soundAt_congr {m m' : LRUStatusMonitor} {lruId : String}
    (hlrus : Dict.get? m'.lrus lruId = Dict.get? m.lrus lruId)
    (hforced : Dict.get? m'.forcedFaults lruId = Dict.get? m.forcedFaults lruId) :
    m'.SoundAt lruId ↔ m.SoundAt lruId := by
  rw [SoundAt, SoundAt, hlrus, hforced]

theorem SoundEntry.id_ne_empty {lruId : String} {lru : LRU} {forced : Option (HealthState × String)}
    (h : SoundEntry lruId lru forced) : lruId ≠ "" := by
  cases haccessor : lru.accessor with
  | true =>
    rintro rfl
    exact absurd (h.catalogued.mp haccessor) (by decide)
  | false =>
    obtain ⟨override, hoverride⟩ := Option.isSome_iff_exists.mp (h.declared haccessor).2
    exact (h.forced override hoverride).1

theorem new_sound : new.Sound := by
  have hkeys : new.lrus.map Prod.fst = catalogueIds := rfl
  refine ⟨by rw [hkeys]; decide +kernel, fun lruId => ?_⟩
  rw [SoundAt]
  split
  · rename_i lru hget
    obtain ⟨lru', hmem, heq⟩ := List.mem_map.mp (Dict.mem_of_get?_eq_some hget)
    cases heq
    have haccessor : lru.accessor = true := by
      revert lru
      decide
    refine ⟨rfl, iff_of_true haccessor (List.mem_map_of_mem hmem), fun hfalse => ?_, fun _ h => ?_⟩
    · rw [haccessor] at hfalse
      cases hfalse
    · cases h
  · rename_i hget
    exact ⟨rfl, hkeys ▸ Dict.get?_eq_none_iff.mp hget⟩

/-! ### One step -/

/-- A changed entry. -/
theorem Sound.set_lru {m : LRUStatusMonitor} (hm : m.Sound) {lruId : String} {lru : LRU}
    (hlru : SoundEntry lruId lru (Dict.get? m.forcedFaults lruId)) :
    Sound { m with lrus := Dict.set m.lrus lruId lru } := by
  refine ⟨Dict.nodup_keys_set hm.keys _ _, fun other => ?_⟩
  by_cases hsame : lruId = other
  · subst hsame
    exact (soundAt_of_get? (Dict.get?_set_self _ _ _)).mpr hlru
  · refine (soundAt_congr ?_ ?_).mpr (hm.soundAt other)
    · exact Dict.get?_set_ne _ _ hsame
    · rfl

theorem updateBitResult_sound {m : LRUStatusMonitor} (hm : m.Sound) (lruId resultStr : String) :
    (m.updateBitResult lruId resultStr).Sound := by
  unfold updateBitResult
  split
  · rename_i lru hget
    exact hm.set_lru { hm.entry hget with }
  · exact hm

theorem pollLru_sound (py : Runtime) {m : LRUStatusMonitor} (hm : m.Sound) (id : String)
    (reading : Reading) : (m.pollLru py id reading).Sound := by
  unfold pollLru
  split
  · rename_i lru hget
    have hentry := hm.entry hget
    split_ifs
    · apply hm.set_lru
      refine { hentry with forced := fun override hoverride => ?_ }
      rw [Option.mem_def] at hoverride
      refine ⟨(hentry.forced override hoverride).1, ?_⟩
      rw [hentry.id, hoverride]
    · exact hm
  · exact hm

/-- An override puts its state into the entry; the entry of an id that was not there before counts as
declared from here on. -/
theorem override_sound {m : LRUStatusMonitor} {lruId : String} {lru : LRU}
    (hkeys : (m.lrus.map Prod.fst).Nodup) (hget : Dict.get? m.lrus lruId = some lru)
    (hothers : ∀ other, lruId ≠ other → m.SoundAt other)
    (hne : lruId ≠ "") (hid : lru.lruId = lruId)
    (hcatalogued : lru.accessor = true ↔ lruId ∈ catalogueIds)
    (hdeclared : lru.accessor = false → endsWith lru.name scenarioDeclared = true)
    (state : HealthState) (detailTxt : String) : (m.override lruId state detailTxt).Sound := by
  rw [override, hget]
  refine ⟨Dict.nodup_keys_set hkeys _ _, fun other => ?_⟩
  by_cases hsame : lruId = other
  · subst hsame
    refine (soundAt_of_get? (Dict.get?_set_self _ _ _)).mpr ?_
    rw [Dict.get?_set_self]
    refine ⟨hid, hcatalogued, fun hfalse => ⟨hdeclared hfalse, rfl⟩, fun override hoverride => ?_⟩
    rw [Option.mem_some_iff] at hoverride
    subst hoverride
    exact ⟨hne, rfl⟩
  · exact (soundAt_congr (Dict.get?_set_ne _ _ hsame) (Dict.get?_set_ne _ _ hsame)).mpr
      (hothers other hsame)

theorem override_sound_of_get? {m : LRUStatusMonitor} (hm : m.Sound) {lruId : String}
    (hhas : Dict.has m.lrus lruId = true) (state : HealthState) (detailTxt : String) :
    (m.override lruId state detailTxt).Sound := by
  obtain ⟨lru, hget⟩ := Dict.has_iff.mp hhas
  have hentry := hm.entry hget
  exact override_sound hm.keys hget (fun other _ => hm.soundAt other) hentry.id_ne_empty hentry.id hentry.catalogued
    (fun hfalse => (hentry.declared hfalse).1) state detailTxt

/-- What a key resolves to has an entry. -/
theorem has_of_resolveLruId {py : Runtime} {m : LRUStatusMonitor} {key lruId : String}
    (h : m.resolveLruId py key = some lruId) : Dict.has m.lrus lruId = true := by
  unfold resolveLruId at h
  dsimp only at h
  split_ifs at h
  split at h
  · rename_i e hfind
    cases h
    exact Dict.has_of_mem (List.mem_of_find?_eq_some hfind)
  · split at h
    · rename_i e hfilter
      cases h
      apply Dict.has_of_mem (e := e)
      apply List.mem_of_mem_filter (p := fun e => contains (py.lower e.2.name) (py.lower (strip key)))
      rw [hfilter]
      exact List.mem_singleton_self e
    · cases h

theorem syntheticId_ne_empty (py : Runtime) (key : String) : syntheticId py key ≠ "" := by
  unfold syntheticId
  dsimp only
  split_ifs with h
  · decide
  · exact h

/-- The override of an id that had no entry, with the entry that is declared for it. -/
theorem declare_sound {m : LRUStatusMonitor} (hm : m.Sound) {lruId : String} {lru : LRU}
    (hget : Dict.get? m.lrus lruId = none) (hne : lruId ≠ "") (hid : lru.lruId = lruId)
    (haccessor : lru.accessor = false) (hname : endsWith lru.name scenarioDeclared = true)
    (state : HealthState) (detailTxt : String) :
    (override { m with lrus := Dict.set m.lrus lruId lru } lruId state detailTxt).Sound := by
  have hat := hm.soundAt lruId
  rw [SoundAt, hget] at hat
  refine override_sound (Dict.nodup_keys_set hm.keys _ _) (Dict.get?_set_self _ _ _) (fun other hother => ?_) hne hid
    (iff_of_false (by rw [haccessor]; exact Bool.false_ne_true) hat.2) (fun _ => hname) state detailTxt
  refine (soundAt_congr ?_ ?_).mpr (hm.soundAt other)
  · exact Dict.get?_set_ne _ _ hother
  · rfl

theorem syntheticLru_id (py : Runtime) (key : String) :
    (syntheticLru py key).lruId = syntheticId py key := by rw [syntheticLru]

theorem syntheticLru_accessor (py : Runtime) (key : String) :
    (syntheticLru py key).accessor = false := rfl

theorem syntheticLru_name (py : Runtime) (key : String) :
    endsWith (syntheticLru py key).name scenarioDeclared = true := by
  rw [syntheticLru]
  exact endsWith_append _ _

theorem forceFault_sound (py : Runtime) {m : LRUStatusMonitor} (hm : m.Sound) (key : String)
    (state : HealthState) (detail source : String) :
    (m.forceFault py key state detail source).2.Sound := by
  unfold forceFault
  dsimp only
  generalize (if detail = "" then "forced by " ++ source else detail) = detailTxt
  split
  · rename_i lruId hresolve
    exact override_sound_of_get? hm (has_of_resolveLruId hresolve) state _
  · split_ifs with hhas
    · exact override_sound_of_get? hm hhas state _
    · rw [Bool.not_eq_true, Dict.has_eq_false] at hhas
      exact declare_sound hm hhas (syntheticId_ne_empty py key) (syntheticLru_id py key)
        (syntheticLru_accessor py key) (syntheticLru_name py key) state detailTxt

theorem clearOne_keys {m : LRUStatusMonitor} (hkeys : (m.lrus.map Prod.fst).Nodup) (lruId : String) :
    ((m.clearOne lruId).lrus.map Prod.fst).Nodup := by
  rw [clearOne]
  dsimp only
  split
  · split_ifs
    · exact Dict.nodup_keys_erase hkeys lruId
    · exact Dict.nodup_keys_set hkeys lruId _
  · exact hkeys

/-- An override goes together with the entry that was declared for it. -/
theorem clearOne_sound {m : LRUStatusMonitor} (hm : m.Sound) (lruId : String) :
    (m.clearOne lruId).Sound := by
  refine ⟨clearOne_keys hm.keys lruId, fun other => ?_⟩
  by_cases hsame : lruId = other
  · subst hsame
    have hgone : Dict.get? (m.clearOne lruId).forcedFaults lruId = none := Dict.get?_erase_self _ _
    cases hget : Dict.get? m.lrus lruId with
    | none =>
      have hat := hm.soundAt lruId
      rw [SoundAt, hget] at hat
      have hnone : Dict.get? (m.clearOne lruId).lrus lruId = none := by
        rw [clearOne]
        dsimp only
        rw [hget]
        exact hget
      rw [SoundAt, hnone]
      exact ⟨hgone, hat.2⟩
    | some lru =>
      have hentry := hm.entry hget
      cases haccessor : lru.accessor with
      | false =>
        have hnone : Dict.get? (m.clearOne lruId).lrus lruId = none := by
          rw [clearOne]
          dsimp only
          rw [hget]
          dsimp only
          rw [if_pos ⟨haccessor, (hentry.declared haccessor).1⟩]
          exact Dict.get?_erase_self _ _
        rw [SoundAt, hnone]
        refine ⟨hgone, fun hmem => ?_⟩
        rw [hentry.catalogued.mpr hmem] at haccessor
        cases haccessor
      | true =>
        have hkept : Dict.get? (m.clearOne lruId).lrus lruId =
            some { lru with health := .unknown, faultDetail := "" } := by
          rw [clearOne]
          dsimp only
          rw [hget]
          dsimp only
          rw [if_neg (by rw [haccessor]; simp)]
          exact Dict.get?_set_self _ _ _
        rw [soundAt_of_get? hkept, hgone]
        refine ⟨hentry.id, hentry.catalogued, fun hfalse => ?_, fun _ h => by cases h⟩
        rw [haccessor] at hfalse
        cases hfalse
  · refine (soundAt_congr ?_ (Dict.get?_erase_ne _ hsame)).mpr (hm.soundAt other)
    rw [clearOne]
    dsimp only
    split
    · split_ifs
      · exact Dict.get?_erase_ne _ hsame
      · exact Dict.get?_set_ne _ _ hsame
    · rfl

theorem clearForcedFault_sound (py : Runtime) {m : LRUStatusMonitor} (hm : m.Sound)
    (key : Option String) : (m.clearForcedFault py key).2.Sound := by
  show ((m.clearTargets py key).foldl clearOne m).Sound
  generalize m.clearTargets py key = targets
  induction targets generalizing m with
  | nil => exact hm
  | cons lruId rest ih => exact ih (clearOne_sound hm lruId)

end LRUStatusMonitor

open LRUStatusMonitor

theorem step_sound (py : Runtime) (m : LRUStatusMonitor) (action : Action) (hm : m.Sound) :
    (step py m action).2.Sound := by
  cases action with
  | forceFault key state detail source =>
    cases state with
    | inl state =>
      simp only [step]
      exact forceFault_sound py hm key state detail source
    | inr text =>
      simp only [step]
      split
      · dsimp only
        exact forceFault_sound py hm key _ detail source
      · exact hm
  | clearForcedFault key =>
    simp only [step]
    exact clearForcedFault_sound py hm key
  | updateBitResult lruId resultStr =>
    simp only [step]
    exact updateBitResult_sound hm lruId resultStr
  | pollLru id reading =>
    simp only [step]
    exact pollLru_sound py hm id reading

/-! ### Clearing by a key -/

/-- No override older than that of `lruId` goes by the key (none at all, if `lruId` is not forced), and
`lruId` itself does if it is forced. -/
def OldestMatch (py : Runtime) (m : LRUStatusMonitor) (key lruId : String) : Prop :=
  (∀ older ∈ (m.forcedFaults.map Prod.fst).takeWhile (fun other => other ≠ lruId),
    m.matchesKey py (py.lower (strip key)) older = false) ∧
  (lruId ∈ m.forcedFaults.map Prod.fst → m.matchesKey py (py.lower (strip key)) lruId = true)

instance (py : Runtime) (m : LRUStatusMonitor) (key lruId : String) :
    Decidable (OldestMatch py m key lruId) :=
  inferInstanceAs (Decidable (_ ∧ _))

/-- A search finds `x` where `x` is there, and nothing where it is not, exactly when nothing before `x`
meets the predicate and `x` does. -/
theorem find?_eq_iff {α : Type} [DecidableEq α] (p : α → Bool) (x : α) (l : List α) :
    l.find? p = (if x ∈ l then some x else none) ↔
      (∀ y ∈ l.takeWhile (fun y => y ≠ x), p y = false) ∧ (x ∈ l → p x = true) := by
  induction l with
  | nil => simp
  | cons y rest ih =>
    by_cases hyx : y = x
    · subst hyx
      rw [if_pos List.mem_cons_self, List.takeWhile_cons_of_neg (by simp)]
      cases hp : p y with
      | true => simp [hp]
      | false =>
        rw [List.find?_cons_of_neg (by rw [hp]; exact Bool.false_ne_true)]
        refine iff_of_false (fun hfind => ?_) fun h => ?_
        · have hfound := List.find?_some hfind
          rw [hp] at hfound
          cases hfound
        · cases h.2 List.mem_cons_self
    · rw [List.takeWhile_cons_of_pos (by simp [hyx])]
      have hmem : x ∈ y :: rest ↔ x ∈ rest := by
        rw [List.mem_cons, or_iff_right (Ne.symm hyx)]
      simp only [hmem]
      cases hp : p y with
      | true =>
        rw [List.find?_cons_of_pos hp]
        refine iff_of_false (fun hfind => ?_) fun h => ?_
        · split_ifs at hfind
          · exact hyx (Option.some.inj hfind)
        · rw [h.1 y List.mem_cons_self] at hp
          cases hp
      | false =>
        rw [List.find?_cons_of_neg (by rw [hp]; exact Bool.false_ne_true), ih, List.forall_mem_cons,
          and_iff_right hp]

/-- The one override that a key clears, if any. -/
theorem clearForcedFault_forced (py : Runtime) {m : LRUStatusMonitor} (hm : m.Sound) (key : String) :
    (m.clearForcedFault py (some key)).2.forcedFaults =
      match (m.forcedFaults.map Prod.fst).find? (m.matchesKey py (py.lower (strip key))) with
      | some lruId => Dict.erase m.forcedFaults lruId
      | none => m.forcedFaults := by
  simp only [clearForcedFault, clearTargets]
  cases hfind : (m.forcedFaults.map Prod.fst).find? (m.matchesKey py (py.lower (strip key))) with
  | none => rfl
  | some lruId =>
    have hmem := List.mem_of_find?_eq_some hfind
    have hne : lruId ≠ "" := by
      rintro rfl
      cases hget : Dict.get? m.forcedFaults "" with
      | none => exact Dict.get?_eq_none_iff.mp hget hmem
      | some override =>
        have hat := hm.soundAt ""
        rw [SoundAt] at hat
        split at hat
        · exact hat.id_ne_empty rfl
        · rw [hget] at hat
          cases hat.1
    dsimp only
    rw [if_neg hne]
    rfl

theorem erase_eq_erase_iff {d : Dict String (HealthState × String)} {a b : String}
    (ha : a ∈ d.map Prod.fst) : Dict.erase d a = Dict.erase d b ↔ a = b := by
  constructor
  · intro h
    by_contra hne
    have hgone : Dict.get? (Dict.erase d b) a = none := h ▸ Dict.get?_erase_self d a
    rw [Dict.get?_erase_ne _ (Ne.symm hne), Dict.get?_eq_none_iff] at hgone
    exact hgone ha
  · rintro rfl
    rfl

theorem eq_erase_iff {d : Dict String (HealthState × String)} {b : String} :
    d = Dict.erase d b ↔ b ∉ d.map Prod.fst := by
  constructor
  · intro h
    rw [← Dict.get?_eq_none_iff, h]
    exact Dict.get?_erase_self d b
  · intro h
    apply Eq.symm
    apply List.filter_eq_self.mpr
    intro e he
    exact decide_eq_true fun heq => h (List.mem_map.mpr ⟨e, he, heq⟩)

/-- Clearing by a key removes the override of `lruId` and no other exactly when this is the oldest one
that the key matches. -/
theorem clears_only_iff (py : Runtime) {m : LRUStatusMonitor} (hm : m.Sound) (key lruId : String) :
    (m.clearForcedFault py (some key)).2.forcedFaults = Dict.erase m.forcedFaults lruId ↔
      OldestMatch py m key lruId := by
  rw [clearForcedFault_forced py hm, OldestMatch, ← find?_eq_iff]
  split
  · rename_i found hfind
    have hmem := List.mem_of_find?_eq_some hfind
    rw [erase_eq_erase_iff hmem, hfind]
    constructor
    · rintro rfl
      rw [if_pos hmem]
    · intro h
      split_ifs at h
      exact Option.some.inj h
  · rename_i hfind
    rw [eq_erase_iff, hfind]
    constructor
    · intro hnot
      rw [if_neg hnot]
    · intro h hmem
      rw [if_pos hmem] at h
      cases h

/-! ### Health without overrides -/

theorem has_iff_catalogued {m : LRUStatusMonitor} (hm : m.Sound) (hforced : m.forcedFaults = [])
    (lruId : String) : Dict.has m.lrus lruId = true ↔ lruId ∈ catalogueIds := by
  have hat := hm.soundAt lruId
  rw [SoundAt, hforced] at hat
  rw [Dict.has]
  split at hat
  · rename_i lru hget
    rw [hget]
    refine iff_of_true rfl (hat.catalogued.mp ?_)
    by_contra hfalse
    cases (hat.declared (Bool.not_eq_true _ ▸ hfalse)).2
  · rename_i hget
    rw [hget]
    exact iff_of_false Bool.false_ne_true hat.2

/-- An entry after a poll of its unit. -/
def polled (py : Runtime) (lru : LRU) (reading : Reading) : LRU :=
  { lru with
    health := (reading.derive py lru.bitResult).1
    faultDetail := (reading.derive py lru.bitResult).2 }

theorem pollLru_of_not_forced (py : Runtime) {m : LRUStatusMonitor} {id : String} {lru : LRU}
    (hget : Dict.get? m.lrus id = some lru) (haccessor : lru.accessor = true)
    (hforced : m.forcedFaults = []) (reading : Reading) :
    m.pollLru py id reading = { m with lrus := Dict.set m.lrus id (polled py lru reading) } := by
  rw [pollLru, hget]
  dsimp only
  rw [if_pos haccessor, hforced]
  rfl

/-- Polling units with accessors one after the other, none of them forced. -/
theorem foldl_pollLru (py : Runtime) (readings : String → Reading) {ids : List String}
    (hids : ids.Nodup) {m : LRUStatusMonitor} (hforced : m.forcedFaults = [])
    (haccessor : ∀ id ∈ ids, ∃ lru, Dict.get? m.lrus id = some lru ∧ lru.accessor = true) :
    ((ids.foldl (fun m id => m.pollLru py id (readings id)) m).lrus.map Prod.fst =
      m.lrus.map Prod.fst) ∧
    ∀ id, Dict.get? (ids.foldl (fun m id => m.pollLru py id (readings id)) m).lrus id =
      if id ∈ ids then (Dict.get? m.lrus id).map fun lru => polled py lru (readings id)
      else Dict.get? m.lrus id := by
  induction ids generalizing m with
  | nil => exact ⟨rfl, fun id => (if_neg List.not_mem_nil).symm⟩
  | cons first rest ih =>
    rw [List.nodup_cons] at hids
    obtain ⟨lru, hget, htrue⟩ := haccessor first List.mem_cons_self
    have hstep := pollLru_of_not_forced py hget htrue hforced (readings first)
    have hrest : ∀ id ∈ rest, Dict.get? (m.pollLru py first (readings first)).lrus id =
        Dict.get? m.lrus id := by
      intro id hid
      rw [hstep]
      exact Dict.get?_set_ne _ _ fun h => hids.1 (h ▸ hid)
    obtain ⟨hkeys, hread⟩ := ih (m := m.pollLru py first (readings first)) hids.2
      (by rw [hstep]; exact hforced) fun id hid => by
        rw [hrest id hid]
        exact haccessor id (List.mem_cons_of_mem _ hid)
    rw [List.foldl_cons]
    refine ⟨hkeys.trans (by rw [hstep]; exact Dict.keys_set_of_get? hget _), fun id => ?_⟩
    rw [hread id]
    by_cases hfirst : id = first
    · subst hfirst
      rw [if_neg hids.1, if_pos List.mem_cons_self, hstep, hget]
      exact Dict.get?_set_self _ _ _
    · have hmem : id ∈ first :: rest ↔ id ∈ rest := by
        rw [List.mem_cons, or_iff_right hfirst]
      have hother : Dict.get? (m.pollLru py first (readings first)).lrus id =
          Dict.get? m.lrus id := by
        rw [hstep]
        exact Dict.get?_set_ne _ _ (Ne.symm hfirst)
      simp only [hmem, hother]

/-- The worst state depends only on which states there are. -/
theorem worst_congr {states states' : List HealthState} (h : ∀ state, state ∈ states ↔ state ∈ states') :
    worst states = worst states' := by
  simp only [worst, h]

/-- The bit result that a unit has. -/
def bitResultOf (m : LRUStatusMonitor) (id : String) : Option String :=
  (Dict.get? m.lrus id).bind LRU.bitResult

/-- Without overrides the overall health after a poll is that of the catalogue's units by what was read
from them. -/
theorem overallHealth_pollAll (py : Runtime) {m : LRUStatusMonitor} (hm : m.Sound)
    (hforced : m.forcedFaults = []) (hids : ∀ id, Dict.has m.lrus id = true ↔ id ∈ catalogueIds)
    (readings : String → Reading) :
    (m.pollAll py readings).overallHealth =
      worst (catalogueIds.map fun id => ((readings id).derive py (bitResultOf m id)).1) := by
  have haccessor : ∀ id lru, Dict.get? m.lrus id = some lru → lru.accessor = true := by
    intro id lru hget
    exact (hm.entry hget).catalogued.mpr ((hids id).mp (Dict.has_iff.mpr ⟨lru, hget⟩))
  have hkeys : ∀ id, id ∈ m.lrus.map Prod.fst ↔ id ∈ catalogueIds := by
    intro id
    rw [← hids id, ← not_iff_not, Bool.not_eq_true, Dict.has_eq_false, Dict.get?_eq_none_iff]
  obtain ⟨hsame, hread⟩ := foldl_pollLru py readings hm.keys hforced fun id hid => by
    obtain ⟨lru, hget⟩ := Dict.has_iff.mp ((hids id).mpr ((hkeys id).mp hid))
    exact ⟨lru, hget, haccessor id lru hget⟩
  apply worst_congr
  intro state
  rw [List.mem_map, List.mem_map]
  constructor
  · rintro ⟨e, he, rfl⟩
    have hget := Dict.get?_of_mem (hsame ▸ hm.keys) he
    rw [pollAll] at he hget
    have hmem : e.1 ∈ m.lrus.map Prod.fst := hsame ▸ List.mem_map_of_mem he
    rw [hread, if_pos hmem] at hget
    obtain ⟨lru, hlru, hpolled⟩ := Option.map_eq_some_iff.mp hget
    refine ⟨e.1, (hkeys _).mp hmem, ?_⟩
    rw [bitResultOf, hlru, ← hpolled]
    rfl
  · rintro ⟨id, hid, rfl⟩
    obtain ⟨lru, hlru⟩ := Dict.has_iff.mp ((hids id).mpr hid)
    have hget := hread id
    rw [if_pos ((hkeys id).mpr hid), hlru] at hget
    refine ⟨_, Dict.mem_of_get?_eq_some hget, ?_⟩
    rw [bitResultOf, hlru]
    rfl

/-! ### Runs -/

/-- In every state reached a forced id has an entry with the forced state, without overrides the
entries are those of the catalogue, and a key clears the override of an id alone exactly when that is
the oldest one that the key matches. -/
theorem forced_faults_of_reached (py : Runtime) (actions : List Action) :
    let m := final (step py) LRUStatusMonitor.new actions
    (∀ lruId state detail, Dict.get? m.forcedFaults lruId = some (state, detail) →
      ∃ lru, Dict.get? m.lrus lruId = some lru ∧ lru.health = state) ∧
    (m.forcedFaults = [] → (∀ lruId, Dict.has m.lrus lruId = true ↔ lruId ∈ catalogueIds) ∧
      ∀ readings, (m.pollAll py readings).overallHealth = LRUStatusMonitor.worst
        (catalogueIds.map fun id => ((readings id).derive py (bitResultOf m id)).1)) ∧
    ∀ key lruId, (m.clearForcedFault py (some key)).2.forcedFaults = Dict.erase m.forcedFaults lruId ↔
      OldestMatch py m key lruId := by
  intro m
  have hm : m.Sound := invariant_final LRUStatusMonitor.Sound (step_sound py) new_sound actions
  refine ⟨fun lruId state detail hforced => ?_, fun hempty => ?_, clears_only_iff py hm⟩
  · have hat := hm.soundAt lruId
    rw [SoundAt] at hat
    split at hat
    · rename_i lru hget
      exact ⟨lru, hget, (hat.forced _ hforced).2⟩
    · rw [hforced] at hat
      cases hat.1
  · have hids := has_iff_catalogued hm hempty
    exact ⟨hids, overallHealth_pollAll py hm hempty hids⟩

/-- A scenario forces `gcas pump`, which no unit has, and then `gcas`; clearing `gcas` takes the
override of the pump away. -/
theorem not_clears_only_forced :
    ¬ ∀ (py : Runtime) (before between : List Action) (key detail source : String) (state : HealthState),
      let m := final (step py) LRUStatusMonitor.new before
      let forced := m.forceFault py key state detail source
      let later := final (step py) forced.2 between
      (later.clearForcedFault py (some key)).2.forcedFaults =
        Dict.erase later.forcedFaults forced.1 := by
  intro h
  have hpump := h .ascii [.forceFault "gcas pump" (.inl .fault) "" "scenario"] [] "gcas" "" "scenario"
    .fault
  revert hpump
  decide +kernel

end Fmofp.HardwareHealth
