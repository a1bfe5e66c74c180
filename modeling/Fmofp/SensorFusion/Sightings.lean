import Fmofp.SensorFusion.Contacts

/-! The contacts of every run: they keep five degrees from one another, each is what its own sightings make
of it, and it is listed exactly as long as it was sighted within eight seconds. -/

namespace Fmofp.SensorFusion

open Python Machine

/-! ### Identifiers -/

def idTexts : List String := ["RAD", "LID", "ESM", "IR"]

/-- An identifier with one of the first `seq` numbers. -/
def Issued (seq : ℕ) (id : String) : Prop := ∃ p ∈ idTexts, ∃ n ≤ seq, id = numbered p 4 n

theorem Issued.mono {m n : ℕ} {id : String} (h : Issued m id) (hle : m ≤ n) : Issued n id := by
  obtain ⟨p, hp, k, hk, rfl⟩ := h
  exact ⟨p, hp, k, hk.trans hle, rfl⟩

theorem no_hyphen {p : String} (h : p ∈ idTexts) : '-' ∉ p.toList := by
  revert p
  decide

theorem toContact_contactId (origin : Origin) (det : Detection) (n : ℕ) (now : ℚ) :
    ∃ p ∈ idTexts, (toContact origin det n now).contactId = numbered p 4 n := by
  cases origin with
  | active sensorName accuracy =>
    refine ⟨slice (activeSource sensorName).value 0 3, ?_, rfl⟩
    unfold activeSource
    split <;> decide
  | passive =>
    unfold toContact
    cases Dict.get? det "frequency" with
    | some freq => exact ⟨"ESM", by decide, rfl⟩
    | none => exact ⟨"IR", by decide, rfl⟩

/-- The number of a new contact was not used before. -/
theorem toContact_not_issued (origin : Origin) (det : Detection) (seq : ℕ) (now : ℚ) :
    ¬Issued seq (toContact origin det (seq + 1) now).contactId := by
  obtain ⟨p, hp, hid⟩ := toContact_contactId origin det (seq + 1) now
  rintro ⟨q, hq, n, hn, heq⟩
  obtain ⟨-, hnumber⟩ := numbered_inj (no_hyphen hp) (no_hyphen hq) (hid ▸ heq)
  omega

theorem toContact_lastSeen (origin : Origin) (det : Detection) (n : ℕ) (now : ℚ) :
    (toContact origin det n now).lastSeen = now := by
  unfold toContact
  split
  · rfl
  · split <;> rfl

theorem toContact_source (origin : Origin) (det : Detection) (n : ℕ) (now : ℚ) :
    (toContact origin det n now).source ≠ .fused ∧ (toContact origin det n now).corroboratedBy = [] := by
  unfold toContact
  split
  · refine ⟨?_, rfl⟩
    show activeSource _ ≠ .fused
    unfold activeSource
    split <;> decide
  · split <;> exact ⟨SensorSource.noConfusion, rfl⟩

/-! ### The gate -/

/-- The bearings of the contacts that have one. -/
def bearings (contacts : Dict String SensorContact) : List ℚ := contacts.filterMap fun e => e.2.bearingDeg

def Separated (contacts : Dict String SensorContact) : Prop :=
  (bearings contacts).Pairwise fun a b => gateDeg ≤ bearingDelta (some a) (some b)

/-- There is room for seventy-two contacts with a bearing. -/
theorem Separated.length_le {contacts : Dict String SensorContact} (h : Separated contacts) :
    (bearings contacts).length ≤ 72 := by
  have hroom : (bearings contacts).length ≤ ⌊(360 : ℚ) / 5⌋₊ :=
    length_le_of_separated (by norm_num) (by norm_num) h
  have hfloor : ⌊(360 : ℚ) / 5⌋₊ = 72 := by norm_num
  exact hfloor ▸ hroom

theorem bearings_set {contacts : Dict String SensorContact} {k : String} {c c' : SensorContact}
    (h : Dict.get? contacts k = some c) (hsame : c'.bearingDeg = c.bearingDeg) :
    bearings (Dict.set contacts k c') = bearings contacts := by
  induction contacts with
  | nil => cases h
  | cons e rest ih =>
    obtain ⟨j, d⟩ := e
    rw [Dict.get?_cons] at h
    rw [Dict.set]
    split_ifs at h ⊢ with hj
    · obtain rfl := Option.some.inj h
      simp only [bearings, List.filterMap_cons, hsame]
    · have hrest := ih h
      simp only [bearings] at hrest
      simp only [bearings, List.filterMap_cons, hrest]

theorem Separated.append {contacts : Dict String SensorContact} (h : Separated contacts) (id : String)
    {new : SensorContact} (hapart : ∀ e ∈ contacts, gateDeg ≤ bearingDelta e.2.bearingDeg new.bearingDeg) :
    Separated (contacts ++ [(id, new)]) := by
  rw [Separated, bearings, List.filterMap_append, List.pairwise_append]
  refine ⟨h, ?_, fun a ha b hb => ?_⟩
  · cases hbearing : new.bearingDeg <;> simp [hbearing]
  · obtain ⟨e, he, hea⟩ := List.mem_filterMap.mp ha
    have hnew : new.bearingDeg = some b := by simpa using hb
    rw [← hea, ← hnew]
    exact hapart e he

/-! ### One step -/

/-- A sequence of updates is a run of what each of them does. -/
theorem foldl_update (us : List Update) (s : SensorDataFusion) :
    us.foldl update s = final step s (us.flatMap Update.actions) := by
  induction us generalizing s with
  | nil => rfl
  | cons u us ih => rw [List.foldl_cons, ih, List.flatMap_cons, final_append, update]

@[simp] theorem corroborate_bearingDeg (c new : SensorContact) (now : ℚ) :
    (c.corroborate new now).bearingDeg = c.bearingDeg := rfl

/-- A detection either goes to a contact within the gate or, if there is none, becomes a new contact. -/
theorem mergeOrAdd_cases (now : ℚ) (new : SensorContact) {contacts : Dict String SensorContact}
    (hnodup : (contacts.map Prod.fst).Nodup) (hfresh : new.contactId ∉ contacts.map Prod.fst) :
    (∃ k c, Dict.get? contacts k = some c ∧ bearingDelta c.bearingDeg new.bearingDeg < gateDeg ∧
      mergeOrAdd now new contacts = (k, Dict.set contacts k (c.corroborate new now))) ∨
    ((∀ e ∈ contacts, gateDeg ≤ bearingDelta e.2.bearingDeg new.bearingDeg) ∧
      mergeOrAdd now new contacts = (new.contactId, contacts ++ [(new.contactId, new)])) := by
  unfold mergeOrAdd
  cases hmatch : matchOf contacts new with
  | some e =>
    obtain ⟨k, c⟩ := e
    refine .inl ⟨k, c, Dict.get?_of_mem hnodup (List.mem_of_find?_eq_some hmatch), ?_, rfl⟩
    simpa using List.find?_some hmatch
  | none =>
    refine .inr ⟨fun e he => ?_, ?_⟩
    · simpa using List.find?_eq_none.mp hmatch e he
    · rw [Dict.set_eq_append (Dict.get?_eq_none_iff.mpr hfresh)]

/-- Contacts have distinct identifiers with numbers that were given out, and keep their distance. -/
structure Sound (s : SensorDataFusion) : Prop where
  nodup : (s.contacts.map Prod.fst).Nodup
  issued : ∀ k ∈ s.contacts.map Prod.fst, Issued s.seq k
  separated : Separated s.contacts

theorem sound_initial : Sound .initial :=
  ⟨List.nodup_nil, fun k hk => absurd hk (by simp [SensorDataFusion.initial]), List.Pairwise.nil⟩

theorem Sound.fresh {s : SensorDataFusion} (h : Sound s) (origin : Origin) (det : Detection) (now : ℚ) :
    (toContact origin det (s.seq + 1) now).contactId ∉ s.contacts.map Prod.fst :=
  fun hmem => toContact_not_issued origin det s.seq now (h.issued _ hmem)

/-- What the step of a detection does. -/
theorem Sound.step_detect {s : SensorDataFusion} (h : Sound s) (origin : Origin) (det : Detection) (now : ℚ) :
    let new := toContact origin det (s.seq + 1) now
    (∃ k c, Dict.get? s.contacts k = some c ∧ bearingDelta c.bearingDeg new.bearingDeg < gateDeg ∧
      step s (.detect origin det now) =
        ([⟨k, new, now⟩], ⟨Dict.set s.contacts k (c.corroborate new now), s.seq + 1⟩)) ∨
    ((∀ e ∈ s.contacts, gateDeg ≤ bearingDelta e.2.bearingDeg new.bearingDeg) ∧
      step s (.detect origin det now) =
        ([⟨new.contactId, new, now⟩], ⟨s.contacts ++ [(new.contactId, new)], s.seq + 1⟩)) := by
  intro new
  rcases mergeOrAdd_cases now new h.nodup (h.fresh origin det now) with ⟨k, c, hget, hgate, hmerged⟩ | ⟨hapart, hmerged⟩
  · exact .inl ⟨k, c, hget, hgate, by rw [step, hmerged]⟩
  · exact .inr ⟨hapart, by rw [step, hmerged]⟩

theorem expireStale_sublist (now : ℚ) (contacts : Dict String SensorContact) :
    (expireStale now contacts).Sublist contacts := List.filter_sublist

theorem Sound.step {s : SensorDataFusion} (h : Sound s) (a : Action) : Sound (step s a).2 := by
  cases a with
  | expire now =>
    have hsub := expireStale_sublist now s.contacts
    exact ⟨h.nodup.sublist (hsub.map Prod.fst), fun k hk => h.issued k ((hsub.map Prod.fst).subset hk),
      h.separated.sublist (hsub.filterMap _)⟩
  | detect origin det now =>
    rcases h.step_detect origin det now with ⟨k, c, hget, -, hstep⟩ | ⟨hapart, hstep⟩
    · rw [hstep]
      have hkeys := Dict.keys_set_of_get? hget (c.corroborate (toContact origin det (s.seq + 1) now) now)
      refine ⟨?_, fun j hj => ?_, ?_⟩
      · rw [hkeys]
        exact h.nodup
      · exact (h.issued j (hkeys ▸ hj)).mono (Nat.le_succ _)
      · show Separated (Dict.set s.contacts k _)
        rw [Separated, bearings_set hget (corroborate_bearingDeg _ _ _)]
        exact h.separated
    · rw [hstep]
      obtain ⟨p, hp, hid⟩ := toContact_contactId origin det (s.seq + 1) now
      refine ⟨?_, fun j hj => ?_, h.separated.append _ hapart⟩
      · simp only [List.map_append, List.map_cons, List.map_nil]
        exact List.Nodup.append h.nodup (List.nodup_singleton _)
          (List.disjoint_singleton.mpr (h.fresh origin det now))
      · simp only [List.map_append, List.map_cons, List.map_nil, List.mem_append, List.mem_singleton] at hj
        rcases hj with hold | rfl
        · exact (h.issued j hold).mono (Nat.le_succ _)
        · exact ⟨p, hp, s.seq + 1, le_rfl, hid⟩

/-- After every part of every run the contacts have distinct identifiers, those with a bearing keep five
degrees from one another on the circle, and they are at most seventy-two. -/
theorem contacts_separated (actions : List Action) :
    let contacts := (final step .initial actions).contacts
    (contacts.map Prod.fst).Nodup ∧ Separated contacts ∧ (bearings contacts).length ≤ 72 := by
  have h : Sound (final step .initial actions) :=
    invariant_final Sound (fun s a hs => hs.step a) sound_initial actions
  exact ⟨h.nodup, h.separated, h.separated.length_le⟩

/-! ### The story of a contact -/

/-- The sightings that went to the contact `k`. -/
def sightingsOf (sightings : List Sighting) (k : String) : List Sighting :=
  sightings.filter fun s => decide (s.contactId = k)

/-- What a first detection becomes when others are added to it. -/
def retell (first : Sighting) (rest : List Sighting) : SensorContact :=
  rest.foldl (fun c s => c.corroborate s.detected s.time) first.detected

/-- A listed contact is its first sighting with all the later ones added, each of which lay within the gate;
and no sighting has a number that is still to be given out. -/
structure Told (sightings : List Sighting) (s : SensorDataFusion) : Prop where
  sound : Sound s
  detected : ∀ t ∈ sightings, ∃ origin det n, t.detected = toContact origin det n t.time
  issued : ∀ t ∈ sightings, Issued s.seq t.contactId
  told : ∀ k c, Dict.get? s.contacts k = some c → ∃ first rest, sightingsOf sightings k = first :: rest ∧
    first.detected.contactId = k ∧ c = retell first rest ∧
    ∀ t ∈ rest, bearingDelta c.bearingDeg t.detected.bearingDeg < gateDeg

theorem told_initial : Told [] .initial where
  sound := sound_initial
  detected _ ht := absurd ht List.not_mem_nil
  issued _ ht := absurd ht List.not_mem_nil
  told _ _ h := absurd h (by simp [SensorDataFusion.initial])

/-- The step of a detection yields that detection, as a contact. -/
theorem Told.detected_step {sightings : List Sighting} {s : SensorDataFusion} (h : Told sightings s) (a : Action) :
    ∀ t ∈ sightings ++ (step s a).1, ∃ origin det n, t.detected = toContact origin det n t.time := by
  intro t ht
  rcases List.mem_append.mp ht with hold | hnew
  · exact h.detected t hold
  · cases a with
    | expire now => cases hnew
    | detect origin det now =>
      obtain rfl := List.mem_singleton.mp hnew
      exact ⟨origin, det, s.seq + 1, rfl⟩

theorem sightingsOf_append_singleton (sightings : List Sighting) (t : Sighting) (k : String) :
    sightingsOf (sightings ++ [t]) k =
      sightingsOf sightings k ++ if t.contactId = k then [t] else [] := by
  rw [sightingsOf, List.filter_append, sightingsOf]
  by_cases h : t.contactId = k <;> simp [h]

theorem retell_concat (first : Sighting) (rest : List Sighting) (t : Sighting) :
    retell first (rest ++ [t]) = (retell first rest).corroborate t.detected t.time := by
  simp [retell]

theorem Told.step {sightings : List Sighting} {s : SensorDataFusion} (h : Told sightings s) (a : Action) :
    Told (sightings ++ (step s a).1) (step s a).2 := by
  cases a with
  | expire now =>
    have hsub := expireStale_sublist now s.contacts
    refine ⟨h.sound.step (.expire now), h.detected_step (.expire now), ?_, fun k c hget => ?_⟩
    · simpa [SensorFusion.step] using h.issued
    · simp only [SensorFusion.step, List.append_nil]
      exact h.told k c (Dict.get?_of_mem h.sound.nodup (hsub.subset (Dict.mem_of_get?_eq_some hget)))
  | detect origin det now =>
    have hsound := h.sound.step (.detect origin det now)
    have hdetected := h.detected_step (.detect origin det now)
    rcases h.sound.step_detect origin det now with ⟨k, c, hget, hgate, hstep⟩ | ⟨hapart, hstep⟩
    · rw [hstep] at hsound hdetected ⊢
      obtain ⟨first, rest, hof, hid, hc, hrest⟩ := h.told k c hget
      refine ⟨hsound, hdetected, fun t ht => ?_, fun j d hj => ?_⟩
      · rcases List.mem_append.mp ht with hold | hnew
        · exact (h.issued t hold).mono (Nat.le_succ _)
        · obtain rfl := List.mem_singleton.mp hnew
          exact (h.sound.issued k (List.mem_map_of_mem (Dict.mem_of_get?_eq_some hget))).mono (Nat.le_succ _)
      · rw [Dict.get?_set] at hj
        rw [sightingsOf_append_singleton]
        split_ifs at hj with hkj
        · subst hkj
          obtain rfl := Option.some.inj hj
          refine ⟨first, rest ++ [⟨k, toContact origin det (s.seq + 1) now, now⟩], ?_, hid, ?_, ?_⟩
          · rw [hof, if_pos rfl, List.cons_append]
          · rw [retell_concat, ← hc]
          · intro t ht
            rcases List.mem_append.mp ht with hold | hnew
            · exact hrest t hold
            · obtain rfl := List.mem_singleton.mp hnew
              exact hgate
        · rw [if_neg hkj, List.append_nil]
          exact h.told j d hj
    · rw [hstep] at hsound hdetected ⊢
      have hunseen : sightingsOf sightings (toContact origin det (s.seq + 1) now).contactId = [] := by
        refine List.filter_eq_nil_iff.mpr fun t ht heq => ?_
        exact toContact_not_issued origin det s.seq now (of_decide_eq_true heq ▸ h.issued t ht)
      refine ⟨hsound, hdetected, fun t ht => ?_, fun j d hj => ?_⟩
      · rcases List.mem_append.mp ht with hold | hnew
        · exact (h.issued t hold).mono (Nat.le_succ _)
        · obtain rfl := List.mem_singleton.mp hnew
          obtain ⟨p, hp, hid⟩ := toContact_contactId origin det (s.seq + 1) now
          exact ⟨p, hp, s.seq + 1, le_rfl, hid⟩
      · rw [sightingsOf_append_singleton]
        rw [Dict.get?_append, Dict.get?_cons, Dict.get?_nil] at hj
        cases hold : Dict.get? s.contacts j with
        | some c =>
          rw [hold, Option.some_or] at hj
          obtain rfl := Option.some.inj hj
          have hne : (toContact origin det (s.seq + 1) now).contactId ≠ j := by
            rintro rfl
            exact h.sound.fresh origin det now (List.mem_map_of_mem (Dict.mem_of_get?_eq_some hold))
          rw [if_neg hne, List.append_nil]
          exact h.told j c hold
        | none =>
          rw [hold, Option.none_or] at hj
          split_ifs at hj with hkj
          subst hkj
          obtain rfl := Option.some.inj hj
          rw [hunseen, if_pos rfl]
          exact ⟨_, [], rfl, rfl, rfl, fun t ht => absurd ht List.not_mem_nil⟩

theorem told_run (actions : List Action) :
    Told (answers step .initial actions) (final step .initial actions) :=
  history_induction (fun _ => Told) (fun _ _ _ a h => h.step a) told_initial actions

/-! ### What the story says -/

theorem value_injective {a b : SensorSource} (h : a.value = b.value) : a = b := by
  revert h
  cases a <;> cases b <;> decide

/-- A list without repetitions has two entries exactly when two of its entries differ. -/
theorem two_le_length_iff {α : Type} [DecidableEq α] {xs : List α} (h : xs.Nodup) :
    2 ≤ xs.length ↔ ∃ a ∈ xs, ∃ b ∈ xs, a ≠ b := by
  have hcard : 1 < xs.toFinset.card ↔ _ := Finset.one_lt_card_iff
  rw [List.toFinset_card_of_nodup h] at hcard
  refine hcard.trans ⟨?_, ?_⟩
  · rintro ⟨a, b, ha, hb, hne⟩
    exact ⟨a, List.mem_toFinset.mp ha, b, List.mem_toFinset.mp hb, hne⟩
  · rintro ⟨a, ha, b, hb, hne⟩
    exact ⟨a, b, List.mem_toFinset.mpr ha, List.mem_toFinset.mpr hb, hne⟩

section Retell

variable {first : Sighting} {rest : List Sighting}

/-- The sources of the later sightings, each once. -/
theorem retell_corroboratedBy (h : first.detected.corroboratedBy = []) :
    (retell first rest).corroboratedBy.Nodup ∧
      ∀ n, n ∈ (retell first rest).corroboratedBy ↔ ∃ t ∈ rest, t.detected.source.value = n := by
  induction rest using List.reverseRecOn with
  | nil => simp [retell, h]
  | append_singleton rest t ih =>
    obtain ⟨hnodup, hmem⟩ := ih
    rw [retell_concat]
    by_cases hold : t.detected.source.value ∈ (retell first rest).corroboratedBy
    · have hsame : ((retell first rest).corroborate t.detected t.time).corroboratedBy =
          (retell first rest).corroboratedBy := if_pos hold
      rw [hsame]
      refine ⟨hnodup, fun n => ?_⟩
      rw [hmem]
      constructor
      · rintro ⟨u, hu, rfl⟩
        exact ⟨u, List.mem_append_left _ hu, rfl⟩
      · rintro ⟨u, hu, rfl⟩
        rcases List.mem_append.mp hu with hu | hu
        · exact ⟨u, hu, rfl⟩
        · obtain rfl := List.mem_singleton.mp hu
          exact (hmem _).mp hold
    · have hnew : ((retell first rest).corroborate t.detected t.time).corroboratedBy =
          (retell first rest).corroboratedBy ++ [t.detected.source.value] := if_neg hold
      rw [hnew]
      refine ⟨List.Nodup.append hnodup (List.nodup_singleton _) (List.disjoint_singleton.mpr hold), fun n => ?_⟩
      rw [List.mem_append, hmem, List.mem_singleton]
      constructor
      · rintro (⟨u, hu, rfl⟩ | rfl)
        · exact ⟨u, List.mem_append_left _ hu, rfl⟩
        · exact ⟨t, by simp, rfl⟩
      · rintro ⟨u, hu, rfl⟩
        rcases List.mem_append.mp hu with hu | hu
        · exact .inl ⟨u, hu, rfl⟩
        · obtain rfl := List.mem_singleton.mp hu
          exact .inr rfl

theorem retell_source :
    (retell first rest).source = .fused ↔
      first.detected.source = .fused ∨ (rest ≠ [] ∧ 2 ≤ (retell first rest).corroboratedBy.length) := by
  induction rest using List.reverseRecOn with
  | nil => simp [retell]
  | append_singleton rest t ih =>
    rw [retell_concat]
    have hgrows : (retell first rest).corroboratedBy.length ≤
        ((retell first rest).corroborate t.detected t.time).corroboratedBy.length := by
      show _ ≤ List.length (if _ then _ else _)
      split_ifs <;> simp
    have hsource : ((retell first rest).corroborate t.detected t.time).source =
        if 2 ≤ ((retell first rest).corroborate t.detected t.time).corroboratedBy.length then .fused
        else (retell first rest).source := rfl
    rw [hsource]
    split_ifs with hmany
    · simp [hmany]
    · rw [ih]
      constructor
      · rintro (hfirst | ⟨-, htwo⟩)
        · exact .inl hfirst
        · omega
      · rintro (hfirst | ⟨-, htwo⟩)
        · exact .inl hfirst
        · exact absurd htwo hmany

theorem retell_confidence (h : rest ≠ []) :
    (retell first rest).confidence = min 1 (first.detected.confidence + rest.length / 10) := by
  induction rest using List.reverseRecOn with
  | nil => exact absurd rfl h
  | append_singleton rest t ih =>
    rw [retell_concat, List.length_append, List.length_singleton]
    have hstep : ((retell first rest).corroborate t.detected t.time).confidence =
        min 1 ((retell first rest).confidence + 1 / 10) := rfl
    rw [hstep]
    cases rest with
    | nil => norm_num [retell]
    | cons u rest =>
      rw [ih (List.cons_ne_nil u rest), min_add, ← min_assoc]
      push_cast
      norm_num
      ring_nf

theorem retell_lastSeen (h : first.detected.lastSeen = first.time) :
    ∃ t ∈ first :: rest, (retell first rest).lastSeen = t.time := by
  cases rest using List.reverseRecOn with
  | nil => exact ⟨first, by simp, h⟩
  | append_singleton rest t => exact ⟨t, by simp, by rw [retell_concat]; rfl⟩

end Retell

/-- A listed contact counts as fused exactly when two of its later sightings come from different sources: the
sensor that found it does not count.  Every later sighting lay within the gate and raised the confidence by a
tenth, up to one. -/
theorem fused_iff_later_sources_differ (actions : List Action) {k : String} {c : SensorContact}
    (h : Dict.get? (final step .initial actions).contacts k = some c) :
    ∃ first rest, sightingsOf (answers step .initial actions) k = first :: rest ∧
      first.detected.contactId = k ∧
      (c.source = .fused ↔ ∃ t ∈ rest, ∃ u ∈ rest, t.detected.source ≠ u.detected.source) ∧
      (rest ≠ [] → c.confidence = min 1 (first.detected.confidence + rest.length / 10)) ∧
      ∀ t ∈ rest, bearingDelta c.bearingDeg t.detected.bearingDeg < gateDeg := by
  have htold := told_run actions
  obtain ⟨first, rest, hof, hid, rfl, hgate⟩ := htold.told k c h
  refine ⟨first, rest, hof, hid, ?_, retell_confidence, hgate⟩
  have hfirst : first ∈ answers step .initial actions :=
    List.mem_of_mem_filter (hof ▸ List.mem_cons_self : first ∈ sightingsOf _ k)
  obtain ⟨origin, det, n, hdetected⟩ := htold.detected first hfirst
  obtain ⟨hsource, hnames⟩ := toContact_source origin det n first.time
  rw [← hdetected] at hsource hnames
  obtain ⟨hnodup, hmem⟩ := @retell_corroboratedBy first rest hnames
  rw [retell_source, two_le_length_iff hnodup]
  constructor
  · rintro (hfused | ⟨-, a, ha, b, hb, hne⟩)
    · exact absurd hfused hsource
    · obtain ⟨t, ht, rfl⟩ := (hmem a).mp ha
      obtain ⟨u, hu, rfl⟩ := (hmem b).mp hb
      exact ⟨t, ht, u, hu, fun heq => hne (congrArg SensorSource.value heq)⟩
  · rintro ⟨t, ht, u, hu, hne⟩
    exact .inr ⟨List.ne_nil_of_mem ht, _, (hmem _).mpr ⟨t, ht, rfl⟩, _, (hmem _).mpr ⟨u, hu, rfl⟩,
      fun heq => hne (value_injective heq)⟩

/-- Radar, infrared and radar again, on nearly the same bearing. -/
def threeSightings : List Action :=
  [.detect (.active "main_radar" (95 / 100)) [("distance", 40000), ("angle", 358), ("speed", 200)] 100,
    .detect .passive [("distance", 39000), ("angle", 2)] 101,
    .detect (.active "main_radar" (95 / 100)) [("distance", 38000), ("angle", 0), ("speed", 210)] 102]

theorem fused_iff_later_sources_differ_three : ∃ c first rest,
    Dict.get? (final step .initial threeSightings).contacts "RAD-0001" = some c ∧
      sightingsOf (answers step .initial threeSightings) "RAD-0001" = first :: rest ∧
      (c.source = .fused ↔ ∃ t ∈ rest, ∃ u ∈ rest, t.detected.source ≠ u.detected.source) := by
  obtain ⟨c, hc⟩ := Option.isSome_iff_exists.mp
    (by decide +kernel : (Dict.get? (final step .initial threeSightings).contacts "RAD-0001").isSome = true)
  obtain ⟨first, rest, hof, -, hfused, -⟩ := fused_iff_later_sources_differ threeSightings hc
  exact ⟨c, first, rest, hc, hof, hfused⟩

/-! ### How long a contact is listed -/

/-- The clock does not go back. -/
def Timely (actions : List Action) : Prop := (actions.map Action.clock).Pairwise (· ≤ ·)

/-- A detection is with the contact that takes it. -/
theorem Sound.taken {s : SensorDataFusion} (h : Sound s) (origin : Origin) (det : Detection) (now : ℚ) :
    ∀ t ∈ (SensorFusion.step s (.detect origin det now)).1, t.time = now ∧
      ∃ c, Dict.get? (SensorFusion.step s (.detect origin det now)).2.contacts t.contactId = some c ∧
        c.lastSeen = now := by
  intro t ht
  rcases h.step_detect origin det now with ⟨k, d, -, -, hstep⟩ | ⟨-, hstep⟩
  · rw [hstep] at ht ⊢
    obtain rfl := List.mem_singleton.mp ht
    exact ⟨rfl, _, Dict.get?_set_self _ _ _, rfl⟩
  · rw [hstep] at ht ⊢
    obtain rfl := List.mem_singleton.mp ht
    have hfresh := Dict.get?_eq_none_iff.mpr (h.fresh origin det now)
    refine ⟨rfl, toContact origin det (s.seq + 1) now, ?_, toContact_lastSeen origin det _ now⟩
    simp only [Dict.get?_append, hfresh, Option.none_or, Dict.get?_cons, if_true]

/-- A contact that was seen at `time` or later is kept, or dropped when that is too long ago. -/
theorem Sound.kept {s : SensorDataFusion} (h : Sound s) (a : Action) {k : String} {c : SensorContact} {time : ℚ}
    (hget : Dict.get? s.contacts k = some c) (hseen : time ≤ c.lastSeen) (htime : time ≤ a.clock) :
    (∃ c', Dict.get? (SensorFusion.step s a).2.contacts k = some c' ∧ time ≤ c'.lastSeen) ∨
      contactTtlS < a.clock - time := by
  cases a with
  | expire now =>
    by_cases hstale : contactTtlS < now - c.lastSeen
    · refine .inr ?_
      show contactTtlS < now - time
      linarith
    · have hmem : (k, c) ∈ expireStale now s.contacts :=
        List.mem_filter.mpr ⟨Dict.mem_of_get?_eq_some hget, by simpa using hstale⟩
      exact .inl ⟨c, Dict.get?_of_mem (h.step (.expire now)).nodup hmem, hseen⟩
  | detect origin det now =>
    rcases h.step_detect origin det now with ⟨j, d, -, -, hstep⟩ | ⟨-, hstep⟩
    · rw [hstep]
      refine .inl ?_
      simp only [Dict.get?_set]
      split_ifs with hk
      · exact ⟨_, rfl, htime⟩
      · exact ⟨c, hget, hseen⟩
    · rw [hstep]
      refine .inl ⟨c, ?_, hseen⟩
      simp only [Dict.get?_append, hget, Option.some_or]

/-- What was sighted is still listed with a stamp that is no older, or was dropped when it was too old. -/
theorem sighting_kept {actions : List Action} (h : Timely actions) :
    ∀ t ∈ answers step .initial actions, t.time ∈ actions.map Action.clock ∧
      ((∃ c, Dict.get? (final step .initial actions).contacts t.contactId = some c ∧ t.time ≤ c.lastSeen) ∨
        ∃ now ∈ actions.map Action.clock, contactTtlS < now - t.time) := by
  induction actions using List.reverseRecOn with
  | nil => exact fun t ht => absurd ht List.not_mem_nil
  | append_singleton actions a ih =>
    rw [Timely, List.map_append, List.pairwise_append] at h
    obtain ⟨hbefore, -, hlater⟩ := h
    have hsound := (told_run actions).sound
    rw [answers_concat, final_concat]
    intro t ht
    rw [List.map_append]
    have hlast : a.clock ∈ actions.map Action.clock ++ [a].map Action.clock := by simp
    rcases List.mem_append.mp ht with hold | hnew
    · obtain ⟨htime, hkept⟩ := ih hbefore t hold
      refine ⟨List.mem_append_left _ htime, ?_⟩
      rcases hkept with ⟨c, hget, hc⟩ | ⟨now, hnow, hexpired⟩
      · refine (hsound.kept a hget hc (hlater _ htime _ (by simp))).imp id fun hexpired => ?_
        exact ⟨a.clock, hlast, hexpired⟩
      · exact .inr ⟨now, List.mem_append_left _ hnow, hexpired⟩
    · cases a with
      | expire now => cases hnew
      | detect origin det now =>
        obtain ⟨htime, c, hget, hc⟩ := hsound.taken origin det now t hnew
        exact ⟨htime ▸ hlast, .inl ⟨c, hget, (htime.trans hc.symm).le⟩⟩

/-- After the stale contacts were dropped at `now`, a contact is listed exactly when one of its sightings is at
most eight seconds old. -/
theorem listed_iff_sighted_recently {actions : List Action} {now : ℚ}
    (h : Timely (actions ++ [.expire now])) (k : String) :
    Dict.has (final step .initial (actions ++ [.expire now])).contacts k = true ↔
      ∃ t ∈ sightingsOf (answers step .initial actions) k, now - t.time ≤ 8 := by
  have htold := told_run actions
  have hnodup := (htold.sound.step (.expire now)).nodup
  have hbefore : ∀ clock ∈ actions.map Action.clock, clock ≤ now := by
    rw [Timely, List.map_append, List.pairwise_append] at h
    exact fun clock hclock => h.2.2 clock hclock now (by simp [Action.clock])
  have hactions : Timely actions := by
    rw [Timely, List.map_append, List.pairwise_append] at h
    exact h.1
  rw [final_concat, Dict.has_iff]
  constructor
  · rintro ⟨c, hget⟩
    obtain ⟨hmem, hfresh⟩ := List.mem_filter.mp (Dict.mem_of_get?_eq_some hget)
    obtain ⟨first, rest, hof, -, rfl, -⟩ := htold.told k c (Dict.get?_of_mem htold.sound.nodup hmem)
    have hfirst : first ∈ answers step .initial actions :=
      List.mem_of_mem_filter (hof ▸ List.mem_cons_self : first ∈ sightingsOf _ k)
    obtain ⟨origin, det, n, hdetected⟩ := htold.detected first hfirst
    obtain ⟨t, ht, hseen⟩ := @retell_lastSeen first rest
      (hdetected ▸ toContact_lastSeen origin det n first.time)
    have hage : ¬contactTtlS < now - (retell first rest).lastSeen := by simpa using hfresh
    rw [hseen, contactTtlS] at hage
    exact ⟨t, hof ▸ ht, not_lt.mp hage⟩
  · rintro ⟨t, ht, hrecent⟩
    obtain ⟨hmem, hk⟩ := List.mem_filter.mp ht
    obtain rfl := of_decide_eq_true hk
    rcases (sighting_kept hactions t hmem).2 with ⟨c, hget, hc⟩ | ⟨clock, hclock, hexpired⟩
    · have hfresh : ¬contactTtlS < now - c.lastSeen := by
        rw [contactTtlS]
        linarith
      have hlisted : (t.contactId, c) ∈ expireStale now (final step .initial actions).contacts :=
        List.mem_filter.mpr ⟨Dict.mem_of_get?_eq_some hget, by simpa using hfresh⟩
      exact ⟨c, Dict.get?_of_mem hnodup hlisted⟩
    · have hle := hbefore clock hclock
      rw [contactTtlS] at hexpired
      linarith

/-- Eight seconds after its last sighting the contact is still listed. -/
theorem listed_iff_sighted_recently_three :
    Timely (threeSightings ++ [.expire 110]) ∧
      (Dict.has (final step .initial (threeSightings ++ [.expire 110])).contacts "RAD-0001" = true ↔
        ∃ t ∈ sightingsOf (answers step .initial threeSightings) "RAD-0001", 110 - t.time ≤ 8) := by
  have htimely : Timely (threeSightings ++ [.expire 110]) := by
    unfold Timely
    decide +kernel
  exact ⟨htimely, listed_iff_sighted_recently htimely "RAD-0001"⟩

end Fmofp.SensorFusion
