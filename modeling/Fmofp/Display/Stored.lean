import Fmofp.Display.DataCoordinator

/-! What `store_data` stores of dictionaries that have their ids: the entries whose position has two
components, not both zero, unless an id is unknown or a message type cannot be read. -/

namespace Fmofp.Display

open Python

/-- The components of a position, where they are numbers. -/
def coordinates : Value → Option (List ℚ)
  | .list items => items.mapM Value.number?
  | .tuple items => items.mapM Value.number?
  | _ => none

/-- The last check lets a position pass. -/
def passes (position : Value) : Bool :=
  match fixedPosition position with
  | .tuple [x, y] => !(decide (x.number? = some 0) && decide (y.number? = some 0))
  | _ => false

/-- A truthy message type is text. -/
def Readable (m : Message) : Prop := (messageType m).truthy = true → (messageType m).isText = true

theorem mapM_number?_length {items : List Value} {qs : List ℚ}
    (h : items.mapM Value.number? = some qs) : items.length = qs.length := by
  induction items generalizing qs with
  | nil =>
    cases h
    rfl
  | cons v items ih =>
    simp only [List.mapM_cons, Option.bind_eq_bind, Option.bind_eq_some_iff, Option.pure_def,
      Option.some.injEq] at h
    obtain ⟨q, -, rest, hrest, rfl⟩ := h
    rw [List.length_cons, List.length_cons, ih hrest]

/-- A position with number components is a list or a tuple of so many items. -/
theorem exists_items {v : Value} {qs : List ℚ} (h : coordinates v = some qs) :
    ∃ items, (v = .list items ∨ v = .tuple items) ∧ items.mapM Value.number? = some qs ∧
      v.iterate = .ok items := by
  cases v with
  | list items => exact ⟨items, .inl rfl, h, rfl⟩
  | tuple items => exact ⟨items, .inr rfl, h, rfl⟩
  | _ => cases h

theorem exists_pair {items : List Value} {x y : ℚ} (h : items.mapM Value.number? = some [x, y]) :
    ∃ v w, items = [v, w] ∧ v.number? = some x ∧ w.number? = some y := by
  have hlength := mapM_number?_length h
  match items, hlength with
  | [v, w], _ =>
    simp only [List.mapM_cons, List.mapM_nil, Option.bind_eq_bind, Option.bind_eq_some_iff,
      Option.pure_def, Option.some.injEq] at h
    obtain ⟨q, hv, rest, ⟨r, hw, tail, rfl, rfl⟩, heq⟩ := h
    cases heq
    exact ⟨v, w, rfl, hv, hw⟩

theorem fixedPosition_of_coordinates {v : Value} {qs : List ℚ} (h : coordinates v = some qs)
    (hlength : 2 ≤ qs.length) : ∃ items, fixedPosition v = .tuple items ∧
      items.mapM Value.number? = some qs := by
  obtain ⟨items, hv, hitems, -⟩ := exists_items h
  have hitems' := mapM_number?_length hitems
  rcases hv with rfl | rfl <;> exact ⟨items, if_pos (by omega), hitems⟩

theorem coordinates_fixedPosition {v : Value} {qs : List ℚ} (h : coordinates v = some qs)
    (hlength : 2 ≤ qs.length) : coordinates (fixedPosition v) = some qs := by
  obtain ⟨items, hv, hitems⟩ := fixedPosition_of_coordinates h hlength
  rw [hv]
  exact hitems

theorem passes_pair {v : Value} {x y : ℚ} (h : coordinates v = some [x, y]) :
    passes v = !(decide (x = 0) && decide (y = 0)) := by
  obtain ⟨items, hv, hitems⟩ := fixedPosition_of_coordinates h (by simp)
  obtain ⟨a, b, rfl, ha, hb⟩ := exists_pair hitems
  simp [passes, hv, ha, hb]

theorem passes_of_length {v : Value} {qs : List ℚ} (h : coordinates v = some qs)
    (hlength : 2 < qs.length) : passes v = false := by
  obtain ⟨items, hv, hitems⟩ := fixedPosition_of_coordinates h (by omega)
  have hitems' := mapM_number?_length hitems
  rw [passes, hv]
  match items, hitems' with
  | [], hl => simp at hl; omega
  | [a], hl => rfl
  | [a, b], hl => simp at hl; omega
  | a :: b :: c :: rest, _ => rfl

/-! ### The fields of an entry -/

theorem messageType_set (m : Message) {k : String} (v : Value) (htype : k ≠ "message_type")
    (hmetadata : k ≠ "metadata") (hinfo : k ≠ "additional_info") :
    messageType (Dict.set m k v) = messageType m := by
  unfold messageType
  simp only [Dict.get?_set_ne _ _ htype, Dict.getD_set_ne _ hmetadata, Dict.getD_set_ne _ hinfo]

theorem readable_set (m : Message) {k : String} (v : Value) (htype : k ≠ "message_type")
    (hmetadata : k ≠ "metadata") (hinfo : k ≠ "additional_info") :
    Readable (Dict.set m k v) ↔ Readable m := by
  unfold Readable
  rw [messageType_set m v htype hmetadata hinfo]

theorem hasType_of_readable (py : Runtime) (word : String) (names : List String) {m : Message}
    (h : Readable m) : ∃ b, hasType py word names m = .ok b := by
  unfold hasType
  split_ifs with htruthy
  · have htext := h htruthy
    cases hm : messageType m with
    | str s => exact ⟨_, rfl⟩
    | _ =>
      rw [hm] at htext
      cases htext
  · exact ⟨false, rfl⟩

theorem hasType_of_unreadable (py : Runtime) (word : String) (names : List String) {m : Message}
    (h : ¬Readable m) : hasType py word names m = .error .attributeError := by
  unfold Readable at h
  push Not at h
  unfold hasType
  rw [if_pos h.1]
  cases hm : messageType m with
  | str s =>
    rw [hm] at h
    exact absurd rfl h.2
  | _ => rfl

theorem getD_synchronizeType (m : Message) (default : Value) :
    Dict.getD (synchronizeType m) "position" default = Dict.getD m "position" default := by
  have hprecip : "precip_type" ≠ "position" := by decide
  have htype : "type" ≠ "position" := by decide
  unfold synchronizeType
  dsimp only
  split_ifs
  · rfl
  · rw [Dict.getD_set_ne _ hprecip, Dict.getD_set_ne _ htype]

theorem getD_shown (m : Message) (position v default : Value) :
    Dict.getD (Dict.set (Dict.set m "position" position) "show_values" v) "position" default = position := by
  rw [Dict.getD_set_ne _ (by decide), Dict.getD_set_self]

theorem readable_shown (m : Message) (position v : Value) :
    Readable (Dict.set (Dict.set m "position" position) "show_values" v) ↔ Readable m := by
  rw [readable_set _ _ (by decide) (by decide) (by decide),
    readable_set _ _ (by decide) (by decide) (by decide)]

/-- The types are read of all but VIL data. -/
theorem processFields_of_readable (py : Runtime) {dataType : String} {item : RawItem}
    (h : dataType = "vil" ∨ Readable item.fields) : ∃ fields,
      processFields py dataType item = .ok fields ∧
        Dict.getD fields "position" .none = fixedPosition (givenPosition item.fields) := by
  unfold processFields
  dsimp only
  set shown := Dict.set (Dict.set item.fields "position" (fixedPosition (givenPosition item.fields)))
    "show_values" (if item.isDict then .bool true
    else .bool ((Dict.getD item.fields "show_values" (.bool true)).truthy)) with hshown
  have hposition : Dict.getD shown "position" .none = fixedPosition (givenPosition item.fields) := by
    rw [hshown]
    exact getD_shown _ _ _ _
  by_cases hvil : dataType = "vil"
  · rw [if_pos hvil]
    exact ⟨shown, rfl, hposition⟩
  · have hreadable : Readable shown := by
      rw [hshown]
      exact (readable_shown _ _ _).mpr (h.resolve_left hvil)
    obtain ⟨vil, hfirst⟩ : ∃ b, isVilMessage py shown = .ok b := hasType_of_readable py _ _ hreadable
    obtain ⟨precipitation, hsecond⟩ : ∃ b, isPrecipitationMessage py shown = .ok b :=
      hasType_of_readable py _ _ hreadable
    rw [if_neg hvil, hfirst]
    cases vil with
    | true => exact ⟨shown, rfl, hposition⟩
    | false =>
      by_cases hprecipitation : dataType = "precipitation"
      · rw [if_pos hprecipitation]
        exact ⟨synchronizeType shown, rfl, (getD_synchronizeType shown .none).trans hposition⟩
      · rw [if_neg hprecipitation, hsecond]
        cases precipitation with
        | true => exact ⟨synchronizeType shown, rfl, (getD_synchronizeType shown .none).trans hposition⟩
        | false => exact ⟨shown, rfl, hposition⟩

theorem processFields_of_unreadable (py : Runtime) {dataType : String} {item : RawItem}
    (hvil : dataType ≠ "vil") (h : ¬Readable item.fields) :
    processFields py dataType item = .error .attributeError := by
  unfold processFields
  dsimp only
  rw [if_neg hvil, isVilMessage, hasType_of_unreadable py _ _ (by rwa [readable_shown])]
  rfl

theorem survives_of_position {fields m : Message}
    (h : Dict.getD fields "position" .none = fixedPosition (givenPosition m)) :
    survives fields = passes (givenPosition m) :=
  congrArg (fun position : Value => match position with
    | .tuple [x, y] => !(decide (x.number? = some 0) && decide (y.number? = some 0))
    | _ => false) h

theorem processItems_cons (py : Runtime) (dataType : String) (item : RawItem) (items : List RawItem) :
    processItems py dataType (item :: items) = do
      let fields ← processFields py dataType item
      let rest ← processItems py dataType items
      return if survives fields then { id := item.id.getD "", fields := fields } :: rest else rest := by
  unfold processItems
  rw [List.mapM_cons]
  cases processFields py dataType item with
  | error e => rfl
  | ok fields =>
    generalize (items.mapM fun item => do
      let fields ← processFields py dataType item
      return { id := item.id.getD "", fields := fields : Item }) = rest
    cases rest with
    | error e => rfl
    | ok rest =>
      show Except.ok (List.filter _ (_ :: rest)) = Except.ok _
      rw [List.filter_cons]

/-! ### Entries with their ids -/

/-- What is expected of an entry: its id, and its position where it has one. -/
abbrev Expected := String × Option (List ℚ)

/-- A dictionary with the id and with a position of two components. -/
structure Carries (e : Expected) (raw : RawItem) : Prop where
  isDict : raw.isDict = true
  id : raw.id = some e.1
  named : e.1 ≠ ""
  position : ∃ x y, e.2 = some [x, y] ∧ coordinates (givenPosition raw.fields) = some [x, y]

/-- A stored item with the id and the position. -/
def Shows (e : Expected) (item : Item) : Prop :=
  item.id = e.1 ∧ ∀ v, e.2 = some v → coordinates (Dict.getD item.fields "position" .none) = some v

/-- A dictionary with an id. -/
def Named (raw : RawItem) : Prop := raw.isDict = true ∧ ∃ s, raw.id = some s ∧ s ≠ ""

theorem Carries.isNamed {e : Expected} {raw : RawItem} (h : Carries e raw) : Named raw :=
  ⟨h.isDict, e.1, h.id, h.named⟩

/-- An entry with an id, but with a position that does not pass. -/
structure Lost (raw : RawItem) : Prop where
  named : Named raw
  position : passes (givenPosition raw.fields) = false

def origin : List ℚ := [0, 0]

theorem Carries.passes_iff {e : Expected} {raw : RawItem} (h : Carries e raw) :
    passes (givenPosition raw.fields) = true ↔ e.2 ≠ some origin := by
  obtain ⟨x, y, he, hposition⟩ := h.position
  rw [passes_pair hposition, he, origin]
  simp [or_iff_not_imp_left]

theorem Carries.shows {e : Expected} {raw : RawItem} (h : Carries e raw) {fields : Message}
    (hfields : Dict.getD fields "position" .none = fixedPosition (givenPosition raw.fields)) :
    Shows e { id := raw.id.getD "", fields := fields } := by
  obtain ⟨x, y, he, hposition⟩ := h.position
  refine ⟨by rw [h.id]; rfl, fun v hv => ?_⟩
  rw [he] at hv
  cases hv
  rw [hfields]
  exact coordinates_fixedPosition hposition (by simp)

variable {py : Runtime} {dataType : String}

theorem processItems_of_carries {es : List Expected} {raws : List RawItem}
    (h : List.Forall₂ Carries es raws)
    (hreadable : dataType = "vil" ∨ ∀ raw ∈ raws, Readable raw.fields)
    (horigin : ∀ e ∈ es, e.2 ≠ some origin) :
    ∃ items, processItems py dataType raws = .ok items ∧ List.Forall₂ Shows es items := by
  induction h with
  | nil => exact ⟨[], rfl, .nil⟩
  | @cons e raw es raws hcarries _ ih =>
    obtain ⟨fields, hfields, hposition⟩ :=
      processFields_of_readable py (hreadable.imp_right fun h => h raw List.mem_cons_self)
    obtain ⟨items, hitems, hshows⟩ :=
      ih (hreadable.imp_right fun h r hr => h r (List.mem_cons_of_mem raw hr))
        fun e' he' => horigin e' (List.mem_cons_of_mem e he')
    have hsurvives : survives fields = true := by
      rw [survives_of_position hposition]
      exact hcarries.passes_iff.mpr (horigin e List.mem_cons_self)
    refine ⟨{ id := raw.id.getD "", fields := fields } :: items, ?_, .cons (hcarries.shows hposition) hshows⟩
    rw [processItems_cons, hfields, hitems]
    show Except.ok (if survives fields then _ else _) = _
    rw [if_pos hsurvives]

/-- An item more is an entry more, or none when its position does not pass. -/
theorem processItems_cons_ok {raw : RawItem} {raws : List RawItem} {items : List Item}
    (h : processItems py dataType (raw :: raws) = .ok items) :
    ∃ rest, processItems py dataType raws = .ok rest ∧ (dataType = "vil" ∨ Readable raw.fields) ∧
      ((passes (givenPosition raw.fields) = true ∧ items.length = rest.length + 1) ∨
        (passes (givenPosition raw.fields) = false ∧ items = rest)) := by
  have hreadable : dataType = "vil" ∨ Readable raw.fields := by
    by_contra hnot
    push Not at hnot
    rw [processItems_cons, processFields_of_unreadable py hnot.1 hnot.2] at h
    cases h
  obtain ⟨fields, hfields, hposition⟩ := processFields_of_readable py hreadable
  rw [processItems_cons] at h
  obtain ⟨fields', hfields', h⟩ := bind_eq_ok h
  obtain rfl := Except.ok.inj (hfields.symm.trans hfields')
  obtain ⟨rest, hrest, hitems⟩ := bind_eq_ok h
  refine ⟨rest, hrest, hreadable, ?_⟩
  rw [← survives_of_position hposition]
  cases hsurvives : survives fields with
  | true =>
    rw [hsurvives] at hitems
    cases hitems
    exact .inl ⟨rfl, rfl⟩
  | false =>
    rw [hsurvives] at hitems
    cases hitems
    exact .inr ⟨rfl, rfl⟩

theorem readable_of_processItems {raws : List RawItem} {items : List Item}
    (h : processItems py dataType raws = .ok items) :
    dataType = "vil" ∨ ∀ raw ∈ raws, Readable raw.fields := by
  induction raws generalizing items with
  | nil => exact .inr nofun
  | cons raw raws ih =>
    obtain ⟨rest, hrest, hreadable, -⟩ := processItems_cons_ok h
    rcases hreadable with hvil | hraw
    · exact .inl hvil
    · exact (ih hrest).imp_right fun hraws => List.forall_mem_cons.mpr ⟨hraw, hraws⟩

theorem processItems_of_lost {raws : List RawItem} {items : List Item} (hlost : ∀ raw ∈ raws, Lost raw)
    (h : processItems py dataType raws = .ok items) : items = [] := by
  induction raws generalizing items with
  | nil =>
    cases h
    rfl
  | cons raw raws ih =>
    obtain ⟨rest, hrest, -, ⟨hpasses, -⟩ | ⟨-, rfl⟩⟩ := processItems_cons_ok h
    · rw [(hlost raw List.mem_cons_self).position] at hpasses
      cases hpasses
    · exact ih (fun r hr => hlost r (List.mem_cons_of_mem raw hr)) hrest

/-- An entry at the origin leaves fewer items than there are entries. -/
theorem processItems_length {es : List Expected} {raws : List RawItem}
    (hcarries : List.Forall₂ Carries es raws) {items : List Item}
    (h : processItems py dataType raws = .ok items) :
    items.length ≤ es.length ∧ ((∃ e ∈ es, e.2 = some origin) → items.length < es.length) := by
  induction hcarries generalizing items with
  | nil =>
    cases h
    exact ⟨le_refl _, by rintro ⟨e, he, -⟩; cases he⟩
  | @cons e raw es raws hcarry _ ih =>
    obtain ⟨rest, hrest, -, ⟨hpasses, hlength⟩ | ⟨-, rfl⟩⟩ := processItems_cons_ok h
    · obtain ⟨hle, hlt⟩ := ih hrest
      rw [List.length_cons]
      refine ⟨by omega, ?_⟩
      rintro ⟨e', he', horigin⟩
      rcases List.mem_cons.mp he' with rfl | he'
      · exact absurd horigin (hcarry.passes_iff.mp hpasses)
      · have hrestlt := hlt ⟨e', he', horigin⟩
        omega
    · obtain ⟨hle, -⟩ := ih hrest
      rw [List.length_cons]
      exact ⟨by omega, fun _ => by omega⟩

/-! ### Storing the entries -/

variable {requestId : String}

theorem withId_of_named (i : ℕ) {raw : RawItem} (h : Named raw) : raw.withId requestId i = raw := by
  obtain ⟨hdict, s, hid, -⟩ := h
  unfold RawItem.withId
  rw [hid]
  simp [hdict]

theorem mapIdx_withId {raws : List RawItem} (h : ∀ raw ∈ raws, Named raw) :
    raws.mapIdx (RawItem.withId requestId) = raws := by
  apply List.ext_getElem
  · exact List.length_mapIdx
  · intro i hi hi'
    rw [List.getElem_mapIdx]
    exact withId_of_named i (h _ (List.getElem_mem hi'))

theorem hasValidId_of_named {raw : RawItem} (h : Named raw) :
    raw.hasValidId = true ↔ raw.id ≠ some "unknown" := by
  obtain ⟨-, s, hid, hs⟩ := h
  unfold RawItem.hasValidId
  rw [hid]
  simp [hs]

theorem acceptedItems_known (hrequest : requestId ≠ "") {raws : List RawItem} (hraws : raws ≠ [])
    (hnamed : ∀ raw ∈ raws, Named raw) (hknown : ∀ raw ∈ raws, raw.id ≠ some "unknown") :
    acceptedItems py dataType requestId raws = processItems py dataType raws := by
  unfold acceptedItems
  rw [if_neg (by simp [hrequest, hraws])]
  dsimp only
  rw [mapIdx_withId hnamed, if_pos]
  apply List.all_eq_true.mpr
  exact fun raw hraw => (hasValidId_of_named (hnamed raw hraw)).mpr (hknown raw hraw)

theorem acceptedItems_unknown (hrequest : requestId ≠ "") {raws : List RawItem}
    (hnamed : ∀ raw ∈ raws, Named raw) {raw : RawItem} (hraw : raw ∈ raws)
    (hunknown : raw.id = some "unknown") :
    acceptedItems py dataType requestId raws = .error .valueError := by
  unfold acceptedItems
  rw [if_neg (by simp [hrequest, List.ne_nil_of_mem hraw])]
  dsimp only
  rw [mapIdx_withId hnamed, if_neg]
  intro hall
  have hvalid := List.all_eq_true.mp hall raw hraw
  exact (hasValidId_of_named (hnamed raw hraw)).mp hvalid hunknown

/-- What is accepted of entries with ids has known ids and is processed. -/
theorem processItems_of_accepted (hrequest : requestId ≠ "") {raws : List RawItem}
    (hnamed : ∀ raw ∈ raws, Named raw) {items : List Item}
    (h : acceptedItems py dataType requestId raws = .ok items) :
    (∀ raw ∈ raws, raw.id ≠ some "unknown") ∧ processItems py dataType raws = .ok items := by
  have hraws : raws ≠ [] := by
    rintro rfl
    rw [acceptedItems, if_pos (.inr rfl)] at h
    cases h
  have hknown : ∀ raw ∈ raws, raw.id ≠ some "unknown" := by
    intro raw hraw hunknown
    rw [acceptedItems_unknown hrequest hnamed hraw hunknown] at h
    cases h
  rw [acceptedItems_known hrequest hraws hnamed hknown] at h
  exact ⟨hknown, h⟩

theorem backup_sweepStores (now : ℚ) (stores : Dict String Store) (timestamps : Dict String ℚ)
    (t : String) : (Dict.get? (sweepStores now stores timestamps).1 t).map Store.backup =
      (Dict.get? stores t).map Store.backup := by
  induction stores generalizing timestamps with
  | nil => rfl
  | cons e stores ih =>
    obtain ⟨t', store⟩ := e
    rw [sweepStores, Dict.get?_cons]
    by_cases ht : t' = t
    · rw [if_pos ht]
      simp [Dict.get?_cons, ht]
    · rw [if_neg ht]
      simp [Dict.get?_cons, ht, ih]

theorem backup_cleanupExpired (c : Coordinator) (now : ℚ) (t : String) :
    (Dict.get? (c.cleanupExpired now).stores t).map Store.backup =
      (Dict.get? c.stores t).map Store.backup := by
  unfold Coordinator.cleanupExpired
  split_ifs
  · exact backup_sweepStores now c.stores c.timestamps t
  · rfl

/-- What is accepted is counted and backed up, whatever was stored before. -/
theorem storeData_of_accepted {raws : List RawItem} {items : List Item}
    (h : acceptedItems py dataType requestId raws = .ok items) (c : Coordinator) (check clean : ℚ) :
    (c.storeData py dataType requestId raws check clean).1 = .ok items.length ∧
      ∃ store, Dict.get? (c.storeData py dataType requestId raws check clean).2.stores dataType =
        some store ∧ store.backup = items := by
  obtain ⟨store, -, hbackup, -, hget⟩ := get?_kept c dataType items
  have hkept : Dict.get? (c.kept dataType items).stores dataType = some store := by
    rw [hget, if_pos rfl]
  simp only [Coordinator.storeData, h, true_and]
  rw [show (c.ensure dataType).keep dataType items = c.kept dataType items from rfl]
  split_ifs
  · have hmap := backup_cleanupExpired (c.kept dataType items) clean dataType
    rw [hkept] at hmap
    obtain ⟨store', hstore', hbackup'⟩ := Option.map_eq_some_iff.mp hmap
    exact ⟨store', hstore', hbackup'.trans hbackup⟩
  · exact ⟨store, hkept, hbackup⟩

/-! ### Reading them back from a fresh coordinator -/

/-- All stamps are of this moment. -/
def StampedAt (now : ℚ) (timestamps : Dict String ℚ) : Prop :=
  ∀ id stamp, Dict.get? timestamps id = some stamp → stamp = now

theorem sweepItems_of_stampedAt {now ttl : ℚ} (httl : 0 < ttl) (items : List Item)
    {timestamps : Dict String ℚ} (h : StampedAt now timestamps) :
    (sweepItems now ttl items timestamps).1 = items ∧
      StampedAt now (sweepItems now ttl items timestamps).2 := by
  induction items generalizing timestamps with
  | nil => exact ⟨rfl, h⟩
  | cons item items ih =>
    have hexpired : expired now ttl timestamps item.id = false := by
      unfold expired
      cases hstamp : Dict.get? timestamps item.id with
      | none => rfl
      | some stamp =>
        rw [h item.id stamp hstamp]
        simpa using httl
    have hrestamp : StampedAt now (restamp now ttl timestamps item.id) := by
      unfold restamp
      cases hstamp : Dict.get? timestamps item.id with
      | none =>
        intro id stamp hget
        dsimp only at hget
        rw [Dict.get?_set] at hget
        split_ifs at hget
        · exact (Option.some.inj hget).symm
        · exact h id stamp hget
      | some stamp =>
        rw [h item.id stamp hstamp]
        dsimp only
        rw [sub_self, if_pos httl]
        exact h
    obtain ⟨hitems, hstamps⟩ := ih hrestamp
    rw [sweepItems, hexpired, hitems]
    exact ⟨rfl, hstamps⟩

theorem sweepStores_of_stampedAt {now : ℚ} {stores : Dict String Store}
    (httl : ∀ e ∈ stores, 0 < e.2.ttl) {timestamps : Dict String ℚ} (h : StampedAt now timestamps) :
    (sweepStores now stores timestamps).1 = stores := by
  induction stores generalizing timestamps with
  | nil => rfl
  | cons e stores ih =>
    obtain ⟨t, store⟩ := e
    obtain ⟨hitems, hstamps⟩ :=
      sweepItems_of_stampedAt (httl (t, store) List.mem_cons_self) store.current h
    rw [sweepStores, hitems, ih (fun e he => httl e (List.mem_cons_of_mem _ he)) hstamps]

/-- The first cleanup takes nothing out. -/
theorem stores_cleanupExpired {c : Coordinator} (httl : ∀ e ∈ c.stores, 0 < e.2.ttl)
    (hnew : c.timestamps = []) (now : ℚ) : (c.cleanupExpired now).stores = c.stores := by
  unfold Coordinator.cleanupExpired
  split_ifs
  · apply sweepStores_of_stampedAt httl
    rw [hnew]
    intro id stamp hget
    cases hget
  · rfl

theorem ttl_kept {c : Coordinator} (h : ∀ e ∈ c.stores, 0 < e.2.ttl) (items : List Item) :
    ∀ e ∈ (c.kept dataType items).stores, 0 < e.2.ttl := by
  have hensure : ∀ e ∈ (c.ensure dataType).stores, 0 < e.2.ttl := by
    unfold Coordinator.ensure
    split_ifs
    · exact h
    · intro e he
      rcases Dict.mem_set he with rfl | he
      · norm_num [emptyStore]
      · exact h e he
  intro e he
  obtain ⟨e', he', rfl⟩ := List.mem_map.mp he
  split_ifs
  · exact hensure e' he'
  · exact hensure e' he'

/-- A fresh coordinator returns what it was given. -/
theorem getData_of_accepted {raws : List RawItem} {items : List Item}
    (h : acceptedItems py dataType requestId raws = .ok items) (start check clean later : ℚ) :
    (((Coordinator.initial start).storeData py dataType requestId raws check clean).2.getData dataType
      true later).1 = items := by
  obtain ⟨store, hcurrent, hbackup, -, hget⟩ := get?_kept (.initial start) dataType items
  have hstored : Dict.get? ((Coordinator.initial start).storeData py dataType requestId raws check
      clean).2.stores dataType = some store := by
    simp only [Coordinator.storeData, h]
    rw [show ((Coordinator.initial start).ensure dataType).keep dataType items =
      (Coordinator.initial start).kept dataType items from rfl]
    split_ifs
    · have httl := @ttl_kept dataType (Coordinator.initial start)
        (by simp [Coordinator.initial, emptyStore]) items
      have hnew : ((Coordinator.initial start).kept dataType items).timestamps = [] := by
        unfold Coordinator.kept Coordinator.keep Coordinator.ensure
        split_ifs <;> rfl
      dsimp only
      rw [stores_cleanupExpired httl hnew, hget, if_pos rfl]
    · rw [hget, if_pos rfl]
  unfold Coordinator.getData
  rw [hstored]
  dsimp only
  split_ifs with hempty hfresh
  · have hitems : items = [] := by
      rw [← hcurrent]
      simpa using hempty
    rw [hitems]
  · exfalso
    apply hfresh
    have hitems : items = [] := by
      rw [← hcurrent]
      simpa using hempty
    rw [hbackup, hitems]
    rfl
  · exact hcurrent

end Fmofp.Display
