import Fmofp.SystemHandlers.SendRequest

/-! When `send_request` is atomic: it gives nothing back and leaves the pending requests as they were, or
gives an identifier back and has added its entry.  The flight systems store the entry too early for the
requests that they refuse; the radars do not take it out when the transmission raises. -/

namespace Fmofp.SystemHandlers

open Python

/-- Nothing is given back and no entry is added, or the identifier is and one entry under it, but for
what the others remove. -/
structure Atomic {ε : Type} (others : Others) (pending : Dict RequestId ε) (id : RequestId)
    (result : Option RequestId × Dict RequestId ε) : Prop where
  refused : result.1 = none → result.2 = kept others.keepAfter (kept others.keepBefore pending)
  accepted : ∀ i, result.1 = some i → i = id ∧
    ∃ entry, result.2 = kept others.keepAfter (kept others.keepBefore pending ++ [(id, entry)])

section Table

variable {ε : Type} {pending : Dict RequestId ε} {others : Others} {id : RequestId} {entry : ε}
  {outgoing : Except Exception (Option Outgoing)} {transmit : Transmission}

theorem get?_kept (keep : RequestId → Bool) (h : Dict.get? pending id = none) :
    Dict.get? (kept keep pending) id = none := by
  rw [Dict.get?_eq_none_iff] at h ⊢
  intro hmem
  obtain ⟨e, he, rfl⟩ := List.mem_map.mp hmem
  exact h (List.mem_map_of_mem (List.mem_of_mem_filter he))

theorem erase_of_get? (h : Dict.get? pending id = none) : Dict.erase pending id = pending := by
  rw [Dict.get?_eq_none_iff] at h
  refine List.filter_eq_self.mpr fun e he => decide_eq_true ?_
  rintro rfl
  exact h (List.mem_map_of_mem he)

/-- The table with the entry in it, and without it again. -/
theorem stored_eq (h : Dict.get? pending id = none) :
    kept others.keepAfter (Dict.set (kept others.keepBefore pending) id entry) =
      kept others.keepAfter (kept others.keepBefore pending ++ [(id, entry)]) := by
  rw [Dict.set_eq_append (get?_kept others.keepBefore h)]

theorem erase_stored (h : Dict.get? pending id = none) :
    Dict.erase (kept others.keepAfter (Dict.set (kept others.keepBefore pending) id entry)) id =
      kept others.keepAfter (kept others.keepBefore pending) := by
  have hbefore := get?_kept others.keepBefore h
  rw [Dict.set_eq_append hbefore, kept, List.filter_append, Dict.erase, List.filter_append]
  have hkept : Dict.erase (kept others.keepAfter (kept others.keepBefore pending)) id =
      kept others.keepAfter (kept others.keepBefore pending) :=
    erase_of_get? (get?_kept others.keepAfter hbefore)
  rw [Dict.erase, kept] at hkept
  rw [hkept]
  cases hkeep : others.keepAfter id with
  | false => simp [hkeep, kept]
  | true => simp [hkeep, kept]

/-- An entry that is left behind breaks atomicity if nobody else removes it. -/
theorem not_atomic_of_left (h : Dict.get? pending id = none) :
    ¬ Atomic ⟨fun _ => true, fun _ => true⟩ pending id
      (none, kept (fun _ => true) (Dict.set (kept (fun _ => true) pending) id entry)) := by
  intro hatomic
  have hsame := hatomic.refused rfl
  have hall : ∀ d : Dict RequestId ε, kept (fun _ => true) d = d := fun d =>
    List.filter_eq_self.mpr fun _ _ => rfl
  simp only [hall, Dict.set_eq_append h] at hsame
  simpa using congrArg List.length hsame

theorem storeFirst_atomic_iff (h : Dict.get? pending id = none) :
    (∀ others, Atomic others pending id (storeFirst pending others id entry outgoing transmit)) ↔
      outgoing ≠ .ok none := by
  constructor
  · rintro hatomic rfl
    exact not_atomic_of_left h (hatomic ⟨fun _ => true, fun _ => true⟩)
  · intro hsent others
    have herased : Atomic others pending id
        (none, Dict.erase (kept others.keepAfter (Dict.set (kept others.keepBefore pending) id entry))
          id) := ⟨fun _ => erase_stored h, fun _ hi => (nomatch hi)⟩
    cases outgoing with
    | error e => exact herased
    | ok message =>
      cases message with
      | none => exact absurd rfl hsent
      | some message =>
        rw [storeFirst]
        cases transmit id message with
        | error e => exact herased
        | ok reply =>
          cases reply with
          | none => exact herased
          | some reply =>
            refine ⟨fun hnone => (nomatch hnone), fun i hi => ?_⟩
            obtain rfl := Option.some.inj hi
            exact ⟨rfl, entry, stored_eq h⟩

theorem storeLast_atomic_iff (h : Dict.get? pending id = none) :
    (∀ others, Atomic others pending id (storeLast pending others id entry outgoing transmit)) ↔
      ¬ ∃ message e, outgoing = .ok (some message) ∧ transmit id message = .error e := by
  constructor
  · rintro hatomic ⟨message, e, rfl, hraises⟩
    have hleft := hatomic ⟨fun _ => true, fun _ => true⟩
    rw [storeLast, hraises] at hleft
    exact not_atomic_of_left h hleft
  · intro hsent others
    have hrefused : Atomic others pending id
        (none, kept others.keepAfter (kept others.keepBefore pending)) :=
      ⟨fun _ => rfl, fun _ hi => (nomatch hi)⟩
    cases outgoing with
    | error e => exact hrefused
    | ok message =>
      cases message with
      | none => exact hrefused
      | some message =>
        rw [storeLast]
        cases hreply : transmit id message with
        | error e => exact absurd ⟨message, e, rfl, hreply⟩ hsent
        | ok reply =>
          cases reply with
          | none => exact ⟨fun _ => erase_stored h, fun _ hi => (nomatch hi)⟩
          | some reply =>
            refine ⟨fun hnone => (nomatch hnone), fun i hi => ?_⟩
            obtain rfl := Option.some.inj hi
            exact ⟨rfl, entry, stored_eq h⟩

end Table

variable {δ : Type}

/-! ### The requests that the flight systems refuse -/

/-- The names of the command words of the request types. -/
def fcsCommandNames : Dict String String :=
  [("mode_change", "FCS_MODE_CHANGE_REQUEST"), ("status", "FCS_STATUS_REQUEST"),
    ("control_input", "FCS_CONTROL_INPUT_REQUEST"),
    ("orientation_data", "FCS_ORIENTATION_DATA_REQUEST")]

/-- The request type is known, and its command word is registered. -/
def FCSMessageHandler.Knows (h : FCSMessageHandler δ) (requestType : String) : Prop :=
  ∃ name n, Dict.get? fcsCommandNames requestType = some name ∧ h.fcsCommandWord name = some n

/-- A request that ends before it is sent, without an exception. -/
inductive FMSMessageHandler.Refuses (h : FMSMessageHandler δ) (objects : Objects δ) (py : Runtime)
    (r : Request δ) : Prop
  | unknownType (hbranch : h.branch objects py r = none)
  | noCommandWord {b} (hbranch : h.branch objects py r = some b) (hword : b.commandWord = .ok none)
  | invalidData {b w} (hbranch : h.branch objects py r = some b)
      (hword : b.commandWord = .ok (some w)) (hdata : b.dataWords = .ok none)
  | notCreated {b w ws created} (hbranch : h.branch objects py r = some b)
      (hword : b.commandWord = .ok (some w)) (hdata : b.dataWords = .ok (some ws))
      (hcreate : h.createRequest r.systemName r.requestType r.data w b.messageType = .ok created)
      (hempty : created = none ∨ created = some [])

theorem FCSMessageHandler.outgoing_ne_none_iff (h : FCSMessageHandler δ) (py : Runtime) (r : Request δ)
    (id : RequestId) : h.outgoing py r id ≠ .ok none ↔ h.Knows r.requestType := by
  have hbranch : ∀ name words messageType,
      Dict.get? fcsCommandNames r.requestType = some name →
      h.branch r.requestType r.data = some ⟨h.commandWord name, words, messageType⟩ →
      words ≠ .ok none → (h.outgoing py r id ≠ .ok none ↔ h.Knows r.requestType) := by
    intro name words messageType hname hbranch hwords
    rw [outgoing, hbranch, prepared, Knows, hname]
    dsimp only [commandWord]
    cases hword : h.fcsCommandWord name with
    | none => simp [hword]
    | some n =>
      simp only [Option.map_some, ne_eq]
      constructor
      · exact fun _ => ⟨name, n, rfl, hword⟩
      · intro _
        split
        · simp
        · contradiction
        · simp
  have hmap : ∀ packed : Except Exception (List String), packed.map some ≠ .ok none := by
    intro packed hnone
    cases packed with
    | error e => cases hnone
    | ok words => cases hnone
  by_cases hmode : r.requestType = "mode_change"
  · exact hbranch _ _ _ (by rw [hmode]; rfl) (by rw [branch, if_pos hmode]) (hmap _)
  by_cases hstatus : r.requestType = "status"
  · exact hbranch _ _ _ (by rw [hstatus]; rfl) (by rw [branch, if_neg hmode, if_pos hstatus])
      (by simp)
  by_cases hcontrol : r.requestType = "control_input"
  · exact hbranch _ _ _ (by rw [hcontrol]; rfl)
      (by rw [branch, if_neg hmode, if_neg hstatus, if_pos hcontrol]) (hmap _)
  by_cases horientation : r.requestType = "orientation_data"
  · exact hbranch _ _ _ (by rw [horientation]; rfl)
      (by rw [branch, if_neg hmode, if_neg hstatus, if_neg hcontrol, if_pos horientation]) (by simp)
  · have hunknown : Dict.get? fcsCommandNames r.requestType = none := by
      refine Dict.get?_eq_none fun e he => ?_
      simp only [fcsCommandNames, List.mem_cons, List.not_mem_nil, or_false] at he
      rcases he with rfl | rfl | rfl | rfl
      · exact Ne.symm hmode
      · exact Ne.symm hstatus
      · exact Ne.symm hcontrol
      · exact Ne.symm horientation
    rw [outgoing, branch, if_neg hmode, if_neg hstatus, if_neg hcontrol, if_neg horientation]
    constructor
    · exact fun hne => absurd rfl hne
    · rintro ⟨name, n, hname, -⟩
      rw [hunknown] at hname
      cases hname

theorem FMSMessageHandler.outgoing_eq_none_iff (h : FMSMessageHandler δ) (objects : Objects δ)
    (py : Runtime) (r : Request δ) (id : RequestId) :
    h.outgoing objects py r id = .ok none ↔ h.Refuses objects py r := by
  constructor
  · intro hnone
    rw [outgoing] at hnone
    unfold prepared at hnone
    split at hnone
    · rename_i hbranch
      exact .unknownType hbranch
    · rename_i b hbranch
      split at hnone
      · cases hnone
      · rename_i hword
        exact .noCommandWord hbranch hword
      · rename_i w hword
        split at hnone
        · cases hnone
        · rename_i hdata
          exact .invalidData hbranch hword hdata
        · rename_i ws hdata
          rw [finish] at hnone
          cases hcreate : h.createRequest r.systemName r.requestType r.data w b.messageType with
          | error e =>
            rw [hcreate] at hnone
            cases hnone
          | ok created =>
            refine .notCreated hbranch hword hdata hcreate ?_
            rw [hcreate] at hnone
            have hempty := Except.ok.inj hnone
            cases created with
            | none => exact .inl rfl
            | some request =>
              cases request with
              | nil => exact .inr rfl
              | cons e rest => cases hempty
  · intro hrefuses
    rw [outgoing]
    unfold prepared
    cases hrefuses with
    | unknownType hbranch => rw [hbranch]
    | noCommandWord hbranch hword => rw [hbranch]; simp only [hword]
    | invalidData hbranch hword hdata => rw [hbranch]; simp only [hword, hdata]
    | notCreated hbranch hword hdata hcreate hempty =>
      rw [hbranch]
      simp only [hword, hdata, finish, hcreate]
      rcases hempty with rfl | rfl
      · rfl
      · rfl

theorem RadarMessageHandler.atomic_iff (h : RadarMessageHandler δ) (objects : Objects δ)
    (py : Runtime) (c : RadarCall δ) (slot : Bool) (transmit : Transmission)
    (pending : Dict RequestId (RadarRequest δ)) (fresh : FreshId pending) :
    (∀ others, Atomic others pending fresh.id
        (h.sendRequest objects py c slot transmit others pending fresh)) ↔
      ¬ (slot = true ∧ ∃ message e, h.outgoing objects py c fresh.id = .ok (some message) ∧
        transmit fresh.id message = .error e) := by
  cases slot with
  | false =>
    refine ⟨fun _ hslot => (nomatch hslot.1), fun _ others => ?_⟩
    exact ⟨fun _ => rfl, fun _ hi => (nomatch hi)⟩
  | true =>
    have hiff : (∀ others, Atomic others pending fresh.id
        (storeLast pending others fresh.id (entry c) (h.outgoing objects py c fresh.id) transmit)) ↔ _ :=
      storeLast_atomic_iff fresh.fresh
    refine hiff.trans (not_congr ⟨fun hraises => ⟨rfl, hraises⟩, fun hraises => hraises.2⟩)

/-- For every outcome of packing, of the creation of the request and of the transmission, and whatever
others remove meanwhile: the flight control system is atomic for the requests that it knows, the flight
management system for those that it does not refuse, and a radar where no transmission raises. -/
theorem sendRequest_atomic_iff {δ : Type} (objects : Objects δ) (py : Runtime) (transmit : Transmission) :
    (∀ (h : FCSMessageHandler δ) r pending (fresh : FreshId pending),
      (∀ others, Atomic others pending fresh.id (h.sendRequest py r transmit others pending fresh)) ↔
        h.Knows r.requestType) ∧
    (∀ (h : FMSMessageHandler δ) r pending (fresh : FreshId pending),
      (∀ others, Atomic others pending fresh.id
          (h.sendRequest objects py r transmit others pending fresh)) ↔ ¬ h.Refuses objects py r) ∧
    (∀ (h : RadarMessageHandler δ) c slot pending (fresh : FreshId pending),
      (∀ others, Atomic others pending fresh.id
          (h.sendRequest objects py c slot transmit others pending fresh)) ↔
        ¬ (slot = true ∧ ∃ message e, h.outgoing objects py c fresh.id = .ok (some message) ∧
          transmit fresh.id message = .error e)) := by
  refine ⟨fun h r pending fresh => ?_, fun h r pending fresh => ?_, fun h c slot pending fresh => ?_⟩
  · exact (storeFirst_atomic_iff fresh.fresh).trans (h.outgoing_ne_none_iff py r fresh.id)
  · exact (storeFirst_atomic_iff fresh.fresh).trans
      (not_congr (h.outgoing_eq_none_iff objects py r fresh.id))
  · exact h.atomic_iff objects py c slot transmit pending fresh

/-- Handlers whose packing raises, and that register one command word each. -/
def flightControl : FCSMessageHandler Unit where
  fcsCommandWord name := if name = "FCS_STATUS_REQUEST" then some 3104 else none
  packModeData _ := .error .valueError
  packControlInputData _ := .error .valueError

def flightManagement : FMSMessageHandler Unit where
  modeRequestMap := []
  statusRequestMap := [("flightManagementSystem", "0010100000100001")]
  fmsCommandWords := [("FMS_UPDATE_NAVIGATION", 10309)]
  fcsCommandWord _ := none
  packData _ := .error .valueError
  packControlInputData _ := .error .valueError
  createRequest _ requestType _ _ _ :=
    .ok (if requestType = "status" then some [("message_header", .str "status_request")] else none)

def radars : RadarMessageHandler Unit where
  statusRequestMap := [("weather_radar", "0000100000100001")]
  modeRequestMap := []
  dataRequestMap := []
  weatherDataRequestMap := []
  snake := id
  packData _ _ := .error .keyError
  extractDataType _ := .ok ("data", none)
  hash _ := .ok 0
  createRequest _ _ _ _ _ := .ok (some [("message_header", .str "status_request")])

def plainObjects : Objects Unit := ⟨fun _ => true, fun _ => .error .attributeError, fun _ => none⟩

/-- A request to a flight system. -/
def requestTo (systemName requestType : String) (data : Value) : Request Unit :=
  ⟨systemName, requestType, .plain data, none, 0, 0⟩

/-- A request type that the flight control system does not know, a navigation update, for which the
flight management system creates no request, and a radar request whose transmission raises are left
pending. -/
theorem requests_left_pending :
    (¬ ∀ (h : FCSMessageHandler Unit) py r transmit others pending (fresh : FreshId pending),
      Atomic others pending fresh.id (h.sendRequest py r transmit others pending fresh)) ∧
    (¬ ∀ (h : FMSMessageHandler Unit) objects py r transmit others pending (fresh : FreshId pending),
      Atomic others pending fresh.id (h.sendRequest objects py r transmit others pending fresh)) ∧
    (¬ ∀ (h : RadarMessageHandler Unit) objects py c slot transmit others pending
        (fresh : FreshId pending),
      Atomic others pending fresh.id
        (h.sendRequest objects py c slot transmit others pending fresh)) := by
  refine ⟨fun h => ?_, fun h => ?_, fun h => ?_⟩
  · have hleft := (h flightControl .ascii (requestTo "flight_control_system" "self_test" .none)
      (fun _ _ => .ok (some .none)) ⟨fun _ => true, fun _ => true⟩ [] ⟨"a", rfl⟩).refused
      (by decide +kernel)
    exact absurd (congrArg List.length hleft) (by decide +kernel)
  · have hleft := (h flightManagement plainObjects .ascii
      (requestTo "flightManagementSystem" "navigation_update" (.dict [("altitude", .int 9000)]))
      (fun _ _ => .ok (some .none)) ⟨fun _ => true, fun _ => true⟩ [] ⟨"a", rfl⟩).refused
      (by decide +kernel)
    exact absurd (congrArg List.length hleft) (by decide +kernel)
  · have hleft := (h radars plainObjects .ascii ⟨"weather_radar", "status", .plain .none, 0⟩ true
      (fun _ _ => .error .valueError) ⟨fun _ => true, fun _ => true⟩ [] ⟨"a", rfl⟩).refused
      (by decide +kernel)
    exact absurd (congrArg List.length hleft) (by decide +kernel)

end Fmofp.SystemHandlers
