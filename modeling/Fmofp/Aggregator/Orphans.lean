import Fmofp.Aggregator.Register

/-! Every pending transfer has a timeout, so that the sweep removes it in the end, unless a completion
message with data starts a transfer whose aggregation raises. -/

namespace Fmofp.Aggregator

open Python Machine

/-- The pending transfers are those with a timeout. -/
def State.Tracked (a : State) : Prop :=
  ∀ key, Dict.has a.pendingTransfers key = Dict.has a.transferTimeouts key

/-- Aggregating the transfer of this one message raises: its type is not text, or its metadata is
present and no dictionary. -/
def raisesAlone (py : Runtime) (m : Message) : Bool :=
  !(extractMessageType py m).isText || (Dict.getD m "metadata" (.dict [])).dict?.isNone

/-- The transfer is pending and the sweep at `now`, if it is due, leaves it. -/
def State.outlasts (a : State) (now : ℚ) (key : Value) : Bool :=
  Dict.has a.pendingTransfers key && (decide (now - a.lastCleanup ≤ cleanupInterval) ||
    (Dict.get? a.transferTimeouts key).all fun t => decide (now ≤ t))

/-- The call is a completion message with data, for a transfer that is not pending, and aggregating
it raises. -/
def orphans (py : Runtime) (a : State) (c : Call) : Bool :=
  let requestId := Dict.getD c.message "request_id" .none
  requestId.truthy && decide (getTransferFlags c.message = (false, false, true)) &&
    hasData c.message && raisesAlone py c.message &&
    requestId.key?.any fun key => !a.outlasts c.now key

section Entries

variable {α : Type} (d : Dict Value α) (k j : Value)

theorem has_set (v : α) :
    Dict.has (Dict.set d k v) j = (decide (k = j) || Dict.has d j) := by
  unfold Dict.has
  rw [Dict.get?_set]
  by_cases h : k = j <;> simp [h]

theorem has_erase :
    Dict.has (Dict.erase d k) j = (decide (k ≠ j) && Dict.has d j) := by
  unfold Dict.has
  rw [Dict.get?_erase]
  by_cases h : k = j <;> simp [h]

end Entries

theorem State.fresh_tracked (now : ℚ) : (State.fresh now).Tracked := fun _ => rfl

theorem sweep_tracked {a : State} (h : a.Tracked) (now : ℚ) : (sweep now a).Tracked := by
  unfold sweep
  split_ifs
  · intro key
    have hkey := h key
    simp only [cleanupExpiredTransfers, Dict.has] at hkey ⊢
    rw [Dict.get?_filter a.pendingTransfers fun key =>
        (Dict.get? a.transferTimeouts key).all fun t => decide (now ≤ t),
      Dict.get?_filter a.transferTimeouts fun key =>
        (Dict.get? a.transferTimeouts key).all fun t => decide (now ≤ t)]
    split_ifs
    · exact hkey
    · rfl
  · exact h

/-- A transfer that is finalized is removed with its timeout; one whose aggregation raises stays. -/
theorem finalizeTransfer_state (py : Runtime) (now : ℚ) (key : Value) (a : State) :
    (finalizeTransfer py now key a).2 = a ∨ (finalizeTransfer py now key a).2 = a.remove key ∨
    (∃ t, Dict.has a.pendingTransfers key ∧ (finalizeTransfer py now key a).2 = a.put key t) := by
  cases ht : Dict.get? a.pendingTransfers key with
  | none =>
    simp only [finalizeTransfer, ht, true_or]
  | some t =>
    cases hbase : t.base? with
    | none =>
      rw [finalizeTransfer_empty ht hbase]
      exact .inl rfl
    | some base =>
      cases haggregate : aggregate py now t base with
      | ok result =>
        rw [finalizeTransfer_ok ht hbase haggregate]
        exact .inr (.inl rfl)
      | error e =>
        rw [finalizeTransfer_error ht hbase haggregate]
        exact .inr (.inr ⟨e.2, Dict.has_iff.mpr ⟨t, ht⟩, rfl⟩)

theorem put_tracked {a : State} (h : a.Tracked) {key : Value}
    (hpending : Dict.has a.pendingTransfers key) (t : Transfer) : (a.put key t).Tracked := by
  intro k
  rw [State.put, has_set, h k]
  by_cases hk : key = k
  · subst hk
    rw [← h key, hpending, Bool.or_true]
  · simp [hk]

theorem remove_tracked {a : State} (h : a.Tracked) (key : Value) : (a.remove key).Tracked := by
  intro k
  rw [State.remove, has_erase, has_erase, h k]

theorem put_setTimeout_tracked {a : State} (h : a.Tracked) (key : Value) (t : Transfer) (now : ℚ) :
    ((a.put key t).setTimeout key now).Tracked := by
  intro k
  simp only [State.put, State.setTimeout, has_set, h k]

theorem finalizeTransfer_tracked {a : State} (h : a.Tracked) (py : Runtime) (now : ℚ) (key : Value) :
    (finalizeTransfer py now key a).2.Tracked := by
  rcases finalizeTransfer_state py now key a with hstate | hstate | ⟨t, hpending, hstate⟩
  · rw [hstate]
    exact h
  · rw [hstate]
    exact remove_tracked h key
  · rw [hstate]
    exact put_tracked h hpending t

theorem registerData_tracked {a : State} (h : a.Tracked) (py : Runtime) (now : ℚ) (key : Value)
    (m : Message) : (registerData py now key m a).2.Tracked := by
  unfold registerData
  cases a.transferFor py key m with
  | error e => exact h
  | ok t =>
    have hput := put_setTimeout_tracked h key (t.addData m) now
    cases isFinalMessage m with
    | error e => exact hput
    | ok final =>
      cases final with
      | false => exact hput
      | true => exact finalizeTransfer_tracked hput py now key

theorem collect_tracked {a : State} (h : a.Tracked) (py : Runtime) (now : ℚ) (key : Value)
    (m : Message) : (a.collect py now key m).Tracked := by
  unfold State.collect
  cases ht : Dict.get? a.pendingTransfers key with
  | some t => exact put_tracked h (Dict.has_iff.mpr ⟨t, ht⟩) _
  | none => exact put_setTimeout_tracked h key _ now

theorem registerFrames_tracked {a : State} (h : a.Tracked) (py : Runtime) (now : ℚ) (key : Value)
    (m : Message) : (registerFrames py now key m a).2.Tracked := by
  have hcollect := collect_tracked h py now key m
  unfold registerFrames
  simp only
  split_ifs
  · exact finalizeTransfer_tracked hcollect py now key
  · exact hcollect

theorem detectKind_ok_iff (py : Runtime) (t : Transfer) (base : Message) :
    (∃ kind, detectKind py t base = .ok kind) ↔ t.originalMessageType.isText = true := by
  cases htype : t.originalMessageType with
  | str s => simp [detectKind, htype, lowerContains, Value.isText, bind, Except.bind, pure, Except.pure]
  | _ => simp [detectKind, htype, lowerContains, Value.isText, bind, Except.bind]

theorem getD_metadata_setIfTruthy (base : Message) (messageType commandType name : Value) :
    Dict.getD (setIfTruthy (Dict.set (Dict.set base "message_type" messageType) "command_type"
      commandType) "command_name" name) "metadata" (.dict []) =
      Dict.getD base "metadata" (.dict []) := by
  unfold setIfTruthy
  split_ifs <;> simp [Dict.getD, Dict.get?_set]

/-- The aggregation succeeds when the message type is text, the metadata is no other than a
dictionary, and the data can be read. -/
theorem aggregate_ok_iff (py : Runtime) (now : ℚ) (t : Transfer) (base : Message) :
    (∃ result, aggregate py now t base = .ok result) ↔
      ∃ kind, detectKind py t base = .ok kind ∧
        (Dict.getD base "metadata" (.dict [])).dict?.isSome = true ∧
        ∃ data, transferData py t kind.1 = .ok data := by
  cases hkind : detectKind py t base with
  | error e => simp [aggregate, hkind]
  | ok kind =>
    cases hmetadata : (Dict.getD base "metadata" (.dict [])).dict? with
    | none => simp [aggregate, hkind, getD_metadata_setIfTruthy, hmetadata]
    | some md =>
      cases hdata : transferData py t kind.1 with
      | error e => simp [aggregate, hkind, getD_metadata_setIfTruthy, hmetadata, hdata]
      | ok data => simp [aggregate, hkind, getD_metadata_setIfTruthy, hmetadata, hdata]

/-- Aggregating a completion message with data on its own. -/
theorem aggregate_alone_ok_iff (py : Runtime) (now : ℚ) {m : Message} (hdata : hasData m = true) :
    (∃ result, aggregate py now (newTransfer py m none [m] (some m)) m = .ok result) ↔
      raisesAlone py m = false := by
  have hcombined : (combinedData (newTransfer py m none [m] (some m))).isEmpty = false := by
    unfold hasData at hdata
    cases hlist : dataList? m <;> simp [hlist, combinedData, newTransfer] at hdata ⊢
    exact hdata
  have htransfer (precipitation : Bool) :
      transferData py (newTransfer py m none [m] (some m)) precipitation =
        .ok (combinedData (newTransfer py m none [m] (some m))) := by
    simp [transferData, hcombined]
  have htype := detectKind_ok_iff py (newTransfer py m none [m] (some m)) m
  have horiginal : (newTransfer py m none [m] (some m)).originalMessageType =
      extractMessageType py m := rfl
  rw [horiginal] at htype
  rw [aggregate_ok_iff]
  simp only [htransfer, raisesAlone, Bool.or_eq_false_iff, Bool.not_eq_false', ← htype,
    Option.isNone_eq_false_iff]
  constructor
  · rintro ⟨kind, hkind, hmetadata, -⟩
    exact ⟨⟨kind, hkind⟩, hmetadata⟩
  · rintro ⟨⟨kind, hkind⟩, hmetadata⟩
    exact ⟨kind, hkind, hmetadata, _, rfl⟩

/-- A completion message keeps every transfer tracked, or starts one that is never removed. -/
theorem registerCompletion_tracked {a : State} (h : a.Tracked) (py : Runtime) (now : ℚ) (key : Value)
    (m : Message) (hguard : Dict.has a.pendingTransfers key = false → hasData m = true →
      raisesAlone py m = false) : (registerCompletion py now key m a).2.Tracked := by
  unfold registerCompletion
  cases ht : Dict.get? a.pendingTransfers key with
  | some t =>
    exact finalizeTransfer_tracked (put_tracked h (Dict.has_iff.mpr ⟨t, ht⟩) _) py now key
  | none =>
    cases hdata : hasData m with
    | false => exact h
    | true =>
      obtain ⟨result, hresult⟩ := (aggregate_alone_ok_iff py now hdata).mpr
        (hguard (Dict.has_eq_false.mpr ht) hdata)
      simp only [if_true]
      rw [finalizeTransfer_ok (Dict.get?_set_self _ _ _) rfl hresult]
      intro k
      simp only [State.remove, State.put, has_erase, has_set, h k]
      by_cases hk : key = k <;> simp [hk]

theorem registerCompletion_orphan {a : State} (h : a.Tracked) (py : Runtime) (now : ℚ) {key : Value}
    {m : Message} (hkey : Dict.has a.pendingTransfers key = false) (hdata : hasData m = true)
    (hraises : raisesAlone py m = true) :
    Dict.has (registerCompletion py now key m a).2.pendingTransfers key = true ∧
      Dict.has (registerCompletion py now key m a).2.transferTimeouts key = false := by
  have hfails : ∀ result, aggregate py now (newTransfer py m none [m] (some m)) m ≠ .ok result := by
    intro result hresult
    have hfine := (aggregate_alone_ok_iff py now hdata).mp ⟨result, hresult⟩
    simp [hraises] at hfine
  cases haggregate : aggregate py now (newTransfer py m none [m] (some m)) m with
  | ok result => exact absurd haggregate (hfails result)
  | error e =>
    simp only [registerCompletion, Dict.has_eq_false.mp hkey, hdata, if_true]
    rw [finalizeTransfer_error (Dict.get?_set_self _ _ _) rfl haggregate]
    refine ⟨?_, ?_⟩
    · simp [State.put, has_set]
    · exact (h key).symm.trans hkey

theorem has_sweep (a : State) (now : ℚ) (key : Value) :
    Dict.has (sweep now a).pendingTransfers key = a.outlasts now key := by
  unfold sweep State.outlasts
  by_cases hdue : cleanupInterval < now - a.lastCleanup
  · simp only [hdue, if_true, cleanupExpiredTransfers, Dict.has, not_le.mpr hdue, decide_false,
      Bool.false_or]
    rw [Dict.get?_filter a.pendingTransfers fun key =>
      (Dict.get? a.transferTimeouts key).all fun t => decide (now ≤ t)]
    split_ifs with hlive
    · rw [hlive, Bool.and_true]
    · rw [Bool.eq_false_of_not_eq_true hlive, Bool.and_false]
      rfl
  · simp [hdue, not_lt.mp hdue]

theorem handle_tracked (py : Runtime) {a : State} (h : a.Tracked) (now : ℚ) (key : Value)
    (m : Message) (hguard : getTransferFlags m = (false, false, true) →
      Dict.has a.pendingTransfers key = false → hasData m = true → raisesAlone py m = false) :
    (handle py now key m a).2.Tracked := by
  unfold handle
  split
  · exact put_setTimeout_tracked h key _ now
  · exact registerData_tracked h py now key m
  · rename_i hflags
    exact registerCompletion_tracked h py now key m (hguard hflags)
  · split_ifs
    · exact registerFrames_tracked h py now key m
    · exact h

theorem registerMessage_tracked (py : Runtime) {a : State} {c : Call} (h : a.Tracked)
    (hguard : orphans py a c = false) : (registerMessage py a c).2.Tracked := by
  have hsweep := sweep_tracked h c.now
  unfold registerMessage dispatch
  by_cases hid : (Dict.getD c.message "request_id" .none).truthy = true
  · cases hkey : (Dict.getD c.message "request_id" .none).key? with
    | none => simpa only [hid, if_true, hkey] using hsweep
    | some key =>
      simp only [hid, if_true, hkey]
      refine handle_tracked py hsweep c.now key c.message fun hflags hnew hdata => ?_
      rw [has_sweep] at hnew
      simpa [orphans, hid, hflags, hdata, hkey, hnew] using hguard
  · simpa only [hid, Bool.false_eq_true, if_false] using hsweep

theorem registerMessage_orphan (py : Runtime) {a : State} {c : Call} (h : a.Tracked)
    (horphan : orphans py a c = true) :
    ∃ key, Dict.has (registerMessage py a c).2.pendingTransfers key = true ∧
      Dict.has (registerMessage py a c).2.transferTimeouts key = false := by
  simp only [orphans, Bool.and_eq_true, decide_eq_true_eq, Option.any_eq_true,
    Bool.not_eq_true'] at horphan
  obtain ⟨⟨⟨⟨hid, hflags⟩, hdata⟩, hraises⟩, key, hkey, hnew⟩ := horphan
  refine ⟨key, ?_⟩
  rw [← has_sweep] at hnew
  simp only [registerMessage, dispatch, hid, if_true, hkey, handle, hflags]
  exact registerCompletion_orphan (sweep_tracked h c.now) py c.now hnew hdata hraises

/-- A tracked transfer is removed by the first sweep after its timeout. -/
theorem State.Tracked.expires {a : State} (h : a.Tracked) {key : Value}
    (hpending : Dict.has a.pendingTransfers key = true) :
    ∃ timeout, Dict.get? a.transferTimeouts key = some timeout ∧ ∀ now, timeout < now →
      Dict.has (cleanupExpiredTransfers now a).pendingTransfers key = false := by
  rw [h key] at hpending
  obtain ⟨timeout, htimeout⟩ := Dict.has_iff.mp hpending
  refine ⟨timeout, htimeout, fun now hnow => ?_⟩
  rw [Dict.has_eq_false, cleanupExpiredTransfers,
    Dict.get?_filter a.pendingTransfers fun key =>
      (Dict.get? a.transferTimeouts key).all fun t => decide (now ≤ t)]
  simp [htimeout, hnow]

/-- In a run of an aggregator, every pending transfer has a timeout after which the sweep removes it,
in every state reached, if and only if no call of the run orphans a transfer. -/
theorem pending_transfers_expire_iff (py : Runtime) (created : ℚ) (calls : List Call) :
    (∀ before, before <+: calls → ∀ key,
      Dict.has (final (registerMessage py) (State.fresh created) before).pendingTransfers key = true →
      ∃ timeout, Dict.get? (final (registerMessage py) (State.fresh created)
          before).transferTimeouts key = some timeout ∧
        ∀ now, timeout < now → Dict.has (cleanupExpiredTransfers now
          (final (registerMessage py) (State.fresh created) before)).pendingTransfers key = false) ↔
    Along (registerMessage py) (fun a c => orphans py a c = false) (State.fresh created) calls := by
  refine (along_iff_of_exact (Q := fun a : State => ∀ key,
    Dict.has a.pendingTransfers key = true → ∃ timeout,
      Dict.get? a.transferTimeouts key = some timeout ∧ ∀ now, timeout < now →
        Dict.has (cleanupExpiredTransfers now a).pendingTransfers key = false)
    (fun a c h hguard => registerMessage_tracked py h hguard) (fun a h key => h.expires)
    (fun a c h hguard hall => ?_) (State.fresh_tracked created) calls).symm
  obtain ⟨key, hpending, htimeouts⟩ :=
    registerMessage_orphan py h (Bool.eq_true_of_not_eq_false hguard)
  obtain ⟨timeout, htimeout, -⟩ := hall key hpending
  rw [Dict.has_eq_false, htimeout] at htimeouts
  cases htimeouts

/-- A completion message with data whose message type is `None`. -/
def orphaningCall : Call where
  now := 0
  message := [("request_id", .str "r"), ("is_transfer_complete", .bool true),
    ("message_type", .none), ("data", .list [.int 1])]

theorem pending_transfer_without_timeout :
    Dict.has (final (registerMessage Runtime.ascii) (State.fresh 0) [orphaningCall]).pendingTransfers
        (.str "r") = true ∧
      Dict.has (final (registerMessage Runtime.ascii) (State.fresh 0)
        [orphaningCall]).transferTimeouts (.str "r") = false := by
  decide +kernel

end Fmofp.Aggregator
