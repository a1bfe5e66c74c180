import Fmofp.Aggregator.Orphans
import Fmofp.Aggregator.Untimed

/-! Transfers with different request ids do not interfere: the answers to the messages of one are
those of the aggregator that gets these messages only, apart from time stamps. -/

namespace Fmofp.Aggregator

open Python Machine

def untimedAnswer (o : Except Exception (Option Message)) : Except Exception (Option Message) :=
  o.map (Option.map untimed)

/-- The states hold the same transfer under `key`, apart from time stamps. -/
def SameTransfer (key : Value) (a b : State) : Prop :=
  (Dict.get? a.pendingTransfers key).map Transfer.untimed =
    (Dict.get? b.pendingTransfers key).map Transfer.untimed

/-- The same answer and the same transfer under `key`. -/
def Alike (key : Value) (o o' : Outcome) : Prop :=
  untimedAnswer o.1 = untimedAnswer o'.1 ∧ SameTransfer key o.2 o'.2

theorem base?_untimed (t : Transfer) : t.untimed.base? = t.base?.map untimed := by
  cases hinit : t.initMessage <;> simp [Transfer.base?, Transfer.untimed, hinit]

theorem addData_untimed (t : Transfer) (m : Message) :
    (t.addData m).untimed = t.untimed.addData (untimed m) := by
  simp [Transfer.addData, Transfer.untimed]

section Alike

variable {key : Value} {a b : State} (py : Runtime) (now now' : ℚ) (m : Message)

theorem put_same {t t' : Transfer} (h : t.untimed = t'.untimed) :
    SameTransfer key (a.put key t) (b.put key t') := by
  simp [SameTransfer, State.put, h]

theorem remove_same : SameTransfer key (a.remove key) (b.remove key) := by
  simp [SameTransfer, State.remove]

theorem SameTransfer.cases (h : SameTransfer key a b) :
    (Dict.get? a.pendingTransfers key = none ∧ Dict.get? b.pendingTransfers key = none) ∨
    ∃ t t', Dict.get? a.pendingTransfers key = some t ∧ Dict.get? b.pendingTransfers key = some t' ∧
      t.untimed = t'.untimed := by
  unfold SameTransfer at h
  cases ha : Dict.get? a.pendingTransfers key <;> cases hb : Dict.get? b.pendingTransfers key <;>
    simp_all

theorem finalizeTransfer_alike (h : SameTransfer key a b) :
    Alike key (finalizeTransfer py now key a) (finalizeTransfer py now' key b) := by
  rcases h.cases with ⟨ha, hb⟩ | ⟨t, t', ha, hb, ht⟩
  · simp only [finalizeTransfer, ha, hb]
    exact ⟨rfl, h⟩
  · have hbases : t.base?.map untimed = t'.base?.map untimed := by
      rw [← base?_untimed, ← base?_untimed, ht]
    cases hbase : t.base? with
    | none =>
      have hbase' : t'.base? = none := by simpa [hbase] using hbases.symm
      rw [finalizeTransfer_empty ha hbase, finalizeTransfer_empty hb hbase']
      exact ⟨rfl, h⟩
    | some base =>
      obtain ⟨base', hbase', hbases'⟩ : ∃ base', t'.base? = some base' ∧ untimed base' = untimed base := by
        simpa [hbase] using hbases.symm
      have houtcome : untimedOutcome (aggregate py now t base) =
          untimedOutcome (aggregate py now' t' base') := by
        rw [← aggregate_untimed py now 0, ← aggregate_untimed py now' 0, ht, hbases']
      cases haggregate : aggregate py now t base with
      | ok result =>
        cases haggregate' : aggregate py now' t' base' with
        | ok result' =>
          rw [haggregate, haggregate'] at houtcome
          rw [finalizeTransfer_ok ha hbase haggregate, finalizeTransfer_ok hb hbase' haggregate']
          refine ⟨?_, remove_same⟩
          simpa [untimedAnswer, untimedOutcome, Except.map] using houtcome
        | error e => simp [haggregate, haggregate', untimedOutcome] at houtcome
      | error e =>
        cases haggregate' : aggregate py now' t' base' with
        | ok result' => simp [haggregate, haggregate', untimedOutcome] at houtcome
        | error e' =>
          simp only [haggregate, haggregate', untimedOutcome, Except.error.injEq,
            Prod.mk.injEq] at houtcome
          rw [finalizeTransfer_error ha hbase haggregate, finalizeTransfer_error hb hbase' haggregate']
          refine ⟨?_, put_same houtcome.2⟩
          simp [untimedAnswer, Except.map, houtcome.1]

theorem registerInit_alike :
    Alike key (registerInit py now key m a) (registerInit py now' key m b) :=
  ⟨rfl, put_same rfl⟩

theorem registerData_alike (h : SameTransfer key a b) :
    Alike key (registerData py now key m a) (registerData py now' key m b) := by
  have hput {t t' : Transfer} (ht : t.untimed = t'.untimed) :
      SameTransfer key ((a.put key (t.addData m)).setTimeout key now)
        ((b.put key (t'.addData m)).setTimeout key now') := by
    refine put_same (a := a) (b := b) ?_
    rw [addData_untimed, addData_untimed, ht]
  have htransfer : (∃ e, a.transferFor py key m = .error e ∧ b.transferFor py key m = .error e) ∨
      ∃ t t', a.transferFor py key m = .ok t ∧ b.transferFor py key m = .ok t' ∧ t.untimed = t'.untimed := by
    unfold State.transferFor
    rcases h.cases with ⟨ha, hb⟩ | ⟨t, t', ha, hb, ht⟩
    · rw [ha, hb]
      cases unannouncedTransfer py m with
      | error e => exact .inl ⟨e, rfl, rfl⟩
      | ok t => exact .inr ⟨t, t, rfl, rfl, rfl⟩
    · rw [ha, hb]
      exact .inr ⟨t, t', rfl, rfl, ht⟩
  unfold registerData
  obtain ⟨e, ha, hb⟩ | ⟨t, t', ha, hb, ht⟩ := htransfer
  · rw [ha, hb]
    exact ⟨rfl, h⟩
  · rw [ha, hb]
    dsimp only
    cases isFinalMessage m with
    | error e => exact ⟨rfl, hput ht⟩
    | ok isFinal =>
      cases isFinal with
      | false => exact ⟨rfl, hput ht⟩
      | true => exact finalizeTransfer_alike py now now' (hput ht)

theorem registerCompletion_alike (h : SameTransfer key a b) :
    Alike key (registerCompletion py now key m a) (registerCompletion py now' key m b) := by
  unfold registerCompletion
  rcases h.cases with ⟨ha, hb⟩ | ⟨t, t', ha, hb, ht⟩
  · simp only [ha, hb]
    split_ifs
    · exact finalizeTransfer_alike py now now' (put_same rfl)
    · exact ⟨rfl, h⟩
  · simp only [ha, hb]
    refine finalizeTransfer_alike py now now' (put_same ?_)
    simp only [Transfer.untimed, Transfer.mk.injEq] at ht ⊢
    exact ⟨ht.1, ht.2.1, trivial, ht.2.2.2⟩

theorem collect_same (h : SameTransfer key a b) :
    SameTransfer key (a.collect py now key m) (b.collect py now' key m) := by
  unfold State.collect
  rcases h.cases with ⟨ha, hb⟩ | ⟨t, t', ha, hb, ht⟩
  · rw [ha, hb]
    exact put_same (a := a) (b := b) rfl
  · rw [ha, hb]
    refine put_same ?_
    rw [addData_untimed, addData_untimed, ht]

theorem SameTransfer.collected (h : SameTransfer key a b) :
    (a.collected key).map untimed = (b.collected key).map untimed := by
  unfold State.collected
  rcases h.cases with ⟨ha, hb⟩ | ⟨t, t', ha, hb, ht⟩
  · rw [ha, hb]
  · rw [ha, hb]
    exact congrArg Transfer.dataMessages ht

theorem registerFrames_alike (h : SameTransfer key a b) :
    Alike key (registerFrames py now key m a) (registerFrames py now' key m b) := by
  have hcollect := collect_same py now now' m h
  have hcollected := hcollect.collected
  have hany : ((a.collect py now key m).collected key).any hasData =
      ((b.collect py now' key m).collected key).any hasData := by
    have := congrArg (List.any · hasData) hcollected
    simpa [List.any_map, Function.comp_def, hasData_untimed] using this
  have hlength : ((a.collect py now key m).collected key).length =
      ((b.collect py now' key m).collected key).length := by
    simpa using congrArg List.length hcollected
  unfold registerFrames
  simp only [hany, hlength]
  split_ifs
  · exact finalizeTransfer_alike py now now' hcollect
  · exact ⟨rfl, hcollect⟩

theorem handle_alike (h : SameTransfer key a b) :
    Alike key (handle py now key m a) (handle py now' key m b) := by
  unfold handle
  split
  · exact registerInit_alike py now now' m
  · exact registerData_alike py now now' m h
  · exact registerCompletion_alike py now now' m h
  · split_ifs
    · exact registerFrames_alike py now now' m h
    · exact ⟨rfl, h⟩

end Alike

section Frame

variable {key other : Value} (h : other ≠ key) (py : Runtime) (now : ℚ) (m : Message) (a : State)

include h

theorem get?_put_other (t : Transfer) :
    Dict.get? (a.put other t).pendingTransfers key = Dict.get? a.pendingTransfers key :=
  Dict.get?_set_ne _ _ h

theorem finalizeTransfer_frame :
    Dict.get? (finalizeTransfer py now other a).2.pendingTransfers key =
      Dict.get? a.pendingTransfers key := by
  rcases finalizeTransfer_state py now other a with hstate | hstate | ⟨t, -, hstate⟩
  · rw [hstate]
  · rw [hstate]
    exact Dict.get?_erase_ne _ h
  · rw [hstate]
    exact get?_put_other h a t

theorem registerData_frame :
    Dict.get? (registerData py now other m a).2.pendingTransfers key =
      Dict.get? a.pendingTransfers key := by
  unfold registerData
  cases a.transferFor py other m with
  | error e => rfl
  | ok t =>
    have hput := get?_put_other h a (t.addData m)
    cases isFinalMessage m with
    | error e => exact hput
    | ok final =>
      cases final with
      | false => exact hput
      | true => exact (finalizeTransfer_frame h py now _).trans hput

theorem registerCompletion_frame :
    Dict.get? (registerCompletion py now other m a).2.pendingTransfers key =
      Dict.get? a.pendingTransfers key := by
  unfold registerCompletion
  cases Dict.get? a.pendingTransfers other with
  | some t => exact (finalizeTransfer_frame h py now _).trans (get?_put_other h a _)
  | none =>
    simp only
    split_ifs
    · exact (finalizeTransfer_frame h py now _).trans (get?_put_other h a _)
    · rfl

theorem registerFrames_frame :
    Dict.get? (registerFrames py now other m a).2.pendingTransfers key =
      Dict.get? a.pendingTransfers key := by
  have hcollect : Dict.get? (a.collect py now other m).pendingTransfers key =
      Dict.get? a.pendingTransfers key := by
    unfold State.collect
    cases Dict.get? a.pendingTransfers other with
    | some t => exact get?_put_other h a _
    | none => exact get?_put_other h a _
  unfold registerFrames
  simp only
  split_ifs
  · exact (finalizeTransfer_frame h py now _).trans hcollect
  · exact hcollect

/-- A message leaves the transfers of other request ids alone. -/
theorem handle_frame :
    Dict.get? (handle py now other m a).2.pendingTransfers key = Dict.get? a.pendingTransfers key := by
  unfold handle
  split
  · exact get?_put_other h a _
  · exact registerData_frame h py now m a
  · exact registerCompletion_frame h py now m a
  · split_ifs
    · exact registerFrames_frame h py now m a
    · rfl

end Frame

/-- `message.get('request_id')`. -/
def Call.requestId (c : Call) : Value := Dict.getD c.message "request_id" .none

/-- No dictionary key stands for both ids. -/
def Apart (a b : Value) : Prop := ∀ key, a.key? = some key → b.key? ≠ some key

/-- What a call without a usable request id does: nothing but the sweep. -/
theorem registerMessage_cases (py : Runtime) (s : State) (c : Call) :
    (∃ key, c.requestId.key? = some key ∧
      registerMessage py s c = handle py c.now key c.message (sweep c.now s)) ∨
    (c.requestId.truthy = false ∧ registerMessage py s c = (.ok (some c.message), sweep c.now s)) ∨
    (c.requestId.truthy = true ∧ c.requestId.key? = none ∧
      registerMessage py s c = (.error .typeError, sweep c.now s)) := by
  have hid : Dict.getD c.message "request_id" .none = c.requestId := rfl
  simp only [registerMessage, dispatch, hid]
  cases htruthy : c.requestId.truthy with
  | false => exact .inr (.inl ⟨rfl, by simp⟩)
  | true =>
    cases hkey : c.requestId.key? with
    | none => exact .inr (.inr ⟨rfl, rfl, by simp⟩)
    | some key => exact .inl ⟨key, rfl, by simp⟩

/-- The states hold the same transfer for a request id, if a dictionary can have it as a key. -/
def SameFor (id : Value) (s t : State) : Prop := ∀ key, id.key? = some key → SameTransfer key s t

theorem sweep_same {id : Value} {s t : State} {c d : Call} (hs : expiresNothing s c)
    (ht : expiresNothing t d) (h : SameFor id s t) :
    SameFor id (sweep c.now s) (sweep d.now t) := by
  obtain ⟨_, hs⟩ := sweep_eq hs
  obtain ⟨_, ht⟩ := sweep_eq ht
  rw [hs, ht]
  exact h

/-- A call for another request id does not touch the transfer. -/
theorem registerMessage_hidden (py : Runtime) {id : Value} {s t : State} {c : Call}
    (hapart : Apart id c.requestId) (hquiet : expiresNothing s c) (h : SameFor id s t) :
    SameFor id (registerMessage py s c).2 t := by
  intro key hkey
  obtain ⟨swept, hswept⟩ := sweep_eq hquiet
  have hsame : SameTransfer key (sweep c.now s) t := by
    rw [hswept]
    exact h key hkey
  rcases registerMessage_cases py s c with ⟨other, hother, hstep⟩ | ⟨-, hstep⟩ | ⟨-, -, hstep⟩
  · have hne : other ≠ key := by
      rintro rfl
      exact hapart other hkey hother
    rw [hstep, SameTransfer, handle_frame hne]
    exact hsame
  · rw [hstep]
    exact hsame
  · rw [hstep]
    exact hsame

/-- Two calls with the same message, in states with the same transfer for its request id. -/
theorem registerMessage_visible (py : Runtime) {s t : State} {c d : Call}
    (hmessage : c.message = d.message) (hs : expiresNothing s c) (ht : expiresNothing t d)
    (h : SameFor c.requestId s t) :
    untimedAnswer (registerMessage py s c).1 = untimedAnswer (registerMessage py t d).1 ∧
      SameFor c.requestId (registerMessage py s c).2 (registerMessage py t d).2 := by
  have hsweep := sweep_same hs ht h
  have hid : Dict.getD d.message "request_id" .none = c.requestId := by
    rw [Call.requestId, hmessage]
  simp only [registerMessage, dispatch, hmessage, hid]
  split_ifs
  · cases hkey : c.requestId.key? with
    | none => exact ⟨rfl, hsweep⟩
    | some key =>
      have halike := handle_alike py c.now d.now d.message (hsweep key hkey)
      refine ⟨halike.1, fun k hk => ?_⟩
      obtain rfl : key = k := Option.some.inj (hkey.symm.trans hk)
      exact halike.2
  · exact ⟨rfl, hsweep⟩

/-- The calls with the request id `id`. -/
def isFor (id : Value) (c : Call) : Bool := decide (c.requestId = id)

/-- The answers to the calls of one request id, among calls of others, are those of an aggregator of
its own, whatever the clocks show, as long as no transfer expires. -/
theorem answers_alone (py : Runtime) (id : Value) {calls alone : List Call} {created created' : ℚ}
    (hcalls : ∀ c ∈ calls, c.requestId = id ∨ Apart id c.requestId)
    (halone : (calls.filter (isFor id)).map Call.message = alone.map Call.message)
    (hquiet : Along (registerMessage py) expiresNothing (State.fresh created) calls)
    (hquiet' : Along (registerMessage py) expiresNothing (State.fresh created') alone) :
    (visibleOutputs (registerMessage py) (isFor id) (State.fresh created) calls).map untimedAnswer =
      (outputs (registerMessage py) (State.fresh created') alone).map untimedAnswer := by
  have hhidden : ∀ s t c, isFor id c = false →
      (expiresNothing s c ∧ (c.requestId = id ∨ Apart id c.requestId)) → SameFor id s t →
      SameFor id (registerMessage py s c).2 t := fun s t c hother hguard h =>
    registerMessage_hidden py (hguard.2.resolve_left (of_decide_eq_false hother)) hguard.1 h
  have hvisible : ∀ (s t : State) (c d : Call), isFor id c = true → c.message = d.message →
      (expiresNothing s c ∧ (c.requestId = id ∨ Apart id c.requestId)) → expiresNothing t d →
      SameFor id s t →
      untimedAnswer (registerMessage py s c).1 = untimedAnswer (registerMessage py t d).1 ∧
        SameFor id (registerMessage py s c).2 (registerMessage py t d).2 := by
    intro s t c d hfor hmessage hguard hguard' h
    obtain rfl := of_decide_eq_true hfor
    exact registerMessage_visible py hmessage hguard.1 hguard' h
  have hfresh : SameFor id (State.fresh created) (State.fresh created') := fun _ _ => rfl
  exact map_eq_map_iff_forall₂.mpr (visibleOutputs_related hhidden hvisible hfresh
    (map_eq_map_iff_forall₂.mp halone) (along_and hquiet hcalls) hquiet')

/-- The calls of two request ids in any order: each gets the answers that it gets alone. -/
theorem interleaved_answers_alone (py : Runtime) {a b : Value} (hab : Apart a b)
    {calls callsA callsB : List Call} {created createdA createdB : ℚ}
    (hcalls : ∀ c ∈ calls, c.requestId = a ∨ c.requestId = b)
    (hA : (calls.filter (isFor a)).map Call.message = callsA.map Call.message)
    (hB : (calls.filter (isFor b)).map Call.message = callsB.map Call.message)
    (hquiet : Along (registerMessage py) expiresNothing (State.fresh created) calls)
    (hquietA : Along (registerMessage py) expiresNothing (State.fresh createdA) callsA)
    (hquietB : Along (registerMessage py) expiresNothing (State.fresh createdB) callsB) :
    (visibleOutputs (registerMessage py) (isFor a) (State.fresh created) calls).map untimedAnswer =
      (outputs (registerMessage py) (State.fresh createdA) callsA).map untimedAnswer ∧
    (visibleOutputs (registerMessage py) (isFor b) (State.fresh created) calls).map untimedAnswer =
      (outputs (registerMessage py) (State.fresh createdB) callsB).map untimedAnswer := by
  have hba : Apart b a := fun key hb ha => hab key ha hb
  refine ⟨answers_alone py a (fun c hc => ?_) hA hquiet hquietA,
    answers_alone py b (fun c hc => ?_) hB hquiet hquietB⟩
  · refine (hcalls c hc).imp_right fun hb => ?_
    rw [hb]
    exact hab
  · refine (hcalls c hc).symm.imp_right fun ha => ?_
    rw [ha]
    exact hba

def startOf (id : String) : Message :=
  [("request_id", .str id), ("is_transfer_init", .bool true), ("message_type", .str "status")]

def blockOf (id : String) (item : ℤ) : Message :=
  [("request_id", .str id), ("is_transfer_data", .bool true), ("is_final", .bool true),
    ("data", .list [.int item])]

theorem two_transfers_answered_alone :
    (visibleOutputs (registerMessage Runtime.ascii) (isFor (.str "a")) (State.fresh 0)
        [⟨1, startOf "a"⟩, ⟨2, startOf "b"⟩, ⟨3, blockOf "a" 7⟩, ⟨4, blockOf "b" 8⟩]).map untimedAnswer =
      (outputs (registerMessage Runtime.ascii) (State.fresh 0)
        [⟨1, startOf "a"⟩, ⟨2, blockOf "a" 7⟩]).map untimedAnswer ∧
    (visibleOutputs (registerMessage Runtime.ascii) (isFor (.str "b")) (State.fresh 0)
        [⟨1, startOf "a"⟩, ⟨2, startOf "b"⟩, ⟨3, blockOf "a" 7⟩, ⟨4, blockOf "b" 8⟩]).map untimedAnswer =
      (outputs (registerMessage Runtime.ascii) (State.fresh 5)
        [⟨6, startOf "b"⟩, ⟨9, blockOf "b" 8⟩]).map untimedAnswer :=
  interleaved_answers_alone Runtime.ascii (fun _ ha hb => absurd (ha.trans hb.symm) (by decide)) (by decide) (by decide) (by decide)
    (by decide +kernel) (by decide +kernel) (by decide +kernel)

end Fmofp.Aggregator
