import Fmofp.Aggregator.Orphans

/-! The messages of one block transfer, with its data messages in any order: the aggregator answers
both the final data message and the completion message. -/

namespace Fmofp.Aggregator

open Python Machine

/-- A data message of a transfer: its number, the total, and data. -/
structure IsBlock (m : Message) (number total : ℕ) : Prop where
  phase : (getTransferFlags m).1 = false ∧ (getTransferFlags m).2.1 = true
  numbers : sequenceNumbers m = .ok (.int number, .int total)
  final : marksFinal m = .ok (decide (number = total))
  data : (dataList? m).isSome = true

/-- The messages of a transfer with one request id: an initialization message, data messages that are
numbered from 1 to their total with the last one marked final, and a completion message. -/
structure IsTransfer (id : Value) (init : Message) (blocks : List Message) (completion : Message) :
    Prop where
  requestId : ∀ m ∈ init :: (blocks ++ [completion]), Dict.get? m "request_id" = some id
  truthy : id.truthy = true
  init : (getTransferFlags init).1 = true
  block : ∀ i (hi : i < blocks.length), IsBlock blocks[i] (i + 1) blocks.length
  completion : getTransferFlags completion = (false, false, true)

/-- The run answers with one aggregated message that has the data of all blocks in the order of their
numbers, and leaves no transfer pending. -/
def Aggregates (py : Runtime) (created : ℚ) (key : Value) (blocks : List Message)
    (calls : List Call) : Prop :=
  ∃ before after result,
    outputs (registerMessage py) (State.fresh created) calls =
      List.replicate before (.ok none) ++ .ok (some result) :: List.replicate after (.ok none) ∧
    dataList? result = some (blocks.flatMap fun m => (dataList? m).getD []) ∧
    Dict.has (final (registerMessage py) (State.fresh created) calls).pendingTransfers key = false

/-- Every pending transfer has a message to start its result from. -/
def State.Grounded (a : State) : Prop :=
  ∀ key t, Dict.get? a.pendingTransfers key = some t → t.base?.isSome = true

/-- A call that returns `None`. -/
def silent : Except Exception (Option Message) → Bool
  | .ok none => true
  | _ => false

theorem put_grounded {a : State} (h : a.Grounded) (key : Value) {t : Transfer}
    (hbase : t.base?.isSome = true) : (a.put key t).Grounded := by
  intro k t' ht'
  rw [State.put, Dict.get?_set] at ht'
  split_ifs at ht' with hk
  · rw [← Option.some.inj ht']
    exact hbase
  · exact h k t' ht'

theorem withBaseMetadata_base (t : Transfer) (md : Message) :
    (t.withBaseMetadata md).base?.isSome = t.base?.isSome := by
  cases hinit : t.initMessage with
  | some m => simp [Transfer.withBaseMetadata, Transfer.base?, hinit]
  | none => cases hdata : t.dataMessages <;>
      simp [Transfer.withBaseMetadata, Transfer.base?, hinit, hdata]

theorem aggregate_error_base {py : Runtime} {now : ℚ} {t t' : Transfer} {base : Message}
    {e : Exception} (h : aggregate py now t base = .error (e, t')) :
    t'.base?.isSome = t.base?.isSome := by
  unfold aggregate at h
  split at h
  · cases h
    rfl
  · simp only at h
    split at h
    · cases h
      rfl
    · split at h
      · cases h
        exact withBaseMetadata_base t _
      · cases h

theorem finalizeTransfer_grounded {a : State} (h : a.Grounded) (py : Runtime) (now : ℚ)
    (key : Value) : (finalizeTransfer py now key a).2.Grounded := by
  cases ht : Dict.get? a.pendingTransfers key with
  | none => simpa only [finalizeTransfer, ht] using h
  | some t =>
    obtain ⟨base, hbase⟩ := Option.isSome_iff_exists.mp (h key t ht)
    cases haggregate : aggregate py now t base with
    | ok result =>
      rw [finalizeTransfer_ok ht hbase haggregate]
      intro k t' ht'
      rw [State.remove, Dict.get?_erase] at ht'
      split_ifs at ht'
      exact h k t' ht'
    | error e =>
      rw [finalizeTransfer_error ht hbase haggregate]
      exact put_grounded h key ((aggregate_error_base haggregate).trans (h key t ht))

theorem finalizeTransfer_answers {a : State} (h : a.Grounded) {key : Value}
    (hkey : Dict.has a.pendingTransfers key = true) (py : Runtime) (now : ℚ) :
    silent (finalizeTransfer py now key a).1 = false := by
  obtain ⟨t, ht⟩ := Dict.has_iff.mp hkey
  obtain ⟨base, hbase⟩ := Option.isSome_iff_exists.mp (h key t ht)
  cases haggregate : aggregate py now t base with
  | ok result =>
    rw [finalizeTransfer_ok ht hbase haggregate]
    rfl
  | error e =>
    rw [finalizeTransfer_error ht hbase haggregate]
    rfl

theorem addData_base (t : Transfer) (m : Message) : (t.addData m).base?.isSome = true := by
  cases hinit : t.initMessage <;> simp [Transfer.addData, Transfer.base?, hinit]

theorem setTimeout_grounded {a : State} (h : a.Grounded) (key : Value) (now : ℚ) :
    (a.setTimeout key now).Grounded := h

theorem registerData_grounded {a : State} (h : a.Grounded) (py : Runtime) (now : ℚ) (key : Value)
    (m : Message) : (registerData py now key m a).2.Grounded := by
  unfold registerData
  cases a.transferFor py key m with
  | error e => exact h
  | ok t =>
    have hput := setTimeout_grounded (put_grounded h key (addData_base t m)) key now
    cases isFinalMessage m with
    | error e => exact hput
    | ok final =>
      cases final with
      | false => exact hput
      | true => exact finalizeTransfer_grounded hput py now key

theorem registerCompletion_grounded {a : State} (h : a.Grounded) (py : Runtime) (now : ℚ)
    (key : Value) (m : Message) : (registerCompletion py now key m a).2.Grounded := by
  unfold registerCompletion
  cases ht : Dict.get? a.pendingTransfers key with
  | some t =>
    exact finalizeTransfer_grounded
      (put_grounded h key (t := { t with completeMessage := some m }) (h key t ht)) py now key
  | none =>
    simp only
    split_ifs
    · exact finalizeTransfer_grounded (put_grounded h key rfl) py now key
    · exact h

theorem registerFrames_grounded {a : State} (h : a.Grounded) (py : Runtime) (now : ℚ) (key : Value)
    (m : Message) : (registerFrames py now key m a).2.Grounded := by
  have hcollect : (a.collect py now key m).Grounded := by
    unfold State.collect
    cases Dict.get? a.pendingTransfers key with
    | some t => exact put_grounded h key (addData_base t m)
    | none => exact setTimeout_grounded (put_grounded h key rfl) key now
  unfold registerFrames
  simp only
  split_ifs
  · exact finalizeTransfer_grounded hcollect py now key
  · exact hcollect

theorem handle_grounded {a : State} (h : a.Grounded) (py : Runtime) (now : ℚ) (key : Value)
    (m : Message) : (handle py now key m a).2.Grounded := by
  unfold handle
  split
  · exact setTimeout_grounded (put_grounded h key rfl) key now
  · exact registerData_grounded h py now key m
  · exact registerCompletion_grounded h py now key m
  · split_ifs
    · exact registerFrames_grounded h py now key m
    · exact h

theorem sweep_grounded {a : State} (h : a.Grounded) (now : ℚ) : (sweep now a).Grounded := by
  unfold sweep
  split_ifs
  · intro key t ht
    simp only [cleanupExpiredTransfers] at ht
    rw [Dict.get?_filter a.pendingTransfers fun key =>
      (Dict.get? a.transferTimeouts key).all fun t => decide (now ≤ t)] at ht
    split_ifs at ht
    exact h key t ht
  · exact h

theorem registerMessage_grounded (py : Runtime) (a : State) (c : Call) (h : a.Grounded) :
    (registerMessage py a c).2.Grounded := by
  have hsweep := sweep_grounded h c.now
  unfold registerMessage dispatch
  simp only
  split_ifs
  · split
    · exact hsweep
    · exact handle_grounded hsweep py c.now _ c.message
  · exact hsweep

theorem registerData_answers {a : State} (h : a.Grounded) (py : Runtime) (now : ℚ) (key : Value)
    {m : Message} (hfinal : isFinalMessage m = .ok true) :
    silent (registerData py now key m a).1 = false := by
  unfold registerData
  cases a.transferFor py key m with
  | error e => rfl
  | ok t =>
    simp only [hfinal]
    refine finalizeTransfer_answers
      (setTimeout_grounded (put_grounded h key (addData_base t m)) key now) ?_ py now
    simp [State.setTimeout, State.put, has_set]

theorem registerCompletion_answers {a : State} (h : a.Grounded) (py : Runtime) (now : ℚ) (key : Value)
    (m : Message) : silent (registerCompletion py now key m a).1 = false := by
  unfold registerCompletion
  cases ht : Dict.get? a.pendingTransfers key with
  | some t =>
    refine finalizeTransfer_answers
      (put_grounded h key (t := { t with completeMessage := some m }) (h key t ht)) ?_ py now
    simp [State.put, has_set]
  | none =>
    simp only
    split_ifs
    · refine finalizeTransfer_answers (put_grounded h key rfl) ?_ py now
      simp [State.put, has_set]
    · rfl

theorem IsBlock.isFinal {m : Message} {total : ℕ} (h : IsBlock m total total) (htotal : 0 < total) :
    isFinalMessage m = .ok true := by
  have hpositive : (Value.int total).positive = .ok true := by
    simp [Value.positive, Value.number?, htotal]
  simp [isFinalMessage, h.final, h.numbers, hpositive, bind, Except.bind, pure, Except.pure]

section Run

variable (py : Runtime) (created : ℚ)

theorem final_grounded (calls : List Call) :
    (final (registerMessage py) (State.fresh created) calls).Grounded :=
  invariant_reachable (registerMessage_grounded py) (s := State.fresh created)
    (fun _ _ ht => by simp [State.fresh] at ht) ⟨calls, rfl⟩

theorem Aggregates.countP {key : Value} {blocks : List Message} {calls : List Call}
    (h : Aggregates py created key blocks calls) :
    (outputs (registerMessage py) (State.fresh created) calls).countP (fun o => !silent o) = 1 := by
  obtain ⟨before, after, result, houtputs, -⟩ := h
  rw [houtputs]
  simp [List.countP_append, List.countP_replicate, silent]

/-- A final data message and a completion message after it are both answered. -/
theorem two_answers {id key : Value} (htruthy : id.truthy = true) (hkey : id.key? = some key)
    {block completion : Call} (hblock : Dict.get? block.message "request_id" = some id)
    (hphase : (getTransferFlags block.message).1 = false ∧
      (getTransferFlags block.message).2.1 = true)
    (hfinal : isFinalMessage block.message = .ok true)
    (hcompletion : Dict.get? completion.message "request_id" = some id)
    (hcomplete : getTransferFlags completion.message = (false, false, true))
    (before between : List Call) :
    2 ≤ (outputs (registerMessage py) (State.fresh created)
      (before ++ block :: (between ++ [completion]))).countP fun o => !silent o := by
  have hfirst : silent (registerMessage py (final (registerMessage py) (State.fresh created) before)
      block).1 = false := by
    have hgrounded := sweep_grounded (final_grounded py created before) block.now
    rw [registerMessage_keyed py _ hblock htruthy hkey, handle]
    obtain ⟨hinit, hdata⟩ := hphase
    rcases hflags : getTransferFlags block.message with ⟨init, data, complete⟩
    rw [hflags] at hinit hdata
    subst hinit hdata
    exact registerData_answers hgrounded py block.now key hfinal
  have hlast : silent (registerMessage py (final (registerMessage py) (State.fresh created)
      (before ++ block :: between)) completion).1 = false := by
    have hgrounded := sweep_grounded (final_grounded py created (before ++ block :: between))
      completion.now
    rw [registerMessage_keyed py _ hcompletion htruthy hkey, handle, hcomplete]
    exact registerCompletion_answers hgrounded py completion.now key completion.message
  have hsplit : before ++ block :: (between ++ [completion]) =
      (before ++ block :: between) ++ [completion] := by simp
  rw [hsplit, outputs_append, List.countP_append, outputs_append, outputs_cons, List.countP_append,
    List.countP_cons, outputs_cons, List.countP_cons, hfirst, hlast]
  simp only [Bool.not_false, if_true]
  omega

end Run

theorem aggregate_data {py : Runtime} {now : ℚ} {t : Transfer} {base result : Message}
    (h : aggregate py now t base = .ok result) :
    ∃ precipitation data, transferData py t precipitation = .ok data ∧
      dataList? result = some data := by
  unfold aggregate at h
  split at h
  · cases h
  · rename_i precipitation vil _
    simp only at h
    split at h
    · cases h
    · split at h
      · cases h
      · rename_i data hdata
        refine ⟨precipitation, data, hdata, ?_⟩
        rw [← Except.ok.inj h]
        simp [dataList?]

theorem transferData_of_no_messages (py : Runtime) (precipitation : Bool) {t : Transfer}
    (h : t.dataMessages = []) : transferData py t precipitation = .ok [] := by
  have hcombined : combinedData t = [] := by simp [combinedData, h]
  cases precipitation
  · simp [transferData, hcombined]
  · simp only [transferData, hcombined, h]
    rfl

/-- A transfer that has its initialization message only is aggregated when that message's type is
text and its metadata is no other than a dictionary. -/
theorem aggregate_init_ok_iff (py : Runtime) (now : ℚ) {t : Transfer} {init : Message}
    (htype : t.originalMessageType = extractMessageType py init) (hdata : t.dataMessages = []) :
    (∃ result, aggregate py now t init = .ok result) ↔ raisesAlone py init = false := by
  rw [aggregate_ok_iff]
  simp only [transferData_of_no_messages py _ hdata, raisesAlone, Bool.or_eq_false_iff,
    Bool.not_eq_false', ← htype, ← detectKind_ok_iff py t init, Option.isNone_eq_false_iff]
  constructor
  · rintro ⟨kind, hkind, hmetadata, -⟩
    exact ⟨⟨kind, hkind⟩, hmetadata⟩
  · rintro ⟨⟨kind, hkind⟩, hmetadata⟩
    exact ⟨kind, hkind, hmetadata, _, rfl⟩

/-- A transfer without data messages: the completion message aggregates what the initialization
message started. -/
theorem aggregates_without_blocks_iff (py : Runtime) (created : ℚ) {id key : Value}
    (htruthy : id.truthy = true) (hkey : id.key? = some key) {init completion : Call}
    (hinit : Dict.get? init.message "request_id" = some id)
    (hphase : (getTransferFlags init.message).1 = true)
    (hcompletion : Dict.get? completion.message "request_id" = some id)
    (hcomplete : getTransferFlags completion.message = (false, false, true))
    (hquiet : Along (registerMessage py) expiresNothing (State.fresh created) [init, completion]) :
    Aggregates py created key [] [init, completion] ↔ raisesAlone py init.message = false := by
  have hstart : registerMessage py (State.fresh created) init =
      registerInit py init.now key init.message (sweep init.now (State.fresh created)) := by
    rcases hflags : getTransferFlags init.message with ⟨i, d, c⟩
    rw [hflags] at hphase
    subst hphase
    rw [registerMessage_keyed py _ hinit htruthy hkey, handle, hflags]
  obtain ⟨-, hquiet', -⟩ := hquiet
  obtain ⟨swept, hswept⟩ := sweep_eq hquiet'
  set started := (registerMessage py (State.fresh created) init).2 with hstarted
  have hpending : Dict.get? started.pendingTransfers key =
      some (newTransfer py init.message (some init.message) [] none) := by
    rw [hstarted, hstart]
    exact Dict.get?_set_self _ _ _
  set whole : Transfer :=
    { newTransfer py init.message (some init.message) [] none with
      completeMessage := some completion.message } with hwhole
  set ready : State := { started with lastCleanup := swept }.put key whole with hready
  have hlast : registerMessage py started completion =
      finalizeTransfer py completion.now key ready := by
    rw [registerMessage_keyed py _ hcompletion htruthy hkey, handle, hcomplete, hswept]
    simp only [registerCompletion, hpending]
    rfl
  have houtputs : outputs (registerMessage py) (State.fresh created) [init, completion] =
      [.ok none, (finalizeTransfer py completion.now key ready).1] := by
    rw [outputs_cons, outputs_cons, ← hstarted, hlast, hstart]
    rfl
  have hfinal : final (registerMessage py) (State.fresh created) [init, completion] =
      (finalizeTransfer py completion.now key ready).2 := by
    rw [final_cons, final_cons, ← hstarted, hlast, final_nil]
  have hget : Dict.get? ready.pendingTransfers key = some whole := Dict.get?_set_self _ _ _
  rw [← aggregate_init_ok_iff py completion.now (t := whole) rfl rfl]
  constructor
  · rintro ⟨before, after, result, hreplies, -⟩
    cases haggregate : aggregate py completion.now whole init.message with
    | ok result' => exact ⟨result', rfl⟩
    | error e =>
      rw [houtputs, finalizeTransfer_error hget rfl haggregate] at hreplies
      have hmem : (.error e.1 : Except Exception (Option Message)) ∈
          List.replicate before (.ok none) ++ .ok (some result) :: List.replicate after (.ok none) :=
        hreplies ▸ by simp
      simp [List.mem_replicate] at hmem
  · rintro ⟨result, haggregate⟩
    refine ⟨1, 0, result, ?_, ?_, ?_⟩
    · rw [houtputs, finalizeTransfer_ok hget rfl haggregate]
      rfl
    · obtain ⟨precipitation, data, hdata, hresult⟩ := aggregate_data haggregate
      rw [transferData_of_no_messages py precipitation rfl] at hdata
      rw [hresult, ← Except.ok.inj hdata]
      rfl
    · rw [hfinal, finalizeTransfer_ok hget rfl haggregate]
      simp [State.remove, has_erase]

/-- A transfer is answered once, with all its data, only if it has no data messages and the
aggregation of its initialization message does not raise. -/
theorem aggregates_iff (py : Runtime) (created : ℚ) {id key : Value} {init completion : Message}
    {blocks arrival : List Message} {calls : List Call}
    (htransfer : IsTransfer id init blocks completion) (hkey : id.key? = some key)
    (harrival : arrival.Perm blocks)
    (hcalls : calls.map Call.message = init :: (arrival ++ [completion]))
    (hquiet : Along (registerMessage py) expiresNothing (State.fresh created) calls) :
    Aggregates py created key blocks calls ↔ blocks = [] ∧ raisesAlone py init = false := by
  obtain ⟨first, calls', rfl, rfl, hcalls'⟩ := List.map_eq_cons_iff.mp hcalls
  obtain ⟨middle, rest, rfl, rfl, hrest⟩ := List.map_eq_append_iff.mp hcalls'
  obtain ⟨last, rest', rfl, rfl, hrest'⟩ := List.map_eq_cons_iff.mp hrest
  obtain rfl := List.map_eq_nil_iff.mp hrest'
  have hfirst := htransfer.requestId first.message (by simp)
  have hlast := htransfer.requestId last.message (by simp)
  by_cases hblocks : blocks = []
  · subst hblocks
    obtain rfl : middle = [] := List.map_eq_nil_iff.mp harrival.eq_nil
    rw [List.nil_append] at hquiet ⊢
    rw [aggregates_without_blocks_iff py created htransfer.truthy hkey hfirst htransfer.init hlast
      htransfer.completion hquiet]
    simp
  · refine ⟨fun h => ?_, fun h => absurd h.1 hblocks⟩
    have hlen : 0 < blocks.length := List.length_pos_of_ne_nil hblocks
    have hblock := htransfer.block (blocks.length - 1) (by omega)
    rw [Nat.sub_add_cancel hlen] at hblock
    obtain ⟨block, hmem, hmessage⟩ : ∃ c ∈ middle, c.message = blocks[blocks.length - 1] :=
      List.mem_map.mp (harrival.mem_iff.mpr (List.getElem_mem _))
    obtain ⟨before, between, rfl⟩ := List.append_of_mem hmem
    have hid : Dict.get? block.message "request_id" = some id :=
      hmessage ▸ htransfer.requestId _ (by simp)
    have htwo := two_answers py created htransfer.truthy hkey hid (hmessage ▸ hblock.phase)
      (hmessage ▸ hblock.isFinal hlen) hlast htransfer.completion (first :: before) between
    have hcount := h.countP
    rw [List.append_assoc, List.cons_append] at hcount
    rw [List.cons_append, hcount] at htwo
    omega

section TwoBlocks

def twoInit : Message :=
  [("request_id", .str "r"), ("message_type", .str "status"), ("is_transfer_init", .bool true)]

def twoBlock (number : ℕ) : Message :=
  [("request_id", .str "r"), ("is_transfer_data", .bool true), ("sequence_number", .int number),
    ("total_sequences", .int 2), ("is_final", .bool (decide (number = 2))),
    ("data", .list [.int number])]

def twoCompletion : Message := [("request_id", .str "r"), ("is_transfer_complete", .bool true)]

def twoCalls : List Call := [twoInit, twoBlock 1, twoBlock 2, twoCompletion].map fun m => ⟨0, m⟩

theorem twoBlock_isBlock (number : ℕ) : IsBlock (twoBlock number) number 2 where
  phase := ⟨rfl, rfl⟩
  numbers := rfl
  final := by by_cases h : number = 2 <;> simp [marksFinal, twoBlock, Message.flag, Dict.get?,
    Dict.getD, Value.truthy, h, Except.map]
  data := rfl

theorem twoBlocks_isTransfer : IsTransfer (.str "r") twoInit [twoBlock 1, twoBlock 2] twoCompletion where
  requestId := by decide
  truthy := by decide
  init := by decide
  block := by
    intro i hi
    have hcases : i = 0 ∨ i = 1 := by simp at hi; omega
    rcases hcases with rfl | rfl
    · exact twoBlock_isBlock 1
    · exact twoBlock_isBlock 2
  completion := by decide

/-- Two blocks that arrive in order are aggregated, and their completion message is answered too. -/
theorem transfer_in_order_answered_twice :
    IsTransfer (.str "r") twoInit [twoBlock 1, twoBlock 2] twoCompletion ∧
      Along (registerMessage Runtime.ascii) expiresNothing (State.fresh 0) twoCalls ∧
      ¬ Aggregates Runtime.ascii 0 (.str "r") [twoBlock 1, twoBlock 2] twoCalls :=
  ⟨twoBlocks_isTransfer, by decide +kernel, fun h => absurd h.countP (by decide +kernel)⟩

theorem transfer_out_of_order_not_aggregated :
    ¬ Aggregates Runtime.ascii 0 (.str "r") [twoBlock 1, twoBlock 2]
      ([twoInit, twoBlock 2, twoBlock 1, twoCompletion].map fun m => ⟨0, m⟩) :=
  fun h => absurd ((aggregates_iff Runtime.ascii 0 twoBlocks_isTransfer rfl
    (List.Perm.swap _ _ []) rfl (by decide +kernel)).mp h).1 (by decide +kernel)

end TwoBlocks

end Fmofp.Aggregator
