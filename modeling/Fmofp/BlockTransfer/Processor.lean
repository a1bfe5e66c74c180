import Fmofp.BlockTransfer.Order

/-! The handlers of block transfer messages on the bus controller: who assembles a transfer, and what
the completion message then finds. -/

namespace Fmofp.BlockTransfer

open Python Machine

inductive Phase where
  | init
  | data
  | complete
  deriving DecidableEq

def flaggedPhase (m : Message) : Option Phase :=
  if m.flag "is_transfer_init" then some .init
  else if m.flag "is_transfer_data" then some .data
  else if m.flag "is_transfer_complete" then some .complete
  else none

/-- The metadata of a message, when it is a dictionary. -/
def metadataOf (m : Message) : Option Message := (Dict.getD m "metadata" (.dict [])).dict?

def isGiven (m : Message) (k : String) : Bool := decide (Dict.getD m k .none ≠ .none)

/-- `detect_block_transfer`. -/
def detectBlockTransfer (m : Message) : Option Phase :=
  ((flaggedPhase m).or ((metadataOf m).bind flaggedPhase)).or
    (if isGiven m "sequence_number" && isGiven m "total_sequences" then some .data else none)

/-- A parameter of a block: the metadata speaks where the message itself has nothing true. -/
def blockParameter (m : Message) (k : String) (default : Value) : Value :=
  match (metadataOf m).bind fun d => Dict.get? d k with
  | some v => if m.flag k then Dict.getD m k default else v
  | none => Dict.getD m k default

def requestIdOf (m : Message) : Value := Dict.getD m "request_id" .none

/-- What a handler returns and the message as it leaves it. -/
abbrev Handled := Bool × Message

/-- The message with the data that was assembled for it. -/
def withAssembled (m : Message) (items : List Value) : Message :=
  Dict.set (Dict.set (Dict.set m "data" (.list items)) "block_transfer_complete" (.bool true))
    "binary_data_length" (.int items.length)

/-- The data of a complete transfer goes to the message, if there is any. -/
def assembleInto (py : Runtime) (m : Message) (a : State) : Handled × State :=
  match getAssembledData py (requestIdOf m) a with
  | (.error _, a) => ((false, m), a)
  | (.ok assembled, a) => match assembled.list? with
    | some (item :: rest) => ((true, withAssembled m (item :: rest)), a)
    | _ => ((false, m), a)

/-- `is_transfer_complete`. -/
def isTransferComplete (requestId : Value) (a : State) : Except Exception Bool :=
  (a.find requestId).map fun found => found.any fun e => e.2.complete

/-- `handle_transfer_init`; the number of blocks is only logged. -/
def handleTransferInit (m : Message) (a : State) : Handled × State :=
  if (requestIdOf m).truthy then
    match clearTransfer (requestIdOf m) a with
    | (.error _, a) => ((false, m), a)
    | (.ok _, a) => ((true, m), a)
  else ((false, m), a)

/-- `handle_transfer_data`; the status is only logged, but asking for it may raise. -/
def handleTransferData (py : Runtime) (now : ℚ) (m : Message) (a : State) : Handled × State :=
  if (requestIdOf m).truthy then
    match registerBlock py now (requestIdOf m) (blockParameter m "sequence_number" (.int 1))
        (blockParameter m "total_sequences" (.int 1)) (blockParameter m "is_final" (.bool false))
        (Dict.getD m "data" (.list [])) a with
    | (.error _, a) => ((false, m), a)
    | (.ok finished, a) => match a.find (requestIdOf m) with
      | .error _ => ((false, m), a)
      | .ok _ => if finished.truthy then assembleInto py m a else ((true, m), a)
  else ((false, m), a)

/-- `handle_transfer_complete`. -/
def handleTransferComplete (py : Runtime) (m : Message) (a : State) : Handled × State :=
  if (requestIdOf m).truthy then
    match isTransferComplete (requestIdOf m) a with
    | .ok true => assembleInto py m a
    | _ => ((false, m), a)
  else ((false, m), a)

/-- A message and the time at which it is handled. -/
structure Delivery where
  message : Message
  now : ℚ

/-- The handler that a message is for; a message that is for none stays as it is. -/
def process (py : Runtime) (a : State) (x : Delivery) : (Option Bool × Message) × State :=
  match (detectBlockTransfer x.message).map fun
    | .init => handleTransferInit x.message a
    | .data => handleTransferData py x.now x.message a
    | .complete => handleTransferComplete py x.message a with
  | some ((answer, m), a) => ((some answer, m), a)
  | none => ((none, x.message), a)

/-- A message that opens or closes the transfer `id`. -/
def Announces (id : String) (phase : Phase) (m : Message) : Prop :=
  detectBlockTransfer m = some phase ∧ requestIdOf m = .str id

/-- A message with one of the `total` blocks of the transfer `id`. -/
structure Carries (id : String) (total : ℕ) (x : Block) (m : Message) : Prop where
  announces : Announces id .data m
  sequence : blockParameter m "sequence_number" (.int 1) = .int x.1
  total : blockParameter m "total_sequences" (.int 1) = .int total
  data : Dict.getD m "data" (.list []) = .list (integers x.2)

/-- The call that a delivery of a block leads to. -/
def arrivalOf (x : Block) (delivery : Delivery) : Arrival :=
  ⟨x, blockParameter delivery.message "is_final" (.bool false), delivery.now⟩

/-- All handlers return `True`, one message ends up complete and has the assembled data of the blocks,
and nothing is pending afterwards. -/
def FinishedOnce (py : Runtime) (a : State) (id : String) (assembled : List ℤ)
    (deliveries : List Delivery) : Prop :=
  (∀ o ∈ outputs (process py) a deliveries, o.1 = some true) ∧
  ((outputs (process py) a deliveries).filter fun o => o.2.flag "block_transfer_complete").map
      (fun o => Dict.get? o.2 "data") = [some (.list (integers assembled))] ∧
  Dict.get? (final (process py) a deliveries) id = none

section Handlers

variable {py : Runtime} {a : State} {id : String} {total : ℕ}

/-- The first message of a transfer leaves nothing of an older one with its request id. -/
theorem process_init (py : Runtime) (a : State) {x : Delivery} (h : Announces id .init x.message)
    (hid : id ≠ "") :
    (process py a x).1 = (some true, x.message) ∧ Dict.get? (process py a x).2 id = none := by
  obtain ⟨hphase, hrequest⟩ := h
  simp only [process, hphase, Option.map_some, handleTransferInit, hrequest, Value.truthy, hid,
    ne_eq, not_false_eq_true, decide_true, if_true]
  cases ht : Dict.get? a id with
  | some t => simp [clearTransfer, State.find, ht]
  | none => simp [clearTransfer, State.find, ht]

/-- A completion message for a transfer that is not pending is turned down. -/
theorem process_complete {x : Delivery} (h : Announces id .complete x.message)
    (hnone : Dict.get? a id = none) : process py a x = ((some false, x.message), a) := by
  obtain ⟨hphase, hrequest⟩ := h
  simp only [process, hphase, Option.map_some, handleTransferComplete, hrequest, isTransferComplete,
    State.find, hnone, Option.map_none, Except.map, Option.any_none, ite_self]

section Data

variable {x : Block} {delivery : Delivery} (h : Carries id total x delivery.message) (hid : id ≠ "")

include h hid

/-- A block that does not complete its transfer is accepted. -/
theorem process_data_pending
    (hstep : (step py a ((arrivalOf x delivery).operation id total)).1 = .ok (.bool false)) :
    process py a delivery = ((some true, delivery.message),
      (step py a ((arrivalOf x delivery).operation id total)).2) := by
  obtain ⟨⟨hphase, hrequest⟩, hsequence, htotal, hdata⟩ := h
  simp only [Arrival.operation, arrivalOf, step] at hstep ⊢
  simp only [process, hphase, Option.map_some, handleTransferData, hrequest, hsequence, htotal, hdata,
    Value.truthy, hid, ne_eq, not_false_eq_true, decide_true, if_true]
  generalize registerBlock py delivery.now (.str id) (.int x.1) (.int total)
    (blockParameter delivery.message "is_final" (.bool false)) (.list (integers x.2)) a = outcome
    at hstep
  obtain ⟨answer, b⟩ := outcome
  subst hstep
  simp only [State.find, Bool.false_eq_true, if_false]

/-- The block that completes its transfer gets the assembled data. -/
theorem process_data_last {b : State} {items : List Value} (hitems : items ≠ [])
    (hstep : (step py a ((arrivalOf x delivery).operation id total)).1 = .ok (.bool true))
    (hassembled : getAssembledData py (.str id)
      (step py a ((arrivalOf x delivery).operation id total)).2 = (.ok (.list items), b)) :
    process py a delivery = ((some true, withAssembled delivery.message items), b) := by
  obtain ⟨⟨hphase, hrequest⟩, hsequence, htotal, hdata⟩ := h
  obtain ⟨item, rest, rfl⟩ := List.exists_cons_of_ne_nil hitems
  simp only [Arrival.operation, arrivalOf, step] at hstep hassembled
  simp only [process, hphase, Option.map_some, handleTransferData, hrequest, hsequence, htotal, hdata,
    Value.truthy, hid, ne_eq, not_false_eq_true, decide_true, if_true]
  generalize registerBlock py delivery.now (.str id) (.int x.1) (.int total)
    (blockParameter delivery.message "is_final" (.bool false)) (.list (integers x.2)) a = outcome
    at hstep hassembled
  obtain ⟨answer, c⟩ := outcome
  subst hstep
  simp only [State.find, if_true, assembleInto, hrequest, hassembled, Value.list?_list]

end Data

/-- While the manager answers with `False`, every message of the transfer is accepted as it is. -/
theorem run_pending (hid : id ≠ "") {xs : List Block} {deliveries : List Delivery}
    (hcarries : List.Forall₂ (fun x delivery => Carries id total x delivery.message) xs deliveries)
    (hpending : ∀ o ∈ outputs (step py) a
      ((List.zipWith arrivalOf xs deliveries).map (Arrival.operation id total)), o = .ok (.bool false)) :
    outputs (process py) a deliveries =
        deliveries.map (fun delivery => (some true, delivery.message)) ∧
      final (process py) a deliveries = final (step py) a
        ((List.zipWith arrivalOf xs deliveries).map (Arrival.operation id total)) := by
  induction hcarries generalizing a with
  | nil => exact ⟨rfl, rfl⟩
  | @cons x delivery xs deliveries hfirst hrest ih =>
    rw [List.zipWith_cons_cons, List.map_cons, outputs_cons, List.forall_mem_cons] at hpending
    obtain ⟨hstep, hpending⟩ := hpending
    obtain ⟨houtputs, hfinal⟩ := ih hpending
    have hprocess := process_data_pending hfirst hid hstep
    rw [outputs_cons, final_cons, hprocess, houtputs, hfinal]
    exact ⟨rfl, rfl⟩

end Handlers

theorem stored_ne_nil (known : Bool) {x : Block} (h : x.2 ≠ []) : stored known x ≠ [] := by
  have hpos := List.length_pos_of_ne_nil h
  unfold stored
  split_ifs
  · exact h
  · refine List.ne_nil_of_length_pos ?_
    unfold strip
    split_ifs
    · rw [List.length_drop]
      omega
    · exact hpos

/-- Blocks that are not empty are not assembled to nothing. -/
theorem assembly_ne_nil {base : ℕ} (hbase : base ≤ 1) {d : List (List ℤ)} (hd : d ≠ [])
    {xs : List Block} (hperm : xs.Perm (numbered base d)) (hblocks : ∀ x ∈ xs, x.2 ≠ []) :
    assembly (firstIsZero xs) d.length xs ≠ [] := by
  have hne : xs ≠ [] := by
    rintro rfl
    exact numbered_ne_nil hd hperm.symm.eq_nil
  obtain ⟨x, rest, rfl⟩ := List.exists_cons_of_ne_nil hne
  have hfirst := List.length_pos_of_ne_nil (stored_ne_nil false (hblocks x (by simp)))
  refine List.ne_nil_of_length_pos ?_
  rw [assembly_length hbase hd hperm, contents, List.map_cons, List.sum_cons]
  exact Nat.add_pos_left hfirst _

/-- The messages of a transfer: one that opens it, one for each block in some order, and one that
closes it. -/
structure WellFormed (id : String) (d : List (List ℤ)) (xs : List Block) (opening closing : Delivery)
    (deliveries : List Delivery) : Prop where
  blocks : ∀ data ∈ d, data ≠ []
  some_block : d ≠ []
  order : xs.Perm (numbered 1 d)
  carries : List.Forall₂ (fun x delivery => Carries id d.length x delivery.message) xs deliveries
  opening : Announces id .init opening.message
  closing : Announces id .complete closing.message

section Transfer

variable {py : Runtime} {a : State} {id : String} {d : List (List ℤ)} {xs : List Block}
  {opening closing : Delivery} {deliveries : List Delivery}

theorem mem_numbered {base : ℕ} {d : List (List ℤ)} {x : Block} (h : x ∈ numbered base d) :
    x.2 ∈ d := by
  induction d generalizing base with
  | nil => simp [numbered] at h
  | cons data rest ih =>
    rcases List.mem_cons.mp h with rfl | h
    · exact List.mem_cons_self
    · exact List.mem_cons_of_mem _ (ih h)

theorem arrivals_blocks {total : ℕ}
    (h : List.Forall₂ (fun x delivery => Carries id total x delivery.message) xs deliveries) :
    (List.zipWith arrivalOf xs deliveries).map Arrival.block = xs := by
  induction h with
  | nil => rfl
  | cons hfirst hrest ih => rw [List.zipWith_cons_cons, List.map_cons, ih, arrivalOf]

/-- What the handlers do with a transfer: every message but the last one is accepted, the last block
gets the assembled data, and the message that closes the transfer finds nothing. -/
theorem process_transfer (py : Runtime) (a : State)
    (h : WellFormed id d xs opening closing deliveries) (hid : id ≠ "") :
    ∃ before last, deliveries = before ++ [last] ∧
      outputs (process py) a (opening :: (deliveries ++ [closing])) =
        (some true, opening.message) :: (before.map fun delivery => (some true, delivery.message)) ++
          [(some true, withAssembled last.message (integers (assembly false d.length xs))),
            (some false, closing.message)] ∧
      Dict.get? (final (process py) a (opening :: (deliveries ++ [closing]))) id = none := by
  obtain ⟨hopened, hnew⟩ := process_init py a h.opening hid
  set b := (process py a opening).2
  have hperm : ((List.zipWith arrivalOf xs deliveries).map Arrival.block).Perm (numbered 1 d) := by
    rw [arrivals_blocks h.carries]
    exact h.order
  obtain ⟨houtputs, hassembled⟩ := arrivals_of_perm py hid hnew le_rfl h.some_block hperm
  have hzero : firstIsZero xs = false := by
    rw [← Bool.not_eq_true]
    exact fun htrue => absurd (base_of_firstIsZero h.order htrue) one_ne_zero
  have hitems := assembly_ne_nil le_rfl h.some_block h.order fun x hx =>
    h.blocks _ (mem_numbered (h.order.mem_iff.mp hx))
  rw [arrivals_blocks h.carries, hzero] at hassembled
  rw [hzero] at hitems
  have hne : deliveries ≠ [] := by
    rintro rfl
    have hxs := List.forall₂_nil_right_iff.mp h.carries
    exact numbered_ne_nil h.some_block (hxs ▸ h.order).symm.eq_nil
  obtain ⟨before, last, rfl⟩ := (List.eq_nil_or_concat' deliveries).resolve_left hne
  have hbefore := List.forall₂_take_append xs before [last] h.carries
  have hlast := List.forall₂_drop_append xs before [last] h.carries
  obtain ⟨x, none_left, hx, hnil, hdrop⟩ := List.forall₂_cons_right_iff.mp hlast
  rw [List.forall₂_nil_right_iff] at hnil
  subst hnil
  have harrivals : List.zipWith arrivalOf xs (before ++ [last]) =
      List.zipWith arrivalOf (xs.take before.length) before ++ [arrivalOf x last] := by
    conv_lhs => rw [← List.take_append_drop before.length xs, hdrop]
    rw [List.zipWith_append hbefore.length_eq]
    rfl
  rw [harrivals, List.map_append, List.map_cons, List.map_nil] at houtputs hassembled
  rw [outputs_append, outputs_cons, outputs_nil] at houtputs
  obtain ⟨hpending, hstep⟩ := List.append_inj' houtputs rfl
  have hstep := List.head_eq_of_cons_eq hstep
  obtain ⟨hmessages, hstate⟩ := run_pending hid hbefore fun o ho =>
    List.eq_of_mem_replicate (hpending ▸ ho)
  rw [final_append, final_cons, final_nil] at hassembled
  rw [← hstate] at hstep hassembled
  have hitems' : integers (assembly false d.length xs) ≠ [] := fun hnil =>
    hitems (List.map_eq_nil_iff.mp hnil)
  have hprocess := process_data_last hx hid hitems' hstep hassembled
  refine ⟨before, last, rfl, ?_, ?_⟩
  · rw [outputs_cons, hopened, List.append_assoc, outputs_append, hmessages, List.singleton_append,
      outputs_cons, outputs_cons, hprocess, process_complete h.closing (Dict.get?_erase_self _ _)]
    rfl
  · rw [final_cons, List.append_assoc, final_append, List.singleton_append, final_cons, final_cons,
      hprocess, process_complete h.closing (Dict.get?_erase_self _ _)]
    exact Dict.get?_erase_self _ _

/-- A transfer is never finished as it should be: its last message is turned down, since the last block
was already given the assembled data. -/
theorem never_finished_once (h : WellFormed id d xs opening closing deliveries)
    (assembled : List ℤ) :
    ¬FinishedOnce py a id assembled (opening :: (deliveries ++ [closing])) := by
  rintro ⟨haccepted, -⟩
  by_cases hid : id = ""
  · have hfirst := haccepted (process py a opening).1 (by simp)
    obtain ⟨hphase, hrequest⟩ := h.opening
    simp [process, hphase, handleTransferInit, hrequest, hid, Value.truthy] at hfirst
  · obtain ⟨before, last, -, houtputs, -⟩ := process_transfer py a h hid
    have hclosing := haccepted (some false, closing.message) (by rw [houtputs]; simp)
    simp at hclosing

end Transfer

/-- A message of the transfer "r". -/
def messageOf (flag : String) (fields : Message) : Delivery :=
  ⟨("request_id", .str "r") :: (flag, .bool true) :: fields, 0⟩

def oneBlock : Delivery :=
  messageOf "is_transfer_data"
    [("sequence_number", .int 1), ("total_sequences", .int 1), ("data", .list [.int 7])]

theorem oneBlock_wellFormed :
    WellFormed "r" [[7]] [(1, [7])] (messageOf "is_transfer_init" [])
      (messageOf "is_transfer_complete" []) [oneBlock] where
  blocks := by decide
  some_block := by decide
  order := List.Perm.refl _
  carries := .cons ⟨⟨by decide, by decide⟩, by decide, by decide, by decide⟩ .nil
  opening := ⟨by decide, by decide⟩
  closing := ⟨by decide, by decide⟩

theorem one_block_not_finished_once :
    ¬FinishedOnce Runtime.ascii [] "r" [7]
      (messageOf "is_transfer_init" [] :: ([oneBlock] ++ [messageOf "is_transfer_complete" []])) :=
  never_finished_once oneBlock_wellFormed [7]

/-- The message that closes a transfer of one block is answered with `False`. -/
theorem closing_message_turned_down :
    ¬∀ id d xs opening closing deliveries, WellFormed id d xs opening closing deliveries →
      FinishedOnce Runtime.ascii [] id d.flatten (opening :: (deliveries ++ [closing])) := by
  intro h
  have hfinished := (h "r" [[7]] [(1, [7])] _ _ _ oneBlock_wellFormed).1
  revert hfinished
  decide +kernel

end Fmofp.BlockTransfer
