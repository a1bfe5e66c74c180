import Fmofp.LoopPrevention.AtMostOnce
import Fmofp.Routing.UnifiedRouter

/-! What an answer True of the router is worth.  The answer is the conjunction over the copies that the
transformer returns; when a copy cannot be made it returns none, and nothing is dispatched. -/

namespace Fmofp.Routing

open Python
open LoopPrevention (Subject)

/-- The message behind the loop prevention. -/
def received (c : Components) (m : Subject) : Subject :=
  match c.loopPrevention m with
  | .ok (true, message) => message
  | _ => m

/-- A message that no handler took and that is answered with True had destinations, and was dispatched
to each of them with success, once; one whose transformation failed is not answered with True. -/
structure Honest (py : Runtime) (c : Components) (m : Subject) : Prop where
  delivered : (routeMessage py c m).handled = false → (routeMessage py c m).answer = true →
    resolveRoutes py c.registry (received c m) ≠ [] ∧
      ∀ d ∈ resolveRoutes py c.registry (received c m),
        (routeMessage py c m).dispatched.filter (fun call => call.1 = d) = [(d, true)]
  refused : ∀ message e, admitMessage py c m = .admitted message →
    transformEach c.registry c.clock message (resolveRoutes py c.registry message) [] = .error e →
    (routeMessage py c m).answer = false

/-- The display outgoing router does not take the message over, and if the message comes to the
transformer its metadata can be stamped. -/
def Deliverable (py : Runtime) (c : Components) (m : Subject) : Prop :=
  ¬ (isFinalDelivery m = true ∧ answerOf (c.outgoing m) = true) ∧
    ∀ message, admitMessage py c m = .admitted message → resolveRoutes py c.registry message ≠ [] →
      Stampable message

section Router

variable {py : Runtime} {c : Components} {m message : Subject}

/-- The only messages answered with True before the resolver are those that the outgoing router or a
handler took. -/
theorem admitMessage_answered {outcome : Outcome} (h : admitMessage py c m = .answered outcome)
    (hanswer : outcome.answer = true) :
    outcome.handled = true ∨
      outcome = { answer := true } ∧ isFinalDelivery m = true ∧ answerOf (c.outgoing m) = true := by
  rw [admitMessage] at h
  split_ifs at h with hfinal
  · cases h
    exact .inr ⟨congrArg (fun answer => ({ answer } : Outcome)) hanswer, hfinal, hanswer⟩
  · split at h
    · cases h
      cases hanswer
    · cases h
      cases hanswer
    · split_ifs at h
      · cases h
        cases hanswer
      · split at h
        · cases h
          cases hanswer
        · cases h
        · split_ifs at h
          cases h
          exact .inl rfl

/-- The message that is admitted is the one behind the loop prevention. -/
theorem received_of_admitted (h : admitMessage py c m = .admitted message) : received c m = message := by
  rw [admitMessage] at h
  split_ifs at h
  rw [received]
  split at h
  · cases h
  · cases h
  · rename_i message' hloop
    rw [hloop]
    split_ifs at h
    split at h
    · cases h
    · cases h
      rfl
    · split_ifs at h
      cases h
      rfl

theorem routeAdmitted_eq (py : Runtime) (c : Components) (message : Subject)
    (h : resolveRoutes py c.registry message ≠ []) :
    routeAdmitted py c message = dispatchAll c.dispatch
      (transformMessage c.registry c.clock message (resolveRoutes py c.registry message)) := by
  rw [routeAdmitted]
  split
  · rename_i hnil
    exact absurd hnil h
  · rfl

/-- Without copies nothing is dispatched, and the answer is True. -/
theorem routeAdmitted_of_not_stampable (hne : resolveRoutes py c.registry message ≠ [])
    (h : ¬ Stampable message) : routeAdmitted py c message = { answer := true } := by
  rw [routeAdmitted_eq py c message hne, transformMessage_of_not_stampable c.registry c.clock h]
  rfl

/-- Copies that are all dispatched with success are dispatched once each. -/
theorem dispatchAll_delivered {dispatch : String → Message → Bool} {copies : Dict String Message}
    (hnodup : (copies.map Prod.fst).Nodup) (hanswer : (dispatchAll dispatch copies).answer = true)
    {d : String} (hd : d ∈ copies.map Prod.fst) :
    (dispatchAll dispatch copies).dispatched.filter (fun call => call.1 = d) = [(d, true)] := by
  have hcalls : (dispatchAll dispatch copies).dispatched =
      (copies.map Prod.fst).map fun key => (key, true) := by
    rw [List.map_map]
    apply List.map_congr_left
    intro e he
    have hsent : dispatch e.1 e.2 = true := by
      have hall := List.all_eq_true.mp hanswer
      exact hall (e.1, dispatch e.1 e.2) (List.mem_map_of_mem he)
    rw [hsent]
    rfl
  rw [hcalls]
  generalize copies.map Prod.fst = keys at hnodup hd
  induction keys with
  | nil => cases hd
  | cons key rest ih =>
    rw [List.nodup_cons] at hnodup
    rw [List.map_cons]
    rcases List.mem_cons.mp hd with rfl | hrest
    · rw [List.filter_cons_of_pos (by simp)]
      have hnone : (rest.map fun key => (key, true)).filter (fun call => call.1 = d) = [] := by
        apply List.filter_eq_nil_iff.mpr
        intro call hcall
        obtain ⟨key, hkey, rfl⟩ := List.mem_map.mp hcall
        rw [decide_eq_true_eq]
        rintro rfl
        exact hnodup.1 hkey
      rw [hnone]
    · have hne : key ≠ d := by
        rintro rfl
        exact hnodup.1 hrest
      rw [List.filter_cons_of_neg (by simpa using hne)]
      exact ih hnodup.2 hrest

theorem routeAdmitted_delivered (hstamp : resolveRoutes py c.registry message ≠ [] → Stampable message)
    (hanswer : (routeAdmitted py c message).answer = true) :
    resolveRoutes py c.registry message ≠ [] ∧
      ∀ d ∈ resolveRoutes py c.registry message,
        (routeAdmitted py c message).dispatched.filter (fun call => call.1 = d) = [(d, true)] := by
  by_cases hne : resolveRoutes py c.registry message = []
  · rw [routeAdmitted, hne] at hanswer
    cases hanswer
  · have hkeys := keys_transformMessage c.registry c.clock (hstamp hne)
      (resolveRoutes_nodup py c.registry message)
    refine ⟨hne, fun d hd => ?_⟩
    rw [routeAdmitted_eq py c message hne] at hanswer ⊢
    apply dispatchAll_delivered _ hanswer
    · rw [hkeys]
      exact hd
    · rw [hkeys]
      exact resolveRoutes_nodup py c.registry message

theorem honest_of_deliverable (h : Deliverable py c m) : Honest py c m := by
  cases hadmission : admitMessage py c m with
  | answered outcome =>
    have hroute : routeMessage py c m = outcome := by rw [routeMessage, hadmission]
    refine ⟨fun hhandled hanswer => ?_, fun message e hmessage _ => ?_⟩
    · rw [hroute] at hhandled hanswer
      rcases admitMessage_answered hadmission hanswer with htaken | ⟨-, hfinal, houtgoing⟩
      · rw [hhandled] at htaken
        cases htaken
      · exact absurd ⟨hfinal, houtgoing⟩ h.1
    · rw [hadmission] at hmessage
      cases hmessage
  | admitted message =>
    have hroute : routeMessage py c m = routeAdmitted py c message := by rw [routeMessage, hadmission]
    have hstamp := h.2 message hadmission
    refine ⟨fun _ hanswer => ?_, fun message' e hmessage hfails => ?_⟩
    · rw [hroute] at hanswer ⊢
      rw [received_of_admitted hadmission]
      exact routeAdmitted_delivered hstamp hanswer
    · rw [hadmission] at hmessage
      cases hmessage
      by_cases hne : resolveRoutes py c.registry message = []
      · rw [hroute, routeAdmitted, hne]
      · obtain ⟨copies, hcopies, -⟩ := transformEach_of_stampable c.registry c.clock (hstamp hne)
          (resolveRoutes py c.registry message) []
        rw [hcopies] at hfails
        cases hfails

theorem deliverable_of_honest (h : Honest py c m) : Deliverable py c m := by
  -- Either way the answer is True and nothing was dispatched.
  have hnothing : routeMessage py c m ≠ { answer := true } := by
    intro hroute
    obtain ⟨hne, hcalls⟩ := h.delivered (by rw [hroute]) (by rw [hroute])
    obtain ⟨d, hd⟩ := List.exists_mem_of_ne_nil _ hne
    have hcall := hcalls d hd
    rw [hroute] at hcall
    cases hcall
  constructor
  · rintro ⟨hfinal, houtgoing⟩
    apply hnothing
    rw [routeMessage, admitMessage, if_pos hfinal, houtgoing]
  · intro message hadmission hne
    by_contra hfails
    apply hnothing
    rw [routeMessage, hadmission]
    exact routeAdmitted_of_not_stampable hne hfails

end Router

/-- The router is honest about a message exactly when the message is deliverable. -/
theorem honest_iff (py : Runtime) (c : Components) (m : Subject) :
    Honest py c m ↔ Deliverable py c m :=
  ⟨deliverable_of_honest, honest_of_deliverable⟩

/-- The route history of a message for the communications system is a text: no copy is made, nothing is
dispatched, and the router answers True. -/
theorem not_honest_text_history : ¬ ∀ py c m, Honest py c m := by
  intro h
  have hroute := h .ascii
    { registry := { systems := [("comms", { address := 2, subaddresses := [("status", 1)] })]
                    rtAddresses := [(2, "comms")] }
      outgoing := fun _ => .ok false
      loopPrevention := fun m => (LoopPrevention.processMessage .ascii LoopPrevention.openSettings
        (.start 0) { LoopPrevention.callAt 0 [] with message := m, serviceName := "unified_router" }).1
      handle := fun _ _ => .ok false
      dispatch := fun _ _ => true
      clock := fun _ => ⟨0, 0⟩ }
    (.dict [("rt_address", .int 2), ("sub_address", .int 1),
      ("metadata", .dict [("route_history", .str "comms")])])
  have hnone := (hroute.delivered (by decide +kernel) (by decide +kernel)).2 "comms" (by decide +kernel)
  revert hnone
  decide +kernel

end Fmofp.Routing
