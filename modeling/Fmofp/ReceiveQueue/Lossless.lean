import Fmofp.Machine.Run
import Fmofp.Python.Text

/-! `MessageQueueManager`: what `_route_to_queue` puts into the queue of a system, and what
`get_message` takes out of it and makes of it. -/

namespace Fmofp.ReceiveQueue

open Python

/-- The attributes of a `MIL_STD_1553B_Message`, which its constructor gives its addresses. -/
def Addressed (attributes : Message) : Prop :=
  Dict.has attributes "rt_address" = true ∧ Dict.has attributes "sub_address" = true

instance (attributes : Message) : Decidable (Addressed attributes) :=
  inferInstanceAs (Decidable (_ ∧ _))

theorem Addressed.set {attributes : Message} (h : Addressed attributes) (k : String) (v : Value) :
    Addressed (Dict.set attributes k v) := by
  have hset : ∀ j, Dict.has attributes j = true → Dict.has (Dict.set attributes k v) j = true := by
    intro j hj
    rw [Dict.has, Dict.get?_set]
    split
    · rfl
    · exact hj
  exact ⟨hset _ h.1, hset _ h.2⟩

/-- A record to route: a dictionary, a `MIL_STD_1553B_Message` with its attributes, or an object of
another class, which the queues refuse. -/
inductive Record where
  | dict (entries : Message)
  | message (attributes : Message) (addressed : Addressed attributes)
  | other

/-- `system_queues`. -/
abbrev State := Dict String (List Record)

/-- The queues that `__init__` sets up. -/
def start : State :=
  ["radar", "display", "navigation", "communication", "power", "environmental", "fms",
    "flightmanagementsystem"].map fun system => (system, [])

/-- The metadata with this destination among its processed systems, or `none` if it is there
already. -/
def markRouted (now : ℚ) (destination : String) (metadata : Value) :
    Except Exception (Option Message) := do
  let systems ← metadata.get "processed_by" (.list [])
  let processed ← systems.holds destination
  if processed then return none
  match metadata, systems with
  | .dict entries, .list items =>
    let entries := Dict.set entries "processed_by" (.list (items ++ [.str destination]))
    let entries := Dict.set entries "routed_to" (.str destination)
    return some (Dict.set entries "routing_timestamp" (.float now))
  | _, _ => .error .attributeError

/-- The copy of a record that goes into the queue, or `none` for one that was processed already. -/
def routedCopy (now : ℚ) (destination : String) : Record → Except Exception (Option Record)
  | .dict entries => do
    let marked ← markRouted now destination (Dict.getD entries "metadata" (.dict []))
    return marked.map fun metadata => .dict (Dict.set entries "metadata" (.dict metadata))
  | .message attributes addressed => do
    let marked ← markRouted now destination (Dict.getD attributes "metadata" (.dict []))
    match marked with
    | none => return none
    | some metadata =>
      -- `message_copy.request_id` raises for a message without one.
      if Dict.has attributes "request_id" then
        return some (.message (Dict.set attributes "metadata" (.dict metadata)) (addressed.set _ _))
      else .error .attributeError
  | .other => .error .valueError

/-- `_route_to_queue`, which logs what it catches; the answer is what it put into the queue. -/
def routeToQueue (now : ℚ) (record : Record) (destination : String) (s : State) :
    Option Record × State :=
  match Dict.get? s destination, routedCopy now destination record with
  | some queue, .ok (some copy) => (some copy, Dict.set s destination (queue ++ [copy]))
  | _, _ => (none, s)

/-- The constants of the class, which `dir` finds on a message beside its attributes. -/
def classAttributes : Message :=
  [("BC_TO_RT", .int 0), ("BLOCK_STATUS_FLAG_BIT", .int 8), ("BLOCK_TRANSFER", .int 1),
    ("COMMAND_WORD_SIZE", .int 16), ("DATA_WORD_SIZE", .int 16), ("MAX_DATA_WORDS", .int 32),
    ("RT_TO_BC", .int 1), ("RT_TO_RT", .int 2), ("SERVICE_REQUEST_BIT", .int 11),
    ("STANDARD_TRANSFER", .int 0), ("STATUS_WORD_SIZE", .int 16)]

/-- `d[k] = v` where `k` is absent from `d` or `None`. -/
def fillField (d : Message) (k : String) (v : Option Value) : Message :=
  match v with
  | some v => if Dict.getD d k .none = .none then Dict.set d k v else d
  | none => d

/-- The dictionary of a message before its command name is determined. -/
def toDictionary (attributes : Message) : Message :=
  let filled := match (Dict.get? attributes "metadata").bind Value.dict? with
    | some metadata =>
      ["request_id", "command_name", "message_type", "command_type", "rt_address", "sub_address",
        "data", "destination"].foldl (fun d k => fillField d k (Dict.get? metadata k)) attributes
    | none => attributes
  classAttributes.foldl (fun d e => if Dict.has d e.1 then d else Dict.set d e.1 e.2) filled

/-- The command names of messages of command type `show`, by message type. -/
def shownCommandNames : Dict String String :=
  [("weather_radarPrecipitationRequest", "WEATHER_RADAR_PRECIPITATION_REQUEST"),
    ("weather_radarPrecipitationResponse", "WEATHER_RADAR_PRECIPITATION_RESPONSE"),
    ("weather_radarVILRequest", "WEATHER_RADAR_VIL_REQUEST"),
    ("weather_radarVILResponse", "WEATHER_RADAR_VIL_RESPONSE"),
    ("vil_data", "VIL_DATA"),
    ("precipitation_data", "PRECIPITATION_DATA")]

/-- The command name of a message whose metadata has none. -/
def nameFromMetadata (metadata d : Message) : Except Exception Message :=
  let commandType := Dict.getD metadata "command_type" .none
  let messageType := Dict.getD metadata "message_type" .none
  if messageType.truthy && decide (commandType = .str "show") then
    match messageType with
    | .str type => match Dict.get? shownCommandNames type with
      | some name =>
        let d := Dict.set d "command_name" (.str name)
        let d := Dict.set d "command_type" (.str "data")
        .ok (Dict.set d "message_type" (.str type))
      | none => .error .valueError
    | _ => .error .valueError
  else .ok d

/-- The command name of a mode change completion, by the radar that its message type names. -/
def nameFromMessageType (py : Runtime) (d : Message) : Except Exception Message := do
  let messageType := Dict.getD d "message_type" (.str "")
  let mode ← if messageType.truthy then messageType.holds "radarMode" else .ok false
  if !mode then return d
  match messageType with
  | .str type =>
    let named := [("weather", "WEATHER_RADAR_MODE_CHANGE_COMPLETION"),
      ("tfr", "TFR_RADAR_MODE_CHANGE_COMPLETION"), ("sar", "SAR_RADAR_MODE_CHANGE_COMPLETION"),
      ("target", "TARGETING_RADAR_MODE_CHANGE_COMPLETION")].find? fun e => contains (py.lower type) e.1
    return match named with
      | some e => Dict.set d "command_name" (.str e.2)
      | none => d
  | _ => .error .attributeError

/-- The dictionary that `get_message` makes of a message; looking up absent metadata raises. -/
def convert (py : Runtime) (attributes : Message) : Except Exception Message :=
  let d := toDictionary attributes
  match Dict.get? d "metadata" with
  | none => .error .keyError
  | some (.dict metadata) =>
    match Dict.get? metadata "command_name" with
    | some name => .ok (if Dict.has d "command_name" then d else Dict.set d "command_name" name)
    | none => nameFromMetadata metadata d
  | some _ => nameFromMessageType py d

/-- What `get_message` hands out for a record. -/
def deliver (py : Runtime) : Record → Except Exception Message
  | .dict entries => .ok entries
  | .message attributes _ => convert py attributes
  -- No queue holds one.
  | .other => .error .valueError

/-- `get_message`: the record leaves the queue before it is converted, and what the conversion raises
is caught. -/
def getMessage (py : Runtime) (system : String) (s : State) : Option (String × Message) × State :=
  match Dict.get? s system with
  | some (record :: queue) =>
    (((deliver py record).toOption).map fun m => (system, m), Dict.set s system queue)
  | _ => (none, s)

/-- A call of the manager. -/
inductive Operation where
  | route (now : ℚ) (record : Record) (destination : String)
  | get (system : String)

/-- What a call put into a queue, or what it handed out. -/
inductive Answer where
  | routed (record : Option Record)
  | handed (message : Option (String × Message))

def step (py : Runtime) (s : State) : Operation → Answer × State
  | .route now record destination =>
    ((routeToQueue now record destination s).1 |> .routed, (routeToQueue now record destination s).2)
  | .get system => (.handed (getMessage py system s).1, (getMessage py system s).2)

/-- The records in the queue of a system. -/
def queue (system : String) (s : State) : List Record := (Dict.get? s system).getD []

/-- What a call puts into the queue of a system. -/
def routed (system : String) (s : State) : Operation → List Record
  | .route now record destination =>
    if destination = system then (routeToQueue now record destination s).1.toList else []
  | .get _ => []

/-- What a call takes out of the queue of a system. -/
def taken (system : String) (s : State) : Operation → List Record
  | .route .. => []
  | .get system' => if system' = system then (queue system s).take 1 else []

/-- What a call hands out for a system. -/
def handed (py : Runtime) (system : String) (s : State) : Operation → List Message
  | .route .. => []
  | .get system' => if system' = system then ((getMessage py system s).1.map Prod.snd).toList else []

end Fmofp.ReceiveQueue

/-! What is routed to a system is handed out in order, and nothing else.  A record whose command name
cannot be determined is taken out of its queue and lost. -/

namespace Fmofp.ReceiveQueue

open Python Machine

theorem queue_routeToQueue (now : ℚ) (record : Record) (destination system : String) (s : State) :
    queue system (routeToQueue now record destination s).2 = queue system s ++
      (if destination = system then (routeToQueue now record destination s).1.toList else []) := by
  unfold routeToQueue
  split
  · rename_i queued copy hqueue hcopy
    by_cases hsys : destination = system
    · subst hsys
      simp [queue, hqueue]
    · simp [queue, Dict.get?_set, hsys]
  · simp

theorem queue_getMessage (py : Runtime) (system' system : String) (s : State) :
    queue system s = (if system' = system then (queue system s).take 1 else []) ++
      queue system (getMessage py system' s).2 := by
  have hempty (h : queue system' s = []) :
      queue system s = (if system' = system then (queue system s).take 1 else []) ++
        queue system s := by
    by_cases hsys : system' = system
    · subst hsys
      simp [h]
    · simp [hsys]
  cases hqueue : Dict.get? s system' with
  | none =>
    have hfree : (getMessage py system' s).2 = s := by simp only [getMessage, hqueue]
    rw [hfree]
    exact hempty (by simp [queue, hqueue])
  | some records =>
    cases records with
    | nil =>
      have hfree : (getMessage py system' s).2 = s := by simp only [getMessage, hqueue]
      rw [hfree]
      exact hempty (by simp [queue, hqueue])
    | cons record rest =>
      have hpopped : (getMessage py system' s).2 = Dict.set s system' rest := by
        simp only [getMessage, hqueue]
      rw [hpopped]
      by_cases hsys : system' = system
      · subst hsys
        simp [queue, hqueue]
      · simp [queue, Dict.get?_set, hsys]

/-- Routing puts records at the end of a queue and `get_message` takes them from its front. -/
theorem queue_step (py : Runtime) (system : String) (s : State) (op : Operation) :
    queue system s ++ routed system s op = taken system s op ++ queue system (step py s op).2 := by
  cases op with
  | route now record destination =>
    show _ = [] ++ queue system (routeToQueue now record destination s).2
    rw [queue_routeToQueue]
    rfl
  | get system' =>
    show queue system s ++ [] = _ ++ queue system (getMessage py system' s).2
    rw [List.append_nil]
    exact queue_getMessage py system' system s

theorem getMessage_eq (py : Runtime) (system : String) (s : State) :
    ((getMessage py system s).1.map Prod.snd).toList =
      ((queue system s).take 1).filterMap fun r => (deliver py r).toOption := by
  unfold getMessage queue
  cases hget : Dict.get? s system with
  | none => rfl
  | some records =>
    cases records with
    | nil => rfl
    | cons record rest =>
      cases hdeliver : (deliver py record).toOption <;> simp [hdeliver]

theorem handed_eq (py : Runtime) (system : String) (s : State) (op : Operation) :
    handed py system s op = (taken system s op).filterMap fun r => (deliver py r).toOption := by
  cases op with
  | route now record destination => rfl
  | get system' =>
    by_cases hsys : system' = system
    · subst hsys
      simp only [handed, taken, if_true]
      exact getMessage_eq py system' s
    · simp [handed, taken, hsys]

/-- The metadata determine no command name: they have none, the command type is `show`, and the
message type is none of those that the manager knows. -/
def unnamed (metadata : Message) : Bool :=
  let messageType := Dict.getD metadata "message_type" .none
  !Dict.has metadata "command_name" && messageType.truthy &&
    decide (Dict.getD metadata "command_type" .none = .str "show") &&
    !(match messageType with
      | .str type => Dict.has shownCommandNames type
      | _ => false)

/-- A message whose command name is not determined. -/
def undetermined : Record → Bool
  | .message attributes _ =>
    ((Dict.get? attributes "metadata").bind Value.dict?).any unnamed
  | _ => false

/-- A record as the queues hold it: a dictionary, or a message with a dictionary of metadata. -/
def Queueable : Record → Prop
  | .dict _ => True
  | .message attributes _ => ∃ metadata, Dict.get? attributes "metadata" = some (.dict metadata)
  | .other => False

theorem queueable_of_routedCopy {now : ℚ} {destination : String} {record copy : Record}
    (h : routedCopy now destination record = .ok (some copy)) : Queueable copy := by
  cases record with
  | dict entries =>
    cases hmark : markRouted now destination (Dict.getD entries "metadata" (.dict [])) with
    | error e => simp [routedCopy, hmark, bind, Except.bind] at h
    | ok marked =>
      cases marked with
      | none => simp [routedCopy, hmark, bind, Except.bind, pure, Except.pure] at h
      | some metadata =>
        simp only [routedCopy, hmark, bind, Except.bind, pure, Except.pure, Option.map_some,
          Except.ok.injEq, Option.some.injEq] at h
        rw [← h]
        trivial
  | message attributes addressed =>
    cases hmark : markRouted now destination (Dict.getD attributes "metadata" (.dict [])) with
    | error e => simp [routedCopy, hmark, bind, Except.bind] at h
    | ok marked =>
      cases marked with
      | none => simp [routedCopy, hmark, bind, Except.bind, pure, Except.pure] at h
      | some metadata =>
        simp only [routedCopy, hmark, bind, Except.bind, pure, Except.pure] at h
        split at h
        · simp only [Except.ok.injEq, Option.some.injEq] at h
          rw [← h]
          exact ⟨metadata, Dict.get?_set_self _ _ _⟩
        · cases h
  | other => cases h

theorem queueable_of_routed {system : String} {s : State} {op : Operation} :
    ∀ r ∈ routed system s op, Queueable r := by
  intro r hr
  cases op with
  | get system' => cases hr
  | route now record destination =>
    rw [routed] at hr
    split at hr
    · unfold routeToQueue at hr
      split at hr
      · rename_i queued copy hqueue hcopy
        obtain rfl : r = copy := by simpa using hr
        exact queueable_of_routedCopy hcopy
      · simp at hr
    · cases hr

theorem get?_fillField_ne (d : Message) {k j : String} (v : Option Value) (h : k ≠ j) :
    Dict.get? (fillField d k v) j = Dict.get? d j := by
  unfold fillField
  cases v with
  | none => rfl
  | some v =>
    simp only
    split
    · exact Dict.get?_set_ne _ _ h
    · rfl

/-- Filling up a message leaves its metadata as they are. -/
theorem get?_toDictionary (attributes : Message) :
    Dict.get? (toDictionary attributes) "metadata" = Dict.get? attributes "metadata" := by
  have hfill : ∀ (ks : List String) (metadata d : Message), "metadata" ∉ ks →
      Dict.get? (ks.foldl (fun d k => fillField d k (Dict.get? metadata k)) d) "metadata" =
        Dict.get? d "metadata" := by
    intro ks metadata
    induction ks with
    | nil => exact fun d _ => rfl
    | cons k ks ih =>
      intro d hk
      rw [List.mem_cons, not_or] at hk
      rw [List.foldl_cons, ih _ hk.2, get?_fillField_ne d _ (Ne.symm hk.1)]
  have hclass : ∀ (es d : Message), (∀ e ∈ es, e.1 ≠ "metadata") →
      Dict.get? (es.foldl (fun d e => if Dict.has d e.1 then d else Dict.set d e.1 e.2) d)
        "metadata" = Dict.get? d "metadata" := by
    intro es
    induction es with
    | nil => exact fun d _ => rfl
    | cons e es ih =>
      intro d he
      rw [List.foldl_cons, ih _ fun e' he' => he e' (by simp [he'])]
      split
      · rfl
      · exact Dict.get?_set_ne _ _ (he e (by simp))
  unfold toDictionary
  rw [hclass _ _ (by decide)]
  split
  · exact hfill _ _ _ (by decide)
  · rfl

theorem nameFromMetadata_isOk_iff (metadata d : Message)
    (hno : Dict.has metadata "command_name" = false) :
    (∃ m, nameFromMetadata metadata d = .ok m) ↔ unnamed metadata = false := by
  unfold nameFromMetadata unnamed
  simp only [hno, Bool.not_false, Bool.true_and]
  by_cases hshow : ((Dict.getD metadata "message_type" .none).truthy &&
      decide (Dict.getD metadata "command_type" .none = .str "show")) = true
  · rw [if_pos hshow, hshow, Bool.true_and]
    cases htype : Dict.getD metadata "message_type" Value.none with
    | str type => cases hknown : Dict.get? shownCommandNames type <;> simp [Dict.has, hknown]
    | _ => simp
  · rw [if_neg hshow]
    rw [Bool.not_eq_true] at hshow
    simp [hshow]

/-- A queued record is delivered exactly when its command name is determined. -/
theorem deliver_isOk_iff (py : Runtime) {r : Record} (h : Queueable r) :
    (∃ m, deliver py r = .ok m) ↔ undetermined r = false := by
  cases r with
  | dict entries => simp [deliver, undetermined]
  | other => exact h.elim
  | message attributes addressed =>
    have hqueued : ∃ metadata, Dict.get? attributes "metadata" = some (.dict metadata) := h
    obtain ⟨metadata, hmetadata⟩ := hqueued
    have hget : Dict.get? (toDictionary attributes) "metadata" = some (.dict metadata) := by
      rw [get?_toDictionary, hmetadata]
    have hundetermined : undetermined (.message attributes addressed) = unnamed metadata := by
      rw [undetermined, hmetadata]
      rfl
    rw [hundetermined]
    show (∃ m, convert py attributes = .ok m) ↔ _
    unfold convert
    simp only [hget]
    cases hname : Dict.get? metadata "command_name" with
    | some name => simp [unnamed, Dict.has, hname]
    | none => exact nameFromMetadata_isOk_iff metadata _ (Dict.has_eq_false.mpr hname)

/-- What was handed out for a system is, in order, a prefix of what was routed to it, and nothing is
handed out only when all of it has been. -/
structure Lossless (py : Runtime) (ops : List Operation) (system : String) : Prop where
  inOrder : ∃ n, List.Forall₂ (fun m r => deliver py r = .ok m)
    (collect (step py) (handed py system) start ops)
    ((collect (step py) (routed system) start ops).take n)
  noneWhenEmpty : ∀ before after, ops = before ++ .get system :: after →
    (getMessage py system (final (step py) start before)).1 = none →
      (collect (step py) (handed py system) start before).length =
        (collect (step py) (routed system) start before).length

/-- The call takes no message out whose command name is not determined. -/
def Determined (s : State) : Operation → Prop
  | .route .. => True
  | .get system => ∀ r ∈ (queue system s).head?, undetermined r = false

instance (s : State) : DecidablePred (Determined s)
  | .route .. => .isTrue trivial
  | .get system => inferInstanceAs (Decidable (∀ r ∈ (queue system s).head?, undetermined r = false))

section Run

variable (py : Runtime) (system : String) (ops : List Operation)

/-- What was routed to a system was taken or is still in its queue, in order. -/
theorem routed_eq : collect (step py) (routed system) start ops =
    collect (step py) (taken system) start ops ++ queue system (final (step py) start ops) := by
  have hempty : queue system start = [] := by
    unfold queue
    cases hget : Dict.get? start system with
    | none => rfl
    | some records =>
      have hmem := Dict.mem_of_get?_eq_some hget
      simp only [start, List.mem_map] at hmem
      obtain ⟨name, -, hpair⟩ := hmem
      exact (congrArg Prod.snd hpair).symm
  have h := fifo (step py) (queue_step py system) start ops
  rwa [hempty, List.nil_append] at h

theorem queueable_of_mem {r : Record}
    (h : r ∈ collect (step py) (taken system) start ops ++
      queue system (final (step py) start ops)) : Queueable r := by
  rw [← routed_eq] at h
  exact forall_mem_collect (step py) (fun _ _ => queueable_of_routed) h

theorem handed_run : collect (step py) (handed py system) start ops =
    (collect (step py) (taken system) start ops).filterMap fun r => (deliver py r).toOption :=
  collect_filterMap (step py) (handed_eq py system) start ops

/-- What is taken out in a run of determined calls is determined. -/
theorem determined_of_taken {s : State} (h : Along (step py) Determined s ops) :
    ∀ r ∈ collect (step py) (taken system) s ops, undetermined r = false := by
  induction ops generalizing s with
  | nil => intro r hr; cases hr
  | cons op ops ih =>
    intro r hr
    rcases List.mem_append.mp hr with hr | hr
    · cases op with
      | route now record destination => cases hr
      | get system' =>
        rw [taken] at hr
        split at hr
        · rename_i hsys
          subst hsys
          refine h.1 r ?_
          cases hqueue : queue system' s with
          | nil => simp [hqueue] at hr
          | cons first rest =>
            rw [hqueue, List.take_one, List.head?_cons] at hr
            simpa [hqueue] using (List.mem_singleton.mp hr).symm
        · cases hr
    · exact ih h.2 r hr

end Run

/-- Records that are all delivered are delivered one by one. -/
theorem forall₂_delivered {py : Runtime} {records : List Record}
    (h : ∀ r ∈ records, ∃ m, deliver py r = .ok m) :
    List.Forall₂ (fun m r => deliver py r = .ok m)
      (records.filterMap fun r => (deliver py r).toOption) records := by
  induction records with
  | nil => exact .nil
  | cons r records ih =>
    obtain ⟨m, hm⟩ := h r List.mem_cons_self
    rw [List.filterMap_cons_some (b := m) (by rw [hm]; rfl)]
    exact .cons hm (ih fun r' hr' => h r' (List.mem_cons_of_mem _ hr'))

theorem lossless_of_along {py : Runtime} {ops : List Operation}
    (h : Along (step py) Determined start ops) (system : String) : Lossless py ops system := by
  have hdelivered : ∀ before after, ops = before ++ after →
      List.Forall₂ (fun m r => deliver py r = .ok m)
        (collect (step py) (handed py system) start before)
        (collect (step py) (taken system) start before) := by
    intro before after hsplit
    have hbefore : Along (step py) Determined start before := by
      rw [along_iff] at h ⊢
      intro b i a hb
      exact h b i (a ++ after) (by rw [hsplit, hb, List.append_assoc, List.cons_append])
    rw [handed_run]
    refine forall₂_delivered fun r hr => ?_
    rw [deliver_isOk_iff py (queueable_of_mem py system before (List.mem_append_left _ hr))]
    exact determined_of_taken py system before hbefore r hr
  constructor
  · refine ⟨(collect (step py) (taken system) start ops).length, ?_⟩
    rw [routed_eq, List.take_left]
    exact hdelivered ops [] (by simp)
  · intro before after hsplit hnone
    have hqueue : queue system (final (step py) start before) = [] := by
      cases hqueue : queue system (final (step py) start before) with
      | nil => rfl
      | cons r rest =>
        have hdetermined : Determined (final (step py) start before) (.get system) :=
          along_iff.mp h before (.get system) after hsplit
        have hqueued : Queueable r := queueable_of_mem py system before (by simp [hqueue])
        obtain ⟨m, hm⟩ := (deliver_isOk_iff py hqueued).mpr (hdetermined r (by simp [hqueue]))
        have hlist := getMessage_eq py system (final (step py) start before)
        rw [hnone, hqueue] at hlist
        simp [hm, Except.toOption] at hlist
    rw [(hdelivered before _ hsplit).length_eq, routed_eq, hqueue, List.append_nil]

/-- The queues lose nothing exactly when no call takes out a message whose command name is not
determined. -/
theorem lossless_iff (py : Runtime) (ops : List Operation) :
    (∀ system, Lossless py ops system) ↔ Along (step py) Determined start ops := by
  refine ⟨fun h => along_iff.mpr ?_, fun h system => lossless_of_along h system⟩
  rintro before (⟨now, record, destination⟩ | system) after hsplit
  · trivial
  · intro r hr
    by_contra hundetermined
    set s := final (step py) start before with hs
    obtain ⟨rest, hqueue⟩ : ∃ rest, queue system s = r :: rest := by
      cases hqueue : queue system s with
      | nil => simp [hqueue] at hr
      | cons first rest =>
        rw [hqueue] at hr
        exact ⟨rest, by rw [Option.mem_some.mp hr]⟩
    have hqueued : Queueable r := queueable_of_mem py system before (by simp [← hs, hqueue])
    have hlost : ¬ ∃ m, deliver py r = .ok m := by
      rw [deliver_isOk_iff py hqueued]
      exact hundetermined
    have hnone : (getMessage py system s).1 = none := by
      have hlist := getMessage_eq py system s
      rw [hqueue] at hlist
      cases hdeliver : deliver py r with
      | ok m => exact absurd ⟨m, hdeliver⟩ hlost
      | error e =>
        simpa [hdeliver, Except.toOption] using hlist
    have hlength := (h system).noneWhenEmpty before after hsplit hnone
    have hfewer := List.length_filterMap_le (fun r => (deliver py r).toOption)
      (collect (step py) (taken system) start before)
    rw [handed_run, routed_eq, ← hs, hqueue, List.length_append, List.length_cons] at hlength
    omega

/-- A `show` message of a type that the manager does not know, routed to the radar and then taken
out. -/
def lostRecord : List Operation :=
  let metadata : Message := [("command_type", .str "show"),
    ("message_type", .str "weather_radarStatusRequest"), ("rt_address", .int 9), ("sub_address", .int 1)]
  let attributes : Message := [("rt_address", .int 9), ("sub_address", .int 1),
    ("message_type", .str "weather_radarStatusRequest"), ("command_type", .str "show"),
    ("command_name", .none), ("metadata", .dict metadata), ("data", .str ""),
    ("request_id", .str "r1")]
  [.route 0 (.message attributes (by decide)) "radar", .get "radar"]

theorem record_lost : ¬ ∀ system, Lossless Runtime.ascii lostRecord system := by
  intro h
  have hlength := (h "radar").noneWhenEmpty (lostRecord.take 1) [] rfl (by decide +kernel)
  revert hlength
  decide +kernel

end Fmofp.ReceiveQueue
