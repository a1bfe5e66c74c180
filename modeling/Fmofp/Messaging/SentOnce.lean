import Fmofp.Messaging.Words

/-! What a call that returns has put on the bus: one message whose frames carry the command, the
metadata and the data words, exactly when every number has sixteen bits and no accepted message is
followed by a failure. -/

namespace Fmofp.Messaging

open Python Bus Metadata

/-! ### Attempts -/

/-- The first attempt at which the sender accepts the message. -/
def firstAccepted (outcomes : List Outcome) : Option Outcome :=
  outcomes.find? fun o => decide (o.sending = .accepted)

/-- Taking the response does not fail after the sender has accepted a message. -/
def TakesReply (outcomes : List Outcome) : Prop :=
  ∀ o ∈ firstAccepted outcomes, ∀ e, o.reply ≠ .failed e

theorem prepareMetadata_idempotent (py : Runtime) (m : Message) :
    prepareMetadata py (prepareMetadata py m) = prepareMetadata py m := by
  have hcases : prepareMetadata py m = m ∨
      Dict.get? (prepareMetadata py m) "command_type" = some (.str "precipitation_data") := by
    unfold prepareMetadata
    split
    · split_ifs
      · exact .inr (Dict.get?_set_self _ _ _)
      · exact .inl rfl
    · exact .inl rfl
  rcases hcases with hsame | hreplaced
  · rw [hsame, hsame]
  · have hno : contains "precipitation_data" "PRECIP" = false := by decide +kernel
    rw [prepareMetadata, hreplaced]
    simp [Runtime.str, hno]

theorem firstAccepted_cons (outcome : Outcome) (later : List Outcome) :
    firstAccepted (outcome :: later) =
      if outcome.sending = .accepted then some outcome else firstAccepted later := by
  unfold firstAccepted
  split_ifs with h <;> simp [h]

theorem sendCommandComms_cons (py : Runtime) (data : List Value) (requestId : Value) (outcome : Outcome)
    (later : List Outcome) (r : Request) :
    sendCommandComms py data requestId (outcome :: later) r =
      match attempt py data requestId outcome r with
      | ((.ok (some frames), sent), _) => (.ok (some frames), sent)
      | ((.ok none, sent), r) =>
        ((sendCommandComms py data requestId later r).1,
          sent ++ (sendCommandComms py data requestId later r).2)
      | ((.error e, sent), r) =>
        if later = [] then (.error e, sent)
        else ((sendCommandComms py data requestId later r).1,
          sent ++ (sendCommandComms py data requestId later r).2) := rfl

/-- After an attempt that does not return, a call that returns does so at a later one. -/
theorem later_returns {py : Runtime} {data : List Value} {requestId : Value} {outcome : Outcome}
    {later : List Outcome} {r r' : Request} {x : Except Exception (Option (List String))}
    {sent : List BusMessage} {frames : List String}
    (hattempt : attempt py data requestId outcome r = ((x, sent), r')) (hx : ∀ f, x ≠ .ok (some f))
    (h : (sendCommandComms py data requestId (outcome :: later) r).1 = .ok (some frames)) :
    (sendCommandComms py data requestId later r').1 = .ok (some frames) ∧
      (sendCommandComms py data requestId (outcome :: later) r).2 =
        sent ++ (sendCommandComms py data requestId later r').2 := by
  rw [sendCommandComms_cons, hattempt] at h
  rw [sendCommandComms_cons, hattempt]
  cases x with
  | ok returned =>
    cases returned with
    | none => exact ⟨h, rfl⟩
    | some f => exact absurd rfl (hx f)
  | error e =>
    simp only at h ⊢
    split_ifs at h ⊢
    exact ⟨h, rfl⟩

/-- A call that returns has built its frames and has sent a message of them last, and it is the only one
exactly if no failure came after an earlier one. -/
theorem sendCommandComms_spec {py : Runtime} {data : List Value} {requestId : Value} {c : String}
    (hc : isDataWord c = true) {metadata : Message} {outcomes : List Outcome} {r : Request}
    (hcommand : commandCheck r.command = .ok c) (hmetadata : prepareMetadata py r.metadata = metadata)
    {frames : List String}
    (h : (sendCommandComms py data requestId outcomes r).1 = .ok (some frames)) :
    buildFrames py c data metadata = .ok frames ∧
      ((sendCommandComms py data requestId outcomes r).2.map BusMessage.frames = [frames] ↔
        TakesReply outcomes) ∧ (sendCommandComms py data requestId outcomes r).2 ≠ [] := by
  induction outcomes generalizing r with
  | nil => cases h
  | cons outcome later ih =>
    have hagain : prepareMetadata py metadata = metadata := by
      rw [← hmetadata, prepareMetadata_idempotent]
    have hnext (h : (sendCommandComms py data requestId later ⟨.str c, metadata⟩).1 =
        .ok (some frames)) := ih (commandCheck_again hc) hagain h
    have hretry {x : Except Exception (Option (List String))}
        (hattempt : attempt py data requestId outcome r = ((x, []), ⟨.str c, metadata⟩))
        (hx : ∀ f, x ≠ .ok (some f)) (hrefused : outcome.sending ≠ .accepted) :
        buildFrames py c data metadata = .ok frames ∧
          ((sendCommandComms py data requestId (outcome :: later) r).2.map BusMessage.frames =
            [frames] ↔ TakesReply (outcome :: later)) ∧
          (sendCommandComms py data requestId (outcome :: later) r).2 ≠ [] := by
      obtain ⟨hreturns, hsent⟩ := later_returns hattempt hx h
      rw [hsent, List.nil_append, TakesReply, firstAccepted_cons, if_neg hrefused]
      exact hnext hreturns
    have hattempt := attempt.eq_def py data requestId outcome r
    simp only [hcommand, hmetadata] at hattempt
    cases hbuilt : buildFrames py c data metadata with
    | error e =>
      rw [hbuilt] at hattempt
      obtain ⟨hreturns, -⟩ := later_returns hattempt (by simp) h
      have hframes := (hnext hreturns).1
      rw [hbuilt] at hframes
      cases hframes
    | ok built =>
      rw [hbuilt] at hattempt hretry hnext
      simp only at hattempt
      cases hsending : outcome.sending with
      | refused =>
        rw [hsending] at hattempt
        exact hretry hattempt (by simp) (by simp [hsending])
      | raised e =>
        rw [hsending] at hattempt
        exact hretry hattempt (by simp) (by simp [hsending])
      | accepted =>
        have hfirst : TakesReply (outcome :: later) ↔ ∀ e, outcome.reply ≠ .failed e := by
          rw [TakesReply, firstAccepted_cons, if_pos hsending]
          simp
        rw [hfirst]
        have hreturned (hattempt : attempt py data requestId outcome r =
            ((.ok (some built), [⟨built, requestId, metadata,
              Dict.getD metadata "message_type" .none⟩]), ⟨.str c, metadata⟩)) :
            (sendCommandComms py data requestId (outcome :: later) r).2.map BusMessage.frames =
              [built] ∧ built = frames := by
          rw [sendCommandComms_cons, hattempt] at h ⊢
          exact ⟨rfl, by simpa using h⟩
        rw [hsending] at hattempt
        cases hreply : outcome.reply with
        | failed e =>
          rw [hreply] at hattempt
          obtain ⟨hreturns, hsent⟩ := later_returns hattempt (by simp) h
          obtain ⟨hframes, -, hmore⟩ := hnext hreturns
          refine ⟨hframes, iff_of_false (fun hone => ?_) (by simp), by simp [hsent]⟩
          have hlength := congrArg List.length hone
          have hpos := List.length_pos_of_ne_nil hmore
          simp only [hsent, List.length_map, List.length_append, List.length_singleton] at hlength
          omega
        | absent =>
          rw [hreply] at hattempt
          obtain ⟨hsent, rfl⟩ := hreturned hattempt
          refine ⟨rfl, iff_of_true hsent (by simp), fun hnone => ?_⟩
          simp [hnone] at hsent
        | processed =>
          rw [hreply] at hattempt
          obtain ⟨hsent, rfl⟩ := hreturned hattempt
          refine ⟨rfl, iff_of_true hsent (by simp), fun hnone => ?_⟩
          simp [hnone] at hsent

/-! ### Calls -/

/-- One message is sent, and its frames carry the command, the encoded metadata and the data. -/
structure WellSent (py : Runtime) (command : String) (data : List Value) (metadata : Message)
    (frames : List String) (sent : List BusMessage) : Prop where
  once : sent.map BusMessage.frames = [frames]
  command : ∃ first rest, frames = first :: rest ∧ IsFrame "100" command first
  data : ∃ words payloads, encodeMetadata py (prepareMetadata py metadata) = .ok words ∧
    List.Forall₂ Denotes data payloads ∧ List.Forall₂ (IsFrame "001") (words ++ payloads) frames.tail

/-- What is sent has sixteen bits everywhere, and no failure follows once it is accepted. -/
structure Sendable (py : Runtime) (outcomes : ℕ → Outcome) (command : Value) (data : List Value)
    (metadata : Message) : Prop where
  command : ∀ n, (commandWord (commandOf command)).int? = some n → 0 ≤ n
  metadata : EncodesToWords py (prepareMetadata py metadata)
  data : ∀ v ∈ data, FitsWord v
  reply : TakesReply ((List.range maxRetries).map outcomes)

theorem buildFrames_eq_ok {py : Runtime} {command : String} {data : List Value} {metadata : Message}
    {frames : List String} (h : buildFrames py command data metadata = .ok frames) :
    ∃ encoded given, frames = addSyncAndParity command true ::
        (encoded ++ given).map (addSyncAndParity · false) ∧
      List.Forall₂ (fun w w' => normalizeWord py (.str w) = .ok w') (metadataWords py metadata) encoded ∧
      List.Forall₂ (fun v w => normalizeWord py v = .ok w) data given := by
  unfold buildFrames at h
  obtain ⟨words, hwords, h⟩ := bind_eq_ok h
  rw [List.mapM_append] at hwords
  obtain ⟨encoded, hencoded, hwords⟩ := bind_eq_ok hwords
  obtain ⟨given, hgiven, hwords⟩ := bind_eq_ok hwords
  cases hwords
  cases h
  refine ⟨encoded, given, rfl, ?_, forall₂_of_mapM hgiven⟩
  exact List.forall₂_map_left_iff.mp (forall₂_of_mapM hencoded)

/-- Frames carry the words that they are made of, if these are words. -/
theorem forall₂_isFrame_iff {payloads words : List String} :
    List.Forall₂ (IsFrame "001") payloads (words.map (addSyncAndParity · false)) ↔
      payloads = words ∧ ∀ w ∈ words, isDataWord w = true := by
  have hframe (payload word : String) : IsFrame "001" payload (addSyncAndParity word false) ↔
      word = payload ∧ isDataWord word = true :=
    isFrame_iff false
  rw [List.forall₂_map_right_iff]
  simp only [hframe]
  constructor
  · intro h
    induction h with
    | nil => simp
    | cons hhead _ ih =>
      obtain ⟨rfl, hword⟩ := hhead
      obtain ⟨rfl, hwords⟩ := ih
      exact ⟨rfl, List.forall_mem_cons.mpr ⟨hword, hwords⟩⟩
  · rintro ⟨rfl, hwords⟩
    exact List.forall₂_same.mpr fun w hw => ⟨rfl, hwords w hw⟩

/-- The data frames carry the encoded metadata and the data exactly when all of these are words. -/
theorem data_frames_iff {py : Runtime} {data : List Value} (hdata : ∀ v ∈ data, IsItem v)
    {metadata : Message} {words encoded given : List String}
    (hwords : encodeMetadata py metadata = .ok words)
    (hencoded : List.Forall₂ (fun w w' => normalizeWord py (.str w) = .ok w') words encoded)
    (hgiven : List.Forall₂ (fun v w => normalizeWord py v = .ok w) data given) :
    (∃ payloads, List.Forall₂ Denotes data payloads ∧ List.Forall₂ (IsFrame "001") (words ++ payloads)
      ((encoded ++ given).map (addSyncAndParity · false))) ↔
      (payloadCount metadata ≤ 255 ∧ Encodable py metadata) ∧ ∀ v ∈ data, FitsWord v := by
  have hwordsIff := encodesToWords_iff hwords
  have hitems := (List.forall₂_and_left _ _).mpr ⟨hdata, hgiven⟩
  have hgivenIff : (∀ w ∈ given, isDataWord w = true) ↔ ∀ v ∈ data, FitsWord v :=
    forall_mem_iff_of_forall₂ (fun v w h => (normalizeWord_spec h.1 h.2).1) hitems
  simp only [forall₂_isFrame_iff]
  constructor
  · rintro ⟨payloads, -, hsame, hall⟩
    obtain ⟨rfl, rfl⟩ := List.append_inj hsame hencoded.length_eq
    rw [List.forall_mem_append] at hall
    exact ⟨hwordsIff.mp hall.1, hgivenIff.mp hall.2⟩
  · rintro ⟨hencodes, hfits⟩
    have hwordsAll := hwordsIff.mpr hencodes
    have hgivenAll := hgivenIff.mpr hfits
    have hkept : words = encoded := by
      refine List.forall₂_eq_eq_eq ▸ ((List.forall₂_and_left _ _).mpr ⟨hwordsAll, hencoded⟩).imp ?_
      rintro w w' ⟨hword, hnormal⟩
      rw [normalizeWord_dataWord hword] at hnormal
      exact Except.ok.inj hnormal
    have hdenotes : List.Forall₂ Denotes data given := by
      have hboth := (List.forall₂_and_left _ _).mpr ⟨hgivenAll, hitems.flip⟩
      refine (hboth.imp fun w v h => ?_).flip
      exact (normalizeWord_spec h.2.1 h.2.2).2 h.1
    subst hkept
    exact ⟨given, hdenotes, rfl, List.forall_mem_append.mpr ⟨hwordsAll, hgivenAll⟩⟩

theorem sendMessage_eq_some {py : Runtime} {outcomes : ℕ → Outcome} {command requestId : Value}
    {data : List Value} {metadata : Message} {frames : List String}
    (h : (sendMessage py outcomes command (.list data) requestId metadata).1 = some frames) :
    (sendCommandComms py data requestId ((List.range maxRetries).map outcomes)
      ⟨commandOf command, metadata⟩).1 = .ok (some frames) ∧
    (sendMessage py outcomes command (.list data) requestId metadata).2 =
      (sendCommandComms py data requestId ((List.range maxRetries).map outcomes)
        ⟨commandOf command, metadata⟩).2 := by
  unfold sendMessage at h ⊢
  split_ifs at h ⊢
  rw [show dataItems (.list data) = data by rfl] at h ⊢
  split at h
  · rename_i found sent hrun
    rw [hrun]
    simp only at h
    split_ifs at h
    cases h
    exact ⟨rfl, rfl⟩
  · cases h

/-- A call that returns frames has put one well formed message on the bus exactly when everything that
it sends has sixteen bits and taking the response did not fail once it was accepted. -/
theorem send_message_iff {py : Runtime} {outcomes : ℕ → Outcome} {command requestId : Value}
    {c : String} {data : List Value} {metadata : Message} {frames : List String}
    (hcommand : commandCheck (commandOf command) = .ok c) (hdata : ∀ v ∈ data, IsItem v)
    (hmetadata : Dict.has metadata "command_type" = true)
    (h : (sendMessage py outcomes command (.list data) requestId metadata).1 = some frames) :
    WellSent py c data metadata frames
        (sendMessage py outcomes command (.list data) requestId metadata).2 ↔
      Sendable py outcomes command data metadata := by
  obtain ⟨hreturns, hsent⟩ := sendMessage_eq_some h
  obtain ⟨hlength, hbinary⟩ := commandCheck_spec hcommand
  rw [hsent]
  by_cases hword : isDataWord c = true
  · obtain ⟨hbuilt, honce, -⟩ := sendCommandComms_spec hword hcommand rfl hreturns
    obtain ⟨encoded, given, rfl, hencoded, hgiven⟩ := buildFrames_eq_ok hbuilt
    have hfirst : IsFrame "100" c (addSyncAndParity c true) := (isFrame_iff true).mpr ⟨rfl, hword⟩
    have hnonneg := hbinary.mp (isDataWord_iff.mp hword).2
    have hhas : Dict.has (prepareMetadata py metadata) "command_type" = true := by
      unfold prepareMetadata
      split
      · split_ifs
        · simp [Dict.has]
        · exact hmetadata
      · exact hmetadata
    have hwords (words : List String)
        (hencode : encodeMetadata py (prepareMetadata py metadata) = .ok words) :
        metadataWords py (prepareMetadata py metadata) = words := by
      simp [metadataWords, hhas, hencode, Except.toOption]
    constructor
    · rintro ⟨hone, -, words, payloads, hencode, hdenotes, hframes⟩
      rw [hwords words hencode] at hencoded
      obtain ⟨hencodes, hfits⟩ :=
        (data_frames_iff hdata hencode hencoded hgiven).mp ⟨payloads, hdenotes, hframes⟩
      exact ⟨hnonneg, ⟨⟨words, hencode⟩, hencodes⟩, hfits, honce.mp hone⟩
    · rintro ⟨-, ⟨⟨words, hencode⟩, hencodes⟩, hfits, hreply⟩
      rw [hwords words hencode] at hencoded
      obtain ⟨payloads, hdenotes, hframes⟩ :=
        (data_frames_iff hdata hencode hencoded hgiven).mpr ⟨hencodes, hfits⟩
      exact ⟨honce.mpr hreply, ⟨_, _, rfl, hfirst⟩, words, payloads, hencode, hdenotes, hframes⟩
  · refine iff_of_false (fun hwell => ?_) fun hsendable => ?_
    · obtain ⟨first, rest, -, hframe⟩ := hwell.command
      exact hword hframe.isDataWord_payload
    · exact hword (isDataWord_iff.mpr ⟨hlength, hbinary.mpr hsendable.command⟩)

/-- A mode request that the sender refuses once and then takes. -/
def refusedOnce (attempt : ℕ) : Outcome :=
  if attempt = 0 then ⟨.refused, .absent⟩ else ⟨.accepted, .processed⟩

def modeRequest : Message :=
  [("message_type", .str "tfr_radarModeChangeRequest"), ("command_type", .str "mode_change"),
    ("mode", .str "standby")]

def sendModeRequest (outcomes : ℕ → Outcome) : Option (List String) × List BusMessage :=
  sendMessage .ascii outcomes (.str "0x0821") (.list [.int 5, .str "101"]) .none modeRequest

theorem mode_request_well_sent : WellSent .ascii "0000100000100001" [.int 5, .str "101"] modeRequest
    ((sendModeRequest refusedOnce).1.getD []) (sendModeRequest refusedOnce).2 := by
  have hencode : encodeMetadata .ascii modeRequest = .ok ["0001001100000111", "0000001100001000",
      "0000100100000000", "0000000000000000"] := by
    decide +kernel
  have hencodable : Metadata.Encodable .ascii modeRequest := by
    refine ⟨?_, ?_, ?_, ?_, ?_, ?_⟩
    · rintro ⟨s, hs, hname⟩
      cases hs
      revert hname
      decide
    · intro _ _ _ v n hv
      cases hv
    · intro htransfer
      cases htransfer
    · intro v hv
      cases hv
    · rw [show precipitationPoints modeRequest = [] by decide +kernel]
      simp
    · rw [show vilPoints modeRequest = [] by decide +kernel]
      simp
  have hprepared : prepareMetadata .ascii modeRequest = modeRequest := by decide +kernel
  refine (send_message_iff (by decide +kernel) ?_ (by decide +kernel) (by decide +kernel)).mpr
    ⟨?_, hprepared.symm ▸ ⟨⟨_, hencode⟩, by decide, hencodable⟩, ?_, ?_⟩
  · rw [List.forall_mem_cons, List.forall_mem_singleton]
    exact ⟨.inl ⟨5, rfl⟩, .inr ⟨"101", rfl, by decide, by decide⟩⟩
  · intro n hn
    cases hn
  · rw [List.forall_mem_cons, List.forall_mem_singleton]
    have hfive : IsWord 5 := by decide
    exact ⟨hfive, .inr (by decide)⟩
  · intro o ho e
    have hprocessed : o = ⟨.accepted, .processed⟩ := by
      have hfirst : firstAccepted ((List.range maxRetries).map refusedOnce) =
          some ⟨.accepted, .processed⟩ := by
        decide
      rw [hfirst] at ho
      exact (Option.mem_some_iff.mp ho).symm
    rw [hprocessed]
    simp

/-- The queue of responses fails once after the message was accepted. -/
def failsOnce (attempt : ℕ) : Outcome :=
  if attempt = 0 then ⟨.accepted, .failed .indexError⟩ else ⟨.accepted, .absent⟩

theorem mode_request_sent_twice : (sendModeRequest failsOnce).1.isSome = true ∧
    ¬WellSent .ascii "0000100000100001" [.int 5, .str "101"] modeRequest
      ((sendModeRequest failsOnce).1.getD []) (sendModeRequest failsOnce).2 := by
  refine ⟨by decide +kernel, fun h => ?_⟩
  have htwo : (sendModeRequest failsOnce).2.length = 2 := by decide +kernel
  have hone := congrArg List.length h.once
  rw [List.length_map, htwo] at hone
  cases hone

end Fmofp.Messaging
