import Fmofp.LoopPrevention.Identify
import Fmofp.LoopPrevention.Service

/-! The message id of a message that services have stamped.  The serializer leaves the marks and the time of a stamp
out of the content hash, but not the transaction id that the first stamp puts into metadata without one. -/

namespace Fmofp.LoopPrevention

open Python

/-- The message that a list of services pass on, each with its stamp. -/
def stampAll (calls : List Call) (m : Subject) : Except Exception Subject :=
  calls.foldlM (fun m c => addProcessingMetadata { c with message := m }) m

/-- The metadata are a dictionary with a transaction id. -/
def HasTransactionId (m : Message) : Prop :=
  ∃ es, Dict.get? m "metadata" = some (.dict es) ∧ Dict.has es "transaction_id" = true

/-- The locations of a timestamp. -/
def timestampLocations (m : Subject) : List (Except Exception Value) :=
  [m.item "timestamp", m.nestedItem "metadata" "timestamp", m.nestedItem "additional_info" "timestamp",
    m.attr "timestamp", m.nestedAttribute "metadata" "timestamp", m.nestedAttribute "additional_info" "timestamp",
    m.item "created_at", m.attr "created_at"]

/-- A request id and a timestamp are found in the message. -/
structure Explicit (py : Runtime) (m : Message) : Prop where
  requestId : (firstFound (requestIdLocations (.dict m))).isSome = true
  timestamp : ((timestampLocations (.dict m)).findSome? (timestampOf py)).isSome = true

/-- The message that a stamp leaves, where the metadata were `es`. -/
def stamped (c : Call) (m es : Message) : Message :=
  Dict.set m "metadata" (.dict (processingMetadata c es true))

section Stamp

variable {m es : Message} {c : Call}

theorem addProcessingMetadata_dict (hes : Dict.getD m "metadata" (.dict []) = .dict es) (c : Call) :
    addProcessingMetadata { c with message := .dict m } = .ok (.dict (stamped c m es)) := by
  unfold addProcessingMetadata
  dsimp only
  rw [hes]
  rfl

theorem startsWith_mark (service : String) : startsWith ("_processed_by_" ++ service) "_processed_by" = true := by
  rw [startsWith, String.toList_append, List.isPrefixOf_iff_prefix]
  exact ⟨'_' :: service.toList, rfl⟩

theorem mark_ne (service : String) {k : String} (h : startsWith k "_processed_by" = false) :
    "_processed_by_" ++ service ≠ k := by
  rintro rfl
  rw [startsWith_mark] at h
  cases h

/-- The stamp leaves the other fields of the metadata. -/
theorem get?_processingMetadata {k : String} (hmark : startsWith k "_processed_by" = false)
    (htime : k ≠ "_processing_timestamp") (hid : k ≠ "transaction_id") (c : Call) (es : Message) :
    Dict.get? (processingMetadata c es true) k = Dict.get? es k := by
  unfold processingMetadata
  dsimp only
  split_ifs
  · rw [Dict.get?_set_ne _ _ htime.symm, Dict.get?_set_ne _ _ (mark_ne c.serviceName hmark)]
  · rw [Dict.get?_set_ne _ _ hid.symm, Dict.get?_set_ne _ _ htime.symm,
      Dict.get?_set_ne _ _ (mark_ne c.serviceName hmark)]

theorem has_stamps (c : Call) (es : Message) (k : String) (v w : Value) (hmark : startsWith k "_processed_by" = false)
    (htime : k ≠ "_processing_timestamp") :
    Dict.has (Dict.set (Dict.set es ("_processed_by_" ++ c.serviceName) v) "_processing_timestamp" w) k =
      Dict.has es k := by
  rw [Dict.has, Dict.has, Dict.get?_set_ne _ _ htime.symm, Dict.get?_set_ne _ _ (mark_ne c.serviceName hmark)]

/-- Metadata with a transaction id keep it. -/
theorem processingMetadata_of_has (h : Dict.has es "transaction_id" = true) (c : Call) :
    processingMetadata c es true = Dict.set (Dict.set es ("_processed_by_" ++ c.serviceName) (.bool true))
      "_processing_timestamp" (.float c.clock.stamped) := by
  unfold processingMetadata
  dsimp only
  rw [has_stamps c es _ _ _ (by decide) (by decide), h]
  rfl

theorem processingMetadata_of_not_has (h : Dict.has es "transaction_id" = false) (c : Call) :
    processingMetadata c es true = Dict.set (Dict.set (Dict.set es ("_processed_by_" ++ c.serviceName) (.bool true))
      "_processing_timestamp" (.float c.clock.stamped)) "transaction_id" (.str c.transactionId) := by
  unfold processingMetadata
  dsimp only
  rw [has_stamps c es _ _ _ (by decide) (by decide), h]
  rfl

theorem hasTransactionId_stamped (c : Call) (m es : Message) : HasTransactionId (stamped c m es) := by
  refine ⟨_, Dict.get?_set_self _ _ _, ?_⟩
  cases h : Dict.has es "transaction_id" with
  | true =>
    rw [processingMetadata_of_has h, has_stamps c es _ _ _ (by decide) (by decide)]
    exact h
  | false =>
    rw [processingMetadata_of_not_has h, Dict.has, Dict.get?_set_self]
    rfl

/-! ### The content hash -/

theorem isDropped_mark (inMetadata : Bool) (service : String) :
    isDropped inMetadata ("_processed_by_" ++ service) = true := by
  rw [isDropped, startsWith_mark, Bool.true_or]

/-- The mark and the time of a stamp are left out. -/
theorem serializeEntries_stamps (c : Call) (es : Message) (v w : Value) :
    serializeEntries true (Dict.set (Dict.set es ("_processed_by_" ++ c.serviceName) v) "_processing_timestamp" w) =
      serializeEntries true es := by
  rw [serializeEntries_set_of_dropped (by decide), serializeEntries_set_of_dropped (isDropped_mark true c.serviceName)]

theorem serializeEntry_metadata (es : Message) :
    serializeEntry false ("metadata", .dict es) =
      if es.any fun e => !isDropped true e.1 then some ("metadata", .dict (sortedItems (serializeEntries true es)))
      else none := by
  have hkept : isDropped false "metadata" = false := by decide
  rw [serializeEntry]
  dsimp only
  rw [hkept, if_neg Bool.false_ne_true, if_pos rfl]

/-- Metadata with a transaction id have something to serialise. -/
theorem any_kept_of_has (h : Dict.has es "transaction_id" = true) : (es.any fun e => !isDropped true e.1) = true := by
  have hkept : isDropped true "transaction_id" = false := by decide
  obtain ⟨v, hv⟩ := Dict.has_iff.mp h
  exact List.any_eq_true.mpr ⟨_, Dict.mem_of_get?_eq_some hv, by rw [hkept]; rfl⟩

/-- A stamp on metadata with a transaction id does not change the text that is hashed. -/
theorem hashedText_stamped_of_has (py : Runtime) (hm : Dict.get? m "metadata" = some (.dict es))
    (h : Dict.has es "transaction_id" = true) (c : Call) : hashedText py (stamped c m es) = hashedText py m := by
  have hstampedHas : Dict.has (processingMetadata c es true) "transaction_id" = true := by
    rw [processingMetadata_of_has h, has_stamps c es _ _ _ (by decide) (by decide)]
    exact h
  have hentry : serializeEntry false ("metadata", .dict es) =
      serializeEntry false ("metadata", .dict (processingMetadata c es true)) := by
    rw [serializeEntry_metadata, serializeEntry_metadata, any_kept_of_has h, any_kept_of_has hstampedHas,
      processingMetadata_of_has h, serializeEntries_stamps]
  rw [hashedText, hashedText, serializeForHashing, serializeForHashing, stamped,
    serializeEntries_set_of_same hm hentry]

/-- The transaction id of the first stamp is serialised. -/
theorem serializeEntries_processingMetadata (h : Dict.has es "transaction_id" = false) (c : Call) :
    serializeEntries true (processingMetadata c es true) =
      serializeEntries true es ++ [("transaction_id", .str c.transactionId)] := by
  have hnone : Dict.get? (Dict.set (Dict.set es ("_processed_by_" ++ c.serviceName) (.bool true))
      "_processing_timestamp" (.float c.clock.stamped)) "transaction_id" = none := by
    rw [← Dict.has_eq_false, has_stamps c es _ _ _ (by decide) (by decide)]
    exact h
  rw [processingMetadata_of_not_has h, Dict.set_eq_append hnone, serializeEntries_eq_filterMap, List.filterMap_append,
    ← serializeEntries_eq_filterMap, serializeEntries_stamps, List.filterMap_cons, serializeEntry, if_neg (by
      show ¬isDropped true "transaction_id" = true
      decide)]
  rfl

/-- An entry that becomes longer makes the whole longer. -/
theorem weight_set_lt (py : Runtime) {k : String} {v w : Value} (hk : Dict.get? m k = some v)
    (h : weight py (serializeEntry false (k, v)).toList < weight py (serializeEntry false (k, w)).toList) :
    weight py (serializeEntries false m) < weight py (serializeEntries false (Dict.set m k w)) := by
  have hcons (e : String × Value) (rest : Message) :
      weight py ((e :: rest).filterMap (serializeEntry false)) =
        weight py (serializeEntry false e).toList + weight py (rest.filterMap (serializeEntry false)) := by
    rw [← weight_append, List.filterMap_cons]
    cases serializeEntry false e <;> rfl
  rw [serializeEntries_eq_filterMap, serializeEntries_eq_filterMap]
  induction m with
  | nil => cases hk
  | cons e m ih =>
    obtain ⟨j, u⟩ := e
    rw [Dict.get?_cons] at hk
    rw [Dict.set]
    split_ifs at hk ⊢ with hjk
    · cases hk
      rw [hcons, hcons, hjk]
      omega
    · have hrest := ih hk
      rw [hcons, hcons]
      omega

/-- A stamp on metadata without a transaction id makes the text that is hashed longer. -/
theorem hashedText_stamped_of_not_has (py : Runtime) (hes : Dict.getD m "metadata" (.dict []) = .dict es)
    (h : Dict.has es "transaction_id" = false) (c : Call) :
    (hashedText py m).length < (hashedText py (stamped c m es)).length := by
  obtain ⟨es', hes', hhas⟩ := hasTransactionId_stamped c m es
  rw [stamped, Dict.get?_set_self] at hes'
  cases hes'
  have hentry : serializeEntry false ("metadata", .dict (processingMetadata c es true)) =
      some ("metadata", .dict (sortedItems (serializeEntries true es ++ [("transaction_id", .str c.transactionId)]))) := by
    rw [serializeEntry_metadata, any_kept_of_has hhas, if_pos rfl, serializeEntries_processingMetadata h]
  have hlonger : weight py (serializeEntries true es) <
      weight py (serializeEntries true es ++ [("transaction_id", .str c.transactionId)]) := by
    rw [weight_append, weight_cons]
    omega
  rw [hashedText_length, hashedText_length]
  apply size_sortedItems_lt
  cases hm : Dict.get? m "metadata" with
  | none =>
    rw [stamped, Dict.set_eq_append hm, serializeEntries_eq_filterMap, serializeEntries_eq_filterMap,
      List.filterMap_append, weight_append, List.filterMap_cons, hentry, List.filterMap_nil, weight_cons]
    omega
  | some v =>
    rw [Dict.getD, hm, Option.getD_some] at hes
    subst hes
    apply weight_set_lt py hm
    rw [hentry, serializeEntry_metadata, Option.toList_some, weight_cons]
    split_ifs
    · have hsize := size_sortedItems_lt py hlonger
      rw [Option.toList_some, weight_cons]
      unfold Json.entrySize
      dsimp only
      omega
    · rw [Option.toList_none]
      show 0 < _
      omega

/-! ### The other parts of the id -/

theorem item_stamped {k : String} (hk : k ≠ "metadata") (c : Call) (m es : Message) :
    (Subject.dict (stamped c m es)).item k = (Subject.dict m).item k := by
  rw [Subject.item, Subject.item, stamped, Dict.getD_set_ne _ hk.symm]

theorem nestedItem_stamped {outer : String} (houter : outer ≠ "metadata") (k : String) (c : Call) (m es : Message) :
    (Subject.dict (stamped c m es)).nestedItem outer k = (Subject.dict m).nestedItem outer k := by
  rw [Subject.nestedItem, Subject.nestedItem, stamped, Dict.getD_set_ne _ houter.symm]

/-- A field of the metadata that is not stamped is found as before. -/
theorem metadata_item_stamped (hes : Dict.getD m "metadata" (.dict []) = .dict es) {k : String}
    (hmark : startsWith k "_processed_by" = false) (htime : k ≠ "_processing_timestamp") (hid : k ≠ "transaction_id")
    (c : Call) :
    (Subject.dict (stamped c m es)).nestedItem "metadata" k = (Subject.dict m).nestedItem "metadata" k := by
  rw [Subject.nestedItem, Subject.nestedItem, stamped, Dict.getD_set_self, hes, Value.get_dict, Value.get_dict, Dict.getD,
    Dict.getD, get?_processingMetadata hmark htime hid]

theorem identifiedType_stamped (py : Runtime) (hes : Dict.getD m "metadata" (.dict []) = .dict es) (c : Call) :
    identifiedType py (.dict (stamped c m es)) = identifiedType py (.dict m) := by
  have hadditional : "additional_info" ≠ "metadata" := by decide
  unfold identifiedType messageTypeLocations
  rw [item_stamped (by decide), item_stamped (by decide), nestedItem_stamped hadditional,
    metadata_item_stamped hes (by decide) (by decide) (by decide)]
  rfl

theorem timestampLocations_stamped (hes : Dict.getD m "metadata" (.dict []) = .dict es) (c : Call) :
    timestampLocations (.dict (stamped c m es)) = timestampLocations (.dict m) := by
  have hadditional : "additional_info" ≠ "metadata" := by decide
  unfold timestampLocations
  rw [item_stamped (by decide), item_stamped (by decide), nestedItem_stamped hadditional,
    metadata_item_stamped hes (by decide) (by decide) (by decide)]
  rfl

theorem firstFound_append (l r : List (Except Exception Value)) :
    firstFound (l ++ r) = (firstFound l).or (firstFound r) := by
  induction l with
  | nil => rw [List.nil_append, firstFound, Option.none_or]
  | cons x l ih =>
    cases x with
    | error e => exact ih
    | ok v =>
      rw [List.cons_append, firstFound, firstFound]
      split_ifs
      · rw [Option.some_or]
      · exact ih

/-- The locations of a request id before the transaction id of the metadata. -/
def earlierLocations (m : Subject) : List (Except Exception Value) := (requestIdLocations m).take 9

theorem requestIdLocations_dict (m : Message) : requestIdLocations (.dict m) =
    earlierLocations (.dict m) ++ [(Subject.dict m).nestedItem "metadata" "transaction_id", .ok .none] := rfl

theorem earlierLocations_stamped (hes : Dict.getD m "metadata" (.dict []) = .dict es) (c : Call) :
    earlierLocations (.dict (stamped c m es)) = earlierLocations (.dict m) := by
  have hadditional : "additional_info" ≠ "metadata" := by decide
  have hrequest : (Subject.dict (stamped c m es)).nestedItem "metadata" "request_id" =
      (Subject.dict m).nestedItem "metadata" "request_id" :=
    metadata_item_stamped hes (by decide) (by decide) (by decide) c
  unfold earlierLocations requestIdLocations
  rw [item_stamped (by decide), item_stamped (by decide), item_stamped (by decide), nestedItem_stamped hadditional,
    hrequest]
  rfl

/-- A request id that is in the message is the one of the stamped message too. -/
theorem firstFound_stamped (hes : Dict.getD m "metadata" (.dict []) = .dict es)
    (hid : (firstFound (requestIdLocations (.dict m))).isSome = true) (c : Call) :
    firstFound (requestIdLocations (.dict (stamped c m es))) = firstFound (requestIdLocations (.dict m)) := by
  rw [requestIdLocations_dict, requestIdLocations_dict, firstFound_append, firstFound_append,
    earlierLocations_stamped hes]
  rw [requestIdLocations_dict, firstFound_append] at hid
  cases hearlier : firstFound (earlierLocations (.dict m)) with
  | some v => rw [Option.some_or, Option.some_or]
  | none =>
    -- the id is the transaction id of the metadata, which a stamp keeps
    rw [hearlier, Option.none_or] at hid
    have hitem : (Subject.dict m).nestedItem "metadata" "transaction_id" =
        .ok (Dict.getD es "transaction_id" .none) := by
      rw [Subject.nestedItem, hes, Value.get_dict]
    have hhas : Dict.has es "transaction_id" = true := by
      by_contra hnot
      rw [Bool.not_eq_true, Dict.has_eq_false] at hnot
      rw [hitem, Dict.getD, hnot] at hid
      cases hid
    have hstamped : (Subject.dict (stamped c m es)).nestedItem "metadata" "transaction_id" =
        .ok (Dict.getD es "transaction_id" .none) := by
      rw [Subject.nestedItem, stamped, Dict.getD_set_self, Value.get_dict, processingMetadata_of_has hhas,
        Dict.getD_set_ne _ (by decide), Dict.getD_set_ne _ (mark_ne c.serviceName (by decide))]
    rw [hitem, hstamped]

theorem explicit_stamped {py : Runtime} (hes : Dict.getD m "metadata" (.dict []) = .dict es) (h : Explicit py m)
    (c : Call) : Explicit py (stamped c m es) := by
  constructor
  · rw [firstFound_stamped hes h.requestId]
    exact h.requestId
  · rw [timestampLocations_stamped hes]
    exact h.timestamp

end Stamp

/-! ### Fingerprints -/

/-- The two messages have the same id, whatever `uuid4` and the clock give.  The stamper writes into the metadata of
the message it is given, so that the message counts here as it was before. -/
def SameId (py : Runtime) (md5 : List Char → String) (other : Subject → String) (m m' : Subject) : Prop :=
  ∀ uuid uuid' now now', generateMessageId py (contentHash py md5 other) uuid' now' m' =
    generateMessageId py (contentHash py md5 other) uuid now m

/-- The messages agree in all parts of the id but the digest. -/
structure SameHead (py : Runtime) (m m' : Message) : Prop where
  messageType : identifiedType py (.dict m') = identifiedType py (.dict m)
  requestId : firstFound (requestIdLocations (.dict m')) = firstFound (requestIdLocations (.dict m))
  timestamp : timestampLocations (.dict m') = timestampLocations (.dict m)

section Fingerprints

variable {py : Runtime} {md5 : List Char → String} {other : Subject → String} {m es : Message}

theorem SameHead.refl (py : Runtime) (m : Message) : SameHead py m m := ⟨rfl, rfl, rfl⟩

theorem SameHead.trans {m₁ m₂ m₃ : Message} (h : SameHead py m₁ m₂) (h' : SameHead py m₂ m₃) : SameHead py m₁ m₃ :=
  ⟨h'.messageType.trans h.messageType, h'.requestId.trans h.requestId, h'.timestamp.trans h.timestamp⟩

theorem sameHead_stamped (hes : Dict.getD m "metadata" (.dict []) = .dict es) (h : Explicit py m) (c : Call) :
    SameHead py m (stamped c m es) :=
  ⟨identifiedType_stamped py hes c, firstFound_stamped hes h.requestId c, timestampLocations_stamped hes c⟩

/-- The ids of messages that agree elsewhere are equal if and only if the digests are. -/
theorem sameId_iff {m' : Message} (h : Explicit py m) (hhead : SameHead py m m') :
    SameId py md5 other (.dict m) (.dict m') ↔ md5 (hashedText py m') = md5 (hashedText py m) := by
  have hrequest (uuid uuid' : String) :
      identifiedRequestId py uuid' (.dict m') = identifiedRequestId py uuid (.dict m) := by
    obtain ⟨v, hv⟩ := Option.isSome_iff_exists.mp h.requestId
    have hv' := hhead.requestId.trans hv
    show ((firstFound (requestIdLocations (.dict m'))).map py.str).getD uuid' =
      ((firstFound (requestIdLocations (.dict m))).map py.str).getD uuid
    rw [hv, hv']
    rfl
  have htime (now now' : ℚ) :
      identifiedTimestamp py now' (.dict m') = identifiedTimestamp py now (.dict m) := by
    obtain ⟨t, ht⟩ := Option.isSome_iff_exists.mp h.timestamp
    have ht' : (timestampLocations (.dict m')).findSome? (timestampOf py) = some t := by
      rw [hhead.timestamp]
      exact ht
    show ((timestampLocations (.dict m')).findSome? (timestampOf py)).getD now' =
      ((timestampLocations (.dict m)).findSome? (timestampOf py)).getD now
    rw [ht, ht']
    rfl
  constructor
  · intro hsame
    have hid := hsame "" "" 0 0
    rw [generateMessageId, generateMessageId, hhead.messageType, hrequest "" "", htime 0 0] at hid
    have htexts := congrArg String.toList hid
    rw [String.toList_append, @String.toList_append _ (contentHash py md5 other (.dict m))] at htexts
    exact String.toList_inj.mp (List.append_cancel_left htexts)
  · intro hdigest uuid uuid' now now'
    have hcontent : contentHash py md5 other (.dict m') = contentHash py md5 other (.dict m) := hdigest
    rw [generateMessageId, generateMessageId, hhead.messageType, hrequest uuid uuid', htime now now', hcontent]

theorem stampAll_cons (hes : Dict.getD m "metadata" (.dict []) = .dict es) (c : Call) (calls : List Call) :
    stampAll (c :: calls) (.dict m) = stampAll calls (.dict (stamped c m es)) := by
  rw [stampAll, List.foldlM_cons, addProcessingMetadata_dict hes]
  rfl

theorem HasTransactionId.getD_metadata (h : Dict.get? m "metadata" = some (.dict es)) :
    Dict.getD m "metadata" (.dict []) = .dict es := by
  rw [Dict.getD, h, Option.getD_some]

/-- Stamps on metadata with a transaction id change neither the text that is hashed nor the rest of the id. -/
theorem stampAll_of_hasTransactionId (calls : List Call) (h : Explicit py m) (hid : HasTransactionId m) :
    ∃ m', stampAll calls (.dict m) = .ok (.dict m') ∧ SameHead py m m' ∧ hashedText py m' = hashedText py m := by
  induction calls generalizing m with
  | nil => exact ⟨m, rfl, SameHead.refl py m, rfl⟩
  | cons c calls ih =>
    obtain ⟨es, hm, hhas⟩ := hid
    have hes := HasTransactionId.getD_metadata hm
    obtain ⟨m', hok, hhead, htext⟩ := ih (explicit_stamped hes h c) (hasTransactionId_stamped c m es)
    refine ⟨m', ?_, (sameHead_stamped hes h c).trans hhead, ?_⟩
    · rw [stampAll_cons hes]
      exact hok
    · rw [htext, hashedText_stamped_of_has py hm hhas]

/-- The first of the stamps on metadata without a transaction id makes the text that is hashed longer, and the others
leave it so. -/
theorem stampAll_of_not_hasTransactionId {c : Call} {calls : List Call} {s : Subject} (h : Explicit py m)
    (hid : ¬HasTransactionId m) (hok : stampAll (c :: calls) (.dict m) = .ok s) :
    ∃ m', s = .dict m' ∧ SameHead py m m' ∧ (hashedText py m).length < (hashedText py m').length := by
  obtain ⟨es, hes⟩ : ∃ es, Dict.getD m "metadata" (.dict []) = .dict es := by
    rw [stampAll, List.foldlM_cons, addProcessingMetadata] at hok
    dsimp only at hok
    cases hmeta : Dict.getD m "metadata" (.dict []) with
    | dict es => exact ⟨es, rfl⟩
    | _ =>
      rw [hmeta] at hok
      cases hok
  have hnot : Dict.has es "transaction_id" = false := by
    rw [← Bool.not_eq_true]
    intro hhas
    apply hid
    cases hm : Dict.get? m "metadata" with
    | none =>
      rw [Dict.getD, hm, Option.getD_none] at hes
      cases hes
      cases hhas
    | some v =>
      rw [Dict.getD, hm, Option.getD_some] at hes
      rw [hes] at hm
      exact ⟨es, hm, hhas⟩
  obtain ⟨m', hm', hhead, htext⟩ :=
    stampAll_of_hasTransactionId calls (explicit_stamped hes h c) (hasTransactionId_stamped c m es)
  rw [stampAll_cons hes, hm'] at hok
  cases hok
  refine ⟨m', rfl, (sameHead_stamped hes h c).trans hhead, ?_⟩
  rw [htext]
  exact hashedText_stamped_of_not_has py hes hnot c

/-- A message with a request id and a timestamp that services have stamped has the id it had before if and only if
its metadata had a transaction id, unless the digests of the two texts collide. -/
theorem stamps_keep_id_iff (c : Call) (calls : List Call) (h : Explicit py m)
    (hmd5 : ∀ m', stampAll (c :: calls) (.dict m) = .ok (.dict m') →
      md5 (hashedText py m') = md5 (hashedText py m) → hashedText py m' = hashedText py m) :
    (∃ m', stampAll (c :: calls) (.dict m) = .ok m' ∧ SameId py md5 other (.dict m) m') ↔ HasTransactionId m := by
  constructor
  · rintro ⟨s, hok, hsame⟩
    by_contra hid
    obtain ⟨m', rfl, hhead, hlonger⟩ := stampAll_of_not_hasTransactionId h hid hok
    have htext := hmd5 m' hok ((sameId_iff h hhead).mp hsame)
    rw [htext] at hlonger
    omega
  · intro hid
    obtain ⟨m', hok, hhead, htext⟩ := stampAll_of_hasTransactionId (c :: calls) h hid
    exact ⟨.dict m', hok, (sameId_iff h hhead).mpr (congrArg md5 htext)⟩

end Fingerprints

/-! ### Two messages of a service -/

def messageWithoutId : Message :=
  [("message_type", .str "x"), ("request_id", .str "r1"), ("timestamp", .float (1 / 2))]

def messageWithId : Message := messageWithoutId ++ [("metadata", .dict [("transaction_id", .str "t1")])]

def stampCall : Call where
  message := .dict messageWithoutId
  serviceName := "RADAR"
  clock := ⟨1 / 2, 1 / 2, 1 / 2, 1 / 2, 1 / 2, 1 / 2, 1 / 2, 1 / 2⟩
  uuid := "00000000-0000-4000-8000-000000000002"
  transactionId := "00000000-0000-4000-8000-000000000001"

/-- `md5` on the texts of the two messages and of the first one stamped. -/
def knownDigest (text : List Char) : String :=
  if text = hashedText .ascii messageWithoutId then "a40aca22d7dc26f0c85c243ac722e5a6"
  else if text = hashedText .ascii (stamped stampCall messageWithoutId []) then "160f3fdb04ed351d54cf220b9a604afc"
  else "91af79a22c60199943cbda244a78f733"

theorem stamps_keep_id_twice :
    (∃ m', stampAll [stampCall, stampCall] (.dict messageWithId) = .ok m' ∧
      SameId .ascii knownDigest (fun _ => "") (.dict messageWithId) m') ↔ HasTransactionId messageWithId := by
  refine stamps_keep_id_iff stampCall [stampCall] ⟨by decide, by decide⟩ ?_
  intro m' hok _
  have hrun : stampAll [stampCall, stampCall] (.dict messageWithId) = .ok (.dict
      (messageWithoutId ++ [("metadata", .dict [("transaction_id", .str "t1"), ("_processed_by_RADAR", .bool true),
        ("_processing_timestamp", .float (1 / 2))])])) := by decide +kernel
  rw [hrun] at hok
  cases hok
  decide +kernel

/-- The first stamp changes the id of a message without metadata. -/
theorem stamp_changes_id : Explicit .ascii messageWithoutId ∧
    ¬∃ m', stampAll [stampCall] (.dict messageWithoutId) = .ok m' ∧
      SameId .ascii knownDigest (fun _ => "") (.dict messageWithoutId) m' := by
  have hexplicit : Explicit .ascii messageWithoutId := ⟨by decide, by decide⟩
  have hes : Dict.getD messageWithoutId "metadata" (.dict []) = .dict [] := by decide
  have hdigests : knownDigest (hashedText .ascii (stamped stampCall messageWithoutId [])) ≠
      knownDigest (hashedText .ascii messageWithoutId) := by decide +kernel
  refine ⟨hexplicit, ?_⟩
  rintro ⟨m', hok, hsame⟩
  rw [stampAll_cons hes] at hok
  cases hok
  exact hdigests ((sameId_iff hexplicit (sameHead_stamped hes hexplicit stampCall)).mp hsame)

end Fmofp.LoopPrevention
