import Fmofp.Python.Json
import Fmofp.Python.Text

/-! What loop prevention reads off a message: its request id, its type, normalised and as it is, its
category, and the composite id under which the registry keeps it. -/

namespace Fmofp.LoopPrevention

open Python

/-- A message: a dictionary, an object with its class name and attributes, or any other value. -/
inductive Subject where
  | dict (entries : Message)
  | object (className : String) (attributes : Message)
  | plain
  deriving DecidableEq

namespace Subject

/-- `m.get(k) if isinstance(m, dict) else None`. -/
def item (m : Subject) (k : String) : Except Exception Value :=
  match m with
  | .dict entries => .ok (Dict.getD entries k .none)
  | _ => .ok .none

/-- `m.get(outer, {}).get(k) if isinstance(m, dict) else None`. -/
def nestedItem (m : Subject) (outer k : String) : Except Exception Value :=
  match m with
  | .dict entries => (Dict.getD entries outer (.dict [])).get k .none
  | _ => .ok .none

/-- `getattr(m, k, None) if hasattr(m, k) else None`. -/
def attr (m : Subject) (k : String) : Except Exception Value :=
  match m with
  | .object _ attributes => .ok (Dict.getD attributes k .none)
  | _ => .ok .none

/-- `getattr(m, outer, {}).get(k) if hasattr(m, outer) else None`. -/
def nestedAttribute (m : Subject) (outer k : String) : Except Exception Value :=
  match m with
  | .object _ attributes => match Dict.get? attributes outer with
    | some v => v.get k .none
    | none => .ok .none
  | _ => .ok .none

/-- The message's own `k`, as a dictionary entry or an attribute. -/
def field (m : Subject) (k : String) : Value :=
  match m with
  | .dict entries => Dict.getD entries k .none
  | .object _ attributes => Dict.getD attributes k .none
  | .plain => .none

end Subject

/-- The first extractor that neither raises nor returns a false value. -/
def firstFound : List (Except Exception Value) → Option Value
  | [] => none
  | .ok v :: rest => if v.truthy then some v else firstFound rest
  | .error _ :: rest => firstFound rest

/-- The locations of a request id. -/
def requestIdLocations (m : Subject) : List (Except Exception Value) :=
  [m.item "request_id", m.nestedItem "metadata" "request_id",
    m.nestedItem "additional_info" "request_id", m.attr "request_id",
    m.nestedAttribute "metadata" "request_id", m.nestedAttribute "additional_info" "request_id",
    m.item "id", m.attr "id", m.item "transaction_id",
    m.nestedItem "metadata" "transaction_id", m.attr "transaction_id"]

/-- The locations of a message type. -/
def messageTypeLocations (m : Subject) : List (Except Exception Value) :=
  [m.item "message_type", m.nestedItem "metadata" "message_type",
    m.nestedItem "additional_info" "message_type", m.attr "message_type",
    m.nestedAttribute "metadata" "message_type", m.nestedAttribute "additional_info" "message_type",
    m.item "command_type", m.attr "command_type"]

/-- `MessageLoopPrevention._extract_request_id`. -/
def extractRequestId (py : Runtime) (m : Subject) : Option String :=
  (firstFound (requestIdLocations m)).map py.str

/-- The standard forms of weather radar types; `lowered` is the type in lower case. -/
def weatherRadarType (lowered : String) : Option String :=
  if contains lowered "weather_radar" then
    if contains lowered "completion" || contains lowered "complete" then
      if contains lowered "mode" || contains lowered "mode_change" then
        some "weather_radarModeChangeCompletion"
      else none
    else if contains lowered "command" then some "weather_radarCommand"
    else if contains lowered "status" then some "weather_radarStatus"
    else none
  else none

/-- `MessageLoopPrevention._extract_message_type`: the normalised type. -/
def extractMessageType (py : Runtime) (m : Subject) : String :=
  match firstFound (messageTypeLocations m) with
  | none => "unknown_type"
  | some v => (weatherRadarType (py.lower (py.str v))).getD (py.str v)

/-- `MessageLoopPrevention._is_status_or_completion`. -/
def isStatusOrCompletion (py : Runtime) (m : Subject) (messageType : String) : Bool :=
  let lowered := py.lower messageType
  let commandType := m.field "command_type"
  let loweredCommand := py.lower (py.str commandType)
  (contains lowered "statusword" || contains lowered "status_word" ||
      contains lowered "completion" || contains lowered "complete") ||
    commandType.truthy && (contains loweredCommand "status" || contains loweredCommand "completion" ||
      contains loweredCommand "complete") ||
    (m.field "metadata").dict?.any fun metadata =>
      metadata.flag "is_transfer_complete" || metadata.flag "completion_message"

/-! ### `MessageIdentifier` -/

/-- `MessageIdentifier._extract_message_type`. -/
def identifiedType (py : Runtime) (m : Subject) : String :=
  ((firstFound (messageTypeLocations m)).map py.str).getD "unknown_type"

/-- The request id of an object: its own attribute, or the one in its metadata, as they are. -/
def objectRequestId (py : Runtime) (attributes : Message) : Option String :=
  match Dict.get? attributes "request_id" with
  | some v => some (py.str v)
  | none => (Dict.get? attributes "metadata").bind fun metadata => metadata.dict?.bind fun entries =>
      (Dict.get? entries "request_id").map py.str

/-- `MessageIdentifier._extract_request_id`; `uuid` is the generated fallback. -/
def identifiedRequestId (py : Runtime) (uuid : String) : Subject → String
  | .object className attributes =>
    if contains className "MIL_STD_1553B_Message" then
      if attributes.flag "request_id" then py.str (Dict.getD attributes "request_id" .none)
      else ((Dict.get? attributes "metadata").bind fun metadata => metadata.dict?.bind fun entries =>
        (Dict.get? entries "request_id").map py.str).getD uuid
    else match objectRequestId py attributes with
      | some id => id
      | none => ((firstFound (requestIdLocations (.dict attributes))).map py.str).getD uuid
  | m => ((firstFound (requestIdLocations m)).map py.str).getD uuid

/-- `float(timestamp)` of text or a number. -/
def timestampOf (py : Runtime) : Except Exception Value → Option ℚ
  | .ok (.str s) => py.floatLiteral s
  | .ok v => v.number?
  | .error _ => none

/-- `MessageIdentifier._extract_timestamp`, with the clock at `now`. -/
def identifiedTimestamp (py : Runtime) (now : ℚ) (m : Subject) : ℚ :=
  ([m.item "timestamp", m.nestedItem "metadata" "timestamp", m.nestedItem "additional_info" "timestamp",
    m.attr "timestamp", m.nestedAttribute "metadata" "timestamp",
    m.nestedAttribute "additional_info" "timestamp", m.item "created_at",
    m.attr "created_at"].findSome? (timestampOf py)).getD now

/-- `MessageIdentifier.generate_message_id`; `contentHash` is the digest of the serialised message. -/
def generateMessageId (py : Runtime) (contentHash : Subject → String) (uuid : String) (now : ℚ)
    (m : Subject) : String :=
  identifiedType py m ++ ":" ++ identifiedRequestId py uuid m ++ ":" ++
    py.reprFloat (identifiedTimestamp py now m) ++ ":" ++ contentHash m

/-! ### Categories and configuration -/

/-- `MessageLoopPreventionConfig`: the switches of loop prevention, of services and of categories. -/
structure Config where
  enabled : Value
  services : Dict String Message
  categories : Dict String Message

/-- The switch of a service or a category, on unless it is there and off. -/
def Config.allows (config : Config) (table : Dict String Message) (name : String) : Bool :=
  config.enabled.truthy && ((Dict.get? table name).map fun settings =>
    (Dict.getD settings "enabled" (.bool true)).truthy).getD true

def Config.isServiceEnabled (config : Config) (service : String) : Bool :=
  config.allows config.services service

def Config.isCategoryEnabled (config : Config) (category : String) : Bool :=
  config.allows config.categories category

/-- `_best_category_match`: the longest category in the text, the first of those in the alphabet. -/
def bestCategoryMatch (categories : List String) (haystack : String) : Option String :=
  categories.foldl (fun best category =>
    if contains haystack category then
      match best with
      | none => some category
      | some b =>
        if b.length < category.length || (category.length == b.length && decide (category < b)) then
          some category
        else some b
    else best) none

/-- The category in the name of a command for this message type. -/
def commandCategory (py : Runtime) (commandNames : List (String × String))
    (categories : List String) (messageType : String) : Option String :=
  (commandNames.filter fun command => command.2 == messageType).findSome? fun command =>
    ((py.lower command.1).splitOn "_").find? fun part => decide (part ∈ categories)

/-- `_extract_category`. -/
def extractCategory (py : Runtime) (commandNames : List (String × String))
    (categories : List String) (m : Subject) : String :=
  let messageType := identifiedType py m
  let commandType := m.field "command_type"
  match commandCategory py commandNames categories messageType with
  | some part => part
  | none => match bestCategoryMatch categories (py.lower messageType) with
    | some category => category
    | none =>
      if commandType.truthy then
        (bestCategoryMatch categories (py.lower (py.str commandType))).getD messageType
      else messageType

end Fmofp.LoopPrevention

/-! `MessageIdentifier._serialize_for_hashing` on values of JSON: what of a message goes into its content hash, and
the size of the text that is hashed. -/

namespace Fmofp.LoopPrevention

open Python

/-- Whether a key is left out: the marks of the services everywhere, the time of the last one in metadata. -/
def isDropped (inMetadata : Bool) (k : String) : Bool :=
  startsWith k "_processed_by" || (inMetadata && k == "_processing_timestamp")

/-- Entries in the order of their keys. -/
def sortedItems (es : Message) : Message := es.insertionSort fun a b => a.1 ≤ b.1

mutual

/-- `_serialize_for_hashing`.  The source sorts the items before it serialises them, which leaves the keys as they
are; a value of JSON is no part of itself. -/
def serializeForHashing : Value → Value
  | .list xs => .list (serializeItems xs)
  | .tuple xs => .list (serializeItems xs)
  | .dict es => .dict (sortedItems (serializeEntries false es))
  | v => v

def serializeItems : List Value → List Value
  | [] => []
  | x :: xs => serializeForHashing x :: serializeItems xs

/-- The entries that are kept; metadata of which nothing is kept are left out. -/
def serializeEntries (inMetadata : Bool) : List (String × Value) → List (String × Value)
  | [] => []
  | (k, .dict es) :: rest =>
    if isDropped inMetadata k then serializeEntries inMetadata rest
    else if k = "metadata" then
      if es.any fun e => !isDropped true e.1 then
        (k, .dict (sortedItems (serializeEntries true es))) :: serializeEntries inMetadata rest
      else serializeEntries inMetadata rest
    else (k, .dict (sortedItems (serializeEntries false es))) :: serializeEntries inMetadata rest
  | (k, v) :: rest =>
    if isDropped inMetadata k then serializeEntries inMetadata rest
    else (k, serializeForHashing v) :: serializeEntries inMetadata rest

end

/-- The text that is hashed.  Its items are sorted already, so that `sort_keys` changes nothing. -/
def hashedText (py : Runtime) (m : Message) : List Char := Json.dumps py (serializeForHashing (.dict m))

/-- `_generate_content_hash`: the digest of the text of a dictionary; of other messages it is not modelled. -/
def contentHash (py : Runtime) (md5 : List Char → String) (other : Subject → String) : Subject → String
  | .dict m => md5 (hashedText py m)
  | m => other m

/-! ### Entries -/

/-- What becomes of one entry. -/
def serializeEntry (inMetadata : Bool) (e : String × Value) : Option (String × Value) :=
  if isDropped inMetadata e.1 then none
  else match e.2 with
    | .dict es =>
      if e.1 = "metadata" then
        if es.any fun e => !isDropped true e.1 then some (e.1, .dict (sortedItems (serializeEntries true es))) else none
      else some (e.1, serializeForHashing e.2)
    | _ => some (e.1, serializeForHashing e.2)

theorem serializeEntries_eq_filterMap (inMetadata : Bool) (es : Message) :
    serializeEntries inMetadata es = es.filterMap (serializeEntry inMetadata) := by
  induction es with
  | nil => rfl
  | cons e es ih =>
    obtain ⟨k, v⟩ := e
    cases v with
    | dict ds =>
      rw [serializeEntries, List.filterMap_cons, serializeEntry]
      dsimp only
      split_ifs <;> simp only [ih, serializeForHashing]
    | _ =>
      rw [serializeEntries, List.filterMap_cons, serializeEntry]
      · dsimp only
        split_ifs <;> simp only [ih]
      · simp

/-- An entry that is left out does not matter, wherever it is put. -/
theorem serializeEntries_set_of_dropped {inMetadata : Bool} {k : String} (h : isDropped inMetadata k = true)
    (es : Message) (v : Value) : serializeEntries inMetadata (Dict.set es k v) = serializeEntries inMetadata es := by
  have hnone (w : Value) : serializeEntry inMetadata (k, w) = none := by rw [serializeEntry, if_pos h]
  rw [serializeEntries_eq_filterMap, serializeEntries_eq_filterMap]
  induction es with
  | nil =>
    rw [Dict.set, List.filterMap_cons, hnone]
  | cons e es ih =>
    obtain ⟨j, w⟩ := e
    rw [Dict.set]
    split_ifs with hjk
    · rw [List.filterMap_cons, List.filterMap_cons, hnone, hjk, hnone]
    · rw [List.filterMap_cons, List.filterMap_cons, ih]

/-- An entry may be replaced by one that is serialised alike. -/
theorem serializeEntries_set_of_same {inMetadata : Bool} {es : Message} {k : String} {v w : Value}
    (hk : Dict.get? es k = some v) (h : serializeEntry inMetadata (k, v) = serializeEntry inMetadata (k, w)) :
    serializeEntries inMetadata (Dict.set es k w) = serializeEntries inMetadata es := by
  rw [serializeEntries_eq_filterMap, serializeEntries_eq_filterMap]
  induction es with
  | nil => cases hk
  | cons e es ih =>
    obtain ⟨j, u⟩ := e
    rw [Dict.get?_cons] at hk
    rw [Dict.set]
    split_ifs at hk ⊢ with hjk
    · cases hk
      rw [List.filterMap_cons, List.filterMap_cons, hjk, h]
    · rw [List.filterMap_cons, List.filterMap_cons, ih hk]

/-! ### Sizes -/

section Sizes

variable (py : Runtime)

/-- The characters of the entries of a dictionary, each with its separator. -/
def weight (es : Message) : ℕ := (es.map fun e => Json.entrySize py e + 2).sum

theorem weight_append (es fs : Message) : weight py (es ++ fs) = weight py es + weight py fs := by
  rw [weight, List.map_append, List.sum_append]
  rfl

theorem weight_cons (e : String × Value) (es : Message) :
    weight py (e :: es) = Json.entrySize py e + 2 + weight py es := by
  rw [weight, List.map_cons, List.sum_cons]
  rfl

theorem entrySize_pos (e : String × Value) : 0 < Json.entrySize py e := by
  unfold Json.entrySize
  omega

/-- The text of a dictionary is as long as its entries, in whatever order. -/
theorem size_sortedItems (es : Message) :
    Json.size py (.dict (sortedItems es)) = if es = [] then 2 else weight py es := by
  have hperm : (sortedItems es).Perm es := List.perm_insertionSort _ es
  have hweight : weight py (sortedItems es) = weight py es := (hperm.map _).sum_eq
  cases hsorted : sortedItems es with
  | nil =>
    rw [hsorted] at hperm
    rw [if_pos hperm.nil_eq.symm]
    rfl
  | cons e rest =>
    have hne : es ≠ [] := by
      rintro rfl
      cases hsorted
    rw [if_neg hne, ← hweight, hsorted, Json.size_dict_cons, weight_cons, weight]
    omega

/-- More entries are a longer text. -/
theorem size_sortedItems_lt {es fs : Message} (h : weight py es < weight py fs) :
    Json.size py (.dict (sortedItems es)) < Json.size py (.dict (sortedItems fs)) := by
  have hne : fs ≠ [] := by
    rintro rfl
    exact absurd h (by rw [weight]; exact Nat.not_lt_zero _)
  rw [size_sortedItems, size_sortedItems, if_neg hne]
  split_ifs
  · obtain ⟨f, rest, rfl⟩ := List.exists_cons_of_ne_nil hne
    have hf := entrySize_pos py f
    rw [weight_cons]
    omega
  · exact h

theorem hashedText_length (m : Message) :
    (hashedText py m).length = Json.size py (.dict (sortedItems (serializeEntries false m))) := rfl

end Sizes

end Fmofp.LoopPrevention

/-! The category that `_best_category_match` chooses depends on which names there are, and not on the order in which
the set is gone through. -/

namespace Fmofp.LoopPrevention

open Python

/-- What the loop compares of two categories: the length, and the alphabet from its end. -/
def rank (category : String) : ℕ ×ₗ Stringᵒᵈ := toLex (category.length, OrderDual.toDual category)

theorem rank_injective : Function.Injective rank := by
  intro a b h
  exact congrArg (fun r => OrderDual.ofDual (ofLex r).2) h

theorem rank_lt_iff {a b : String} : rank a < rank b ↔ a.length < b.length ∨ a.length = b.length ∧ b < a :=
  Prod.Lex.toLex_lt_toLex

theorem rank_le_iff {a b : String} : rank a ≤ rank b ↔ a.length < b.length ∨ a.length = b.length ∧ b ≤ a :=
  Prod.Lex.toLex_le_toLex

/-- A category that occurs replaces the best one so far exactly if it ranks higher. -/
theorem bestCategoryMatch_eq_argmax (categories : List String) (haystack : String) :
    bestCategoryMatch categories haystack = (categories.filter (contains haystack)).argmax rank := by
  unfold bestCategoryMatch List.argmax
  generalize (none : Option String) = best
  induction categories generalizing best with
  | nil => rfl
  | cons category rest ih =>
    rw [List.foldl_cons, ih]
    cases hoccurs : contains haystack category with
    | false =>
      rw [List.filter_cons_of_neg (by rw [hoccurs]; decide)]
      rfl
    | true =>
      rw [List.filter_cons_of_pos hoccurs, List.foldl_cons]
      cases best with
      | none => rfl
      | some b =>
        have hranks : (b.length < category.length || (category.length == b.length && decide (category < b))) =
            decide (rank b < rank category) := by
          rw [Bool.eq_iff_iff, decide_eq_true_eq, rank_lt_iff]
          simp only [Bool.or_eq_true, Bool.and_eq_true, decide_eq_true_eq, beq_iff_eq]
          rw [eq_comm (a := category.length)]
        simp only [if_true, hranks, List.argAux, decide_eq_true_eq]

/-- The longest category that occurs, and of those the first one in the alphabet. -/
def IsBestMatch (categories : Finset String) (haystack best : String) : Prop :=
  best ∈ categories ∧ contains haystack best = true ∧
    ∀ category ∈ categories, contains haystack category = true →
      category.length < best.length ∨ category.length = best.length ∧ best ≤ category

theorem bestCategoryMatch_eq_some_iff {categories : List String} {haystack best : String} :
    bestCategoryMatch categories haystack = some best ↔ IsBestMatch categories.toFinset haystack best := by
  rw [bestCategoryMatch_eq_argmax, List.argmax_eq_some_iff, IsBestMatch, List.mem_toFinset]
  constructor
  · rintro ⟨hmem, hbest, -⟩
    obtain ⟨hcategory, hoccurs⟩ := List.mem_filter.mp hmem
    refine ⟨hcategory, hoccurs, fun category hcategory' hoccurs' => rank_le_iff.mp ?_⟩
    exact hbest category (List.mem_filter.mpr ⟨List.mem_toFinset.mp hcategory', hoccurs'⟩)
  · rintro ⟨hcategory, hoccurs, hbest⟩
    have hle : ∀ category ∈ categories.filter (contains haystack), rank category ≤ rank best := by
      intro category hmem
      obtain ⟨hcategory', hoccurs'⟩ := List.mem_filter.mp hmem
      exact rank_le_iff.mpr (hbest category (List.mem_toFinset.mpr hcategory') hoccurs')
    refine ⟨List.mem_filter.mpr ⟨hcategory, hoccurs⟩, hle, fun category hmem hrank => ?_⟩
    rw [rank_injective (le_antisymm hrank (hle category hmem))]

theorem bestCategoryMatch_eq_none_iff {categories : List String} {haystack : String} :
    bestCategoryMatch categories haystack = none ↔
      ∀ category ∈ categories.toFinset, contains haystack category = false := by
  rw [bestCategoryMatch_eq_argmax, List.argmax_eq_none, List.filter_eq_nil_iff]
  simp only [List.mem_toFinset, Bool.not_eq_true]

/-- Every order of the set gives the longest category that occurs, the first one in the alphabet of those, and
nothing exactly if none occurs. -/
theorem bestCategoryMatch_order_free (categories : Finset String) (haystack : String) (order : List String)
    (horder : order.toFinset = categories) :
    (∀ best, bestCategoryMatch order haystack = some best ↔ IsBestMatch categories haystack best) ∧
      (bestCategoryMatch order haystack = none ↔
        ∀ category ∈ categories, contains haystack category = false) ∧
      ∀ order', order'.toFinset = categories →
        bestCategoryMatch order' haystack = bestCategoryMatch order haystack := by
  subst horder
  refine ⟨fun best => bestCategoryMatch_eq_some_iff, bestCategoryMatch_eq_none_iff, fun order' hsame => ?_⟩
  have hmatches : ∀ best, bestCategoryMatch order' haystack = some best ↔
      bestCategoryMatch order haystack = some best := by
    intro best
    rw [bestCategoryMatch_eq_some_iff, bestCategoryMatch_eq_some_iff, hsame]
  exact Option.ext hmatches

theorem statusCategories_order_free :
    bestCategoryMatch ["fcs_status", "status"] "fcs_statusresponse" =
      bestCategoryMatch ["status", "fcs_status"] "fcs_statusresponse" :=
  (bestCategoryMatch_order_free {"status", "fcs_status"} "fcs_statusresponse"
    ["status", "fcs_status"] (by decide)).2.2 ["fcs_status", "status"] (by decide)

end Fmofp.LoopPrevention
