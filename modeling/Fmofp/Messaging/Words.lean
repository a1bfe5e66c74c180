import Fmofp.Bus.WordCodec
import Fmofp.Metadata.Framing

/-! `send1553Msg.send_message`: the command and data words become frames, which are handed to the bus
sender up to three times.  What the sender and the queue of responses do at each attempt is given. -/

namespace Fmofp.Messaging

open Python Bus Metadata

/-- `add_sync_and_parity`, which takes a word of any length. -/
def addSyncAndParity (word : String) (isCommand : Bool) : String :=
  let result := withParity ((if isCommand then commandSync else dataSync) ++ word.toList)
  if result.count '1' % 2 = 1 then String.ofList result
  else String.ofList (result.dropLast ++ [if result.dropLast.count '1' % 2 = 1 then '0' else '1'])

def isHexDigit (c : Char) : Bool := "0123456789abcdefABCDEF".toList.contains c

def hexDigit (c : Char) : ℕ :=
  if c.isDigit then c.toNat - '0'.toNat else c.toLower.toNat - 'a'.toNat + 10

/-- `int(s, 16)` of hexadecimal digits. -/
def ofHex (s : String) : ℕ := s.toList.foldl (fun acc c => 16 * acc + hexDigit c) 0

/-- The command word of a dictionary, or what was given. -/
def commandWord : Value → Value
  | .dict es => Dict.getD es "command_word" (.str "")
  | v => v

/-- The length that a command must have; a sign counts. -/
def sixteenBits (s : String) : Except Exception String :=
  if s.length = 16 then .ok s else .error .valueError

/-- `commandCheck`. -/
def commandCheck (received : Value) : Except Exception String :=
  match commandWord received with
  | .str s =>
    if isDataWord s then .ok s
    else
      let digits := if startsWith s "0x" then String.ofList (s.toList.drop 2) else s
      if digits ≠ "" ∧ digits.toList.all isHexDigit then sixteenBits (formatBin 16 (ofHex digits))
      else .error .valueError
  | v => match v.int? with
    | some n => sixteenBits (formatBin 16 n)
    | none => .error .valueError

/-- A data word as it is put on the bus: frames lose their sync and parity, and text of another length
is read as a binary numeral. -/
def normalizeWord (py : Runtime) (v : Value) : Except Exception String :=
  match v.int?, v with
  | some n, _ => .ok (formatBin 16 n)
  | none, .str s =>
    let word := if s.length = 20 then slice s 3 19 else s
    if word.length = 16 then .ok word
    else if word = "" then .error .valueError
    else (py.intBase2 word).map (formatBin 16)
  | none, _ => .error .typeError

/-- The metadata as they are encoded and sent on: a command type about precipitation is replaced. -/
def prepareMetadata (py : Runtime) (m : Message) : Message :=
  match Dict.get? m "command_type" with
  | some v =>
    if contains (py.str v) "PRECIP" then
      Dict.set (Dict.set m "precipitation_message" (.bool true)) "command_type"
        (.str "precipitation_data")
    else m
  | none => m

/-- The words of the metadata, none if they cannot be encoded. -/
def metadataWords (py : Runtime) (m : Message) : List String :=
  if Dict.has m "command_type" then (encodeMetadata py m).toOption.getD [] else []

def buildFrames (py : Runtime) (command : String) (data : List Value) (metadata : Message) :
    Except Exception (List String) := do
  let words ← ((metadataWords py metadata).map Value.str ++ data).mapM (normalizeWord py)
  return addSyncAndParity command true :: words.map (addSyncAndParity · false)

structure BusMessage where
  frames : List String
  requestId : Value
  metadata : Message
  messageType : Value

/-- What `BC_send_message` does. -/
inductive Sending where
  | accepted
  | refused
  | raised (e : Exception)
  deriving DecidableEq

/-- What the queue of responses does: it is empty, a response is taken and looked at, or taking it
fails. -/
inductive Reply where
  | absent
  | processed
  | failed (e : Exception)
  deriving DecidableEq

structure Outcome where
  sending : Sending
  reply : Reply
  deriving DecidableEq

/-- What one attempt leaves for the next one. -/
structure Request where
  command : Value
  metadata : Message

/-- An attempt: what it returns, `none` to go on, and the messages that the sender accepted. -/
def attempt (py : Runtime) (data : List Value) (requestId : Value) (outcome : Outcome)
    (r : Request) : (Except Exception (Option (List String)) × List BusMessage) × Request :=
  match commandCheck r.command with
  | .error e => ((.error e, []), r)
  | .ok command =>
    let metadata := prepareMetadata py r.metadata
    let r : Request := ⟨.str command, metadata⟩
    match buildFrames py command data metadata with
    | .error e => ((.error e, []), r)
    | .ok frames =>
      let message := ⟨frames, requestId, metadata, Dict.getD metadata "message_type" .none⟩
      match outcome.sending, outcome.reply with
      | .refused, _ => ((.ok none, []), r)
      | .raised e, _ => ((.error e, []), r)
      | .accepted, .failed e => ((.error e, [message]), r)
      | .accepted, _ => ((.ok (some frames), [message]), r)

/-- `_sendCommandComms`: the exception of the last attempt is the caller's. -/
def sendCommandComms (py : Runtime) (data : List Value) (requestId : Value) :
    List Outcome → Request → Except Exception (Option (List String)) × List BusMessage
  | [], _ => (.ok none, [])
  | outcome :: later, r =>
    match attempt py data requestId outcome r with
    | ((.ok (some frames), sent), _) => (.ok (some frames), sent)
    | ((.ok none, sent), r) =>
      ((sendCommandComms py data requestId later r).1,
        sent ++ (sendCommandComms py data requestId later r).2)
    | ((.error e, sent), r) =>
      if later = [] then (.error e, sent)
      else ((sendCommandComms py data requestId later r).1,
        sent ++ (sendCommandComms py data requestId later r).2)

def maxRetries : ℕ := 3

/-- A command in a list of its own is that command. -/
def commandOf : Value → Value
  | .list [command] => command
  | command => command

def dataItems : Value → List Value
  | .list items => items
  | v => [v]

/-- `send_message`, and the messages that the sender accepted meanwhile; no metadata are as bad as empty
ones. -/
def sendMessage (py : Runtime) (outcomes : ℕ → Outcome) (command data requestId : Value)
    (metadata : Message) : Option (List String) × List BusMessage :=
  if metadata = [] then (none, [])
  else
    match sendCommandComms py (dataItems data) requestId ((List.range maxRetries).map outcomes)
      ⟨commandOf command, metadata⟩ with
    | (.ok (some frames), sent) => (if frames = [] then none else some frames, sent)
    | (_, sent) => (none, sent)

end Fmofp.Messaging

/-! The frames of a message: which words a frame can carry, and which commands, data and metadata become
such words. -/

namespace Fmofp.Messaging

open Python Bus Metadata

/-! ### Frames -/

/-- Twenty binary digits: a sync pattern, the payload, and an odd number of ones. -/
structure IsFrame (sync payload frame : String) : Prop where
  length : frame.length = 20
  binary : isBinary frame = true
  sync : slice frame 0 3 = sync
  payload : slice frame 3 19 = payload
  parity : frame.toList.count '1' % 2 = 1

theorem withParity_odd (word : List Char) : (withParity word).count '1' % 2 = 1 := by
  unfold withParity calculateParity
  rw [List.count_append]
  split_ifs with h <;> simp <;> omega

/-- The parity is right at once, so that it is never corrected. -/
theorem addSyncAndParity_eq (word : String) (isCommand : Bool) :
    addSyncAndParity word isCommand =
      String.ofList (withParity ((if isCommand then commandSync else dataSync) ++ word.toList)) := by
  rw [addSyncAndParity, if_pos (withParity_odd _)]

theorem isDataWord_iff {s : String} : isDataWord s = true ↔ s.length = 16 ∧ isBinary s = true := by
  simp [isDataWord]

def syncOf (isCommand : Bool) : List Char := if isCommand then commandSync else dataSync

theorem syncOf_length (isCommand : Bool) : (syncOf isCommand).length = 3 := by
  cases isCommand <;> rfl

theorem addSyncAndParity_length (word : String) (isCommand : Bool) :
    (addSyncAndParity word isCommand).length = word.length + 4 := by
  have hsync := syncOf_length isCommand
  rw [syncOf] at hsync
  rw [addSyncAndParity_eq]
  simp [withParity, hsync]
  omega

theorem addSyncAndParity_sync (word : String) (isCommand : Bool) :
    slice (addSyncAndParity word isCommand) 0 3 = if isCommand then "100" else "001" := by
  rw [addSyncAndParity_eq, slice, String.toList_ofList, withParity, List.append_assoc, List.drop_zero,
    ← syncOf, List.take_left' (syncOf_length isCommand)]
  cases isCommand <;> rfl

theorem addSyncAndParity_payload {word : String} (isCommand : Bool) (h : word.length = 16) :
    slice (addSyncAndParity word isCommand) 3 19 = word := by
  have hchars : word.toList.length = 16 := by rw [String.length_toList, h]
  rw [addSyncAndParity_eq, slice, String.toList_ofList, withParity, List.append_assoc, ← syncOf,
    List.drop_left' (syncOf_length isCommand), List.take_left' hchars, String.ofList_toList]

/-- Exactly the words of sixteen binary digits become frames, which carry them. -/
theorem isFrame_iff (isCommand : Bool) {payload word : String} :
    IsFrame (if isCommand then "100" else "001") payload (addSyncAndParity word isCommand) ↔
      word = payload ∧ isDataWord word = true := by
  have hbits : ∀ c ∈ syncOf isCommand, isBit c = true := by
    cases isCommand
    · simp [syncOf, dataSync, isBit]
    · simp [syncOf, commandSync, isBit]
  have hlength := addSyncAndParity_length word isCommand
  have hbinary : isBinary (addSyncAndParity word isCommand) = true ↔ isBinary word = true := by
    rw [addSyncAndParity_eq, isBinary_ofList]
    simp only [withParity, List.mem_append, List.mem_singleton, isBinary, List.all_eq_true]
    constructor
    · intro h c hc
      exact h c (.inl (.inr hc))
    · rintro h c ((hc | hc) | rfl)
      · exact hbits c hc
      · exact h c hc
      · exact isBit_calculateParity _
  constructor
  · intro h
    have hword : word.length = 16 := by
      have htwenty := h.length
      omega
    exact ⟨(addSyncAndParity_payload isCommand hword).symm.trans h.payload,
      isDataWord_iff.mpr ⟨hword, hbinary.mp h.binary⟩⟩
  · rintro ⟨rfl, hword⟩
    rw [isDataWord_iff] at hword
    refine ⟨by omega, hbinary.mpr hword.2, addSyncAndParity_sync word isCommand,
      addSyncAndParity_payload isCommand hword.1, ?_⟩
    rw [addSyncAndParity_eq, String.toList_ofList]
    exact withParity_odd _

/-! ### Commands -/

theorem formatBin_length {w : ℕ} {n : ℤ} (hw : 0 < w) (hlength : (formatBin w n).length = w) :
    isBinary (formatBin w n) = true ↔ 0 ≤ n := by
  constructor
  · intro hbinary
    exact ((formatBin_wellFormed_iff hw n).mp ⟨hlength, hbinary⟩).1
  · intro hn
    cases n with
    | ofNat n =>
      rw [formatBin, isBinary_ofList]
      exact fun c hc => isBit_of_mem_bits hc
    | negSucc n => simp at hn

theorem sixteenBits_eq_ok {s c : String} (h : sixteenBits s = .ok c) : s = c ∧ c.length = 16 := by
  unfold sixteenBits at h
  split_ifs at h with hlength
  cases h
  exact ⟨rfl, hlength⟩

/-- An accepted command is sixteen bits unless it is a negative number. -/
theorem commandCheck_spec {v : Value} {c : String} (h : commandCheck v = .ok c) :
    c.length = 16 ∧ (isBinary c = true ↔ ∀ n, (commandWord v).int? = some n → 0 ≤ n) := by
  have hnumber (n : ℤ) (hint : (commandWord v).int? = some n)
      (h : sixteenBits (formatBin 16 n) = .ok c) :
      c.length = 16 ∧ (isBinary c = true ↔ ∀ n, (commandWord v).int? = some n → 0 ≤ n) := by
    obtain ⟨rfl, hlength⟩ := sixteenBits_eq_ok h
    rw [hint, formatBin_length (by norm_num) hlength]
    exact ⟨hlength, by simp⟩
  unfold commandCheck at h
  split at h
  · rename_i s hs
    have htext : ∀ n, (commandWord v).int? = some n → 0 ≤ n := by
      rw [hs]
      intro n hn
      cases hn
    have hhex (digits : String) (h : (if digits ≠ "" ∧ digits.toList.all isHexDigit then
        sixteenBits (formatBin 16 (ofHex digits)) else .error .valueError) = .ok c) :
        c.length = 16 ∧ (isBinary c = true ↔ ∀ n, (commandWord v).int? = some n → 0 ≤ n) := by
      split_ifs at h
      obtain ⟨rfl, hlength⟩ := sixteenBits_eq_ok h
      exact ⟨hlength, iff_of_true ((formatBin_length (by norm_num) hlength).mpr (by omega)) htext⟩
    split_ifs at h with hword
    · cases h
      rw [isDataWord_iff] at hword
      exact ⟨hword.1, iff_of_true hword.2 htext⟩
    · exact hhex _ h
    · exact hhex _ h
  · split at h
    · rename_i n hint
      exact hnumber n hint h
    · cases h

theorem commandCheck_again {c : String} (h : isDataWord c = true) : commandCheck (.str c) = .ok c := by
  simp [commandCheck, commandWord, h]

/-! ### Data words -/

/-- An integer, or binary text of at most the length of a frame. -/
def IsItem (v : Value) : Prop :=
  (∃ n, v.int? = some n) ∨ ∃ s, v = .str s ∧ isBinary s = true ∧ s.length ≤ 20

/-- A number that has sixteen bits; of a frame only the data bits are taken. -/
def FitsWord (v : Value) : Prop :=
  match v.int?, v with
  | some n, _ => IsWord n
  | none, .str s => s.length = 20 ∨ ofBits s.toList < 65536
  | none, _ => False

/-- The payload is the number of the item, or the data bits of the frame that the item is. -/
def Denotes (v : Value) (payload : String) : Prop :=
  match v.int?, v with
  | some n, _ => (ofBits payload.toList : ℤ) = n
  | none, .str s =>
    if s.length = 20 then payload = slice s 3 19 else ofBits payload.toList = ofBits s.toList
  | none, _ => False

theorem formatBin_denotes {n : ℤ} (h : IsWord n) : (ofBits (formatBin 16 n).toList : ℤ) = n := by
  obtain ⟨n, rfl⟩ := Int.eq_ofNat_of_zero_le h.1
  have hn : n < 2 ^ 16 := (isWord_natCast n).mp h
  rw [formatBin_of_lt (by norm_num) hn, String.toList_ofList, ofBits_bits_of_lt hn]

theorem isDataWord_slice {s : String} (hlength : s.length = 20) (hbinary : isBinary s = true) :
    isDataWord (slice s 3 19) = true := by
  rw [isDataWord_iff, slice, isBinary_ofList, String.length_ofList, List.length_take,
    List.length_drop, String.length_toList]
  refine ⟨by omega, fun c hc => ?_⟩
  exact List.all_eq_true.mp hbinary c (List.mem_of_mem_drop (List.mem_of_mem_take hc))

theorem IsFrame.isDataWord_payload {sync payload frame : String} (h : IsFrame sync payload frame) :
    isDataWord payload = true := by
  rw [← h.payload]
  exact isDataWord_slice h.length h.binary

/-- Exactly the items that fit are taken to words, which then denote them. -/
theorem normalizeWord_spec {py : Runtime} {v : Value} {word : String} (hv : IsItem v)
    (h : normalizeWord py v = .ok word) :
    (isDataWord word = true ↔ FitsWord v) ∧ (isDataWord word = true → Denotes v word) := by
  unfold normalizeWord at h
  rcases hv with ⟨n, hint⟩ | ⟨s, rfl, hbinary, hlength⟩
  · rw [hint] at h
    cases h
    simp only [FitsWord, Denotes, hint, isDataWord_formatBin]
    exact ⟨trivial, formatBin_denotes⟩
  · simp only [Value.int?] at h
    simp only [FitsWord, Denotes, Value.int?]
    by_cases htwenty : s.length = 20
    · have hword := isDataWord_slice htwenty hbinary
      simp only [htwenty, if_true, (isDataWord_iff.mp hword).1] at h
      cases h
      simp [htwenty, hword]
    · simp only [htwenty, if_false, false_or] at h ⊢
      split_ifs at h with hsixteen hempty
      · have hlt : ofBits s.toList < 65536 := by
          have hbits := ofBits_lt s.toList
          rwa [String.length_toList, hsixteen] at hbits
        cases h
        simp [isDataWord_iff, hsixteen, hbinary, hlt]
      · rw [py.intBase2_of_isBinary hbinary hempty] at h
        cases h
        rw [isDataWord_formatBin, isWord_natCast]
        refine ⟨Iff.rfl, fun hfits => ?_⟩
        exact_mod_cast formatBin_denotes ((isWord_natCast _).mpr hfits)

theorem normalizeWord_dataWord {py : Runtime} {s : String} (h : isDataWord s = true) :
    normalizeWord py (.str s) = .ok s := by
  rw [isDataWord_iff] at h
  simp [normalizeWord, Value.int?, h.1]

/-- Lists that are related item by item have it alike all through. -/
theorem forall_mem_iff_of_forall₂ {α β : Type} {R : α → β → Prop} {P : β → Prop} {Q : α → Prop}
    (hR : ∀ a b, R a b → (P b ↔ Q a)) {xs : List α} {ys : List β} (h : List.Forall₂ R xs ys) :
    (∀ b ∈ ys, P b) ↔ ∀ a ∈ xs, Q a := by
  induction h with
  | nil => simp
  | cons hhead _ ih => rw [List.forall_mem_cons, List.forall_mem_cons, hR _ _ hhead, ih]

theorem forall₂_of_mapM {α β : Type} {f : α → Except Exception β} {xs : List α} {ys : List β}
    (h : xs.mapM f = .ok ys) : List.Forall₂ (fun x y => f x = .ok y) xs ys := by
  induction xs generalizing ys with
  | nil =>
    cases h
    exact .nil
  | cons x xs ih =>
    rw [List.mapM_cons] at h
    obtain ⟨y, hy, h⟩ := bind_eq_ok h
    obtain ⟨zs, hzs, h⟩ := bind_eq_ok h
    cases h
    exact .cons hy (ih hzs)

/-- The metadata can be encoded, and only to words. -/
def EncodesToWords (py : Runtime) (m : Message) : Prop :=
  (∃ words, encodeMetadata py m = .ok words) ∧ payloadCount m ≤ 255 ∧ Encodable py m

theorem encodesToWords_iff {py : Runtime} {m : Message} {words : List String}
    (h : encodeMetadata py m = .ok words) :
    (∀ w ∈ words, isDataWord w = true) ↔ payloadCount m ≤ 255 ∧ Encodable py m := by
  obtain ⟨payload, flags, hflags, -, hfits, rfl⟩ := encoded_words h
  have hheader : header (payloadCount m) flags < 65536 ↔ payloadCount m ≤ 255 := by
    rw [header_eq hflags, show (16 ||| payloadCount m) * 256 + flags < 65536 ↔
      16 ||| payloadCount m < 2 ^ 8 by omega, or_lt_iff]
    omega
  rw [List.map_cons, List.forall_mem_cons, isDataWord_formatBin, isWord_natCast, hheader,
    List.forall_mem_map, ← hfits]
  exact and_congr_right fun _ => forall₂_congr fun w _ => isDataWord_formatBin w

end Fmofp.Messaging
