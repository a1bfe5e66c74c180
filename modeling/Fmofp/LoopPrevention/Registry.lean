import Fmofp.Python.Dict

/-! `MessageRegistry`: the composite ids of the messages that were processed, in all and by
category. -/

namespace Fmofp.LoopPrevention

open Python

structure MessageRegistry where
  processedMessages : Dict String ℚ
  messageCategories : Dict String (Dict String ℚ)
  maxCacheSize : ℕ
  expirationTime : ℚ
  lastCleanup : ℚ
  cleanupInterval : ℚ

namespace MessageRegistry

/-- `__init__`, with the clock at `now`. -/
def start (now : ℚ) : MessageRegistry where
  processedMessages := []
  messageCategories := []
  maxCacheSize := 10000
  expirationTime := 3600
  lastCleanup := now
  cleanupInterval := 300

/-- `_cleanup_expired`: categories that become empty go. -/
def cleanupExpired (r : MessageRegistry) (now : ℚ) : MessageRegistry :=
  let fresh (entries : Dict String ℚ) := entries.filter fun e => decide (now - r.expirationTime < e.2)
  { r with
    processedMessages := fresh r.processedMessages
    messageCategories := (r.messageCategories.map fun e => (e.1, fresh e.2)).filter
      fun e => !e.2.isEmpty }

/-- `_cleanup_if_needed`, which reads the clock twice. -/
def cleanupIfNeeded (r : MessageRegistry) (now expiredAt : ℚ) : MessageRegistry :=
  if r.cleanupInterval < now - r.lastCleanup then
    { r.cleanupExpired expiredAt with lastCleanup := now }
  else r

/-- `is_processed`, after its cleanup. -/
def isProcessed (r : MessageRegistry) (messageId category : String) : Bool :=
  match (Dict.get? r.messageCategories category).filter fun _ => decide (category ≠ "") with
  | some entries => Dict.has entries messageId
  | none => Dict.has r.processedMessages messageId

/-- A number to 53 binary digits, with halves to the even one: what it becomes as a float. -/
def toDouble (n : ℕ) : ℕ :=
  let unit := 2 ^ (n.log2 - 52)
  let down := n / unit
  let rest := 2 * (n % unit)
  (if rest < unit then down else if unit < rest then down + 1 else down + down % 2) * unit

/-- `int(max_cache_size * 0.8)`, with the float nearest to 0.8; the product is a float again. -/
def keepCount (maxCacheSize : ℕ) : ℕ := toDouble (toDouble maxCacheSize * 0x1999999999999A) / 2 ^ 53

/-- `sorted_items[-keep_count:]`, which are all items if none is to be kept. -/
def lastItems (items : Dict String ℚ) (count : ℕ) : Dict String ℚ :=
  if count = 0 then items else items.drop (items.length - count)

/-- `_prune_registry`: the newest four fifths of the maximum. -/
def pruneRegistry (r : MessageRegistry) (entries : Dict String ℚ) : Dict String ℚ :=
  if r.maxCacheSize < entries.length then
    lastItems (entries.mergeSort fun a b => decide (a.2 ≤ b.2)) (keepCount r.maxCacheSize)
  else entries

/-- `_prune_if_needed`. -/
def pruneIfNeeded (r : MessageRegistry) : MessageRegistry :=
  { r with
    processedMessages := r.pruneRegistry r.processedMessages
    messageCategories := r.messageCategories.map fun e => (e.1, r.pruneRegistry e.2) }

/-- `mark_processed`. -/
def markProcessed (r : MessageRegistry) (now : ℚ) (messageId category : String) : MessageRegistry :=
  pruneIfNeeded
    { r with
      processedMessages := Dict.set r.processedMessages messageId now
      messageCategories :=
        if category = "" then r.messageCategories
        else Dict.set r.messageCategories category
          (Dict.set ((Dict.get? r.messageCategories category).getD []) messageId now) }

/-- `clear`. -/
def clear (r : MessageRegistry) (category : String) : MessageRegistry :=
  if category ≠ "" ∧ Dict.has r.messageCategories category = true then
    { r with messageCategories := Dict.set r.messageCategories category [] }
  else { r with processedMessages := [], messageCategories := [] }

/-- The registry keeps the id somewhere. -/
def Keeps (r : MessageRegistry) (messageId : String) : Prop :=
  (∃ at_, (messageId, at_) ∈ r.processedMessages) ∨
    ∃ e ∈ r.messageCategories, ∃ at_, (messageId, at_) ∈ e.2

theorem keeps_of_isProcessed {r : MessageRegistry} {messageId category : String}
    (h : r.isProcessed messageId category = true) : r.Keeps messageId := by
  unfold isProcessed at h
  split at h
  · rename_i entries hentries
    obtain ⟨at_, hat⟩ := Dict.has_iff.mp h
    have hget := (Option.filter_eq_some_iff.mp hentries).1
    exact .inr ⟨_, Dict.mem_of_get?_eq_some hget, at_, Dict.mem_of_get?_eq_some hat⟩
  · obtain ⟨at_, hat⟩ := Dict.has_iff.mp h
    exact .inl ⟨at_, Dict.mem_of_get?_eq_some hat⟩

theorem keeps_of_cleanupIfNeeded {r : MessageRegistry} {now expiredAt : ℚ} {messageId : String}
    (h : (r.cleanupIfNeeded now expiredAt).Keeps messageId) : r.Keeps messageId := by
  unfold cleanupIfNeeded at h
  split at h
  · rcases h with ⟨at_, hat⟩ | ⟨e, he, at_, hat⟩
    · exact .inl ⟨at_, (List.mem_filter.mp hat).1⟩
    · obtain ⟨e', he', rfl⟩ := List.mem_map.mp (List.mem_filter.mp he).1
      exact .inr ⟨e', he', at_, (List.mem_filter.mp hat).1⟩
  · exact h

theorem mem_of_mem_pruneRegistry {r : MessageRegistry} {entries : Dict String ℚ} {e : String × ℚ}
    (h : e ∈ r.pruneRegistry entries) : e ∈ entries := by
  unfold pruneRegistry lastItems at h
  split_ifs at h
  · exact List.mem_mergeSort.mp h
  · exact List.mem_mergeSort.mp (List.mem_of_mem_drop h)
  · exact h

/-- Marking a message adds its own id to its own category. -/
theorem mem_of_mem_markProcessed {r : MessageRegistry} {now : ℚ} {messageId category id name : String}
    {entries : Dict String ℚ} {at_ : ℚ}
    (hentries : (name, entries) ∈ (r.markProcessed now messageId category).messageCategories)
    (hat : (id, at_) ∈ entries) :
    id = messageId ∧ name = category ∨ ∃ old, (name, old) ∈ r.messageCategories ∧ (id, at_) ∈ old := by
  obtain ⟨⟨name', entries'⟩, hmem, heq⟩ := List.mem_map.mp hentries
  obtain ⟨rfl, rfl⟩ := Prod.mk.inj heq
  have hentry := mem_of_mem_pruneRegistry hat
  simp only at hmem
  split_ifs at hmem with hempty
  · exact .inr ⟨entries', hmem, hentry⟩
  · rcases Dict.mem_set hmem with hnew | hold
    · obtain ⟨rfl, rfl⟩ := Prod.mk.inj hnew
      rcases Dict.mem_set hentry with hmarked | hbefore
      · exact .inl ⟨congrArg Prod.fst hmarked, rfl⟩
      · cases hget : Dict.get? r.messageCategories name' with
        | none =>
          rw [hget] at hbefore
          exact absurd hbefore List.not_mem_nil
        | some old =>
          rw [hget] at hbefore
          exact .inr ⟨old, Dict.mem_of_get?_eq_some hget, hbefore⟩
    · exact .inr ⟨entries', hold, hentry⟩

/-- Marking a message adds its own id, and pruning adds none. -/
theorem keeps_of_markProcessed {r : MessageRegistry} {now : ℚ} {messageId category id : String}
    (h : (r.markProcessed now messageId category).Keeps id) : id = messageId ∨ r.Keeps id := by
  rcases h with ⟨at_, hat⟩ | ⟨⟨name, entries⟩, he, at_, hat⟩
  · rcases Dict.mem_set (mem_of_mem_pruneRegistry hat) with hnew | hold
    · exact .inl (congrArg Prod.fst hnew)
    · exact .inr (.inl ⟨at_, hold⟩)
  · rcases mem_of_mem_markProcessed he hat with ⟨hid, -⟩ | ⟨old, hold, hat'⟩
    · exact .inl hid
    · exact .inr (.inr ⟨(name, old), hold, at_, hat'⟩)

end MessageRegistry

end Fmofp.LoopPrevention
