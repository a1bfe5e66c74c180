import Fmofp.LoopPrevention.Registry

/-! What a lookup in a category answers after the category was cleared.  Nothing puts an id back into the category
but marking it there; once a cleanup has taken the empty category away, the lookup goes to the general map. -/

namespace Fmofp.LoopPrevention

open Python

namespace MessageRegistry

/-- Calls, with what they read of the clock; no category is the empty one. -/
inductive Operation where
  | markProcessed (messageId category : String) (now : ℚ)
  | isProcessed (messageId category : String) (now expiredAt : ℚ)
  | clear (category : String)

namespace Operation

def readings : Operation → List ℚ
  | markProcessed _ _ now => [now]
  | isProcessed _ _ now expiredAt => [now, expiredAt]
  | clear _ => []

end Operation

def step (r : MessageRegistry) : Operation → MessageRegistry
  | .markProcessed messageId category now => r.markProcessed now messageId category
  | .isProcessed _ _ now expiredAt => r.cleanupIfNeeded now expiredAt
  | .clear category => r.clear category

def run (r : MessageRegistry) (operations : List Operation) : MessageRegistry := operations.foldl step r

/-- A registry of any size and expiration time. -/
def initial (maxCacheSize : ℕ) (expirationTime now : ℚ) : MessageRegistry :=
  { start now with maxCacheSize := maxCacheSize, expirationTime := expirationTime }

/-- The whole answer of `is_processed`. -/
def lookUp (r : MessageRegistry) (messageId category : String) (now expiredAt : ℚ) : Bool :=
  (r.cleanupIfNeeded now expiredAt).isProcessed messageId category

/-- The id is not in the category. -/
def Absent (r : MessageRegistry) (messageId category : String) : Prop :=
  ∀ entries, (category, entries) ∈ r.messageCategories → ∀ at_, (messageId, at_) ∉ entries

/-- The category is there and a cleanup that is due leaves it there, or the general map has no such id or loses
it in this cleanup. -/
def Settled (r : MessageRegistry) (messageId category : String) (now expiredAt : ℚ) : Prop :=
  (category ≠ "" ∧ ∃ entries, (category, entries) ∈ r.messageCategories ∧
      (r.cleanupInterval < now - r.lastCleanup → ∃ e ∈ entries, expiredAt - r.expirationTime < e.2)) ∨
    ∀ at_, (messageId, at_) ∈ r.processedMessages →
      r.cleanupInterval < now - r.lastCleanup ∧ at_ ≤ expiredAt - r.expirationTime

/-! ### The category -/

section Category

variable {r : MessageRegistry} {messageId category : String}

/-- The names of the categories stay distinct. -/
theorem nodup_step (h : (r.messageCategories.map Prod.fst).Nodup) (operation : Operation) :
    ((r.step operation).messageCategories.map Prod.fst).Nodup := by
  have hkeys (d : Dict String (Dict String ℚ)) (f : Dict String ℚ → Dict String ℚ) :
      (d.map fun e => (e.1, f e.2)).map Prod.fst = d.map Prod.fst := by
    rw [List.map_map]
    rfl
  cases operation with
  | markProcessed id name now =>
    show ((List.map _ _).map Prod.fst).Nodup
    rw [hkeys]
    dsimp only
    split_ifs with hempty
    · exact h
    · exact Dict.nodup_keys_set h _ _
  | isProcessed id name now expiredAt =>
    show ((r.cleanupIfNeeded now expiredAt).messageCategories.map Prod.fst).Nodup
    unfold cleanupIfNeeded
    split_ifs with hdue
    · refine List.Nodup.sublist (List.filter_sublist.map Prod.fst) ?_
      rw [hkeys]
      exact h
    · exact h
  | clear name =>
    show ((r.clear name).messageCategories.map Prod.fst).Nodup
    unfold clear
    split_ifs with hhas
    · exact Dict.nodup_keys_set h _ _
    · exact List.nodup_nil

theorem nodup_run (h : (r.messageCategories.map Prod.fst).Nodup) (operations : List Operation) :
    ((r.run operations).messageCategories.map Prod.fst).Nodup := by
  induction operations generalizing r with
  | nil => exact h
  | cons operation operations ih => exact ih (nodup_step h operation)

theorem absent_clear (h : (r.messageCategories.map Prod.fst).Nodup) :
    (r.clear category).Absent messageId category := by
  unfold clear
  split_ifs with hhas
  · intro entries hmem at_ hat
    have hget := Dict.get?_of_mem (Dict.nodup_keys_set h _ _) hmem
    rw [Dict.get?_set_self] at hget
    cases hget
    exact List.not_mem_nil hat
  · intro entries hmem
    exact absurd hmem List.not_mem_nil

/-- Only marking the id in the category puts it there. -/
theorem absent_step (h : r.Absent messageId category) (operation : Operation)
    (hother : ∀ now, operation ≠ .markProcessed messageId category now) :
    (r.step operation).Absent messageId category := by
  intro entries hmem at_ hat
  cases operation with
  | markProcessed id name now =>
    rcases mem_of_mem_markProcessed hmem hat with ⟨rfl, rfl⟩ | ⟨old, hold, hat'⟩
    · exact hother now rfl
    · exact h old hold at_ hat'
  | isProcessed id name now expiredAt =>
    change (category, entries) ∈ (r.cleanupIfNeeded now expiredAt).messageCategories at hmem
    unfold cleanupIfNeeded at hmem
    split_ifs at hmem with hdue
    · obtain ⟨⟨name', old⟩, hold, heq⟩ := List.mem_map.mp (List.mem_filter.mp hmem).1
      obtain ⟨rfl, rfl⟩ := Prod.mk.inj heq
      exact h old hold at_ (List.mem_filter.mp hat).1
    · exact h entries hmem at_ hat
  | clear name =>
    change (category, entries) ∈ (r.clear name).messageCategories at hmem
    unfold clear at hmem
    split_ifs at hmem with hhas
    · rcases Dict.mem_set hmem with heq | hold
      · cases heq
        exact List.not_mem_nil hat
      · exact h entries hold at_ hat
    · exact List.not_mem_nil hmem

theorem absent_run (h : r.Absent messageId category) {operations : List Operation}
    (hother : ∀ now, .markProcessed messageId category now ∉ operations) :
    (r.run operations).Absent messageId category := by
  induction operations generalizing r with
  | nil => exact h
  | cons operation operations ih =>
    refine ih (absent_step h _ fun now heq => hother now (heq ▸ List.mem_cons_self)) fun now hmem => ?_
    exact hother now (List.mem_cons_of_mem _ hmem)

end Category

/-! ### Lookups -/

section Lookups

variable {r : MessageRegistry} {messageId category : String}

theorem has_iff_mem {κ α : Type} [DecidableEq κ] {d : Dict κ α} {k : κ} :
    Dict.has d k = true ↔ ∃ v, (k, v) ∈ d := by
  constructor
  · intro h
    obtain ⟨v, hv⟩ := Dict.has_iff.mp h
    exact ⟨v, Dict.mem_of_get?_eq_some hv⟩
  · rintro ⟨v, hv⟩
    exact Dict.has_of_mem hv

/-- An id that is not in the category is found in the general map only. -/
theorem isProcessed_of_absent (h : r.Absent messageId category) :
    r.isProcessed messageId category = false ↔
      (category ≠ "" ∧ Dict.has r.messageCategories category = true) ∨ Dict.has r.processedMessages messageId = false := by
  unfold isProcessed
  by_cases hempty : category = ""
  · rw [Option.filter_eq_none_iff.mpr fun _ _ => by rw [decide_eq_true_eq, not_not]; exact hempty]
    exact ⟨.inr, fun hor => hor.elim (fun hand => absurd hempty hand.1) id⟩
  · cases hget : Dict.get? r.messageCategories category with
    | none =>
      have hhas : Dict.has r.messageCategories category = false := Dict.has_eq_false.mpr hget
      rw [hhas]
      exact ⟨.inr, fun hor => hor.elim (fun hand => absurd hand.2 Bool.false_ne_true) id⟩
    | some entries =>
      have hmem := Dict.mem_of_get?_eq_some hget
      have hnot : Dict.has entries messageId = false := by
        by_contra hhas
        obtain ⟨at_, hat⟩ := has_iff_mem.mp (Bool.eq_true_of_not_eq_false hhas)
        exact h entries hmem at_ hat
      rw [Option.filter_some, if_pos (decide_eq_true hempty)]
      exact ⟨fun _ => .inl ⟨hempty, Dict.has_of_mem hmem⟩, fun _ => hnot⟩

/-- A category that is not empty after the cleanup keeps its key. -/
theorem has_category_cleanupIfNeeded {now expiredAt : ℚ} :
    Dict.has (r.cleanupIfNeeded now expiredAt).messageCategories category = true ↔
      ∃ entries, (category, entries) ∈ r.messageCategories ∧
        (r.cleanupInterval < now - r.lastCleanup → ∃ e ∈ entries, expiredAt - r.expirationTime < e.2) := by
  rw [has_iff_mem]
  unfold cleanupIfNeeded
  split_ifs with hdue
  · constructor
    · rintro ⟨entries, hmem⟩
      obtain ⟨hmap, hnonempty⟩ := List.mem_filter.mp hmem
      obtain ⟨⟨name, old⟩, hold, heq⟩ := List.mem_map.mp hmap
      obtain ⟨rfl, rfl⟩ := Prod.mk.inj heq
      refine ⟨old, hold, fun _ => ?_⟩
      rw [Bool.not_eq_true'] at hnonempty
      obtain ⟨e, he⟩ := List.isEmpty_eq_false_iff_exists_mem.mp hnonempty
      exact ⟨e, (List.mem_filter.mp he).1, of_decide_eq_true (List.mem_filter.mp he).2⟩
    · rintro ⟨old, hold, hfresh⟩
      obtain ⟨e, he, hlt⟩ := hfresh hdue
      refine ⟨_, List.mem_filter.mpr ⟨List.mem_map.mpr ⟨(category, old), hold, rfl⟩, ?_⟩⟩
      rw [Bool.not_eq_true', List.isEmpty_eq_false_iff_exists_mem]
      exact ⟨e, List.mem_filter.mpr ⟨he, decide_eq_true hlt⟩⟩
  · exact ⟨fun ⟨entries, hmem⟩ => ⟨entries, hmem, fun h => absurd h hdue⟩, fun ⟨entries, hmem, _⟩ => ⟨entries, hmem⟩⟩

/-- An id that is old at the cleanup leaves the general map. -/
theorem has_processed_cleanupIfNeeded {now expiredAt : ℚ} :
    Dict.has (r.cleanupIfNeeded now expiredAt).processedMessages messageId = false ↔
      ∀ at_, (messageId, at_) ∈ r.processedMessages →
        r.cleanupInterval < now - r.lastCleanup ∧ at_ ≤ expiredAt - r.expirationTime := by
  rw [← Bool.not_eq_true, has_iff_mem, not_exists]
  unfold cleanupIfNeeded
  split_ifs with hdue
  · refine forall_congr' fun at_ => ?_
    show ¬(messageId, at_) ∈ List.filter _ _ ↔ _
    rw [List.mem_filter, not_and, decide_eq_true_eq, not_lt]
    exact ⟨fun h hmem => ⟨hdue, h hmem⟩, fun h hmem => (h hmem).2⟩
  · exact forall_congr' fun at_ => ⟨fun h hmem => absurd hmem h, fun h hmem => hdue (h hmem).1⟩

theorem lookUp_of_absent (h : r.Absent messageId category) (now expiredAt : ℚ) :
    r.lookUp messageId category now expiredAt = false ↔ r.Settled messageId category now expiredAt := by
  have hafter : (r.cleanupIfNeeded now expiredAt).Absent messageId category :=
    absent_step h (.isProcessed messageId category now expiredAt) nofun
  rw [lookUp, isProcessed_of_absent hafter, has_category_cleanupIfNeeded, has_processed_cleanupIfNeeded]
  rfl

end Lookups

/-- After a category was cleared, a lookup of an id that was not marked there since finds nothing if and only if
the category is still there or the general map does not have the id. -/
theorem lookUp_after_clear_iff (maxCacheSize : ℕ) (expirationTime startedAt : ℚ) (before during : List Operation)
    (messageId category : String) (hother : ∀ now, .markProcessed messageId category now ∉ during) (now expiredAt : ℚ) :
    (((initial maxCacheSize expirationTime startedAt).run (before ++ .clear category :: during)).lookUp messageId
        category now expiredAt = false) ↔
      ((initial maxCacheSize expirationTime startedAt).run (before ++ .clear category :: during)).Settled messageId
        category now expiredAt := by
  have hnodup : (((initial maxCacheSize expirationTime startedAt).run before).messageCategories.map Prod.fst).Nodup := by
    apply nodup_run
    exact List.nodup_nil
  apply lookUp_of_absent
  rw [run, List.foldl_append, List.foldl_cons]
  exact absent_run (absent_clear hnodup) hother

theorem lookUp_after_clear :
    ((initial 10000 3600 0).run ([.markProcessed "m" "c" 0] ++ .clear "c" :: [])).lookUp "m" "c" 1 1 = false := by
  apply (lookUp_after_clear_iff 10000 3600 0 [.markProcessed "m" "c" 0] [] "m" "c" (fun _ => List.not_mem_nil) 1 1).mpr
  refine .inl ⟨by decide, [], by decide +kernel, fun hdue => absurd hdue ?_⟩
  decide +kernel

/-- The cleanup after five minutes takes the empty category away, and the id is found in the general map. -/
theorem found_after_clear :
    ¬∀ (maxCacheSize : ℕ) (expirationTime startedAt : ℚ) (before during : List Operation) (messageId category : String)
      (now expiredAt : ℚ),
      (startedAt :: (before ++ .clear category :: during).flatMap Operation.readings ++ [now, expiredAt]).Pairwise
          (· ≤ ·) →
        (∀ at_, .markProcessed messageId category at_ ∉ during) →
          ((initial maxCacheSize expirationTime startedAt).run (before ++ .clear category :: during)).lookUp messageId
            category now expiredAt = false := by
  intro h
  have hnot := h 10000 3600 0 [.markProcessed "m" "c" 0] [] "m" "c" 301 301 (by decide +kernel) fun _ => List.not_mem_nil
  have hfound : ((initial 10000 3600 0).run ([.markProcessed "m" "c" 0] ++ .clear "c" :: [])).lookUp "m" "c" 301 301 =
      true := by decide +kernel
  rw [hfound] at hnot
  cases hnot

end MessageRegistry

end Fmofp.LoopPrevention
