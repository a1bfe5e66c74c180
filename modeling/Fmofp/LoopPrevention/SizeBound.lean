import Fmofp.LoopPrevention.Cleared
import Fmofp.Machine.Run

/-! How many ids the registries hold.  Pruning keeps the newest ones, and the id that was just marked is the newest of
all; but with a maximum of one id it keeps none of them by the count, and all of them by the slice. -/

namespace Fmofp.LoopPrevention

open Python Machine

namespace MessageRegistry

/-- A call, as a step of a machine that answers nothing. -/
def take (r : MessageRegistry) (operation : Operation) : Unit × MessageRegistry := ((), r.step operation)

/-- The general registry and all categories hold at most the maximum. -/
def Bounded (r : MessageRegistry) : Prop :=
  r.processedMessages.length ≤ r.maxCacheSize ∧ ∀ e ∈ r.messageCategories, e.2.length ≤ r.maxCacheSize

/-- The id is in the general registry, and in the category if there is one. -/
def Present (r : MessageRegistry) (messageId category : String) : Prop :=
  Dict.has r.processedMessages messageId = true ∧
    (category ≠ "" → ∃ entries, Dict.get? r.messageCategories category = some entries ∧
      Dict.has entries messageId = true)

/-- What has to hold after a mark. -/
def MarkedRight (r : MessageRegistry) : Operation → Prop
  | .markProcessed messageId category now =>
    (r.markProcessed now messageId category).Bounded ∧
      (r.markProcessed now messageId category).Present messageId category
  | _ => True

/-- A mark finds no other id in the general registry. -/
def Alone (r : MessageRegistry) : Operation → Prop
  | .markProcessed messageId _ _ => ∀ e ∈ r.processedMessages, e.1 = messageId
  | _ => True

/-! ### The count -/

theorem toDouble_bounds (n : ℕ) : n ≤ toDouble n + n / 2 ^ 52 ∧ toDouble n ≤ n + n / 2 ^ 52 := by
  by_cases hsmall : n.log2 ≤ 52
  · rw [toDouble, Nat.sub_eq_zero_of_le hsmall]
    simp [Nat.mod_one]
  · have hn : n ≠ 0 := by
      rintro rfl
      exact hsmall (by decide)
    rw [toDouble]
    set unit := 2 ^ (n.log2 - 52)
    have hunit : unit ≤ n / 2 ^ 52 := by
      rw [Nat.le_div_iff_mul_le (by positivity), ← Nat.pow_add, Nat.sub_add_cancel (not_le.mp hsmall).le]
      exact Nat.log2_self_le hn
    have hsplit := Nat.div_add_mod' n unit
    have hrest : n % unit < unit := Nat.mod_lt _ (by positivity)
    have hup : (n / unit + 1) * unit = n / unit * unit + unit := Nat.succ_mul _ _
    have hodd : n / unit % 2 = 0 ∨ n / unit % 2 = 1 := Nat.mod_two_eq_zero_or_one _
    split_ifs
    · omega
    · omega
    · rcases hodd with hodd | hodd
      · rw [hodd, Nat.add_zero]
        omega
      · rw [hodd]
        omega

/-- Of a maximum of at least two some are kept, and no more than the maximum. -/
theorem keepCount_bounds {n : ℕ} (hn : 2 ≤ n) : 1 ≤ keepCount n ∧ keepCount n ≤ n := by
  have hfloat := toDouble_bounds n
  have hproduct := toDouble_bounds (toDouble n * 0x1999999999999A)
  rw [keepCount]
  omega

theorem keepCount_one : keepCount 1 = 0 := by decide

/-! ### Pruning -/

variable {r : MessageRegistry} {entries : Dict String ℚ} {messageId category : String} {now c : ℚ}

theorem length_pruneRegistry_le (hmax : 2 ≤ r.maxCacheSize) :
    (r.pruneRegistry entries).length ≤ r.maxCacheSize := by
  obtain ⟨hsome, hle⟩ := keepCount_bounds hmax
  rw [pruneRegistry]
  split_ifs with hlong
  · rw [lastItems, if_neg (by omega), List.length_drop]
    omega
  · exact not_lt.mp hlong

/-- With a maximum of one id pruning only sorts. -/
theorem pruneRegistry_perm (hmax : r.maxCacheSize = 1) : (r.pruneRegistry entries).Perm entries := by
  rw [pruneRegistry]
  split_ifs
  · rw [hmax, keepCount_one, lastItems, if_pos rfl]
    exact List.mergeSort_perm _ _
  · exact .refl _

/-- The newest entry stays. -/
theorem newest_mem_pruneRegistry (hmem : (messageId, now) ∈ entries)
    (hnewest : ∀ e ∈ entries, e = (messageId, now) ∨ e.2 < now) : (messageId, now) ∈ r.pruneRegistry entries := by
  rw [pruneRegistry]
  split_ifs
  · have hsorted : (entries.mergeSort fun a b => decide (a.2 ≤ b.2)).Pairwise fun a b => a.2 ≤ b.2 := by
      refine (List.pairwise_mergeSort ?_ ?_ entries).imp fun h => of_decide_eq_true h
      · intro a b d hab hbd
        exact decide_eq_true ((of_decide_eq_true hab).trans (of_decide_eq_true hbd))
      · intro a b
        simpa using le_total a.2 b.2
    have hmem' : (messageId, now) ∈ entries.mergeSort fun a b => decide (a.2 ≤ b.2) := List.mem_mergeSort.mpr hmem
    have hnewest' : ∀ e ∈ entries.mergeSort fun a b => decide (a.2 ≤ b.2), e = (messageId, now) ∨ e.2 < now :=
      fun e he => hnewest e (List.mem_mergeSort.mp he)
    generalize entries.mergeSort (fun a b => decide (a.2 ≤ b.2)) = sorted at hsorted hmem' hnewest'
    rw [lastItems]
    split_ifs with hcount
    · exact hmem'
    · rw [← List.take_append_drop (sorted.length - keepCount r.maxCacheSize) sorted] at hsorted hmem'
      rcases List.mem_append.mp hmem' with hbefore | hafter
      · -- what comes after it is not older, so it is the entry itself
        have hpos : 0 < sorted.length := List.length_pos_of_mem (List.mem_of_mem_take hbefore)
        obtain ⟨e, he⟩ : ∃ e, e ∈ sorted.drop (sorted.length - keepCount r.maxCacheSize) := by
          refine List.exists_mem_of_length_pos ?_
          rw [List.length_drop]
          omega
        have hle := (List.pairwise_append.mp hsorted).2.2 _ hbefore e he
        rcases hnewest' e (List.mem_of_mem_drop he) with rfl | holder
        · exact he
        · exact absurd hle (not_le.mpr holder)
      · exact hafter
  · exact hmem

/-! ### A mark -/

/-- No entry is later than the clock. -/
def Timed (r : MessageRegistry) (c : ℚ) : Prop :=
  (∀ e ∈ r.processedMessages, e.2 ≤ c) ∧ ∀ d ∈ r.messageCategories, ∀ e ∈ d.2, e.2 ≤ c

theorem newest_set (htimed : ∀ e ∈ entries, e.2 ≤ c) (hnow : c < now) :
    ∀ e ∈ Dict.set entries messageId now, e = (messageId, now) ∨ e.2 < now :=
  fun e he => (Dict.mem_set he).imp_right fun hold => (htimed e hold).trans_lt hnow

theorem mem_prune_set (htimed : ∀ e ∈ entries, e.2 ≤ c) (hnow : c < now) :
    (messageId, now) ∈ r.pruneRegistry (Dict.set entries messageId now) :=
  newest_mem_pruneRegistry (Dict.mem_of_get?_eq_some (Dict.get?_set_self _ _ _)) (newest_set htimed hnow)

/-- What a mark finds under a category: nothing, or the entries of the category. -/
theorem categoryEntries_cases (categories : Dict String (Dict String ℚ)) (category : String) :
    (Dict.get? categories category).getD [] = [] ∨
      (category, (Dict.get? categories category).getD []) ∈ categories := by
  cases hget : Dict.get? categories category with
  | none => exact .inl rfl
  | some old => exact .inr (Dict.mem_of_get?_eq_some hget)

theorem categoryEntries_timed (htimed : r.Timed c) :
    ∀ e ∈ (Dict.get? r.messageCategories category).getD [], e.2 ≤ c := by
  intro e he
  rcases categoryEntries_cases r.messageCategories category with hnone | hmem
  · rw [hnone] at he
    exact absurd he List.not_mem_nil
  · exact htimed.2 _ hmem e he

/-- The marked id is in the general registry with its time. -/
theorem mem_markProcessed (htimed : r.Timed c) (hnow : c < now) :
    (messageId, now) ∈ (r.markProcessed now messageId category).processedMessages := mem_prune_set htimed.1 hnow

theorem present_markProcessed (htimed : r.Timed c) (hnow : c < now) :
    (r.markProcessed now messageId category).Present messageId category := by
  refine ⟨Dict.has_of_mem (mem_markProcessed htimed hnow), fun hcategory => ?_⟩
  have hcategories : (r.markProcessed now messageId category).messageCategories =
      (Dict.set r.messageCategories category
        (Dict.set ((Dict.get? r.messageCategories category).getD []) messageId now)).map
          fun e => (e.1, r.pruneRegistry e.2) := by
    show List.map _ (if category = "" then _ else _) = _
    rw [if_neg hcategory]
    rfl
  rw [hcategories, Dict.get?_map_value, Dict.get?_set_self]
  exact ⟨_, rfl, Dict.has_of_mem (mem_prune_set (categoryEntries_timed htimed) hnow)⟩

theorem bounded_markProcessed (hmax : 2 ≤ r.maxCacheSize) : (r.markProcessed now messageId category).Bounded := by
  refine ⟨length_pruneRegistry_le hmax, fun e he => ?_⟩
  obtain ⟨d, -, rfl⟩ := List.mem_map.mp he
  exact length_pruneRegistry_le hmax

/-! ### A step -/

/-- The entries of a category after a mark are its old ones and the new one. -/
theorem mem_categories_markProcessed {d : String × Dict String ℚ}
    (hd : d ∈ (r.markProcessed now messageId category).messageCategories) :
    ∃ entries, d.2 = r.pruneRegistry entries ∧ ((d.1, entries) ∈ r.messageCategories ∨
      entries = Dict.set ((Dict.get? r.messageCategories category).getD []) messageId now) := by
  obtain ⟨⟨name, entries⟩, hmem, rfl⟩ := List.mem_map.mp hd
  refine ⟨entries, rfl, ?_⟩
  dsimp only at hmem
  split_ifs at hmem
  · exact .inl hmem
  · exact (Dict.mem_set hmem).symm.imp_right fun heq => (Prod.mk.inj heq).2

/-- The clock after a call, as far as it goes into the registries. -/
def Operation.clock (c : ℚ) : Operation → ℚ
  | markProcessed _ _ now => now
  | isProcessed _ _ _ _ | clear _ => c

theorem timed_step (htimed : r.Timed c) (operation : Operation) (hlater : ∀ t ∈ operation.readings, c < t) :
    (r.step operation).Timed (operation.clock c) := by
  cases operation with
  | markProcessed messageId category now =>
    have hnow : c < now := hlater now List.mem_cons_self
    have hset {entries : Dict String ℚ} (hentries : ∀ e ∈ entries, e.2 ≤ c) :
        ∀ e ∈ Dict.set entries messageId now, e.2 ≤ now := by
      intro e he
      rcases newest_set hentries hnow e he with rfl | holder
      · exact le_refl _
      · exact holder.le
    refine ⟨fun e he => hset htimed.1 e (mem_of_mem_pruneRegistry he), fun d hd e he => ?_⟩
    obtain ⟨entries, hentries, hsource⟩ := mem_categories_markProcessed hd
    rw [hentries] at he
    have he' := mem_of_mem_pruneRegistry he
    rcases hsource with hold | rfl
    · exact (htimed.2 _ hold e he').trans hnow.le
    · exact hset (categoryEntries_timed htimed) e he'
  | isProcessed messageId category now expiredAt =>
    show (r.cleanupIfNeeded now expiredAt).Timed c
    rw [cleanupIfNeeded]
    split_ifs
    · refine ⟨fun e he => htimed.1 e (List.mem_of_mem_filter he), fun d hd e he => ?_⟩
      obtain ⟨d', hd', rfl⟩ := List.mem_map.mp (List.mem_of_mem_filter hd)
      exact htimed.2 d' hd' e (List.mem_of_mem_filter he)
    · exact htimed
  | clear category =>
    show (r.clear category).Timed c
    rw [clear]
    split_ifs
    · refine ⟨htimed.1, fun d hd e he => ?_⟩
      rcases Dict.mem_set hd with rfl | hold
      · exact absurd he List.not_mem_nil
      · exact htimed.2 d hold e he
    · exact ⟨fun e he => absurd he List.not_mem_nil, fun d hd => absurd hd List.not_mem_nil⟩

theorem maxCacheSize_step (operation : Operation) : (r.step operation).maxCacheSize = r.maxCacheSize := by
  cases operation with
  | markProcessed messageId category now => rfl
  | isProcessed messageId category now expiredAt =>
    show (r.cleanupIfNeeded now expiredAt).maxCacheSize = _
    rw [cleanupIfNeeded]
    split_ifs <;> rfl
  | clear category =>
    show (r.clear category).maxCacheSize = _
    rw [clear]
    split_ifs <;> rfl

/-! ### A maximum of one id -/

/-- Distinct ids, and every id of a category is in the general registry for at least as long. -/
structure Covered (r : MessageRegistry) : Prop where
  nodup : (r.processedMessages.map Prod.fst).Nodup
  categoryNodup : ∀ d ∈ r.messageCategories, (d.2.map Prod.fst).Nodup
  covered : ∀ d ∈ r.messageCategories, ∀ e ∈ d.2, ∃ at_, e.2 ≤ at_ ∧ (e.1, at_) ∈ r.processedMessages

theorem length_le_one_iff {d : Dict String ℚ} (h : (d.map Prod.fst).Nodup) :
    d.length ≤ 1 ↔ ∀ e ∈ d, ∀ e' ∈ d, e.1 = e'.1 := by
  constructor
  · intro hlength e he e' he'
    obtain ⟨i, hi, rfl⟩ := List.getElem_of_mem he
    obtain ⟨j, hj, rfl⟩ := List.getElem_of_mem he'
    have hij : i = j := by omega
    subst hij
    rfl
  · intro hsame
    match d, h, hsame with
    | [], _, _ => exact Nat.zero_le 1
    | [_], _, _ => exact le_refl 1
    | e :: e' :: rest, h, hsame =>
      rw [List.map_cons, List.nodup_cons, List.map_cons] at h
      exact absurd (hsame e List.mem_cons_self e' (List.mem_cons_of_mem _ List.mem_cons_self)) fun heq =>
        h.1 (heq ▸ List.mem_cons_self)

/-- The general registry decides whether all are small enough. -/
theorem Covered.bounded_iff (h : r.Covered) (hmax : r.maxCacheSize = 1) :
    r.Bounded ↔ ∀ e ∈ r.processedMessages, ∀ e' ∈ r.processedMessages, e.1 = e'.1 := by
  rw [Bounded, hmax, length_le_one_iff h.nodup]
  refine ⟨fun hbounded => hbounded.1, fun hsame => ⟨hsame, fun d hd => ?_⟩⟩
  refine (length_le_one_iff (h.categoryNodup d hd)).mpr fun e he e' he' => ?_
  obtain ⟨at_, -, hmem⟩ := h.covered d hd e he
  obtain ⟨at', -, hmem'⟩ := h.covered d hd e' he'
  exact hsame (e.1, at_) hmem (e'.1, at') hmem'

theorem nodup_pruneRegistry (hmax : r.maxCacheSize = 1) (h : (entries.map Prod.fst).Nodup) :
    ((r.pruneRegistry entries).map Prod.fst).Nodup :=
  (((pruneRegistry_perm hmax).map Prod.fst).nodup_iff).mpr h

/-- The other ids stay in the general registry. -/
theorem Covered.other_mem (h : r.Covered) (hmax : r.maxCacheSize = 1) {e : String × ℚ}
    (hmem : e ∈ r.processedMessages) (hid : e.1 ≠ messageId) :
    e ∈ (r.markProcessed now messageId category).processedMessages := by
  refine (pruneRegistry_perm hmax).mem_iff.mpr (Dict.mem_of_get?_eq_some ?_)
  rw [Dict.get?_set_ne _ _ (Ne.symm hid)]
  exact Dict.get?_of_mem h.nodup hmem

theorem Covered.markProcessed (h : r.Covered) (hmax : r.maxCacheSize = 1) (htimed : r.Timed c) (hnow : c < now) :
    (r.markProcessed now messageId category).Covered := by
  have hmarked : (messageId, now) ∈ (r.markProcessed now messageId category).processedMessages :=
    mem_markProcessed htimed hnow
  -- an id that was covered still is, by the new time if it is the marked one
  have hkept : ∀ e : String × ℚ, e.2 ≤ c → (∃ at_, e.2 ≤ at_ ∧ (e.1, at_) ∈ r.processedMessages) →
      ∃ at_, e.2 ≤ at_ ∧ (e.1, at_) ∈ (r.markProcessed now messageId category).processedMessages := by
    rintro ⟨id, t⟩ ht ⟨at_, hle, hmem⟩
    by_cases hid : id = messageId
    · subst hid
      exact ⟨now, ht.trans hnow.le, hmarked⟩
    · exact ⟨at_, hle, h.other_mem hmax hmem hid⟩
  have hold : ∀ e ∈ (Dict.get? r.messageCategories category).getD [],
      ∃ at_, e.2 ≤ at_ ∧ (e.1, at_) ∈ r.processedMessages := by
    intro e he
    rcases categoryEntries_cases r.messageCategories category with hnone | hmem
    · rw [hnone] at he
      exact absurd he List.not_mem_nil
    · exact h.covered _ hmem e he
  have holdNodup : (((Dict.get? r.messageCategories category).getD []).map Prod.fst).Nodup := by
    rcases categoryEntries_cases r.messageCategories category with hnone | hmem
    · rw [hnone]
      exact List.nodup_nil
    · exact h.categoryNodup _ hmem
  refine ⟨nodup_pruneRegistry hmax (Dict.nodup_keys_set h.nodup _ _), fun d hd => ?_, fun d hd e he => ?_⟩
  · obtain ⟨entries, hentries, hsource⟩ := mem_categories_markProcessed hd
    rw [hentries]
    rcases hsource with hwas | rfl
    · exact nodup_pruneRegistry hmax (h.categoryNodup _ hwas)
    · exact nodup_pruneRegistry hmax (Dict.nodup_keys_set holdNodup _ _)
  · obtain ⟨entries, hentries, hsource⟩ := mem_categories_markProcessed hd
    rw [hentries] at he
    have he' := mem_of_mem_pruneRegistry he
    rcases hsource with hwas | rfl
    · exact hkept e (htimed.2 _ hwas e he') (h.covered _ hwas e he')
    · rcases Dict.mem_set he' with rfl | hbefore
      · exact ⟨now, le_refl _, hmarked⟩
      · exact hkept e (categoryEntries_timed htimed e hbefore) (hold e hbefore)

theorem Covered.cleanupIfNeeded (h : r.Covered) (now expiredAt : ℚ) : (r.cleanupIfNeeded now expiredAt).Covered := by
  rw [MessageRegistry.cleanupIfNeeded]
  split_ifs
  · refine ⟨?_, fun d hd => ?_, fun d hd e he => ?_⟩
    · exact h.nodup.sublist (List.filter_sublist.map Prod.fst)
    · obtain ⟨d', hd', rfl⟩ := List.mem_map.mp (List.mem_of_mem_filter hd)
      exact (h.categoryNodup d' hd').sublist (List.filter_sublist.map Prod.fst)
    · obtain ⟨d', hd', rfl⟩ := List.mem_map.mp (List.mem_of_mem_filter hd)
      obtain ⟨hmem, hfresh⟩ := List.mem_filter.mp he
      obtain ⟨at_, hle, hgeneral⟩ := h.covered d' hd' e hmem
      refine ⟨at_, hle, List.mem_filter.mpr ⟨hgeneral, decide_eq_true ?_⟩⟩
      exact (of_decide_eq_true hfresh).trans_le hle
  · exact h

theorem Covered.clear (h : r.Covered) (category : String) : (r.clear category).Covered := by
  rw [MessageRegistry.clear]
  split_ifs
  · refine ⟨h.nodup, fun d hd => ?_, fun d hd e he => ?_⟩
    · rcases Dict.mem_set hd with rfl | hold
      · exact List.nodup_nil
      · exact h.categoryNodup d hold
    · rcases Dict.mem_set hd with rfl | hold
      · exact absurd he List.not_mem_nil
      · exact h.covered d hold e he
  · exact ⟨List.nodup_nil, fun d hd => absurd hd List.not_mem_nil, fun d hd => absurd hd List.not_mem_nil⟩

theorem Covered.step (h : r.Covered) (hmax : r.maxCacheSize = 1) (htimed : r.Timed c) (operation : Operation)
    (hlater : ∀ t ∈ operation.readings, c < t) : (r.step operation).Covered := by
  cases operation with
  | markProcessed messageId category now => exact h.markProcessed hmax htimed (hlater now List.mem_cons_self)
  | isProcessed messageId category now expiredAt => exact h.cleanupIfNeeded now expiredAt
  | clear category => exact h.clear category

theorem Covered.markedRight_iff (h : r.Covered) (hmax : r.maxCacheSize = 1) (htimed : r.Timed c)
    (operation : Operation) (hlater : ∀ t ∈ operation.readings, c < t) :
    r.MarkedRight operation ↔ r.Alone operation := by
  cases operation with
  | isProcessed messageId category now expiredAt => exact Iff.rfl
  | clear category => exact Iff.rfl
  | markProcessed messageId category now =>
    have hnow : c < now := hlater now List.mem_cons_self
    have hcovered : (r.markProcessed now messageId category).Covered := h.markProcessed hmax htimed hnow
    have hbounded := hcovered.bounded_iff hmax
    constructor
    · rintro ⟨hsmall, -⟩ e he
      by_contra hid
      exact hid (hbounded.mp hsmall e (h.other_mem hmax he hid) _ (mem_markProcessed htimed hnow))
    · intro halone
      have hall : ∀ e ∈ (r.markProcessed now messageId category).processedMessages, e.1 = messageId := by
        intro e he
        rcases Dict.mem_set ((pruneRegistry_perm hmax).mem_iff.mp he) with rfl | hold
        · rfl
        · exact halone e hold
      refine ⟨hbounded.mpr fun e he e' he' => (hall e he).trans (hall e' he').symm, ?_⟩
      exact present_markProcessed htimed hnow

/-! ### A run -/

/-- Two properties of calls that say the same in every state with the invariant hold throughout the same runs, by a
clock that runs forward. -/
theorem along_iff_of_clock {I : MessageRegistry → Prop} {P Q : MessageRegistry → Operation → Prop}
    (hstep : ∀ (r : MessageRegistry) c operation, r.Timed c → (∀ t ∈ operation.readings, c < t) → I r →
      I (r.step operation))
    (hiff : ∀ (r : MessageRegistry) c operation, r.Timed c → (∀ t ∈ operation.readings, c < t) → I r →
      (P r operation ↔ Q r operation))
    (hinv : I r) (htimed : r.Timed c) (operations : List Operation)
    (hclock : (c :: operations.flatMap Operation.readings).Pairwise (· < ·)) :
    Along take P r operations ↔ Along take Q r operations := by
  induction operations generalizing r c with
  | nil => exact Iff.rfl
  | cons operation operations ih =>
    rw [List.flatMap_cons, ← List.cons_append, List.pairwise_append] at hclock
    obtain ⟨hfirst, hrest, hacross⟩ := hclock
    have hlater : ∀ t ∈ operation.readings, c < t := (List.pairwise_cons.mp hfirst).1
    have hclock' : (operation.clock c :: operations.flatMap Operation.readings).Pairwise (· < ·) := by
      refine List.pairwise_cons.mpr ⟨fun t ht => hacross _ ?_ t ht, hrest⟩
      cases operation with
      | markProcessed messageId category now => exact List.mem_cons_of_mem _ List.mem_cons_self
      | isProcessed messageId category now expiredAt => exact List.mem_cons_self
      | clear category => exact List.mem_cons_self
    exact and_congr (hiff r c operation htimed hlater hinv)
      (ih (hstep r c operation htimed hlater hinv) (timed_step htimed operation hlater) hclock')

theorem timed_initial (maxCacheSize : ℕ) (expirationTime startedAt : ℚ) :
    (initial maxCacheSize expirationTime startedAt).Timed startedAt :=
  ⟨fun _ he => absurd he List.not_mem_nil, fun _ hd => absurd hd List.not_mem_nil⟩

/-- After each mark the registries are within the maximum and have the id, exactly if the maximum is at least two or
no mark ever finds another id. -/
theorem sizeBound_iff (maxCacheSize : ℕ) (hmax : 1 ≤ maxCacheSize) (expirationTime startedAt : ℚ)
    (operations : List Operation)
    (hclock : (startedAt :: operations.flatMap Operation.readings).Pairwise (· < ·)) :
    Along take MarkedRight (initial maxCacheSize expirationTime startedAt) operations ↔
      2 ≤ maxCacheSize ∨ Along take Alone (initial maxCacheSize expirationTime startedAt) operations := by
  have htimed := timed_initial maxCacheSize expirationTime startedAt
  by_cases hlarge : 2 ≤ maxCacheSize
  · have halways : Along take MarkedRight (initial maxCacheSize expirationTime startedAt) operations ↔
        Along take (fun _ _ => True) (initial maxCacheSize expirationTime startedAt) operations := by
      refine along_iff_of_clock (I := fun r => 2 ≤ r.maxCacheSize) ?_ ?_ hlarge htimed operations hclock
      · intro r c operation _ _ hinv
        rw [maxCacheSize_step]
        exact hinv
      · intro r c operation htimed hlater hinv
        refine iff_of_true ?_ trivial
        cases operation with
        | markProcessed messageId category now =>
          exact ⟨bounded_markProcessed hinv, present_markProcessed htimed (hlater now List.mem_cons_self)⟩
        | isProcessed messageId category now expiredAt => trivial
        | clear category => trivial
    rw [halways]
    exact iff_of_true (along_iff.mpr fun _ _ _ _ => trivial) (.inl hlarge)
  · have hone : maxCacheSize = 1 := by omega
    rw [or_iff_right hlarge]
    refine along_iff_of_clock (I := fun r => r.Covered ∧ r.maxCacheSize = 1) ?_ ?_ ⟨?_, hone⟩ htimed operations hclock
    · intro r c operation htimed hlater hinv
      exact ⟨hinv.1.step hinv.2 htimed operation hlater, (maxCacheSize_step operation).trans hinv.2⟩
    · intro r c operation htimed hlater hinv
      exact hinv.1.markedRight_iff hinv.2 htimed operation hlater
    · exact ⟨List.nodup_nil, fun d hd => absurd hd List.not_mem_nil, fun d hd => absurd hd List.not_mem_nil⟩

theorem twoOfThree_markedRight :
    Along take MarkedRight (initial 2 3600 0)
        [.markProcessed "a" "" 1, .markProcessed "b" "" 2, .markProcessed "c" "" 3] ↔
      2 ≤ 2 ∨ Along take Alone (initial 2 3600 0)
        [.markProcessed "a" "" 1, .markProcessed "b" "" 2, .markProcessed "c" "" 3] :=
  sizeBound_iff 2 (by decide) 3600 0 [.markProcessed "a" "" 1, .markProcessed "b" "" 2, .markProcessed "c" "" 3]
    (by norm_num [Operation.readings])

/-- A registry for one id that is given a second one holds both. -/
theorem secondId_not_markedRight :
    ¬Along take MarkedRight (initial 1 3600 0) [.markProcessed "a" "" 1, .markProcessed "b" "" 2] := by
  rintro ⟨-, ⟨⟨hlength, -⟩, -⟩, -⟩
  have hmax : ((initial 1 3600 0).step (.markProcessed "a" "" 1)).maxCacheSize = 1 := rfl
  have hfirst : ((initial 1 3600 0).step (.markProcessed "a" "" 1)).processedMessages = [("a", 1)] := rfl
  have htake : (take (initial 1 3600 0) (.markProcessed "a" "" 1)).2 =
      (initial 1 3600 0).step (.markProcessed "a" "" 1) := rfl
  rw [htake] at hlength
  generalize (initial 1 3600 0).step (.markProcessed "a" "" 1) = r at hmax hfirst hlength
  have hboth : (r.markProcessed 2 "b" "").processedMessages = r.pruneRegistry [("a", 1), ("b", 2)] := by
    show r.pruneRegistry (Dict.set r.processedMessages "b" 2) = _
    rw [hfirst]
    rfl
  have hone : (r.markProcessed 2 "b" "").maxCacheSize = 1 := hmax
  rw [hboth, (pruneRegistry_perm hmax).length_eq, hone] at hlength
  exact absurd hlength (by decide)

end MessageRegistry

end Fmofp.LoopPrevention
