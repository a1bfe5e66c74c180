import Mathlib

/-! The indices below `n` in groups: a group starts at an index that is in none, and takes in, for each of
its members in turn, the neighbours that are in no group yet.  Where the relation of neighbours is symmetric,
the groups are its connected components. -/

namespace Machine

variable (n : ℕ) (near : ℕ → ℕ → Bool)

/-- A group that grows, and all indices that are in one. -/
structure Growth where
  group : List ℕ
  visited : List ℕ

/-- An index that is near and in no group is taken in. -/
def visit (current : ℕ) (g : Growth) (k : ℕ) : Growth :=
  if k ∈ g.visited then g
  else if near current k then ⟨g.group ++ [k], g.visited ++ [k]⟩ else g

def scan (current : ℕ) (g : Growth) : Growth := (List.range n).foldl (visit near current) g

/-- The members from position `j` on are scanned, those that are taken in meanwhile too. -/
def grow : ℕ → ℕ → Growth → Option Growth
  | 0, j, g => if j < g.group.length then none else some g
  | fuel + 1, j, g =>
    match g.group[j]? with
    | some current => grow fuel (j + 1) (scan n near current g)
    | none => some g

/-- The groups that are complete, and the indices in them. -/
def startGroup (s : List (List ℕ) × List ℕ) (i : ℕ) : Option (List (List ℕ) × List ℕ) :=
  if i ∈ s.2 then some s
  else (grow n near n 0 ⟨[i], s.2 ++ [i]⟩).map fun g => (s.1 ++ [g.group], g.visited)

def components : Option (List (List ℕ)) :=
  ((List.range n).foldlM (startGroup n near) ([], [])).map Prod.fst

/-- Neighbours below `n`. -/
def Near (i k : ℕ) : Prop := i < n ∧ k < n ∧ near i k = true

/-- A chain of neighbours. -/
abbrev Chain : ℕ → ℕ → Prop := Relation.ReflTransGen (Near n near)

/-- The groups have each index once, and two of them together if and only if a chain joins them. -/
structure AreComponents (groups : List (List ℕ)) : Prop where
  nonempty : ∀ group ∈ groups, group ≠ []
  partition : groups.flatten.Perm (List.range n)
  joined : ∀ i k, i < n → k < n → ((∃ group ∈ groups, i ∈ group ∧ k ∈ group) ↔ Chain n near i k)

variable {n near}

/-! ### One scan -/

/-- What a scan of the indices `ks` takes in. -/
def fresh (near : ℕ → ℕ → Bool) (current : ℕ) (visited ks : List ℕ) : List ℕ :=
  ks.filter fun k => near current k && !decide (k ∈ visited)

theorem foldl_visit {ks : List ℕ} (hks : ks.Nodup) (current : ℕ) (g : Growth) :
    ks.foldl (visit near current) g =
      ⟨g.group ++ fresh near current g.visited ks, g.visited ++ fresh near current g.visited ks⟩ := by
  induction ks generalizing g with
  | nil => simp [fresh]
  | cons k ks ih =>
    obtain ⟨hk, hrest⟩ := List.nodup_cons.mp hks
    rw [List.foldl_cons, ih hrest, visit]
    by_cases hvisited : k ∈ g.visited
    · simp [hvisited, fresh]
    · by_cases hnear : near current k = true
      · -- the index that is taken in is not among the rest, so that these are tested as before
        have hsame : fresh near current (g.visited ++ [k]) ks = fresh near current g.visited ks := by
          refine List.filter_congr fun other hother => ?_
          have hne : other ≠ k := fun h => hk (h ▸ hother)
          simp [hne]
        have hcons : fresh near current g.visited (k :: ks) = k :: fresh near current g.visited ks :=
          List.filter_cons_of_pos (by simp [hvisited, hnear])
        rw [if_neg hvisited, if_pos hnear, hsame, hcons, List.append_assoc, List.append_assoc]
        rfl
      · simp [hvisited, hnear, fresh]

theorem scan_eq (current : ℕ) (g : Growth) :
    scan n near current g =
      ⟨g.group ++ fresh near current g.visited (List.range n),
        g.visited ++ fresh near current g.visited (List.range n)⟩ :=
  foldl_visit List.nodup_range current g

theorem mem_fresh {current k : ℕ} {visited : List ℕ} :
    k ∈ fresh near current visited (List.range n) ↔
      k < n ∧ near current k = true ∧ k ∉ visited := by
  simp [fresh]

/-! ### One group -/

/-- While the group of `i` grows: the indices in the groups before it are `closed`, and of the members
those before position `j` have been scanned. -/
structure Growing (n : ℕ) (near : ℕ → ℕ → Bool) (before : List ℕ) (i j : ℕ) (g : Growth) : Prop where
  visited : g.visited = before ++ g.group
  nodup : g.visited.Nodup
  bound : ∀ k ∈ g.visited, k < n
  chain : ∀ k ∈ g.group, Chain n near i k
  scanned : ∀ a ∈ g.group.take j, ∀ k < n, near a k = true → k ∈ g.visited

theorem growing_start {before : List ℕ} {i : ℕ} (hbefore : before.Nodup) (hbound : ∀ k ∈ before, k < n)
    (hi : i < n) (hnew : i ∉ before) : Growing n near before i 0 ⟨[i], before ++ [i]⟩ where
  visited := rfl
  nodup := by
    rw [List.nodup_append]
    refine ⟨hbefore, List.nodup_singleton i, fun a ha b hb => ?_⟩
    rintro rfl
    exact hnew (List.mem_singleton.mp hb ▸ ha)
  bound k hk := by
    rcases List.mem_append.mp hk with hk | hk
    · exact hbound k hk
    · exact List.mem_singleton.mp hk ▸ hi
  chain k hk := by
    rw [List.mem_singleton.mp hk]
  scanned a ha := (nomatch ha)

theorem Growing.scan {before : List ℕ} {i j current : ℕ} {g : Growth}
    (h : Growing n near before i j g) (hcurrent : g.group[j]? = some current) :
    Growing n near before i (j + 1) (Machine.scan n near current g) := by
  have hmem : current ∈ g.group := List.mem_of_getElem? hcurrent
  have hlt : current < n := h.bound current (h.visited ▸ List.mem_append_right before hmem)
  rw [scan_eq]
  constructor
  · rw [h.visited, List.append_assoc]
  · refine h.nodup.append (List.nodup_range.filter _) ?_
    exact fun k hk hfresh => (mem_fresh.mp hfresh).2.2 hk
  · intro k hk
    rcases List.mem_append.mp hk with hk | hk
    · exact h.bound k hk
    · exact (mem_fresh.mp hk).1
  · intro k hk
    rcases List.mem_append.mp hk with hk | hk
    · exact h.chain k hk
    · obtain ⟨hkn, hnear, -⟩ := mem_fresh.mp hk
      exact (h.chain current hmem).tail ⟨hlt, hkn, hnear⟩
  · intro a ha k hk hnear
    by_cases hvisited : k ∈ g.visited
    · exact List.mem_append_left _ hvisited
    · refine List.mem_append_right _ ?_
      -- a member that was scanned before has no neighbour that is not in a group
      have hj : j < g.group.length := (List.getElem?_eq_some_iff.mp hcurrent).1
      rw [List.take_append_of_le_length (by omega), List.take_add_one, hcurrent] at ha
      rcases List.mem_append.mp ha with ha | ha
      · exact absurd (h.scanned a ha k hk hnear) hvisited
      · rw [Option.toList_some, List.mem_singleton] at ha
        exact mem_fresh.mpr ⟨hk, ha ▸ hnear, hvisited⟩

theorem Growing.length_le {before : List ℕ} {i j : ℕ} {g : Growth}
    (h : Growing n near before i j g) : g.group.length ≤ n := by
  have hsub : g.visited ⊆ List.range n := fun k hk => List.mem_range.mpr (h.bound k hk)
  have hle := (h.nodup.subperm hsub).length_le
  rw [h.visited, List.length_append, List.length_range] at hle
  omega

theorem Growing.done {before : List ℕ} {i j : ℕ} {g : Growth} (h : Growing n near before i j g)
    (hj : g.group.length ≤ j) : Growing n near before i g.group.length g := by
  refine ⟨h.visited, h.nodup, h.bound, h.chain, ?_⟩
  have hscanned := h.scanned
  rw [List.take_of_length_le hj] at hscanned
  rwa [List.take_length]

theorem group_prefix_scan (current : ℕ) (g : Growth) :
    g.group <+: (Machine.scan n near current g).group := by
  rw [scan_eq]
  exact List.prefix_append _ _

/-- With enough fuel a group grows until all its members have been scanned. -/
theorem Growing.grow {before : List ℕ} {i j fuel : ℕ} {g : Growth} (h : Growing n near before i j g)
    (hfuel : n ≤ fuel + j) :
    ∃ done, Machine.grow n near fuel j g = some done ∧
      Growing n near before i done.group.length done ∧ g.group <+: done.group := by
  induction fuel generalizing j g with
  | zero =>
    have hj : g.group.length ≤ j := by
      have hlength := h.length_le
      omega
    rw [Machine.grow, if_neg (by omega)]
    exact ⟨g, rfl, h.done hj, List.prefix_rfl⟩
  | succ fuel ih =>
    rw [Machine.grow.eq_def]
    cases hcurrent : g.group[j]? with
    | none =>
      dsimp only
      rw [hcurrent]
      exact ⟨g, rfl, h.done (List.getElem?_eq_none_iff.mp hcurrent), List.prefix_rfl⟩
    | some current =>
      obtain ⟨done, hdone, hgrown, hprefix⟩ := ih (h.scan hcurrent) (by omega)
      dsimp only
      rw [hcurrent]
      exact ⟨done, hdone, hgrown, (group_prefix_scan current g).trans hprefix⟩

/-! ### All groups -/

theorem near_symm (hsymm : ∀ a b, near a b = near b a) {a b : ℕ} (h : Near n near a b) :
    Near n near b a :=
  ⟨h.2.1, h.1, hsymm a b ▸ h.2.2⟩

theorem chain_symm (hsymm : ∀ a b, near a b = near b a) {a b : ℕ} (h : Chain n near a b) :
    Chain n near b a := by
  induction h with
  | refl => exact .refl
  | tail _ hlast ih => exact .head (near_symm hsymm hlast) ih

/-- After some indices have been looked at: the groups are apart from each other, joined in themselves
and closed. -/
structure Grouped (n : ℕ) (near : ℕ → ℕ → Bool) (s : List (List ℕ) × List ℕ) : Prop where
  visited : s.2 = s.1.flatten
  nodup : s.2.Nodup
  bound : ∀ k ∈ s.2, k < n
  nonempty : ∀ group ∈ s.1, group ≠ []
  chain : ∀ group ∈ s.1, ∀ a ∈ group, ∀ b ∈ group, Chain n near a b
  closed : ∀ group ∈ s.1, ∀ a ∈ group, ∀ k < n, near a k = true → k ∈ group

theorem Grouped.closed_visited {s : List (List ℕ) × List ℕ} (h : Grouped n near s) {a k : ℕ}
    (ha : a ∈ s.2) (hk : k < n) (hnear : near a k = true) : k ∈ s.2 := by
  rw [h.visited] at ha ⊢
  obtain ⟨group, hgroup, hmem⟩ := List.mem_flatten.mp ha
  exact List.mem_flatten.mpr ⟨group, hgroup, h.closed group hgroup a hmem k hk hnear⟩

/-- A group that has grown goes with the others. -/
theorem Grouped.append (hsymm : ∀ a b, near a b = near b a) {s : List (List ℕ) × List ℕ}
    (h : Grouped n near s) {i : ℕ} {g : Growth} (hg : Growing n near s.2 i g.group.length g)
    (hi : i ∈ g.group) : Grouped n near (s.1 ++ [g.group], g.visited) where
  visited := by
    rw [hg.visited, h.visited]
    simp
  nodup := hg.nodup
  bound := hg.bound
  nonempty group hgroup := by
    rcases List.mem_append.mp hgroup with hgroup | hgroup
    · exact h.nonempty group hgroup
    · rw [List.mem_singleton.mp hgroup]
      exact List.ne_nil_of_mem hi
  chain group hgroup a ha b hb := by
    rcases List.mem_append.mp hgroup with hgroup | hgroup
    · exact h.chain group hgroup a ha b hb
    · rw [List.mem_singleton.mp hgroup] at ha hb
      exact (chain_symm hsymm (hg.chain a ha)).trans (hg.chain b hb)
  closed group hgroup a ha k hk hnear := by
    rcases List.mem_append.mp hgroup with hgroup | hgroup
    · exact h.closed group hgroup a ha k hk hnear
    · rw [List.mem_singleton.mp hgroup] at ha ⊢
      have hvisited := hg.scanned a (by rwa [List.take_length]) k hk hnear
      rw [hg.visited] at hvisited
      refine (List.mem_append.mp hvisited).resolve_left fun hbefore => ?_
      -- a neighbour in a group before would have this member in its group
      have ha' : a ∈ s.2 := by
        have han : a < n := hg.bound a (hg.visited ▸ List.mem_append_right _ ha)
        exact h.closed_visited hbefore han (hsymm a k ▸ hnear)
      have hnodup := hg.nodup
      rw [hg.visited] at hnodup
      exact List.disjoint_of_nodup_append hnodup ha' ha

theorem startGroup_grouped (hsymm : ∀ a b, near a b = near b a) {s : List (List ℕ) × List ℕ}
    (h : Grouped n near s) {i : ℕ} (hi : i < n) :
    ∃ s', startGroup n near s i = some s' ∧ Grouped n near s' ∧ i ∈ s'.2 ∧ s.2 ⊆ s'.2 := by
  rw [startGroup]
  by_cases hvisited : i ∈ s.2
  · exact ⟨s, if_pos hvisited, h, hvisited, List.Subset.refl _⟩
  · obtain ⟨done, hdone, hgrown, hprefix⟩ :=
      (growing_start h.nodup h.bound hi hvisited).grow (Nat.le_refl n)
    have hmem : i ∈ done.group := hprefix.subset (List.mem_singleton_self i)
    refine ⟨(s.1 ++ [done.group], done.visited), ?_, h.append hsymm hgrown hmem, ?_, ?_⟩
    · rw [if_neg hvisited, hdone]
      rfl
    · rw [hgrown.visited]
      exact List.mem_append_right _ hmem
    · rw [hgrown.visited]
      exact List.subset_append_left _ _

theorem foldlM_startGroup (hsymm : ∀ a b, near a b = near b a) {ks : List ℕ} (hks : ∀ k ∈ ks, k < n)
    {s : List (List ℕ) × List ℕ} (h : Grouped n near s) :
    ∃ s', ks.foldlM (startGroup n near) s = some s' ∧ Grouped n near s' ∧ (∀ k ∈ ks, k ∈ s'.2) ∧
      s.2 ⊆ s'.2 := by
  induction ks generalizing s with
  | nil => exact ⟨s, rfl, h, fun k hk => (nomatch hk), List.Subset.refl _⟩
  | cons k ks ih =>
    obtain ⟨s₁, hfirst, hgrouped, hmem, hsub⟩ := startGroup_grouped hsymm h (hks k List.mem_cons_self)
    obtain ⟨s₂, hrest, hgrouped', hall, hsub'⟩ :=
      ih (fun k' hk' => hks k' (List.mem_cons_of_mem k hk')) hgrouped
    refine ⟨s₂, ?_, hgrouped', fun k' hk' => ?_, List.Subset.trans hsub hsub'⟩
    · rw [List.foldlM_cons, hfirst]
      exact hrest
    · rcases List.mem_cons.mp hk' with rfl | hk'
      · exact hsub' hmem
      · exact hall k' hk'

theorem Grouped.chain_mem {s : List (List ℕ) × List ℕ} (h : Grouped n near s) {group : List ℕ}
    (hgroup : group ∈ s.1) {a b : ℕ} (ha : a ∈ group) (hchain : Chain n near a b) : b ∈ group := by
  induction hchain with
  | refl => exact ha
  | tail _ hlast ih => exact h.closed group hgroup _ ih _ hlast.2.1 hlast.2.2

variable (n) in
/-- The fuel suffices, and the groups are the connected components. -/
theorem components_spec (hsymm : ∀ a b, near a b = near b a) :
    ∃ groups, components n near = some groups ∧ AreComponents n near groups := by
  have hnone : Grouped n near ([], []) :=
    ⟨rfl, List.nodup_nil, fun k hk => (nomatch hk), fun group hg => (nomatch hg),
      fun group hg => (nomatch hg), fun group hg => (nomatch hg)⟩
  obtain ⟨s, hs, hgrouped, hall, -⟩ :=
    foldlM_startGroup hsymm (fun k hk => List.mem_range.mp hk) hnone
  refine ⟨s.1, by rw [components, hs]; rfl, hgrouped.nonempty, ?_, fun i k hi hk => ?_⟩
  · rw [← hgrouped.visited, List.perm_ext_iff_of_nodup hgrouped.nodup List.nodup_range]
    exact fun k => ⟨fun hk => List.mem_range.mpr (hgrouped.bound k hk), fun hk => hall k hk⟩
  · constructor
    · rintro ⟨group, hgroup, hi', hk'⟩
      exact hgrouped.chain group hgroup i hi' k hk'
    · intro hchain
      have hmem := hall i (List.mem_range.mpr hi)
      rw [hgrouped.visited] at hmem
      obtain ⟨group, hgroup, hi'⟩ := List.mem_flatten.mp hmem
      exact ⟨group, hgroup, hi', hgrouped.chain_mem hgroup hi' hchain⟩

end Machine
