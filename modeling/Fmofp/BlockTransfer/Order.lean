import Fmofp.BlockTransfer.Arrival

/-! When the data that the blocks of a transfer are assembled to does not depend on the order in which
they arrive. -/

namespace Fmofp.BlockTransfer

open Python Machine

/-- The blocks with their numbers, from `base` on. -/
def numbered : ℕ → List (List ℤ) → List Block
  | _, [] => []
  | base, data :: rest => (base, data) :: numbered (base + 1) rest

/-- In every order of arrival only the last block is answered with `True`, and the assembled data is
that of the blocks in numeric order. -/
def OrderIndependent (py : Runtime) (a : State) (id : String) (base : ℕ) (d : List (List ℤ)) : Prop :=
  ∀ arrivals : List Arrival, (arrivals.map Arrival.block).Perm (numbered base d) →
    outputs (step py) a (arrivals.map (Arrival.operation id d.length)) =
      List.replicate (d.length - 1) (.ok (.bool false)) ++ [.ok (.bool true)] ∧
    ∀ inOrder : List Arrival, inOrder.map Arrival.block = numbered base d →
      (getAssembledData py (.str id)
        (final (step py) a (arrivals.map (Arrival.operation id d.length)))).1 =
      (getAssembledData py (.str id)
        (final (step py) a (inOrder.map (Arrival.operation id d.length)))).1

/-- Block 1 starts with what may be a count of objects. -/
def leading (base : ℕ) (d : List (List ℤ)) : Bool := (numbered base d).any leads

def settled (lead : Bool) (data : List ℤ) : List ℤ := if lead then data else strip data

/-- If block 1 starts with a count, no other block has a header to lose; and if the numbers start with
0, the first block may as well come after the others. -/
def OrderFree (base : ℕ) (d : List (List ℤ)) : Prop :=
  (leading base d = true → ∀ x ∈ numbered base d, x.1 ≠ 1 → x.2.length ≤ 2) ∧
  (base = 0 → (d.tail.map (settled (leading base d))).flatten ++ settled (leading base d) (d.headD []) =
    settled (leading base d) (d.headD []) ++ (d.tail.map (settled (leading base d))).flatten)

theorem numbered_keys (base : ℕ) (d : List (List ℤ)) :
    (numbered base d).map Prod.fst = List.range' base d.length := by
  induction d generalizing base with
  | nil => rfl
  | cons data rest ih => rw [numbered, List.map_cons, ih, List.length_cons, List.range'_succ]

theorem numbered_nodup (base : ℕ) (d : List (List ℤ)) : ((numbered base d).map Prod.fst).Nodup := by
  rw [numbered_keys]
  exact List.nodup_range'

theorem numbered_length (base : ℕ) (d : List (List ℤ)) : (numbered base d).length = d.length := by
  have h := congrArg List.length (numbered_keys base d)
  rwa [List.length_map, List.length_range'] at h

section Order

variable {base : ℕ} {d : List (List ℤ)} {xs : List Block}

/-- The block that arrives first has number 0. -/
def firstIsZero (xs : List Block) : Bool := xs.head?.any fun x => x.1 == 0

theorem number_bounds (hperm : xs.Perm (numbered base d)) {x : Block} (hx : x ∈ xs) :
    base ≤ x.1 ∧ x.1 < base + d.length := by
  have hmem : x.1 ∈ List.range' base d.length := by
    rw [← numbered_keys]
    exact List.mem_map.mpr ⟨x, hperm.mem_iff.mp hx, rfl⟩
  exact List.mem_range'_1.mp hmem

theorem base_of_firstIsZero (hperm : xs.Perm (numbered base d)) (h : firstIsZero xs = true) :
    base = 0 := by
  cases xs with
  | nil => simp [firstIsZero] at h
  | cons x rest =>
    have hzero : x.1 = 0 := by simpa [firstIsZero] using h
    have hbounds := number_bounds hperm (x := x) (by simp)
    omega

theorem slotOf_injOn {zeroBased : Bool} (hzero : zeroBased = true → base = 0)
    {total i j : ℕ} (hi : base ≤ i ∧ i < base + total) (hj : base ≤ j ∧ j < base + total)
    (h : slotOf zeroBased total i = slotOf zeroBased total j) : i = j := by
  unfold slotOf at h
  cases zeroBased with
  | true => exact h
  | false =>
    simp only [Bool.false_eq_true, if_false] at h
    split_ifs at h <;> omega

theorem inRange_of_perm (hbase : base ≤ 1) (hperm : xs.Perm (numbered base d)) {x : Block}
    (hx : x ∈ xs) : inRange (firstIsZero xs) d.length x.1 := by
  have hbounds := number_bounds hperm hx
  unfold inRange
  split_ifs with hzero
  · have := base_of_firstIsZero hperm hzero
    omega
  · omega

/-- Every block has a slot of its own. -/
theorem slots_perm (hbase : base ≤ 1) (hd : d ≠ []) (hperm : xs.Perm (numbered base d)) :
    (xs.map fun x => slotOf (firstIsZero xs) d.length x.1).Perm (List.range d.length) := by
  have hlen : xs.length = d.length := hperm.length_eq.trans (numbered_length base d)
  have hkeys : (xs.map Prod.fst).Nodup := (hperm.map Prod.fst).nodup_iff.mpr (numbered_nodup base d)
  have hnodup : ((xs.map Prod.fst).map (slotOf (firstIsZero xs) d.length)).Nodup := by
    refine hkeys.map_on fun i hi j hj h => ?_
    obtain ⟨x, hx, rfl⟩ := List.mem_map.mp hi
    obtain ⟨y, hy, rfl⟩ := List.mem_map.mp hj
    exact slotOf_injOn (base_of_firstIsZero hperm) (number_bounds hperm hx)
      (number_bounds hperm hy) h
  rw [List.map_map] at hnodup
  refine (List.subperm_of_subset hnodup fun i hi => ?_).perm_of_length_le ?_
  · obtain ⟨x, hx, rfl⟩ := List.mem_map.mp hi
    exact List.mem_range.mpr (slotOf_lt (List.length_pos_of_ne_nil hd)
      (inRange_of_perm hbase hperm hx))
  · rw [List.length_range, List.length_map, hlen]

/-- The length of the assembled data is that of what the slots keep. -/
theorem assembly_length (hbase : base ≤ 1) (hd : d ≠ []) (hperm : xs.Perm (numbered base d)) :
    (assembly (firstIsZero xs) d.length xs).length =
      ((contents false xs).map fun e => e.2.length).sum := by
  set placed := numberedSlots (firstIsZero xs) d.length (contents false xs) with hplaced
  have hkeys : (placed.map Prod.fst).Perm (List.range d.length) := by
    rw [hplaced, numberedSlots_keys, contents_keys, List.map_map]
    exact slots_perm hbase hd hperm
  have hnodup := hkeys.nodup_iff.mpr List.nodup_range
  calc (assembly (firstIsZero xs) d.length xs).length
      = ((List.range d.length).map fun i => ((Dict.get? placed i).getD []).length).sum := by
        rw [assembly, List.length_flatMap]
    _ = ((placed.map Prod.fst).map fun i => ((Dict.get? placed i).getD []).length).sum :=
        ((hkeys.map _).sum_eq).symm
    _ = (placed.map fun e => e.2.length).sum := by
        rw [List.map_map]
        congr 1
        refine List.map_congr_left fun e he => ?_
        rw [Function.comp_apply, Dict.get?_of_mem hnodup he, Option.getD_some]
    _ = ((contents false xs).map fun e => e.2.length).sum := by
        rw [hplaced, numberedSlots, List.map_map]
        rfl

theorem strip_length_le (data : List ℤ) : (strip data).length ≤ data.length := by
  unfold strip
  split_ifs
  · simp
  · exact le_rfl

theorem strip_eq_self {data : List ℤ} (h : data.length ≤ 2) : strip data = data :=
  if_neg (by omega)

theorem stored_length_le (known : Bool) (x : Block) : (stored known x).length ≤ x.2.length := by
  unfold stored
  split_ifs
  · exact le_rfl
  · exact strip_length_le x.2

theorem contents_length_le (known : Bool) (xs : List Block) :
    ((contents known xs).map fun e => e.2.length).sum ≤ (xs.map fun x => x.2.length).sum := by
  induction xs generalizing known with
  | nil => exact le_rfl
  | cons x xs ih =>
    have hfirst := stored_length_le known x
    have hrest := ih (known || leads x)
    simp only [contents, List.map_cons, List.sum_cons]
    omega

/-- A block that arrives first and is not block 1 loses its header. -/
theorem contents_length_lt {x : Block} (xs : List Block) (hnumber : x.1 ≠ 1) (hlong : 2 < x.2.length) :
    ((contents false (x :: xs)).map fun e => e.2.length).sum <
      ((x :: xs).map fun x => x.2.length).sum := by
  have hstored : stored false x = x.2.drop 2 := by simp [stored, leads, hnumber, strip, hlong]
  have hrest := contents_length_le (false || leads x) xs
  simp only [contents, List.map_cons, List.sum_cons, hstored, List.length_drop]
  omega

/-- Once the kind of data is known, blocks other than block 1 are kept whole. -/
theorem contents_known {xs : List Block} (h : ∀ x ∈ xs, x.1 ≠ 1) : contents true xs = xs := by
  induction xs with
  | nil => rfl
  | cons x xs ih =>
    have hstored : stored true x = x.2 := by simp [stored, h x (by simp)]
    rw [contents, hstored, Bool.true_or, ih fun y hy => h y (List.mem_cons_of_mem _ hy)]

/-- When block 1 leads, it arrives first and every block is kept whole. -/
theorem contents_leads {x : Block} {xs : List Block} (hleads : leads x = true)
    (h : ∀ y ∈ xs, y.1 ≠ 1) : contents false (x :: xs) = x :: xs := by
  have hstored : stored false x = x.2 := by simp [stored, hleads]
  rw [contents, hstored, Bool.false_or, hleads, contents_known h]

/-- What the slots keep where the order does not matter. -/
theorem contents_settled {lead : Bool} (known : Bool) {xs : List Block}
    (hlead : lead = true → ∀ x ∈ xs, (x.1 = 1 → leads x = true) ∧ (x.1 ≠ 1 → x.2.length ≤ 2))
    (hnone : lead = false → known = false ∧ ∀ x ∈ xs, leads x = false) :
    contents known xs = xs.map fun x => (x.1, settled lead x.2) := by
  induction xs generalizing known with
  | nil => rfl
  | cons x xs ih =>
    have hstored : stored known x = settled lead x.2 := by
      cases lead with
      | true =>
        obtain ⟨hone, hother⟩ := hlead rfl x (by simp)
        by_cases hnumber : x.1 = 1
        · simp [stored, hone hnumber, settled]
        · simp [stored, settled, strip_eq_self (hother hnumber)]
      | false =>
        obtain ⟨rfl, hleads⟩ := hnone rfl
        simp [stored, settled, hleads x (by simp)]
    rw [contents, hstored, List.map_cons, ih (known || leads x)
      (fun h y hy => hlead h y (List.mem_cons_of_mem _ hy)) fun h => ?_]
    obtain ⟨hknown, hleads⟩ := hnone h
    exact ⟨by rw [hknown, hleads x (by simp), Bool.or_false],
      fun y hy => hleads y (List.mem_cons_of_mem _ hy)⟩

/-- What the slot of a number keeps. -/
def content (c : Dict ℕ (List ℤ)) (number : ℕ) : List ℤ := (Dict.get? c number).getD []

theorem assembly_zeroBased (total : ℕ) (xs : List Block) :
    assembly true total xs = (List.range total).flatMap (content (contents false xs)) := by
  have hslots : numberedSlots true total (contents false xs) = contents false xs := by
    simp [numberedSlots, slotOf]
  rw [assembly, hslots]
  rfl

theorem get?_numberedSlots {zeroBased : Bool} {total : ℕ} (number : ℕ) {c : Dict ℕ (List ℤ)}
    (h : ∀ e ∈ c, slotOf zeroBased total e.1 = slotOf zeroBased total number → e.1 = number) :
    (Dict.get? (numberedSlots zeroBased total c) (slotOf zeroBased total number)).getD [] =
      content c number := by
  rw [numberedSlots, Dict.get?_map_key c (slotOf zeroBased total) h]
  rfl

theorem assembly_oneBased {total : ℕ} {xs : List Block} (h : ∀ x ∈ xs, 1 ≤ x.1) :
    assembly false total xs =
      (List.range total).flatMap fun i => content (contents false xs) (i + 1) := by
  have hkeys : ∀ e ∈ contents false xs, 1 ≤ e.1 := fun e he => by
    have hmem : e.1 ∈ xs.map Prod.fst := contents_keys false xs ▸ List.mem_map.mpr ⟨e, he, rfl⟩
    obtain ⟨x, hx, hkey⟩ := List.mem_map.mp hmem
    rw [← hkey]
    exact h x hx
  unfold assembly
  refine List.flatMap_congr fun i hi => ?_
  have hslot : slotOf false total (i + 1) = i := by simp [slotOf]
  have hinj : ∀ e ∈ contents false xs, slotOf false total e.1 = slotOf false total (i + 1) →
      e.1 = i + 1 := fun e he hslots => by
    have hkey := hkeys e he
    have hnumber : e.1 ≠ 0 := by omega
    simp only [slotOf, Bool.false_eq_true, if_false, hnumber, Nat.add_one_ne_zero] at hslots
    omega
  have hget := get?_numberedSlots (i + 1) hinj
  rw [hslot] at hget
  exact hget

/-- Numbers from 0 on, of which 0 does not arrive first: block 0 goes to the last slot. -/
theorem assembly_rotated {n : ℕ} {xs : List Block} (h : ∀ x ∈ xs, x.1 ≤ n) :
    assembly false (n + 1) xs =
      ((List.range n).flatMap fun i => content (contents false xs) (i + 1)) ++
        content (contents false xs) 0 := by
  have hkeys : ∀ e ∈ contents false xs, e.1 ≤ n := fun e he => by
    have hmem : e.1 ∈ xs.map Prod.fst := contents_keys false xs ▸ List.mem_map.mpr ⟨e, he, rfl⟩
    obtain ⟨x, hx, hkey⟩ := List.mem_map.mp hmem
    rw [← hkey]
    exact h x hx
  have hinj (number : ℕ) (hnumber : number ≤ n) : ∀ e ∈ contents false xs,
      slotOf false (n + 1) e.1 = slotOf false (n + 1) number → e.1 = number := fun e he hslots => by
    have hkey := hkeys e he
    simp only [slotOf, Bool.false_eq_true, if_false] at hslots
    split_ifs at hslots <;> omega
  have hget (number : ℕ) (hnumber : number ≤ n) := get?_numberedSlots number (hinj number hnumber)
  unfold assembly
  rw [List.range_succ, List.flatMap_append]
  congr 1
  · refine List.flatMap_congr fun i hi => ?_
    have hslot : slotOf false (n + 1) (i + 1) = i := by simp [slotOf]
    have hi' := List.mem_range.mp hi
    rw [← hget (i + 1) (by omega), hslot]
  · have hslot : slotOf false (n + 1) 0 = n := by simp [slotOf]
    rw [← hget 0 (by omega), hslot]
    simp

theorem eq_of_number_eq (hperm : xs.Perm (numbered base d)) {x y : Block} (hx : x ∈ xs) (hy : y ∈ xs)
    (h : x.1 = y.1) : x = y :=
  List.inj_on_of_nodup_map ((hperm.map Prod.fst).nodup_iff.mpr (numbered_nodup base d)) hx hy h

/-- In an order-free transfer the slots keep the same in every order of arrival. -/
theorem contents_orderFree (hfree : leading base d = true → ∀ x ∈ numbered base d, x.1 ≠ 1 → x.2.length ≤ 2)
    (hperm : xs.Perm (numbered base d)) :
    contents false xs = xs.map fun x => (x.1, settled (leading base d) x.2) := by
  refine contents_settled false (fun hlead x hx => ⟨fun hone => ?_, ?_⟩) fun hnone => ⟨rfl, ?_⟩
  · obtain ⟨y, hy, hleads⟩ := List.any_eq_true.mp hlead
    have hnumber : y.1 = 1 := by
      simp only [leads, Bool.and_eq_true, decide_eq_true_eq] at hleads
      exact hleads.1
    rwa [eq_of_number_eq hperm hx (hperm.mem_iff.mpr hy) (hone.trans hnumber.symm)]
  · exact hfree hlead x (hperm.mem_iff.mp hx)
  · intro x hx
    rw [leading, List.any_eq_false] at hnone
    simpa using hnone x (hperm.mem_iff.mp hx)

theorem content_perm (hperm : xs.Perm (numbered base d)) (f : List ℤ → List ℤ) (number : ℕ) :
    content (xs.map fun x => (x.1, f x.2)) number =
      content ((numbered base d).map fun x => (x.1, f x.2)) number := by
  have hkeys : ((xs.map fun x => (x.1, f x.2)).map Prod.fst).Nodup := by
    rw [List.map_map]
    exact (hperm.map Prod.fst).nodup_iff.mpr (numbered_nodup base d)
  rw [content, content, Dict.get?_perm (hperm.map _) hkeys]

/-- The contents of all numbers, in numeric order. -/
theorem flatMap_content_numbered (f : List ℤ → List ℤ) (base : ℕ) (d : List (List ℤ)) :
    (List.range d.length).flatMap (fun i =>
      content ((numbered base d).map fun x => (x.1, f x.2)) (base + i)) = (d.map f).flatten := by
  set c := (numbered base d).map fun x => (x.1, f x.2) with hc
  have hkeys : c.map Prod.fst = (List.range d.length).map (base + ·) := by
    rw [hc, List.map_map, ← List.range'_eq_map_range, ← numbered_keys]
    rfl
  have hnodup : (c.map Prod.fst).Nodup := by
    rw [hkeys, ← List.range'_eq_map_range]
    exact List.nodup_range'
  have hentries : (c.map Prod.fst).flatMap (content c) = c.flatMap Prod.snd := by
    rw [List.flatMap_map]
    refine List.flatMap_congr fun e he => ?_
    rw [content, Dict.get?_of_mem hnodup he, Option.getD_some]
  have hdata : c.flatMap Prod.snd = (d.map f).flatten := by
    rw [hc, List.flatMap_map]
    clear hc hkeys hnodup hentries
    induction d generalizing base with
    | nil => rfl
    | cons data rest ih => simp [numbered, ih]
  rw [← hdata, ← hentries, hkeys, List.flatMap_map]

theorem assembly_settled_one (hperm : xs.Perm (numbered 1 d)) {lead : Bool}
    (hcontents : contents false xs = xs.map fun x => (x.1, settled lead x.2)) :
    assembly false d.length xs = (d.map (settled lead)).flatten := by
  rw [assembly_oneBased fun x hx => (number_bounds hperm hx).1, hcontents,
    ← flatMap_content_numbered (settled lead) 1 d]
  refine List.flatMap_congr fun i _ => ?_
  rw [content_perm hperm, Nat.add_comm]

theorem assembly_settled_zero {first : List ℤ} {rest : List (List ℤ)}
    (hperm : xs.Perm (numbered 0 (first :: rest))) {lead : Bool}
    (hcontents : contents false xs = xs.map fun x => (x.1, settled lead x.2)) (zeroBased : Bool) :
    assembly zeroBased (rest.length + 1) xs =
      if zeroBased then settled lead first ++ (rest.map (settled lead)).flatten
      else (rest.map (settled lead)).flatten ++ settled lead first := by
  set c := (numbered 0 (first :: rest)).map fun x => (x.1, settled lead x.2) with hc
  have hsame : content (contents false xs) = content c := by
    funext number
    rw [hcontents, content_perm hperm]
  have hfirst : content c 0 = settled lead first := by
    rw [hc, numbered, List.map_cons, content, Dict.get?_cons, if_pos rfl, Option.getD_some]
  have hall : (List.range (rest.length + 1)).flatMap (content c) =
      settled lead first ++ (rest.map (settled lead)).flatten := by
    have h := flatMap_content_numbered (settled lead) 0 (first :: rest)
    simp only [Nat.zero_add] at h
    exact h
  have hrest : ((List.range rest.length).flatMap fun i => content c (i + 1)) =
      (rest.map (settled lead)).flatten := by
    rw [List.range_succ_eq_map, List.flatMap_cons, hfirst, List.flatMap_map] at hall
    exact List.append_cancel_left hall
  cases zeroBased with
  | true => rw [assembly_zeroBased, hsame, hall, if_pos rfl]
  | false =>
    have hbound : ∀ x ∈ xs, x.1 ≤ rest.length := fun x hx => by
      have hbounds := number_bounds hperm hx
      rw [List.length_cons] at hbounds
      omega
    rw [assembly_rotated hbound, hsame, hrest, hfirst]
    rfl

/-- If the order does not matter and block 1 starts with a count, no other block is long. -/
theorem short_of_constant (hbase : base ≤ 1) (hd : d ≠ [])
    (hconstant : ∀ xs : List Block, xs.Perm (numbered base d) →
      assembly (firstIsZero xs) d.length xs =
        assembly (firstIsZero (numbered base d)) d.length (numbered base d))
    (hlead : leading base d = true) : ∀ x ∈ numbered base d, x.1 ≠ 1 → x.2.length ≤ 2 := by
  intro x hx hnumber
  by_contra hlong
  obtain ⟨y, hy, hleads⟩ := List.any_eq_true.mp hlead
  have hone : y.1 = 1 := by
    simp only [leads, Bool.and_eq_true, decide_eq_true_eq] at hleads
    exact hleads.1
  have hpermX := (List.perm_cons_erase hx).symm
  have hpermY := (List.perm_cons_erase hy).symm
  have hother : ∀ z ∈ (numbered base d).erase y, z.1 ≠ 1 := by
    intro z hz hz1
    have hzy : z = y := eq_of_number_eq (List.Perm.refl _) (List.mem_of_mem_erase hz) hy
      (hz1.trans hone.symm)
    have hnodup : (numbered base d).Nodup := (numbered_nodup base d).of_map
    exact (hnodup.mem_erase_iff.mp hz).1 hzy
  have hlengthX := congrArg List.length (hconstant _ hpermX)
  have hlengthY := congrArg List.length (hconstant _ hpermY)
  rw [assembly_length hbase hd hpermX] at hlengthX
  rw [assembly_length hbase hd hpermY, contents_leads hleads hother] at hlengthY
  have hless := contents_length_lt ((numbered base d).erase x) hnumber (by omega)
  have hsumX := (hpermX.map fun x : Block => x.2.length).sum_eq
  have hsumY := (hpermY.map fun x : Block => x.2.length).sum_eq
  have hsame : ((y :: (numbered base d).erase y).map fun x : Block => x.2.length).sum =
      ((contents false (x :: (numbered base d).erase x)).map fun e => e.2.length).sum :=
    hlengthY.trans hlengthX.symm
  omega

theorem assembly_constant_iff (hbase : base ≤ 1) (hd : d ≠ []) :
    (∀ xs : List Block, xs.Perm (numbered base d) → assembly (firstIsZero xs) d.length xs =
      assembly (firstIsZero (numbered base d)) d.length (numbered base d)) ↔ OrderFree base d := by
  have hone : base = 0 ∨ base = 1 := by omega
  constructor
  · intro hconstant
    have hshort := short_of_constant hbase hd hconstant
    refine ⟨hshort, fun hzero => ?_⟩
    subst hzero
    rcases d with _ | ⟨first, _ | ⟨second, tail⟩⟩
    · exact absurd rfl hd
    · simp
    · have hperm : ((1, second) :: (0, first) :: numbered 2 tail).Perm
          (numbered 0 (first :: second :: tail)) := List.Perm.swap _ _ _
      have h := hconstant _ hperm
      rw [List.length_cons, assembly_settled_zero hperm (contents_orderFree hshort hperm),
        assembly_settled_zero (List.Perm.refl _) (contents_orderFree hshort (List.Perm.refl _))] at h
      exact h
  · rintro ⟨hshort, hrotate⟩ xs hperm
    have hcontents := contents_orderFree hshort hperm
    have hcontents' := contents_orderFree hshort (List.Perm.refl (numbered base d))
    rcases hone with rfl | rfl
    · obtain ⟨first, rest, rfl⟩ := List.exists_cons_of_ne_nil hd
      rw [List.length_cons, assembly_settled_zero hperm hcontents,
        assembly_settled_zero (List.Perm.refl _) hcontents']
      have hturn := hrotate rfl
      simp only [List.tail_cons, List.headD_cons] at hturn
      split_ifs
      · rfl
      · exact hturn.symm
      · exact hturn
      · rfl
    · have hnot (ys : List Block) (hys : ys.Perm (numbered 1 d)) : firstIsZero ys = false := by
        rw [← Bool.not_eq_true]
        intro htrue
        exact absurd (base_of_firstIsZero hys htrue) one_ne_zero
      rw [hnot xs hperm, hnot _ (List.Perm.refl _), assembly_settled_one hperm hcontents,
        assembly_settled_one (List.Perm.refl _) hcontents']

end Order

theorem numbered_ne_nil {base : ℕ} {d : List (List ℤ)} (hd : d ≠ []) : numbered base d ≠ [] := by
  obtain ⟨first, rest, rfl⟩ := List.exists_cons_of_ne_nil hd
  simp [numbered]

/-- The answers and the assembled data of blocks that arrive in some order. -/
theorem arrivals_of_perm (py : Runtime) {a : State} {id : String} (hid : id ≠ "")
    (hnew : Dict.get? a id = none) {base : ℕ} (hbase : base ≤ 1) {d : List (List ℤ)} (hd : d ≠ [])
    {arrivals : List Arrival} (hperm : (arrivals.map Arrival.block).Perm (numbered base d)) :
    outputs (step py) a (arrivals.map (Arrival.operation id d.length)) =
      List.replicate (d.length - 1) (.ok (.bool false)) ++ [.ok (.bool true)] ∧
    getAssembledData py (.str id)
        (final (step py) a (arrivals.map (Arrival.operation id d.length))) =
      (.ok (.list (integers (assembly (firstIsZero (arrivals.map Arrival.block)) d.length
        (arrivals.map Arrival.block)))),
        Dict.erase (final (step py) a (arrivals.map (Arrival.operation id d.length))) id) := by
  have hne : arrivals ≠ [] := by
    rintro rfl
    exact numbered_ne_nil hd hperm.symm.eq_nil
  obtain ⟨first, rest, rfl⟩ := List.exists_cons_of_ne_nil hne
  refine arrivals_assembled py hid hnew (fun x hx => ?_) ?_
  · exact inRange_of_perm hbase hperm (List.mem_map.mpr ⟨x, hx, rfl⟩)
  · have hslots := slots_perm hbase hd hperm
    rwa [List.map_map] at hslots

/-- A call without a request id is turned down. -/
theorem outputs_of_empty_id (py : Runtime) (a : State) (total : ℕ) (arrivals : List Arrival) :
    outputs (step py) a (arrivals.map (Arrival.operation "" total)) =
      List.replicate arrivals.length (.ok (.bool false)) := by
  induction arrivals with
  | nil => rfl
  | cons x rest ih =>
    have hstep : step py a (x.operation "" total) = (.ok (.bool false), a) := by
      simp [Arrival.operation, step, registerBlock, validArguments, Value.int?]
    rw [List.map_cons, outputs_cons, hstep, ih, List.length_cons, List.replicate_succ]

/-- The reassembly of a new transfer is independent of the order of arrival exactly for order-free
data, and for a request id that is not empty. -/
theorem order_independent_iff (py : Runtime) {a : State} {id : String}
    (hnew : Dict.get? a id = none) (zeroBased : Bool) {d : List (List ℤ)} (hd : d ≠ []) :
    OrderIndependent py a id (if zeroBased then 0 else 1) d ↔
      id ≠ "" ∧ OrderFree (if zeroBased then 0 else 1) d := by
  have hbase : (if zeroBased then 0 else 1) ≤ 1 := by split_ifs <;> omega
  generalize (if zeroBased then 0 else 1) = base at hbase
  have harrive : ∀ xs : List Block, ∃ arrivals : List Arrival, arrivals.map Arrival.block = xs :=
    fun xs => ⟨xs.map fun x => ⟨x, .none, 0⟩, by simp [Function.comp_def]⟩
  by_cases hid : id = ""
  · subst hid
    refine iff_of_false (fun h => ?_) fun h => h.1 rfl
    obtain ⟨arrivals, harrivals⟩ := harrive (numbered base d)
    have hlength : arrivals.length = d.length := by
      rw [← numbered_length base d, ← harrivals, List.length_map]
    have houtputs := (h arrivals (harrivals ▸ List.Perm.refl _)).1
    rw [outputs_of_empty_id] at houtputs
    have hmem : (.ok (.bool true) : Except Exception Value) ∈
        List.replicate arrivals.length (.ok (.bool false)) := houtputs ▸ by simp
    have hfalse := List.eq_of_mem_replicate hmem
    simp at hfalse
  · rw [← assembly_constant_iff hbase hd]
    constructor
    · refine fun h => ⟨hid, fun xs hperm => ?_⟩
      obtain ⟨arrivals, rfl⟩ := harrive xs
      obtain ⟨inOrder, hinOrder⟩ := harrive (numbered base d)
      have hsame := (h arrivals hperm).2 inOrder hinOrder
      rw [(arrivals_of_perm py hid hnew hbase hd hperm).2,
        (arrivals_of_perm py hid hnew hbase hd (hinOrder ▸ List.Perm.refl _)).2, hinOrder] at hsame
      simp only [Except.ok.injEq, Value.list.injEq] at hsame
      exact (List.map_injective_iff.mpr fun m n h => Value.int.inj h) hsame
    · rintro ⟨-, hconstant⟩ arrivals hperm
      refine ⟨(arrivals_of_perm py hid hnew hbase hd hperm).1, fun inOrder hinOrder => ?_⟩
      rw [(arrivals_of_perm py hid hnew hbase hd hperm).2,
        (arrivals_of_perm py hid hnew hbase hd (hinOrder ▸ List.Perm.refl _)).2, hinOrder,
        hconstant _ hperm]

theorem order_independent_short_blocks :
    OrderIndependent Runtime.ascii [] "r" 1 [[2, 7, 9], [5, 6], [4]] :=
  (order_independent_iff Runtime.ascii rfl false (by decide)).mpr ⟨by decide, by decide, by decide⟩

/-- The first block starts with a count and the second one, which arrives before it, is stripped. -/
theorem order_dependent_long_block :
    ¬OrderIndependent Runtime.ascii [] "r" 1 [[2, 7], [4, 5, 6]] := by
  intro h
  have hsame := (h [⟨(2, [4, 5, 6]), .none, 0⟩, ⟨(1, [2, 7]), .none, 0⟩] (List.Perm.swap _ _ _)).2
    [⟨(1, [2, 7]), .none, 0⟩, ⟨(2, [4, 5, 6]), .none, 0⟩] rfl
  revert hsame
  decide +kernel

end Fmofp.BlockTransfer
