import Fmofp.Storage.ConnectionPool

/-! The account of the connection pool.  Each caller on its way takes up a slot or none, and the count
of connections is the queue, the slots of the callers and the slots that were lost: one for each
rollback that raises another error than an operational one. -/

namespace Fmofp.Storage

open Python Machine

/-- The slots that a caller takes up. -/
def Phase.slots : Phase → ℕ
  | creating _ | failed | held _ | returning _ | validating _ | closing _ | dropping | refilling
  | refillFailed => 1
  | _ => 0

/-- The action is the rollback of a transaction that raises another error. -/
def LosesSlot (s : State) : Action → Prop
  | .rollback caller .otherError => match s.phase caller with
    | .returning conn => Dict.getD s.transactionStates conn false = true
    | _ => False
  | _ => False

instance (s : State) (a : Action) : Decidable (LosesSlot s a) := by
  unfold LosesSlot
  split
  · split <;> infer_instance
  · infer_instance

/-- The slots that a run loses. -/
def lost (limits : Limits) : State → List Action → ℕ
  | _, [] => 0
  | s, a :: actions => (if LosesSlot s a then 1 else 0) + lost limits (next limits s a) actions

/-- What a step does to the queue, the count and the caller that takes it. -/
inductive Moves (limits : Limits) (s : State) (a : Action) (s' : State) : Prop
  | stay (hlost : ¬LosesSlot s a) (hsame : s' = s)
  /-- The caller goes on, with its slot and at most the connection that it has. -/
  | go {caller : ℕ} {p : Phase} (hlost : ¬LosesSlot s a) (hpool : s'.pool = s.pool)
      (hcount : s'.connectionCount = s.connectionCount)
      (hcalls : s'.calls = Dict.set s.calls caller p) (hslots : p.slots = (s.phase caller).slots)
      (hconn : p.connections ≤ (s.phase caller).connections)
  | checkOut {caller : ℕ} {conn : Connection} (hlost : ¬LosesSlot s a)
      (hpool : s.pool = conn :: s'.pool) (hcount : s'.connectionCount = s.connectionCount)
      (hcalls : s'.calls = Dict.set s.calls caller (.held conn))
      (hslots : (s.phase caller).slots = 0) (hconn : (s.phase caller).connections = 0)
  | reserve {caller : ℕ} {p : Phase} (hlost : ¬LosesSlot s a) (hpool : s'.pool = s.pool)
      (hmax : s.connectionCount < limits.maxConnections)
      (hcount : s'.connectionCount = s.connectionCount + 1)
      (hcalls : s'.calls = Dict.set s.calls caller p) (hslots : (s.phase caller).slots = 0)
      (hp : p.slots = 1) (hconn : p.connections = 0)
  | created {caller : ℕ} {conn : Connection} (hlost : ¬LosesSlot s a)
      (hnew : conn ∉ s.connections) (hpool : s'.pool = s.pool)
      (hcount : s'.connectionCount = s.connectionCount)
      (hcalls : s'.calls = Dict.set s.calls caller (.held conn))
      (hslots : (s.phase caller).slots = 1) (hconn : (s.phase caller).connections = 0)
  | put {caller : ℕ} {conn : Connection} (hlost : ¬LosesSlot s a)
      (hpool : s'.pool = s.pool ++ [conn]) (hcount : s'.connectionCount = s.connectionCount)
      (hcalls : s'.calls = Dict.set s.calls caller .idle) (hslots : (s.phase caller).slots = 1)
      (hconn : (s.phase caller).connections = {conn} ∨
        (s.phase caller).connections = 0 ∧ conn ∉ s.connections)
  | drop {caller : ℕ} (hlost : ¬LosesSlot s a) (hpool : s'.pool = s.pool)
      (hcount : s'.connectionCount = s.connectionCount - 1)
      (hcalls : s'.calls = Dict.set s.calls caller .idle) (hslots : (s.phase caller).slots = 1)
  | lose {caller : ℕ} {p : Phase} (hlost : LosesSlot s a) (hpool : s'.pool = s.pool)
      (hcount : s'.connectionCount = s.connectionCount)
      (hcalls : s'.calls = Dict.set s.calls caller p) (hslots : (s.phase caller).slots = 1)
      (hp : p.slots = 0) (hconn : p.connections = 0)

theorem moves_next (limits : Limits) (s : State) (a : Action) : Moves limits s a (next limits s a) := by
  cases a with
  | get caller forTransaction =>
    have hlost : ¬LosesSlot s (.get caller forTransaction) := id
    simp only [next]
    split
    · rename_i h
      exact .go hlost rfl rfl rfl (by rw [h]; rfl) (by rw [h]; exact le_refl _)
    · exact .stay hlost rfl
  | take caller =>
    have hlost : ¬LosesSlot s (.take caller) := id
    simp only [next]
    split
    · rename_i forTransaction h
      unfold State.takeFromPool
      split
      · rename_i conn rest hpool
        exact .checkOut hlost hpool rfl rfl (by rw [h]; rfl) (by rw [h]; rfl)
      · exact .go hlost rfl rfl rfl (by rw [h]; rfl) (by rw [h]; exact le_refl _)
    · exact .stay hlost rfl
  | grow caller =>
    have hlost : ¬LosesSlot s (.grow caller) := id
    simp only [next]
    split
    · rename_i forTransaction last h
      unfold State.grow
      split_ifs with hmax hlast
      · exact .go hlost rfl rfl rfl (by rw [h]; rfl) (by rw [h]; exact le_refl _)
      · exact .go hlost rfl rfl rfl (by rw [h]; rfl) (by rw [h]; exact le_refl _)
      · exact .reserve hlost rfl (not_le.mp hmax) rfl rfl (by rw [h]; rfl) rfl rfl
    · exact .stay hlost rfl
  | create caller conn =>
    have hlost : ¬LosesSlot s (.create caller conn) := id
    simp only [next]
    cases conn with
    | none =>
      unfold State.create
      dsimp only
      split
      · rename_i h
        exact .go hlost rfl rfl rfl (by rw [h]; rfl) (by rw [h]; exact le_refl _)
      · rename_i h
        exact .go hlost rfl rfl rfl (by rw [h]; rfl) (by rw [h]; exact le_refl _)
      · exact .stay hlost rfl
    | some conn =>
      unfold State.create
      dsimp only
      split_ifs with hnew
      · exact .stay hlost rfl
      · split
        · rename_i h
          exact .created hlost hnew rfl rfl rfl (by rw [h]; rfl) (by rw [h]; rfl)
        · rename_i h
          exact .put hlost rfl rfl rfl (by rw [h]; rfl) (.inr ⟨by rw [h]; rfl, hnew⟩)
        · exact .stay hlost rfl
  | release caller =>
    have hlost : ¬LosesSlot s (.release caller) := id
    simp only [next]
    split
    · rename_i h
      exact .drop hlost rfl rfl rfl (by rw [h]; rfl)
    · rename_i h
      exact .drop hlost rfl rfl rfl (by rw [h]; rfl)
    · exact .stay hlost rfl
  | receive caller =>
    have hlost : ¬LosesSlot s (.receive caller) := id
    simp only [next]
    split
    · rename_i forTransaction h
      unfold State.takeFromPool
      split
      · rename_i conn rest hpool
        exact .checkOut hlost hpool rfl rfl (by rw [h]; rfl) (by rw [h]; rfl)
      · exact .stay hlost rfl
    · exact .stay hlost rfl
  | timeOut caller =>
    have hlost : ¬LosesSlot s (.timeOut caller) := id
    simp only [next]
    split
    · rename_i forTransaction h
      split_ifs
      · exact .go hlost rfl rfl rfl (by rw [h]; rfl) (by rw [h]; exact le_refl _)
      · exact .stay hlost rfl
    · exact .stay hlost rfl
  | giveBack caller =>
    have hlost : ¬LosesSlot s (.giveBack caller) := id
    simp only [next]
    split
    · rename_i conn h
      exact .go hlost rfl rfl rfl (by rw [h]; rfl) (by rw [h]; exact le_refl _)
    · exact .stay hlost rfl
  | rollback caller outcome =>
    simp only [next]
    split
    · rename_i conn h
      have hgo : ∀ {states : Dict Connection Bool}, ¬LosesSlot s (.rollback caller outcome) →
          Moves limits s (.rollback caller outcome)
            { s.goTo caller (.validating conn) with transactionStates := states } := fun hlost =>
        .go hlost rfl rfl rfl (by rw [h]; rfl) (by rw [h]; exact le_refl _)
      unfold State.rollback
      split_ifs with hstates herror
      · subst herror
        exact .lose (by simpa [LosesSlot, h] using hstates) rfl rfl rfl (by rw [h]; rfl) rfl rfl
      · exact hgo (by cases outcome <;> simp_all [LosesSlot])
      · exact hgo (by cases outcome <;> simp_all [LosesSlot])
    · rename_i h
      refine .stay ?_ rfl
      cases outcome with
      | ok | operationalError => exact id
      | otherError =>
        simp only [LosesSlot]
        exact id
  | validate caller valid =>
    have hlost : ¬LosesSlot s (.validate caller valid) := id
    simp only [next]
    split
    · rename_i conn h
      split_ifs
      · exact .put hlost rfl rfl rfl (by rw [h]; rfl) (.inl (by rw [h]; rfl))
      · exact .go hlost rfl rfl rfl (by rw [h]; rfl) (by rw [h]; exact le_refl _)
    · exact .stay hlost rfl
  | close caller =>
    have hlost : ¬LosesSlot s (.close caller) := id
    simp only [next]
    split
    · rename_i conn h
      exact .go hlost rfl rfl rfl (by rw [h]; rfl) (Multiset.zero_le _)
    · exact .stay hlost rfl
  | drop caller =>
    have hlost : ¬LosesSlot s (.drop caller) := id
    simp only [next]
    split
    · rename_i h
      unfold State.drop
      split_ifs
      · exact .go hlost rfl rfl rfl (by rw [h]; rfl) (by rw [h]; exact le_refl _)
      · exact .drop hlost rfl rfl rfl (by rw [h]; rfl)
    · exact .stay hlost rfl
  | abandon caller =>
    have hlost : ¬LosesSlot s (.abandon caller) := id
    simp only [next]
    split
    · rename_i conn h
      exact .go hlost rfl rfl rfl (by rw [h]; rfl) (Multiset.zero_le _)
    · exact .stay hlost rfl

/-- The slots that the callers take up. -/
def State.slots (s : State) : ℕ := Dict.tally Phase.slots s.calls

theorem slots_of_calls {s s' : State} {caller : ℕ} {p : Phase}
    (h : s'.calls = Dict.set s.calls caller p) :
    s'.slots + (s.phase caller).slots = s.slots + p.slots := by
  unfold State.slots State.phase
  rw [h]
  exact Dict.tally_set (show Phase.idle.slots = 0 from rfl) s.calls caller p

/-- A step keeps the count balanced, but for the slot that it loses. -/
theorem balance_next (limits : Limits) (s : State) (a : Action) :
    (next limits s a).connectionCount + s.pool.length + s.slots =
      s.connectionCount + (next limits s a).pool.length + (next limits s a).slots +
        if LosesSlot s a then 1 else 0 := by
  have hidle : Phase.idle.slots = 0 := rfl
  have hheld : ∀ conn, (Phase.held conn).slots = 1 := fun _ => rfl
  have hmoves := moves_next limits s a
  generalize next limits s a = s' at hmoves
  cases hmoves with
  | stay hlost hsame => rw [if_neg hlost, add_zero, hsame]
  | go hlost hpool hcount hcalls hslots =>
    have hsum := slots_of_calls hcalls
    rw [if_neg hlost, hpool, hcount]
    omega
  | @checkOut caller conn hlost hpool hcount hcalls hslots =>
    have hsum := slots_of_calls hcalls
    have hconn := hheld conn
    rw [if_neg hlost, hpool, hcount, List.length_cons]
    omega
  | reserve hlost hpool hmax hcount hcalls hslots hp =>
    have hsum := slots_of_calls hcalls
    rw [if_neg hlost, hpool, hcount]
    omega
  | @created caller conn hlost hnew hpool hcount hcalls hslots =>
    have hsum := slots_of_calls hcalls
    have hconn := hheld conn
    rw [if_neg hlost, hpool, hcount]
    omega
  | put hlost hpool hcount hcalls hslots =>
    have hsum := slots_of_calls hcalls
    rw [if_neg hlost, hpool, hcount, List.length_append, List.length_singleton]
    omega
  | drop hlost hpool hcount hcalls hslots =>
    have hsum := slots_of_calls hcalls
    rw [if_neg hlost, hpool, hcount]
    omega
  | lose hlost hpool hcount hcalls hslots hp =>
    have hsum := slots_of_calls hcalls
    rw [if_pos hlost, hpool, hcount]
    omega

theorem balance_final (limits : Limits) (s : State) (actions : List Action) :
    (final (step limits) s actions).connectionCount + s.pool.length + s.slots =
      s.connectionCount + (final (step limits) s actions).pool.length +
        (final (step limits) s actions).slots + lost limits s actions := by
  induction actions generalizing s with
  | nil => simp [lost]
  | cons a actions ih =>
    have hnext := balance_next limits s a
    have hrest := ih (next limits s a)
    have hcons : final (step limits) s (a :: actions) = final (step limits) (next limits s a) actions :=
      rfl
    rw [hcons, lost]
    push_cast
    omega

theorem start_eq (limits : Limits) : start limits =
    ⟨List.range limits.minConnections.toNat, limits.minConnections.toNat, [], []⟩ := by
  unfold start
  generalize limits.minConnections.toNat = n
  induction n with
  | zero => rfl
  | succ n ih =>
    rw [List.range_succ, List.foldl_append, ih]
    simp

/-- In every state the count is the queue, the slots of the callers and the slots that are lost. -/
theorem connectionCount_eq (limits : Limits) (actions : List Action) :
    (final (step limits) (start limits) actions).connectionCount =
      (final (step limits) (start limits) actions).pool.length +
        (final (step limits) (start limits) actions).slots + lost limits (start limits) actions := by
  have hbalance := balance_final limits (start limits) actions
  have hslots : (start limits).slots = 0 := by rw [start_eq]; rfl
  have hcount : (start limits).connectionCount = (start limits).pool.length := by
    rw [start_eq, List.length_range]
  omega

/-! ### The bound -/

theorem count_le_next {limits : Limits} {s : State} (h : s.connectionCount ≤ limits.maxConnections)
    (a : Action) : (next limits s a).connectionCount ≤ limits.maxConnections := by
  have hmoves := moves_next limits s a
  generalize next limits s a = s' at hmoves ⊢
  cases hmoves with
  | stay hlost hsame =>
    rw [hsame]
    exact h
  | go _ _ hcount | checkOut _ _ hcount | created _ _ _ hcount | put _ _ hcount | lose _ _ hcount =>
    rw [hcount]
    exact h
  | reserve _ _ hmax hcount => omega
  | drop _ _ hcount => omega

theorem count_le (limits : Limits) (h : (limits.minConnections.toNat : ℤ) ≤ limits.maxConnections)
    (actions : List Action) :
    (final (step limits) (start limits) actions).connectionCount ≤ limits.maxConnections := by
  refine invariant_final (fun s : State => s.connectionCount ≤ limits.maxConnections)
    (fun s a hs => count_le_next hs a) ?_ actions
  rw [start_eq]
  exact h

/-! ### The holders -/

/-- What one caller exchanges of its connections, the queue and the callers exchange together. -/
theorem connections_of_calls {s s' : State} {caller : ℕ} {p : Phase}
    (h : s'.calls = Dict.set s.calls caller p) :
    s'.connections + (s.phase caller).connections + s.pool =
      s.connections + p.connections + s'.pool := by
  have htally : Dict.tally Phase.connections s'.calls + (s.phase caller).connections =
      Dict.tally Phase.connections s.calls + p.connections := by
    rw [h]
    exact Dict.tally_set (show Phase.idle.connections = 0 from rfl) s.calls caller p
  unfold State.connections
  rw [add_assoc (s'.pool : Multiset Connection), htally]
  abel

/-- A step leaves the connections as they are, drops one, or adds a new one. -/
theorem connections_next (limits : Limits) (s : State) (a : Action) :
    (next limits s a).connections ≤ s.connections ∨
      ∃ conn ∉ s.connections, (next limits s a).connections = s.connections + {conn} := by
  have hmoves := moves_next limits s a
  generalize next limits s a = s' at hmoves ⊢
  have hless : ∀ {caller : ℕ} {p : Phase}, s'.pool = s.pool →
      s'.calls = Dict.set s.calls caller p → p.connections ≤ (s.phase caller).connections →
      s'.connections ≤ s.connections := by
    intro caller p hpool hcalls hconn
    have hsum := connections_of_calls hcalls
    rw [hpool] at hsum
    have hsame := add_right_cancel hsum
    refine le_of_add_le_add_right (a := (s.phase caller).connections) ?_
    rw [hsame]
    exact add_le_add_right hconn _
  cases hmoves with
  | stay hlost hsame => exact .inl (by rw [hsame])
  | go _ hpool _ hcalls _ hconn => exact .inl (hless hpool hcalls hconn)
  | reserve _ hpool _ _ hcalls _ _ hconn =>
    exact .inl (hless hpool hcalls (by rw [hconn]; exact Multiset.zero_le _))
  | drop _ hpool _ hcalls => exact .inl (hless hpool hcalls (Multiset.zero_le _))
  | lose _ hpool _ hcalls _ _ hconn =>
    exact .inl (hless hpool hcalls (by rw [hconn]; exact Multiset.zero_le _))
  | @checkOut caller conn _ hpool _ hcalls _ hconn =>
    left
    have hsum := connections_of_calls hcalls
    have hqueue : (s.pool : Multiset Connection) = {conn} + s'.pool := by
      rw [hpool]
      rfl
    rw [hconn, hqueue, add_zero, ← add_assoc] at hsum
    exact (add_right_cancel (add_right_cancel hsum)).le
  | @created caller conn _ hnew hpool _ hcalls _ hconn =>
    have hsum := connections_of_calls hcalls
    rw [hconn, add_zero, hpool] at hsum
    exact .inr ⟨conn, hnew, add_right_cancel hsum⟩
  | @put caller conn _ hpool _ hcalls _ hconn =>
    have hsum := connections_of_calls hcalls
    have hqueue : (s'.pool : Multiset Connection) = {conn} + s.pool := by
      rw [hpool, ← Multiset.coe_add, add_comm]
      rfl
    rw [hqueue, ← add_assoc] at hsum
    have hsame := add_right_cancel hsum
    change _ = s.connections + 0 + {conn} at hsame
    rw [add_zero] at hsame
    rcases hconn with hconn | ⟨hconn, hnew⟩
    · rw [hconn] at hsame
      exact .inl (add_right_cancel hsame).le
    · rw [hconn, add_zero] at hsame
      exact .inr ⟨conn, hnew, hsame⟩

theorem nodup_connections (limits : Limits) (actions : List Action) :
    (final (step limits) (start limits) actions).connections.Nodup := by
  refine invariant_final (fun s : State => s.connections.Nodup) (fun s a hs => ?_) ?_ actions
  · rcases connections_next limits s a with hle | ⟨conn, hnew, hmore⟩
    · exact Multiset.nodup_of_le hle hs
    · show (next limits s a).connections.Nodup
      rw [hmore, add_comm]
      exact Multiset.nodup_cons.mpr ⟨hnew, hs⟩
  · rw [start_eq]
    show (Multiset.Nodup (_ + 0))
    rw [add_zero]
    exact Multiset.coe_nodup.mpr List.nodup_range

/-- No connection is held by two callers. -/
theorem holder_unique {s : State} (h : s.connections.Nodup) {a b : ℕ} {conn : Connection}
    (ha : s.phase a = .held conn) (hb : s.phase b = .held conn) : a = b := by
  by_contra hne
  obtain ⟨rest, hrest⟩ :=
    Dict.exists_tally_eq (show Phase.idle.connections = 0 from rfl) s.calls hne
  change _ = rest + (s.phase b).connections + (s.phase a).connections at hrest
  rw [ha, hb] at hrest
  unfold State.connections at h
  rw [hrest, add_assoc, ← add_assoc] at h
  exact Multiset.disjoint_left.mp
    (Multiset.nodup_add.mp (Multiset.nodup_of_le (Multiset.le_add_left _ _) h)).2.2
    (Multiset.mem_singleton_self conn) (Multiset.mem_singleton_self conn)

/-- The caller is in no call. -/
def Phase.quiet : Phase → Bool
  | idle | held _ => true
  | _ => false

/-- No call is in progress. -/
def Quiet (s : State) : Prop := ∀ e ∈ s.calls, e.2.quiet = true

instance (s : State) : Decidable (Quiet s) := inferInstanceAs (Decidable (∀ e ∈ s.calls, _))

/-- The connections that are checked out while no call is in progress. -/
def checkedOut (s : State) : ℕ := s.calls.countP fun e => e.2.connections ≠ 0

theorem slots_of_quiet {s : State} (h : Quiet s) : s.slots = checkedOut s := by
  unfold Quiet at h
  unfold State.slots checkedOut
  generalize s.calls = calls at h
  induction calls with
  | nil => rfl
  | cons e calls ih =>
    rw [List.forall_mem_cons] at h
    obtain ⟨caller, p⟩ := e
    rw [Dict.tally_cons, ih h.2, List.countP_cons, add_comm]
    cases p with
    | idle | held => rfl
    | _ => cases h.1

theorem lost_eq_zero_iff (limits : Limits) (s : State) (actions : List Action) :
    lost limits s actions = 0 ↔ Along (step limits) (fun s a => ¬LosesSlot s a) s actions := by
  induction actions generalizing s with
  | nil => exact iff_of_true rfl trivial
  | cons a actions ih =>
    rw [lost, Nat.add_eq_zero_iff, ih]
    refine and_congr_left fun _ => ?_
    by_cases hlost : LosesSlot s a <;> simp [hlost]

/-- For every run: in a state with no call in progress the count is the idle connections and those
checked out exactly when no rollback of the run has raised an error that is not operational; no
connection is held by two callers; and the count is never past the maximum, where the minimum is not. -/
theorem pool_accounting (limits : Limits) (actions : List Action) :
    (Quiet (final (step limits) (start limits) actions) →
      ((final (step limits) (start limits) actions).connectionCount =
          (final (step limits) (start limits) actions).pool.length +
            checkedOut (final (step limits) (start limits) actions) ↔
        Along (step limits) (fun s a => ¬LosesSlot s a) (start limits) actions)) ∧
    (∀ a b conn, (final (step limits) (start limits) actions).phase a = .held conn →
      (final (step limits) (start limits) actions).phase b = .held conn → a = b) ∧
    ((∀ before, before <+: actions →
        (final (step limits) (start limits) before).connectionCount ≤ limits.maxConnections) ↔
      (limits.minConnections.toNat : ℤ) ≤ limits.maxConnections) := by
  refine ⟨fun hquiet => ?_, fun a b conn => holder_unique (nodup_connections limits actions), ?_⟩
  · rw [connectionCount_eq, slots_of_quiet hquiet, ← lost_eq_zero_iff]
    omega
  · constructor
    · intro hbound
      have hstart := hbound [] (List.nil_prefix)
      rw [final_nil, start_eq] at hstart
      exact hstart
    · intro hlimits before _
      exact count_le limits hlimits before

theorem pool_accounting_sample :
    (final (step ⟨1, 2⟩) (start ⟨1, 2⟩) [.get 0 true, .take 0, .get 1 false, .take 1, .grow 1,
      .create 1 (some 7), .giveBack 0, .rollback 0 .operationalError, .validate 0 false, .close 0,
      .drop 0]).connectionCount = 1 := by
  refine ((pool_accounting ⟨1, 2⟩ [.get 0 true, .take 0, .get 1 false, .take 1, .grow 1,
    .create 1 (some 7), .giveBack 0, .rollback 0 .operationalError, .validate 0 false, .close 0,
    .drop 0]).1 (by decide +kernel)).mpr (by decide +kernel)

/-- The rollback of a transaction on a closed connection raises `ProgrammingError`: the connection is
neither put back nor dropped, and its slot stays counted. -/
theorem slot_lost :
    ¬∀ (limits : Limits) (actions : List Action),
      Quiet (final (step limits) (start limits) actions) →
        (final (step limits) (start limits) actions).connectionCount =
          (final (step limits) (start limits) actions).pool.length +
            checkedOut (final (step limits) (start limits) actions) := by
  intro h
  exact absurd (h ⟨1, 2⟩ [.get 0 true, .take 0, .giveBack 0, .rollback 0 .otherError, .abandon 0]
    (by decide +kernel)) (by decide +kernel)

end Fmofp.Storage
