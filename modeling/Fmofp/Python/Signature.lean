import Fmofp.Python.Value

/-! Signatures of functions, and what a call by position and by keyword binds to their parameters. -/

namespace Python

inductive ParameterKind where
  | positionalOnly
  | positionalOrKeyword
  | varPositional
  | keywordOnly
  | varKeyword
  deriving DecidableEq

namespace ParameterKind

/-- The order in which the kinds stand in a signature. -/
def rank : ParameterKind → ℕ
  | positionalOnly => 0
  | positionalOrKeyword => 1
  | varPositional => 2
  | keywordOnly => 3
  | varKeyword => 4

def takesPosition (kind : ParameterKind) : Bool := decide (kind.rank ≤ 1)

def takesKeyword (kind : ParameterKind) : Bool := kind == positionalOrKeyword || kind == keywordOnly

/-- A parameter that stands for any number of arguments. -/
def isVar (kind : ParameterKind) : Bool := kind == varPositional || kind == varKeyword

end ParameterKind

structure Parameter where
  name : String
  kind : ParameterKind
  default : Option Value
  deriving DecidableEq

/-- The parameters, with distinct names, kind by kind; there is one `*args` and one `**kwargs` at most. -/
structure Signature where
  parameters : List Parameter
  names : (parameters.map Parameter.name).Nodup
  kinds : parameters.Pairwise fun p q => p.kind.rank < q.kind.rank ∨ p.kind = q.kind ∧ p.kind.isVar = false

abbrev Arguments := List Value

/-- Arguments by keyword. -/
abbrev Keywords := Dict String Value

namespace Signature

variable (sig : Signature)

def takesKeyword (name : String) : Bool :=
  sig.parameters.any fun p => p.kind.takesKeyword && decide (p.name = name)

/-- What the parameter at position `k` gets, if it gets one value. -/
def bound (args : Arguments) (kwargs : Keywords) (p : Parameter) (k : ℕ) : Option Value :=
  match p.kind with
  | .positionalOnly => args[k]?.or p.default
  | .positionalOrKeyword => match args[k]? with
    | some v => if Dict.has kwargs p.name then none else some v
    | none => (Dict.get? kwargs p.name).or p.default
  | .varPositional => some (.tuple (args.drop k))
  | .keywordOnly => (Dict.get? kwargs p.name).or p.default
  | .varKeyword => some (.dict (kwargs.filter fun e => !sig.takesKeyword e.1))

/-- No argument is left over. -/
def accepts (args : Arguments) (kwargs : Keywords) : Bool :=
  (decide (args.length ≤ sig.parameters.countP fun p => p.kind.takesPosition) ||
      sig.parameters.any fun p => p.kind == .varPositional) &&
    (kwargs.all (fun e => sig.takesKeyword e.1) || sig.parameters.any fun p => p.kind == .varKeyword)

/-- The values of the parameters, if Python accepts the call. -/
def bind (args : Arguments) (kwargs : Keywords) : Option (List Value) :=
  if sig.accepts args kwargs then sig.parameters.zipIdx.mapM fun e => sig.bound args kwargs e.1 e.2 else none

end Signature

/-! ### Values of parameters -/

/-- A write to a key that the filter takes out. -/
theorem Dict.filter_set_of_false {κ α : Type} [DecidableEq κ] (f : κ → Bool) {k : κ} (hk : f k = false)
    (d : Dict κ α) (v : α) : (Dict.set d k v).filter (fun e => f e.1) = d.filter fun e => f e.1 := by
  induction d with
  | nil => exact List.filter_cons_of_neg (by rw [hk]; exact Bool.false_ne_true)
  | cons e d ih =>
    obtain ⟨j, w⟩ := e
    rw [Dict.set]
    split_ifs with hjk
    · subst hjk
      rw [List.filter_cons_of_neg (by rw [hk]; exact Bool.false_ne_true),
        List.filter_cons_of_neg (by rw [hk]; exact Bool.false_ne_true)]
    · rw [List.filter_cons, List.filter_cons, ih]

theorem mapM_eq_some_iff {α β : Type} {f : α → Option β} {l : List α} {l' : List β} :
    l.mapM f = some l' ↔ l.map f = l'.map some := by
  induction l generalizing l' with
  | nil => cases l' <;> simp
  | cons a l ih =>
    rw [List.mapM_cons, List.map_cons]
    cases hfa : f a with
    | none => cases l' <;> simp
    | some b =>
      cases l' with
      | nil => cases l.mapM f <;> simp
      | cons b' l' =>
        rw [List.map_cons, List.cons.injEq, ← ih]
        cases l.mapM f <;> simp

namespace Signature

variable {sig : Signature} {args args' : Arguments} {kwargs kwargs' : Keywords} {b : List Value}

theorem accepts_of_bind (h : sig.bind args kwargs = some b) : sig.accepts args kwargs = true := by
  unfold bind at h
  split_ifs at h with haccepts
  exact haccepts

theorem map_bound_of_bind (h : sig.bind args kwargs = some b) :
    sig.parameters.zipIdx.map (fun e => sig.bound args kwargs e.1 e.2) = b.map some := by
  rw [bind, if_pos (accepts_of_bind h)] at h
  exact mapM_eq_some_iff.mp h

/-- Each parameter has its value. -/
theorem bound_of_bind (h : sig.bind args kwargs = some b) {k : ℕ} {p : Parameter} (hp : sig.parameters[k]? = some p) :
    ∃ v, b[k]? = some v ∧ sig.bound args kwargs p k = some v := by
  have hk := congrArg (fun l => l[k]?) (map_bound_of_bind h)
  simp only [List.getElem?_map, List.getElem?_zipIdx, hp, Option.map_some, zero_add] at hk
  cases hb : b[k]? with
  | none =>
    rw [hb] at hk
    cases hk
  | some v =>
    rw [hb] at hk
    exact ⟨v, rfl, Option.some.inj hk⟩

/-- Arguments that change the value of one parameter. -/
theorem bind_set (h : sig.bind args kwargs = some b) (haccepts : sig.accepts args' kwargs' = true) {k : ℕ} {v : Value}
    (hbound : ∀ j q, sig.parameters[j]? = some q →
      sig.bound args' kwargs' q j = if j = k then some v else sig.bound args kwargs q j) :
    sig.bind args' kwargs' = some (b.set k v) := by
  rw [bind, if_pos haccepts, mapM_eq_some_iff, List.map_set, ← map_bound_of_bind h]
  apply List.ext_getElem?
  intro j
  rw [List.getElem?_set]
  simp only [List.getElem?_map, List.getElem?_zipIdx, zero_add, List.length_map, List.length_zipIdx]
  cases hq : sig.parameters[j]? with
  | none =>
    have hj := List.getElem?_eq_none_iff.mp hq
    split_ifs with hkj hlt
    · omega
    · rfl
    · rfl
  | some q =>
    obtain ⟨hj, -⟩ := List.getElem?_eq_some_iff.mp hq
    rw [Option.map_some, Option.map_some, hbound j q hq]
    by_cases hjk : j = k
    · subst hjk
      rw [if_pos rfl, if_pos rfl, if_pos hj]
    · rw [if_neg hjk, if_neg (Ne.symm hjk)]
      rfl

/-- A parameter that takes positions stands before one that does not. -/
theorem lt_of_takesPosition {j k : ℕ} {p q : Parameter} (hp : sig.parameters[k]? = some p)
    (hq : sig.parameters[j]? = some q) (hposition : p.kind.takesPosition = true)
    (hother : q.kind.takesPosition = false) : k < j := by
  obtain ⟨hk, rfl⟩ := List.getElem?_eq_some_iff.mp hp
  obtain ⟨hj, rfl⟩ := List.getElem?_eq_some_iff.mp hq
  have hp' := of_decide_eq_true hposition
  have hq' := of_decide_eq_false hother
  by_contra hle
  rcases Nat.lt_or_eq_of_le (not_lt.mp hle) with hlt | heq
  · rcases List.pairwise_iff_getElem.mp sig.kinds j k hj hk hlt with hrank | ⟨hkind, -⟩
    · omega
    · rw [hkind] at hq'
      omega
  · subst heq
    exact hq' hp'

/-- An argument by position goes to its parameter alone. -/
theorem bind_set_position (h : sig.bind args kwargs = some b) {k : ℕ} {p : Parameter}
    (hp : sig.parameters[k]? = some p) (hkind : p.kind.takesPosition = true) (hk : k < args.length)
    (hname : Dict.has kwargs p.name = false) (v : Value) : sig.bind (args.set k v) kwargs = some (b.set k v) := by
  have haccepts : sig.accepts (args.set k v) kwargs = true := by
    have hbefore := accepts_of_bind h
    unfold accepts at hbefore ⊢
    rw [List.length_set]
    exact hbefore
  refine bind_set h haccepts fun j q hq => ?_
  unfold bound
  by_cases hjk : j = k
  · subst hjk
    have hqp : q = p := Option.some.inj (hq.symm.trans hp)
    subst hqp
    rw [if_pos rfl, List.getElem?_set_self hk]
    cases hqkind : q.kind with
    | positionalOnly => rfl
    | positionalOrKeyword =>
      dsimp only
      rw [hname]
      rfl
    | _ =>
      rw [hqkind] at hkind
      cases hkind
  · rw [if_neg hjk, List.getElem?_set_ne (Ne.symm hjk)]
    cases hqkind : q.kind with
    | varPositional =>
      have hlt := lt_of_takesPosition hp hq hkind (by rw [hqkind]; rfl)
      dsimp only
      rw [List.drop_set_of_lt hlt]
    | _ => rfl

theorem name_ne_of_ne {j k : ℕ} {p q : Parameter} (hp : sig.parameters[k]? = some p)
    (hq : sig.parameters[j]? = some q) (hjk : j ≠ k) : p.name ≠ q.name := by
  obtain ⟨hk, rfl⟩ := List.getElem?_eq_some_iff.mp hp
  obtain ⟨hj, rfl⟩ := List.getElem?_eq_some_iff.mp hq
  intro heq
  have hk' : k < (sig.parameters.map Parameter.name).length := by simpa using hk
  have hj' : j < (sig.parameters.map Parameter.name).length := by simpa using hj
  have hinj : (sig.parameters.map Parameter.name)[j] = (sig.parameters.map Parameter.name)[k] ↔ j = k :=
    sig.names.getElem_inj_iff
  rw [List.getElem_map, List.getElem_map] at hinj
  exact hjk (hinj.mp heq.symm)

theorem takesKeyword_of_mem {k : ℕ} {p : Parameter} (hp : sig.parameters[k]? = some p)
    (hkind : p.kind.takesKeyword = true) : sig.takesKeyword p.name = true := by
  apply List.any_eq_true.mpr
  exact ⟨p, List.mem_of_getElem? hp, by rw [hkind, decide_eq_true rfl]; rfl⟩

/-- An argument by keyword goes to the parameter of its name alone. -/
theorem bind_set_keyword (h : sig.bind args kwargs = some b) {k : ℕ} {p : Parameter}
    (hp : sig.parameters[k]? = some p) (hkind : p.kind.takesKeyword = true)
    (hname : Dict.has kwargs p.name = true) (v : Value) :
    sig.bind args (Dict.set kwargs p.name v) = some (b.set k v) := by
  obtain ⟨old, hold⟩ := Dict.has_iff.mp hname
  have htakes := takesKeyword_of_mem hp hkind
  have haccepts : sig.accepts args (Dict.set kwargs p.name v) = true := by
    have hkeys (d : Keywords) :
        (d.all fun e => sig.takesKeyword e.1) = (d.map Prod.fst).all sig.takesKeyword := by
      rw [List.all_map]
      rfl
    have hbefore := accepts_of_bind h
    unfold accepts at hbefore ⊢
    rw [hkeys, Dict.keys_set_of_get? hold, ← hkeys]
    exact hbefore
  have hget : Dict.get? (Dict.set kwargs p.name v) p.name = some v := Dict.get?_set_self _ _ _
  refine bind_set h haccepts fun j q hq => ?_
  by_cases hjk : j = k
  · subst hjk
    have hqp : q = p := Option.some.inj (hq.symm.trans hp)
    subst hqp
    obtain ⟨w, -, hbound⟩ := bound_of_bind h hq
    rw [if_pos rfl]
    unfold bound at hbound ⊢
    cases hqkind : q.kind with
    | positionalOrKeyword =>
      rw [hqkind] at hbound
      dsimp only at hbound ⊢
      cases hargs : args[j]? with
      | some a =>
        rw [hargs] at hbound
        dsimp only at hbound
        rw [if_pos hname] at hbound
        cases hbound
      | none =>
        dsimp only
        rw [hget, Option.some_or]
    | keywordOnly =>
      dsimp only
      rw [hget, Option.some_or]
    | _ =>
      rw [hqkind] at hkind
      cases hkind
  · have hne : p.name ≠ q.name := name_ne_of_ne hp hq hjk
    rw [if_neg hjk]
    unfold bound
    rw [Dict.has, Dict.has, Dict.get?_set_ne _ _ hne,
      Dict.filter_set_of_false (fun name => !sig.takesKeyword name) (by rw [htakes]; rfl)]

end Signature

end Python
