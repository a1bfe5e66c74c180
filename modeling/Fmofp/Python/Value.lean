import Fmofp.Python.Dict

/-! Python values as bus messages carry them: constants, text, lists, tuples and dictionaries with
text keys.  Floats are exact rationals.  A value knows its truth, its number if it is one, and the
form under which a dictionary finds it as a key. -/

namespace Python

/-- `int(q)`, which truncates toward zero. -/
def truncate (q : ℚ) : ℤ := if 0 ≤ q then ⌊q⌋ else ⌈q⌉

/-- The exceptions that the modelled code raises. -/
inductive Exception where
  | attributeError
  | typeError
  | valueError
  | keyError
  | indexError
  | unboundLocalError
  deriving DecidableEq

/-- What comes of two computations in a row, the first of which did not raise. -/
theorem bind_eq_ok {α β : Type} {x : Except Exception α} {f : α → Except Exception β} {b : β}
    (h : x.bind f = .ok b) : ∃ a, x = .ok a ∧ f a = .ok b := by
  cases x with
  | error e => cases h
  | ok a => exact ⟨a, rfl, h⟩

inductive Value where
  | none
  | bool (b : Bool)
  | int (n : ℤ)
  | float (q : ℚ)
  | str (s : String)
  | list (items : List Value)
  | tuple (items : List Value)
  | dict (entries : List (String × Value))
  deriving Inhabited

/-- A message is a dictionary whose keys are text. -/
abbrev Message := Dict String Value

namespace Value

mutual

/-- Structural equality, which `Value` cannot derive through its lists. -/
def same : Value → Value → Bool
  | .none, .none => true
  | .bool a, .bool b => a == b
  | .int a, .int b => a == b
  | .float a, .float b => a == b
  | .str a, .str b => a == b
  | .list a, .list b => sameItems a b
  | .tuple a, .tuple b => sameItems a b
  | .dict a, .dict b => sameEntries a b
  | _, _ => false

def sameItems : List Value → List Value → Bool
  | [], [] => true
  | x :: xs, y :: ys => same x y && sameItems xs ys
  | _, _ => false

def sameEntries : List (String × Value) → List (String × Value) → Bool
  | [], [] => true
  | (k, x) :: xs, (l, y) :: ys => k == l && same x y && sameEntries xs ys
  | _, _ => false

end

mutual

theorem same_iff : ∀ a b : Value, same a b = true ↔ a = b
  | .none, b => by cases b <;> simp [same]
  | .bool _, b => by cases b <;> simp [same]
  | .int _, b => by cases b <;> simp [same]
  | .float _, b => by cases b <;> simp [same]
  | .str _, b => by cases b <;> simp [same]
  | .list xs, b => by cases b <;> simp [same, sameItems_iff xs]
  | .tuple xs, b => by cases b <;> simp [same, sameItems_iff xs]
  | .dict es, b => by cases b <;> simp [same, sameEntries_iff es]

theorem sameItems_iff : ∀ xs ys : List Value, sameItems xs ys = true ↔ xs = ys
  | [], ys => by cases ys <;> simp [sameItems]
  | x :: xs, ys => by cases ys <;> simp [sameItems, same_iff x, sameItems_iff xs]

theorem sameEntries_iff :
    ∀ xs ys : List (String × Value), sameEntries xs ys = true ↔ xs = ys
  | [], ys => by cases ys <;> simp [sameEntries]
  | (k, x) :: xs, ys => by
    cases ys with
    | nil => simp [sameEntries]
    | cons y ys =>
      obtain ⟨l, y⟩ := y
      simp [sameEntries, same_iff x, sameEntries_iff xs, and_assoc]

end

instance : DecidableEq Value := fun a b => decidable_of_iff _ (same_iff a b)

/-- `bool(v)`. -/
def truthy : Value → Bool
  | .none => false
  | .bool b => b
  | .int n => decide (n ≠ 0)
  | .float q => decide (q ≠ 0)
  | .str s => decide (s ≠ "")
  | .list xs => !xs.isEmpty
  | .tuple xs => !xs.isEmpty
  | .dict es => !es.isEmpty

/-- The number a value is, for arithmetic and comparison: `True` is 1 and `False` is 0. -/
def number? : Value → Option ℚ
  | .bool b => some (if b then 1 else 0)
  | .int n => some n
  | .float q => some q
  | _ => Option.none

/-- `isinstance(v, int)`, with the integer: a `bool` is an `int`. -/
def int? : Value → Option ℤ
  | .bool b => some (if b then 1 else 0)
  | .int n => some n
  | _ => Option.none

/-- `isinstance(v, dict)`, with the dictionary. -/
def dict? : Value → Option Message
  | .dict es => some es
  | _ => Option.none

/-- `isinstance(v, list)`, with the items. -/
def list? : Value → Option (List Value)
  | .list xs => some xs
  | _ => Option.none

def isText : Value → Bool
  | .str _ => true
  | _ => false

mutual

/-- The form under which a dictionary stores a key, so that keys that are equal in Python, such as
`1` and `True`, have one form.  Lists and dictionaries have none: they are not hashable. -/
def key? : Value → Option Value
  | .none => some .none
  | .bool b => some (.float (if b then 1 else 0))
  | .int n => some (.float n)
  | .float q => some (.float q)
  | .str s => some (.str s)
  | .tuple xs => (keys? xs).map .tuple
  | .list _ => Option.none
  | .dict _ => Option.none

def keys? : List Value → Option (List Value)
  | [] => some []
  | x :: xs => (key? x).bind fun k => (keys? xs).map (k :: ·)

end

/-- `v.get(k, default)`, which only a dictionary has. -/
def get (v : Value) (k : String) (default : Value) : Except Exception Value :=
  match v with
  | .dict es => .ok (Dict.getD es k default)
  | _ => .error .attributeError

/-- `v > 0`. -/
def positive (v : Value) : Except Exception Bool :=
  match v.number? with
  | some q => .ok (decide (0 < q))
  | Option.none => .error .typeError

/-- `len(v)`. -/
def length (v : Value) : Except Exception ℕ :=
  match v with
  | .str s => .ok s.length
  | .list xs => .ok xs.length
  | .tuple xs => .ok xs.length
  | .dict es => .ok es.length
  | _ => .error .typeError

/-- The items of `for x in v`: the characters of text, the keys of a dictionary. -/
def iterate (v : Value) : Except Exception (List Value) :=
  match v with
  | .str s => .ok (s.toList.map fun c => .str (String.ofList [c]))
  | .list xs => .ok xs
  | .tuple xs => .ok xs
  | .dict es => .ok (es.map fun e => .str e.1)
  | _ => .error .typeError

/-- `key in v`, for a key that is text. -/
def holds (v : Value) (key : String) : Except Exception Bool :=
  match v with
  | .str s => .ok (decide (key.toList <:+: s.toList))
  | .list xs => .ok (decide (.str key ∈ xs))
  | .tuple xs => .ok (decide (.str key ∈ xs))
  | .dict es => .ok (Dict.has es key)
  | _ => .error .typeError

@[simp] theorem dict?_dict (es : List (String × Value)) : (Value.dict es).dict? = some es := rfl

@[simp] theorem list?_list (xs : List Value) : (Value.list xs).list? = some xs := rfl

@[simp] theorem key?_str (s : String) : (Value.str s).key? = some (.str s) := rfl

@[simp] theorem get_dict (es : List (String × Value)) (k : String) (default : Value) :
    (Value.dict es).get k default = .ok (Dict.getD es k default) := rfl

theorem dict?_eq_some {v : Value} {es : Message} : v.dict? = some es ↔ v = .dict es := by
  cases v <;> simp [dict?]

theorem list?_eq_some {v : Value} {xs : List Value} : v.list? = some xs ↔ v = .list xs := by
  cases v <;> simp [list?]

theorem number?_of_int? {v : Value} {n : ℤ} (h : v.int? = some n) : v.number? = some (n : ℚ) := by
  cases v with
  | bool b =>
    cases b
    · cases h
      rfl
    · cases h
      rfl
  | int m =>
    cases h
    rfl
  | _ => cases h

end Value

/-- The truth of what `m.get(k)` returns. -/
def Message.flag (m : Message) (k : String) : Bool := ((Dict.get? m k).map Value.truthy).getD false

end Python

/-! `==` of Python values: numbers by their amount, whatever their type, and containers item by item. -/

namespace Python.Value

mutual

/-- `a == b`.  The entries of a dictionary stand in no order. -/
def equal : Value → Value → Bool
  | .none, .none => true
  | .str s, .str t => s == t
  | .list xs, .list ys => equalItems xs ys
  | .tuple xs, .tuple ys => equalItems xs ys
  | .dict d, .dict e => d.length == e.length && equalEntries d e
  | v, w => match v.number?, w.number? with
    | some p, some q => decide (p = q)
    | _, _ => false

def equalItems : List Value → List Value → Bool
  | [], [] => true
  | x :: xs, y :: ys => equal x y && equalItems xs ys
  | _, _ => false

/-- Every entry of the first dictionary has its equal in the second. -/
def equalEntries : List (String × Value) → List (String × Value) → Bool
  | [], _ => true
  | (k, x) :: d, e => e.any (fun entry => entry.1 == k && equal x entry.2) && equalEntries d e

end

theorem equalEntries_iff (d e : List (String × Value)) :
    equalEntries d e = true ↔ ∀ k x, (k, x) ∈ d → ∃ y, (k, y) ∈ e ∧ equal x y = true := by
  induction d with
  | nil => simp [equalEntries]
  | cons entry d ih =>
    obtain ⟨k, x⟩ := entry
    rw [equalEntries, Bool.and_eq_true, ih, List.any_eq_true]
    constructor
    · rintro ⟨⟨⟨k', y⟩, hmem, hy⟩, hrest⟩ j z hz
      rw [Bool.and_eq_true, beq_iff_eq] at hy
      rcases List.mem_cons.mp hz with heq | hz
      · cases heq
        exact ⟨y, hy.1 ▸ hmem, hy.2⟩
      · exact hrest j z hz
    · intro h
      obtain ⟨y, hmem, hy⟩ := h k x List.mem_cons_self
      refine ⟨⟨(k, y), hmem, ?_⟩, fun j z hz => h j z (List.mem_cons_of_mem _ hz)⟩
      rw [Bool.and_eq_true, beq_iff_eq]
      exact ⟨rfl, hy⟩

mutual

theorem equal_self : ∀ v : Value, equal v v = true
  | .none => rfl
  | .bool _ => by simp [equal, number?]
  | .int _ => by simp [equal, number?]
  | .float _ => by simp [equal, number?]
  | .str _ => by simp [equal]
  | .list xs => by rw [equal, equalItems_self xs]
  | .tuple xs => by rw [equal, equalItems_self xs]
  | .dict d => by
    rw [equal, beq_self_eq_true, Bool.true_and, equalEntries_iff]
    exact fun k x hx => ⟨x, hx, equal_values_self d k x hx⟩

theorem equalItems_self : ∀ xs : List Value, equalItems xs xs = true
  | [] => rfl
  | x :: xs => by rw [equalItems, equal_self x, equalItems_self xs, Bool.and_self]

theorem equal_values_self :
    ∀ (d : List (String × Value)) (k : String) (x : Value), (k, x) ∈ d → equal x x = true
  | (j, y) :: d, k, x, h => by
    rcases List.mem_cons.mp h with heq | h
    · cases heq
      exact equal_self y
    · exact equal_values_self d k x h

end

/-- Entries in another order make an equal dictionary. -/
theorem equal_dict_of_perm {d e : List (String × Value)} (h : d.Perm e) :
    equal (.dict d) (.dict e) = true := by
  rw [equal, h.length_eq, beq_self_eq_true, Bool.true_and, equalEntries_iff]
  exact fun k x hx => ⟨x, h.mem_iff.mp hx, equal_self x⟩

end Python.Value
