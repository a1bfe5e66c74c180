import Fmofp.Python.Signature

/-! Where the decorators look for the message among the arguments of a call.  They count positions without a leading
`self`, in arguments that have it, so that a method's message is found only if it is passed by keyword. -/

namespace Fmofp.LoopPrevention

open Python

/-! ### The decorators -/

section Search

variable (sig : Signature)

/-- Whether the first parameter is called `self`. -/
def hasSelf : Bool := sig.parameters.head?.any fun p => decide (p.name = "self")

/-- The parameters after a leading `self`. -/
def withoutSelf : List Parameter := if hasSelf sig then sig.parameters.tail else sig.parameters

def commonMessageParamNames : List String := ["msg", "data", "event", "payload", "request", "response"]

/-- Where an argument is. -/
inductive Location where
  | keyword (name : String)
  | position (i : ℕ)

/-- Where the argument of the parameter number `e.2` is looked for. -/
def locationOf (args : Arguments) (kwargs : Keywords) (e : Parameter × ℕ) : Option Location :=
  if Dict.has kwargs e.1.name then some (.keyword e.1.name)
  else if e.2 < args.length then some (.position e.2)
  else none

def namedLocation (args : Arguments) (kwargs : Keywords) (name : String) : Option Location :=
  (withoutSelf sig).zipIdx.findSome? fun e => if e.1.name = name then locationOf args kwargs e else none

/-- The three passes of both functions: the name `message`, the common names, the first parameter. -/
def messageLocation (args : Arguments) (kwargs : Keywords) : Option Location :=
  ((namedLocation sig args kwargs "message").or
      (commonMessageParamNames.findSome? (namedLocation sig args kwargs))).or
    ((withoutSelf sig).zipIdx.head?.bind (locationOf args kwargs))

/-- `_find_message_parameter`. -/
def findMessageParameter (args : Arguments) (kwargs : Keywords) : Value :=
  match messageLocation sig args kwargs with
  | some (.keyword name) => Dict.getD kwargs name .none
  | some (.position i) => args.getD i .none
  | none => .none

/-- The arguments with another value at the location. -/
def Location.write (location : Location) (args : Arguments) (kwargs : Keywords) (v : Value) : Arguments × Keywords :=
  match location with
  | .keyword name => (args, Dict.set kwargs name v)
  | .position i => (args.set i v, kwargs)

/-- `_replace_message_parameter`. -/
def replaceMessageParameter (args : Arguments) (kwargs : Keywords) (enhancedMessage : Value) : Arguments × Keywords :=
  match messageLocation sig args kwargs with
  | some location => location.write args kwargs enhancedMessage
  | none => (args, kwargs)

/-! ### The message parameter -/

/-- The parameter of a name after `self`, with its number. -/
def namedParameter (name : String) : Option (Parameter × ℕ) :=
  (withoutSelf sig).zipIdx.find? fun e => decide (e.1.name = name)

/-- The parameter that is taken for the message: the one called `message`, the first of the common names that
there is, or the first after `self`. -/
def messageParameter : Option (Parameter × ℕ) :=
  ((namedParameter sig "message").or (commonMessageParamNames.findSome? (namedParameter sig))).or
    (withoutSelf sig).zipIdx.head?

/-- The position of a parameter in the signature. -/
def position (e : Parameter × ℕ) : ℕ := if hasSelf sig then e.2 + 1 else e.2

/-- For a call that binds `b`: the value found is the one of the message parameter, and the arguments with another
message bind it to this parameter and the others as before. -/
def Located (args : Arguments) (kwargs : Keywords) (b : List Value) : Prop :=
  match messageParameter sig with
  | some e => b[position sig e]? = some (findMessageParameter sig args kwargs) ∧
      ∀ enhanced, let (args', kwargs') := replaceMessageParameter sig args kwargs enhanced
        sig.bind args' kwargs' = some (b.set (position sig e) enhanced)
  | none => findMessageParameter sig args kwargs = .none ∧
      ∀ enhanced, replaceMessageParameter sig args kwargs enhanced = (args, kwargs)

/-- The message is passed by keyword, or by position to a function without `self`. -/
def Passed (args : Arguments) (kwargs : Keywords) : Prop :=
  ∀ e ∈ messageParameter sig, e.1.kind.takesKeyword = true ∧ Dict.has kwargs e.1.name = true ∨
    hasSelf sig = false ∧ e.1.kind.takesPosition = true ∧ Dict.has kwargs e.1.name = false ∧ e.2 < args.length

instance (args : Arguments) (kwargs : Keywords) : Decidable (Passed sig args kwargs) :=
  match h : messageParameter sig with
  | some e => decidable_of_iff (e.1.kind.takesKeyword = true ∧ Dict.has kwargs e.1.name = true ∨
      hasSelf sig = false ∧ e.1.kind.takesPosition = true ∧ Dict.has kwargs e.1.name = false ∧ e.2 < args.length)
      (by rw [Passed, h]; exact ⟨fun hpassed e' he' => by cases he'; exact hpassed, fun hpassed => hpassed e rfl⟩)
  | none => .isTrue (by rw [Passed, h]; rintro e ⟨⟩)

end Search

/-! ### Parameters and locations -/

section Locations

variable {sig : Signature} {args : Arguments} {kwargs : Keywords}

theorem getElem?_position {e : Parameter × ℕ} (he : e ∈ (withoutSelf sig).zipIdx) :
    sig.parameters[position sig e]? = some e.1 := by
  have hget := List.mem_zipIdx_iff_getElem?.mp he
  unfold withoutSelf at hget
  unfold position
  split_ifs at hget ⊢
  · rw [List.getElem?_tail] at hget
    exact hget
  · exact hget

theorem locationOf_keyword {e : Parameter × ℕ} {name : String}
    (h : locationOf args kwargs e = some (.keyword name)) : e.1.name = name ∧ Dict.has kwargs name = true := by
  unfold locationOf at h
  split_ifs at h with hhas hlt
  · have hname : e.1.name = name := Location.keyword.inj (Option.some.inj h)
    exact ⟨hname, hname ▸ hhas⟩
  · cases h

theorem locationOf_position {e : Parameter × ℕ} {i : ℕ} (h : locationOf args kwargs e = some (.position i)) :
    e.2 = i ∧ i < args.length := by
  unfold locationOf at h
  split_ifs at h with hhas hlt
  · cases h
  · have hi : e.2 = i := Location.position.inj (Option.some.inj h)
    exact ⟨hi, hi ▸ hlt⟩

theorem mem_of_namedParameter {name : String} {e : Parameter × ℕ} (h : namedParameter sig name = some e) :
    e ∈ (withoutSelf sig).zipIdx := List.mem_of_find?_eq_some h

theorem mem_of_messageParameter {e : Parameter × ℕ} (h : messageParameter sig = some e) :
    e ∈ (withoutSelf sig).zipIdx := by
  unfold messageParameter at h
  rcases Option.or_eq_some_iff.mp h with hnamed | ⟨-, hfirst⟩
  · rcases Option.or_eq_some_iff.mp hnamed with hmessage | ⟨-, hcommon⟩
    · exact mem_of_namedParameter hmessage
    · obtain ⟨name, -, hname⟩ := List.exists_of_findSome?_eq_some hcommon
      exact mem_of_namedParameter hname
  · exact List.mem_of_mem_head? hfirst

/-- A location is one of some parameter's argument. -/
theorem exists_of_messageLocation {location : Location} (h : messageLocation sig args kwargs = some location) :
    ∃ e ∈ (withoutSelf sig).zipIdx, locationOf args kwargs e = some location := by
  have hnamed {name : String} (h : namedLocation sig args kwargs name = some location) :
      ∃ e ∈ (withoutSelf sig).zipIdx, locationOf args kwargs e = some location := by
    obtain ⟨e, he, hlocation⟩ := List.exists_of_findSome?_eq_some h
    split_ifs at hlocation
    exact ⟨e, he, hlocation⟩
  unfold messageLocation at h
  rcases Option.or_eq_some_iff.mp h with hnames | ⟨-, hfirst⟩
  · rcases Option.or_eq_some_iff.mp hnames with hmessage | ⟨-, hcommon⟩
    · exact hnamed hmessage
    · obtain ⟨name, -, hname⟩ := List.exists_of_findSome?_eq_some hcommon
      exact hnamed hname
  · obtain ⟨e, he, hlocation⟩ := Option.bind_eq_some_iff.mp hfirst
    exact ⟨e, List.mem_of_mem_head? he, hlocation⟩

theorem namedLocation_of_none {name : String} (h : namedParameter sig name = none) :
    namedLocation sig args kwargs name = none := by
  apply List.findSome?_eq_none_iff.mpr
  intro e he
  have hne := List.find?_eq_none.mp h e he
  exact if_neg (of_decide_eq_false (Bool.not_eq_true _ ▸ hne))

theorem namedLocation_of_some {name : String} {e : Parameter × ℕ} (h : namedParameter sig name = some e) {location : Location}
    (hlocation : locationOf args kwargs e = some location) : namedLocation sig args kwargs name = some location := by
  obtain ⟨hname, before, after, hsplit, hbefore⟩ := List.find?_eq_some_iff_append.mp h
  have hnone : before.findSome? (fun e => if e.1.name = name then locationOf args kwargs e else none) = none := by
    apply List.findSome?_eq_none_iff.mpr
    intro e' he'
    have hne := hbefore e' he'
    rw [Bool.not_eq_true'] at hne
    exact if_neg (of_decide_eq_false hne)
  rw [namedLocation, hsplit, List.findSome?_append, hnone, Option.none_or, List.findSome?_cons,
    if_pos (of_decide_eq_true hname), hlocation]

/-- The argument of the message parameter is found, if there is one. -/
theorem messageLocation_of_messageParameter {e : Parameter × ℕ} (h : messageParameter sig = some e) {location : Location}
    (hlocation : locationOf args kwargs e = some location) : messageLocation sig args kwargs = some location := by
  unfold messageParameter at h
  unfold messageLocation
  rcases Option.or_eq_some_iff.mp h with hnamed | ⟨hunnamed, hfirst⟩
  · rcases Option.or_eq_some_iff.mp hnamed with hmessage | ⟨hnomessage, hcommon⟩
    · rw [namedLocation_of_some hmessage hlocation, Option.some_or, Option.some_or]
    · obtain ⟨before, name, after, hsplit, hname, hbefore⟩ := List.findSome?_eq_some_iff.mp hcommon
      have hnone : before.findSome? (namedLocation sig args kwargs) = none :=
        List.findSome?_eq_none_iff.mpr fun name' hname' => namedLocation_of_none (hbefore name' hname')
      rw [namedLocation_of_none hnomessage, Option.none_or, hsplit, List.findSome?_append, hnone, Option.none_or,
        List.findSome?_cons, namedLocation_of_some hname hlocation, Option.some_or]
  · obtain ⟨hnomessage, hnocommon⟩ := Option.or_eq_none_iff.mp hunnamed
    have hnone : commonMessageParamNames.findSome? (namedLocation sig args kwargs) = none :=
      List.findSome?_eq_none_iff.mpr fun name hname =>
        namedLocation_of_none (List.findSome?_eq_none_iff.mp hnocommon name hname)
    rw [namedLocation_of_none hnomessage, hnone, hfirst, Option.none_or, Option.none_or, Option.bind_some, hlocation]

theorem messageLocation_of_none (h : messageParameter sig = none) : messageLocation sig args kwargs = none := by
  obtain ⟨hunnamed, hfirst⟩ := Option.or_eq_none_iff.mp h
  obtain ⟨hnomessage, hnocommon⟩ := Option.or_eq_none_iff.mp hunnamed
  have hnone : commonMessageParamNames.findSome? (namedLocation sig args kwargs) = none :=
    List.findSome?_eq_none_iff.mpr fun name hname =>
      namedLocation_of_none (List.findSome?_eq_none_iff.mp hnocommon name hname)
  rw [messageLocation, namedLocation_of_none hnomessage, hnone, hfirst]
  rfl

end Locations

/-! ### Values -/

section Values

variable {sig : Signature} {args : Arguments} {kwargs : Keywords} {b : List Value}

theorem exists_ne_some (x : Option Value) : ∃ v, x ≠ some v := by
  by_cases hnone : x = some .none
  · exact ⟨.bool true, by rw [hnone]; intro h; cases h⟩
  · exact ⟨.none, hnone⟩

/-- A write elsewhere does not give the parameter every value. -/
theorem exists_bound_ne {p : Parameter} {k : ℕ} {location : Location}
    (hkeyword : ∀ name, location = .keyword name → p.kind.takesKeyword = true → name ≠ p.name)
    (hposition : ∀ i, location = .position i → p.kind.takesPosition = true → i ≠ k) :
    ∃ v, sig.bound (location.write args kwargs v).1 (location.write args kwargs v).2 p k ≠ some v := by
  by_cases hvar : p.kind.isVar = true
  · -- a tuple or a dictionary
    refine ⟨.none, fun h => ?_⟩
    unfold Signature.bound at h
    cases hkind : p.kind with
    | varPositional =>
      rw [hkind] at h
      cases h
    | varKeyword =>
      rw [hkind] at h
      cases h
    | _ =>
      rw [hkind] at hvar
      cases hvar
  · have hargs (v : Value) (hp : p.kind.takesPosition = true) : (location.write args kwargs v).1[k]? = args[k]? := by
      cases location with
      | keyword name => rfl
      | position i => exact List.getElem?_set_ne (hposition i rfl hp)
    have hkwargs (v : Value) (hp : p.kind.takesKeyword = true) :
        Dict.get? (location.write args kwargs v).2 p.name = Dict.get? kwargs p.name := by
      cases location with
      | keyword name => exact Dict.get?_set_ne _ _ (hkeyword name rfl hp)
      | position i => rfl
    have hsame (v : Value) : sig.bound (location.write args kwargs v).1 (location.write args kwargs v).2 p k =
        sig.bound args kwargs p k := by
      unfold Signature.bound Dict.has
      cases hkind : p.kind with
      | positionalOnly =>
        dsimp only
        rw [hargs v (by rw [hkind]; rfl)]
      | positionalOrKeyword =>
        dsimp only
        rw [hargs v (by rw [hkind]; rfl), hkwargs v (by rw [hkind]; rfl)]
      | keywordOnly =>
        dsimp only
        rw [hkwargs v (by rw [hkind]; rfl)]
      | _ =>
        rw [hkind] at hvar
        exact absurd rfl hvar
    obtain ⟨v, hv⟩ := exists_ne_some (sig.bound args kwargs p k)
    exact ⟨v, by rw [hsame]; exact hv⟩

/-- Where no write gives the message parameter every value, it is not located. -/
theorem not_located_of_bound_ne (hbind : sig.bind args kwargs = some b) {e : Parameter × ℕ}
    (he : messageParameter sig = some e) {v : Value}
    (hv : sig.bound (replaceMessageParameter sig args kwargs v).1 (replaceMessageParameter sig args kwargs v).2 e.1
      (position sig e) ≠ some v) : ¬Located sig args kwargs b := by
  intro hlocated
  rw [Located, he] at hlocated
  have hget := getElem?_position (mem_of_messageParameter he)
  obtain ⟨w, hw, -⟩ := Signature.bound_of_bind hbind hget
  obtain ⟨v', hv', hbound⟩ := Signature.bound_of_bind (hlocated.2 v) hget
  rw [List.getElem?_set_self (List.getElem?_eq_some_iff.mp hw).1] at hv'
  cases hv'
  exact hv hbound

/-- A message that is located is passed by keyword, or by position without `self`. -/
theorem passed_of_located (hbind : sig.bind args kwargs = some b) (hlocated : Located sig args kwargs b) :
    Passed sig args kwargs := by
  intro e he
  by_contra hnot
  obtain ⟨hnokeyword, hnoposition⟩ := not_or.mp hnot
  have hle : e.2 ≤ position sig e := by
    unfold position
    split_ifs <;> omega
  cases hlocation : messageLocation sig args kwargs with
  | none =>
    obtain ⟨v, hv⟩ := exists_ne_some (sig.bound args kwargs e.1 (position sig e))
    refine not_located_of_bound_ne (v := v) hbind he ?_ hlocated
    rw [replaceMessageParameter, hlocation]
    exact hv
  | some location =>
    obtain ⟨e', -, hlocation'⟩ := exists_of_messageLocation hlocation
    obtain ⟨v, hv⟩ : ∃ v, sig.bound (location.write args kwargs v).1 (location.write args kwargs v).2 e.1
        (position sig e) ≠ some v := by
      apply exists_bound_ne
      · rintro name rfl htakes hname
        -- the name is one of a keyword
        obtain ⟨-, hhas⟩ := locationOf_keyword hlocation'
        rw [hname] at hhas
        exact hnokeyword ⟨htakes, hhas⟩
      · rintro i rfl htakes hi
        have hhas : Dict.has kwargs e.1.name = false := by
          by_contra hhas
          have hkeyword : locationOf args kwargs e = some (.keyword e.1.name) := by
            rw [locationOf, if_pos (Bool.eq_true_of_not_eq_false hhas)]
          have hfound := messageLocation_of_messageParameter he hkeyword
          rw [hlocation] at hfound
          cases hfound
        by_cases hlt : e.2 < args.length
        · have hfirst : locationOf args kwargs e = some (.position e.2) := by
            rw [locationOf, hhas, if_neg Bool.false_ne_true, if_pos hlt]
          have hfound := messageLocation_of_messageParameter he hfirst
          rw [hlocation] at hfound
          have hsame : i = e.2 := Location.position.inj (Option.some.inj hfound)
          have hself : hasSelf sig = false := by
            unfold position at hi
            split_ifs at hi with hself
            · omega
            · exact Bool.eq_false_iff.mpr hself
          exact hnoposition ⟨hself, htakes, hhas, hlt⟩
        · obtain ⟨-, hlt'⟩ := locationOf_position hlocation'
          omega
    refine not_located_of_bound_ne (v := v) hbind he ?_ hlocated
    rw [replaceMessageParameter, hlocation]
    exact hv

/-- The value at the keyword is the one that is bound. -/
theorem getD_of_bound {p : Parameter} {k : ℕ} {w : Value} (hbound : sig.bound args kwargs p k = some w)
    (htakes : p.kind.takesKeyword = true) (hhas : Dict.has kwargs p.name = true) :
    Dict.getD kwargs p.name .none = w := by
  obtain ⟨v, hv⟩ := Dict.has_iff.mp hhas
  rw [Dict.getD, hv, Option.getD_some]
  unfold Signature.bound at hbound
  cases hkind : p.kind with
  | positionalOrKeyword =>
    rw [hkind] at hbound
    dsimp only at hbound
    cases hargs : args[k]? with
    | none =>
      rw [hargs, hv] at hbound
      exact Option.some.inj hbound
    | some a =>
      rw [hargs, hhas] at hbound
      cases hbound
  | keywordOnly =>
    rw [hkind, hv] at hbound
    exact Option.some.inj hbound
  | _ =>
    rw [hkind] at htakes
    cases htakes

/-- The value at the position is the one that is bound. -/
theorem getD_position_of_bound {p : Parameter} {k : ℕ} {w : Value} (hbound : sig.bound args kwargs p k = some w)
    (htakes : p.kind.takesPosition = true) (hhas : Dict.has kwargs p.name = false) (hlt : k < args.length) :
    args.getD k .none = w := by
  have hargs : args[k]? = some args[k] := List.getElem?_eq_getElem hlt
  rw [List.getD_eq_getElem?_getD, hargs, Option.getD_some]
  unfold Signature.bound at hbound
  cases hkind : p.kind with
  | positionalOnly =>
    rw [hkind, hargs] at hbound
    exact Option.some.inj hbound
  | positionalOrKeyword =>
    rw [hkind, hargs, hhas] at hbound
    exact Option.some.inj hbound
  | _ =>
    rw [hkind] at htakes
    cases htakes

/-- The message is located if and only if it is passed by keyword, or by position to a function without `self`. -/
theorem located_iff (hbind : sig.bind args kwargs = some b) :
    Located sig args kwargs b ↔ Passed sig args kwargs := by
  refine ⟨passed_of_located hbind, fun hpassed => ?_⟩
  unfold Located
  cases he : messageParameter sig with
  | none =>
    have hnone : messageLocation sig args kwargs = none := messageLocation_of_none he
    exact ⟨by rw [findMessageParameter, hnone], fun enhanced => by rw [replaceMessageParameter, hnone]⟩
  | some e =>
    have hget := getElem?_position (mem_of_messageParameter he)
    obtain ⟨w, hw, hbound⟩ := Signature.bound_of_bind hbind hget
    obtain ⟨htakes, hhas⟩ | ⟨hself, htakes, hhas, hlt⟩ := hpassed e he
    · have hkeyword : locationOf args kwargs e = some (.keyword e.1.name) := by rw [locationOf, if_pos hhas]
      have hlocation := messageLocation_of_messageParameter he hkeyword
      refine ⟨?_, fun enhanced => ?_⟩
      · rw [findMessageParameter, hlocation, hw]
        exact congrArg some (getD_of_bound hbound htakes hhas).symm
      · rw [replaceMessageParameter, hlocation]
        exact Signature.bind_set_keyword hbind hget htakes hhas enhanced
    · have hfirst : locationOf args kwargs e = some (.position e.2) := by
        rw [locationOf, hhas, if_neg Bool.false_ne_true, if_pos hlt]
      have hlocation := messageLocation_of_messageParameter he hfirst
      have hposition : position sig e = e.2 := by rw [position, hself]; rfl
      rw [hposition] at hget hw hbound
      dsimp only
      rw [hposition]
      refine ⟨?_, fun enhanced => ?_⟩
      · rw [findMessageParameter, hlocation, hw]
        exact congrArg some (getD_position_of_bound hbound htakes hhas hlt).symm
      · rw [replaceMessageParameter, hlocation]
        exact Signature.bind_set_position hbind hget htakes hlt hhas enhanced

/-- A method `def process_message(self, message)`. -/
def processMessageSignature : Signature where
  parameters := [⟨"self", .positionalOrKeyword, none⟩, ⟨"message", .positionalOrKeyword, none⟩]
  names := by decide
  kinds := by decide

theorem located_by_keyword :
    Located processMessageSignature [.str "service"] [("message", .str "text")] [.str "service", .str "text"] :=
  (located_iff (by decide +kernel)).mpr (by decide +kernel)

/-- The position is counted without `self` in arguments that have it. -/
theorem not_located_after_self :
    ¬∀ (sig : Signature) (args : Arguments) (kwargs : Keywords) (b : List Value),
      sig.bind args kwargs = some b → Located sig args kwargs b := by
  intro h
  have hlocated := h processMessageSignature [.str "service", .str "text"] [] [.str "service", .str "text"]
    (by decide +kernel)
  have hfound : findMessageParameter processMessageSignature [.str "service", .str "text"] [] = .str "service" := by
    decide +kernel
  have he : messageParameter processMessageSignature = some (⟨"message", .positionalOrKeyword, none⟩, 0) := by
    decide +kernel
  rw [Located, he] at hlocated
  have hvalue := hlocated.1
  rw [hfound] at hvalue
  have hne : ([Value.str "service", .str "text"][position processMessageSignature
      (⟨"message", .positionalOrKeyword, none⟩, 0)]? : Option Value) ≠ some (.str "service") := by decide +kernel
  exact hne hvalue

end Values

end Fmofp.LoopPrevention
