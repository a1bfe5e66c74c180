import Fmofp.Python.Dict
import Fmofp.Python.Value

/-! `get_state` on trees of `DisplayNode` and `ModeNode` objects.  Each node has a lock that is not reentrant, and a
mode node asks for its own a second time. -/

namespace Fmofp.DisplayTree.Snapshot

open Python

structure NodeMetadata where
  createdAt : ℚ
  lastUpdated : ℚ
  updateCount : ℕ
  errorCount : ℕ
  lastError : Option String

/-- What a `ModeNode` has besides; of its enum the name. -/
structure ModeFields where
  previousMode : Value
  modeEnum : Option String
  transitionTimestamp : Option ℚ
  modeHistory : List (Value × ℚ)

/-- A `DisplayNode`, or a `ModeNode` if it has the fields of one. -/
structure Object (ι : Type) where
  name : String
  parent : Option ι
  children : Dict String ι
  value : Value
  metadata : NodeMetadata
  mode : Option ModeFields

/-- The objects, by their identity. -/
abbrev Heap (ι : Type) := ι → Object ι

/-- The dictionary that `get_state` returns: the whole one, the one after a timeout, or the one after an error; that
of a mode node has the fields of the mode in all cases. -/
inductive State where
  | whole (name : String) (value : Value) (path : String) (metadata : NodeMetadata)
    (children : List (String × State)) (mode : Option ModeFields)
  | timeout (name : String) (value : Value) (path : String) (error : String) (metadata : NodeMetadata)
    (mode : Option ModeFields)
  | failed (name : String) (error : String) (mode : Option ModeFields)

def State.withMode (mode : ModeFields) : State → State
  | whole name value path metadata children _ => whole name value path metadata children (some mode)
  | timeout name value path error metadata _ => timeout name value path error metadata (some mode)
  | failed name error _ => failed name error (some mode)

/-- How a call ends: it returns or raises, after it has waited for a lock of its own thread or not, or it waits for
one forever. -/
inductive Outcome (α : Type) where
  | returned (a : α) (waited : Bool)
  | raised (error : String) (waited : Bool)
  | blocked

namespace Outcome

variable {α β : Type}

/-- What follows a part of a call that has waited, or not. -/
def after (waited : Bool) : Outcome α → Outcome α
  | returned a w => returned a (waited || w)
  | raised error w => raised error (waited || w)
  | blocked => blocked

def bind (o : Outcome α) (f : α → Outcome β) : Outcome β :=
  match o with
  | returned a waited => (f a).after waited
  | raised error waited => raised error waited
  | blocked => blocked

/-- `try: o except Exception as e: handler`. -/
def catching (o : Outcome α) (handler : String → α) : Outcome α :=
  match o with
  | returned a waited => returned a waited
  | raised error waited => returned (handler error) waited
  | blocked => blocked

def map (f : α → β) (o : Outcome α) : Outcome β := o.bind fun a => returned (f a) false

end Outcome

section Calls

variable {ι : Type} [DecidableEq ι] (h : Heap ι)

/-- `add_child`. -/
def Heap.addChild (self child : ι) : Heap ι :=
  let h := Function.update h self { h self with children := Dict.set (h self).children (h child).name child }
  Function.update h child { h child with parent := some self }

def recursionError : String := "maximum recursion depth exceeded"

/-- `get_path`, if calls may nest as deep as `stack`. -/
def getPath : ℕ → ι → Outcome String
  | 0, _ => .raised recursionError false
  | stack + 1, id => match (h id).parent with
    | none => .returned (h id).name false
    | some parent => (getPath stack parent).map fun path => path ++ "." ++ (h id).name

/-- The loop over the children: what raises for one becomes the state of that child. -/
def collect : List (String × Outcome State) → Outcome (List (String × State))
  | [] => .returned [] false
  | (name, o) :: rest => (o.catching fun error => .failed name error none).bind fun state =>
    (collect rest).map fun states => (name, state) :: states

/-- The entries of the metadata after a timeout. -/
def NodeMetadata.afterTimeout (metadata : NodeMetadata) : NodeMetadata :=
  { metadata with errorCount := metadata.errorCount + 1, lastError := some "Lock acquisition timeout" }

/-- `DisplayNode.get_state`, by a thread that holds the locks `held` while no other thread holds any: a lock that it
holds is not acquired before the timeout.  `childState` is what the calls on the children do. -/
def displayNodeState (stack : ℕ) (childState : List ι → ι → Outcome State) (held : List ι) (id : ι) : Outcome State :=
  let node := h id
  let body : Outcome State :=
    if id ∈ held then
      ((getPath h stack id).map fun path =>
        .timeout node.name node.value path "Lock acquisition timeout" node.metadata.afterTimeout none).after true
    else
      (getPath h stack id).bind fun path =>
        (collect (node.children.map fun e => (e.1, childState (id :: held) e.2))).map fun children =>
          .whole node.name node.value path node.metadata children none
  body.catching fun error => .failed node.name error none

/-- `get_state` of a node; that of a mode node holds the lock while it calls that of its class above. -/
def getState : ℕ → List ι → ι → Outcome State
  | 0, _, _ => .raised recursionError false
  | stack + 1, held, id => match (h id).mode with
    | none => displayNodeState h stack (getState stack) held id
    | some mode =>
      if id ∈ held then .blocked
      else (displayNodeState h stack (getState stack) (id :: held) id).map (State.withMode mode)

end Calls

/-! ### Trees -/

section Trees

variable {ι : Type} (h : Heap ι)

/-- The first node is a child of the second one. -/
def IsChild (child node : ι) : Prop := ∃ name, (name, child) ∈ (h node).children

/-- The second node is the parent of the first one. -/
def Up (node parent : ι) : Prop := (h node).parent = some parent

/-- The parents of a node end in a root. -/
inductive Rooted : ι → Prop where
  | root {id : ι} (hid : (h id).parent = none) : Rooted id
  | step {id parent : ι} (hid : (h id).parent = some parent) (hparent : Rooted parent) : Rooted id

/-- The objects make up trees: a child has the node that it is a child of as its parent, and parents end. -/
structure Forest : Prop where
  parent : ∀ node name child, (name, child) ∈ (h node).children → (h child).parent = some node
  rooted : ∀ id, Rooted h id

/-- The path from the root to a node. -/
inductive IsPath : ι → String → Prop where
  | root {id : ι} (hid : (h id).parent = none) : IsPath id (h id).name
  | step {id parent : ι} {path : String} (hid : (h id).parent = some parent) (hpath : IsPath parent path) :
    IsPath id (path ++ "." ++ (h id).name)

/-- The state is the complete one of the node: its value and its path, and one complete state for each child. -/
inductive Complete : ι → State → Prop where
  | whole {id : ι} {path : String} {children : List (String × State)} (hpath : IsPath h id path)
    (hnames : children.map Prod.fst = (h id).children.map Prod.fst)
    (hchildren : List.Forall₂ Complete ((h id).children.map Prod.snd) (children.map Prod.snd)) :
    Complete id (.whole (h id).name (h id).value path (h id).metadata children (h id).mode)

/-- The node is the other one or below it. -/
def Below (id below : ι) : Prop := Relation.ReflTransGen (fun node child => IsChild h child node) id below

/-- There is no mode node in the tree of the node. -/
def ModeFree (id : ι) : Prop := ∀ below, Below h id below → (h below).mode = none

end Trees

/-! ### Building trees -/

section Build

variable {ι : Type} [DecidableEq ι] {h : Heap ι} {self child : ι}

theorem addChild_children (hne : self ≠ child) (id : ι) : (h.addChild self child id).children =
    if id = self then Dict.set (h self).children (h child).name child else (h id).children := by
  rw [Heap.addChild]
  by_cases hchild : id = child
  · subst hchild
    simp [Ne.symm hne]
  · by_cases hself : id = self
    · subst hself
      simp [hchild]
    · simp [hchild, hself]

theorem addChild_parent (hne : self ≠ child) (id : ι) : (h.addChild self child id).parent =
    if id = child then some self else (h id).parent := by
  rw [Heap.addChild]
  by_cases hchild : id = child
  · simp [hchild]
  · by_cases hself : id = self
    · subst hself
      simp [hchild]
    · simp [hchild, hself]

/-- A root that is not above the node becomes its child, and all is still trees. -/
theorem Forest.addChild (hforest : Forest h) (hroot : (h child).parent = none)
    (habove : ¬Relation.ReflTransGen (Up h) self child) : Forest (h.addChild self child) := by
  have hne : self ≠ child := by
    rintro rfl
    exact habove .refl
  constructor
  · intro node name c hmem
    rw [addChild_children hne] at hmem
    rw [addChild_parent hne]
    split_ifs at hmem with hself
    · rcases Dict.mem_set hmem with hnew | hold
      · rw [if_pos (Prod.mk.inj hnew).2, hself]
      · have hparent := hforest.parent self name c hold
        rw [if_neg (by rintro rfl; rw [hroot] at hparent; cases hparent), hparent, hself]
    · have hparent := hforest.parent node name c hmem
      rw [if_neg (by rintro rfl; rw [hroot] at hparent; cases hparent), hparent]
  · -- the parents of the node do not come to the child, and stay as they are
    have hself : ∀ id, Rooted h id → ¬Relation.ReflTransGen (Up h) id child → Rooted (h.addChild self child) id := by
      intro id hid
      induction hid with
      | root hid =>
        intro hnot
        refine .root ?_
        rw [addChild_parent hne, if_neg (by rintro rfl; exact hnot .refl), hid]
      | step hid _ ih =>
        intro hnot
        refine .step ?_ (ih fun hup => hnot (hup.head hid))
        rw [addChild_parent hne, if_neg (by rintro rfl; exact hnot .refl), hid]
    have hnode := hself self (hforest.rooted self) habove
    intro id
    have hid := hforest.rooted id
    induction hid with
    | @root id hid =>
      by_cases hchild : id = child
      · exact .step (by rw [addChild_parent hne, if_pos hchild]) hnode
      · exact .root (by rw [addChild_parent hne, if_neg hchild, hid])
    | @step id parent hid _ ih =>
      refine .step ?_ ih
      rw [addChild_parent hne, if_neg (by rintro rfl; rw [hroot] at hid; cases hid), hid]

end Build

/-- New objects are trees of one node each. -/
theorem forest_of_new {ι : Type} {h : Heap ι} (hnew : ∀ id, (h id).parent = none ∧ (h id).children = []) :
    Forest h where
  parent node name child hmem := by
    rw [(hnew node).2] at hmem
    exact absurd hmem List.not_mem_nil
  rooted id := .root (hnew id).1

/-! ### Outcomes -/

theorem map_returned {α β : Type} (f : α → β) (a : α) (waited : Bool) :
    (Outcome.returned a waited).map f = .returned (f a) waited := by
  rw [Outcome.map, Outcome.bind, Outcome.after, Bool.or_false]

theorem map_eq_returned {α β : Type} {f : α → β} {o : Outcome α} {b : β} {waited : Bool}
    (h : o.map f = .returned b waited) : ∃ a, o = .returned a waited ∧ f a = b := by
  cases o with
  | returned a w =>
    rw [map_returned] at h
    cases h
    exact ⟨a, rfl, rfl⟩
  | raised error w => cases h
  | blocked => cases h

theorem bind_returned {α β : Type} (a : α) (f : α → Outcome β) :
    (Outcome.returned a false).bind f = f a := by
  rw [Outcome.bind]
  cases f a <;> simp only [Outcome.after, Bool.false_or]

theorem bind_eq_returned {α β : Type} {f : α → Outcome β} {o : Outcome α} {b : β} {waited : Bool}
    (h : o.bind f = .returned b waited) : ∃ a w w', o = .returned a w ∧ f a = .returned b w' := by
  cases o with
  | returned a w =>
    rw [Outcome.bind] at h
    cases hf : f a with
    | returned b' w' =>
      rw [hf] at h
      cases h
      exact ⟨a, w, w', rfl, hf⟩
    | raised error w' =>
      rw [hf] at h
      cases h
    | blocked =>
      rw [hf] at h
      cases h
  | raised error w => cases h
  | blocked => cases h

/-- What a call whose exceptions are caught returns is its own result, or that of the handler. -/
theorem catching_eq_returned {α : Type} {handler : String → α} {o : Outcome α} {a : α} {waited : Bool}
    (h : o.catching handler = .returned a waited) : o = .returned a waited ∨ ∃ error, a = handler error := by
  cases o with
  | returned a' w => exact .inl h
  | raised error w =>
    cases h
    exact .inr ⟨error, rfl⟩
  | blocked => cases h

/-- The loop returns one state for each child, which the child has returned if it is a whole one. -/
theorem collect_eq_returned {calls : List (String × Outcome State)} {states : List (String × State)} {waited : Bool}
    (h : collect calls = .returned states waited) :
    List.Forall₂ (fun o s => (∃ w, o = .returned s w) ∨ ∃ name error, s = .failed name error none)
      (calls.map Prod.snd) (states.map Prod.snd) := by
  induction calls generalizing states waited with
  | nil =>
    cases h
    exact .nil
  | cons call calls ih =>
    obtain ⟨name, o⟩ := call
    rw [collect] at h
    obtain ⟨state, w, w', hstate, hrest⟩ := bind_eq_returned h
    obtain ⟨states', hstates, rfl⟩ := map_eq_returned hrest
    refine .cons ?_ (ih hstates)
    rcases catching_eq_returned hstate with hcall | ⟨error, herror⟩
    · exact .inl ⟨w, hcall⟩
    · exact .inr ⟨name, error, herror⟩

theorem collect_of_returned {calls : List (String × Outcome State)} {states : List State}
    (h : List.Forall₂ (fun o s => o = .returned s false) (calls.map Prod.snd) states) :
    ∃ named : List (String × State), collect calls = .returned named false ∧
      named.map Prod.fst = calls.map Prod.fst ∧ named.map Prod.snd = states := by
  induction calls generalizing states with
  | nil =>
    cases h
    exact ⟨[], rfl, rfl, rfl⟩
  | cons call calls ih =>
    obtain ⟨name, o⟩ := call
    cases h with
    | @cons _ state _ states' hcall hrest =>
      obtain ⟨named, hnamed, hnames, hstates⟩ := ih hrest
      refine ⟨(name, state) :: named, ?_, ?_, ?_⟩
      · have ho : o = .returned state false := hcall
        rw [collect, ho, Outcome.catching, bind_returned, hnamed, map_returned]
      · rw [List.map_cons, List.map_cons, hnames]
      · rw [List.map_cons, hstates]

/-! ### Paths -/

section Paths

variable {ι : Type} {h : Heap ι} {id : ι}

/-- With enough of the stack left the path is found. -/
theorem getPath_of_rooted (hid : Rooted h id) :
    ∃ path, IsPath h id path ∧ ∃ enough, ∀ stack, enough ≤ stack → getPath h stack id = .returned path false := by
  induction hid with
  | @root id hid =>
    refine ⟨(h id).name, .root hid, 1, fun stack hstack => ?_⟩
    obtain ⟨stack, rfl⟩ := Nat.exists_eq_succ_of_ne_zero (Nat.one_le_iff_ne_zero.mp hstack)
    rw [getPath, hid]
  | @step id parent hid _ ih =>
    obtain ⟨path, hpath, enough, hget⟩ := ih
    refine ⟨path ++ "." ++ (h id).name, .step hid hpath, enough + 1, fun stack hstack => ?_⟩
    obtain ⟨stack, rfl⟩ := Nat.exists_eq_succ_of_ne_zero (Nat.ne_of_gt ((Nat.succ_pos _).trans_le hstack))
    rw [getPath, hid]
    dsimp only
    rw [hget stack (Nat.le_of_succ_le_succ hstack), map_returned]

end Paths

/-! ### Complete states -/

theorem Complete.eq_whole {ι : Type} {h : Heap ι} {id : ι} {state : State} (hcomplete : Complete h id state) :
    ∃ path children,
      state = .whole (h id).name (h id).value path (h id).metadata children (h id).mode ∧
        List.Forall₂ (Complete h) ((h id).children.map Prod.snd) (children.map Prod.snd) := by
  cases hcomplete with
  | whole _ _ hchildren => exact ⟨_, _, rfl, hchildren⟩

section Snapshots

variable {ι : Type} [DecidableEq ι] {h : Heap ι} {id : ι} {held : List ι} {stack : ℕ} {state : State} {waited : Bool}

/-- A lock that is held is not acquired: there is no whole state. -/
theorem displayNodeState_held {childState : List ι → ι → Outcome State} (hid : id ∈ held)
    (hstate : displayNodeState h stack childState held id = .returned state waited) :
    (∃ name value path error metadata, state = .timeout name value path error metadata none) ∨
      ∃ name error, state = .failed name error none := by
  rw [displayNodeState] at hstate
  simp only [hid, if_true] at hstate
  rcases catching_eq_returned hstate with hbody | ⟨error, herror⟩
  · cases hpath : getPath h stack id with
    | returned path w =>
      rw [hpath, map_returned] at hbody
      cases hbody
      exact .inl ⟨_, _, _, _, _, rfl⟩
    | raised error w =>
      rw [hpath] at hbody
      cases hbody
    | blocked =>
      rw [hpath] at hbody
      cases hbody
  · exact .inr ⟨_, _, herror⟩

/-- A mode node finds its own lock held by itself. -/
theorem not_complete_of_mode {mode : ModeFields} (hmode : (h id).mode = some mode)
    (hstate : getState h stack held id = .returned state waited) : ¬Complete h id state := by
  intro hcomplete
  obtain ⟨path, children, rfl, -⟩ := hcomplete.eq_whole
  cases stack with
  | zero => cases hstate
  | succ stack =>
    rw [getState, hmode] at hstate
    dsimp only at hstate
    split_ifs at hstate
    obtain ⟨inner, hinner, hwith⟩ := map_eq_returned hstate
    rcases displayNodeState_held List.mem_cons_self hinner with ⟨_, _, _, _, _, rfl⟩ | ⟨_, _, rfl⟩
    · cases hwith
    · cases hwith

/-- A complete state of a node has complete states of its children, which they have returned. -/
theorem child_complete (hstate : getState h stack held id = .returned state waited) (hcomplete : Complete h id state)
    {child : ι} (hchild : IsChild h child id) :
    ∃ stack' held' state' waited', getState h stack' held' child = .returned state' waited' ∧
      Complete h child state' := by
  have hmode : (h id).mode = none := by
    cases hmode : (h id).mode with
    | none => rfl
    | some mode => exact absurd hcomplete (not_complete_of_mode hmode hstate)
  obtain ⟨path, children, rfl, hchildren⟩ := hcomplete.eq_whole
  cases stack with
  | zero => cases hstate
  | succ stack =>
    rw [getState, hmode] at hstate
    dsimp only at hstate
    by_cases hheld : id ∈ held
    · rcases displayNodeState_held hheld hstate with ⟨_, _, _, _, _, heq⟩ | ⟨_, _, heq⟩
      · cases heq
      · cases heq
    · rw [displayNodeState] at hstate
      simp only [hheld, if_false] at hstate
      rcases catching_eq_returned hstate with hbody | ⟨error, herror⟩
      · obtain ⟨path', -, w, -, hbody'⟩ := bind_eq_returned hbody
        obtain ⟨children', hcollect, heq⟩ := map_eq_returned hbody'
        cases heq
        have hcalls := collect_eq_returned hcollect
        rw [List.map_map] at hcalls
        obtain ⟨name, hmem⟩ := hchild
        -- the state of the child is at its place among the states
        obtain ⟨i, hi, hget⟩ := List.getElem_of_mem hmem
        have hlength := hchildren.length_eq
        rw [List.length_map] at hlength
        have hcomplete' := (List.forall₂_iff_get.mp hchildren).2 i (by rwa [List.length_map]) (hlength ▸ hi)
        have hcall := (List.forall₂_iff_get.mp hcalls).2 i (by rwa [List.length_map]) (hlength ▸ hi)
        simp only [List.get_eq_getElem, List.getElem_map, Function.comp_apply, hget] at hcomplete' hcall
        rcases hcall with ⟨w', hreturned⟩ | ⟨name', error, hfailed⟩
        · exact ⟨_, _, _, _, hreturned, hcomplete'⟩
        · rw [hfailed] at hcomplete'
          cases hcomplete'
      · cases herror

/-- A complete state has no mode node in it. -/
theorem modeFree_of_complete {below : ι} (hbelow : Below h id below) {stack : ℕ} {held : List ι} {state : State}
    {waited : Bool} (hstate : getState h stack held id = .returned state waited) (hcomplete : Complete h id state) :
    (h below).mode = none := by
  induction hbelow using Relation.ReflTransGen.head_induction_on generalizing stack held state waited with
  | refl =>
    cases hmode : (h below).mode with
    | none => rfl
    | some mode => exact absurd hcomplete (not_complete_of_mode hmode hstate)
  | head hchild _ ih =>
    obtain ⟨stack', held', state', waited', hstate', hcomplete'⟩ := child_complete hstate hcomplete hchild
    exact ih hstate' hcomplete'

end Snapshots

/-! ### Trees without a mode node -/

section Trees

variable {ι : Type} {h : Heap ι} {id : ι}

/-- No node is below itself, for its parents end. -/
theorem Forest.acyclic (hforest : Forest h) (id : ι) : ¬Relation.TransGen (IsChild h) id id := by
  have hrooted := hforest.rooted id
  induction hrooted with
  | root hid =>
    intro hcycle
    obtain ⟨node, ⟨name, hmem⟩, -⟩ := Relation.TransGen.head'_iff.mp hcycle
    rw [hforest.parent _ _ _ hmem] at hid
    cases hid
  | step hid _ ih =>
    intro hcycle
    obtain ⟨node, hchild, hrest⟩ := Relation.TransGen.head'_iff.mp hcycle
    obtain ⟨name, hmem⟩ := hchild
    rw [hforest.parent _ _ _ hmem] at hid
    cases hid
    exact ih (Relation.TransGen.tail' hrest ⟨name, hmem⟩)

theorem Forest.wellFounded [Finite ι] (hforest : Forest h) : WellFounded (IsChild h) := by
  have hirrefl : Std.Irrefl (Relation.TransGen (IsChild h)) := ⟨hforest.acyclic⟩
  have hwf : WellFounded (Relation.TransGen (IsChild h)) := Finite.wellFounded_of_trans_of_irrefl _
  exact Subrelation.wf Relation.TransGen.single hwf

theorem Forest.not_below_child (hforest : Forest h) {child : ι} (hchild : IsChild h child id) : ¬Below h child id := by
  intro hbelow
  refine hforest.acyclic id (Relation.TransGen.tail' ?_ hchild)
  exact Relation.reflTransGen_swap.mp hbelow

/-- A number that is enough for each of a list is enough for all. -/
theorem exists_enough {α : Type} {l : List α} {P : α → ℕ → Prop} (h : ∀ a ∈ l, ∃ n, ∀ m, n ≤ m → P a m) :
    ∃ n, ∀ a ∈ l, ∀ m, n ≤ m → P a m := by
  induction l with
  | nil => exact ⟨0, fun a ha => absurd ha List.not_mem_nil⟩
  | cons a l ih =>
    obtain ⟨n, hn⟩ := h a List.mem_cons_self
    obtain ⟨k, hk⟩ := ih fun b hb => h b (List.mem_cons_of_mem _ hb)
    refine ⟨max n k, fun b hb m hm => ?_⟩
    rcases List.mem_cons.mp hb with rfl | hb
    · exact hn m ((le_max_left n k).trans hm)
    · exact hk b hb m ((le_max_right n k).trans hm)

theorem exists_forall₂ {α β : Type} {R : α → β → Prop} {l : List α} (h : ∀ a ∈ l, ∃ b, R a b) :
    ∃ bs, List.Forall₂ R l bs := by
  induction l with
  | nil => exact ⟨[], .nil⟩
  | cons a l ih =>
    obtain ⟨b, hb⟩ := h a List.mem_cons_self
    obtain ⟨bs, hbs⟩ := ih fun c hc => h c (List.mem_cons_of_mem _ hc)
    exact ⟨b :: bs, .cons hb hbs⟩

variable [DecidableEq ι]

/-- A node without mode nodes below it, whose locks are all free, returns its complete state and waits for nothing. -/
theorem exists_complete [Finite ι] (hforest : Forest h) (id : ι) (hfree : ModeFree h id) :
    ∃ enough, ∀ stack, enough ≤ stack → ∀ held : List ι, (∀ below, Below h id below → below ∉ held) →
      ∃ state, getState h stack held id = .returned state false ∧ Complete h id state := by
  induction id using hforest.wellFounded.induction with
  | h id ih =>
    obtain ⟨path, hpath, enoughPath, hget⟩ := getPath_of_rooted (hforest.rooted id)
    obtain ⟨enough, hchildren⟩ := exists_enough (l := (h id).children) (P := fun e stack => ∀ held : List ι,
        (∀ below, Below h e.2 below → below ∉ held) →
          ∃ state, getState h stack held e.2 = .returned state false ∧ Complete h e.2 state) fun e he => by
      refine ih e.2 ⟨e.1, he⟩ fun below hbelow => hfree below ?_
      exact Relation.ReflTransGen.head ⟨e.1, he⟩ hbelow
    refine ⟨max enoughPath enough + 1, fun stack hstack held hheld => ?_⟩
    obtain ⟨stack, rfl⟩ := Nat.exists_eq_succ_of_ne_zero (Nat.ne_of_gt ((Nat.succ_pos _).trans_le hstack))
    have hstack' : max enoughPath enough ≤ stack := Nat.le_of_succ_le_succ hstack
    -- the lock of the node is not one that its children take
    have hstates : ∀ e ∈ (h id).children, ∃ state,
        getState h stack (id :: held) e.2 = .returned state false ∧ Complete h e.2 state := by
      intro e he
      refine hchildren e he stack ((le_max_right _ _).trans hstack') (id :: held) fun below hbelow hmem => ?_
      rcases List.mem_cons.mp hmem with rfl | hmem
      · exact hforest.not_below_child ⟨e.1, he⟩ hbelow
      · exact hheld below (Relation.ReflTransGen.head ⟨e.1, he⟩ hbelow) hmem
    obtain ⟨states, hstates⟩ := exists_forall₂ hstates
    have hcalls : List.Forall₂ (fun o s => o = Outcome.returned s false)
        (((h id).children.map fun e => (e.1, getState h stack (id :: held) e.2)).map Prod.snd) states := by
      rw [List.map_map, List.forall₂_map_left_iff]
      exact hstates.imp fun _ _ hstate => hstate.1
    obtain ⟨named, hcollect, hnames, rfl⟩ := collect_of_returned hcalls
    have hself : id ∉ held := hheld id .refl
    have hmode : (h id).mode = none := hfree id .refl
    refine ⟨.whole (h id).name (h id).value path (h id).metadata named (h id).mode, ?_, ?_⟩
    · rw [getState, hmode]
      dsimp only
      rw [displayNodeState]
      simp only [hself, if_false]
      rw [hget stack ((le_max_left _ _).trans hstack'), bind_returned, hcollect, map_returned]
      rfl
    · refine .whole hpath ?_ ?_
      · rw [hnames, List.map_map]
        rfl
      · rw [List.forall₂_map_left_iff]
        exact hstates.imp fun _ _ hstate => hstate.2

/-- `get_state` returns the complete state of every node without waiting for a lock that its own thread holds,
exactly if there is no mode node in the tree of the node. -/
theorem getState_complete_iff [Finite ι] (hforest : Forest h) (id : ι) :
    (∃ enough, ∀ stack, enough ≤ stack → ∃ state,
        getState h stack [] id = .returned state false ∧ Complete h id state) ↔ ModeFree h id := by
  constructor
  · rintro ⟨enough, hstate⟩ below hbelow
    obtain ⟨state, hreturned, hcomplete⟩ := hstate enough (le_refl enough)
    exact modeFree_of_complete hbelow hreturned hcomplete
  · intro hfree
    obtain ⟨enough, hstate⟩ := exists_complete hforest id hfree
    exact ⟨enough, fun stack hstack => hstate stack hstack [] fun _ _ => List.not_mem_nil⟩

end Trees

/-! ### A branch of the display tree -/

/-- A node of a radar and a second one, `mode` or not, before they are linked. -/
def radarNodes (mode : Option ModeFields) : Heap Bool := fun id =>
  { name := if id then "mode" else "weather_radar"
    parent := none
    children := []
    value := if id then .str "STANDBY" else .none
    metadata := ⟨0, 0, 0, 0, none⟩
    mode := if id then mode else none }

def radarBranch (mode : Option ModeFields) : Heap Bool := (radarNodes mode).addChild false true

theorem forest_radarBranch (mode : Option ModeFields) : Forest (radarBranch mode) := by
  refine (forest_of_new fun _ => ⟨rfl, rfl⟩).addChild rfl fun habove => ?_
  rcases Relation.ReflTransGen.cases_head habove with heq | ⟨node, hup, -⟩
  · exact absurd heq (by decide)
  · cases hup

theorem mode_radarBranch (id : Bool) : (radarBranch none id).mode = none := by
  cases id <;> rfl

theorem displayNodes_complete :
    ∃ enough, ∀ stack, enough ≤ stack → ∃ state,
      getState (radarBranch none) stack [] false = .returned state false ∧ Complete (radarBranch none) false state :=
  (getState_complete_iff (forest_radarBranch none) false).mpr fun below _ => mode_radarBranch below

/-- A mode node waits for the lock that it holds, and returns what is returned after a timeout; so the state of the
node above it is not complete. -/
theorem modeNode_not_complete :
    (∃ path metadata mode, getState (radarBranch (some ⟨.none, none, none, []⟩)) 5 [] true =
        .returned (.timeout "mode" (.str "STANDBY") path "Lock acquisition timeout" metadata mode) true) ∧
      Forest (radarBranch (some ⟨.none, none, none, []⟩)) ∧
      ¬∃ enough, ∀ stack, enough ≤ stack → ∃ state,
        getState (radarBranch (some ⟨.none, none, none, []⟩)) stack [] false = .returned state false ∧
          Complete (radarBranch (some ⟨.none, none, none, []⟩)) false state := by
  refine ⟨⟨_, _, _, rfl⟩, forest_radarBranch _, ?_⟩
  rintro ⟨enough, hstate⟩
  obtain ⟨state, hreturned, hcomplete⟩ := hstate enough (le_refl enough)
  have hchild : IsChild (radarBranch (some ⟨.none, none, none, []⟩)) true false := ⟨"mode", List.mem_cons_self⟩
  have hmode := modeFree_of_complete (Relation.ReflTransGen.single hchild) hreturned hcomplete
  cases hmode

end Fmofp.DisplayTree.Snapshot
