import Fmofp.DisplayTree.Manager

/-! The updates of the display tree and the nodes that they do not address: a call leaves them as they are if and only
if it finds the rest of the radar's branch as the initialiser leaves it. -/

namespace Fmofp.DisplayTree

open Python

/-- What a node has to keep: its subscribers, the value of a mode node or a data node, and the modes of the history. -/
def Node.view (node : Node) : Path → Finset ℕ × Value × List Value
  | .mode _ => (node.subscribers, node.value, node.modeHistory.map Prod.fst)
  | .dataType _ _ => (node.subscribers, node.value, [])
  | _ => (node.subscribers, .none, [])

/-- A node survives with its subscribers, to which others may come. -/
def Survives (p : Path) (before after : Tree) : Prop :=
  ∀ node ∈ before p, ∃ node' ∈ after p,
    (node.view p).1 ⊆ (node'.view p).1 ∧ (node'.view p).2 = (node.view p).2

/-- The nodes that are not touched survive. -/
def Frame (touched : Set Path) (before after : Tree) : Prop := ∀ p ∉ touched, Survives p before after

/-- A node is as a new branch has it, its visual settings and times apart. -/
def AsInitialised (display : Option ℕ) (node : Node) : Path → Prop
  | .root => True
  | .radar _ => ∀ subscriber ∈ node.subscribers, display = some subscriber
  | .mode _ => node.subscribers = ∅ ∧ node.value = .str "STANDBY" ∧
      node.modeHistory.map Prod.fst = [.str "STANDBY"]
  | .visual _ => node.subscribers = ∅
  | .data radar => radar = weatherRadar ∧ node.subscribers = ∅
  | .dataType radar dataType => radar = weatherRadar ∧ dataType ∈ dataTypes ∧ node.subscribers = ∅ ∧
      node.value = .none

/-- The initialiser raises an error, or the nodes of the radar that the call does not address are as in a new branch. -/
def Spared (t : Tree) (call : Call) : Prop :=
  call.update.radar = "" ∨ ∀ p, p.radar? = some call.update.radar → p ≠ call.update.addressed →
    ∀ node ∈ t p, AsInitialised call.display node p

/-! ### Frames -/

section Frames

variable {p : Path} {touched touched' : Set Path} {t₁ t₂ t₃ : Tree}

theorem Survives.refl (p : Path) (t : Tree) : Survives p t t := fun node hnode => ⟨node, hnode, subset_rfl, rfl⟩

theorem Survives.trans (h₁ : Survives p t₁ t₂) (h₂ : Survives p t₂ t₃) : Survives p t₁ t₃ := by
  intro node hnode
  obtain ⟨node', hnode', hsubscribers, hstate⟩ := h₁ node hnode
  obtain ⟨node'', hnode'', hsubscribers', hstate'⟩ := h₂ node' hnode'
  exact ⟨node'', hnode'', hsubscribers.trans hsubscribers', hstate'.trans hstate⟩

theorem Frame.refl (touched : Set Path) (t : Tree) : Frame touched t t := fun p _ => Survives.refl p t

theorem Frame.trans (h₁ : Frame touched t₁ t₂) (h₂ : Frame touched' t₂ t₃) : Frame (touched ∪ touched') t₁ t₃ :=
  fun p hp => (h₁ p fun h => hp (.inl h)).trans (h₂ p fun h => hp (.inr h))

theorem Frame.mono (h : Frame touched t₁ t₂) (hsubset : touched ⊆ touched') : Frame touched' t₁ t₂ :=
  fun p hp => h p fun hmem => hp (hsubset hmem)

/-- Only what a node has to keep matters for its survival. -/
theorem survives_congr (h : (t₂ p).map (Node.view · p) = (t₃ p).map (Node.view · p)) :
    Survives p t₁ t₂ ↔ Survives p t₁ t₃ := by
  unfold Survives
  refine forall₂_congr fun node _ => ?_
  cases h₂ : t₂ p with
  | none =>
    rw [h₂] at h
    rw [Option.map_eq_none_iff.mp h.symm]
  | some n₂ =>
    rw [h₂] at h
    obtain ⟨n₃, h₃, hview⟩ := Option.map_eq_some_iff.mp h.symm
    rw [h₃]
    simp only [Option.mem_some_iff, exists_eq_left', hview]

end Frames

/-! ### A new branch -/

section Branch

variable {h : Helpers} {now : ℚ} {display : Option ℕ} {radar : String} {s : Displays} {p : Path}

theorem radar?_of_above {path : Path} (habove : path.above p = true) : p.radar? = path.radar? := by
  cases path with
  | root | mode | visual | dataType => cases habove
  | radar r | data r =>
    cases p with
    | root | radar => cases habove
    | mode | visual | data | dataType =>
      first
      | cases habove
      | exact congrArg some (of_decide_eq_true habove).symm

theorem addChild_of_above {t : Tree} {path : Path} {node : Node} (hne : p ≠ path) (habove : path.above p = true) :
    t.addChild path node p = none := by
  unfold Tree.addChild
  rw [if_neg hne, if_pos habove]

theorem addChild_self (t : Tree) (path : Path) (node : Node) : t.addChild path node path = some node := if_pos rfl

theorem addChild_of_not_above {t : Tree} {path : Path} {node : Node} (hne : p ≠ path) (habove : path.above p = false) :
    t.addChild path node p = t p := by
  unfold Tree.addChild
  rw [if_neg hne, habove]
  rfl

/-- Nothing that is done in a branch changes the other ones. -/
theorem addChild_outside {t : Tree} {path : Path} {node : Node} (hp : p.radar? ≠ path.radar?) :
    t.addChild path node p = t p :=
  addChild_of_not_above (fun heq => hp (congrArg Path.radar? heq))
    (Bool.eq_false_iff.mpr fun habove => hp (radar?_of_above habove))

theorem modify_of_ne {t : Tree} {path : Path} {f : Node → Node} (hp : p ≠ path) : t.modify path f p = t p :=
  Function.update_of_ne hp _ _

theorem modify_self (t : Tree) (path : Path) (f : Node → Node) : t.modify path f path = (t path).map f :=
  Function.update_self _ _ _

theorem addRadar_self (t : Tree) (display : Option ℕ) (radar : String) :
    t.addRadar display radar (.radar radar) = some { displayNode with subscribers := display.toFinset } := by
  unfold Tree.addRadar
  cases display with
  | none => exact addChild_self _ _ _
  | some handler =>
    dsimp only [Tree.addSubscriber]
    rw [modify_self, addChild_self]
    rfl

theorem addRadar_below (t : Tree) (display : Option ℕ) (habove : (Path.radar radar).above p = true) :
    t.addRadar display radar p = none := by
  have hradar : p ≠ .radar radar := fun heq => by subst heq; cases habove
  unfold Tree.addRadar
  cases display with
  | none => exact addChild_of_above hradar habove
  | some handler => exact (modify_of_ne hradar).trans (addChild_of_above hradar habove)

theorem addRadar_outside {t : Tree} (hp : p.radar? ≠ some radar) : t.addRadar display radar p = t p := by
  unfold Tree.addRadar
  cases display with
  | none => exact addChild_outside hp
  | some handler =>
    have hne : p ≠ .radar radar := fun heq => hp (congrArg Path.radar? heq)
    exact (modify_of_ne hne).trans (addChild_outside hp)

/-- The settings that a new branch has. -/
def standbySettings (h : Helpers) (s : Displays) (radar : String) : Dict String Value :=
  (s.applyModeSettings h radar (.str "STANDBY")).getSettings h radar

theorem addBranch_tree (h : Helpers) (now : ℚ) (display : Option ℕ) (radar : String) (s : Displays) :
    (s.addBranch h now display radar).tree =
      (((s.tree.addRadar display radar).addChild (.mode radar) (standbyNode now)).addChild (.visual radar)
        displayNode).modify (.visual radar) fun node => { node with value := .dict (standbySettings h s radar) } := rfl

theorem addBranch_outside (hp : p.radar? ≠ some radar) : (s.addBranch h now display radar).tree p = s.tree p := by
  have hvisual : p ≠ .visual radar := fun heq => hp (congrArg Path.radar? heq)
  rw [addBranch_tree, modify_of_ne hvisual, addChild_outside hp, addChild_outside hp, addRadar_outside hp]

/-- The nodes of a new branch. -/
def branchNode (now : ℚ) (display : Option ℕ) (settings : Dict String Value) : Path → Option Node
  | .root => none
  | .radar _ => some { displayNode with subscribers := display.toFinset }
  | .mode _ => some (standbyNode now)
  | .visual _ => some { displayNode with value := .dict settings }
  | .data radar => if radar = weatherRadar then some displayNode else none
  | .dataType radar dataType => if radar = weatherRadar ∧ dataType ∈ dataTypes then some displayNode else none

theorem addBranch_radar (s : Displays) : (s.addBranch h now display radar).tree (.radar radar) =
    some { displayNode with subscribers := display.toFinset } := by
  have hne : Path.radar radar ≠ .visual radar ∧ Path.radar radar ≠ .mode radar := ⟨nofun, nofun⟩
  rw [addBranch_tree, modify_of_ne hne.1, addChild_of_not_above hne.1 rfl, addChild_of_not_above hne.2 rfl,
    addRadar_self]

theorem addBranch_mode (s : Displays) :
    (s.addBranch h now display radar).tree (.mode radar) = some (standbyNode now) := by
  have hne : Path.mode radar ≠ .visual radar := nofun
  rw [addBranch_tree, modify_of_ne hne, addChild_of_not_above hne rfl, addChild_self]

theorem addBranch_visual (s : Displays) : (s.addBranch h now display radar).tree (.visual radar) =
    some { displayNode with value := .dict (standbySettings h s radar) } := by
  rw [addBranch_tree, modify_self, addChild_self]
  rfl

/-- There are no data nodes yet. -/
theorem addBranch_below (s : Displays) (habove : (Path.radar radar).above p = true) (hmode : p ≠ .mode radar)
    (hvisual : p ≠ .visual radar) : (s.addBranch h now display radar).tree p = none := by
  have hleaves : (Path.mode radar).above p = false ∧ (Path.visual radar).above p = false := ⟨rfl, rfl⟩
  rw [addBranch_tree, modify_of_ne hvisual, addChild_of_not_above hvisual hleaves.2,
    addChild_of_not_above hmode hleaves.1, addRadar_below _ _ habove]

theorem foldl_addChild_apply (types : List String) (t : Tree) (radar : String) (p : Path) :
    types.foldl (fun t dataType => t.addChild (.dataType radar dataType) displayNode) t p =
      if p ∈ types.map (Path.dataType radar) then some displayNode else t p := by
  induction types generalizing t with
  | nil => rfl
  | cons dataType types ih =>
    have hleaf : (Path.dataType radar dataType).above p = false := rfl
    rw [List.foldl_cons, ih, List.map_cons]
    by_cases hp : p = .dataType radar dataType
    · rw [hp, addChild_self]
      simp
    · rw [addChild_of_not_above hp hleaf]
      simp [hp]

theorem addData_apply (t : Tree) (p : Path) : t.addData p =
    if p ∈ dataTypes.map (Path.dataType weatherRadar) then some displayNode
    else t.addChild (.data weatherRadar) displayNode p := foldl_addChild_apply _ _ _ _

theorem addData_of_not_data {t : Tree} (htypes : p ∉ dataTypes.map (Path.dataType weatherRadar))
    (hdata : p ≠ .data weatherRadar) (habove : (Path.data weatherRadar).above p = false) : t.addData p = t p := by
  rw [addData_apply, if_neg htypes, addChild_of_not_above hdata habove]

theorem initializeRadarBranch_tree (s : Displays) (p : Path) : (s.initializeRadarBranch h now display radar).tree p =
    if radar = weatherRadar then (s.addBranch h now display radar).tree.addData p
    else (s.addBranch h now display radar).tree p := by
  unfold Displays.initializeRadarBranch
  split_ifs
  · rfl
  · rfl

/-- Other branches stay as they are. -/
theorem initializeRadarBranch_outside (hp : p.radar? ≠ some radar) :
    (s.initializeRadarBranch h now display radar).tree p = s.tree p := by
  rw [initializeRadarBranch_tree, addBranch_outside hp]
  split_ifs with hradar
  · rw [addData_apply, addChild_outside (hradar ▸ hp), addBranch_outside hp, if_neg]
    intro hmem
    obtain ⟨dataType, _, rfl⟩ := List.mem_map.mp hmem
    exact hp (congrArg some hradar.symm)
  · rfl

theorem notMem_types (h : ∀ radar dataType, p ≠ .dataType radar dataType) :
    p ∉ dataTypes.map (Path.dataType weatherRadar) := by
  intro hmem
  obtain ⟨dataType, _, rfl⟩ := List.mem_map.mp hmem
  exact h _ _ rfl

/-- The branch of the radar is a new one. -/
theorem initializeRadarBranch_inside (hp : p.radar? = some radar) :
    (s.initializeRadarBranch h now display radar).tree p = branchNode now display (standbySettings h s radar) p := by
  rw [initializeRadarBranch_tree]
  cases p with
  | root => cases hp
  | radar r =>
    obtain rfl : r = radar := Option.some.inj hp
    rw [addData_of_not_data (p := .radar r) (notMem_types nofun) nofun rfl, ite_self]
    exact addBranch_radar s
  | mode r =>
    obtain rfl : r = radar := Option.some.inj hp
    rw [addData_of_not_data (p := .mode r) (notMem_types nofun) nofun rfl, ite_self]
    exact addBranch_mode s
  | visual r =>
    obtain rfl : r = radar := Option.some.inj hp
    rw [addData_of_not_data (p := .visual r) (notMem_types nofun) nofun rfl, ite_self]
    exact addBranch_visual s
  | data r =>
    obtain rfl : r = radar := Option.some.inj hp
    rw [addBranch_below (p := .data r) s (decide_eq_true rfl) nofun nofun, addData_apply,
      if_neg (notMem_types (p := .data r) nofun)]
    change (if r = weatherRadar then _ else _) = if r = weatherRadar then some displayNode else none
    split_ifs with hr
    · rw [hr, addChild_self]
    · rfl
  | dataType r dataType =>
    obtain rfl : r = radar := Option.some.inj hp
    rw [addBranch_below (p := .dataType r dataType) s (decide_eq_true rfl) nofun nofun, addData_apply]
    change _ = if r = weatherRadar ∧ dataType ∈ dataTypes then some displayNode else none
    by_cases hr : r = weatherRadar
    · have habove : (Path.data r).above (.dataType r dataType) = true := decide_eq_true rfl
      have hmem : Path.dataType r dataType ∈ dataTypes.map (Path.dataType r) ↔ dataType ∈ dataTypes :=
        List.mem_map_of_injective fun _ _ heq => (Path.dataType.inj heq).2
      have hne : Path.dataType r dataType ≠ .data r := nofun
      rw [← hr, if_pos rfl, addChild_of_above hne habove]
      simp only [hmem, true_and]
    · rw [if_neg hr, if_neg fun hand => hr hand.1]

theorem survives_branchNode_iff {t t' : Tree} {settings : Dict String Value} (hp : p.radar? = some radar)
    (ht' : t' p = branchNode now display settings p) :
    Survives p t t' ↔ ∀ node ∈ t p, AsInitialised display node p := by
  unfold Survives
  refine forall₂_congr fun node _ => ?_
  rw [ht']
  cases p with
  | root => cases hp
  | radar r => simp [branchNode, Node.view, AsInitialised, Finset.subset_iff]
  | mode r => simp [branchNode, Node.view, AsInitialised, standbyNode, eq_comm]
  | visual r => simp [branchNode, Node.view, AsInitialised, displayNode]
  | data r => simp [branchNode, Node.view, AsInitialised, displayNode]
  | dataType r dataType => simp [branchNode, Node.view, AsInitialised, displayNode, and_assoc, eq_comm]

end Branch

/-! ### A call -/

section Step

variable {h : Helpers} {s : Displays} {call : Call} {p : Path}

/-- The visual settings are nothing that a node has to keep. -/
theorem view_updateVisualNode (s : Displays) (radar : String) (p : Path) :
    ((s.updateVisualNode h radar).tree p).map (Node.view · p) = (s.tree p).map (Node.view · p) := by
  unfold Displays.updateVisualNode
  dsimp only
  by_cases hp : p = .visual radar
  · subst hp
    rw [modify_self, Option.map_map]
    rfl
  · rw [modify_of_ne hp]

theorem view_updateRadarMode (s : Displays) {now : ℚ} {radar : String} {modeData : Value} (hp : p ≠ .mode radar) :
    ((s.updateRadarMode h now radar modeData).tree p).map (Node.view · p) = (s.tree p).map (Node.view · p) := by
  unfold Displays.updateRadarMode
  cases (s.tree (.mode radar)).bind fun node => node.updateMode (h.checksMode radar) modeData now with
  | none => rfl
  | some node =>
    have hset : Function.update s.tree (.mode radar) (some node) p = s.tree p := Function.update_of_ne hp _ _
    dsimp only
    split_ifs
    · rw [view_updateVisualNode]
      exact congrArg (Option.map (Node.view · p)) hset
    · rw [view_updateVisualNode]
      exact congrArg (Option.map (Node.view · p)) hset
    · exact congrArg (Option.map (Node.view · p)) hset

theorem updateRadarData_of_ne (s : Displays) {radar dataType : String} {data : Value}
    (hp : p ≠ .dataType radar dataType) :
    (s.updateRadarData radar dataType data).tree p = s.tree p := by
  unfold Displays.updateRadarData
  cases s.tree (.data radar) with
  | none => rfl
  | some node => exact modify_of_ne hp

/-- After the branch is there, a call changes only the node that it addresses, the visual settings apart. -/
theorem view_step (hname : call.update.radar ≠ "") (hp : p ≠ call.update.addressed) :
    ((s.step h call).tree p).map (Node.view · p) =
      ((s.initializeRadarBranch h call.now call.display call.update.radar).tree p).map (Node.view · p) := by
  unfold Displays.step
  rw [if_neg hname]
  obtain ⟨update, now, display⟩ := call
  cases update with
  | mode radar modeData => exact view_updateRadarMode _ hp
  | visuals radar visualData => rfl
  | data radar dataType data => exact congrArg (Option.map (Node.view · p)) (updateRadarData_of_ne _ hp)

/-- A call leaves the nodes that it does not address as they are if and only if it finds them so, or they are none of
its radar. -/
theorem frame_step_iff (h : Helpers) (s : Displays) (call : Call) :
    Frame {call.update.addressed} s.tree (s.step h call).tree ↔ Spared s.tree call := by
  unfold Spared Frame
  by_cases hname : call.update.radar = ""
  · have hstep : s.step h call = s := if_pos hname
    rw [hstep]
    exact iff_of_true (fun p _ => Survives.refl p s.tree) (.inl hname)
  · rw [or_iff_right hname]
    refine forall_congr' fun p => ?_
    by_cases hp : p.radar? = some call.update.radar
    · rw [forall_prop_of_true hp]
      refine imp_congr_right fun hne => ?_
      rw [survives_congr (view_step hname hne)]
      exact survives_branchNode_iff hp (initializeRadarBranch_inside hp)
    · refine iff_of_true (fun hne => ?_) fun hp' => absurd hp' hp
      rw [survives_congr (view_step hname hne), survives_congr (congrArg _ (initializeRadarBranch_outside hp))]
      exact Survives.refl p s.tree

/-- An update of a data node of the weather radar stores its data. -/
theorem step_data {dataType : String} {data : Value} (hupdate : call.update = .data weatherRadar dataType data)
    (htype : dataType ∈ dataTypes) :
    ((s.step h call).tree (.dataType weatherRadar dataType)).map Node.value = some data := by
  have hname : call.update.radar ≠ "" := by
    have hnonempty : weatherRadar ≠ "" := by decide
    rw [hupdate]
    exact hnonempty
  have hdata : (s.initializeRadarBranch h call.now call.display weatherRadar).tree (.data weatherRadar) =
      some displayNode := by
    rw [initializeRadarBranch_inside rfl, branchNode, if_pos rfl]
  have hnode : (s.initializeRadarBranch h call.now call.display weatherRadar).tree
      (.dataType weatherRadar dataType) = some displayNode := by
    rw [initializeRadarBranch_inside rfl, branchNode, if_pos ⟨rfl, htype⟩]
  unfold Displays.step
  rw [if_neg hname, hupdate]
  unfold Displays.updateRadarData
  dsimp only [Update.radar]
  rw [hdata]
  dsimp only
  rw [modify_self, hnode]
  rfl

end Step

/-! ### Runs -/

/-- The nodes that some call of a list addresses. -/
def touched (calls : List Call) : Set Path := {p | ∃ call ∈ calls, call.update.addressed = p}

/-- In every part of a run the nodes that no call of it addresses survive, and a data node has what the last update of
it has stored. -/
structure LocalRun (h : Helpers) (s : Displays) (calls : List Call) : Prop where
  survive : ∀ before during after, calls = before ++ during ++ after →
    Frame (touched during) (s.run h before).tree (s.run h (before ++ during)).tree
  stored : ∀ before call during after dataType data, calls = before ++ call :: during ++ after →
    call.update = .data weatherRadar dataType data → dataType ∈ dataTypes →
    .dataType weatherRadar dataType ∉ touched during →
    ((s.run h (before ++ call :: during)).tree (.dataType weatherRadar dataType)).map Node.value = some data

/-- Each call of a run finds the nodes of its radar, apart from the one that it addresses, as in a new branch. -/
def SparedRun (h : Helpers) (s : Displays) (calls : List Call) : Prop :=
  ∀ before call after, calls = before ++ call :: after → Spared (s.run h before).tree call

section Runs

variable {h : Helpers} {s : Displays} {calls : List Call}

theorem run_append (h : Helpers) (s : Displays) (before after : List Call) :
    s.run h (before ++ after) = (s.run h before).run h after := List.foldl_append

theorem frame_run (hspared : SparedRun h s calls) : Frame (touched calls) s.tree (s.run h calls).tree := by
  induction calls generalizing s with
  | nil => exact Frame.refl _ _
  | cons call calls ih =>
    have hstep := (frame_step_iff h s call).mpr (hspared [] call calls rfl)
    have hrest := ih fun before call' after heq => hspared (call :: before) call' after (congrArg _ heq)
    refine (hstep.trans hrest).mono ?_
    rintro p (rfl | ⟨call', hmem, rfl⟩)
    · exact ⟨call, List.mem_cons_self, rfl⟩
    · exact ⟨call', List.mem_cons_of_mem _ hmem, rfl⟩

theorem SparedRun.part {before during after : List Call} (hspared : SparedRun h s calls)
    (heq : calls = before ++ during ++ after) : SparedRun h (s.run h before) during := by
  intro before' call after' hduring
  rw [← run_append]
  refine hspared (before ++ before') call (after' ++ after) ?_
  rw [heq, hduring]
  simp only [List.append_assoc, List.cons_append]

/-- What a data node has survives. -/
theorem value_of_frame {t t' : Tree} {nodes : Set Path} {radar dataType : String} {data : Value}
    (hframe : Frame nodes t t') (hp : .dataType radar dataType ∉ nodes)
    (hvalue : (t (.dataType radar dataType)).map Node.value = some data) :
    (t' (.dataType radar dataType)).map Node.value = some data := by
  obtain ⟨node, hnode, rfl⟩ := Option.map_eq_some_iff.mp hvalue
  obtain ⟨node', hnode', _, hstate⟩ := hframe _ hp node hnode
  rw [Option.mem_def.mp hnode']
  exact congrArg some (congrArg Prod.fst hstate)

/-- The updates of a run are local if and only if each of them finds the other nodes of its radar as in a new branch. -/
theorem localRun_iff (h : Helpers) (s : Displays) (calls : List Call) : LocalRun h s calls ↔ SparedRun h s calls := by
  constructor
  · intro hlocal before call after heq
    rw [← frame_step_iff h]
    have hframe := hlocal.survive before [call] after (by rw [heq, List.append_assoc]; rfl)
    rw [run_append] at hframe
    refine hframe.mono ?_
    rintro p ⟨call', hmem, rfl⟩
    rw [List.mem_singleton.mp hmem]
    rfl
  · intro hspared
    constructor
    · intro before during after heq
      rw [run_append]
      exact frame_run (hspared.part heq)
    · intro before call during after dataType data heq hupdate htype huntouched
      have hduring : SparedRun h ((s.run h before).step h call) during := by
        have hpart := hspared.part heq
        exact fun before' call' after' heq' => hpart (call :: before') call' after' (congrArg _ heq')
      have hrun : s.run h (before ++ call :: during) = ((s.run h before).step h call).run h during := run_append _ _ _ _
      rw [hrun]
      exact value_of_frame (frame_run hduring) huntouched (step_data hupdate htype)

end Runs

/-! ### Two updates of the weather radar -/

/-- The default settings, and those of `STANDBY` for every mode. -/
def standbyHelpers : Helpers where
  defaultSettings := ("overlay", .str "standby") :: ("show_status", .bool true) :: ("opacity", .float 1) ::
    ["show_legend", "show_values", "show_vil", "show_vil_legend", "show_vil_values", "show_scan_line",
      "show_intensity_scale", "show_terrain_scale"].map fun key => (key, .bool false)
  modeSettings := fun _ => ("overlay", .str "standby") :: ("show_status", .bool true) :: ("opacity", .float 1) ::
    ("legend_render_strategy", .str "standard") ::
    ["show_legend", "show_values", "show_vil", "show_precipitation", "show_storm_cells", "show_turbulence",
      "show_windshear", "show_terrain", "show_cloud_tops", "show_lightning", "show_icing", "show_scan_line",
      "show_intensity_scale", "show_terrain_scale", "show_vil_legend", "show_precipitation_legend",
      "show_intensity_legend", "show_turbulence_legend", "show_windshear_legend", "show_terrain_legend",
      "show_vil_values", "show_precipitation_values", "show_intensity_values", "show_turbulence_values",
      "show_windshear_values", "show_terrain_values"].map fun key => (key, .bool false)
  checksMode := fun _ _ => true

def precipitationUpdate : Call :=
  ⟨.data weatherRadar "precipitation" (.list [.dict [("intensity", .int 3)]]), 1, some 0⟩

def vilUpdate : Call := ⟨.data weatherRadar "vil" (.list []), 2, some 0⟩

/-- The update of the second data node loses what the first one has stored. -/
theorem precipitation_lost :
    ((Displays.initial standbyHelpers 0 (some 0)).run standbyHelpers [precipitationUpdate, vilUpdate]).tree
        (.dataType weatherRadar "precipitation") = some displayNode ∧
      ¬ LocalRun standbyHelpers (Displays.initial standbyHelpers 0 (some 0)) [precipitationUpdate, vilUpdate] := by
  have hlost : ((Displays.initial standbyHelpers 0 (some 0)).run standbyHelpers [precipitationUpdate, vilUpdate]).tree
      (.dataType weatherRadar "precipitation") = some displayNode := rfl
  have hother : .dataType weatherRadar "precipitation" ∉ touched [vilUpdate] := by
    rintro ⟨call, hmem, heq⟩
    rw [List.mem_singleton.mp hmem] at heq
    exact absurd heq (by decide)
  refine ⟨hlost, fun hlocal => ?_⟩
  have hstored := hlocal.stored [] precipitationUpdate [vilUpdate] [] "precipitation" _ rfl rfl (by decide) hother
  rw [List.nil_append, hlost] at hstored
  cases hstored

end Fmofp.DisplayTree
