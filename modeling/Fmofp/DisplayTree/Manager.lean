import Fmofp.Display.DataCoordinator

/-! `DisplayTreeManager`: an update of a radar puts a new branch in the place of the radar's branch, and then updates
one of the new nodes. -/

namespace Fmofp.DisplayTree

open Python
open Display (messageType)

/-- A node, by the names on the way to it. -/
inductive Path where
  | root
  | radar (radar : String)
  | mode (radar : String)
  | visual (radar : String)
  | data (radar : String)
  | dataType (radar dataType : String)
  deriving DecidableEq

namespace Path

/-- The radar whose branch a node is in. -/
def radar? : Path → Option String
  | root => none
  | radar r | mode r | visual r | data r | dataType r _ => some r

/-- The first node is above the second one. -/
def above : Path → Path → Bool
  | radar r, mode s | radar r, visual s | radar r, data s | radar r, dataType s _ | data r, dataType s _ => r = s
  | _, _ => false

end Path

structure Node where
  value : Value
  /-- The modes of a mode node, with their times. -/
  modeHistory : List (Value × ℚ)
  subscribers : Finset ℕ

abbrev Tree := Path → Option Node

/-- A new `DisplayNode` or `VisualNode`. -/
def displayNode : Node := ⟨.none, [], ∅⟩

/-- A new mode node of a branch. -/
def standbyNode (now : ℚ) : Node := ⟨.str "STANDBY", [(.str "STANDBY", now)], ∅⟩

namespace Tree

variable (t : Tree)

/-- `add_child`, of a node that has no children: what was below the name before is gone. -/
def addChild (path : Path) (node : Node) : Tree := fun p =>
  if p = path then some node else if path.above p then none else t p

def modify (path : Path) (f : Node → Node) : Tree := Function.update t path ((t path).map f)

def addSubscriber (path : Path) (subscriber : ℕ) : Tree :=
  t.modify path fun node => { node with subscribers := insert subscriber node.subscribers }

end Tree

/-- What the nodes use and do not own: the defaults of the visual settings, the settings of a mode (those of `STANDBY`
for one without settings), and whether the choice and the check of a mode's enum, of which only the log tells, comes
to its end for a radar and an update. -/
structure Helpers where
  defaultSettings : Dict String Value
  modeSettings : Value → Dict String Value
  checksMode : String → Value → Bool

/-- The tree, and the settings of the visual settings managers by radar. -/
structure Displays where
  tree : Tree
  settings : Dict String (Dict String Value)

/-- `ModeNode.update`, unless it raises. -/
def Node.updateMode (node : Node) (checks : Value → Bool) (modeData : Value) (now : ℚ) : Option Node :=
  let currentMode : Option Value := match modeData with
    | .str mode => some (.str mode)
    | .dict entries => some (Dict.getD entries "current_mode" .none)
    | _ => none
  currentMode.bind fun mode =>
    if mode.truthy then
      if checks modeData then
        let history := node.modeHistory ++ [(mode, now)]
        some { node with value := mode, modeHistory := if 10 < history.length then history.tail else history }
      else none
    else some node

/-- The mode that an update of the mode asks for, as the visual settings find it. -/
def currentMode : Value → Value
  | .dict entries =>
    if (messageType entries).truthy then messageType entries
    else Dict.getD entries "current_mode" (Dict.getD entries "mode" .none)
  | modeData => modeData

namespace Displays

variable (h : Helpers) (s : Displays)

def getSettings (radar : String) : Dict String Value := Dict.getD s.settings radar h.defaultSettings

/-- `update_settings` of the manager of a radar. -/
def updateSettings (radar : String) (new : Dict String Value) : Displays :=
  { s with settings := Dict.set s.settings radar (Dict.update (s.getSettings h radar) new) }

def applyModeSettings (radar : String) (mode : Value) : Displays := s.updateSettings h radar (h.modeSettings mode)

/-- The visual node of the radar gets the settings. -/
def updateVisualNode (radar : String) : Displays :=
  { s with tree := s.tree.modify (.visual radar) fun node => { node with value := .dict (s.getSettings h radar) } }

end Displays

def weatherRadar : String := "weather_radar"

def dataTypes : List String := ["precipitation", "vil", "cells"]

/-- The data nodes of the weather radar. -/
def Tree.addData (t : Tree) : Tree :=
  dataTypes.foldl (fun t type => t.addChild (.dataType weatherRadar type) displayNode)
    (t.addChild (.data weatherRadar) displayNode)

/-- The new node of a radar, with which the update handler of a display is registered, if there is one. -/
def Tree.addRadar (t : Tree) (display : Option ℕ) (radar : String) : Tree :=
  let t := t.addChild (.radar radar) displayNode
  match display with
  | some handler => t.addSubscriber (.radar radar) handler
  | none => t

/-- The new branch of a radar with its mode and its visual settings. -/
def Displays.addBranch (h : Helpers) (now : ℚ) (display : Option ℕ) (radar : String) (s : Displays) : Displays :=
  let tree := s.tree.addRadar display radar
  let tree := tree.addChild (.mode radar) (standbyNode now)
  let tree := tree.addChild (.visual radar) displayNode
  ({ s with tree := tree }.applyModeSettings h radar (.str "STANDBY")).updateVisualNode h radar

/-- `initialize_radar_branch`. -/
def Displays.initializeRadarBranch (h : Helpers) (now : ℚ) (display : Option ℕ) (radar : String) (s : Displays) :
    Displays :=
  let s := s.addBranch h now display radar
  if radar = weatherRadar then { s with tree := s.tree.addData } else s

/-- `initialize`: the branch of the weather radar has no subscriber and the default settings. -/
def Displays.initial (h : Helpers) (now : ℚ) (display : Option ℕ) : Displays :=
  let tree : Tree := fun p => if p = .root then some displayNode else none
  let tree := tree.addChild (.radar weatherRadar) displayNode
  let tree := tree.addChild (.mode weatherRadar) (standbyNode now)
  let tree := tree.addChild (.visual weatherRadar) { displayNode with value := .dict h.defaultSettings }
  ["targeting_radar", "tfr_radar", "sar_radar", "aewc_radar"].foldl
    (fun s radar => s.initializeRadarBranch h now display radar) { tree := tree.addData, settings := [] }

/-! ### Updates -/

/-- The arguments of the three updates. -/
inductive Update where
  | mode (radar : String) (modeData : Value)
  | visuals (radar : String) (visualData : Dict String Value)
  | data (radar dataType : String) (data : Value)

/-- A call, with its time and the display that the initialiser finds or makes. -/
structure Call where
  update : Update
  now : ℚ
  display : Option ℕ

namespace Update

def radar : Update → String
  | mode r _ | visuals r _ | data r _ _ => r

/-- The node that an update addresses. -/
def addressed : Update → Path
  | mode r _ => .mode r
  | visuals r _ => .visual r
  | data r type _ => .dataType r type

end Update

namespace Displays

variable (h : Helpers) (now : ℚ) (s : Displays)

/-- `update_radar_mode`, after the branch is there. -/
def updateRadarMode (radar : String) (modeData : Value) : Displays :=
  match (s.tree (.mode radar)).bind fun node => node.updateMode (h.checksMode radar) modeData now with
  | none => s
  | some node =>
    let s := { s with tree := Function.update s.tree (.mode radar) (some node) }
    if (currentMode modeData).truthy then
      let s := s.applyModeSettings h radar (currentMode modeData)
      let forceUpdate := match modeData with
        | .dict entries => Dict.getD entries "force_update" (.bool false)
        | _ => .bool false
      let s := if forceUpdate.truthy then s.updateSettings h radar [("force_update", forceUpdate)] else s
      s.updateVisualNode h radar
    else s

/-- `update_radar_data`, after the branch is there; a radar without data nodes gets an error in the log. -/
def updateRadarData (radar dataType : String) (data : Value) : Displays :=
  match s.tree (.data radar) with
  | none => s
  | some _ => { s with tree := s.tree.modify (.dataType radar dataType) fun node => { node with value := data } }

/-- A call; the initialiser raises an error for a radar without a name. -/
def step (call : Call) : Displays :=
  if call.update.radar = "" then s
  else
    let s := s.initializeRadarBranch h call.now call.display call.update.radar
    match call.update with
    | .mode radar modeData => s.updateRadarMode h call.now radar modeData
    | .visuals radar visualData => s.updateSettings h radar visualData
    | .data radar dataType data => s.updateRadarData radar dataType data

def run (calls : List Call) : Displays := calls.foldl (fun s call => s.step h call) s

end Displays

end Fmofp.DisplayTree
