import Fmofp.Machine.Run
import Fmofp.Python.Value

/-! `EventBus`: the queue of what is published, the lists of subscribers, and the steps in which the
processing thread hands an item to them.  Between two of its steps, and so also while a callback runs,
any thread may publish, subscribe and unsubscribe. -/

namespace Fmofp.EventBus

open Python

/-- What is published: an event with its topic, a `MIL_STD_1553B_Message`, or something else.  The data
are absent when the attribute is. -/
inductive Item where
  | event (topic : Value) (data : Option Value)
  | message (messageType rtAddress : Value) (data : Option Value)
  | other
  deriving DecidableEq

/-- `_validate_message`. -/
def validateMessage : Item → Bool
  | .event topic data => topic.truthy && data.isSome
  | .message messageType _ data => messageType.truthy && data.isSome
  | .other => false

/-- An entry of a list of subscribers.  The serial number, which the code does not have, tells several
subscriptions of one callback apart. -/
structure Subscription (C : Type) where
  callback : C
  serial : ℕ
  deriving DecidableEq

/-- How far the handling of an item is. -/
inductive Progress (C : Type) where
  | taken
  /-- `_handle_event`: the entries of the snapshot that are still to be called. -/
  | delivering (remaining : List (Subscription C))
  /-- `_handle_1553b_message`: where the iterator stands in the list itself. -/
  | routing (key : Value) (next : ℕ)

structure State (C : Type) where
  subscribers : Dict Value (List (Subscription C))
  eventQueue : List Item
  handling : Option (Item × Progress C)
  subscriptions : ℕ

inductive Action (C : Type) where
  | publish (item : Item)
  | subscribe (topic : Value) (callback : C)
  | unsubscribe (topic : Value) (callback : C)
  /-- A step of the processing thread; `failed` if it calls a callback that raises. -/
  | turn (failed : Bool)
  deriving DecidableEq

inductive Answer (C : Type) where
  | done
  | raised (e : Exception)
  | removed (found : Bool)
  | called (subscription : Subscription C) (item : Item) (failed : Bool)

/-- The call that a step answers with. -/
def Answer.calls {C : Type} : Answer C → List (Subscription C × Item)
  | .called subscription item _ => [(subscription, item)]
  | _ => []

variable {C : Type} [DecidableEq C]

def start : State C := ⟨[], [], none, 0⟩

namespace State

def entries (s : State C) (key : Value) : List (Subscription C) :=
  (Dict.get? s.subscribers key).getD []

def publish (item : Item) (s : State C) : Answer C × State C :=
  if validateMessage item then (.done, { s with eventQueue := s.eventQueue ++ [item] })
  else (.done, s)

/-- `subscribe`; a topic that has no hash raises. -/
def subscribe (topic : Value) (callback : C) (s : State C) : Answer C × State C :=
  match topic.key? with
  | none => (.raised .typeError, s)
  | some key =>
    (.done, { s with
      subscribers := Dict.set s.subscribers key (s.entries key ++ [⟨callback, s.subscriptions⟩])
      subscriptions := s.subscriptions + 1 })

/-- `unsubscribe`, which removes the first entry with the callback. -/
def unsubscribe (topic : Value) (callback : C) (s : State C) : Answer C × State C :=
  match topic.key? with
  | none => (.removed false, s)
  | some key =>
    if (s.entries key).any fun e => decide (e.callback = callback) then
      (.removed true, { s with
        subscribers := Dict.set s.subscribers key
          ((s.entries key).eraseP fun e => decide (e.callback = callback)) })
    else (.removed false, s)

/-- What the handling of an item begins with; a key without a hash raises, which is caught. -/
def beginHandling (s : State C) : Item → Option (Item × Progress C)
  | .event topic data =>
    topic.key?.map fun key => (.event topic data, .delivering (s.entries key))
  | .message messageType rtAddress data =>
    rtAddress.key?.bind fun key =>
      -- The list of a key is never replaced, so that the iterator stays with the list it is given.
      if Dict.has s.subscribers key then some (.message messageType rtAddress data, .routing key 0)
      else none
  | .other => none

/-- A step of `_process_events`; what a callback raises is caught and the next one is called. -/
def turn (failed : Bool) (s : State C) : Answer C × State C :=
  match s.handling with
  | none => match s.eventQueue with
    | [] => (.done, s)
    | item :: rest => (.done, { s with eventQueue := rest, handling := some (item, .taken) })
  | some (item, .taken) => (.done, { s with handling := s.beginHandling item })
  | some (_, .delivering []) => (.done, { s with handling := none })
  | some (item, .delivering (e :: rest)) =>
    (.called e item failed, { s with handling := some (item, .delivering rest) })
  | some (item, .routing key next) => match (s.entries key)[next]? with
    | some e => (.called e item failed, { s with handling := some (item, .routing key (next + 1)) })
    | none => (.done, { s with handling := none })

end State

def step (s : State C) : Action C → Answer C × State C
  | .publish item => s.publish item
  | .subscribe topic callback => s.subscribe topic callback
  | .unsubscribe topic callback => s.unsubscribe topic callback
  | .turn failed => s.turn failed

/-- The valid item that a step publishes. -/
def published (_ : State C) : Action C → List Item
  | .publish item => if validateMessage item then [item] else []
  | _ => []

/-- The item that a step takes from the queue. -/
def taken (s : State C) : Action C → List Item
  | .turn _ => if s.handling.isNone then s.eventQueue.take 1 else []
  | _ => []

def called (s : State C) (a : Action C) : List (Subscription C × Item) := (step s a).1.calls

/-- The key under which an item finds its subscribers. -/
def keyOf : Item → Option Value
  | .event topic _ => topic.key?
  | .message _ rtAddress _ => rtAddress.key?
  | .other => none

theorem step_publish (s : State C) (item : Item) :
    (step s (.publish item)).2.subscribers = s.subscribers ∧
      (step s (.publish item)).2.handling = s.handling ∧ called s (.publish item) = [] := by
  simp only [called, step, State.publish]
  split <;> exact ⟨rfl, rfl, rfl⟩

theorem step_subscribe (s : State C) (topic : Value) (callback : C) :
    (step s (.subscribe topic callback)).2.handling = s.handling ∧
      called s (.subscribe topic callback) = [] ∧
      ∀ key, (step s (.subscribe topic callback)).2.entries key = s.entries key ++
        if topic.key? = some key then [⟨callback, s.subscriptions⟩] else [] := by
  simp only [called, step, State.subscribe]
  cases topic.key? with
  | none => simp [Answer.calls]
  | some topicKey =>
    refine ⟨rfl, rfl, fun key => ?_⟩
    by_cases hkey : topicKey = key
    · subst hkey
      simp [State.entries]
    · simp [State.entries, Dict.get?_set, hkey]

theorem step_unsubscribe (s : State C) (topic : Value) (callback : C) :
    (step s (.unsubscribe topic callback)).2.handling = s.handling ∧
      called s (.unsubscribe topic callback) = [] ∧
      ∀ key, (step s (.unsubscribe topic callback)).2.entries key =
        if topic.key? = some key then (s.entries key).eraseP fun e => decide (e.callback = callback)
        else s.entries key := by
  simp only [called, step, State.unsubscribe]
  cases topic.key? with
  | none => simp [Answer.calls]
  | some topicKey =>
    simp only [Option.some.injEq]
    by_cases hfound : (s.entries topicKey).any fun e => decide (e.callback = callback)
    · rw [if_pos hfound]
      refine ⟨rfl, rfl, fun key => ?_⟩
      by_cases hkey : topicKey = key
      · subst hkey
        simp [State.entries]
      · simp [State.entries, Dict.get?_set, hkey]
    · rw [if_neg hfound]
      refine ⟨rfl, rfl, fun key => ?_⟩
      by_cases hkey : topicKey = key
      · subst hkey
        rw [if_pos rfl, List.eraseP_of_forall_not]
        simpa using hfound
      · rw [if_neg hkey]

end Fmofp.EventBus
