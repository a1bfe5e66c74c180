import Fmofp.Machine.Run
import Fmofp.Python.Text

/-! The priorities of `AsyncMessageHandler` and its `PriorityQueue`: a queue for each priority, and the
table of retries. -/

namespace Fmofp.AsyncHandler

open Python

/-- `MessagePriority`. -/
inductive Priority where
  | high
  | normal
  | low
  deriving DecidableEq

/-- The order in which the priorities are served. -/
def priorities : List Priority := [.high, .normal, .low]

/-- `text.endswith(suffix)`, of a value that has the method. -/
def endsWith (v : Value) (suffix : String) : Except Exception Bool :=
  match v with
  | .str s => .ok (decide (suffix.toList <:+ s.toList))
  | _ => .error .attributeError

def urgentWords : List String := ["alert", "warning", "emergency"]

/-- `MessagePriority.get_priority`. -/
def getPriority (py : Runtime) (message : Message) : Except Exception Priority := do
  let commandType := Dict.getD message "command_type" .none
  let messageType := Dict.getD message "message_type" (.str "")
  if commandType = .str "mode_change" then return .high
  if ← endsWith messageType "ModeChangeRequest" then return .high
  if commandType = .str "mode_change_completion" then return .high
  if ← endsWith messageType "ModeChangeCompletion" then return .high
  if urgentWords.any fun urgent => contains (py.lower (py.str messageType)) urgent then return .high
  return .normal

/-- `message['message_id']` as the key of a dictionary. -/
def messageId (message : Message) : Except Exception Value :=
  match Dict.get? message "message_id" with
  | none => .error .keyError
  | some v => match v.key? with
    | some key => .ok key
    | none => .error .typeError

structure PriorityQueue (α : Type) where
  queues : Priority → List α
  retryTracking : Dict Value (ℕ × ℚ)

namespace PriorityQueue

variable {α : Type}

def new : PriorityQueue α := ⟨fun _ => [], []⟩

/-- `put` of an item with its identifier. -/
def put (q : PriorityQueue α) (item : α) (id : Value) (p : Priority) (now : ℚ) : PriorityQueue α where
  queues := Function.update q.queues p (q.queues p ++ [item])
  retryTracking :=
    if Dict.has q.retryTracking id then q.retryTracking else Dict.set q.retryTracking id (0, now)

/-- The items, in the order in which they are served. -/
def items (q : PriorityQueue α) : List α := priorities.flatMap q.queues

/-- The item that is served from one of the queues. -/
def takeFrom (q : PriorityQueue α) (p : Priority) : Option (α × PriorityQueue α) :=
  match q.queues p with
  | [] => none
  | item :: rest => some (item, { q with queues := Function.update q.queues p rest })

/-- `get`, where there is an item. -/
def get (q : PriorityQueue α) : Option (α × PriorityQueue α) := priorities.firstM q.takeFrom

/-- `task_done`. -/
def taskDone (q : PriorityQueue α) (id : Value) (success : Bool) (now : ℚ) : PriorityQueue α :=
  match Dict.get? q.retryTracking id with
  | none => q
  | some (retryCount, _) =>
    { q with
      retryTracking :=
        if success then Dict.erase q.retryTracking id
        else Dict.set q.retryTracking id (retryCount + 1, now) }

/-- `get_retry_candidates`: the identifiers that are due, and the table without those whose retries
are spent. -/
def getRetryCandidates (q : PriorityQueue α) (maxRetries : ℕ) (retryDelay now : ℚ) :
    List Value × PriorityQueue α :=
  let kept := q.retryTracking.filter fun e => decide (e.2.1 < maxRetries)
  ((kept.filter fun e => decide (retryDelay ≤ now - e.2.2)).map Prod.fst,
    { q with retryTracking := kept })

end PriorityQueue

/-! ### The lists of the priorities -/

section Lists

variable {α : Type}

theorem flatMap_priorities (f : Priority → List α) :
    (↑(priorities.flatMap f) : Multiset α) = f .high + f .normal + f .low := by
  simp [priorities]

/-- Items at the end of one of the lists. -/
theorem flatMap_update_append (f : Priority → List α) (p : Priority) (xs : List α) :
    (↑(priorities.flatMap (Function.update f p (f p ++ xs))) : Multiset α) =
      ↑(priorities.flatMap f) + ↑xs := by
  rw [flatMap_priorities, flatMap_priorities]
  cases p <;> simp only [Function.update, reduceCtorEq, dite_true, dite_false, ← Multiset.coe_add] <;>
    abel

/-- An item less at the front of one of them. -/
theorem flatMap_update_tail (f : Priority → List α) {p : Priority} {item : α} {rest : List α}
    (h : f p = item :: rest) :
    (↑(priorities.flatMap f) : Multiset α) =
      ↑(priorities.flatMap (Function.update f p rest)) + {item} := by
  have hfront : (↑(f p) : Multiset α) = ↑rest + {item} := by
    rw [h, ← Multiset.cons_coe, ← Multiset.singleton_add, add_comm]
  rw [flatMap_priorities, flatMap_priorities]
  cases p <;> simp only [Function.update, reduceCtorEq, dite_true, dite_false, hfront] <;> abel

theorem mem_flatMap_priorities {f : Priority → List α} {item : α} :
    item ∈ priorities.flatMap f ↔ ∃ p, item ∈ f p := by
  simp only [List.mem_flatMap]
  constructor
  · rintro ⟨p, -, h⟩
    exact ⟨p, h⟩
  · rintro ⟨p, h⟩
    refine ⟨p, ?_, h⟩
    cases p <;> decide

/-- What the first success of a list of attempts is. -/
theorem exists_of_firstM {β : Type} {f : α → Option β} {attempts : List α} {b : β}
    (h : attempts.firstM f = some b) : ∃ a, f a = some b := by
  induction attempts with
  | nil => cases h
  | cons a attempts ih =>
    rw [List.firstM] at h
    cases ha : f a with
    | none =>
      rw [ha] at h
      exact ih h
    | some found =>
      rw [ha] at h
      exact ⟨a, ha.trans h⟩

namespace PriorityQueue

theorem takeFrom_items {q q' : PriorityQueue α} {p : Priority} {item : α}
    (h : q.takeFrom p = some (item, q')) : (↑q.items : Multiset α) = ↑q'.items + {item} := by
  unfold takeFrom at h
  split at h
  · cases h
  · rename_i rest hqueue
    cases h
    exact flatMap_update_tail q.queues hqueue

theorem get_items {q q' : PriorityQueue α} {item : α} (h : q.get = some (item, q')) :
    (↑q.items : Multiset α) = ↑q'.items + {item} := by
  obtain ⟨p, hp⟩ := exists_of_firstM h
  exact takeFrom_items hp

theorem put_items (q : PriorityQueue α) (item : α) (id : Value) (p : Priority) (now : ℚ) :
    (↑(q.put item id p now).items : Multiset α) = ↑q.items + {item} :=
  flatMap_update_append q.queues p [item]

end PriorityQueue

end Lists

end Fmofp.AsyncHandler

/-! `PriorityQueue` under threads.  What reads or changes the queues is a step of its own: a test of
`empty`, a `get` of one of the queues, each statement under the lock; a thread that cannot have the lock
stays where it is. -/

namespace Fmofp.AsyncHandler

open Python Machine

def Priority.value : Priority → ℕ
  | .high => 0
  | .normal => 1
  | .low => 2

/-- The key of `self._queues` that a caller means. -/
def queueKey (priority : Value) : Except Exception Priority :=
  match priority.key? with
  | none => .error .typeError
  | some key =>
    match priorities.find? fun p => key = .float p.value with
    | some p => .ok p
    | none => .error .keyError

/-- `(system_name, message)`. -/
abbrev QueueItem : Type := Value × Message

/-- The tuple that `put` is called with; `malformed` has neither two values nor three. -/
inductive PutTuple
  | pair (systemName : Value) (message : Message)
  | triple (systemName : Value) (message : Message) (priority : Value)
  | malformed

inductive QueueCall
  | put (item : PutTuple)
  | get (timeout : Option ℚ)
  | getNowait
  | getHighPriorityMessage

/-- The method that a thread takes an item in, with what it remembers. -/
inductive Getter
  | get (timeout : Option ℚ) (startTime : ℚ)
  | getNowait
  | highPriorityMessage

/-- Where a thread is, with its local variables. -/
inductive Point
  | idle
  /-- In front of the lock in `put`; the priority need not be a key of the queues. -/
  | putting (item : QueueItem) (id : Value) (key : Except Exception Priority)
  /-- In front of `self._size += 1`, with the lock. -/
  | counting (p : Priority) (item : QueueItem)
  /-- In front of the test of the first of the queues that are left. -/
  | scanning (g : Getter) (left : List Priority)
  /-- In front of the `get` of a queue that was not empty. -/
  | taking (g : Getter) (p : Priority) (left : List Priority)
  /-- In front of the lock, and `self._size -= 1`. -/
  | discounting (p : Priority) (item : QueueItem)
  | returning (p : Priority) (item : QueueItem)

/-- What happens to an item that is put. -/
inductive Stage
  | stored
  | counted
  | took
  | discounted
  | returned
  deriving DecidableEq

inductive Failure
  | empty
  | other (e : Exception)

/-- An item, with the thread that handles it and its priority. -/
structure Handled (T : Type) where
  thread : T
  priority : Priority
  item : QueueItem

inductive Effect (T : Type)
  | moved (stage : Stage) (m : Handled T)
  | gaveNone (thread : T)
  | raised (thread : T) (e : Failure)

inductive QueueInput (T : Type)
  | call (thread : T) (now : ℚ) (c : QueueCall)
  | run (thread : T) (now : ℚ)

structure QueueState (T : Type) where
  queue : PriorityQueue QueueItem
  size : ℤ
  lock : Option T
  point : T → Point

/-- The table of retries with a new message in it. -/
def PriorityQueue.track {α : Type} (q : PriorityQueue α) (id : Value) (now : ℚ) : PriorityQueue α :=
  { q with
    retryTracking :=
      if Dict.has q.retryTracking id then q.retryTracking else Dict.set q.retryTracking id (0, now) }

/-- What `put` works out before it takes the lock: the item, its identifier, and its queue. -/
def prepare (py : Runtime) :
    PutTuple → Except Exception (QueueItem × Value × Except Exception Priority)
  | .pair systemName message => do
    let p ← getPriority py message
    let id ← messageId message
    return ((systemName, message), id, .ok p)
  | .triple systemName message priority => do
    let id ← messageId message
    return ((systemName, message), id, queueKey priority)
  | .malformed => .error .valueError

namespace QueueState

variable {T : Type}

def new : QueueState T := ⟨.new, 0, none, fun _ => .idle⟩

/-- `qsize`. -/
def qsize (s : QueueState T) : ℤ := s.size

variable [DecidableEq T]

def goto (s : QueueState T) (t : T) (p : Point) : QueueState T :=
  { s with point := Function.update s.point t p }

/-- A call of an idle thread. -/
def start (py : Runtime) (s : QueueState T) (t : T) (now : ℚ) :
    QueueCall → Option (Effect T) × QueueState T
  | .put item =>
    match prepare py item with
    | .ok (item, id, key) => (none, s.goto t (.putting item id key))
    | .error e => (some (.raised t (.other e)), s)
  | .get timeout => (none, s.goto t (.scanning (.get timeout now) priorities))
  | .getNowait => (none, s.goto t (.scanning .getNowait priorities))
  | .getHighPriorityMessage => (none, s.goto t (.scanning .highPriorityMessage [.high]))

/-- No queue is left to look at. -/
def exhausted (s : QueueState T) (t : T) (now : ℚ) : Getter → Option (Effect T) × QueueState T
  | .get none startTime => (none, s.goto t (.scanning (.get none startTime) priorities))
  | .get (some timeout) startTime =>
    if timeout - (now - startTime) ≤ 0 then (some (.gaveNone t), s.goto t .idle)
    else (none, s.goto t (.scanning (.get (some timeout) startTime) priorities))
  | .getNowait | .highPriorityMessage => (some (.gaveNone t), s.goto t .idle)

/-- The queue that was not empty is empty now: `get` does not expect this. -/
def foundEmpty (s : QueueState T) (t : T) (left : List Priority) :
    Getter → Option (Effect T) × QueueState T
  | .get _ _ => (some (.raised t .empty), s.goto t .idle)
  | .getNowait => (none, s.goto t (.scanning .getNowait left))
  | .highPriorityMessage => (none, s.goto t (.scanning .highPriorityMessage left))

/-- The next step of a thread from where it is. -/
def advance (s : QueueState T) (t : T) (now : ℚ) : Point → Option (Effect T) × QueueState T
  | .idle => (none, s)
  | .putting item id key =>
    if s.lock.isSome then (none, s)
    else match key with
      | .ok p =>
        (some (.moved .stored ⟨t, p, item⟩),
          { s with queue := s.queue.put item id p now, lock := some t }.goto t (.counting p item))
      | .error e =>
        (some (.raised t (.other e)), { s with queue := s.queue.track id now }.goto t .idle)
  | .counting p item =>
    (some (.moved .counted ⟨t, p, item⟩), { s with size := s.size + 1, lock := none }.goto t .idle)
  | .scanning g [] => s.exhausted t now g
  | .scanning g (p :: left) =>
    if s.queue.queues p = [] then (none, s.goto t (.scanning g left))
    else (none, s.goto t (.taking g p left))
  | .taking g p left =>
    match s.queue.takeFrom p with
    | some (item, queue) =>
      (some (.moved .took ⟨t, p, item⟩), { s with queue }.goto t (.discounting p item))
    | none => s.foundEmpty t left g
  | .discounting p item =>
    if s.lock.isSome then (none, s)
    else (some (.moved .discounted ⟨t, p, item⟩),
      { s with size := s.size - 1 }.goto t (.returning p item))
  | .returning p item => (some (.moved .returned ⟨t, p, item⟩), s.goto t .idle)

/-- A call of a thread that is in one already, and a step of a thread in none, do nothing. -/
def step (py : Runtime) (s : QueueState T) : QueueInput T → Option (Effect T) × QueueState T
  | .call t now c =>
    match s.point t with
    | .idle => s.start py t now c
    | _ => (none, s)
  | .run t now => s.advance t now (s.point t)

end QueueState

end Fmofp.AsyncHandler
