import Fmofp.AsyncHandler.QueueThreads
import Fmofp.Machine.Run

/-! `AsyncMessageHandler._validate_message`, with `validate_command_word` that it ends in. -/

namespace Fmofp.AsyncHandler

open Python

/-- What validation takes from elsewhere: the names of commands in the registry file and in the module
of the command words, whether a system is active once it is registered, and whether a radar database is
there or can be had. -/
structure Setting where
  py : Runtime
  commandRegistry : String → Bool
  commandWordGlobals : String → Bool
  active : String → Bool
  radarDb : Bool

namespace Setting

variable (env : Setting)

/-- Whether `validate_command_word` returns a word. -/
def isCommandWord : Value → Bool
  | .str s =>
    if s.length = 20 ∧ startsWith s "100" then
      match env.py.intBase2 (slice s 3 8) with
      | .ok _ => true
      | .error _ => false
    else if s.length = 16 ∧ isBinary s then true
    else if startsWith s "0x" then (env.py.intLiteral 16 s).isSome
    else env.commandRegistry (env.py.lower s) || env.commandWordGlobals s
  | .bool _ | .int _ => true
  | _ => false

def isStatusWord (message : Message) : Bool :=
  Dict.has message "status_word" ||
    decide (Dict.getD message "message_type" .none = .str "status_word") ||
    match Dict.getD message "command_word" .none with
    | .str s => startsWith s "100"
    | _ => false

/-- The verdict of `_validate_message` where it does not look the system up. -/
def earlyVerdict (systemName : String) (message : Message) : Option Bool :=
  let rtAddress := (Dict.getD message "rt_address" .none).number?
  if isStatusWord message ∧ rtAddress = some 11 ∧ systemName = "display" then some true
  else if isStatusWord message ∧ rtAddress = some 9 ∧ systemName = "radar" then some true
  else if isStatusWord message ∧ rtAddress = some 11 ∧ systemName = "radar" then some false
  else if isStatusWord message ∧ rtAddress = some 9 ∧ systemName = "display" then some false
  else if systemName = "radar" ∧ env.radarDb = false then some false
  else if (Dict.getD message "command_word" .none).truthy then none
  else some false

/-- `_validate_message`, which registers a system that it looks up and does not find. -/
def validateMessage (systemName : String) (message : Message) : Bool :=
  match env.earlyVerdict systemName message with
  | some verdict => verdict
  | none => env.active systemName && env.isCommandWord (Dict.getD message "command_word" .none)

/-- Whether the system is looked up. -/
def needsSystem (systemName : String) (message : Message) : Bool :=
  (env.earlyVerdict systemName message).isNone

/-! An identifier plays no part in validation. -/

theorem getD_set_messageId (message : Message) (v default : Value) {k : String}
    (hk : "message_id" ≠ k) :
    Dict.getD (Dict.set message "message_id" v) k default = Dict.getD message k default := by
  rw [Dict.getD, Dict.get?_set_ne message v hk, Dict.getD]

theorem isStatusWord_set_messageId (message : Message) (v : Value) :
    isStatusWord (Dict.set message "message_id" v) = isStatusWord message := by
  have hhas : Dict.has (Dict.set message "message_id" v) "status_word" =
      Dict.has message "status_word" := by
    rw [Dict.has, Dict.get?_set_ne message v (by decide), Dict.has]
  unfold isStatusWord
  rw [hhas, getD_set_messageId message v .none (by decide),
    getD_set_messageId message v .none (by decide)]

theorem earlyVerdict_set_messageId (systemName : String) (message : Message) (v : Value) :
    env.earlyVerdict systemName (Dict.set message "message_id" v) =
      env.earlyVerdict systemName message := by
  unfold earlyVerdict
  rw [isStatusWord_set_messageId, getD_set_messageId message v .none (by decide),
    getD_set_messageId message v .none (by decide)]

theorem validateMessage_set_messageId (systemName : String) (message : Message) (v : Value) :
    env.validateMessage systemName (Dict.set message "message_id" v) =
      env.validateMessage systemName message := by
  unfold validateMessage
  rw [earlyVerdict_set_messageId, getD_set_messageId message v .none (by decide)]

end Setting

/-- A process that only knows ASCII text, with all systems active. -/
def sampleSetting : Setting where
  py := .ascii
  commandRegistry _ := false
  commandWordGlobals _ := false
  active _ := true
  radarDb := true

end Fmofp.AsyncHandler

/-! Where the messages of `AsyncMessageHandler` are: in the buffer while it does not process messages, in
the queue, and with the workers.  A state change to `STOPPING` flushes the buffer, and a flush in
`STOPPED` changes the state, each under a lock that the other one takes as well: after that nobody gets
the lock any more. -/

namespace Fmofp.AsyncHandler

open Python Machine

inductive HandlerState where
  | stopped
  | starting
  | running
  | stopping
  | degraded
  deriving DecidableEq

def HandlerState.Processing (s : HandlerState) : Prop := s = .running ∨ s = .degraded

instance (s : HandlerState) : Decidable s.Processing := inferInstanceAs (Decidable (_ ∨ _))

/-- A message that `_validate_message` accepts, and the call of `add_message` that it is from. -/
structure Entry (env : Setting) where
  call : ℕ
  systemName : String
  message : Message
  valid : env.validateMessage systemName message = true

namespace Entry

variable {env : Setting}

/-- The message with an identifier, a new one if it has none. -/
def identified (uuid : ℕ → String) (e : Entry env) : Entry env :=
  if Dict.has e.message "message_id" then e
  else
    { e with
      message := Dict.set e.message "message_id" (.str (uuid e.call))
      valid := (env.validateMessage_set_messageId _ _ _).trans e.valid }

/-- The entry can be put into the queue: its identifier can be the key of a dictionary. -/
def Queueable (e : Entry env) : Prop := (messageId e.message).toOption.isSome = true

instance (e : Entry env) : Decidable e.Queueable := inferInstanceAs (Decidable (_ = _))

end Entry

/-- `systems` are the registered ones.  `stateLockStuck` and `lockStuck` say that a thread waits
forever for `_state_lock` or for `lock`, which it holds itself. -/
structure State (env : Setting) where
  handlerState : HandlerState
  buffer : Priority → List (Entry env)
  queue : PriorityQueue (Entry env)
  handed : List (Entry env)
  systems : List String
  calls : ℕ
  stateLockStuck : Bool
  lockStuck : Bool

inductive Action (env : Setting) where
  | addMessage (systemName : String) (message : Message)
    (valid : env.validateMessage systemName message = true) (now : ℚ)
  /-- `_set_state` comes to the given state. -/
  | setState (new : HandlerState)
  | flushBufferToQueue (now : ℚ)
  /-- The end of `start`, which holds `lock`. -/
  | drain (now : ℚ)
  /-- A worker or `stop` takes a message out of the queue. -/
  | take
  /-- A worker takes a message of high priority only. -/
  | takeHigh

namespace State

variable {env : Setting} (s : State env)

/-- Validation would register the system. -/
def Unregistered (e : Entry env) : Prop :=
  env.needsSystem e.systemName e.message = true ∧ e.systemName ∉ s.systems

instance (e : Entry env) : Decidable (s.Unregistered e) := inferInstanceAs (Decidable (_ ∧ _))

def register (e : Entry env) : State env :=
  if s.Unregistered e then { s with systems := e.systemName :: s.systems } else s

/-- Validation, and the entry into the queue.  `put` raises for an identifier that is missing or no
key. -/
def enqueue (e : Entry env) (p : Priority) (now : ℚ) : State env :=
  if env.validateMessage e.systemName e.message then
    match messageId e.message with
    | .ok id => { s.register e with queue := s.queue.put e id p now }
    | .error _ => s.register e
  else s.register e

/-- `add_message` in `RUNNING` and `DEGRADED`. -/
def process (uuid : ℕ → String) (e : Entry env) (now : ℚ) : State env :=
  match getPriority env.py e.message with
  | .ok p =>
    let identified := e.identified uuid
    -- the identifier is the key of the tracking entry, before validation
    if identified.Queueable then
      if s.lockStuck ∧ s.Unregistered identified then s else s.enqueue identified p now
    else s
  | .error _ => s

/-- `add_message` in the other states.  The entry is in the buffer before the log line asks for the
identifier. -/
def store (e : Entry env) : State env :=
  match if s.handlerState = .stopping then .ok .high else getPriority env.py e.message with
  | .ok p => { s with buffer := Function.update s.buffer p (s.buffer p ++ [e]) }
  | .error _ => s

/-- The messages in the buffer, in the order of the priorities. -/
def buffered : List (Entry env) := priorities.flatMap s.buffer

/-- `get_all_messages`: the messages in the order of the priorities, and the empty buffer. -/
def getAllMessages : List (Priority × Entry env) × State env :=
  (priorities.flatMap fun p => (s.buffer p).map fun e => (p, e), { s with buffer := fun _ => [] })

/-- The messages of a flush, one after the other. -/
def flushEntries (now : ℚ) : State env → List (Priority × Entry env) → State env
  | s, [] => s
  | s, (p, e) :: rest =>
    if s.lockStuck ∧ s.Unregistered e then s else flushEntries now (s.enqueue e p now) rest

/-- The buffered messages that `start` adds again while it holds `lock`. -/
def drainEntries (uuid : ℕ → String) (now : ℚ) : State env → List (Priority × Entry env) → State env
  | s, [] => s
  | s, (_, e) :: rest =>
    if s.Unregistered e then { s with lockStuck := true }
    else drainEntries uuid now (s.process uuid e now) rest

/-- `_flush_buffer_to_queue`. -/
def flush (now : ℚ) : State env :=
  if s.stateLockStuck then s
  else if s.handlerState.Processing then s.getAllMessages.2.flushEntries now s.getAllMessages.1
  else if s.handlerState = .stopped then { s with stateLockStuck := true }
  else s

/-- `_set_state`. -/
def setState (new : HandlerState) : State env :=
  if s.stateLockStuck then s
  else if new = .stopping ∧ 0 < s.buffered.length then
    { s with handlerState := .stopping, stateLockStuck := true }
  else { s with handlerState := new }

end State

variable {env : Setting}

def nextState (uuid : ℕ → String) (s : State env) : Action env → State env
  | .addMessage systemName message valid now =>
    let e : Entry env := ⟨s.calls, systemName, message, valid⟩
    let counted := { s with calls := s.calls + 1 }
    if s.stateLockStuck then counted
    else if s.handlerState.Processing then counted.process uuid e now
    else counted.store e
  | .setState new => s.setState new
  | .flushBufferToQueue now => s.flush now
  | .drain now =>
    if s.handlerState.Processing ∧ ¬s.lockStuck then
      s.getAllMessages.2.drainEntries uuid now s.getAllMessages.1
    else s
  | .take => match s.queue.get with
    | some (e, queue) => { s with queue := queue, handed := s.handed ++ [e] }
    | none => s
  | .takeHigh => match s.queue.takeFrom .high with
    | some (e, queue) => { s with queue := queue, handed := s.handed ++ [e] }
    | none => s

def bufferStep (uuid : ℕ → String) (s : State env) (a : Action env) : Unit × State env :=
  ((), nextState uuid s a)

def stoppedHandler (env : Setting) : State env where
  handlerState := .stopped
  buffer _ := []
  queue := .new
  handed := []
  systems := []
  calls := 0
  stateLockStuck := false
  lockStuck := false

end Fmofp.AsyncHandler
