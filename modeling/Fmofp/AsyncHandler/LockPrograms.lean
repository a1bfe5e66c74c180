import Fmofp.Machine.Locks
import Fmofp.AsyncHandler.Buffering
import Fmofp.AsyncHandler.Retries

/-! What a thread does with the locks of `AsyncMessageHandler` in each of its entry points.  Every read
of the state that other threads change is an action of its own, also where it is made without a lock. -/

namespace Fmofp.AsyncHandler.Locks

open Python Machine

inductive Lock where
  | lock
  | stateLock
  | transactionLock
  deriving DecidableEq

/-- The state that the threads share.  A worker is `none` where `_recover_workers` has put `None`, else
it says whether the thread is alive.  `validationError` says that `_last_validation_error` is set, and
`connectionError` that `_last_error_type` is `'connection'`. -/
structure Shared where
  state : HandlerState
  started : Bool
  running : Bool
  validationError : Bool
  connectionError : Bool
  workers : List (Option Bool)
  readyEvents : ℕ
  buffer : Priority → List (String × Message)
  queued : Priority → List (String × Message)
  tracking : Dict Value (String × Message)
  systems : List String
  uuids : ℕ

/-- Who reads whether the workers are alive. -/
inductive WorkerReader where
  | redirect
  | running
  | degraded
  | watchdog
  /-- The watchdog after it has recovered the dead workers. -/
  | recovered
  | addMessage
  deriving DecidableEq

/-- Who reads the size of the buffer. -/
inductive SizeReader where
  | redirect
  | stopping
  | start
  | worker
  deriving DecidableEq

/-- What the answer to depends on threads and clocks. -/
inductive Question where
  | executorStarts
  | workerStarts
  | workerAlive
  | workerReady
  | periodicStarts
  | periodicAlive
  | recoveryStarts
  | recoveredAlive
  /-- `start` in another thread has come to `RUNNING` or `DEGRADED` in time. -/
  | restarted
  | stateCheckDue
  | timedOut
  /-- The priority and the count of a message that has timed out allow one try more. -/
  | shouldRetry
  | retryCandidate
  deriving DecidableEq

/-- The actions on the shared state. -/
inductive Op where
  | ask (q : Question)
  | state
  | stateToFlush
  | flags
  | errors
  | clearValidationError
  | setValidationError
  | recordError (connection : Bool)
  | enter (new : HandlerState)
  | degrade
  | setRunning
  | statuses (reader : WorkerReader)
  | allAlive (reader : WorkerReader)
  | removeWorker (i : ℕ)
  | restoreWorker (i : ℕ)
  | dropDeadWorkers
  | appendReadyEvent
  | appendWorker
  | readyEvents
  | joinWorkers
  | bufferSize (reader : SizeReader)
  /-- `should_flush`, with the state that the watchdog has read. -/
  | shouldFlush (watched : Option HandlerState)
  | addToBuffer (p : Priority) (systemName : String) (message : Message)
  | getAllMessages
  | queueEmpty
  | putInQueue (p : Priority) (systemName : String) (message : Message)
  | getFromQueue
  | getHighPriority
  | lookUp (systemName : String)
  | known (systemName : String)
  | register (systemName : String)
  | uuid4
  | track (id : Value) (systemName : String) (message : Message)
  | untrack (id : Value)
  | tracked
  | lookUpTracked (id : Value)

/-- `[w.is_alive() for w in self.workers]`. -/
def aliveStatuses : List (Option Bool) → Except Unit (List Bool)
  | [] => .ok []
  | none :: _ => .error ()
  | some alive :: workers => (aliveStatuses workers).map (alive :: ·)

/-- `all(w.is_alive() for w in self.workers)`. -/
def allAlive : List (Option Bool) → Except Unit Bool
  | [] => .ok true
  | none :: _ => .error ()
  | some false :: _ => .ok false
  | some true :: workers => allAlive workers

/-- The type of the answers. -/
def Op.Answer : Op → Type
  | .ask _ | .queueEmpty | .shouldFlush _ | .lookUp _ | .known _ | .removeWorker _ => Bool
  | .state | .stateToFlush => HandlerState
  | .flags | .errors => Bool × Bool
  | .statuses _ => Except Unit (List Bool)
  | .allAlive _ => Except Unit Bool
  | .joinWorkers => Except Unit Unit
  | .bufferSize _ | .readyEvents => ℕ
  | .getAllMessages => List (Priority × String × Message)
  | .getFromQueue | .getHighPriority | .lookUpTracked _ => Option (String × Message)
  | .uuid4 => String
  | .tracked => List (Value × String × Message)
  | _ => Unit

namespace Shared

variable (s : Shared)

def size (messages : Priority → List (String × Message)) : ℕ := (priorities.flatMap messages).length

/-- The change of the state, with the flags `started` and `running`. -/
def enter (new : HandlerState) : Shared where
  __ := s
  state := new
  started := decide (new ≠ .stopped)
  running := decide (new = .running ∨ new = .degraded)

def allMessages : List (Priority × String × Message) :=
  priorities.flatMap fun p => (s.buffer p).map fun m => (p, m)

/-- The message that is first in one of the queues. -/
def takeFrom (p : Priority) : Option ((String × Message) × Shared) :=
  match s.queued p with
  | [] => none
  | m :: rest => some (m, { s with queued := Function.update s.queued p rest })

/-- An item of the queues, if there is one, and the state without it. -/
def taken (ps : List Priority) : Option (String × Message) × Shared :=
  match ps.firstM s.takeFrom with
  | some (m, s) => (some m, s)
  | none => (none, s)

end Shared

/-- The effect of an action.  `choice` answers the questions, says whether the buffer is old, and
whether a worker that is added comes to live. -/
def exec (uuid : ℕ → String) (o : Op) (s : Shared) (choice : Bool) : o.Answer × Shared :=
  match o with
  | .ask _ => (choice, s)
  | .state | .stateToFlush => (s.state, s)
  | .flags => ((s.started, s.running), s)
  | .errors => ((s.validationError, s.connectionError), s)
  | .clearValidationError => ((), { s with validationError := false })
  | .setValidationError => ((), { s with validationError := true })
  | .recordError connection => ((), { s with connectionError := connection })
  | .enter new => ((), s.enter new)
  | .degrade => ((), { s with state := .degraded })
  | .setRunning => ((), { s with running := true })
  | .statuses _ => (aliveStatuses s.workers, s)
  | .allAlive _ => (allAlive s.workers, s)
  | .removeWorker i => (decide (i < s.workers.length), { s with workers := s.workers.set i none })
  | .restoreWorker i => ((), { s with workers := s.workers.set i (some true) })
  | .dropDeadWorkers =>
    let alive := s.workers.filter fun w => decide (w = some true)
    ((), { s with workers := alive, readyEvents := min s.readyEvents alive.length })
  | .appendReadyEvent => ((), { s with readyEvents := s.readyEvents + 1 })
  | .appendWorker => ((), { s with workers := s.workers ++ [some choice] })
  | .readyEvents => (s.readyEvents, s)
  | .joinWorkers =>
    if none ∈ s.workers then (.error (), s) else (.ok (), { s with workers := [], readyEvents := 0 })
  | .bufferSize _ => (Shared.size s.buffer, s)
  | .shouldFlush _ =>
    let size := Shared.size s.buffer
    (decide (0 < size) && (choice || decide (100 < size)), s)
  | .addToBuffer p systemName message =>
    ((), { s with buffer := Function.update s.buffer p (s.buffer p ++ [(systemName, message)]) })
  | .getAllMessages => (s.allMessages, { s with buffer := fun _ => [] })
  | .queueEmpty => (decide (Shared.size s.queued = 0), s)
  | .putInQueue p systemName message =>
    ((), { s with queued := Function.update s.queued p (s.queued p ++ [(systemName, message)]) })
  | .getFromQueue => s.taken priorities
  | .getHighPriority => s.taken [.high]
  | .lookUp systemName | .known systemName => (decide (systemName ∈ s.systems), s)
  | .register systemName =>
    ((), if systemName ∈ s.systems then s else { s with systems := systemName :: s.systems })
  | .uuid4 => (uuid s.uuids, { s with uuids := s.uuids + 1 })
  | .track id systemName message =>
    ((), { s with tracking := Dict.set s.tracking id (systemName, message) })
  | .untrack id => ((), { s with tracking := Dict.erase s.tracking id })
  | .tracked => (s.tracking, s)
  | .lookUpTracked id => (Dict.get? s.tracking id, s)

/-! ### The programs -/

/-- Exceptions are not told apart. -/
abbrev P (α : Type) := Prog Lock Op.Answer Unit α

def perform (o : Op) : P o.Answer := Prog.perform o

def ask (q : Question) : P Bool := perform (.ask q)

/-- What raises unless the answer is yes. -/
def require (q : Question) : P Unit := do unless ← ask q do Prog.raise ()

/-- An `Except` of the model: an exception that is raised, or a value. -/
def raising {ε α : Type} (r : Except ε α) : P α := .ret (r.mapError fun _ => ())

def readState : P HandlerState := perform .state

def workerStatuses (reader : WorkerReader) : P (List Bool) := do
  let statuses : Except Unit (List Bool) ← perform (.statuses reader)
  raising statuses

def allWorkersAlive (reader : WorkerReader) : P Bool := do
  let alive : Except Unit Bool ← perform (.allAlive reader)
  raising alive

def bufferSize (reader : SizeReader) : P ℕ := perform (.bufferSize reader)

def shouldFlush (watched : Option HandlerState) : P Bool := perform (.shouldFlush watched)

def deadIndices (statuses : List Bool) : List ℕ :=
  (statuses.zipIdx.filter fun w => !w.1).map Prod.snd

/-- The loop of `_recover_workers` over the dead workers. -/
def recoverWorker (i : ℕ) : P Unit := do
  let inRange : Bool ← perform (.removeWorker i)
  if inRange then
    require .recoveryStarts
    if ← ask .recoveredAlive then perform (.restoreWorker i)

def recoverWorkers (deadIndices : List ℕ) : P Unit :=
  Prog.catching (do deadIndices.forM recoverWorker; perform .dropDeadWorkers) fun _ => pure ()

/-- The state that `_set_state` comes to.  The table of the valid transitions matters for `RUNNING` to
`STOPPED` only; the other transitions that it lacks are logged and made. -/
def redirected (old new : HandlerState) : P HandlerState := do
  if old = .running ∧ new = .stopped then
    let errors : Bool × Bool ← perform .errors
    if errors.1 then
      perform .clearValidationError
      return .degraded
    if errors.2 then return .degraded
    let active := (← workerStatuses .redirect).count true
    let queueEmpty : Bool ← perform .queueEmpty
    let buffered ← if queueEmpty then bufferSize .redirect else pure 0
    let pending := !queueEmpty || decide (0 < buffered)
    return if 0 < active ∧ pending then .stopping else .stopped
  return new

/-- `_set_state`, with the flush that it makes in `STOPPING`.  The recovery of the other threads catches
its exceptions and takes no lock. -/
def setStateWith (flush : P Unit) (requested : HandlerState) : P Unit :=
  Prog.withLock .stateLock do
    let old ← readState
    let new ← redirected old requested
    perform (.enter new)
    match new with
    | .running =>
      if old = .stopped ∨ old = .starting then
        let dead := deadIndices (← workerStatuses .running)
        unless dead.isEmpty do recoverWorkers dead
      unless ← allWorkersAlive .running do perform .degrade
    | .stopping =>
      if 0 < (← bufferSize .stopping) then flush
    | .degraded =>
      let dead := deadIndices (← workerStatuses .degraded)
      unless dead.isEmpty do recoverWorkers dead
    | .stopped | .starting => pure ()

/-- The transition to `STARTING` flushes nothing. -/
def setStarting : P Unit := setStateWith (pure ()) .starting

section Environment

variable (env : Setting) (uuid : ℕ → String)

def registerSystem (systemName : String) : P Unit :=
  Prog.withLock .lock (perform (.register systemName))

def validateMessage (systemName : String) (message : Message) : P Bool := do
  if env.needsSystem systemName message then
    let found : Bool ← perform (.lookUp systemName)
    unless found do registerSystem systemName
  return env.validateMessage systemName message

/-- `PriorityQueue.put`. -/
def putInQueue (p : Priority) (systemName : String) (message : Message) : P Unit := do
  let _ ← raising (messageId message)
  perform (.putInQueue p systemName message)

/-- The messages of a flush, one after the other. -/
def flushMessage (m : Priority × String × Message) : P Unit :=
  Prog.catching (do if ← validateMessage env m.2.1 m.2.2 then putInQueue m.1 m.2.1 m.2.2)
    fun _ => pure ()

/-- The part of `_flush_buffer_to_queue` under `_state_lock`: whether the flush goes on. -/
def checkState : P Bool :=
  Prog.withLock .stateLock do
    let current : HandlerState ← perform .stateToFlush
    if current.Processing then return true
    if current = .stopped then
      return ← Prog.catching (do setStarting; ask .restarted) fun _ => pure false
    return false

/-- `_flush_buffer_to_queue`. -/
def flushBufferToQueue : P Unit :=
  Prog.catching (do
    if ← checkState then
      let messages : List (Priority × String × Message) ← perform .getAllMessages
      messages.forM (flushMessage env)) fun _ => pure ()

/-- `_set_state`. -/
def setState (new : HandlerState) : P Unit := setStateWith (flushBufferToQueue env) new

/-- The message with an identifier. -/
def identified (message : Message) : P Message := do
  if Dict.has message "message_id" then return message
  let id : String ← perform .uuid4
  return Dict.set message "message_id" (.str id)

/-- The part of `add_message` under `_state_lock`: whether the message is in the buffer.  In `STOPPED`
another thread is started, which this one does not wait for in the end. -/
def storeMessage (systemName : String) (message : Message) : P Bool :=
  Prog.withLock .stateLock do
    let state ← readState
    let _ ← workerStatuses .addMessage
    if state.Processing then return false
    let priority ← if state = .stopping then pure .high else raising (getPriority env.py message)
    perform (.addToBuffer priority systemName message)
    -- the log line of the buffer reads the identifier
    unless Dict.has message "message_id" do Prog.raise ()
    return true

/-- `add_message`. -/
def addMessage (systemName : String) (message : Message) : P Unit := do
  unless ← storeMessage env systemName message do
    let priority ← raising (getPriority env.py message)
    let message ← identified message
    let id ← raising (messageId message)
    Prog.withLock .transactionLock (perform (.track id systemName message))
    if ← validateMessage env systemName message then putInQueue priority systemName message
    else perform .setValidationError

/-- The messages that the handler of a message adds, where the system and the handler are there. -/
abbrev Reactions := String → Message → List (String × Message)

variable (reactions : Reactions)

def callHandler (systemName : String) (message : Message) : P Unit :=
  Prog.catching ((reactions systemName message).forM fun m => addMessage env m.1 m.2) fun _ => pure ()

/-- A message that `stop` takes out of the queue. -/
def finalMessage (systemName : String) (message : Message) : P Unit := do
  let known : Bool ← perform (.known systemName)
  if known && (Dict.getD message "command_word" .none).truthy then
    callHandler env reactions systemName message

/-- The loop of `stop` over the queue, written out for a number of rounds. -/
def drainQueue : ℕ → P Unit
  | 0 => .looping
  | rounds + 1 => do
    let queueEmpty : Bool ← perform .queueEmpty
    unless queueEmpty do
      let item : Option (String × Message) ← perform .getFromQueue
      if let some (systemName, message) := item then finalMessage env reactions systemName message
      drainQueue rounds

/-- The part of `stop` in its `try`. -/
def stopThreads (rounds : ℕ) : P Unit := do
  setState env .stopping
  drainQueue env reactions rounds
  setState env .stopping
  let joined : Except Unit Unit ← perform .joinWorkers
  raising joined
  setState env .stopped

/-- `stop`. -/
def stop (rounds : ℕ) : P Unit :=
  Prog.withLock .lock do
    let flags : Bool × Bool ← perform .flags
    if flags.1 then
      Prog.catching (stopThreads env reactions rounds) fun _ => do
        setState env .stopped
        Prog.raise ()

/-- A start that fails. -/
def failStart : P Unit := do
  setState env .stopped
  Prog.raise ()

def startWorker : P Unit := do
  perform .appendReadyEvent
  perform .appendWorker
  require .workerStarts
  unless ← ask .workerAlive do failStart env

def awaitWorker : P Unit := do
  unless ← ask .workerReady do failStart env

/-- The messages in the buffer are added again. -/
def drainBuffer : P Unit := do
  if 0 < (← bufferSize .start) then
    let messages : List (Priority × String × Message) ← perform .getAllMessages
    messages.forM fun m => Prog.catching (addMessage env m.2.1 m.2.2) fun _ => pure ()

/-- The part of `start` in its `try`. -/
def startThreads (numWorkers : ℕ) : P Unit := do
  require .executorStarts
  setState env .starting
  perform .setRunning
  (List.range numWorkers).forM fun _ => startWorker env
  let events : ℕ ← perform .readyEvents
  (List.range events).forM fun _ => awaitWorker env
  require .periodicStarts
  unless ← ask .periodicAlive do failStart env
  setState env .running
  drainBuffer env

/-- `start`. -/
def start (numWorkers rounds : ℕ) : P Unit :=
  Prog.withLock .lock do
    let flags : Bool × Bool ← perform .flags
    let state ← readState
    if flags.1 ∧ (state = .stopped ∨ ¬flags.2) then setState env .starting
    unless flags.1 ∧ state ≠ .stopped ∧ flags.2 do
      Prog.catching (startThreads env numWorkers) fun _ => do
        stop env reactions rounds
        Prog.raise ()

/-- A message that a pass puts back. -/
def requeue (id : Value) (systemName : String) (message : Message) : P Unit :=
  Prog.catching (do
    if ← validateMessage env systemName message then putInQueue .high systemName message
    else perform (.untrack id)) fun _ => pure ()

/-- The check of the state that a pass makes every ten seconds, under `_state_lock`. -/
def checkHealth : P Unit := do
  let current ← readState
  if current = .degraded then
    let dead := deadIndices (← workerStatuses .watchdog)
    unless dead.isEmpty do
      recoverWorkers dead
      if ← allWorkersAlive .recovered then setState env .running
  if ← shouldFlush (some current) then
    if current.Processing then flushBufferToQueue env

/-- A tracked message, where it has timed out. -/
def checkTimeout (m : Value × String × Message) : P Unit := do
  if ← ask .timedOut then
    if ← ask .shouldRetry then requeue env m.1 m.2.1 m.2.2 else perform (.untrack m.1)

/-- A message of the queue's retry table, where it is due. -/
def checkCandidate (m : Value × String × Message) : P Unit := do
  if ← ask .retryCandidate then
    Prog.withLock .transactionLock do
      let found : Option (String × Message) ← perform (.lookUpTracked m.1)
      if let some (systemName, message) := found then requeue env m.1 systemName message

/-- One pass of `_watchdog_loop`. -/
def watchdogPass : P Unit :=
  Prog.catching (do
    if ← ask .stateCheckDue then Prog.withLock .stateLock (checkHealth env)
    Prog.withLock .transactionLock do
      let tracked : List (Value × String × Message) ← perform .tracked
      tracked.forM (checkTimeout env)
    let tracked : List (Value × String × Message) ← perform .tracked
    tracked.forM (checkCandidate env)) fun _ => pure ()

/-- `_handle_message_async`. -/
def handleMessageAsync (systemName : String) (message : Message) : P Unit :=
  Prog.catching (do
    if Dict.has message "command_word" then
      let found : Bool ← perform (.lookUp systemName)
      unless found do registerSystem systemName
      if env.isCommandWord (Dict.getD message "command_word" .none) then
        callHandler env reactions systemName message) fun _ => pure ()

/-- `_process_single_message`. -/
def processSingleMessage (systemName : String) (message : Message) : P Unit := do
  handleMessageAsync env reactions systemName message
  Prog.withLock .transactionLock
    (perform (.untrack (Retry.taskId (Dict.getD message "message_id" .none))))

def flushIfDue : P Unit := do if ← shouldFlush none then flushBufferToQueue env

/-- What a worker does in the state that it has read: in `STOPPING` it takes a message of high priority
only, and in `STOPPED` it starts the handler again for the messages in the buffer. -/
def iterationIn (current : HandlerState) : P Unit := do
  if current.Processing then
    flushIfDue env
    let item : Option (String × Message) ← perform .getFromQueue
    if let some (systemName, message) := item then
      processSingleMessage env reactions systemName message
  else if current = .stopping then
    let item : Option (String × Message) ← perform .getHighPriority
    match item with
    | some (systemName, message) => processSingleMessage env reactions systemName message
    | none => Prog.raise ()
  else if current = .stopped then
    if 0 < (← bufferSize .worker) then
      Prog.withLock .stateLock do
        setState env .starting
        setState env .running

/-- One round of the loop of `_process_messages`. -/
def workerIteration : P Unit :=
  Prog.catching (do
    let current ← Prog.withLock .stateLock readState
    flushIfDue env
    iterationIn env reactions current) fun _ => pure ()

/-- The end of a worker that an exception has left, or its restart after a connection error. -/
def workerFails (connection : Bool) : P Unit :=
  Prog.withLock .stateLock do
    perform (.recordError connection)
    unless connection do
      if (← readState) = .running then perform .degrade

/-- The programs that a thread may start, with the rounds that a loop makes at most. -/
inductive Entry where
  | start (rounds : ℕ)
  | stop (rounds : ℕ)
  | setState (new : HandlerState)
  | addMessage (systemName : String) (message : Message)
  | flushBufferToQueue
  | watchdogPass
  | workerIteration
  | workerFails (connection : Bool)
  | registerSystem (systemName : String)

def program (numWorkers : ℕ) : Entry → P Unit
  | .start rounds => start env reactions numWorkers rounds
  | .stop rounds => stop env reactions rounds
  | .setState new => setState env new
  | .addMessage systemName message => addMessage env systemName message
  | .flushBufferToQueue => flushBufferToQueue env
  | .watchdogPass => watchdogPass env
  | .workerIteration => workerIteration env reactions
  | .workerFails connection => workerFails connection
  | .registerSystem systemName => registerSystem systemName

/-- The threads of the handler.  A worker may die at any time. -/
def handlerSystem (numWorkers : ℕ) : System Lock Op.Answer Unit Shared Entry ℕ where
  exec := exec uuid
  entry := program env reactions numWorkers
  disturb i s := { s with workers := s.workers.modify i fun w => w.map fun _ => false }

end Environment

def newHandler : Shared where
  state := .stopped
  started := false
  running := false
  validationError := false
  connectionError := false
  workers := []
  readyEvents := 0
  buffer _ := []
  queued _ := []
  tracking := []
  systems := []
  uuids := 0

end Fmofp.AsyncHandler.Locks
