import Fmofp.AsyncHandler.LockPrograms

/-! Which reads of the shared state lead a thread of `AsyncMessageHandler` to ask for a lock that it
holds, and that a thread whose reads are all others never does. -/

namespace Fmofp.AsyncHandler.Locks

open Python Machine

/-- What `start` must find after its `try`: an exception leads to `stop` under `lock`. -/
def startQuestions : List Question :=
  [.executorStarts, .workerStarts, .workerAlive, .workerReady, .periodicStarts, .periodicAlive]

/-- The condition on an action, under the locks that its thread holds. -/
def Meets (held : List Lock) : (o : Op) → o.Answer → Prop
  -- `_set_state(STOPPING)` finds the buffer empty
  | .bufferSize .stopping, (size : ℕ) => size = 0
  -- a worker finds no message in the buffer in `STOPPED`
  | .bufferSize .worker, (size : ℕ) => size = 0
  -- nobody flushes in `STOPPED`
  | .stateToFlush, (current : HandlerState) => current ≠ .stopped
  -- the watchdog finds no buffer that is due in `RUNNING` or `DEGRADED`
  | .shouldFlush (some watched), (due : Bool) => due = true → ¬watched.Processing
  -- the watchdog does not bring all workers back to life
  | .allAlive .recovered, (alive : Except Unit Bool) => alive ≠ .ok true
  -- no part of a start fails
  | .ask q, (yes : Bool) => q ∈ startQuestions → yes = true
  | .statuses .running, (statuses : Except Unit (List Bool)) => .lock ∈ held → statuses.isOk = true
  | .allAlive .running, (alive : Except Unit Bool) => .lock ∈ held → alive.isOk = true
  -- under `lock` only messages of registered systems are validated
  | .lookUp _, (found : Bool) => .lock ∈ held → found = true
  | _, _ => True

instance (held : List Lock) (o : Op) (a : o.Answer) : Decidable (Meets held o a) := by
  unfold Meets
  split <;> infer_instance

abbrev Sound (held : List Lock) {α : Type} (p : P α) (Q : Except Unit α → Prop) : Prop :=
  Prog.Sound Meets held p Q

/-- The program never asks for a lock it holds. -/
abbrev Safe (held : List Lock) {α : Type} (p : P α) : Prop := Sound held p fun _ => True

/-- Nor does it raise. -/
abbrev Returns (held : List Lock) {α : Type} (p : P α) : Prop := Sound held p fun r => r.isOk = true

section Rules

variable {held : List Lock} {α β : Type}

theorem Safe.bind {p : P α} {f : α → P β} (hp : Safe held p) (hf : ∀ a, Safe held (f a)) :
    Safe held (p >>= f) :=
  Prog.Sound.bind hp (fun a _ => hf a) fun _ _ => trivial

theorem Returns.bind {p : P α} {f : α → P β} (hp : Returns held p) (hf : ∀ a, Returns held (f a)) :
    Returns held (p >>= f) :=
  Prog.Sound.bind hp (fun a _ => hf a) fun _ h => h

theorem Returns.safe {p : P α} (h : Returns held p) : Safe held p := h.mono fun _ _ => trivial

theorem safe_pure (a : α) : Safe held (pure a : P α) := .pure trivial

theorem returns_pure (a : α) : Returns held (pure a : P α) := .pure rfl

theorem safe_raise : Safe held (Prog.raise () : P α) := .raise trivial

theorem returns_perform (o : Op) : Returns held (perform o) := .perform fun _ _ => rfl

theorem safe_perform (o : Op) : Safe held (perform o) := (returns_perform o).safe

theorem safe_raising {ε : Type} (r : Except ε α) : Safe held (raising r) := .ret trivial

/-- What catches its exceptions returns. -/
theorem returns_catching {p : P α} {handler : Unit → P α} (hp : Safe held p)
    (hhandler : ∀ e, Returns held (handler e)) : Returns held (p.catching handler) :=
  Prog.Sound.catching hp (fun _ _ => rfl) fun e _ => hhandler e

theorem safe_forM {γ : Type} {f : γ → P PUnit} {xs : List γ} (hf : ∀ x ∈ xs, Safe held (f x)) :
    Safe held (xs.forM f) :=
  Prog.Sound.forM trivial hf

end Rules

variable {held : List Lock}

theorem safe_require (q : Question) : Safe held (require q) :=
  (safe_perform _).bind fun _ => .ite (fun _ => safe_pure _) fun _ => safe_raise

theorem safe_workerStatuses (reader : WorkerReader) : Safe held (workerStatuses reader) :=
  (safe_perform (.statuses reader)).bind fun _ => safe_raising _

theorem safe_allWorkersAlive (reader : WorkerReader) : Safe held (allWorkersAlive reader) :=
  (safe_perform (.allAlive reader)).bind fun _ => safe_raising _

theorem safe_recoverWorker (i : ℕ) : Safe held (recoverWorker i) := by
  refine (safe_perform (.removeWorker i)).bind fun inRange => .ite (fun _ => ?_) fun _ => safe_pure _
  refine (safe_require _).bind fun _ => (safe_perform (.ask .recoveredAlive)).bind fun alive => ?_
  exact .ite (fun _ => safe_perform _) fun _ => safe_pure _

theorem returns_recoverWorkers (dead : List ℕ) : Returns held (recoverWorkers dead) := by
  refine returns_catching ?_ fun _ => returns_pure _
  exact (safe_forM fun i _ => safe_recoverWorker i).bind fun _ => safe_perform _

theorem safe_redirected (old new : HandlerState) : Safe held (redirected old new) := by
  refine .ite (fun _ => ?_) fun _ => safe_pure _
  refine (safe_perform .errors).bind fun errors => ?_
  refine .ite (fun _ => (safe_perform _).bind fun _ => safe_pure _) fun _ => ?_
  refine .ite (fun _ => safe_pure _) fun _ => ?_
  refine (safe_workerStatuses _).bind fun statuses => (safe_perform .queueEmpty).bind fun empty => ?_
  refine .ite (fun _ => ?_) fun _ => ?_
  · exact (safe_perform _).bind fun _ => safe_pure _
  · exact (safe_pure _).bind fun _ => safe_pure _

/-- Only a transition to `STOPPED` is redirected. -/
theorem redirected_sound {new : HandlerState} (old : HandlerState) (h : new ≠ .stopped) :
    Sound held (redirected old new) fun r => r = .ok new :=
  .ite (fun hboth => absurd hboth.2 h) fun _ => .pure rfl

theorem safe_recoverIf (dead : List ℕ) :
    Safe held (do unless dead.isEmpty do recoverWorkers dead) :=
  .ite (fun _ => safe_pure _) fun _ => (returns_recoverWorkers dead).safe

/-- A change of the state, by a thread that does not hold the lock of the state: the buffer that it
finds empty in `STOPPING` needs no flush. -/
theorem safe_setStateWith (h : .stateLock ∉ held) (flush : P Unit) (new : HandlerState) :
    Safe held (setStateWith flush new) := by
  refine .withLock h ?_
  refine (safe_perform .state).bind fun old => (safe_redirected old new).bind fun new => ?_
  refine (safe_perform (.enter new)).bind fun _ => ?_
  cases new with
  | stopped => exact safe_pure _
  | starting => exact safe_pure _
  | running =>
    have hdegrade : Safe (.stateLock :: held)
        (do unless ← allWorkersAlive .running do perform .degrade) :=
      (safe_allWorkersAlive _).bind fun _ => .ite (fun _ => safe_pure _) fun _ => safe_perform _
    refine .ite (fun _ => ?_) fun _ => hdegrade
    refine (safe_workerStatuses _).bind fun statuses => ?_
    refine .ite (fun _ => hdegrade) fun _ => ?_
    exact (returns_recoverWorkers _).safe.bind fun _ => hdegrade
  | stopping =>
    refine Prog.Sound.bind (P := fun r => r = .ok 0) (.perform fun size hsize => ?_) ?_ ?_
    · exact congrArg Except.ok hsize
    · rintro size hsize
      cases hsize
      exact safe_pure _
    · exact fun _ _ => trivial
  | degraded =>
    exact (safe_workerStatuses _).bind fun statuses => safe_recoverIf _

theorem returns_setStateWith_starting (h : .stateLock ∉ held) (flush : P Unit) :
    Returns held (setStateWith flush .starting) := by
  refine .withLock h ?_
  refine (returns_perform .state).bind fun old => ?_
  refine (redirected_sound old (by decide)).bind ?_ (fun _ h => by cases h)
  rintro new hnew
  cases hnew
  exact (returns_perform (.enter .starting)).bind fun _ => returns_pure _

/-- A thread that holds `lock` finds every worker there. -/
theorem returns_workerStatuses (hlock : .lock ∈ held) : Returns held (workerStatuses .running) := by
  refine Prog.Sound.bind (P := fun r => ∃ statuses, r = .ok (.ok statuses)) (.perform ?_) ?_ ?_
  · rintro (e | statuses) hmeets
    · cases hmeets hlock
    · exact ⟨statuses, rfl⟩
  · rintro _ ⟨statuses, hstatuses⟩
    cases hstatuses
    exact .ret rfl
  · rintro _ ⟨_, h⟩
    cases h

theorem returns_allWorkersAlive (hlock : .lock ∈ held) : Returns held (allWorkersAlive .running) := by
  refine Prog.Sound.bind (P := fun r => ∃ alive, r = .ok (.ok alive)) (.perform ?_) ?_ ?_
  · rintro (e | alive) hmeets
    · cases hmeets hlock
    · exact ⟨alive, rfl⟩
  · rintro _ ⟨alive, halive⟩
    cases halive
    exact .ret rfl
  · rintro _ ⟨_, h⟩
    cases h

theorem returns_setStateWith_running (h : .stateLock ∉ held) (hlock : .lock ∈ held)
    (flush : P Unit) : Returns held (setStateWith flush .running) := by
  refine .withLock h ?_
  have hlock' : Lock.lock ∈ Lock.stateLock :: held := List.mem_cons_of_mem _ hlock
  have hdegrade : Returns (.stateLock :: held)
      (do unless ← allWorkersAlive .running do perform .degrade) :=
    (returns_allWorkersAlive hlock').bind fun _ =>
      .ite (fun _ => returns_pure _) fun _ => returns_perform _
  refine (returns_perform .state).bind fun old => ?_
  refine (redirected_sound old (by decide)).bind ?_ (fun _ h => by cases h)
  rintro new hnew
  cases hnew
  refine (returns_perform (.enter .running)).bind fun _ => .ite (fun _ => ?_) fun _ => hdegrade
  refine (returns_workerStatuses hlock').bind fun statuses => .ite (fun _ => hdegrade) fun _ => ?_
  exact (returns_recoverWorkers _).bind fun _ => hdegrade

section Environment

variable {env : Setting}

theorem safe_registerSystem (h : .lock ∉ held) (systemName : String) :
    Safe held (registerSystem systemName) :=
  .withLock h (safe_perform _)

/-- Under `lock` the system is registered already. -/
theorem safe_validateMessage (systemName : String) (message : Message) :
    Safe held (validateMessage env systemName message) := by
  refine .ite (fun _ => ?_) fun _ => safe_pure _
  refine Prog.Sound.bind (P := fun r => .lock ∈ held → r = .ok true) (.perform ?_) ?_ ?_
  · exact fun found hfound hlock => congrArg Except.ok (hfound hlock)
  · rintro found hfound
    refine .ite (fun _ => safe_pure _) fun hmissing => ?_
    have hlock : Lock.lock ∉ held := by
      intro hlock
      cases hfound hlock
      exact hmissing rfl
    exact (safe_registerSystem hlock systemName).bind fun _ => safe_pure _
  · exact fun _ _ => trivial

theorem safe_putInQueue (p : Priority) (systemName : String) (message : Message) :
    Safe held (putInQueue p systemName message) :=
  (safe_raising _).bind fun _ => safe_perform _

theorem returns_flushMessage (m : Priority × String × Message) :
    Returns held (flushMessage env m) := by
  refine returns_catching ?_ fun _ => returns_pure _
  refine (safe_validateMessage _ _).bind fun valid => ?_
  exact .ite (fun _ => safe_putInQueue _ _ _) fun _ => safe_pure _

/-- A flush by a thread that does not hold the lock of the state, while it is not `STOPPED`. -/
theorem returns_flushBufferToQueue (h : .stateLock ∉ held) :
    Returns held (flushBufferToQueue env) := by
  refine returns_catching ?_ fun _ => returns_pure _
  have hcheck : Safe held checkState := by
    refine .withLock h ?_
    refine Prog.Sound.bind (P := fun r => r ≠ .ok .stopped) (.perform ?_) ?_ fun _ _ => trivial
    · exact fun current hcurrent h => hcurrent (Except.ok.inj h)
    · rintro current hcurrent
      refine .ite (fun _ => safe_pure _) fun _ => .ite (fun hstopped => ?_) fun _ => safe_pure _
      exact absurd (congrArg Except.ok hstopped) hcurrent
  refine hcheck.bind fun goOn => .ite (fun _ => ?_) fun _ => safe_pure _
  refine (safe_perform .getAllMessages).bind fun messages => ?_
  exact safe_forM fun m _ => (returns_flushMessage m).safe

theorem safe_setState (h : .stateLock ∉ held) (new : HandlerState) : Safe held (setState env new) :=
  safe_setStateWith h _ new

theorem safe_identified (message : Message) : Safe held (identified message) :=
  .ite (fun _ => safe_pure _) fun _ => (safe_perform .uuid4).bind fun _ => safe_pure _

theorem safe_storeMessage (h : .stateLock ∉ held) (systemName : String) (message : Message) :
    Safe held (storeMessage env systemName message) := by
  refine .withLock h ?_
  refine (safe_perform .state).bind fun state => (safe_workerStatuses _).bind fun _ => ?_
  refine .ite (fun _ => safe_pure _) fun _ => ?_
  have hstore : ∀ priority, Safe (.stateLock :: held) (do
      perform (.addToBuffer priority systemName message)
      unless Dict.has message "message_id" do Prog.raise ()
      return true) := fun priority => by
    refine (safe_perform (.addToBuffer _ _ _)).bind fun _ => .ite (fun _ => safe_pure _) fun _ => ?_
    exact safe_raise.bind fun _ => safe_pure _
  refine .ite (fun _ => ?_) fun _ => ?_
  · exact (safe_pure _).bind fun _ => hstore _
  · exact (safe_raising _).bind fun _ => hstore _

theorem safe_addMessage (hstate : .stateLock ∉ held) (htransaction : .transactionLock ∉ held)
    (systemName : String) (message : Message) : Safe held (addMessage env systemName message) := by
  refine (safe_storeMessage hstate _ _).bind fun stored => .ite (fun _ => safe_pure _) fun _ => ?_
  refine (safe_raising _).bind fun priority => (safe_identified _).bind fun message => ?_
  refine (safe_raising _).bind fun id => Safe.bind (.withLock htransaction (safe_perform _)) fun _ => ?_
  refine (safe_validateMessage _ _).bind fun valid => ?_
  exact .ite (fun _ => safe_putInQueue _ _ _) fun _ => safe_perform _

variable {reactions : Reactions}

theorem returns_callHandler (hstate : .stateLock ∉ held) (htransaction : .transactionLock ∉ held)
    (systemName : String) (message : Message) :
    Returns held (callHandler env reactions systemName message) :=
  returns_catching (safe_forM fun _ _ => safe_addMessage hstate htransaction _ _) fun _ =>
    returns_pure _

theorem safe_finalMessage (hstate : .stateLock ∉ held) (htransaction : .transactionLock ∉ held)
    (systemName : String) (message : Message) :
    Safe held (finalMessage env reactions systemName message) := by
  refine (safe_perform (.known systemName)).bind fun known => .ite (fun _ => ?_) fun _ => safe_pure _
  exact (returns_callHandler hstate htransaction _ _).safe

theorem safe_drainQueue (hstate : .stateLock ∉ held) (htransaction : .transactionLock ∉ held)
    (rounds : ℕ) : Safe held (drainQueue env reactions rounds) := by
  induction rounds with
  | zero => trivial
  | succ rounds ih =>
    refine (safe_perform .queueEmpty).bind fun empty => .ite (fun _ => safe_pure _) fun _ => ?_
    refine (safe_perform .getFromQueue).bind fun item => ?_
    rcases item with _ | ⟨systemName, message⟩
    · exact ih
    · exact (safe_finalMessage hstate htransaction _ _).bind fun _ => ih

theorem safe_stopThreads (hstate : .stateLock ∉ held) (htransaction : .transactionLock ∉ held)
    (rounds : ℕ) : Safe held (stopThreads env reactions rounds) := by
  refine (safe_setState hstate _).bind fun _ => (safe_drainQueue hstate htransaction _).bind fun _ => ?_
  refine (safe_setState hstate _).bind fun _ => (safe_perform .joinWorkers).bind fun joined => ?_
  exact (safe_raising _).bind fun _ => safe_setState hstate _

theorem safe_stop (rounds : ℕ) : Safe [] (stop env reactions rounds) := by
  refine .withLock List.not_mem_nil ?_
  have hstate : Lock.stateLock ∉ [Lock.lock] := by decide
  refine (safe_perform .flags).bind fun flags => .ite (fun _ => ?_) fun _ => safe_pure _
  refine (safe_stopThreads hstate (by decide) rounds).catching (fun _ _ => trivial) fun _ _ => ?_
  exact (safe_setState hstate _).bind fun _ => safe_raise

/-! ### A start that does not fail -/

/-- No part of a start fails. -/
theorem ask_start {q : Question} (hq : q ∈ startQuestions) :
    Sound held (ask q) fun r => r = .ok true :=
  .perform fun _ hyes => congrArg Except.ok (hyes hq)

theorem returns_require {q : Question} (hq : q ∈ startQuestions) : Returns held (require q) := by
  refine (ask_start hq).bind ?_ (fun _ h => by cases h)
  rintro _ ⟨⟩
  exact returns_pure _

theorem returns_unless_fails {q : Question} (hq : q ∈ startQuestions) :
    Returns held (do unless ← ask q do failStart env) := by
  refine (ask_start hq).bind ?_ (fun _ h => by cases h)
  rintro _ ⟨⟩
  exact returns_pure _

theorem returns_forM {γ : Type} {f : γ → P PUnit} {xs : List γ} (hf : ∀ x ∈ xs, Returns held (f x)) :
    Returns held (xs.forM f) :=
  Prog.Sound.forM rfl hf

theorem returns_startWorker : Returns held (startWorker env) := by
  refine (returns_perform .appendReadyEvent).bind fun _ => (returns_perform .appendWorker).bind fun _ => ?_
  exact (returns_require (by decide)).bind fun _ => returns_unless_fails (by decide)

theorem returns_drainBuffer (hstate : .stateLock ∉ held) (htransaction : .transactionLock ∉ held) :
    Returns held (drainBuffer env) := by
  refine (returns_perform (.bufferSize .start)).bind fun size => .ite (fun _ => ?_) fun _ => returns_pure _
  refine (returns_perform .getAllMessages).bind fun messages => returns_forM fun m _ => ?_
  exact returns_catching (safe_addMessage hstate htransaction _ _) fun _ => returns_pure _

/-- Under `lock` the start of the threads does not raise, so that it does not come to `stop`. -/
theorem returns_startThreads (numWorkers : ℕ) :
    Returns [Lock.lock] (startThreads env numWorkers) := by
  have hstate : Lock.stateLock ∉ [Lock.lock] := by decide
  refine (returns_require (by decide)).bind fun _ => ?_
  refine (returns_setStateWith_starting hstate _).bind fun _ => ?_
  refine (returns_perform .setRunning).bind fun _ => ?_
  refine (returns_forM fun _ _ => returns_startWorker).bind fun _ => ?_
  refine (returns_perform .readyEvents).bind fun events => ?_
  refine (returns_forM fun _ _ => returns_unless_fails (by decide)).bind fun _ => ?_
  refine (returns_require (by decide)).bind fun _ => ?_
  have hrunning : Returns [Lock.lock] (do setState env .running; drainBuffer env) :=
    (returns_setStateWith_running hstate (by decide) _).bind fun _ =>
      returns_drainBuffer hstate (by decide)
  refine (ask_start (q := .periodicAlive) (by decide)).bind ?_ (fun _ h => by cases h)
  rintro alive halive
  cases halive
  exact hrunning

theorem safe_start (numWorkers rounds : ℕ) : Safe [] (start env reactions numWorkers rounds) := by
  refine .withLock List.not_mem_nil ?_
  have hstate : Lock.stateLock ∉ [Lock.lock] := by decide
  have hstart : Safe [Lock.lock] (Prog.catching (startThreads env numWorkers) fun _ => do
      stop env reactions rounds
      Prog.raise ()) := by
    refine (returns_startThreads numWorkers).catching (fun _ _ => trivial) fun _ h => ?_
    cases h
  refine (safe_perform .flags).bind fun flags => (safe_perform .state).bind fun state => ?_
  refine .ite (fun _ => (safe_setState hstate _).bind fun _ => ?_) fun _ => ?_
  · exact .ite (fun _ => safe_pure _) fun _ => hstart
  · exact .ite (fun _ => safe_pure _) fun _ => hstart

theorem returns_requeue (id : Value) (systemName : String) (message : Message) :
    Returns held (requeue env id systemName message) := by
  refine returns_catching ?_ fun _ => returns_pure _
  refine (safe_validateMessage _ _).bind fun valid => ?_
  exact .ite (fun _ => safe_putInQueue _ _ _) fun _ => safe_perform _

/-- The workers that the watchdog has recovered are not all alive, and the buffer that it sees is not
due: it neither changes the state nor flushes. -/
theorem safe_checkHealth : Safe held (checkHealth env) := by
  refine (safe_perform .state).bind fun (current : HandlerState) => ?_
  have hflush : Safe held (do
      if ← shouldFlush (some current) then
        if current.Processing then flushBufferToQueue env) := by
    refine Prog.Sound.bind (P := fun r => r = .ok true → ¬current.Processing) (.perform ?_) ?_ ?_
    · exact fun due hdue h => hdue (Except.ok.inj h)
    · intro due hdue
      refine .ite (fun h => .ite (fun hprocessing => ?_) fun _ => safe_pure _) fun _ => safe_pure _
      exact absurd hprocessing (hdue (congrArg Except.ok h))
    · exact fun _ _ => trivial
  have hrecovered : Safe held (allWorkersAlive .recovered >>= fun alive => do
      if alive then setState env .running
      if ← shouldFlush (some current) then
        if current.Processing then flushBufferToQueue env) := by
    refine Prog.Sound.bind (P := fun r => r ≠ .ok true) ?_ ?_ fun _ _ => trivial
    · refine Prog.Sound.bind (P := fun r => r ≠ .ok (.ok true)) (.perform ?_) ?_ ?_
      · exact fun alive halive h => halive (Except.ok.inj h)
      · rintro (e | alive) halive
        · exact .ret nofun
        · exact .ret fun h => halive (congrArg Except.ok h)
      · exact fun _ _ => nofun
    · intro alive halive
      refine .ite (fun h => ?_) fun _ => hflush
      exact absurd (congrArg Except.ok h) halive
  refine .ite (fun _ => ?_) fun _ => hflush
  refine (safe_workerStatuses _).bind fun statuses => .ite (fun _ => hflush) fun _ => ?_
  exact (returns_recoverWorkers _).safe.bind fun _ => hrecovered

theorem safe_checkTimeout (m : Value × String × Message) : Safe held (checkTimeout env m) := by
  refine (safe_perform (.ask .timedOut)).bind fun late => .ite (fun _ => ?_) fun _ => safe_pure _
  refine (safe_perform (.ask .shouldRetry)).bind fun retry => ?_
  exact .ite (fun _ => (returns_requeue _ _ _).safe) fun _ => safe_perform _

theorem safe_checkCandidate (h : .transactionLock ∉ held) (m : Value × String × Message) :
    Safe held (checkCandidate env m) := by
  refine (safe_perform (.ask .retryCandidate)).bind fun due => .ite (fun _ => ?_) fun _ => safe_pure _
  refine .withLock h ((safe_perform (.lookUpTracked m.1)).bind fun found => ?_)
  rcases found with _ | ⟨systemName, message⟩
  · exact safe_pure _
  · exact (returns_requeue _ _ _).safe

theorem returns_watchdogPass : Returns [] (watchdogPass env) := by
  refine returns_catching ?_ fun _ => returns_pure _
  have hmessages : Safe [] (do
      Prog.withLock .transactionLock do
        let tracked : List (Value × String × Message) ← perform .tracked
        tracked.forM (checkTimeout env)
      let tracked : List (Value × String × Message) ← perform .tracked
      tracked.forM (checkCandidate env)) := by
    refine Safe.bind (.withLock List.not_mem_nil ?_) fun _ => ?_
    · exact (safe_perform .tracked).bind fun tracked => safe_forM fun m _ => safe_checkTimeout m
    · refine (safe_perform .tracked).bind fun tracked => safe_forM fun m _ => ?_
      exact safe_checkCandidate List.not_mem_nil m
  refine (safe_perform (.ask .stateCheckDue)).bind fun due => .ite (fun _ => ?_) fun _ => hmessages
  exact Safe.bind (.withLock List.not_mem_nil safe_checkHealth) fun _ => hmessages

theorem safe_processSingleMessage (systemName : String) (message : Message) :
    Safe [] (processSingleMessage env reactions systemName message) := by
  have hcall : Safe [] (callHandler env reactions systemName message) :=
    (returns_callHandler List.not_mem_nil List.not_mem_nil systemName message).safe
  refine Returns.safe (returns_catching ?_ fun _ => returns_pure _) |>.bind fun _ => ?_
  · refine .ite (fun _ => ?_) fun _ => safe_pure _
    refine (safe_perform (.lookUp systemName)).bind fun found => .ite (fun _ => ?_) fun _ => ?_
    · exact .ite (fun _ => hcall) fun _ => safe_pure _
    · refine (safe_registerSystem List.not_mem_nil _).bind fun _ => ?_
      exact .ite (fun _ => hcall) fun _ => safe_pure _
  · exact .withLock List.not_mem_nil (safe_perform _)

theorem safe_flushIfDue : Safe [] (flushIfDue env) := by
  refine (safe_perform (.shouldFlush none)).bind fun due => .ite (fun _ => ?_) fun _ => safe_pure _
  exact (returns_flushBufferToQueue List.not_mem_nil).safe

/-- A worker that finds the handler `STOPPED` finds no message in the buffer. -/
theorem safe_iterationIn (current : HandlerState) : Safe [] (iterationIn env reactions current) := by
  refine .ite (fun _ => ?_) fun _ => .ite (fun _ => ?_) fun _ => .ite (fun _ => ?_) fun _ => safe_pure _
  · refine safe_flushIfDue.bind fun _ => (safe_perform .getFromQueue).bind fun item => ?_
    rcases item with _ | ⟨systemName, message⟩
    · exact safe_pure _
    · exact safe_processSingleMessage _ _
  · refine (safe_perform .getHighPriority).bind fun item => ?_
    rcases item with _ | ⟨systemName, message⟩
    · exact safe_raise
    · exact safe_processSingleMessage _ _
  · refine Prog.Sound.bind (P := fun r => r = .ok 0) (.perform fun size hsize => ?_) ?_ ?_
    · exact congrArg Except.ok hsize
    · rintro _ ⟨⟩
      exact safe_pure _
    · exact fun _ _ => trivial

theorem returns_workerIteration : Returns [] (workerIteration env reactions) := by
  refine returns_catching ?_ fun _ => returns_pure _
  refine Safe.bind (.withLock List.not_mem_nil (safe_perform .state)) fun current => ?_
  exact safe_flushIfDue.bind fun _ => safe_iterationIn current

theorem safe_workerFails (connection : Bool) : Safe [] (workerFails connection) := by
  refine .withLock List.not_mem_nil ((safe_perform (.recordError connection)).bind fun _ => ?_)
  refine .ite (fun _ => safe_pure _) fun _ => (safe_perform .state).bind fun current => ?_
  exact .ite (fun _ => safe_perform _) fun _ => safe_pure _

theorem safe_program (numWorkers : ℕ) (entry : Entry) :
    Safe [] (program env reactions numWorkers entry) := by
  cases entry with
  | start rounds => exact safe_start numWorkers rounds
  | stop rounds => exact safe_stop rounds
  | setState new => exact safe_setState List.not_mem_nil new
  | addMessage systemName message =>
    exact safe_addMessage List.not_mem_nil List.not_mem_nil systemName message
  | flushBufferToQueue => exact (returns_flushBufferToQueue List.not_mem_nil).safe
  | watchdogPass => exact returns_watchdogPass.safe
  | workerIteration => exact returns_workerIteration.safe
  | workerFails connection => exact safe_workerFails connection
  | registerSystem systemName => exact safe_registerSystem List.not_mem_nil systemName

end Environment

/-- No thread of the handler waits for a lock that it holds, in any run whose actions all meet the
condition. -/
theorem no_self_deadlock (env : Setting) (uuid : ℕ → String) (reactions : Reactions) (numWorkers : ℕ)
    (moves : List (System.Move Entry ℕ))
    (hmeets : Along (handlerSystem env uuid reactions numWorkers).step
      ((handlerSystem env uuid reactions numWorkers).Meets Meets) ⟨newHandler, []⟩ moves)
    (thread : System.Thread Lock Op.Answer Unit)
    (hthread : thread ∈
      (final (handlerSystem env uuid reactions numWorkers).step ⟨newHandler, []⟩ moves).threads) :
    ¬thread.SelfDeadlocked :=
  System.never_self_deadlocked (safe_program numWorkers) newHandler hmeets hthread

/-! ### A buffer that is not empty -/

def sampleSystem : System Lock Op.Answer Unit Shared Entry ℕ :=
  handlerSystem sampleSetting (fun _ => "u") (fun _ _ => []) 4

/-- A thread makes `n` steps, or comes to its end before. -/
def steps (thread n : ℕ) : List (System.Move Entry ℕ) := List.replicate n (.advance thread true)

/-- A message comes while the handler starts. -/
def messageWhileStarting : List (System.Move Entry ℕ) :=
  .call (.setState .starting) :: steps 0 6 ++
    .call (.addMessage "radar" [("message_id", .str "m"), ("command_word", .str "0100100000100011")]) ::
      steps 1 10

/-- Then the handler is stopped. -/
theorem stop_with_buffer_deadlocks :
    ¬∀ (env : Setting) (uuid : ℕ → String) (reactions : Reactions) (numWorkers : ℕ)
        (moves : List (System.Move Entry ℕ)),
      ∀ thread ∈
        (final (handlerSystem env uuid reactions numWorkers).step ⟨newHandler, []⟩ moves).threads,
        ¬thread.SelfDeadlocked := by
  intro h
  have hsafe := h sampleSetting (fun _ => "u") (fun _ _ => []) 4
    (messageWhileStarting ++ .call (.stop 1) :: steps 2 10)
  have hdeadlock : ∃ thread ∈ (final sampleSystem.step ⟨newHandler, []⟩
      (messageWhileStarting ++ .call (.stop 1) :: steps 2 10)).threads, thread.SelfDeadlocked := by
    decide +kernel
  obtain ⟨thread, hthread, hself⟩ := hdeadlock
  exact hsafe thread hthread hself

/-- A whole start, with four workers, and then a stop. -/
def startAndStop : List (System.Move Entry ℕ) :=
  .call (.start 1) :: steps 0 80 ++ .call (.stop 1) :: steps 1 40

theorem no_self_deadlock_sample :
    ¬((final sampleSystem.step ⟨newHandler, []⟩ startAndStop).threads.getLast
      (by decide +kernel)).SelfDeadlocked :=
  no_self_deadlock sampleSetting (fun _ => "u") (fun _ _ => []) 4 startAndStop (by decide +kernel) _
    (List.getLast_mem _)

end Fmofp.AsyncHandler.Locks
