import Fmofp.Machine.Run

/-! Programs of threads that share a state and take locks that are not reentrant: a thread that asks
for a lock it holds waits forever.  The rules say for one program, whatever the other threads do in
between, that it never does. -/

namespace Machine

/-- A program takes and gives back locks and acts on the shared state; `A o` is the type of what the
action `o` answers.  It ends with a result or an exception.  `looping` is a loop that goes on: a loop
is written out for any number of rounds, and ends in it. -/
inductive Prog (L : Type) {O : Type} (A : O → Type) (ε α : Type) where
  | ret (result : Except ε α)
  | acquire (lock : L) (next : Prog L A ε α)
  | release (lock : L) (next : Prog L A ε α)
  | act (o : O) (next : A o → Prog L A ε α)
  | looping

namespace Prog

variable {L O : Type} {A : O → Type} {ε α β : Type}

/-- What follows a program, whether it returns or raises. -/
def andThen : Prog L A ε α → (Except ε α → Prog L A ε β) → Prog L A ε β
  | .ret result, f => f result
  | .acquire l next, f => .acquire l (next.andThen f)
  | .release l next, f => .release l (next.andThen f)
  | .act o next, f => .act o fun a => (next a).andThen f
  | .looping, _ => .looping

instance : Monad (Prog L A ε) where
  pure a := .ret (.ok a)
  bind p f := p.andThen fun
    | .ok a => f a
    | .error e => .ret (.error e)

def raise (e : ε) : Prog L A ε α := .ret (.error e)

def perform (o : O) : Prog L A ε (A o) := .act o fun a => .ret (.ok a)

/-- `try: p except: handler`. -/
def catching (p : Prog L A ε α) (handler : ε → Prog L A ε α) : Prog L A ε α :=
  p.andThen fun
    | .ok a => .ret (.ok a)
    | .error e => handler e

/-- `with l: p`. -/
def withLock (l : L) (p : Prog L A ε α) : Prog L A ε α :=
  .acquire l (p.andThen fun result => .release l (.ret result))

variable [DecidableEq L]

/-- No lock is asked for that is held, as long as the answers meet the condition, and `Q` holds of the
locks and the result in the end. -/
def wp (meets : List L → (o : O) → A o → Prop) :
    List L → Prog L A ε α → (List L → Except ε α → Prop) → Prop
  | held, .ret result, Q => Q held result
  | held, .acquire l next, Q => l ∉ held ∧ wp meets (l :: held) next Q
  | held, .release l next, Q => wp meets (held.erase l) next Q
  | held, .act o next, Q => ∀ a, meets held o a → wp meets held (next a) Q
  | _, .looping, _ => True

/-- The same of a program that gives back every lock it takes. -/
def Sound (meets : List L → (o : O) → A o → Prop) (held : List L) (p : Prog L A ε α)
    (Q : Except ε α → Prop) : Prop :=
  wp meets held p fun held' result => held' = held ∧ Q result

variable {meets : List L → (o : O) → A o → Prop} {held : List L}

theorem wp_mono {p : Prog L A ε α} {Q Q' : List L → Except ε α → Prop}
    (hQ : ∀ held result, Q held result → Q' held result) (h : wp meets held p Q) :
    wp meets held p Q' := by
  induction p generalizing held with
  | ret result => exact hQ held result h
  | acquire l next ih => exact ⟨h.1, ih h.2⟩
  | release l next ih => exact ih h
  | act o next ih => exact fun a ha => ih a (h a ha)
  | looping => trivial

theorem wp_andThen {p : Prog L A ε α} {f : Except ε α → Prog L A ε β}
    {Q : List L → Except ε β → Prop}
    (h : wp meets held p fun held result => wp meets held (f result) Q) :
    wp meets held (p.andThen f) Q := by
  induction p generalizing held with
  | ret result => exact h
  | acquire l next ih => exact ⟨h.1, ih h.2⟩
  | release l next ih => exact ih h
  | act o next ih => exact fun a ha => ih a (h a ha)
  | looping => trivial

theorem Sound.mono {p : Prog L A ε α} {Q Q' : Except ε α → Prop} (h : Sound meets held p Q)
    (hQ : ∀ result, Q result → Q' result) : Sound meets held p Q' :=
  wp_mono (fun _ result hresult => ⟨hresult.1, hQ result hresult.2⟩) h

theorem Sound.ret {result : Except ε α} {Q : Except ε α → Prop} (h : Q result) :
    Sound meets held (.ret result) Q :=
  ⟨rfl, h⟩

theorem Sound.andThen {p : Prog L A ε α} {f : Except ε α → Prog L A ε β} {P : Except ε α → Prop}
    {Q : Except ε β → Prop} (hp : Sound meets held p P)
    (hf : ∀ result, P result → Sound meets held (f result) Q) : Sound meets held (p.andThen f) Q := by
  refine wp_andThen (wp_mono (fun held' result h => ?_) hp)
  obtain ⟨rfl, hresult⟩ := h
  exact hf result hresult

/-- A result, or an exception, that ends the second part as it ends the first. -/
theorem Sound.bind {p : Prog L A ε α} {f : α → Prog L A ε β} {P : Except ε α → Prop}
    {Q : Except ε β → Prop} (hp : Sound meets held p P)
    (hf : ∀ a, P (.ok a) → Sound meets held (f a) Q) (herror : ∀ e, P (.error e) → Q (.error e)) :
    Sound meets held (p >>= f) Q := by
  refine hp.andThen fun result hresult => ?_
  cases result with
  | ok a => exact hf a hresult
  | error e => exact .ret (herror e hresult)

theorem Sound.pure {a : α} {Q : Except ε α → Prop} (h : Q (.ok a)) :
    Sound meets held (Pure.pure a : Prog L A ε α) Q :=
  .ret h

theorem Sound.ite {p q : Prog L A ε α} {Q : Except ε α → Prop} {c : Prop} {_ : Decidable c}
    (hp : c → Sound meets held p Q) (hq : ¬c → Sound meets held q Q) :
    Sound meets held (if c then p else q) Q := by
  split_ifs with h
  · exact hp h
  · exact hq h

theorem Sound.raise {e : ε} {Q : Except ε α → Prop} (h : Q (.error e)) :
    Sound meets held (Prog.raise e : Prog L A ε α) Q :=
  .ret h

theorem Sound.perform {o : O} {Q : Except ε (A o) → Prop} (h : ∀ a, meets held o a → Q (.ok a)) :
    Sound meets held (Prog.perform o) Q :=
  fun a ha => ⟨rfl, h a ha⟩

theorem Sound.catching {p : Prog L A ε α} {handler : ε → Prog L A ε α} {P Q : Except ε α → Prop}
    (hp : Sound meets held p P) (hok : ∀ a, P (.ok a) → Q (.ok a))
    (herror : ∀ e, P (.error e) → Sound meets held (handler e) Q) :
    Sound meets held (p.catching handler) Q := by
  refine hp.andThen fun result hresult => ?_
  cases result with
  | ok a => exact .ret (hok a hresult)
  | error e => exact herror e hresult

theorem Sound.withLock {l : L} {p : Prog L A ε α} {Q : Except ε α → Prop} (hl : l ∉ held)
    (hp : Sound meets (l :: held) p Q) : Sound meets held (p.withLock l) Q := by
  refine ⟨hl, wp_andThen (wp_mono (fun held' result h => ?_) hp)⟩
  obtain ⟨rfl, hresult⟩ := h
  exact ⟨List.erase_cons_head l held, hresult⟩

theorem Sound.forM {γ : Type} {f : γ → Prog L A ε PUnit} {Q : Except ε PUnit → Prop} {xs : List γ}
    (hnil : Q (.ok ⟨⟩)) (hf : ∀ x ∈ xs, Sound meets held (f x) Q) : Sound meets held (xs.forM f) Q := by
  induction xs with
  | nil => exact .ret hnil
  | cons x xs ih =>
    refine (hf x List.mem_cons_self).bind (fun _ _ => ?_) fun e he => he
    exact ih fun y hy => hf y (List.mem_cons_of_mem x hy)

end Prog

/-- Threads with a shared state.  `exec` is the effect of an action, with a choice that stands for what
comes from elsewhere; `entry` are the programs that a thread may start, and `disturb` is what else
happens to the state. -/
structure System (L : Type) {O : Type} (A : O → Type) (ε σ E D : Type) where
  exec : (o : O) → σ → Bool → A o × σ
  entry : E → Prog L A ε Unit
  disturb : D → σ → σ

namespace System

variable {L O : Type} {A : O → Type} {ε σ E D : Type} [DecidableEq L]

structure Thread (L : Type) {O : Type} (A : O → Type) (ε : Type) where
  held : List L
  rest : Prog L A ε Unit

structure Config (L : Type) {O : Type} (A : O → Type) (ε σ : Type) where
  shared : σ
  threads : List (Thread L A ε)

inductive Move (E D : Type) where
  | call (entry : E)
  | advance (thread : ℕ) (choice : Bool)
  | disturb (d : D)

/-- The thread waits for a lock that it holds itself. -/
def Thread.SelfDeadlocked (th : Thread L A ε) : Prop :=
  match th.rest with
  | .acquire l _ => l ∈ th.held
  | _ => False

instance (th : Thread L A ε) : Decidable th.SelfDeadlocked := by
  unfold Thread.SelfDeadlocked
  split <;> infer_instance

variable (sys : System L A ε σ E D)

/-- One step of a thread; a lock that is held stops it, whoever holds the lock. -/
def advance (cfg : Config L A ε σ) (th : Thread L A ε) (choice : Bool) : Thread L A ε × σ :=
  match th.rest with
  | .acquire l next =>
    if cfg.threads.any fun u => decide (l ∈ u.held) then (th, cfg.shared)
    else (⟨l :: th.held, next⟩, cfg.shared)
  | .release l next => (⟨th.held.erase l, next⟩, cfg.shared)
  | .act o next =>
    let (a, shared) := sys.exec o cfg.shared choice
    (⟨th.held, next a⟩, shared)
  | .ret _ | .looping => (th, cfg.shared)

def next (cfg : Config L A ε σ) : Move E D → Config L A ε σ
  | .call e => { cfg with threads := cfg.threads ++ [⟨[], sys.entry e⟩] }
  | .advance i choice => match cfg.threads[i]? with
    | some th =>
      let (th', shared) := sys.advance cfg th choice
      ⟨shared, cfg.threads.set i th'⟩
    | none => cfg
  | .disturb d => { cfg with shared := sys.disturb d cfg.shared }

def step (cfg : Config L A ε σ) (m : Move E D) : Unit × Config L A ε σ := ((), sys.next cfg m)

/-- The action of the step, if it is one, meets the condition. -/
def Meets (meets : List L → (o : O) → A o → Prop) (cfg : Config L A ε σ) : Move E D → Prop
  | .advance i choice => match cfg.threads[i]? with
    | some ⟨held, .act o _⟩ => meets held o (sys.exec o cfg.shared choice).1
    | _ => True
  | _ => True

instance (meets : List L → (o : O) → A o → Prop) [∀ held o a, Decidable (meets held o a)]
    (cfg : Config L A ε σ) (m : Move E D) : Decidable (sys.Meets meets cfg m) := by
  unfold Meets
  repeat' split
  all_goals infer_instance

variable {sys} {meets : List L → (o : O) → A o → Prop}

/-- Every thread is in a program that never asks for a lock it holds. -/
def Config.Sound (meets : List L → (o : O) → A o → Prop) (cfg : Config L A ε σ) : Prop :=
  ∀ th ∈ cfg.threads, th.rest.wp meets th.held fun held _ => held = []

theorem Config.Sound.advance {cfg : Config L A ε σ} (h : cfg.Sound meets) {i : ℕ} {choice : Bool}
    {th : Thread L A ε} (hth : cfg.threads[i]? = some th)
    (hmeets : sys.Meets meets cfg (.advance i choice)) :
    (sys.advance cfg th choice).1.rest.wp meets (sys.advance cfg th choice).1.held
      fun held _ => held = [] := by
  have hwp := h th (List.mem_of_getElem? hth)
  obtain ⟨held, rest⟩ := th
  cases rest with
  | ret result => exact hwp
  | acquire l next =>
    unfold System.advance
    dsimp only
    split_ifs
    · exact hwp
    · exact hwp.2
  | release l next => exact hwp
  | act o next =>
    simp only [Meets, hth] at hmeets
    exact hwp _ hmeets
  | looping => trivial

theorem Config.Sound.next {cfg : Config L A ε σ} (h : cfg.Sound meets)
    (hentry : ∀ e, (sys.entry e).Sound meets [] fun _ => True) {m : Move E D}
    (hmeets : sys.Meets meets cfg m) : (sys.next cfg m).Sound meets := by
  cases m with
  | call e =>
    intro th hth
    rcases List.mem_append.mp hth with hth | hth
    · exact h th hth
    · rw [List.mem_singleton.mp hth]
      exact Prog.wp_mono (fun _ _ hresult => hresult.1) (hentry e)
  | advance i choice =>
    unfold System.next
    dsimp only
    split
    · rename_i th hth
      intro u hu
      rcases List.mem_or_eq_of_mem_set hu with hu | rfl
      · exact h u hu
      · exact h.advance hth hmeets
    · exact h
  | disturb d => exact h

theorem Config.Sound.not_selfDeadlocked {cfg : Config L A ε σ} (h : cfg.Sound meets)
    {th : Thread L A ε} (hth : th ∈ cfg.threads) : ¬th.SelfDeadlocked := by
  have hwp := h th hth
  obtain ⟨held, rest⟩ := th
  cases rest with
  | acquire l next => exact hwp.1
  | _ => exact id

/-- No thread of a run whose actions meet the condition ever waits for a lock it holds. -/
theorem never_self_deadlocked (hentry : ∀ e, (sys.entry e).Sound meets [] fun _ => True) (shared : σ)
    {moves : List (Move E D)} (hmeets : Along sys.step (sys.Meets meets) ⟨shared, []⟩ moves)
    {th : Thread L A ε} (hth : th ∈ (final sys.step ⟨shared, []⟩ moves).threads) :
    ¬th.SelfDeadlocked := by
  have hsound : (final sys.step ⟨shared, []⟩ moves).Sound meets := by
    have hstart : (⟨shared, []⟩ : Config L A ε σ).Sound meets := fun _ h => by cases h
    refine @invariant_along _ _ _ sys.step (Config.Sound meets) (sys.Meets meets)
      (fun _ _ h hm => h.next hentry hm) _ hstart moves [] ?_
    rwa [List.append_nil]
  exact hsound.not_selfDeadlocked hth

end System

end Machine
