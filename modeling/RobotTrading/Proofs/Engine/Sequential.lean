import RobotTrading.Engine.Session
import RobotTrading.Proofs.Concurrency.Token
import RobotTrading.Proofs.Engine.Workers

/-!
# Reconciliation in a sequential schedule

In a sequential schedule each reconcile pass, the hub's handling of the
commands it sent and each worker's handling of what was queued for it all
finish before anything else happens. Here the commands of a pass are carried
through one at a time: the hub handles the command as its loop does, then the
worker the command went to takes what is queued for it and applies it under
its client lock, as its control task does.

Between passes the engine is `Settled` against the reconciler's known
symbols: the hub runs, its registry names exactly the known symbols, in
ascending order and each with a worker of its own, and every registered worker
is ready for a command. A freshly spawned hub is settled against no symbols.
Carrying a command through keeps the engine settled against the known
symbols updated by that command, and the pass as a whole leaves every
registered worker with exactly the robots of its symbol's group.

## Main definitions

- `World.hubHandles`, `World.takeCommand`, `World.drainWorker`,
  `World.passStep`, `World.sequentialPass` — a pass carried through.
- `World.Ready`, `World.Settled` — the engine between passes.
- `World.Carried`, `World.Midway` — a command, and a pass partway, carried through.

## Main statements

- `World.steps_eq_takeCommand`, `World.steps_eq_drainWorker`,
  `World.step_eq_hubHandles` — the pieces of a pass are the tasks' own steps.
- `World.Settled.carry` — one command carried through.
- `World.Midway.run` — the commands of a plan carried through in order.
- `World.sequentialPass_attaches_groups` — after a pass the registry holds the
  groups' symbols and each worker exactly its group's robots.
-/

namespace RobotTrading

namespace HubCommand

/-- The robot list a command carries, if any. -/
def robots : HubCommand → Option (List Robot)
  | register _ rs | broadcast _ rs => some rs
  | unregister _ => none

/-- A command that changes the registry whose symbols are `known`: a register for a new symbol,
    an unregister or a broadcast for a registered one. -/
def Applies (known : List Symbol) : HubCommand → Prop
  | register s _ => s ∉ known
  | unregister s => s ∈ known
  | broadcast s _ => s ∈ known

theorem Fits.applies {g : SymbolGroups} {known known' : List Symbol} {c : HubCommand}
    (h : c.Fits g known) (hk : c.symbol ∈ known' ↔ c.symbol ∈ known) : c.Applies known' := by
  cases c with
  | register s _ => exact fun hs => h.1 (hk.1 hs)
  | unregister s => exact hk.2 h
  | broadcast s _ => exact hk.2 h.1

theorem Fits.find? {g : SymbolGroups} {known : List Symbol} {c : HubCommand} (h : c.Fits g known)
    {rs : List Robot} (hr : c.robots = some rs) : g.find? c.symbol = some rs := by
  cases c with
  | register s _ => cases hr; exact h.2
  | unregister s => cases hr
  | broadcast s _ => cases hr; exact h.2

end HubCommand

/-- Pushing after changing an entry is changing it after pushing. -/
theorem Array.modify_push_of_lt {α : Type} {a : Array α} {i : Nat} (h : i < a.size) (f : α → α)
    (x : α) : (a.modify i f).push x = (a.push x).modify i f := by
  ext j hj₁ hj₂
  · simp
  · simp only [Array.size_push, Array.size_modify] at hj₁ hj₂
    simp only [Array.getElem_push, Array.getElem_modify, Array.size_modify]
    by_cases hj : j < a.size
    · simp [hj]
    · simp only [hj, ↓reduceDIte]
      rw [if_neg (by omega)]

namespace World

/-! ### One pass, one command at a time -/

/-- The hub's loop carrying out a command it took: a register whose worker queue cannot be made
    kills the hub. -/
def hubHandles (w : World) (c : HubCommand) : World :=
  match w.hub with
  | some h =>
    if w.refusesWorker h (.command c) then (w.abortHub h.task h).1
    else w.handleRequest (.command c)
  | none => w

/-- Worker `wid`'s control task takes its next queued command and applies it under the client
    lock, as over its own two steps (`World.steps_eq_takeCommand`): it receives the command and
    stops watching its token, then takes the lock, applies the command and stops watching again. -/
def takeCommand (w : World) (wid : Nat) : World :=
  match w.worker? wid with
  | none => w
  | some k =>
    let (q, got, ws) := k.commands.recv k.task
    let w := (w.modifyWorker wid fun k => { k with commands := q }).wakeAll ws
    match got with
    | .item c =>
      let (w, locked) := (w.unwatch k.token k.task).lockClients wid k.task
      if locked then (w.applyCommand wid c).unwatch k.token k.task else w
    | _ => w

/-- Worker `wid` takes every command queued for it. -/
def drainWorker (w : World) (wid : Nat) : World :=
  (fun w => w.takeCommand wid)^[((w.worker? wid).map (·.commands.items.length)).getD 0] w

/-- One command of a pass carried through: the hub handles it, then the worker it went to takes
    what is queued for it. -/
def passStep (w : World) (c : HubCommand) : World :=
  let w := w.hubHandles c
  match (registry w).lookup c.symbol with
  | some wid => w.drainWorker wid
  | none => w

/-- A reconcile pass in a sequential schedule, from the known symbols: the robots eligible at
    the wall-clock time are read; a failed read sends nothing; otherwise the commands of the
    plan are carried through one by one and the known symbols follow them. -/
def sequentialPass (w : World) (known : List Symbol) : World × List Symbol :=
  if w.failReads then (w, known)
  else
    let cmds := (ReconcilePlan.ofRobots known (w.store.findActive w.wallClock)).commands
    (cmds.foldl passStep w, cmds.foldl HubCommand.updateKnown known)

/-! ### The tasks' own steps

A pass hands each command to its worker with `takeCommand`. Run by the worker's control task,
the same command takes two steps: from its loop the task receives the command and moves to
applying it, then takes the client lock, applies the command and goes back to its loop. Setting
where a task stands commutes with everything applying a command does, so when the task is idle
and not cancelled and the lock is free, the two steps reach the world `takeCommand` reaches.
The hub's task, serving and not cancelled, reaches in one step what `hubHandles` reaches once
the command has left its queue. -/

section ControlSteps

variable {w : World} {wid : Nat} {k : Worker} {t : TaskId} {j : Job}

@[simp] theorem isDone_setJob (t x : TaskId) (j : Job) : (w.setJob t j).isDone x = w.isDone x := by
  simp only [isDone, setJob, Array.getElem?_modify]
  split <;> cases w.tasks[x]? <;> rfl

@[simp] theorem settings_setJob (t : TaskId) (j : Job) : (w.setJob t j).settings = w.settings := rfl

@[simp] theorem cancelled_setJob (t : TaskId) (j : Job) (i : Nat) : (w.setJob t j).cancelled i = w.cancelled i := rfl

@[simp] theorem worker?_setJob (t : TaskId) (j : Job) : (w.setJob t j).worker? wid = w.worker? wid := rfl

theorem modifyWorker_setJob (t : TaskId) (j : Job) (f : Worker → Worker) :
    (w.setJob t j).modifyWorker wid f = (w.modifyWorker wid f).setJob t j := rfl

theorem wake_setJob (t x : TaskId) (j : Job) : (w.setJob t j).wake x = (w.wake x).setJob t j := by
  have hq : (w.setJob t j).runQueue = w.runQueue := rfl
  unfold wake
  rw [isDone_setJob t x j, hq]
  split_ifs <;> rfl

theorem wakeAll_setJob (t : TaskId) (j : Job) (ts : List TaskId) : (w.setJob t j).wakeAll ts = (w.wakeAll ts).setJob t j := by
  induction ts generalizing w with
  | nil => rfl
  | cons x ts ih =>
    show ((w.setJob t j).wake x).wakeAll ts = ((w.wake x).wakeAll ts).setJob t j
    rw [wake_setJob t x j, ih]

theorem lockClients_setJob (t x : TaskId) (j : Job) :
    (w.setJob t j).lockClients wid x = ((w.lockClients wid x).1.setJob t j, (w.lockClients wid x).2) := by
  unfold lockClients
  rw [worker?_setJob t j]
  cases w.worker? wid <;> rfl

theorem unlockClients_setJob (t : TaskId) (j : Job) : (w.setJob t j).unlockClients wid = (w.unlockClients wid).setJob t j := by
  unfold unlockClients
  rw [worker?_setJob t j]
  cases w.worker? wid with
  | none => rfl
  | some k =>
    dsimp only
    rw [modifyWorker_setJob t j, wakeAll_setJob t j]

theorem answer_setJob (t : TaskId) (j : Job) (r : Nat) (v : ReplyValue) :
    (w.setJob t j).answer r v = (w.answer r v).setJob t j := by
  unfold answer
  have hr : (w.setJob t j).replies = w.replies := rfl
  rw [hr]
  cases w.replies[r]? with
  | none => rfl
  | some slot =>
    dsimp only
    rw [← wakeAll_setJob t j]
    rfl

@[simp] theorem tasks_unlockClients : (w.unlockClients wid).tasks = w.tasks := by
  unfold unlockClients
  cases w.worker? wid with
  | none => rfl
  | some k => simp [modifyWorker]

/-- Opening a reader adds a task after the others, so it commutes with setting an older one. -/
theorem startReader_setJob (ht : t < w.tasks.size) (j : Job) :
    (w.setJob t j).startReader wid = (w.startReader wid).setJob t j := by
  unfold startReader
  rw [worker?_setJob t j]
  cases w.worker? wid with
  | none => rfl
  | some k =>
    simp only [newToken, spawn, modifyWorker, setJob, Array.size_modify]
    rw [Array.modify_push_of_lt ht]

theorem applyCommand_setJob (ht : t < w.tasks.size) (j : Job) (c : WorkerCommand) :
    (w.setJob t j).applyCommand wid c = (w.applyCommand wid c).setJob t j := by
  unfold applyCommand
  rw [worker?_setJob t j]
  cases w.worker? wid with
  | none => rfl
  | some k =>
    dsimp only
    simp only [modifyWorker_setJob, unlockClients_setJob, settings_setJob, worker?_setJob]
    have hsize : t < ((w.modifyWorker wid fun k' =>
        { k' with clients := (attachClients w.settings.policy k.clients c.robots).1 }).unlockClients
          wid).tasks.size := by
      simpa [modifyWorker] using ht
    -- answered or not, with the reader reopened or not
    split <;> split_ifs <;> simp only [startReader_setJob hsize j, answer_setJob]

theorem setJob_setJob (t : TaskId) (j j' : Job) : (w.setJob t j).setJob t j' = w.setJob t j' := by
  simp only [setJob, World.mk.injEq, and_true, true_and]
  ext i hi₁ hi₂
  · simp
  · simp only [Array.getElem_modify]
    split_ifs <;> rfl

/-- Setting a task where it already stands changes nothing. -/
theorem setJob_of_job {kt : Task} (ht : w.tasks[t]? = some kt) (hj : kt.job = j) :
    w.setJob t j = w := by
  have hw : w.tasks.modify t (fun k => { k with job := j }) = w.tasks := by
    ext i hi₁ hi₂
    · simp
    · simp only [Array.getElem_modify]
      split_ifs with h
      · subst h
        rw [Array.getElem?_eq_getElem hi₂, Option.some_inj] at ht
        rw [ht, ← hj]
      · rfl
  simp [setJob, hw]

/-- A control task that has neither ended nor been aborted takes its worker's step. -/
theorem step_of_control {kt : Task} {p : WorkerPhase} (ht : w.tasks[t]? = some kt)
    (hj : kt.job = .worker wid p) (hd : kt.done = false) (ha : kt.aborted = false) :
    w.step t = w.stepWorker t wid p := by
  simp [step, ht, hd, ha, hj]

/-- Receiving from a worker's command queue, waking the senders and dropping a token's watch
    leave the worker as it was but for its queue. -/
theorem worker?_received (hk : w.worker? wid = some k) (q : Queue WorkerCommand) (ws : List TaskId)
    (i : Nat) (x : TaskId) :
    (((w.modifyWorker wid fun k => { k with commands := q }).wakeAll ws).unwatch i x).worker? wid =
      some { k with commands := q } := by
  have hw : ((w.modifyWorker wid fun k => { k with commands := q }).wakeAll ws).worker? wid =
      (w.modifyWorker wid fun k => { k with commands := q }).worker? wid := by
    simp only [worker?, wakeAll_workers]
  rw [worker?_unwatch, hw, worker?_modifyWorker, if_pos rfl, hk]
  rfl

/-- **The schedule takes a command as the control task does.** A worker whose control task is
    idle in its loop, not cancelled, with a command queued and its client lock free: the task's
    step that receives the command and its step that applies it reach the world `takeCommand`
    reaches. -/
theorem steps_eq_takeCommand {kt : Task} (hk : w.worker? wid = some k)
    (ht : w.tasks[k.task]? = some kt) (hj : kt.job = .worker wid .idle) (hd : kt.done = false)
    (ha : kt.aborted = false) (hc : w.cancelled k.token = false) (hq : k.commands.items ≠ [])
    (hl : k.lock = Lock.free) :
    ((w.step k.task).1.step k.task).1 = w.takeCommand wid := by
  obtain ⟨c, rest, hitems⟩ := List.exists_cons_of_ne_nil hq
  rcases hr : k.commands.recv k.task with ⟨q, got, ws⟩
  have hgot : got = .item c := by
    simp only [Queue.recv, hitems] at hr
    exact (Prod.mk.inj (Prod.mk.inj hr).2).1.symm
  subst hgot
  set X := ((w.modifyWorker wid fun k => { k with commands := q }).wakeAll ws).unwatch k.token k.task
  have hkX : X.worker? wid = some { k with commands := q } := worker?_received hk q ws _ _
  have hcX : X.cancelled k.token = false := by
    simp only [X, cancelled, unwatch, Tokens.isCancelled_unwatch, tokens_wakeAll]
    exact hc
  have htX : X.tasks = w.tasks := tasks_wakeAll _ ws
  have hlX : X.lockClients wid k.task =
      (X.modifyWorker wid fun k' => { k' with lock := ⟨some k.task, []⟩ }, true) :=
    lockClients_of_free hkX hl k.task
  have hsize : k.task < (X.modifyWorker wid fun k' =>
      { k' with lock := ⟨some k.task, []⟩ }).tasks.size := by
    have := (Array.getElem?_eq_some_iff.1 ht).1
    simpa [modifyWorker, htX] using this
  -- the first step receives the command and stops watching the token
  have h₁ : (w.step k.task).1 = X.setJob k.task (.worker wid (.applying c)) := by
    rw [step_of_control ht hj hd ha]
    simp [stepWorker, hk, hc, hr, X]
  -- the second takes the lock, applies the command and stops watching again
  have h₂ : ((X.setJob k.task (.worker wid (.applying c))).step k.task).1 =
      ((((X.modifyWorker wid fun k' => { k' with lock := ⟨some k.task, []⟩ }).applyCommand wid
        c).unwatch k.token k.task).setJob k.task (.worker wid (.applying c))).setJob k.task
          (.worker wid .idle) := by
    have ht₁ : (X.setJob k.task (.worker wid (.applying c))).tasks[k.task]? =
        some { kt with job := .worker wid (.applying c) } := by
      simp [setJob, htX, Array.getElem?_modify, ht]
    rw [step_of_control ht₁ rfl hd ha]
    simp only [stepWorker, worker?_setJob, hkX, cancelled_setJob, hcX, lockClients_setJob, hlX,
      Bool.false_eq_true, ↓reduceIte, applyCommand_setJob hsize]
    rfl
  have htake : w.takeCommand wid = ((X.modifyWorker wid fun k' =>
      { k' with lock := ⟨some k.task, []⟩ }).applyCommand wid c).unwatch k.token k.task := by
    simp only [takeCommand, hk, hr]
    rw [hlX]
    rfl
  -- the task is back in its loop, where it stood before
  have hself : X.setJob k.task (.worker wid .idle) = X := setJob_of_job (by rw [htX]; exact ht) hj
  rw [h₁, h₂, setJob_setJob, htake]
  conv_rhs => rw [← hself, modifyWorker_setJob, applyCommand_setJob hsize]
  rfl

/-- A worker given one command, as a pass gives it: its control task's two steps reach the world
    draining its queue reaches. -/
theorem steps_eq_drainWorker {kt : Task} (hk : w.worker? wid = some k)
    (ht : w.tasks[k.task]? = some kt) (hj : kt.job = .worker wid .idle) (hd : kt.done = false)
    (ha : kt.aborted = false) (hc : w.cancelled k.token = false) {c : WorkerCommand}
    (hq : k.commands.items = [c]) (hl : k.lock = Lock.free) :
    ((w.step k.task).1.step k.task).1 = w.drainWorker wid := by
  rw [steps_eq_takeCommand hk ht hj hd ha hc (by simp [hq]) hl]
  simp [drainWorker, hk, hq]

/-- Whether a request starts a worker that cannot be made reads only the settings and the
    registry. -/
theorem refusesWorker_congr {w' : World} {h h' : Hub} (hs : w'.settings = w.settings)
    (hw : h'.workers = h.workers) (r : HubRequest) :
    w'.refusesWorker h' r = w.refusesWorker h r := by
  unfold refusesWorker
  rw [hs, hw]

/-- **The hub's loop handles a command as `hubHandles` does.** A serving hub task, not
    cancelled, that receives a command it can carry out: its step takes the command off the
    queue, stops watching the hub's token and reaches the world `hubHandles` reaches from
    there. A pass leaves out only that passage through the queue and the token's watch. -/
theorem step_eq_hubHandles {h : Hub} {kt : Task} (hh : w.hub = some h)
    (ht : w.tasks[h.task]? = some kt) (hj : kt.job = .hub .serving) (hd : kt.done = false)
    (ha : kt.aborted = false) (hc : w.cancelled h.token = false) {c : HubCommand}
    {q : Queue HubRequest} {ws : List TaskId}
    (hr : h.requests.recv h.task = (q, .item (.command c), ws))
    (hn : w.refusesWorker h (.command c) = false) :
    (w.step h.task).1 = (((w.modifyHub fun h => { h with requests := q }).wakeAll ws).unwatch
      h.token h.task).hubHandles c := by
  have hstep : (w.step h.task).1 = (((w.modifyHub fun h => { h with requests := q }).wakeAll
      ws).unwatch h.token h.task).handleRequest (.command c) := by
    -- the step checks the hub from before the command left its queue
    have hn₁ : ((w.modifyHub fun h => { h with requests := q }).wakeAll ws).refusesWorker h
        (.command c) = false :=
      (refusesWorker_congr (by simp) rfl _).trans hn
    simp [step, ht, hd, ha, hj, stepHub, hh, hc, hr, hn₁]
  have hX : (((w.modifyHub fun h => { h with requests := q }).wakeAll ws).unwatch h.token
      h.task).hub = some { h with requests := q } := by
    show ((w.modifyHub _).wakeAll ws).hub = _
    simp [hh]
  have hn₂ : (((w.modifyHub fun h => { h with requests := q }).wakeAll ws).unwatch h.token
      h.task).refusesWorker { h with requests := q } (.command c) = false :=
    (refusesWorker_congr (by simp [unwatch]) rfl _).trans hn
  rw [hstep, hubHandles, hX]
  simp only [hn₂, Bool.false_eq_true, ↓reduceIte]

end ControlSteps

/-! ### Settled engines -/

/-- A worker ready for its next command: it trades `s`, nothing is queued, no sender waits, its
    queue is open with a free slot, and nobody holds or waits for its client lock. -/
structure Ready (k : Worker) (s : Symbol) : Prop where
  symbol : k.symbol = s
  empty : k.commands.items = []
  noSenders : k.commands.waiting = []
  receiving : k.commands.receiverOpen = true
  free : 0 < k.commands.free
  unlocked : k.lock = Lock.free

/-- The engine between two passes, against the reconciler's known symbols: the hub runs, its
    registry names the known symbols in ascending order, each with a worker of its own, and every
    registered worker is ready. -/
structure Settled (w : World) (known : List Symbol) : Prop where
  hub : w.hub.isSome
  keys : (registry w).map (·.1) = known
  sorted : known.Pairwise (· < ·)
  bounded : ∀ e ∈ registry w, e.2 < w.workers.size
  distinct : ((registry w).map (·.2)).Nodup
  ready : ∀ e ∈ registry w, ∃ k, w.worker? e.2 = some k ∧ Ready k e.1

section Steps

variable {w : World} {known : List Symbol} {wid : Nat} {k : Worker} {s : Symbol}

/-- With a worker queue that can be made, the hub's loop carries out every command. -/
theorem Settled.hubHandles_eq (h : Settled w known)
    (hcap : Queue.refusal? w.settings.workerCapacity = none) (c : HubCommand) :
    w.hubHandles c = w.handleRequest (.command c) := by
  obtain ⟨hb, hhub⟩ := Option.isSome_iff_exists.1 h.hub
  have hrefuse : w.refusesWorker hb (.command c) = false := by
    cases c <;> simp [refusesWorker, hcap]
  simp [hubHandles, hhub, hrefuse]

/-- A worker with nothing queued has nothing to take. -/
theorem drainWorker_of_empty (hk : w.worker? wid = some k) (he : k.commands.items = []) :
    w.drainWorker wid = w := by
  simp [drainWorker, hk, he]

/-- **A broadcast carried through.** A command sent to a ready worker and then taken by it
    leaves the worker ready, with the clients of the command's robots. -/
theorem deliver_ready (hk : w.worker? wid = some k) (hr : Ready k s) (rs : List Robot) :
    ∃ w₁, w.tryCommand wid ⟨rs, none⟩ = .ok w₁ ∧ Touches w w₁ wid ∧
      Touches w (w₁.drainWorker wid) wid ∧
      ∃ k', (w₁.drainWorker wid).worker? wid = some k' ∧ Ready k' s ∧
        k'.clients = (attachClients w.settings.policy k.clients rs).1 := by
  set c : WorkerCommand := ⟨rs, none⟩
  set q₁ := Queue.push { k.commands with free := k.commands.free - 1 } c
  refine ⟨_, tryCommand_of_open hk hr.receiving hr.free c, ?_⟩
  set w₁ := (w.modifyWorker wid fun k' => { k' with commands := q₁.1 }).wakeAll q₁.2
  have hk₁ : w₁.worker? wid = some { k with commands := q₁.1 } := by
    simp only [worker?] at hk ⊢
    simp [w₁, Array.getElem?_modify, hk]
  have hT₁ : Touches w w₁ wid := (touches_modifyWorker _ _ _).trans (touches_wakeAll _ _ _)
  refine ⟨hT₁, ?_⟩
  have hdrain : w₁.drainWorker wid = w₁.takeCommand wid := by
    simp [drainWorker, hk₁, q₁, Queue.push_items, hr.empty]
  rw [hdrain]
  unfold takeCommand
  rw [hk₁]
  dsimp only
  -- the control task takes the command back out, leaving the queue as it was
  set q₂ : Queue WorkerCommand := { k.commands with receiverWaker := none }
  have hrecv : q₁.1.recv k.task = (q₂, .item c, []) :=
    Queue.recv_push hr.empty hr.noSenders hr.free c k.task
  rw [hrecv]
  dsimp only
  set w₂ := ((w₁.modifyWorker wid fun k' => { k' with commands := q₂ }).wakeAll []).unwatch
    k.token k.task
  have hk₂ : w₂.worker? wid = some { k with commands := q₂ } := worker?_received hk₁ q₂ [] _ _
  -- the client lock is free, so the task takes it and applies the command
  rw [lockClients_of_free hk₂ hr.unlocked]
  dsimp only
  rw [if_pos rfl]
  set w₃ := w₂.modifyWorker wid fun k' => { k' with lock := ⟨some k.task, []⟩ }
  have hk₃ : w₃.worker? wid = some { k with commands := q₂, lock := ⟨some k.task, []⟩ } := by
    simp [w₃, worker?_modifyWorker, hk₂]
  have hT₃ : Touches w w₃ wid :=
    ((((hT₁.trans (touches_modifyWorker _ _ _)).trans (touches_wakeAll _ _ _)).trans
      (touches_unwatch _ _ _ _)).trans (touches_modifyWorker _ _ _))
  obtain ⟨hT₄, k', hk', hs, hc, hl, hq⟩ := applyCommand_spec hk₃ rfl c
  refine ⟨(hT₃.trans hT₄).trans (touches_unwatch _ _ _ _), k', (worker?_unwatch _ _ _ _).trans hk',
    ⟨hs.trans hr.symbol, ?_, ?_, ?_, ?_, hl⟩, ?_⟩
  · rw [hq]; exact hr.empty
  · rw [hq]; exact hr.noSenders
  · rw [hq]; exact hr.receiving
  · rw [hq]; exact hr.free
  · rw [hc, hT₃.settings]

theorem Settled.keys_nodup (h : Settled w known) : ((registry w).map (·.1)).Nodup := by
  rw [h.keys]
  exact h.sorted.imp Symbol.ne_of_lt

theorem Settled.lookup_eq (h : Settled w known) {e : Symbol × Nat} (he : e ∈ registry w) :
    (registry w).lookup e.1 = some e.2 :=
  lookup_eq_of_mem h.keys_nodup he

theorem Settled.eq_of_symbol (h : Settled w known) {e e' : Symbol × Nat} (he : e ∈ registry w)
    (he' : e' ∈ registry w) (hs : e.1 = e'.1) : e = e' :=
  List.inj_on_of_nodup_map h.keys_nodup he he' hs

theorem Settled.eq_of_worker (h : Settled w known) {e e' : Symbol × Nat} (he : e ∈ registry w)
    (he' : e' ∈ registry w) (hw : e.2 = e'.2) : e = e' :=
  List.inj_on_of_nodup_map h.distinct he he' hw

theorem Settled.exists_entry (h : Settled w known) {s : Symbol} (hs : s ∈ known) :
    ∃ wid, (s, wid) ∈ registry w := by
  rw [← h.keys] at hs
  obtain ⟨e, he, rfl⟩ := List.mem_map.1 hs
  exact ⟨e.2, he⟩

theorem clientsOf_congr {w w' : World} {j : Nat} (h : w'.worker? j = w.worker? j) :
    clientsOf w' j = clientsOf w j := by
  simp [clientsOf, h]

end Steps

/-- What carrying a command through does to a settled engine: it is settled again against the
    updated known symbols with the same settings and effects, a registered symbol the command does not name
    keeps its entry and its worker, and the symbol it names, while registered, keeps its entry
    or is new, with the clients that bringing its clients in line with the command's robots
    gives. -/
structure Carried (w w' : World) (known : List Symbol) (c : HubCommand) : Prop where
  settled : Settled w' (HubCommand.updateKnown known c)
  settings : w'.settings = w.settings
  effects : w'.effects = w.effects
  kept : ∀ e ∈ registry w, e.1 ≠ c.symbol → e ∈ registry w'
  others : ∀ e ∈ registry w', e.1 ≠ c.symbol →
    e ∈ registry w ∧ w'.worker? e.2 = w.worker? e.2
  target : ∀ e ∈ registry w', e.1 = c.symbol →
    (e ∈ registry w ∨ ∀ e' ∈ registry w, e'.1 ≠ e.1) ∧ ∃ rs, c.robots = some rs ∧
      clientsOf w' e.2 = (attachClients w.settings.policy
        (if e ∈ registry w then clientsOf w e.2 else []) rs).1

section Carry

variable {w : World} {known : List Symbol}

/-- **A register carried through** starts a ready worker for the new symbol with the clients of
    its robots. -/
theorem Settled.carry_register (h : Settled w known)
    (hcap : Queue.refusal? w.settings.workerCapacity = none) {s : Symbol} (hs : s ∉ known)
    (rs : List Robot) : Carried w (w.passStep (.register s rs)) known (.register s rs) := by
  obtain ⟨hb, hhub⟩ := Option.isSome_iff_exists.1 h.hub
  have hsk : s ∉ (registry w).map (·.1) := h.keys ▸ hs
  set n := w.workers.size
  set kn : Worker := ⟨s, (attachClients w.settings.policy [] rs).1, Lock.free, true,
    w.tokens.nodes.size, Queue.new w.settings.workerCapacity, none, w.tasks.size⟩
  set W := (w.spawnWorker s rs hb.token).1.modifyHub
    fun h => { h with workers := insertEntry (s, n) h.workers }
  have hreg : registry W = insertEntry (s, n) (registry w) := by
    simp [W, registry, hhub]
  have hworker : ∀ j, W.worker? j = if j = n then some kn else w.worker? j := by
    intro j
    simp [W, worker?, spawnWorker_workers, Array.getElem?_push, n, kn]
  have hmem : ∀ e, e ∈ registry W ↔ e = (s, n) ∨ e ∈ registry w := by
    intro e
    rw [hreg]
    exact (insertEntry_perm _ _).mem_iff.trans List.mem_cons
  have hkeys : (registry W).map (·.1) = Ascending.insert s known := by
    rw [hreg, keys_insertEntry (s, n) hsk, h.keys]
  have hready : Ready kn s :=
    ⟨rfl, rfl, rfl, rfl, Nat.lt_of_lt_of_le Nat.one_pos (Nat.le_max_left _ _), rfl⟩
  have hnodup : ((registry W).map (·.1)).Nodup := by
    rw [hkeys]
    exact (Ascending.pairwise_insert s h.sorted).imp Symbol.ne_of_lt
  -- the new worker has nothing queued, so carrying the register through is handling it
  have hpass : w.passStep (.register s rs) = W := by
    have hlookup : (registry W).lookup s = some n :=
      lookup_eq_of_mem hnodup ((hmem (s, n)).2 (.inl rfl))
    have hdrain : W.drainWorker n = W := drainWorker_of_empty (by rw [hworker, if_pos rfl]) rfl
    simp only [passStep, h.hubHandles_eq hcap, handleRequest_register hhub hsk, HubCommand.symbol]
    rw [hlookup]
    exact hdrain
  rw [hpass]
  -- the old entries keep their workers, all named below `n`
  have hold : ∀ e ∈ registry w, W.worker? e.2 = w.worker? e.2 := fun e he => by
    rw [hworker, if_neg (Nat.ne_of_lt (h.bounded e he))]
  have hsize : W.workers.size = n + 1 := by simp [W, spawnWorker_workers, n]
  have hfresh : ∀ e ∈ registry w, e.1 ≠ s := fun e he hes => hs (h.keys ▸ hes ▸ List.mem_map_of_mem he)
  refine ⟨⟨?_, hkeys, Ascending.pairwise_insert s h.sorted, ?_, ?_, ?_⟩, by simp [W], by simp [W],
    ?_, ?_, ?_⟩
  · simp [W, hhub]
  · intro e he
    rw [hsize]
    rcases (hmem e).1 he with rfl | he
    · exact Nat.lt_succ_self n
    · exact Nat.lt_succ_of_lt (h.bounded e he)
  · rw [hreg]
    apply ((insertEntry_perm _ _).map _).nodup_iff.2
    rw [List.map_cons, List.nodup_cons]
    refine ⟨fun hn => ?_, h.distinct⟩
    obtain ⟨e, he, hen⟩ := List.mem_map.1 hn
    exact Nat.ne_of_lt (h.bounded e he) hen
  · intro e he
    rcases (hmem e).1 he with rfl | he
    · exact ⟨kn, by rw [hworker, if_pos rfl], hready⟩
    · obtain ⟨k, hk, hr⟩ := h.ready e he
      exact ⟨k, by rw [hold e he, hk], hr⟩
  · exact fun e he _ => (hmem e).2 (.inr he)
  · intro e he hne
    rcases (hmem e).1 he with rfl | he
    · exact absurd rfl hne
    · exact ⟨he, hold e he⟩
  · intro e he hes
    rcases (hmem e).1 he with rfl | he
    · -- the new worker starts from no clients
      have hout : (s, n) ∉ registry w := fun hin => hfresh _ hin rfl
      refine ⟨.inr hfresh, rs, rfl, ?_⟩
      simp [clientsOf, hworker, kn, hout]
    · exact absurd hes (hfresh e he)

/-- **An unregister carried through** forgets the symbol; every worker stays as it was. -/
theorem Settled.carry_unregister (h : Settled w known)
    (hcap : Queue.refusal? w.settings.workerCapacity = none) {s : Symbol} (hs : s ∈ known) :
    Carried w (w.passStep (.unregister s)) known (.unregister s) := by
  obtain ⟨hb, hhub⟩ := Option.isSome_iff_exists.1 h.hub
  obtain ⟨wid, hsw⟩ := h.exists_entry hs
  set W := (w.forget s).cancelWorker wid
  have hreg : registry W = (registry w).filter (·.1 != s) := by
    rw [← registry_forget]
    simp [W, registry]
  have hsame : ∀ j, W.worker? j = w.worker? j := fun j => by
    simp only [W, worker?, cancelWorker_workers, forget, modifyHub_workers]
  have hmem : ∀ e, e ∈ registry W ↔ e ∈ registry w ∧ e.1 ≠ s := by
    intro e
    simp [hreg]
  -- the symbol is gone from the registry, so no worker takes anything
  have hpass : w.passStep (.unregister s) = W := by
    have hlookup : (registry W).lookup s = none := by
      rw [List.lookup_eq_none_iff]
      intro e he
      exact bne_iff_ne.2 (Ne.symm ((hmem e).1 he).2)
    simp only [passStep, h.hubHandles_eq hcap, handleRequest_unregister hhub (h.lookup_eq hsw),
      HubCommand.symbol]
    rw [hlookup]
  rw [hpass]
  refine ⟨⟨?_, ?_, h.sorted.filter _, ?_, ?_, ?_⟩, by simp [W, forget], by simp [W, forget],
    ?_, ?_, ?_⟩
  · simp [W, forget, hhub]
  · rw [hreg, ← h.keys]
    simp only [HubCommand.updateKnown, List.filter_map]
    rfl
  · intro e he
    have hw : W.workers.size = w.workers.size := by simp [W, forget]
    rw [hw]
    exact h.bounded e ((hmem e).1 he).1
  · rw [hreg]
    exact h.distinct.sublist (List.filter_sublist.map _)
  · intro e he
    rw [hsame]
    exact h.ready e ((hmem e).1 he).1
  · exact fun e he hne => (hmem e).2 ⟨he, hne⟩
  · intro e he _
    exact ⟨((hmem e).1 he).1, hsame e.2⟩
  · intro e he hes
    exact absurd hes ((hmem e).1 he).2

/-- **A broadcast carried through** gives the symbol's worker the clients of the robots and
    leaves it ready; every other worker stays as it was. -/
theorem Settled.carry_broadcast (h : Settled w known)
    (hcap : Queue.refusal? w.settings.workerCapacity = none) {s : Symbol} (hs : s ∈ known)
    (rs : List Robot) : Carried w (w.passStep (.broadcast s rs)) known (.broadcast s rs) := by
  obtain ⟨hb, hhub⟩ := Option.isSome_iff_exists.1 h.hub
  obtain ⟨wid, hsw⟩ := h.exists_entry hs
  obtain ⟨k, hk, hr⟩ := h.ready _ hsw
  obtain ⟨w₁, ht, hT₁, hT, k', hk', hr', hc⟩ := deliver_ready hk hr rs
  set W := w₁.drainWorker wid
  have hpass : w.passStep (.broadcast s rs) = W := by
    have hlookup : (registry w₁).lookup s = some wid := by
      rw [hT₁.registry_eq]
      exact h.lookup_eq hsw
    simp only [passStep, h.hubHandles_eq hcap, handleRequest_broadcast hhub (h.lookup_eq hsw) ht,
      HubCommand.symbol]
    rw [hlookup]
  rw [hpass]
  have hreg : registry W = registry w := hT.registry_eq
  -- an entry of another symbol has another worker, which the broadcast leaves alone
  have hother : ∀ e ∈ registry w, e.1 ≠ s → W.worker? e.2 = w.worker? e.2 := fun e he hne =>
    hT.others _ fun hw => hne (congrArg Prod.fst (h.eq_of_worker he hsw hw))
  have hself : ∀ e ∈ registry w, e.1 = s → e = (s, wid) := fun e he hes =>
    h.eq_of_symbol he hsw hes
  refine ⟨⟨?_, ?_, h.sorted, ?_, ?_, ?_⟩, hT.settings, hT.effects, fun e he _ => hreg ▸ he, ?_,
    ?_⟩
  · rw [hT.hub]
    exact h.hub
  · rw [hreg]
    exact h.keys
  · intro e he
    rw [hT.size]
    exact h.bounded e (hreg ▸ he)
  · rw [hreg]
    exact h.distinct
  · intro e he
    rw [hreg] at he
    by_cases hes : e.1 = s
    · obtain rfl := hself e he hes
      exact ⟨k', hk', hr'⟩
    · obtain ⟨k₀, hk₀, hr₀⟩ := h.ready e he
      exact ⟨k₀, by rw [hother e he hes, hk₀], hr₀⟩
  · intro e he hne
    rw [hreg] at he
    exact ⟨he, hother e he hne⟩
  · intro e he hes
    rw [hreg] at he
    obtain rfl := hself e he hes
    refine ⟨.inl hsw, rs, rfl, ?_⟩
    simp [clientsOf, hk', hc, hk, hsw]

/-- Carrying through a command that applies to the registry. -/
theorem Settled.carry (h : Settled w known) (hcap : Queue.refusal? w.settings.workerCapacity = none)
    {c : HubCommand} (hc : c.Applies known) : Carried w (w.passStep c) known c := by
  cases c with
  | register s rs => exact h.carry_register hcap hc rs
  | unregister s => exact h.carry_unregister hcap hc
  | broadcast s rs => exact h.carry_broadcast hcap hc rs

end Carry

/-! ### A whole pass -/

/-- Partway through a pass from `w₀` over the groups `g` planned against `known`: the engine is
    settled against the symbols known so far, with the settings and effects it started with; the commands
    still to come find their symbols known as they were planned, and the entries of their
    symbols as they were at the start, with the same workers; and every registered symbol that
    no command still to come names kept its entry or is new, with the clients that bringing its
    clients at the start (none, if new) in line with its group gives. -/
structure Midway (g : SymbolGroups) (known : List Symbol) (w₀ w : World) (now : List Symbol)
    (rest : List HubCommand) : Prop where
  settled : Settled w now
  settings : w.settings = w₀.settings
  effects : w.effects = w₀.effects
  agree : ∀ c ∈ rest, (c.symbol ∈ now ↔ c.symbol ∈ known)
  kept : ∀ e ∈ registry w₀, (∃ c ∈ rest, c.symbol = e.1) → e ∈ registry w
  pending : ∀ e ∈ registry w, (∃ c ∈ rest, c.symbol = e.1) →
    e ∈ registry w₀ ∧ w.worker? e.2 = w₀.worker? e.2
  served : ∀ e ∈ registry w, (∀ c ∈ rest, c.symbol ≠ e.1) →
    (e ∈ registry w₀ ∨ ∀ e' ∈ registry w₀, e'.1 ≠ e.1) ∧
      clientsOf w e.2 = (attachClients w₀.settings.policy
        (if e ∈ registry w₀ then clientsOf w₀ e.2 else []) ((g.find? e.1).getD [])).1

section Pass

variable {g : SymbolGroups} {known now : List Symbol} {w₀ w : World}

/-- One command of the plan carried through keeps the pass on course. -/
theorem Midway.step {c : HubCommand} {rest : List HubCommand}
    (h : Midway g known w₀ w now (c :: rest))
    (hcap : Queue.refusal? w₀.settings.workerCapacity = none) (hfit : c.Fits g known)
    (hd : ∀ c' ∈ rest, c'.symbol ≠ c.symbol) :
    Midway g known w₀ (w.passStep c) (HubCommand.updateKnown now c) rest := by
  have hC := h.settled.carry (h.settings ▸ hcap) (hfit.applies (h.agree c (.head _)))
  -- no command before this one touched the entries of its symbol
  have hsame : ∀ e : Symbol × Nat, e.1 = c.symbol → (e ∈ registry w ↔ e ∈ registry w₀) :=
    fun e hes => ⟨fun he => (h.pending e he ⟨c, .head _, hes.symm⟩).1,
      fun he => h.kept e he ⟨c, .head _, hes.symm⟩⟩
  refine ⟨hC.settled, hC.settings.trans h.settings, hC.effects.trans h.effects, fun c' hc' => ?_, fun e he ⟨c', hc', hes⟩ => ?_,
    fun e he ⟨c', hc', hes⟩ => ?_, fun e he hrest => ?_⟩
  · rw [HubCommand.mem_updateKnown_of_ne (hd c' hc')]
    exact h.agree c' (.tail _ hc')
  · have hne : e.1 ≠ c.symbol := hes ▸ hd c' hc'
    exact hC.kept e (h.kept e he ⟨c', .tail _ hc', hes⟩) hne
  · have hne : e.1 ≠ c.symbol := hes ▸ hd c' hc'
    obtain ⟨he', hw⟩ := hC.others e he hne
    obtain ⟨he₀, hw₀⟩ := h.pending e he' ⟨c', .tail _ hc', hes⟩
    exact ⟨he₀, hw.trans hw₀⟩
  · by_cases hes : e.1 = c.symbol
    · -- the command just carried through set the clients of its symbol
      obtain ⟨hnew, rs, hrs, hcl⟩ := hC.target e he hes
      refine ⟨?_, ?_⟩
      · rcases hnew with hin | hout
        · exact .inl ((hsame e hes).1 hin)
        · exact .inr fun e' he' hes' =>
            hout e' ((hsame e' (hes'.trans hes)).2 he') hes'
      · rw [hcl, h.settings, hes, hfit.find? hrs, Option.getD_some]
        by_cases hin : e ∈ registry w
        · rw [if_pos hin, if_pos ((hsame e hes).1 hin),
            clientsOf_congr (h.pending e hin ⟨c, .head _, hes.symm⟩).2]
        · rw [if_neg hin, if_neg (mt (hsame e hes).2 hin)]
    · -- any other symbol kept its worker, and no command names it any more
      obtain ⟨he', hw⟩ := hC.others e he hes
      rw [clientsOf_congr hw]
      refine h.served e he' fun c' hc' => ?_
      rcases List.mem_cons.1 hc' with rfl | hc'
      · exact Ne.symm hes
      · exact hrest c' hc'

/-- Every command of the plan carried through, in order. -/
theorem Midway.run {cmds : List HubCommand} (h : Midway g known w₀ w now cmds)
    (hcap : Queue.refusal? w₀.settings.workerCapacity = none) (hfit : ∀ c ∈ cmds, c.Fits g known)
    (hd : (cmds.map HubCommand.symbol).Nodup) :
    Midway g known w₀ (cmds.foldl passStep w) (cmds.foldl HubCommand.updateKnown now) [] := by
  induction cmds generalizing w now with
  | nil => exact h
  | cons c cmds ih =>
    rw [List.map_cons, List.nodup_cons] at hd
    have hd' : ∀ c' ∈ cmds, c'.symbol ≠ c.symbol := fun c' hc' heq =>
      hd.1 (heq ▸ List.mem_map_of_mem hc')
    exact ih (h.step hcap (hfit c (.head _)) hd') (fun c' hc' => hfit c' (.tail _ hc')) hd.2

/-- Before a pass every registered symbol is named by a command of its plan. -/
theorem Settled.midway (h : Settled w known) (g : SymbolGroups) :
    Midway g known w w known (ReconcilePlan.ofGroups known g).commands := by
  refine ⟨h, rfl, rfl, fun _ _ => Iff.rfl, fun e he _ => he, fun e he _ => ⟨he, rfl⟩,
    fun e he hnone => ?_⟩
  have hek : e.1 ∈ known := h.keys ▸ List.mem_map_of_mem he
  obtain ⟨c, hc, hcs⟩ := ReconcilePlan.exists_command_of_mem_known g hek
  exact absurd hcs (hnone c hc)

/-- A whole pass that reads the eligible robots, carried through from a settled engine. -/
theorem Settled.midway_sequentialPass (h : Settled w known)
    (hcap : Queue.refusal? w.settings.workerCapacity = none) (hf : w.failReads = false) :
    Midway (SymbolGroups.ofRobots (w.store.findActive w.wallClock)) known w
      (w.sequentialPass known).1 (w.sequentialPass known).2 [] := by
  set G := SymbolGroups.ofRobots (w.store.findActive w.wallClock)
  have hGn : (SymbolGroups.symbols G).Nodup :=
    (SymbolGroups.symbols_ofRobots_pairwise _).imp Symbol.ne_of_lt
  have hp : w.sequentialPass known = ((ReconcilePlan.ofGroups known G).commands.foldl passStep w,
      (ReconcilePlan.ofGroups known G).commands.foldl HubCommand.updateKnown known) := by
    simp [sequentialPass, hf, ReconcilePlan.ofRobots, G]
  rw [hp]
  exact (h.midway G).run hcap (fun c hc => ReconcilePlan.fits_of_mem_commands hGn hc)
    (ReconcilePlan.commands_symbols_nodup (h.sorted.imp Symbol.ne_of_lt) hGn)

/-- After a pass that reads the eligible robots, the reconciler knows the groups' symbols. -/
theorem Settled.known_sequentialPass (h : Settled w known) (hf : w.failReads = false) :
    (w.sequentialPass known).2 =
      SymbolGroups.symbols (SymbolGroups.ofRobots (w.store.findActive w.wallClock)) := by
  simp only [sequentialPass, hf, ReconcilePlan.ofRobots]
  exact ReconcilePlan.known_after_commands known _ h.sorted
    (SymbolGroups.symbols_ofRobots_pairwise _)

/-- When each registered worker has exactly the robots that `f` sends to its symbol, and `f`
    sends robots to registered symbols only, a robot that `f` sends anywhere is attached to
    exactly one registered worker, and a robot attached to one is sent somewhere. -/
theorem Settled.attached_unique (h : Settled w now) {f : Int → Option Symbol}
    (hf : ∀ i s, f i = some s → s ∈ now)
    (hids : ∀ e ∈ registry w, ∀ i, i ∈ clientIds w e.2 ↔ f i = some e.1) (i : Int) :
    (f i).isSome ↔ ∃! e, e ∈ registry w ∧ i ∈ clientIds w e.2 := by
  constructor
  · intro hi
    obtain ⟨s, hs⟩ := Option.isSome_iff_exists.1 hi
    obtain ⟨wid, hsw⟩ := h.exists_entry (hf i s hs)
    refine ⟨(s, wid), ⟨hsw, (hids _ hsw i).2 hs⟩, fun e ⟨he, hie⟩ => ?_⟩
    -- both entries carry the symbol `f` sends the robot to
    have hes : e.1 = s := Option.some_injective _ (((hids e he i).1 hie).symm.trans hs)
    exact h.eq_of_symbol he hsw hes
  · rintro ⟨e, ⟨he, hie⟩, -⟩
    rw [(hids e he i).1 hie]
    rfl

end Pass

/-- A freshly spawned hub has no workers: it is settled against no known symbols, as a new
    reconciler starts. -/
theorem settled_spawnHub (w : World) (capacity tok : Nat) :
    Settled (w.spawnHub capacity tok).1 [] where
  hub := rfl
  keys := rfl
  sorted := List.Pairwise.nil
  bounded := fun _ he => nomatch he
  distinct := List.nodup_nil
  ready := fun _ he => nomatch he

/-- **Reconciliation in a sequential schedule.** From an engine settled against the reconciler's
    known symbols, whose worker queues can be made, a pass leaves it settled against the new known
    symbols. When the read of the eligible robots succeeds, the registry holds exactly the symbols
    of their groups, each registered worker has exactly the robots whose first occurrence with a
    ticker has its symbol, and so every such robot is attached to exactly one worker and no other
    robot to any. A pass whose read fails changes nothing. -/
theorem sequentialPass_attaches_groups (w : World) (known : List Symbol) (h : Settled w known)
    (hcap : Queue.refusal? w.settings.workerCapacity = none) :
    let robots := w.store.findActive w.wallClock
    let w' := (w.sequentialPass known).1
    Settled w' (w.sequentialPass known).2 ∧
    (w.failReads = true → w.sequentialPass known = (w, known)) ∧
    (w.failReads = false →
      (registry w').map (·.1) = SymbolGroups.symbols (SymbolGroups.ofRobots robots) ∧
      (∀ e ∈ registry w', ∀ i, i ∈ clientIds w' e.2 ↔ Robot.firstTicker robots i = some e.1) ∧
      ∀ i, (Robot.firstTicker robots i).isSome ↔ ∃! e, e ∈ registry w' ∧ i ∈ clientIds w' e.2) := by
  dsimp only
  cases hf : w.failReads with
  | true =>
    have hp : w.sequentialPass known = (w, known) := by simp [sequentialPass, hf]
    rw [hp]
    exact ⟨h, fun _ => rfl, fun h' => nomatch h'⟩
  | false =>
    set robots := w.store.findActive w.wallClock
    -- the whole plan carried through, from a start where every registered symbol has a command
    have hM := h.midway_sequentialPass hcap hf
    have hK := h.known_sequentialPass hf
    have hids : ∀ e ∈ registry (w.sequentialPass known).1, ∀ i,
        i ∈ clientIds (w.sequentialPass known).1 e.2 ↔ Robot.firstTicker robots i = some e.1 := by
      intro e he i
      rw [clientIds_eq_map, (hM.served e he fun _ h => nomatch h).2, mem_attachClients_ids,
        ← SymbolGroups.mem_find?_ofRobots, List.mem_map]
    refine ⟨hM.settled, (fun h' => nomatch h'), fun _ => ⟨?_, hids, fun i => ?_⟩⟩
    · rw [hM.settled.keys, hK]
    · refine hM.settled.attached_unique (fun i s hs => ?_) hids i
      rw [hK]
      exact SymbolGroups.mem_symbols_of_firstTicker robots hs

/-- A first pass over a freshly spawned hub, with a store holding one eligible robot of AAPL: the
    pass registers AAPL, and the robot is attached to its worker and to no other. -/
theorem sequentialPass_attaches_groups_fresh :
    let r : Robot := { Robot.new 1 42 with
      isActive := true, ticker := some ⟨"AAPL"⟩, planStart := some ⟨0, 0⟩,
      planEnd := some ⟨100, 0⟩ }
    let w₀ := (World.new ⟨.oneLegPerTick, 4, true⟩ (Store.ofRobots [r]) (ScriptedFeed.new 4)
      (UpdateRing.new 4) ⟨10, 0⟩ 1000).spawnHub 8 0 |>.1
    let w₁ := (w₀.sequentialPass []).1
    Settled w₁ (w₀.sequentialPass []).2 ∧ (registry w₁).map (·.1) = [⟨"AAPL"⟩] ∧
      ∃! e, e ∈ registry w₁ ∧ (1 : Int) ∈ clientIds w₁ e.2 := by
  intro r w₀ w₁
  obtain ⟨hS, -, hread⟩ := sequentialPass_attaches_groups w₀ [] (settled_spawnHub _ 8 0) (by decide)
  obtain ⟨hkeys, -, hone⟩ := hread rfl
  refine ⟨hS, hkeys.trans (by decide), (hone 1).1 (by decide)⟩

/-- **A pass whose register cannot make a worker queue.** With a worker capacity above the queue
    bound, a first pass over a store holding one eligible robot of AAPL registers AAPL: the hub's
    task dies handling the register, and AAPL is left unregistered while the reconciler counts it
    as known. -/
theorem unbounded_queue_drops_group :
    let r : Robot := { Robot.new 1 42 with
      isActive := true, ticker := some ⟨"AAPL"⟩, planStart := some ⟨0, 0⟩,
      planEnd := some ⟨100, 0⟩ }
    let w₀ := (World.new ⟨.oneLegPerTick, 2 ^ 61, true⟩ (Store.ofRobots [r]) (ScriptedFeed.new 4)
      (UpdateRing.new 4) ⟨10, 0⟩ 1000).spawnHub 8 0 |>.1
    SymbolGroups.symbols (SymbolGroups.ofRobots (w₀.store.findActive w₀.wallClock)) = [⟨"AAPL"⟩] ∧
      (w₀.sequentialPass []).2 = [⟨"AAPL"⟩] ∧ registry (w₀.sequentialPass []).1 = [] ∧
      (w₀.sequentialPass []).1.isDone 1 = true := by
  decide

end World

end RobotTrading
