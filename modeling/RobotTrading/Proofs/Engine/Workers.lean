import RobotTrading.Engine.Hub
import RobotTrading.Proofs.Reconcile.Plan

/-!
# The workers and the hub's registry

What the hub's and the workers' helpers do to the registry and to the workers'
membership. A worker's membership is its symbol, its clients, its client lock
and its command queue; the run queue, the tasks, the tokens and the reply
slots that the helpers also change are left out.

The helpers that only wake tasks, spawn them, make or cancel tokens, or
answer, keep the hub, the settings and every worker. A change made through
one worker is described by `World.Touches`: the hub, the settings and every
other worker stay as they were. Bringing a client list in line with a robot
list attaches exactly the identifiers of the list, whatever was attached
before.

## Main definitions

- `World.registry` — the hub's registered symbols with their workers.
- `World.clientsOf`, `World.clientIds` — the clients of a worker and their robots.
- `World.Touches` — a change confined to one worker.

## Main statements

- `mem_attachClients_ids` — the identifiers attached by a robot list.
- `mem_attachClients` — an attached client keeps its machine or starts afresh.
- `attachClients_sorted` — attached clients stay ascending by robot.
- `World.applyCommand_spec` — a command applied under the lock.
- `World.handleRequest_register`, `World.handleRequest_unregister`,
  `World.handleRequest_broadcast` — the hub's commands.
- `Queue.recv_push` — an item sent to an idle queue is the next taken.
-/

namespace RobotTrading

namespace Robot

/-- The identifiers kept by `firstById` are those of the list. -/
theorem mem_firstById_ids (robots : List Robot) (i : Int) :
    i ∈ (firstById robots).map (·.robotId) ↔ ∃ r ∈ robots, r.robotId = i := by
  -- the fold keeps the identifiers taken beside the robots kept, newest first
  have key : ∀ acc : List Int × List Robot, acc.1 = acc.2.map (·.robotId) →
      let out := robots.foldl (fun (acc : List Int × List Robot) r =>
        if acc.1.contains r.robotId then acc else (r.robotId :: acc.1, r :: acc.2)) acc
      out.1 = out.2.map (·.robotId) ∧ (i ∈ out.1 ↔ i ∈ acc.1 ∨ ∃ r ∈ robots, r.robotId = i) := by
    induction robots with
    | nil => intro acc h; simpa using h
    | cons r robots ih =>
      intro acc h
      by_cases hc : acc.1.contains r.robotId
      · -- a repeated identifier: nothing changes, and the identifier was already taken
        have hr : r.robotId ∈ acc.1 := by simpa using hc
        obtain ⟨h₁, h₂⟩ := ih acc h
        simp only [List.foldl_cons, if_pos hc]
        refine ⟨h₁, ?_⟩
        rw [h₂]
        by_cases hi : r.robotId = i
        · subst hi; simp [hr]
        · simp [hi]
      · obtain ⟨h₁, h₂⟩ := ih (r.robotId :: acc.1, r :: acc.2) (by simp [h])
        simp only [List.foldl_cons, if_neg hc]
        refine ⟨h₁, ?_⟩
        rw [h₂]
        by_cases hi : r.robotId = i
        · subst hi; simp
        · simp [hi, Ne.symm hi]
  obtain ⟨h₁, h₂⟩ := key ([], []) rfl
  simp only [firstById, List.map_reverse, List.mem_reverse, ← h₁]
  simpa using h₂

end Robot

/-- Inserting a client adds its robot to the identifiers; one with the same robot is replaced. -/
theorem mem_insertClient_ids (c : Client) (cs : List Client) (i : Int) :
    i ∈ (insertClient c cs).map (·.robotId) ↔ i = c.robotId ∨ i ∈ cs.map (·.robotId) := by
  induction cs with
  | nil => simp [insertClient]
  | cons d cs ih =>
    unfold insertClient
    split_ifs with h₁ h₂
    · simp
    · -- the client replaces `d`, whose robot is the same
      simp [h₂]
    · simp only [List.map_cons, List.mem_cons, ih]
      tauto

theorem Client.robotId_replaceRobot (c : Client) (r : Robot) :
    (c.replaceRobot r).robotId = r.robotId := by
  unfold replaceRobot
  split_ifs <;> rfl

/-- A kept client given its fresh record, if the fresh list has one. -/
def refreshClient (retained : List Robot) (c : Client) : Client :=
  match retained.find? (·.robotId = c.robotId) with
  | some r => c.replaceRobot r
  | none => c

theorem attachClients_fst (policy : DealPolicy) (clients : List Client) (robots : List Robot) :
    (attachClients policy clients robots).1 =
      let d := MembershipDelta.partition (clients.map (·.robotId)) robots
      d.added.foldl (fun acc r => insertClient (Client.new r policy) acc)
        ((clients.filter fun c => !d.removed.contains c.robotId).map (refreshClient d.retained)) :=
  rfl

/-- Refreshing a kept client keeps its robot. -/
theorem robotId_refreshClient (retained : List Robot) (c : Client) :
    (refreshClient retained c).robotId = c.robotId := by
  unfold refreshClient
  split
  · rename_i r hr
    rw [Client.robotId_replaceRobot]
    simpa using List.find?_some hr
  · rfl

/-- **Attached identifiers.** Bringing any client list in line with a robot list leaves exactly
    the identifiers of the robot list. -/
theorem mem_attachClients_ids (policy : DealPolicy) (clients : List Client) (robots : List Robot)
    (i : Int) :
    i ∈ (attachClients policy clients robots).1.map (·.robotId) ↔ ∃ r ∈ robots, r.robotId = i := by
  -- the added robots are inserted one by one into the refreshed clients
  have hadd : ∀ (rs : List Robot) (acc : List Client),
      i ∈ (rs.foldl (fun acc r => insertClient (Client.new r policy) acc) acc).map (·.robotId) ↔
        i ∈ acc.map (·.robotId) ∨ ∃ r ∈ rs, r.robotId = i := by
    intro rs
    induction rs with
    | nil => simp
    | cons r rs ih =>
      intro acc
      rw [List.foldl_cons, ih, mem_insertClient_ids]
      by_cases hi : r.robotId = i
      · subst hi; simp [Client.new, Client.robotId]
      · simp [Client.new, Client.robotId, Ne.symm hi, hi]
  rw [attachClients_fst, hadd, (Robot.mem_firstById_ids robots i).symm]
  simp only [List.map_map, Function.comp_def, robotId_refreshClient]
  -- a held identifier stays exactly when it is still listed; a listed one not held is added
  have hkept : i ∈ (clients.filter fun c =>
      !(MembershipDelta.partition (clients.map (·.robotId)) robots).removed.contains
        c.robotId).map (·.robotId) ↔
      i ∈ clients.map (·.robotId) ∧ i ∈ (Robot.firstById robots).map (·.robotId) := by
    simp only [MembershipDelta.partition, List.mem_map, List.mem_filter, Bool.not_eq_eq_eq_not,
      Bool.not_true, ← Bool.not_eq_true, List.contains_iff_mem, Ascending.mem_ofList]
    constructor
    · rintro ⟨c, ⟨hc, hr⟩, rfl⟩
      refine ⟨⟨c, hc, rfl⟩, ?_⟩
      by_contra hl
      exact hr ⟨⟨c, hc, rfl⟩, hl⟩
    · rintro ⟨⟨c, hc, rfl⟩, hl⟩
      exact ⟨c, ⟨hc, fun h => h.2 hl⟩, rfl⟩
  have hadded : (∃ r ∈ (MembershipDelta.partition (clients.map (·.robotId)) robots).added,
      r.robotId = i) ↔
      i ∈ (Robot.firstById robots).map (·.robotId) ∧ i ∉ clients.map (·.robotId) := by
    simp only [MembershipDelta.partition, List.mem_map, List.mem_filter, Bool.not_eq_eq_eq_not,
      Bool.not_true, ← Bool.not_eq_true, List.contains_iff_mem]
    constructor
    · rintro ⟨r, ⟨hr, hn⟩, rfl⟩
      exact ⟨⟨r, hr, rfl⟩, hn⟩
    · rintro ⟨⟨r, hr, rfl⟩, hn⟩
      exact ⟨r, ⟨hr, hn⟩, rfl⟩
  rw [hkept, hadded]
  tauto

theorem mem_insertClient {c d : Client} {cs : List Client} (h : d ∈ insertClient c cs) :
    d = c ∨ d ∈ cs := by
  induction cs with
  | nil => simpa [insertClient] using h
  | cons e cs ih =>
    unfold insertClient at h
    split_ifs at h with h₁ h₂
    · simpa using h
    · rcases List.mem_cons.1 h with h | h
      · exact .inl h
      · exact .inr (List.mem_cons_of_mem _ h)
    · rcases List.mem_cons.1 h with h | h
      · exact .inr (h ▸ List.mem_cons_self)
      · rcases ih h with h | h
        · exact .inl h
        · exact .inr (List.mem_cons_of_mem _ h)

/-- Inserting a client keeps the robots strictly ascending. -/
theorem insertClient_sorted (c : Client) {cs : List Client}
    (h : (cs.map (·.robotId)).Pairwise (· < ·)) :
    ((insertClient c cs).map (·.robotId)).Pairwise (· < ·) := by
  induction cs with
  | nil => simp [insertClient]
  | cons d cs ih =>
    rw [List.map_cons, List.pairwise_cons] at h
    unfold insertClient
    split_ifs with h₁ h₂
    · -- before every client
      rw [List.map_cons, List.pairwise_cons]
      refine ⟨fun i hi => ?_, by rw [List.map_cons, List.pairwise_cons]; exact h⟩
      rcases List.mem_cons.1 hi with rfl | hi
      · exact h₁
      · exact lt_trans h₁ (h.1 i hi)
    · -- in place of the client of the same robot
      rw [List.map_cons, List.pairwise_cons]
      exact ⟨fun i hi => h₂ ▸ h.1 i hi, h.2⟩
    · -- further on
      have hdc : d.robotId < c.robotId := by omega
      rw [List.map_cons, List.pairwise_cons]
      refine ⟨fun i hi => ?_, ih h.2⟩
      rcases (mem_insertClient_ids c cs i).1 hi with rfl | hi
      · exact hdc
      · exact h.1 i hi

theorem foldl_insertClient_sorted (policy : DealPolicy) (rs : List Robot) {acc : List Client}
    (h : (acc.map (·.robotId)).Pairwise (· < ·)) :
    ((rs.foldl (fun acc r => insertClient (Client.new r policy) acc) acc).map (·.robotId)).Pairwise
      (· < ·) := by
  induction rs generalizing acc with
  | nil => exact h
  | cons r rs ih => exact ih (insertClient_sorted _ h)

/-- Bringing a client list in line with a robot list keeps the robots strictly ascending. -/
theorem attachClients_sorted (policy : DealPolicy) {clients : List Client} (robots : List Robot)
    (h : (clients.map (·.robotId)).Pairwise (· < ·)) :
    ((attachClients policy clients robots).1.map (·.robotId)).Pairwise (· < ·) := by
  rw [attachClients_fst]
  apply foldl_insertClient_sorted
  simp only [List.map_map, Function.comp_def, robotId_refreshClient]
  exact h.sublist (List.filter_sublist.map _)

theorem Client.machine_replaceRobot (c : Client) (r : Robot) :
    (c.replaceRobot r).machine = c.machine := by
  unfold replaceRobot
  split_ifs <;> rfl

theorem machine_refreshClient (retained : List Robot) (c : Client) :
    (refreshClient retained c).machine = c.machine := by
  unfold refreshClient
  split
  · exact Client.machine_replaceRobot _ _
  · rfl

/-- A client of a list into which fresh clients of some robots were inserted is a client of the
    list or a fresh client of one of those robots. -/
theorem mem_foldl_insertClient {policy : DealPolicy} {c' : Client} (added : List Robot)
    (acc : List Client)
    (h : c' ∈ added.foldl (fun acc r => insertClient (Client.new r policy) acc) acc) :
    c' ∈ acc ∨ ∃ r ∈ added, c' = Client.new r policy := by
  induction added generalizing acc with
  | nil => exact .inl h
  | cons r added ih =>
    rcases ih _ h with h | ⟨r', hr', rfl⟩
    · rcases mem_insertClient h with rfl | h
      · exact .inr ⟨r, List.mem_cons_self, rfl⟩
      · exact .inl h
    · exact .inr ⟨r', List.mem_cons_of_mem _ hr', rfl⟩

/-- **Attached machines.** A client left by bringing a client list in line with a robot list
    is a client of the list with its machine, or a new client of a robot the list did not hold,
    starting afresh. -/
theorem mem_attachClients {policy : DealPolicy} {clients : List Client} {robots : List Robot}
    {c' : Client} (h : c' ∈ (attachClients policy clients robots).1) :
    (∃ c ∈ clients, c.robotId = c'.robotId ∧ c'.machine = c.machine) ∨
      (c'.robotId ∉ clients.map (·.robotId) ∧ c'.machine = DealMachine.new policy) := by
  rw [attachClients_fst] at h
  -- the added robots are new to the list; the fold inserts a fresh client for each
  rcases mem_foldl_insertClient _ _ h with h | ⟨r, hr, rfl⟩
  · -- a kept client, refreshed
    obtain ⟨c, hc, rfl⟩ := List.mem_map.1 h
    exact .inl ⟨c, (List.mem_filter.1 hc).1, robotId_refreshClient _ _ |>.symm,
      machine_refreshClient _ _⟩
  · -- a new client
    refine .inr ⟨?_, rfl⟩
    simp only [MembershipDelta.partition, List.mem_filter] at hr
    simpa [Client.new, Client.robotId] using hr.2

namespace Queue

theorem push_items {α : Type} (q : Queue α) (x : α) : (q.push x).1.items = q.items ++ [x] := by
  unfold Queue.push Queue.wakeReceiver
  split <;> rfl

/-- An item sent into an empty queue that no sender waits on is the next the receiver takes,
    and taking it leaves the queue as it was, with no receiver waiting. -/
theorem recv_push {α : Type} {q : Queue α} (hi : q.items = []) (hw : q.waiting = [])
    (hf : 0 < q.free) (x : α) (t : TaskId) :
    (Queue.push { q with free := q.free - 1 } x).1.recv t =
      ({ q with receiverWaker := none }, .item x, []) := by
  obtain ⟨items, free, waiting, granted, waker, so, ro⟩ := q
  simp only at hi hw hf
  subst hi hw
  have hfree : free - 1 + 1 = free := by omega
  cases waker <;> simp [Queue.push, Queue.wakeReceiver, Queue.recv, Queue.release, hfree]

end Queue

namespace World

/-- What the engine leaves for the world outside it: the robot store and the update ring. -/
def effects (w : World) : Store × UpdateRing := (w.store, w.updates)

/-! ### What the helpers leave alone -/

section Frame

variable (w : World)

/-- Waking a task changes the run queue or the session's flag alone, so a view of the world
    that reads neither is kept. -/
theorem keeps_wake {α : Type} (f : World → α)
    (hf : ∀ (v : World) (rq : List TaskId) (sw : Bool),
      f { v with runQueue := rq, sessionWoken := sw } = f v) (t : TaskId) :
    f (w.wake t) = f w := by
  unfold wake
  split_ifs
  · exact hf w w.runQueue true
  · rfl
  · rfl
  · exact hf w (w.runQueue ++ [t]) w.sessionWoken

/-- A view kept by waking one task is kept by waking tasks in order. -/
theorem keeps_wakeAll {α : Type} (f : World → α)
    (hf : ∀ (v : World) (rq : List TaskId) (sw : Bool),
      f { v with runQueue := rq, sessionWoken := sw } = f v) (ts : List TaskId) :
    f (w.wakeAll ts) = f w := by
  induction ts generalizing w with
  | nil => rfl
  | cons t ts ih => exact (ih (w.wake t)).trans (keeps_wake w f hf t)

@[simp] theorem wake_hub (t : TaskId) : (w.wake t).hub = w.hub :=
  keeps_wake w hub (fun _ _ _ => rfl) t

@[simp] theorem wake_workers (t : TaskId) : (w.wake t).workers = w.workers :=
  keeps_wake w workers (fun _ _ _ => rfl) t

@[simp] theorem wake_settings (t : TaskId) : (w.wake t).settings = w.settings :=
  keeps_wake w settings (fun _ _ _ => rfl) t

@[simp] theorem wake_effects (t : TaskId) : (w.wake t).effects = w.effects :=
  keeps_wake w effects (fun _ _ _ => rfl) t

@[simp] theorem wakeAll_hub (ts : List TaskId) : (w.wakeAll ts).hub = w.hub :=
  keeps_wakeAll w hub (fun _ _ _ => rfl) ts

@[simp] theorem wakeAll_workers (ts : List TaskId) : (w.wakeAll ts).workers = w.workers :=
  keeps_wakeAll w workers (fun _ _ _ => rfl) ts

@[simp] theorem wakeAll_settings (ts : List TaskId) : (w.wakeAll ts).settings = w.settings :=
  keeps_wakeAll w settings (fun _ _ _ => rfl) ts

@[simp] theorem wakeAll_effects (ts : List TaskId) : (w.wakeAll ts).effects = w.effects :=
  keeps_wakeAll w effects (fun _ _ _ => rfl) ts

@[simp] theorem tasks_wake (t : TaskId) : (w.wake t).tasks = w.tasks :=
  keeps_wake w tasks (fun _ _ _ => rfl) t

@[simp] theorem tasks_wakeAll (ts : List TaskId) : (w.wakeAll ts).tasks = w.tasks :=
  keeps_wakeAll w tasks (fun _ _ _ => rfl) ts

@[simp] theorem tokens_wakeAll (ts : List TaskId) : (w.wakeAll ts).tokens = w.tokens :=
  keeps_wakeAll w tokens (fun _ _ _ => rfl) ts

@[simp] theorem cancel_hub (i : Nat) : (w.cancel i).hub = w.hub := by simp [cancel]

@[simp] theorem cancel_workers (i : Nat) : (w.cancel i).workers = w.workers := by simp [cancel]

@[simp] theorem cancel_settings (i : Nat) : (w.cancel i).settings = w.settings := by simp [cancel]

@[simp] theorem cancel_effects (i : Nat) : (w.cancel i).effects = w.effects := by
  simp only [cancel, wakeAll_effects]
  rfl

@[simp] theorem answer_hub (r : Nat) (v : ReplyValue) : (w.answer r v).hub = w.hub := by
  unfold answer; split <;> simp

@[simp] theorem answer_workers (r : Nat) (v : ReplyValue) : (w.answer r v).workers = w.workers := by
  unfold answer; split <;> simp

@[simp] theorem answer_settings (r : Nat) (v : ReplyValue) :
    (w.answer r v).settings = w.settings := by
  unfold answer; split <;> simp

@[simp] theorem answer_effects (r : Nat) (v : ReplyValue) : (w.answer r v).effects = w.effects := by
  unfold answer
  split
  · simp only [wakeAll_effects]
    rfl
  · rfl

@[simp] theorem spawn_hub (j : Job) : (w.spawn j).1.hub = w.hub := rfl

@[simp] theorem spawn_workers (j : Job) : (w.spawn j).1.workers = w.workers := rfl

@[simp] theorem spawn_settings (j : Job) : (w.spawn j).1.settings = w.settings := rfl

@[simp] theorem spawn_effects (j : Job) : (w.spawn j).1.effects = w.effects := rfl

@[simp] theorem newToken_hub (p : Option Nat) : (w.newToken p).1.hub = w.hub := rfl

@[simp] theorem newToken_workers (p : Option Nat) : (w.newToken p).1.workers = w.workers := rfl

@[simp] theorem newToken_settings (p : Option Nat) : (w.newToken p).1.settings = w.settings := rfl

@[simp] theorem newToken_effects (p : Option Nat) : (w.newToken p).1.effects = w.effects := rfl

@[simp] theorem modifyWorker_hub (wid : Nat) (f : Worker → Worker) :
    (w.modifyWorker wid f).hub = w.hub := rfl

@[simp] theorem modifyWorker_settings (wid : Nat) (f : Worker → Worker) :
    (w.modifyWorker wid f).settings = w.settings := rfl

@[simp] theorem modifyWorker_workers (wid : Nat) (f : Worker → Worker) :
    (w.modifyWorker wid f).workers = w.workers.modify wid f := rfl

@[simp] theorem modifyWorker_effects (wid : Nat) (f : Worker → Worker) :
    (w.modifyWorker wid f).effects = w.effects := rfl

@[simp] theorem modifyHub_hub (f : Hub → Hub) : (w.modifyHub f).hub = w.hub.map f := rfl

@[simp] theorem modifyHub_workers (f : Hub → Hub) : (w.modifyHub f).workers = w.workers := rfl

@[simp] theorem modifyHub_settings (f : Hub → Hub) : (w.modifyHub f).settings = w.settings := rfl

@[simp] theorem modifyHub_effects (f : Hub → Hub) : (w.modifyHub f).effects = w.effects := rfl

theorem worker?_modifyWorker (wid : Nat) (f : Worker → Worker) (j : Nat) :
    (w.modifyWorker wid f).worker? j = if wid = j then (w.worker? j).map f else w.worker? j :=
  Array.getElem?_modify

end Frame

/-! ### The registry and the workers -/

/-- The hub's registry: each registered symbol with its worker, ascending by symbol. -/
def registry (w : World) : List (Symbol × Nat) := (w.hub.map (·.workers)).getD []

/-- The clients of worker `wid`. -/
def clientsOf (w : World) (wid : Nat) : List Client := ((w.worker? wid).map (·.clients)).getD []

/-- The robots attached to worker `wid`. -/
def clientIds (w : World) (wid : Nat) : List Int :=
  ((w.worker? wid).map fun k => k.clients.map (·.robotId)).getD []

theorem clientIds_eq_map (w : World) (wid : Nat) :
    clientIds w wid = (clientsOf w wid).map (·.robotId) := by
  unfold clientIds clientsOf
  cases w.worker? wid <;> rfl

/-- `w'` differs from `w` at most in worker `wid` and in state that neither the registry, nor a
    worker, nor the world outside the engine holds. -/
structure Touches (w w' : World) (wid : Nat) : Prop where
  hub : w'.hub = w.hub
  settings : w'.settings = w.settings
  effects : w'.effects = w.effects
  size : w'.workers.size = w.workers.size
  others : ∀ j, j ≠ wid → w'.worker? j = w.worker? j

section Touches

variable {w w' w'' : World} {wid : Nat}

theorem Touches.refl (w : World) (wid : Nat) : Touches w w wid :=
  ⟨rfl, rfl, rfl, rfl, fun _ _ => rfl⟩

theorem Touches.trans (h₁ : Touches w w' wid) (h₂ : Touches w' w'' wid) : Touches w w'' wid :=
  ⟨h₂.hub.trans h₁.hub, h₂.settings.trans h₁.settings, h₂.effects.trans h₁.effects,
    h₂.size.trans h₁.size, fun j hj => (h₂.others j hj).trans (h₁.others j hj)⟩

theorem Touches.registry_eq (h : Touches w w' wid) : registry w' = registry w := by
  simp [registry, h.hub]

/-- A change that keeps the hub, the settings, the workers and the effects touches no worker. -/
theorem touches_of_eq (hh : w'.hub = w.hub) (hs : w'.settings = w.settings)
    (he : w'.effects = w.effects) (hw : w'.workers = w.workers) (wid : Nat) : Touches w w' wid :=
  ⟨hh, hs, he, by rw [hw], fun j _ => by simp [worker?, hw]⟩

theorem touches_modifyWorker (w : World) (wid : Nat) (f : Worker → Worker) :
    Touches w (w.modifyWorker wid f) wid :=
  ⟨rfl, rfl, rfl, Array.size_modify .., fun j hj => by
    rw [worker?_modifyWorker, if_neg (Ne.symm hj)]⟩

theorem touches_wakeAll (w : World) (ts : List TaskId) (wid : Nat) : Touches w (w.wakeAll ts) wid :=
  touches_of_eq (by simp) (by simp) (by simp) (by simp) wid

@[simp] theorem worker?_unwatch (w : World) (i : Nat) (t : TaskId) (j : Nat) :
    (w.unwatch i t).worker? j = w.worker? j := rfl

theorem touches_unwatch (w : World) (i : Nat) (t : TaskId) (wid : Nat) :
    Touches w (w.unwatch i t) wid :=
  ⟨rfl, rfl, rfl, rfl, fun _ _ => rfl⟩

end Touches

section Specs

variable {w : World} {wid : Nat} {k : Worker}

/-- A free client lock goes at once to the task that asks for it. -/
theorem lockClients_of_free (hk : w.worker? wid = some k) (hl : k.lock = Lock.free) (t : TaskId) :
    w.lockClients wid t = (w.modifyWorker wid fun k => { k with lock := ⟨some t, []⟩ }, true) := by
  simp [lockClients, hk, Lock.acquire, hl, Lock.free]

/-- A lock that nobody waits for is free once released. -/
theorem unlockClients_of_held {t : TaskId} (hk : w.worker? wid = some k)
    (hl : k.lock = ⟨some t, []⟩) :
    w.unlockClients wid = w.modifyWorker wid fun k => { k with lock := Lock.free } := by
  simp [unlockClients, hk, Lock.release, hl, Lock.free, wakeAll]

/-- Opening a reader marks the worker streaming and names the reader, and touches nothing else. -/
theorem startReader_spec (w : World) (wid : Nat) :
    Touches w (w.startReader wid) wid ∧ ∀ k, w.worker? wid = some k →
      (w.startReader wid).worker? wid = some { k with streaming := true, reader := some w.tasks.size } := by
  unfold startReader
  cases hk : w.worker? wid with
  | none => exact ⟨Touches.refl w wid, fun _ h => nomatch h⟩
  | some k =>
    simp only [worker?] at hk ⊢
    refine ⟨⟨by simp, by simp, by simp, by simp, fun j hj => ?_⟩, ?_⟩
    · simp [worker?, Array.getElem?_modify, Ne.symm hj]
    · rintro k' ⟨⟩
      simp [newToken, spawn, modifyWorker, Array.getElem?_modify, hk]

/-- **Applying a command** under a lock its task holds alone: the worker takes the clients of
    the command's robot list and lets the lock go; its symbol and its queue stay. -/
theorem applyCommand_spec {t : TaskId} (hk : w.worker? wid = some k) (hl : k.lock = ⟨some t, []⟩)
    (c : WorkerCommand) :
    Touches w (w.applyCommand wid c) wid ∧ ∃ k', (w.applyCommand wid c).worker? wid = some k' ∧
      k'.symbol = k.symbol ∧ k'.clients = (attachClients w.settings.policy k.clients c.robots).1 ∧
      k'.lock = Lock.free ∧ k'.commands = k.commands := by
  unfold applyCommand
  simp only [hk]
  set cs := (attachClients w.settings.policy k.clients c.robots).1
  have hk₁ : (w.modifyWorker wid fun k => { k with clients := cs }).worker? wid =
      some { k with clients := cs } := by
    simp [worker?_modifyWorker, hk]
  rw [unlockClients_of_held hk₁ hl]
  set w₁ := (w.modifyWorker wid fun k => { k with clients := cs }).modifyWorker wid
    fun k => { k with lock := Lock.free }
  have hT₁ : Touches w w₁ wid := (touches_modifyWorker _ _ _).trans (touches_modifyWorker _ _ _)
  have hk₂ : w₁.worker? wid = some { k with clients := cs, lock := Lock.free } := by
    simp [w₁, worker?_modifyWorker, hk]
  -- the reader may be reopened; either way the clients, the lock and the queue stay
  obtain ⟨w₂, hw₂, hT₂, k₂, hk₂', hs, hc, hl', hq⟩ : ∃ w₂, (if w₁.settings.resubscribe &&
      ((w₁.worker? wid).map fun k => !k.streaming).getD false then w₁.startReader wid else w₁) = w₂ ∧
      Touches w w₂ wid ∧ ∃ k₂, w₂.worker? wid = some k₂ ∧ k₂.symbol = k.symbol ∧ k₂.clients = cs ∧
        k₂.lock = Lock.free ∧ k₂.commands = k.commands := by
    split
    · obtain ⟨hT, hR⟩ := startReader_spec w₁ wid
      exact ⟨_, rfl, hT₁.trans hT, _, hR _ hk₂, rfl, rfl, rfl, rfl⟩
    · exact ⟨_, rfl, hT₁, _, hk₂, rfl, rfl, rfl, rfl⟩
  rw [hw₂]
  -- answering the change touches no worker
  cases c.ack with
  | none => exact ⟨hT₂, k₂, hk₂', hs, hc, hl', hq⟩
  | some r =>
    refine ⟨hT₂.trans (touches_of_eq (by simp) (by simp) (by simp) (by simp) wid), k₂, ?_, hs, hc,
      hl', hq⟩
    simpa [worker?] using hk₂'

end Specs

/-! ### The hub's registry -/

theorem insertEntry_perm (e : Symbol × Nat) (l : List (Symbol × Nat)) :
    (insertEntry e l).Perm (e :: l) := by
  induction l with
  | nil => rfl
  | cons f l ih =>
    unfold insertEntry
    split
    · rfl
    · exact (ih.cons f).trans (List.Perm.swap e f l)

/-- A symbol not registered yet goes where `Ascending.insert` puts it among the symbols. -/
theorem keys_insertEntry (e : Symbol × Nat) {l : List (Symbol × Nat)} (h : e.1 ∉ l.map (·.1)) :
    (insertEntry e l).map (·.1) = Ascending.insert e.1 (l.map (·.1)) := by
  induction l with
  | nil => rfl
  | cons f l ih =>
    simp only [List.map_cons, List.mem_cons, not_or] at h
    unfold insertEntry
    by_cases h₁ : e.1 < f.1
    · simp [h₁, Ascending.insert]
    · have h₂ : f.1 < e.1 := by
        by_contra h₂
        exact h.1 (Std.Trichotomous.trichotomous _ _ h₁ h₂)
      simp [h₁, h₂, Ascending.insert, ih h.2]

theorem registry_forget (w : World) (s : Symbol) :
    registry (w.forget s) = (registry w).filter (·.1 != s) := by
  unfold forget registry
  cases h : w.hub <;> simp [h]

section Hub

variable {w : World} {h : Hub}

@[simp] theorem spawnWorker_hub (w : World) (s : Symbol) (rs : List Robot) (p : Nat) :
    (w.spawnWorker s rs p).1.hub = w.hub := rfl

@[simp] theorem spawnWorker_settings (w : World) (s : Symbol) (rs : List Robot) (p : Nat) :
    (w.spawnWorker s rs p).1.settings = w.settings := rfl

@[simp] theorem spawnWorker_effects (w : World) (s : Symbol) (rs : List Robot) (p : Nat) :
    (w.spawnWorker s rs p).1.effects = w.effects := rfl

/-- A new worker is named by the number of workers so far. -/
theorem spawnWorker_snd (w : World) (s : Symbol) (rs : List Robot) (p : Nat) :
    (w.spawnWorker s rs p).2 = w.workers.size := rfl

/-- A new worker trades its symbol with the clients of its robots, a free lock and an empty
    queue. -/
theorem spawnWorker_workers (w : World) (s : Symbol) (rs : List Robot) (p : Nat) :
    (w.spawnWorker s rs p).1.workers = w.workers.push
      ⟨s, (attachClients w.settings.policy [] rs).1, Lock.free, true, w.tokens.nodes.size,
        Queue.new w.settings.workerCapacity, none, w.tasks.size⟩ := rfl

@[simp] theorem cancelWorker_hub (w : World) (wid : Nat) : (w.cancelWorker wid).hub = w.hub := by
  unfold cancelWorker; split <;> simp

@[simp] theorem cancelWorker_workers (w : World) (wid : Nat) :
    (w.cancelWorker wid).workers = w.workers := by
  unfold cancelWorker; split <;> simp

@[simp] theorem cancelWorker_settings (w : World) (wid : Nat) :
    (w.cancelWorker wid).settings = w.settings := by
  unfold cancelWorker; split <;> simp

@[simp] theorem cancelWorker_effects (w : World) (wid : Nat) :
    (w.cancelWorker wid).effects = w.effects := by
  unfold cancelWorker; split <;> simp

/-- A register for a symbol without a worker starts one under the hub's token and registers
    it. -/
theorem handleRequest_register (hh : w.hub = some h) {s : Symbol} (hs : s ∉ (registry w).map (·.1))
    (rs : List Robot) :
    w.handleRequest (.command (.register s rs)) =
      (w.spawnWorker s rs h.token).1.modifyHub
        fun h => { h with workers := insertEntry (s, w.workers.size) h.workers } := by
  simp only [registry, hh, Option.map_some, Option.getD_some, List.mem_map] at hs
  have hany : (h.workers.any fun e => e.1 = s) = false := by
    simpa using fun e he => fun hes => hs ⟨e, he, hes⟩
  simp [handleRequest, hh, hany, spawnWorker_snd]

/-- An unregister for a registered symbol forgets it and cancels its worker. -/
theorem handleRequest_unregister (hh : w.hub = some h) {s : Symbol} {wid : Nat}
    (hl : (registry w).lookup s = some wid) :
    w.handleRequest (.command (.unregister s)) = (w.forget s).cancelWorker wid := by
  simp only [registry, hh, Option.map_some, Option.getD_some] at hl
  simp [handleRequest, hh, hl]

/-- A broadcast for a registered symbol is the command sent to its worker. -/
theorem handleRequest_broadcast (hh : w.hub = some h) {s : Symbol} {wid : Nat}
    (hl : (registry w).lookup s = some wid) {rs : List Robot} {w' : World}
    (ht : w.tryCommand wid ⟨rs, none⟩ = .ok w') :
    w.handleRequest (.command (.broadcast s rs)) = w' := by
  simp only [registry, hh, Option.map_some, Option.getD_some] at hl
  simp [handleRequest, hh, hl, ht]

end Hub

/-- A command sent to an open queue with a free slot goes in at once. -/
theorem tryCommand_of_open {w : World} {k : Worker} {wid : Nat} (hk : w.worker? wid = some k)
    (ho : k.commands.receiverOpen = true) (hf : 0 < k.commands.free) (c : WorkerCommand) :
    w.tryCommand wid c =
      .ok ((w.modifyWorker wid fun k' =>
        { k' with commands := (Queue.push { k.commands with free := k.commands.free - 1 } c).1 }).wakeAll
          (Queue.push { k.commands with free := k.commands.free - 1 } c).2) := by
  simp [tryCommand, hk, Queue.trySend, ho, Nat.pos_iff_ne_zero.mp hf]

end World

end RobotTrading
