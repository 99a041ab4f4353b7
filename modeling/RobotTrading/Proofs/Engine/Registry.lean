import RobotTrading.Proofs.Engine.Sequential
import RobotTrading.Proofs.Engine.Readers

/-!
# The hub as a finite map

Between two commands of a sequential schedule the hub stands for a finite map from symbols to
the clients of their worker (`World.roster`). Each command acts on that map as a plain map
operation (`HubCommand.onRoster`): a register adds a fresh worker for a new symbol and leaves a
registered one as it is, an unregister removes its symbol, and a broadcast brings the clients of
a registered symbol in line with its robots, as a worker applies a robot list; a command for a
symbol in the wrong state changes nothing. The symbols query answers the map's symbols in
ascending order, the robot query the ascending robot ids of a symbol's clients, or none.

When its loop ends the hub hands the workers of its registry to its stopping phase, and moves
past each only once it has ended, with no client and no open stream left.

A worker queue that cannot be made, a capacity above the queue bound, kills the hub at the first
register instead.

## Main definitions

* `World.roster` : the map the hub stands for.
* `HubCommand.onRoster` : what a command does to it.

## Main statements

* `World.Carried.roster` : a command carried through acts on the map.
* `World.Settled.foldl_passStep` : so does every sequence of commands.
* `World.hub_refines_roster` : the hub refines the map, answers its queries from it, and stops
  its workers when its loop ends.
* `World.unbounded_queue_kills_hub` : a register with a worker capacity above the queue bound.
-/

namespace RobotTrading

namespace Ascending

variable {α : Type} [LT α] [DecidableRel (α := α) (· < ·)] [IsStrictTotalOrder α (· < ·)]

/-- Inserting an element already there leaves a strictly ascending list as it is. -/
theorem insert_of_mem {x : α} {l : List α} (h : l.Pairwise (· < ·)) (hx : x ∈ l) :
    insert x l = l := by
  induction l with
  | nil => cases hx
  | cons y l ih =>
    rw [List.pairwise_cons] at h
    unfold insert
    rcases List.mem_cons.1 hx with rfl | hx
    · simp [irrefl x]
    · have hyx : y < x := h.1 x hx
      rw [if_neg (asymm hyx), if_pos hyx, ih h.2 hx]

end Ascending

theorem lookup_eq_none {α β : Type} [BEq α] [LawfulBEq α] {l : List (α × β)} {a : α}
    (h : a ∉ l.map (·.1)) : l.lookup a = none := by
  induction l with
  | nil => rfl
  | cons e l ih =>
    simp only [List.map_cons, List.mem_cons, not_or] at h
    have he : (a == e.1) = false := by simpa using h.1
    rw [List.lookup_cons, he]
    exact ih h.2

namespace HubCommand

/-- What a command does to the registry, taken as a map from symbols to their worker's clients;
    new clients follow `policy`. -/
def onRoster (policy : DealPolicy) (m : Symbol → Option (List Client)) :
    HubCommand → Symbol → Option (List Client)
  | register s rs =>
    if (m s).isSome then m else Function.update m s (some (attachClients policy [] rs).1)
  | unregister s => Function.update m s none
  | broadcast s rs =>
    match m s with
    | some cs => Function.update m s (some (attachClients policy cs rs).1)
    | none => m

variable {policy : DealPolicy} {m : Symbol → Option (List Client)} {known : List Symbol}

/-- A command leaves the other symbols as they are. -/
theorem onRoster_of_ne {c : HubCommand} {s : Symbol} (hs : s ≠ c.symbol) :
    c.onRoster policy m s = m s := by
  cases c with
  | register s' rs =>
    have hs' : s ≠ s' := hs
    by_cases h : (m s').isSome <;> simp [onRoster, h, Function.update_of_ne hs']
  | unregister s' => exact Function.update_of_ne hs _ _
  | broadcast s' rs =>
    have hs' : s ≠ s' := hs
    cases hm : m s' <;> simp [onRoster, hm, Function.update_of_ne hs']

/-- A command for a symbol in the wrong state changes nothing. -/
theorem onRoster_of_not_applies {c : HubCommand} (hc : ¬ c.Applies known)
    (hm : ∀ s, (m s).isSome ↔ s ∈ known) : c.onRoster policy m = m := by
  cases c with
  | register s rs =>
    have hs : (m s).isSome := (hm s).2 (not_not.1 hc)
    simp [onRoster, hs]
  | unregister s =>
    have hs : m s = none := Option.not_isSome_iff_eq_none.1 fun h => hc ((hm s).1 h)
    simp only [onRoster, ← hs, Function.update_eq_self]
  | broadcast s rs =>
    have hs : m s = none := Option.not_isSome_iff_eq_none.1 fun h => hc ((hm s).1 h)
    simp [onRoster, hs]

/-- The known symbols after a command for a symbol in the wrong state are as they were. -/
theorem updateKnown_of_not_applies {c : HubCommand} (hc : ¬ c.Applies known)
    (hk : known.Pairwise (· < ·)) : c.updateKnown known = known := by
  cases c with
  | register s rs => exact Ascending.insert_of_mem hk (not_not.1 hc)
  | unregister s =>
    refine List.filter_eq_self.2 fun s' hs' => ?_
    have hne : s' ≠ s := fun h => hc (h ▸ hs')
    simpa using hne
  | broadcast s rs => rfl

end HubCommand

namespace World

/-- The registry the hub stands for: the clients of each registered symbol's worker. -/
def roster (w : World) (s : Symbol) : Option (List Client) :=
  ((registry w).lookup s).map (clientsOf w)

variable {w w' : World} {known : List Symbol}

theorem Settled.roster_of_mem (h : Settled w known) {e : Symbol × Nat} (he : e ∈ registry w) :
    w.roster e.1 = some (clientsOf w e.2) := by
  simp [roster, h.lookup_eq he]

theorem Settled.roster_eq_none (h : Settled w known) {s : Symbol} (hs : s ∉ known) :
    w.roster s = none := by
  rw [← h.keys] at hs
  simp [roster, lookup_eq_none hs]

/-- A settled engine's map has exactly the known symbols. -/
theorem Settled.isSome_roster (h : Settled w known) (s : Symbol) :
    (w.roster s).isSome ↔ s ∈ known := by
  constructor
  · intro hs
    by_contra hn
    simp [h.roster_eq_none hn] at hs
  · intro hs
    obtain ⟨wid, he⟩ := h.exists_entry hs
    simp [h.roster_of_mem he]

/-- A command for a symbol in the wrong state is ignored by the hub, and no worker has anything
    queued. -/
theorem Settled.passStep_of_not_applies (h : Settled w known)
    (hcap : Queue.refusal? w.settings.workerCapacity = none) {c : HubCommand}
    (hc : ¬ c.Applies known) : w.passStep c = w := by
  obtain ⟨hb, hhub⟩ := Option.isSome_iff_exists.1 h.hub
  have hreg : registry w = hb.workers := by simp [registry, hhub]
  cases c with
  | register s rs =>
    obtain ⟨wid, he⟩ := h.exists_entry (not_not.1 hc)
    obtain ⟨k, hk, hr⟩ := h.ready _ he
    have hany : (hb.workers.any fun e => e.1 = s) = true :=
      List.any_eq_true.2 ⟨(s, wid), hreg ▸ he, by simp⟩
    have hh : w.hubHandles (.register s rs) = w := by
      rw [h.hubHandles_eq hcap]
      simp [handleRequest, hhub, hany]
    have hl : (registry w).lookup s = some wid := h.lookup_eq he
    simp only [passStep, hh, HubCommand.symbol, hl]
    exact drainWorker_of_empty hk hr.empty
  | unregister s =>
    have hl : (registry w).lookup s = none := lookup_eq_none (h.keys ▸ hc)
    have hh : w.hubHandles (.unregister s) = w := by
      rw [h.hubHandles_eq hcap]
      rw [hreg] at hl
      simp [handleRequest, hhub, hl]
    simp [passStep, hh, HubCommand.symbol, hl]
  | broadcast s rs =>
    have hl : (registry w).lookup s = none := lookup_eq_none (h.keys ▸ hc)
    have hh : w.hubHandles (.broadcast s rs) = w := by
      rw [h.hubHandles_eq hcap]
      rw [hreg] at hl
      simp [handleRequest, hhub, hl]
    simp [passStep, hh, HubCommand.symbol, hl]

section Carried

variable {c : HubCommand}

/-- Carrying a command through leaves the other symbols' clients as they were. -/
theorem Carried.roster_of_ne (hC : Carried w w' known c) (h : Settled w known) {s : Symbol}
    (hs : s ≠ c.symbol) : w'.roster s = w.roster s := by
  by_cases hk : s ∈ known
  · obtain ⟨wid, he⟩ := h.exists_entry hk
    have he' := hC.kept _ he hs
    rw [hC.settled.roster_of_mem he', h.roster_of_mem he,
      clientsOf_congr (hC.others _ he' hs).2]
  · rw [h.roster_eq_none hk]
    -- a symbol the command does not name is registered after it only if it was before
    refine hC.settled.roster_eq_none fun hk' => hk ?_
    obtain ⟨wid, he'⟩ := hC.settled.exists_entry hk'
    rw [← h.keys]
    exact List.mem_map_of_mem (f := (·.1)) (hC.others _ he' hs).1

/-- Carrying a command through acts on its own symbol as the map operation does. -/
theorem Carried.roster_self (hC : Carried w w' known c) (h : Settled w known)
    (hc : c.Applies known) :
    w'.roster c.symbol = c.onRoster w.settings.policy w.roster c.symbol := by
  cases c with
  | register s rs =>
    show w'.roster s = HubCommand.onRoster _ _ _ s
    -- a new symbol: its worker is fresh, with the clients of its robots
    have hnone := h.roster_eq_none hc
    obtain ⟨wid, he'⟩ := hC.settled.exists_entry (Ascending.mem_insert.2 (.inl rfl))
    obtain ⟨-, rs', hrs, hcl⟩ := hC.target _ he' rfl
    cases hrs
    have hnew : (s, wid) ∉ registry w := fun he =>
      hc (h.keys ▸ List.mem_map_of_mem (f := (·.1)) he)
    rw [hC.settled.roster_of_mem he', hcl, if_neg hnew]
    simp [HubCommand.onRoster, hnone]
  | unregister s =>
    show w'.roster s = HubCommand.onRoster _ _ _ s
    have hgone : s ∉ (HubCommand.unregister s).updateKnown known := by
      simp [HubCommand.updateKnown]
    rw [hC.settled.roster_eq_none hgone]
    simp [HubCommand.onRoster]
  | broadcast s rs =>
    show w'.roster s = HubCommand.onRoster _ _ _ s
    -- a registered symbol keeps its worker, whose clients take in the robots
    obtain ⟨wid, he⟩ := h.exists_entry hc
    obtain ⟨wid', he'⟩ := hC.settled.exists_entry (show s ∈ known from hc)
    obtain ⟨hold, rs', hrs, hcl⟩ := hC.target _ he' rfl
    cases hrs
    have hmem : (s, wid') ∈ registry w := by
      rcases hold with hold | hfresh
      · exact hold
      · exact absurd rfl (hfresh (s, wid) he)
    have hw : wid = wid' := congrArg Prod.snd (h.eq_of_symbol he hmem rfl)
    subst hw
    rw [hC.settled.roster_of_mem he', hcl, if_pos hmem]
    simp [HubCommand.onRoster, h.roster_of_mem he]

/-- **A command carried through acts on the map** as the map operation does. -/
theorem Carried.roster (hC : Carried w w' known c) (h : Settled w known) (hc : c.Applies known) :
    w'.roster = c.onRoster w.settings.policy w.roster := by
  funext s
  by_cases hs : s = c.symbol
  · subst hs
    exact hC.roster_self h hc
  · rw [hC.roster_of_ne h hs, HubCommand.onRoster_of_ne hs]

end Carried

/-- One command of a sequential schedule: the engine stays settled, with its settings, and the
    map follows the command. -/
theorem Settled.passStep_roster (h : Settled w known)
    (hcap : Queue.refusal? w.settings.workerCapacity = none) (c : HubCommand) :
    Settled (w.passStep c) (c.updateKnown known) ∧ (w.passStep c).settings = w.settings ∧
      (w.passStep c).roster = c.onRoster w.settings.policy w.roster := by
  by_cases hc : c.Applies known
  · have hC := h.carry hcap hc
    exact ⟨hC.settled, hC.settings, hC.roster h hc⟩
  · rw [h.passStep_of_not_applies hcap hc, HubCommand.updateKnown_of_not_applies hc h.sorted,
      HubCommand.onRoster_of_not_applies hc h.isSome_roster]
    exact ⟨h, rfl, rfl⟩

/-- **Every sequence of commands acts on the map** as the map operations do, one after another. -/
theorem Settled.foldl_passStep (h : Settled w known)
    (hcap : Queue.refusal? w.settings.workerCapacity = none) (cmds : List HubCommand) :
    Settled (cmds.foldl passStep w) (cmds.foldl HubCommand.updateKnown known) ∧
      (cmds.foldl passStep w).settings = w.settings ∧
      (cmds.foldl passStep w).roster =
        cmds.foldl (HubCommand.onRoster w.settings.policy) w.roster := by
  induction cmds generalizing w known with
  | nil => exact ⟨h, rfl, rfl⟩
  | cons c cmds ih =>
    obtain ⟨h₁, hs₁, hr₁⟩ := h.passStep_roster hcap c
    obtain ⟨h₂, hs₂, hr₂⟩ := ih h₁ (hs₁ ▸ hcap)
    refine ⟨h₂, hs₂.trans hs₁, ?_⟩
    rw [List.foldl_cons, List.foldl_cons, hr₂, hs₁, hr₁]

/-- A new worker's clients: one for each robot id the list holds, ascending, each with a new
    deal machine (buying). -/
theorem fresh_clients (policy : DealPolicy) (rs : List Robot) :
    ((attachClients policy [] rs).1.map (·.robotId)).Pairwise (· < ·) ∧
      (∀ i, i ∈ (attachClients policy [] rs).1.map (·.robotId) ↔ ∃ r ∈ rs, r.robotId = i) ∧
      ∀ c ∈ (attachClients policy [] rs).1, c.machine = DealMachine.new policy := by
  refine ⟨attachClients_sorted policy rs List.Pairwise.nil, mem_attachClients_ids policy [] rs,
    fun c hc => ?_⟩
  rcases mem_attachClients hc with ⟨c', hc', -⟩ | ⟨-, hm⟩
  · cases hc'
  · exact hm

/-- The map's clients stay listed by ascending robot id. -/
theorem onRoster_sorted {policy : DealPolicy} {m : Symbol → Option (List Client)}
    (hm : ∀ s cs, m s = some cs → (cs.map (·.robotId)).Pairwise (· < ·)) (c : HubCommand) :
    ∀ s cs, c.onRoster policy m s = some cs → (cs.map (·.robotId)).Pairwise (· < ·) := by
  intro s cs hs
  by_cases hsc : s = c.symbol
  · subst hsc
    cases c with
    | register s rs =>
      by_cases hms : (m s).isSome
      · simp only [HubCommand.onRoster, HubCommand.symbol, hms, ↓reduceIte] at hs
        exact hm _ _ hs
      · simp only [HubCommand.onRoster, HubCommand.symbol, hms, Bool.false_eq_true, ↓reduceIte,
          Function.update_self, Option.some.injEq] at hs
        subst hs
        exact attachClients_sorted _ rs List.Pairwise.nil
    | unregister s => simp [HubCommand.onRoster, HubCommand.symbol] at hs
    | broadcast s rs =>
      cases hms : m s with
      | none => simp [HubCommand.onRoster, HubCommand.symbol, hms] at hs
      | some cs₀ =>
        simp only [HubCommand.onRoster, HubCommand.symbol, hms, Function.update_self,
          Option.some.injEq] at hs
        subst hs
        exact attachClients_sorted _ rs (hm _ _ hms)
  · rw [HubCommand.onRoster_of_ne hsc] at hs
    exact hm _ _ hs

/-- The map after a sequence of commands from an empty one lists each symbol's clients by
    ascending robot id. -/
theorem foldl_onRoster_sorted (policy : DealPolicy) (cmds : List HubCommand) :
    ∀ s cs, cmds.foldl (HubCommand.onRoster policy) (fun _ => none) s = some cs →
      (cs.map (·.robotId)).Pairwise (· < ·) := by
  -- the fold runs over any starting map whose lists ascend
  suffices h : ∀ m : Symbol → Option (List Client),
      (∀ s cs, m s = some cs → (cs.map (·.robotId)).Pairwise (· < ·)) →
      ∀ s cs, cmds.foldl (HubCommand.onRoster policy) m s = some cs →
        (cs.map (·.robotId)).Pairwise (· < ·) from h _ (fun _ _ h => nomatch h)
  induction cmds with
  | nil => exact fun m hm => hm
  | cons c cmds ih => exact fun m hm => ih _ (onRoster_sorted hm c)

/-! ### Queries -/

/-- The symbols query is answered with the known symbols. -/
theorem Settled.handleRequest_symbols (h : Settled w known) (r : Nat) :
    w.handleRequest (.symbols r) = w.answer r (.symbols known) := by
  obtain ⟨hb, hhub⟩ := Option.isSome_iff_exists.1 h.hub
  have hk := h.keys
  simp only [registry, hhub, Option.map_some, Option.getD_some] at hk
  simp [handleRequest, hhub, hk]

/-- The robot query for a symbol with no worker is answered with none. -/
theorem Settled.handleRequest_robotIds_none (h : Settled w known) {s : Symbol}
    (hs : w.roster s = none) (r : Nat) :
    w.handleRequest (.robotIds s r) = w.answer r (.robotIds none) := by
  obtain ⟨hb, hhub⟩ := Option.isSome_iff_exists.1 h.hub
  have hl : hb.workers.lookup s = none := by
    simpa [roster, registry, hhub] using hs
  simp [handleRequest, hhub, hl]

/-- The robot query for a registered symbol starts a helper, whose step answers with the robot ids
    of the symbol's clients and ends. -/
theorem Settled.robotIds_answer (h : Settled w known) {s : Symbol} {cs : List Client}
    (hs : w.roster s = some cs) (r : Nat) :
    ∃ w₂ : World, ((w.handleRequest (.robotIds s r)).step w.tasks.size).1 =
      (w₂.answer r (.robotIds (some (cs.map (·.robotId))))).finish w.tasks.size := by
  obtain ⟨hb, hhub⟩ := Option.isSome_iff_exists.1 h.hub
  obtain ⟨wid, he⟩ := h.exists_entry ((h.isSome_roster s).1 (by simp [hs]))
  obtain ⟨k, hk, hr⟩ := h.ready _ he
  have hcs : cs = k.clients := by
    rw [h.roster_of_mem he] at hs
    simpa [clientsOf, hk] using hs.symm
  have hl : hb.workers.lookup s = some wid := by
    simpa [registry, hhub] using h.lookup_eq he
  -- the helper is the next task
  set w₁ := (w.spawn (.robotIds wid r)).1
  have hw₁ : w.handleRequest (.robotIds s r) = w₁ := by simp [handleRequest, hhub, hl, w₁]
  have hk₁ : w₁.worker? wid = some k := by simpa [w₁, worker?] using hk
  have ht₁ : w₁.tasks[w.tasks.size]? = some ⟨.robotIds wid r, false, none, false⟩ := by
    simp [w₁, spawn]
  rw [hw₁]
  simp only [step, ht₁, Bool.false_eq_true, ↓reduceIte]
  -- the client lock is free: the helper takes it, reads the ids and lets it go
  unfold stepRobotIds
  rw [lockClients_of_free hk₁ hr.unlocked]
  dsimp only
  rw [if_pos rfl]
  refine ⟨(w₁.modifyWorker wid fun k => { k with lock := ⟨some w.tasks.size, []⟩ }).unlockClients wid,
    ?_⟩
  simp [worker?_modifyWorker, hk₁, hcs]

/-! ### Leaving the loop -/

/-- A running hub task's step is the hub's step. -/
theorem step_of_hub {t : TaskId} {k : Task} {p : HubPhase} (hk : w.tasks[t]? = some k)
    (hj : k.job = .hub p) (hd : k.done = false) (ha : k.aborted = false) :
    w.step t = w.stepHub t p := by
  simp [step, hk, hj, hd, ha]

@[simp] theorem tasks_cancel (i : Nat) : (w.cancel i).tasks = w.tasks := by
  simp [cancel]

/-- A task's job after a step that changes only whether it ended, or who waits for it. -/
theorem job_finish (t x : TaskId) :
    (w.finish x).tasks[t]?.map (·.job) = w.tasks[t]?.map (·.job) := by
  have ht : (w.finish x).tasks = w.tasks.modify x fun k => { k with done := true, joinWaker := none } := by
    unfold finish
    dsimp only
    split <;> simp
  rw [ht, Array.getElem?_modify]
  split <;> simp [Function.comp_def]

theorem job_joinOn (t x j : TaskId) :
    (w.joinOn x j).tasks[t]?.map (·.job) = w.tasks[t]?.map (·.job) := by
  simp only [joinOn]
  rw [Array.getElem?_modify]
  split <;> simp [Function.comp_def]

/-- The control task of a worker in order is the task its record names, and once it has ended the
    worker has no client, and a reader holding an open stream was aborted and not dropped yet. -/
theorem stopped_of_done (h : w.streams.Sound) {wid : Nat} {kw : Worker} (hw : w.worker? wid = some kw)
    (hdone : w.isDone kw.task = true) :
    clientsOf w wid = [] ∧ ∀ x i, (w.streams.of wid).holds x = some i → w.feed.isOpen i = true →
      (w.streams.of wid).role x = .reader false true := by
  have hp : (w.streams.of wid).present = true := by simp [present_of, hw]
  have htask : (w.streams.of wid).task = kw.task := by
    simp [StreamView.of, streams, hw, Worker.streams]
  obtain ⟨p, d, hc⟩ := (h wid).control hp
  -- the record's task is the control task, whose view says whether it ended
  have hv : w.streams.tasks kw.task = some (.worker wid p, d, false) := by
    rw [htask] at hc
    simp only [StreamView.of, StreamView.roleOf] at hc
    split at hc
    · split_ifs at hc with hwid
      cases hc
      subst hwid
      assumption
    · split_ifs at hc
    · cases hc
  have hd : d = true := by rw [← isDone_of_tasks hv, hdone]
  subst hd
  refine ⟨?_, fun x i hi ho => (h wid).aborted_of_open_of_ended hc hi ho⟩
  have hcl := (h wid).cleared p hc
  simpa [clientsOf, hw, StreamView.of, streams, Worker.streams] using hcl

/-- Leaving the loop: the hub's task moves to its stopping phase with the workers of the registry
    it had, and the registry is emptied. -/
theorem leaveHub_hands_over {t : TaskId} (ht : (w.tasks[t]?).isSome) (hb : Hub) :
    (w.leaveHub t hb).1.tasks[t]?.map (·.job) = some (.hub (.stopping (hb.workers.map (·.2)))) ∧
      registry (w.leaveHub t hb).1 = [] := by
  obtain ⟨k, hk⟩ := Option.isSome_iff_exists.1 ht
  constructor
  · simp [leaveHub, setJob, unwatch, modifyHub, Array.getElem?_modify, hk]
  · cases hh : w.hub <;> simp [leaveHub, setJob, unwatch, modifyHub, registry, cancel, hh]

/-- **Leaving the loop hands the map's workers over**: once the serving hub's token is cancelled,
    or its queue has ended with every handle dropped, its step takes the workers of its registry,
    in ascending symbol order, into its stopping phase and empties the registry. -/
theorem leaves_with_registry {t : TaskId} {k : Task} {hb : Hub} (hh : w.hub = some hb)
    (hk : w.tasks[t]? = some k) (hj : k.job = .hub .serving) (hd : k.done = false)
    (ha : k.aborted = false)
    (hleave : w.cancelled hb.token = true ∨ (hb.requests.recv t).2.1 = .ended) :
    (w.step t).1.tasks[t]?.map (·.job) = some (.hub (.stopping ((registry w).map (·.2)))) ∧
      registry (w.step t).1 = [] := by
  have hreg : registry w = hb.workers := by simp [registry, hh]
  rw [step_of_hub hk hj hd ha, hreg]
  by_cases hc : w.cancelled hb.token = true
  · simp only [stepHub, hh, hc, ↓reduceIte]
    exact leaveHub_hands_over (by simp [hk]) hb
  · -- the queue ended: the hub takes that in, then leaves
    have he : (hb.requests.recv t).2.1 = .ended := hleave.resolve_left hc
    rcases hr : hb.requests.recv t with ⟨q, got, ws⟩
    rw [hr] at he
    subst he
    simp only [stepHub, hh, hc, Bool.false_eq_true, ↓reduceIte, hr]
    exact leaveHub_hands_over (by simp [modifyHub, hk]) hb

/-- **The hub moves past a worker only once it has stopped**: in its stopping phase, a step of the
    hub that moves on from worker `wid` finds the worker's control task ended, the worker with no
    client, and no open stream but one a reader aborted and not yet dropped holds. -/
theorem stopped_when_passed (h : w.streams.Sound) {t : TaskId} {k : Task} {wid : Nat}
    {rest : List Nat} (hk : w.tasks[t]? = some k) (hj : k.job = .hub (.stopping (wid :: rest)))
    (hd : k.done = false) (ha : k.aborted = false)
    (hmove : (w.step t).1.tasks[t]?.map (·.job) = some (.hub (.stopping rest))) :
    (∀ kw, w.worker? wid = some kw → w.isDone kw.task = true) ∧ clientsOf w wid = [] ∧
      ∀ x i, (w.streams.of wid).holds x = some i → w.feed.isOpen i = true →
        (w.streams.of wid).role x = .reader false true := by
  -- a step that leaves the hub's task where it was does not move past the worker
  have hstay : ∀ w' : World, w'.tasks[t]?.map (·.job) = w.tasks[t]?.map (·.job) →
      w'.tasks[t]?.map (·.job) ≠ some (.hub (.stopping rest)) := by
    intro w' he hne
    rw [he, hk] at hne
    simp [hj] at hne
  rw [step_of_hub hk hj hd ha] at hmove
  unfold stepHub at hmove
  cases hh : w.hub with
  | none =>
    rw [hh] at hmove
    exact absurd hmove (hstay _ (job_finish t t))
  | some hb =>
    rw [hh] at hmove
    dsimp only at hmove
    cases hw : w.worker? wid with
    | none =>
      -- no such worker: nothing to stop
      refine ⟨fun _ h => (nomatch h), by simp [clientsOf, hw], fun x i hi _ => ?_⟩
      have hp : (w.streams.of wid).present = false := by simp [present_of, hw]
      obtain ⟨⟨d, a, hr⟩, -⟩ := (h wid).owned x i hi
      rw [(h wid).absent hp x] at hr
      cases hr
    | some kw =>
      rw [hw] at hmove
      dsimp only at hmove
      split at hmove
      · rename_i hdone
        have hdone' : w.isDone kw.task = true := by simpa [isDone] using hdone
        refine ⟨fun kw' hkw => ?_, stopped_of_done h hw hdone'⟩
        cases hkw
        exact hdone'
      · exact absurd hmove (hstay _ (by simp [job_joinOn]))

/-! ### The hub and its map -/

/-- What it is for the hub, in world `w`, to stand for the map `m` built under deal policy
    `policy`. -/
structure RefinesRoster (policy : DealPolicy) (w : World) (m : Symbol → Option (List Client)) :
    Prop where
  /-- A register's fresh worker has one client per robot id of its list, ascending, each with a
      new deal machine. -/
  fresh : ∀ rs : List Robot, ((attachClients policy [] rs).1.map (·.robotId)).Pairwise (· < ·) ∧
    (∀ i, i ∈ (attachClients policy [] rs).1.map (·.robotId) ↔ ∃ r ∈ rs, r.robotId = i) ∧
    ∀ c ∈ (attachClients policy [] rs).1, c.machine = DealMachine.new policy
  /-- The registry is the map. -/
  roster : w.roster = m
  /-- The symbols query answers the map's symbols, ascending. -/
  symbols : ∀ r, ∃ ks, w.handleRequest (.symbols r) = w.answer r (.symbols ks) ∧
    ks.Pairwise (· < ·) ∧ ∀ s, s ∈ ks ↔ (m s).isSome
  /-- The robot query for a symbol outside the map answers none. -/
  unknown : ∀ s r, m s = none → w.handleRequest (.robotIds s r) = w.answer r (.robotIds none)
  /-- The robot query for a symbol of the map answers, through a helper task, the robot ids of
      its clients, ascending. -/
  robotIds : ∀ s r cs, m s = some cs → (cs.map (·.robotId)).Pairwise (· < ·) ∧
    ∃ w₂ : World, ((w.handleRequest (.robotIds s r)).step w.tasks.size).1 =
      (w₂.answer r (.robotIds (some (cs.map (·.robotId))))).finish w.tasks.size

/-- How the hub stops its workers, in world `w`. -/
structure StopsWorkers (w : World) : Prop where
  /-- Leaving its loop, the hub takes its registry's workers into its stopping phase. -/
  leave : ∀ t k hb, w.hub = some hb → w.tasks[t]? = some k → k.job = .hub .serving →
    k.done = false → k.aborted = false →
    (w.cancelled hb.token = true ∨ (hb.requests.recv t).2.1 = .ended) →
    (w.step t).1.tasks[t]?.map (·.job) = some (.hub (.stopping ((registry w).map (·.2)))) ∧
      registry (w.step t).1 = []
  /-- It moves past a worker only once the worker has stopped: its control task has ended, it
      has no client, and a stream of it still open is held by a reader that was aborted and has
      not been dropped yet. -/
  pass : ∀ t k wid rest, w.tasks[t]? = some k → k.job = .hub (.stopping (wid :: rest)) →
    k.done = false → k.aborted = false →
    (w.step t).1.tasks[t]?.map (·.job) = some (.hub (.stopping rest)) →
    (∀ kw, w.worker? wid = some kw → w.isDone kw.task = true) ∧ clientsOf w wid = [] ∧
      ∀ x i, (w.streams.of wid).holds x = some i → w.feed.isOpen i = true →
        (w.streams.of wid).role x = .reader false true

/-- A freshly spawned hub stands for the empty map. -/
theorem roster_spawnHub (w : World) (capacity tok : Nat) :
    (w.spawnHub capacity tok).1.roster = fun _ => none := by
  funext s
  simp [roster, registry, spawnHub, spawn]

/-- **The hub refines a finite map.** From a freshly spawned hub whose worker queues can be made,
    in a sequential schedule (each command handled by the hub, then by the worker it went to),
    every sequence of commands leaves the hub standing for the map the same commands build from
    the empty one: a register adds a fresh worker for a new symbol and leaves a registered one
    untouched, an unregister removes its symbol, a broadcast brings a registered symbol's clients
    in line with its robots. The queries are answered from the map. And along every run from a
    fresh world, the hub leaving its loop takes its registry's workers into its stopping phase,
    and moves past each only once it has stopped. -/
theorem hub_refines_roster {w : World} (capacity tok : Nat)
    (hcap : Queue.refusal? w.settings.workerCapacity = none) (cmds : List HubCommand) :
    RefinesRoster w.settings.policy (cmds.foldl passStep (w.spawnHub capacity tok).1)
        (cmds.foldl (HubCommand.onRoster w.settings.policy) fun _ => none) ∧
      ∀ (settings : TradingSettings) (store : Store) (feed : ScriptedFeed) (updates : UpdateRing)
        (wall : Instant) (every : Nat) (v : World),
        Relation.ReflTransGen StreamMove (World.new settings store feed updates wall every) v →
          StopsWorkers v := by
  obtain ⟨h, -, hr⟩ := (settled_spawnHub w capacity tok).foldl_passStep hcap cmds
  rw [roster_spawnHub] at hr
  refine ⟨⟨fresh_clients _, hr, fun r => ⟨_, h.handleRequest_symbols r, h.sorted, fun s => ?_⟩,
    fun s r hs => h.handleRequest_robotIds_none (hr ▸ hs) r,
    fun s r cs hs => ⟨foldl_onRoster_sorted _ cmds s cs hs, h.robotIds_answer (hr ▸ hs) r⟩⟩, ?_⟩
  · rw [← h.isSome_roster s, hr]
    rfl
  · intro settings store feed updates wall every v hv
    have hs := sound_of_reaches hv (sound_new settings store feed updates wall every)
    exact ⟨fun t k hb hh hk hj hd ha hl => leaves_with_registry hh hk hj hd ha hl,
      fun t k wid rest hk hj hd ha hm => stopped_when_passed hs hk hj hd ha hm⟩

/-- A hub with room for eight commands per worker, given a register, a second register for the
    same symbol and an unregister for an unknown one. -/
theorem hub_refines_roster_fresh :
    let w := World.new ⟨.oneLegPerTick, 8, true⟩ Store.empty (ScriptedFeed.new 4)
      (UpdateRing.new 4) ⟨0, 0⟩ 1000
    let cmds := [HubCommand.register ⟨"AAPL"⟩ [], .register ⟨"AAPL"⟩ [], .unregister ⟨"MSFT"⟩]
    Queue.refusal? w.settings.workerCapacity = none ∧
      (RefinesRoster w.settings.policy (cmds.foldl passStep (w.spawnHub 8 0).1)
          (cmds.foldl (HubCommand.onRoster w.settings.policy) fun _ => none) ∧
        ∀ (settings : TradingSettings) (store : Store) (feed : ScriptedFeed)
          (updates : UpdateRing) (wall : Instant) (every : Nat) (v : World),
          Relation.ReflTransGen StreamMove (World.new settings store feed updates wall every) v →
            StopsWorkers v) :=
  ⟨by decide, hub_refines_roster 8 0 (by decide) _⟩

/-- **A worker queue that cannot be made kills the hub.** With a worker capacity above the queue
    bound, a register for a new symbol ends the hub's task: the map gains the symbol, the
    registry does not. -/
theorem unbounded_queue_kills_hub :
    let w := ((World.new ⟨.oneLegPerTick, 2 ^ 61, true⟩ Store.empty (ScriptedFeed.new 4)
      (UpdateRing.new 4) ⟨0, 0⟩ 1000).spawnHub 8 0).1
    let c := HubCommand.register ⟨"AAPL"⟩ []
    (c.onRoster w.settings.policy w.roster ⟨"AAPL"⟩).isSome = true ∧
      ((w.passStep c).roster ⟨"AAPL"⟩).isNone = true ∧ (w.passStep c).isDone 1 = true := by
  decide

end World

end RobotTrading
