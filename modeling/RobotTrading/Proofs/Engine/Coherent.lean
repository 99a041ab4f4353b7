import RobotTrading.Proofs.Engine.Shape
import RobotTrading.Service.Engine

/-!
# The coherent engine

The reconciler updates its known symbols as it sends each command, while the
hub changes its registry only when it takes the command from its queue. The
two agree once the hub has caught up: folding the commands still waiting in the
hub's queue over the registered symbols gives the known symbols of the running
reconciler, once it has adopted the hub's symbols (`Shape.Agrees`).

That agreement is kept by every step of every task only together with a frame
of facts about the rest of the engine (`Frame`). The frame ties each
reconciler's phase to the reply slot of its seed. It keeps the registry's
workers alive while the hub serves, so that a broadcast never finds a worker's
queue closed. It also holds the token forest, the worker records and the tasks
in the form the steps need. This module states both and proves how each kind
of change to the shape carries them over; the step modules build on it.

## Main definitions

* `Shape.Agrees` : what a reconciler's phase says about the hub's queue and registry.
* `Frame` : the facts about the engine that every step keeps.
* `Coherent` : the frame, and the running reconciler agrees with a serving hub.

## Main statements

* `Frame.setReconciler`, `Frame.addToken`, `Frame.setReplies`, `Frame.cancel` and the other
  transfer lemmas : how a change of one part of the shape keeps the frame.
* `Coherent.of_frame` : the frame after a change, and an agreement carried over, give the invariant.
-/

namespace RobotTrading

namespace HubRequest

/-- The command a request carries. -/
def command? : HubRequest → Option HubCommand
  | .command c => some c
  | _ => none

/-- The reply slot a request is answered through. -/
def reply? : HubRequest → Option Nat
  | .command _ => none
  | .symbols r => some r
  | .robotIds _ r => some r

end HubRequest

/-- The control task is still in its loop. -/
def WorkerPhase.running : WorkerPhase → Bool
  | .start | .idle | .applying _ => true
  | .stopping _ | .clearing => false

/-- The job is none of those a reconciler's agreement with the hub reads: the hub, a reconciler,
    or a helper answering through a reply slot. -/
def Job.quiet : Job → Bool
  | .hub _ | .robotIds .. | .reconciler _ => false
  | .worker .. | .reader .. | .stopper .. | .session => true

namespace HubShape

/-- The commands waiting in the hub's queue, oldest first. -/
def pending (h : HubShape) : List HubCommand := h.requests.filterMap HubRequest.command?

/-- The registered symbols. -/
def keys (h : HubShape) : List Symbol := h.registry.map (·.1)

end HubShape

namespace Shape

variable (s : Shape)

/-- The hub serves: its task is in its request loop and has not ended. -/
def Serving (h : HubShape) : Prop := s.tasks h.task = some (.hub .serving, false)

/-- Reconciler `t` waits for the hub's symbols in reply slot `slot`. Either its request waits in
    the hub's queue, with no command behind it and the slot still empty and open, or the hub has
    answered with its symbols and no command waits. No other request, helper or reconciler
    answers through the slot. -/
def Seeding (h : HubShape) (t : TaskId) (slot : Nat) : Prop :=
  ((∃ pre post, h.requests = pre ++ .symbols slot :: post ∧
      (∀ q ∈ pre ++ post, q.reply? ≠ some slot) ∧ (∀ q ∈ post, q.command? = none) ∧
      s.replies slot = some ⟨none, true, true⟩) ∨
    ((∀ q ∈ h.requests, q.reply? ≠ some slot ∧ q.command? = none) ∧
      ∃ so ro, s.replies slot = some ⟨some (.symbols h.keys), so, ro⟩)) ∧
  (∀ t' wid d, s.tasks t' ≠ some (.robotIds wid slot, d)) ∧
  (∀ t' r d, t' ≠ t → s.tasks t' = some (.reconciler r, d) → r.phase ≠ .awaitingSeed slot)

/-- What reconciler `t` in state `r` says about a serving hub. Before its seed nothing; while it
    waits for the seed, `Seeding`; once seeded, its known symbols are the registered symbols
    with the commands still waiting in the hub's queue carried out. -/
def Agrees (h : HubShape) (t : TaskId) (r : ReconcilerState) : Prop :=
  match r.phase with
  | .start | .seeding => True
  | .awaitingSeed slot => s.Seeding h t slot
  | .waiting | .sending _ => h.pending.foldl HubCommand.updateKnown h.keys = r.known

/-- What the frame asks of task `t` running `j`, ended when `d`. -/
def TaskFits (e : Engine) (t : TaskId) (j : Job) (d : Bool) : Prop :=
  match j with
  | .hub _ => ∃ h, s.hub = some h ∧ h.task = t
  | .worker wid p => (∃ k, s.workers wid = some k ∧ k.task = t) ∧ ∀ c, p = .applying c → c.ack = none
  | .stopper wid _ => s.workers wid ≠ none ∧ ∀ h, s.hub = some h → wid ∉ h.registry.map (·.2)
  | .robotIds _ r => s.replies r ≠ none
  | .reconciler r => s.hub ≠ none ∧
      (r.token < s.tokenCount ∧ s.parentOf r.token = some e.root ∧
        ∀ h, s.hub = some h → h.token < r.token) ∧
      (d = false → s.cancelled r.token = false → e.reconciler = some ⟨r.token, t⟩) ∧
      ∀ slot, r.phase = .awaitingSeed slot → s.replies slot ≠ none
  | .reader .. | .session => True

/-- Cancelling the tokens `c` spares the registered workers of a serving hub that `c` leaves
    uncancelled. -/
def Spares (c : Nat → Bool) : Prop :=
  ∀ h, s.hub = some h → s.Serving h → c h.token = false →
    ∀ x ∈ h.registry, ∀ k, s.workers x.2 = some k → c k.token = false

end Shape

/-- The invariant of an engine run apart from what the running reconciler knows, over the engine
    record `e` and the world's shape `s`. -/
structure Frame (e : Engine) (s : Shape) : Prop where
  /-- Every token is younger than its parent. -/
  ordered : ∀ i p, s.parentOf i = some p → p < i
  root : e.root < s.tokenCount
  /-- The engine record names the hub's token and task. -/
  hubEngine : e.hub.map (fun hr => (hr.token, hr.task)) = s.hub.map fun h => (h.token, h.task)
  noHub : s.hub = none → ∀ t r d, s.tasks t ≠ some (.reconciler r, d)
  hubToken : ∀ h, s.hub = some h → h.token < s.tokenCount ∧ s.parentOf h.token = some e.root
  hubTask : ∀ h, s.hub = some h → ∃ p d, s.tasks h.task = some (.hub p, d)
  hubOnly : ∀ t p d, s.tasks t = some (.hub p, d) → ∃ h, s.hub = some h ∧ h.task = t
  /-- The hub's queue keeps its receiver until the hub's task ends. -/
  hubOpen : ∀ h p, s.hub = some h → s.tasks h.task = some (.hub p, false) → h.receiverOpen = true
  sorted : ∀ h, s.hub = some h → h.keys.Pairwise (· < ·)
  distinct : ∀ h, s.hub = some h → (h.registry.map (·.2)).Nodup
  registered : ∀ h, s.hub = some h → ∀ e ∈ h.registry, s.workers e.2 ≠ none
  /-- Every question waiting in the hub's queue has its reply slot. -/
  questions : ∀ h, s.hub = some h → ∀ q ∈ h.requests, ∀ r, q.reply? = some r → s.replies r ≠ none
  /-- Every worker's token is made under the hub's. -/
  workerToken : ∀ wid k, s.workers wid = some k →
    k.token < s.tokenCount ∧ ∃ h, s.hub = some h ∧ s.parentOf k.token = some h.token
  workerTokenInj : ∀ a b ka kb, s.workers a = some ka → s.workers b = some kb →
    ka.token = kb.token → a = b
  control : ∀ t wid p d, s.tasks t = some (.worker wid p, d) →
    ∃ k, s.workers wid = some k ∧ k.task = t
  unanswered : ∀ wid k, s.workers wid = some k → k.unanswered = true
  applying : ∀ t wid c d, s.tasks t = some (.worker wid (.applying c), d) → c.ack = none
  /-- A worker being stopped is no longer registered. -/
  stoppers : ∀ t wid b d, s.tasks t = some (.stopper wid b, d) →
    s.workers wid ≠ none ∧ ∀ h, s.hub = some h → wid ∉ h.registry.map (·.2)
  /-- While the hub serves uncancelled, every registered worker runs its loop with its queue
      open at both ends and its token uncancelled. -/
  healthy : ∀ h, s.hub = some h → s.Serving h → s.cancelled h.token = false →
    ∀ e ∈ h.registry, ∃ k, s.workers e.2 = some k ∧ k.senderOpen = true ∧
      k.receiverOpen = true ∧ s.cancelled k.token = false ∧
      ∃ p d, s.tasks k.task = some (.worker e.2 p, d) ∧ p.running = true
  helpers : ∀ t wid r d, s.tasks t = some (.robotIds wid r, d) → s.replies r ≠ none
  /-- Every reconciler's token is made under the root, after the hub's. -/
  reconcilerToken : ∀ t r d, s.tasks t = some (.reconciler r, d) →
    r.token < s.tokenCount ∧ s.parentOf r.token = some e.root ∧ ∀ h, s.hub = some h → h.token < r.token
  /-- The only reconciler that runs uncancelled is the engine's. -/
  current : ∀ t r, s.tasks t = some (.reconciler r, false) → s.cancelled r.token = false →
    e.reconciler = some ⟨r.token, t⟩
  engineReconciler : ∀ rr, e.reconciler = some rr →
    ∃ r d, s.tasks rr.task = some (.reconciler r, d) ∧ r.token = rr.token
  seedSlots : ∀ t r d slot, s.tasks t = some (.reconciler r, d) → r.phase = .awaitingSeed slot →
    s.replies slot ≠ none

/-- The invariant of an engine run: the frame, and the running reconciler agrees with a serving
    hub. -/
structure Coherent (e : Engine) (s : Shape) : Prop extends Frame e s where
  agrees : ∀ t r h, s.tasks t = some (.reconciler r, false) → s.cancelled r.token = false →
    s.hub = some h → s.Serving h → s.Agrees h t r

namespace Shape

variable {s s' : Shape}

/-- `s'` has the tasks of `s`, some of them ended since. -/
structure Ends (s s' : Shape) : Prop where
  back : ∀ x j d, s'.tasks x = some (j, d) → ∃ d', s.tasks x = some (j, d') ∧ (d = false → d' = false)
  forth : ∀ x j d, s.tasks x = some (j, d) → ∃ d', s'.tasks x = some (j, d')

theorem ends_finish (s : Shape) (t : TaskId) : s.Ends (s.finish t) := by
  constructor
  · intro x j d h
    simp only [finish, setTask, Function.update_apply] at h
    split at h
    · subst_vars
      cases ht : s.tasks x with
      | none => simp [ht] at h
      | some p =>
        simp only [ht, Option.map_some, Option.some.injEq, Prod.mk.injEq] at h
        obtain ⟨rfl, rfl⟩ := h
        exact ⟨p.2, rfl, fun h => absurd h (by decide)⟩
    · exact ⟨d, h, fun h => h⟩
  · intro x j d h
    simp only [finish, setTask, Function.update_apply]
    split
    · subst_vars; exact ⟨true, by simp [h]⟩
    · exact ⟨d, h⟩

theorem Ends.serving (he : s.Ends s') {h : HubShape} (hs : s'.Serving h) : s.Serving h := by
  obtain ⟨d, hd, hf⟩ := he.back _ _ _ hs
  obtain rfl := hf rfl
  exact hd

theorem Seeding.of_ends (he : s.Ends s') (hr : s'.replies = s.replies) {h : HubShape} {t : TaskId}
    {slot : Nat} (hsd : s.Seeding h t slot) : s'.Seeding h t slot := by
  obtain ⟨hq, hhelp, hrec⟩ := hsd
  refine ⟨hr ▸ hq, fun t' wid d ht' => ?_, fun t' r d hne ht' => ?_⟩
  · obtain ⟨d', hd', -⟩ := he.back _ _ _ ht'
    exact hhelp t' wid d' hd'
  · obtain ⟨d', hd', -⟩ := he.back _ _ _ ht'
    exact hrec t' r d' hne hd'

theorem Agrees.of_ends (he : s.Ends s') (hr : s'.replies = s.replies) {h : HubShape} {t : TaskId}
    {r : ReconcilerState} (ha : s.Agrees h t r) : s'.Agrees h t r := by
  unfold Agrees at ha ⊢
  split
  · trivial
  · trivial
  · rename_i slot hp
    rw [hp] at ha
    exact Seeding.of_ends he hr ha
  · rename_i hp
    rwa [hp] at ha
  · rename_i hp
    rwa [hp] at ha

theorem setTask_tasks_of_ne {t x : TaskId} (v : Option (Job × Bool)) (hx : x ≠ t) :
    (s.setTask t v).tasks x = s.tasks x := by
  simp [setTask, hx]

@[simp] theorem setTask_tasks_self (t : TaskId) (v : Option (Job × Bool)) :
    (s.setTask t v).tasks t = v := by
  simp [setTask]

theorem setTask_eq_some {t x : TaskId} {v : Option (Job × Bool)} {j : Job} {d : Bool}
    (h : (s.setTask t v).tasks x = some (j, d)) :
    (x = t ∧ v = some (j, d)) ∨ (x ≠ t ∧ s.tasks x = some (j, d)) := by
  by_cases hx : x = t
  · subst hx
    exact .inl ⟨rfl, by simpa using h⟩
  · exact .inr ⟨hx, by rwa [setTask_tasks_of_ne _ hx] at h⟩

/-- A task that takes up another job leaves every task of a different job as it was. -/
theorem eq_of_setTask {t x : TaskId} {j j' : Job} {d d' : Bool}
    (hx : (s.setTask t (some (j, d))).tasks x = some (j', d')) (hne : j' ≠ j) : s.tasks x = some (j', d') := by
  rcases setTask_eq_some hx with ⟨-, hv⟩ | ⟨-, hx⟩
  · exact absurd (congrArg Prod.fst (Option.some.inj hv)).symm hne
  · exact hx

/-- A seed stays as it is when its reply slot stays, and no new helper or other reconciler waits
    on the slot. -/
theorem Seeding.transfer {h : HubShape} {t : TaskId} {slot : Nat} (hsd : s.Seeding h t slot)
    (hr : s'.replies slot = s.replies slot)
    (hhelp : ∀ t' wid d, s'.tasks t' = some (.robotIds wid slot, d) →
      ∃ d', s.tasks t' = some (.robotIds wid slot, d'))
    (hrec : ∀ t' r d, t' ≠ t → s'.tasks t' = some (.reconciler r, d) → r.phase = .awaitingSeed slot →
      ∃ r' d', s.tasks t' = some (.reconciler r', d') ∧ r'.phase = .awaitingSeed slot) :
    s'.Seeding h t slot := by
  obtain ⟨hq, hh, hrc⟩ := hsd
  refine ⟨hr ▸ hq, fun t' wid d ht' => ?_, fun t' r d hne ht' hph => ?_⟩
  · obtain ⟨d', hd'⟩ := hhelp t' wid d ht'
    exact hh t' wid d' hd'
  · obtain ⟨r', d', hd', hph'⟩ := hrec t' r d hne ht' hph
    exact hrc t' r' d' hne hd' hph'

theorem Agrees.transfer {h h' : HubShape} {t : TaskId} {r : ReconcilerState} (ha : s.Agrees h t r)
    (hsd : ∀ slot, r.phase = .awaitingSeed slot → s.Seeding h t slot → s'.Seeding h' t slot)
    (hknown : h.pending.foldl HubCommand.updateKnown h.keys = r.known →
      h'.pending.foldl HubCommand.updateKnown h'.keys = r.known) :
    s'.Agrees h' t r := by
  unfold Agrees at ha ⊢
  split
  · trivial
  · trivial
  · rename_i slot hp
    rw [hp] at ha
    exact hsd slot hp ha
  · rename_i hp
    rw [hp] at ha
    exact hknown ha
  · rename_i hp
    rw [hp] at ha
    exact hknown ha

theorem agrees_of_unseeded {h : HubShape} {t : TaskId} {r : ReconcilerState}
    (hp : r.phase = .start ∨ r.phase = .seeding) : s.Agrees h t r := by
  unfold Agrees
  rcases hp with hp | hp <;> rw [hp] <;> trivial

theorem agrees_awaitingSeed {h : HubShape} {t : TaskId} {r : ReconcilerState} {slot : Nat}
    (hp : r.phase = .awaitingSeed slot) : s.Agrees h t r ↔ s.Seeding h t slot := by
  unfold Agrees
  rw [hp]

theorem agrees_seeded {h : HubShape} {t : TaskId} {r : ReconcilerState}
    (hp : r.phase = .waiting ∨ ∃ cmds, r.phase = .sending cmds) :
    s.Agrees h t r ↔ h.pending.foldl HubCommand.updateKnown h.keys = r.known := by
  unfold Agrees
  rcases hp with hp | ⟨cmds, hp⟩ <;> rw [hp]

end Shape

namespace Frame

variable {e : Engine} {s s' : Shape}

/-- The hub's task runs a hub job, so no other task is the hub's. -/
theorem ne_hubTask (hf : Frame e s) {h : HubShape} (hs : s.hub = some h) {t : TaskId}
    {j : Job} {d : Bool} (ht : s.tasks t = some (j, d)) (hj : ∀ p, j ≠ .hub p) : t ≠ h.task := by
  rintro rfl
  obtain ⟨p, d', hd⟩ := hf.hubTask h hs
  rw [ht, Option.some.injEq, Prod.mk.injEq] at hd
  exact hj p hd.1

/-- A registered worker's control task runs a worker job. -/
theorem ne_workerTask {t : TaskId} {j : Job} {d : Bool} (ht : s.tasks t = some (j, d))
    (hj : ∀ wid p, j ≠ .worker wid p) {x : TaskId} {wid : Nat} {p : WorkerPhase} {d' : Bool}
    (hx : s.tasks x = some (.worker wid p, d')) : x ≠ t := by
  rintro rfl
  rw [ht, Option.some.injEq, Prod.mk.injEq] at hx
  exact hj wid p hx.1

/-- Two running reconcilers, both uncancelled, are the same task. -/
theorem current_unique (hf : Frame e s) {t t' : TaskId} {r r' : ReconcilerState}
    (ht : s.tasks t = some (.reconciler r, false)) (hcan : s.cancelled r.token = false)
    (ht' : s.tasks t' = some (.reconciler r', false)) (hcan' : s.cancelled r'.token = false) :
    t = t' := by
  have h₁ := hf.current t r ht hcan
  have h₂ := hf.current t' r' ht' hcan'
  rw [h₁, Option.some.injEq] at h₂
  exact congrArg Running.task h₂

/-- **A reconciler moves on**, keeping its token; it waits on a seed only in a slot that exists,
    and only while it runs uncancelled. -/
theorem setReconciler (hf : Frame e s) {t : TaskId} {r r' : ReconcilerState} {d : Bool}
    (ht : s.tasks t = some (.reconciler r, d)) (htok : r'.token = r.token)
    (hslot : ∀ slot, r'.phase = .awaitingSeed slot →
      s.replies slot ≠ none ∧ d = false ∧ s.cancelled r.token = false) :
    Frame e (s.setTask t (some (.reconciler r', d))) where
  ordered := hf.ordered
  root := hf.root
  hubEngine := hf.hubEngine
  noHub hs x rr d' hx := by
    rcases Shape.setTask_eq_some hx with ⟨rfl, -⟩ | ⟨-, hx⟩
    · exact hf.noHub hs x r d ht
    · exact hf.noHub hs x rr d' hx
  hubToken := hf.hubToken
  hubTask h hs := by
    rw [Shape.setTask_tasks_of_ne _ (hf.ne_hubTask hs ht (fun _ => nofun)).symm]
    exact hf.hubTask h hs
  hubOnly x p d' hx := hf.hubOnly x p d' (Shape.eq_of_setTask hx nofun)
  hubOpen h p hs hx := by
    rw [Shape.setTask_tasks_of_ne _ (hf.ne_hubTask hs ht (fun _ => nofun)).symm] at hx
    exact hf.hubOpen h p hs hx
  sorted := hf.sorted
  distinct := hf.distinct
  registered := hf.registered
  questions := hf.questions
  workerToken := hf.workerToken
  workerTokenInj := hf.workerTokenInj
  control x wid p d' hx := hf.control x wid p d' (Shape.eq_of_setTask hx nofun)
  unanswered := hf.unanswered
  applying x wid c d' hx := hf.applying x wid c d' (Shape.eq_of_setTask hx nofun)
  stoppers x wid b d' hx := hf.stoppers x wid b d' (Shape.eq_of_setTask hx nofun)
  healthy h hs hsv hcan x hx := by
    have hne := hf.ne_hubTask hs ht (fun _ => nofun)
    unfold Shape.Serving at hsv
    rw [Shape.setTask_tasks_of_ne _ hne.symm] at hsv
    obtain ⟨k, hk, hso, hro, hkc, p, d', hd, hp⟩ := hf.healthy h hs hsv hcan x hx
    refine ⟨k, hk, hso, hro, hkc, p, d', ?_, hp⟩
    rwa [Shape.setTask_tasks_of_ne _ (ne_workerTask ht (fun _ _ => nofun) hd)]
  helpers x wid rr d' hx := hf.helpers x wid rr d' (Shape.eq_of_setTask hx nofun)
  reconcilerToken x rr d' hx := by
    rcases Shape.setTask_eq_some hx with ⟨rfl, hv⟩ | ⟨-, hx⟩
    · cases hv
      rw [htok]
      exact hf.reconcilerToken x r d ht
    · exact hf.reconcilerToken x rr d' hx
  current x rr hx hcan := by
    rcases Shape.setTask_eq_some hx with ⟨rfl, hv⟩ | ⟨-, hx⟩
    · cases hv
      rw [htok] at hcan ⊢
      exact hf.current x r ht hcan
    · exact hf.current x rr hx hcan
  engineReconciler rr hrr := by
    obtain ⟨r₀, d₀, hd₀, htok₀⟩ := hf.engineReconciler rr hrr
    by_cases hx : rr.task = t
    · rw [hx] at hd₀ ⊢
      rw [ht] at hd₀
      cases hd₀
      exact ⟨r', d, by simp, htok.trans htok₀⟩
    · exact ⟨r₀, d₀, by rwa [Shape.setTask_tasks_of_ne _ hx], htok₀⟩
  seedSlots x rr d' slot hx hph := by
    rcases Shape.setTask_eq_some hx with ⟨rfl, hv⟩ | ⟨-, hx⟩
    · cases hv
      exact (hslot slot hph).1
    · exact hf.seedSlots x rr d' slot hx hph

/-- Tasks that end keep the frame. -/
theorem of_ends (hf : Frame e s) (he : s.Ends s') (hp : s'.parentOf = s.parentOf)
    (hca : s'.cancelled = s.cancelled) (hn : s'.tokenCount = s.tokenCount)
    (hw : s'.workers = s.workers) (hr : s'.replies = s.replies) (hh : s'.hub = s.hub) :
    Frame e s' where
  ordered := hp ▸ hf.ordered
  root := hn ▸ hf.root
  hubEngine := hh ▸ hf.hubEngine
  noHub h' t r d ht := by
    obtain ⟨d', hd', -⟩ := he.back _ _ _ ht
    exact hf.noHub (hh ▸ h') t r d' hd'
  hubToken h' hs := by rw [hn, hp]; exact hf.hubToken h' (hh ▸ hs)
  hubTask h' hs := by
    obtain ⟨p, d, hd⟩ := hf.hubTask h' (hh ▸ hs)
    obtain ⟨d', hd'⟩ := he.forth _ _ _ hd
    exact ⟨p, d', hd'⟩
  hubOnly t p d ht := by
    obtain ⟨d', hd', -⟩ := he.back _ _ _ ht
    exact hh ▸ hf.hubOnly t p d' hd'
  hubOpen h' p hs ht := by
    obtain ⟨d', hd', hfin⟩ := he.back _ _ _ ht
    obtain rfl := hfin rfl
    exact hf.hubOpen h' p (hh ▸ hs) hd'
  sorted h' hs := hf.sorted h' (hh ▸ hs)
  distinct h' hs := hf.distinct h' (hh ▸ hs)
  registered h' hs := hw ▸ hf.registered h' (hh ▸ hs)
  questions h' hs := hr ▸ hf.questions h' (hh ▸ hs)
  workerToken wid k hk := by
    rw [hn, hp, hh]; exact hf.workerToken wid k (hw ▸ hk)
  workerTokenInj a b ka kb ha hb := hf.workerTokenInj a b ka kb (hw ▸ ha) (hw ▸ hb)
  control t wid p d ht := by
    obtain ⟨d', hd', -⟩ := he.back _ _ _ ht
    exact hw ▸ hf.control t wid p d' hd'
  unanswered wid k hk := hf.unanswered wid k (hw ▸ hk)
  applying t wid c d ht := by
    obtain ⟨d', hd', -⟩ := he.back _ _ _ ht
    exact hf.applying t wid c d' hd'
  stoppers t wid b d ht := by
    obtain ⟨d', hd', -⟩ := he.back _ _ _ ht
    rw [hw, hh]; exact hf.stoppers t wid b d' hd'
  healthy h' hs hsv hcan e he' := by
    rw [hca] at hcan ⊢
    obtain ⟨k, hk, hso, hro, hkc, p, d, hd, hp'⟩ :=
      hf.healthy h' (hh ▸ hs) (he.serving hsv) hcan e he'
    obtain ⟨d', hd'⟩ := he.forth _ _ _ hd
    exact ⟨k, hw ▸ hk, hso, hro, hkc, p, d', hd', hp'⟩
  helpers t wid r d ht := by
    obtain ⟨d', hd', -⟩ := he.back _ _ _ ht
    exact hr ▸ hf.helpers t wid r d' hd'
  reconcilerToken t r d ht := by
    obtain ⟨d', hd', -⟩ := he.back _ _ _ ht
    rw [hn, hp, hh]; exact hf.reconcilerToken t r d' hd'
  current t r ht hcan := by
    obtain ⟨d', hd', hfin⟩ := he.back _ _ _ ht
    obtain rfl := hfin rfl
    exact hf.current t r hd' (hca ▸ hcan)
  engineReconciler rr hrr := by
    obtain ⟨r, d, hd, htok⟩ := hf.engineReconciler rr hrr
    obtain ⟨d', hd'⟩ := he.forth _ _ _ hd
    exact ⟨r, d', hd', htok⟩
  seedSlots t r d slot ht hph := by
    obtain ⟨d', hd', -⟩ := he.back _ _ _ ht
    exact hr ▸ hf.seedSlots t r d' slot hd' hph

theorem addToken_parentOf {x : Nat} (hx : x < s.tokenCount) (p : Option Nat) :
    (s.addToken p).parentOf x = s.parentOf x := by
  simp [Shape.addToken, Nat.ne_of_lt hx]

theorem addToken_cancelled {x : Nat} (hx : x < s.tokenCount) (p : Option Nat) :
    (s.addToken p).cancelled x = s.cancelled x := by
  simp [Shape.addToken, Nat.ne_of_lt hx]

/-- A token made under an older one keeps the frame. -/
theorem addToken (hf : Frame e s) {p : Option Nat} (hp : ∀ q ∈ p, q < s.tokenCount) :
    Frame e (s.addToken p) where
  ordered i q h := by
    simp only [Shape.addToken, Function.update_apply] at h
    split at h
    · rename_i hi
      subst hi h
      exact hp q rfl
    · exact hf.ordered i q h
  root := Nat.lt_succ_of_lt hf.root
  hubEngine := hf.hubEngine
  noHub := hf.noHub
  hubToken h hs := by
    obtain ⟨hlt, hpar⟩ := hf.hubToken h hs
    exact ⟨Nat.lt_succ_of_lt hlt, (addToken_parentOf hlt p).trans hpar⟩
  hubTask := hf.hubTask
  hubOnly := hf.hubOnly
  hubOpen := hf.hubOpen
  sorted := hf.sorted
  distinct := hf.distinct
  registered := hf.registered
  questions := hf.questions
  workerToken wid k hk := by
    obtain ⟨hlt, h, hh, hpar⟩ := hf.workerToken wid k hk
    exact ⟨Nat.lt_succ_of_lt hlt, h, hh, (addToken_parentOf hlt p).trans hpar⟩
  workerTokenInj := hf.workerTokenInj
  control := hf.control
  unanswered := hf.unanswered
  applying := hf.applying
  stoppers := hf.stoppers
  healthy h hs hsv hcan x hx := by
    have hlt := (hf.hubToken h hs).1
    rw [addToken_cancelled hlt] at hcan
    obtain ⟨k, hk, hso, hro, hkc, rest⟩ := hf.healthy h hs hsv hcan x hx
    exact ⟨k, hk, hso, hro, (addToken_cancelled (hf.workerToken _ k hk).1 p).trans hkc, rest⟩
  helpers := hf.helpers
  reconcilerToken t r d ht := by
    obtain ⟨hlt, hpar, hh⟩ := hf.reconcilerToken t r d ht
    exact ⟨Nat.lt_succ_of_lt hlt, (addToken_parentOf hlt p).trans hpar, hh⟩
  current t r ht hcan :=
    hf.current t r ht ((addToken_cancelled (hf.reconcilerToken t r false ht).1 p).symm.trans hcan)
  engineReconciler := hf.engineReconciler
  seedSlots := hf.seedSlots

/-- Reply slots that change keep the frame, as long as no slot goes away. -/
theorem setReplies (hf : Frame e s) {rs : Nat → Option ReplyShape}
    (hsome : ∀ x, s.replies x ≠ none → rs x ≠ none) : Frame e { s with replies := rs } where
  ordered := hf.ordered
  root := hf.root
  hubEngine := hf.hubEngine
  noHub := hf.noHub
  hubToken := hf.hubToken
  hubTask := hf.hubTask
  hubOnly := hf.hubOnly
  hubOpen := hf.hubOpen
  sorted := hf.sorted
  distinct := hf.distinct
  registered := hf.registered
  questions h hs q hq r hr := hsome r (hf.questions h hs q hq r hr)
  workerToken := hf.workerToken
  workerTokenInj := hf.workerTokenInj
  control := hf.control
  unanswered := hf.unanswered
  applying := hf.applying
  stoppers := hf.stoppers
  healthy := hf.healthy
  helpers t wid r d ht := hsome r (hf.helpers t wid r d ht)
  reconcilerToken := hf.reconcilerToken
  current := hf.current
  engineReconciler := hf.engineReconciler
  seedSlots t r d slot ht hph := hsome slot (hf.seedSlots t r d slot ht hph)

theorem uncancelled_of {c : Nat → Bool} (hmono : ∀ i, s.cancelled i = true → c i = true) {i : Nat}
    (h : c i = false) : s.cancelled i = false := by
  cases hch : s.cancelled i
  · rfl
  · rw [hmono i hch] at h; cases h

/-- **Cancelling.** Cancelling tokens keeps the frame when it spares the registered workers of a
    serving hub. -/
theorem cancel (hf : Frame e s) {c : Nat → Bool} (hmono : ∀ i, s.cancelled i = true → c i = true)
    (hsp : s.Spares c) : Frame e { s with cancelled := c } where
  ordered := hf.ordered
  root := hf.root
  hubEngine := hf.hubEngine
  noHub := hf.noHub
  hubToken := hf.hubToken
  hubTask := hf.hubTask
  hubOnly := hf.hubOnly
  hubOpen := hf.hubOpen
  sorted := hf.sorted
  distinct := hf.distinct
  registered := hf.registered
  questions := hf.questions
  workerToken := hf.workerToken
  workerTokenInj := hf.workerTokenInj
  control := hf.control
  unanswered := hf.unanswered
  applying := hf.applying
  stoppers := hf.stoppers
  healthy h hs hsv hcan x hx := by
    obtain ⟨k, hk, hso, hro, -, rest⟩ := hf.healthy h hs hsv (uncancelled_of hmono hcan) x hx
    exact ⟨k, hk, hso, hro, hsp h hs hsv hcan x hx k hk, rest⟩
  helpers := hf.helpers
  reconcilerToken := hf.reconcilerToken
  current t r ht hcan := hf.current t r ht (uncancelled_of hmono hcan)
  engineReconciler := hf.engineReconciler
  seedSlots := hf.seedSlots

/-- What the frame asks of each task. -/
theorem fits (hf : Frame e s) {t : TaskId} {j : Job} {d : Bool} (ht : s.tasks t = some (j, d)) :
    s.TaskFits e t j d := by
  cases j with
  | hub p => exact hf.hubOnly t p d ht
  | worker wid p => exact ⟨hf.control t wid p d ht, fun c hc => hf.applying t wid c d (hc ▸ ht)⟩
  | reader => trivial
  | stopper wid b => exact hf.stoppers t wid b d ht
  | robotIds wid r => exact hf.helpers t wid r d ht
  | reconciler r =>
    refine ⟨fun hs => hf.noHub hs t r d ht, hf.reconcilerToken t r d ht, ?_,
      fun slot hph => hf.seedSlots t r d slot ht hph⟩
    rintro rfl hcan
    exact hf.current t r ht hcan
  | session => trivial

/-- **A task other than the hub's moves on.** Its new job must fit, a registered worker's
    control task must stay in its loop, and the engine's reconciler must stay a reconciler with
    its token. -/
theorem setTask (hf : Frame e s) {t : TaskId} {v : Option (Job × Bool)}
    (hnew : ∀ j d, v = some (j, d) → s.TaskFits e t j d)
    (hhub : ∀ h, s.hub = some h → h.task ≠ t)
    (hworker : ∀ h, s.hub = some h → s.Serving h → s.cancelled h.token = false →
      ∀ x ∈ h.registry, ∀ k, s.workers x.2 = some k → k.task = t →
        ∃ p d, v = some (.worker x.2 p, d) ∧ p.running = true)
    (hengine : ∀ rr, e.reconciler = some rr → rr.task = t →
      ∃ r d, v = some (.reconciler r, d) ∧ r.token = rr.token) :
    Frame e (s.setTask t v) where
  ordered := hf.ordered
  root := hf.root
  hubEngine := hf.hubEngine
  noHub hs x r d hx := by
    rcases Shape.setTask_eq_some hx with ⟨-, hv⟩ | ⟨-, hx⟩
    · exact (hnew _ _ hv).1 hs
    · exact hf.noHub hs x r d hx
  hubToken := hf.hubToken
  hubTask h hs := by
    rw [Shape.setTask_tasks_of_ne _ (hhub h hs)]
    exact hf.hubTask h hs
  hubOnly x p d hx := by
    rcases Shape.setTask_eq_some hx with ⟨rfl, hv⟩ | ⟨-, hx⟩
    · exact hnew _ _ hv
    · exact hf.hubOnly x p d hx
  hubOpen h p hs hx := by
    rw [Shape.setTask_tasks_of_ne _ (hhub h hs)] at hx
    exact hf.hubOpen h p hs hx
  sorted := hf.sorted
  distinct := hf.distinct
  registered := hf.registered
  questions := hf.questions
  workerToken := hf.workerToken
  workerTokenInj := hf.workerTokenInj
  control x wid p d hx := by
    rcases Shape.setTask_eq_some hx with ⟨rfl, hv⟩ | ⟨-, hx⟩
    · exact (hnew _ _ hv).1
    · exact hf.control x wid p d hx
  unanswered := hf.unanswered
  applying x wid c d hx := by
    rcases Shape.setTask_eq_some hx with ⟨rfl, hv⟩ | ⟨-, hx⟩
    · exact (hnew _ _ hv).2 c rfl
    · exact hf.applying x wid c d hx
  stoppers x wid b d hx := by
    rcases Shape.setTask_eq_some hx with ⟨rfl, hv⟩ | ⟨-, hx⟩
    · exact hnew _ _ hv
    · exact hf.stoppers x wid b d hx
  healthy h hs hsv hcan x hx := by
    have hsv' : s.Serving h := by
      unfold Shape.Serving at hsv ⊢
      rwa [Shape.setTask_tasks_of_ne _ (hhub h hs)] at hsv
    obtain ⟨k, hk, hso, hro, hkc, p, d, hd, hp⟩ := hf.healthy h hs hsv' hcan x hx
    refine ⟨k, hk, hso, hro, hkc, ?_⟩
    by_cases hkt : k.task = t
    · -- the worker's control task is the one that moves on
      obtain ⟨p', d', hv, hp'⟩ := hworker h hs hsv' hcan x hx k hk hkt
      exact ⟨p', d', by rw [hkt, Shape.setTask_tasks_self, hv], hp'⟩
    · exact ⟨p, d, by rwa [Shape.setTask_tasks_of_ne _ hkt], hp⟩
  helpers x wid r d hx := by
    rcases Shape.setTask_eq_some hx with ⟨rfl, hv⟩ | ⟨-, hx⟩
    · exact hnew _ _ hv
    · exact hf.helpers x wid r d hx
  reconcilerToken x r d hx := by
    rcases Shape.setTask_eq_some hx with ⟨rfl, hv⟩ | ⟨-, hx⟩
    · exact (hnew _ _ hv).2.1
    · exact hf.reconcilerToken x r d hx
  current x r hx hcan := by
    rcases Shape.setTask_eq_some hx with ⟨rfl, hv⟩ | ⟨-, hx⟩
    · exact (hnew _ _ hv).2.2.1 rfl hcan
    · exact hf.current x r hx hcan
  engineReconciler rr hrr := by
    by_cases hx : rr.task = t
    · obtain ⟨r, d, hv, htok⟩ := hengine rr hrr hx
      exact ⟨r, d, by rw [hx, Shape.setTask_tasks_self, hv], htok⟩
    · obtain ⟨r, d, hd, htok⟩ := hf.engineReconciler rr hrr
      exact ⟨r, d, by rwa [Shape.setTask_tasks_of_ne _ hx], htok⟩
  seedSlots x r d slot hx hph := by
    rcases Shape.setTask_eq_some hx with ⟨rfl, hv⟩ | ⟨-, hx⟩
    · exact (hnew _ _ hv).2.2.2 slot hph
    · exact hf.seedSlots x r d slot hx hph

/-- **A worker's record changes.** Its token must be made under the hub's and be no other
    worker's, its control task must be the one running it, and while it is registered with a
    serving hub it must stay open, uncancelled and in its loop. -/
theorem setWorker (hf : Frame e s) {wid : Nat} {v : WorkerShape}
    (htok : v.token < s.tokenCount ∧ ∃ h, s.hub = some h ∧ s.parentOf v.token = some h.token)
    (hinj : ∀ wid' k, wid' ≠ wid → s.workers wid' = some k → k.token ≠ v.token)
    (hctl : ∀ t p d, s.tasks t = some (.worker wid p, d) → v.task = t)
    (hun : v.unanswered = true)
    (hreg : ∀ h, s.hub = some h → s.Serving h → s.cancelled h.token = false →
      wid ∈ h.registry.map (·.2) → v.senderOpen = true ∧ v.receiverOpen = true ∧
        s.cancelled v.token = false ∧ ∃ p d, s.tasks v.task = some (.worker wid p, d) ∧ p.running = true) :
    Frame e (s.setWorker wid (some v)) where
  ordered := hf.ordered
  root := hf.root
  hubEngine := hf.hubEngine
  noHub := hf.noHub
  hubToken := hf.hubToken
  hubTask := hf.hubTask
  hubOnly := hf.hubOnly
  hubOpen := hf.hubOpen
  sorted := hf.sorted
  distinct := hf.distinct
  registered h hs x hx := by
    by_cases hw : x.2 = wid
    · simp [hw]
    · simpa [hw] using hf.registered h hs x hx
  questions := hf.questions
  workerToken x k hk := by
    by_cases hw : x = wid
    · subst hw
      simp only [Shape.setWorker_workers, Function.update_self, Option.some.injEq] at hk
      exact hk ▸ htok
    · simp only [Shape.setWorker_workers, Function.update_of_ne hw] at hk
      exact hf.workerToken x k hk
  workerTokenInj a b ka kb ha hb heq := by
    by_cases haw : a = wid <;> by_cases hbw : b = wid
    · exact haw.trans hbw.symm
    · subst haw
      simp only [Shape.setWorker_workers, Function.update_self, Option.some.injEq,
        Function.update_of_ne hbw] at ha hb
      exact absurd (ha ▸ heq).symm (hinj b kb hbw hb)
    · subst hbw
      simp only [Shape.setWorker_workers, Function.update_self, Option.some.injEq,
        Function.update_of_ne haw] at ha hb
      exact absurd (hb ▸ heq) (hinj a ka haw ha)
    · simp only [Shape.setWorker_workers, Function.update_of_ne haw, Function.update_of_ne hbw] at ha hb
      exact hf.workerTokenInj a b ka kb ha hb heq
  control t x p d ht := by
    by_cases hw : x = wid
    · subst hw
      exact ⟨v, by simp, hctl t p d ht⟩
    · simpa [hw] using hf.control t x p d ht
  unanswered x k hk := by
    by_cases hw : x = wid
    · subst hw
      simp only [Shape.setWorker_workers, Function.update_self, Option.some.injEq] at hk
      exact hk ▸ hun
    · simp only [Shape.setWorker_workers, Function.update_of_ne hw] at hk
      exact hf.unanswered x k hk
  applying := hf.applying
  stoppers t x b d ht := by
    obtain ⟨hx, hreg'⟩ := hf.stoppers t x b d ht
    refine ⟨?_, hreg'⟩
    by_cases hw : x = wid
    · simp [hw]
    · simpa [hw] using hx
  healthy h hs hsv hcan x hx := by
    by_cases hw : x.2 = wid
    · obtain ⟨hso, hro, hvc, p, d, hd, hp⟩ :=
        hreg h hs hsv hcan (List.mem_map.2 ⟨x, hx, hw⟩)
      exact ⟨v, by simp [hw], hso, hro, hvc, p, d, hw ▸ hd, hp⟩
    · simpa [hw] using hf.healthy h hs hsv hcan x hx
  helpers := hf.helpers
  reconcilerToken := hf.reconcilerToken
  current := hf.current
  engineReconciler := hf.engineReconciler
  seedSlots := hf.seedSlots

/-- **The hub's record changes**, keeping its token and task. Its queue keeps its receiver while
    its task runs, its registry stays ascending by symbol, with distinct workers that exist, none
    of them being stopped, and healthy while the hub serves uncancelled; every question in its
    queue has its reply slot. -/
theorem setHub (hf : Frame e s) {h h' : HubShape} (hs : s.hub = some h)
    (htoken : h'.token = h.token) (htask : h'.task = h.task)
    (hopen : ∀ p, s.tasks h.task = some (.hub p, false) → h'.receiverOpen = true)
    (hsorted : h'.keys.Pairwise (· < ·)) (hdistinct : (h'.registry.map (·.2)).Nodup)
    (hreg : ∀ x ∈ h'.registry, s.workers x.2 ≠ none)
    (hq : ∀ q ∈ h'.requests, ∀ r, q.reply? = some r → s.replies r ≠ none)
    (hstop : ∀ t wid b d, s.tasks t = some (.stopper wid b, d) → wid ∉ h'.registry.map (·.2))
    (hhealthy : s.Serving h → s.cancelled h.token = false → ∀ x ∈ h'.registry, ∃ k,
      s.workers x.2 = some k ∧ k.senderOpen = true ∧ k.receiverOpen = true ∧
        s.cancelled k.token = false ∧ ∃ p d, s.tasks k.task = some (.worker x.2 p, d) ∧
          p.running = true) :
    Frame e (s.setHub (some h')) where
  ordered := hf.ordered
  root := hf.root
  hubEngine := by
    simp only [Shape.setHub_hub, Option.map_some, htoken, htask]
    simpa [hs] using hf.hubEngine
  noHub hs' := nomatch hs'
  hubToken x hx := by
    cases hx
    rw [htoken]
    exact hf.hubToken h hs
  hubTask x hx := by
    cases hx
    rw [htask]
    exact hf.hubTask h hs
  hubOnly t p d ht := by
    obtain ⟨h₀, hs₀, rfl⟩ := hf.hubOnly t p d ht
    rw [hs, Option.some.injEq] at hs₀
    subst hs₀
    exact ⟨h', rfl, htask⟩
  hubOpen x p hx ht := by
    cases hx
    rw [htask] at ht
    exact hopen p ht
  sorted x hx := by cases hx; exact hsorted
  distinct x hx := by cases hx; exact hdistinct
  registered x hx := by cases hx; exact hreg
  questions x hx := by cases hx; exact hq
  workerToken wid k hk := by
    obtain ⟨hlt, h₀, hs₀, hpar⟩ := hf.workerToken wid k hk
    rw [hs, Option.some.injEq] at hs₀
    subst hs₀
    exact ⟨hlt, h', rfl, htoken ▸ hpar⟩
  workerTokenInj := hf.workerTokenInj
  control := hf.control
  unanswered := hf.unanswered
  applying := hf.applying
  stoppers t wid b d ht := by
    refine ⟨(hf.stoppers t wid b d ht).1, fun x hx => ?_⟩
    cases hx
    exact hstop t wid b d ht
  healthy x hx hsv hcan := by
    cases hx
    rw [htoken] at hcan
    have hsv' : s.Serving h := by unfold Shape.Serving at hsv ⊢; rwa [← htask]
    exact hhealthy hsv' hcan
  helpers := hf.helpers
  reconcilerToken t r d ht := by
    obtain ⟨hlt, hpar, hh⟩ := hf.reconcilerToken t r d ht
    refine ⟨hlt, hpar, fun x hx => ?_⟩
    cases hx
    rw [htoken]
    exact hh h hs
  current := hf.current
  engineReconciler := hf.engineReconciler
  seedSlots := hf.seedSlots

/-- The requests waiting in the hub's queue change, each question with its reply slot. -/
theorem setRequests (hf : Frame e s) {h : HubShape} (hs : s.hub = some h) (rq : List HubRequest)
    (hq : ∀ q ∈ rq, ∀ r, q.reply? = some r → s.replies r ≠ none) :
    Frame e (s.setHub (some { h with requests := rq })) :=
  hf.setHub hs rfl rfl (fun p hp => hf.hubOpen h p hs hp) (hf.sorted h hs) (hf.distinct h hs)
    (hf.registered h hs) hq (fun t wid b d ht => (hf.stoppers t wid b d ht).2 h hs)
    (fun hsv hcan => hf.healthy h hs hsv hcan)

/-- A worker's queue changes in place: its token and control task stay, no queued command asks
    for an answer, and while it is registered with a serving hub its queue stays open. -/
theorem updateWorker (hf : Frame e s) {wid : Nat} {k : WorkerShape} (hk : s.workers wid = some k)
    {v : WorkerShape} (htok : v.token = k.token) (htask : v.task = k.task) (hun : v.unanswered = true)
    (hopen : ∀ h, s.hub = some h → s.Serving h → s.cancelled h.token = false →
      wid ∈ h.registry.map (·.2) → v.senderOpen = true ∧ v.receiverOpen = true) :
    Frame e (s.setWorker wid (some v)) := by
  refine hf.setWorker (htok ▸ hf.workerToken wid k hk) (fun wid' k' hne hk' heq => ?_)
    (fun t p d ht => ?_) hun fun h hs hsv hcan hreg => ?_
  · exact hne (hf.workerTokenInj _ _ _ _ hk' hk (heq.trans htok))
  · obtain ⟨k', hk', rfl⟩ := hf.control t wid p d ht
    rw [hk, Option.some.injEq] at hk'
    rw [htask, hk']
  · obtain ⟨x, hx, rfl⟩ := List.mem_map.1 hreg
    obtain ⟨k', hk', -, -, hkc, rest⟩ := hf.healthy h hs hsv hcan x hx
    rw [hk, Option.some.injEq] at hk'
    subst hk'
    obtain ⟨hso, hro⟩ := hopen h hs hsv hcan hreg
    exact ⟨hso, hro, htok ▸ hkc, htask ▸ rest⟩

end Frame

/-! ### Cancelling tokens in a world -/

namespace Frame

variable {e : Engine} {w : World}

theorem cancelled_mono (w : World) (j : Nat) :
    ∀ i, w.shape.cancelled i = true → (w.tokens.cancel j).1.isCancelled i = true :=
  fun _ hi => Tokens.isCancelled_cancel_of hi

/-- Cancelling token `j` spares the registered workers when none of a serving hub lies under `j`,
    unless the hub's own token is cancelled with it. -/
theorem spares_cancel (hf : Frame e w.shape) {j : Nat}
    (hj : ∀ h, w.shape.hub = some h → w.shape.Serving h →
      (w.tokens.cancel j).1.isCancelled h.token = false →
      ∀ x ∈ h.registry, ∀ k, w.shape.workers x.2 = some k → ¬ w.tokens.Under k.token j) :
    w.shape.Spares (w.tokens.cancel j).1.isCancelled := by
  intro h hs hsv hcan x hx k hk
  cases hk' : (w.tokens.cancel j).1.isCancelled k.token
  · rfl
  · rcases Tokens.isCancelled_cancel hk' with hold | hund
    · -- a registered worker's token was not cancelled before
      obtain ⟨k', hk'', -, -, hkc, -⟩ :=
        hf.healthy h hs hsv (uncancelled_of (cancelled_mono w j) hcan) x hx
      rw [hk, Option.some.injEq] at hk''
      subst hk''
      exact absurd hold (by simp [World.shape, World.cancelled] at hkc; simp [hkc])
    · exact absurd hund (hj h hs hsv hcan x hx k hk)

/-- Below a registered worker's token lie only its own token, the hub's and those above it. -/
theorem under_registered (hf : Frame e w.shape) {h : HubShape} (hs : w.shape.hub = some h)
    {x : Symbol × Nat} {k : WorkerShape} (hk : w.shape.workers x.2 = some k) {j : Nat}
    (hu : w.tokens.Under k.token j) : k.token = j ∨ j ≤ h.token := by
  rcases Tokens.under_iff.1 hu with heq | ⟨p, hp, hpu⟩
  · exact .inl heq
  · obtain ⟨-, h', hh', hpar⟩ := hf.workerToken _ k hk
    rw [hs, Option.some.injEq] at hh'
    subst hh'
    have hph : p = h.token := Option.some.inj (hp.symm.trans hpar)
    subst hph
    exact .inr (Tokens.Under.le hf.ordered hpu)

/-- Cancelling a worker that is not registered spares the registered ones. -/
theorem spares_unregistered (hf : Frame e w.shape) {wid : Nat} {k₀ : WorkerShape}
    (hk₀ : w.shape.workers wid = some k₀)
    (hwid : ∀ h, w.shape.hub = some h → w.shape.Serving h → w.shape.cancelled h.token = false →
      wid ∉ h.registry.map (·.2)) :
    w.shape.Spares (w.tokens.cancel k₀.token).1.isCancelled := by
  refine hf.spares_cancel fun h hs hsv hcan x hx k hk hu => ?_
  rcases hf.under_registered hs hk hu with heq | hle
  · -- the same token names the same worker
    have := hf.workerTokenInj _ _ _ _ hk hk₀ heq
    exact hwid h hs hsv (uncancelled_of (cancelled_mono w _) hcan) (List.mem_map.2 ⟨x, hx, this⟩)
  · obtain ⟨-, h', hh', hpar⟩ := hf.workerToken _ _ hk₀
    rw [hs, Option.some.injEq] at hh'
    subst hh'
    exact absurd (hf.ordered _ _ hpar) (Nat.not_lt.2 hle)

/-- Cancelling a reconciler spares the registered workers. -/
theorem spares_reconciler (hf : Frame e w.shape) {t : TaskId} {r : ReconcilerState} {d : Bool}
    (ht : w.shape.tasks t = some (.reconciler r, d)) :
    w.shape.Spares (w.tokens.cancel r.token).1.isCancelled := by
  obtain ⟨-, hroot, hafter⟩ := hf.reconcilerToken t r d ht
  refine hf.spares_cancel fun h hs _ _ x hx k hk hu => ?_
  rcases hf.under_registered hs hk hu with heq | hle
  · -- a worker's token is made under the hub's, a reconciler's under the root
    obtain ⟨-, h', hh', hpar⟩ := hf.workerToken _ _ hk
    rw [hs, Option.some.injEq] at hh'
    subst hh'
    have hroot' : h.token = e.root := Option.some.inj (hpar.symm.trans (heq ▸ hroot))
    have := hf.ordered _ _ (hf.hubToken h hs).2
    omega
  · exact absurd (hafter h hs) (Nat.not_lt.2 hle)

/-- Cancelling the hub's token spares the registered workers: it leaves no serving hub
    uncancelled. -/
theorem spares_hubToken (hf : Frame e w.shape) {h : HubShape} (hs : w.shape.hub = some h) :
    w.shape.Spares (w.tokens.cancel h.token).1.isCancelled := by
  refine hf.spares_cancel fun h' hs' _ hcan => ?_
  rw [hs, Option.some.injEq] at hs'
  subst hs'
  rw [Tokens.isCancelled_cancel_self (hf.hubToken h hs).1] at hcan
  cases hcan

/-- Any token may be cancelled while the hub does not serve. -/
theorem spares_of_not_serving (hns : ∀ h, w.shape.hub = some h → ¬ w.shape.Serving h) (j : Nat) :
    w.shape.Spares (w.tokens.cancel j).1.isCancelled :=
  fun h hs hsv => absurd hsv (hns h hs)

/-- Cancelling a token in a world keeps the frame when it spares the registered workers. -/
theorem cancel_world (hf : Frame e w.shape) {j : Nat}
    (hsp : w.shape.Spares (w.tokens.cancel j).1.isCancelled) : Frame e (w.cancel j).shape := by
  rw [World.shape_cancel]
  exact hf.cancel (cancelled_mono w j) hsp

end Frame

namespace Coherent

variable {e : Engine} {s s' : Shape}

/-- The frame after a change, with every running reconciler's agreement carried over from
    before, gives the invariant. -/
theorem of_frame (hc : Coherent e s) (hf : Frame e s')
    (hagree : ∀ t r h', s'.tasks t = some (.reconciler r, false) → s'.cancelled r.token = false →
      s'.hub = some h' → s'.Serving h' → ∃ h, s.tasks t = some (.reconciler r, false) ∧
        s.cancelled r.token = false ∧ s.hub = some h ∧ s.Serving h ∧
        (s.Agrees h t r → s'.Agrees h' t r)) :
    Coherent e s' where
  toFrame := hf
  agrees t r h' ht hcan hs hsv := by
    obtain ⟨h, ht₀, hcan₀, hs₀, hsv₀, himp⟩ := hagree t r h' ht hcan hs hsv
    exact himp (hc.agrees t r h ht₀ hcan₀ hs₀ hsv₀)

/-- A task that takes up a quiet job keeps the agreement: no reconciler, helper or hub
    appears. -/
theorem setTask_quiet (hc : Coherent e s) {t : TaskId} {v : Option (Job × Bool)}
    (hf : Frame e (s.setTask t v)) (hv : ∀ j d, v = some (j, d) → j.quiet = true) : Coherent e (s.setTask t v) := by
  -- a task that is not quiet in the new shape is not `t`, so it is as it was
  have hback : ∀ x j d, (s.setTask t v).tasks x = some (j, d) → j.quiet = false →
      s.tasks x = some (j, d) := by
    intro x j d hx hj
    rcases Shape.setTask_eq_some hx with ⟨-, hv'⟩ | ⟨-, hx⟩
    · rw [hv j d hv'] at hj; cases hj
    · exact hx
  refine hc.of_frame hf fun x r h ht hcan hs hsv => ⟨h, hback x _ _ ht rfl, hcan, hs,
    hback _ _ _ hsv rfl, fun ha => ha.transfer (fun slot _ hsd => hsd.transfer rfl ?_ ?_) id⟩
  · intro t' wid d ht'
    exact ⟨d, hback _ _ _ ht' rfl⟩
  · intro t' r' d _ ht' hph
    exact ⟨r', d, hback _ _ _ ht' rfl, hph⟩

/-- A change that leaves the tasks, tokens, reply slots and hub as they are keeps the agreement. -/
theorem of_frame_of_eq (hc : Coherent e s) (hf : Frame e s') (ht : s'.tasks = s.tasks)
    (hca : s'.cancelled = s.cancelled) (hh : s'.hub = s.hub) (hr : s'.replies = s.replies) :
    Coherent e s' := by
  refine hc.of_frame hf fun t r h hx hcan hs hsv => ⟨h, ht ▸ hx, hca ▸ hcan, hh ▸ hs,
    by unfold Shape.Serving at hsv ⊢; rwa [ht] at hsv, fun ha => ha.transfer
      (fun slot _ hsd => hsd.transfer (by rw [hr]) ?_ ?_) id⟩
  · intro t' wid d ht'
    exact ⟨d, ht ▸ ht'⟩
  · intro t' r' d _ ht' hph
    exact ⟨r', d, ht ▸ ht', hph⟩

/-- **A question joins the hub's queue.** It carries no command, and its reply slot exists and is
    not the seed slot of a running reconciler. -/
theorem pushQuestion (hc : Coherent e s) {h : HubShape} (hs : s.hub = some h) {q : HubRequest}
    (hcmd : q.command? = none)
    (hslot : ∀ r, q.reply? = some r → s.replies r ≠ none ∧
      ∀ t rr, s.tasks t = some (.reconciler rr, false) → s.cancelled rr.token = false →
        rr.phase ≠ .awaitingSeed r) :
    Coherent e (s.setHub (some { h with requests := h.requests ++ [q] })) := by
  have hf := hc.toFrame.setRequests hs (h.requests ++ [q]) fun q' hq' r hr => by
    rcases List.mem_append.1 hq' with hq' | hq'
    · exact hc.questions h hs q' hq' r hr
    · rw [List.mem_singleton.1 hq'] at hr
      exact (hslot r hr).1
  refine hc.of_frame hf fun t r h' ht hcan hs' hsv => ?_
  cases hs'
  refine ⟨h, ht, hcan, hs, hsv, fun ha => ha.transfer (fun slot hph hsd => ?_) ?_⟩
  · -- the question is not the seed's, so the seed stays in the queue ahead of it or answered
    have hne : q.reply? ≠ some slot := fun hq => (hslot slot hq).2 t r ht hcan hph
    obtain ⟨hq, hhelp, hrec⟩ := hsd
    refine ⟨?_, hhelp, hrec⟩
    rcases hq with ⟨pre, post, hreq, hpre, hcmd', hr⟩ | ⟨hall, so, ro, hr⟩
    · refine .inl ⟨pre, post ++ [q], by simp [hreq], fun q' hq' => ?_, fun q' hq' => ?_, hr⟩
      · have hq'' : q' ∈ pre ++ post ∨ q' = q := by simpa [or_assoc] using hq'
        rcases hq'' with hq'' | rfl
        · exact hpre q' hq''
        · exact hne
      · rcases List.mem_append.1 hq' with hq' | hq'
        · exact hcmd' q' hq'
        · rw [List.mem_singleton.1 hq']; exact hcmd
    · refine .inr ⟨fun q' hq' => ?_, so, ro, hr⟩
      rcases List.mem_append.1 hq' with hq' | hq'
      · exact hall q' hq'
      · rw [List.mem_singleton.1 hq']; exact ⟨hne, hcmd⟩
  · -- a question adds no command
    intro hk
    simpa [HubShape.pending, HubShape.keys, List.filterMap_append, hcmd] using hk

theorem updateWorker (hc : Coherent e s) {wid : Nat} {k : WorkerShape} (hk : s.workers wid = some k)
    {v : WorkerShape} (htok : v.token = k.token) (htask : v.task = k.task) (hun : v.unanswered = true)
    (hopen : ∀ h, s.hub = some h → s.Serving h → s.cancelled h.token = false →
      wid ∈ h.registry.map (·.2) → v.senderOpen = true ∧ v.receiverOpen = true) :
    Coherent e (s.setWorker wid (some v)) :=
  hc.of_frame_of_eq (hc.toFrame.updateWorker hk htok htask hun hopen) rfl rfl rfl rfl

/-- **A reconciler moves on**, keeping its token. Its new phase must keep what `Agrees` says,
    and it waits on a seed only if it runs uncancelled. -/
theorem setReconciler (hc : Coherent e s) {t : TaskId} {r r' : ReconcilerState} {d : Bool}
    (ht : s.tasks t = some (.reconciler r, d)) (htok : r'.token = r.token)
    (hslot : ∀ slot, r'.phase = .awaitingSeed slot →
      s.replies slot ≠ none ∧ d = false ∧ s.cancelled r.token = false)
    (hagree : d = false → s.cancelled r.token = false → ∀ h, s.hub = some h → s.Serving h →
      (s.setTask t (some (.reconciler r', d))).Agrees h t r') :
    Coherent e (s.setTask t (some (.reconciler r', d))) where
  toFrame := hc.toFrame.setReconciler ht htok hslot
  agrees x rr h hx hcan hs hsv := by
    have hne := hc.ne_hubTask hs ht (fun _ => nofun)
    have hsv' : s.Serving h := by
      unfold Shape.Serving at hsv ⊢
      rwa [Shape.setTask_tasks_of_ne _ hne.symm] at hsv
    rcases Shape.setTask_eq_some hx with ⟨rfl, hv⟩ | ⟨hxt, hx'⟩
    · cases hv
      rw [htok] at hcan
      exact hagree rfl hcan h hs hsv'
    · refine (hc.agrees x rr h hx' hcan hs hsv').transfer (fun slot _ hsd => hsd.transfer rfl ?_ ?_) id
      · intro t' wid d' ht'
        exact ⟨d', Shape.eq_of_setTask ht' nofun⟩
      · intro t' r₁ d' hne' ht' hph
        rcases Shape.setTask_eq_some ht' with ⟨rfl, hv⟩ | ⟨-, ht'⟩
        · -- a reconciler waits on a seed only while it runs uncancelled, so it is this one
          cases hv
          obtain ⟨-, rfl, hcan'⟩ := hslot slot hph
          exact absurd (hc.current_unique ht hcan' hx' hcan) hxt.symm
        · exact ⟨r₁, d', ht', hph⟩

/-- Tasks that end keep the invariant. -/
theorem of_ends (hc : Coherent e s) (he : s.Ends s') (hp : s'.parentOf = s.parentOf)
    (hca : s'.cancelled = s.cancelled) (hn : s'.tokenCount = s.tokenCount)
    (hw : s'.workers = s.workers) (hr : s'.replies = s.replies) (hh : s'.hub = s.hub) :
    Coherent e s' where
  toFrame := hc.toFrame.of_ends he hp hca hn hw hr hh
  agrees t r h' ht hcan hs hsv := by
    obtain ⟨d', hd', hfin⟩ := he.back _ _ _ ht
    obtain rfl := hfin rfl
    exact Shape.Agrees.of_ends he hr
      (hc.agrees t r h' hd' (hca ▸ hcan) (hh ▸ hs) (he.serving hsv))

/-- A task that ends keeps the invariant. -/
theorem finish (hc : Coherent e s) (t : TaskId) : Coherent e (s.finish t) :=
  hc.of_ends (Shape.ends_finish s t) rfl rfl rfl rfl rfl rfl

/-- A token made under an older one keeps the invariant. -/
theorem addToken (hc : Coherent e s) {p : Option Nat} (hp : ∀ q ∈ p, q < s.tokenCount) :
    Coherent e (s.addToken p) where
  toFrame := hc.toFrame.addToken hp
  agrees t r h ht hcan :=
    hc.agrees t r h ht ((Frame.addToken_cancelled (hc.reconcilerToken t r false ht).1 p).symm.trans hcan)

/-- Reply slots that change keep the invariant, as long as no slot goes away and none that a
    running reconciler waits on for its seed against a serving hub changes. -/
theorem setReplies (hc : Coherent e s) {rs : Nat → Option ReplyShape}
    (hsome : ∀ x, s.replies x ≠ none → rs x ≠ none)
    (hkeep : ∀ t r h slot, s.tasks t = some (.reconciler r, false) → s.cancelled r.token = false →
      s.hub = some h → s.Serving h → r.phase = .awaitingSeed slot → rs slot = s.replies slot) :
    Coherent e { s with replies := rs } where
  toFrame := hc.toFrame.setReplies hsome
  agrees t r h ht hcan hs hsv := by
    refine (hc.agrees t r h ht hcan hs hsv).transfer (fun slot hp hsd => ?_) id
    have hslot : rs slot = s.replies slot := hkeep t r h slot ht hcan hs hsv hp
    obtain ⟨hq, hhelp, hrec⟩ := hsd
    refine ⟨?_, hhelp, hrec⟩
    rcases hq with ⟨pre, post, hreq, hne, hcmd, hr⟩ | ⟨hq, so, ro, hr⟩
    · exact .inl ⟨pre, post, hreq, hne, hcmd, hslot.trans hr⟩
    · exact .inr ⟨hq, so, ro, hslot.trans hr⟩

/-- A new reply slot keeps the invariant. -/
theorem addReply (hc : Coherent e s) {r : Nat} (hr : s.replies r = none) (v : ReplyShape) :
    Coherent e (s.setReply r (some v)) := by
  refine hc.setReplies (fun x hx => ?_) (fun t rr h slot ht hcan hs hsv hph => ?_)
  · simp only [Function.update_apply]
    split
    · simp
    · exact hx
  · have hne : slot ≠ r := fun h => hc.seedSlots t rr false slot ht hph (h ▸ hr)
    simp [hne]

/-- A reply slot that no running reconciler waits on for its seed against a serving hub may
    change in place. -/
theorem mapReply (hc : Coherent e s) (r : Nat) (f : ReplyShape → ReplyShape)
    (hr : ∀ t rr h, s.tasks t = some (.reconciler rr, false) → s.cancelled rr.token = false →
      s.hub = some h → s.Serving h → rr.phase ≠ .awaitingSeed r) :
    Coherent e (s.setReply r ((s.replies r).map f)) := by
  refine hc.setReplies (fun x hx => ?_) fun t rr h slot ht hcan hs hsv hph => ?_
  · by_cases hxr : x = r
    · subst hxr; simpa using hx
    · rwa [Function.update_of_ne hxr]
  · have hne : slot ≠ r := by
      rintro rfl
      exact hr t rr h ht hcan hs hsv hph
    exact Function.update_of_ne hne _ _

/-- **Cancelling.** Cancelling tokens keeps the invariant when it spares the registered workers
    of a serving hub. -/
theorem cancel (hc : Coherent e s) {c : Nat → Bool} (hmono : ∀ i, s.cancelled i = true → c i = true)
    (hsp : s.Spares c) : Coherent e { s with cancelled := c } where
  toFrame := hc.toFrame.cancel hmono hsp
  agrees t r h ht hcan := hc.agrees t r h ht (Frame.uncancelled_of hmono hcan)

/-- Cancelling a token in a world keeps the invariant when it spares the registered workers. -/
theorem cancel_world {w : World} (hc : Coherent e w.shape) {j : Nat}
    (hsp : w.shape.Spares (w.tokens.cancel j).1.isCancelled) : Coherent e (w.cancel j).shape := by
  rw [World.shape_cancel]
  exact hc.cancel (Frame.cancelled_mono w j) hsp

end Coherent

end RobotTrading
