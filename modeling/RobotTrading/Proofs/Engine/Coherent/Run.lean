import RobotTrading.Proofs.Engine.Coherent.Hub

/-!
# Runs of the engine keep the reconciler and the hub together

An engine runs as its tasks take steps, interleaved with what its owner does to it (start it,
stop its reconciler, cancel the hub or the root) and with what the session does through the
hub's handle: ask the hub questions through reply slots of its own. Nobody but the engine's
reconciler sends commands to the hub. `EngineMove` lists these moves; every one keeps
`Coherent`, which holds of a fresh world with its root token, so it holds all along every run.

Read back on the world, the invariant says three things. A seeded reconciler running
uncancelled beside a serving hub knows exactly the registered symbols with the commands still
waiting in the hub's queue carried out, so once the hub has handled every command sent, it knows
the registered symbols. A reconciler waiting for its seed, once answered, is answered with the
registered symbols and no command waiting. And while the hub serves uncancelled, the queue of
every registered worker is open, so a broadcast never finds it closed and never drops a worker.

## Main definitions

* `World.SeedFree` : no reconciler waits on a reply slot for its seed.
* `World.Runs` : a task runs a job and has not ended.
* `EngineMove` : what can happen to an engine and its world.

## Main statements

* `Coherent.step` : a step of any task keeps the invariant.
* `Coherent.startEngine`, `Coherent.stop`, `Coherent.cancelHub`, `Coherent.cancelRoot` : so do
  the owner's actions.
* `Coherent.askHub`, `Coherent.dropQuestion`, `Coherent.leaveReply` : so do the session's
  questions through its own slots.
* `coherent_of_moves` : so does every run from a fresh engine.
* `reconciler_tracks_hub` : what the invariant says of every run.
-/

namespace RobotTrading

namespace World

/-- No reconciler waits on reply slot `r` for its seed: the slot is another task's own, as a
    slot the session makes for its questions is. -/
def SeedFree (w : World) (r : Nat) : Prop :=
  ∀ (t : TaskId) (k : Task) (rr : ReconcilerState), w.tasks[t]? = some k → k.job = .reconciler rr →
    rr.phase ≠ .awaitingSeed r

/-- Task `t` runs job `j` and has not ended. -/
def Runs (w : World) (t : TaskId) (j : Job) : Prop :=
  ∃ k, w.tasks[t]? = some k ∧ k.job = j ∧ k.done = false

variable {w : World}

theorem SeedFree.shape {r : Nat} (h : w.SeedFree r) :
    ∀ t rr d, w.shape.tasks t = some (.reconciler rr, d) → rr.phase ≠ .awaitingSeed r := by
  intro t rr d ht
  cases hk : w.tasks[t]? with
  | none => simp [World.shape, hk] at ht
  | some k =>
    simp only [World.shape, hk, Option.bind_some, Task.shape] at ht
    split at ht
    · cases ht
    · simp only [Option.some.injEq, Prod.mk.injEq] at ht
      exact h t k rr hk ht.1

theorem Runs.shape {t : TaskId} {j : Job} (h : w.Runs t j) (hj : j.isReader = false) :
    w.shape.tasks t = some (j, false) := by
  obtain ⟨k, hk, rfl, hd⟩ := h
  simp [World.shape, hk, Task.shape, hj, hd]

theorem shape_spawnHub (w : World) (capacity tok : Nat) :
    (w.spawnHub capacity tok).1.shape =
      (w.shape.setHub (some ⟨[], true, [], tok, w.tasks.size⟩)).setTask w.tasks.size
        (some (.hub .serving, false)) := by
  unfold spawnHub
  rw [shape_spawn]
  rfl

end World

namespace Frame

variable {e : Engine} {s : Shape}

/-- The owner's record names a hub exactly when there is one, with its token. -/
theorem hub_of_engine (hf : Frame e s) {hr : Running} (hh : e.hub = some hr) :
    ∃ h, s.hub = some h ∧ h.token = hr.token := by
  have he := hf.hubEngine
  rw [hh] at he
  cases hs : s.hub with
  | none => simp [hs] at he
  | some h =>
    simp only [hs, Option.map_some, Option.some.injEq, Prod.mk.injEq] at he
    exact ⟨h, rfl, he.1.symm⟩

theorem hub_eq_none (hf : Frame e s) (hh : e.hub = none) : s.hub = none := by
  have he := hf.hubEngine
  rw [hh] at he
  cases hs : s.hub with
  | none => rfl
  | some _ => simp [hs] at he

/-- Without a hub there is no worker: every worker is made under the hub's token. -/
theorem no_worker (hf : Frame e s) (hs : s.hub = none) (wid : Nat) : s.workers wid = none := by
  cases hk : s.workers wid with
  | none => rfl
  | some k =>
    obtain ⟨-, h, hh, -⟩ := hf.workerToken wid k hk
    rw [hs] at hh
    cases hh

/-- Without a hub the record names no reconciler: a reconciler runs only beside the hub. -/
theorem reconciler_eq_none (hf : Frame e s) (hs : s.hub = none) : e.reconciler = none := by
  cases hr : e.reconciler with
  | none => rfl
  | some rr =>
    obtain ⟨r, d, hd, -⟩ := hf.engineReconciler rr hr
    exact absurd hd (hf.noHub hs _ r d)

/-- The owner's record changes while the shape stays: the root and the hub stay, and the record
    names the one reconciler that runs uncancelled, if any. -/
theorem reengine (hf : Frame e s) {e' : Engine} (hroot : e'.root = e.root) (hhub : e'.hub = e.hub)
    (hcur : ∀ t r, s.tasks t = some (.reconciler r, false) → s.cancelled r.token = false →
      e'.reconciler = some ⟨r.token, t⟩)
    (heng : ∀ rr, e'.reconciler = some rr →
      ∃ r d, s.tasks rr.task = some (.reconciler r, d) ∧ r.token = rr.token) :
    Frame e' s :=
  { hf with
    root := hroot ▸ hf.root
    hubEngine := hhub ▸ hf.hubEngine
    hubToken := hroot ▸ hf.hubToken
    reconcilerToken := hroot ▸ hf.reconcilerToken
    current := hcur
    engineReconciler := heng }

/-- **The owner starts a hub** where there is none: serving, under a fresh token made under the
    root, with its queue open and empty and nothing registered. Without a hub there was no worker
    and no reconciler, so nothing else has to fit it. -/
theorem startHub (hf : Frame e s) (hs : s.hub = none) {tok tn : Nat} (htok : tok < s.tokenCount)
    (hpar : s.parentOf tok = some e.root) (htn : s.tasks tn = none) :
    Frame { e with hub := some ⟨tok, tn⟩ }
      ((s.setHub (some ⟨[], true, [], tok, tn⟩)).setTask tn (some (.hub .serving, false))) := by
  have hnew : ∀ h, ((s.setHub (some ⟨[], true, [], tok, tn⟩)).setTask tn
      (some (.hub .serving, false))).hub = some h → h = ⟨[], true, [], tok, tn⟩ := by
    intro h hh
    simpa using hh.symm
  have hnone : ∀ x r d, s.tasks x ≠ some (.reconciler r, d) := hf.noHub hs
  exact {
    ordered := hf.ordered
    root := hf.root
    hubEngine := rfl
    noHub := fun hn => by simp at hn
    hubToken := fun h hh => by
      obtain rfl := hnew h hh
      exact ⟨htok, hpar⟩
    hubTask := fun h hh => by
      obtain rfl := hnew h hh
      exact ⟨.serving, false, by simp⟩
    hubOnly := fun x p d hx => by
      rcases Shape.setTask_eq_some hx with ⟨rfl, -⟩ | ⟨-, hx⟩
      · exact ⟨_, rfl, rfl⟩
      · obtain ⟨h, hh, -⟩ := hf.hubOnly x p d hx
        rw [hs] at hh
        cases hh
    hubOpen := fun h p hh _ => by
      obtain rfl := hnew h hh
      rfl
    sorted := fun h hh => by
      obtain rfl := hnew h hh
      exact List.Pairwise.nil
    distinct := fun h hh => by
      obtain rfl := hnew h hh
      exact List.nodup_nil
    registered := fun h hh x hx => by
      obtain rfl := hnew h hh
      cases hx
    questions := fun h hh q hq => by
      obtain rfl := hnew h hh
      cases hq
    workerToken := fun wid k hk => by
      rw [Shape.setTask_workers, Shape.setHub_workers, hf.no_worker hs] at hk
      cases hk
    workerTokenInj := hf.workerTokenInj
    control := fun x wid p d hx => hf.control x wid p d (Shape.eq_of_setTask hx nofun)
    unanswered := hf.unanswered
    applying := fun x wid c d hx => hf.applying x wid c d (Shape.eq_of_setTask hx nofun)
    stoppers := fun x wid b d hx => ⟨(hf.stoppers x wid b d (Shape.eq_of_setTask hx nofun)).1,
      fun h hh => by obtain rfl := hnew h hh; simp⟩
    healthy := fun h hh _ _ x hx => by
      obtain rfl := hnew h hh
      cases hx
    helpers := fun x wid r d hx => hf.helpers x wid r d (Shape.eq_of_setTask hx nofun)
    reconcilerToken := fun x r d hx => absurd (Shape.eq_of_setTask hx nofun) (hnone x r d)
    current := fun x r hx _ => absurd (Shape.eq_of_setTask hx nofun) (hnone x r false)
    engineReconciler := fun rr hrr => by
      simp [hf.reconciler_eq_none hs] at hrr
    seedSlots := fun x r d _ hx _ => absurd (Shape.eq_of_setTask hx nofun) (hnone x r d) }

/-- **The owner starts a reconciler** while the record names none: a task in its first phase,
    under a fresh token made under the root after the hub's. The task is first spawned as ended,
    which fits the old record, then named in the record, then set running. -/
theorem startReconciler (hf : Frame e s) (hr : e.reconciler = none) {h : HubShape}
    (hs : s.hub = some h) {tok tn : Nat} (htok : tok < s.tokenCount)
    (hpar : s.parentOf tok = some e.root) (hafter : h.token < tok) (htn : s.tasks tn = none)
    {r₀ : ReconcilerState} (hr₀ : r₀.token = tok) (hph : r₀.phase = .start) :
    Frame { e with reconciler := some ⟨tok, tn⟩ } (s.setTask tn (some (.reconciler r₀, false))) := by
  have hfits : s.TaskFits e tn (.reconciler r₀) true :=
    ⟨by simp [hs], ⟨hr₀ ▸ htok, hr₀ ▸ hpar, fun h' hs' => by
      rw [hs, Option.some.injEq] at hs'
      exact hs' ▸ hr₀ ▸ hafter⟩, nofun, fun slot h => by rw [hph] at h; cases h⟩
  have hf₁ := hf.spawn htn hfits
  have hf₂ : Frame { e with reconciler := some ⟨tok, tn⟩ }
      (s.setTask tn (some (.reconciler r₀, true))) := by
    refine hf₁.reengine rfl rfl (fun x r hx hcan => ?_) fun rr hrr => ?_
    · -- a reconciler running uncancelled before would be named by the old record
      rcases Shape.setTask_eq_some hx with ⟨-, hv⟩ | ⟨-, hx⟩
      · cases hv
      · have := hf.current x r hx hcan
        rw [hr] at this
        cases this
    · cases hrr
      exact ⟨r₀, true, by simp, hr₀⟩
  have hset : (s.setTask tn (some (.reconciler r₀, true))).setTask tn (some (.reconciler r₀, false)) =
      s.setTask tn (some (.reconciler r₀, false)) := by
    simp [Shape.setTask]
  rw [← hset]
  refine hf₂.setTask (fun j d hv => ?_) (fun h' hs' heq => ?_) (fun h' hs' hsv hcan x hx k hk hkt => ?_)
    fun rr hrr _ => ⟨r₀, false, by cases hrr; rfl, by cases hrr; exact hr₀⟩
  · cases hv
    exact ⟨by simp [hs], ⟨hr₀ ▸ htok, hr₀ ▸ hpar, fun h'' hs'' => by
      rw [Shape.setTask_hub, hs, Option.some.injEq] at hs''
      exact hs'' ▸ hr₀ ▸ hafter⟩, fun _ _ => by rw [hr₀], fun slot h => by rw [hph] at h; cases h⟩
  · -- the hub's task was there before
    rw [Shape.setTask_hub] at hs'
    obtain ⟨p, d, hd⟩ := hf.hubTask h' hs'
    rw [heq, htn] at hd
    cases hd
  · -- so was a registered worker's control task
    obtain ⟨k', hk', -, -, -, p, d, hd, -⟩ := hf₂.healthy h' hs' hsv hcan x hx
    rw [hk, Option.some.injEq] at hk'
    subst hk'
    rw [hkt, Shape.setTask_tasks_self] at hd
    cases hd

/-- Cancelling the root spares the registered workers: it takes the hub's token down with it, or
    the root was down already and nothing changes. -/
theorem spares_root {w : World} (hf : Frame e w.shape) :
    w.shape.Spares (w.tokens.cancel e.root).1.isCancelled := by
  intro h hs hsv hcan x hx k hk
  rcases Tokens.isCancelled_cancel_child (hf.hubToken h hs).2 with hh | hroot
  · rw [hh] at hcan
    cases hcan
  · have hsame : (w.tokens.cancel e.root).1 = w.tokens := by rw [Tokens.cancel_fst, if_pos hroot]
    rw [hsame] at hcan ⊢
    obtain ⟨k', hk', -, -, hkc, -⟩ := hf.healthy h hs hsv hcan x hx
    rw [hk, Option.some.injEq] at hk'
    subst hk'
    exact hkc

end Frame

namespace Coherent

/-! ### Steps of the tasks and of the owner -/

section Owner

variable {e : Engine} {s : Shape}

/-- The owner's record changes while the shape stays. -/
theorem reengine (hc : Coherent e s) {e' : Engine} (hroot : e'.root = e.root) (hhub : e'.hub = e.hub)
    (hcur : ∀ t r, s.tasks t = some (.reconciler r, false) → s.cancelled r.token = false →
      e'.reconciler = some ⟨r.token, t⟩)
    (heng : ∀ rr, e'.reconciler = some rr →
      ∃ r d, s.tasks rr.task = some (.reconciler r, d) ∧ r.token = rr.token) :
    Coherent e' s :=
  ⟨hc.toFrame.reengine hroot hhub hcur heng, hc.agrees⟩

/-- Starting a hub keeps the invariant: there is no reconciler to agree with it yet. -/
theorem startHub (hc : Coherent e s) (hs : s.hub = none) {tok tn : Nat} (htok : tok < s.tokenCount)
    (hpar : s.parentOf tok = some e.root) (htn : s.tasks tn = none) :
    Coherent { e with hub := some ⟨tok, tn⟩ }
      ((s.setHub (some ⟨[], true, [], tok, tn⟩)).setTask tn (some (.hub .serving, false))) where
  toFrame := hc.toFrame.startHub hs htok hpar htn
  agrees t r _ ht := absurd (Shape.eq_of_setTask ht nofun) (hc.noHub hs t r false)

/-- Starting a reconciler keeps the invariant: it agrees with the hub before its seed, and the
    others keep their agreement. -/
theorem startReconciler (hc : Coherent e s) (hr : e.reconciler = none) {h : HubShape}
    (hs : s.hub = some h) {tok tn : Nat} (htok : tok < s.tokenCount)
    (hpar : s.parentOf tok = some e.root) (hafter : h.token < tok) (htn : s.tasks tn = none)
    {r₀ : ReconcilerState} (hr₀ : r₀.token = tok) (hph : r₀.phase = .start) :
    Coherent { e with reconciler := some ⟨tok, tn⟩ } (s.setTask tn (some (.reconciler r₀, false))) where
  toFrame := hc.toFrame.startReconciler hr hs htok hpar hafter htn hr₀ hph
  agrees t r h' ht hcan hs' hsv := by
    rcases Shape.setTask_eq_some ht with ⟨rfl, hv⟩ | ⟨hne, ht⟩
    · cases hv
      exact Shape.agrees_of_unseeded (.inl hph)
    · have hsv₀ : s.Serving h' := Shape.serving_of_setTask hsv fun _ => nofun
      refine (hc.agrees t r h' ht hcan hs' hsv₀).transfer
        (fun slot _ hsd => hsd.transfer rfl (fun t' wid d ht' => ?_) fun t' r' d _ ht' hph' => ?_) id
      · exact ⟨d, Shape.eq_of_setTask ht' nofun⟩
      · rcases Shape.setTask_eq_some ht' with ⟨-, hv⟩ | ⟨-, ht'⟩
        · -- the new reconciler has not asked for its seed
          cases hv
          rw [hph] at hph'
          cases hph'
        · exact ⟨r', d, ht', hph'⟩

end Owner

section World

variable {e : Engine} {w : World}

/-- **A step of any task keeps the invariant.** A price reader's step keeps the shape; an
    aborted task is dropped where it stands; every other task takes the step its job gives. -/
theorem step (hc : Coherent e w.shape) (t : TaskId) : Coherent e (w.step t).1.shape := by
  unfold World.step
  split
  · exact hc
  rename_i k hk
  -- the shape holds the task as it stands, unless it reads prices
  have ht : ∀ j, k.job = j → j.isReader = false → w.shape.tasks t = some (j, k.done) := by
    intro j hj hr
    simp [World.shape, hk, Task.shape, hj, hr]
  split
  · exact hc
  rename_i hd
  split
  · exact hc.dropTask k.job fun hr => by simp [World.shape, hk, Task.shape, hr]
  have hd' : k.done = false := by simpa using hd
  split
  · rename_i p hj
    exact hc.stepHub (hd' ▸ ht _ hj rfl)
  · rename_i wid p hj
    exact hc.stepWorker (hd' ▸ ht _ hj rfl)
  · rename_i wid tok p hj
    rw [World.shape_stepReader (by simp [World.shape, hk, Task.shape, hj, Job.isReader])]
    exact hc
  · rename_i wid b hj
    exact hc.stepStopper (hd' ▸ ht _ hj rfl)
  · rename_i wid r hj
    exact hc.stepRobotIds (hd' ▸ ht _ hj rfl)
  · rename_i r hj
    exact hc.stepReconciler (hd' ▸ ht _ hj rfl)
  · exact hc

/-- A token made under the root. -/
theorem addRootToken (hc : Coherent e w.shape) : Coherent e (w.shape.addToken (some e.root)) :=
  hc.addToken fun q hq => by
    cases hq
    exact hc.root

/-- The owner starts a hub where there is none. -/
theorem spawnHub (hc : Coherent e w.shape) (he : e.hub = none) :
    Coherent { e with hub := some ⟨w.shape.tokenCount, w.tasks.size⟩ }
      ((w.newToken (some e.root)).1.spawnHub e.hubCapacity w.shape.tokenCount).1.shape := by
  rw [World.shape_spawnHub, World.shape_newToken]
  exact hc.addRootToken.startHub (by simpa using hc.hub_eq_none he) (by simp) (by simp)
    (World.shape_tasks_size w)

/-- The owner starts a reconciler while the record names none and there is a hub. -/
theorem spawnReconciler (hc : Coherent e w.shape) (hr : e.reconciler = none) {h : HubShape}
    (hs : w.shape.hub = some h) :
    Coherent { e with reconciler := some ⟨w.shape.tokenCount, w.tasks.size⟩ }
      ((w.newToken (some e.root)).1.spawn (.reconciler ⟨w.shape.tokenCount, [], 0, .start⟩)).1.shape := by
  rw [World.shape_spawn, World.shape_newToken]
  exact hc.addRootToken.startReconciler hr (by simpa using hs)
    (by simp) (by simp) (hc.hubToken h hs).1 (World.shape_tasks_size w) rfl rfl

/-- **The owner starts the engine**: the hub if there is none, then a reconciler if the record
    names none. -/
theorem startEngine (hc : Coherent e w.shape) :
    Coherent (w.startEngine e).2 (w.startEngine e).1.shape := by
  unfold World.startEngine
  cases he : e.hub with
  | some hr =>
    obtain ⟨h, hs, -⟩ := hc.hub_of_engine he
    cases hrec : e.reconciler with
    | some _ =>
      simp only [hrec]
      exact hc
    | none =>
      simp only [hrec, World.newToken_snd, World.spawn_snd]
      exact hc.spawnReconciler hrec hs
  | none =>
    have hrec := hc.reconciler_eq_none (hc.hub_eq_none he)
    simp only [hrec, World.newToken_snd, World.spawn_snd]
    exact (hc.spawnHub he).spawnReconciler hrec (by rw [World.shape_spawnHub]; rfl)

/-- **The owner stops the reconciler**: its token is cancelled and the record lets it go. The
    reconciler the record named was the only one running uncancelled, and it is cancelled now. -/
theorem stop (hc : Coherent e w.shape) {rr : Running} (hr : e.reconciler = some rr) :
    Coherent { e with reconciler := none } (w.cancel rr.token).shape := by
  obtain ⟨r, d, hd, htok⟩ := hc.engineReconciler rr hr
  have hlt : rr.token < w.tokens.nodes.size := htok ▸ (hc.reconcilerToken _ r d hd).1
  have hc₁ : Coherent e (w.cancel rr.token).shape :=
    hc.cancel_world (htok ▸ hc.toFrame.spares_reconciler hd)
  refine hc₁.reengine rfl rfl (fun t r' ht hcan => ?_) nofun
  rw [World.shape_cancel] at ht hcan
  change w.shape.tasks t = _ at ht
  change (w.tokens.cancel rr.token).1.isCancelled r'.token = false at hcan
  -- an uncancelled reconciler was uncancelled before, so it is the one the record names
  have hcur := hc.current t r' ht (Frame.uncancelled_of (Frame.cancelled_mono w _) hcan)
  rw [hr, Option.some.injEq] at hcur
  have hsame : r'.token = rr.token := by rw [hcur]
  rw [hsame, Tokens.isCancelled_cancel_self hlt] at hcan
  cases hcan

/-- Cancelling the hub's token keeps the invariant. -/
theorem cancelHub (hc : Coherent e w.shape) {hr : Running} (hh : e.hub = some hr) :
    Coherent e (w.cancel hr.token).shape := by
  obtain ⟨h, hs, htok⟩ := hc.hub_of_engine hh
  rw [← htok]
  exact hc.cancel_world (hc.toFrame.spares_hubToken hs)

/-- Cancelling the root keeps the invariant. -/
theorem cancelRoot (hc : Coherent e w.shape) : Coherent e (w.cancel e.root).shape :=
  hc.cancel_world hc.toFrame.spares_root

end World

/-! ### The session's questions -/

section Session

variable {e : Engine} {w : World}

/-- The session makes a reply slot. -/
theorem newReply (hc : Coherent e w.shape) : Coherent e w.newReply.1.shape := by
  rw [World.shape_newReply]
  exact hc.addReply (World.shape_replies_size w) _

/-- The session drops a question it could not send: the slot it answers through, one no
    reconciler waits on for its seed, loses its sender. -/
theorem dropQuestion (hc : Coherent e w.shape) {q : HubRequest}
    (hq : ∀ r, q.reply? = some r → w.SeedFree r) : Coherent e (w.dropRequest q).shape := by
  cases q with
  | command c => exact hc
  | symbols r | robotIds _ r =>
    simp only [World.dropRequest]
    rw [World.shape_dropAnswer]
    exact hc.mapReply r _ fun t rr _ ht _ _ _ => (hq r rfl).shape t rr false ht

/-- **The session asks the hub** a question through a slot of its own: the question joins the
    hub's queue, or is dropped when the queue has no receiver. -/
theorem askHub (hc : Coherent e w.shape) {q : HubRequest} (hq : q.command? = none)
    (hr : ∀ r, q.reply? = some r → w.shape.replies r ≠ none ∧ w.SeedFree r) :
    Coherent e (w.pushRequest q).shape := by
  have hdrop : Coherent e (w.dropRequest q).shape := hc.dropQuestion fun r h => (hr r h).2
  cases hh : w.hub with
  | none =>
    rw [World.pushRequest_of_closed w (by simp [hh])]
    exact hdrop
  | some h =>
    cases ho : h.requests.receiverOpen
    · rw [World.pushRequest_of_closed w (by simp [hh, ho])]
      exact hdrop
    · rw [World.shape_pushRequest_open w hh ho]
      exact hc.pushQuestion (World.shape_hub_of hh) hq
        fun r h => ⟨(hr r h).1, fun t rr ht _ => (hr r h).2.shape t rr false ht⟩

/-- The session stops waiting on a slot of its own. -/
theorem leaveReply (hc : Coherent e w.shape) {r : Nat} (hr : w.SeedFree r) :
    Coherent e (w.leaveReply r).shape := by
  rw [World.shape_leaveReply]
  exact hc.mapReply r _ fun t rr _ ht _ _ _ => hr.shape t rr false ht

end Session

end Coherent

/-! ### Runs -/

/-- What can happen to an engine and its world while only the engine's reconciler sends commands
    to the hub: a step of any task; the owner starting the engine, stopping its reconciler, or
    cancelling the hub or the root; the session making a reply slot, asking the hub a question
    through a slot no reconciler waits on for its seed, dropping such a question, or giving up
    waiting on such a slot; or anything the shape does not see (the clock and the timers, the
    run queue, the feed, the store and its failures, the published updates, tasks aborted or
    joined). -/
inductive EngineMove : Engine × World → Engine × World → Prop
  | step (e : Engine) (w : World) (t : TaskId) : EngineMove (e, w) (e, (w.step t).1)
  | start (e : Engine) (w : World) : EngineMove (e, w) ((w.startEngine e).2, (w.startEngine e).1)
  | stop (e : Engine) (w : World) {rr : Running} (hr : e.reconciler = some rr) :
      EngineMove (e, w) ({ e with reconciler := none }, w.cancel rr.token)
  | cancelHub (e : Engine) (w : World) {hr : Running} (hh : e.hub = some hr) :
      EngineMove (e, w) (e, w.cancel hr.token)
  | cancelRoot (e : Engine) (w : World) : EngineMove (e, w) (e, w.cancel e.root)
  | newReply (e : Engine) (w : World) : EngineMove (e, w) (e, w.newReply.1)
  | ask (e : Engine) (w : World) {q : HubRequest} (hq : q.command? = none)
      (hr : ∀ r, q.reply? = some r → r < w.replies.size ∧ w.SeedFree r) :
      EngineMove (e, w) (e, w.pushRequest q)
  | drop (e : Engine) (w : World) {q : HubRequest} (hr : ∀ r, q.reply? = some r → w.SeedFree r) :
      EngineMove (e, w) (e, w.dropRequest q)
  | leave (e : Engine) (w : World) {r : Nat} (hr : w.SeedFree r) :
      EngineMove (e, w) (e, w.leaveReply r)
  | calm (e : Engine) {w w' : World} (hw : w'.shape = w.shape) : EngineMove (e, w) (e, w')

namespace Coherent

/-- **Every move keeps the invariant.** -/
theorem move {p p' : Engine × World} (hm : EngineMove p p') (hc : Coherent p.1 p.2.shape) :
    Coherent p'.1 p'.2.shape := by
  cases hm with
  | step e w t => exact hc.step t
  | start e w => exact hc.startEngine
  | stop e w hr => exact hc.stop hr
  | cancelHub e w hh => exact hc.cancelHub hh
  | cancelRoot e w => exact hc.cancelRoot
  | newReply e w => exact hc.newReply
  | ask e w hq hr =>
    refine hc.askHub hq fun r h => ⟨?_, (hr r h).2⟩
    simp [World.shape, (hr r h).1]
  | drop e w hr => exact hc.dropQuestion hr
  | leave e w hr => exact hc.leaveReply hr
  | calm e hw =>
    rw [hw]
    exact hc

end Coherent

/-- A fresh world with its root token, before the engine starts: only the session runs. -/
theorem coherent_new (settings : TradingSettings) (store : Store) (feed : ScriptedFeed)
    (updates : UpdateRing) (wall : Instant) (every capacity : Nat) :
    Coherent ⟨0, capacity, none, none⟩
      ((World.new settings store feed updates wall every).newToken none).1.shape := by
  set w := ((World.new settings store feed updates wall every).newToken none).1
  have htasks : ∀ t j d, w.shape.tasks t = some (j, d) → j = .session := by
    intro t j d h
    match t with
    | 0 =>
      simp [w, World.shape, World.new, World.newToken, World.sessionTask, Task.shape, Job.isReader] at h
      exact h.1.symm
    | t + 1 => simp [w, World.shape, World.new, World.newToken] at h
  have hparent : ∀ i, w.shape.parentOf i = none := by
    intro i
    simp only [w, World.shape, World.newToken, World.new]
    rw [Tokens.parentOf_create]
    split <;> rfl
  have hworkers : ∀ wid, w.shape.workers wid = none := by
    intro wid
    simp [w, World.shape, World.worker?, World.new, World.newToken]
  have hhub : w.shape.hub = none := rfl
  exact {
    ordered := fun i p h => by
      rw [hparent] at h
      cases h
    root := by simp [w, World.shape, World.newToken, World.new, Tokens.empty]
    hubEngine := by simp [hhub]
    noHub := fun _ t r d h => by cases htasks t _ d h
    hubToken := fun h hh => by rw [hhub] at hh; cases hh
    hubTask := fun h hh => by rw [hhub] at hh; cases hh
    hubOnly := fun t p d h => by cases htasks t _ d h
    hubOpen := fun h p hh => by rw [hhub] at hh; cases hh
    sorted := fun h hh => by rw [hhub] at hh; cases hh
    distinct := fun h hh => by rw [hhub] at hh; cases hh
    registered := fun h hh => by rw [hhub] at hh; cases hh
    questions := fun h hh => by rw [hhub] at hh; cases hh
    workerToken := fun wid k hk => by rw [hworkers] at hk; cases hk
    workerTokenInj := fun a b ka kb ha => by rw [hworkers] at ha; cases ha
    control := fun t wid p d h => by cases htasks t _ d h
    unanswered := fun wid k hk => by rw [hworkers] at hk; cases hk
    applying := fun t wid c d h => by cases htasks t _ d h
    stoppers := fun t wid b d h => by cases htasks t _ d h
    healthy := fun h hh => by rw [hhub] at hh; cases hh
    helpers := fun t wid r d h => by cases htasks t _ d h
    reconcilerToken := fun t r d h => by cases htasks t _ d h
    current := fun t r h => by cases htasks t _ false h
    engineReconciler := fun rr h => by cases h
    seedSlots := fun t r d slot h => by cases htasks t _ d h
    agrees := fun t r h ht => by cases htasks t _ false ht }

/-- **Every run keeps the invariant.** -/
theorem coherent_of_moves {p p' : Engine × World} (hr : Relation.ReflTransGen EngineMove p p')
    (hc : Coherent p.1 p.2.shape) : Coherent p'.1 p'.2.shape := by
  induction hr with
  | refl => exact hc
  | tail _ hm ih => exact ih.move hm

/-! ### What the invariant says of the world -/

namespace Coherent

variable {e : Engine} {w : World} {t : TaskId} {r : ReconcilerState} {h : Hub}

/-- A seeded reconciler running uncancelled beside a serving hub knows the registered symbols
    with the commands waiting in the hub's queue carried out. -/
theorem known_of_seeded (hc : Coherent e w.shape) (ht : w.Runs t (.reconciler r))
    (hcan : w.cancelled r.token = false) (hh : w.hub = some h) (hsv : w.Runs h.task (.hub .serving))
    (hp : r.phase = .waiting ∨ ∃ cs, r.phase = .sending cs) :
    (h.requests.items.filterMap HubRequest.command?).foldl HubCommand.updateKnown
      (h.workers.map (·.1)) = r.known :=
  (Shape.agrees_seeded hp).1
    (hc.agrees t r h.shape (ht.shape rfl) hcan (World.shape_hub_of hh) (hsv.shape rfl))

/-- A reconciler waiting for its seed, once answered, is answered with the registered symbols,
    and no command waits in the hub's queue. -/
theorem seed_of_answered (hc : Coherent e w.shape) (ht : w.Runs t (.reconciler r))
    (hcan : w.cancelled r.token = false) (hh : w.hub = some h) (hsv : w.Runs h.task (.hub .serving))
    {slot : Nat} (hp : r.phase = .awaitingSeed slot) {x : Reply ReplyValue}
    (hx : w.replies[slot]? = some x) {v : ReplyValue} (hv : x.value = some v) :
    v = .symbols (h.workers.map (·.1)) ∧ h.requests.items.filterMap HubRequest.command? = [] := by
  have ha := hc.agrees t r h.shape (ht.shape rfl) hcan (World.shape_hub_of hh) (hsv.shape rfl)
  rw [Shape.agrees_awaitingSeed hp] at ha
  obtain ⟨⟨pre, post, -, -, -, hrep⟩ | ⟨hq, so, ro, hrep⟩, -, -⟩ := ha
  · -- while the question waits in the queue, the slot holds no answer
    simp only [World.shape, hx, Option.map_some, Option.some.injEq, replyShape,
      ReplyShape.mk.injEq] at hrep
    rw [hrep.1] at hv
    cases hv
  · simp only [World.shape, hx, Option.map_some, Option.some.injEq, replyShape,
      ReplyShape.mk.injEq] at hrep
    rw [hrep.1, Option.some.injEq] at hv
    exact ⟨hv.symm, List.filterMap_eq_nil_iff.2 fun q hq' => (hq q hq').2⟩

/-- While the hub serves uncancelled, no registered worker's queue is closed to a command sent
    without waiting, so a broadcast never drops a worker. -/
theorem tryCommand_ne_closed (hc : Coherent e w.shape) (hh : w.hub = some h)
    (hsv : w.Runs h.task (.hub .serving)) (hcan : w.cancelled h.token = false) {x : Symbol × Nat}
    (hx : x ∈ h.workers) (c : WorkerCommand) : w.tryCommand x.2 c ≠ .error .closed := by
  obtain ⟨k, hk, -, hro, -⟩ :=
    hc.healthy h.shape (World.shape_hub_of hh) (hsv.shape rfl) hcan x hx
  intro hcl
  cases hw : w.worker? x.2 with
  | none => simp [World.shape, hw] at hk
  | some k' =>
    have hk' : k'.shape = k := by simpa [World.shape, hw] using hk
    simp only [World.tryCommand, hw] at hcl
    split at hcl
    · cases hcl
    · rename_i err herr
      cases hcl
      -- the queue refuses as closed only when it has no receiver
      have hclosed := (Queue.trySend_closed_iff k'.commands c).1 ⟨_, herr, rfl⟩
      rw [← hk'] at hro
      simp only [Worker.shape] at hro
      rw [hro] at hclosed
      cases hclosed

end Coherent

/-- **The reconciler and the hub stay together.** Along every run of an engine started fresh in
    which only the engine's reconciler sends commands to the hub (with restarts of the
    reconciler, any store and any failed reads, a hub that may stop or die at any command,
    cancellation at any wait, and the session's questions through its own reply slots), at every
    point:
    * a seeded reconciler running uncancelled beside a serving hub knows the registered symbols
      with the commands waiting in the hub's queue carried out, so once the hub has handled every
      command sent, it knows exactly the registered symbols;
    * a reconciler waiting for its seed, once answered, is answered with the registered symbols,
      with no command waiting;
    * while the hub serves uncancelled, no registered worker's queue is closed, so a broadcast
      never drops a worker. -/
theorem reconciler_tracks_hub {settings : TradingSettings} {store : Store} {feed : ScriptedFeed}
    {updates : UpdateRing} {wall : Instant} {every capacity : Nat} {e : Engine} {w : World}
    (hrun : Relation.ReflTransGen EngineMove
      (⟨0, capacity, none, none⟩, ((World.new settings store feed updates wall every).newToken none).1)
      (e, w)) :
    (∀ t r h, w.Runs t (.reconciler r) → w.cancelled r.token = false → w.hub = some h →
      w.Runs h.task (.hub .serving) →
      ((r.phase = .waiting ∨ ∃ cs, r.phase = .sending cs) →
        (h.requests.items.filterMap HubRequest.command?).foldl HubCommand.updateKnown
            (h.workers.map (·.1)) = r.known ∧
          (h.requests.items.filterMap HubRequest.command? = [] → r.known = h.workers.map (·.1))) ∧
      ∀ slot x v, r.phase = .awaitingSeed slot → w.replies[slot]? = some x → x.value = some v →
        v = .symbols (h.workers.map (·.1)) ∧ h.requests.items.filterMap HubRequest.command? = []) ∧
    ∀ h, w.hub = some h → w.Runs h.task (.hub .serving) → w.cancelled h.token = false →
      ∀ x ∈ h.workers, ∀ c, w.tryCommand x.2 c ≠ .error .closed := by
  have hc : Coherent e w.shape := coherent_of_moves hrun (coherent_new ..)
  refine ⟨fun t r h ht hcan hh hsv => ⟨fun hp => ?_, fun slot x v hp hx hv =>
    hc.seed_of_answered ht hcan hh hsv hp hx hv⟩,
    fun h hh hsv hcan x hx c => hc.tryCommand_ne_closed hh hsv hcan hx c⟩
  have hk := hc.known_of_seeded ht hcan hh hsv hp
  refine ⟨hk, fun hnil => ?_⟩
  rw [← hk, hnil]
  rfl

/-- An engine started fresh, its reconciler run until it has asked for its seed and the hub has
    answered, then stopped; started again against the live hub, the new reconciler asks for its
    seed, is answered and adopts it. -/
theorem reconciler_tracks_hub_restarted :
    let w₀ := ((World.new ⟨.oneLegPerTick, 8, true⟩ Store.empty (ScriptedFeed.new 4)
      (UpdateRing.new 4) ⟨0, 0⟩ 1000).newToken none).1
    let e₀ : Engine := ⟨0, 16, none, none⟩
    let w₁ := (w₀.startEngine e₀).1
    let e₁ := (w₀.startEngine e₀).2
    let w₂ := (((w₁.step 2).1.step 2).1.step 1).1.cancel 2
    let e₂ : Engine := { e₁ with reconciler := none }
    let w₃ := (w₂.startEngine e₂).1
    let w := ((((w₃.step 3).1.step 3).1.step 1).1.step 3).1
    Relation.ReflTransGen EngineMove (e₀, w₀) ((w₂.startEngine e₂).2, w) ∧
    (∀ t r h, w.Runs t (.reconciler r) → w.cancelled r.token = false → w.hub = some h →
      w.Runs h.task (.hub .serving) →
      ((r.phase = .waiting ∨ ∃ cs, r.phase = .sending cs) →
        (h.requests.items.filterMap HubRequest.command?).foldl HubCommand.updateKnown
            (h.workers.map (·.1)) = r.known ∧
          (h.requests.items.filterMap HubRequest.command? = [] → r.known = h.workers.map (·.1))) ∧
      ∀ slot x v, r.phase = .awaitingSeed slot → w.replies[slot]? = some x → x.value = some v →
        v = .symbols (h.workers.map (·.1)) ∧ h.requests.items.filterMap HubRequest.command? = []) ∧
    ∀ h, w.hub = some h → w.Runs h.task (.hub .serving) → w.cancelled h.token = false →
      ∀ x ∈ h.workers, ∀ c, w.tryCommand x.2 c ≠ .error .closed := by
  intro w₀ e₀ w₁ e₁ w₂ e₂ w₃ w
  -- the first reconciler is task 2 under token 2, the hub task 1, the second reconciler task 3
  have h₁ : Relation.ReflTransGen EngineMove (e₀, w₀) (e₁, w₁) := .single (.start e₀ w₀)
  have h₂ : Relation.ReflTransGen EngineMove (e₀, w₀) (e₁, ((w₁.step 2).1.step 2).1.step 1 |>.1) :=
    ((h₁.tail (.step _ _ 2)).tail (.step _ _ 2)).tail (.step _ _ 1)
  have h₃ : Relation.ReflTransGen EngineMove (e₀, w₀) (e₂, w₂) :=
    h₂.tail (@EngineMove.stop e₁ _ ⟨2, 2⟩ rfl)
  have hrun : Relation.ReflTransGen EngineMove (e₀, w₀) ((w₂.startEngine e₂).2, w) :=
    ((((h₃.tail (.start e₂ w₂)).tail (.step _ _ 3)).tail (.step _ _ 3)).tail (.step _ _ 1)).tail
      (.step _ _ 3)
  exact ⟨hrun, reconciler_tracks_hub hrun⟩

end RobotTrading
