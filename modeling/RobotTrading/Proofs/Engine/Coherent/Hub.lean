import RobotTrading.Proofs.Engine.Coherent.Worker
import RobotTrading.Proofs.Engine.Registry

/-!
# The hub keeps the invariant

Every step of the hub's task keeps `Coherent`. While it serves, the hub takes
the request at the head of its queue and carries it out at once: a command
moves its registry exactly as the reconciler moved its known symbols when it
sent it, so the fold of the waiting commands over the registry stays where it
was; a question leaves the registry, and the seed's own question is answered
with the registered symbols, with no command behind it. A broadcast always finds
the queue of a registered worker open, so it never drops a worker. Once the hub
leaves its loop it serves no more, and only the frame has to be kept.

## Main statements

* `Coherent.take`, `Coherent.answerSeed` : the hub takes a request and carries it out.
* `Coherent.handleRequest` : each kind of request.
* `Coherent.leaveHub`, `Coherent.abortHub`, `Coherent.endHub` : the hub leaves its loop, dies or
  ends, and serves no more.
* `Coherent.stepHub` : every step of the hub's task keeps the invariant.
-/

namespace RobotTrading

theorem List.mem_of_lookup_eq_some {α β : Type} [BEq α] [LawfulBEq α] {l : List (α × β)} {a : α} {b : β}
    (h : l.lookup a = some b) : (a, b) ∈ l := by
  obtain ⟨l₁, l₂, rfl, -⟩ := List.lookup_eq_some_iff.1 h
  simp

theorem Queue.recv_empty {α : Type} {q : Queue α} {t : TaskId} (h : (q.recv t).2.1 = .empty) :
    q.items = [] := by
  unfold Queue.recv at h
  split at h
  · cases h
  · rename_i hq
    exact hq

namespace HubShape

/-- The hub takes a request off the head of its queue and carries it out: a command moves the
    registered symbols as the reconciler counted it when it sent it, a question leaves them. So
    the fold of the waiting commands over the registered symbols stays where it was. -/
theorem foldl_pending_of_take {h h' : HubShape} {q : HubRequest} (hreq : h.requests = q :: h'.requests)
    (hcmd : ∀ c, q = .command c → h'.keys = c.updateKnown h.keys)
    (hques : q.command? = none → h'.keys = h.keys) :
    h'.pending.foldl HubCommand.updateKnown h'.keys = h.pending.foldl HubCommand.updateKnown h.keys := by
  unfold pending
  rw [hreq]
  cases q with
  | command c =>
    rw [List.filterMap_cons_some (show HubRequest.command? (.command c) = some c from rfl), List.foldl_cons,
      hcmd c rfl]
  | symbols r => rw [List.filterMap_cons_none (show HubRequest.command? (.symbols r) = none from rfl), hques rfl]
  | robotIds s r =>
    rw [List.filterMap_cons_none (show HubRequest.command? (.robotIds s r) = none from rfl), hques rfl]

end HubShape

namespace Shape

variable {s : Shape} {h h' : HubShape} {t : TaskId} {slot : Nat} {q : HubRequest}

/-- The hub takes a request other than the seed's question: the question stays in the queue, or
    the answer stays in its slot with only questions behind it. -/
theorem Seeding.take (hsd : s.Seeding h t slot) (hreq : h.requests = q :: h'.requests)
    (hq : q.reply? ≠ some slot) (hkeys : q.command? = none → h'.keys = h.keys) :
    s.Seeding h' t slot := by
  obtain ⟨hw, hhelp, hrec⟩ := hsd
  refine ⟨?_, hhelp, hrec⟩
  rcases hw with ⟨pre, post, hreq', hpre, hpost, hr⟩ | ⟨hall, so, ro, hr⟩
  · cases pre with
    | nil =>
      -- the head would be the seed's question, which `q` is not
      rw [hreq, List.nil_append, List.cons.injEq] at hreq'
      rw [hreq'.1] at hq
      exact absurd rfl hq
    | cons q' pre =>
      rw [hreq, List.cons_append, List.cons.injEq] at hreq'
      obtain ⟨rfl, hrest⟩ := hreq'
      exact .inl ⟨pre, post, hrest, fun x hx => hpre x (List.mem_cons_of_mem _ hx), hpost, hr⟩
  · have hq' := hall q (by rw [hreq]; exact List.mem_cons_self ..)
    refine .inr ⟨fun x hx => hall x (by rw [hreq]; exact List.mem_cons_of_mem _ hx), so, ro, ?_⟩
    rw [hkeys hq'.2]
    exact hr

/-- The hub answers the seed's own question with the registered symbols; only questions wait
    behind it. -/
theorem Seeding.answer {rest : List HubRequest} (hsd : s.Seeding h t slot)
    (hreq : h.requests = .symbols slot :: rest) :
    (s.setReply slot ((s.replies slot).map fun x =>
        if x.receiverOpen then ⟨some (.symbols h.keys), false, true⟩ else ⟨x.value, false, false⟩)).Seeding
      { h with requests := rest } t slot := by
  obtain ⟨hw, hhelp, hrec⟩ := hsd
  refine ⟨?_, hhelp, hrec⟩
  rcases hw with ⟨pre, post, hreq', hpre, hpost, hr⟩ | ⟨hall, -⟩
  · cases pre with
    | nil =>
      rw [hreq, List.nil_append, List.cons.injEq] at hreq'
      obtain ⟨-, rfl⟩ := hreq'
      refine .inr ⟨fun x hx => ⟨hpre x (by simpa using hx), hpost x hx⟩, false, true, ?_⟩
      simp [hr, HubShape.keys]
    | cons q' pre =>
      -- a question ahead of the seed's would answer through its slot
      rw [hreq, List.cons_append, List.cons.injEq] at hreq'
      exact absurd (by rw [← hreq'.1]; rfl) (hpre q' (List.mem_cons_self ..))
  · exact absurd rfl (hall (.symbols slot) (by rw [hreq]; exact List.mem_cons_self ..)).1

/-- A task that takes up a job other than the hub's leaves the hub serving as it was. -/
theorem serving_of_setTask {j : Job} {d : Bool} (hsv : (s.setTask t (some (j, d))).Serving h)
    (hj : ∀ p, j ≠ .hub p) : s.Serving h := by
  unfold Serving at hsv ⊢
  rcases setTask_eq_some hsv with ⟨-, hv⟩ | ⟨-, hsv⟩
  · exact absurd (congrArg Prod.fst (Option.some.inj hv)) (hj _)
  · exact hsv

/-- An ended task runs no more. -/
theorem finish_tasks_ne {x : TaskId} (hx : x = t) {j : Job} : (s.finish t).tasks x ≠ some (j, false) := by
  unfold finish
  rw [hx, setTask_tasks_self]
  intro hv
  obtain ⟨y, -, hy⟩ := Option.map_eq_some_iff.1 hv
  cases congrArg Prod.snd hy

/-- An ended hub serves no more. -/
theorem not_serving_finish (ht : h.task = t) : ¬ (s.finish t).Serving h :=
  finish_tasks_ne ht

/-- A hub in a stopping phase serves no more. -/
theorem not_serving_of_stopping {wids : List Nat} {d : Bool} (hs : s.hub = some h)
    (ht : s.tasks h.task = some (.hub (.stopping wids), d)) : ∀ h', s.hub = some h' → ¬ s.Serving h' := by
  intro h' hs' hsv
  rw [hs, Option.some.injEq] at hs'
  subst hs'
  unfold Serving at hsv
  rw [ht] at hsv
  cases hsv

theorem setHub_self (hs : s.hub = some h) : s.setHub (some h) = s := by
  rw [← hs]
  rfl

/-! The hub's record is written last: a change of the hub commutes with every other change. -/

theorem setHub_setHub (x y : Option HubShape) : (s.setHub x).setHub y = s.setHub y := rfl

theorem addToken_setHub (x : Option HubShape) (p : Option Nat) :
    (s.setHub x).addToken p = (s.addToken p).setHub x := rfl

theorem setWorker_setHub (x : Option HubShape) (wid : Nat) (v : Option WorkerShape) :
    (s.setHub x).setWorker wid v = (s.setWorker wid v).setHub x := rfl

theorem setTask_setHub (x : Option HubShape) (t : TaskId) (v : Option (Job × Bool)) :
    (s.setHub x).setTask t v = (s.setTask t v).setHub x := rfl

theorem setReply_setHub (x : Option HubShape) (r : Nat) (v : Option ReplyShape) :
    (s.setHub x).setReply r v = (s.setReply r v).setHub x := rfl

theorem finish_setHub (x : Option HubShape) (t : TaskId) : (s.setHub x).finish t = (s.finish t).setHub x :=
  rfl

/-- A question dropped with the hub's queue: its reply slot loses its sender. -/
def dropQuestion (s : Shape) (q : HubRequest) : Shape :=
  match q.reply? with
  | some r => s.setReply r ((s.replies r).map fun x => ⟨x.value, false, x.receiverOpen⟩)
  | none => s

/-- A worker's handle dropped: its queue loses its sender. -/
def closeSender (s : Shape) (wid : Nat) : Shape :=
  s.setWorker wid ((s.workers wid).map fun k => { k with senderOpen := false })

theorem dropQuestion_tasks (q : HubRequest) : (s.dropQuestion q).tasks = s.tasks := by
  unfold dropQuestion
  split <;> rfl

theorem dropQuestion_hub (q : HubRequest) : (s.dropQuestion q).hub = s.hub := by
  unfold dropQuestion
  split <;> rfl

theorem foldl_dropQuestion_serving (qs : List HubRequest) :
    (qs.foldl dropQuestion s).Serving h ↔ s.Serving h := by
  induction qs generalizing s with
  | nil => rfl
  | cons q qs ih =>
    rw [List.foldl_cons, ih]
    unfold Serving
    rw [dropQuestion_tasks]

theorem foldl_dropQuestion_hub (qs : List HubRequest) : (qs.foldl dropQuestion s).hub = s.hub := by
  induction qs generalizing s with
  | nil => rfl
  | cons q qs ih => rw [List.foldl_cons, ih, dropQuestion_hub]

theorem closeSender_of_none {wid : Nat} (hw : s.workers wid = none) : s.closeSender wid = s := by
  unfold closeSender
  rw [hw]
  ext1
  case workers => exact Function.update_eq_self_iff.2 hw.symm
  all_goals rfl

theorem dropQuestion_finish (q : HubRequest) (t : TaskId) :
    (s.dropQuestion q).finish t = (s.finish t).dropQuestion q := by
  unfold dropQuestion
  split <;> rfl

theorem foldl_dropQuestion_finish (qs : List HubRequest) (t : TaskId) :
    (qs.foldl dropQuestion s).finish t = qs.foldl dropQuestion (s.finish t) := by
  induction qs generalizing s with
  | nil => rfl
  | cons q qs ih => rw [List.foldl_cons, List.foldl_cons, ih, dropQuestion_finish]

theorem closeSender_setHub (x : Option HubShape) (wid : Nat) :
    (s.setHub x).closeSender wid = (s.closeSender wid).setHub x := rfl

theorem foldl_closeSender_setHub (x : Option HubShape) (wids : List Nat) :
    wids.foldl closeSender (s.setHub x) = (wids.foldl closeSender s).setHub x := by
  induction wids generalizing s with
  | nil => rfl
  | cons wid wids ih => rw [List.foldl_cons, List.foldl_cons, closeSender_setHub, ih]

end Shape

namespace World

variable {w : World}

@[simp] theorem dropHandle_hub (wid : Nat) : (w.dropHandle wid).hub = w.hub := by
  unfold dropHandle
  split <;> simp

theorem foldl_dropHandle_hub (regs : List (Symbol × Nat)) :
    (regs.foldl (fun w e => w.dropHandle e.2) w).hub = w.hub := by
  induction regs generalizing w with
  | nil => rfl
  | cons x regs ih => rw [List.foldl_cons, ih, dropHandle_hub]

/-- Leaving the loop reads the hub's token and registry, not its queue. -/
theorem leaveHub_requests {h : Hub} (q : Queue HubRequest) (t : TaskId) :
    w.leaveHub t { h with requests := q } = w.leaveHub t h := rfl

/-- The hub's task dies reading the hub's token and registry, not its queue. -/
theorem abortHub_requests {h : Hub} (q : Queue HubRequest) (t : TaskId) :
    w.abortHub t { h with requests := q } = w.abortHub t h := rfl

/-- The hub takes the head of its queue, if there is one. -/
theorem shape_recvRequest {h : Hub} (hh : w.hub = some h) {t : TaskId} {q : Queue HubRequest}
    {got : Queue.Received HubRequest} {ws : List TaskId} (hrecv : h.requests.recv t = (q, got, ws)) :
    ((w.modifyHub fun h' => { h' with requests := q }).wakeAll ws).shape =
      w.shape.setHub (some { h.shape with requests := q.items }) := by
  have hro : q.receiverOpen = h.requests.receiverOpen := by
    rw [← Queue.recv_receiverOpen h.requests t, hrecv]
  rw [shape_wakeAll, shape_modifyHub, hh, Option.map_some]
  simp only [Hub.shape, hro]

theorem shape_pushWorker (k : Worker) :
    ({ w with workers := w.workers.push k } : World).shape = w.shape.setWorker w.workers.size (some k.shape) := by
  ext1
  case workers =>
    funext j
    simp only [shape, Shape.setWorker, worker?, Array.getElem?_push, Function.update_apply]
    split <;> simp
  all_goals rfl

/-- A new worker: a token under `p`, an open and empty queue, and a control task about to
    start. -/
theorem shape_spawnWorker (sym : Symbol) (robots : List Robot) (p : Nat) :
    (w.spawnWorker sym robots p).1.shape =
      ((w.shape.addToken (some p)).setWorker w.workers.size
        (some ⟨w.shape.tokenCount, w.tasks.size, true, true, true⟩)).setTask w.tasks.size
        (some (.worker w.workers.size .start, false)) := by
  unfold spawnWorker
  dsimp only
  rw [shape_spawn, shape_pushWorker, shape_newToken]
  rfl

theorem shape_forget {h : Hub} (hh : w.hub = some h) (sym : Symbol) :
    (w.forget sym).shape =
      w.shape.setHub (some { h.shape with registry := h.shape.registry.filter (·.1 != sym) }) := by
  rw [forget, shape_modifyHub, hh]
  rfl

/-- Cancelling a worker leaves a task to stop it. -/
theorem shape_cancelWorker {wid : Nat} {k : Worker} (hk : w.worker? wid = some k) :
    (w.cancelWorker wid).shape =
      (w.cancel k.token).shape.setTask (w.cancel k.token).tasks.size (some (.stopper wid false, false)) := by
  rw [cancelWorker, hk]
  exact shape_spawn _ _

/-- A command that asks for no answer, sent without waiting, leaves the worker's shape as it
    was: it joins the queue's tail, both ends stay as they were. -/
theorem shape_tryCommand {wid : Nat} {c : WorkerCommand} (hc : c.ack = none) {w' : World}
    (ht : w.tryCommand wid c = .ok w') : w'.shape = w.shape := by
  unfold tryCommand at ht
  split at ht
  · rename_i k hk
    split at ht
    · rename_i q ws hq
      cases ht
      obtain ⟨hi, hso, hro⟩ := Queue.trySend_ok _ hq
      have hks := shape_workers_of hk
      have hv : (⟨k.token, k.task, q.senderOpen, q.receiverOpen, q.items.all fun c => c.ack.isNone⟩ :
          WorkerShape) = k.shape := by
        simp [Worker.shape, hi, hso, hro, hc]
      rw [shape_wakeAll, shape_modifyWorker_commands hk, hv, ← hks]
      simp only [Shape.setWorker, Function.update_eq_self]
    · cases ht
  · cases ht

/-- A command is refused as closed only by a queue that has lost its receiver. -/
theorem receiverOpen_of_tryCommand {wid : Nat} {k : Worker} (hk : w.worker? wid = some k)
    {c : WorkerCommand} (ht : w.tryCommand wid c = .error .closed) : k.commands.receiverOpen = false := by
  unfold tryCommand at ht
  rw [hk] at ht
  dsimp only at ht
  split at ht
  · cases ht
  · rename_i e he
    cases ht
    exact (Queue.trySend_closed_iff _ c).1 ⟨_, he, rfl⟩

/-- The hub's record in a world whose shape has the hub `h'`. -/
theorem hubShape_of {s : Shape} {h : Hub} {h' : HubShape} (hh : w.hub = some h)
    (hw : w.shape = s.setHub (some h')) : h.shape = h' := by
  have h₂ := shape_hub_of hh
  rw [hw, Shape.setHub_hub] at h₂
  exact (Option.some.inj h₂).symm

theorem shape_dropRequest (q : HubRequest) : (w.dropRequest q).shape = w.shape.dropQuestion q := by
  cases q with
  | command c => rfl
  | symbols r => exact shape_dropAnswer w r
  | robotIds sym r => exact shape_dropAnswer w r

theorem shape_foldl_dropRequest (qs : List HubRequest) :
    (qs.foldl dropRequest w).shape = qs.foldl Shape.dropQuestion w.shape := by
  induction qs generalizing w with
  | nil => rfl
  | cons q qs ih => rw [List.foldl_cons, List.foldl_cons, ih, shape_dropRequest]

theorem shape_dropHandle_eq (wid : Nat) : (w.dropHandle wid).shape = w.shape.closeSender wid := by
  cases hk : w.worker? wid with
  | none =>
    have hks : w.shape.workers wid = none := by simp [shape, hk]
    rw [dropHandle, hk, Shape.closeSender_of_none hks]
  | some k =>
    have hks := shape_workers_of hk
    rw [shape_dropHandle hk, Shape.closeSender, hks]
    rfl

theorem shape_foldl_dropHandle (regs : List (Symbol × Nat)) :
    (regs.foldl (fun w e => w.dropHandle e.2) w).shape = (regs.map (·.2)).foldl Shape.closeSender w.shape := by
  induction regs generalizing w with
  | nil => rfl
  | cons x regs ih => rw [List.foldl_cons, List.map_cons, List.foldl_cons, ih, shape_dropHandle_eq]

/-- The hub ends: its queue loses its receiver, the questions left lose their answer, and its task
    ends. -/
theorem shape_endHub {h : Hub} (hh : w.hub = some h) (t : TaskId) :
    (w.endHub t).1.shape = (h.shape.requests.foldl Shape.dropQuestion
      (w.shape.setHub (some { h.shape with requests := [], receiverOpen := false }))).finish t := by
  unfold endHub
  rw [hh]
  dsimp only
  rw [shape_finish, shape_foldl_dropRequest, shape_wakeAll, shape_modifyHub, hh]
  rfl

/-- The hub leaves its loop: its token is cancelled, its registry handed to its stopping phase. -/
theorem shape_leaveHub {h : Hub} (hh : w.hub = some h) {t : TaskId} {p : HubPhase} {d : Bool}
    (ht : w.shape.tasks t = some (.hub p, d)) :
    (w.leaveHub t h).1.shape = (((w.unwatch h.token t).cancel h.token).shape.setTask t
      (some (.hub (.stopping (h.workers.map (·.2))), d))).setHub (some { h.shape with registry := [] }) := by
  unfold leaveHub
  dsimp only
  have ht₁ : ((w.unwatch h.token t).cancel h.token).shape.tasks t = some (.hub p, d) := by
    rw [shape_cancel, shape_unwatch]
    exact ht
  rw [shape_setJob _ (by rw [shape_modifyHub]; exact ht₁) rfl, shape_modifyHub]
  simp only [cancel_hub, unwatch, hh, Option.map_some]
  rfl

end World


namespace Frame

variable {e : Engine} {s : Shape} {h : HubShape}

/-- A worker not made yet is not registered. -/
theorem not_registered (hf : Frame e s) (hs : s.hub = some h) {wid : Nat} (hw : s.workers wid = none) :
    wid ∉ h.registry.map (·.2) := by
  intro hreg
  obtain ⟨x, hx, rfl⟩ := List.mem_map.1 hreg
  exact hf.registered h hs x hx hw

/-- **A new task** whose job fits keeps the frame: a fresh task is neither the hub's, nor a
    registered worker's control task, nor the engine's reconciler. -/
theorem spawn (hf : Frame e s) {tn : TaskId} (htn : s.tasks tn = none) {j : Job} {d : Bool}
    (hfits : s.TaskFits e tn j d) : Frame e (s.setTask tn (some (j, d))) := by
  refine hf.setTask (fun j' d' hv => ?_) (fun h hs heq => ?_) (fun h hs hsv hcan x hx k hk hkt => ?_)
    fun rr hrr hrt => ?_
  · cases hv
    exact hfits
  · obtain ⟨p, d', hd⟩ := hf.hubTask h hs
    rw [heq, htn] at hd
    cases hd
  · obtain ⟨k', hk', -, -, -, p, d', hd, -⟩ := hf.healthy h hs hsv hcan x hx
    rw [hk, Option.some.injEq] at hk'
    subst hk'
    rw [hkt, htn] at hd
    cases hd
  · obtain ⟨r, d', hd, -⟩ := hf.engineReconciler rr hrr
    rw [hrt, htn] at hd
    cases hd

/-- The hub takes a request off its queue and forgets a symbol: what stays of the registry keeps
    its order, its distinct workers and their health. -/
theorem forget (hf : Frame e s) (hs : s.hub = some h) {rest : List HubRequest}
    (hrest : ∀ q ∈ rest, q ∈ h.requests) (sym : Symbol) :
    Frame e (s.setHub (some { h with requests := rest, registry := h.registry.filter (·.1 != sym) })) := by
  have hsub : (h.registry.filter (·.1 != sym)).Sublist h.registry := List.filter_sublist
  exact hf.setHub hs rfl rfl (fun p hp => hf.hubOpen h p hs hp) ((hf.sorted h hs).sublist (hsub.map _))
    ((hf.distinct h hs).sublist (hsub.map _)) (fun x hx => hf.registered h hs x (hsub.subset hx))
    (fun q hq => hf.questions h hs q (hrest q hq))
    (fun t wid b d ht hreg => (hf.stoppers t wid b d ht).2 h hs ((hsub.map _).subset hreg))
    fun hsv hcan x hx => hf.healthy h hs hsv hcan x (hsub.subset hx)

/-- A reply slot that changes in place keeps the frame. -/
theorem mapReply (hf : Frame e s) (r : Nat) (f : ReplyShape → ReplyShape) :
    Frame e (s.setReply r ((s.replies r).map f)) :=
  hf.setReplies fun x hx => by
    by_cases hxr : x = r
    · subst hxr
      simpa using hx
    · rwa [Function.update_of_ne hxr]

theorem foldl_dropQuestion (hf : Frame e s) (qs : List HubRequest) : Frame e (qs.foldl Shape.dropQuestion s) := by
  induction qs generalizing s with
  | nil => exact hf
  | cons q qs ih =>
    refine ih ?_
    unfold Shape.dropQuestion
    split
    · exact hf.mapReply _ _
    · exact hf

/-- The registry is emptied, as the hub leaves its loop or dies. -/
theorem clearRegistry (hf : Frame e s) (hs : s.hub = some h) :
    Frame e (s.setHub (some { h with registry := [] })) :=
  hf.setHub hs rfl rfl (fun p hp => hf.hubOpen h p hs hp) List.Pairwise.nil List.nodup_nil nofun
    (hf.questions h hs) (fun _ _ _ _ _ => nofun) fun _ _ => nofun

/-- A worker's handle is dropped while it is not registered with a serving hub whose token
    stands. -/
theorem closeSender (hf : Frame e s) {wid : Nat}
    (hout : ∀ h, s.hub = some h → s.Serving h → s.cancelled h.token = false → wid ∉ h.registry.map (·.2)) :
    Frame e (s.closeSender wid) := by
  cases hk : s.workers wid with
  | none => rwa [Shape.closeSender_of_none hk]
  | some k =>
    unfold Shape.closeSender
    rw [hk, Option.map_some]
    exact hf.updateWorker hk rfl rfl (hf.unanswered wid k hk) fun h hs hsv hcan hreg =>
      absurd hreg (hout h hs hsv hcan)

theorem foldl_closeSender (hf : Frame e s) {wids : List Nat}
    (hout : ∀ h, s.hub = some h → s.Serving h → s.cancelled h.token = false → ∀ wid ∈ wids,
      wid ∉ h.registry.map (·.2)) :
    Frame e (wids.foldl Shape.closeSender s) := by
  induction wids generalizing s with
  | nil => exact hf
  | cons wid wids ih =>
    exact ih (hf.closeSender fun h hs hsv hcan => hout h hs hsv hcan wid (List.mem_cons_self ..))
      fun h hs hsv hcan x hx => hout h hs hsv hcan x (List.mem_cons_of_mem _ hx)

/-- **The hub's task moves on** to a stopping phase: it serves no more. -/
theorem setHubPhase (hf : Frame e s) (hs : s.hub = some h) {p : HubPhase} {d : Bool}
    (ht : s.tasks h.task = some (.hub p, d)) (wids : List Nat) :
    Frame e (s.setTask h.task (some (.hub (.stopping wids), d))) where
  ordered := hf.ordered
  root := hf.root
  hubEngine := hf.hubEngine
  noHub hs' := by
    rw [Shape.setTask_hub, hs] at hs'
    cases hs'
  hubToken := hf.hubToken
  hubTask h' hs' := by
    rw [Shape.setTask_hub, hs, Option.some.injEq] at hs'
    subst hs'
    exact ⟨_, _, Shape.setTask_tasks_self ..⟩
  hubOnly x q d' hx := by
    rcases Shape.setTask_eq_some hx with ⟨rfl, -⟩ | ⟨-, hx⟩
    · exact ⟨h, hs, rfl⟩
    · exact hf.hubOnly x q d' hx
  hubOpen h' q hs' hx := by
    rw [Shape.setTask_hub, hs, Option.some.injEq] at hs'
    subst hs'
    rw [Shape.setTask_tasks_self, Option.some.injEq, Prod.mk.injEq] at hx
    exact hf.hubOpen _ p hs (hx.2 ▸ ht)
  sorted := hf.sorted
  distinct := hf.distinct
  registered := hf.registered
  questions := hf.questions
  workerToken := hf.workerToken
  workerTokenInj := hf.workerTokenInj
  control x wid q d' hx := hf.control x wid q d' (Shape.eq_of_setTask hx nofun)
  unanswered := hf.unanswered
  applying x wid c d' hx := hf.applying x wid c d' (Shape.eq_of_setTask hx nofun)
  stoppers x wid b d' hx := hf.stoppers x wid b d' (Shape.eq_of_setTask hx nofun)
  healthy h' hs' hsv := by
    rw [Shape.setTask_hub, hs, Option.some.injEq] at hs'
    subst hs'
    unfold Shape.Serving at hsv
    rw [Shape.setTask_tasks_self] at hsv
    cases hsv
  helpers x wid r d' hx := hf.helpers x wid r d' (Shape.eq_of_setTask hx nofun)
  reconcilerToken x r d' hx := hf.reconcilerToken x r d' (Shape.eq_of_setTask hx nofun)
  current x r hx hcan := hf.current x r (Shape.eq_of_setTask hx nofun) hcan
  engineReconciler rr hrr := by
    obtain ⟨r, d', hd, htok⟩ := hf.engineReconciler rr hrr
    have hne : rr.task ≠ h.task := fun heq => by
      rw [heq, ht] at hd
      cases hd
    exact ⟨r, d', by rwa [Shape.setTask_tasks_of_ne _ hne], htok⟩
  seedSlots x r d' slot hx hph := hf.seedSlots x r d' slot (Shape.eq_of_setTask hx nofun) hph

end Frame

namespace Coherent

variable {e : Engine} {s : Shape} {h h' : HubShape} {q : HubRequest}

/-- A reconciler waiting on a slot is never waiting on the slot of another question in the hub's
    queue. -/
theorem not_awaiting_of_queued (hc : Coherent e s) (hs : s.hub = some h) (hq : q ∈ h.requests)
    {slot : Nat} (hr : q.reply? = some slot) (hseed : q ≠ .symbols slot) {t : TaskId}
    {r : ReconcilerState} (ht : s.tasks t = some (.reconciler r, false)) (hcan : s.cancelled r.token = false)
    (hsv : s.Serving h) : r.phase ≠ .awaitingSeed slot := by
  intro hph
  have ha := hc.agrees t r h ht hcan hs hsv
  rw [Shape.agrees_awaitingSeed hph] at ha
  rcases ha.1 with ⟨pre, post, hreq, hpre, -, -⟩ | ⟨hall, -⟩
  · rw [hreq] at hq
    rcases List.mem_append.1 hq with hq | hq
    · exact hpre q (List.mem_append_left _ hq) hr
    · rcases List.mem_cons.1 hq with rfl | hq
      · exact hseed rfl
      · exact hpre q (List.mem_append_right _ hq) hr
  · exact (hall q hq).1 hr

/-- **The hub takes a request** off the head of its queue and carries it out, its registry
    moving as the reconciler counted the request. No reconciler waits on the request's slot. -/
theorem take (hc : Coherent e s) (hs : s.hub = some h) (hreq : h.requests = q :: h'.requests)
    (hslot : ∀ slot, q.reply? = some slot → ∀ t r, s.tasks t = some (.reconciler r, false) →
      s.cancelled r.token = false → s.Serving h → r.phase ≠ .awaitingSeed slot)
    (hcmd : ∀ c, q = .command c → h'.keys = c.updateKnown h.keys)
    (hques : q.command? = none → h'.keys = h.keys)
    (hf : Frame e (s.setHub (some h'))) (htask : h'.task = h.task) :
    Coherent e (s.setHub (some h')) := by
  refine hc.of_frame hf fun t r h'' ht hcan hs' hsv => ?_
  cases hs'
  have hsv₀ : s.Serving h := by
    unfold Shape.Serving at hsv ⊢
    rwa [← htask]
  refine ⟨h, ht, hcan, hs, hsv₀, fun ha => ha.transfer (fun slot hph hsd => ?_) fun hk => ?_⟩
  · exact hsd.take hreq (fun hr => hslot slot hr t r ht hcan hsv₀ hph) hques
  · rw [HubShape.foldl_pending_of_take hreq hcmd hques]
    exact hk

/-- **The hub answers a symbols question** with its registered symbols, which is the seed of the
    reconciler waiting on that slot, if any. -/
theorem answerSeed (hc : Coherent e s) (hs : s.hub = some h) {slot : Nat} {rest : List HubRequest}
    (hreq : h.requests = .symbols slot :: rest) :
    Coherent e ((s.setHub (some { h with requests := rest })).setReply slot ((s.replies slot).map fun x =>
      if x.receiverOpen then ⟨some (.symbols h.keys), false, true⟩ else ⟨x.value, false, false⟩)) := by
  have hf := (hc.toFrame.setRequests hs rest fun q' hq' => hc.questions h hs q'
    (by rw [hreq]; exact List.mem_cons_of_mem _ hq')).mapReply slot fun x =>
      if x.receiverOpen then ⟨some (.symbols h.keys), false, true⟩ else ⟨x.value, false, false⟩
  refine hc.of_frame hf fun t r h'' ht hcan hs' hsv => ?_
  cases hs'
  refine ⟨h, ht, hcan, hs, hsv, fun ha => ha.transfer (fun slot' hph hsd => ?_) fun hk => ?_⟩
  · by_cases hsl : slot' = slot
    · subst hsl
      exact hsd.answer hreq
    · -- another reconciler's seed: its question stays queued, or its answer stays put
      refine (hsd.take hreq ?_ ?_).transfer ?_ ?_ ?_
      · exact fun hr => hsl (Option.some.inj hr).symm
      · exact fun _ => rfl
      · exact Function.update_of_ne hsl _ _
      · exact fun t' wid d ht' => ⟨d, ht'⟩
      · exact fun t' r' d _ ht' hph' => ⟨r', d, ht', hph'⟩
  · have hreq' : h.requests = .symbols slot :: ({ h with requests := rest } : HubShape).requests := hreq
    rw [HubShape.foldl_pending_of_take hreq' nofun fun _ => rfl]
    exact hk

/-- **A new task** running none of the jobs the agreement reads. -/
theorem spawnQuiet (hc : Coherent e s) {tn : TaskId} (htn : s.tasks tn = none) {j : Job} {d : Bool}
    (hj : j.quiet = true) (hfits : s.TaskFits e tn j d) : Coherent e (s.setTask tn (some (j, d))) :=
  hc.setTask_quiet (hc.toFrame.spawn htn hfits) fun j' d' hv => by
    cases hv
    exact hj

/-- **A helper answering a worker's robots starts**, answering through a slot that no seeding
    reconciler waits on. -/
theorem spawnHelper (hc : Coherent e s) {tn : TaskId} (htn : s.tasks tn = none) {wid r : Nat}
    (hr : s.replies r ≠ none)
    (hslot : ∀ t rr h, s.tasks t = some (.reconciler rr, false) → s.cancelled rr.token = false →
      s.hub = some h → s.Serving h → rr.phase ≠ .awaitingSeed r) :
    Coherent e (s.setTask tn (some (.robotIds wid r, false))) := by
  refine hc.of_frame (hc.toFrame.spawn htn hr) fun t rr h ht hcan hs hsv => ?_
  -- the new task is neither a reconciler nor the hub's
  have ht₀ : s.tasks t = some (.reconciler rr, false) := by
    rcases Shape.setTask_eq_some ht with ⟨-, hv⟩ | ⟨-, ht⟩
    · cases hv
    · exact ht
  have hsv₀ : s.Serving h := Shape.serving_of_setTask hsv fun _ => nofun
  refine ⟨h, ht₀, hcan, hs, hsv₀, fun ha => ha.transfer (fun slot hph hsd => hsd.transfer rfl ?_ ?_) id⟩
  · intro t' wid' d ht'
    rcases Shape.setTask_eq_some ht' with ⟨-, hv⟩ | ⟨-, ht'⟩
    · -- the helper answers through `r`, which is not the seed's slot
      cases hv
      exact absurd hph (hslot t rr h ht₀ hcan hs hsv₀)
    · exact ⟨d, ht'⟩
  · intro t' r' d _ ht' hph'
    rcases Shape.setTask_eq_some ht' with ⟨-, hv⟩ | ⟨-, ht'⟩
    · cases hv
    · exact ⟨r', d, ht', hph'⟩

/-- **The hub registers a worker** for a symbol it has none for. A fresh worker, made under the
    hub's token with an open, empty queue and a control task about to start, joins the registry in
    symbol order, just as the reconciler put the symbol among its known ones. -/
theorem register (hc : Coherent e s) (hs : s.hub = some h) {sym : Symbol} {robots : List Robot}
    {rest : List HubRequest} (hreq : h.requests = .command (.register sym robots) :: rest)
    (hsym : sym ∉ h.keys) {wid tn : Nat} (hw : s.workers wid = none) (htn : s.tasks tn = none) :
    Coherent e ((((s.addToken (some h.token)).setWorker wid (some ⟨s.tokenCount, tn, true, true, true⟩)).setTask
      tn (some (.worker wid .start, false))).setHub
        (some { h with requests := rest, registry := World.insertEntry (sym, wid) h.registry })) := by
  have hlt := (hc.hubToken h hs).1
  have hunreg := hc.not_registered hs hw
  -- the worker's token, made under the hub's
  have hc₁ : Coherent e (s.addToken (some h.token)) := hc.addToken fun q hq => by
    cases hq
    exact hlt
  -- the worker's record, which no task runs yet
  have hc₂ : Coherent e ((s.addToken (some h.token)).setWorker wid
      (some ⟨s.tokenCount, tn, true, true, true⟩)) := by
    refine hc₁.of_frame_of_eq (hc₁.toFrame.setWorker ⟨Nat.lt_succ_self _, h, hs, by simp⟩
      (fun wid' k _ hk heq => ?_) (fun t p d ht => ?_) rfl fun h' hs' _ _ hreg => ?_) rfl rfl rfl rfl
    · exact Nat.ne_of_lt (hc.workerToken wid' k hk).1 heq
    · obtain ⟨k, hk, -⟩ := hc.control t wid p d ht
      rw [hw] at hk
      cases hk
    · rw [Shape.addToken_hub, hs, Option.some.injEq] at hs'
      subst hs'
      exact absurd hreg hunreg
  -- its control task, about to start
  have hc₃ : Coherent e (((s.addToken (some h.token)).setWorker wid
      (some ⟨s.tokenCount, tn, true, true, true⟩)).setTask tn (some (.worker wid .start, false))) :=
    hc₂.spawnQuiet htn rfl ⟨⟨⟨s.tokenCount, tn, true, true, true⟩, by simp, rfl⟩, nofun⟩
  -- it joins the registry as the hub takes the command
  have hmem : ∀ x ∈ World.insertEntry (sym, wid) h.registry, x = (sym, wid) ∨ x ∈ h.registry := fun x hx =>
    List.mem_cons.1 ((World.insertEntry_perm _ _).subset hx)
  refine hc₃.take hs hreq (fun _ h => nomatch h) (fun c hc' => ?_) (fun h => nomatch h)
    (hc₃.toFrame.setHub hs rfl rfl (fun p hp => hc₃.hubOpen h p hs hp) ?_ ?_ ?_
      (fun q hq => hc₃.questions h hs q (by rw [hreq]; exact List.mem_cons_of_mem _ hq)) ?_ ?_) rfl
  · cases hc'
    exact World.keys_insertEntry (sym, wid) hsym
  · show ((World.insertEntry (sym, wid) h.registry).map (·.1)).Pairwise (· < ·)
    rw [World.keys_insertEntry (sym, wid) hsym]
    exact Ascending.pairwise_insert _ (hc.sorted h hs)
  · exact ((World.insertEntry_perm _ _).map _).nodup_iff.2 (List.nodup_cons.2 ⟨hunreg, hc.distinct h hs⟩)
  · intro x hx
    rcases hmem x hx with rfl | hx
    · simp
    · exact hc₃.registered h hs x hx
  · -- a worker being stopped existed before, so it is not the new one
    intro t wid' b d ht hreg
    obtain ⟨x, hx, rfl⟩ := List.mem_map.1 hreg
    rcases hmem x hx with rfl | hx
    · have ht₀ : s.tasks t = some (.stopper wid b, d) := by
        rcases Shape.setTask_eq_some ht with ⟨-, hv⟩ | ⟨-, ht⟩
        · cases hv
        · exact ht
      exact (hc.stoppers t wid b d ht₀).1 hw
    · exact (hc₃.stoppers t x.2 b d ht).2 h hs (List.mem_map_of_mem hx)
  · -- the new worker is open, uncancelled under the hub's token, and about to start
    intro hsv hcan x hx
    rcases hmem x hx with rfl | hx
    · refine ⟨⟨s.tokenCount, tn, true, true, true⟩, by simp, rfl, rfl, ?_, .start, false, by simp, rfl⟩
      simpa [Shape.addToken, Function.update_apply, Nat.ne_of_lt hlt] using hcan
    · exact hc₃.healthy h hs hsv hcan x hx

section Handle

/-! The hub carries out a request taken off its queue. Each lemma starts from the shape `s` before
the take, whose hub `h₀` has the request at the head of its queue, and a world `w` after the take. -/

variable {h₀ : HubShape} {rest : List HubRequest} {w : World} {hw : Hub}

theorem registry_of_taken (hh : w.hub = some hw)
    (hw' : w.shape = s.setHub (some { h₀ with requests := rest })) : hw.workers = h₀.registry :=
  congrArg HubShape.registry (World.hubShape_of hh hw')

/-- The hub takes a request that changes nothing else. -/
theorem takeOnly (hc : Coherent e s) (hs : s.hub = some h₀) (hreq : h₀.requests = q :: rest)
    (hslot : ∀ slot, q.reply? = some slot → ∀ t r, s.tasks t = some (.reconciler r, false) →
      s.cancelled r.token = false → s.Serving h₀ → r.phase ≠ .awaitingSeed slot)
    (hcmd : ∀ c, q = .command c → c.updateKnown h₀.keys = h₀.keys) :
    Coherent e (s.setHub (some { h₀ with requests := rest })) :=
  hc.take hs hreq hslot (fun c hc' => (hcmd c hc').symm) (fun _ => rfl)
    (hc.toFrame.setRequests hs rest fun q' hq' => hc.questions h₀ hs q'
      (by rw [hreq]; exact List.mem_cons_of_mem _ hq')) rfl

/-- **A register**: a symbol registered already is left as it is; a new one gets a fresh
    worker. -/
theorem handle_register (hc : Coherent e s) (hs : s.hub = some h₀) {sym : Symbol} {robots : List Robot}
    (hreq : h₀.requests = .command (.register sym robots) :: rest) (hh : w.hub = some hw)
    (hw' : w.shape = s.setHub (some { h₀ with requests := rest })) :
    Coherent e (w.handleRequest (.command (.register sym robots))).shape := by
  have hreg := registry_of_taken hh hw'
  by_cases hsym : sym ∈ h₀.keys
  · have hany : (hw.workers.any fun e => e.1 = sym) = true := by
      rw [hreg]
      obtain ⟨x, hx, rfl⟩ := List.mem_map.1 hsym
      exact List.any_eq_true.2 ⟨x, hx, by simp⟩
    have heq : w.handleRequest (.command (.register sym robots)) = w := by
      simp [World.handleRequest, hh, hany]
    rw [heq, hw']
    exact hc.takeOnly hs hreq (by rintro _ ⟨⟩) fun c hc' => by
      cases hc'
      exact Ascending.insert_of_mem (hc.sorted h₀ hs) hsym
  · have hhw := World.hubShape_of hh hw'
    have hnew : sym ∉ (World.registry w).map (·.1) := by
      rw [show World.registry w = h₀.registry by simp [World.registry, hh, hreg]]
      exact hsym
    have hwid : s.workers w.workers.size = none := by
      rw [← show w.shape.workers = s.workers by rw [hw']; rfl]
      simp [World.shape, World.worker?]
    have htn : s.tasks w.tasks.size = none := by
      rw [← show w.shape.tasks = s.tasks by rw [hw']; rfl]
      exact World.shape_tasks_size w
    have htok : hw.token = h₀.token := congrArg HubShape.token hhw
    have hfw : ({ hw with workers := World.insertEntry (sym, w.workers.size) hw.workers } : Hub).shape =
        { h₀ with requests := rest, registry := World.insertEntry (sym, w.workers.size) h₀.registry } := by
      simp only [Hub.shape, HubShape.mk.injEq] at hhw ⊢
      obtain ⟨h₁, h₂, h₃, h₄, h₅⟩ := hhw
      exact ⟨h₁, h₂, by rw [h₃], h₄, h₅⟩
    rw [World.handleRequest_register hh hnew, World.shape_modifyHub, World.spawnWorker_hub, hh,
      Option.map_some, hfw, World.shape_spawnWorker, hw', Shape.addToken_setHub, Shape.setWorker_setHub,
      Shape.setTask_setHub, Shape.setHub_setHub, htok]
    exact hc.register hs hreq hsym hwid htn

/-- **An unregister**: a registered symbol is forgotten and its worker cancelled, with a task
    left to stop it; an unknown one is ignored. -/
theorem handle_unregister (hc : Coherent e s) (hs : s.hub = some h₀) {sym : Symbol}
    (hreq : h₀.requests = .command (.unregister sym) :: rest) (hh : w.hub = some hw)
    (hw' : w.shape = s.setHub (some { h₀ with requests := rest })) :
    Coherent e (w.handleRequest (.command (.unregister sym))).shape := by
  have hreg := registry_of_taken hh hw'
  have hhw := World.hubShape_of hh hw'
  cases hl : hw.workers.lookup sym with
  | none =>
    have heq : w.handleRequest (.command (.unregister sym)) = w := by simp [World.handleRequest, hh, hl]
    rw [heq, hw']
    refine hc.takeOnly hs hreq (by rintro _ ⟨⟩) fun c hc' => ?_
    cases hc'
    -- the symbol is not registered, so the known symbols keep it out already
    refine List.filter_eq_self.2 fun s' hs' => ?_
    obtain ⟨x, hx, rfl⟩ := List.mem_map.1 hs'
    have hne : x.1 ≠ sym := fun he => by
      rw [← he, hreg, lookup_eq_of_mem (hc.sorted h₀ hs).nodup hx] at hl
      cases hl
    simpa using hne
  | some wid =>
    have hmem : (sym, wid) ∈ h₀.registry := hreg ▸ List.mem_of_lookup_eq_some hl
    obtain ⟨k, hk, hks⟩ : ∃ k, w.worker? wid = some k ∧ w.shape.workers wid = some k.shape := by
      have hex : w.shape.workers wid ≠ none := by
        rw [hw']
        exact hc.registered h₀ hs _ hmem
      obtain ⟨ks, hks⟩ := Option.ne_none_iff_exists'.1 hex
      obtain ⟨k, hk, rfl⟩ := World.worker?_of_shape hks
      exact ⟨k, hk, hks⟩
    have heq : w.handleRequest (.command (.unregister sym)) = (w.forget sym).cancelWorker wid := by
      simp [World.handleRequest, hh, hl]
    -- the hub takes the command and forgets the symbol
    have hc₁ : Coherent e (w.forget sym).shape := by
      rw [World.shape_forget hh, hw', Shape.setHub_setHub, hhw]
      refine hc.take hs hreq (by rintro _ ⟨⟩) (fun c hc' => ?_) (by rintro ⟨⟩)
        (hc.toFrame.forget hs (fun q hq => by rw [hreq]; exact List.mem_cons_of_mem _ hq) sym) rfl
      cases hc'
      simp [HubShape.keys, HubCommand.updateKnown, List.filter_map, Function.comp_def]
    -- the worker is no longer registered: the symbols are distinct, and so are the workers
    have hout : ∀ h, (w.forget sym).shape.hub = some h → wid ∉ h.registry.map (·.2) := by
      intro h hs' hin
      rw [World.shape_forget hh, hw', Shape.setHub_setHub, hhw, Shape.setHub_hub, Option.some.injEq] at hs'
      subst hs'
      obtain ⟨x, hx, hxw⟩ := List.mem_map.1 hin
      have hx' := List.mem_filter.1 hx
      have : x = (sym, wid) := List.inj_on_of_nodup_map (hc.distinct h₀ hs) hx'.1 hmem hxw
      simp [this] at hx'
    have hks₁ : (w.forget sym).shape.workers wid = some k.shape := hks
    have hc₂ := hc₁.cancel_world (hc₁.spares_unregistered hks₁ fun h hs' _ _ => hout h hs')
    rw [Worker.shape_token] at hc₂
    rw [heq, World.shape_cancelWorker (show (w.forget sym).worker? wid = some k from hk)]
    refine hc₂.spawnQuiet (World.shape_tasks_size _) rfl ⟨by simp [World.shape_cancel, hks₁], ?_⟩
    intro h hs'
    rw [World.shape_cancel] at hs'
    exact hout h hs'

/-- **A broadcast** hands the robot list to a registered worker, whose queue is open while the hub
    serves uncancelled; a full queue drops the list. Either way the registry stays. -/
theorem handle_broadcast (hc : Coherent e s) (hs : s.hub = some h₀) (hsv : s.Serving h₀)
    (hcan : s.cancelled h₀.token = false) {sym : Symbol} {robots : List Robot}
    (hreq : h₀.requests = .command (.broadcast sym robots) :: rest) (hh : w.hub = some hw)
    (hw' : w.shape = s.setHub (some { h₀ with requests := rest })) :
    Coherent e (w.handleRequest (.command (.broadcast sym robots))).shape := by
  have hreg := registry_of_taken hh hw'
  have hc₀ : Coherent e w.shape := by
    rw [hw']
    exact hc.takeOnly hs hreq (fun _ h => nomatch h) fun c hc' => by cases hc'; rfl
  cases hl : hw.workers.lookup sym with
  | none =>
    have heq : w.handleRequest (.command (.broadcast sym robots)) = w := by simp [World.handleRequest, hh, hl]
    rwa [heq]
  | some wid =>
    cases ht : w.tryCommand wid ⟨robots, none⟩ with
    | ok w'' =>
      have heq : w.handleRequest (.command (.broadcast sym robots)) = w'' := by
        simp [World.handleRequest, hh, hl, ht]
      rwa [heq, World.shape_tryCommand rfl ht]
    | error e =>
      cases e with
      | full =>
        have heq : w.handleRequest (.command (.broadcast sym robots)) = w := by
          simp [World.handleRequest, hh, hl, ht]
        rwa [heq]
      | closed =>
        -- a registered worker of a serving hub has its queue open
        exfalso
        have hmem : (sym, wid) ∈ h₀.registry := hreg ▸ List.mem_of_lookup_eq_some hl
        obtain ⟨ks, hks, -, hro, -⟩ := hc.healthy h₀ hs hsv hcan _ hmem
        obtain ⟨k, hk, rfl⟩ := World.worker?_of_shape
          (show w.shape.workers wid = some ks by rw [hw']; exact hks)
        have := World.receiverOpen_of_tryCommand hk ht
        simp [Worker.shape, this] at hro

/-- **A symbols question** is answered at once with the registered symbols. -/
theorem handle_symbols (hc : Coherent e s) (hs : s.hub = some h₀) {r : Nat}
    (hreq : h₀.requests = .symbols r :: rest) (hh : w.hub = some hw)
    (hw' : w.shape = s.setHub (some { h₀ with requests := rest })) :
    Coherent e (w.handleRequest (.symbols r)).shape := by
  have hreg := registry_of_taken hh hw'
  have heq : w.handleRequest (.symbols r) = w.answer r (.symbols (hw.workers.map (·.1))) := by
    simp [World.handleRequest, hh]
  rw [heq, World.shape_answer, hw', hreg]
  exact hc.answerSeed hs hreq

/-- **A robots question** goes to a helper that waits for the worker's lock, or is answered at
    once when the symbol has no worker. Either way it answers through its own slot, on which no
    seeding reconciler waits. -/
theorem handle_robotIds (hc : Coherent e s) (hs : s.hub = some h₀) {sym : Symbol} {r : Nat}
    (hreq : h₀.requests = .robotIds sym r :: rest) (hh : w.hub = some hw)
    (hw' : w.shape = s.setHub (some { h₀ with requests := rest })) :
    Coherent e (w.handleRequest (.robotIds sym r)).shape := by
  have hslot : ∀ t rr h, s.tasks t = some (.reconciler rr, false) → s.cancelled rr.token = false →
      s.hub = some h → s.Serving h → rr.phase ≠ .awaitingSeed r := by
    intro t rr h ht hcan hs' hsv
    rw [hs, Option.some.injEq] at hs'
    subst hs'
    exact hc.not_awaiting_of_queued hs
      (show HubRequest.robotIds sym r ∈ h₀.requests by rw [hreq]; exact List.mem_cons_self ..) rfl (by rintro ⟨⟩)
      ht hcan hsv
  cases hl : hw.workers.lookup sym with
  | none =>
    have heq : w.handleRequest (.robotIds sym r) = w.answer r (.robotIds none) := by
      simp [World.handleRequest, hh, hl]
    rw [heq, World.shape_answer, hw', Shape.setReply_setHub]
    refine (hc.mapReply r _ hslot).takeOnly hs hreq (fun slot hsl t rr ht hcan hsv => ?_)
      (by rintro _ ⟨⟩)
    cases hsl
    exact hslot t rr h₀ ht hcan hs hsv
  | some wid =>
    have heq : w.handleRequest (.robotIds sym r) = (w.spawn (.robotIds wid r)).1 := by
      simp [World.handleRequest, hh, hl]
    have htn : s.tasks w.tasks.size = none := by
      rw [← show w.shape.tasks = s.tasks by rw [hw']; rfl]
      exact World.shape_tasks_size w
    have hr : s.replies r ≠ none := hc.questions h₀ hs _ (by rw [hreq]; exact List.mem_cons_self ..) r rfl
    rw [heq, World.shape_spawn, hw', Shape.setTask_setHub]
    refine (hc.spawnHelper htn hr hslot).takeOnly hs hreq (fun slot hsl t rr ht hcan hsv => ?_)
      (by rintro _ ⟨⟩)
    cases hsl
    rcases Shape.setTask_eq_some ht with ⟨-, hv⟩ | ⟨-, ht⟩
    · cases hv
    · exact hslot t rr h₀ ht hcan hs (Shape.serving_of_setTask hsv (by rintro _ ⟨⟩))

/-- **The hub carries out a request** taken off the head of its queue. -/
theorem handleRequest (hc : Coherent e s) (hs : s.hub = some h₀) (hsv : s.Serving h₀)
    (hcan : s.cancelled h₀.token = false) {req : HubRequest} (hreq : h₀.requests = req :: rest)
    (hh : w.hub = some hw) (hw' : w.shape = s.setHub (some { h₀ with requests := rest })) :
    Coherent e (w.handleRequest req).shape := by
  cases req with
  | command c =>
    cases c with
    | register sym robots => exact hc.handle_register hs hreq hh hw'
    | unregister sym => exact hc.handle_unregister hs hreq hh hw'
    | broadcast sym robots => exact hc.handle_broadcast hs hsv hcan hreq hh hw'
  | symbols r => exact hc.handle_symbols hs hreq hh hw'
  | robotIds sym r => exact hc.handle_robotIds hs hreq hh hw'

end Handle

/-- Where no hub serves, the frame is the whole invariant. -/
theorem of_not_serving (hf : Frame e s) (hns : ∀ h, s.hub = some h → ¬ s.Serving h) : Coherent e s where
  toFrame := hf
  agrees _ _ h _ _ hs hsv := absurd hsv (hns h hs)

section HubSteps

/-! The hub leaves its loop, stops its workers one by one and ends. From the moment it leaves its
loop it serves no more, so the frame alone carries the invariant. -/

variable {w : World} {hw : Hub} {t : TaskId}

/-- **The hub ends**: its queue closes, the questions left lose their answers and its task ends. -/
theorem endHub (hf : Frame e w.shape) (hh : w.hub = some hw) (htask : hw.task = t) :
    Coherent e (w.endHub t).1.shape := by
  have hs := World.shape_hub_of hh
  have hfin : Frame e (w.shape.finish t) := hf.of_ends (Shape.ends_finish _ t) rfl rfl rfl rfl rfl rfl
  -- the queue closes once the task has ended, so it keeps its receiver while the task runs
  have hclosed : Frame e ((w.shape.finish t).setHub
      (some { hw.shape with requests := [], receiverOpen := false })) :=
    hfin.setHub hs rfl rfl (fun _ hp => absurd hp (Shape.finish_tasks_ne htask)) (hf.sorted hw.shape hs)
      (hf.distinct hw.shape hs) (hf.registered hw.shape hs) (fun _ => nofun)
      (fun x wid b d hx => (hfin.stoppers x wid b d hx).2 hw.shape hs)
      fun hsv => absurd hsv (Shape.not_serving_finish htask)
  rw [World.shape_endHub hh, Shape.foldl_dropQuestion_finish, Shape.finish_setHub]
  refine of_not_serving (hclosed.foldl_dropQuestion _) fun h' hs' hsv => ?_
  rw [Shape.foldl_dropQuestion_hub, Shape.setHub_hub, Option.some.injEq] at hs'
  subst hs'
  rw [Shape.foldl_dropQuestion_serving] at hsv
  exact Shape.not_serving_finish htask hsv

/-- **The hub's task dies**: it lets go of every worker's handle, empties its registry and
    ends. -/
theorem abortHub (hf : Frame e w.shape) (hh : w.hub = some hw) (htask : hw.task = t) :
    Coherent e (w.abortHub t hw).1.shape := by
  have hs := World.shape_hub_of hh
  have hh₁ : (hw.workers.foldl (fun w e => w.dropHandle e.2) (w.unwatch hw.token t)).hub = some hw := by
    rw [World.foldl_dropHandle_hub]
    exact hh
  have hh₂ : ((hw.workers.foldl (fun w e => w.dropHandle e.2) (w.unwatch hw.token t)).modifyHub
      fun h => { h with workers := [] }).hub = some { hw with workers := [] } := by
    rw [World.modifyHub_hub, hh₁]
    rfl
  unfold World.abortHub
  refine endHub ?_ hh₂ htask
  rw [World.shape_modifyHub, hh₁, Option.map_some, World.shape_foldl_dropHandle, World.shape_unwatch]
  -- the registry is emptied first, so the handles go from workers no hub keeps
  have hf₁ : Frame e ((hw.workers.map (·.2)).foldl Shape.closeSender
      (w.shape.setHub (some { hw.shape with registry := [] }))) :=
    (hf.clearRegistry hs).foldl_closeSender fun h' hs' _ _ _ _ => by
      rw [Shape.setHub_hub, Option.some.injEq] at hs'
      subst hs'
      exact nofun
  rw [Shape.foldl_closeSender_setHub] at hf₁
  exact hf₁

/-- **The hub leaves its loop**: it cancels its token, which spares every registered worker, and
    hands its registry to its stopping phase. -/
theorem leaveHub (hf : Frame e w.shape) (hh : w.hub = some hw) {p : HubPhase} {d : Bool}
    (ht : w.shape.tasks t = some (.hub p, d)) : Coherent e (w.leaveHub t hw).1.shape := by
  have hs := World.shape_hub_of hh
  obtain ⟨h', hs', rfl⟩ := hf.hubOnly t p d ht
  rw [hs, Option.some.injEq] at hs'
  subst hs'
  have hf₀ : Frame e (w.unwatch hw.token hw.shape.task).shape := by rwa [World.shape_unwatch]
  have hs₀ : (w.unwatch hw.token hw.shape.task).shape.hub = some hw.shape := by rwa [World.shape_unwatch]
  have hf₁ := hf₀.cancel_world (hf₀.spares_hubToken hs₀)
  have hs₁ : ((w.unwatch hw.token hw.shape.task).cancel hw.token).shape.hub = some hw.shape := by
    rwa [World.shape_cancel, World.shape_unwatch]
  have ht₁ : ((w.unwatch hw.token hw.shape.task).cancel hw.token).shape.tasks hw.shape.task =
      some (.hub p, d) := by
    rwa [World.shape_cancel, World.shape_unwatch]
  rw [World.shape_leaveHub hh ht]
  have hf₂ := hf₁.setHubPhase hs₁ ht₁ (hw.workers.map (·.2))
  exact of_not_serving (hf₂.clearRegistry hs₁)
    (Shape.not_serving_of_stopping rfl (Shape.setTask_tasks_self ..))

/-- **The hub stops its next worker**: it cancels the worker's token and waits for its control
    task to end, then lets go of its handle. -/
theorem stepHub_stopping (hf : Frame e w.shape) (hh : w.hub = some hw) (htask : hw.task = t)
    {wid : Nat} {rest : List Nat} {d : Bool}
    (ht : w.shape.tasks t = some (.hub (.stopping (wid :: rest)), d)) :
    Coherent e (w.stepHub t (.stopping (wid :: rest))).1.shape := by
  subst htask
  have hs := World.shape_hub_of hh
  have hns := Shape.not_serving_of_stopping hs ht
  unfold World.stepHub
  rw [hh]
  dsimp only
  split
  · rename_i k hk
    have hf₁ : Frame e (w.cancel k.token).shape := hf.cancel_world (Frame.spares_of_not_serving hns _)
    have hs₁ : (w.cancel k.token).shape.hub = some hw.shape := by rwa [World.shape_cancel]
    have ht₁ : (w.cancel k.token).shape.tasks hw.task = some (.hub (.stopping (wid :: rest)), d) := by
      rwa [World.shape_cancel]
    have hns₁ := Shape.not_serving_of_stopping hs₁ ht₁
    split
    · -- the worker's task has ended: its handle goes and the hub moves on
      dsimp only
      rw [World.shape_setJob _ (by rw [World.shape_dropHandle_eq]; exact ht₁) rfl, World.shape_dropHandle_eq]
      have hf₂ : Frame e ((w.cancel k.token).shape.closeSender wid) :=
        hf₁.closeSender fun h' hs' hsv => absurd hsv (hns₁ h' hs')
      exact of_not_serving (hf₂.setHubPhase hs₁ ht₁ rest)
        (Shape.not_serving_of_stopping hs₁ (Shape.setTask_tasks_self ..))
    · dsimp only
      rw [World.shape_joinOn]
      exact of_not_serving hf₁ hns₁
  · dsimp only
    rw [World.shape_setJob _ ht rfl]
    exact of_not_serving (hf.setHubPhase hs ht rest)
      (Shape.not_serving_of_stopping hs (Shape.setTask_tasks_self ..))

/-- **The hub serves**: with its token cancelled or its queue ended it leaves its loop; with a
    request it cannot carry out its task dies; otherwise it carries out the request or waits. -/
theorem stepHub_serving (hc : Coherent e w.shape) (hh : w.hub = some hw) (htask : hw.task = t)
    (ht : w.shape.tasks t = some (.hub .serving, false)) : Coherent e (w.stepHub t .serving).1.shape := by
  subst htask
  have hs := World.shape_hub_of hh
  unfold World.stepHub
  rw [hh]
  dsimp only
  split
  · exact leaveHub hc.toFrame hh ht
  · rename_i hcan
    rcases hrecv : hw.requests.recv hw.task with ⟨q, got, ws⟩
    dsimp only
    have hw₁ := World.shape_recvRequest hh hrecv
    have hh₁ : ((w.modifyHub fun h => { h with requests := q }).wakeAll ws).hub =
        some { hw with requests := q } := by
      rw [World.wakeAll_hub, World.modifyHub_hub, hh]
      rfl
    have hitems : q.items = hw.requests.items.tail := by
      have := Queue.recv_items hw.requests hw.task
      rwa [hrecv] at this
    cases got with
    | item req =>
      have hreq : hw.shape.requests = req :: q.items := by
        have := Queue.recv_item (q := hw.requests) (t := hw.task) (x := req) (by rw [hrecv])
        rwa [hrecv] at this
      have hf₁ : Frame e (w.shape.setHub (some { hw.shape with requests := q.items })) :=
        hc.toFrame.setRequests hs _ fun x hx => hc.questions hw.shape hs x (by rw [hreq]; exact .tail _ hx)
      dsimp only
      split
      · -- the worker's queue cannot be made: the hub's task dies
        rw [← World.abortHub_requests q]
        exact abortHub (by rw [hw₁]; exact hf₁) hh₁ rfl
      · exact hc.handleRequest hs ht (Bool.eq_false_iff.2 hcan) hreq hh₁ (by rw [World.shape_unwatch, hw₁])
    | ended =>
      -- the queue is empty and has lost its senders
      have hnil : q.items = [] := by
        rw [hitems, (Queue.recv_ended (by rw [hrecv] : (hw.requests.recv hw.task).2.1 = .ended)).1]
        rfl
      have hf₁ : Frame e (w.shape.setHub (some { hw.shape with requests := q.items })) :=
        hc.toFrame.setRequests hs _ (by rw [hnil]; exact nofun)
      rw [← World.leaveHub_requests q]
      exact leaveHub (by rw [hw₁]; exact hf₁) hh₁ (by rw [hw₁]; exact ht)
    | empty =>
      have hq : q.items = hw.shape.requests := by
        have he := Queue.recv_empty (by rw [hrecv] : (hw.requests.recv hw.task).2.1 = .empty)
        rw [hitems, he]
        exact he.symm
      dsimp only
      rw [World.shape_watch, hw₁, hq]
      rwa [Shape.setHub_self hs]

/-- **A step of the hub's task keeps the invariant.** -/
theorem stepHub (hc : Coherent e w.shape) {p : HubPhase} (ht : w.shape.tasks t = some (.hub p, false)) :
    Coherent e (w.stepHub t p).1.shape := by
  obtain ⟨h, hs, htask⟩ := hc.hubOnly t p false ht
  cases hh : w.hub with
  | none => simp [World.shape, hh] at hs
  | some hw =>
    rw [World.shape_hub_of hh, Option.some.injEq] at hs
    subst hs
    cases p with
    | serving => exact stepHub_serving hc hh htask ht
    | stopping wids =>
      cases wids with
      | nil =>
        unfold World.stepHub
        rw [hh]
        exact endHub hc.toFrame hh htask
      | cons wid rest => exact stepHub_stopping hc.toFrame hh htask ht

end HubSteps

end Coherent

end RobotTrading
