import RobotTrading.Proofs.Engine.Coherent

/-!
# The reconciler keeps the invariant

Every step of a running reconciler keeps `Coherent`. Asking the hub for its
symbols puts the question into the hub's queue behind everything sent before,
in a reply slot nobody else answers through; so the symbols it adopts are the
registry with no command pending. Each command it sends joins the queue as its
known symbols take the command in, so the fold over the queue moves with them.

## Main statements

* `Coherent.askSeed` : the question for the seed starts the wait for it.
* `Coherent.adoptSeed` : the seed adopted is the registry, with nothing pending.
* `Coherent.sendCommand` : a command sent moves the known symbols and the queue together.
* `Coherent.stepReconciler` : every step of a running reconciler keeps the invariant.
-/

namespace RobotTrading

theorem World.shape_endReconciler (w : World) (t : TaskId) (r : ReconcilerState) :
    (w.endReconciler t r).1.shape = w.shape.finish t := by
  simp [World.endReconciler, World.shape_finish]

namespace Coherent

variable {e : Engine} {w : World} {t : TaskId} {r : ReconcilerState}

theorem endReconciler (hc : Coherent e w.shape) : Coherent e (w.endReconciler t r).1.shape := by
  rw [World.shape_endReconciler]
  exact hc.finish t

/-- A running reconciler serves only while the hub is there. -/
theorem hub_of_reconciler (hc : Coherent e w.shape) {d : Bool}
    (ht : w.shape.tasks t = some (.reconciler r, d)) : ∃ h, w.hub = some h := by
  cases hh : w.hub with
  | none => exact absurd ht (hc.noHub (by simp [World.shape, hh]) t r d)
  | some h => exact ⟨h, rfl⟩

/-- A hub whose queue has lost its receiver no longer serves. -/
theorem not_serving_of_closed (hc : Coherent e w.shape) {h : Hub} (hh : w.hub = some h)
    (ho : h.requests.receiverOpen = false) : ¬ w.shape.Serving h.shape := by
  intro hsv
  have := hc.hubOpen h.shape .serving (World.shape_hub_of hh) hsv
  simp [Hub.shape, ho] at this

/-- The reconciler moves on to a phase outside its seed with the known symbols of its own that
    `hagree` asks for. -/
theorem moveOn (hc : Coherent e w.shape) (ht : w.shape.tasks t = some (.reconciler r, false))
    {r' : ReconcilerState} (htok : r'.token = r.token) (hph : ∀ slot, r'.phase ≠ .awaitingSeed slot)
    (hagree : ∀ h, w.shape.hub = some h → w.shape.Serving h → w.cancelled r.token = false →
      w.shape.Agrees h t r → (w.shape.setTask t (some (.reconciler r', false))).Agrees h t r') :
    Coherent e (w.setJob t (.reconciler r')).shape := by
  rw [World.shape_setJob w ht rfl]
  refine hc.setReconciler ht htok (fun slot h => absurd h (hph slot)) fun _ hcan h hs hsv => ?_
  exact hagree h hs hsv hcan (hc.agrees t r h ht hcan hs hsv)

/-- A seeded reconciler that keeps its known symbols keeps the invariant. -/
theorem keepKnown (hc : Coherent e w.shape) (ht : w.shape.tasks t = some (.reconciler r, false))
    (hseeded : r.phase = .waiting ∨ ∃ cmds, r.phase = .sending cmds) {r' : ReconcilerState}
    (htok : r'.token = r.token) (hseeded' : r'.phase = .waiting ∨ ∃ cmds, r'.phase = .sending cmds)
    (hknown : r'.known = r.known) : Coherent e (w.setJob t (.reconciler r')).shape := by
  have hph : ∀ slot, r'.phase ≠ .awaitingSeed slot := by
    intro slot h
    rcases hseeded' with h' | ⟨cmds, h'⟩ <;> rw [h'] at h <;> cases h
  refine hc.moveOn ht htok hph fun h _ _ _ ha => ?_
  rw [Shape.agrees_seeded hseeded'] at ⊢
  rw [Shape.agrees_seeded hseeded] at ha
  exact ha.trans hknown.symm

/-- **Asking for the seed.** The question joins the hub's queue in a fresh reply slot, behind
    everything sent before, and the reconciler starts to wait on that slot. -/
theorem askSeed (hc : Coherent e w.shape) (ht : w.shape.tasks t = some (.reconciler r, false))
    (hcan : w.shape.cancelled r.token = false) :
    Coherent e ((w.newReply.1.pushRequest (.symbols w.replies.size)).setJob t
      (.reconciler { r with phase := .awaitingSeed w.replies.size })).shape := by
  set slot := w.replies.size
  have hfresh : w.shape.replies slot = none := World.shape_replies_size w
  -- no task of the world waits on or answers through the fresh slot
  have hseed : ∀ t' r' d, w.shape.tasks t' = some (.reconciler r', d) →
      r'.phase ≠ .awaitingSeed slot := fun t' r' d ht' hph => hc.seedSlots t' r' d slot ht' hph hfresh
  have h₂ : w.newReply.1.shape = w.shape.setReply slot (some ⟨none, true, true⟩) :=
    World.shape_newReply w
  have hc₂ : Coherent e w.newReply.1.shape := h₂ ▸ hc.addReply hfresh _
  have ht₂ : w.newReply.1.shape.tasks t = some (.reconciler r, false) := by rw [h₂]; exact ht
  obtain ⟨h, hh⟩ := hc.hub_of_reconciler ht
  have hh₂ : w.newReply.1.hub = some h := hh
  by_cases ho : h.requests.receiverOpen = true
  · -- the question joins the queue
    have h₃ := World.shape_pushRequest_open w.newReply.1 hh₂ ho (.symbols slot)
    have hs₂ := World.shape_hub_of hh₂
    have hc₃ : Coherent e (w.newReply.1.pushRequest (.symbols slot)).shape := by
      rw [h₃]
      refine hc₂.pushQuestion hs₂ rfl fun x hx => ?_
      cases hx
      refine ⟨by simp [h₂], fun t' r' ht' _ => ?_⟩
      rw [h₂] at ht'
      exact hseed t' r' false ht'
    have ht₃ : (w.newReply.1.pushRequest (.symbols slot)).shape.tasks t =
        some (.reconciler r, false) := by rw [h₃]; exact ht₂
    rw [World.shape_setJob _ ht₃ rfl]
    refine hc₃.setReconciler ht₃ rfl (fun x hx => ?_) fun _ _ h' hs hsv => ?_
    · cases hx
      exact ⟨by simp [h₃, h₂], rfl, by rw [h₃, h₂]; exact hcan⟩
    · rw [h₃] at hs
      cases hs
      refine ⟨.inl ⟨h.shape.requests, [], by simp, fun q hq => ?_, by simp, by simp [h₃, h₂]⟩,
        fun t' wid d ht' => ?_, fun t' r' d hne ht' hph => ?_⟩
      · -- every question queued before has a reply slot of its own, made before this one
        intro hr
        exact hc.questions h.shape (World.shape_hub_of hh) q (by simpa using hq) slot hr hfresh
      · rw [Shape.setTask_tasks_of_ne _ (by rintro rfl; simp at ht'), h₃, h₂] at ht'
        exact hc.helpers t' wid slot d ht' hfresh
      · rw [Shape.setTask_tasks_of_ne _ hne, h₃, h₂] at ht'
        exact hseed t' r' d ht' hph
  · -- the hub has stopped taking requests: the question is dropped, and the hub no longer serves
    have hclosed : ∀ h', w.newReply.1.hub = some h' → h'.requests.receiverOpen = false := by
      intro h' hh'
      rw [hh₂, Option.some.injEq] at hh'
      subst hh'
      simpa using ho
    rw [World.pushRequest_of_closed _ hclosed]
    have h₃ := World.shape_dropAnswer w.newReply.1 slot
    have hc₃ : Coherent e (w.newReply.1.dropAnswer slot).shape := by
      rw [h₃]
      refine hc₂.mapReply slot _ fun t' r' h' ht' _ _ _ hph => ?_
      rw [h₂] at ht'
      exact hseed t' r' false ht' hph
    have ht₃ : (w.newReply.1.dropAnswer slot).shape.tasks t = some (.reconciler r, false) := by
      rw [h₃]; exact ht₂
    rw [World.dropRequest, World.shape_setJob _ ht₃ rfl]
    refine hc₃.setReconciler ht₃ rfl (fun x hx => ?_) fun _ _ h' hs hsv => ?_
    · cases hx
      exact ⟨by simp [h₃, h₂], rfl, by rw [h₃, h₂]; exact hcan⟩
    · have hs' : w.newReply.1.shape.hub = some h' := by rwa [h₃] at hs
      simp only [World.shape, hh₂, Option.map_some, Option.some.injEq] at hs'
      subst hs'
      exact absurd (by rwa [h₃] at hsv) (hc₂.not_serving_of_closed hh₂ (by simpa using ho))

/-- **Adopting the seed.** The symbols in the seed's slot are the registered ones, with no
    command waiting in the queue, so the adopted symbols agree with the hub. -/
theorem adoptSeed (hc : Coherent e w.shape) (ht : w.shape.tasks t = some (.reconciler r, false))
    {slot : Nat} (hph : r.phase = .awaitingSeed slot) {x : ReplyShape}
    (hx : w.shape.replies slot = some x) {ss : List Symbol} (hval : x.value = some (.symbols ss)) :
    Coherent e (w.setJob t (.reconciler { r with known := ss, phase := .waiting })).shape := by
  refine hc.moveOn ht rfl (fun _ => nofun) fun h _ _ _ ha => ?_
  rw [Shape.agrees_awaitingSeed hph] at ha
  rw [Shape.agrees_seeded (.inl rfl)]
  obtain ⟨hq, -, -⟩ := ha
  rcases hq with ⟨-, -, -, -, -, hr⟩ | ⟨hall, so, ro, hr⟩
  · -- an empty slot holds no answer
    rw [hx, Option.some.injEq] at hr
    subst hr
    cases hval
  · -- the answer is the registry, and no command waits in the queue
    rw [hx, Option.some.injEq] at hr
    subst hr
    simp only [Option.some.injEq, ReplyValue.symbols.injEq] at hval
    have hpend : h.pending = [] := List.filterMap_eq_nil_iff.2 fun q hq => (hall q hq).2
    simp [hpend, hval]

/-- **Sending a command.** The command joins the hub's queue as the known symbols take it in. -/
theorem sendCommand (hc : Coherent e w.shape) (ht : w.shape.tasks t = some (.reconciler r, false))
    (hcan : w.shape.cancelled r.token = false) {c : HubCommand} {rest : List HubCommand}
    (hph : r.phase = .sending (c :: rest)) :
    Coherent e (((w.pushRequest (.command c)).unwatch r.token t).setJob t (.reconciler
      { r with known := HubCommand.updateKnown r.known c, phase := .sending rest })).shape := by
  obtain ⟨h, hh⟩ := hc.hub_of_reconciler ht
  have hs := World.shape_hub_of hh
  by_cases ho : h.requests.receiverOpen = true
  · have h₃ := World.shape_pushRequest_open w hh ho (.command c)
    have ht₃ : (w.pushRequest (.command c)).shape.tasks t = some (.reconciler r, false) := by
      rw [h₃]; exact ht
    rw [World.shape_setJob _ (by rwa [World.shape_unwatch]) rfl, World.shape_unwatch]
    have hf₃ : Frame e (w.pushRequest (.command c)).shape := by
      rw [h₃]
      refine hc.toFrame.setRequests hs _ fun q hq x hx => ?_
      rcases List.mem_append.1 hq with hq | hq
      · exact hc.questions _ hs q hq x hx
      · rw [List.mem_singleton.1 hq] at hx; cases hx
    refine ⟨hf₃.setReconciler ht₃ rfl (by rintro _ ⟨⟩), fun x r' h' hx hcan' hs' hsv => ?_⟩
    rw [Shape.setTask_cancelled, h₃] at hcan'
    rw [Shape.setTask_hub, h₃] at hs'
    cases hs'
    have hne : h.shape.task ≠ t := (hc.ne_hubTask hs ht (by rintro _ ⟨⟩)).symm
    -- the only running reconciler is this one, and it takes the command in
    have hxt : x = t := by
      by_contra hxt
      rw [Shape.setTask_tasks_of_ne _ hxt, h₃] at hx
      exact hxt (hc.current_unique hx hcan' ht hcan)
    subst hxt
    simp only [Shape.setTask_tasks_self, Option.some.injEq, Prod.mk.injEq, Job.reconciler.injEq]
      at hx
    obtain ⟨rfl, -⟩ := hx
    have hsv₀ : w.shape.Serving h.shape := by
      unfold Shape.Serving at hsv ⊢
      rwa [Shape.setTask_tasks_of_ne _ hne, h₃] at hsv
    have ha := hc.agrees x r h.shape ht hcan hs hsv₀
    rw [Shape.agrees_seeded (.inr ⟨_, hph⟩)] at ha
    rw [Shape.agrees_seeded (.inr ⟨rest, rfl⟩)]
    simp [HubShape.pending, HubShape.keys, List.filterMap_append, HubRequest.command?, ← ha]
  · -- a closed hub drops the command, and no longer serves
    rw [World.pushRequest_of_closed w (fun h' hh' => by
      rw [hh, Option.some.injEq] at hh'; subst hh'; simpa using ho), World.dropRequest_command]
    have hc' : Coherent e (w.unwatch r.token t).shape := by rwa [World.shape_unwatch]
    have ht' : (w.unwatch r.token t).shape.tasks t = some (.reconciler r, false) := by
      rwa [World.shape_unwatch]
    refine hc'.moveOn ht' rfl (by rintro _ ⟨⟩) fun h' hs' hsv _ _ => ?_
    rw [World.shape_unwatch, hs, Option.some.injEq] at hs'
    subst hs'
    rw [World.shape_unwatch] at hsv
    exact absurd hsv (hc.not_serving_of_closed hh (by simpa using ho))

/-- **Every step of a running reconciler keeps the invariant.** -/
theorem stepReconciler (hc : Coherent e w.shape) (ht : w.shape.tasks t = some (.reconciler r, false)) :
    Coherent e (w.stepReconciler t r).1.shape := by
  unfold World.stepReconciler
  dsimp only
  split
  · -- its interval starts
    exact hc.moveOn ht rfl (fun _ => nofun) fun _ _ _ _ _ => Shape.agrees_of_unseeded (.inr rfl)
  · -- it asks the hub for its symbols, once it gets a slot in the hub's queue
    split
    · rw [World.shape_endReconciler, World.shape_withdrawRequest]
      exact hc.finish t
    · rename_i hcan
      have hc₁ : Coherent e (w.reserveRequest t).1.shape := by rwa [World.shape_reserveRequest]
      have ht₁ : (w.reserveRequest t).1.shape.tasks t = some (.reconciler r, false) := by
        rwa [World.shape_reserveRequest]
      split
      · exact hc₁.askSeed ht₁ (by rw [World.shape_reserveRequest]; exact Bool.eq_false_iff.2 hcan)
      · exact hc₁.endReconciler
      · simpa using hc₁
  · -- it waits for the hub's symbols
    rename_i slot hph
    split
    · -- cancelled, it leaves the seed's slot, which no other reconciler waits on
      rename_i hcanc
      rw [World.shape_endReconciler, World.shape_leaveReply]
      refine (hc.mapReply slot _ fun t' r' h ht' hcan' hs hsv hph' => ?_).finish t
      have hne : t ≠ t' := by
        rintro rfl
        rw [ht, Option.some.injEq, Prod.mk.injEq, Job.reconciler.injEq] at ht'
        rw [← ht'.1] at hcan'
        have hcan'' : w.cancelled r.token = false := hcan'
        rw [hcan''] at hcanc
        cases hcanc
      have ha := hc.agrees t' r' h ht' hcan' hs hsv
      rw [Shape.agrees_awaitingSeed hph'] at ha
      exact ha.2.2 t r false hne ht hph
    · split
      · rename_i ss hv
        obtain ⟨x, hx, hval⟩ := World.shape_pollReply_value w hv
        exact (show Coherent e ((w.pollReply slot t).1.unwatch r.token t).shape by simpa using hc).adoptSeed
          (by simpa using ht) hph (by simpa using hx) hval
      · exact (show Coherent e (w.pollReply slot t).1.shape by simpa using hc).endReconciler
      · exact (show Coherent e (w.pollReply slot t).1.shape by simpa using hc).endReconciler
      · simpa using hc
  · -- it waits for its next tick
    rename_i hph
    split
    · exact hc.endReconciler
    · split
      · have hc₁ : Coherent e ((w.disarm t).unwatch r.token t).shape := by simpa using hc
        have ht₁ : ((w.disarm t).unwatch r.token t).shape.tasks t = some (.reconciler r, false) := by
          simpa using ht
        split
        · -- a failed read skips the pass
          exact hc₁.keepKnown ht₁ (.inl hph) rfl (.inl hph) rfl
        · exact hc₁.keepKnown ht₁ (.inl hph) rfl (.inr ⟨_, rfl⟩) rfl
      · simpa using hc
  · -- the pass is over
    rename_i hph
    exact hc.keepKnown ht (.inr ⟨[], hph⟩) rfl (.inl rfl) rfl
  · -- it sends the next command, once it gets a slot in the hub's queue
    rename_i c rest hph
    split
    · rw [World.shape_endReconciler, World.shape_withdrawRequest]
      exact hc.finish t
    · rename_i hcan
      have hc₁ : Coherent e (w.reserveRequest t).1.shape := by rwa [World.shape_reserveRequest]
      have ht₁ : (w.reserveRequest t).1.shape.tasks t = some (.reconciler r, false) := by
        rwa [World.shape_reserveRequest]
      split
      · exact hc₁.sendCommand ht₁ (by rw [World.shape_reserveRequest]; exact Bool.eq_false_iff.2 hcan)
          hph
      · exact hc₁.endReconciler
      · simpa using hc₁

end Coherent

end RobotTrading
