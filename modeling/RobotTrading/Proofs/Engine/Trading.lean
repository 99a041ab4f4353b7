import RobotTrading.Proofs.Engine.Sequential
import RobotTrading.Proofs.Deal.Run

/-!
# Trading clients in a sequential schedule

In a sequential schedule every reconcile pass, with the hub's and the workers'
handling of its commands, and every tick a reader fans out, finishes before the
next event. Such a schedule is replayed here together with a journal: for each
symbol and robot, the ticks the robot's client ran its machine on since the
robot was last attached to the symbol's worker, each with the thresholds the
robot held then, and what each tick did.

A fan-out hands the tick to the worker's clients in order. When trade writes
return and no deal overflows, each client runs the tick once, and each deal it
completes is written back and then published, in the clients' order. Along
every such schedule the engine stays faithful to its journal: every attached
client has the machine, and has had the outcomes, of a new machine run over
the ticks in its journal. A pass keeps the journal of a robot that stays
attached and starts afresh that of one attached anew, so an open leg survives
any number of passes and a robot attached again starts buying.

A deal whose profit overflows its robot's yield is different: the reader comes
down in the middle of the fan-out, the clients after it miss the tick, and
nothing is written back or published.

## Main definitions

- `World.fanTick` — a reader fanning out a tick.
- `Event`, `Replay`, `Replay.step`, `Replay.run` — a sequential schedule with its journal.
- `Replay.Faithful`, `Replay.Smooth`, `Replay.Does` — the engine agreeing with its journal,
  what a schedule promises at an event, and what an event does besides.

## Main statements

- `World.fanOut_eq`, `World.fanOut_overflow` — a fan-out, without and with an overflowing deal.
- `World.overflowing_yield_hides_tick` — an overflowing yield hides a tick from later clients.
- `World.fanTick_spec` — a tick fanned out by the reader of a settled worker.
- `Replay.run_clients_follow_deal_machines` — clients run as deal machines along every smooth
  schedule.
-/

namespace RobotTrading

namespace Settlement

/-- The robot a settlement writes back, if any. -/
def written : Settlement → Option Robot
  | write r => some r
  | _ => .none

/-- Recording the deal overflowed. -/
def overflows : Settlement → Bool
  | overflow _ => true
  | _ => false

end Settlement

namespace Robot

/-- A robot with thresholds carries its trading results. -/
theorem results_of_thresholds {r : Robot} {th : Thresholds} (h : r.thresholds = some th) :
    ∃ y n, r.factYield = some y ∧ r.dealsCount = some n := by
  unfold thresholds at h
  cases hy : r.factYield <;> cases hn : r.dealsCount <;> simp_all [bind, Option.bind]

theorem robotId_of_recordDeal {r r' : Robot} {p : Decimal} (h : r.recordDeal p = .ok r') :
    r'.robotId = r.robotId := by
  unfold recordDeal at h
  split at h
  · split at h <;> cases h
    rfl
  · cases h

end Robot

namespace Client

variable (c : Client) (x : PriceTick)

theorem machine_settle (d : CompletedDeal) : (c.settle d).1.machine = c.machine := by
  unfold settle
  split
  · rfl
  · split <;> rfl

theorem robotId_settle (d : CompletedDeal) : (c.settle d).1.robotId = c.robotId := by
  unfold settle
  split
  · rfl
  · split
    · rename_i hr
      exact Robot.robotId_of_recordDeal hr
    · rfl
    · rfl

/-- A tick runs the machine against the robot's thresholds, and a robot without them ignores
    it; settling a completed deal leaves the machine. -/
theorem onTick_run : ((c.onTick x).1.machine, (c.onTick x).2.1) = match c.robot.thresholds with
    | some th => c.machine.onTick th x.buy x.sell
    | none => (c.machine, .idle) := by
  cases hth : c.robot.thresholds with
  | none => simp [onTick, hth]
  | some th =>
    simp only [onTick, hth]
    generalize c.machine.onTick th x.buy x.sell = r
    obtain ⟨m, o⟩ := r
    cases o with
    | completed d => exact Prod.ext (machine_settle _ d) rfl
    | _ => rfl

theorem robotId_onTick : (c.onTick x).1.robotId = c.robotId := by
  cases hth : c.robot.thresholds with
  | none => simp [onTick, hth]
  | some th =>
    simp only [onTick, hth]
    generalize c.machine.onTick th x.buy x.sell = r
    obtain ⟨m, o⟩ := r
    cases o with
    | completed d => exact robotId_settle _ d
    | _ => rfl

/-- **Settling a tick.** Unless recording overflows, a tick writes back exactly when it
    completes a deal, and what it writes is the robot with the deal recorded. -/
theorem written_onTick (h : (c.onTick x).2.2.overflows = false) :
    (c.onTick x).2.2.written = (c.onTick x).2.1.deal?.map fun _ => (c.onTick x).1.robot := by
  cases hth : c.robot.thresholds with
  | none => simp [onTick, hth, Settlement.written, TickOutcome.deal?]
  | some th =>
    obtain ⟨y, n, hy, hn⟩ := Robot.results_of_thresholds hth
    simp only [onTick, hth] at h ⊢
    generalize c.machine.onTick th x.buy x.sell = r at h ⊢
    obtain ⟨m, o⟩ := r
    cases o with
    | completed d =>
      simp only [settle] at h ⊢
      split at h
      · cases h
      · -- a robot with thresholds holds its results, so recording succeeds or overflows
        simp only [Robot.recordDeal, hy, hn] at h ⊢
        split at h
        · simp [Settlement.written, TickOutcome.deal?]
        · cases h
        · rename_i hrec
          split at hrec <;> cases hrec
    | _ => rfl

/-- The clients of a worker trading `s` after tick `x`: when the tick quotes `s`, each client
    ran it once, in order; otherwise the clients ignore it. -/
def fanned (s : Symbol) (x : PriceTick) (cs : List Client) : List Client :=
  if x.symbol = s then cs.map fun c => (c.onTick x).1 else cs

/-- The deals that tick `x` completes for the clients of a worker trading `s`, in the clients'
    order, each as its robot with the deal recorded. -/
def recordedDeals (s : Symbol) (x : PriceTick) (cs : List Client) : List Robot :=
  if x.symbol = s then
    cs.filterMap fun c => (c.onTick x).2.1.deal?.map fun _ => (c.onTick x).1.robot
  else []

theorem map_robotId_fanned (s : Symbol) (x : PriceTick) (cs : List Client) :
    (fanned s x cs).map (·.robotId) = cs.map (·.robotId) := by
  unfold fanned
  split
  · simp [Function.comp_def, robotId_onTick]
  · rfl

/-- In a list of clients ascending by robot, a robot's client is the one found for it. -/
theorem find?_robotId {cs : List Client} (hs : (cs.map (·.robotId)).Pairwise (· < ·)) {c : Client}
    (hc : c ∈ cs) : cs.find? (·.robotId = c.robotId) = some c := by
  induction cs with
  | nil => cases hc
  | cons d cs ih =>
    rw [List.map_cons, List.pairwise_cons] at hs
    rcases List.mem_cons.1 hc with rfl | hc
    · simp
    · -- the clients before `c` have smaller robots
      have hne : d.robotId ≠ c.robotId := Int.ne_of_lt (hs.1 _ (List.mem_map_of_mem hc))
      simp [hne, ih hs.2 hc]

theorem filterMap_written {x : PriceTick} {cs : List Client}
    (h : ∀ c ∈ cs, (c.onTick x).2.2.overflows = false) :
    cs.filterMap (fun c => (c.onTick x).2.2.written) =
      cs.filterMap fun c => (c.onTick x).2.1.deal?.map fun _ => (c.onTick x).1.robot :=
  List.filterMap_congr fun c hc => written_onTick c x (h c hc)

end Client

namespace World

/-- A completed deal written back to the store, then published. -/
def record (w : World) (r : Robot) : World := { w with store := (w.store.saveTrade r).1 }.publish r

/-- Recording deals changes the store and the ring only. -/
theorem foldl_record (rs : List Robot) (w : World) :
    rs.foldl record w =
      { w with
        store := rs.foldl (fun st r => (st.saveTrade r).1) w.store
        updates := rs.foldl UpdateRing.publish w.updates } := by
  induction rs generalizing w with
  | nil => rfl
  | cons r rs ih =>
    rw [List.foldl_cons, ih]
    rfl

@[simp] theorem registry_foldl_record (rs : List Robot) (w : World) :
    registry (rs.foldl record w) = registry w := by
  rw [foldl_record]
  rfl

@[simp] theorem worker?_foldl_record (rs : List Robot) (w : World) (j : Nat) :
    (rs.foldl record w).worker? j = w.worker? j := by
  rw [foldl_record]
  rfl

@[simp] theorem settings_foldl_record (rs : List Robot) (w : World) :
    (rs.foldl record w).settings = w.settings := by
  rw [foldl_record]

theorem effects_foldl_record (rs : List Robot) (w : World) :
    (rs.foldl record w).effects =
      (rs.foldl (fun st r => (st.saveTrade r).1) w.store,
        rs.foldl UpdateRing.publish w.updates) := by
  rw [foldl_record]
  rfl

theorem Touches.foldl_record {w w' : World} {wid : Nat} (h : Touches w w' wid) (rs : List Robot) :
    Touches (rs.foldl record w) (rs.foldl record w') wid := by
  have he : w'.store = w.store ∧ w'.updates = w.updates := Prod.ext_iff.1 h.effects
  rw [World.foldl_record, World.foldl_record]
  refine ⟨h.hub, h.settings, ?_, h.size, h.others⟩
  show (_, _) = (_, _)
  rw [he.1, he.2]

/-- Fanning a tick out over clients none of whose deals overflows, when trade writes return:
    each runs the tick in turn, and each deal it completes is written back and then published,
    before the fan-out goes on to the clients after them. -/
theorem fanOut_append {t : TaskId} {wid tok stream : Nat} {x : PriceTick}
    (pre rest done : List Client) (w : World) (hst : w.stallTrades = false)
    (hpre : ∀ c ∈ pre, (c.onTick x).2.2.overflows = false) :
    fanOut t wid tok stream x (pre ++ rest) done w =
      fanOut t wid tok stream x rest ((pre.map fun c => (c.onTick x).1).reverse ++ done)
        ((pre.filterMap fun c => (c.onTick x).2.2.written).foldl record w) := by
  induction pre generalizing done w with
  | nil => rfl
  | cons c pre ih =>
    have hpre' : ∀ c' ∈ pre, (c'.onTick x).2.2.overflows = false := fun c' h => hpre c' (.tail _ h)
    have hc := hpre c (.head _)
    simp only [List.cons_append, fanOut, List.filterMap_cons, List.map_cons, List.reverse_cons,
      List.append_assoc]
    generalize c.onTick x = r at hc ⊢
    obtain ⟨c', o, s⟩ := r
    cases s with
    | none => exact ih (c' :: done) w hst hpre'
    | write r =>
      dsimp only
      rw [if_neg (by simp [hst])]
      exact ih (c' :: done) (record w r) hst hpre'
    | overflow o => cases hc

/-- **Fanning out a tick**, when trade writes return and no deal overflows: every client runs
    the tick once, in order, each completed deal is written back and published in that order,
    then the lock is let go and the reader reads on. -/
theorem fanOut_eq {t : TaskId} {wid tok stream : Nat} {x : PriceTick} (cs done : List Client)
    (w : World) (hst : w.stallTrades = false)
    (ho : ∀ c ∈ cs, (c.onTick x).2.2.overflows = false) :
    fanOut t wid tok stream x cs done w =
      ((((cs.filterMap fun c => (c.onTick x).2.2.written).foldl record w).modifyWorker wid
          fun k => { k with clients := done.reverse ++ cs.map fun c => (c.onTick x).1 }
        ).unlockClients wid |>.setJob t (.reader wid tok (.reading stream)), true) := by
  conv_lhs => rw [← List.append_nil cs, fanOut_append cs [] done w hst ho]
  simp [fanOut]

/-- **A deal that overflows** brings the reader down in the middle of a fan-out: the clients
    before it ran the tick and their deals were recorded, it ran the tick without writing
    anything, the clients after it miss the tick, and the reader comes down on the spot. -/
theorem fanOut_overflow {t : TaskId} {wid tok stream : Nat} {x : PriceTick}
    (pre : List Client) (c : Client) (rest done : List Client) (w : World)
    (hst : w.stallTrades = false) (hpre : ∀ c ∈ pre, (c.onTick x).2.2.overflows = false)
    (hc : (c.onTick x).2.2.overflows = true) :
    fanOut t wid tok stream x (pre ++ c :: rest) done w =
      ((((pre.filterMap fun c => (c.onTick x).2.2.written).foldl record w).modifyWorker wid
          fun k => { k with clients := done.reverse ++ pre.map (fun c => (c.onTick x).1) ++
            (c.onTick x).1 :: rest }).crashReader t wid tok stream, false) := by
  rw [fanOut_append pre (c :: rest) done w hst hpre]
  simp only [fanOut, List.reverse_append, List.reverse_reverse]
  generalize c.onTick x = r at hc ⊢
  obtain ⟨c', o, s⟩ := r
  cases s with
  | overflow o => rfl
  | _ => cases hc

/-- A reader that comes down on the spot writes and publishes nothing. -/
theorem crashReader_effects (w : World) (t : TaskId) (wid tok stream : Nat) :
    (w.crashReader t wid tok stream).effects = w.effects := by
  have hleave : (w.leaveClients wid t).effects = w.effects := by
    unfold leaveClients
    split <;> simp
  have hdrop : ∀ w' : World, (w'.dropStream stream).effects = w'.effects := fun w' => by
    unfold dropStream
    split
    · simp only [wakeAll_effects]
      rfl
    · rfl
  have hfinish : ∀ w' : World, (w'.finish t).effects = w'.effects := fun w' => by
    unfold finish
    dsimp only
    split
    · simp only [wake_effects]
      rfl
    · rfl
  unfold crashReader
  rw [hfinish, show ∀ w' : World, (w'.unwatch tok t).effects = w'.effects from fun _ => rfl, hdrop,
    hleave]

/-- **The finding at its smallest.** Two robots of AAPL buy at 100 and sell at 110, each holding
    a leg bought at 95; the first one's yield is the largest a decimal holds. A tick quoting 95
    and 115 completes both deals, but the first profit overflows the first robot's yield: the
    reader comes down before the second client sees the tick, so that client keeps its open leg,
    and nothing is written back or published, neither deal. -/
theorem overflowing_yield_hides_tick :
    let dec : Nat → Decimal := fun n => (Decimal.ofInt? n).getD Decimal.zero
    let robot : Int → Nat → Robot := fun i y =>
      { Robot.new i 42 with
        isActive := true, ticker := some ⟨"AAPL"⟩, buyPrice := some (dec 100),
        sellPrice := some (dec 110), factYield := some (dec y), dealsCount := some 0 }
    let holding : Robot → Client := fun r => ⟨r, ⟨.oneLegPerTick, .selling ⟨dec 95⟩, none⟩⟩
    let c₁ := holding (robot 1 (2 ^ 96 - 1))
    let c₂ := holding (robot 2 0)
    let x : PriceTick := ⟨⟨"AAPL"⟩, ⟨dec 95⟩, ⟨dec 115⟩, .now⟩
    (c₁.onTick x).2.1 = .completed ⟨⟨dec 95⟩, ⟨dec 115⟩⟩ ∧
      (c₁.onTick x).2.2 = .overflow .addition ∧
      (c₂.onTick x).2.1 = .completed ⟨⟨dec 95⟩, ⟨dec 115⟩⟩ ∧
      ∀ (w : World) (t : TaskId) (wid tok stream : Nat), w.stallTrades = false →
        (fanOut t wid tok stream x [c₁, c₂] [] w).1 =
            (w.modifyWorker wid fun k => { k with clients := [(c₁.onTick x).1, c₂] }).crashReader
              t wid tok stream ∧
          (fanOut t wid tok stream x [c₁, c₂] [] w).1.effects = w.effects := by
  intro dec robot holding c₁ c₂ x
  have h₁ : (c₁.onTick x).2.2 = .overflow .addition := by decide
  refine ⟨by decide, h₁, by decide, fun w t wid tok stream hst => ?_⟩
  have hc : (c₁.onTick x).2.2.overflows = true := by rw [h₁]; rfl
  rw [show [c₁, c₂] = [] ++ c₁ :: [c₂] from rfl,
    fanOut_overflow [] c₁ [c₂] [] w hst (fun _ h => nomatch h) hc]
  -- clear the empty prefix first: `rfl` against it would evaluate the first client's tick
  simp only [List.filterMap_nil, List.foldl_nil, List.reverse_nil, List.map_nil, List.nil_append,
    true_and]
  exact crashReader_effects _ t wid tok stream

/-- The reader `t` of the worker registered for `s`, holding token `tok`, fans out tick `x`
    that it read from stream `stream`. A symbol without a worker has no reader. -/
def fanTick (w : World) (s : Symbol) (t : TaskId) (tok stream : Nat) (x : PriceTick) : World :=
  match (registry w).lookup s with
  | some wid => (w.stepReader t wid tok (.fanning stream x)).1
  | none => w

section Tick

variable {w w' : World} {known : List Symbol} {s : Symbol} {wid : Nat} {x : PriceTick}

theorem touches_setJob (w : World) (t : TaskId) (j : Job) (wid : Nat) :
    Touches w (w.setJob t j) wid :=
  touches_of_eq (by rfl) (by rfl) (by rfl) (by rfl) wid

theorem touches_spend (w : World) (wid : Nat) : Touches w w.spend wid :=
  touches_of_eq (by rfl) (by rfl) (by rfl) (by rfl) wid

/-- A change confined to one worker's clients keeps a settled engine settled. -/
theorem Settled.touch (h : Settled w known) (hT : Touches w w' wid)
    (hk : ∀ k, w.worker? wid = some k → ∃ cs, w'.worker? wid = some { k with clients := cs }) :
    Settled w' known := by
  have hreg := hT.registry_eq
  refine ⟨by rw [hT.hub]; exact h.hub, hreg ▸ h.keys, h.sorted, fun e he => ?_,
    hreg ▸ h.distinct, fun e he => ?_⟩
  · rw [hT.size]
    exact h.bounded e (hreg ▸ he)
  · rw [hreg] at he
    obtain ⟨k, hk₀, hr⟩ := h.ready e he
    by_cases hw : e.2 = wid
    · obtain ⟨cs, hcs⟩ := hk k (hw ▸ hk₀)
      rw [hw]
      exact ⟨_, hcs, hr.symbol, hr.empty, hr.noSenders, hr.receiving, hr.free, hr.unlocked⟩
    · exact ⟨k, (hT.others _ hw).trans hk₀, hr⟩

theorem Settled.foldl_record (h : Settled w known) (rs : List Robot) :
    Settled (rs.foldl record w) known := by
  rw [World.foldl_record]
  exact ⟨h.hub, h.keys, h.sorted, h.bounded, h.distinct, h.ready⟩

/-- **A tick fanned out** by the reader of a settled worker that has budget left, when trade
    writes return and no deal overflows: the world with the tick's deals recorded, changed in
    that worker only, whose clients each ran the tick once, in order, if it quotes the worker's
    symbol. -/
theorem fanTick_spec (h : Settled w known) (hsw : (s, wid) ∈ registry w) (hb : w.budget ≠ 0)
    (hst : w.stallTrades = false)
    (ho : x.symbol = s → ∀ c ∈ clientsOf w wid, (c.onTick x).2.2.overflows = false)
    (t : TaskId) (tok stream : Nat) :
    Touches ((Client.recordedDeals s x (clientsOf w wid)).foldl record w)
        (w.fanTick s t tok stream x) wid ∧
      (w.fanTick s t tok stream x).worker? wid =
        (w.worker? wid).map fun k => { k with clients := Client.fanned s x k.clients } := by
  obtain ⟨k, hk, hr⟩ := h.ready _ hsw
  have hcl : clientsOf w wid = k.clients := by simp [clientsOf, hk]
  have hlookup : (registry w).lookup s = some wid := h.lookup_eq hsw
  rw [hcl]
  simp only [fanTick, hlookup, stepReader, hk, hr.symbol]
  by_cases hxs : x.symbol = s
  · -- the reader takes the free lock and hands the tick to every client
    have ho' := ho hxs
    rw [hcl] at ho'
    simp only [hxs, ne_eq, not_true_eq_false, if_false, hb, lockClients_of_free hk hr.unlocked,
      if_true]
    set w₁ := w.modifyWorker wid fun k => { k with lock := ⟨some t, []⟩ }
    have hk₁ : w₁.worker? wid = some { k with lock := ⟨some t, []⟩ } := by
      simp [w₁, worker?_modifyWorker, hk]
    simp only [hk₁, Option.map_some, Option.getD_some]
    rw [fanOut_eq k.clients [] w₁.spend hst ho', Client.filterMap_written ho']
    set ds := k.clients.filterMap fun c => (c.onTick x).2.1.deal?.map fun _ => (c.onTick x).1.robot
    have hds : Client.recordedDeals s x k.clients = ds := by simp [Client.recordedDeals, hxs, ds]
    rw [hds]
    set w₂ := (ds.foldl record w₁.spend).modifyWorker wid
      fun k' => { k' with clients := [].reverse ++ k.clients.map fun c => (c.onTick x).1 }
    have hk₂ : w₂.worker? wid =
        some { k with lock := ⟨some t, []⟩, clients := k.clients.map fun c => (c.onTick x).1 } := by
      rw [worker?_modifyWorker, if_pos rfl, World.foldl_record]
      show Option.map _ (w₁.worker? wid) = _
      rw [hk₁]
      rfl
    rw [unlockClients_of_held hk₂ rfl]
    -- recording the deals and then touching the worker
    have hT : Touches (ds.foldl record w) (ds.foldl record w₁.spend) wid :=
      ((touches_modifyWorker w wid _).trans (touches_spend w₁ wid)).foldl_record ds
    refine ⟨((hT.trans (touches_modifyWorker _ _ _)).trans (touches_modifyWorker _ _ _)).trans
      (touches_setJob _ t _ wid), ?_⟩
    show (w₂.modifyWorker wid _).worker? wid = _
    rw [worker?_modifyWorker, if_pos rfl, hk₂]
    simp [Client.fanned, hxs, hr.unlocked]
  · -- a tick of another symbol is passed over
    rw [if_pos hxs]
    simp only [Client.fanned, Client.recordedDeals, if_neg hxs]
    exact ⟨touches_setJob w t _ wid, hk⟩

/-! ### Sequential schedules -/

/-- The clients of the worker registered for `s`; none when `s` has no worker. -/
def attachedTo (w : World) (s : Symbol) : List Client :=
  match (registry w).lookup s with
  | some wid => clientsOf w wid
  | none => []

theorem Settled.attachedTo_eq (h : Settled w known) {e : Symbol × Nat} (he : e ∈ registry w) :
    attachedTo w e.1 = clientsOf w e.2 := by
  simp [attachedTo, h.lookup_eq he]

theorem attachedTo_of_forall_ne (h : ∀ e ∈ registry w, e.1 ≠ s) : attachedTo w s = [] := by
  have hl : (registry w).lookup s = none :=
    List.lookup_eq_none_iff.2 fun e he => bne_iff_ne.2 (Ne.symm (h e he))
  simp [attachedTo, hl]

end Tick

end World

namespace Client

/-- What a client logs for a tick: the tick with the thresholds it holds and what the tick did,
    when it has thresholds; nothing, when it ignores the tick. -/
def logged (c : Client) (x : PriceTick) : List (DealMachine.Tick × TickOutcome) :=
  match c.robot.thresholds with
  | some th => [(⟨th, x.buy, x.sell⟩, (c.onTick x).2.1)]
  | none => []

/-- A client's machine after a tick is its machine run over what it logs. -/
theorem run_logged (c : Client) (x : PriceTick) :
    c.machine.run ((c.logged x).map (·.1)) = ((c.onTick x).1.machine, (c.logged x).map (·.2)) := by
  have h := onTick_run c x
  unfold logged
  cases hth : c.robot.thresholds with
  | none =>
    simp only [hth, Prod.mk.injEq] at h
    simp [DealMachine.run, h.1]
  | some th =>
    simp only [hth] at h
    simp [DealMachine.run, ← h]

end Client

/-- An event of a sequential schedule; each finishes before the next. -/
inductive Event where
  /-- A reconcile pass, with the hub's and the workers' handling of its commands. -/
  | pass
  /-- The reader `reader` of the worker registered for `s`, holding token `token`, fans out
      tick `x`, which it read from stream `stream`. -/
  | tick (s : Symbol) (reader : TaskId) (token stream : Nat) (x : PriceTick)
  /-- Outside the engine: the store is rewritten, the wall clock moves, and reads of the
      eligible robots start or stop failing. -/
  | outside (store : Store) (now : Instant) (failReads : Bool)
  /-- The scheduler starts a task's run, with a fresh budget. -/
  | poll

/-- A sequential schedule under way: the engine, the reconciler's known symbols, and the journal
    of every robot's client at every symbol's worker since the robot was last attached there:
    each tick the client ran its machine on, with the thresholds it held then, and what the
    tick did. -/
structure Replay where
  world : World
  known : List Symbol
  journal : Symbol → Int → List (DealMachine.Tick × TickOutcome)

namespace Replay

open World

/-- One event. A pass keeps the journal of a robot attached to a symbol's worker both before
    and after it, and starts every other afresh; a tick of a worker's symbol adds to the journal
    of each of its clients what the client logs. -/
def step (p : Replay) : Event → Replay
  | .pass =>
    let q := p.world.sequentialPass p.known
    ⟨q.1, q.2, fun s r =>
      if r ∈ (attachedTo p.world s).map (·.robotId) ∧ r ∈ (attachedTo q.1 s).map (·.robotId) then
        p.journal s r
      else []⟩
  | .tick s t tok stream x =>
    ⟨p.world.fanTick s t tok stream x, p.known, fun s' r =>
      if s' = s ∧ x.symbol = s then
        p.journal s' r ++
          ((((attachedTo p.world s).find? (·.robotId = r)).map (·.logged x)).getD [])
      else p.journal s' r⟩
  | .outside st now fr =>
    { p with world := { p.world with store := st, wallClock := now, failReads := fr } }
  | .poll => { p with world := { p.world with budget := runBudget } }

/-- The events of a schedule, in order. -/
def run (p : Replay) (evs : List Event) : Replay := evs.foldl step p

/-- The engine agrees with its journal: it is settled against the known symbols, the clients of
    every registered worker are ascending by robot, and each of them has the machine, and has
    had the outcomes, of a new machine of the engine's policy run over the ticks it logged. -/
structure Faithful (p : Replay) : Prop where
  settled : Settled p.world p.known
  sorted : ∀ e ∈ registry p.world, ((clientsOf p.world e.2).map (·.robotId)).Pairwise (· < ·)
  runs : ∀ e ∈ registry p.world, ∀ c ∈ clientsOf p.world e.2,
    (DealMachine.new p.world.settings.policy).run ((p.journal e.1 c.robotId).map (·.1)) =
      (c.machine, (p.journal e.1 c.robotId).map (·.2))

/-- What a sequential schedule promises at an event: a pass can make the worker queues its
    registers need; a tick is fanned out to the end, its reader having budget left and trade
    writes returning, and no deal it completes overflows. -/
def Smooth (p : Replay) : Event → Prop
  | .pass => Queue.refusal? p.world.settings.workerCapacity = none
  | .tick s _ _ _ x => p.world.budget ≠ 0 ∧ p.world.stallTrades = false ∧
      (x.symbol = s → ∀ c ∈ attachedTo p.world s, (c.onTick x).2.2.overflows = false)
  | _ => True

/-- Every event of a schedule smooth where it happens. -/
def SmoothRun (p : Replay) : List Event → Prop
  | [] => True
  | e :: evs => p.Smooth e ∧ SmoothRun (p.step e) evs

/-- What an event does beyond the journal. A pass leaves the store and the update ring as they
    were. A tick leaves the clients of its symbol's worker as if each ran it once, in order, and
    writes back and then publishes, in the same order, each deal it completes, once. An event
    outside the engine sets the store, and the scheduler changes neither. -/
def Does (p : Replay) : Event → Prop
  | .pass => (p.step .pass).world.effects = p.world.effects
  | .tick s t tok stream x =>
    let ds := Client.recordedDeals s x (attachedTo p.world s)
    attachedTo (p.step (.tick s t tok stream x)).world s =
        Client.fanned s x (attachedTo p.world s) ∧
      (p.step (.tick s t tok stream x)).world.effects =
        (ds.foldl (fun st r => (st.saveTrade r).1) p.world.store,
          ds.foldl UpdateRing.publish p.world.updates)
  | .outside st now fr => (p.step (.outside st now fr)).world.effects = (st, p.world.updates)
  | .poll => (p.step .poll).world.effects = p.world.effects

section Steps

variable {p : Replay}

/-- **A pass** whose worker queues can be made keeps the engine faithful to its journal and leaves
    the store and the ring. -/
theorem Faithful.pass (h : p.Faithful) (hs : p.Smooth .pass) :
    (p.step .pass).Faithful ∧ p.Does .pass := by
  cases hf : p.world.failReads with
  | true =>
    -- the read fails: nothing changes, and every attached robot keeps its journal
    have hq : p.world.sequentialPass p.known = (p.world, p.known) := by
      simp [sequentialPass, hf]
    simp only [Does, step, hq]
    refine ⟨⟨h.settled, h.sorted, fun e he c hc => ?_⟩, trivial⟩
    have hid : c.robotId ∈ (attachedTo p.world e.1).map (·.robotId) := by
      rw [h.settled.attachedTo_eq he]
      exact List.mem_map_of_mem hc
    simp only [hid, and_self, if_true]
    exact h.runs e he c hc
  | false =>
    have hM := h.settled.midway_sequentialPass hs hf
    simp only [Does, step]
    set q := p.world.sequentialPass p.known
    refine ⟨⟨hM.settled, fun e he => ?_, fun e he c hc => ?_⟩, hM.effects⟩
    · obtain ⟨-, hcl⟩ := hM.served e he (List.forall_mem_nil _)
      rw [hcl]
      apply attachClients_sorted
      split
      · exact h.sorted e ‹_›
      · exact List.Pairwise.nil
    · dsimp only at he hc ⊢
      obtain ⟨hnew, hcl⟩ := hM.served e he (List.forall_mem_nil _)
      have hafter : c.robotId ∈ (attachedTo q.1 e.1).map (·.robotId) := by
        rw [hM.settled.attachedTo_eq he]
        exact List.mem_map_of_mem hc
      rw [hM.settings]
      rw [hcl] at hc
      rcases mem_attachClients hc with ⟨c₀, hc₀, hid, hm⟩ | ⟨hid, hm⟩
      · -- the robot stayed attached: its client kept its machine, and it keeps its journal
        by_cases hin : e ∈ registry p.world
        · rw [if_pos hin] at hc₀
          have hbefore : c.robotId ∈ (attachedTo p.world e.1).map (·.robotId) := by
            rw [h.settled.attachedTo_eq hin, ← hid]
            exact List.mem_map_of_mem hc₀
          rw [if_pos ⟨hbefore, hafter⟩, hm, ← hid]
          exact h.runs e hin c₀ hc₀
        · rw [if_neg hin] at hc₀
          cases hc₀
      · -- the robot is attached afresh: a new machine, and an empty journal
        have hbefore : c.robotId ∉ (attachedTo p.world e.1).map (·.robotId) := by
          by_cases hin : e ∈ registry p.world
          · rw [h.settled.attachedTo_eq hin]
            rwa [if_pos hin] at hid
          · rw [attachedTo_of_forall_ne (hnew.resolve_left hin)]
            exact List.not_mem_nil
        rw [if_neg fun h => hbefore h.1, hm]
        rfl

/-- **A tick of a symbol without a worker** has no reader to fan it out: nothing changes. -/
theorem Faithful.tick_unregistered (h : p.Faithful) {s : Symbol} {t : TaskId} {tok stream : Nat}
    {x : PriceTick} (hs : ∀ e ∈ registry p.world, e.1 ≠ s) :
    (p.step (.tick s t tok stream x)).Faithful ∧ p.Does (.tick s t tok stream x) := by
  have hl : (registry p.world).lookup s = none :=
    List.lookup_eq_none_iff.2 fun e he => bne_iff_ne.2 (Ne.symm (hs e he))
  have hat := attachedTo_of_forall_ne hs
  simp only [Does, step, fanTick, hl, hat]
  refine ⟨⟨h.settled, h.sorted, fun e he c hc => ?_⟩, by simp [Client.fanned], ?_⟩
  · simpa using h.runs e he c hc
  · simp [Client.recordedDeals, effects]

/-- **A tick fanned out** by the reader of a registered worker keeps the engine faithful to its
    journal: each client of the worker ran it once, exactly as its journal records, and the
    deals it completed are written back and published in the clients' order. -/
theorem Faithful.tick_registered (h : p.Faithful) {s : Symbol} {t : TaskId} {tok stream : Nat}
    {x : PriceTick} {wid : Nat} (hsw : (s, wid) ∈ registry p.world)
    (hs : p.Smooth (.tick s t tok stream x)) :
    (p.step (.tick s t tok stream x)).Faithful ∧ p.Does (.tick s t tok stream x) := by
  obtain ⟨hb, hst, ho⟩ := hs
  have hat : attachedTo p.world s = clientsOf p.world wid := h.settled.attachedTo_eq hsw
  rw [hat] at ho
  obtain ⟨hT, hwk⟩ := fanTick_spec h.settled hsw hb hst ho t tok stream
  simp only [Does, step]
  set W' := p.world.fanTick s t tok stream x
  set ds := Client.recordedDeals s x (clientsOf p.world wid)
  obtain ⟨k, hk, -⟩ := h.settled.ready _ hsw
  have hreg : registry W' = registry p.world := by
    rw [hT.registry_eq, registry_foldl_record]
  have hset : W'.settings = p.world.settings := by
    rw [hT.settings, settings_foldl_record]
  -- the worker of `s` has its clients fanned; every other worker stays as it was
  have hcl : ∀ j, clientsOf W' j =
      if j = wid then Client.fanned s x (clientsOf p.world wid) else clientsOf p.world j := by
    intro j
    split
    · subst j
      simp [clientsOf, hwk, hk]
    · rename_i hj
      simp only [clientsOf, hT.others j hj, worker?_foldl_record]
  have hS : Settled W' p.known := (h.settled.foldl_record ds).touch hT fun k' hk' => by
    rw [worker?_foldl_record, hk] at hk'
    cases hk'
    exact ⟨_, by rw [hwk, hk]; rfl⟩
  refine ⟨⟨hS, fun e he => ?_, fun e he c hc => ?_⟩, ?_, ?_⟩
  · dsimp only at he ⊢
    rw [hreg] at he
    rw [hcl]
    split
    · rename_i hew
      rw [Client.map_robotId_fanned, ← hew]
      exact h.sorted e he
    · exact h.sorted e he
  · dsimp only at he hc ⊢
    rw [hreg] at he
    rw [hcl] at hc
    rw [hset]
    by_cases hew : e.2 = wid
    · obtain rfl : e = (s, wid) := h.settled.eq_of_worker he hsw hew
      rw [if_pos rfl] at hc
      by_cases hxs : x.symbol = s
      · -- the client ran the tick: its journal grows by what it logged
        simp only [Client.fanned, if_pos hxs, List.mem_map] at hc
        obtain ⟨c₀, hc₀, rfl⟩ := hc
        rw [Client.robotId_onTick, if_pos ⟨rfl, hxs⟩, hat,
          Client.find?_robotId (h.sorted _ hsw) hc₀, Option.map_some, Option.getD_some,
          List.map_append, List.map_append, DealMachine.run_append, h.runs _ hsw c₀ hc₀,
          Client.run_logged]
      · -- a tick of another symbol is passed over
        rw [Client.fanned, if_neg hxs] at hc
        rw [if_neg fun h => hxs h.2]
        exact h.runs _ hsw c hc
    · -- another worker, of another symbol, is left alone
      have hes : e.1 ≠ s := fun hes => hew (congrArg Prod.snd (h.settled.eq_of_symbol he hsw hes))
      rw [if_neg hew] at hc
      rw [if_neg fun h => hes h.1]
      exact h.runs e he c hc
  · rw [show attachedTo W' s = clientsOf W' wid from hS.attachedTo_eq (hreg ▸ hsw), hcl,
      if_pos rfl, hat]
  · rw [hT.effects, effects_foldl_record, hat]

/-- A step that keeps the hub, the workers, the settings, the known symbols and the journal
    keeps the engine faithful. -/
theorem Faithful.frame (h : p.Faithful) {q : Replay} (hh : q.world.hub = p.world.hub)
    (hw : q.world.workers = p.world.workers) (hs : q.world.settings = p.world.settings)
    (hk : q.known = p.known) (hj : q.journal = p.journal) : q.Faithful := by
  have hreg : registry q.world = registry p.world := by simp [registry, hh]
  have hwk : ∀ j, q.world.worker? j = p.world.worker? j := fun j => by simp [worker?, hw]
  have hcl : ∀ j, clientsOf q.world j = clientsOf p.world j := fun j => clientsOf_congr (hwk j)
  refine ⟨⟨by rw [hh]; exact h.settled.hub, by rw [hreg, hk]; exact h.settled.keys,
    hk ▸ h.settled.sorted, fun e he => ?_, hreg ▸ h.settled.distinct, fun e he => ?_⟩,
    fun e he => ?_, fun e he c hc => ?_⟩
  · rw [hw]
    exact h.settled.bounded e (hreg ▸ he)
  · rw [hwk]
    exact h.settled.ready e (hreg ▸ he)
  · rw [hcl]
    exact h.sorted e (hreg ▸ he)
  · rw [hcl] at hc
    rw [hs, hj]
    exact h.runs e (hreg ▸ he) c hc

/-- Every smooth event keeps the engine faithful to its journal, and does what it should. -/
theorem Faithful.step (h : p.Faithful) (e : Event) (hs : p.Smooth e) :
    (p.step e).Faithful ∧ p.Does e := by
  cases e with
  | pass => exact h.pass hs
  | tick s t tok stream x =>
    by_cases hreg : ∃ wid, (s, wid) ∈ registry p.world
    · obtain ⟨wid, hsw⟩ := hreg
      exact h.tick_registered hsw hs
    · exact h.tick_unregistered fun e he hes => hreg ⟨e.2, hes ▸ he⟩
  | outside st now fr => exact ⟨h.frame rfl rfl rfl rfl rfl, rfl⟩
  | poll => exact ⟨h.frame rfl rfl rfl rfl rfl, rfl⟩

end Steps

/-- **Trading clients run as deal machines in a sequential schedule.** Along every schedule of
    reconcile passes, ticks fanned out, changes outside the engine and runs the scheduler starts,
    from an engine faithful to
    its journal, in which every tick is fanned out to the end and no completed deal overflows its
    robot's yield: the engine stays faithful to its journal, so that each attached robot's client
    has the machine, and has had the outcomes, of a new machine run over the ticks of its
    worker's symbol since it was attached there, each with the thresholds the robot held at that
    tick; every tick leaves the clients of its symbol's worker as if each ran it once, in
    ascending robot order, and writes back and publishes each deal it completes once, in that
    order; and a pass neither writes nor publishes anything. -/
theorem run_clients_follow_deal_machines (p : Replay) (h : p.Faithful) (evs : List Event)
    (hs : p.SmoothRun evs) :
    (p.run evs).Faithful ∧ ∀ pre e post, evs = pre ++ e :: post → (p.run pre).Does e := by
  -- induction on the schedule; the invariant is carried event by event
  induction evs generalizing p with
  | nil => exact ⟨h, fun pre e post heq => absurd heq.symm (by simp)⟩
  | cons e evs ih =>
    obtain ⟨hse, hrest⟩ := hs
    obtain ⟨h', hdoes⟩ := h.step e hse
    obtain ⟨hrun, hlater⟩ := ih (p.step e) h' hrest
    refine ⟨hrun, fun pre e' post heq => ?_⟩
    cases pre with
    | nil =>
      obtain ⟨rfl, -⟩ := List.cons.inj heq
      exact hdoes
    | cons a pre =>
      rw [List.cons_append] at heq
      obtain ⟨rfl, htail⟩ := List.cons.inj heq
      exact hlater pre e' post htail

/-- A store holding one eligible robot of AAPL, buying at 100 and selling at 110, with no deals
    yet. A first pass attaches it to a new worker for AAPL, the scheduler starts a run, and the
    worker's reader fans out a tick that opens a leg at 95 and one that completes the deal at 115:
    the robot's journal holds both outcomes, and the deal is written back to the store once. -/
theorem run_clients_follow_deal_machines_traded :
    let dec : Nat → Decimal := fun n => (Decimal.ofInt? n).getD Decimal.zero
    let r : Robot := { Robot.new 1 42 with
      isActive := true, ticker := some ⟨"AAPL"⟩, buyPrice := some (dec 100),
      sellPrice := some (dec 110), factYield := some (dec 0), dealsCount := some 0,
      planStart := some ⟨0, 0⟩, planEnd := some ⟨100, 0⟩ }
    let w := World.new ⟨.oneLegPerTick, 4, true⟩ (Store.ofRobots [r]) (ScriptedFeed.new 4)
      (UpdateRing.new 4) ⟨10, 0⟩ 1000
    let p : Replay := ⟨(w.spawnHub 8 0).1, [], fun _ _ => []⟩
    let tick : Nat → Nat → PriceTick := fun b s => ⟨⟨"AAPL"⟩, ⟨dec b⟩, ⟨dec s⟩, .now⟩
    let evs : List Event :=
      [.pass, .poll, .tick ⟨"AAPL"⟩ 3 1 0 (tick 95 100), .tick ⟨"AAPL"⟩ 3 1 0 (tick 95 115)]
    p.Faithful ∧ p.SmoothRun evs ∧ (p.run evs).Faithful ∧
      (∀ pre e post, evs = pre ++ e :: post → (p.run pre).Does e) ∧
      ((p.run evs).journal ⟨"AAPL"⟩ 1).map (·.2) =
        [.bought ⟨dec 95⟩, .completed ⟨⟨dec 95⟩, ⟨dec 115⟩⟩] ∧
      ((p.run evs).world.store.get? 1).map (·.dealsCount) = some (some 1) := by
  intro dec r w p tick evs
  have h : p.Faithful :=
    ⟨settled_spawnHub w 8 0, (fun _ he => nomatch he), (fun _ he => nomatch he)⟩
  -- the pass can make AAPL's queue; each tick is fanned out with budget left, and completes no
  -- deal that overflows
  have hs : p.SmoothRun evs := by
    refine ⟨?_, trivial, ?_, ?_, trivial⟩ <;> simp only [Smooth] <;> decide
  obtain ⟨hrun, hdoes⟩ := run_clients_follow_deal_machines p h evs hs
  exact ⟨h, hs, hrun, hdoes, by decide, by decide⟩

end Replay

end RobotTrading
