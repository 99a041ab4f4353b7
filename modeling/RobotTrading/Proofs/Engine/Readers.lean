import RobotTrading.Proofs.Engine.StreamRuns

/-!
# A worker's readers along every run

What holds of every worker and its price readers at every moment of every run from a fresh
world (`ReaderLaws`): at most one reader of the worker runs, so at most one stream it opened is
still open; without resubscription it has one reader at most, ever; once its control task has
ended it has no client, and a stream it opened is still open only while a reader aborted past the
grace period holds it, until that reader is dropped. Unless one of its readers came down (aborted,
or ended without clearing the streaming flag), the worker counts as streaming exactly while a
reader runs or before its first, and with resubscription on, applying a robot list leaves a
reader running (`World.Resubscribes`).

A reader does come down while it fans a tick out, when a deal it completes overflows its robot's
yield: the worker then counts as streaming with no reader, and the next robot list opens none.

## Main definitions

* `ReaderLaws` : what holds of a worker at every moment.
* `World.Resubscribes` : what applying a robot list leaves, with resubscription on.

## Main statements

* `World.sound_new` : a fresh world is in order.
* `Streamed.readerLaws` : a worker in order keeps the laws.
* `World.resubscribes` : applying a robot list reopens a dead stream.
* `World.readers_keep_laws` : along every run from a fresh world.
* `World.overflow_leaves_stream_dead` : a reader coming down on an overflowing deal.
-/

namespace RobotTrading

/-- What holds of a worker and its readers at every moment of a run. -/
structure ReaderLaws (u : WorkerView) : Prop where
  /-- At most one reader of the worker has not ended. -/
  oneReader : ∀ x y a b, u.role x = .reader false a → u.role y = .reader false b → x = y
  /-- At most one of its readers holds an open stream. -/
  oneStream : ∀ x y i j, u.holds x = some i → u.holds y = some j → u.isOpen i = true →
    u.isOpen j = true → x = y
  /-- Unless a reader came down, it counts as streaming exactly while a reader runs, or before
      it opened its first. -/
  flag : ¬ u.CameDown → u.present = true → (u.streaming = true ↔
    (∃ x, u.role x = .reader false false) ∨ u.role u.task = .control .start false false)
  /-- Without resubscription it has one reader at most, ever. -/
  dormant : u.resubscribe = false → ∀ x y d d' a a', u.role x = .reader d a →
    u.role y = .reader d' a' → x = y
  /-- Once its control task has ended it has no client, and a reader holding an open stream was
      aborted and has not been dropped yet. -/
  stopped : ∀ p, u.role u.task = .control p true false →
    u.clients = [] ∧ ∀ x i, u.holds x = some i → u.isOpen i = true → u.role x = .reader false true

namespace WorkerView

variable {u : WorkerView}

/-- Unless a reader came down, no reader was aborted. -/
theorem not_aborted (hn : ¬ u.CameDown) {x : TaskId} {d a : Bool} (hx : u.role x = .reader d a) :
    a = false := by
  cases a
  · rfl
  · exact absurd (.inl ⟨x, d, hx⟩) hn

end WorkerView

namespace Streamed

variable {u : WorkerView}

/-- A worker that does not exist and has no task is in order. -/
theorem quiet (hr : ∀ x, u.role x = .other) (hh : ∀ x, u.holds x = none) (hp : u.present = false)
    (hd : u.reader = none) : Streamed u where
  absent _ := hr
  current x a hx := by simp [hr] at hx
  pointer x hx := by simp [hd] at hx
  flagOff _ x a := by simp [hr]
  flagOn hp' := by simp [hp] at hp'
  control hp' := by simp [hp] at hp'
  controlOf x p d a hx := by simp [hr] at hx
  starting d hx := by simp [hr] at hx
  single _ x y d d' a a' hx := by simp [hr] at hx
  aborted p d hx := by simp [hr] at hx
  cleared p hx := by simp [hr] at hx
  owned x i hx := by simp [hh] at hx
  closed x a i hx := by simp [hr] at hx

/-- A reader holding an open stream has not ended. -/
theorem live_of_open (h : Streamed u) {x : TaskId} {i : Nat} (hx : u.holds x = some i)
    (ho : u.isOpen i = true) : ∃ a, u.role x = .reader false a := by
  obtain ⟨⟨d, a, hr⟩, -⟩ := h.owned x i hx
  cases d with
  | false => exact ⟨a, hr⟩
  | true =>
    rw [h.closed x a i hr hx] at ho
    cases ho

/-- Unless a reader came down, the flag is set exactly while a reader runs or before the first. -/
theorem streaming_iff (h : Streamed u) (hn : ¬ u.CameDown) (hp : u.present = true) :
    u.streaming = true ↔
      (∃ x, u.role x = .reader false false) ∨ u.role u.task = .control .start false false := by
  constructor
  · intro hs
    rcases h.flagOn hp hs with ⟨x, a, hx⟩ | hst | hc
    · exact .inl ⟨x, WorkerView.not_aborted hn hx ▸ hx⟩
    · exact .inr hst
    · exact absurd hc hn
  · rintro (⟨x, hx⟩ | hst)
    · cases hs : u.streaming
      · exact absurd hx (h.flagOff hs x false)
      · rfl
    · exact (h.starting false hst).2.1

/-- An ended worker's open stream is held by a reader that was aborted and has not been dropped
    yet: an ended reader has let its stream go, and past the worker's end only an aborted reader
    has not ended. -/
theorem aborted_of_open_of_ended (h : Streamed u) {p : WorkerPhase}
    (hx : u.role u.task = .control p true false) {x : TaskId} {i : Nat} (hi : u.holds x = some i)
    (ho : u.isOpen i = true) : u.role x = .reader false true := by
  obtain ⟨⟨d, a, hr⟩, -⟩ := h.owned x i hi
  cases d with
  | true =>
    rw [h.closed x a i hr hi] at ho
    cases ho
  | false =>
    cases a with
    | false => exact absurd hr (h.aborted p true hx (.inr rfl) x)
    | true => exact hr

/-- **A worker in order keeps the reader laws.** -/
theorem readerLaws (h : Streamed u) : ReaderLaws u where
  oneReader _ _ _ _ := h.live_unique
  oneStream x y i j hx hy hi hj := by
    obtain ⟨a, hxa⟩ := h.live_of_open hx hi
    obtain ⟨b, hyb⟩ := h.live_of_open hy hj
    exact h.live_unique hxa hyb
  flag hn hp := h.streaming_iff hn hp
  dormant := h.single
  stopped p hx := ⟨h.cleared p hx, fun _ _ hi ho => h.aborted_of_open_of_ended hx hi ho⟩

end Streamed

namespace World

open StreamView

variable {w : World} {t : TaskId} {wid : Nat}

/-- **A fresh world is in order**: its only task is the session, and it has no worker. -/
theorem sound_new (settings : TradingSettings) (store : Store) (feed : ScriptedFeed)
    (updates : UpdateRing) (wall : Instant) (every : Nat) :
    (World.new settings store feed updates wall every).streams.Sound := by
  intro wid
  have ht : ∀ x, (World.new settings store feed updates wall every).streams.tasks x = none := by
    intro x
    -- the session's own task drives no stream
    rcases x with _ | x <;> simp [streams, World.new, sessionTask, Task.streams, Job.streamWorker?]
  have hw : (World.new settings store feed updates wall every).streams.workers wid = none := by
    simp [streams, World.new, worker?]
  refine Streamed.quiet (fun x => ?_) (fun x => ?_) ?_ ?_ <;>
    simp [StreamView.of, ht, hw, roleOf, holdsOf]

/-- A running control task's step is its worker's step. -/
theorem step_of_worker {p : WorkerPhase}
    (ht : w.streams.tasks t = some (.worker wid p, false, false)) :
    w.step t = w.stepWorker t wid p := by
  cases hk : w.tasks[t]? with
  | none => simp [streams, hk] at ht
  | some k =>
    rw [streams_tasks_of hk] at ht
    have hs : k.job.streamWorker?.isSome := by
      by_contra hn
      simp [Task.streams, hn] at ht
    simp only [Task.streams, hs, ↓reduceIte, Option.some.injEq, Prod.mk.injEq] at ht
    obtain ⟨hj, hd, ha⟩ := ht
    simp [step, hk, hd, ha, hj]

/-- The task views other than `t` do not see `t`'s job change. -/
theorem role_setJob_of_ne {x : TaskId} (hx : x ≠ t) (j : Job) :
    ((w.setJob t j).streams.of wid).role x = (w.streams.of wid).role x := by
  simp [StreamView.of, streams_setJob, hx]

/-- **Resubscription reopens a dead stream**: with resubscription on, once the control task has
    applied a robot list a reader of the worker runs, unless one came down before. -/
theorem reader_after_apply (h : w.streams.Sound) {c : WorkerCommand}
    (ht : w.streams.tasks t = some (.worker wid (.applying c), false, false))
    (hre : (w.streams.of wid).resubscribe = true) (hn : ¬ (w.streams.of wid).CameDown)
    (tok : Nat) :
    ∃ x, ((((w.applyCommand wid c).unwatch tok t).setJob t (.worker wid .idle)).streams.of
      wid).role x = .reader false false := by
  have hx := control_of_worker h ht
  have hp := (h wid).present_of_control hx
  obtain ⟨k, hk⟩ := exists_worker_of_present hp
  set w₁ := (w.modifyWorker wid fun k' =>
    { k' with clients := (attachClients w.settings.policy k.clients c.robots).1 }).unlockClients wid
  have h₁ : w₁.streams.Sound := by
    simpa [w₁] using sound_modifyClients_control h ht _
  have hv₁ : w₁.streams.of wid =
      { w.streams.of wid with clients := (attachClients w.settings.policy k.clients c.robots).1 } := by
    simpa [w₁] using of_modifyWorker_clients hp _
  have hre₁ : w₁.settings.resubscribe = true := (congrArg WorkerView.resubscribe hv₁).trans hre
  have ht₁ : w₁.streams.tasks t = some (.worker wid (.applying c), false, false) := by
    simpa [w₁] using ht
  have he := streams_applyCommand (t := t) hk c tok
  dsimp only at he
  -- the reader found before the control task goes idle is not the control task
  suffices hy : ∃ x, x ≠ t ∧
      (((w.applyCommand wid c).unwatch tok t).streams.of wid).role x = .reader false false by
    obtain ⟨x, hxt, hy⟩ := hy
    exact ⟨x, (role_setJob_of_ne hxt _).trans hy⟩
  rw [he]
  by_cases hd : ((w₁.worker? wid).map fun k : Worker => !k.streaming).getD false = true
  · -- the stream died: a reader is opened as the next task
    have hdead : (w₁.settings.resubscribe &&
        ((w₁.worker? wid).map fun k : Worker => !k.streaming).getD false) = true := by
      simp [hre₁, hd]
    rw [if_pos hdead]
    refine ⟨w₁.tasks.size, fun hts => ?_, ?_⟩
    · rw [← hts, streams_tasks_size] at ht₁
      cases ht₁
    · rw [of_startReader (h₁ wid |>.present_of_control (control_of_worker h₁ ht₁))]
      simp
  · -- the stream lives: the reader it has runs, and came down only if one came down before
    have hlive : ¬ (w₁.settings.resubscribe &&
        ((w₁.worker? wid).map fun k : Worker => !k.streaming).getD false) = true := by
      simp [hd]
    rw [if_neg hlive]
    have hs : (w₁.streams.of wid).streaming = true :=
      streaming_of_live ((h₁ wid).present_of_control (control_of_worker h₁ ht₁))
        (by simpa using hd)
    rcases (h₁ wid).flagOn ((h₁ wid).present_of_control (control_of_worker h₁ ht₁)) hs with
      ⟨x, a, hxr⟩ | hst | hc
    · rw [hv₁] at hxr
      refine ⟨x, fun hxt => ?_, ?_⟩
      · rw [hxt, role_of_worker ht] at hxr
        cases hxr
      · rw [hv₁, hxr, WorkerView.not_aborted hn hxr]
    · rw [control_of_worker h₁ ht₁] at hst
      cases hst
    · rw [hv₁] at hc
      exact absurd hc hn

/-- With resubscription on, a step of a worker's control task that takes it from applying a
    robot list back to its loop leaves a reader of the worker running, unless one came down
    before. -/
def Resubscribes (w : World) (wid : Nat) : Prop :=
  ∀ t c, w.streams.tasks t = some (.worker wid (.applying c), false, false) →
    (w.streams.of wid).resubscribe = true → ¬ (w.streams.of wid).CameDown →
    (w.step t).1.streams.tasks t = some (.worker wid .idle, false, false) →
    ∃ x, ((w.step t).1.streams.of wid).role x = .reader false false

/-- **A world in order resubscribes**: the control task's step from applying a robot list either
    stops it, or waits for the client lock, or applies the list. -/
theorem resubscribes (h : w.streams.Sound) (wid : Nat) : w.Resubscribes wid := by
  intro t c ht hre hn hi
  have hp := (h wid).present_of_control (control_of_worker h ht)
  obtain ⟨k, hk⟩ := exists_worker_of_present hp
  rw [step_of_worker ht] at hi ⊢
  unfold stepWorker at hi ⊢
  rw [hk] at hi ⊢
  dsimp only at hi ⊢
  split
  · -- a cancelled worker begins to stop
    rename_i hc
    rw [if_pos hc] at hi
    simp only [beginStop, streams_setJob, StreamView.setTask_tasks, Function.update_self] at hi
    obtain ⟨k', -, hk'⟩ := Option.bind_eq_some_iff.1 hi
    simp [Task.streams, Job.streamWorker?] at hk'
  split
  · exact reader_after_apply (w := (w.lockClients wid t).1) (by simpa using h) (by simpa using ht)
      (by simpa using hre) (by simpa using hn) k.token
  · -- the lock is held elsewhere: the task waits where it is
    rename_i hc hg
    rw [if_neg hc, if_neg hg] at hi
    simp [ht] at hi

/-- **Every worker keeps its reader laws along every run** from a fresh world, and with
    resubscription on, a worker that has applied a robot list has a reader running unless one
    came down. -/
theorem readers_keep_laws {settings : TradingSettings} {store : Store} {feed : ScriptedFeed}
    {updates : UpdateRing} {wall : Instant} {every : Nat} {w : World}
    (hr : Relation.ReflTransGen StreamMove (World.new settings store feed updates wall every) w)
    (wid : Nat) : ReaderLaws (w.streams.of wid) ∧ w.Resubscribes wid := by
  have h := sound_of_reaches hr (sound_new settings store feed updates wall every)
  exact ⟨(h wid).readerLaws, resubscribes h wid⟩

/-- A worker just started keeps the laws. -/
theorem readers_keep_laws_spawned :
    ReaderLaws (((World.new ⟨.oneLegPerTick, 8, true⟩ Store.empty (ScriptedFeed.new 4)
      (UpdateRing.new 4) ⟨0, 0⟩ 1000).spawnWorker ⟨"AAPL"⟩ [] 0).1.streams.of 0) ∧
      ((World.new ⟨.oneLegPerTick, 8, true⟩ Store.empty (ScriptedFeed.new 4)
        (UpdateRing.new 4) ⟨0, 0⟩ 1000).spawnWorker ⟨"AAPL"⟩ [] 0).1.Resubscribes 0 :=
  readers_keep_laws (.single (.spawnWorker _ _ _ _)) 0

/-- **A reader that comes down on an overflowing deal leaves the stream dead.** A worker for
    AAPL with one robot whose yield is the largest decimal, buying at 100 and selling at 110,
    is fed a tick that opens a leg at 95 and one that completes the deal at 115. Adding the
    profit overflows the yield and the reader comes down mid fan-out: the worker still counts as
    streaming though its only reader has ended, and with resubscription on, the robot list it
    applies next opens no reader. -/
theorem overflow_leaves_stream_dead :
    let dec : Nat → Decimal := fun n => (Decimal.ofInt? n).getD Decimal.zero
    let robot : Nat → Robot := fun y =>
      { Robot.new 1 42 with
        isActive := true, ticker := some ⟨"AAPL"⟩, buyPrice := some (dec 100),
        sellPrice := some (dec 110), factYield := some (dec y), dealsCount := some 0 }
    let tick : Nat → Nat → FeedItem := fun b s => .tick ⟨⟨"AAPL"⟩, ⟨dec b⟩, ⟨dec s⟩, .now⟩
    let w₀ := (World.new ⟨.oneLegPerTick, 8, true⟩ Store.empty (ScriptedFeed.new 4)
      (UpdateRing.new 4) ⟨0, 0⟩ 1000).newToken none
    let w₁ := (w₀.1.spawnWorker ⟨"AAPL"⟩ [robot (2 ^ 96 - 1)] w₀.2).1
    -- the control task opens the reader, which subscribes
    let w₂ := ((w₁.step 1).1.step 2).1
    let push := fun (w : World) (x : FeedItem) => (w.reserveStream 0 0).1.pushStream 0 x
    let w₃ := (((push w₂ (tick 95 100)).step 2).1.step 2).1
    let w₄ := (((push w₃ (tick 95 115)).step 2).1.step 2).1
    -- the robot list reaches the control task, which applies it
    let w₅ := match w₄.tryCommand 0 ⟨[robot 0], none⟩ with
      | .ok w => ((w.step 1).1.step 1).1
      | .error _ => w₄
    w₄.isDone 2 = true ∧ (w₄.worker? 0).map (·.streaming) = some true ∧
      (w₅.tasks[1]?.map fun k => k.job matches .worker 0 .idle) = some true ∧ w₅.tasks.size = 3 ∧
      (w₅.worker? 0).map (·.streaming) = some true := by
  decide

end World

end RobotTrading
