import Mathlib.Logic.Function.Basic
import Mathlib.Tactic.SplitIfs
import RobotTrading.Store.Memory

/-!
# The robot store as a table

The in-memory store keeps its records in a list ordered by identifier. Seen
from outside it is a table from identifiers to robots, with a count of
successful trade writes and a number of pending injected failures:
`Store.Table` is that state, `Store.Table.next` says what each operation does
to it and `Store.Table.Answers` what each operation answers.

Every operation keeps the records in strictly ascending identifier order, and
while they are so ordered the list holds exactly what the table says. So a
store built from a robot list and driven through any sequence of operations
answers every operation as the table does and ends as the table ends. Failed
writes (an unknown identifier, an injected failure) change nothing but the
pending failures, and a trade write touches the yield and the deal count alone.

## Main definitions

* `Store.Op`, `Store.Reply`, `Store.exec`, `Store.run` : operations and their answers.
* `Store.Table`, `Store.Table.next`, `Store.Table.Answers`, `Store.Table.Runs`.
* `Store.view` : the table a store shows.

## Main statements

* `Store.exec_follows_table` : one operation on an ordered store.
* `Store.run_follows_table` : every run of a store built from a robot list.
-/

namespace RobotTrading

namespace Store

/-! ### Operations -/

/-- An operation on the store: the management writes, the engine's reads and trade
    writes, and the test controls. -/
inductive Op where
  | upsert (r : Robot)
  | setActive (id : Int) (active : Bool)
  | softDelete (id : Int)
  | saveTrade (r : Robot)
  | failNextTrades (n : Nat)
  | clear
  | get (id : Int)
  | findById (id : Int)
  | findActive (now : Instant)

/-- What an operation answers. -/
inductive Reply where
  /-- The operation cannot fail and returns nothing. -/
  | done
  /-- A write that may fail. -/
  | result (r : Except StoreError Unit)
  /-- A robot looked up by identifier. -/
  | robot (r : Option Robot)
  /-- The robots eligible at an instant. -/
  | robots (rs : List Robot)

/-- A change of a record that may fail: a failure leaves the store as it was. -/
def settle (s : Store) : Except StoreError Store → Store × Reply
  | .ok s' => (s', .result (.ok ()))
  | .error e => (s, .result (.error e))

/-- Run one operation. -/
def exec (s : Store) : Op → Store × Reply
  | .upsert r => (s.upsert r, .done)
  | .setActive id active => settle s (s.setActive id active)
  | .softDelete id => settle s (s.softDelete id)
  | .saveTrade r => ((s.saveTrade r).1, .result (s.saveTrade r).2)
  | .failNextTrades n => (s.failNextTrades n, .done)
  | .clear => (s.clear, .done)
  | .get id | .findById id => (s, .robot (s.get? id))
  | .findActive now => (s, .robots (s.findActive now))

/-- Run operations one after the other, collecting the replies. -/
def run (s : Store) : List Op → Store × List Reply
  | [] => (s, [])
  | op :: ops =>
    let step := s.exec op
    let rest := step.1.run ops
    (rest.1, step.2 :: rest.2)

/-! ### The table -/

/-- The store as its users see it. -/
structure Table where
  /-- The robot of each identifier. -/
  robots : Int → Option Robot
  /-- Successful trade writes. -/
  writes : Nat
  /-- Trade writes still to fail. -/
  pending : Nat

/-- The table a store shows. -/
def view (s : Store) : Table := ⟨s.get?, s.tradeWrites, s.failTrades⟩

namespace Table

/-- The empty table. -/
def empty : Table := ⟨fun _ => none, 0, 0⟩

/-- Change the robot of an identifier, if there is one. -/
def modify (t : Table) (id : Int) (f : Robot → Robot) : Table :=
  match t.robots id with
  | some x => { t with robots := Function.update t.robots id (some (f x)) }
  | none => t

/-- Whether the table has a robot of the identifier, as a write's result. -/
def found (t : Table) (id : Int) : Except StoreError Unit :=
  if (t.robots id).isSome then .ok () else .error (.robotNotFound id)

/-- Switch a robot on or off, stamping the activation or deactivation now. -/
def switch (active : Bool) (r : Robot) : Robot :=
  if active then { r with isActive := true, activatedAt := some .now }
  else { r with isActive := false, deactivatedAt := some .now }

/-- Take the trading results of `r`. -/
def takeResults (r x : Robot) : Robot := { x with factYield := r.factYield, dealsCount := r.dealsCount }

/-- What an operation does to the table. -/
def next (t : Table) : Op → Table
  | .upsert r => { t with robots := Function.update t.robots r.robotId (some r) }
  | .setActive id active => t.modify id (switch active)
  | .softDelete id => t.modify id fun r => { r with deletedAt := some .now }
  | .saveTrade r =>
    if 0 < t.pending then { t with pending := t.pending - 1 }
    else if (t.robots r.robotId).isSome then
      { t.modify r.robotId (takeResults r) with writes := t.writes + 1 }
    else t
  | .failNextTrades n => { t with pending := n }
  | .clear => empty
  | .get _ | .findById _ | .findActive _ => t

/-- What the table answers to an operation. A write on an unknown identifier is not
    found, an injected failure comes before the lookup, and the eligible robots come in
    ascending identifier order. -/
def Answers (t : Table) : Op → Reply → Prop
  | .upsert _, rep | .failNextTrades _, rep | .clear, rep => rep = .done
  | .setActive id _, rep | .softDelete id, rep => rep = .result (t.found id)
  | .saveTrade r, rep =>
    rep = .result (if 0 < t.pending then .error (.database "injected failure") else t.found r.robotId)
  | .get id, rep | .findById id, rep => rep = .robot (t.robots id)
  | .findActive now, rep => ∃ rs, rep = .robots rs ∧ rs.Pairwise (·.robotId < ·.robotId) ∧
      ∀ r, r ∈ rs ↔ t.robots r.robotId = some r ∧ r.eligibleAt now = true

/-- Running `ops` from `t` answers `reps` and ends at `t'`. -/
def Runs : Table → List Op → List Reply → Table → Prop
  | t, [], [], t' => t' = t
  | t, op :: ops, rep :: reps, t' => t.Answers op rep ∧ Runs (t.next op) ops reps t'
  | _, _, _, _ => False

end Table

/-! ### Records in identifier order -/

/-- Records in strictly ascending identifier order. -/
def Ordered (rows : List Robot) : Prop := rows.Pairwise (·.robotId < ·.robotId)

theorem mem_insertRow {r x : Robot} {rows : List Robot} (h : x ∈ insertRow r rows) :
    x = r ∨ x ∈ rows := by
  induction rows with
  | nil => simpa [insertRow] using h
  | cons y ys ih =>
    unfold insertRow at h
    split_ifs at h
    · simpa using h
    · simp only [List.mem_cons] at h
      rcases h with h | h
      · exact .inl h
      · exact .inr (List.mem_cons_of_mem y h)
    · simp only [List.mem_cons] at h
      rcases h with h | h
      · exact .inr (h ▸ List.mem_cons_self)
      · rcases ih h with h | h
        · exact .inl h
        · exact .inr (List.mem_cons_of_mem y h)

theorem Ordered.insertRow {rows : List Robot} (h : Ordered rows) (r : Robot) :
    Ordered (insertRow r rows) := by
  induction rows with
  | nil => simp [Store.insertRow, Ordered]
  | cons x xs ih =>
    obtain ⟨hx, hxs⟩ := List.pairwise_cons.1 h
    unfold Store.insertRow
    split_ifs with hlt heq
    · -- `r` goes first, before `x`
      refine List.Pairwise.cons (fun y hy => ?_) h
      rcases List.mem_cons.1 hy with rfl | hy
      · exact hlt
      · exact Int.lt_trans hlt (hx y hy)
    · -- `r` replaces `x`
      exact List.Pairwise.cons (fun y hy => heq ▸ hx y hy) hxs
    · -- `r` goes after `x`
      have hgt : x.robotId < r.robotId := by omega
      refine List.Pairwise.cons (fun y hy => ?_) (ih hxs)
      rcases mem_insertRow hy with rfl | hy
      · exact hgt
      · exact hx y hy

theorem find?_cons_self (x : Robot) (rows : List Robot) :
    (x :: rows).find? (·.robotId = x.robotId) = some x := by
  simp

theorem find?_cons_of_ne {x : Robot} {id : Int} (h : x.robotId ≠ id) (rows : List Robot) :
    (x :: rows).find? (·.robotId = id) = rows.find? (·.robotId = id) :=
  List.find?_cons_of_neg (by simpa using h)

/-- Inserting a record makes it the one its identifier looks up, and leaves the others. -/
theorem find?_insertRow (r : Robot) (rows : List Robot) (id : Int) :
    (insertRow r rows).find? (·.robotId = id) =
      if r.robotId = id then some r else rows.find? (·.robotId = id) := by
  induction rows with
  | nil => by_cases hr : r.robotId = id <;> simp [insertRow, hr]
  | cons x xs ih =>
    by_cases hlt : r.robotId < x.robotId
    · -- `r` goes before `x`
      rw [insertRow, if_pos hlt]
      by_cases hr : r.robotId = id
      · subst hr; simp
      · rw [find?_cons_of_ne hr, if_neg hr]
    · by_cases heq : r.robotId = x.robotId
      · -- `r` replaces `x`
        rw [insertRow, if_neg hlt, if_pos heq]
        by_cases hr : r.robotId = id
        · subst hr; simp
        · rw [find?_cons_of_ne hr, if_neg hr, find?_cons_of_ne (heq ▸ hr)]
      · -- `r` goes after `x`
        rw [insertRow, if_neg hlt, if_neg heq]
        by_cases hx : x.robotId = id
        · subst hx
          rw [if_neg heq, find?_cons_self, find?_cons_self]
        · rw [find?_cons_of_ne hx, ih, find?_cons_of_ne hx]

theorem robotIds_modifyRow {f : Robot → Robot} (hf : ∀ x, (f x).robotId = x.robotId)
    (id : Int) (rows : List Robot) :
    (modifyRow id f rows).map (·.robotId) = rows.map (·.robotId) := by
  induction rows with
  | nil => rfl
  | cons x xs ih => by_cases hx : x.robotId = id <;> simp [modifyRow, hx, hf, ih]

theorem Ordered.modifyRow {rows : List Robot} (h : Ordered rows) {f : Robot → Robot}
    (hf : ∀ x, (f x).robotId = x.robotId) (id : Int) : Ordered (modifyRow id f rows) := by
  have hmap : ((Store.modifyRow id f rows).map (·.robotId)).Pairwise (· < ·) := by
    rw [robotIds_modifyRow hf]
    exact List.pairwise_map.2 h
  exact List.pairwise_map.1 hmap

/-- Changing the record of an identifier, keeping the identifier, changes what it looks up. -/
theorem find?_modifyRow {f : Robot → Robot} (hf : ∀ x, (f x).robotId = x.robotId)
    (rows : List Robot) (id : Int) :
    (modifyRow id f rows).find? (·.robotId = id) = (rows.find? (·.robotId = id)).map f := by
  induction rows with
  | nil => rfl
  | cons x rows ih =>
    by_cases hx : x.robotId = id
    · simp [modifyRow, hx, hf]
    · simp [modifyRow, hx, ih]

/-- Changing the record of one identifier leaves what the others look up. -/
theorem find?_modifyRow_of_ne {f : Robot → Robot} (hf : ∀ x, (f x).robotId = x.robotId)
    (rows : List Robot) {id id' : Int} (hne : id' ≠ id) :
    (modifyRow id f rows).find? (·.robotId = id') = rows.find? (·.robotId = id') := by
  induction rows with
  | nil => rfl
  | cons x rows ih =>
    by_cases hx : x.robotId = id
    · have hx' : x.robotId ≠ id' := fun h => hne (h ▸ hx)
      rw [modifyRow, if_pos hx, find?_cons_of_ne ((hf x).symm ▸ hx'), find?_cons_of_ne hx']
    · by_cases hx' : x.robotId = id'
      · subst hx'
        rw [modifyRow, if_neg hx, find?_cons_self, find?_cons_self]
      · rw [modifyRow, if_neg hx, find?_cons_of_ne hx', find?_cons_of_ne hx', ih]

/-- In ordered records, a robot is held exactly when its identifier looks it up. -/
theorem Ordered.find?_eq_some_iff {rows : List Robot} (h : Ordered rows) (r : Robot) :
    rows.find? (·.robotId = r.robotId) = some r ↔ r ∈ rows := by
  refine ⟨List.mem_of_find?_eq_some, fun hr => ?_⟩
  induction rows with
  | nil => cases hr
  | cons x xs ih =>
    obtain ⟨hx, hxs⟩ := List.pairwise_cons.1 h
    rcases List.mem_cons.1 hr with rfl | hr
    · simp
    · have hne : x.robotId ≠ r.robotId := Int.ne_of_lt (hx r hr)
      simp [hne, ih hxs hr]

/-! ### One operation -/

variable {s : Store}

@[simp] theorem view_robots (s : Store) : s.view.robots = s.get? := rfl

@[simp] theorem view_writes (s : Store) : s.view.writes = s.tradeWrites := rfl

@[simp] theorem view_pending (s : Store) : s.view.pending = s.failTrades := rfl

theorem get?_upsert (s : Store) (r : Robot) :
    (s.upsert r).get? = Function.update s.get? r.robotId (some r) := by
  funext id
  simp only [get?, upsert, find?_insertRow, Function.update, eq_comm (a := id)]
  split_ifs with h
  · subst h; rfl
  · rfl

theorem update_of_get?_eq_none {id : Int} {f : Robot → Robot} (h : s.get? id = none) :
    s.update id f = .error (.robotNotFound id) := by
  simp [update, h]

theorem update_of_get?_eq_some {id : Int} {f : Robot → Robot} {x : Robot} (h : s.get? id = some x) :
    s.update id f = .ok { s with rows := modifyRow id f s.rows } := by
  simp [update, h]

/-- The lookups after changing an existing record. -/
theorem get?_modifyRow {id : Int} {f : Robot → Robot} (hf : ∀ x, (f x).robotId = x.robotId)
    {x : Robot} (h : s.get? id = some x) :
    ({ s with rows := modifyRow id f s.rows } : Store).get? =
      Function.update s.get? id (some (f x)) := by
  funext id'
  by_cases hid : id' = id
  · subst hid
    simp only [get?] at h ⊢
    rw [find?_modifyRow hf, h, Function.update_self, Option.map_some]
  · rw [Function.update_of_ne hid]
    simp only [get?]
    rw [find?_modifyRow_of_ne hf _ hid]

/-- A change of an existing record, as the table sees it. -/
theorem view_modifyRow {id : Int} {f : Robot → Robot} (hf : ∀ x, (f x).robotId = x.robotId)
    {x : Robot} (h : s.get? id = some x) :
    ({ s with rows := modifyRow id f s.rows } : Store).view = s.view.modify id f := by
  simp only [view, Table.modify, h, get?_modifyRow hf h]

theorem modify_of_get?_eq_none {id : Int} {f : Robot → Robot} (h : s.get? id = none) :
    s.view.modify id f = s.view := by
  simp [Table.modify, h]

theorem found_view (id : Int) :
    s.view.found id = if (s.get? id).isSome then .ok () else .error (.robotNotFound id) := rfl

/-- Changing a record through `update`: it fails on an unknown identifier and leaves the
    store, and otherwise changes the table as `Table.modify` does. -/
theorem settle_update {id : Int} {f : Robot → Robot} (hf : ∀ x, (f x).robotId = x.robotId)
    (ho : Ordered s.rows) :
    Ordered (settle s (s.update id f)).1.rows ∧
      (settle s (s.update id f)).1.view = s.view.modify id f ∧
      (settle s (s.update id f)).2 = .result (s.view.found id) := by
  cases hx : s.get? id with
  | none =>
    simp [update_of_get?_eq_none hx, settle, modify_of_get?_eq_none hx, found_view, hx, ho]
  | some x =>
    rw [update_of_get?_eq_some hx]
    exact ⟨ho.modifyRow hf id, view_modifyRow hf hx, by simp [settle, found_view, hx]⟩

theorem saveTrade_of_pending (hp : 0 < s.failTrades) (r : Robot) :
    s.saveTrade r = ({ s with failTrades := s.failTrades - 1 }, .error (.database "injected failure")) := by
  simp [saveTrade, hp]

theorem saveTrade_of_get?_eq_none {r : Robot} (hp : ¬0 < s.failTrades) (hx : s.get? r.robotId = none) :
    s.saveTrade r = (s, .error (.robotNotFound r.robotId)) := by
  simp [saveTrade, hp, update_of_get?_eq_none hx]

theorem saveTrade_of_get?_eq_some {r x : Robot} (hp : ¬0 < s.failTrades)
    (hx : s.get? r.robotId = some x) :
    s.saveTrade r = ({ s with
      rows := modifyRow r.robotId (Table.takeResults r) s.rows
      tradeWrites := s.tradeWrites + 1 }, .ok ()) := by
  simp [saveTrade, hp, update_of_get?_eq_some hx]
  rfl

/-- A trade write: an injected failure is used up first; otherwise the write fails on an
    unknown robot and leaves the store, or takes the robot's results and counts. -/
theorem saveTrade_follows_table (r : Robot) (ho : Ordered s.rows) :
    Ordered (s.saveTrade r).1.rows ∧ (s.saveTrade r).1.view = s.view.next (.saveTrade r) ∧
      (s.saveTrade r).2 =
        (if 0 < s.failTrades then .error (.database "injected failure") else s.view.found r.robotId) := by
  have hf : ∀ x, (Table.takeResults r x).robotId = x.robotId := fun _ => rfl
  by_cases hp : 0 < s.failTrades
  · -- an injected failure: only the pending failures move
    rw [saveTrade_of_pending hp]
    refine ⟨ho, ?_, by simp [hp]⟩
    simp only [Table.next, view_pending, if_pos hp]
    rfl
  · cases hx : s.get? r.robotId with
    | none =>
      -- an unknown robot: nothing moves
      rw [saveTrade_of_get?_eq_none hp hx]
      refine ⟨ho, ?_, by simp [hp, found_view, hx]⟩
      simp [Table.next, hp, hx]
    | some x =>
      rw [saveTrade_of_get?_eq_some hp hx]
      refine ⟨ho.modifyRow hf _, ?_, by simp [hp, found_view, hx]⟩
      simp only [Table.next, view_pending, if_neg hp, view_robots, hx, Option.isSome_some, if_true,
        ← view_modifyRow hf hx]
      rfl

/-- The eligible robots of ordered records: ascending by identifier, and exactly the
    stored robots eligible at `now`. -/
theorem findActive_follows_table (ho : Ordered s.rows) (now : Instant) :
    (s.findActive now).Pairwise (·.robotId < ·.robotId) ∧
      ∀ r, r ∈ s.findActive now ↔ s.get? r.robotId = some r ∧ r.eligibleAt now = true := by
  refine ⟨List.Pairwise.filter _ ho, fun r => ?_⟩
  simp only [findActive, List.mem_filter, get?, ho.find?_eq_some_iff]

/-- **One operation.** On records in identifier order, an operation keeps the order,
    changes the table as `Table.next` says and answers as `Table.Answers` says. -/
theorem exec_follows_table (ho : Ordered s.rows) (op : Op) :
    Ordered (s.exec op).1.rows ∧ (s.exec op).1.view = s.view.next op ∧
      s.view.Answers op (s.exec op).2 := by
  cases op with
  | upsert r =>
    refine ⟨ho.insertRow r, ?_, rfl⟩
    simp only [exec, view, Table.next, get?_upsert]
    rfl
  | setActive id active =>
    exact @settle_update s id (Table.switch active) (fun x => by cases active <;> rfl) ho
  | softDelete id =>
    exact settle_update (fun _ => rfl) ho
  | saveTrade r =>
    obtain ⟨h₁, h₂, h₃⟩ := saveTrade_follows_table r ho
    exact ⟨h₁, h₂, show Reply.result (s.saveTrade r).2 = _ by rw [h₃]; rfl⟩
  | failNextTrades n => exact ⟨ho, rfl, rfl⟩
  | clear =>
    refine ⟨List.Pairwise.nil, ?_, rfl⟩
    simp only [exec, clear, view, Table.next, Table.empty, empty]
    congr
  | get id | findById id => exact ⟨ho, rfl, rfl⟩
  | findActive now =>
    exact ⟨ho, rfl, _, rfl, findActive_follows_table ho now⟩

/-! ### Runs -/

/-- **A run.** From records in identifier order, every run answers as the table does and
    ends where the table ends. -/
theorem run_follows_table_of_ordered (ops : List Op) (ho : Ordered s.rows) :
    Table.Runs s.view ops (s.run ops).2 (s.run ops).1.view := by
  induction ops generalizing s with
  | nil => rfl
  | cons op ops ih =>
    obtain ⟨ho', hv, ha⟩ := exec_follows_table ho op
    refine ⟨ha, ?_⟩
    rw [← hv]
    exact ih ho'

theorem ordered_ofRobots (rs : List Robot) : Ordered (ofRobots rs).rows := by
  unfold ofRobots
  suffices ∀ s : Store, Ordered s.rows → Ordered (rs.foldl upsert s).rows from
    this empty List.Pairwise.nil
  induction rs with
  | nil => exact fun _ h => h
  | cons r rs ih => exact fun s h => ih _ (h.insertRow r)

/-- A store built from a robot list holds, for each identifier, the last robot of the list
    with it. -/
theorem get?_ofRobots (rs : List Robot) (id : Int) :
    (ofRobots rs).get? id = rs.reverse.find? (·.robotId = id) := by
  unfold ofRobots
  suffices ∀ s : Store, (rs.foldl upsert s).get? id =
      (rs.reverse.find? (·.robotId = id)).or (s.get? id) by
    simpa [empty, get?] using this empty
  induction rs with
  | nil => simp
  | cons r rs ih =>
    intro s
    rw [List.foldl_cons, ih, get?_upsert, List.reverse_cons, List.find?_append]
    by_cases h : r.robotId = id
    · subst h; simp
    · simp [h, Function.update_of_ne (Ne.symm h)]

/-- **The store follows its table.** A store built from a robot list starts as the table
    holding, for each identifier, the last robot of the list with it, with no trade writes
    and no pending failures; then every sequence of operations answers as the table does
    and ends where the table ends. -/
theorem run_follows_table (rs : List Robot) (ops : List Op) :
    (ofRobots rs).view = ⟨fun id => rs.reverse.find? (·.robotId = id), 0, 0⟩ ∧
      Table.Runs (ofRobots rs).view ops ((ofRobots rs).run ops).2 ((ofRobots rs).run ops).1.view := by
  refine ⟨?_, run_follows_table_of_ordered ops (ordered_ofRobots rs)⟩
  have hw : ∀ s : Store, (rs.foldl upsert s).tradeWrites = s.tradeWrites ∧
      (rs.foldl upsert s).failTrades = s.failTrades := by
    induction rs with
    | nil => simp
    | cons r rs ih => intro s; simpa [upsert] using ih (s.upsert r)
  simp only [view, ofRobots] at hw ⊢
  rw [(hw empty).1, (hw empty).2]
  congr
  funext id
  exact get?_ofRobots rs id

end Store

end RobotTrading
