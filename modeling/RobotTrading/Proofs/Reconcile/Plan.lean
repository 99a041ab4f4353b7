import Mathlib
import RobotTrading.Reconcile.Pass

/-!
# Grouping and planning

The reconciler groups the eligible robots by ticker and plans against the
symbols it already knows. This file shows what the grouping holds and what the
plan does to the known symbols.

Symbols are ordered by their text, a strict total order, so the ascending lists
of the model are determined by their elements. A robot identifier lands in the
group of the ticker of its first robot that has a ticker, and nowhere else. The
commands of a plan name each symbol at most once, fit the groups and the known
symbols, and sending them all leaves the known symbols equal to the groups'
symbols.

## Main definitions

- `Robot.firstTicker` — the ticker an identifier is grouped under.
- `HubCommand.symbol`, `HubCommand.Fits`.

## Main statements

- `SymbolGroups.mem_find?_ofRobots` — the identifiers of a group.
- `ReconcilePlan.known_after_commands` — the known symbols after a whole pass.
- `ReconcilePlan.commands_symbols_nodup`, `ReconcilePlan.fits_of_mem_commands`,
  `ReconcilePlan.exists_command_of_mem_known` — the shape of a plan's commands.
-/

namespace RobotTrading

namespace Symbol

instance : IsStrictTotalOrder Symbol (· < ·) where
  irrefl a := lt_irrefl a.text
  trans _ _ _ := lt_trans (α := String)
  trichotomous a b hab hba := by
    cases a; cases b
    congr
    exact le_antisymm (not_lt.1 hba) (not_lt.1 hab)

theorem ne_of_lt {a b : Symbol} (h : a < b) : a ≠ b := by
  rintro rfl
  exact Std.Irrefl.irrefl a h

theorem not_lt_of_lt {a b : Symbol} (h : a < b) : ¬ b < a := fun h' =>
  Std.Irrefl.irrefl a (IsTrans.trans _ _ _ h h')

end Symbol

namespace Ascending

variable {α : Type} [LT α] [DecidableRel (α := α) (· < ·)] [IsStrictTotalOrder α (· < ·)]

theorem mem_insert {x y : α} {l : List α} : y ∈ insert x l ↔ y = x ∨ y ∈ l := by
  induction l with
  | nil => simp [insert]
  | cons z l ih =>
    unfold insert
    split_ifs with h₁ h₂
    · simp
    · simp [ih]; tauto
    · have : x = z := Std.Trichotomous.trichotomous x z h₁ h₂
      subst this
      simp

theorem pairwise_insert (x : α) {l : List α} (h : l.Pairwise (· < ·)) :
    (insert x l).Pairwise (· < ·) := by
  induction l with
  | nil => simp [insert]
  | cons z l ih =>
    rw [List.pairwise_cons] at h
    unfold insert
    split_ifs with h₁ h₂
    · exact List.Pairwise.cons (fun y hy => by
        rcases List.mem_cons.1 hy with rfl | hy
        · exact h₁
        · exact IsTrans.trans _ _ _ h₁ (h.1 y hy)) (List.Pairwise.cons h.1 h.2)
    · refine List.Pairwise.cons (fun y hy => ?_) (ih h.2)
      rcases mem_insert.1 hy with rfl | hy
      · exact h₂
      · exact h.1 y hy
    · exact List.Pairwise.cons h.1 h.2

theorem mem_ofList {x : α} {l : List α} : x ∈ ofList l ↔ x ∈ l := by
  suffices ∀ acc : List α, x ∈ l.foldl (fun acc y => insert y acc) acc ↔ x ∈ acc ∨ x ∈ l by
    simpa [ofList] using this []
  induction l with
  | nil => simp
  | cons y l ih => intro acc; simp [ih, mem_insert]; tauto

end Ascending

namespace Robot

/-- The ticker of the first robot of a list that has identifier `i` and a ticker. -/
def firstTicker (robots : List Robot) (i : Int) : Option Symbol :=
  (robots.find? fun r => r.robotId == i && r.ticker.isSome).bind (·.ticker)

theorem firstTicker_cons (r : Robot) (robots : List Robot) (i : Int) :
    firstTicker (r :: robots) i =
      if r.robotId = i ∧ r.ticker.isSome then r.ticker else firstTicker robots i := by
  by_cases h : r.robotId = i ∧ r.ticker.isSome <;> simp_all [firstTicker]

theorem firstTicker_append (robots : List Robot) (r : Robot) (i : Int) :
    firstTicker (robots ++ [r]) i =
      (firstTicker robots i).or (if r.robotId = i then r.ticker else none) := by
  induction robots with
  | nil =>
    rw [List.nil_append, firstTicker_cons]
    by_cases hi : r.robotId = i
    · cases r.ticker <;> simp [firstTicker, hi]
    · simp [firstTicker, hi]
  | cons r₀ robots ih =>
    rw [List.cons_append, firstTicker_cons, firstTicker_cons, ih]
    by_cases h : r₀.robotId = i ∧ r₀.ticker.isSome
    · obtain ⟨t, ht⟩ := Option.isSome_iff_exists.1 h.2
      simp [h, ht]
    · simp [h]

end Robot

/-- In a list whose keys are distinct, the value an entry's key looks up is the entry's. -/
theorem lookup_eq_of_mem {α β : Type} [BEq α] [LawfulBEq α] {l : List (α × β)}
    (hl : (l.map (·.1)).Nodup) {e : α × β} (he : e ∈ l) : l.lookup e.1 = some e.2 := by
  induction l with
  | nil => cases he
  | cons f l ih =>
    simp only [List.map_cons, List.nodup_cons] at hl
    rcases List.mem_cons.1 he with rfl | he
    · exact List.lookup_cons_self
    · have hne : e.1 ≠ f.1 := fun h => hl.1 (h ▸ List.mem_map_of_mem he)
      have hb : (e.1 == f.1) = false := by simpa using hne
      rw [List.lookup_cons, hb]
      exact ih hl.2 he

namespace SymbolGroups

theorem symbols_add (s : Symbol) (r : Robot) (g : SymbolGroups) :
    (add s r g).symbols = Ascending.insert s g.symbols := by
  induction g with
  | nil => rfl
  | cons e g ih =>
    obtain ⟨t, rs⟩ := e
    simp only [add, symbols, List.map_cons, Ascending.insert] at ih ⊢
    split_ifs <;> simp [ih]

theorem find?_nil (t : Symbol) : find? [] t = none := rfl

theorem find?_cons (u : Symbol) (rs : List Robot) (g : SymbolGroups) (t : Symbol) :
    find? ((u, rs) :: g) t = if t = u then some rs else g.find? t := by
  by_cases h : t = u
  · simp [find?, List.lookup, h]
  · have : (t == u) = false := by simpa using h
    simp [find?, List.lookup, h, this]

theorem find?_of_mem {g : SymbolGroups} (hg : (symbols g).Nodup) {e : Symbol × List Robot}
    (he : e ∈ g) : g.find? e.1 = some e.2 :=
  lookup_eq_of_mem hg he

theorem find?_eq_none {g : SymbolGroups} {t : Symbol} (h : t ∉ symbols g) : g.find? t = none := by
  induction g with
  | nil => rfl
  | cons e g ih =>
    obtain ⟨u, rs⟩ := e
    simp only [symbols, List.map_cons, List.mem_cons, not_or] at h
    rw [find?_cons, if_neg h.1]
    exact ih h.2

theorem find?_add (s : Symbol) (r : Robot) {g : SymbolGroups} (hg : (symbols g).Pairwise (· < ·))
    (t : Symbol) :
    (add s r g).find? t = if t = s then some ((g.find? s).getD [] ++ [r]) else g.find? t := by
  induction g with
  | nil => by_cases h : t = s <;> simp [add, find?_cons, find?_nil, h]
  | cons e g ih =>
    obtain ⟨u, rs⟩ := e
    simp only [symbols, List.map_cons, List.pairwise_cons] at hg
    by_cases h₁ : s < u
    · -- a new group before every other
      rw [add, if_pos h₁]
      have hs : s ∉ symbols g := fun hm => Symbol.not_lt_of_lt h₁ (hg.1 s hm)
      by_cases ht : t = s
      · subst ht
        simp [find?_cons, find?_eq_none hs, Symbol.ne_of_lt h₁]
      · simp [find?_cons, ht]
    · by_cases h₂ : u < s
      · -- the group belongs further on
        rw [add, if_neg h₁, if_pos h₂, find?_cons, ih hg.2, find?_cons, find?_cons,
          if_neg (Symbol.ne_of_lt h₂).symm]
        by_cases ht : t = s
        · subst ht; simp [(Symbol.ne_of_lt h₂).symm]
        · simp [ht]
      · -- the group of `s` is this one
        rw [add, if_neg h₁, if_neg h₂]
        have hsu : s = u := Std.Trichotomous.trichotomous s u h₁ h₂
        subst hsu
        by_cases ht : t = s <;> simp [find?_cons, ht]

/-- One robot of the grouping: the identifiers already taken, and the groups so far. -/
def gather (acc : List Int × SymbolGroups) (r : Robot) : List Int × SymbolGroups :=
  match r.ticker with
  | none => acc
  | some s => if acc.1.contains r.robotId then acc else (r.robotId :: acc.1, add s r acc.2)

theorem ofRobots_eq (robots : List Robot) :
    ofRobots robots = (robots.foldl gather ([], [])).2 := rfl

/-- The grouping so far of the robots `done`: the identifiers taken are those of the robots
    with a ticker, the group of a symbol holds the identifiers whose first robot with a ticker
    has that ticker, and the symbols ascend. -/
structure Gathered (done : List Robot) (acc : List Int × SymbolGroups) : Prop where
  taken : ∀ i, i ∈ acc.1 ↔ (Robot.firstTicker done i).isSome
  ids : ∀ s i, i ∈ ((acc.2.find? s).getD []).map (·.robotId) ↔ Robot.firstTicker done i = some s
  sorted : (symbols acc.2).Pairwise (· < ·)

theorem gathered_nil : Gathered [] ([], []) :=
  ⟨by simp [Robot.firstTicker], by simp [find?_nil, Robot.firstTicker], List.Pairwise.nil⟩

theorem Gathered.gather {done : List Robot} {acc : List Int × SymbolGroups}
    (h : Gathered done acc) (r : Robot) : Gathered (done ++ [r]) (gather acc r) := by
  unfold SymbolGroups.gather
  cases hs : r.ticker with
  | none =>
    -- a robot without a ticker is passed over
    refine ⟨fun i => ?_, fun s i => ?_, h.sorted⟩
    · rw [h.taken, Robot.firstTicker_append, hs]; simp
    · rw [h.ids, Robot.firstTicker_append, hs]; simp
  | some s =>
    dsimp only
    by_cases hc : acc.1.contains r.robotId
    · -- a later robot of a taken identifier is passed over
      have hfirst : (Robot.firstTicker done r.robotId).isSome := (h.taken _).1 (by simpa using hc)
      rw [if_pos hc]
      refine ⟨fun i => ?_, fun t i => ?_, h.sorted⟩
      · rw [h.taken, Robot.firstTicker_append]
        by_cases hi : r.robotId = i
        · subst hi; obtain ⟨u, hu⟩ := Option.isSome_iff_exists.1 hfirst; simp [hu]
        · simp [hi]
      · rw [h.ids, Robot.firstTicker_append]
        by_cases hi : r.robotId = i
        · subst hi; obtain ⟨u, hu⟩ := Option.isSome_iff_exists.1 hfirst; simp [hu]
        · simp [hi]
    · -- the first robot of its identifier joins the group of its ticker
      have hnone : Robot.firstTicker done r.robotId = none := by
        have := (h.taken r.robotId).not.1 (by simpa using hc)
        simpa using this
      rw [if_neg hc]
      refine ⟨fun i => ?_, fun t i => ?_, ?_⟩
      · rw [List.mem_cons, h.taken, Robot.firstTicker_append]
        by_cases hi : r.robotId = i
        · subst hi; simp [hnone, hs]
        · simp [hi, Ne.symm hi]
      · rw [find?_add s r h.sorted t, Robot.firstTicker_append]
        by_cases ht : t = s
        · subst ht
          rw [if_pos rfl, Option.getD_some, List.map_append, List.mem_append, h.ids]
          by_cases hi : r.robotId = i
          · subst hi; simp [hnone, hs]
          · simp [hi, Ne.symm hi]
        · rw [if_neg ht, h.ids]
          by_cases hi : r.robotId = i
          · subst hi; simp [hnone, hs, Ne.symm ht]
          · simp [hi]
      · rw [symbols_add]
        exact Ascending.pairwise_insert s h.sorted

theorem gathered_foldl (robots : List Robot) : Gathered robots (robots.foldl gather ([], [])) := by
  induction robots using List.reverseRecOn with
  | nil => exact gathered_nil
  | append_singleton robots r ih =>
    rw [List.foldl_append, List.foldl_cons, List.foldl_nil]
    exact ih.gather r

/-- The symbols of a grouping ascend. -/
theorem symbols_ofRobots_pairwise (robots : List Robot) :
    (symbols (ofRobots robots)).Pairwise (· < ·) :=
  (gathered_foldl robots).sorted

/-- A robot identifier is in the group of a symbol exactly when the first robot with that
    identifier and a ticker has that ticker. -/
theorem mem_find?_ofRobots (robots : List Robot) (s : Symbol) (i : Int) :
    i ∈ (((ofRobots robots).find? s).getD []).map (·.robotId) ↔
      Robot.firstTicker robots i = some s :=
  (gathered_foldl robots).ids s i

/-- The ticker a robot is grouped under is a symbol of the grouping. -/
theorem mem_symbols_of_firstTicker (robots : List Robot) {i : Int} {s : Symbol}
    (h : Robot.firstTicker robots i = some s) : s ∈ symbols (ofRobots robots) := by
  by_contra hs
  have hi := (mem_find?_ofRobots robots s i).2 h
  rw [find?_eq_none hs] at hi
  simp at hi

end SymbolGroups

namespace HubCommand

/-- The symbol a command is about. -/
def symbol : HubCommand → Symbol
  | register s _ | unregister s | broadcast s _ => s

theorem pairwise_updateKnown {known : List Symbol} (h : known.Pairwise (· < ·)) (c : HubCommand) :
    (updateKnown known c).Pairwise (· < ·) := by
  cases c with
  | register s _ => exact Ascending.pairwise_insert s h
  | unregister s => exact h.filter _
  | broadcast _ _ => exact h

theorem pairwise_foldl_updateKnown {known : List Symbol} (h : known.Pairwise (· < ·))
    (cs : List HubCommand) : (cs.foldl updateKnown known).Pairwise (· < ·) := by
  induction cs generalizing known with
  | nil => exact h
  | cons c cs ih => exact ih (pairwise_updateKnown h c)

theorem mem_foldl_register (known : List Symbol) (g : SymbolGroups) (s : Symbol) :
    s ∈ (g.map fun e => register e.1 e.2).foldl updateKnown known ↔
      s ∈ known ∨ s ∈ SymbolGroups.symbols g := by
  induction g generalizing known with
  | nil => simp [SymbolGroups.symbols]
  | cons e g ih =>
    simp only [List.map_cons, List.foldl_cons, ih, updateKnown, Ascending.mem_insert,
      SymbolGroups.symbols, List.mem_cons]
    tauto

theorem mem_foldl_unregister (known : List Symbol) (ss : List Symbol) (s : Symbol) :
    s ∈ (ss.map unregister).foldl updateKnown known ↔ s ∈ known ∧ s ∉ ss := by
  induction ss generalizing known with
  | nil => simp
  | cons t ss ih =>
    simp only [List.map_cons, List.foldl_cons, ih, updateKnown, List.mem_filter,
      bne_iff_ne, ne_eq, List.mem_cons]
    tauto

theorem foldl_broadcast (known : List Symbol) (g : SymbolGroups) :
    (g.map fun e => broadcast e.1 e.2).foldl updateKnown known = known := by
  induction g with
  | nil => rfl
  | cons e g ih => simpa [updateKnown] using ih

/-- What a command of the plan against `known` over the groups `g` looks like. -/
def Fits (g : SymbolGroups) (known : List Symbol) : HubCommand → Prop
  | register s rs => s ∉ known ∧ g.find? s = some rs
  | unregister s => s ∈ known
  | broadcast s rs => s ∈ known ∧ g.find? s = some rs

/-- A command changes whether its own symbol is known, and no other. -/
theorem mem_updateKnown_of_ne {known : List Symbol} {c : HubCommand} {s : Symbol}
    (h : s ≠ c.symbol) : s ∈ updateKnown known c ↔ s ∈ known := by
  cases c with
  | register t _ =>
    simp only [symbol] at h
    simp [updateKnown, Ascending.mem_insert, h]
  | unregister t =>
    simp only [symbol] at h
    simp [updateKnown, h]
  | broadcast _ _ => rfl

end HubCommand

namespace ReconcilePlan

/-- **The known symbols after a pass.** Sending every command of the plan against sorted known
    symbols leaves exactly the symbols of the groups, in order. -/
theorem known_after_commands (known : List Symbol) (g : SymbolGroups)
    (hk : known.Pairwise (· < ·)) (hg : (SymbolGroups.symbols g).Pairwise (· < ·)) :
    (ofGroups known g).commands.foldl HubCommand.updateKnown known = SymbolGroups.symbols g := by
  apply List.Pairwise.eq_of_mem_iff (HubCommand.pairwise_foldl_updateKnown hk _) hg
  intro s
  simp only [commands, ofGroups, List.foldl_append, HubCommand.foldl_broadcast,
    HubCommand.mem_foldl_unregister, HubCommand.mem_foldl_register]
  -- a symbol ends up known when a group names it: newly registered or kept from before
  by_cases hs : s ∈ known <;> simp [hs, SymbolGroups.symbols]

theorem map_symbol_commands (p : ReconcilePlan) :
    p.commands.map HubCommand.symbol =
      SymbolGroups.symbols p.register ++ p.unregister ++ SymbolGroups.symbols p.broadcast := by
  simp [commands, SymbolGroups.symbols, Function.comp_def, HubCommand.symbol]

/-- No two commands of a plan are about the same symbol. -/
theorem commands_symbols_nodup {known : List Symbol} {g : SymbolGroups} (hk : known.Nodup)
    (hg : (SymbolGroups.symbols g).Nodup) :
    ((ofGroups known g).commands.map HubCommand.symbol).Nodup := by
  have hsub : ∀ p : Symbol × List Robot → Bool, (SymbolGroups.symbols (g.filter p)).Nodup :=
    fun p => hg.sublist (List.filter_sublist.map _)
  rw [map_symbol_commands, List.nodup_append, List.nodup_append]
  refine ⟨⟨hsub _, hk.sublist List.filter_sublist, ?_⟩, hsub _, ?_⟩
  · -- a new symbol is not known, an unregistered one is
    rintro a ha b hb rfl
    simp only [ofGroups, SymbolGroups.symbols, List.mem_map, List.mem_filter] at ha hb
    obtain ⟨e, ⟨-, he⟩, rfl⟩ := ha
    simp_all
  · -- a kept symbol is known and in a group, unlike a new or an unregistered one
    rintro a ha b hb rfl
    simp only [ofGroups, SymbolGroups.symbols, List.mem_append, List.mem_map,
      List.mem_filter] at ha hb
    obtain ⟨e, ⟨he, hke⟩, rfl⟩ := hb
    rcases ha with ⟨e', ⟨-, hk'⟩, he'⟩ | ⟨-, hg'⟩ <;> simp_all

/-- Every command of a plan fits it: registers are for new symbols and broadcasts for known
    ones, each with the symbol's group, and unregisters are for known symbols. -/
theorem fits_of_mem_commands {known : List Symbol} {g : SymbolGroups}
    (hg : (SymbolGroups.symbols g).Nodup) {c : HubCommand} (hc : c ∈ (ofGroups known g).commands) :
    c.Fits g known := by
  simp only [commands, ofGroups, List.mem_append, List.mem_map, List.mem_filter] at hc
  rcases hc with (⟨e, ⟨he, hk⟩, rfl⟩ | ⟨s, ⟨hs, -⟩, rfl⟩) | ⟨e, ⟨he, hk⟩, rfl⟩
  · exact ⟨by simpa using hk, SymbolGroups.find?_of_mem hg he⟩
  · exact hs
  · exact ⟨by simpa using hk, SymbolGroups.find?_of_mem hg he⟩

/-- Every known symbol is named by a command of the plan: unregistered when no group is left,
    broadcast to otherwise. -/
theorem exists_command_of_mem_known {known : List Symbol} (g : SymbolGroups) {s : Symbol}
    (hs : s ∈ known) : ∃ c ∈ (ofGroups known g).commands, c.symbol = s := by
  by_cases hg : s ∈ SymbolGroups.symbols g
  · obtain ⟨e, he, rfl⟩ := List.mem_map.1 hg
    exact ⟨.broadcast e.1 e.2, by simp [commands, ofGroups, he, hs], rfl⟩
  · exact ⟨.unregister s, by simp [commands, ofGroups, hs, hg], rfl⟩

end ReconcilePlan

end RobotTrading
