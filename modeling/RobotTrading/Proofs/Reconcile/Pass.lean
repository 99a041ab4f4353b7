import RobotTrading.Proofs.Reconcile.Plan

/-!
# Reconcile passes

A pass reads the eligible robots, plans against the known symbols and sends the
plan's commands to the hub in order, the known symbols following each command
the hub takes. This file shows what a pass sends and what it leaves known, for
every read of the store, every set of known symbols and every point at which
the hub may be found closed.

The commands are the registers of the new symbols, then the unregisters of the
symbols left without robots, then the broadcasts to the symbols that stay, each
kind ascending by symbol and each register or broadcast carrying its symbol's
group. No two commands name the same symbol, and together they name the known
symbols and the groups' symbols. A pass that goes through leaves the groups'
symbols known; one cut short by a closed hub leaves known exactly what the
commands taken registered, and what was known and not unregistered by them. A
second pass over the same robots only broadcasts.

## Main definitions

- `ReconcilePlan.Diff` — a plan described by the symbols of its three kinds of command.

## Main statements

- `ReconcilePlan.ofGroups_diff` — a plan is described so.
- `HubCommand.mem_foldl_updateKnown` — the known symbols after commands on distinct symbols.
- `ReconcilePlan.changesWorkers_iff` — a plan changes the workers when the symbols change.
- `reconcileOnce_follows_plan` — one pass, in full.
-/

namespace RobotTrading

namespace Ascending

variable {α : Type} [LT α] [DecidableRel (α := α) (· < ·)] [IsStrictTotalOrder α (· < ·)]

theorem pairwise_ofList (l : List α) : (ofList l).Pairwise (· < ·) := by
  suffices ∀ acc : List α, acc.Pairwise (· < ·) →
      (l.foldl (fun acc x => insert x acc) acc).Pairwise (· < ·) from this [] List.Pairwise.nil
  induction l with
  | nil => exact fun _ h => h
  | cons x l ih => exact fun acc h => ih _ (pairwise_insert x h)

end Ascending

namespace HubCommand

/-- **The known symbols after commands on distinct symbols.** A symbol is known after them when
    a command registered it, or when it was known and no command unregistered it. -/
theorem mem_foldl_updateKnown (cs : List HubCommand) (hcs : (cs.map symbol).Nodup)
    (known : List Symbol) (s : Symbol) :
    s ∈ cs.foldl updateKnown known ↔
      (s ∈ known ∧ unregister s ∉ cs) ∨ ∃ rs, register s rs ∈ cs := by
  induction cs generalizing known with
  | nil => simp
  | cons c cs ih =>
    rw [List.map_cons, List.nodup_cons] at hcs
    rw [List.foldl_cons, ih hcs.2]
    -- a later command never names the symbol of the first one
    have hlater : ∀ c' ∈ cs, c'.symbol ≠ c.symbol := fun c' hc' h =>
      hcs.1 (h ▸ List.mem_map_of_mem hc')
    by_cases hs : s = c.symbol
    · subst hs
      have hu : unregister c.symbol ∉ cs := fun h => hlater _ h rfl
      have hr : ∀ rs, register c.symbol rs ∉ cs := fun rs h => hlater _ h rfl
      cases c <;> simp_all [updateKnown, symbol, Ascending.mem_insert]
    · rw [mem_updateKnown_of_ne hs]
      cases c <;> simp_all [symbol]

end HubCommand

namespace ReconcilePlan

/-- The plan `p` against the known symbols `known` over the groups `g`, described by its
    symbols: it registers the new symbols, unregisters the known symbols with no group, and
    broadcasts to the known symbols with a group, each kind ascending by symbol, a register or a
    broadcast carrying its symbol's group; the commands go in that order. -/
structure Diff (known : List Symbol) (g : SymbolGroups) (p : ReconcilePlan) : Prop where
  order : p.commands = p.register.map (fun e => .register e.1 e.2) ++
    p.unregister.map .unregister ++ p.broadcast.map (fun e => .broadcast e.1 e.2)
  register_sorted : (SymbolGroups.symbols p.register).Pairwise (· < ·)
  mem_register : ∀ s, s ∈ SymbolGroups.symbols p.register ↔ s ∈ g.symbols ∧ s ∉ known
  unregister_sorted : p.unregister.Pairwise (· < ·)
  mem_unregister : ∀ s, s ∈ p.unregister ↔ s ∈ known ∧ s ∉ g.symbols
  broadcast_sorted : (SymbolGroups.symbols p.broadcast).Pairwise (· < ·)
  mem_broadcast : ∀ s, s ∈ SymbolGroups.symbols p.broadcast ↔ s ∈ g.symbols ∧ s ∈ known
  groups : ∀ e ∈ p.register ++ p.broadcast, g.find? e.1 = some e.2

variable {known : List Symbol} {g : SymbolGroups}

theorem symbols_filter (g : SymbolGroups) (f : Symbol × List Robot → Bool) :
    List.Sublist (SymbolGroups.symbols (g.filter f)) (SymbolGroups.symbols g) :=
  List.filter_sublist.map _

/-- **Every plan is described by its symbols**, when the known symbols and the groups ascend. -/
theorem ofGroups_diff (hk : known.Pairwise (· < ·)) (hg : g.symbols.Pairwise (· < ·)) :
    (ofGroups known g).Diff known g where
  order := rfl
  register_sorted := hg.sublist (symbols_filter g _)
  mem_register s := by simp [ofGroups, SymbolGroups.symbols]
  unregister_sorted := hk.filter _
  mem_unregister s := by simp [ofGroups]
  broadcast_sorted := hg.sublist (symbols_filter g _)
  mem_broadcast s := by simp [ofGroups, SymbolGroups.symbols]
  groups e he := by
    have hin : e ∈ g := by
      simp only [ofGroups, List.mem_append, List.mem_filter] at he
      rcases he with h | h <;> exact h.1
    exact SymbolGroups.find?_of_mem hg.nodup hin

/-- The commands of a plan name the known symbols and the groups' symbols. -/
theorem mem_commands_symbol (known : List Symbol) (g : SymbolGroups) (s : Symbol) :
    s ∈ (ofGroups known g).commands.map HubCommand.symbol ↔ s ∈ known ∨ s ∈ g.symbols := by
  rw [map_symbol_commands]
  simp only [ofGroups, SymbolGroups.symbols, List.mem_append, List.mem_map, List.mem_filter]
  by_cases hk : s ∈ known <;> by_cases hs : s ∈ g.map (·.1) <;> simp_all

/-- The symbols known after a plan are the groups' symbols. -/
theorem nextKnown_ofGroups (known : List Symbol) (hg : g.symbols.Pairwise (· < ·)) :
    (ofGroups known g).nextKnown = g.symbols := by
  apply List.Pairwise.eq_of_mem_iff (Ascending.pairwise_ofList _) hg
  intro s
  simp only [Ascending.mem_ofList, List.mem_append, ofGroups, SymbolGroups.symbols,
    List.mem_map, List.mem_filter]
  by_cases hk : s ∈ known <;> simp_all

/-- **A plan changes the workers exactly when the symbols change**: it registers or unregisters
    a symbol when the groups' symbols are not the known ones. -/
theorem changesWorkers_iff (hk : known.Pairwise (· < ·)) (hg : g.symbols.Pairwise (· < ·)) :
    (ofGroups known g).changesWorkers = true ↔ g.symbols ≠ known := by
  have hd := ofGroups_diff hk hg
  constructor
  · -- a registered symbol is not known, an unregistered one has no group
    intro hc heq
    simp only [changesWorkers, Bool.or_eq_true, Bool.not_eq_true', List.isEmpty_eq_false_iff,
      ne_eq] at hc
    rcases hc with hr | hu
    · obtain ⟨e, he⟩ := List.exists_mem_of_ne_nil _ hr
      have := (hd.mem_register e.1).1 (List.mem_map_of_mem he)
      exact this.2 (heq ▸ this.1)
    · obtain ⟨s, hs⟩ := List.exists_mem_of_ne_nil _ hu
      have := (hd.mem_unregister s).1 hs
      exact this.2 (heq ▸ this.1)
  · -- with neither, the groups' symbols and the known ones have the same members
    intro hne
    by_contra hc
    simp only [changesWorkers, Bool.or_eq_true, Bool.not_eq_true', List.isEmpty_eq_false_iff,
      ne_eq, not_or, not_not] at hc
    refine hne (List.Pairwise.eq_of_mem_iff hg hk fun s => ⟨fun hs => ?_, fun hs => ?_⟩)
    · by_contra hn
      have := (hd.mem_register s).2 ⟨hs, hn⟩
      simp [hc.1, SymbolGroups.symbols] at this
    · by_contra hn
      have := (hd.mem_unregister s).2 ⟨hs, hn⟩
      simp [hc.2] at this

/-- Planning against the groups' own symbols only broadcasts, to each group in turn. -/
theorem ofGroups_symbols_commands (g : SymbolGroups) :
    (ofGroups g.symbols g).commands = g.map fun e => .broadcast e.1 e.2 := by
  have hall : ∀ e ∈ g, e.1 ∈ g.symbols := fun e he => List.mem_map_of_mem he
  -- every group's symbol is known, and every known symbol has a group
  have hreg : g.filter (fun e => !g.symbols.contains e.1) = [] :=
    List.filter_eq_nil_iff.2 fun e he => by simp [hall e he]
  have hunreg : g.symbols.filter (fun s => !g.symbols.contains s) = [] :=
    List.filter_eq_nil_iff.2 fun s hs => by simp [hs]
  have hbc : g.filter (fun e => g.symbols.contains e.1) = g :=
    List.filter_eq_self.2 fun e he => by simp [hall e he]
  simp only [commands, ofGroups, hreg, hunreg, hbc, List.map_nil, List.nil_append]

end ReconcilePlan

theorem reconcileOnce_error (known : List Symbol) (e : StoreError) (hubTakes : Option Nat) :
    reconcileOnce known (.error e) hubTakes = ⟨[], known, .error (.store e)⟩ :=
  rfl

/-- A hub that takes every command lets the pass go through. -/
theorem reconcileOnce_complete {known : List Symbol} {robots : List Robot} {hubTakes : Option Nat}
    (h : (ReconcilePlan.ofGroups known (SymbolGroups.ofRobots robots)).commands.length ≤
      hubTakes.getD (ReconcilePlan.ofGroups known (SymbolGroups.ofRobots robots)).commands.length) :
    reconcileOnce known (.ok robots) hubTakes =
      ⟨(ReconcilePlan.ofGroups known (SymbolGroups.ofRobots robots)).commands,
        (ReconcilePlan.ofGroups known (SymbolGroups.ofRobots robots)).commands.foldl
          HubCommand.updateKnown known,
        .ok ((ReconcilePlan.ofGroups known (SymbolGroups.ofRobots robots)).summary robots.length)⟩ := by
  simp [reconcileOnce, ReconcilePlan.ofRobots, List.take_of_length_le h]

/-- A hub found closed at a command ends the pass there. -/
theorem reconcileOnce_closed {known : List Symbol} {robots : List Robot} {k : Nat}
    (h : k < (ReconcilePlan.ofGroups known (SymbolGroups.ofRobots robots)).commands.length) :
    reconcileOnce known (.ok robots) (some k) =
      ⟨(ReconcilePlan.ofGroups known (SymbolGroups.ofRobots robots)).commands.take k,
        ((ReconcilePlan.ofGroups known (SymbolGroups.ofRobots robots)).commands.take k).foldl
          HubCommand.updateKnown known,
        .error .hubClosed⟩ := by
  simp [reconcileOnce, ReconcilePlan.ofRobots, h]

/-- **One reconcile pass, in full.** From sorted known symbols, against any read of the store and
    a hub that may be found closed at any command: a failed read sends nothing and leaves the known
    symbols alone. Otherwise, with `g` the groups of the robots read and `p` the plan, the
    commands are the registers, unregisters and broadcasts the plan describes, on distinct
    symbols that cover the known ones and the groups'. A hub that takes them all gets them all;
    the known symbols become the groups' symbols, which the plan names as its next known ones; the
    plan changes the workers exactly when those differ from the known ones; the pass reports its
    three counts; and a second pass over the same robots only broadcasts. A hub found closed at
    command `k + 1` gets the first `k`, the pass fails, and a symbol is known after it exactly
    when one of those `k` registered it, or it was known and none of them unregistered it. -/
theorem reconcileOnce_follows_plan (known : List Symbol) (hk : known.Pairwise (· < ·))
    (read : Except StoreError (List Robot)) (hubTakes : Option Nat) :
    (∀ e, read = .error e → reconcileOnce known read hubTakes = ⟨[], known, .error (.store e)⟩) ∧
    ∀ robots, read = .ok robots →
      let g := SymbolGroups.ofRobots robots
      let p := ReconcilePlan.ofGroups known g
      p.Diff known g ∧
      (p.commands.map HubCommand.symbol).Nodup ∧
      (∀ s, s ∈ p.commands.map HubCommand.symbol ↔ s ∈ known ∨ s ∈ g.symbols) ∧
      (p.commands.length ≤ hubTakes.getD p.commands.length →
        (reconcileOnce known read hubTakes).sent = p.commands ∧
        (reconcileOnce known read hubTakes).known = g.symbols ∧
        p.nextKnown = g.symbols ∧
        (p.changesWorkers = true ↔ g.symbols ≠ known) ∧
        (reconcileOnce known read hubTakes).result =
          .ok ⟨robots.length, p.register.length, p.unregister.length, p.broadcast.length⟩ ∧
        (reconcileOnce (reconcileOnce known read hubTakes).known read none).sent =
          g.map fun e => .broadcast e.1 e.2) ∧
      (∀ k, hubTakes = some k → k < p.commands.length →
        (reconcileOnce known read hubTakes).sent = p.commands.take k ∧
        (reconcileOnce known read hubTakes).result = .error .hubClosed ∧
        ∀ s, s ∈ (reconcileOnce known read hubTakes).known ↔
          (s ∈ known ∧ .unregister s ∉ p.commands.take k) ∨
            ∃ rs, .register s rs ∈ p.commands.take k) := by
  refine ⟨fun e he => he ▸ reconcileOnce_error known e hubTakes, fun robots hr => ?_⟩
  subst hr
  have hg := SymbolGroups.symbols_ofRobots_pairwise robots
  have hnodup := ReconcilePlan.commands_symbols_nodup (g := SymbolGroups.ofRobots robots) hk.nodup
    hg.nodup
  refine ⟨ReconcilePlan.ofGroups_diff hk hg, hnodup, ReconcilePlan.mem_commands_symbol known _,
    fun hall => ?_, fun k hkt hlt => ?_⟩
  · -- the hub takes every command
    have hknown := ReconcilePlan.known_after_commands known _ hk hg
    have hrun := reconcileOnce_complete hall
    have hagain : (reconcileOnce (SymbolGroups.ofRobots robots).symbols (.ok robots) none).sent =
        (SymbolGroups.ofRobots robots).map fun e => .broadcast e.1 e.2 := by
      rw [reconcileOnce_complete (by simp), ReconcilePlan.ofGroups_symbols_commands]
    rw [hrun]
    exact ⟨rfl, hknown, ReconcilePlan.nextKnown_ofGroups known hg,
      ReconcilePlan.changesWorkers_iff hk hg, rfl, by rw [hknown]; exact hagain⟩
  · -- the hub is found closed at command `k + 1`
    subst hkt
    rw [reconcileOnce_closed hlt]
    refine ⟨rfl, rfl, fun s => ?_⟩
    exact HubCommand.mem_foldl_updateKnown _ (hnodup.sublist ((List.take_sublist _ _).map _)) known s

/-- AAPL and MSFT are known; TSLA and AAPL have robots; the hub is found closed at the second
    command, after registering TSLA and before unregistering MSFT. -/
theorem reconcileOnce_follows_plan_sample :
    let known : List Symbol := [⟨"AAPL"⟩, ⟨"MSFT"⟩]
    let read : Except StoreError (List Robot) :=
      .ok [(Robot.new 1 42).withTicker ⟨"TSLA"⟩, (Robot.new 2 42).withTicker ⟨"AAPL"⟩]
    let hubTakes : Option Nat := some 1
    known.Pairwise (· < ·) ∧
    (∀ e, read = .error e → reconcileOnce known read hubTakes = ⟨[], known, .error (.store e)⟩) ∧
    ∀ robots, read = .ok robots →
      let g := SymbolGroups.ofRobots robots
      let p := ReconcilePlan.ofGroups known g
      p.Diff known g ∧
      (p.commands.map HubCommand.symbol).Nodup ∧
      (∀ s, s ∈ p.commands.map HubCommand.symbol ↔ s ∈ known ∨ s ∈ g.symbols) ∧
      (p.commands.length ≤ hubTakes.getD p.commands.length →
        (reconcileOnce known read hubTakes).sent = p.commands ∧
        (reconcileOnce known read hubTakes).known = g.symbols ∧
        p.nextKnown = g.symbols ∧
        (p.changesWorkers = true ↔ g.symbols ≠ known) ∧
        (reconcileOnce known read hubTakes).result =
          .ok ⟨robots.length, p.register.length, p.unregister.length, p.broadcast.length⟩ ∧
        (reconcileOnce (reconcileOnce known read hubTakes).known read none).sent =
          g.map fun e => .broadcast e.1 e.2) ∧
      (∀ k, hubTakes = some k → k < p.commands.length →
        (reconcileOnce known read hubTakes).sent = p.commands.take k ∧
        (reconcileOnce known read hubTakes).result = .error .hubClosed ∧
        ∀ s, s ∈ (reconcileOnce known read hubTakes).known ↔
          (s ∈ known ∧ .unregister s ∉ p.commands.take k) ∨
            ∃ rs, .register s rs ∈ p.commands.take k) :=
  ⟨by decide, reconcileOnce_follows_plan _ (by decide) _ _⟩

end RobotTrading
