import RobotTrading.Proofs.Market.SymbolOrder
import RobotTrading.Proofs.Membership.Partition

/-!
# The groups of a robot list

The reconciler groups the robots it trades by ticker. A robot without a ticker
is skipped and does not count as an occurrence of its identifier; of the robots
with a ticker, the first of each identifier is kept. The kept robots are the
list's robots with a ticker, cut down as the standard library's
`List.eraseDupsBy` cuts them on identifiers, and the grouping is determined by
them: its symbols are their tickers, ascending in the order of their UTF-8
bytes, and each symbol's group is the kept robots with that ticker, in list
order. So no group is empty and no
identifier is grouped twice.

## Main definitions

- `SymbolGroups.kept` — the robots a grouping keeps.
- `SymbolGroups.Grouped` — the grouping of a prefix of the robots, in full.

## Main statements

- `SymbolGroups.grouped_foldl` — the grouping of every list.
- `SymbolGroups.nodup_ids_flatMap` — groups cut by distinct tickers share no identifier.
- `SymbolGroups.ofRobots_groups_kept_robots` — the groups of a robot list.
-/

namespace RobotTrading

namespace Robot

/-- The robots kept at the first occurrence of their identifiers have distinct identifiers. -/
theorem nodup_firstById_ids (robots : List Robot) : ((firstById robots).map (·.robotId)).Nodup := by
  induction robots using List.reverseRecOn with
  | nil => simp [firstById]
  | append_singleton robots r ih =>
    rw [firstById_append]
    split_ifs with hr
    · exact ih
    · rw [List.map_append, List.nodup_append]
      refine ⟨ih, List.nodup_singleton _, fun i hi j hj hij => hr ?_⟩
      rw [List.map_singleton, List.mem_singleton] at hj
      rwa [← hj, ← hij]

end Robot

namespace SymbolGroups

/-- The robots a grouping of `done` keeps: those with a ticker, the first of each identifier. -/
def kept (done : List Robot) : List Robot := Robot.firstById (done.filter (·.ticker.isSome))

theorem kept_eq_eraseDupsBy (done : List Robot) :
    kept done = (done.filter (·.ticker.isSome)).eraseDupsBy (·.robotId == ·.robotId) :=
  Robot.firstById_eq_eraseDupsBy _

/-- A robot without a ticker is passed over; one with a ticker is kept when its identifier is new. -/
theorem kept_append (done : List Robot) (r : Robot) :
    kept (done ++ [r]) =
      if r.ticker.isSome ∧ r.robotId ∉ (kept done).map (·.robotId) then kept done ++ [r]
      else kept done := by
  unfold kept
  rw [List.filter_append]
  cases ht : r.ticker with
  | none => simp [ht]
  | some s =>
    have hf : [r].filter (·.ticker.isSome) = [r] := by simp [ht]
    rw [hf, Robot.firstById_append]
    by_cases hr : r.robotId ∈ (Robot.firstById (done.filter (·.ticker.isSome))).map (·.robotId)
    · simp only [hr, if_true, not_true_eq_false, and_false, if_false]
    · simp only [hr, if_false, Option.isSome_some, not_false_eq_true, and_self, if_true]

/-- The grouping so far of the robots `done`, in full: the identifiers taken are those of the
    robots kept, each symbol's group is the robots kept with that ticker in list order, the
    symbols are the tickers of the robots kept, and they ascend. -/
structure Grouped (done : List Robot) (acc : List Int × SymbolGroups) : Prop where
  taken : ∀ i, i ∈ acc.1 ↔ i ∈ (kept done).map (·.robotId)
  group : ∀ s, (acc.2.find? s).getD [] = (kept done).filter (·.ticker == some s)
  mem_symbols : ∀ s, s ∈ symbols acc.2 ↔ ∃ r ∈ kept done, r.ticker = some s
  sorted : (symbols acc.2).Pairwise (· < ·)

theorem grouped_nil : Grouped [] ([], []) :=
  ⟨by simp [kept, Robot.firstById], by simp [find?_nil, kept, Robot.firstById],
    by simp [symbols, kept, Robot.firstById], List.Pairwise.nil⟩

/-- A grouping that skips the robot `r` stays the grouping of the robots with `r`, when `r` keeps
    nothing new. -/
theorem Grouped.skip {done : List Robot} {acc : List Int × SymbolGroups} (h : Grouped done acc)
    {r : Robot} (hk : kept (done ++ [r]) = kept done) : Grouped (done ++ [r]) acc :=
  ⟨fun i => hk ▸ h.taken i, fun s => hk ▸ h.group s, fun s => hk ▸ h.mem_symbols s, h.sorted⟩

/-- **One robot of the grouping.** The step from the robots `done` to `done ++ [r]`: a robot
    without a ticker, or with an identifier already taken, changes nothing; any other robot takes
    its identifier and joins the end of its ticker's group, which is created in symbol order if
    it is the first of that ticker. -/
theorem Grouped.gather {done : List Robot} {acc : List Int × SymbolGroups} (h : Grouped done acc)
    (r : Robot) : Grouped (done ++ [r]) (gather acc r) := by
  unfold SymbolGroups.gather
  cases ht : r.ticker with
  | none =>
    -- a robot without a ticker is passed over
    exact h.skip (by simp [kept_append, ht])
  | some s =>
    dsimp only
    by_cases hc : acc.1.contains r.robotId
    · -- a later robot of a taken identifier is passed over
      rw [if_pos hc]
      have hid : r.robotId ∈ (kept done).map (·.robotId) := (h.taken _).1 (by simpa using hc)
      exact h.skip (by simp [kept_append, hid])
    · -- the first robot of its identifier with a ticker joins the group of its ticker
      rw [if_neg hc]
      have hid : r.robotId ∉ (kept done).map (·.robotId) := fun hm =>
        hc (by simpa using (h.taken _).2 hm)
      have hk : kept (done ++ [r]) = kept done ++ [r] := by simp [kept_append, ht, hid]
      refine ⟨fun i => ?_, fun t => ?_, fun t => ?_, ?_⟩
      · rw [hk, List.mem_cons, h.taken, List.map_append, List.mem_append, List.map_singleton,
          List.mem_singleton]
        exact or_comm
      · rw [find?_add s r h.sorted t, hk, List.filter_append]
        by_cases hts : t = s
        · subst hts
          simp [h.group, ht]
        · have hne : (r.ticker == some t) = false := by simp [ht, Ne.symm hts]
          simp [hts, h.group, hne]
      · rw [symbols_add, Ascending.mem_insert, h.mem_symbols, hk]
        simp only [List.mem_append, List.mem_singleton]
        constructor
        · rintro (rfl | ⟨r', hr', ht'⟩)
          · exact ⟨r, .inr rfl, ht⟩
          · exact ⟨r', .inl hr', ht'⟩
        · rintro ⟨r', hr' | rfl, ht'⟩
          · exact .inr ⟨r', hr', ht'⟩
          · exact .inl (Option.some_injective _ (ht'.symm.trans ht))
      · rw [symbols_add]
        exact Ascending.pairwise_insert s h.sorted

/-- The grouping of every list of robots, by induction along the list from its end, one
    `Grouped.gather` step per robot. -/
theorem grouped_foldl (robots : List Robot) : Grouped robots (robots.foldl gather ([], [])) := by
  induction robots using List.reverseRecOn with
  | nil => exact grouped_nil
  | append_singleton robots r ih =>
    rw [List.foldl_append, List.foldl_cons, List.foldl_nil]
    exact ih.gather r

/-- Groups cut by distinct tickers from robots with distinct identifiers share no identifier,
    within a group or across groups. -/
theorem nodup_ids_flatMap {K : List Robot} (hK : (K.map (·.robotId)).Nodup) {G : SymbolGroups}
    (hpair : G.Pairwise (fun a b => a.1 ≠ b.1))
    (hgroup : ∀ e ∈ G, e.2 = K.filter (·.ticker == some e.1)) :
    ((G.flatMap (·.2)).map (·.robotId)).Nodup := by
  rw [List.map_flatMap, List.nodup_flatMap]
  refine ⟨fun e he => ?_, ?_⟩
  · rw [hgroup e he]
    exact hK.sublist (List.filter_sublist.map _)
  · refine hpair.imp_of_mem fun {a b} ha hb hab i hia hib => ?_
    dsimp only at hia hib
    rw [hgroup a ha] at hia
    rw [hgroup b hb] at hib
    obtain ⟨ra, hra, rfl⟩ := List.mem_map.1 hia
    obtain ⟨rb, hrb, hid⟩ := List.mem_map.1 hib
    have hra' := List.mem_filter.1 hra
    have hrb' := List.mem_filter.1 hrb
    -- one identifier, one robot, hence one ticker
    have hsame : rb = ra := List.inj_on_of_nodup_map hK hrb'.1 hra'.1 hid
    subst hsame
    have hta : rb.ticker = some a.1 := by simpa using hra'.2
    have htb : rb.ticker = some b.1 := by simpa using hrb'.2
    exact hab (Option.some_injective _ (hta.symm.trans htb))

/-- **The groups of a robot list.** For every robot list, with `K` its robots that have a ticker,
    cut down to the first robot of each identifier: the symbols of the groups ascend, in the order
    of symbols and so in the order of their UTF-8 bytes, and are exactly the tickers of `K`; each symbol's group is the robots of `K` with that ticker, in list
    order, and is not empty; and no identifier appears twice, within a group or across groups. -/
theorem ofRobots_groups_kept_robots (robots : List Robot) :
    let K := (robots.filter (·.ticker.isSome)).eraseDupsBy (·.robotId == ·.robotId)
    let G := ofRobots robots
    (symbols G).Pairwise (· < ·) ∧
    (symbols G).Pairwise (fun a b => a.text.toByteArray.data.toList < b.text.toByteArray.data.toList) ∧
    (∀ s, s ∈ symbols G ↔ ∃ r ∈ K, r.ticker = some s) ∧
    (∀ e ∈ G, e.2 = K.filter (·.ticker == some e.1) ∧ e.2 ≠ []) ∧
    ((G.flatMap (·.2)).map (·.robotId)).Nodup := by
  intro K G
  obtain ⟨-, hfind, hmem, hsorted⟩ := grouped_foldl robots
  simp only [← ofRobots_eq, kept_eq_eraseDupsBy] at hfind hmem hsorted
  have hnodup : (symbols G).Nodup := hsorted.imp Symbol.ne_of_lt
  -- the group of each entry is the lookup of its symbol
  have hgroup : ∀ e ∈ G, e.2 = K.filter (·.ticker == some e.1) := by
    intro e he
    rw [← hfind e.1, find?_of_mem hnodup he, Option.getD_some]
  refine ⟨hsorted, hsorted.imp (Symbol.lt_iff_utf8_lt _ _).1, hmem,
    fun e he => ⟨hgroup e he, ?_⟩, ?_⟩
  · -- a symbol is there for a kept robot with that ticker, which is in its group
    obtain ⟨r, hr, ht⟩ := (hmem e.1).1 (List.mem_map_of_mem he)
    rw [hgroup e he]
    exact List.ne_nil_of_mem (List.mem_filter.2 ⟨hr, by simp [ht]⟩)
  · -- the kept robots have distinct identifiers, and the symbols are distinct
    have hK : (K.map (·.robotId)).Nodup := by
      have h := Robot.nodup_firstById_ids (robots.filter (·.ticker.isSome))
      rwa [Robot.firstById_eq_eraseDupsBy] at h
    have hpair : G.Pairwise (fun a b => a.1 ≠ b.1) := by
      have := hsorted.imp Symbol.ne_of_lt
      rwa [symbols, List.pairwise_map] at this
    exact nodup_ids_flatMap hK hpair hgroup

/-- Robot 9 has no ticker and does not hide the later robot 9; robot 1 is listed twice, the second
    time under another ticker, and stays in its first group. -/
example :
    let aapl : Symbol := ⟨"AAPL"⟩
    let msft : Symbol := ⟨"MSFT"⟩
    (ofRobots [Robot.new 9 1, (Robot.new 2 1).withTicker msft, (Robot.new 1 1).withTicker aapl,
        (Robot.new 9 1).withTicker aapl, (Robot.new 1 1).withTicker msft]).map
      (fun e => (e.1, e.2.map (·.robotId))) = [(aapl, [1, 9]), (msft, [2])] := by
  decide

end SymbolGroups

end RobotTrading
