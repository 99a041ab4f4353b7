import RobotTrading.Proofs.Engine.Membership
import RobotTrading.Proofs.Reconcile.Pass

/-!
# Splitting a robot list against the held identifiers

A worker holding the identifiers `current` splits a fresh robot list into the
robots to add, the robots to keep with their fresh record, and the identifiers
to drop. Only the first robot of each identifier counts: the list is first cut
down as the standard library's `List.eraseDupsBy` cuts it on identifiers. The
robots to add and to keep are the robots of the cut-down list off and on
`current`, in list order, and the identifiers to drop are the held ones that
the list does not name, ascending.

So the three parts are disjoint, the robots added and kept name the list's
identifiers, the robots kept and the identifiers dropped name the held ones, and
nothing is added or dropped exactly when the list names the held identifiers.

## Main statements

- `Robot.firstById_eq_eraseDupsBy` — the cut-down list keeps the first robot of each identifier.
- `MembershipDelta.mem_addedIds_partition`, `MembershipDelta.mem_retainedIds_partition`,
  `MembershipDelta.mem_removed_partition` — the identifiers of the three parts.
- `MembershipDelta.partition_splits_first_occurrences` — the split, in full.
-/

namespace RobotTrading

namespace Robot

/-- **The first robot of each identifier.** Cutting a robot list down to one robot per identifier
    keeps the first robot of each, in list order: it is the standard library's `List.eraseDupsBy`
    on identifiers. -/
theorem firstById_eq_eraseDupsBy (robots : List Robot) :
    firstById robots = robots.eraseDupsBy (·.robotId == ·.robotId) := by
  -- the fold carries the identifiers taken beside the robots kept, newest first; the library's
  -- loop carries the robots alone and reads their identifiers off them
  have key : ∀ acc : List Int × List Robot, acc.1 = acc.2.map (·.robotId) →
      (robots.foldl (fun (acc : List Int × List Robot) r =>
        if acc.1.contains r.robotId then acc else (r.robotId :: acc.1, r :: acc.2)) acc).2.reverse =
        List.eraseDupsBy.loop (·.robotId == ·.robotId) robots acc.2 := by
    induction robots with
    | nil => intro acc _; rfl
    | cons r robots ih =>
      intro acc h
      have hc : acc.1.contains r.robotId = acc.2.any (r.robotId == ·.robotId) := by
        rw [h, Bool.eq_iff_iff]
        simp only [List.contains_iff_mem, List.mem_map, List.any_eq_true, beq_iff_eq]
        exact ⟨fun ⟨a, ha, he⟩ => ⟨a, ha, he.symm⟩, fun ⟨a, ha, he⟩ => ⟨a, ha, he.symm⟩⟩
      rw [List.foldl_cons, List.eraseDupsBy.loop, ← hc]
      cases hr : acc.1.contains r.robotId
      · exact ih _ (by simp [h])
      · exact ih acc h
  exact key ([], []) rfl

/-- The cut-down list names the identifiers of the list. -/
theorem mem_eraseDupsBy_ids (robots : List Robot) (i : Int) :
    i ∈ (robots.eraseDupsBy (·.robotId == ·.robotId)).map (·.robotId) ↔
      i ∈ robots.map (·.robotId) := by
  rw [← firstById_eq_eraseDupsBy, mem_firstById_ids, List.mem_map]

end Robot

namespace MembershipDelta

variable (current : List Int) (robots : List Robot)

theorem added_partition : (partition current robots).added =
    (robots.eraseDupsBy (·.robotId == ·.robotId)).filter (·.robotId ∉ current) := by
  simp [partition, Robot.firstById_eq_eraseDupsBy]

theorem retained_partition : (partition current robots).retained =
    (robots.eraseDupsBy (·.robotId == ·.robotId)).filter (·.robotId ∈ current) := by
  simp [partition, Robot.firstById_eq_eraseDupsBy]

theorem removed_partition_pairwise : (partition current robots).removed.Pairwise (· < ·) :=
  Ascending.pairwise_ofList _

/-- An identifier is dropped when it is held and the list does not name it. -/
theorem mem_removed_partition (i : Int) :
    i ∈ (partition current robots).removed ↔ i ∈ current ∧ i ∉ robots.map (·.robotId) := by
  rw [← Robot.mem_eraseDupsBy_ids robots, ← Robot.firstById_eq_eraseDupsBy]
  simp [partition, Ascending.mem_ofList]

/-- The identifiers of the cut-down list's robots that pass a test on identifiers are those the
    list names that pass it. -/
theorem mem_ids_filter_eraseDupsBy (p : Int → Bool) (i : Int) :
    i ∈ ((robots.eraseDupsBy (·.robotId == ·.robotId)).filter (p ·.robotId)).map (·.robotId) ↔
      i ∈ robots.map (·.robotId) ∧ p i := by
  rw [← Robot.mem_eraseDupsBy_ids robots]
  simp only [List.mem_map, List.mem_filter]
  constructor
  · rintro ⟨r, ⟨hr, hp⟩, rfl⟩
    exact ⟨⟨r, hr, rfl⟩, hp⟩
  · rintro ⟨⟨r, hr, rfl⟩, hp⟩
    exact ⟨r, ⟨hr, hp⟩, rfl⟩

/-- An identifier is added when the list names it and it is not held. -/
theorem mem_addedIds_partition (i : Int) :
    i ∈ (partition current robots).addedIds ↔ i ∈ robots.map (·.robotId) ∧ i ∉ current := by
  rw [addedIds, added_partition]
  simpa using mem_ids_filter_eraseDupsBy robots (fun j => decide (j ∉ current)) i

/-- An identifier is kept when the list names it and it is held. -/
theorem mem_retainedIds_partition (i : Int) :
    i ∈ (partition current robots).retainedIds ↔ i ∈ robots.map (·.robotId) ∧ i ∈ current := by
  rw [retainedIds, retained_partition]
  simpa using mem_ids_filter_eraseDupsBy robots (fun j => decide (j ∈ current)) i

/-- Nothing is added or dropped exactly when the list names the held identifiers. -/
theorem isUnchanged_partition_iff :
    (partition current robots).isUnchanged = true ↔
      ∀ i, i ∈ robots.map (·.robotId) ↔ i ∈ current := by
  have hadd : (partition current robots).added = [] ↔ (partition current robots).addedIds = [] :=
    List.map_eq_nil_iff.symm
  simp only [isUnchanged, Bool.and_eq_true, List.isEmpty_iff, hadd, List.eq_nil_iff_forall_not_mem,
    mem_addedIds_partition, mem_removed_partition, not_and, not_not]
  constructor
  · rintro ⟨hin, hout⟩ i
    exact ⟨hin i, hout i⟩
  · intro h
    exact ⟨fun i => (h i).1, fun i => (h i).2⟩

/-- **The split of a robot list.** For all held identifiers and every robot list, with `D` the list
    cut down to the first robot of each identifier: the robots added are those of `D` not held and
    the robots kept are those of `D` held, both in list order; the identifiers dropped are the held
    ones that `D` does not name, strictly ascending; the identifiers added, kept and dropped are
    pairwise disjoint, the added and kept ones make up those of `D`, and the kept and dropped ones
    make up the held ones; and nothing is added or dropped exactly when the list names the held
    identifiers. -/
theorem partition_splits_first_occurrences (current : List Int) (robots : List Robot) :
    let D := robots.eraseDupsBy (·.robotId == ·.robotId)
    let δ := MembershipDelta.partition current robots
    δ.added = D.filter (·.robotId ∉ current) ∧
    δ.retained = D.filter (·.robotId ∈ current) ∧
    δ.removed.Pairwise (· < ·) ∧
    (∀ i, i ∈ δ.removed ↔ i ∈ current ∧ i ∉ D.map (·.robotId)) ∧
    δ.addedIds.Disjoint δ.retainedIds ∧ δ.addedIds.Disjoint δ.removed ∧
      δ.retainedIds.Disjoint δ.removed ∧
    (∀ i, i ∈ δ.addedIds ∨ i ∈ δ.retainedIds ↔ i ∈ D.map (·.robotId)) ∧
    (∀ i, i ∈ δ.retainedIds ∨ i ∈ δ.removed ↔ i ∈ current) ∧
    (δ.isUnchanged = true ↔ ∀ i, i ∈ robots.map (·.robotId) ↔ i ∈ current) := by
  intro D δ
  have hD : ∀ i, i ∈ D.map (·.robotId) ↔ i ∈ robots.map (·.robotId) :=
    Robot.mem_eraseDupsBy_ids robots
  have ha := mem_addedIds_partition current robots
  have hr := mem_retainedIds_partition current robots
  have hm := mem_removed_partition current robots
  refine ⟨added_partition current robots, retained_partition current robots,
    removed_partition_pairwise current robots, fun i => by rw [hm, hD], ?_, ?_, ?_,
    fun i => ?_, fun i => ?_, isUnchanged_partition_iff current robots⟩
  · -- an added identifier is not held, a kept one is
    intro i h₁ h₂
    exact ((ha i).1 h₁).2 ((hr i).1 h₂).2
  · -- an added identifier is listed, a dropped one is not
    intro i h₁ h₂
    exact ((hm i).1 h₂).2 ((ha i).1 h₁).1
  · intro i h₁ h₂
    exact ((hm i).1 h₂).2 ((hr i).1 h₁).1
  · rw [ha, hr, hD]
    by_cases hc : i ∈ current <;> simp [hc]
  · rw [hr, hm]
    by_cases hl : i ∈ robots.map (·.robotId) <;> simp [hl]

/-- Robots 2, 3 and 4 against the held 1, 2 and 3, robot 3 listed twice: 4 is added, 2 and 3 kept
    and 1 dropped. -/
example :
    let δ := partition [1, 2, 3] [Robot.new 2 1, Robot.new 3 1, Robot.new 3 7, Robot.new 4 1]
    δ.addedIds = [4] ∧ δ.retainedIds = [2, 3] ∧ δ.removed = [1] ∧ δ.isUnchanged = false := by
  decide

end MembershipDelta

end RobotTrading
