import RobotTrading.Proofs.Engine.Workers

/-!
# A worker's clients brought in line with a robot list

A worker keeps its clients ascending by robot, one per robot: a map from robot
identifiers to clients. A fresh robot list replaces that map's keys by the
distinct identifiers of the list. A client whose robot is gone is dropped, a
robot new to the worker gets a fresh client starting to buy, and a client whose
robot stays keeps its deal machine, open leg and last deal included, and takes
the robot's first record in the list. The one part of that record a client may
refuse is the pair of trading results: a record whose deal count is behind the
client's would roll back completed deals, so the client keeps its own yield and
count with it. Either way the yield and the count come from one record.

## Main definitions

- `Robot.Behind` — a fresh record is behind the results held.
- `Client.Refreshes` — a client brought up to a fresh record of its robot.

## Main statements

- `Robot.find?_of_mem_firstById` — the list's first robot of each identifier is the one kept.
- `Client.refreshes_replaceRobot` — the law of a fresh record.
- `attachClients_follows_robots` — the clients after a robot list, in full.
-/

namespace RobotTrading

namespace Robot

/-- The record `fresh` is behind the results of `held`: both deal counts are set and the held
    one is greater. -/
def Behind (fresh held : Robot) : Prop :=
  ∃ mine theirs, held.dealsCount = some mine ∧ fresh.dealsCount = some theirs ∧ theirs < mine

/-- Appending a robot to a list keeps it in `firstById` only when its identifier is new. -/
theorem firstById_append (robots : List Robot) (r : Robot) :
    firstById (robots ++ [r]) =
      if r.robotId ∈ (firstById robots).map (·.robotId) then firstById robots
      else firstById robots ++ [r] := by
  -- the fold keeps the identifiers taken beside the robots kept, newest first
  have key : ∀ (rs : List Robot) (acc : List Int × List Robot), acc.1 = acc.2.map (·.robotId) →
      let out := rs.foldl (fun (acc : List Int × List Robot) r =>
        if acc.1.contains r.robotId then acc else (r.robotId :: acc.1, r :: acc.2)) acc
      out.1 = out.2.map (·.robotId) := by
    intro rs
    induction rs with
    | nil => exact fun _ h => h
    | cons x rs ih =>
      intro acc h
      by_cases hc : acc.1.contains x.robotId
      · simpa only [List.foldl_cons, if_pos hc] using ih acc h
      · simp only [List.foldl_cons, if_neg hc]
        exact ih _ (by simp [h])
  have hinv := key robots ([], []) rfl
  unfold firstById at hinv ⊢
  rw [List.foldl_append, List.foldl_cons, List.foldl_nil]
  generalize robots.foldl _ ([], []) = out at hinv ⊢
  have hids : r.robotId ∈ out.1 ↔ ∃ a ∈ out.2, a.robotId = r.robotId := by
    rw [show out.1 = out.2.map (·.robotId) from hinv]
    simp
  by_cases hc : r.robotId ∈ out.1
  · simp [hc, hids.1 hc]
  · simp [hc, mt hids.2 hc]

/-- **The first robot of each identifier is kept.** A robot that `firstById` keeps is the first
    robot of the list with its identifier. -/
theorem find?_of_mem_firstById {robots : List Robot} {r : Robot} (h : r ∈ firstById robots) :
    robots.find? (·.robotId = r.robotId) = some r := by
  induction robots using List.reverseRecOn with
  | nil => simp [firstById] at h
  | append_singleton robots x ih =>
    rw [firstById_append] at h
    rw [List.find?_append]
    split_ifs at h with hx
    · rw [ih h]; rfl
    · rcases List.mem_append.1 h with h | h
      · rw [ih h]; rfl
      · -- the appended robot is the first of its identifier
        rw [List.mem_singleton] at h
        subst h
        have hnone : robots.find? (·.robotId = r.robotId) = none := by
          rw [List.find?_eq_none]
          intro y hy hyr
          exact hx ((mem_firstById_ids robots _).2 ⟨y, hy, by simpa using hyr⟩)
        simp [hnone]

end Robot

namespace Client

theorem keepsResults_iff (held fresh : Robot) : keepsResults held fresh = true ↔ fresh.Behind held := by
  unfold keepsResults Robot.Behind
  cases held.dealsCount <;> cases fresh.dealsCount <;> simp

/-- Client `c'` is `c` brought up to the fresh record `r`: the same deal machine, and `r` in full,
    except that when `r` is behind `c`'s results `c` keeps its yield and deal count. So the
    results come from one record, and when both counts are set the count is the greater. -/
structure Refreshes (c : Client) (r : Robot) (c' : Client) : Prop where
  machine : c'.machine = c.machine
  fresh : ¬ r.Behind c.robot → c'.robot = r
  kept : r.Behind c.robot →
    c'.robot = { r with factYield := c.robot.factYield, dealsCount := c.robot.dealsCount }
  dealsCount_max : ∀ mine theirs, c.robot.dealsCount = some mine → r.dealsCount = some theirs →
    c'.robot.dealsCount = some (max mine theirs)

/-- **The law of a fresh record.** Replacing a client's robot brings the client up to it. -/
theorem refreshes_replaceRobot (c : Client) (r : Robot) : c.Refreshes r (c.replaceRobot r) := by
  refine ⟨machine_replaceRobot c r, fun hb => ?_, fun hb => ?_, fun mine theirs hm ht => ?_⟩
  · simp [replaceRobot, (keepsResults_iff _ _).not.2 hb]
  · simp [replaceRobot, (keepsResults_iff _ _).2 hb]
  · unfold replaceRobot
    by_cases hlt : theirs < mine
    · -- the record is behind: the held count, the greater, stays
      have hb : keepsResults c.robot r = true := (keepsResults_iff _ _).2 ⟨mine, theirs, hm, ht, hlt⟩
      simp [hb, hm, max_eq_left hlt.le]
    · have hb : keepsResults c.robot r = false := by simp [keepsResults, hm, ht, hlt]
      simp [hb, ht, max_eq_right (not_lt.1 hlt)]

end Client

/-- The fresh record a kept client is given is the list's first robot of its identifier. -/
theorem find?_of_refreshClient {current : List Int} {robots : List Robot} {c : Client}
    {r : Robot} (h : ((MembershipDelta.partition current robots).retained.find?
      (·.robotId = c.robotId)) = some r) :
    robots.find? (·.robotId = c.robotId) = some r := by
  have hr : r ∈ Robot.firstById robots :=
    (List.mem_filter.1 (List.mem_of_find?_eq_some h)).1
  have hid : r.robotId = c.robotId := by simpa using List.find?_some h
  rw [← hid]
  exact Robot.find?_of_mem_firstById hr

/-- **An attached client.** Each client left by bringing a client list in line with a robot list
    belongs to the list's first robot of its identifier: a new client of that robot if the
    identifier was not held, and otherwise the held client given that record. -/
theorem mem_attachClients_robot {policy : DealPolicy} {clients : List Client}
    {robots : List Robot} {c' : Client} (h : c' ∈ (attachClients policy clients robots).1) :
    ∃ r, robots.find? (·.robotId = c'.robotId) = some r ∧
      ((c'.robotId ∉ clients.map (·.robotId) ∧ c' = Client.new r policy) ∨
        ∃ c ∈ clients, c.robotId = c'.robotId ∧ c' = c.replaceRobot r) := by
  rw [attachClients_fst] at h
  set d := MembershipDelta.partition (clients.map (·.robotId)) robots with hd
  -- the added robots are inserted one by one into the refreshed clients
  rcases mem_foldl_insertClient _ _ h with h | ⟨r, hr, rfl⟩
  · -- a kept client: its identifier is still listed, so the retained robots hold its record
    obtain ⟨c, hc, rfl⟩ := List.mem_map.1 h
    obtain ⟨hcl, hkeep⟩ := List.mem_filter.1 hc
    have hlisted : c.robotId ∈ (Robot.firstById robots).map (·.robotId) := by
      by_contra hn
      have : c.robotId ∈ d.removed := by
        simp only [hd, MembershipDelta.partition, Ascending.mem_ofList, List.mem_filter]
        exact ⟨List.mem_map_of_mem hcl, by simpa using hn⟩
      simp [this] at hkeep
    obtain ⟨r, hr, hid⟩ := List.mem_map.1 hlisted
    have hsome : (d.retained.find? (·.robotId = c.robotId)).isSome := by
      rw [List.find?_isSome]
      refine ⟨r, ?_, by simpa using hid⟩
      simp only [hd, MembershipDelta.partition, List.mem_filter]
      exact ⟨hr, by simpa [hid] using List.mem_map_of_mem hcl⟩
    obtain ⟨r', hr'⟩ := Option.isSome_iff_exists.1 hsome
    have hfirst := find?_of_refreshClient hr'
    refine ⟨r', ?_, .inr ⟨c, hcl, ?_, ?_⟩⟩
    · rwa [robotId_refreshClient]
    · exact (robotId_refreshClient _ _).symm
    · simp [refreshClient, hr']
  · -- a new client: the robot was added, so its identifier was not held
    simp only [hd, MembershipDelta.partition, List.mem_filter] at hr
    refine ⟨r, Robot.find?_of_mem_firstById hr.1, .inl ⟨?_, rfl⟩⟩
    simpa [Client.new, Client.robotId] using hr.2

/-- **A worker's clients after a robot list.** Bringing a client map (robots strictly ascending)
    in line with any robot list leaves a map whose keys are exactly the identifiers of the list.
    The client of each key belongs to the list's first robot with that identifier: a new client
    of it, starting to buy, when the identifier was not held, and otherwise the held client
    brought up to it, machine untouched and results never rolled back. The change reported is
    the split of the held identifiers against the list. -/
theorem attachClients_follows_robots (policy : DealPolicy) {clients : List Client}
    (hc : (clients.map (·.robotId)).Pairwise (· < ·)) (robots : List Robot) :
    ((attachClients policy clients robots).1.map (·.robotId)).Pairwise (· < ·) ∧
    (∀ i, i ∈ (attachClients policy clients robots).1.map (·.robotId) ↔
      ∃ r ∈ robots, r.robotId = i) ∧
    (∀ c' ∈ (attachClients policy clients robots).1,
      ∃ r, robots.find? (·.robotId = c'.robotId) = some r ∧
        ((c'.robotId ∉ clients.map (·.robotId) ∧ c' = Client.new r policy ∧
            c'.machine.state = .buying) ∨
          ∃ c ∈ clients, c.robotId = c'.robotId ∧ c.Refreshes r c')) ∧
    (attachClients policy clients robots).2 =
      MembershipDelta.partition (clients.map (·.robotId)) robots := by
  refine ⟨attachClients_sorted policy robots hc, mem_attachClients_ids policy clients robots,
    fun c' h' => ?_, rfl⟩
  obtain ⟨r, hr, hnew | ⟨c, hc, hid, rfl⟩⟩ := mem_attachClients_robot h'
  · obtain ⟨hn, rfl⟩ := hnew
    exact ⟨r, hr, .inl ⟨hn, rfl, rfl⟩⟩
  · exact ⟨r, hr, .inr ⟨c, hc, hid, Client.refreshes_replaceRobot c r⟩⟩

/-- Robots 1 (with an open leg) and 3 are held; the list names robot 2 twice and robot 1 once,
    so robot 2 joins at its first record, robot 1 keeps its leg and robot 3 goes. -/
theorem attachClients_follows_robots_sample :
    let held : List Client :=
      [⟨Robot.new 1 42, ⟨.oneLegPerTick, .selling ⟨Decimal.ofNat64 95 (by decide)⟩, none⟩⟩,
        Client.new (Robot.new 3 42) .oneLegPerTick]
    let robots : List Robot := [Robot.new 2 42, Robot.new 1 7, Robot.new 2 9]
    (held.map (·.robotId)).Pairwise (· < ·) ∧
    ((attachClients .oneLegPerTick held robots).1.map (·.robotId)).Pairwise (· < ·) ∧
    (∀ i, i ∈ (attachClients .oneLegPerTick held robots).1.map (·.robotId) ↔
      ∃ r ∈ robots, r.robotId = i) ∧
    (∀ c' ∈ (attachClients .oneLegPerTick held robots).1,
      ∃ r, robots.find? (·.robotId = c'.robotId) = some r ∧
        ((c'.robotId ∉ held.map (·.robotId) ∧ c' = Client.new r .oneLegPerTick ∧
            c'.machine.state = .buying) ∨
          ∃ c ∈ held, c.robotId = c'.robotId ∧ c.Refreshes r c')) ∧
    (attachClients .oneLegPerTick held robots).2 =
      MembershipDelta.partition (held.map (·.robotId)) robots :=
  ⟨by decide, attachClients_follows_robots .oneLegPerTick (by decide) _⟩

end RobotTrading
