import RobotTrading.Feed.RandomWalk
import RobotTrading.Market.Codec
import RobotTrading.Proofs.Deal.Run

/-!
# Positive prices

A price is meant to be strictly above zero. The checked constructor
`Price.ofDecimal` makes it so and refuses every other decimal; a tick built
from two quotes and the quotes of the random walk go through it. A deal
machine never makes a price of its own: its open leg, its last deal and its
outcomes hold only prices it held before or quotes of the ticks it was handed
(`DealMachine.prices_run`). So machines fed with checked ticks hold only
positive prices.

A tick read from its document is another matter: its prices are taken as
written, and a document can carry a negative quote into a tick
(`PriceTick.document_admits_negative_price`).

## Main definitions

* `Price.Positive`.
* `PriceTick.prices`, `DealState.prices`, `CompletedDeal.prices`, `TickOutcome.prices`,
  `DealMachine.prices`, `DealMachine.Tick.prices` : the prices a value holds.

## Main statements

* `Price.ofDecimal_eq_ok_iff`, `PriceTick.ofQuotes_eq_ok_iff` : the checked constructors.
* `RandomWalk.positive_of_quotes`, `RandomWalk.positive_of_firstTick` : the walk's quotes.
* `DealMachine.prices_run` : a run holds only prices of its start and of its ticks.
* `PriceTick.prices_ofJson` : a tick read from a document holds the quotes as written.
* `prices_positive_when_quoted_positive` : every price is positive where its quotes are.
-/

namespace RobotTrading

namespace Decimal

/-- The positivity check of a decimal is positivity of its value. -/
theorem isPos_iff (d : Decimal) : d.isPos = true ↔ 0 < d.val := by
  have h : (0 : ℚ) < 10 ^ d.scale := by positivity
  simp [isPos, val, div_pos_iff_of_pos_right h]

end Decimal

namespace Price

/-- The price is strictly above zero. -/
def Positive (p : Price) : Prop := 0 < p.value.val

instance : DecidablePred Positive := fun p => inferInstanceAs (Decidable (0 < p.value.val))

/-- **The checked constructor** wraps exactly the decimals above zero. -/
theorem ofDecimal_eq_ok_iff {d : Decimal} {p : Price} : ofDecimal d = .ok p ↔ p = ⟨d⟩ ∧ 0 < d.val := by
  rw [← Decimal.isPos_iff]
  unfold ofDecimal
  by_cases h : d.isPos
  · simp [h, eq_comm]
  · simp [h]

theorem positive_of_ofDecimal {d : Decimal} {p : Price} (h : ofDecimal d = .ok p) : p.Positive := by
  obtain ⟨rfl, hd⟩ := ofDecimal_eq_ok_iff.1 h
  exact hd

end Price

namespace PriceTick

/-- The two quotes of a tick. -/
def prices (t : PriceTick) : List Price := [t.buy, t.sell]

/-- **A tick from quotes** is made exactly when both quotes are above zero. -/
theorem ofQuotes_eq_ok_iff {s : Symbol} {buy sell : Decimal} {t : PriceTick} :
    ofQuotes s buy sell = .ok t ↔ t = ⟨s, ⟨buy⟩, ⟨sell⟩, .now⟩ ∧ 0 < buy.val ∧ 0 < sell.val := by
  unfold ofQuotes
  -- the buy quote is checked first, then the sell quote
  cases hb : Price.ofDecimal buy with
  | error e =>
    have : ¬ 0 < buy.val := fun hpos => by
      rw [(Price.ofDecimal_eq_ok_iff (p := ⟨buy⟩)).2 ⟨rfl, hpos⟩] at hb
      cases hb
    simp [bind, Except.bind, this]
  | ok b =>
    obtain ⟨rfl, hbuy⟩ := Price.ofDecimal_eq_ok_iff.1 hb
    cases hs : Price.ofDecimal sell with
    | error e =>
      have : ¬ 0 < sell.val := fun hpos => by
        rw [(Price.ofDecimal_eq_ok_iff (p := ⟨sell⟩)).2 ⟨rfl, hpos⟩] at hs
        cases hs
      simp [bind, Except.bind, this]
    | ok l =>
      obtain ⟨rfl, hsell⟩ := Price.ofDecimal_eq_ok_iff.1 hs
      simp [bind, Except.bind, pure, Except.pure, hbuy, hsell, eq_comm]

theorem positive_of_ofQuotes {s : Symbol} {buy sell : Decimal} {t : PriceTick}
    (h : ofQuotes s buy sell = .ok t) : ∀ p ∈ t.prices, p.Positive := by
  obtain ⟨rfl, hb, hs⟩ := ofQuotes_eq_ok_iff.1 h
  simp only [prices, List.mem_cons, List.not_mem_nil, or_false]
  rintro p (rfl | rfl)
  · exact hb
  · exact hs

end PriceTick

namespace RandomWalk

/-- **The walk quotes positive prices**: both quotes at a mid price pass the check, or the
    walk quotes nothing there. -/
theorem positive_of_quotes {w : RandomWalk} {mid : Decimal} {b l : Price}
    (h : w.quotes mid = .ok (some (b, l))) : b.Positive ∧ l.Positive := by
  unfold quotes at h
  cases hbuy : mid.add w.spread.half with
  | error e => simp [hbuy, bind, Except.bind] at h
  | ok buy =>
    simp only [hbuy, bind, Except.bind] at h
    cases hb : Price.ofDecimal buy with
    | error e => simp [hb, pure, Except.pure] at h
    | ok b' =>
      simp only [hb] at h
      cases hsell : mid.sub w.spread.half with
      | error e => simp [hsell] at h
      | ok sell =>
        simp only [hsell] at h
        cases hl : Price.ofDecimal sell with
        | error e => simp [hl, pure, Except.pure] at h
        | ok l' =>
          simp only [hl, pure, Except.pure, Except.ok.injEq, Option.some.injEq,
            Prod.mk.injEq] at h
          obtain ⟨rfl, rfl⟩ := h
          exact ⟨Price.positive_of_ofDecimal hb, Price.positive_of_ofDecimal hl⟩

/-- The first tick of a subscription quotes positive prices. -/
theorem positive_of_firstTick {w : RandomWalk} {s : Symbol} {t : PriceTick}
    (h : w.firstTick s = .ok (.ok (some t))) : ∀ p ∈ t.prices, p.Positive := by
  unfold firstTick at h
  cases hq : w.quotes w.startPrice with
  | error e => simp [hq, bind, Except.bind] at h
  | ok q =>
    simp only [hq, bind, Except.bind] at h
    match q, hq with
    | none, _ => simp [pure, Except.pure] at h
    | some (b, l), hq =>
      obtain ⟨hb, hl⟩ := positive_of_quotes hq
      split_ifs at h
      · simp [pure, Except.pure] at h
      · simp only [pure, Except.pure, Except.ok.injEq, Option.some.injEq] at h
        subst h
        simp only [PriceTick.prices, List.mem_cons, List.not_mem_nil, or_false]
        rintro p (rfl | rfl)
        · exact hb
        · exact hl

end RandomWalk

/-- The price of an open leg. -/
def DealState.prices : DealState → List Price
  | .buying => []
  | .selling p => [p]

/-- The buy and the sell price of a deal. -/
def CompletedDeal.prices (d : CompletedDeal) : List Price := [d.boughtAt, d.soldAt]

/-- The prices an outcome reports. -/
def TickOutcome.prices : TickOutcome → List Price
  | .idle => []
  | .bought p => [p]
  | .completed d => d.prices

namespace DealMachine

/-- The prices a machine holds: its open leg and its last deal. -/
def prices (m : DealMachine) : List Price :=
  m.state.prices ++ (m.lastDeal.map CompletedDeal.prices).getD []

/-- The quotes of a tick; its thresholds are never taken into a machine. -/
def Tick.prices (k : Tick) : List Price := [k.buy, k.sell]

/-- The sell check holds only the leg's price, the sell quote and what the machine held. -/
theorem prices_trySell (m : DealMachine) (t : Thresholds) (boughtAt sell : Price) (o : TickOutcome)
    {p : Price} (hp : p ∈ (m.trySell t boughtAt sell o).1.prices ++ (m.trySell t boughtAt sell o).2.prices) :
    p ∈ m.prices ∨ p = boughtAt ∨ p = sell ∨ p ∈ o.prices := by
  unfold trySell at hp
  split_ifs at hp
  · -- the deal completes: a fresh last deal of the leg's price and the sell quote
    simp only [prices, DealState.prices, Option.map_some, Option.getD_some, TickOutcome.prices,
      CompletedDeal.prices, List.nil_append, List.mem_append, List.mem_cons, List.not_mem_nil,
      or_false] at hp
    tauto
  · simp only [prices, DealState.prices, List.mem_append, List.mem_cons, List.not_mem_nil,
      or_false] at hp ⊢
    tauto

/-- **One tick makes no price**: the machine after it and its outcome hold only prices the
    machine held before and the tick's two quotes. -/
theorem prices_onTick (m : DealMachine) (t : Thresholds) (buy sell : Price) {p : Price}
    (hp : p ∈ (m.onTick t buy sell).1.prices ++ (m.onTick t buy sell).2.prices) :
    p ∈ m.prices ∨ p = buy ∨ p = sell := by
  unfold onTick at hp
  split at hp
  · rename_i hst
    split_ifs at hp
    · exact .inl (by simpa [TickOutcome.prices] using hp)
    · split at hp
      · simp only [prices, DealState.prices, TickOutcome.prices, List.mem_append, List.mem_cons,
          List.not_mem_nil, or_false] at hp ⊢
        tauto
      · rcases prices_trySell m t buy sell (.bought buy) hp with h | h | h | h
        · exact .inl h
        · exact .inr (.inl h)
        · exact .inr (.inr h)
        · simp only [TickOutcome.prices, List.mem_cons, List.not_mem_nil, or_false] at h
          exact .inr (.inl h)
  · -- a leg is open: its price is one the machine holds
    rename_i boughtAt hst
    have hleg : boughtAt ∈ m.prices := by simp [prices, hst, DealState.prices]
    rcases prices_trySell m t boughtAt sell .idle hp with h | h | h | h
    · exact .inl h
    · exact .inl (h ▸ hleg)
    · exact .inr (.inr h)
    · simp [TickOutcome.prices] at h

/-- **A run makes no price**: the machine at the end of a run and every outcome along it hold
    only prices of the starting machine and quotes of the ticks. -/
theorem prices_run (m : DealMachine) (ks : List Tick) {p : Price}
    (hp : p ∈ (m.run ks).1.prices ++ (m.run ks).2.flatMap TickOutcome.prices) :
    p ∈ m.prices ∨ ∃ k ∈ ks, p ∈ k.prices := by
  induction ks generalizing m with
  | nil => simpa [run] using hp
  | cons k ks ih =>
    rw [run_cons] at hp
    set m' := (m.onTick k.thresholds k.buy k.sell).1
    set o := (m.onTick k.thresholds k.buy k.sell).2
    -- a price of the rest of the run comes from `m'` or a later tick; one of the first outcome
    -- comes, like one of `m'`, from `m` or the first tick
    have hfirst : ∀ q, q ∈ m'.prices ++ o.prices → q ∈ m.prices ∨ ∃ k' ∈ k :: ks, q ∈ k'.prices := by
      intro q hq
      rcases prices_onTick m k.thresholds k.buy k.sell hq with h | h | h
      · exact .inl h
      · exact .inr ⟨k, List.mem_cons_self, by simp [Tick.prices, h]⟩
      · exact .inr ⟨k, List.mem_cons_self, by simp [Tick.prices, h]⟩
    simp only [List.flatMap_cons, List.mem_append] at hp
    rcases hp with hp | hp | hp
    · rcases ih m' (List.mem_append_left _ hp) with h | ⟨k', hk', h⟩
      · exact hfirst p (List.mem_append_left _ h)
      · exact .inr ⟨k', List.mem_cons_of_mem _ hk', h⟩
    · exact hfirst p (List.mem_append_right _ hp)
    · rcases ih m' (List.mem_append_right _ hp) with h | ⟨k', hk', h⟩
      · exact hfirst p (List.mem_append_left _ h)
      · exact .inr ⟨k', List.mem_cons_of_mem _ hk', h⟩

/-- A machine fed with ticks of positive quotes keeps only positive prices. -/
theorem positive_of_run {m : DealMachine} {ks : List Tick} (hm : ∀ p ∈ m.prices, p.Positive)
    (hks : ∀ k ∈ ks, ∀ p ∈ k.prices, p.Positive) :
    ∀ p ∈ (m.run ks).1.prices ++ (m.run ks).2.flatMap TickOutcome.prices, p.Positive := by
  intro p hp
  rcases prices_run m ks hp with h | ⟨k, hk, h⟩
  · exact hm p h
  · exact hks k hk p h

end DealMachine

namespace Except

/-- A bind that succeeds ran its first computation to a value. -/
theorem exists_of_bind_eq_ok {ε α β : Type} {x : Except ε α} {f : α → Except ε β} {b : β}
    (h : x >>= f = .ok b) : ∃ a, x = .ok a ∧ f a = .ok b := by
  cases x with
  | error e => cases h
  | ok a => exact ⟨a, rfl, h⟩

end Except

namespace Field

/-- A field read to a value was present, and its value read. -/
theorem required_eq_ok_some {α : Type} {j : Json} {key : String} {read : Reader α} {a : α}
    (h : required j key read = .ok (some a)) : ∃ v, j.get? key = some v ∧ read v = .ok a := by
  unfold required at h
  split at h
  · cases h
  · rename_i v hv
    cases hr : read v with
    | error e => simp [hr, Except.map] at h
    | ok a' =>
      simp only [hr, Except.map, Except.ok.injEq, Option.some.injEq] at h
      exact ⟨v, hv, h ▸ hr⟩

theorem present_eq_ok {α : Type} {o : Option α} {a : α} (h : present o = .ok a) : o = some a := by
  cases o with
  | none => cases h
  | some a' => cases h; rfl

end Field

namespace PriceTick

/-- The elements of a tick document that hold its quotes: the price members of an object, or
    the second and third element of an array of four. -/
def quoteFields (j : Json) : List Json :=
  match j with
  | .obj _ => (j.get? "buy_price").toList ++ (j.get? "sell_price").toList
  | .arr [_, b, l, _] => [b, l]
  | _ => []

/-- Every quote of a tick document that reads as a decimal reads as one above zero. -/
def QuotesPositive (j : Json) : Prop :=
  ∀ v ∈ quoteFields j, ∀ d, Field.decimal v = .ok d → 0 < d.val

/-- **A tick read from its document holds the document's quotes as written.** -/
theorem prices_ofJson {j : Json} {t : PriceTick} (h : ofJson? j = .ok t) :
    ∀ p ∈ t.prices, ∃ v ∈ quoteFields j, Field.decimal v = .ok p.value := by
  unfold ofJson? at h
  split at h
  · -- an object: the members are read, then required to be present
    rename_i ms
    obtain ⟨buy, hbuy, h⟩ := Except.exists_of_bind_eq_ok h
    obtain ⟨sell, hsell, h⟩ := Except.exists_of_bind_eq_ok h
    obtain ⟨_, -, h⟩ := Except.exists_of_bind_eq_ok h
    obtain ⟨_, -, h⟩ := Except.exists_of_bind_eq_ok h
    obtain ⟨_, -, h⟩ := Except.exists_of_bind_eq_ok h
    obtain ⟨b, hb, h⟩ := Except.exists_of_bind_eq_ok h
    obtain ⟨l, hl, h⟩ := Except.exists_of_bind_eq_ok h
    obtain ⟨_, -, h⟩ := Except.exists_of_bind_eq_ok h
    cases h
    rw [Field.present_eq_ok hb] at hbuy
    rw [Field.present_eq_ok hl] at hsell
    obtain ⟨vb, hvb, hdb⟩ := Field.required_eq_ok_some hbuy
    obtain ⟨vl, hvl, hdl⟩ := Field.required_eq_ok_some hsell
    simp only [prices, List.mem_cons, List.not_mem_nil, or_false]
    rintro p (rfl | rfl)
    · exact ⟨vb, by simp [quoteFields, hvb], hdb⟩
    · exact ⟨vl, by simp [quoteFields, hvl], hdl⟩
  · -- an array of four: its second and third element
    rename_i s b l st
    obtain ⟨_, -, h⟩ := Except.exists_of_bind_eq_ok h
    obtain ⟨buy, hbuy, h⟩ := Except.exists_of_bind_eq_ok h
    obtain ⟨sell, hsell, h⟩ := Except.exists_of_bind_eq_ok h
    obtain ⟨_, -, h⟩ := Except.exists_of_bind_eq_ok h
    cases h
    simp only [prices, List.mem_cons, List.not_mem_nil, or_false]
    rintro p (rfl | rfl)
    · exact ⟨b, by simp [quoteFields], hbuy⟩
    · exact ⟨l, by simp [quoteFields], hsell⟩
  · -- any other array is refused once its leading elements are read
    obtain ⟨_, -, h⟩ := Except.exists_of_bind_eq_ok h
    obtain ⟨_, -, h⟩ := Except.exists_of_bind_eq_ok h
    obtain ⟨_, -, h⟩ := Except.exists_of_bind_eq_ok h
    obtain ⟨_, -, h⟩ := Except.exists_of_bind_eq_ok h
    cases h
  · cases h

/-- A document whose quotes are positive gives a tick of positive prices. -/
theorem positive_of_ofJson {j : Json} {t : PriceTick} (hj : QuotesPositive j)
    (h : ofJson? j = .ok t) : ∀ p ∈ t.prices, p.Positive := by
  intro p hp
  obtain ⟨v, hv, hd⟩ := prices_ofJson h p hp
  exact hj v hv p.value hd

end PriceTick

/-- **Prices are positive wherever their quotes are.** A tick read from a document whose quotes
    are above zero holds only positive prices; so does every price from the checked constructor,
    every tick made from two decimals, every quote and first tick of the random walk, and every
    open leg, last deal and outcome of a new deal machine run over ticks of positive quotes. -/
theorem prices_positive_when_quoted_positive (j : Json) (hj : PriceTick.QuotesPositive j) :
    (∀ t : PriceTick, PriceTick.ofJson? j = .ok t → ∀ p ∈ t.prices, p.Positive) ∧
    (∀ (d : Decimal) (p : Price), Price.ofDecimal d = .ok p → p.Positive) ∧
    (∀ (s : Symbol) (buy sell : Decimal) (t : PriceTick),
      PriceTick.ofQuotes s buy sell = .ok t → ∀ p ∈ t.prices, p.Positive) ∧
    (∀ (w : RandomWalk) (mid : Decimal) (b l : Price), w.quotes mid = .ok (some (b, l)) →
      b.Positive ∧ l.Positive) ∧
    (∀ (w : RandomWalk) (s : Symbol) (t : PriceTick), w.firstTick s = .ok (.ok (some t)) →
      ∀ p ∈ t.prices, p.Positive) ∧
    (∀ (policy : DealPolicy) (ks : List DealMachine.Tick),
      (∀ k ∈ ks, ∀ p ∈ k.prices, p.Positive) →
      ∀ p ∈ ((DealMachine.new policy).run ks).1.prices ++
        ((DealMachine.new policy).run ks).2.flatMap TickOutcome.prices, p.Positive) :=
  ⟨fun _ => PriceTick.positive_of_ofJson hj, fun _ _ => Price.positive_of_ofDecimal,
    fun _ _ _ _ => PriceTick.positive_of_ofQuotes, fun _ _ _ _ => RandomWalk.positive_of_quotes,
    fun _ _ _ => RandomWalk.positive_of_firstTick,
    fun _ _ hks => DealMachine.positive_of_run (by simp [DealMachine.new, DealMachine.prices,
      DealState.prices]) hks⟩

/-- A document quoting 95 and 115. -/
theorem prices_positive_when_quoted_positive_sample :
    PriceTick.QuotesPositive (.obj [("buy_price", .str "95"), ("sell_price", .str "115"),
      ("symbol", .str "AAPL"), ("timestamp", .str "2024-05-05T10:00:00Z")]) ∧
    ∀ t : PriceTick, PriceTick.ofJson? (.obj [("buy_price", .str "95"), ("sell_price", .str "115"),
      ("symbol", .str "AAPL"), ("timestamp", .str "2024-05-05T10:00:00Z")]) = .ok t →
      ∀ p ∈ t.prices, p.Positive := by
  have hj : PriceTick.QuotesPositive (.obj [("buy_price", .str "95"), ("sell_price", .str "115"),
      ("symbol", .str "AAPL"), ("timestamp", .str "2024-05-05T10:00:00Z")]) := by
    intro v hv d hd
    rw [← Decimal.isPos_iff]
    simp only [PriceTick.quoteFields, List.mem_append, Option.mem_toList] at hv
    -- the two price members are looked up in the sorted members
    rcases hv with hv | hv
    · obtain rfl : Json.str "95" = v := Option.some.inj hv
      cases hd; decide
    · obtain rfl : Json.str "115" = v := Option.some.inj hv
      cases hd; decide
  exact ⟨hj, (prices_positive_when_quoted_positive _ hj).1⟩

namespace PriceTick

/-- **A document can carry a negative quote.** A tick read from its document keeps a buy quote
    of `-5` as written. -/
theorem document_admits_negative_price :
    ∃ t, ofJson? (.obj [("buy_price", .str "-5"), ("sell_price", .str "0"), ("symbol", .str "AAPL"),
      ("timestamp", .str "2024-05-05T10:00:00Z")]) = .ok t ∧ ¬ t.buy.Positive := by
  refine ⟨_, rfl, ?_⟩
  rw [Price.Positive, ← Decimal.isPos_iff]
  decide

end PriceTick

end RobotTrading
