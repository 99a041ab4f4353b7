import RobotTrading.Concurrency.Token

/-!
# The token forest

What the operations on tokens do to the forest. A cancellation reaches only the
token and the tokens under it, and leaves the token itself cancelled; no token
is ever uncancelled. Making a token adds one node at the end, and watching,
unwatching and cancelling keep every parent.

A forest made in order has every parent older than its child
(`Tokens.Ordered`); then a token lies under another only if it is at least as
young.

## Main definitions

* `Tokens.parentOf` : the token a token was made under.
* `Tokens.Under` : a token is another one or lies under it.
* `Tokens.Ordered` : every parent is older than its children.

## Main statements

* `Tokens.isCancelled_cancel` : a cancellation reaches only the tokens under the cancelled one.
* `Tokens.isCancelled_cancel_self` : a cancelled token is cancelled.
* `Tokens.Under.le` : in an ordered forest, a token lies only under older tokens.
-/

namespace RobotTrading

namespace Tokens

/-- The token that token `i` was made under. -/
def parentOf (ts : Tokens) (i : Nat) : Option Nat := ts.nodes[i]?.bind (·.parent)

/-- Token `i` is token `j` or lies under it. -/
inductive Under (ts : Tokens) : Nat → Nat → Prop
  | refl (i : Nat) : Under ts i i
  | up {i p j : Nat} : ts.parentOf i = some p → Under ts p j → Under ts i j

/-- Every token is younger than the token it was made under. -/
def Ordered (ts : Tokens) : Prop := ∀ i p, ts.parentOf i = some p → p < i

variable {ts : Tokens}

/-! ### The `Under` relation -/

theorem Under.of_parent {i c j : Nat} (h : ts.Under i c) (hc : ts.parentOf c = some j) :
    ts.Under i j := by
  induction h with
  | refl => exact .up hc (.refl j)
  | up hp _ ih => exact .up hp (ih hc)

/-- A token under another one is itself, or lies under its parent. -/
theorem under_iff {i j : Nat} :
    ts.Under i j ↔ i = j ∨ ∃ p, ts.parentOf i = some p ∧ ts.Under p j := by
  constructor
  · intro h
    cases h with
    | refl => exact .inl rfl
    | up hp hu => exact .inr ⟨_, hp, hu⟩
  · rintro (rfl | ⟨p, hp, hu⟩)
    · exact .refl i
    · exact .up hp hu

/-- In an ordered forest a token lies only under tokens at least as old. -/
theorem Under.le (ho : ts.Ordered) {i j : Nat} (h : ts.Under i j) : j ≤ i := by
  induction h with
  | refl => exact Nat.le_refl _
  | up hp _ ih => exact Nat.le_trans ih (Nat.le_of_lt (ho _ _ hp))

/-! ### Changing one token -/

/-- Changing one token without touching its parent keeps every parent. -/
theorem parentOf_modify {f : Token → Token} (hf : ∀ n, (f n).parent = n.parent) (j : Nat) :
    (⟨ts.nodes.modify j f⟩ : Tokens).parentOf = ts.parentOf := by
  funext i
  simp only [parentOf, Array.getElem?_modify]
  split <;> cases ts.nodes[i]? <;> simp [hf]

/-- Changing one token without touching its flag keeps every cancellation. -/
theorem isCancelled_modify {f : Token → Token} (hf : ∀ n, (f n).cancelled = n.cancelled)
    (j : Nat) : (⟨ts.nodes.modify j f⟩ : Tokens).isCancelled = ts.isCancelled := by
  funext i
  simp only [isCancelled, Array.getElem?_modify]
  split <;> cases ts.nodes[i]? <;> simp [hf]

/-! ### Marking tokens cancelled -/

/-- Mark token `j` cancelled, dropping its watchers: one step of a cancellation. -/
def mark (ts : Tokens) (j : Nat) : Tokens :=
  ⟨ts.nodes.modify j fun n => { n with cancelled := true, watchers := [] }⟩

@[simp] theorem size_mark (j : Nat) : (ts.mark j).nodes.size = ts.nodes.size :=
  Array.size_modify ..

@[simp] theorem parentOf_mark (j : Nat) : (ts.mark j).parentOf = ts.parentOf :=
  parentOf_modify (fun _ => by rfl) j

theorem isCancelled_mark (j x : Nat) :
    (ts.mark j).isCancelled x = true ↔ ts.isCancelled x = true ∨ (x = j ∧ x < ts.nodes.size) := by
  simp only [isCancelled, mark, Array.getElem?_modify]
  by_cases hx : j = x
  · subst hx
    by_cases hj : j < ts.nodes.size
    · simp [hj]
    · simp [hj]
  · simp [hx, Ne.symm hx]

theorem isCancelled_foldl_mark (l : List Nat) (x : Nat) :
    (l.foldl mark ts).isCancelled x = true ↔
      ts.isCancelled x = true ∨ (x ∈ l ∧ x < ts.nodes.size) := by
  induction l generalizing ts with
  | nil => simp
  | cons j l ih =>
    rw [List.foldl_cons, ih, isCancelled_mark, size_mark, List.mem_cons]
    grind

theorem parentOf_foldl_mark (l : List Nat) : (l.foldl mark ts).parentOf = ts.parentOf := by
  induction l generalizing ts with
  | nil => rfl
  | cons j l ih => rw [List.foldl_cons, ih, parentOf_mark]

theorem size_foldl_mark (l : List Nat) : (l.foldl mark ts).nodes.size = ts.nodes.size := by
  induction l generalizing ts with
  | nil => rfl
  | cons j l ih => rw [List.foldl_cons, ih, size_mark]

/-! ### Cancelling -/

/-- The tokens a cancellation reaches lie under the cancelled token. -/
theorem under_of_mem_reach {i x : Nat} (fuel : Nat) (h : x ∈ ts.reach i fuel) : ts.Under x i := by
  induction fuel generalizing i with
  | zero =>
    simp only [reach, List.mem_singleton] at h
    subst h
    exact .refl _
  | succ fuel ih =>
    simp only [reach, List.mem_append, List.mem_flatMap, List.mem_filter, List.mem_reverse,
      List.mem_singleton] at h
    rcases h with ⟨c, ⟨hc, -⟩, hx⟩ | rfl
    · -- `x` lies under a child `c` of `i`
      have hp : ts.parentOf c = some i := by
        simp only [children, List.mem_filter, decide_eq_true_eq] at hc
        exact hc.2
      exact (ih hx).of_parent hp
    · exact .refl x

theorem self_mem_reach (i fuel : Nat) : i ∈ ts.reach i fuel := by
  cases fuel <;> simp [reach]

/-- A cancellation marks the tokens it reaches, one after the other. -/
theorem cancel_fst (j : Nat) :
    (ts.cancel j).1 = if ts.isCancelled j then ts else (ts.reach j ts.nodes.size).foldl mark ts := by
  unfold cancel
  split
  · rfl
  · -- the woken watchers do not change the tokens
    have key : ∀ (l : List Nat) (acc : Tokens × List TaskId),
        (l.foldl (fun (acc : Tokens × List TaskId) j =>
          (⟨acc.1.nodes.modify j fun n => { n with cancelled := true, watchers := [] }⟩,
            acc.2 ++ (acc.1.nodes[j]?.map (·.watchers)).getD [])) acc).1 = l.foldl mark acc.1 := by
      intro l
      induction l with
      | nil => intro acc; rfl
      | cons j l ih => intro acc; rw [List.foldl_cons, ih, List.foldl_cons]; rfl
    exact key _ _

@[simp] theorem parentOf_cancel (j : Nat) : (ts.cancel j).1.parentOf = ts.parentOf := by
  rw [cancel_fst]
  split
  · rfl
  · exact parentOf_foldl_mark _

@[simp] theorem size_cancel (j : Nat) : (ts.cancel j).1.nodes.size = ts.nodes.size := by
  rw [cancel_fst]
  split
  · rfl
  · exact size_foldl_mark _

/-- **A cancellation stays in its subtree.** A token cancelled by cancelling `j` was cancelled
    already or lies under `j`. -/
theorem isCancelled_cancel {j x : Nat} (h : (ts.cancel j).1.isCancelled x = true) :
    ts.isCancelled x = true ∨ ts.Under x j := by
  rw [cancel_fst] at h
  split at h
  · exact .inl h
  · rcases (isCancelled_foldl_mark _ x).1 h with h | ⟨hx, -⟩
    · exact .inl h
    · exact .inr (under_of_mem_reach _ hx)

/-- No token is ever uncancelled. -/
theorem isCancelled_cancel_of {j x : Nat} (h : ts.isCancelled x = true) :
    (ts.cancel j).1.isCancelled x = true := by
  rw [cancel_fst]
  split
  · exact h
  · exact (isCancelled_foldl_mark _ x).2 (.inl h)

/-- A token that exists is cancelled once cancelled. -/
theorem isCancelled_cancel_self {j : Nat} (hj : j < ts.nodes.size) :
    (ts.cancel j).1.isCancelled j = true := by
  rw [cancel_fst]
  split
  · assumption
  · exact (isCancelled_foldl_mark _ j).2 (.inr ⟨self_mem_reach _ _, hj⟩)

theorem lt_of_parentOf {c j : Nat} (h : ts.parentOf c = some j) : c < ts.nodes.size := by
  unfold parentOf at h
  cases hc : ts.nodes[c]? with
  | none => simp [hc] at h
  | some n => exact (Array.getElem?_eq_some_iff.1 hc).1

/-- A cancellation reaches every child of the cancelled token that stands. -/
theorem mem_reach_child {c j : Nat} (hp : ts.parentOf c = some j) (hc : ts.isCancelled c = false)
    (fuel : Nat) : c ∈ ts.reach j (fuel + 1) := by
  have hch : c ∈ ts.children j := by
    simp only [children, List.mem_filter, List.mem_range, decide_eq_true_eq]
    exact ⟨lt_of_parentOf hp, hp⟩
  simp only [reach, List.mem_append, List.mem_flatMap, List.mem_filter, List.mem_reverse]
  exact .inl ⟨c, ⟨hch, by simp [hc]⟩, self_mem_reach c fuel⟩

/-- **Cancelling a token cancels its children**, unless it was cancelled already and the
    cancellation changes nothing. -/
theorem isCancelled_cancel_child {c j : Nat} (hp : ts.parentOf c = some j) :
    (ts.cancel j).1.isCancelled c = true ∨ ts.isCancelled j = true := by
  cases hj : ts.isCancelled j
  · left
    rw [cancel_fst, if_neg (by simp [hj])]
    cases hc : ts.isCancelled c
    · -- the forest has a node, so the cancellation looks at least one level down
      obtain ⟨n, hn⟩ : ∃ n, ts.nodes.size = n + 1 := ⟨ts.nodes.size - 1, by
        have := lt_of_parentOf hp
        omega⟩
      exact (isCancelled_foldl_mark _ c).2 (.inr ⟨hn ▸ mem_reach_child hp hc n, lt_of_parentOf hp⟩)
    · exact (isCancelled_foldl_mark _ c).2 (.inl hc)
  · exact .inr rfl

/-! ### Making and watching tokens -/

@[simp] theorem size_create (p : Option Nat) : (ts.create p).1.nodes.size = ts.nodes.size + 1 := by
  simp [create]

@[simp] theorem create_snd (p : Option Nat) : (ts.create p).2 = ts.nodes.size := rfl

theorem parentOf_create (p : Option Nat) (x : Nat) :
    (ts.create p).1.parentOf x = if x = ts.nodes.size then p else ts.parentOf x := by
  simp only [parentOf, create, Array.getElem?_push]
  split <;> simp

theorem isCancelled_create (p : Option Nat) (x : Nat) :
    (ts.create p).1.isCancelled x =
      if x = ts.nodes.size then (p.map ts.isCancelled).getD false else ts.isCancelled x := by
  simp only [isCancelled, create, Array.getElem?_push]
  split
  · cases p <;> rfl
  · rfl

/-- A token made under an older one keeps the forest ordered. -/
theorem Ordered.create (ho : ts.Ordered) {p : Option Nat} (hp : ∀ q ∈ p, q < ts.nodes.size) :
    (ts.create p).1.Ordered := by
  intro i q h
  rw [parentOf_create] at h
  split at h
  · subst h
    rename_i hi
    exact hi ▸ hp q rfl
  · exact ho i q h

theorem Ordered.cancel (ho : ts.Ordered) (j : Nat) : (ts.cancel j).1.Ordered := by
  intro i q h
  rw [parentOf_cancel] at h
  exact ho i q h

@[simp] theorem parentOf_watch (i : Nat) (t : TaskId) : (ts.watch i t).parentOf = ts.parentOf :=
  parentOf_modify (fun n => by split <;> rfl) i

@[simp] theorem isCancelled_watch (i : Nat) (t : TaskId) :
    (ts.watch i t).isCancelled = ts.isCancelled :=
  isCancelled_modify (fun n => by split <;> rfl) i

@[simp] theorem size_watch (i : Nat) (t : TaskId) : (ts.watch i t).nodes.size = ts.nodes.size :=
  Array.size_modify ..

@[simp] theorem parentOf_unwatch (i : Nat) (t : TaskId) :
    (ts.unwatch i t).parentOf = ts.parentOf :=
  parentOf_modify (fun _ => by rfl) i

@[simp] theorem isCancelled_unwatch (i : Nat) (t : TaskId) :
    (ts.unwatch i t).isCancelled = ts.isCancelled :=
  isCancelled_modify (fun _ => by rfl) i

@[simp] theorem size_unwatch (i : Nat) (t : TaskId) : (ts.unwatch i t).nodes.size = ts.nodes.size :=
  Array.size_modify ..

end Tokens

end RobotTrading
