import Mathlib
import RobotTrading.Text.Case
import RobotTrading.Text.Basic

/-!
# Upper case is a projection that keeps blanks apart

The upper-case tables send small letters to capitals and leave capitals alone: no character of
an image is moved by the tables again, so upper-casing twice is upper-casing once. No image is
blank either, so a text without blanks has none after upper-casing.

The run table holds some fourteen hundred code points, so its facts are checked per run and not
per code point. The images of a run form again a progression with the run's stride, and
`CaseRun.missesRun` decides that they share no code point with a second run: the two ranges lie
apart, both runs alternate with stride two and the images fall on the other parity, or the run
is a single code point that the second run does not hold. The multi-character images are few
and are checked one by one.

## Main statements

* `Text.upperChar_of_mem_upperChar` : every character of an upper case is its own upper case.
* `Text.isBlank_of_mem_upperChar` : the upper case of a non-blank character has no blank.
* `Text.upperChar_toUpper` : ASCII upper-casing first changes nothing.
* `Text.upper_upper` : upper-casing a string is idempotent.
-/

namespace RobotTrading

namespace Text

/-! ### Runs and what their images avoid -/

/-- A single code point as a run. -/
def CaseRun.point (n : Nat) : CaseRun := ⟨n, n, 0, 1⟩

/-- The images of `r` share no code point with `r'`: the ranges lie apart, both runs alternate
    and the images fall on the other parity, or `r` is one code point that `r'` does not hold. -/
def CaseRun.missesRun (r r' : CaseRun) : Bool :=
  decide (r.hi + r.offset < r'.lo) || decide ((r'.hi : Int) < r.lo + r.offset) ||
    (r.stride == 2 && r'.stride == 2 && (r.lo + r.offset - r'.lo) % 2 != 0) ||
    (r.lo == r.hi && !r'.covers (r.lo + r.offset).toNat)

/-- Every image of `r` is a code point held by no run of `rs`. -/
def CaseRun.imagesAvoid (r : CaseRun) (rs : List CaseRun) : Bool :=
  decide (0 ≤ r.lo + r.offset) && rs.all r.missesRun

/-- The code points that upper-casing moves: the run table and the keys of the expansions. -/
def upperMoved : List CaseRun :=
  upperRuns.toList ++ upperExpansions.toList.map (CaseRun.point ·.1)

/-- The blank code points as runs. -/
def blankRuns : List CaseRun :=
  [⟨0x9, 0xD, 0, 1⟩, .point 0x20, .point 0x85, .point 0xA0, .point 0x1680,
    ⟨0x2000, 0x200A, 0, 1⟩, .point 0x2028, .point 0x2029, .point 0x202F, .point 0x205F,
    .point 0x3000]

namespace CaseRun

theorem covers_iff {r : CaseRun} {n : Nat} :
    r.covers n = true ↔ r.lo ≤ n ∧ n ≤ r.hi ∧ (n - r.lo) % r.stride = 0 := by
  simp [covers, and_assoc]

@[simp] theorem covers_point {m n : Nat} : (point m).covers n = true ↔ n = m := by
  simp only [covers_iff, point, Nat.mod_one, and_true]
  omega

@[simp] theorem covers_point_eq_false {m n : Nat} : (point m).covers n = false ↔ n ≠ m := by
  rw [← Bool.not_eq_true, covers_point]

/-- A run's image of a covered code point is held by no run that the images miss. -/
theorem covers_image_eq_false {r r' : CaseRun} (hm : r.missesRun r' = true)
    (hlo : 0 ≤ (r.lo : Int) + r.offset) {n : Nat} (hn : r.covers n = true) :
    r'.covers (n + r.offset).toNat = false := by
  obtain ⟨hlo_n, hn_hi, hstep⟩ := covers_iff.1 hn
  rw [Bool.eq_false_iff]
  intro hc
  obtain ⟨h₁, h₂, h₃⟩ := covers_iff.1 hc
  simp only [missesRun, Bool.or_eq_true, decide_eq_true_eq, Bool.and_eq_true, beq_iff_eq,
    bne_iff_ne, ne_eq, Bool.not_eq_true'] at hm
  rcases hm with ((hapart | hapart) | ⟨⟨hs, hs'⟩, hparity⟩) | ⟨hsingle, hout⟩
  · omega
  · omega
  · -- both strides are two: the image and `r'.lo` differ by an odd number
    rw [hs] at hstep
    rw [hs'] at h₃
    omega
  · -- a single code point: `n` is `r.lo`, whose image `r'` does not hold
    have hn : n = r.lo := by omega
    subst hn
    rw [hc] at hout
    simp at hout

theorem imagesAvoid_sound {r : CaseRun} {rs : List CaseRun} (h : r.imagesAvoid rs = true)
    {n : Nat} (hn : r.covers n = true) {r' : CaseRun} (hr' : r' ∈ rs) :
    r'.covers (n + r.offset).toNat = false := by
  simp only [imagesAvoid, Bool.and_eq_true, decide_eq_true_eq, List.all_eq_true] at h
  exact covers_image_eq_false (h.2 r' hr') h.1 hn

end CaseRun

/-! ### The tables, checked -/

/-- The image of every run lies outside the moved code points and the blanks. -/
theorem upperRuns_imagesAvoid :
    ∀ r ∈ upperRuns.toList, r.imagesAvoid (upperMoved ++ blankRuns) = true := by
  rw [← List.all_eq_true]
  decide +kernel

/-- Every character of a multi-character image is its own upper case and is not blank. -/
theorem upperExpansions_images : ∀ e ∈ upperExpansions.toList, e.2 ≠ [] ∧
    ∀ p ∈ e.2, upperChar (Char.ofNat p) = [Char.ofNat p] ∧ isBlank (Char.ofNat p) = false := by
  decide +kernel

/-! ### Characters -/

theorem toNat_ofNat_or (m : Nat) : (Char.ofNat m).toNat = m ∨ Char.ofNat m = '\x00' := by
  unfold Char.ofNat
  split
  · left
    unfold Char.ofNatAux Char.toNat
    simp
  · right
    rfl

/-- A property of every ASCII character, checked on the 128 code points. -/
theorem forall_ascii {P : Char → Prop} (h : ∀ n, n < 128 → P (Char.ofNat n)) {c : Char}
    (hc : c.toNat < 128) : P c := by
  simpa using h c.toNat hc

theorem toUpper_of_not_ascii {c : Char} (hc : ¬c.toNat < 128) : c.toUpper = c := by
  unfold Char.toUpper
  rw [dif_neg]
  simp only [UInt32.le_iff_toNat_le, Char.toNat_val, not_and, Nat.not_le]
  intro _
  have hz : 'z'.toNat = 122 := rfl
  omega

theorem isBlank_iff_covers {c : Char} : isBlank c = true ↔ ∃ r ∈ blankRuns, r.covers c.toNat := by
  simp only [isBlank, blankRuns, List.mem_cons, List.not_mem_nil, or_false, exists_eq_or_imp,
    exists_eq_left, CaseRun.point, CaseRun.covers_iff, Nat.mod_one, Bool.or_eq_true,
    Bool.and_eq_true, decide_eq_true_eq, beq_iff_eq, and_true]
  omega

/-! ### Lookup in a pair of tables -/

section Tables

variable {runs : Array CaseRun} {expansions : Array (Nat × List Nat)} {c d : Char}

/-- A character that no expansion key and no run holds maps to itself. -/
theorem mapByTables_eq_self (hkey : ∀ e ∈ expansions.toList, e.1 ≠ c.toNat)
    (hrun : ∀ r ∈ runs.toList, r.covers c.toNat = false) :
    mapByTables runs expansions c = [c] := by
  have he : expansions.find? (fun e => e.1 == c.toNat) = none :=
    Array.find?_eq_none.2 fun e he => by simpa using hkey e (Array.mem_toList_iff.2 he)
  have hr : runs.find? (fun r => r.covers c.toNat) = none :=
    Array.find?_eq_none.2 fun r hr => by simpa using hrun r (Array.mem_toList_iff.2 hr)
  simp [mapByTables, he, hr]

theorem mapByTables_ne_nil (h : ∀ e ∈ expansions.toList, e.2 ≠ []) :
    mapByTables runs expansions c ≠ [] := by
  unfold mapByTables
  split
  · rename_i image he
    simpa using h _ (Array.mem_toList_iff.2 (Array.mem_of_find?_eq_some he))
  · split <;> simp

/-- What a character of a table image can be: a character of an expansion, the image of a run,
    or the character itself when no table holds it. -/
theorem mem_mapByTables (h : d ∈ mapByTables runs expansions c) :
    (∃ e ∈ expansions.toList, ∃ p ∈ e.2, d = Char.ofNat p) ∨
      (∃ r ∈ runs.toList, r.covers c.toNat ∧ d = Char.ofNat (c.toNat + r.offset).toNat) ∨
      ((∀ e ∈ expansions.toList, e.1 ≠ c.toNat) ∧
        (∀ r ∈ runs.toList, r.covers c.toNat = false) ∧ d = c) := by
  unfold mapByTables at h
  split at h
  · rename_i key image he
    obtain ⟨p, hp, rfl⟩ := List.mem_map.1 h
    exact .inl ⟨(key, image), Array.mem_toList_iff.2 (Array.mem_of_find?_eq_some he), p, hp, rfl⟩
  · rename_i hkey
    split at h
    · rename_i r hr
      exact .inr (.inl ⟨r, Array.mem_toList_iff.2 (Array.mem_of_find?_eq_some hr),
        by simpa using Array.find?_some hr, List.mem_singleton.1 h⟩)
    · rename_i hrun
      refine .inr (.inr ⟨fun e he => ?_, fun r hr => ?_, List.mem_singleton.1 h⟩)
      · simpa using Array.find?_eq_none.1 hkey e (Array.mem_toList_iff.1 he)
      · simpa using Array.find?_eq_none.1 hrun r (Array.mem_toList_iff.1 hr)

end Tables

/-! ### Upper case of one character -/

theorem covers_upperMoved_eq_false {n : Nat} :
    (∀ r ∈ upperMoved, r.covers n = false) ↔
      (∀ e ∈ upperExpansions.toList, e.1 ≠ n) ∧ ∀ r ∈ upperRuns.toList, r.covers n = false := by
  constructor
  · intro h
    refine ⟨fun e he hkey => ?_, fun r hr => h r (List.mem_append_left _ hr)⟩
    have hpoint := h (CaseRun.point e.1) (List.mem_append_right _ (List.mem_map_of_mem he))
    simp [hkey] at hpoint
  · rintro ⟨hkey, hrun⟩ r hr
    rcases List.mem_append.1 hr with hr | hr
    · exact hrun r hr
    · obtain ⟨e, he, rfl⟩ := List.mem_map.1 hr
      exact CaseRun.covers_point_eq_false.2 (hkey e he).symm

/-- A code point that no moved run holds is its own upper case. -/
theorem upperChar_eq_self {c : Char} (h : ∀ r ∈ upperMoved, r.covers c.toNat = false) :
    upperChar c = [c] := by
  obtain ⟨hkey, hrun⟩ := covers_upperMoved_eq_false.1 h
  unfold upperChar
  split_ifs with hc
  · -- the first run holds the ASCII small letters
    have hsmall := hrun ⟨0x61, 0x7A, -32, 1⟩ (List.mem_of_mem_head? rfl)
    revert hsmall
    exact forall_ascii (P := fun c => CaseRun.covers ⟨0x61, 0x7A, -32, 1⟩ c.toNat = false →
      [c.toUpper] = [c]) (by decide) hc
  · exact mapByTables_eq_self hkey hrun

/-- A code point that no moved run holds is its own upper case, whether or not it is valid. -/
theorem upperChar_ofNat {m : Nat} (h : ∀ r ∈ upperMoved, r.covers m = false) :
    upperChar (Char.ofNat m) = [Char.ofNat m] := by
  rcases toNat_ofNat_or m with hm | hm
  · exact upperChar_eq_self (by rw [hm]; exact h)
  · rw [hm]
    decide

theorem isBlank_ofNat {m : Nat} (h : ∀ r ∈ blankRuns, r.covers m = false) :
    isBlank (Char.ofNat m) = false := by
  rcases toNat_ofNat_or m with hm | hm
  · rw [Bool.eq_false_iff]
    intro hb
    obtain ⟨r, hr, hcov⟩ := isBlank_iff_covers.1 hb
    rw [hm, h r hr] at hcov
    simp at hcov
  · rw [hm]
    decide

/-- What a character of an upper case can be: an ASCII capital, a character of an expansion,
    the image of a run, or the character itself when nothing moves it. -/
theorem mem_upperChar {c d : Char} (h : d ∈ upperChar c) :
    (c.toNat < 128 ∧ d = c.toUpper) ∨
      (∃ e ∈ upperExpansions.toList, ∃ p ∈ e.2, d = Char.ofNat p) ∨
      (∃ r ∈ upperRuns.toList, r.covers c.toNat ∧ d = Char.ofNat (c.toNat + r.offset).toNat) ∨
      ((∀ r ∈ upperMoved, r.covers c.toNat = false) ∧ d = c) := by
  unfold upperChar at h
  split_ifs at h with hc
  · exact .inl ⟨hc, List.mem_singleton.1 h⟩
  rcases mem_mapByTables h with hexp | hrun | ⟨hkey, hrun, rfl⟩
  · exact .inr (.inl hexp)
  · exact .inr (.inr (.inl hrun))
  · exact .inr (.inr (.inr ⟨covers_upperMoved_eq_false.2 ⟨hkey, hrun⟩, rfl⟩))

theorem upperChar_ne_nil (c : Char) : upperChar c ≠ [] := by
  unfold upperChar
  split_ifs
  · simp
  · exact mapByTables_ne_nil fun e he => (upperExpansions_images e he).1

/-! ### Upper case is a projection -/

/-- Every character of an upper case is its own upper case. -/
theorem upperChar_of_mem_upperChar {c d : Char} (h : d ∈ upperChar c) : upperChar d = [d] := by
  rcases mem_upperChar h with ⟨hc, rfl⟩ | ⟨e, he, p, hp, rfl⟩ | ⟨r, hr, hcov, rfl⟩ | ⟨hfix, rfl⟩
  · unfold upperChar
    exact forall_ascii (P := fun c => (if c.toUpper.toNat < 128 then [c.toUpper.toUpper]
      else mapByTables upperRuns upperExpansions c.toUpper) = [c.toUpper]) (by decide) hc
  · exact ((upperExpansions_images e he).2 p hp).1
  · exact upperChar_ofNat fun r' hr' =>
      CaseRun.imagesAvoid_sound (upperRuns_imagesAvoid r hr) hcov (List.mem_append_left _ hr')
  · exact upperChar_eq_self hfix

/-- The upper case of a non-blank character has no blank. -/
theorem isBlank_of_mem_upperChar {c d : Char} (hc : isBlank c = false) (h : d ∈ upperChar c) :
    isBlank d = false := by
  rcases mem_upperChar h with ⟨hasc, rfl⟩ | ⟨e, he, p, hp, rfl⟩ | ⟨r, hr, hcov, rfl⟩ | ⟨_, rfl⟩
  · revert hc
    exact forall_ascii (P := fun c => isBlank c = false → isBlank c.toUpper = false)
      (by decide) hasc
  · exact ((upperExpansions_images e he).2 p hp).2
  · exact isBlank_ofNat fun r' hr' =>
      CaseRun.imagesAvoid_sound (upperRuns_imagesAvoid r hr) hcov (List.mem_append_right _ hr')
  · exact hc

theorem isBlank_toUpper (c : Char) : isBlank c.toUpper = isBlank c := by
  by_cases hc : c.toNat < 128
  · exact forall_ascii (P := fun c => isBlank c.toUpper = isBlank c) (by decide) hc
  · rw [toUpper_of_not_ascii hc]

/-- Upper-casing the ASCII letters first changes nothing. -/
theorem upperChar_toUpper (c : Char) : upperChar c.toUpper = upperChar c := by
  by_cases hc : c.toNat < 128
  · unfold upperChar
    exact forall_ascii (P := fun c => (if c.toUpper.toNat < 128 then [c.toUpper.toUpper]
      else mapByTables upperRuns upperExpansions c.toUpper) = [c.toUpper]) (by decide) hc
      |>.trans (if_pos hc).symm
  · rw [toUpper_of_not_ascii hc]

theorem flatMap_upperChar_upperChar (c : Char) : (upperChar c).flatMap upperChar = upperChar c := by
  conv_rhs => rw [← List.flatMap_singleton' (upperChar c)]
  exact List.flatMap_congr fun d hd => upperChar_of_mem_upperChar hd

/-- Upper-casing is idempotent. -/
theorem upper_upper (s : String) : upper (upper s) = upper s := by
  simp only [upper, String.toList_ofList, List.flatMap_assoc, flatMap_upperChar_upperChar]

end Text

end RobotTrading
