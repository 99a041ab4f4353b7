import Mathlib.Data.List.TakeWhile
import RobotTrading.Market.Codec
import RobotTrading.Proofs.Text.UpperCase

/-!
# The normal form of a ticker

`Symbol.ofText` trims blanks, refuses an empty ticker or one with a blank inside, and
upper-cases what is left. What it returns is a normal form: a non-empty text without blanks that
`Symbol.ofText` takes to itself, so the text a symbol is written as in a document reads back as
the same symbol. Tickers that differ in surrounding blanks or in the case of ASCII letters are
accepted or refused together, and give the same symbol.

Upper-casing can lengthen a ticker (`ß` becomes `SS`), so the normal form rests on the case
tables: every character of an upper case is its own upper case and no image is blank.

## Main statements

* `Symbol.ofText_canonical`.
-/

namespace RobotTrading

namespace Text

/-! ### Trimming -/

theorem dropWhile_isBlank_of_forall {l : List Char} (h : ∀ c ∈ l, isBlank c = false) :
    l.dropWhile isBlank = l := by
  cases l with
  | nil => rfl
  | cons c l => exact List.dropWhile_cons_of_neg (by simp [h c (List.mem_cons_self ..)])

/-- A text without blanks is its own trimmed form. -/
theorem trimBlankList_of_forall {l : List Char} (h : ∀ c ∈ l, isBlank c = false) :
    trimBlankList l = l := by
  have hr : ∀ c ∈ l.reverse, isBlank c = false := by simpa using h
  simp only [trimBlankList, dropWhile_isBlank_of_forall h, dropWhile_isBlank_of_forall hr,
    List.reverse_reverse]

/-- Blanks in front do not change the trimmed form. -/
theorem trimBlankList_blank_append {pre : List Char} (h : ∀ c ∈ pre, isBlank c = true)
    (l : List Char) : trimBlankList (pre ++ l) = trimBlankList l := by
  simp only [trimBlankList, List.dropWhile_append_of_pos h]

/-- Blanks behind do not change the trimmed form. -/
theorem trimBlankList_append_blank (l : List Char) {post : List Char}
    (h : ∀ c ∈ post, isBlank c = true) : trimBlankList (l ++ post) = trimBlankList l := by
  unfold trimBlankList
  rw [List.dropWhile_append]
  split
  · -- `l` is blank throughout, and so is all that follows it
    rename_i hl
    rw [List.isEmpty_iff.1 hl, List.dropWhile_eq_nil_iff.2 h]
  · have hr : ∀ c ∈ post.reverse, isBlank c = true := by simpa using h
    rw [List.reverse_append, List.dropWhile_append_of_pos hr]

/-- Trimming commutes with ASCII upper-casing, which keeps blanks and non-blanks apart. -/
theorem trimBlankList_map_toUpper (l : List Char) :
    trimBlankList (l.map Char.toUpper) = (trimBlankList l).map Char.toUpper := by
  have hcomp : isBlank ∘ Char.toUpper = isBlank := funext isBlank_toUpper
  simp only [trimBlankList, List.dropWhile_map, hcomp, ← List.map_reverse]

end Text

namespace Symbol

open Text

/-! ### What `ofText` reads -/

/-- A ticker is accepted when its trimmed characters are there and none is blank. -/
theorem ofText_eq_ok_iff {t : String} {y : Symbol} :
    ofText t = .ok y ↔ trimBlankList t.toList ≠ [] ∧
      (∀ c ∈ trimBlankList t.toList, isBlank c = false) ∧
      y = ⟨upper (String.ofList (trimBlankList t.toList))⟩ := by
  unfold ofText trimBlank
  dsimp only
  split
  · -- nothing is left after trimming
    rename_i hempty
    refine ⟨(fun h => nomatch h), ?_⟩
    rintro ⟨hne, -, -⟩
    exact (hne (by simpa using hempty)).elim
  split
  · -- a blank is left inside
    rename_i hblank
    refine ⟨(fun h => nomatch h), ?_⟩
    rintro ⟨-, hnb, -⟩
    obtain ⟨c, hc, hb⟩ := List.any_eq_true.1 (by simpa using hblank)
    simp [hnb c hc] at hb
  · rename_i hempty hblank
    have hne : trimBlankList t.toList ≠ [] := by simpa using hempty
    have hnb : ∀ c ∈ trimBlankList t.toList, isBlank c = false := by simpa using hblank
    rw [Except.ok.injEq, eq_comm]
    exact ⟨fun h => ⟨hne, hnb, h⟩, fun h => h.2.2⟩

/-- Tickers whose trimmed characters agree up to ASCII case are accepted or refused together,
    and give the same symbol. -/
theorem toOption_ofText_eq {t t' : String}
    (h : (trimBlankList t.toList).map Char.toUpper = (trimBlankList t'.toList).map Char.toUpper) :
    (ofText t).toOption = (ofText t').toOption := by
  set u := trimBlankList t.toList
  set u' := trimBlankList t'.toList
  have hempty : u = [] ↔ u' = [] := by
    rw [← List.map_eq_nil_iff (f := Char.toUpper), h, List.map_eq_nil_iff]
  have hblank : (∀ c ∈ u, isBlank c = false) ↔ ∀ c ∈ u', isBlank c = false := by
    have hall : ∀ l : List Char, (∀ c ∈ l, isBlank c = false) ↔ l.all (!isBlank ·) = true := by
      simp
    have := congrArg (·.all (!isBlank ·)) h
    simp only [List.all_map, Function.comp_def, isBlank_toUpper] at this
    rw [hall, hall, this]
  have hupper : upper (String.ofList u) = upper (String.ofList u') := by
    have := congrArg (·.flatMap upperChar) h
    simp only [List.flatMap_map, upperChar_toUpper] at this
    simp only [upper, String.toList_ofList, this]
  cases hy : ofText t' with
  | error e =>
    cases hx : ofText t with
    | error => rfl
    | ok y =>
      obtain ⟨hne, hnb, rfl⟩ := ofText_eq_ok_iff.1 hx
      have := ofText_eq_ok_iff.2 ⟨mt hempty.2 hne, hblank.1 hnb, rfl⟩
      simp_all
  | ok y' =>
    obtain ⟨hne, hnb, rfl⟩ := ofText_eq_ok_iff.1 hy
    rw [ofText_eq_ok_iff.2 ⟨mt hempty.1 hne, hblank.2 hnb, by rw [hupper]⟩]

/-! ### The normal form -/

theorem upper_ne_empty {u : List Char} (h : u ≠ []) : upper (String.ofList u) ≠ "" := by
  obtain ⟨c, l, rfl⟩ := List.exists_cons_of_ne_nil h
  simp [upper, upperChar_ne_nil]

theorem isBlank_of_mem_upper {u : List Char} (h : ∀ c ∈ u, isBlank c = false) :
    ∀ ch ∈ (upper (String.ofList u)).toList, isBlank ch = false := by
  intro ch hch
  simp only [upper, String.toList_ofList, List.mem_flatMap] at hch
  obtain ⟨c, hc, hch⟩ := hch
  exact isBlank_of_mem_upperChar (h c hc) hch

/-- The symbol of a ticker is taken to itself. -/
theorem ofText_text {t : String} {y : Symbol} (h : ofText t = .ok y) : ofText y.text = .ok y := by
  obtain ⟨hne, hnb, rfl⟩ := ofText_eq_ok_iff.1 h
  have hnb' := isBlank_of_mem_upper hnb
  refine ofText_eq_ok_iff.2 ⟨?_, ?_, ?_⟩ <;> rw [trimBlankList_of_forall hnb']
  · simpa using upper_ne_empty hne
  · exact hnb'
  · rw [String.ofList_toList, upper_upper]

/-- A ticker read from a document is the ticker normalized, its refusal kept as the reason. -/
theorem symbol_str (s : String) :
    Field.symbol (.str s) = (ofText s).mapError DecodeError.symbol := by
  cases h : ofText s <;> simp [Field.symbol, h, Except.mapError]

/-- A symbol is a non-empty text without blanks that normalizes to itself, so it reads back from
    its document form; tickers that differ in surrounding blanks or ASCII case are accepted or
    refused together and give the same symbol; and a document's ticker is read by `ofText`. -/
theorem ofText_canonical :
    (∀ t y, ofText t = .ok y →
      y.text ≠ "" ∧ (∀ ch ∈ y.text.toList, isBlank ch = false) ∧
        ofText y.text = .ok y ∧ Field.symbol (.str y.text) = .ok y) ∧
    (∀ pre s post pre' s' post' : List Char,
      (∀ c ∈ pre ++ post ++ pre' ++ post', isBlank c = true) →
      s.map Char.toUpper = s'.map Char.toUpper →
      (ofText (String.ofList (pre ++ s ++ post))).toOption =
        (ofText (String.ofList (pre' ++ s' ++ post'))).toOption) ∧
    (∀ s, Field.symbol (.str s) = (ofText s).mapError DecodeError.symbol) := by
  refine ⟨fun t y h => ?_, fun pre s post pre' s' post' hpad hcase => ?_, symbol_str⟩
  · have hself := ofText_text h
    have hread : Field.symbol (.str y.text) = .ok y := by
      rw [symbol_str, hself]
      rfl
    obtain ⟨hne, hnb, rfl⟩ := ofText_eq_ok_iff.1 h
    exact ⟨upper_ne_empty hne, isBlank_of_mem_upper hnb, hself, hread⟩
  · simp only [List.mem_append, or_imp, forall_and] at hpad
    obtain ⟨⟨⟨hpre, hpost⟩, hpre'⟩, hpost'⟩ := hpad
    apply toOption_ofText_eq
    rw [String.toList_ofList, String.toList_ofList, trimBlankList_append_blank _ hpost,
      trimBlankList_append_blank _ hpost', trimBlankList_blank_append hpre,
      trimBlankList_blank_append hpre', ← trimBlankList_map_toUpper,
      ← trimBlankList_map_toUpper, hcase]

/-- `ß` upper-cases to two letters, and a padded small ticker agrees with its capitals. -/
theorem ofText_canonical_sample :
    ofText " straße " = .ok ⟨"STRASSE"⟩ ∧ ofText "STRASSE" = .ok ⟨"STRASSE"⟩ ∧
      (ofText (String.ofList ([' '] ++ ['a', 'a', 'p', 'l'] ++ ['\t']))).toOption =
        (ofText (String.ofList ([] ++ ['A', 'a', 'P', 'L'] ++ []))).toOption := by
  have h : ofText " straße " = .ok ⟨"STRASSE"⟩ := by decide +kernel
  have hpad : ∀ c ∈ [' '] ++ ['\t'] ++ [] ++ [], isBlank c = true := by
    intro c hc
    simp only [List.append_nil, List.cons_append, List.nil_append, List.mem_cons,
      List.not_mem_nil, or_false] at hc
    rcases hc with rfl | rfl <;> rfl
  exact ⟨h, (ofText_canonical.1 _ _ h).2.2.1,
    ofText_canonical.2.1 [' '] _ ['\t'] [] _ [] hpad (by decide)⟩

end Symbol

end RobotTrading
