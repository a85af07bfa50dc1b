import AvControl.Json.Numeral
import AvControl.Json.Render
import Mathlib.Data.List.Induction
import Mathlib.Tactic.IntervalCases

/-!
# Numbers as they are written

Every number is written as a numeral: an integer part without needless zeros, perhaps a fraction and
perhaps an exponent. A numeral is read as far as it goes, provided that nothing follows that could
be part of it, so what is read is what was written. An integer that fits 64 bits keeps its value.
-/

namespace AvControl.Json

open AvControl.Decimal

/-- A text that goes on behind a value: it is over, or goes on with a comma or a closing bracket. -/
def Follows (rest : List Char) : Prop := ∀ c ∈ rest.head?, c = ',' ∨ c = ']' ∨ c = '\x7d'

/-- A text that does not go on with a digit. -/
def NoDigit (rest : List Char) : Prop := ∀ c ∈ rest.head?, c.isDigit = false

theorem follows_nil : Follows [] := by simp [Follows]

theorem Follows.noDigit {rest : List Char} (follows : Follows rest) : NoDigit rest := by
  intro c isHead
  rcases follows c isHead with rfl | rfl | rfl <;> rfl

theorem spanDigits_append {digits rest : List Char} (areDigits : ∀ c ∈ digits, c.isDigit = true)
    (noDigit : NoDigit rest) : spanDigits (digits ++ rest) = (digits, rest) := by
  induction digits with
  | nil =>
      cases rest with
      | nil => rfl
      | cons c rest => simp [spanDigits, noDigit c (by simp)]
  | cons digit digits ih =>
      have others := ih fun c member => areDigits c (List.mem_cons_of_mem _ member)
      simp only [spanDigits, Prod.mk.injEq] at others
      simp [spanDigits, areDigits digit, others.1, others.2]

/-! ### Rows of digits -/

/-- A row of digits that is not empty. -/
structure Digits (digits : List Char) : Prop where
  notEmpty : digits ≠ []
  areDigits : ∀ c ∈ digits, c.isDigit = true

/-- A row of digits without needless zeros in front. -/
structure IntegerDigits (digits : List Char) : Prop extends Digits digits where
  noZero : ∀ rest, digits = '0' :: rest → rest = []

theorem digits_toDigits (n : Nat) : Digits (Nat.toDigits 10 n) where
  notEmpty := Nat.toDigits_ne_nil
  areDigits _ := Nat.isDigit_of_mem_toDigits (by decide) (by decide)

theorem head_toDigits {n : Nat} (positive : n ≠ 0) : (Nat.toDigits 10 n).head? ≠ some '0' := by
  induction n using Nat.strongRecOn with
  | ind n ih =>
      rw [Nat.toDigits_eq_if (by decide)]
      split
      · rename_i small
        interval_cases n
        · exact absurd rfl positive
        all_goals decide
      · rename_i large
        have isHead := ih (n / 10) (by omega) (by omega)
        rcases List.exists_cons_of_ne_nil (digits_toDigits (n / 10)).notEmpty with ⟨_, _, same⟩
        rw [same] at isHead ⊢
        exact isHead

theorem integerDigits_of_head {digits : List Char} (areDigits : Digits digits)
    (noZero : digits.head? ≠ some '0') : IntegerDigits digits where
  toDigits := areDigits
  noZero rest same := by
    rw [same] at noZero
    exact absurd rfl noZero

theorem integerDigits_toDigits (n : Nat) : IntegerDigits (Nat.toDigits 10 n) := by
  by_cases isZero : n = 0
  · subst isZero
    refine ⟨digits_toDigits 0, fun rest same => ?_⟩
    exact (List.cons.inj same).2.symm
  · exact integerDigits_of_head (digits_toDigits n) (head_toDigits isZero)

/-- The value of a row of digits is the number that it was made of. -/
theorem digitsValue_toDigits (n : Nat) : digitsValue (Nat.toDigits 10 n) = n := by
  have value : Nat.ofDigitChars 10 (Nat.toDigits 10 n) 0 = n := Nat.ofDigitChars_ten_toDigits
  simp only [Nat.ofDigitChars, Nat.mul_comm 10] at value
  exact value

theorem toDigits_digitValue {digit : Char} (isDigit : digit.isDigit = true) :
    Numeral.digitValue digit < 10 ∧
      Nat.toDigits 10 (Numeral.digitValue digit) = [digit] := by
  rcases Char.isDigit_iff_toNat.1 isDigit with ⟨least, greatest⟩
  have zero : '0'.toNat = 48 := rfl
  have nine : '9'.toNat = 57 := rfl
  have code : digit.toNat = 48 + Numeral.digitValue digit := by
    rw [Numeral.digitValue]
    omega
  have small : Numeral.digitValue digit < 10 := by omega
  refine ⟨small, ?_⟩
  rw [Nat.toDigits_of_lt_base small, List.singleton_inj, ← Char.toNat_inj, code]
  generalize Numeral.digitValue digit = value at small
  interval_cases value <;> rfl

theorem digitsValue_concat (digits : List Char) (digit : Char) :
    digitsValue (digits ++ [digit]) =
      digitsValue digits * 10 + Numeral.digitValue digit := by
  simp only [digitsValue, List.foldl_append, List.foldl_cons, List.foldl_nil]

theorem digitsValue_zeros (zeros : Nat) (digits : List Char) :
    digitsValue (List.replicate zeros '0' ++ digits) = digitsValue digits := by
  induction zeros with
  | zero => rfl
  | succ zeros ih => exact ih

/-- Any row of digits is the usual one of its value, behind zeros. -/
theorem eq_zeros_append_toDigits {digits : List Char} (areDigits : Digits digits) :
    ∃ zeros, digits = List.replicate zeros '0' ++ Nat.toDigits 10 (digitsValue digits) := by
  -- a value has a digit more than its tenth, unless that is zero
  induction digits using List.reverseRecOn with
  | nil => exact absurd rfl areDigits.notEmpty
  | append_singleton front digit ih =>
      rcases toDigits_digitValue (areDigits.areDigits digit (by simp)) with ⟨small, single⟩
      rw [digitsValue_concat]
      by_cases isEmpty : front = []
      · subst isEmpty
        refine ⟨0, ?_⟩
        simpa [digitsValue] using single.symm
      · have areFront : Digits front :=
          ⟨isEmpty, fun c member => areDigits.areDigits c (List.mem_append_left _ member)⟩
        rcases ih areFront with ⟨zeros, same⟩
        by_cases isZero : digitsValue front = 0
        · refine ⟨zeros + 1, ?_⟩
          rw [isZero] at same ⊢
          rw [Nat.zero_mul, Nat.zero_add, single, List.replicate_succ', same]
          rfl
        · refine ⟨zeros, ?_⟩
          rw [Nat.mul_comm, ← Nat.toDigits_append_toDigits (by decide) (Nat.pos_of_ne_zero isZero)
            small, single, ← List.append_assoc, ← same]

/-! ### Numerals -/

namespace Numeral

/-- The text of an exponent. -/
def exponentText : Option Int → List Char
  | some exponent => 'e' :: (toString exponent).toList
  | none => []

/-- The text of a fraction. -/
def fractionText : Option (List Char) → List Char
  | some digits => '.' :: digits
  | none => []

/-- A numeral as it is written. -/
def text (numeral : Numeral) : List Char :=
  (if numeral.negative then ['-'] else []) ++ numeral.integer ++ fractionText numeral.fraction ++
    exponentText numeral.exponent

/-- A numeral that can be written. -/
structure WellFormed (numeral : Numeral) : Prop where
  integer : IntegerDigits numeral.integer
  fraction : ∀ digits ∈ numeral.fraction, Digits digits

end Numeral

/-- The text of an integer, sign and digits. -/
theorem toList_toString (value : Int) : (toString value).toList =
    (if value < 0 then ['-'] else []) ++ Nat.toDigits 10 value.natAbs := by
  cases value with
  | ofNat n => simp [toString, Int.repr]
  | negSucc n => simp [toString, Int.repr]

theorem readInteger_append {digits rest : List Char} (isInteger : IntegerDigits digits)
    (noDigit : NoDigit rest) : readInteger (digits ++ rest) = some (digits, rest) := by
  rw [readInteger, spanDigits_append isInteger.areDigits noDigit]
  split
  · rename_i isEmpty
    exact absurd (Prod.mk.inj isEmpty).1 isInteger.notEmpty
  · rename_i isZero
    cases isInteger.noZero _ (Prod.mk.inj isZero).1
  · rename_i same
    rw [same]

theorem readFraction_append {fraction : Option (List Char)}
    (areDigits : ∀ digits ∈ fraction, Digits digits) {rest : List Char}
    (noDigit : NoDigit rest) (noPoint : rest.head? ≠ some '.') :
    readFraction (Numeral.fractionText fraction ++ rest) = some (fraction, rest) := by
  cases fraction with
  | none =>
      match rest, noPoint with
      | [], _ => rfl
      | c :: rest, noPoint =>
          have differs : c ≠ '.' := by simpa using noPoint
          simp [Numeral.fractionText, readFraction, differs]
  | some digits =>
      have isFraction := areDigits digits rfl
      simp only [Numeral.fractionText, List.cons_append, readFraction,
        spanDigits_append isFraction.areDigits noDigit]
      match digits, isFraction.notEmpty with
      | digit :: digits, _ => rfl

theorem readExponent_append (exponent : Option Int) {rest : List Char} (follows : Follows rest) :
    readExponent (Numeral.exponentText exponent ++ rest) = some (exponent, rest) := by
  cases exponent with
  | none =>
      match rest, follows with
      | [], _ => rfl
      | c :: rest, follows =>
          rcases follows c rfl with rfl | rfl | rfl <;> rfl
  | some exponent =>
      have areDigits := digits_toDigits exponent.natAbs
      have span := spanDigits_append areDigits.areDigits follows.noDigit
      have value := digitsValue_toDigits exponent.natAbs
      rcases List.exists_cons_of_ne_nil areDigits.notEmpty with ⟨digit, digits, same⟩
      have isDigit : digit.isDigit = true := areDigits.areDigits digit (by simp [same])
      have notPlus : digit ≠ '+' := by rintro rfl; cases isDigit
      have notMinus : digit ≠ '-' := by rintro rfl; cases isDigit
      rw [same] at span value
      rw [List.cons_append] at span
      simp only [Numeral.exponentText, toList_toString, same]
      by_cases negative : exponent < 0
      · simp [readExponent, negative, span, value, abs_of_neg negative]
      · simp [readExponent, negative, span, value, notPlus, notMinus,
          abs_of_nonneg (not_lt.1 negative)]

/-- Behind the integer part and the fraction of a numeral there is no further digit or point. -/
theorem head_exponentText {exponent : Option Int} {rest : List Char} (follows : Follows rest) :
    ∀ c ∈ (Numeral.exponentText exponent ++ rest).head?, c.isDigit = false ∧ c ≠ '.' := by
  intro c isHead
  cases exponent with
  | none => rcases follows c isHead with rfl | rfl | rfl <;> decide
  | some exponent =>
      obtain rfl : 'e' = c := Option.some.inj isHead
      decide

theorem noDigit_fractionText (fraction : Option (List Char)) {rest : List Char}
    (noDigit : NoDigit rest) : NoDigit (Numeral.fractionText fraction ++ rest) := by
  cases fraction with
  | none => exact noDigit
  | some digits =>
      intro c isHead
      obtain rfl : '.' = c := Option.some.inj isHead
      decide

/-- A numeral is read as it was written. -/
theorem readNumeral_append {numeral : Numeral} (wellFormed : numeral.WellFormed)
    {rest : List Char} (follows : Follows rest) :
    readNumeral (numeral.text ++ rest) = some (numeral, rest) := by
  rcases numeral with ⟨negative, integer, fraction, exponent⟩
  have noDigit : NoDigit (Numeral.exponentText exponent ++ rest) :=
    fun c isHead => (head_exponentText follows c isHead).1
  have noPoint : (Numeral.exponentText exponent ++ rest).head? ≠ some '.' :=
    fun isHead => (head_exponentText follows _ isHead).2 rfl
  have isInteger := readInteger_append wellFormed.integer
    (noDigit_fractionText fraction noDigit)
  have isFraction := readFraction_append wellFormed.fraction noDigit noPoint
  have isExponent := readExponent_append exponent follows
  cases negative with
  | true => simp [readNumeral, Numeral.text, isInteger, isFraction, isExponent]
  | false =>
      rcases List.exists_cons_of_ne_nil wellFormed.integer.notEmpty with ⟨digit, digits, rfl⟩
      have isDigit := wellFormed.integer.areDigits digit (List.mem_cons_self ..)
      have notMinus : digit ≠ '-' := by rintro rfl; cases isDigit
      simp only [List.cons_append] at isInteger
      simp [readNumeral, Numeral.text, notMinus, isInteger, isFraction, isExponent]

/-! ### Every number is written as a numeral -/

/-- The numeral of an integer. -/
def Numeral.ofInt (value : Int) : Numeral where
  negative := value < 0
  integer := Nat.toDigits 10 value.natAbs
  fraction := none
  exponent := none

theorem wellFormed_ofInt (value : Int) : (Numeral.ofInt value).WellFormed where
  integer := integerDigits_toDigits _
  fraction := by simp [Numeral.ofInt]

theorem text_ofInt (value : Int) : (Numeral.ofInt value).text = (toString value).toList := by
  rw [toList_toString]
  simp [Numeral.text, Numeral.ofInt, Numeral.fractionText, Numeral.exponentText]

theorem isDigit_of_mem_zeros {n : Nat} {c : Char} (member : c ∈ List.replicate n '0') :
    c.isDigit = true := by
  rw [List.eq_of_mem_replicate member]
  decide

theorem digits_zero : Digits ['0'] := digits_toDigits 0

/-- Digits in front of zeros. -/
theorem integerDigits_append_zeros {digits : List Char} (areDigits : Digits digits)
    (noZero : digits.head? ≠ some '0') (n : Nat) :
    IntegerDigits (digits ++ List.replicate n '0') := by
  rcases List.exists_cons_of_ne_nil areDigits.notEmpty with ⟨digit, others, rfl⟩
  refine integerDigits_of_head ⟨by simp, fun c member => ?_⟩ noZero
  rcases List.mem_append.1 member with isDigit | isZero
  · exact areDigits.areDigits c isDigit
  · exact isDigit_of_mem_zeros isZero

/-- The digits in front of a point that stands among digits, and those behind it. -/
theorem digits_split {digits : List Char} (areDigits : Digits digits)
    (noZero : digits.head? ≠ some '0') {places : Nat} (positive : 0 < places)
    (inside : places < digits.length) :
    IntegerDigits (digits.take places) ∧ Digits (digits.drop places) := by
  refine ⟨integerDigits_of_head ⟨?_, fun c member => ?_⟩ ?_, ⟨?_, fun c member => ?_⟩⟩
  · simp [areDigits.notEmpty, positive.ne']
  · exact areDigits.areDigits c (List.mem_of_mem_take member)
  · rwa [List.head?_take, if_neg positive.ne']
  · simpa using inside
  · exact areDigits.areDigits c (List.mem_of_mem_drop member)

theorem wellFormed_some {negative : Bool} {integer fraction : List Char} {exponent : Option Int}
    (isInteger : IntegerDigits integer) (isFraction : Digits fraction) :
    (⟨negative, integer, some fraction, exponent⟩ : Numeral).WellFormed where
  integer := isInteger
  fraction digits isDigits := by
    obtain rfl : fraction = digits := Option.some.inj isDigits
    exact isFraction

/-- A magnitude is written as a numeral without a sign. -/
theorem exists_numeral_of_layout (layout : Layout) (point : GridPoint) :
    ∃ numeral : Numeral, numeral.WellFormed ∧ numeral.negative = false ∧
      numeral.text = layout.render point := by
  by_cases isZero : point.digits = 0
  · refine ⟨⟨false, ['0'], some ['0'], none⟩,
      wellFormed_some (integerDigits_toDigits 0) digits_zero, rfl, ?_⟩
    simp [Layout.render, isZero, Numeral.text, Numeral.fractionText, Numeral.exponentText]
  · have areDigits : Digits (Layout.digitsOf point) := digits_toDigits point.digits
    have noZero : (Layout.digitsOf point).head? ≠ some '0' := head_toDigits isZero
    simp only [Layout.render, if_neg isZero]
    generalize Layout.digitsOf point = digits at areDigits noZero
    split
    · -- an integer
      refine ⟨⟨false, digits ++ List.replicate point.power.toNat '0', some ['0'], none⟩,
        wellFormed_some (integerDigits_append_zeros areDigits noZero _) digits_zero, rfl, ?_⟩
      simp [Numeral.text, Numeral.fractionText, Numeral.exponentText]
    · rename_i noInteger
      split
      · -- the point stands among the digits
        rename_i among
        let places := (digits.length + point.power).toNat
        have positive : 0 < places := by omega
        have inside : places < digits.length := by omega
        rcases digits_split areDigits noZero positive inside with ⟨isInteger, isFraction⟩
        refine ⟨⟨false, digits.take places, some (digits.drop places), none⟩,
          wellFormed_some isInteger isFraction, rfl, ?_⟩
        simp [places, Numeral.text, Numeral.fractionText, Numeral.exponentText]
      · split
        · -- the point stands in front of the digits
          let zeros := List.replicate (-(digits.length + point.power)).toNat '0'
          have isFraction : Digits (zeros ++ digits) := by
            refine ⟨by simp [areDigits.notEmpty], fun c member => ?_⟩
            rcases List.mem_append.1 member with isZero | isDigit
            · exact isDigit_of_mem_zeros isZero
            · exact areDigits.areDigits c isDigit
          refine ⟨⟨false, ['0'], some (zeros ++ digits), none⟩,
            wellFormed_some (integerDigits_toDigits 0) isFraction, rfl, ?_⟩
          simp [zeros, Numeral.text, Numeral.fractionText, Numeral.exponentText]
        · -- an exponent tells where the point is
          generalize (digits.length : Int) + point.power - 1 = exponent
          match digits, areDigits, noZero with
          | [digit], areDigits, noZero =>
              refine ⟨⟨false, [digit], none, some exponent⟩,
                ⟨integerDigits_of_head areDigits noZero, by simp⟩, rfl, ?_⟩
              simp [Numeral.text, Numeral.fractionText, Numeral.exponentText]
          | digit :: next :: others, areDigits, noZero =>
              rcases digits_split areDigits noZero Nat.one_pos (by simp) with
                ⟨isInteger, isFraction⟩
              refine ⟨⟨false, [digit], some (next :: others), some exponent⟩,
                wellFormed_some isInteger isFraction, rfl, ?_⟩
              simp [Numeral.text, Numeral.fractionText, Numeral.exponentText]

/-- Every number is written as a numeral. -/
theorem exists_numeral (number : JsonNumber) :
    ∃ numeral : Numeral, numeral.WellFormed ∧ numeral.text = renderNumber number := by
  cases number with
  | integer value => exact ⟨.ofInt value, wellFormed_ofInt value, text_ofInt value⟩
  | binary64 value =>
      rcases exists_numeral_of_layout numberLayout value.shortest with
        ⟨numeral, wellFormed, positive, isText⟩
      refine ⟨{ numeral with negative := value.negative },
        ⟨wellFormed.integer, wellFormed.fraction⟩, ?_⟩
      simp only [renderNumber, ← isText, Numeral.text, positive]
      cases value.negative <;> rfl

/-- What the text of a number is read as; nothing if it is too large. -/
def rereadNumber (number : JsonNumber) : Option JsonNumber :=
  (readNumeral (renderNumber number)).bind fun read => read.1.value?

/-- The text of a number is read to its end. -/
theorem readNumeral_renderNumber (number : JsonNumber) {rest : List Char} (follows : Follows rest) :
    ∃ numeral, readNumeral (renderNumber number ++ rest) = some (numeral, rest) ∧
      numeral.value? = rereadNumber number := by
  rcases exists_numeral number with ⟨numeral, wellFormed, isText⟩
  have read := readNumeral_append wellFormed follows_nil
  rw [List.append_nil, isText] at read
  refine ⟨numeral, ?_, by simp [rereadNumber, read]⟩
  rw [← isText, readNumeral_append wellFormed follows]

/-! ### The value of an integer -/

theorem le_ofDigitChars (digits : List Char) (n : Nat) : n ≤ Nat.ofDigitChars 10 digits n := by
  induction digits generalizing n with
  | nil => exact Nat.le_refl n
  | cons digit digits ih =>
      have longer := ih (10 * n + (digit.toNat - '0'.toNat))
      rw [Nat.ofDigitChars_cons]
      omega

/-- Digits are collected as long as their value fits. -/
theorem collect_eq (digits : List Char) : ∀ n : Nat,
    Nat.ofDigitChars 10 digits n ≤ Numeral.maxSignificand →
      Numeral.collect n digits = (Nat.ofDigitChars 10 digits n, 0) := by
  induction digits with
  | nil => exact fun n _ => rfl
  | cons digit digits ih =>
      intro n fits
      have same : n * 10 + Numeral.digitValue digit = 10 * n + (digit.toNat - '0'.toNat) := by
        rw [Numeral.digitValue, Nat.mul_comm]
      rw [Nat.ofDigitChars_cons] at fits
      have longer := Nat.le_trans (le_ofDigitChars digits _) fits
      rw [Numeral.collect, same, if_pos longer, ih _ fits, Nat.ofDigitChars_cons]

/-- An integer of 64 bits, with or without a sign, is read as it was written. -/
theorem rereadNumber_integer {value : Int} (least : Int64.minValue.toInt ≤ value)
    (greatest : value ≤ Numeral.maxSignificand) :
    rereadNumber (.integer value) = some (.integer value) := by
  have read := readNumeral_append (wellFormed_ofInt value) follows_nil
  rw [List.append_nil, text_ofInt] at read
  have digits : Nat.ofDigitChars 10 (Nat.toDigits 10 value.natAbs) 0 = value.natAbs :=
    Nat.ofDigitChars_ten_toDigits
  have fits : value.natAbs ≤ Numeral.maxSignificand := by
    have bound : Int64.minValue.toInt = -9223372036854775808 := by decide
    have size : Numeral.maxSignificand = 18446744073709551615 := by decide
    omega
  have collected := collect_eq (Nat.toDigits 10 value.natAbs) 0 (by rwa [digits])
  rw [digits] at collected
  simp only [rereadNumber, renderNumber, read, Option.bind_some, Numeral.value?, Numeral.ofInt,
    collected]
  by_cases negative : value < 0
  · have isValue : -(value.natAbs : Int) = value := by omega
    have positive : 0 < value.natAbs := by omega
    rw [if_neg (by simp [negative]), isValue, if_pos ⟨trivial, positive, least⟩]
  · have isValue : (value.natAbs : Int) = value := by omega
    rw [if_pos (by simp [negative]), isValue]

end AvControl.Json
