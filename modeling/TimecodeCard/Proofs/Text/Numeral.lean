import Mathlib.Tactic
import TimecodeCard.Text.Decimal

/-!
# Which texts are numbers

`Decimal.Denotes` is the grammar of a number as clients write it: a row of ASCII digits with any
count of leading zeros (`Decimal.IsRow`), and one plus sign in front or none. The number of a row
is the one which the library gives to its digits, `Nat.ofDigitChars`.

The main result is `Decimal.readUnsigned_eq_ok_iff`: reading accepts exactly the texts of the
grammar whose number is within the limit. The limit is checked at each digit and not at the end,
which is the same because further digits never make a number smaller (`Decimal.le_ofDigitChars`).
-/

namespace TimecodeCard.Decimal

variable {c : Char} {cs : List Char} {limit read n : Nat}

/-! ## The grammar -/

/-- Whether the text is one or more ASCII digits, which make up the number. -/
structure IsRow (cs : List Char) (n : Nat) : Prop where
  ne_nil : cs ≠ []
  isDigit : ∀ c ∈ cs, c.isDigit = true
  value_eq : Nat.ofDigitChars 10 cs 0 = n

/-- Whether the text stands for the number. -/
inductive Denotes : List Char → Nat → Prop
  | plain {cs : List Char} {n : Nat} (hrow : IsRow cs n) : Denotes cs n
  | signed {cs : List Char} {n : Nat} (hrow : IsRow cs n) : Denotes ('+' :: cs) n

lemma Denotes.not_mem (h : Denotes cs n) (hdigit : c.isDigit = false) (hsign : c ≠ '+') :
    c ∉ cs := by
  intro hmem
  cases h with
  | plain hrow =>
      have hother := hrow.isDigit c hmem
      rw [hdigit] at hother
      exact nomatch hother
  | signed hrow =>
      rcases List.mem_cons.mp hmem with heq | hmem
      · exact hsign heq
      · have hother := hrow.isDigit c hmem
        rw [hdigit] at hother
        exact nomatch hother

/-! ## Digits -/

lemma digit?_of_isDigit (h : c.isDigit = true) : digit? c = some (c.toNat - '0'.toNat) := by
  rw [digit?, if_pos]
  simpa [Char.isDigit, Char.le_def] using h

lemma digit?_of_not_isDigit (h : ¬ c.isDigit = true) : digit? c = none := by
  rw [digit?, if_neg]
  simpa [Char.isDigit, Char.le_def] using h

lemma le_ofDigitChars (cs : List Char) (read : Nat) : read ≤ Nat.ofDigitChars 10 cs read := by
  induction cs generalizing read with
  | nil => exact le_rfl
  | cons c cs ih =>
      rw [Nat.ofDigitChars_cons]
      exact le_trans (by omega) (ih _)

/-! ## Reading -/

/-- The induction goes along the digits, with the number read so far within the limit. -/
lemma readDigits_eq_ok_iff (hread : read ≤ limit) :
    readDigits limit read cs = .ok n
      ↔ (∀ c ∈ cs, c.isDigit = true) ∧ Nat.ofDigitChars 10 cs read = n ∧ n ≤ limit := by
  induction cs generalizing read with
  | nil =>
      simp only [readDigits, Except.ok.injEq, List.not_mem_nil, false_implies, implies_true,
        true_and, Nat.ofDigitChars_nil]
      constructor
      · rintro rfl
        exact ⟨rfl, hread⟩
      · exact And.left
  | cons c cs ih =>
      rw [readDigits, List.forall_mem_cons, Nat.ofDigitChars_cons, Nat.mul_comm 10 read]
      by_cases hdigit : c.isDigit = true
      · rw [digit?_of_isDigit hdigit]
        simp only [hdigit, true_and]
        by_cases hover : limit < read * 10 + (c.toNat - '0'.toNat)
        · rw [if_pos hover]
          simp only [reduceCtorEq, false_iff]
          rintro ⟨-, rfl, hle⟩
          exact absurd (lt_of_lt_of_le hover (le_ofDigitChars cs _)) (Nat.not_lt.mpr hle)
        · rw [if_neg hover]
          exact ih (Nat.not_lt.mp hover)
      · rw [digit?_of_not_isDigit hdigit]
        simp only [hdigit, reduceCtorEq, Bool.false_eq_true, false_and]

lemma readDigits_zero_eq_ok_iff (hne : cs ≠ []) :
    readDigits limit 0 cs = .ok n ↔ IsRow cs n ∧ n ≤ limit := by
  rw [readDigits_eq_ok_iff (Nat.zero_le _)]
  constructor
  · rintro ⟨hdigit, hvalue, hle⟩
    exact ⟨⟨hne, hdigit, hvalue⟩, hle⟩
  · rintro ⟨hrow, hle⟩
    exact ⟨hrow.isDigit, hrow.value_eq, hle⟩

/-- **Reading a number.** It accepts the texts of the grammar whose number is within the limit, and
no other text. -/
theorem readUnsigned_eq_ok_iff :
    readUnsigned limit cs = .ok n ↔ Denotes cs n ∧ n ≤ limit := by
  unfold readUnsigned
  split
  · simp only [reduceCtorEq, false_iff]
    rintro ⟨⟨hrow⟩, -⟩
    exact hrow.ne_nil rfl
  · next rest =>
      by_cases hrest : rest = []
      · subst hrest
        simp only [List.isEmpty_nil, if_true, reduceCtorEq, false_iff]
        rintro ⟨hrow | hrow, -⟩
        · exact absurd (hrow.isDigit '+' (by simp)) (by decide)
        · exact hrow.ne_nil rfl
      · rw [if_neg (by simpa using hrest), readDigits_zero_eq_ok_iff hrest]
        refine and_congr_left fun _ => ⟨.signed, ?_⟩
        rintro (hrow | hrow)
        · exact absurd (hrow.isDigit '+' (by simp)) (by decide)
        · exact hrow
  · next cs hne hsign =>
      rw [readDigits_zero_eq_ok_iff hne]
      refine and_congr_left fun _ => ⟨.plain, ?_⟩
      rintro (hrow | hrow)
      · exact hrow
      · exact absurd rfl (hsign _)

/-! ## Writing two digits -/

lemma denotes_pair (h : n < 100) : Denotes (pair n) n := by
  have htens : n / 10 < 10 := by omega
  have hunits : n % 10 < 10 := Nat.mod_lt _ (by decide)
  refine .plain ⟨List.cons_ne_nil _ _, ?_, ?_⟩
  · simp [pair, Nat.isDigit_digitChar, htens, hunits]
  · simp only [pair, Nat.ofDigitChars_cons, Nat.ofDigitChars_nil,
      Nat.toNat_digitChar_of_lt_ten htens, Nat.toNat_digitChar_of_lt_ten hunits]
    show 10 * (10 * 0 + (48 + n / 10 - 48)) + (48 + n % 10 - 48) = n
    omega

end TimecodeCard.Decimal
