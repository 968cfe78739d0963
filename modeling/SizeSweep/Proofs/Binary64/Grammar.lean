import Mathlib.Data.Int.Notation
import Mathlib.Data.List.TakeWhile
import Mathlib.Tactic.Common
import SizeSweep.Binary64.Reading

/-!
The texts that are read as finite numbers.  They are made of digits, signs, points and the letter
of the exponent, and a digit stands behind the sign and the point in front.
-/

namespace SizeSweep.Binary64

def isNumeralChar (c : Char) : Bool :=
  c.isDigit || c = '+' || c = '-' || c = '.' || c = 'e' || c = 'E'

/-- Whether a character can stand in front of the digits of a numeral. -/
def isLeading (c : Char) : Bool := c = '+' || c = '-' || c = '.'

/-- The characters of a numeral, the first digit of which comes right behind a sign and a point. -/
structure IsNumeral (cs : List Char) : Prop where
  chars : ∀ c ∈ cs, isNumeralChar c = true
  digit : ∃ front d rest, cs = front ++ d :: rest ∧ (∀ c ∈ front, isLeading c = true) ∧
    d.isDigit = true

section Grammar

variable {cs : List Char} {c : Char}

lemma isNumeralChar_of_isDigit (h : c.isDigit = true) : isNumeralChar c = true := by
  simp [isNumeralChar, h]

/-- The characters of numerals are plain ones, and no colon is among them. -/
lemma toNat_of_isNumeralChar (h : isNumeralChar c = true) :
    43 ≤ c.toNat ∧ c.toNat ≤ 101 ∧ c.toNat ≠ 58 := by
  simp only [isNumeralChar, Bool.or_eq_true, decide_eq_true_eq] at h
  rcases h with ((((h | rfl) | rfl) | rfl) | rfl) | rfl
  · simp only [Char.isDigit, Bool.and_eq_true, decide_eq_true_eq, UInt32.le_iff_toNat_le] at h
    change 48 ≤ c.toNat ∧ c.toNat ≤ 57 at h
    omega
  all_goals decide

lemma isDigit_of_natural? {n : ℕ} (h : natural? cs = some n) : ∀ c ∈ cs, c.isDigit = true := by
  unfold natural? at h
  split_ifs at h with hcs
  simp only [Bool.or_eq_true, not_or] at hcs
  simpa using hcs.2

/-- What is split off in front is a sign, if anything. -/
lemma splitSign_cases (cs : List Char) :
    cs = (splitSign cs).2 ∨ ∃ sign, (sign = '-' ∨ sign = '+') ∧ cs = sign :: (splitSign cs).2 := by
  unfold splitSign
  split
  · exact Or.inr ⟨'-', Or.inl rfl, rfl⟩
  · exact Or.inr ⟨'+', Or.inr rfl, rfl⟩
  · exact Or.inl rfl

lemma isNumeralChar_of_splitSign (h : ∀ c ∈ (splitSign cs).2, isNumeralChar c = true) :
    ∀ c ∈ cs, isNumeralChar c = true := by
  rcases splitSign_cases cs with hsame | ⟨sign, hsign, hsplit⟩
  · rwa [hsame]
  · rw [hsplit]
    refine List.forall_mem_cons.2 ⟨?_, h⟩
    rcases hsign with rfl | rfl <;> decide

lemma isNumeralChar_of_exponent? {e : ℤ} (h : exponent? cs = some e) :
    ∀ c ∈ cs, isNumeralChar c = true := by
  rcases cs with _ | ⟨mark, rest⟩
  · simp
  · rw [exponent?] at h
    split_ifs at h with hmark
    rcases hsign : splitSign rest with ⟨negative, digits⟩
    rcases hdigits : natural? digits with _ | n
    · simp [hsign, hdigits] at h
    · refine List.forall_mem_cons.2 ⟨?_, fun c hc => ?_⟩
      · rcases (by simpa using hmark : mark = 'e' ∨ mark = 'E') with rfl | rfl <;> decide
      · refine isNumeralChar_of_splitSign ?_ c hc
        rw [hsign]
        exact fun c hc => isNumeralChar_of_isDigit (isDigit_of_natural? hdigits c hc)

/-- Digits with a point among them are a numeral, with an exponent behind them. -/
lemma isNumeral_point {whole fraction rest : List Char} (hne : whole = [] → fraction ≠ [])
    (hwhole : ∀ c ∈ whole, c.isDigit = true) (hfraction : ∀ c ∈ fraction, c.isDigit = true)
    (hrest : ∀ c ∈ rest, isNumeralChar c = true) :
    IsNumeral (whole ++ '.' :: (fraction ++ rest)) where
  chars := by
    simp only [List.forall_mem_append, List.forall_mem_cons]
    exact ⟨fun c hc => isNumeralChar_of_isDigit (hwhole c hc), by decide,
      fun c hc => isNumeralChar_of_isDigit (hfraction c hc), hrest⟩
  digit := by
    rcases whole with _ | ⟨d, whole⟩
    · obtain ⟨d, ds, rfl⟩ := List.exists_cons_of_ne_nil (hne rfl)
      exact ⟨['.'], d, ds ++ rest, rfl, by simp [isLeading], hfraction d (List.mem_cons_self ..)⟩
    · exact ⟨[], d, _, rfl, by simp, hwhole d (List.mem_cons_self ..)⟩

lemma isNumeral_whole {whole rest : List Char} (hne : whole ≠ [])
    (hwhole : ∀ c ∈ whole, c.isDigit = true) (hrest : ∀ c ∈ rest, isNumeralChar c = true) :
    IsNumeral (whole ++ rest) where
  chars := List.forall_mem_append.2
    ⟨fun c hc => isNumeralChar_of_isDigit (hwhole c hc), hrest⟩
  digit := by
    obtain ⟨d, ds, rfl⟩ := List.exists_cons_of_ne_nil hne
    exact ⟨[], d, _, rfl, by simp, hwhole d (List.mem_cons_self ..)⟩

lemma isNumeral_of_numeral? {value : ℕ × ℤ} (h : numeral? cs = some value) : IsNumeral cs := by
  have hdigits : ∀ cs : List Char, ∀ c ∈ cs.takeWhile Char.isDigit, c.isDigit = true :=
    fun cs c hc => List.mem_takeWhile_imp hc
  have hwhole := hdigits cs
  have hsplit : cs = cs.takeWhile Char.isDigit ++ cs.dropWhile Char.isDigit :=
    List.takeWhile_append_dropWhile.symm
  unfold numeral? at h
  generalize cs.takeWhile Char.isDigit = whole at hsplit hwhole h
  generalize cs.dropWhile Char.isDigit = afterWhole at hsplit h
  subst hsplit
  dsimp only at h
  split at h
  · rename_i tail
    dsimp only at h
    split_ifs at h with hempty
    obtain ⟨e, hexponent, -⟩ := Option.map_eq_some_iff.1 h
    have hne : whole = [] → tail.takeWhile Char.isDigit ≠ [] := by
      simpa [-List.takeWhile_eq_nil_iff] using hempty
    have hpoint := isNumeral_point hne hwhole (hdigits tail) (isNumeralChar_of_exponent? hexponent)
    rwa [List.takeWhile_append_dropWhile] at hpoint
  · dsimp only at h
    split_ifs at h with hempty
    obtain ⟨e, hexponent, -⟩ := Option.map_eq_some_iff.1 h
    exact isNumeral_whole (by simpa using hempty) hwhole (isNumeralChar_of_exponent? hexponent)

lemma isNumeral_of_splitSign (h : IsNumeral (splitSign cs).2) : IsNumeral cs where
  chars := isNumeralChar_of_splitSign h.chars
  digit := by
    obtain ⟨front, d, rest, hcs, hfront, hd⟩ := h.digit
    rcases splitSign_cases cs with hsame | ⟨sign, hsign, hsplit⟩
    · exact ⟨front, d, rest, hsame.trans hcs, hfront, hd⟩
    · refine ⟨sign :: front, d, rest, by rw [hsplit, hcs]; rfl, ?_, hd⟩
      refine List.forall_mem_cons.2 ⟨?_, hfront⟩
      rcases hsign with rfl | rfl <;> decide

/-- **The text of a finite number is a numeral.** -/
theorem isNumeral_of_ofText? {text : String} {x : Binary64} (h : ofText? text = some x)
    (hfinite : x.isFinite = true) : IsNumeral text.toList := by
  unfold ofText? at h
  rcases hsign : splitSign text.toList with ⟨negative, cs⟩
  simp only [hsign] at h
  split_ifs at h with hnan hinf
  · obtain rfl := Option.some.inj h
    cases negative <;> exact absurd hfinite (by decide)
  · obtain rfl := Option.some.inj h
    cases negative <;> exact absurd hfinite (by decide)
  · obtain ⟨value, hvalue, -⟩ := Option.map_eq_some_iff.1 h
    exact isNumeral_of_splitSign (hsign ▸ isNumeral_of_numeral? hvalue)

end Grammar

end SizeSweep.Binary64
