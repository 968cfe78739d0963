import Mathlib.Data.List.TakeWhile
import Mathlib.Tactic.Common
import SizeSweep.Proofs.Binary64.Decimals

/-!
Numbers as texts, read back.  A written number has its shortest digits in one of three shapes, and
each shape is a numeral of the same value; so reading gives back the number itself, down to its
sign, and only the not-a-numbers become the canonical one.
-/

namespace SizeSweep

namespace Binary64

/-! ### Digits -/

section Digits

variable {ds es : List Char} {n : ℕ}

lemma digitsValue_toDigits (n : ℕ) : digitsValue 0 (Nat.toDigits 10 n) = n :=
  Nat.ofDigitChars_ten_toDigits

lemma digitsValue_zeros_append (n : ℕ) (ds : List Char) :
    digitsValue 0 (List.replicate n '0' ++ ds) = digitsValue 0 ds := by
  have h := Nat.ofDigitChars_append (b := 10) (l := List.replicate n '0') (m := ds) 0
  rw [Nat.ofDigitChars_replicate_zero, Nat.mul_zero] at h
  exact h

lemma digitsValue_append_zeros (ds : List Char) (n : ℕ) :
    digitsValue 0 (ds ++ List.replicate n '0') = 10 ^ n * digitsValue 0 ds := by
  have h := Nat.ofDigitChars_append (b := 10) (l := ds) (m := List.replicate n '0') 0
  rw [Nat.ofDigitChars_replicate_zero] at h
  exact h

lemma isDigit_toDigits {c : Char} (h : c ∈ Nat.toDigits 10 n) : c.isDigit = true :=
  Nat.isDigit_of_mem_toDigits (by decide) (by decide) h

lemma natural?_of_digits (hne : ds ≠ []) (h : ∀ c ∈ ds, c.isDigit = true) :
    natural? ds = some (digitsValue 0 ds) := by
  have hempty : ds.isEmpty = false := by simpa using hne
  have hany : (ds.any fun c => !c.isDigit) = false := by simpa using h
  simp [natural?, hempty, hany]

lemma natural?_toDigits (n : ℕ) : natural? (Nat.toDigits 10 n) = some n := by
  rw [natural?_of_digits Nat.toDigits_ne_nil fun c hc => isDigit_toDigits hc,
    digitsValue_toDigits]

/-- The zeros dropped at the end of a digit text are a power of ten. -/
lemma exists_dropTrailingZeros (ds : List Char) :
    ∃ k, ds = dropTrailingZeros ds ++ List.replicate k '0' := by
  unfold dropTrailingZeros
  have hsplit := congrArg List.reverse (List.takeWhile_append_dropWhile (p := (· = '0'))
    (l := ds.reverse))
  rw [List.reverse_append, List.reverse_reverse] at hsplit
  have hzeros : ds.reverse.takeWhile (· = '0') =
      List.replicate (ds.reverse.takeWhile (· = '0')).length '0' := by
    refine List.eq_replicate_of_mem fun c hc => ?_
    simpa using List.mem_takeWhile_imp hc
  refine ⟨(ds.reverse.takeWhile (· = '0')).length, ?_⟩
  conv_lhs => rw [← hsplit, hzeros, List.reverse_replicate]

end Digits

/-! ### Numerals -/

section Numerals

variable {whole fraction rest : List Char}

lemma takeWhile_digits (hwhole : ∀ c ∈ whole, c.isDigit = true)
    (hrest : ∀ c ∈ rest.head?, c.isDigit = false) :
    (whole ++ rest).takeWhile Char.isDigit = whole ∧
      (whole ++ rest).dropWhile Char.isDigit = rest := by
  rw [List.takeWhile_append_of_pos hwhole, List.dropWhile_append_of_pos hwhole]
  rcases rest with _ | ⟨c, rest⟩
  · simp
  · have hc : c.isDigit = false := hrest c rfl
    simp [List.takeWhile_cons_of_neg, List.dropWhile_cons_of_neg, hc]

lemma numeral?_whole (hne : whole ≠ []) (hwhole : ∀ c ∈ whole, c.isDigit = true)
    (hrest : ∀ c ∈ rest.head?, c.isDigit = false ∧ c ≠ '.') :
    numeral? (whole ++ rest) = (exponent? rest).map fun e => (digitsValue 0 whole, e) := by
  obtain ⟨htake, hdrop⟩ := takeWhile_digits hwhole fun c hc => (hrest c hc).1
  have hempty : whole.isEmpty = false := by simpa using hne
  unfold numeral?
  simp only [htake, hdrop]
  rcases rest with _ | ⟨c, rest⟩
  · simp [hempty]
  · have hc : c ≠ '.' := (hrest c rfl).2
    simp [hempty, hc]

lemma numeral?_point (hne : whole ≠ []) (hwhole : ∀ c ∈ whole, c.isDigit = true)
    (hfraction : ∀ c ∈ fraction, c.isDigit = true)
    (hrest : ∀ c ∈ rest.head?, c.isDigit = false) :
    numeral? (whole ++ '.' :: (fraction ++ rest)) =
      (exponent? rest).map fun e =>
        (digitsValue 0 (whole ++ fraction), e - (fraction.length : ℤ)) := by
  have hpoint : ∀ c ∈ ('.' :: (fraction ++ rest)).head?, c.isDigit = false := by
    intro c hc
    obtain rfl : '.' = c := by simpa using hc
    decide
  obtain ⟨htake, hdrop⟩ := takeWhile_digits hwhole hpoint
  obtain ⟨htake', hdrop'⟩ := takeWhile_digits hfraction hrest
  have hempty : whole.isEmpty = false := by simpa using hne
  unfold numeral?
  simp only [htake, hdrop, htake', hdrop', hempty]
  simp

lemma exponent?_toString (e : ℤ) : exponent? ('e' :: (toString e).toList) = some e := by
  have hsign : splitSign (toString e).toList =
      (decide (e < 0), Nat.toDigits 10 e.natAbs) := by
    rw [Int.toString_eq_repr, Int.repr_eq_if]
    split_ifs with h
    · have hne : ∀ c ∈ Nat.toDigits 10 e.toNat, c ≠ '-' ∧ c ≠ '+' := by
        intro c hc
        have := isDigit_toDigits hc
        constructor <;> rintro rfl <;> simp at this
      rw [Nat.toList_repr, show e.natAbs = e.toNat by omega]
      rcases hds : Nat.toDigits 10 e.toNat with _ | ⟨c, ds⟩
      · exact absurd hds Nat.toDigits_ne_nil
      · rw [hds] at hne
        obtain ⟨hminus, hplus⟩ := hne c (List.mem_cons_self ..)
        simp [splitSign, hminus, hplus, h]
    · rw [String.toList_append, Nat.toList_repr, show e.natAbs = (-e).toNat by omega]
      simp [splitSign, not_le.1 h]
  have hvalue : (if decide (e < 0) then -(e.natAbs : ℤ) else e.natAbs) = e := by
    simp only [decide_eq_true_eq]
    split_ifs <;> omega
  rw [exponent?, if_pos (by simp), hsign]
  simp only [natural?_toDigits]
  exact congrArg some hvalue

end Numerals

/-! ### Placed digits -/

section Place

variable {ds : List Char} {layout : Layout} {e : ℤ}

lemma decimalUnits_shift (n k : ℕ) (scale : ℤ) :
    decimalUnits (10 ^ k * n) scale = decimalUnits n (scale + k) := by
  unfold decimalUnits
  rw [zpow_add₀ (by norm_num), zpow_natCast]
  push_cast
  ring

/-- The digits before the point and after it, with the exponent behind them, are one decimal. -/
def Denotes (cs : List Char) (x : ℚ) : Prop :=
  ∃ n scale, numeral? cs = some (n, scale) ∧ decimalUnits n scale = x

lemma denotes_whole {whole : List Char} (rest : List Char) {scale : ℤ} (hne : whole ≠ [])
    (hwhole : ∀ c ∈ whole, c.isDigit = true)
    (hrest : ∀ c ∈ rest.head?, c.isDigit = false ∧ c ≠ '.') (hscale : exponent? rest = some scale) :
    Denotes (whole ++ rest) (decimalUnits (digitsValue 0 whole) scale) := by
  refine ⟨_, _, ?_, rfl⟩
  rw [numeral?_whole hne hwhole hrest, hscale]
  rfl

lemma denotes_point (whole fraction rest : List Char) {scale : ℤ} (hne : whole ≠ [])
    (hwhole : ∀ c ∈ whole, c.isDigit = true) (hfraction : ∀ c ∈ fraction, c.isDigit = true)
    (hrest : ∀ c ∈ rest.head?, c.isDigit = false) (hscale : exponent? rest = some scale) :
    Denotes (whole ++ '.' :: (fraction ++ rest))
      (decimalUnits (digitsValue 0 (whole ++ fraction)) (scale - fraction.length)) := by
  refine ⟨_, _, ?_, rfl⟩
  rw [numeral?_point hne hwhole hfraction hrest, hscale]
  rfl

lemma isDigit_zeros {n : ℕ} : ∀ c ∈ List.replicate n '0', c.isDigit = true := by
  intro c hc
  rw [List.eq_of_mem_replicate hc]
  decide

/-- Digits all to the right of the point. -/
lemma denotes_small (hds : ∀ c ∈ ds, c.isDigit = true) (he : e < 0) :
    Denotes ('0' :: '.' :: List.replicate ((-e).toNat - 1) '0' ++ ds)
      (decimalUnits (digitsValue 0 ds) (e + 1 - ds.length)) := by
  set zeros := (-e).toNat - 1 with hzeros
  have hfraction : ∀ c ∈ List.replicate zeros '0' ++ ds, c.isDigit = true :=
    List.forall_mem_append.2 ⟨isDigit_zeros, hds⟩
  have h := denotes_point ['0'] _ [] (by simp) (by simp)
    hfraction (by simp) rfl
  have hvalue : digitsValue 0 (['0'] ++ (List.replicate zeros '0' ++ ds)) = digitsValue 0 ds :=
    (digitsValue_zeros_append 1 _).trans (digitsValue_zeros_append zeros ds)
  have hscale : (0 : ℤ) - (List.replicate zeros '0' ++ ds).length = e + 1 - ds.length := by
    simp only [List.length_append, List.length_replicate]
    omega
  rw [hvalue, hscale] at h
  simpa using h

/-- Digits all to the left of the point, which may be left out. -/
lemma denotes_large (hne : ds ≠ []) (hds : ∀ c ∈ ds, c.isDigit = true) (n : ℕ)
    (keepsPoint : Bool) :
    Denotes (if keepsPoint then ds ++ List.replicate n '0' ++ ['.', '0']
        else ds ++ List.replicate n '0')
      (decimalUnits (digitsValue 0 ds) n) := by
  have hwhole : ∀ c ∈ ds ++ List.replicate n '0', c.isDigit = true :=
    List.forall_mem_append.2 ⟨hds, isDigit_zeros⟩
  have hne' : ds ++ List.replicate n '0' ≠ [] := by simp [hne]
  split_ifs
  · have h := denotes_point _ ['0'] [] hne' hwhole
      (by simp) (by simp) rfl
    have hvalue : digitsValue 0 (ds ++ List.replicate n '0' ++ ['0']) =
        10 ^ (n + 1) * digitsValue 0 ds := by
      rw [List.append_assoc, show ['0'] = List.replicate 1 '0' from rfl,
        List.replicate_append_replicate, digitsValue_append_zeros]
    have hscale : (0 : ℤ) - (['0'] : List Char).length + (n + 1 : ℕ) = n := by
      simp
    rw [hvalue, decimalUnits_shift, hscale] at h
    exact h
  · have h := denotes_whole [] hne' hwhole (by simp) rfl
    rw [digitsValue_append_zeros, decimalUnits_shift, zero_add, List.append_nil] at h
    exact h

/-- Digits on both sides of the point. -/
lemma denotes_split {n : ℕ} (hds : ∀ c ∈ ds, c.isDigit = true) (hpos : 0 < n)
    (hlt : n < ds.length) :
    Denotes (ds.take n ++ '.' :: ds.drop n)
      (decimalUnits (digitsValue 0 ds) (n - ds.length)) := by
  have hne : ds.take n ≠ [] := by
    rw [← List.length_pos_iff, List.length_take]
    omega
  have h := denotes_point _ (ds.drop n) [] hne
    (fun c hc => hds c (List.mem_of_mem_take hc)) (fun c hc => hds c (List.mem_of_mem_drop hc))
    (by simp) rfl
  have hscale : (0 : ℤ) - (ds.drop n).length = n - ds.length := by
    rw [List.length_drop]
    omega
  rw [List.take_append_drop, hscale] at h
  simpa using h

/-- One digit before the point, and an exponent. -/
lemma denotes_scientific (hne : ds ≠ []) (hds : ∀ c ∈ ds, c.isDigit = true)
    (hlayout : ¬layout.positional e = true) :
    Denotes (layout.place ds e) (decimalUnits (digitsValue 0 ds) (e + 1 - ds.length)) := by
  have hmark : ∀ c ∈ ('e' :: (toString e).toList).head?, c.isDigit = false ∧ c ≠ '.' := by
    intro c hc
    obtain rfl : 'e' = c := by simpa using hc
    decide
  unfold Layout.place
  rw [if_neg hlayout]
  rcases ds with _ | ⟨first, _ | ⟨next, rest⟩⟩
  · exact absurd rfl hne
  · have h := denotes_whole _ hne hds hmark (exponent?_toString e)
    simpa using h
  · obtain ⟨hfirst, hrest⟩ := List.forall_mem_cons.1 hds
    have h := denotes_point [first] _ _ (by simp) (by simpa using hfirst) hrest
      (fun c hc => (hmark c hc).1) (exponent?_toString e)
    have hscale : e - ((next :: rest).length : ℤ) =
        e + 1 - ((first :: next :: rest).length : ℤ) := by
      simp only [List.length_cons]
      omega
    rw [hscale] at h
    simpa using h

/-- Every layout places the point where the exponent says. -/
theorem denotes_place (layout : Layout) (hne : ds ≠ []) (hds : ∀ c ∈ ds, c.isDigit = true)
    (e : ℤ) :
    Denotes (layout.place ds e) (decimalUnits (digitsValue 0 ds) (e + 1 - ds.length)) := by
  by_cases hpositional : layout.positional e = true
  · unfold Layout.place
    rw [if_pos hpositional]
    by_cases hneg : e < 0
    · rw [if_pos hneg]
      exact denotes_small hds hneg
    · rw [if_neg hneg]
      simp only
      rcases hdrop : ds.drop (e.toNat + 1) with _ | ⟨d, fraction⟩
      · -- all digits stand before the point, with zeros behind them
        have hle : ds.length ≤ e.toNat + 1 := List.drop_eq_nil_iff.1 hdrop
        have hscale : e + 1 - (ds.length : ℤ) = ((e.toNat + 1 - ds.length : ℕ) : ℤ) := by omega
        simp only [List.take_of_length_le hle, hscale]
        exact denotes_large hne hds _ _
      · -- the point stands between two digits
        have hlt : e.toNat + 1 < ds.length := by
          by_contra hle
          rw [List.drop_eq_nil_iff.2 (not_lt.1 hle)] at hdrop
          cases hdrop
        have h := denotes_split hds (Nat.succ_pos e.toNat) hlt
        have hscale : e + 1 - (ds.length : ℤ) = ((e.toNat + 1 : ℕ) : ℤ) - ds.length := by omega
        rw [hdrop] at h
        simpa only [hscale, Nat.sub_eq_zero_of_le hlt.le, List.replicate_zero,
          List.append_nil] using h
  · exact denotes_scientific hne hds hpositional

lemma exists_digit_of_place (layout : Layout) (e : ℤ) (hne : ds ≠ [])
    (hds : ∀ c ∈ ds, c.isDigit = true) :
    ∃ d tail, layout.place ds e = d :: tail ∧ d.isDigit = true := by
  rcases ds with _ | ⟨d, ds⟩
  · exact absurd rfl hne
  · have hd : d.isDigit = true := hds d (List.mem_cons_self ..)
    unfold Layout.place
    split
    · split
      · exact ⟨'0', _, rfl, rfl⟩
      · simp only [List.take_succ_cons, List.cons_append]
        split
        · split
          · exact ⟨d, _, rfl, hd⟩
          · exact ⟨d, _, rfl, hd⟩
        · exact ⟨d, _, rfl, hd⟩
    · rcases ds with _ | ⟨next, ds⟩
      · exact ⟨d, _, rfl, hd⟩
      · exact ⟨d, _, rfl, hd⟩

end Place

/-! ### Characters -/

section Characters

variable {c : Char} {ds : List Char} {layout : Layout} {e : ℤ} {x : Binary64}

/-- The characters of a written number: digits, the point, the minus sign and the letters of the
exponent and of the words. -/
def isNumberChar (c : Char) : Bool :=
  c.isDigit || ['.', '-', 'e', 'i', 'n', 'f', 'N', 'a'].contains c

lemma isNumberChar_of_isDigit (h : c.isDigit = true) : isNumberChar c = true := by
  rw [isNumberChar, h, Bool.true_or]

/-- They are ASCII characters after the comma, the quote and all blanks. -/
lemma toNat_of_isNumberChar (h : isNumberChar c = true) : 45 ≤ c.toNat ∧ c.toNat < 128 := by
  rcases Bool.or_eq_true_iff.1 h with hdigit | hmark
  · simp only [Char.isDigit, Bool.and_eq_true, decide_eq_true_eq, ge_iff_le,
      UInt32.le_iff_toNat_le, Char.reduceVal, UInt32.reduceToNat] at hdigit
    unfold Char.toNat
    omega
  · have hall : (['.', '-', 'e', 'i', 'n', 'f', 'N', 'a'].all
        fun c => 45 ≤ c.toNat && c.toNat < 128) = true := by decide
    simpa using List.all_eq_true.1 hall c (List.contains_iff_mem.1 hmark)

lemma isNumberChar_toString (hc : c ∈ (toString e).toList) : isNumberChar c = true := by
  rw [Int.toString_eq_repr, Int.repr_eq_if] at hc
  split_ifs at hc
  · rw [Nat.toList_repr] at hc
    exact isNumberChar_of_isDigit (isDigit_toDigits hc)
  · rw [String.toList_append, Nat.toList_repr, List.mem_append] at hc
    rcases hc with hc | hc
    · obtain rfl : c = '-' := by simpa using hc
      decide
    · exact isNumberChar_of_isDigit (isDigit_toDigits hc)

lemma isNumberChar_place (hds : ∀ c ∈ ds, c.isDigit = true) (hc : c ∈ layout.place ds e) :
    isNumberChar c = true := by
  have hpoint : isNumberChar '.' = true := by decide
  have hzero : isNumberChar '0' = true := by decide
  have hmark : isNumberChar 'e' = true := by decide
  have hdigits : ∀ c ∈ ds, isNumberChar c = true := fun c hc => isNumberChar_of_isDigit (hds c hc)
  have hzeros : ∀ n, ∀ c ∈ List.replicate n '0', isNumberChar c = true :=
    fun n c hc => isNumberChar_of_isDigit (isDigit_zeros c hc)
  have hexponent : ∀ c ∈ (toString e).toList, isNumberChar c = true :=
    fun c hc => isNumberChar_toString hc
  revert c
  unfold Layout.place
  split
  · split
    · simp only [List.cons_append, List.forall_mem_cons, List.forall_mem_append]
      exact ⟨hzero, hpoint, hzeros _, hdigits⟩
    · have hwhole : ∀ n k, ∀ c ∈ ds.take n ++ List.replicate k '0', isNumberChar c = true :=
        fun n k => List.forall_mem_append.2
          ⟨fun c hc => hdigits c (List.mem_of_mem_take hc), hzeros k⟩
      simp only
      split
      · split
        · exact List.forall_mem_append.2 ⟨hwhole _ _, by simp [hpoint, hzero]⟩
        · exact hwhole _ _
      · refine List.forall_mem_append.2 ⟨hwhole _ _, List.forall_mem_cons.2 ⟨hpoint, ?_⟩⟩
        exact fun c hc => hdigits c (List.mem_of_mem_drop hc)
  · have htail : ∀ c ∈ 'e' :: (toString e).toList, isNumberChar c = true :=
      List.forall_mem_cons.2 ⟨hmark, hexponent⟩
    simp only
    split
    · obtain ⟨hfirst, hrest⟩ := List.forall_mem_cons.1 hdigits
      exact List.forall_mem_append.2
        ⟨List.forall_mem_cons.2 ⟨hfirst, List.forall_mem_cons.2 ⟨hpoint, hrest⟩⟩, htail⟩
    · exact List.forall_mem_append.2 ⟨hdigits, htail⟩

end Characters

/-! ### Numbers read back -/

section ReadBack

variable {m : ℕ} {layout : Layout}

/-- A number with the canonical not-a-number in place of every other one. -/
def canonical (x : Binary64) : Binary64 := if x.isNaN then nan else x

lemma canonical_of_isNaN_eq_false {x : Binary64} (h : x.isNaN = false) : x.canonical = x := by
  simp [canonical, h]

@[simp] lemma isNaN_canonical (x : Binary64) : x.canonical.isNaN = x.isNaN := by
  unfold canonical
  split_ifs with h
  · rw [h]
    decide
  · rfl

@[simp] lemma canonical_canonical (x : Binary64) : x.canonical.canonical = x.canonical := by
  by_cases h : x.isNaN = true
  · have hnan : x.canonical = nan := if_pos h
    rw [hnan]
    decide
  · exact congrArg canonical (canonical_of_isNaN_eq_false (Bool.eq_false_iff.2 h))

@[simp] lemma render_canonical (layout : Layout) (x : Binary64) :
    layout.render x.canonical = layout.render x := by
  by_cases h : x.isNaN = true
  · simp [Layout.render, h]
  · rw [canonical_of_isNaN_eq_false (Bool.eq_false_iff.2 h)]

/-- Digits whose value, with the point behind the first one and scaled by `10 ^ e`, is read as the
magnitude `m`. -/
structure Spells (ds : List Char) (e : ℤ) (m : ℕ) : Prop where
  ne_nil : ds ≠ []
  digits : ∀ c ∈ ds, c.isDigit = true
  read : ∀ n scale, decimalUnits n scale = decimalUnits (digitsValue 0 ds) (e + 1 - ds.length) →
    decimalMagnitude n scale = m

lemma spells_zero : Spells ['0'] 0 0 where
  ne_nil := by simp
  digits := by simp
  read n scale h := by
    have hpow : (10 : ℚ) ^ scale ≠ 0 := zpow_ne_zero _ (by norm_num)
    have hvalue : digitsValue 0 ['0'] = 0 := rfl
    rw [hvalue] at h
    unfold decimalUnits at h
    rw [Nat.cast_zero, zero_mul, zero_mul, mul_eq_zero, mul_eq_zero] at h
    have hn : n = 0 := by simpa [hpow, unitsPerOne_pos.ne'] using h
    simp [decimalMagnitude, hn]

/-- The digits of the shortest decimal, without the zeros at their end. -/
lemma spells_shortest (hm : 0 < m) (hfin : m < infinityMagnitude) :
    let all := Nat.toDigits 10 (Decimal.shortest m).digits
    Spells (dropTrailingZeros all) ((Decimal.shortest m).scale + all.length - 1) m := by
  intro all
  set d := Decimal.shortest m with hd
  obtain ⟨k, hk⟩ := exists_dropTrailingZeros all
  set ds := dropTrailingZeros all with hds
  have hnearest : Nearest m (decimalUnits d.digits d.scale) := nearest_shortest hm
  have hvalue : 10 ^ k * digitsValue 0 ds = d.digits := by
    rw [← digitsValue_append_zeros, ← hk, digitsValue_toDigits]
  have hlength : all.length = ds.length + k := by
    rw [hk, List.length_append, List.length_replicate]
  refine ⟨?_, fun c hc => ?_, fun n scale h => ?_⟩
  · intro hnil
    have hzero : d.digits = 0 := by
      rw [← hvalue, hnil]
      rfl
    have hlow := (lowerMidpoint_ge_half hm).trans hnearest.bounds.1
    rw [hzero] at hlow
    simp only [decimalUnits, Nat.cast_zero, zero_mul] at hlow
    linarith
  · refine isDigit_toDigits (n := d.digits) ?_
    rw [show Nat.toDigits 10 d.digits = all from rfl, hk]
    exact List.mem_append_left _ hc
  · refine decimalMagnitude_of_nearest hm hfin ?_
    have hscale : d.scale + (all.length : ℤ) - 1 + 1 - ds.length = d.scale + k := by
      rw [hlength]
      omega
    rw [h, hscale, ← decimalUnits_shift, hvalue]
    exact hnearest

/-- The text of a finite magnitude is digits that spell it. -/
lemma exists_spells (layout : Layout) (hfin : m < infinityMagnitude) :
    ∃ ds e, layout.magnitudeText m = layout.place ds e ∧ Spells ds e m := by
  unfold Layout.magnitudeText
  rcases Nat.eq_zero_or_pos m with rfl | hm
  · exact ⟨_, _, rfl, spells_zero⟩
  · rw [if_neg hm.ne']
    exact ⟨_, _, rfl, spells_shortest hm hfin⟩

lemma ofText?_special (negative : Bool) :
    ofText? (String.ofList ((if negative then ['-'] else []) ++ "inf".toList)) =
      some (infinity negative) := by
  cases negative <;> decide

lemma toLower_of_isDigit {d : Char} (hd : d.isDigit = true) : d.toLower = d := by
  simp only [Char.isDigit, Bool.and_eq_true, decide_eq_true_eq, ge_iff_le,
    UInt32.le_iff_toNat_le, Char.reduceVal, UInt32.reduceToNat] at hd
  unfold Char.toLower
  rw [dif_neg]
  simp only [ge_iff_le, UInt32.le_iff_toNat_le, Char.reduceVal, UInt32.reduceToNat]
  omega

lemma splitSign_digit (negative : Bool) {d : Char} (tail : List Char) (hd : d.isDigit = true) :
    splitSign ((if negative then ['-'] else []) ++ d :: tail) = (negative, d :: tail) := by
  cases negative
  · have hminus : d ≠ '-' := by
      rintro rfl
      simp at hd
    have hplus : d ≠ '+' := by
      rintro rfl
      simp at hd
    simp [splitSign, hminus, hplus]
  · rfl

/-- A text with a digit in front, or after a minus sign, is read as a numeral. -/
lemma ofText?_numeral (negative : Bool) {d : Char} (tail : List Char) (hd : d.isDigit = true) :
    ofText? (String.ofList ((if negative then ['-'] else []) ++ d :: tail)) =
      (numeral? (d :: tail)).map fun (digits, scale) => ofDecimal negative digits scale := by
  -- no word begins with a digit
  have hword : ∀ c cs, c.isDigit = false →
      String.ofList ((d :: tail).map Char.toLower) ≠ String.ofList (c :: cs) := by
    intro c cs hc h
    have hhead : d.toLower = c := (List.cons.inj (String.ofList_injective h)).1
    rw [← hhead, toLower_of_isDigit hd, hd] at hc
    cases hc
  unfold ofText?
  simp only [String.toList_ofList, splitSign_digit negative tail hd]
  rw [if_neg (hword 'n' ['a', 'n'] rfl), if_neg]
  simp only [Bool.or_eq_true, decide_eq_true_eq, not_or]
  exact ⟨hword 'i' ['n', 'f'] rfl, hword 'i' ['n', 'f', 'i', 'n', 'i', 't', 'y'] rfl⟩

/-- **Reading undoes writing**, in every layout: the number comes back bit for bit, and a
not-a-number as the canonical one. -/
theorem ofText?_render (layout : Layout) (x : Binary64) :
    ofText? (layout.render x) = some x.canonical := by
  unfold Layout.render canonical
  by_cases hnan : x.isNaN = true
  · rw [if_pos hnan, if_pos hnan]
    decide
  · rw [if_neg hnan, if_neg hnan]
    by_cases hinf : x.isInfinite = true
    · have hm : x.magnitude = infinityMagnitude := by simpa [isInfinite] using hinf
      simp only [hinf, if_true]
      rw [ofText?_special]
      congr 1
      cases x
      cases hm
      rfl
    · have hfin : x.magnitude < infinityMagnitude := by
        simp only [isNaN, isInfinite, decide_eq_true_eq] at hnan hinf
        omega
      obtain ⟨ds, e, hplace, hspells⟩ := exists_spells layout hfin
      obtain ⟨n, scale, hnumeral, hvalue⟩ := denotes_place layout hspells.ne_nil hspells.digits e
      obtain ⟨d, tail, htail, hd⟩ := exists_digit_of_place layout e hspells.ne_nil hspells.digits
      have hmagnitude := hspells.read n scale hvalue
      simp only [hinf, Bool.false_eq_true, if_false]
      rw [hplace, htail, ofText?_numeral x.negative tail hd, ← htail, hnumeral]
      simp only [Option.map_some, ofDecimal, hmagnitude]

lemma isNumberChar_render {layout : Layout} {x : Binary64} {c : Char}
    (hc : c ∈ (layout.render x).toList) : isNumberChar c = true := by
  unfold Layout.render at hc
  by_cases hnan : x.isNaN = true
  · rw [if_pos hnan] at hc
    exact List.all_eq_true.1 (by decide : "NaN".toList.all isNumberChar = true) c hc
  · rw [if_neg hnan] at hc
    simp only [String.toList_ofList, List.mem_append] at hc
    rcases hc with hsign | hbody
    · split_ifs at hsign
      · obtain rfl : c = '-' := by simpa using hsign
        decide
      · simp at hsign
    · split_ifs at hbody with hinf
      · exact List.all_eq_true.1 (by decide : "inf".toList.all isNumberChar = true) c hbody
      · have hfin : x.magnitude < infinityMagnitude := by
          simp only [isNaN, isInfinite, decide_eq_true_eq] at hnan hinf
          omega
        obtain ⟨ds, e, hplace, hspells⟩ := exists_spells layout hfin
        rw [hplace] at hbody
        exact isNumberChar_place hspells.digits hbody

end ReadBack

end Binary64

/-! ### Sizes -/

lemma toList_toString_size (size : UInt64) :
    (toString size).toList = Nat.toDigits 10 size.toNat := Nat.toList_repr

lemma isDigit_toString_size {size : UInt64} {c : Char} (hc : c ∈ (toString size).toList) :
    c.isDigit = true := by
  rw [toList_toString_size] at hc
  exact Binary64.isDigit_toDigits hc

/-- A written size is read back. -/
theorem size?_toString (size : UInt64) : size? (toString size) = some size := by
  unfold size?
  rw [toList_toString_size]
  have hplus : ∀ rest, Nat.toDigits 10 size.toNat ≠ '+' :: rest := by
    intro rest h
    have hdigit := Binary64.isDigit_toDigits (n := size.toNat) (c := '+') (by simp [h])
    simp at hdigit
  split
  · rename_i rest h
    exact absurd h (hplus rest)
  · simp only [Binary64.natural?_toDigits, Option.bind_some, if_pos size.toNat_lt_size,
      UInt64.ofNat_toNat]

end SizeSweep
