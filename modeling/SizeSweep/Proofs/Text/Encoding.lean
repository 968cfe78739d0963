import Mathlib.Tactic.Common
import SizeSweep.Text.Utf8

/-!
Texts as bytes, read back.  Decoding undoes encoding, and a byte below `0x80` stands in the bytes
of a text exactly where its character stands in the text, so the marks of a results file can be
looked for among characters.
-/

namespace SizeSweep.Text

/-! ### Encoding -/

@[simp] lemma encode_ofList (cs : List Char) :
    encode (String.ofList cs) = cs.flatMap String.utf8EncodeChar := by
  simp [encode]

@[simp] lemma encode_append (s t : String) : encode (s ++ t) = encode s ++ encode t := by
  simp [encode]

/-- The bytes of a character are its code alone, or all of them are `0x80` or more. -/
lemma utf8EncodeChar_cases (c : Char) :
    (c.toNat < 128 ∧ String.utf8EncodeChar c = [UInt8.ofNat c.toNat]) ∨
      (128 ≤ c.toNat ∧ ∀ b ∈ String.utf8EncodeChar c, 128 ≤ b.toNat) := by
  have hc : c.val.toNat = c.toNat := rfl
  unfold String.utf8EncodeChar
  simp only [hc]
  split_ifs with h₁ h₂ h₃
  · exact Or.inl ⟨by omega, rfl⟩
  all_goals
    refine Or.inr ⟨by omega, ?_⟩
    simp only [List.mem_cons, List.not_mem_nil, or_false, forall_eq_or_imp, forall_eq,
      UInt8.toNat_ofNat']
    omega

/-- An ASCII byte belongs to the character that it is the code of. -/
lemma mem_utf8EncodeChar {b : UInt8} {c : Char} (hb : b.toNat < 128) :
    b ∈ String.utf8EncodeChar c ↔ c.toNat = b.toNat := by
  rcases utf8EncodeChar_cases c with ⟨hc, he⟩ | ⟨hc, hall⟩
  · rw [he, List.mem_singleton, ← UInt8.toNat_inj, UInt8.toNat_ofNat']
    omega
  · constructor
    · intro h
      have := hall b h
      omega
    · intro h
      omega

lemma mem_encode {b : UInt8} {s : String} (hb : b.toNat < 128) :
    b ∈ encode s ↔ ∃ c ∈ s.toList, c.toNat = b.toNat := by
  simp only [encode, List.mem_flatMap, mem_utf8EncodeChar hb]

/-- An ASCII byte stands in a text as often as its character does. -/
lemma count_flatMap_utf8EncodeChar {c : Char} (hc : c.toNat < 128) (cs : List Char) :
    (cs.flatMap String.utf8EncodeChar).count (UInt8.ofNat c.toNat) = cs.count c := by
  have hb : (UInt8.ofNat c.toNat).toNat = c.toNat := by
    rw [UInt8.toNat_ofNat']
    omega
  induction cs with
  | nil => rfl
  | cons d cs ih =>
    rw [List.flatMap_cons, List.count_append, ih, List.count_cons, Nat.add_comm]
    congr 1
    rcases utf8EncodeChar_cases d with ⟨hd, he⟩ | ⟨hd, hall⟩
    · have hiff : UInt8.ofNat d.toNat = UInt8.ofNat c.toNat ↔ d = c := by
        rw [← UInt8.toNat_inj, hb, UInt8.toNat_ofNat', ← Char.toNat_inj]
        omega
      by_cases heq : d = c
      · rw [he, heq]
        simp
      · rw [he, List.count_singleton]
        simp [heq, hiff]
    · have hne : d ≠ c := by
        rintro rfl
        omega
      rw [List.count_eq_zero_of_not_mem fun hmem => ?_]
      · simp [hne]
      · have := hall _ hmem
        omega

lemma count_encode {c : Char} (hc : c.toNat < 128) (s : String) :
    (encode s).count (UInt8.ofNat c.toNat) = s.toList.count c :=
  count_flatMap_utf8EncodeChar hc s.toList

/-- The bytes of ASCII characters are their codes. -/
lemma flatMap_utf8EncodeChar {cs : List Char} (h : ∀ c ∈ cs, c.toNat < 128) :
    cs.flatMap String.utf8EncodeChar = cs.map fun c => UInt8.ofNat c.toNat := by
  induction cs with
  | nil => rfl
  | cons c cs ih =>
    rw [List.flatMap_cons, List.map_cons, ih fun d hd => h d (List.mem_cons_of_mem c hd)]
    rcases utf8EncodeChar_cases c with ⟨-, he⟩ | ⟨hc, -⟩
    · rw [he]; rfl
    · have := h c (List.mem_cons_self ..)
      omega

/-! ### Decoding -/

lemma frontChar?_encode (c : Char) (rest : Bytes) :
    frontChar? (String.utf8EncodeChar c ++ rest) = some c := by
  unfold frontChar?
  have hlen : (String.utf8EncodeChar c).length ≤ 4 := by
    rw [String.length_utf8EncodeChar]
    exact c.utf8Size_le_four
  rw [List.take_append, List.take_of_length_le hlen, List.toByteArray_append]
  exact ByteArray.utf8DecodeChar?_utf8EncodeChar_append

lemma decodeFrom_skip (offset : Nat) (bs rest : Bytes) :
    decodeFrom offset bs.length (bs ++ rest) = decodeFrom (offset + bs.length) 0 rest := by
  induction bs generalizing offset with
  | nil => simp
  | cons b bs ih =>
    simp only [List.length_cons, List.cons_append, decodeFrom]
    rw [ih, show offset + 1 + bs.length = offset + (bs.length + 1) by omega]

lemma decodeFrom_encode_cons (offset : Nat) (c : Char) (rest : Bytes) :
    decodeFrom offset 0 (String.utf8EncodeChar c ++ rest) =
      (decodeFrom (offset + c.utf8Size) 0 rest).map (c :: ·) := by
  have hfront := frontChar?_encode c rest
  have hlen := String.length_utf8EncodeChar c
  rcases hbs : String.utf8EncodeChar c with _ | ⟨b, bs⟩
  · exact absurd hbs String.utf8EncodeChar_ne_nil
  · rw [hbs, List.cons_append] at hfront
    rw [hbs, List.length_cons] at hlen
    rw [List.cons_append, decodeFrom]
    simp only [hfront]
    rw [show c.utf8Size - 1 = bs.length by omega, decodeFrom_skip,
      show offset + 1 + bs.length = offset + c.utf8Size by omega]

lemma decodeFrom_encode (offset : Nat) (cs : List Char) :
    decodeFrom offset 0 (cs.flatMap String.utf8EncodeChar) = .ok cs := by
  induction cs generalizing offset with
  | nil => rfl
  | cons c cs ih => rw [List.flatMap_cons, decodeFrom_encode_cons, ih]; rfl

/-- **Decoding undoes encoding.** -/
theorem decode_encode (s : String) : decode (encode s) = .ok s := by
  unfold decode encode
  rw [decodeFrom_encode]
  simp [Except.map]

/-- What the front character leaves of the bytes that begin with it. -/
lemma eq_encode_append_of_frontChar? {bs : Bytes} {c : Char} (h : frontChar? bs = some c) :
    bs = String.utf8EncodeChar c ++ bs.drop c.utf8Size := by
  have htake : String.utf8EncodeChar c = (bs.take 4).take c.utf8Size := by
    have := String.toByteArray_utf8EncodeChar_of_utf8DecodeChar?_eq_some h
    have := congrArg (fun b : ByteArray => b.data.toList) this
    simpa using this
  rw [htake, List.take_take, Nat.min_eq_left c.utf8Size_le_four, List.take_append_drop]

/-- What is decoded is the text of the bytes. -/
lemma encode_of_decodeFrom {offset skip : Nat} {bs : Bytes} {cs : List Char}
    (h : decodeFrom offset skip bs = .ok cs) :
    cs.flatMap String.utf8EncodeChar = bs.drop skip := by
  induction bs generalizing offset skip cs with
  | nil =>
    simp only [decodeFrom, Except.ok.injEq] at h
    simp [← h]
  | cons b bs ih =>
    cases skip with
    | succ skip =>
      rw [decodeFrom] at h
      exact ih h
    | zero =>
      rw [decodeFrom] at h
      split at h
      · cases h
      · rename_i c hfront
        rcases hrest : decodeFrom (offset + 1) (c.utf8Size - 1) bs with good | ds
        · rw [hrest] at h; cases h
        · rw [hrest] at h
          obtain rfl : c :: ds = cs := by simpa [Except.map] using h
          have hsplit := eq_encode_append_of_frontChar? hfront
          have hdrop : (b :: bs).drop c.utf8Size = bs.drop (c.utf8Size - 1) := by
            have := c.utf8Size_pos
            rw [show c.utf8Size = c.utf8Size - 1 + 1 by omega, List.drop_succ_cons]
            rfl
          rw [List.flatMap_cons, ih hrest, ← hdrop, ← hsplit, List.drop_zero]

theorem encode_of_decode {bs : Bytes} {s : String} (h : decode bs = .ok s) : encode s = bs := by
  unfold decode at h
  rcases hbs : decodeFrom 0 0 bs with good | cs
  · rw [hbs] at h; cases h
  · rw [hbs] at h
    obtain rfl : String.ofList cs = s := by simpa [Except.map] using h
    rw [encode_ofList, encode_of_decodeFrom hbs, List.drop_zero]

end SizeSweep.Text
