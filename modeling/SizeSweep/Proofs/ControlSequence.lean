import Mathlib.Data.List.Infix
import SizeSweep.ControlSequence
import SizeSweep.Proofs.Text.Trimming

/-!
Taking control sequences out of a text.  Complete sequences go, in any number and at any place of a
text without introducers, which stays; and what is begun in one part of a text is not completed in
the next one if that blocks it.  A text is read a character or a whole sequence at a time, and
proofs about stripping go along this reading.
-/

namespace SizeSweep.ControlSequence

def isIntroducer (c : Char) : Bool := c = '\u009b' || c = '\x1b'

/-- A complete control sequence. -/
inductive Complete : List Char → Prop
  | mk {introducer parameters intermediates : List Char} {last : Char}
      (hintroducer : introducer ∈ [['\u009b'], ['\x1b', '[']])
      (hparameters : ∀ c ∈ parameters, isParameter c = true)
      (hintermediates : ∀ c ∈ intermediates, isIntermediate c = true)
      (hlast : isFinal last = true) :
      Complete (introducer ++ (parameters ++ (intermediates ++ [last])))

/-- Complete control sequences, one after another. -/
inductive Sequences : List Char → Prop
  | nil : Sequences []
  | cons {sequence rest : List Char} (h : Complete sequence) (hrest : Sequences rest) :
      Sequences (sequence ++ rest)

/-- A text with complete control sequences put in at any of its places, any number at each. -/
inductive Decorated : List Char → List Char → Prop
  | nil : Decorated [] []
  | sequence {plain text sequence : List Char} (h : Complete sequence)
      (hrest : Decorated plain text) : Decorated plain (sequence ++ text)
  | character {plain text : List Char} (c : Char) (hrest : Decorated plain text) :
      Decorated (c :: plain) (c :: text)

/-! ### Decoration -/

section Decoration

variable {s t plain : List Char}

lemma Sequences.decorated (h : Sequences s) (ht : Decorated plain t) :
    Decorated plain (s ++ t) := by
  induction h with
  | nil => exact ht
  | cons hsequence _ ih =>
    rw [List.append_assoc]
    exact .sequence hsequence ih

lemma Decorated.append (front : List Char) (h : Decorated plain t) :
    Decorated (front ++ plain) (front ++ t) := by
  induction front with
  | nil => exact h
  | cons c front ih => exact .character c ih

end Decoration

/-! ### The classes of characters -/

section Classes

variable {c : Char}

lemma isParameter_iff : isParameter c = true ↔ 0x30 ≤ c.toNat ∧ c.toNat ≤ 0x3F := by
  simp [isParameter, Char.le_def, UInt32.le_iff_toNat_le]

lemma isIntermediate_iff : isIntermediate c = true ↔ 0x20 ≤ c.toNat ∧ c.toNat ≤ 0x2F := by
  simp [isIntermediate, Char.le_def, UInt32.le_iff_toNat_le]

lemma isFinal_iff : isFinal c = true ↔ 0x40 ≤ c.toNat ∧ c.toNat ≤ 0x7E := by
  simp [isFinal, Char.le_def, UInt32.le_iff_toNat_le]

lemma isIntroducer_eq_false : isIntroducer c = false ↔ c ≠ '\u009b' ∧ c ≠ '\x1b' := by
  simp [isIntroducer]

lemma isFinal_of_isIntroducer (h : isIntroducer c = true) :
    isIntermediate c = false ∧ isFinal c = false := by
  rcases (by simpa [isIntroducer] using h : c = '\u009b' ∨ c = '\x1b') with rfl | rfl <;> decide

lemma Complete.exists_head {sequence : List Char} (h : Complete sequence) :
    ∃ c rest, sequence = c :: rest ∧ isIntroducer c = true := by
  obtain ⟨hintroducer, -, -, -⟩ := h
  simp only [List.mem_cons, List.not_mem_nil, or_false] at hintroducer
  rcases hintroducer with rfl | rfl <;> exact ⟨_, _, rfl, rfl⟩

end Classes

/-! ### What a list begins with -/

section Front

variable {p : Char → Bool} {front rest : List Char}

lemma takeWhile_front (hfront : ∀ c ∈ front, p c = true) (hrest : ∀ c ∈ rest.head?, p c = false) :
    (front ++ rest).takeWhile p = front ∧ (front ++ rest).dropWhile p = rest := by
  have hdrop : rest.dropWhile p = rest := Text.dropWhile_eq_self_of_head? hrest
  have htake : rest.takeWhile p = [] := by
    have hsplit := List.takeWhile_append_dropWhile (p := p) (l := rest)
    rw [hdrop] at hsplit
    exact List.append_left_eq_self.1 hsplit
  rw [List.takeWhile_append_of_pos hfront, List.dropWhile_append_of_pos hfront, hdrop, htake,
    List.append_nil]
  exact ⟨rfl, rfl⟩

/-- A front that is not used up is all that matters. -/
lemma takeWhile_append_of_ne_nil (h : front.dropWhile p ≠ []) (rest : List Char) :
    (front ++ rest).takeWhile p = front.takeWhile p ∧
      (front ++ rest).dropWhile p = front.dropWhile p ++ rest := by
  have hlength : (front.takeWhile p).length ≠ front.length := by
    intro hsame
    refine h (List.length_eq_zero_iff.1 ?_)
    have hsplit := congrArg List.length (List.takeWhile_append_dropWhile (p := p) (l := front))
    rw [List.length_append] at hsplit
    omega
  rw [List.takeWhile_append, if_neg hlength, List.dropWhile_append, if_neg (by simpa using h)]
  exact ⟨rfl, rfl⟩

end Front

/-! ### Where sequences begin and end -/

section Lengths

variable {c last : Char} {cs s t parameters intermediates rest sequence : List Char} {n : ℕ}

lemma bodyLength?_eq_none
    (h : ∀ c ∈ ((cs.dropWhile isParameter).dropWhile isIntermediate).head?, isFinal c = false) :
    bodyLength? cs = none := by
  unfold bodyLength?
  rcases hrest : (cs.dropWhile isParameter).dropWhile isIntermediate with _ | ⟨c, rest⟩
  · simp only [hrest]
  · have hc : isFinal c = false := h c (by rw [hrest]; rfl)
    simp only [hrest, hc, Bool.false_eq_true, if_false]

lemma bodyLength?_body (hparameters : ∀ c ∈ parameters, isParameter c = true)
    (hintermediates : ∀ c ∈ intermediates, isIntermediate c = true)
    (hlast : isFinal last = true) (rest : List Char) :
    bodyLength? (parameters ++ (intermediates ++ last :: rest)) =
      some (parameters.length + intermediates.length + 1) := by
  have hfinal := isFinal_iff.1 hlast
  have hafter : ∀ c ∈ (intermediates ++ last :: rest).head?, isParameter c = false := by
    intro c hc
    rw [Bool.eq_false_iff, Ne, isParameter_iff]
    rcases List.mem_append.1 (List.mem_of_mem_head? hc) with hmem | hmem
    · have := isIntermediate_iff.1 (hintermediates c hmem)
      omega
    · rcases intermediates with _ | ⟨d, ds⟩
      · obtain rfl : last = c := by simpa using hc
        omega
      · obtain rfl : d = c := by simpa using hc
        have := isIntermediate_iff.1 (hintermediates d (List.mem_cons_self ..))
        omega
  have hend : ∀ c ∈ (last :: rest).head?, isIntermediate c = false := by
    intro c hc
    obtain rfl : last = c := by simpa using hc
    rw [Bool.eq_false_iff, Ne, isIntermediate_iff]
    omega
  obtain ⟨htake, hdrop⟩ := takeWhile_front hparameters hafter
  obtain ⟨htake', hdrop'⟩ := takeWhile_front hintermediates hend
  unfold bodyLength?
  simp only [htake, hdrop, htake', hdrop', hlast, if_true]

lemma length?_eq_none (hc : c ≠ '\u009b') (hpair : c = '\x1b' → rest.head? ≠ some '[') :
    length? (c :: rest) = none := by
  unfold length?
  split
  · rename_i heq
    exact absurd (List.cons.inj heq).1 hc
  · rename_i heq
    obtain ⟨rfl, rfl⟩ := List.cons.inj heq
    exact absurd rfl (hpair rfl)
  · rfl

lemma length?_complete (h : Complete sequence) (rest : List Char) :
    length? (sequence ++ rest) = some sequence.length := by
  obtain ⟨hintroducer, hparameters, hintermediates, hlast⟩ := h
  have hbody := bodyLength?_body hparameters hintermediates hlast rest
  simp only [List.mem_cons, List.not_mem_nil, or_false] at hintroducer
  rcases hintroducer with rfl | rfl
  all_goals
    simp only [List.cons_append, List.nil_append, List.append_assoc, length?, hbody,
      Option.map_some, List.length_cons, List.length_append, List.length_nil, Option.some.injEq]
    omega

/-- A text in which no sequence can end that was begun before it: no final character stands in
front of it, nor behind its first intermediate characters, nor behind its first parameters and
intermediate characters. -/
structure Blocks (t : List Char) : Prop where
  intermediates : ∀ c ∈ (t.dropWhile isIntermediate).head?, isFinal c = false
  parameters : ∀ c ∈ ((t.dropWhile isParameter).dropWhile isIntermediate).head?, isFinal c = false

lemma bodyLength?_append (h : Blocks t) (s : List Char) : bodyLength? (s ++ t) = bodyLength? s := by
  -- the body can run out of `s` among its parameters, or behind them among the intermediate
  -- characters, and each field of `Blocks` stops it in one of these places
  by_cases hparameters : s.dropWhile isParameter = []
  · have hlong : (s ++ t).dropWhile isParameter = t.dropWhile isParameter := by
      rw [List.dropWhile_append, hparameters, if_pos List.isEmpty_nil]
    have hs : bodyLength? s = none := bodyLength?_eq_none (by simp [hparameters])
    rw [hs, bodyLength?_eq_none (hlong ▸ h.parameters)]
  · obtain ⟨htake, hdrop⟩ := takeWhile_append_of_ne_nil hparameters t
    by_cases hintermediates : (s.dropWhile isParameter).dropWhile isIntermediate = []
    · have hlong : ((s ++ t).dropWhile isParameter).dropWhile isIntermediate =
          t.dropWhile isIntermediate := by
        rw [hdrop, List.dropWhile_append, hintermediates, if_pos List.isEmpty_nil]
      have hs : bodyLength? s = none := bodyLength?_eq_none (by simp [hintermediates])
      rw [hs, bodyLength?_eq_none (hlong ▸ h.intermediates)]
    · obtain ⟨htake', hdrop'⟩ := takeWhile_append_of_ne_nil hintermediates t
      obtain ⟨c, more, hcons⟩ := List.exists_cons_of_ne_nil hintermediates
      unfold bodyLength?
      simp only [htake, hdrop, htake', hdrop', hcons, List.cons_append]

/-- No sequence that is begun in a part of a text runs into a part that blocks it. -/
lemma length?_append (h : Blocks t) (hne : s ≠ []) : length? (s ++ t) = length? s := by
  obtain ⟨c, rest, rfl⟩ := List.exists_cons_of_ne_nil hne
  by_cases hsingle : c = '\u009b'
  · subst hsingle
    simp only [List.cons_append, length?, bodyLength?_append h]
  · by_cases hpair : c = '\x1b' ∧ rest.head? = some '['
    · obtain ⟨rfl, hhead⟩ := hpair
      obtain ⟨more, rfl⟩ := List.head?_eq_some_iff.1 hhead
      simp only [List.cons_append, length?, bodyLength?_append h]
    · rw [not_and] at hpair
      rw [length?_eq_none hsingle hpair, List.cons_append, length?_eq_none hsingle]
      intro hc hhead
      rcases rest with _ | ⟨d, rest⟩
      · -- an escape at the very end of `s` would need its bracket from `t`
        obtain ⟨more, rfl⟩ := List.head?_eq_some_iff.1 hhead
        exact absurd (h.intermediates '[' rfl) (by decide)
      · exact hpair hc hhead

end Lengths

/-! ### The sequence at the front -/

section Begins

variable {c : Char} {cs sequence other text rest : List Char} {n : ℕ}

lemma exists_body_of_bodyLength? (h : bodyLength? cs = some n) :
    ∃ parameters intermediates last rest, cs = parameters ++ (intermediates ++ last :: rest) ∧
      (∀ c ∈ parameters, isParameter c = true) ∧ (∀ c ∈ intermediates, isIntermediate c = true) ∧
      isFinal last = true ∧ n = parameters.length + intermediates.length + 1 := by
  unfold bodyLength? at h
  rcases hrest : (cs.dropWhile isParameter).dropWhile isIntermediate with _ | ⟨last, rest⟩
  · simp only [hrest] at h
    cases h
  · simp only [hrest] at h
    split_ifs at h with hlast
    refine ⟨cs.takeWhile isParameter, (cs.dropWhile isParameter).takeWhile isIntermediate, last,
      rest, ?_, fun c hc => List.mem_takeWhile_imp hc, fun c hc => List.mem_takeWhile_imp hc, hlast,
      (Option.some.inj h).symm⟩
    rw [← hrest, List.takeWhile_append_dropWhile, List.takeWhile_append_dropWhile]

/-- The length that is found is that of the complete sequence at the front. -/
lemma length?_eq_some_iff :
    length? text = some n ↔
      ∃ sequence, Complete sequence ∧ sequence <+: text ∧ sequence.length = n := by
  have hcomplete : ∀ introducer ∈ [['\u009b'], ['\x1b', '[']], ∀ rest k, bodyLength? rest = some k →
      ∃ sequence, Complete sequence ∧ sequence <+: introducer ++ rest ∧
        sequence.length = k + introducer.length := by
    intro introducer hintroducer rest k hk
    obtain ⟨parameters, intermediates, last, more, rfl, hparameters, hintermediates, hlast, rfl⟩ :=
      exists_body_of_bodyLength? hk
    refine ⟨_, .mk hintroducer hparameters hintermediates hlast, ⟨more, by simp⟩, ?_⟩
    simp only [List.length_append, List.length_singleton]
    omega
  constructor
  · intro h
    unfold length? at h
    split at h
    · obtain ⟨k, hk, rfl⟩ := Option.map_eq_some_iff.1 h
      exact hcomplete ['\u009b'] (by decide) _ k hk
    · obtain ⟨k, hk, rfl⟩ := Option.map_eq_some_iff.1 h
      exact hcomplete ['\x1b', '['] (by decide) _ k hk
    · cases h
  · rintro ⟨sequence, hsequence, ⟨rest, rfl⟩, rfl⟩
    exact length?_complete hsequence rest

/-- At most one complete sequence begins a text. -/
lemma Complete.unique (h : Complete sequence) (hother : Complete other) (hfront : sequence <+: text)
    (hfront' : other <+: text) : sequence = other := by
  have hlength := length?_eq_some_iff.2 ⟨sequence, h, hfront, rfl⟩
  rw [length?_eq_some_iff.2 ⟨other, hother, hfront', rfl⟩] at hlength
  rw [List.prefix_iff_eq_take.1 hfront, List.prefix_iff_eq_take.1 hfront',
    Option.some.inj hlength]

instance : DecidablePred Complete := fun sequence =>
  decidable_of_iff (length? sequence = some sequence.length) <| by
    rw [length?_eq_some_iff]
    constructor
    · rintro ⟨other, hother, hfront, hlength⟩
      rwa [← hfront.eq_of_length hlength]
    · exact fun h => ⟨sequence, h, List.prefix_rfl, rfl⟩

/-- Whether a complete sequence stands at the front of a text. -/
def Begins (text : List Char) : Prop := ∃ sequence, Complete sequence ∧ sequence <+: text

lemma not_begins_iff : ¬Begins text ↔ length? text = none := by
  rw [Option.eq_none_iff_forall_ne_some, Begins, not_exists]
  constructor
  · intro h n hn
    obtain ⟨sequence, hsequence, hfront, -⟩ := length?_eq_some_iff.1 hn
    exact h sequence ⟨hsequence, hfront⟩
  · rintro h sequence ⟨hsequence, hfront⟩
    exact h _ (length?_eq_some_iff.2 ⟨sequence, hsequence, hfront, rfl⟩)

instance : DecidablePred Begins := fun text =>
  decidable_of_iff (length? text ≠ none) (by rw [Ne, ← not_begins_iff, not_not])

/-- **How a text is read**: a character at which no complete sequence begins, or a whole sequence
at a time. -/
@[elab_as_elim]
theorem reading_induction {motive : List Char → Prop} (nil : motive [])
    (character : ∀ c rest, ¬Begins (c :: rest) → motive rest → motive (c :: rest))
    (sequence : ∀ sequence rest, Complete sequence → motive rest → motive (sequence ++ rest))
    (text : List Char) : motive text := by
  induction hn : text.length using Nat.strong_induction_on generalizing text with
  | _ k ih =>
    subst hn
    by_cases hbegins : Begins text
    · obtain ⟨front, hfront, rest, rfl⟩ := hbegins
      refine sequence front rest hfront (ih rest.length ?_ rest rfl)
      obtain ⟨c, more, rfl, -⟩ := hfront.exists_head
      rw [List.length_append, List.length_cons]
      omega
    · rcases text with _ | ⟨c, rest⟩
      · exact nil
      · exact character c rest hbegins (ih rest.length (Nat.lt_succ_self _) rest rfl)

end Begins

/-! ### Taking sequences out -/

section Strip

variable {c : Char} {s t rest sequence : List Char} {n : ℕ}

lemma stripFrom_eq (n : ℕ) (cs : List Char) : stripFrom n cs = strip (cs.drop n) := by
  induction n generalizing cs with
  | zero => rfl
  | succ n ih =>
    cases cs with
    | nil => rfl
    | cons c rest => exact ih rest

lemma strip_of_some (h : length? (c :: rest) = some n) :
    strip (c :: rest) = strip (rest.drop (n - 1)) := by
  rw [strip, stripFrom]
  simp only [h, stripFrom_eq]

lemma strip_of_none (h : length? (c :: rest) = none) : strip (c :: rest) = c :: strip rest := by
  rw [strip, stripFrom]
  simp only [h]
  rfl

lemma strip_complete (h : Complete sequence) (rest : List Char) :
    strip (sequence ++ rest) = strip rest := by
  have hlength := length?_complete h rest
  rcases sequence with _ | ⟨c, more⟩
  · rfl
  · rw [List.cons_append] at hlength ⊢
    rw [strip_of_some hlength, List.length_cons, Nat.add_sub_cancel, List.drop_left]

/-- A character that is no introducer stays. -/
lemma strip_cons_of_free (hc : isIntroducer c = false) (rest : List Char) :
    strip (c :: rest) = c :: strip rest := by
  obtain ⟨hsingle, hescape⟩ := isIntroducer_eq_false.1 hc
  exact strip_of_none (length?_eq_none hsingle fun h => absurd h hescape)

/-- Decoration is taken out of a text without introducers of its own. -/
lemma strip_decorated {plain : List Char} (h : Decorated plain t)
    (hfree : ∀ c ∈ plain, isIntroducer c = false) : strip t = plain := by
  induction h with
  | nil => rfl
  | sequence hsequence _ ih => rw [strip_complete hsequence, ih hfree]
  | character c _ ih =>
    obtain ⟨hc, hplain⟩ := List.forall_mem_cons.1 hfree
    rw [strip_cons_of_free hc, ih hplain]

lemma strip_cons_of_not_begins (h : ¬Begins (c :: rest)) : strip (c :: rest) = c :: strip rest :=
  strip_of_none (not_begins_iff.1 h)

/-- Both parts of a text are stripped by themselves if the second one blocks the first. -/
lemma strip_append (h : Blocks t) (s : List Char) : strip (s ++ t) = strip s ++ strip t := by
  induction s using reading_induction with
  | nil => rfl
  | character c rest hbegins ih =>
    have hlonger : ¬Begins (c :: (rest ++ t)) := by
      rw [not_begins_iff] at hbegins ⊢
      exact (length?_append h (List.cons_ne_nil c rest)).trans hbegins
    rw [List.cons_append, strip_cons_of_not_begins hlonger, strip_cons_of_not_begins hbegins, ih]
    rfl
  | sequence sequence rest hsequence ih =>
    rw [List.append_assoc, strip_complete hsequence, strip_complete hsequence, ih]

end Strip

end SizeSweep.ControlSequence
