import Mathlib.Data.List.Infix
import Mathlib.Tactic.Common
import SizeSweep.Text.Blank

/-!
Looking into a text.  A mark occurs in a text if it stands there as a whole; the split is at the
first place where it does, whatever follows; and the lines of a text are free of line feeds, those
behind whole lines separate from them.
-/

namespace SizeSweep.Text

/-! ### Marks -/

section Marks

variable {mark text before after : List Char} {a b : Char}

lemma occurs_nil : occurs mark [] = true ↔ mark = [] := by
  cases mark <;> simp [occurs, splitAt?]

lemma occurs_cons (c : Char) (rest : List Char) :
    occurs mark (c :: rest) = true ↔ mark <+: c :: rest ∨ occurs mark rest = true := by
  unfold occurs
  rw [splitAt?]
  split_ifs with h
  · exact iff_of_true rfl (Or.inl (List.isPrefixOf_iff_prefix.1 h))
  · rw [Option.isSome_map, or_iff_right fun hstart => h (List.isPrefixOf_iff_prefix.2 hstart)]

/-- A mark occurs where it stands as a whole. -/
lemma occurs_iff : occurs mark text = true ↔ mark <:+: text := by
  induction text with
  | nil => rw [occurs_nil, List.infix_nil]
  | cons c rest ih => rw [occurs_cons, List.infix_cons_iff, ih]

/-- The split is not moved by what follows. -/
lemma splitAt?_append (h : splitAt? mark text = some (before, after)) (more : List Char) :
    splitAt? mark (text ++ more) = some (before, after ++ more) := by
  induction text generalizing before with
  | nil =>
    obtain rfl : mark = [] := occurs_nil.1 (by rw [occurs, h]; rfl)
    obtain ⟨rfl, rfl⟩ : [] = before ∧ [] = after := by simpa [splitAt?] using h
    cases more <;> simp [splitAt?]
  | cons c rest ih =>
    rw [List.cons_append, splitAt?]
    rw [splitAt?] at h
    by_cases hstart : mark <+: c :: rest
    · rw [if_pos (List.isPrefixOf_iff_prefix.2 hstart)] at h
      obtain ⟨rfl, rfl⟩ := Prod.mk.inj (Option.some.inj h)
      have hmore : mark <+: c :: (rest ++ more) := hstart.trans (List.prefix_append _ _)
      rw [if_pos (List.isPrefixOf_iff_prefix.2 hmore), ← List.cons_append,
        List.drop_append_of_le_length hstart.length_le]
    · rw [if_neg (mt List.isPrefixOf_iff_prefix.1 hstart)] at h
      obtain ⟨⟨skipped, _⟩, hrest, hpair⟩ := Option.map_eq_some_iff.1 h
      obtain ⟨rfl, rfl⟩ := Prod.mk.inj hpair
      -- the mark has room in the rest, so it does not reach beyond it from a place before
      have hroom : mark.length ≤ (c :: rest).length := by
        have hinside : mark <:+: rest := occurs_iff.1 (by rw [occurs, hrest]; rfl)
        exact hinside.length_le.trans (Nat.le_succ _)
      have hmore : ¬mark <+: c :: (rest ++ more) := fun hlong =>
        hstart (List.prefix_of_prefix_length_le hlong (List.prefix_append (c :: rest) more) hroom)
      rw [if_neg (mt List.isPrefixOf_iff_prefix.1 hmore), ih hrest]
      rfl

/-- A mark of two different characters is found behind a text in which it does not occur. -/
lemma splitAt?_pair (hne : a ≠ b) (h : ¬[a, b] <:+: before) :
    splitAt? [a, b] (before ++ a :: b :: after) = some (before, after) := by
  induction before with
  | nil => simp [splitAt?]
  | cons c before ih =>
    rw [List.infix_cons_iff, not_or] at h
    obtain ⟨hhere, hrest⟩ := h
    have hstart : ¬[a, b] <+: c :: (before ++ a :: b :: after) := by
      intro hlong
      obtain ⟨rfl, htail⟩ := List.cons_prefix_cons.1 hlong
      rcases before with _ | ⟨d, before⟩
      · exact hne (List.cons_prefix_cons.1 htail).1.symm
      · obtain ⟨rfl, -⟩ := List.cons_prefix_cons.1 htail
        exact hhere (List.cons_prefix_cons.2 ⟨rfl, List.cons_prefix_cons.2 ⟨rfl, List.nil_prefix⟩⟩)
    rw [List.cons_append, splitAt?, if_neg (mt List.isPrefixOf_iff_prefix.1 hstart), ih hrest]
    rfl

end Marks

/-! ### Lines -/

section Lines

variable {line text ending : List Char} {c : Char}

/-- Ends of a line: none, a line feed, or a line feed behind a carriage return. -/
def lineEnds : List (List Char) := [[], ['\n'], ['\r', '\n']]

lemma lines_cons {rest : List Char} (hc : c ≠ '\n') (hend : c = '\r' → rest.head? ≠ some '\n') :
    lines (c :: rest) = match lines rest with
      | [] => [[c]]
      | line :: more => (c :: line) :: more := by
  have hreturn : ∀ more, c = '\r' → rest = '\n' :: more → False := by
    rintro more hc rfl
    exact hend hc rfl
  refine (lines.eq_4 c rest hc hreturn).trans ?_
  cases lines rest <;> rfl

lemma lineFeed_not_mem_lines (h : line ∈ lines text) : '\n' ∉ line := by
  induction text using lines.induct generalizing line with
  | case1 => simp [lines] at h
  | case2 rest ih | case3 rest ih =>
    rcases List.mem_cons.1 h with rfl | h
    · exact List.not_mem_nil
    · exact ih h
  | case4 c rest hfeed hreturn hnone ih =>
    rw [lines_cons hfeed fun hc hrest => ?_, hnone] at h
    · obtain rfl := List.mem_singleton.1 h
      exact fun hmem => hfeed (List.mem_singleton.1 hmem).symm
    · obtain ⟨more, rfl⟩ := List.head?_eq_some_iff.1 hrest
      exact hreturn more hc rfl
  | case5 c rest hfeed hreturn first more hfirst ih =>
    rw [lines_cons hfeed fun hc hrest => ?_, hfirst] at h
    · rcases List.mem_cons.1 h with rfl | h
      · rw [List.mem_cons, not_or]
        exact ⟨Ne.symm hfeed, ih (hfirst ▸ List.mem_cons_self ..)⟩
      · exact ih (hfirst ▸ List.mem_cons_of_mem _ h)
    · obtain ⟨after, rfl⟩ := List.head?_eq_some_iff.1 hrest
      exact hreturn after hc rfl

/-- A text of whole lines: it is empty or ends in a line feed. -/
def WholeLines (text : List Char) : Prop := text = [] ∨ text.getLast? = some '\n'

instance : DecidablePred WholeLines := fun text =>
  inferInstanceAs (Decidable (text = [] ∨ text.getLast? = some '\n'))

lemma WholeLines.tail {rest : List Char} (h : WholeLines (c :: rest)) : WholeLines rest := by
  rcases rest with _ | ⟨d, rest⟩
  · exact Or.inl rfl
  · exact Or.inr (h.resolve_left (List.cons_ne_nil _ _))

lemma WholeLines.tail_ne_nil {rest : List Char} (h : WholeLines (c :: rest)) (hc : c ≠ '\n') :
    rest ≠ [] := by
  rintro rfl
  exact hc (Option.some.inj (h.resolve_left (List.cons_ne_nil _ _)))

lemma lines_ne_nil (h : text ≠ []) : lines text ≠ [] := by
  unfold lines
  split
  · exact absurd rfl h
  · exact List.cons_ne_nil _ _
  · exact List.cons_ne_nil _ _
  · split <;> exact List.cons_ne_nil _ _

/-- Whole lines are separate from the lines behind them. -/
lemma lines_append (h : WholeLines text) (more : List Char) :
    lines (text ++ more) = lines text ++ lines more := by
  induction text using lines.induct with
  | case1 => rfl
  | case2 rest ih => exact congrArg ([] :: ·) (ih h.tail)
  | case3 rest ih => exact congrArg ([] :: ·) (ih h.tail.tail)
  | case4 c rest hfeed hreturn hnone ih => exact absurd hnone (lines_ne_nil (h.tail_ne_nil hfeed))
  | case5 c rest hfeed hreturn first others hfirst ih =>
    obtain ⟨d, rest, rfl⟩ := List.exists_cons_of_ne_nil (h.tail_ne_nil hfeed)
    have hnext : c = '\r' → (d :: rest).head? ≠ some '\n' := by
      rintro rfl hd
      obtain rfl := Option.some.inj hd
      exact hreturn rest rfl rfl
    have hlonger : c = '\r' → (d :: rest ++ more).head? ≠ some '\n' := hnext
    rw [List.cons_append, lines_cons hfeed hlonger, lines_cons hfeed hnext, ih h.tail, hfirst]
    rfl

/-- A text without line feeds is one line, with any end. -/
lemma lines_line (hne : line ≠ []) (hfeed : '\n' ∉ line) (hlast : line.getLast? ≠ some '\r')
    (hending : ending ∈ lineEnds) : lines (line ++ ending) = [line] := by
  induction line with
  | nil => exact absurd rfl hne
  | cons c rest ih =>
    rw [List.mem_cons, not_or] at hfeed
    obtain ⟨hc, hrest⟩ := hfeed
    rcases rest with _ | ⟨d, rest⟩
    · have hreturn : c ≠ '\r' := by simpa using hlast
      rw [List.singleton_append, lines_cons (Ne.symm hc) fun h => absurd h hreturn]
      simp only [lineEnds, List.mem_cons, List.not_mem_nil, or_false] at hending
      rcases hending with rfl | rfl | rfl <;> rfl
    · rw [List.getLast?_cons_cons] at hlast
      have hnext : ((d :: rest) ++ ending).head? ≠ some '\n' := by
        simpa using fun heq : d = '\n' => hrest (heq ▸ List.mem_cons_self ..)
      rw [List.cons_append, lines_cons (Ne.symm hc) fun _ => hnext,
        ih (List.cons_ne_nil _ _) hrest hlast]

end Lines

end SizeSweep.Text
