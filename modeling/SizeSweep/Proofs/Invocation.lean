import SizeSweep.Proofs.Binary64.Numerals
import SizeSweep.Proofs.Text.Lines
import SizeSweep.Trial

/-!
Arguments that name their size.  The places where the placeholder stands divide a text into
pieces, in one way only; what a template gives for a size is its pieces with the decimal size
between them.  The digits of a size have no character in common with the placeholder, so no
placeholder stands in the result, and two sizes never give the same arguments.
-/

namespace SizeSweep.Invocation

/-- The pieces into which the places of a mark divide a text. -/
structure Divides (mark text : List Char) (pieces : List (List Char)) : Prop where
  ne_nil : pieces ≠ []
  free : ∀ piece ∈ pieces, ¬mark <:+: piece
  joined : mark.intercalate pieces = text

/-- A text is a template with a value in every place of the placeholder. -/
def Fills (value template filled : String) : Prop :=
  ∃ pieces, Divides placeholder template.toList pieces ∧
    filled.toList = value.toList.intercalate pieces

/-! ### Dividing -/

section Dividing

variable {mark tail value text extra gap piece other : List Char}
  {pieces others : List (List Char)} {c first : Char}

lemma intercalate_cons (mark piece : List Char) (pieces : List (List Char)) :
    mark.intercalate (piece :: pieces) = piece ++ pieces.flatMap (mark ++ ·) := by
  induction pieces generalizing piece with
  | nil => rw [List.intercalate_singleton, List.flatMap_nil, List.append_nil]
  | cons next pieces ih =>
    rw [List.intercalate_cons_cons, ih next, List.flatMap_cons, List.append_assoc,
      List.append_assoc]

lemma Divides.cons_mark (hmark : mark ≠ []) (h : Divides mark text pieces) :
    Divides mark (mark ++ text) ([] :: pieces) where
  ne_nil := List.cons_ne_nil _ _
  free := List.forall_mem_cons.2 ⟨mt List.infix_nil.1 hmark, h.free⟩
  joined := by rw [List.intercalate_cons_of_ne_nil h.ne_nil, h.joined, List.nil_append]

lemma Divides.cons_char (hstart : ¬mark <+: c :: text) (h : Divides mark text (piece :: pieces)) :
    Divides mark (c :: text) ((c :: piece) :: pieces) where
  ne_nil := List.cons_ne_nil _ _
  free := by
    obtain ⟨hpiece, hpieces⟩ := List.forall_mem_cons.1 h.free
    refine List.forall_mem_cons.2 ⟨?_, hpieces⟩
    rw [List.infix_cons_iff, not_or]
    refine ⟨fun hfront => hstart (hfront.trans ?_), hpiece⟩
    rw [← h.joined, intercalate_cons, List.cons_prefix_cons]
    exact ⟨rfl, List.prefix_append ..⟩
  joined := by
    rw [intercalate_cons, List.cons_append, ← intercalate_cons, h.joined]

/-- Substitution puts the value between the pieces of a text, whatever the value. -/
lemma exists_substitute_eq (hmark : mark ≠ []) (text : List Char) (skip : ℕ) :
    ∃ pieces, Divides mark (text.drop skip) pieces ∧
      ∀ value, substitute mark value skip text = value.intercalate pieces := by
  induction text generalizing skip with
  | nil =>
    refine ⟨[[]], ⟨List.cons_ne_nil _ _, ?_, ?_⟩, fun value => ?_⟩
    · simpa using hmark
    · simp
    · rw [substitute, List.intercalate_singleton]
  | cons c text ih =>
    rcases skip with _ | skip
    · by_cases hstart : mark <+: c :: text
      · obtain ⟨pieces, hpieces, hvalue⟩ := ih (mark.length - 1)
        have hdrop : mark ++ text.drop (mark.length - 1) = c :: text := by
          have hlength : mark.length = mark.length - 1 + 1 := by
            have := List.length_pos_iff.2 hmark
            omega
          rw [← List.prefix_iff_eq_append.1 hstart, hlength, List.drop_succ_cons]
          rfl
        refine ⟨[] :: pieces, hdrop ▸ hpieces.cons_mark hmark, fun value => ?_⟩
        rw [substitute, if_pos (List.isPrefixOf_iff_prefix.2 hstart), hvalue,
          List.intercalate_cons_of_ne_nil hpieces.ne_nil, List.nil_append]
      · obtain ⟨_ | ⟨piece, pieces⟩, hpieces, hvalue⟩ := ih 0
        · exact absurd rfl hpieces.ne_nil
        · refine ⟨(c :: piece) :: pieces, hpieces.cons_char hstart, fun value => ?_⟩
          rw [substitute, if_neg (mt List.isPrefixOf_iff_prefix.1 hstart), hvalue,
            intercalate_cons, intercalate_cons, List.cons_append]
    · -- the character is a part of a mark that began before it
      obtain ⟨pieces, hpieces, hvalue⟩ := ih skip
      exact ⟨pieces, hpieces, fun value => by rw [substitute, hvalue]⟩

/-- A mark whose first character does not come again has no two places that overlap. -/
lemma extra_eq_nil (hfirst : first ∉ tail) (hfree : ¬first :: tail <:+: extra)
    (hextra : extra ++ gap = [] ∨ first :: tail <+: extra ++ gap)
    (hgap : gap = [] ∨ first :: tail <+: gap) : extra = [] := by
  rcases extra with _ | ⟨e, extra⟩
  · rfl
  · exfalso
    obtain ⟨after, hafter⟩ := hextra.resolve_left (List.cons_ne_nil _ _)
    rcases List.append_eq_append_iff.1 hafter with ⟨left, hleft, -⟩ | ⟨right, hright, hrest⟩
    · exact hfree (hleft ▸ (List.prefix_append ..).isInfix)
    · rcases right with _ | ⟨d, right⟩
      · rw [List.append_nil] at hright
        exact hfree (hright ▸ List.infix_rfl)
      · -- the mark would begin again within itself
        subst hrest
        obtain ⟨rfl, -⟩ := List.cons_prefix_cons.1 (hgap.resolve_left (List.cons_ne_nil _ _))
        refine hfirst ?_
        rw [(List.cons.inj hright).2]
        exact List.mem_append_right _ (List.mem_cons_self ..)

/-- What stands before the first gap is the same in both divisions of a text. -/
lemma eq_of_gaps {gap' : List Char} (hfirst : first ∉ tail) (hpiece : ¬first :: tail <:+: piece)
    (hother : ¬first :: tail <:+: other) (hgap : gap = [] ∨ first :: tail <+: gap)
    (hgap' : gap' = [] ∨ first :: tail <+: gap') (h : piece ++ gap = other ++ gap') :
    piece = other ∧ gap = gap' := by
  rcases List.append_eq_append_iff.1 h with ⟨extra, rfl, hrest⟩ | ⟨extra, rfl, hrest⟩
  · have hfree : ¬first :: tail <:+: extra :=
      fun hwithin => hother (hwithin.trans (List.suffix_append piece extra).isInfix)
    obtain rfl := extra_eq_nil hfirst hfree (hrest ▸ hgap) hgap'
    exact ⟨(List.append_nil piece).symm, hrest⟩
  · have hfree : ¬first :: tail <:+: extra :=
      fun hwithin => hpiece (hwithin.trans (List.suffix_append other extra).isInfix)
    obtain rfl := extra_eq_nil hfirst hfree (hrest ▸ hgap') hgap
    exact ⟨List.append_nil other, hrest.symm⟩

lemma gap_nil_or_mark (mark : List Char) (pieces : List (List Char)) :
    pieces.flatMap (mark ++ ·) = [] ∨ mark <+: pieces.flatMap (mark ++ ·) := by
  rcases pieces with _ | ⟨piece, pieces⟩
  · exact Or.inl rfl
  · rw [List.flatMap_cons, List.append_assoc]
    exact Or.inr (List.prefix_append ..)

lemma pieces_eq (hfirst : first ∉ tail) (hfree : ∀ p ∈ piece :: pieces, ¬first :: tail <:+: p)
    (hfree' : ∀ p ∈ other :: others, ¬first :: tail <:+: p)
    (h : piece ++ pieces.flatMap (first :: tail ++ ·) =
      other ++ others.flatMap (first :: tail ++ ·)) :
    piece :: pieces = other :: others := by
  induction pieces generalizing piece other others with
  | nil =>
    obtain ⟨rfl, hgaps⟩ := eq_of_gaps hfirst (hfree _ (List.mem_cons_self ..))
      (hfree' _ (List.mem_cons_self ..)) (Or.inl rfl) (gap_nil_or_mark ..) h
    rcases others with _ | ⟨other, others⟩
    · rfl
    · cases hgaps
  | cons next pieces ih =>
    obtain ⟨rfl, hgaps⟩ := eq_of_gaps hfirst (hfree _ (List.mem_cons_self ..))
      (hfree' _ (List.mem_cons_self ..)) (gap_nil_or_mark ..) (gap_nil_or_mark ..) h
    rcases others with _ | ⟨other, others⟩
    · cases hgaps
    · rw [List.flatMap_cons, List.flatMap_cons, List.append_assoc, List.append_assoc,
        List.append_cancel_left_eq] at hgaps
      rw [ih (List.forall_mem_cons.1 hfree).2 (List.forall_mem_cons.1 hfree').2 hgaps]

lemma Divides.unique (hfirst : first ∉ tail) (h : Divides (first :: tail) text pieces)
    (hothers : Divides (first :: tail) text others) : pieces = others := by
  obtain ⟨piece, pieces, rfl⟩ := List.exists_cons_of_ne_nil h.ne_nil
  obtain ⟨other, others, rfl⟩ := List.exists_cons_of_ne_nil hothers.ne_nil
  have hjoined := h.joined.trans hothers.joined.symm
  rw [intercalate_cons, intercalate_cons] at hjoined
  exact pieces_eq hfirst h.free hothers.free hjoined

end Dividing

/-! ### Putting a value in -/

section Filling

variable {mark value value' text before after : List Char} {pieces : List (List Char)}

/-- A value without characters of a mark separates what stands around it. -/
lemma infix_of_around (hmark : mark ≠ []) (hvalue : value ≠ []) (hforeign : ∀ c ∈ value, c ∉ mark)
    (h : mark <:+: before ++ (value ++ after)) : mark <:+: before ∨ mark <:+: after := by
  rcases List.infix_append_iff.1 h with hbefore | hbehind | ⟨left, right, rfl, hleft, hright⟩
  · exact Or.inl hbefore
  · rcases List.infix_append_iff.1 hbehind with hinside | hafter | ⟨left, right, rfl, hleft, hright⟩
    · obtain ⟨c, hc⟩ := List.exists_mem_of_ne_nil mark hmark
      exact absurd hc (hforeign c (hinside.subset hc))
    · exact Or.inr hafter
    · rcases left with _ | ⟨c, left⟩
      · exact Or.inr hright.isInfix
      · exact absurd (List.mem_cons_self ..) (hforeign c (hleft.subset (List.mem_cons_self ..)))
  · rcases right with _ | ⟨c, right⟩
    · rw [List.append_nil]
      exact Or.inl hleft.isInfix
    · obtain ⟨d, value, rfl⟩ := List.exists_cons_of_ne_nil hvalue
      obtain ⟨rfl, -⟩ := List.cons_prefix_cons.1 hright
      exact absurd (List.mem_append_right _ (List.mem_cons_self ..))
        (hforeign c (List.mem_cons_self ..))

lemma not_infix_filled (hmark : mark ≠ []) (hvalue : value ≠ []) (hforeign : ∀ c ∈ value, c ∉ mark)
    (hfree : ∀ piece ∈ pieces, ¬mark <:+: piece) : ¬mark <:+: value.intercalate pieces := by
  induction pieces with
  | nil => rwa [List.intercalate_nil, List.infix_nil]
  | cons piece pieces ih =>
    obtain ⟨hpiece, hpieces⟩ := List.forall_mem_cons.1 hfree
    rcases pieces with _ | ⟨next, pieces⟩
    · rwa [List.intercalate_singleton]
    · rw [List.intercalate_cons_cons, List.append_assoc]
      intro h
      rcases infix_of_around hmark hvalue hforeign h with hbefore | hafter
      · exact hpiece hbefore
      · exact ih hpieces hafter

lemma length_gaps (value : List Char) (pieces : List (List Char)) :
    (pieces.flatMap (value ++ ·)).length =
      pieces.length * value.length + pieces.flatten.length := by
  induction pieces with
  | nil => simp
  | cons piece pieces ih =>
    rw [List.flatMap_cons, List.length_append, List.length_append, ih, List.length_cons,
      List.flatten_cons, List.length_append, Nat.succ_mul]
    omega

/-- Different values make a divided text different. -/
lemma eq_of_gaps_filled (hpieces : pieces ≠ [])
    (h : pieces.flatMap (value ++ ·) = pieces.flatMap (value' ++ ·)) : value = value' := by
  have hlength : value.length = value'.length := by
    have hlengths := congrArg List.length h
    rw [length_gaps, length_gaps] at hlengths
    exact Nat.eq_of_mul_eq_mul_left (List.length_pos_iff.2 hpieces) (Nat.add_right_cancel hlengths)
  obtain ⟨piece, pieces, rfl⟩ := List.exists_cons_of_ne_nil hpieces
  rw [List.flatMap_cons, List.flatMap_cons, List.append_assoc, List.append_assoc] at h
  exact (List.append_inj h hlength).1

lemma Divides.intercalate_injective (h : Divides mark text pieces) (hmark : mark <:+: text) :
    Function.Injective fun value : List Char => value.intercalate pieces := by
  intro value value' hsame
  obtain ⟨piece, pieces, rfl⟩ := List.exists_cons_of_ne_nil h.ne_nil
  have hpieces : pieces ≠ [] := by
    rintro rfl
    have hjoined := h.joined
    rw [List.intercalate_singleton] at hjoined
    exact h.free piece (List.mem_cons_self ..) (hjoined ▸ hmark)
  simp only [intercalate_cons, List.append_cancel_left_eq] at hsame
  exact eq_of_gaps_filled hpieces hsame

end Filling

/-! ### Arguments -/

section Arguments

variable {invocation : Invocation} {size : UInt64} {template : String}

def argument (template : String) (size : UInt64) : String :=
  String.ofList (substitute placeholder (toString size).toList 0 template.toList)

lemma placeholder_ne_nil : placeholder ≠ [] := List.cons_ne_nil _ _

lemma not_mem_placeholder {c : Char} (hc : c ∈ (toString size).toList) : c ∉ placeholder := by
  have hdigit := isDigit_toString_size hc
  have hnone : placeholder.any Char.isDigit = false := by decide
  exact fun hmem => List.any_eq_false.1 hnone c hmem hdigit

lemma digits_ne_nil (size : UInt64) : (toString size).toList ≠ [] := by
  rw [toList_toString_size]
  exact Nat.toDigits_ne_nil

lemma divides_unique {text : List Char} {pieces others : List (List Char)}
    (h : Divides placeholder text pieces) (hothers : Divides placeholder text others) :
    pieces = others :=
  Divides.unique (by decide) h hothers

/-- The pieces of a template are the same for all sizes. -/
lemma exists_divides (template : String) : ∃ pieces, Divides placeholder template.toList pieces ∧
    ∀ size, (argument template size).toList = (toString size).toList.intercalate pieces := by
  obtain ⟨pieces, hpieces, hvalue⟩ := exists_substitute_eq placeholder_ne_nil template.toList 0
  exact ⟨pieces, hpieces, fun size => by rw [argument, String.toList_ofList, hvalue]⟩

lemma fills_argument (template : String) (size : UInt64) :
    Fills (toString size) template (argument template size) := by
  obtain ⟨pieces, hpieces, hvalue⟩ := exists_divides template
  exact ⟨pieces, hpieces, hvalue size⟩

lemma not_infix_argument (template : String) (size : UInt64) :
    ¬placeholder <:+: (argument template size).toList := by
  obtain ⟨pieces, hpieces, hvalue⟩ := exists_divides template
  rw [hvalue]
  exact not_infix_filled placeholder_ne_nil (digits_ne_nil size) (fun _ => not_mem_placeholder)
    hpieces.free

lemma argument_eq_self (h : ¬placeholder <:+: template.toList) :
    argument template size = template := by
  obtain ⟨pieces, hpieces, hvalue⟩ := exists_divides template
  have hwhole : Divides placeholder template.toList [template.toList] :=
    ⟨List.cons_ne_nil _ _, by simpa using h, List.intercalate_singleton⟩
  obtain rfl := divides_unique hpieces hwhole
  exact String.toList_injective ((hvalue size).trans List.intercalate_singleton)

lemma toString_injective : Function.Injective fun size : UInt64 => (toString size).toList := by
  intro size other hsame
  have hread := congrArg size? (String.toList_injective hsame)
  rw [size?_toString, size?_toString] at hread
  exact Option.some.inj hread

lemma argument_injective (h : placeholder <:+: template.toList) :
    Function.Injective (argument template) := by
  obtain ⟨pieces, hpieces, hvalue⟩ := exists_divides template
  intro size other hsame
  refine toString_injective (hpieces.intercalate_injective h ?_)
  exact (hvalue size).symm.trans ((congrArg String.toList hsame).trans (hvalue other))

lemma argsFor_of_named (h : ∃ template ∈ invocation.args, placeholder <:+: template.toList)
    (size : UInt64) : invocation.argsFor size = invocation.args.map (argument · size) := by
  have hany : invocation.args.any (fun a => Text.occurs placeholder a.toList) = true := by
    simpa [Text.occurs_iff] using h
  unfold argsFor
  rw [if_pos hany]
  rfl

lemma argsFor_of_unnamed (h : ¬∃ template ∈ invocation.args, placeholder <:+: template.toList)
    (size : UInt64) : invocation.argsFor size = invocation.args ++ [toString size] := by
  have hany : ¬invocation.args.any (fun a => Text.occurs placeholder a.toList) = true := by
    simpa [Text.occurs_iff] using h
  have hsame : invocation.args.map (argument · size) = invocation.args := by
    refine (List.map_congr_left fun template htemplate => ?_).trans (List.map_id _)
    exact argument_eq_self fun hplace => h ⟨template, htemplate, hplace⟩
  unfold argsFor
  rw [if_neg hany]
  exact congrArg (· ++ [toString size]) hsame

lemma not_infix_toString (size : UInt64) : ¬placeholder <:+: (toString size).toList := by
  intro h
  obtain ⟨c, hc⟩ := List.exists_mem_of_ne_nil placeholder placeholder_ne_nil
  exact not_mem_placeholder (h.subset hc) hc

lemma not_infix_argsFor (invocation : Invocation) (size : UInt64) :
    ∀ arg ∈ invocation.argsFor size, ¬placeholder <:+: arg.toList := by
  by_cases hnamed : ∃ template ∈ invocation.args, placeholder <:+: template.toList
  · rw [argsFor_of_named hnamed, List.forall_mem_map]
    exact fun template _ => not_infix_argument template size
  · rw [argsFor_of_unnamed hnamed, List.forall_mem_append, List.forall_mem_singleton]
    exact ⟨fun template htemplate hplace => hnamed ⟨template, htemplate, hplace⟩,
      not_infix_toString size⟩

lemma argsFor_injective (invocation : Invocation) : Function.Injective invocation.argsFor := by
  intro size other hsame
  by_cases hnamed : ∃ template ∈ invocation.args, placeholder <:+: template.toList
  · rw [argsFor_of_named hnamed, argsFor_of_named hnamed] at hsame
    obtain ⟨template, htemplate, hplace⟩ := hnamed
    exact argument_injective hplace (List.map_inj_left.1 hsame template htemplate)
  · rw [argsFor_of_unnamed hnamed, argsFor_of_unnamed hnamed, List.append_cancel_left_eq] at hsame
    exact toString_injective (congrArg String.toList (List.singleton_inj.1 hsame))

/-- **Every invocation carries its own size.**  A text has one division at the placeholder.  If a
template among the arguments has a place for the size, each of them is given with the decimal size
in all its places; otherwise the size is added as the last argument.  No placeholder is left
either way, and different sizes give different arguments. -/
theorem argsFor_carries_size (invocation : Invocation) :
    let named := ∃ template ∈ invocation.args, placeholder <:+: template.toList
    (∀ text, ∃! pieces, Divides placeholder text pieces) ∧
    (∀ size, ∀ arg ∈ invocation.argsFor size, ¬placeholder <:+: arg.toList) ∧
    (named → ∀ size,
      List.Forall₂ (Fills (toString size)) invocation.args (invocation.argsFor size)) ∧
    (¬named → ∀ size, invocation.argsFor size = invocation.args ++ [toString size]) ∧
    Function.Injective invocation.argsFor := by
  intro named
  refine ⟨fun text => ?_, not_infix_argsFor invocation, fun hnamed size => ?_, argsFor_of_unnamed,
    argsFor_injective invocation⟩
  · obtain ⟨pieces, hpieces, -⟩ := exists_substitute_eq placeholder_ne_nil text 0
    exact ⟨pieces, hpieces, fun others hothers => divides_unique hothers hpieces⟩
  · rw [argsFor_of_named hnamed, List.forall₂_map_right_iff, List.forall₂_same]
    exact fun template _ => fills_argument template size

example : argsFor ⟨"app", ["{si{size}ze}", "-n"], none, []⟩ 8 = ["{si8ze}", "-n"] := by
  decide +kernel

end Arguments

end SizeSweep.Invocation
