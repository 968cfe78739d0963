import SizeSweep.Proofs.Sample

/-!
Values among formatting.  Control sequences can stand anywhere in the value of a line, several in a
row and between the digits too, and white space around its number; the number is read as it stands
there without them.
-/

namespace SizeSweep

open ControlSequence

/-! ### White space and introducers -/

lemma isIntroducer_of_isBlank {c : Char} (h : Text.isBlank c = true) : isIntroducer c = false := by
  rw [isIntroducer_eq_false]
  constructor
  · rintro rfl
    exact absurd h (by decide)
  · rintro rfl
    exact absurd h (by decide)

namespace Sample

section Decoration

variable {label number : String} {v : Binary64} {before front back plain text : List Char}

/-! ### Decorated numbers -/

lemma isIntroducer_of_mem_surrounded (hnumber : Binary64.IsNumeral number.toList)
    (hfront : ∀ c ∈ front, Text.isBlank c = true) (hback : ∀ c ∈ back, Text.isBlank c = true) :
    ∀ c ∈ front ++ (number.toList ++ back), isIntroducer c = false := by
  simp only [List.forall_mem_append]
  exact ⟨fun c hc => isIntroducer_of_isBlank (hfront c hc),
    fun c hc => isIntroducer_of_isNumeralChar (hnumber.chars c hc),
    fun c hc => isIntroducer_of_isBlank (hback c hc)⟩

/-- **A number is read through any formatting.**  Where a line has the label of a metric anywhere,
its first delimiter is followed by the text of a finite number between white space, and complete
control sequences stand anywhere in what follows the delimiter, the line reports this number. -/
theorem extract_decorated (label number : String) (v : Binary64)
    (before front back text : List Char)
    (hlabel : label.toList <:+: before ++ (delimiter ++ text)) (hbefore : ¬delimiter <:+: before)
    (hnumber : Binary64.ofText? number = some v) (hfinite : v.isFinite = true)
    (hfront : ∀ c ∈ front, Text.isBlank c = true) (hback : ∀ c ∈ back, Text.isBlank c = true)
    (htext : Decorated (front ++ (number.toList ++ back)) text) :
    extract (before ++ (delimiter ++ text)) label = some (.ok v) := by
  have hnumeral := Binary64.isNumeral_of_ofText? hnumber hfinite
  rw [extract_eq_value hlabel hbefore htext (isIntroducer_of_mem_surrounded hnumeral hfront hback),
    Text.trim_append hfront hback, trim_number hnumeral, String.ofList_toList,
    value_of_finite hnumber hfinite]

/-- Sequences of both forms: in a row, between the digits, behind the white space, and with a final
character that could stand in a number. -/
theorem extract_decorated_digits :
    let colour := ['\x1b', '[', '3', '3', 'm']
    let erase := ['\x1b', '[', '2', ' ', 'K']
    let letter := ['\u009b', '5', 'e']
    let text := colour ++ ' ' :: '7' :: (letter ++ (erase ++ '.' :: '2' :: (letter ++ '5' :: '\t' ::
      (erase ++ ['\r']))))
    Decorated [' ', '7', '.', '2', '5', '\t', '\r'] text ∧
      extract (['m', 'e', 'a', 'n'] ++ colour ++ (delimiter ++ text)) "mean" =
        some (.ok (Binary64.ofNat 29 / Binary64.ofNat 4)) := by
  intro colour erase letter text
  have hcolour : Complete colour := by decide
  have herase : Complete erase := by decide
  have hletter : Complete letter := by decide
  have htext : Decorated [' ', '7', '.', '2', '5', '\t', '\r'] text :=
    .sequence hcolour <| .character ' ' <| .character '7' <| .sequence hletter <|
      .sequence herase <| .character '.' <| .character '2' <| .sequence hletter <|
      .character '5' <| .character '\t' <| .sequence herase <| .character '\r' .nil
  exact ⟨htext, extract_decorated "mean" "7.25" (Binary64.ofNat 29 / Binary64.ofNat 4) _ [' ']
    ['\t', '\r'] text (by decide) (by decide) (by decide +kernel) (by decide +kernel)
    (by simp [Text.isBlank, Text.blankRanges]) (by simp [Text.isBlank, Text.blankRanges]) htext⟩

end Decoration

end Sample

end SizeSweep
