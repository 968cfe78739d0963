import Mathlib.Data.List.DropRight
import Mathlib.Tactic.Common
import SizeSweep.Text.Blank
import SizeSweep.Text.Utf8

/-!
What trimming keeps: a text whose ends are not blank stays as it is, a trimmed text has no blank
ends, and every character that is not blank is kept as often as it stands there.
-/

namespace SizeSweep.Text

/-! ### Both ends of a list -/

section Ends

variable {α : Type} {p : α → Bool} {l : List α}

lemma dropWhile_eq_self_of_head? (h : ∀ x ∈ l.head?, p x = false) : l.dropWhile p = l := by
  cases l with
  | nil => rfl
  | cons x l => exact List.dropWhile_cons_of_neg (by simp [h x rfl])

lemma head?_dropWhile {x : α} (h : x ∈ (l.dropWhile p).head?) : p x = false := by
  have := List.head?_dropWhile_not p l
  rw [Option.mem_def.1 h] at this
  simpa using this

lemma count_dropWhile [DecidableEq α] {x : α} (hx : p x = false) :
    (l.dropWhile p).count x = l.count x := by
  induction l with
  | nil => rfl
  | cons y l ih =>
    by_cases hy : p y
    · have hne : y ≠ x := by
        rintro rfl
        simp [hx] at hy
      rw [List.dropWhile_cons_of_pos hy, ih, List.count_cons_of_ne hne]
    · rw [List.dropWhile_cons_of_neg hy]

/-- Both ends are kept if neither is to be dropped. -/
lemma dropEnds_eq_self (hfirst : ∀ x ∈ l.head?, p x = false)
    (hlast : ∀ x ∈ l.getLast?, p x = false) :
    ((l.dropWhile p).reverse.dropWhile p).reverse = l := by
  rw [dropWhile_eq_self_of_head? hfirst, dropWhile_eq_self_of_head?, List.reverse_reverse]
  rwa [List.head?_reverse]

lemma count_dropEnds [DecidableEq α] {x : α} (hx : p x = false) :
    ((l.dropWhile p).reverse.dropWhile p).reverse.count x = l.count x := by
  rw [List.count_reverse, count_dropWhile hx, List.count_reverse, count_dropWhile hx]

lemma getLast?_dropEnds {x : α}
    (h : x ∈ ((l.dropWhile p).reverse.dropWhile p).reverse.getLast?) : p x = false := by
  rw [List.getLast?_reverse] at h
  exact head?_dropWhile h

lemma head?_dropEnds {x : α} (h : x ∈ ((l.dropWhile p).reverse.dropWhile p).reverse.head?) :
    p x = false := by
  obtain ⟨ys, hys⟩ : ((l.dropWhile p).reverse.dropWhile p).reverse <+: l.dropWhile p :=
    List.rdropWhile_prefix p (l.dropWhile p)
  refine head?_dropWhile (l := l) ?_
  rw [← hys, List.head?_append, Option.mem_def.1 h]
  rfl

/-- What is to be dropped around a list makes no difference. -/
lemma dropEnds_append {front back : List α} (hfront : ∀ x ∈ front, p x = true)
    (hback : ∀ x ∈ back, p x = true) :
    (((front ++ (l ++ back)).dropWhile p).reverse.dropWhile p).reverse =
      ((l.dropWhile p).reverse.dropWhile p).reverse := by
  rw [List.dropWhile_append_of_pos hfront, List.dropWhile_append]
  split_ifs with hempty
  · rw [List.isEmpty_iff.1 hempty, List.dropWhile_eq_nil_iff.2 hback]
  · rw [List.reverse_append, List.dropWhile_append_of_pos (by simpa using hback)]

lemma dropEnds_concat {x : α} (hx : p x = true) :
    (((l ++ [x]).dropWhile p).reverse.dropWhile p).reverse =
      ((l.dropWhile p).reverse.dropWhile p).reverse :=
  dropEnds_append (List.forall_mem_nil (p · = true)) (List.forall_mem_singleton.2 hx)

end Ends

/-! ### Characters -/

variable {cs : List Char} {c : Char}

lemma trim_eq_self (hfirst : ∀ c ∈ cs.head?, isBlank c = false)
    (hlast : ∀ c ∈ cs.getLast?, isBlank c = false) : trim cs = cs :=
  dropEnds_eq_self hfirst hlast

/-- Blank characters around a text are trimmed. -/
lemma trim_append {front back : List Char} (hfront : ∀ c ∈ front, isBlank c = true)
    (hback : ∀ c ∈ back, isBlank c = true) : trim (front ++ (cs ++ back)) = trim cs :=
  dropEnds_append hfront hback

lemma isBlank_head?_trim (cs : List Char) (h : c ∈ (trim cs).head?) : isBlank c = false := head?_dropEnds h

lemma isBlank_getLast?_trim (cs : List Char) (h : c ∈ (trim cs).getLast?) : isBlank c = false :=
  getLast?_dropEnds h

lemma count_trim (h : isBlank c = false) : (trim cs).count c = cs.count c := count_dropEnds h

lemma mem_of_mem_trim (h : c ∈ trim cs) : c ∈ cs := by
  unfold trim at h
  rw [List.mem_reverse] at h
  exact List.dropWhile_subset _ (List.mem_reverse.1 (List.dropWhile_subset _ h))

lemma trimmed_eq_self {s : String} (hfirst : ∀ c ∈ s.toList.head?, isBlank c = false)
    (hlast : ∀ c ∈ s.toList.getLast?, isBlank c = false) : trimmed s = s := by
  unfold trimmed
  rw [trim_eq_self hfirst hlast, String.ofList_toList]

/-- A text is trimmed once. -/
theorem trimmed_trimmed (s : String) : trimmed (trimmed s) = trimmed s := by
  refine trimmed_eq_self (fun c hc => ?_) (fun c hc => ?_)
  · exact isBlank_head?_trim s.toList (by simpa [trimmed] using hc)
  · exact isBlank_getLast?_trim s.toList (by simpa [trimmed] using hc)

/-- A blank character at the end is trimmed. -/
lemma trimmed_append_blank (s : String) (h : isBlank c = true) :
    trimmed (s ++ String.ofList [c]) = trimmed s := by
  unfold trimmed trim
  rw [String.toList_append, String.toList_ofList, dropEnds_concat h]

/-! ### Bytes -/

lemma trimBytes_eq_self {bs : Bytes} (h : ∀ b ∈ bs, isBlankByte b = false) :
    trimBytes bs = bs :=
  dropEnds_eq_self (fun b hb => h b (List.mem_of_mem_head? hb))
    (fun b hb => h b (List.mem_of_mem_getLast? hb))

lemma trimBytes_concat {b : UInt8} (bs : Bytes) (h : isBlankByte b = true) :
    trimBytes (bs ++ [b]) = trimBytes bs := dropEnds_concat h

end SizeSweep.Text
