import SizeSweep.Proofs.Csv.Lines

/-!
Lines cut short.  A part of some lines, from their front, is some whole lines and a part of the
next one; and a part of a line is a line again, up to its line feed: some of its fields, the last
of them cut.
-/

namespace SizeSweep.Csv

/-- The fields of a line that ends inside one of its fields. -/
def Cut (line cut : List Bytes) : Prop :=
  ∃ before field after part, line = before ++ field :: after ∧ part <+: field ∧
    cut = before ++ [part]

section Cuts

variable {line cut : List Bytes} {field part torn : Bytes} {lines : List (List Bytes)}

lemma Bare.beginning (h : Bare field) (hpart : part <+: field) : Bare part where
  inside b hb := h.inside b (hpart.subset hb)
  first hq := by
    obtain ⟨rest, rfl⟩ := hpart
    refine h.first ?_
    rw [List.head?_append, hq]
    rfl

lemma Cut.cons (h : Cut line cut) (field : Bytes) : Cut (field :: line) (field :: cut) := by
  obtain ⟨before, last, after, part, rfl, hpart, rfl⟩ := h
  exact ⟨field :: before, last, after, part, rfl, hpart, rfl⟩

/-- A part of a line is a line with its last field cut. -/
lemma exists_cut (hne : line ≠ []) (h : part <+: List.intercalate [comma] line) :
    ∃ cut, Cut line cut ∧ part = List.intercalate [comma] cut := by
  induction line generalizing part with
  | nil => exact absurd rfl hne
  | cons field line ih =>
    rcases line with _ | ⟨next, line⟩
    · rw [List.intercalate_singleton] at h
      exact ⟨[part], ⟨[], field, [], part, rfl, h, rfl⟩, by simp⟩
    · rw [List.intercalate_cons_cons, List.append_assoc, List.singleton_append] at h
      obtain ⟨lost, hlost⟩ := h
      rcases List.append_eq_append_iff.1 hlost with ⟨left, hfield, -⟩ | ⟨more, rfl, hmore⟩
      · -- the cut falls inside the first field
        exact ⟨[part], ⟨[], field, next :: line, part, rfl, ⟨left, hfield.symm⟩, rfl⟩, by simp⟩
      · rcases more with _ | ⟨b, more⟩
        · -- the cut falls between the first field and its comma
          rw [List.append_nil]
          exact ⟨[field], ⟨[], field, next :: line, field, rfl, List.prefix_refl _, rfl⟩, by simp⟩
        · -- the cut falls behind the comma
          obtain ⟨rfl, htail⟩ := List.cons.inj hmore
          obtain ⟨cut, hcut, rfl⟩ := ih (by simp) ⟨lost, htail.symm⟩
          refine ⟨field :: cut, hcut.cons field, ?_⟩
          obtain ⟨before, -, -, last, -, -, rfl⟩ := hcut
          rcases before with _ | ⟨first, before⟩ <;> simp [List.intercalate_cons_cons]

lemma Cut.regular (h : Cut line cut) (hline : Regular line)
    (hne : List.intercalate [comma] cut ≠ []) : Regular cut := by
  obtain ⟨before, field, after, part, rfl, hpart, rfl⟩ := h
  refine ⟨fun f hf => ?_, ?_⟩
  · rcases List.mem_append.1 hf with hf | hf
    · exact hline.bare f (by simp [hf])
    · obtain rfl := List.mem_singleton.1 hf
      exact (hline.bare field (by simp)).beginning hpart
  · rcases before with _ | ⟨first, before⟩
    · obtain ⟨b, bs, rfl⟩ := List.exists_cons_of_ne_nil (by simpa using hne : part ≠ [])
      exact ⟨b, bs, rfl⟩
    · obtain ⟨b, bs, hfirst⟩ := hline.first
      exact ⟨b, bs, hfirst⟩

/-- What a cut line lacks is the rest of its last field. -/
lemma intercalate_concat (fields : List Bytes) (part rest : Bytes) :
    List.intercalate [comma] (fields ++ [part ++ rest]) =
      List.intercalate [comma] (fields ++ [part]) ++ rest := by
  induction fields with
  | nil => simp
  | cons field fields ih =>
    rcases fields with _ | ⟨next, fields⟩
    · simp [List.intercalate_cons_cons]
    · simp only [List.cons_append, List.intercalate_cons_cons, List.append_assoc] at ih ⊢
      rw [ih]

/-- A part of some lines is some of them and a part of the next one. -/
lemma exists_whole_lines (h : torn <+: text lines) :
    ∃ done rest part, lines = done ++ rest ∧ torn = text done ++ part ∧
      (part = [] ∨ ∃ line ∈ rest.head?, part <+: List.intercalate [comma] line) := by
  induction lines generalizing torn with
  | nil => exact ⟨[], [], torn, rfl, rfl, Or.inl (List.prefix_nil.1 h)⟩
  | cons line lines ih =>
    obtain ⟨lost, hlost⟩ := h
    have htext : text (line :: lines) = lineOf line ++ text lines := List.flatMap_cons
    rw [htext] at hlost
    rcases List.append_eq_append_iff.1 hlost with ⟨left, hline, -⟩ | ⟨more, rfl, hmore⟩
    · rcases List.prefix_concat_iff.1 ⟨left, hline.symm⟩ with rfl | hpart
      · exact ⟨[line], lines, [], rfl, by simp [text, lineOf], Or.inl rfl⟩
      · exact ⟨[], line :: lines, torn, rfl, rfl, Or.inr ⟨line, rfl, hpart⟩⟩
    · obtain ⟨done, rest, part, rfl, rfl, hpart⟩ := ih ⟨lost, hmore.symm⟩
      refine ⟨line :: done, rest, part, rfl, ?_, hpart⟩
      have hdone : text (line :: done) = lineOf line ++ text done := List.flatMap_cons
      rw [hdone, List.append_assoc]

/-- **A part of regular lines** is some of them, or it lacks only a line feed to be some of them
and a regular cut of the next one. -/
theorem torn_text (hlines : ∀ line ∈ lines, Regular line) (h : torn <+: text lines) :
    ∃ done rest, lines = done ++ rest ∧ (torn = text done ∨
      ∃ line ∈ rest.head?, ∃ cut, Cut line cut ∧ Regular cut ∧
        torn ++ [0x0A] = text (done ++ [cut]) ∧ torn.getLast? ≠ some 0x0A) := by
  obtain ⟨done, rest, part, rfl, rfl, hpart⟩ := exists_whole_lines h
  refine ⟨done, rest, rfl, ?_⟩
  by_cases hne : part = []
  · rw [hne, List.append_nil]
    exact Or.inl rfl
  · obtain ⟨line, hline, hpart⟩ := hpart.resolve_left hne
    have hregular : Regular line :=
      hlines line (List.mem_append_right _ (List.mem_of_mem_head? hline))
    obtain ⟨b, field, hfirst⟩ := hregular.first
    have hfields : line ≠ [] := by
      rintro rfl
      cases hfirst
    obtain ⟨cut, hcut, rfl⟩ := exists_cut hfields hpart
    refine Or.inr ⟨line, hline, cut, hcut, hcut.regular hregular hne, ?_, ?_⟩
    · simp [text, lineOf]
    · -- a line feed at the end would stand inside the line that is cut
      intro hlast
      obtain ⟨last, hlast'⟩ := Option.ne_none_iff_exists'.1 (mt List.getLast?_eq_none_iff.1 hne)
      rw [List.getLast?_append, hlast'] at hlast
      obtain rfl : last = 0x0A := by simpa using hlast
      rcases mem_intercalate (hpart.subset (List.mem_of_getLast? hlast')) with hmem | ⟨f, hf, hmem⟩
      · exact absurd hmem (by decide)
      · exact absurd ((hregular.bare f hf).inside _ hmem).2 (by decide)

end Cuts

end SizeSweep.Csv
