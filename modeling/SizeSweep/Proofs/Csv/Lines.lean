import Mathlib.Data.List.Basic
import Mathlib.Tactic.Common
import SizeSweep.Csv
import SizeSweep.Proofs.Text.Encoding

/-!
Lines as they are written, and the reader over them.  A field is *bare* if the reader takes it as
it stands: it has no comma and no line end, and it does not begin with a quote.  Lines of bare
fields are read back field by field, and the reader is between two records after each of them.
-/

namespace SizeSweep.Csv

/-- The place after some bytes. -/
def Position.after (p : Position) (bs : Bytes) : Position := bs.foldl Position.next p

lemma Position.after_append (p : Position) (as bs : Bytes) :
    p.after (as ++ bs) = (p.after as).after bs := List.foldl_append

/-! ### Bare fields -/

/-- A field that the reader takes as it stands. -/
structure Bare (field : Bytes) : Prop where
  inside : ∀ b ∈ field, b ≠ comma ∧ isLineEnd b = false
  first : field.head? ≠ some quote

section Reader

variable {fields : List Bytes} {acc field rest : Bytes} {start here : Position} {b : UInt8}

lemma stepUnquoted_inside (p : Pending) (h : b ≠ comma ∧ isLineEnd b = false) :
    stepUnquoted p b = .goOn .unquoted (p.push b) := by
  simp [stepUnquoted, h]

/-- Between records only a line end is treated in a way of its own. -/
lemma recordsFrom_between (p : Pending) (hb : isLineEnd b = false) :
    recordsFrom .between p start here (b :: rest) =
      recordsFrom .fieldStart p start here (b :: rest) := by
  simp [recordsFrom, step, hb]

lemma recordsFrom_unquoted (h : ∀ b ∈ field, b ≠ comma ∧ isLineEnd b = false) :
    recordsFrom .unquoted ⟨fields, acc⟩ start here (field ++ rest) =
      recordsFrom .unquoted ⟨fields, field.reverse ++ acc⟩ start (here.after field) rest := by
  induction field generalizing acc here with
  | nil => rfl
  | cons b field ih =>
    obtain ⟨hb, hfield⟩ := List.forall_mem_cons.1 h
    rw [List.cons_append, recordsFrom, step, stepUnquoted_inside _ hb]
    simp only [Pending.push]
    rw [ih hfield, List.reverse_cons, List.append_assoc]
    rfl

/-- What ends a field ends a bare one with all its bytes. -/
lemma recordsFrom_bare (hfield : Bare field) (hb : b = comma ∨ isLineEnd b = true) :
    recordsFrom .fieldStart ⟨fields, []⟩ start here (field ++ b :: rest) =
      recordsFrom .unquoted ⟨fields, field.reverse⟩ start (here.after field) (b :: rest) := by
  have hq : b ≠ quote := by
    rintro rfl
    revert hb
    decide
  rcases field with _ | ⟨a, field⟩
  · simp [recordsFrom, step, hq, Position.after]
  · obtain ⟨ha, htail⟩ := List.forall_mem_cons.1 hfield.inside
    have hqa : a ≠ quote := by simpa using hfield.first
    rw [List.cons_append, recordsFrom, step, if_neg hqa, stepUnquoted_inside _ ha]
    simp only [Pending.push]
    rw [recordsFrom_unquoted htail, List.reverse_cons]
    rfl

lemma recordsFrom_comma (hfield : Bare field) :
    recordsFrom .fieldStart ⟨fields, []⟩ start here (field ++ comma :: rest) =
      recordsFrom .fieldStart ⟨field :: fields, []⟩ start (here.after (field ++ [comma])) rest := by
  rw [recordsFrom_bare hfield (Or.inl rfl), recordsFrom, step, stepUnquoted, if_pos rfl,
    Position.after_append]
  simp [Pending.endField, Position.after]

lemma recordsFrom_lineEnd (hfield : Bare field) (hb : isLineEnd b = true) :
    recordsFrom .fieldStart ⟨fields, []⟩ start here (field ++ b :: rest) =
      ⟨start, fields.reverse ++ [field]⟩ ::
        recordsFrom .between {} (here.after (field ++ [b])) (here.after (field ++ [b])) rest := by
  have hc : b ≠ comma := by
    rintro rfl
    revert hb
    decide
  rw [recordsFrom_bare hfield (Or.inr hb), recordsFrom, step, stepUnquoted, if_neg hc, if_pos hb,
    Position.after_append]
  simp [Pending.record, Pending.endField, Position.after]

end Reader

/-! ### Lines -/

def lineOf (fields : List Bytes) : Bytes := List.intercalate [comma] fields ++ [0x0A]

@[simp] lemma lineOf_singleton (field : Bytes) : lineOf [field] = field ++ [0x0A] := by
  simp [lineOf]

lemma lineOf_cons_cons (field next : Bytes) (fields : List Bytes) :
    lineOf (field :: next :: fields) = field ++ comma :: lineOf (next :: fields) := by
  simp [lineOf, List.intercalate_cons_cons]

lemma mem_intercalate {fields : List Bytes} {b : UInt8}
    (h : b ∈ List.intercalate [comma] fields) : b = comma ∨ ∃ field ∈ fields, b ∈ field := by
  induction fields with
  | nil => simp at h
  | cons field fields ih =>
    rcases fields with _ | ⟨next, fields⟩
    · exact Or.inr ⟨field, by simp, by simpa using h⟩
    · rw [List.intercalate_cons_cons, List.append_assoc, List.singleton_append] at h
      rcases List.mem_append.1 h with h | h
      · exact Or.inr ⟨field, by simp, h⟩
      · rcases List.mem_cons.1 h with h | h
        · exact Or.inl h
        · rcases ih h with h | ⟨f, hf, h⟩
          · exact Or.inl h
          · exact Or.inr ⟨f, List.mem_cons_of_mem _ hf, h⟩

lemma mem_lineOf {fields : List Bytes} {b : UInt8} (h : b ∈ lineOf fields) :
    b = comma ∨ b = 0x0A ∨ ∃ field ∈ fields, b ∈ field := by
  rcases List.mem_append.1 h with h | h
  · rcases mem_intercalate h with h | h
    · exact Or.inl h
    · exact Or.inr (Or.inr h)
  · exact Or.inr (Or.inl (List.mem_singleton.1 h))

lemma line_eq (fields : List String) : line fields = lineOf (fields.map Text.encode) := by
  unfold line lineOf
  rw [Text.encode_append]
  congr 1
  unfold Text.encode
  rw [String.toList_intercalate]
  induction fields with
  | nil => rfl
  | cons field fields ih =>
    rcases fields with _ | ⟨next, fields⟩
    · simp
    · simp only [List.map_cons, List.intercalate_cons_cons, List.flatMap_append] at ih ⊢
      rw [ih]
      rfl

/-- Lines that the reader gives back: their fields are bare, and the first one is not empty. -/
structure Regular (fields : List Bytes) : Prop where
  bare : ∀ field ∈ fields, Bare field
  first : ∃ b field, fields.head? = some (b :: field)

section Lines

variable {done fields : List Bytes} {rest : Bytes} {start here : Position}

lemma recordsFrom_fields (hne : fields ≠ []) (hbare : ∀ field ∈ fields, Bare field) :
    recordsFrom .fieldStart ⟨done, []⟩ start here (lineOf fields ++ rest) =
      ⟨start, done.reverse ++ fields⟩ ::
        recordsFrom .between {} (here.after (lineOf fields)) (here.after (lineOf fields)) rest := by
  induction fields generalizing done here with
  | nil => exact absurd rfl hne
  | cons field fields ih =>
    obtain ⟨hfield, hrest⟩ := List.forall_mem_cons.1 hbare
    rcases fields with _ | ⟨next, fields⟩
    · rw [lineOf_singleton, List.append_assoc, List.singleton_append,
        recordsFrom_lineEnd hfield rfl]
    · rw [lineOf_cons_cons, List.append_assoc, List.cons_append, recordsFrom_comma hfield,
        ih (by simp) hrest, ← Position.after_append, List.reverse_cons]
      simp

/-- **A regular line is one record**, and after it the reader is between records again. -/
lemma recordsFrom_line (hline : Regular fields) :
    recordsFrom .between {} start here (lineOf fields ++ rest) =
      ⟨start, fields⟩ ::
        recordsFrom .between {} (here.after (lineOf fields)) (here.after (lineOf fields)) rest := by
  obtain ⟨b, field, hfirst⟩ := hline.first
  rcases fields with _ | ⟨f, fields⟩
  · simp at hfirst
  · obtain rfl : f = b :: field := by simpa using hfirst
    have hb := ((hline.bare _ (List.mem_cons_self ..)).inside b (List.mem_cons_self ..)).2
    obtain ⟨tail, htail⟩ : ∃ tail, lineOf ((b :: field) :: fields) ++ rest = b :: tail := by
      rcases fields with _ | ⟨next, fields⟩ <;> simp [lineOf, List.intercalate_cons_cons]
    rw [htail, recordsFrom_between {} hb, ← htail]
    exact recordsFrom_fields (by simp) hline.bare

end Lines

def text (lines : List (List Bytes)) : Bytes := lines.flatMap lineOf

lemma recordsFrom_text {lines : List (List Bytes)} {start here : Position}
    (hlines : ∀ fields ∈ lines, Regular fields) :
    (recordsFrom .between {} start here (text lines)).map Record.fields = lines := by
  induction lines generalizing start here with
  | nil => rfl
  | cons fields lines ih =>
    obtain ⟨hfields, hrest⟩ := List.forall_mem_cons.1 hlines
    unfold text at ih ⊢
    rw [List.flatMap_cons, recordsFrom_line hfields, List.map_cons, ih hrest]

lemma getLast?_text {lines : List (List Bytes)} (h : lines ≠ []) :
    (text lines).getLast? = some 0x0A := by
  induction lines with
  | nil => exact absurd rfl h
  | cons fields lines ih =>
    unfold text at ih ⊢
    rw [List.flatMap_cons, List.getLast?_append]
    rcases lines with _ | ⟨next, lines⟩
    · simp [lineOf]
    · rw [ih (by simp)]
      rfl

/-- Without a byte order mark in front all bytes are read. -/
lemma records_of_head {b : UInt8} {bs : Bytes} (hb : b ≠ 0xEF) :
    records (b :: bs) = recordsFrom .between {} ⟨0, 1⟩ ⟨0, 1⟩ (b :: bs) := by
  have : byteOrderMark.isPrefixOf (b :: bs) = false := by
    simp [byteOrderMark, List.isPrefixOf, Ne.symm hb]
  simp [records, this]

end SizeSweep.Csv
