import SizeSweep.Proofs.Csv.Lines

/-!
Fields of any bytes.  Wherever the reader stands in a field, the field that it ends with is made of
the bytes used for it, less some of the quotes: every comma used is a comma of the field, and the
field has no more quotes than were used.
-/

namespace SizeSweep.Csv

/-- The bytes of a field and the bytes used for it. -/
structure Taken (used content : Bytes) : Prop where
  commas : content.count comma = used.count comma
  quotes : content.count quote ≤ used.count quote

namespace Taken

variable {used content : Bytes}

lemma nil : Taken [] [] := ⟨rfl, Nat.le_refl _⟩

lemma push (b : UInt8) (h : Taken used content) : Taken (b :: used) (b :: content) where
  commas := by rw [List.count_cons, List.count_cons, h.commas]
  quotes := by
    rw [List.count_cons, List.count_cons]
    exact Nat.add_le_add_right h.quotes _

lemma dropQuote (h : Taken used content) : Taken (quote :: used) content where
  commas := by rw [List.count_cons_of_ne (by decide), h.commas]
  quotes := by
    rw [List.count_cons_self]
    exact Nat.le_succ_of_le h.quotes

/-- What is taken without a comma has no more quotes than `inner`, if behind `inner` no quote comes
before a comma. -/
lemma quotes_le {inner rest after : Bytes} (h : Taken used content)
    (hsplit : inner ++ rest = used ++ after) (hcomma : comma ∉ content)
    (hrest : ∀ used after, rest = used ++ after → comma ∉ used → quote ∉ used) :
    content.count quote ≤ inner.count quote := by
  have hnone : comma ∉ used := by
    rw [← List.count_eq_zero, ← h.commas]
    exact List.count_eq_zero_of_not_mem hcomma
  refine Nat.le_trans h.quotes ?_
  rcases List.append_eq_append_iff.1 hsplit with ⟨between, rfl, hbetween⟩ | ⟨left, rfl, -⟩
  · have hmem : quote ∉ between :=
      hrest between after hbetween fun hmem => hnone (List.mem_append_right _ hmem)
    exact Nat.le_of_eq (by
      rw [List.count_append, List.count_eq_zero_of_not_mem hmem, Nat.add_zero])
  · rw [List.count_append]
    exact Nat.le_add_right _ _

end Taken

/-! ### The record at hand -/

section Reader

variable {fields : List Bytes} {acc bs : Bytes} {start : Position} {b : UInt8}

/-- The first of the records began at `start` and begins with the finished fields. -/
def Keeps (start : Position) (fields : List Bytes) (records : List Record) : Prop :=
  ∃ more tail, records = ⟨start, fields.reverse ++ more⟩ :: tail

/-- A record that has begun keeps the fields that are finished. -/
lemma recordsFrom_keeps {place : Place} (hplace : place ≠ .between) (fields : List Bytes)
    (acc : Bytes) (start here : Position) (bs : Bytes) :
    Keeps start fields (recordsFrom place ⟨fields, acc⟩ start here bs) := by
  induction bs generalizing place fields acc here with
  | nil =>
    refine ⟨[acc.reverse], [], ?_⟩
    simp [recordsFrom, hplace, Pending.record, Pending.endField]
  | cons b bs ih =>
    -- where no quote is open, the next byte is read in the same way
    have hunquoted :
        Keeps start fields (recordsFrom .unquoted ⟨fields, acc⟩ start here (b :: bs)) := by
      simp only [recordsFrom, step, stepUnquoted]
      split_ifs
      · obtain ⟨more, tail, h⟩ := ih (by simp : Place.fieldStart ≠ .between)
          (acc.reverse :: fields) [] (here.next b)
        exact ⟨acc.reverse :: more, tail, by simpa [Pending.endField] using h⟩
      · exact ⟨[acc.reverse], _, by simp [Pending.record, Pending.endField]; rfl⟩
      · exact ih (by simp) ..
    cases place with
    | between => exact absurd rfl hplace
    | fieldStart =>
      simp only [recordsFrom, step]
      split_ifs
      · exact ih (by simp) ..
      · exact hunquoted
    | unquoted => exact hunquoted
    | quoted =>
      simp only [recordsFrom, step]
      split_ifs
      · exact ih (by simp) ..
      · exact ih (by simp) ..
    | closing =>
      simp only [recordsFrom, step]
      split_ifs
      · exact ih (by simp) ..
      · exact hunquoted

/-! ### The field at hand -/

/-- The first of the records goes on after the finished fields with the bytes `acc`, last one
first, and what is taken from the front of `bs`. -/
def Takes (start : Position) (fields : List Bytes) (acc bs : Bytes) (records : List Record) :
    Prop :=
  ∃ used rest content more tail, bs = used ++ rest ∧ Taken used content ∧
    records = ⟨start, fields.reverse ++ (acc.reverse ++ content) :: more⟩ :: tail

lemma Takes.push {records : List Record} (h : Takes start fields (b :: acc) bs records) :
    Takes start fields acc (b :: bs) records := by
  obtain ⟨used, rest, content, more, tail, rfl, htaken, h⟩ := h
  exact ⟨b :: used, rest, b :: content, more, tail, rfl, htaken.push b, by simpa using h⟩

lemma Takes.dropQuote {records : List Record} (h : Takes start fields acc bs records) :
    Takes start fields acc (quote :: bs) records := by
  obtain ⟨used, rest, content, more, tail, rfl, htaken, h⟩ := h
  exact ⟨quote :: used, rest, content, more, tail, rfl, htaken.dropQuote, h⟩

/-- Inside a field the reader takes the rest of it from the bytes at the front. -/
lemma recordsFrom_takes {place : Place} (hplace : place ≠ .between ∧ place ≠ .fieldStart)
    (fields : List Bytes) (acc : Bytes) (start here : Position) (bs : Bytes) :
    Takes start fields acc bs (recordsFrom place ⟨fields, acc⟩ start here bs) := by
  induction bs generalizing place acc here with
  | nil =>
    refine ⟨[], [], [], [], [], rfl, .nil, ?_⟩
    simp [recordsFrom, hplace.1, Pending.record, Pending.endField]
  | cons b bs ih =>
    have hunquoted :
        Takes start fields acc (b :: bs)
          (recordsFrom .unquoted ⟨fields, acc⟩ start here (b :: bs)) := by
      simp only [recordsFrom, step, stepUnquoted]
      split_ifs
      · obtain ⟨more, tail, h⟩ := recordsFrom_keeps (by simp : Place.fieldStart ≠ .between)
          (acc.reverse :: fields) [] start (here.next b) bs
        exact ⟨[], b :: bs, [], more, tail, rfl, .nil, by simpa [Pending.endField] using h⟩
      · exact ⟨[], b :: bs, [], [], _, rfl, .nil,
          by simp [Pending.record, Pending.endField]; rfl⟩
      · exact (ih (by simp) ..).push
    cases place with
    | between => exact absurd rfl hplace.1
    | fieldStart => exact absurd rfl hplace.2
    | unquoted => exact hunquoted
    | quoted =>
      simp only [recordsFrom, step]
      split_ifs with hb
      · subst hb
        exact (ih (by simp) ..).dropQuote
      · exact (ih (by simp) ..).push
    | closing =>
      simp only [recordsFrom, step]
      split_ifs
      · exact (ih (by simp) ..).push
      · exact hunquoted

end Reader

end SizeSweep.Csv
