import SizeSweep.Proofs.Csv.Lines

/-!
Reading on.  What a reader makes of appended bytes depends on where it stands after those before
them.  Outside quotes a line feed brings it between two records, so the records of lines appended
there follow those that were there.  Inside quotes all that is appended without a quote belongs to
the last field, and there is no further record.
-/

namespace SizeSweep.Csv

/-! ### Where a reader stands -/

/-- The fields of the records from a place on. -/
def fieldsFrom (place : Place) (p : Pending) (bs : Bytes) : List (List Bytes) :=
  (recordsFrom place p ⟨0, 1⟩ ⟨0, 1⟩ bs).map Record.fields

/-- The fields of the records that end among some bytes. -/
def finished (place : Place) (p : Pending) : Bytes → List (List Bytes)
  | [] => []
  | b :: bs =>
    match step place p b with
    | .goOn place p => finished place p bs
    | .finish fields => fields :: finished .between {} bs

/-- The place after some bytes, and what the reader has of the record at hand. -/
def standing (place : Place) (p : Pending) : Bytes → Place × Pending
  | [] => (place, p)
  | b :: bs =>
    match step place p b with
    | .goOn place p => standing place p bs
    | .finish _ => standing .between {} bs

section Reader

variable {place : Place} {p : Pending} {b : UInt8} {bs more : Bytes}

lemma fields_recordsFrom (place : Place) (p : Pending) (start here : Position) (bs : Bytes) :
    (recordsFrom place p start here bs).map Record.fields = fieldsFrom place p bs := by
  -- the fields do not depend on positions, and the induction needs them for all positions
  have hany : ∀ (start here start' here' : Position),
      (recordsFrom place p start here bs).map Record.fields =
        (recordsFrom place p start' here' bs).map Record.fields := by
    induction bs generalizing place p with
    | nil =>
      intro start here start' here'
      simp only [recordsFrom]
      split_ifs <;> rfl
    | cons b bs ih =>
      intro start here start' here'
      simp only [recordsFrom]
      cases step place p b with
      | goOn place p => exact ih ..
      | finish fields =>
        simp only [List.map_cons]
        congr 1
        exact ih ..
  exact hany ..

lemma fieldsFrom_nil : fieldsFrom place p [] = if place = .between then [] else [p.record] := by
  unfold fieldsFrom recordsFrom
  split_ifs <;> rfl

lemma fieldsFrom_goOn {next : Place} {q : Pending} (h : step place p b = .goOn next q) :
    fieldsFrom place p (b :: bs) = fieldsFrom next q bs := by
  unfold fieldsFrom
  rw [recordsFrom, h]
  exact fields_recordsFrom ..

lemma fieldsFrom_finish {fields : List Bytes} (h : step place p b = .finish fields) :
    fieldsFrom place p (b :: bs) = fields :: fieldsFrom .between {} bs := by
  unfold fieldsFrom
  rw [recordsFrom, h]
  simp only [List.map_cons]
  congr 1
  exact fields_recordsFrom ..

/-- The reader goes on from where it stands. -/
lemma fieldsFrom_append (place : Place) (p : Pending) (bs more : Bytes) :
    fieldsFrom place p (bs ++ more) = finished place p bs ++
      fieldsFrom (standing place p bs).1 (standing place p bs).2 more := by
  induction bs generalizing place p with
  | nil => rfl
  | cons b bs ih =>
    rw [List.cons_append]
    rcases h : step place p b with ⟨next, q⟩ | fields
    · rw [fieldsFrom_goOn h, ih]
      simp only [finished, standing, h]
    · rw [fieldsFrom_finish h, ih]
      simp only [finished, standing, h, List.cons_append]

lemma standing_append (place : Place) (p : Pending) (bs more : Bytes) :
    standing place p (bs ++ more) =
      standing (standing place p bs).1 (standing place p bs).2 more := by
  induction bs generalizing place p with
  | nil => rfl
  | cons b bs ih =>
    rw [List.cons_append]
    simp only [standing]
    cases step place p b with
    | goOn next q => exact ih ..
    | finish fields => exact ih ..

lemma finished_append (place : Place) (p : Pending) (bs more : Bytes) :
    finished place p (bs ++ more) = finished place p bs ++
      finished (standing place p bs).1 (standing place p bs).2 more := by
  induction bs generalizing place p with
  | nil => rfl
  | cons b bs ih =>
    rw [List.cons_append]
    simp only [finished, standing]
    cases step place p b with
    | goOn next q => exact ih ..
    | finish fields => rw [ih, List.cons_append]

/-! ### Outside quotes -/

/-- Only a line end between two records leaves the reader between them. -/
lemma of_step_between {q : Pending} (h : step place p b = .goOn .between q) :
    place = .between ∧ q = p := by
  cases place <;> simp only [step, stepUnquoted] at h <;> split_ifs at h <;> simp_all

/-- Only a quote brings the reader inside quotes. -/
lemma of_step_quoted {q : Pending} (h : step place p b = .goOn .quoted q) :
    b = quote ∨ place = .quoted := by
  cases place <;> simp only [step, stepUnquoted] at h <;> split_ifs at h <;> simp_all

/-- Between two records the reader has nothing of the next one. -/
lemma pending_of_between (hp : place = .between → p = {})
    (h : (standing place p bs).1 = .between) : (standing place p bs).2 = {} := by
  induction bs generalizing place p with
  | nil => exact hp h
  | cons b bs ih =>
    rcases hstep : step place p b with ⟨next, q⟩ | fields
    · simp only [standing, hstep] at h ⊢
      refine ih ?_ h
      rintro rfl
      obtain ⟨hplace, rfl⟩ := of_step_between hstep
      exact hp hplace
    · simp only [standing, hstep] at h ⊢
      exact ih (fun _ => rfl) h

lemma step_lineFeed (hplace : place ≠ .between ∧ place ≠ .quoted) :
    step place p 0x0A = .finish p.record := by
  cases place with
  | between => exact absurd rfl hplace.1
  | quoted => exact absurd rfl hplace.2
  | fieldStart | unquoted | closing => rfl

/-- A line feed ends the record at hand. -/
lemma fieldsFrom_lineFeed (hp : place = .between → p = {}) (hplace : place ≠ .quoted) :
    fieldsFrom place p (0x0A :: more) = fieldsFrom place p [] ++ fieldsFrom .between {} more := by
  cases place with
  | between =>
    obtain rfl := hp rfl
    have hstep : step .between {} 0x0A = .goOn .between {} := rfl
    rw [fieldsFrom_goOn hstep, fieldsFrom_nil, if_pos rfl]
    rfl
  | quoted => exact absurd rfl hplace
  | fieldStart | unquoted | closing =>
    rw [fieldsFrom_finish (step_lineFeed (by simp)), fieldsFrom_nil, if_neg (by simp)]
    rfl

/-- Outside quotes the records of a line feed and more follow those of the bytes before. -/
lemma fieldsFrom_append_lineFeed (h : (standing .between {} bs).1 ≠ .quoted) (more : Bytes) :
    fieldsFrom .between {} (bs ++ 0x0A :: more) =
      fieldsFrom .between {} bs ++ fieldsFrom .between {} more := by
  have hbs : fieldsFrom .between {} bs = finished .between {} bs ++
      fieldsFrom (standing .between {} bs).1 (standing .between {} bs).2 [] := by
    rw [← fieldsFrom_append, List.append_nil]
  rw [fieldsFrom_append, fieldsFrom_lineFeed (pending_of_between fun _ => rfl) h, hbs,
    List.append_assoc]

lemma standing_ne_quoted (hplace : place ≠ .quoted) (h : quote ∉ bs) :
    (standing place p bs).1 ≠ .quoted := by
  induction bs generalizing place p with
  | nil => exact hplace
  | cons b bs ih =>
    obtain ⟨hb, hbs⟩ : b ≠ quote ∧ quote ∉ bs := by simpa [eq_comm] using h
    rcases hstep : step place p b with ⟨next, q⟩ | fields
    · simp only [standing, hstep]
      refine ih ?_ hbs
      rintro rfl
      exact (of_step_quoted hstep).elim hb hplace
    · simp only [standing, hstep]
      exact ih (by simp) hbs

/-! ### Inside quotes -/

/-- Inside quotes all bytes up to the next quote belong to the field at hand. -/
lemma standing_quoted (fields : List Bytes) (acc : Bytes) (h : quote ∉ bs) :
    standing .quoted ⟨fields, acc⟩ bs = (.quoted, ⟨fields, bs.reverse ++ acc⟩) := by
  induction bs generalizing acc with
  | nil => rfl
  | cons b bs ih =>
    obtain ⟨hb, hbs⟩ : b ≠ quote ∧ quote ∉ bs := by simpa [eq_comm] using h
    rw [standing, step, if_neg hb]
    simp only [Pending.push]
    rw [ih _ hbs, List.reverse_cons, List.append_assoc]
    rfl

lemma finished_quoted (fields : List Bytes) (acc : Bytes) (h : quote ∉ bs) :
    finished .quoted ⟨fields, acc⟩ bs = [] := by
  induction bs generalizing acc with
  | nil => rfl
  | cons b bs ih =>
    obtain ⟨hb, hbs⟩ : b ≠ quote ∧ quote ∉ bs := by simpa [eq_comm] using h
    rw [finished, step, if_neg hb]
    exact ih _ hbs

lemma fieldsFrom_quoted (fields : List Bytes) (acc : Bytes) (h : quote ∉ bs) :
    fieldsFrom .quoted ⟨fields, acc⟩ bs = [fields.reverse ++ [acc.reverse ++ bs]] := by
  rw [← List.append_nil bs, fieldsFrom_append, finished_quoted fields acc h,
    standing_quoted fields acc h, fieldsFrom_nil, if_neg (by simp)]
  simp [Pending.record, Pending.endField]

/-- Inside quotes what is appended without a quote ends up in the last field. -/
lemma fieldsFrom_append_quoted (h : (standing .between {} bs).1 = .quoted) :
    ∃ done fields field, ∀ more, quote ∉ more →
      fieldsFrom .between {} (bs ++ more) = done ++ [fields ++ [field ++ more]] := by
  rcases hpending : (standing .between {} bs).2 with ⟨fields, acc⟩
  refine ⟨finished .between {} bs, fields.reverse, acc.reverse, fun more hmore => ?_⟩
  rw [fieldsFrom_append, h, hpending, fieldsFrom_quoted fields acc hmore]

end Reader

/-! ### Whole files -/

/-- A byte list without a byte order mark at its front. -/
def unmarked (bs : Bytes) : Bytes := if byteOrderMark.isPrefixOf bs then bs.drop 3 else bs

/-- Whether a quoted field is still open at the end of a byte list. -/
def OpenQuote (bs : Bytes) : Prop := (standing .between {} (unmarked bs)).1 = .quoted

instance (bs : Bytes) : Decidable (OpenQuote bs) := by unfold OpenQuote; infer_instance

def fieldsOf (bs : Bytes) : List (List Bytes) := (records bs).map Record.fields

section Files

variable {bs : Bytes}

lemma fieldsOf_eq (bs : Bytes) : fieldsOf bs = fieldsFrom .between {} (unmarked bs) := by
  unfold fieldsOf records unmarked
  split_ifs <;> exact fields_recordsFrom ..

/-- A line feed is no part of a byte order mark. -/
lemma unmarked_append_lineFeed (bs more : Bytes) :
    unmarked (bs ++ 0x0A :: more) = unmarked bs ++ 0x0A :: more := by
  unfold unmarked
  by_cases hmark : byteOrderMark.isPrefixOf bs = true
  · obtain ⟨rest, rfl⟩ := List.isPrefixOf_iff_prefix.1 hmark
    have hmark' : byteOrderMark.isPrefixOf (byteOrderMark ++ rest ++ 0x0A :: more) = true :=
      List.isPrefixOf_iff_prefix.2 (by simp [List.append_assoc])
    rw [if_pos hmark, if_pos hmark']
    rfl
  · -- the mark cannot reach across the line feed, which is none of its bytes
    have hmark' : ¬byteOrderMark.isPrefixOf (bs ++ 0x0A :: more) = true := by
      intro h
      rw [List.isPrefixOf_iff_prefix] at hmark h
      obtain ⟨tail, htail⟩ := h
      rcases List.append_eq_append_iff.1 htail with ⟨rest, hsplit, -⟩ | ⟨rest, hsplit, hrest⟩
      · exact hmark ⟨rest, hsplit.symm⟩
      · rcases rest with _ | ⟨b, rest⟩
        · exact hmark ⟨[], by simpa using hsplit⟩
        · obtain rfl : 0x0A = b := (List.cons.inj hrest).1
          have hmem : (0x0A : UInt8) ∈ byteOrderMark := by simp [hsplit]
          revert hmem
          decide
    rw [if_neg hmark, if_neg hmark']

lemma unmarked_of_head? (h : bs.head? ≠ some 0xEF) : unmarked bs = bs := by
  unfold unmarked
  rw [if_neg]
  rcases bs with _ | ⟨b, bs⟩
  · decide
  · have hb : (0xEF : UInt8) ≠ b := by simpa [eq_comm] using h
    simp [byteOrderMark, List.isPrefixOf, hb]

end Files

end SizeSweep.Csv
