import SizeSweep.Proofs.Csv.Continuation
import SizeSweep.Proofs.Csv.Fields

/-!
Where records stand.  A record starts right behind the byte that ended the record before it, but it
begins with its first byte, and the line ends between the two are skipped.  So the line of its start
is the line on which it begins less the line feeds among the skipped bytes.
-/

namespace SizeSweep.Csv

/-- The line of the byte behind some bytes, counting line feeds from 1. -/
def lineAfter (bs : Bytes) : ℕ := 1 + bs.count 0x0A

lemma lineAfter_append (bs more : Bytes) :
    lineAfter (bs ++ more) = lineAfter bs + more.count 0x0A := by
  rw [lineAfter, List.count_append, lineAfter, Nat.add_assoc]

lemma Position.line_after (p : Position) (bs : Bytes) :
    (p.after bs).line = p.line + bs.count 0x0A := by
  induction bs generalizing p with
  | nil => rfl
  | cons b bs ih =>
    have hnext : (p.next b).line = p.line + if b = 0x0A then 1 else 0 := by
      unfold Position.next
      split_ifs <;> rfl
    have hafter : p.after (b :: bs) = (p.next b).after bs := rfl
    rw [hafter, ih, hnext, List.count_cons]
    simp only [beq_iff_eq]
    omega

/-! ### Between two records -/

/-- In some bytes the record in a place begins behind `front`: as many records end in `front`, the
reader is between two records behind it, and the byte there is no line end. -/
structure BeginsAfter (bs : Bytes) (index : ℕ) (front : Bytes) : Prop where
  first : ∃ b rest, bs = front ++ b :: rest ∧ isLineEnd b = false
  between : (standing .between {} front).1 = .between
  before : (finished .between {} front).length = index

/-- What stands from a place on before the record that begins after `index` others: the bytes up to
the one that ends the record before it, and the line ends that are skipped. -/
structure Gap (place : Place) (p : Pending) (bs : Bytes) (index : ℕ) (ended skipped : Bytes) :
    Prop where
  first : ∃ b rest, bs = ended ++ skipped ++ b :: rest ∧ isLineEnd b = false
  last : ∃ inside b, ended = inside ++ [b] ∧ (standing place p inside).1 ≠ .between ∧
    (standing place p ended).1 = .between
  before : (finished place p ended).length = index
  skipped : ∀ b ∈ skipped, isLineEnd b = true

section Reader

variable {place : Place} {p : Pending} {b : UInt8} {bs more front front' ended skipped : Bytes}
  {start here : Position} {record : Record} {index : ℕ}

lemma step_lineEnd (p : Pending) (hb : isLineEnd b = true) :
    step .between p b = .goOn .between p := by
  rw [step, if_pos hb]

lemma isLineEnd_of_step_between {q : Pending} (h : step place p b = .goOn .between q) :
    isLineEnd b = true := by
  cases place <;> simp only [step, stepUnquoted] at h <;> split_ifs at h <;> simp_all

lemma ne_between_of_finish {fields : List Bytes} (h : step place p b = .finish fields) :
    place ≠ .between := by
  rintro rfl
  simp only [step, stepUnquoted] at h
  split_ifs at h

lemma skip_lineEnds (p : Pending) (h : ∀ b ∈ bs, isLineEnd b = true) :
    standing .between p bs = (.between, p) ∧ finished .between p bs = [] := by
  induction bs with
  | nil => exact ⟨rfl, rfl⟩
  | cons b bs ih =>
    obtain ⟨hb, hbs⟩ := List.forall_mem_cons.1 h
    simp only [standing, finished, step_lineEnd p hb]
    exact ih hbs

/-- If no record ends, the reader is between two records only where it was so from the beginning and
nothing but line ends was skipped. -/
lemma skips_of_finished_eq_nil (hnone : finished place p bs = [])
    (h : (standing place p bs).1 = .between) :
    place = .between ∧ ∀ b ∈ bs, isLineEnd b = true := by
  induction bs generalizing place p with
  | nil => exact ⟨h, by simp⟩
  | cons b bs ih =>
    rcases hstep : step place p b with ⟨next, q⟩ | fields
    · simp only [finished, standing, hstep] at hnone h
      obtain ⟨rfl, hbs⟩ := ih hnone h
      exact ⟨(of_step_between hstep).1,
        List.forall_mem_cons.2 ⟨isLineEnd_of_step_between hstep, hbs⟩⟩
    · simp [finished, hstep] at hnone

lemma BeginsAfter.eq_of_prefix (h : BeginsAfter bs index front) (h' : BeginsAfter bs index front')
    (hfront : front <+: front') : front = front' := by
  obtain ⟨more, rfl⟩ := hfront
  rcases more with _ | ⟨c, more⟩
  · rw [List.append_nil]
  · obtain ⟨b, rest, hbs, hb⟩ := h.first
    obtain ⟨b', rest', hbs', -⟩ := h'.first
    -- as many records end in both fronts, so the rest of the longer one is skipped
    have hnone : finished (standing .between {} front).1 (standing .between {} front).2
        (c :: more) = [] := by
      have hcount := h'.before.trans h.before.symm
      rw [finished_append, List.length_append] at hcount
      exact List.length_eq_zero_iff.1 (Nat.left_eq_add.1 hcount.symm)
    have hbetween := h'.between
    rw [standing_append] at hbetween
    have hc := (skips_of_finished_eq_nil hnone hbetween).2 c (List.mem_cons_self ..)
    rw [hbs, List.append_assoc, List.append_cancel_left_eq] at hbs'
    obtain ⟨rfl, -⟩ := List.cons.inj hbs'
    rw [hb] at hc
    cases hc

/-- A record begins at one place only. -/
lemma BeginsAfter.unique (h : BeginsAfter bs index front) (h' : BeginsAfter bs index front') :
    front = front' := by
  obtain ⟨b, rest, hbs, -⟩ := h.first
  obtain ⟨b', rest', hbs', -⟩ := h'.first
  rcases List.prefix_or_prefix_of_prefix ⟨_, hbs.symm⟩ ⟨_, hbs'.symm⟩ with hfront | hfront
  · exact h.eq_of_prefix h' hfront
  · exact (h'.eq_of_prefix h hfront).symm

/-! ### The bytes before a record -/

lemma Gap.beginsAfter (h : Gap .between {} bs index ended skipped) :
    BeginsAfter bs index (ended ++ skipped) := by
  obtain ⟨-, -, -, -, hbetween⟩ := h.last
  obtain ⟨hstanding, hfinished⟩ :=
    skip_lineEnds (standing .between {} ended).2 h.skipped
  refine ⟨h.first, ?_, ?_⟩
  · rw [standing_append, hbetween, hstanding]
  · rw [finished_append, hbetween, hfinished, List.append_nil, h.before]

lemma Gap.goOn {next : Place} {q : Pending} (h : Gap next q bs index ended skipped)
    (hstep : step place p b = .goOn next q) :
    Gap place p (b :: bs) index (b :: ended) skipped := by
  obtain ⟨c, rest, rfl, hc⟩ := h.first
  obtain ⟨inside, last, rfl, hinside, hended⟩ := h.last
  refine ⟨⟨c, rest, rfl, hc⟩, ⟨b :: inside, last, rfl, ?_, ?_⟩, ?_, h.skipped⟩
  · rwa [standing, hstep]
  · rwa [standing, hstep]
  · rw [finished, hstep]
    exact h.before

lemma Gap.finish {fields : List Bytes} (h : Gap .between {} bs index ended skipped)
    (hstep : step place p b = .finish fields) :
    Gap place p (b :: bs) (index + 1) (b :: ended) skipped := by
  obtain ⟨c, rest, rfl, hc⟩ := h.first
  obtain ⟨inside, last, rfl, hinside, hended⟩ := h.last
  refine ⟨⟨c, rest, rfl, hc⟩, ⟨b :: inside, last, rfl, ?_, ?_⟩, ?_, h.skipped⟩
  · rwa [standing, hstep]
  · rwa [standing, hstep]
  · rw [finished, hstep, List.length_cons]
    exact congrArg _ h.before

/-- The first record keeps its start over the line ends that are skipped before it. -/
lemma head?_recordsFrom_between
    (h : (recordsFrom .between p start here bs).head? = some record) :
    record.start = start ∧ ∃ skipped b rest, bs = skipped ++ b :: rest ∧ isLineEnd b = false ∧
      ∀ b ∈ skipped, isLineEnd b = true := by
  induction bs generalizing here with
  | nil => simp [recordsFrom] at h
  | cons b bs ih =>
    by_cases hb : isLineEnd b = true
    · rw [recordsFrom, step_lineEnd p hb] at h
      obtain ⟨hstart, skipped, c, rest, rfl, hc, hskipped⟩ := ih h
      exact ⟨hstart, b :: skipped, c, rest, rfl, hc, List.forall_mem_cons.2 ⟨hb, hskipped⟩⟩
    · have hb' : isLineEnd b = false := by simpa using hb
      obtain ⟨more, tail, hkeeps⟩ := recordsFrom_keeps (by simp : Place.fieldStart ≠ .between)
        p.fields p.field start here (b :: bs)
      rw [recordsFrom_between p hb', hkeeps, List.head?_cons, Option.some.injEq] at h
      exact ⟨by rw [← h], [], b, bs, rfl, hb', by simp⟩

/-- The records behind the first one start where the record before them ended. -/
lemma exists_gap (h : (recordsFrom place p start here bs)[index + 1]? = some record) :
    ∃ ended skipped, Gap place p bs (index + 1) ended skipped ∧
      record.start = here.after ended := by
  induction bs generalizing place p start here index with
  | nil =>
    rw [recordsFrom] at h
    split_ifs at h <;> simp at h
  | cons b bs ih =>
    rw [recordsFrom] at h
    rcases hstep : step place p b with ⟨next, q⟩ | fields
    · simp only [hstep] at h
      obtain ⟨ended, skipped, hgap, hstart⟩ := ih h
      exact ⟨b :: ended, skipped, hgap.goOn hstep, hstart⟩
    · -- the record at hand ends, and the next one starts behind this byte
      simp only [hstep, List.getElem?_cons_succ] at h
      rcases index with _ | index
      · rw [← List.head?_eq_getElem?] at h
        obtain ⟨hstart, skipped, c, rest, rfl, hc, hskipped⟩ := head?_recordsFrom_between h
        refine ⟨[b], skipped, ⟨⟨c, rest, rfl, hc⟩, ⟨[], b, rfl, ?_, ?_⟩, ?_, hskipped⟩, hstart⟩
        · exact ne_between_of_finish hstep
        · simp [standing, hstep]
        · simp [finished, hstep]
      · obtain ⟨ended, skipped, hgap, hstart⟩ := ih h
        exact ⟨b :: ended, skipped, hgap.finish hstep, hstart⟩

end Reader

/-! ### Whole files -/

lemma records_eq (bs : Bytes) :
    ∃ here : Position, here.line = 1 ∧
      records bs = recordsFrom .between {} ⟨0, 1⟩ here (unmarked bs) := by
  unfold records unmarked
  split_ifs
  · exact ⟨⟨3, 1⟩, rfl, rfl⟩
  · exact ⟨⟨0, 1⟩, rfl, rfl⟩

/-- **The line of a record's start** is the line of the byte behind the end of the record before. -/
theorem line_of_records {bs : Bytes} {index : ℕ} {record : Record}
    (h : (records bs)[index + 1]? = some record) :
    ∃ ended skipped, Gap .between {} (unmarked bs) (index + 1) ended skipped ∧
      record.start.line = lineAfter ended := by
  obtain ⟨here, hline, hrecords⟩ := records_eq bs
  rw [hrecords] at h
  obtain ⟨ended, skipped, hgap, hstart⟩ := exists_gap h
  refine ⟨ended, skipped, hgap, ?_⟩
  rw [hstart, Position.line_after, hline, lineAfter]

end SizeSweep.Csv
