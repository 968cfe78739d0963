import SizeSweep.Proofs.ControlSequence

/-!
Where the control sequences of a text stand.  Every text divides in exactly one way into complete
sequences and stretches in which no complete sequence begins, not even one that ends behind the
stretch; stripping keeps the stretches.  So what is incomplete or interrupted stays.
-/

namespace SizeSweep.ControlSequence

/-! ### Divisions of a text -/

/-- A text in parts: what stands in front of its first control sequence, and each sequence with the
stretch behind it. -/
structure Division where
  first : List Char
  later : List (List Char × List Char)

namespace Division

/-- The text of the parts. -/
def text (d : Division) : List Char :=
  d.first ++ d.later.flatMap fun (sequence, stretch) => sequence ++ stretch

/-- The stretches alone. -/
def kept (d : Division) : List Char := d.first ++ d.later.flatMap Prod.snd

/-- For each place of the text, whether it lies in a stretch. -/
def places (d : Division) : List Bool :=
  d.first.map (fun _ => true) ++ d.later.flatMap fun (sequence, stretch) =>
    sequence.map (fun _ => false) ++ stretch.map (fun _ => true)

/-- A division of a text into complete sequences and stretches in which none begins. -/
structure Divides (d : Division) (t : List Char) : Prop where
  text : d.text = t
  complete : ∀ part ∈ d.later, Complete part.1
  stretches : ∀ i, d.places[i]? = some true → ¬Begins (t.drop i)

/-- The division with one more character in front. -/
def push (c : Char) (d : Division) : Division := ⟨c :: d.first, d.later⟩

/-- The division with one more sequence in front. -/
def behind (sequence : List Char) (d : Division) : Division := ⟨[], (sequence, d.first) :: d.later⟩

section Laws

variable {c : Char} {sequence rest t : List Char} {d : Division}

lemma text_behind (sequence : List Char) (d : Division) :
    (d.behind sequence).text = sequence ++ d.text := by
  simp [behind, text]

lemma kept_behind (sequence : List Char) (d : Division) : (d.behind sequence).kept = d.kept := by
  simp [behind, kept]

lemma places_behind (sequence : List Char) (d : Division) :
    (d.behind sequence).places = sequence.map (fun _ => false) ++ d.places := by
  simp [behind, places]

lemma divides_nil_iff : d.Divides [] ↔ d = ⟨[], []⟩ := by
  constructor
  · intro h
    obtain ⟨first, later⟩ := d
    obtain ⟨hfirst, hlater⟩ := List.append_eq_nil_iff.1 h.text
    rcases later with _ | ⟨⟨sequence, stretch⟩, later⟩
    · exact congrArg (Division.mk · []) hfirst
    · have hpart := List.flatMap_eq_nil_iff.1 hlater _ (List.mem_cons_self ..)
      have hnil : sequence = [] := (List.append_eq_nil_iff.1 hpart).1
      obtain ⟨c, more, hcons, -⟩ := (h.complete _ (List.mem_cons_self ..)).exists_head
      cases hnil.symm.trans hcons
  · rintro rfl
    exact ⟨rfl, by simp, by simp [places]⟩

lemma divides_push_iff : (d.push c).Divides (c :: rest) ↔ ¬Begins (c :: rest) ∧ d.Divides rest := by
  have htext : (d.push c).text = c :: d.text := rfl
  have hplaces : (d.push c).places = true :: d.places := rfl
  constructor
  · intro h
    refine ⟨h.stretches 0 rfl, (List.cons.inj (htext ▸ h.text)).2, h.complete, fun i hi => ?_⟩
    exact h.stretches (i + 1) (by rw [hplaces]; exact hi)
  · rintro ⟨hbegins, h⟩
    refine ⟨by rw [htext, h.text], h.complete, fun i hi => ?_⟩
    cases i with
    | zero => exact hbegins
    | succ i => exact h.stretches i (by rw [hplaces] at hi; exact hi)

lemma divides_behind_iff (hsequence : Complete sequence) :
    (d.behind sequence).Divides (sequence ++ rest) ↔ d.Divides rest := by
  constructor
  · intro h
    refine ⟨List.append_cancel_left (text_behind sequence d ▸ h.text),
      fun part hpart => h.complete part (List.mem_cons_of_mem _ hpart), fun i hi => ?_⟩
    have hplace : (d.behind sequence).places[sequence.length + i]? = some true := by
      rw [places_behind, List.getElem?_append_right (by simp)]
      simpa using hi
    have hstretch := h.stretches (sequence.length + i) hplace
    rwa [List.drop_length_add_append] at hstretch
  · intro h
    refine ⟨by rw [text_behind, h.text], List.forall_mem_cons.2 ⟨hsequence, h.complete⟩,
      fun i hi => ?_⟩
    rw [places_behind] at hi
    -- The places of the sequence belong to no stretch, so nothing is asked of them.
    by_cases hinside : i < sequence.length
    · rw [List.getElem?_append_left (by simpa using hinside)] at hi
      simp [hinside] at hi
    · obtain ⟨k, rfl⟩ := Nat.exists_eq_add_of_le (Nat.le_of_not_lt hinside)
      rw [List.getElem?_append_right (by simp)] at hi
      rw [List.drop_length_add_append]
      exact h.stretches k (by simpa using hi)

/-- Where no sequence begins, a division begins with a stretch. -/
lemma Divides.exists_push (h : d.Divides (c :: rest)) (hbegins : ¬Begins (c :: rest)) :
    ∃ d', d = push c d' := by
  obtain ⟨_ | ⟨c', first⟩, later⟩ := d
  · rcases later with _ | ⟨⟨sequence, stretch⟩, later⟩
    · cases h.text
    · refine absurd ⟨sequence, h.complete _ (List.mem_cons_self ..), ?_⟩ hbegins
      exact ⟨_, (text_behind sequence ⟨stretch, later⟩).symm.trans h.text⟩
  · obtain ⟨rfl, -⟩ := List.cons.inj h.text
    exact ⟨⟨first, later⟩, rfl⟩

/-- Where a sequence begins, a division begins with this sequence. -/
lemma Divides.exists_behind (h : d.Divides (sequence ++ rest)) (hsequence : Complete sequence) :
    ∃ d', d = behind sequence d' := by
  obtain ⟨_ | ⟨c, first⟩, later⟩ := d
  · rcases later with _ | ⟨⟨other, stretch⟩, later⟩
    · obtain ⟨c, more, rfl, -⟩ := hsequence.exists_head
      cases h.text
    · have hother : other <+: sequence ++ rest :=
        ⟨_, (text_behind other ⟨stretch, later⟩).symm.trans h.text⟩
      -- A text begins with one complete sequence at most, so the parts cannot end apart.
      obtain rfl := hsequence.unique (h.complete _ (List.mem_cons_self ..))
        (List.prefix_append sequence rest) hother
      exact ⟨⟨stretch, later⟩, rfl⟩
  · exact absurd ⟨sequence, hsequence, List.prefix_append ..⟩ (h.stretches 0 rfl)

end Laws

end Division

/-! ### Stripping -/

section Strip

variable {t : List Char}

lemma length_strip_le (t : List Char) : (strip t).length ≤ t.length := by
  induction t using reading_induction with
  | nil => exact Nat.le_refl 0
  | character c rest hbegins ih =>
    rw [strip_cons_of_not_begins hbegins]
    exact Nat.succ_le_succ ih
  | sequence sequence rest hsequence ih =>
    rw [strip_complete hsequence, List.length_append]
    omega

/-- Only a text in which a complete sequence begins somewhere is changed. -/
lemma strip_eq_self_iff : strip t = t ↔ ∀ i, ¬Begins (t.drop i) := by
  induction t using reading_induction with
  | nil =>
    refine iff_of_true rfl fun i => ?_
    rw [List.drop_nil, not_begins_iff]
    rfl
  | character c rest hbegins ih =>
    rw [strip_cons_of_not_begins hbegins, List.cons_inj_right, ih]
    constructor
    · intro h i
      cases i with
      | zero => exact hbegins
      | succ i => exact h i
    · exact fun h i => h (i + 1)
  | sequence sequence rest hsequence ih =>
    refine iff_of_false (fun hsame => ?_) fun h => ?_
    · obtain ⟨c, more, rfl, -⟩ := hsequence.exists_head
      have hle := length_strip_le rest
      rw [← strip_complete hsequence rest, hsame, List.length_append, List.length_cons] at hle
      omega
    · exact h 0 ⟨sequence, hsequence, List.prefix_append ..⟩

/-- Every text has a division, and stripping keeps its stretches. -/
lemma exists_division (t : List Char) : ∃ d : Division, d.Divides t ∧ strip t = d.kept := by
  induction t using reading_induction with
  | nil => exact ⟨⟨[], []⟩, Division.divides_nil_iff.2 rfl, rfl⟩
  | character c rest hbegins ih =>
    obtain ⟨d, hd, hstrip⟩ := ih
    refine ⟨d.push c, Division.divides_push_iff.2 ⟨hbegins, hd⟩, ?_⟩
    rw [strip_cons_of_not_begins hbegins, hstrip]
    rfl
  | sequence sequence rest hsequence ih =>
    obtain ⟨d, hd, hstrip⟩ := ih
    refine ⟨d.behind sequence, (Division.divides_behind_iff hsequence).2 hd, ?_⟩
    rw [strip_complete hsequence, hstrip, Division.kept_behind]

lemma Division.Divides.unique {d d' : Division} (h : d.Divides t) (h' : d'.Divides t) : d = d' := by
  induction t using reading_induction generalizing d d' with
  | nil => rw [divides_nil_iff.1 h, divides_nil_iff.1 h']
  | character c rest hbegins ih =>
    obtain ⟨d, rfl⟩ := h.exists_push hbegins
    obtain ⟨d', rfl⟩ := h'.exists_push hbegins
    rw [ih (divides_push_iff.1 h).2 (divides_push_iff.1 h').2]
  | sequence sequence rest hsequence ih =>
    obtain ⟨d, rfl⟩ := h.exists_behind hsequence
    obtain ⟨d', rfl⟩ := h'.exists_behind hsequence
    rw [ih ((divides_behind_iff hsequence).1 h) ((divides_behind_iff hsequence).1 h')]

/-- **What stripping takes out.**  Every text has exactly one division into complete sequences and
stretches in which none begins, and stripping keeps these stretches; in particular it changes
nothing where no complete sequence begins. -/
theorem existsUnique_division (t : List Char) :
    (∃! d : Division, d.Divides t) ∧ (∀ d : Division, d.Divides t → strip t = d.kept) ∧
      (strip t = t ↔ ∀ i, ¬Begins (t.drop i)) := by
  obtain ⟨d, hd, hstrip⟩ := exists_division t
  refine ⟨⟨d, hd, fun d' hd' => hd'.unique hd⟩, fun d' hd' => ?_, strip_eq_self_iff⟩
  rw [hstrip, hd.unique hd']

/-- One sequence is interrupted by another one, and one by a parameter behind its intermediate
character. -/
theorem existsUnique_division_interrupted :
    let d : Division := ⟨['a', '\x1b', '[', '3'], [(['\x1b', '[', '0', 'm'], ['\u009b', ' ', '5'])]⟩
    d.Divides d.text ∧ strip d.text = ['a', '\x1b', '[', '3', '\u009b', ' ', '5'] := by
  intro d
  have hplaces : ∀ i < 11, d.places[i]? = some true → ¬Begins (d.text.drop i) := by decide
  have hdivides : d.Divides d.text :=
    ⟨rfl, by decide, fun i hi => hplaces i (List.getElem?_eq_some_iff.1 hi).1 hi⟩
  exact ⟨hdivides, (existsUnique_division d.text).2.1 d hdivides⟩

end Strip

end SizeSweep.ControlSequence
