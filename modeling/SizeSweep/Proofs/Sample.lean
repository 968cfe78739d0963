import Mathlib.Data.List.Nodup
import SizeSweep.Proofs.Binary64.Grammar
import SizeSweep.Proofs.ControlSequence
import SizeSweep.Proofs.Text.Lines
import SizeSweep.Sample

/-!
Lines that report a value.  Behind a label and the delimiter stands the text of a finite number,
among control sequences.  The value is read as this number if the delimiter does not occur in the
label; if it does, the line is cut inside the label, and what follows is no number.
-/

namespace SizeSweep

open ControlSequence

/-! ### Characters of numbers and sequences -/

section Characters

variable {c : Char} {cs : List Char}

lemma isBlank_of_isNumeralChar (h : Binary64.isNumeralChar c = true) : Text.isBlank c = false := by
  obtain ⟨hlow, hhigh, -⟩ := Binary64.toNat_of_isNumeralChar h
  simp [Text.isBlank, Text.blankRanges]
  omega

lemma isIntroducer_of_isNumeralChar (h : Binary64.isNumeralChar c = true) :
    isIntroducer c = false := by
  obtain ⟨hlow, hhigh, -⟩ := Binary64.toNat_of_isNumeralChar h
  rw [isIntroducer_eq_false]
  constructor
  · rintro rfl
    exact absurd hhigh (by decide)
  · rintro rfl
    exact absurd hlow (by decide)

lemma le_toNat_of_mem_sequences (h : Sequences cs) (hc : c ∈ cs) : 0x1B ≤ c.toNat := by
  induction h with
  | nil => cases hc
  | cons hsequence _ ih =>
    rcases List.mem_append.1 hc with hc | hc
    · obtain ⟨hintroducer, hparameters, hintermediates, hlast⟩ := hsequence
      simp only [List.mem_append, List.mem_singleton] at hc
      rcases hc with hc | hc | hc | rfl
      · simp only [List.mem_cons, List.not_mem_nil, or_false] at hintroducer
        rcases hintroducer with rfl | rfl
        · obtain rfl := List.mem_singleton.1 hc
          decide
        · rcases List.mem_pair.1 hc with rfl | rfl <;> decide
      · exact le_trans (by decide) (isParameter_iff.1 (hparameters c hc)).1
      · exact le_trans (by decide) (isIntermediate_iff.1 (hintermediates c hc)).1
      · exact le_trans (by decide) (isFinal_iff.1 hlast).1
    · exact ih hc

end Characters

/-! ### Values among sequences -/

section Values

variable {number label : String} {v : Binary64} {before after rest : List Char}

lemma decorated_number (number : List Char) (hbefore : Sequences before)
    (hafter : Sequences after) :
    Decorated number (before ++ (number ++ after)) := by
  have hbehind := (hafter.decorated .nil).append number
  rw [List.append_nil, List.append_nil] at hbehind
  exact hbefore.decorated hbehind

/-- Signs and points can stand inside a sequence, and the digit behind them cannot end it. -/
lemma isFinal_head_numeral (hnumber : Binary64.IsNumeral number.toList) (rest : List Char) :
    ∀ c ∈ ((number.toList ++ rest).dropWhile isIntermediate).head?, isFinal c = false := by
  obtain ⟨front, d, digits, hsplit, hfront, hd⟩ := hnumber.digit
  have hdigit : 48 ≤ d.toNat ∧ d.toNat ≤ 57 := by
    simpa [Char.isDigit, UInt32.le_iff_toNat_le] using hd
  have hleading : ∀ c ∈ front, isIntermediate c = true := by
    intro c hc
    rcases (by simpa [Binary64.isLeading, or_assoc] using hfront c hc :
      c = '+' ∨ c = '-' ∨ c = '.') with rfl | rfl | rfl <;> decide
  have hrest : ∀ c ∈ (d :: (digits ++ rest)).head?, isIntermediate c = false := by
    rintro c ⟨⟩
    rw [Bool.eq_false_iff, Ne, isIntermediate_iff]
    omega
  rw [hsplit, List.append_assoc, List.cons_append, (takeWhile_front hleading hrest).2]
  rintro c ⟨⟩
  rw [Bool.eq_false_iff, Ne, isFinal_iff]
  omega

/-- No sequence that was begun before ends in front of a number that stands among sequences. -/
lemma isFinal_head_number (hnumber : Binary64.IsNumeral number.toList)
    (hbefore : Sequences before) :
    ∀ c ∈ ((before ++ (number.toList ++ after)).dropWhile isIntermediate).head?,
      isFinal c = false := by
  cases hbefore with
  | nil => exact isFinal_head_numeral hnumber after
  | cons hsequence =>
    obtain ⟨c, more, rfl, hc⟩ := hsequence.exists_head
    obtain ⟨hkeep, hfinal⟩ := isFinal_of_isIntroducer hc
    rw [List.cons_append, List.cons_append, List.dropWhile_cons_of_neg (by simp [hkeep])]
    rintro d ⟨⟩
    exact hfinal

lemma blocks_delimiter (h : ∀ c ∈ (rest.dropWhile isIntermediate).head?, isFinal c = false) :
    Blocks (Sample.delimiter ++ rest) where
  intermediates := by
    rintro c ⟨⟩
    decide
  parameters := h

end Values

/-! ### Lines -/

/-- The characters of a line that reports a value among control sequences. -/
def reportLine (label number : String) (before after : List Char) : List Char :=
  label.toList ++ (Sample.delimiter ++ (before ++ (number.toList ++ after)))

namespace Sample

section Lines

variable {number label : String} {v : Binary64} {before after raw : List Char}

lemma value_of_finite (h : Binary64.ofText? number = some v) (hfinite : v.isFinite = true) :
    value label number = .ok v := by
  simp only [value, h, hfinite, if_true]

lemma exists_fault_of_colon (label : String) (h : ':' ∈ raw) :
    ∃ fault, value label (String.ofList raw) = .error fault := by
  unfold value
  rcases hread : Binary64.ofText? (String.ofList raw) with _ | v
  · exact ⟨_, rfl⟩
  · by_cases hfinite : v.isFinite = true
    · have hchars := (Binary64.isNumeral_of_ofText? hread hfinite).chars ':' (by simpa using h)
      exact absurd hchars (by decide)
    · simp only [hfinite, Bool.false_eq_true, if_false]
      exact ⟨_, rfl⟩

/-- The decoration of a value makes no difference to what its line reports. -/
lemma extract_eq_value {front plain text : List Char}
    (hlabel : label.toList <:+: front ++ (delimiter ++ text)) (hfront : ¬delimiter <:+: front)
    (htext : Decorated plain text) (hfree : ∀ c ∈ plain, isIntroducer c = false) :
    extract (front ++ (delimiter ++ text)) label =
      some (value label (String.ofList (Text.trim plain))) := by
  have hsplit : Text.splitAt? delimiter (front ++ (delimiter ++ text)) = some (front, text) :=
    Text.splitAt?_pair (by decide) hfront
  rw [extract, if_pos (Text.occurs_iff.2 hlabel), hsplit]
  simp only [strip_decorated htext hfree]

lemma trim_number (hnumeral : Binary64.IsNumeral number.toList) :
    Text.trim number.toList = number.toList :=
  Text.trim_eq_self
    (fun c hc => isBlank_of_isNumeralChar (hnumeral.chars c (List.mem_of_mem_head? hc)))
    (fun c hc => isBlank_of_isNumeralChar (hnumeral.chars c (List.mem_of_mem_getLast? hc)))

lemma occurs_label (label number : String) (before after : List Char) :
    Text.occurs label.toList (reportLine label number before after) = true :=
  Text.occurs_iff.2 (List.prefix_append ..).isInfix

lemma extract_of_free (hlabel : ¬delimiter <:+: label.toList)
    (hnumber : Binary64.ofText? number = some v) (hfinite : v.isFinite = true)
    (hbefore : Sequences before) (hafter : Sequences after) :
    extract (reportLine label number before after) label = some (.ok v) := by
  have hnumeral := Binary64.isNumeral_of_ofText? hnumber hfinite
  have hfree : ∀ c ∈ number.toList, isIntroducer c = false := fun c hc =>
    isIntroducer_of_isNumeralChar (hnumeral.chars c hc)
  rw [reportLine, extract_eq_value (List.prefix_append ..).isInfix hlabel
    (decorated_number _ hbefore hafter) hfree, trim_number hnumeral, String.ofList_toList,
    value_of_finite hnumber hfinite]

/-- The delimiter in a label leaves another one behind it, and that is no part of a number. -/
lemma extract_of_marked (hlabel : delimiter <:+: label.toList)
    (hnumeral : Binary64.IsNumeral number.toList) (hbefore : Sequences before) :
    ∃ fault, extract (reportLine label number before after) label = some (.error fault) := by
  obtain ⟨⟨front, rest⟩, hsplit⟩ := Option.isSome_iff_exists.1 (Text.occurs_iff.2 hlabel)
  have hline : Text.splitAt? delimiter (reportLine label number before after) =
      some (front, rest ++ (delimiter ++ (before ++ (number.toList ++ after)))) :=
    Text.splitAt?_append hsplit _
  -- the colon behind the label is neither stripped nor trimmed, so it stands in the value
  have hcolon : ':' ∈ strip (rest ++ (delimiter ++ (before ++ (number.toList ++ after)))) := by
    rw [strip_append (blocks_delimiter (isFinal_head_number hnumeral hbefore))]
    refine List.mem_append_right _ ?_
    have hkeep : strip (delimiter ++ (before ++ (number.toList ++ after))) =
        ':' :: strip (' ' :: (before ++ (number.toList ++ after))) :=
      strip_cons_of_free (by decide) _
    exact hkeep ▸ List.mem_cons_self ..
  have htrim : ':' ∈ Text.trim
      (strip (rest ++ (delimiter ++ (before ++ (number.toList ++ after))))) := by
    rw [← List.count_pos_iff, Text.count_trim (by decide), List.count_pos_iff]
    exact hcolon
  obtain ⟨fault, hfault⟩ := exists_fault_of_colon label htrim
  refine ⟨fault, ?_⟩
  rw [extract, if_pos (occurs_label ..), hline]
  simp only [hfault]

end Lines

end Sample

/-! ### Outputs of one line -/

namespace Metric

section Columns

variable {metrics : List Metric} {seen : List String}

lemma columns_of_checkAfter (h : checkAfter seen metrics = .ok ()) :
    (metrics.map column).Nodup ∧ ∀ name ∈ metrics.map column, name ∉ seen := by
  induction metrics generalizing seen with
  | nil => exact ⟨List.nodup_nil, by simp⟩
  | cons m metrics ih =>
    rw [checkAfter] at h
    split_ifs at h with hcolumn hlabel hseen
    obtain ⟨hnodup, hnew⟩ := ih h
    rw [List.map_cons, List.nodup_cons, List.forall_mem_cons]
    refine ⟨⟨fun hmem => hnew _ hmem (List.mem_cons_self ..), hnodup⟩, by simpa using hseen, ?_⟩
    exact fun name hname hmem => hnew name hname (List.mem_cons_of_mem _ hmem)

/-- Metrics that can be tracked together have a column each. -/
lemma nodup_columns_of_check (h : check metrics = .ok ()) : (metrics.map column).Nodup := by
  unfold check at h
  split_ifs at h
  exact (columns_of_checkAfter h).1

end Columns

end Metric

namespace Reading

section Output

variable {metrics : List Metric} {m : Metric} {i : ℕ} {number : String} {v : Binary64}
  {before after ending : List Char} {output : String}

lemma samples_getElem? (hm : metrics[i]? = some m) (output : String) :
    (ofOutput metrics output).samples[i]? =
      some (samplesOf (Text.lines output.toList) m.label) := by
  simp [ofOutput, hm]

/-- The warnings under a column are those for its label. -/
lemma forall_warnings_iff (hcheck : Metric.check metrics = .ok ()) (hm : m ∈ metrics)
    (output : String) :
    (∀ w ∈ (ofOutput metrics output).warnings, w.1 ≠ m.column) ↔
      faultsOf (Text.lines output.toList) m.label = [] := by
  rw [List.eq_nil_iff_forall_not_mem]
  constructor
  · intro h fault hfault
    exact h (m.column, fault) (List.mem_flatMap.2 ⟨m, hm, List.mem_map_of_mem hfault⟩) rfl
  · intro h w hw hcolumn
    obtain ⟨m', hm', hw⟩ := List.mem_flatMap.1 hw
    obtain ⟨fault, hfault, rfl⟩ := List.mem_map.1 hw
    obtain rfl := List.inj_on_of_nodup_map (Metric.nodup_columns_of_check hcheck) hm' hm hcolumn
    exact h fault hfault

lemma reports_singleton (line : List Char) (label : String) :
    reports [line] label = (Sample.extract line label).toList := by
  unfold reports
  cases h : Sample.extract line label <;> simp [h]

/-- A label with a line feed stands in no line. -/
lemma samplesOf_of_lineFeed {label : String} (h : '\n' ∈ label.toList) (output : String) :
    samplesOf (Text.lines output.toList) label = [] := by
  have hnone : reports (Text.lines output.toList) label = [] := by
    refine List.filterMap_eq_nil_iff.2 fun line hline => ?_
    have hoccurs : ¬Text.occurs label.toList line = true := by
      rw [Text.occurs_iff]
      exact fun hinside => Text.lineFeed_not_mem_lines hline (hinside.subset h)
    rw [Sample.extract, if_neg hoccurs]
  rw [samplesOf, hnone]
  rfl

/-- The line that reports a value is one line of the output. -/
lemma lines_reportLine {label : String} (hnumeral : Binary64.IsNumeral number.toList)
    (hbefore : Sequences before) (hafter : Sequences after) (hending : ending ∈ Text.lineEnds)
    (hlabel : '\n' ∉ label.toList) :
    Text.lines (reportLine label number before after ++ ending) =
      [reportLine label number before after] := by
  -- neither a number nor a control sequence holds a line end
  have hnumber : ∀ c ∈ number.toList ++ after, 0x1B ≤ c.toNat := by
    refine List.forall_mem_append.2 ⟨fun c hc => ?_, fun c => le_toNat_of_mem_sequences hafter⟩
    exact le_trans (by decide) (Binary64.toNat_of_isNumeralChar (hnumeral.chars c hc)).1
  have hne : number.toList ++ after ≠ [] := by
    obtain ⟨front, d, digits, hsplit, -⟩ := hnumeral.digit
    simp [hsplit]
  refine Text.lines_line (by simp [reportLine, Sample.delimiter]) ?_ ?_ hending
  · rw [reportLine, List.mem_append, List.mem_append, List.mem_append]
    rintro (hmem | hmem | hmem | hmem)
    · exact hlabel hmem
    · exact absurd hmem (by decide)
    · exact absurd (le_toNat_of_mem_sequences hbefore hmem) (by decide)
    · exact absurd (hnumber _ hmem) (by decide)
  · intro hlast
    rw [reportLine, List.getLast?_append, List.getLast?_append, List.getLast?_append] at hlast
    obtain ⟨c, hc⟩ := Option.isSome_iff_exists.1 (List.getLast?_isSome.2 hne)
    rw [hc] at hlast
    obtain rfl : c = '\r' := by simpa using hlast
    exact absurd (hnumber _ (List.mem_of_getLast? hc)) (by decide)

/-- **Which labels can be measured.**  A line with the label of a metric, the delimiter and the text
of a finite number among control sequences gives this number as the one sample of the metric, and
no warning for it, exactly if neither the delimiter nor a line feed stands in the label. -/
theorem ofOutput_line_iff (metrics : List Metric) (i : ℕ) (m : Metric) (number : String)
    (v : Binary64) (before after ending : List Char) (hcheck : Metric.check metrics = .ok ())
    (hm : metrics[i]? = some m) (hnumber : Binary64.ofText? number = some v)
    (hfinite : v.isFinite = true) (hbefore : Sequences before) (hafter : Sequences after)
    (hending : ending ∈ Text.lineEnds) :
    let reading :=
      ofOutput metrics (String.ofList (reportLine m.label number before after ++ ending))
    (reading.samples[i]? = some [v] ∧ ∀ w ∈ reading.warnings, w.1 ≠ m.column) ↔
      ¬Sample.delimiter <:+: m.label.toList ∧ '\n' ∉ m.label.toList := by
  intro reading
  have hnumeral := Binary64.isNumeral_of_ofText? hnumber hfinite
  rw [samples_getElem? hm, forall_warnings_iff hcheck (List.mem_of_getElem? hm),
    Option.some_inj]
  by_cases hfeed : '\n' ∈ m.label.toList
  · rw [samplesOf_of_lineFeed hfeed]
    exact iff_of_false (fun h => by cases h.1) fun h => h.2 hfeed
  · have hlines := lines_reportLine hnumeral hbefore hafter hending hfeed
    rw [String.toList_ofList, samplesOf, faultsOf, hlines, reports_singleton]
    by_cases hdelimiter : Sample.delimiter <:+: m.label.toList
    · obtain ⟨fault, hfault⟩ := Sample.extract_of_marked hdelimiter hnumeral hbefore
      rw [hfault]
      exact iff_of_false (fun h => by cases h.1) fun h => h.1 hdelimiter
    · rw [Sample.extract_of_free hdelimiter hnumber hfinite hbefore hafter]
      exact iff_of_true ⟨rfl, rfl⟩ ⟨hdelimiter, hfeed⟩

/-- A number in colour. -/
theorem ofOutput_line_iff_coloured :
    let metrics : List Metric := [⟨"peak", "maximum"⟩, ⟨"ns", "mean: "⟩, ⟨"us", "mean"⟩]
    let reading := ofOutput metrics (String.ofList (reportLine "mean" "1"
      ['\x1b', '[', '3', '3', 'm'] ['\u009b', '0', 'm'] ++ ['\n']))
    reading.samples[2]? = some [Binary64.ofNat 1] ∧ ∀ w ∈ reading.warnings, w.1 ≠ "us" := by
  intro metrics reading
  have hbefore : Complete (['\x1b', '['] ++ (['3', '3'] ++ ([] ++ ['m']))) :=
    .mk (by decide) (by simp [isParameter]) (by simp) (by decide)
  have hafter : Complete (['\u009b'] ++ (['0'] ++ ([] ++ ['m']))) :=
    .mk (by decide) (by simp [isParameter]) (by simp) (by decide)
  exact (ofOutput_line_iff metrics 2 ⟨"us", "mean"⟩ "1" (Binary64.ofNat 1) _ _ _ (by decide) rfl
    (by decide +kernel) (by decide +kernel) (.cons hbefore .nil) (.cons hafter .nil)
    (by decide)).2 ⟨by decide, by decide⟩

/-- The check of the metrics lets a label through that cannot be measured. -/
theorem not_forall_ofOutput_line :
    ¬∀ (metrics : List Metric) (i : ℕ) (m : Metric) (number : String) (v : Binary64)
        (before after : List Char), Metric.check metrics = .ok () → metrics[i]? = some m →
      Binary64.ofText? number = some v → v.isFinite = true →
      (∀ c ∈ number.toList, isIntroducer c = false) → Sequences before → Sequences after →
      let reading := ofOutput metrics (String.ofList (reportLine m.label number before after))
      reading.samples[i]? = some [v] ∧ ∀ w ∈ reading.warnings, w.1 ≠ m.column := by
  intro h
  have hsamples := (h [⟨"ns", "phase: mean"⟩] 0 ⟨"ns", "phase: mean"⟩ "1" (Binary64.ofNat 1) [] []
    (by decide) rfl (by decide +kernel) (by decide +kernel) (by simp [isIntroducer]) .nil .nil).1
  revert hsamples
  decide +kernel

end Output

end Reading

end SizeSweep
