import SizeSweep.Proofs.Experiment.Resumption
import SizeSweep.Proofs.Experiment.Trail
import SizeSweep.Proofs.Store.Appending

/-!
Growing files.  A resumed run never takes back a byte of what it finds: it leaves the file as it is,
or it adds a header to an empty one and a line feed to an unfinished one, and then whole lines.
-/

namespace SizeSweep

/-- The bytes that a path holds, none if no file is there. -/
def Spot.bytes : Spot → Bytes
  | .content bytes => bytes
  | _ => []

/-- One line with its line feed. -/
def IsLine (bytes : Bytes) : Prop := ∃ text, bytes = text ++ [0x0A] ∧ 0x0A ∉ text

namespace Store

/-- What a store that is opened again puts behind what it found: a header behind nothing, and a
line feed behind an unfinished line. -/
def lead (store : Store) (before : Bytes) : Bytes :=
  if before = [] then Csv.line store.header
  else if before.getLast? = some 0x0A then [] else [0x0A]

section Growth

variable {store : Store} {spot : Spot} {opened : Bytes} {skip : List UInt64}

lemma terminated_eq (bytes : Bytes) :
    terminated bytes = bytes ++ if bytes.getLast? = some 0x0A then [] else [0x0A] := by
  unfold terminated
  split_ifs
  · exact (List.append_nil bytes).symm
  · rfl

lemma opened_of_resume (h : store.resume spot = .ok (opened, skip)) :
    opened = spot.bytes ++ store.lead spot.bytes := by
  unfold resume at h
  split at h
  · cases h
  · cases h
    rfl
  · cases h
    rfl
  · rename_i bytes hne
    rcases hread : Table.ofBytes bytes with fault | table
    · simp [hread] at h
    · simp only [hread] at h
      split_ifs at h
      cases h
      have hbytes : bytes ≠ [] := fun hnil => hne (by rw [hnil])
      rw [Spot.bytes, lead, if_neg hbytes, terminated_eq]

lemma rowLine_isLine (row : Row) : IsLine (rowLine row) := by
  refine ⟨List.intercalate [Csv.comma] (row.fields.map Text.encode), rowLine_eq row, fun hmem => ?_⟩
  rcases Csv.mem_intercalate hmem with h | ⟨field, hfield, h⟩
  · exact absurd h (by decide)
  · obtain ⟨s, hs, rfl⟩ := List.mem_map.1 hfield
    exact absurd (toNat_of_mem_encode (isNumberChar_fields hs) h) (by decide)

end Growth

end Store

namespace Experiment

/-- What a run leaves that has grown out of what it found: that, what the store puts behind it, and
a line for each row. -/
structure Grown (e : Experiment) (before : Bytes) (after : Spot) (rows : List Row) : Prop where
  file : after = .content (before ++ (e.store.lead before ++ rows.flatMap Store.rowLine))
  width : ∀ row ∈ rows, row.values.length = e.metrics.length
  lines : ∀ row ∈ rows, IsLine (Store.rowLine row)

section Growth

variable {W : Type} {bench : Bench W} {e : Experiment} {opened : Bytes} {skip : List UInt64}
  {rows : List Row} {last : List State} {part : Part W (Except Halt Report)} {spot : Spot}

lemma Trailed.grown (h : Trailed bench e opened skip rows last part)
    (hopened : opened = spot.bytes ++ e.store.lead spot.bytes) :
    Grown e spot.bytes (bench.results part.world) rows where
  file := by rw [h.file, hopened, List.append_assoc]
  width := h.width
  lines row _ := Store.rowLine_isLine row

lemma Grown.isPrefix_found {after : Spot} (h : Grown e spot.bytes after rows) :
    spot.bytes <+: after.bytes := by
  rw [h.file]
  exact List.prefix_append ..

/-- A run that opened its file does not halt before the first size, nor for its file. -/
lemma Trailed.cause {halt : Halt} (h : Trailed bench e opened skip rows last part)
    (herror : part.result = .error halt) :
    halt.size ≠ none ∧ ∀ fault, halt.cause ≠ .store fault := by
  have hends := h.ends
  rw [herror] at hends
  cases hends with
  | halt hsizes hstops => cases hstops <;> simp

end Growth

/-- **A resumed run only appends.**  What the file held is the beginning of what it holds in the
end.  A run that could not start, or that halts for its file, leaves it as it is; one that completes
or halts at a size has added what the store puts behind what it finds, and then the lines of rows
with a value for each metric. -/
theorem run_resume_grows {W : Type} (bench : Bench W) (h : bench.Isolated) (e : Experiment)
    (w : W) :
    let part := run bench (e.inMode .resume) w
    let before := bench.results w
    let after := bench.results part.world
    before.bytes <+: after.bytes ∧
    (∀ halt, part.result = .error halt →
      (halt.size = none ∨ ∃ fault, halt.cause = .store fault) → after = before) ∧
    (∀ size cause, part.result = .error ⟨some size, cause⟩ →
      ∃ rows, Grown e before.bytes after rows) ∧
    ∀ report, part.result = .ok report → ∃ rows, Grown e before.bytes after rows := by
  intro part before after
  rcases stays_or_trailed h (e.inMode .resume) w with
    ⟨cause, hstays⟩ | ⟨opened, skip, rows, last, hopen, htrailed⟩
  · have hafter : after = before := hstays.file
    have hhalt : part.result = .error ⟨none, cause⟩ := hstays.result
    refine ⟨hafter ▸ List.prefix_rfl, fun _ _ _ => hafter, ?_, ?_⟩
    · intro size cause herror
      rw [hhalt] at herror
      cases herror
    · intro report hok
      rw [hhalt] at hok
      cases hok
  · have hopened : opened = before.bytes ++ e.store.lead before.bytes :=
      Store.opened_of_resume hopen
    have hgrown : Grown e before.bytes after rows :=
      have hmode := htrailed.grown hopened
      ⟨hmode.file, hmode.width, hmode.lines⟩
    refine ⟨hgrown.isPrefix_found, fun halt herror hbefore => ?_, fun _ _ _ => ⟨rows, hgrown⟩,
      fun _ _ => ⟨rows, hgrown⟩⟩
    obtain ⟨hsize, hstore⟩ := htrailed.cause herror
    rcases hbefore with hnone | ⟨fault, hfault⟩
    · exact absurd hnone hsize
    · exact absurd hfault (hstore fault)

/-- The first trial fails behind a line without its line feed. -/
theorem run_resume_grows_unfinished_line :
    let bytes := Text.encode "size,ns\n8,1"
    let bench := Desk.bench (fun _ _ => .error (.spawn "m" "gone")) none
    let part := run bench (twoSizes.inMode .resume) ⟨.content bytes, []⟩
    part.result = .error ⟨some 16, .trial (.spawn "m" "gone")⟩ ∧
      ∃ rows, Grown twoSizes bytes part.world.file rows := by
  intro bytes bench part
  have hresult : part.result = .error ⟨some 16, .trial (.spawn "m" "gone")⟩ := by decide +kernel
  obtain ⟨-, -, hhalts, -⟩ :=
    run_resume_grows bench (Desk.isolated _ _) twoSizes ⟨.content bytes, []⟩
  exact ⟨hresult, hhalts 16 _ hresult⟩

end Experiment

end SizeSweep
