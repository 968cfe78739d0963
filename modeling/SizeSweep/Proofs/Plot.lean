import SizeSweep.Plot
import SizeSweep.Proofs.Chart
import SizeSweep.Proofs.Files

/-!
Where charts go.  However charts are drawn, each is written below the directory for charts, under its
name, so a plot changes what that directory holds and makes the directories that were missing, and the
last chart of a name is the one that stays.  Names of charts come from columns: a column with a slash in
it leads elsewhere, and a column named as the relative chart of another takes its file.
-/

namespace SizeSweep.Plot

open Files (home)

def fileName (chart : Chart) : String := chart.name ++ ".svg"

def HoldsDrawing (draw : Chart → Except String Bytes) (chart : Chart) (files : Files)
    (location : Location) : Prop :=
  ∃ svg, draw chart = .ok svg ∧ files.lookup? location = some (.file svg)

/-- A place in the directory for charts holds one of them, under its name. -/
def HoldsChart (draw : Chart → Except String Bytes) (out : String) (charts : List Chart)
    (files : Files) (location : Location) : Prop :=
  ∃ dir, ∃ chart ∈ charts, files.LeadsTo home out dir ∧ location = dir ++ [fileName chart] ∧
    HoldsDrawing draw chart files location

/-- A tree to which some of the charts were written, over files but not over directories. -/
def GainsCharts (draw : Chart → Except String Bytes) (out : String) (charts : List Chart)
    (files after : Files) : Prop :=
  ∀ location, after.lookup? location = files.lookup? location ∨
    files.lookup? location ≠ some .directory ∧ HoldsChart draw out charts after location

/-! ### Names of files -/

section Names

variable {chart : Chart} {material : Material}

lemma four_le_length_fileName (chart : Chart) : 4 ≤ (fileName chart).length := by
  unfold fileName
  rw [String.length_append, show ".svg".length = 4 from rfl]
  omega

lemma isName_fileName_iff : Files.IsName (fileName chart) ↔ '/' ∉ chart.name.toList := by
  have hlength := four_le_length_fileName chart
  have hslash : '/' ∈ (fileName chart).toList ↔ '/' ∈ chart.name.toList := by
    unfold fileName
    simp [String.toList_append]
  constructor
  · intro h
    exact mt hslash.2 h.slash
  · intro h
    refine ⟨?_, ?_, ?_, mt hslash.1 h⟩
    all_goals
      intro hname
      rw [hname] at hlength
      exact absurd hlength (by decide)

lemma systemAt?_fileName (dir : Location) (chart : Chart) :
    Files.systemAt? (dir ++ [fileName chart]) ≠ some .void := by
  intro h
  have hnull : dir ++ [fileName chart] = ["dev"] ++ ["null"] := Files.eq_of_systemAt?_void h
  obtain ⟨-, hname⟩ := List.append_inj' hnull rfl
  have hletter := congrArg (fun name => name.toList.getLast?) (List.singleton_inj.1 hname)
  simp [fileName, String.toList_append] at hletter

lemma map_name_charts (material : Material) :
    material.charts.map Chart.name = Chart.namesOf (Chart.sharedColumns material.datasets) :=
  Chart.map_name_both _ _ _ _

lemma isName_charts_iff (material : Material) :
    (∀ chart ∈ material.charts, Files.IsName (fileName chart)) ↔
      ∀ column ∈ Chart.sharedColumns material.datasets, '/' ∉ column.toList := by
  have hnames : (∀ chart ∈ material.charts, Files.IsName (fileName chart)) ↔
      ∀ name ∈ Chart.namesOf (Chart.sharedColumns material.datasets), '/' ∉ name.toList := by
    rw [← map_name_charts]
    simp only [isName_fileName_iff, List.forall_mem_map]
  rw [hnames]
  constructor
  · intro h column hcolumn
    exact h column (Chart.mem_namesOf.2 ⟨column, hcolumn, Or.inl rfl⟩)
  · intro h name hname
    obtain ⟨column, hcolumn, rfl | rfl⟩ := Chart.mem_namesOf.1 hname
    · exact h name hcolumn
    · simpa [String.toList_append] using h column hcolumn

lemma nodup_fileNames_iff
    (hcolumns : ∀ dataset ∈ material.datasets, dataset.table.columns.Nodup) :
    (material.charts.map fileName).Nodup ↔
      ∀ column ∈ Chart.sharedColumns material.datasets,
        column ++ "_relative" ∉ Chart.sharedColumns material.datasets := by
  have hinjective : Function.Injective fun name : String => name ++ ".svg" :=
    fun _ _ h => (String.append_left_inj _).1 h
  have hfiles : material.charts.map fileName =
      (material.charts.map Chart.name).map fun name => name ++ ".svg" := by
    rw [List.map_map]
    rfl
  rw [hfiles, List.nodup_map_iff hinjective, map_name_charts]
  exact Chart.nodup_namesOf_iff (Chart.nodup_sharedColumns hcolumns)

end Names

/-! ### Writing charts -/

section Writing

variable {draw : Chart → Except String Bytes} {out : String} {charts rest : List Chart}
  {chart : Chart} {files middle after : Files} {count : ℕ}

lemma writeChart_eq_ok_iff :
    writeChart draw out files chart = .ok after ↔
      ∃ svg, draw chart = .ok svg ∧ files.write home (chartPath out chart) svg = .ok after := by
  unfold writeChart
  rcases draw chart with message | svg
  · simp
  · rcases hwrite : files.write home (chartPath out chart) svg with os | written
    · simp [hwrite, Except.mapError]
    · simp [hwrite, Except.mapError]

lemma GainsCharts.refl (draw : Chart → Except String Bytes) (out : String) (charts : List Chart)
    (files : Files) : GainsCharts draw out charts files files :=
  fun _ => Or.inl rfl

lemma GainsCharts.keepsDirectories (h : GainsCharts draw out charts files after) :
    files.KeepsDirectories after := by
  intro location hdirectory
  rcases h location with hsame | ⟨hfree, -⟩
  · rw [hsame, hdirectory]
  · exact absurd hdirectory hfree

lemma GainsCharts.lasting (h : GainsCharts draw out charts files after)
    (hlasting : files.Lasting) : after.Lasting := by
  intro location hvoid
  rcases h location with hsame | ⟨-, dir, chart, -, -, -, hfile⟩
  · exact hlasting location (hsame ▸ hvoid)
  · obtain ⟨svg, -, hfile⟩ := hfile
    rw [hfile] at hvoid
    cases hvoid

lemma GainsCharts.cons (h : GainsCharts draw out [chart] files middle)
    (hrest : GainsCharts draw out rest middle after) :
    GainsCharts draw out (chart :: rest) files after := by
  intro location
  rcases hrest location with hsame | ⟨hfree, dir, drawn, hdrawn, hplace⟩
  · rcases h location with hold | ⟨hfree, dir, drawn, hdrawn, hdir, hlocation, svg, hsvg, hfile⟩
    · exact Or.inl (hsame.trans hold)
    · obtain rfl := List.mem_singleton.1 hdrawn
      exact Or.inr ⟨hfree, dir, drawn, by simp, hdir.mono hrest.keepsDirectories, hlocation, svg,
        hsvg, hsame.trans hfile⟩
  · exact Or.inr ⟨mt (h.keepsDirectories location) hfree, dir, drawn,
      List.mem_cons_of_mem _ hdrawn, hplace⟩

lemma gainsCharts_writeChart (hname : Files.IsName (fileName chart))
    (h : writeChart draw out files chart = .ok after) :
    GainsCharts draw out [chart] files after := by
  obtain ⟨svg, hsvg, hwrite⟩ := writeChart_eq_ok_iff.1 h
  obtain ⟨dir, hdir, ⟨-, rfl⟩ | ⟨hfree, rfl⟩⟩ := Files.write_joinPath hname hwrite
  · exact .refl draw out [chart] _
  · have hput := Files.lookup?_put files (dir ++ [fileName chart]) (.file svg)
    have hkept : files.KeepsDirectories (files.put (dir ++ [fileName chart]) (.file svg)) := by
      intro location hdirectory
      rw [hput location, if_neg, hdirectory]
      rintro rfl
      exact hfree hdirectory
    intro location
    by_cases hlocation : location = dir ++ [fileName chart]
    · subst hlocation
      refine Or.inr ⟨hfree, dir, chart, by simp, hdir.mono hkept, rfl, svg, hsvg, ?_⟩
      rw [hput, if_pos rfl]
    · exact Or.inl (by rw [hput, if_neg hlocation])

lemma gainsCharts_writeAll (draw : Chart → Except String Bytes) (out : String)
    (hnames : ∀ chart ∈ charts, Files.IsName (fileName chart)) (files : Files) :
    GainsCharts draw out charts files (writeAll draw out files charts).2 := by
  induction charts generalizing files with
  | nil => exact .refl draw out [] files
  | cons chart rest ih =>
    obtain ⟨hname, hrest⟩ := List.forall_mem_cons.1 hnames
    rcases hwrite : writeChart draw out files chart with fault | middle
    · simp only [writeAll, hwrite]
      exact .refl draw out _ files
    · simp only [writeAll, hwrite]
      exact (gainsCharts_writeChart hname hwrite).cons (ih hrest middle)

lemma writeAll_cons_ok (h : writeAll draw out files (chart :: rest) = (.ok count, after)) :
    ∃ middle n, writeChart draw out files chart = .ok middle ∧
      writeAll draw out middle rest = (.ok n, after) ∧ count = n + 1 := by
  rw [writeAll] at h
  rcases hwrite : writeChart draw out files chart with fault | middle
  · simp [hwrite] at h
  · simp only [hwrite] at h
    rcases hrest : writeAll draw out middle rest with ⟨fault | n, last⟩
    · simp [hrest, Except.map] at h
    · simp only [hrest, Except.map, Prod.mk.injEq, Except.ok.injEq] at h
      obtain ⟨rfl, rfl⟩ := h
      exact ⟨middle, n, rfl, hrest, rfl⟩

lemma count_of_writeAll (h : writeAll draw out files charts = (.ok count, after)) :
    count = charts.length := by
  induction charts generalizing files count with
  | nil =>
    cases h
    rfl
  | cons chart rest ih =>
    obtain ⟨middle, n, -, hrest, rfl⟩ := writeAll_cons_ok h
    rw [ih hrest, List.length_cons]

/-- Of charts with the same name, the last one stays. -/
lemma writeAll_keeps_last {front : List Chart}
    (hnames : ∀ c ∈ front ++ chart :: rest, Files.IsName (fileName c)) (hlasting : files.Lasting)
    (h : writeAll draw out files (front ++ chart :: rest) = (.ok count, after))
    (hlast : fileName chart ∉ rest.map fileName) :
    ∃ dir, after.LeadsTo home out dir ∧
      HoldsDrawing draw chart after (dir ++ [fileName chart]) := by
  induction front generalizing files count with
  | nil =>
    obtain ⟨hname, hrestnames⟩ := List.forall_mem_cons.1 hnames
    obtain ⟨middle, n, hwrite, hrest, -⟩ := writeAll_cons_ok h
    have hgains := gainsCharts_writeAll draw out hrestnames middle
    rw [hrest] at hgains
    have hkept := (gainsCharts_writeChart hname hwrite).keepsDirectories
    obtain ⟨svg, hsvg, hfile⟩ := writeChart_eq_ok_iff.1 hwrite
    obtain ⟨dir, hdir, ⟨hvoid, -⟩ | ⟨-, rfl⟩⟩ := Files.write_joinPath hname hfile
    · exact absurd (hlasting _ hvoid) (systemAt?_fileName dir chart)
    · refine ⟨dir, (hdir.mono hkept).mono hgains.keepsDirectories, svg, hsvg, ?_⟩
      -- only a later chart of the same name could have replaced it
      rcases hgains (dir ++ [fileName chart]) with hsame | ⟨-, _, later, hlater, -, hplace, -⟩
      · rw [hsame, Files.lookup?_put, if_pos rfl]
      · obtain ⟨-, hsamename⟩ := List.append_inj' hplace rfl
        rw [List.singleton_inj.1 hsamename] at hlast
        exact absurd (List.mem_map_of_mem hlater) hlast
  | cons first front ih =>
    rw [List.cons_append] at hnames h
    obtain ⟨hname, hrestnames⟩ := List.forall_mem_cons.1 hnames
    obtain ⟨middle, n, hwrite, hrest, -⟩ := writeAll_cons_ok h
    exact ih hrestnames ((gainsCharts_writeChart hname hwrite).lasting hlasting) hrest

lemma writeAll_keeps_all (hnames : ∀ c ∈ charts, Files.IsName (fileName c)) (hlasting : files.Lasting)
    (hnodup : (charts.map fileName).Nodup)
    (h : writeAll draw out files charts = (.ok count, after)) :
    ∃ dir, ∀ chart ∈ charts, after.LeadsTo home out dir ∧
      HoldsDrawing draw chart after (dir ++ [fileName chart]) := by
  have hkept : ∀ chart ∈ charts, ∃ dir, after.LeadsTo home out dir ∧
      HoldsDrawing draw chart after (dir ++ [fileName chart]) := by
    intro chart hchart
    obtain ⟨front, rest, rfl⟩ := List.append_of_mem hchart
    rw [List.map_append, List.map_cons] at hnodup
    exact writeAll_keeps_last hnames hlasting h (List.nodup_cons.1 hnodup.of_append_right).1
  by_cases hsome : ∃ chart, chart ∈ charts
  · obtain ⟨first, hfirst⟩ := hsome
    obtain ⟨dir, hdir, -⟩ := hkept first hfirst
    refine ⟨dir, fun chart hchart => ?_⟩
    obtain ⟨other, hother, hfile⟩ := hkept chart hchart
    obtain rfl := hdir.unique hother
    exact ⟨hdir, hfile⟩
  · exact ⟨home, fun chart hchart => absurd ⟨chart, hchart⟩ hsome⟩

end Writing

/-! ### Plots -/

section Plots

variable {draw : List (String × String) → Chart → Except String Bytes} {arguments : Arguments}
  {files after : Files} {material : Material} {count : ℕ}

/-- A plot makes the directory for charts, and then writes charts unless that failed. -/
lemma runWith_cases (draw : List (String × String) → Chart → Except String Bytes)
    (hgather : gather files arguments = .ok material) :
    ∃ middle, files.GainsDirectories middle ∧
      (runWith draw arguments files =
          writeAll (draw material.styles) arguments.out middle material.charts ∨
        ∃ fault, runWith draw arguments files = (.error (.io fault), middle)) := by
  have hmade := Files.gainsDirectories_createDirectories files home arguments.out
  refine ⟨(files.createDirectories home arguments.out).2, hmade, ?_⟩
  unfold runWith
  rw [hgather]
  rcases files.createDirectories home arguments.out with ⟨fault | _, middle⟩
  · exact Or.inr ⟨fault, rfl⟩
  · exact Or.inl rfl

lemma runWith_gains (draw : List (String × String) → Chart → Except String Bytes)
    (hgather : gather files arguments = .ok material)
    (hnames : ∀ chart ∈ material.charts, Files.IsName (fileName chart)) :
    ∃ middle, files.GainsDirectories middle ∧ GainsCharts (draw material.styles) arguments.out
      material.charts middle (runWith draw arguments files).2 := by
  obtain ⟨middle, hmade, hend⟩ := runWith_cases draw hgather
  refine ⟨middle, hmade, ?_⟩
  rcases hend with hwritten | ⟨fault, hfault⟩
  · rw [hwritten]
    exact gainsCharts_writeAll (draw material.styles) arguments.out hnames middle
  · rw [hfault]
    exact .refl (draw material.styles) arguments.out material.charts middle

lemma runWith_ok (hgather : gather files arguments = .ok material)
    (hrun : runWith draw arguments files = (.ok count, after)) :
    ∃ middle, files.GainsDirectories middle ∧
      writeAll (draw material.styles) arguments.out middle material.charts = (.ok count, after) := by
  obtain ⟨middle, hmade, hend⟩ := runWith_cases draw hgather
  rw [hrun] at hend
  rcases hend with hwritten | ⟨fault, hfault⟩
  · exact ⟨middle, hmade, hwritten.symm⟩
  · cases hfault

lemma run_eq_of_count (h : (run arguments files).1.toOption = some count) :
    run arguments files = (.ok count, (run arguments files).2) := by
  rcases hrun : run arguments files with ⟨fault | n, after⟩
  · rw [hrun] at h
    cases h
  · rw [hrun] at h
    cases h
    rfl

lemma exists_ok_of_any {ε α : Type} {result : Except ε α} {p : α → Bool}
    (h : result.toOption.any p = true) : ∃ a, result = .ok a ∧ p a = true := by
  rcases result with e | a
  · cases h
  · exact ⟨a, rfl, h⟩

end Plots

def oneFile (text : String) : Files := ⟨[(home ++ ["v1.csv"], .file (Text.encode text))]⟩

/-- Arguments that plot the one results file against itself. -/
def oneSeries : Arguments := ⟨[⟨"a", "v1.csv"⟩], "a", "graphs", none⟩

/-- A results file with two columns has four charts, under four names. -/
lemma gather_two_columns :
    ∃ material, gather (oneFile "size,ns,ops\n8,2,3\n") oneSeries = .ok material ∧
      (∀ dataset ∈ material.datasets, dataset.table.columns.Nodup) ∧
      Chart.sharedColumns material.datasets = ["ns", "ops"] ∧
      material.charts.map fileName =
        ["ns.svg", "ns_relative.svg", "ops.svg", "ops_relative.svg"] := by
  have hread : (gather (oneFile "size,ns,ops\n8,2,3\n") oneSeries).toOption.any (fun m => decide
      ((∀ dataset ∈ m.datasets, dataset.table.columns.Nodup) ∧
        Chart.sharedColumns m.datasets = ["ns", "ops"] ∧ m.charts.map fileName =
          ["ns.svg", "ns_relative.svg", "ops.svg", "ops_relative.svg"])) = true := by
    decide +kernel
  obtain ⟨material, hgather, hmaterial⟩ := exists_ok_of_any hread
  exact ⟨material, hgather, of_decide_eq_true hmaterial⟩

/-- **Which charts stay.**  A plot that ends well counts all its charts.  Their files have different
names exactly if no shared column is named as the relative chart of another one; then, unless a column
has a slash in it, each chart is found in the directory for charts under its own name. -/
theorem runWith_keeps_charts (draw : List (String × String) → Chart → Except String Bytes)
    (arguments : Arguments) (files after : Files) (material : Material) (count : ℕ)
    (hgather : gather files arguments = .ok material)
    (hrun : runWith draw arguments files = (.ok count, after))
    (hcolumns : ∀ dataset ∈ material.datasets, dataset.table.columns.Nodup)
    (hlasting : files.Lasting) :
    let shared := Chart.sharedColumns material.datasets
    count = material.charts.length ∧
    ((material.charts.map fileName).Nodup ↔ ∀ column ∈ shared, column ++ "_relative" ∉ shared) ∧
    ((∀ column ∈ shared, '/' ∉ column.toList) →
      (∀ column ∈ shared, column ++ "_relative" ∉ shared) →
      ∃ dir, ∀ chart ∈ material.charts, after.LeadsTo home arguments.out dir ∧
        HoldsDrawing (draw material.styles) chart after (dir ++ [fileName chart])) := by
  intro shared
  obtain ⟨middle, hmade, hwritten⟩ := runWith_ok hgather hrun
  have hnodup := nodup_fileNames_iff hcolumns
  refine ⟨count_of_writeAll hwritten, hnodup, ?_⟩
  intro hslash hfree
  exact writeAll_keeps_all ((isName_charts_iff material).2 hslash) (hmade.lasting hlasting)
    (hnodup.2 hfree) hwritten

/-- The four charts of two columns stay, under four names. -/
theorem runWith_keeps_charts_two_columns :
    let files := oneFile "size,ns,ops\n8,2,3\n"
    ∃ material after, gather files oneSeries = .ok material ∧
      run oneSeries files = (.ok 4, after) ∧
      material.charts.map fileName =
        ["ns.svg", "ns_relative.svg", "ops.svg", "ops_relative.svg"] ∧
      (material.charts.map fileName).Nodup ∧
      ∃ dir, ∀ chart ∈ material.charts, after.LeadsTo home "graphs" dir ∧
        HoldsDrawing (render material.styles) chart after (dir ++ [fileName chart]) := by
  intro files
  obtain ⟨material, hgather, hcolumns, hshared, hnames⟩ := gather_two_columns
  have hrun : run oneSeries files = (.ok 4, (run oneSeries files).2) :=
    run_eq_of_count (by decide +kernel)
  have hlasting : files.Lasting := Files.lasting_of_entries (by decide)
  obtain ⟨-, hnodup, hkept⟩ :=
    runWith_keeps_charts render oneSeries files _ material 4 hgather hrun hcolumns hlasting
  rw [hshared] at hnodup hkept
  exact ⟨material, _, hgather, hrun, hnames, hnodup.2 (by decide),
    hkept (by decide) (by decide)⟩

/-- Metrics are accepted whose charts take one another's files: four charts are counted, and three files
are there. -/
theorem run_loses_chart :
    let files := oneFile "size,a,a_relative\n1,2,3\n"
    Metric.check [⟨"a", "Time"⟩, ⟨"a_relative", "Ratio"⟩] = .ok () ∧
    ∃ material after, gather files oneSeries = .ok material ∧
      material.datasets.map (·.table.columns) = [["a", "a_relative"]] ∧
      ¬ (material.charts.map fileName).Nodup ∧ run oneSeries files = (.ok 4, after) ∧
      after.list? home "graphs" = some ["a_relative_relative.svg", "a_relative.svg", "a.svg"] := by
  intro files
  have hread : (gather files oneSeries).toOption.any (fun m => decide
      (m.datasets.map (·.table.columns) = [["a", "a_relative"]] ∧
        ¬ (m.charts.map fileName).Nodup)) = true := by
    decide +kernel
  have hrun : run oneSeries files = (.ok 4, (run oneSeries files).2) :=
    run_eq_of_count (by decide +kernel)
  obtain ⟨material, hgather, hmaterial⟩ := exists_ok_of_any hread
  obtain ⟨hcolumns, hclash⟩ := of_decide_eq_true hmaterial
  exact ⟨rfl, material, _, hgather, hcolumns, hclash, hrun, by decide +kernel⟩

/-- **Where charts go.**  The names of the files of charts are single names exactly if no shared column
has a slash in it.  Then a plot, however it ends, leaves every place as it was, makes a directory where
nothing was, or puts one of its charts under its name in the directory for charts. -/
theorem runWith_stays_inside (draw : List (String × String) → Chart → Except String Bytes)
    (arguments : Arguments) (files : Files) (material : Material)
    (hgather : gather files arguments = .ok material) :
    let shared := Chart.sharedColumns material.datasets
    let after := (runWith draw arguments files).2
    ((∀ chart ∈ material.charts, Files.IsName (fileName chart)) ↔
      ∀ column ∈ shared, '/' ∉ column.toList) ∧
    ((∀ column ∈ shared, '/' ∉ column.toList) → ∀ location,
      after.lookup? location = files.lookup? location ∨
      files.lookup? location = none ∧ after.lookup? location = some .directory ∨
      HoldsChart (draw material.styles) arguments.out material.charts after location) := by
  intro shared after
  refine ⟨isName_charts_iff material, ?_⟩
  intro hslash location
  obtain ⟨middle, hmade, hwritten⟩ :=
    runWith_gains draw hgather ((isName_charts_iff material).2 hslash)
  rcases hwritten location with hsame | ⟨-, hchart⟩
  · rcases hmade location with hold | ⟨hnone, hnew⟩
    · exact Or.inl (hsame.trans hold)
    · exact Or.inr (Or.inl ⟨hnone, hsame.trans hnew⟩)
  · exact Or.inr (Or.inr hchart)

/-- The charts of two columns are put in the directory for charts, and nowhere else. -/
theorem runWith_stays_inside_two_columns :
    let files := oneFile "size,ns,ops\n8,2,3\n"
    let after := (run oneSeries files).2
    ∃ material, gather files oneSeries = .ok material ∧
      material.charts.map fileName =
        ["ns.svg", "ns_relative.svg", "ops.svg", "ops_relative.svg"] ∧
      (∀ chart ∈ material.charts, Files.IsName (fileName chart)) ∧
      ∀ location, after.lookup? location = files.lookup? location ∨
        files.lookup? location = none ∧ after.lookup? location = some .directory ∨
        HoldsChart (render material.styles) "graphs" material.charts after location := by
  intro files after
  obtain ⟨material, hgather, -, hshared, hcharts⟩ := gather_two_columns
  obtain ⟨hnames, hplaces⟩ := runWith_stays_inside render oneSeries files material hgather
  rw [hshared] at hnames hplaces
  exact ⟨material, hgather, hcharts, hnames.2 (by decide), hplaces (by decide)⟩

/-- A metric is accepted whose charts are put beside the directory for charts. -/
theorem run_leaves_directory :
    let files := oneFile "size,../x\n1,2\n"
    Metric.check [⟨"../x", "Time"⟩] = .ok () ∧
    ∃ material after, gather files oneSeries = .ok material ∧
      material.datasets.map (·.table.columns) = [["../x"]] ∧
      (¬ ∀ chart ∈ material.charts, Files.IsName (fileName chart)) ∧
      run oneSeries files = (.ok 2, after) ∧ after.list? home "graphs" = some [] ∧
      files.list? home "." = some ["v1.csv"] ∧
      after.list? home "." = some ["x_relative.svg", "x.svg", "graphs", "v1.csv"] := by
  intro files
  have hread : (gather files oneSeries).toOption.any (fun m => decide
      (m.datasets.map (·.table.columns) = [["../x"]] ∧
        ∃ chart ∈ m.charts, '/' ∈ chart.name.toList)) = true := by
    decide +kernel
  have hrun : run oneSeries files = (.ok 2, (run oneSeries files).2) :=
    run_eq_of_count (by decide +kernel)
  obtain ⟨material, hgather, hmaterial⟩ := exists_ok_of_any hread
  obtain ⟨hcolumns, chart, hchart, hslash⟩ := of_decide_eq_true hmaterial
  refine ⟨rfl, material, _, hgather, hcolumns, ?_, hrun, by decide +kernel, by decide +kernel,
    by decide +kernel⟩
  intro hnames
  exact isName_fileName_iff.1 (hnames chart hchart) hslash

end SizeSweep.Plot
