import SizeSweep.CommandLine
import SizeSweep.Drawing
import SizeSweep.Files
import SizeSweep.Yaml.Decoder

/-!
Plotting: several results files, each under a label, are read and compared chart by chart.  Nothing
is written before all inputs have been read and found to share a size.
-/

namespace SizeSweep.Plot

/-- A results file to plot and its label. -/
structure Series where
  label : String
  path : String
deriving DecidableEq

/-- The text that a series is given by. -/
def seriesForm : String := "expected LABEL=PATH"

/-- The series that a text gives: the label, an equals sign and the path, neither of them empty. -/
def Series.ofText? (raw : String) : Option Series :=
  match Text.splitAt? ['='] raw.toList with
  | some (c :: label, d :: path) => some ⟨String.ofList (c :: label), String.ofList (d :: path)⟩
  | _ => none

def Series.refusal (raw : String) : String := s!"{seriesForm}, got `{raw}`"

/-! ### Arguments -/

structure Arguments where
  series : List Series
  /-- The label of the series that relative charts divide by. -/
  baseline : String
  out : String
  styles : Option String
deriving DecidableEq

/-- The arguments that have been read. -/
structure Draft where
  series : List Series := []
  baseline : Option String := none
  out : Option String := none
  styles : Option String := none

open CommandLine in
def switches : List (Switch Draft) :=
  [⟨"series", none, .setting fun raw d =>
      (readable Series.ofText? raw).map fun s => { d with series := d.series ++ [s] }⟩,
   ⟨"baseline", none, .setting (setOnce Draft.baseline (fun d x => { d with baseline := some x })
      .ok)⟩,
   ⟨"out", none, .setting (setOnce Draft.out (fun d x => { d with out := some x }) path)⟩,
   ⟨"styles", none, .setting (setOnce Draft.styles (fun d x => { d with styles := some x })
      path)⟩]

/-- The arguments that a command line gives.  A series and the baseline are required. -/
def Arguments.ofWords (words : List String) : Except CommandLine.Stop Arguments := do
  let draft ← CommandLine.parse switches {} words
  match draft.series, draft.baseline with
  | [], _ | _, none => .error .missingRequired
  | series, some baseline =>
    .ok { series, baseline, out := draft.out.getD "graphs", styles := draft.styles }

/-! ### Faults -/

inductive Fault where
  | duplicateLabel (label : String)
  | noSharedSizes
  | read (label : String) (fault : Table.Fault)
  | render (chart message : String)
  | styles (fault : Yaml.ReadFault)
  | unknownBaseline (label : String)
  | io (fault : OsFault)

def Fault.message : Fault → String
  | duplicateLabel label => s!"series `{label}` given more than once"
  | noSharedSizes => "no size is recorded in every series"
  | read label fault => s!"series `{label}`: {fault.message}"
  | render chart message => s!"failed to render {chart}: {message}"
  | styles fault => s!"invalid style file: {fault.message}"
  | unknownBaseline label => s!"baseline `{label}` is not one of the series"
  | io fault => s!"I/O error: {fault.message}"

def Fault.causes : Fault → List String
  | read _ fault => fault.message :: fault.causes
  | styles fault => [fault.message]
  | io fault => [fault.message]
  | _ => []

/-! ### Reading -/

/-- Reads the series one by one after the datasets that are already there. -/
def loadAfter (files : Files) (loaded : List Dataset) : List Series → Except Fault (List Dataset)
  | [] => .ok loaded
  | s :: rest =>
    if loaded.any (·.label = s.label) then .error (.duplicateLabel s.label)
    else match Table.ofFile (files.read Files.home s.path) with
      | .error fault => .error (.read s.label fault)
      | .ok table => loadAfter files (loaded ++ [⟨s.label, table⟩]) rest

def load (files : Files) (series : List Series) : Except Fault (List Dataset) :=
  loadAfter files [] series

/-- The colours that a style file gives to labels, sorted by labels. -/
def stylesOf : Except OsFault String → Except Fault (List (String × String))
  | .error fault => .error (.io fault)
  | .ok text => (Yaml.Decoder.dictionary.ofText text).mapError Fault.styles

/-- What is known before the first chart is written. -/
structure Material where
  datasets : List Dataset
  baseline : Dataset
  styles : List (String × String)
  sizes : List UInt64

/-- Reads everything that a plot needs. -/
def gather (files : Files) (arguments : Arguments) : Except Fault Material := do
  let datasets ← load files arguments.series
  match datasets.find? (·.label = arguments.baseline) with
  | none => .error (.unknownBaseline arguments.baseline)
  | some baseline =>
    let styles ← match arguments.styles with
      | none => .ok []
      | some path => stylesOf (files.readText Files.home path)
    let sizes := Chart.sharedSizes datasets
    if sizes.isEmpty then .error .noSharedSizes
    else .ok { datasets, baseline, styles, sizes }

/-! ### Writing -/

def Material.charts (material : Material) : List Chart :=
  Chart.both material.datasets material.baseline (Chart.sharedColumns material.datasets)
    material.sizes

def chartPath (out : String) (chart : Chart) : String := joinPath out (chart.name ++ ".svg")

/-- The drawing of a chart, which never fails. -/
def render (styles : List (String × String)) (chart : Chart) : Except String Bytes :=
  .ok (Text.encode
    (chart.drawing (Chart.lineColors Chart.palette (chart.lines.map Prod.fst) styles id)))

/-- Draws a chart in some way, which may fail with a message, and writes the drawing. -/
def writeChart (draw : Chart → Except String Bytes) (out : String) (files : Files)
    (chart : Chart) : Except Fault Files :=
  match draw chart with
  | .error message => .error (.render chart.name message)
  | .ok svg => (files.write Files.home (chartPath out chart) svg).mapError Fault.io

/-- Writes charts until the first fault, and counts them. -/
def writeAll (draw : Chart → Except String Bytes) (out : String) (files : Files) :
    List Chart → Except Fault Nat × Files
  | [] => (.ok 0, files)
  | chart :: rest =>
    match writeChart draw out files chart with
    | .error fault => (.error fault, files)
    | .ok files =>
      let (count, files) := writeAll draw out files rest
      (count.map (· + 1), files)

/-- Plots with a way to draw charts in the given styles: the number of charts written, and the files
afterwards. -/
def runWith (draw : List (String × String) → Chart → Except String Bytes) (arguments : Arguments)
    (files : Files) : Except Fault Nat × Files :=
  match gather files arguments with
  | .error fault => (.error fault, files)
  | .ok material =>
    match files.createDirectories Files.home arguments.out with
    | (.error fault, files) => (.error (.io fault), files)
    | (.ok (), files) => writeAll (draw material.styles) arguments.out files material.charts

/-- Plots, drawing with the palette where no style is given. -/
def run (arguments : Arguments) (files : Files) : Except Fault Nat × Files :=
  runWith render arguments files

structure Outcome where
  exitCode : Nat
  errors : List String
  files : Files

def program (words : List String) (files : Files) : Outcome :=
  match Arguments.ofWords words with
  | .error stop => ⟨stop.exitCode, [], files⟩
  | .ok arguments =>
    match run arguments files with
    | (.ok _, files) => ⟨0, [], files⟩
    | (.error fault, files) => ⟨1, [s!"plotting failed err={fault.message}"], files⟩

end SizeSweep.Plot
