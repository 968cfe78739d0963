import SizeSweep.Main
import SizeSweep.Proofs.Binary64.Rounding
import SizeSweep.Proofs.Binary64.Halving
import SizeSweep.Proofs.Binary64.Decimals
import SizeSweep.Proofs.Binary64.Numerals
import SizeSweep.Proofs.Binary64.Grammar
import SizeSweep.Proofs.Text.Encoding
import SizeSweep.Proofs.Text.Trimming
import SizeSweep.Proofs.Text.Lines
import SizeSweep.Proofs.ControlSequence
import SizeSweep.Proofs.ControlSequence.Division
import SizeSweep.Proofs.Sample
import SizeSweep.Proofs.Decoration
import SizeSweep.Proofs.Csv.Lines
import SizeSweep.Proofs.Csv.Fields
import SizeSweep.Proofs.Csv.Continuation
import SizeSweep.Proofs.Csv.Positions
import SizeSweep.Proofs.Csv.Cuts
import SizeSweep.Proofs.Table
import SizeSweep.Proofs.Table.Faults
import SizeSweep.Proofs.Table.Values
import SizeSweep.Proofs.Store.ReadBack
import SizeSweep.Proofs.Store.Reopening
import SizeSweep.Proofs.Store.Appending
import SizeSweep.Proofs.Store.Tearing
import SizeSweep.Proofs.Sweep
import SizeSweep.Proofs.Sweep.Resolution
import SizeSweep.Proofs.Experiment.Samples
import SizeSweep.Proofs.Aggregate
import SizeSweep.Proofs.Median
import SizeSweep.Proofs.Experiment.Course
import SizeSweep.Proofs.Experiment.Progress
import SizeSweep.Proofs.Experiment.Provenance
import SizeSweep.Proofs.Reading
import SizeSweep.Proofs.Experiment.Finiteness
import SizeSweep.Proofs.Experiment.Resumption
import SizeSweep.Proofs.Experiment.Recovery
import SizeSweep.Proofs.Experiment.Trail
import SizeSweep.Proofs.Experiment.States
import SizeSweep.Proofs.Experiment.Growth
import SizeSweep.Proofs.Experiment.History
import SizeSweep.Proofs.Runner
import SizeSweep.Proofs.Invocation
import SizeSweep.Proofs.Files
import SizeSweep.Proofs.Chart
import SizeSweep.Proofs.Plot
import SizeSweep.Proofs.Chart.Recorded
import SizeSweep.Proofs.Chart.Ratios
import SizeSweep.Proofs.Chart.Baseline
import SizeSweep.Proofs.Plot.Refusals
import SizeSweep.Proofs.Yaml.Order
import SizeSweep.Proofs.Yaml.Forms
import SizeSweep.Proofs.Yaml.Records
import SizeSweep.Proofs.Config
