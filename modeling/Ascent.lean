import Ascent.Addressing
import Ascent.Benchmark.Runner
import Ascent.Benchmark.Sheet
import Ascent.Benchmark.Tally
import Ascent.Climb
import Ascent.Climb.Loop
import Ascent.Climb.Narration
import Ascent.Command.Bench
import Ascent.Command.Hillclimb
import Ascent.Csv
import Ascent.Draft.Assembly
import Ascent.Draft.Decode
import Ascent.Files
import Ascent.Main
import Ascent.Problem
import Ascent.Random
import Ascent.Random.Assembly
import Ascent.Report
import Ascent.Solution.Parse
import Ascent.Proofs.Draft
import Ascent.Proofs.Evaluation
import Ascent.Proofs.ExactSum
import Ascent.Proofs.Flip
import Ascent.Proofs.Random
import Ascent.Proofs.Selection
import Ascent.Proofs.Climb.Course
import Ascent.Proofs.Climb.Extensionality
import Ascent.Proofs.Climb.Termination
import Ascent.Proofs.Climb.Optimality
import Ascent.Proofs.Climb.Monotonicity
import Ascent.Proofs.Climb.Capping
import Ascent.Proofs.Climb.Resumption
import Ascent.Proofs.Climb.Unconstrained
import Ascent.Proofs.Climb.Loop
import Ascent.Proofs.Climb.Request
import Ascent.Proofs.Climb.Safety
import Ascent.Proofs.Climb.Protocol
import Ascent.Proofs.Climb.Packing
import Ascent.Benchmark.Pool
import Ascent.Proofs.Benchmark.Pool
import Ascent.Proofs.Benchmark.Sequential
import Ascent.Proofs.Benchmark.Climbs
import Ascent.Proofs.Benchmark.Blame
import Ascent.Proofs.Benchmark.Summary
import Ascent.Proofs.Benchmark.Case
import Ascent.Proofs.Benchmark.Extension
import Ascent.Proofs.Climb.Interruption
import Ascent.Proofs.Climb.Narration
import Ascent.Proofs.Report.Table
import Ascent.Proofs.Command.Hillclimb
import Ascent.Proofs.Solution.Storage
import Ascent.Proofs.Selection.Questions
import Ascent.Proofs.ConstraintSet
import Ascent.Proofs.Lookup
import Ascent.Proofs.WeightedSum
import Ascent.Proofs.Neighborhood
import Ascent.Proofs.Text.Trim
import Ascent.Proofs.Text.Quoted
import Ascent.Proofs.Solution.Parse
import Ascent.Proofs.Benchmark.Tally
import Ascent.Proofs.Benchmark.Best
import Ascent.Proofs.Random.Assembly
import Ascent.Proofs.Random.Capacity
import Ascent.Operator.Symbol
import Ascent.Proofs.Text.Lowercase
import Ascent.Proofs.Operator
import Ascent.Proofs.Numeral
import Ascent.Proofs.Benchmark.Size
import Ascent.Csv.Rows
import Ascent.Proofs.Text.Octets
import Ascent.Proofs.Csv.Rows
import Ascent.Proofs.Csv
import Ascent.Proofs.Files
import Ascent.Proofs.Benchmark.Sheet
