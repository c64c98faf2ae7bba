import SatSum.Activity
import SatSum.Benchmark
import SatSum.Chance.ChaCha
import SatSum.CommandLine.Command
import SatSum.CommandLine.Scene
import SatSum.Decode
import SatSum.Formula
import SatSum.Generate
import SatSum.Main
import SatSum.Proofs.Benchmark
import SatSum.Proofs.Calls
import SatSum.Proofs.Caps
import SatSum.Proofs.CommandLine.OwnAnswers
import SatSum.Proofs.Deadline
import SatSum.Proofs.Formula.RoundTrip
import SatSum.Proofs.Generate
import SatSum.Proofs.Misreadings
import SatSum.Proofs.Reduction.Answers
import SatSum.Proofs.Reduction.Blocks
import SatSum.Proofs.Reduction.Faithful
import SatSum.Proofs.Reduction.NoCarry
import SatSum.Proofs.Reduction.Pipeline
import SatSum.Proofs.Reduction.Reread
import SatSum.Proofs.Reduction.Size
import SatSum.Proofs.Reduction.ThreeLiterals
import SatSum.Proofs.Reduction.Words
import SatSum.Proofs.Sat.Dpll.Conflicts
import SatSum.Proofs.Sat.Dpll.Occurrences
import SatSum.Proofs.Sat.Dpll.Termination
import SatSum.Proofs.Sat.Occurrences
import SatSum.Proofs.Sat.Strategies
import SatSum.Proofs.Sat.Visits
import SatSum.Proofs.Shapes
import SatSum.Proofs.SubsetSum.Nodes
import SatSum.Proofs.SubsetSum.Safety
import SatSum.Proofs.SubsetSum.Shift
import SatSum.Proofs.SubsetSum.Strategies
import SatSum.Proofs.SubsetSum.Text
import SatSum.Proofs.SubsetSum.Verdicts
import SatSum.Reduction.Pipeline
import SatSum.Sat.Backtracking
import SatSum.Sat.BruteForce
import SatSum.Sat.Dpll
import SatSum.Sat.Solve
import SatSum.SubsetSum.Solve
import SatSum.SubsetSum.Text
import SatSum.Text.Column
import SatSum.Text.Line
import SatSum.Text.Numeral
import SatSum.Text.Quoted
import SatSum.Text.Seconds
import SatSum.ThreeFormula
import SatSum.Verify
