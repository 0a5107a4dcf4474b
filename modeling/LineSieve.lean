import LineSieve.FileTree
import LineSieve.Main
import LineSieve.Proofs.Expr.Printing
import LineSieve.Proofs.Matcher.Meaning
import LineSieve.Proofs.Expr.Group
import LineSieve.Proofs.Matcher.Levels
import LineSieve.Proofs.Matcher.Composition
import LineSieve.Proofs.Filter.Passing
import LineSieve.Proofs.Token.Layout
import LineSieve.Proofs.Matcher.FirstFailure
import LineSieve.Proofs.Matcher.Positions
import LineSieve.Proofs.CommandLine.SettingsFile
import LineSieve.Proofs.Expr.TokenBudget
import LineSieve.Proofs.Expr.RoundLimit
import LineSieve.Proofs.Expr.NotRuns
import LineSieve.Proofs.Token.Seams
import LineSieve.Proofs.Filter.Chaining
import LineSieve.Proofs.Expr.Readability
import LineSieve.Proofs.Filter.Inputs
import LineSieve.Proofs.Matcher.Log
import LineSieve.Proofs.CommandLine.CaseFlags
import LineSieve.Proofs.Settings.Layering
import LineSieve.Proofs.Program.Outcome
