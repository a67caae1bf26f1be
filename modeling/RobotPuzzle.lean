import RobotPuzzle.Arrow
import RobotPuzzle.CommandLine.Arguments
import RobotPuzzle.CommandLine.File
import RobotPuzzle.CommandLine.Play
import RobotPuzzle.Condition
import RobotPuzzle.Direction
import RobotPuzzle.Executor.Basic
import RobotPuzzle.Executor.Perform
import RobotPuzzle.Executor.Run
import RobotPuzzle.Grid
import RobotPuzzle.Json.Layout
import RobotPuzzle.Json.Magnitude
import RobotPuzzle.Json.Reader
import RobotPuzzle.Json.Token
import RobotPuzzle.Json.Value
import RobotPuzzle.Level.Basic
import RobotPuzzle.Level.Document
import RobotPuzzle.Level.Validity
import RobotPuzzle.Main
import RobotPuzzle.Proofs.CommandLine.Programs
import RobotPuzzle.Proofs.CommandLine.Words
import RobotPuzzle.Proofs.Executor.ArrowScripts
import RobotPuzzle.Proofs.Executor.Budgets
import RobotPuzzle.Proofs.Executor.Calls
import RobotPuzzle.Proofs.Executor.ConditionNames
import RobotPuzzle.Proofs.Executor.Conduct
import RobotPuzzle.Proofs.Executor.GuardedMoves
import RobotPuzzle.Proofs.Executor.JoinedTexts
import RobotPuzzle.Proofs.Executor.Lockstep
import RobotPuzzle.Proofs.Executor.Reentrance
import RobotPuzzle.Proofs.Executor.SavedFunctions
import RobotPuzzle.Proofs.Executor.ShortestArrows
import RobotPuzzle.Proofs.Executor.Stages
import RobotPuzzle.Proofs.Executor.Trace
import RobotPuzzle.Proofs.Executor.Unrolling
import RobotPuzzle.Proofs.Json.Completeness
import RobotPuzzle.Proofs.Json.Grammar
import RobotPuzzle.Proofs.Json.Magnitude
import RobotPuzzle.Proofs.Json.Numbers
import RobotPuzzle.Proofs.Json.Soundness
import RobotPuzzle.Proofs.Json.Strings
import RobotPuzzle.Proofs.Json.Writing
import RobotPuzzle.Proofs.Level.Decoding
import RobotPuzzle.Proofs.Level.Descriptions
import RobotPuzzle.Proofs.Level.Documents
import RobotPuzzle.Proofs.Level.Soundness
import RobotPuzzle.Proofs.Level.Tiles
import RobotPuzzle.Proofs.Level.Validation
import RobotPuzzle.Proofs.Script.Conditions
import RobotPuzzle.Proofs.Script.CutTexts
import RobotPuzzle.Proofs.Script.FlatActions
import RobotPuzzle.Proofs.Script.FlatReading
import RobotPuzzle.Proofs.Script.FlatRoundTrip
import RobotPuzzle.Proofs.Script.FlatShapes
import RobotPuzzle.Proofs.Script.FlatSkipping
import RobotPuzzle.Proofs.Script.FlatSteps
import RobotPuzzle.Proofs.Script.Grammar
import RobotPuzzle.Proofs.Script.HeaderFaults
import RobotPuzzle.Proofs.Script.LargeCounts
import RobotPuzzle.Proofs.Script.LeftmostExcerpts
import RobotPuzzle.Proofs.Script.PrintedTokens
import RobotPuzzle.Proofs.Script.QuotedPlaces
import RobotPuzzle.Proofs.Script.StrictCompleteness
import RobotPuzzle.Proofs.Script.StrictFaults
import RobotPuzzle.Proofs.Script.StrictReader
import RobotPuzzle.Proofs.Script.StrictRoundTrip
import RobotPuzzle.Proofs.Script.StrictSoundness
import RobotPuzzle.Proofs.Script.StrictSteps
import RobotPuzzle.Proofs.Script.TokenText
import RobotPuzzle.Proofs.Script.Tokenization
import RobotPuzzle.Proofs.Script.ViablePrefixes
import RobotPuzzle.Proofs.Session.History
import RobotPuzzle.Proofs.Text.Matches
import RobotPuzzle.Proofs.Text.Runs
import RobotPuzzle.Proofs.Text.Words
import RobotPuzzle.Proofs.World.Drawings
import RobotPuzzle.Proofs.World.History
import RobotPuzzle.Proofs.World.Layout
import RobotPuzzle.Proofs.World.Ledger
import RobotPuzzle.Proofs.World.Moves
import RobotPuzzle.Proofs.World.Primitive
import RobotPuzzle.Proofs.World.Ranges
import RobotPuzzle.Script.Basic
import RobotPuzzle.Script.Error
import RobotPuzzle.Script.Excerpt
import RobotPuzzle.Script.Flat
import RobotPuzzle.Script.Mode
import RobotPuzzle.Script.Printer
import RobotPuzzle.Script.Strict
import RobotPuzzle.Script.Token
import RobotPuzzle.Session
import RobotPuzzle.Snapshot.Basic
import RobotPuzzle.Snapshot.Document
import RobotPuzzle.Snapshot.Drawing
import RobotPuzzle.Text.Alphanumeric
import RobotPuzzle.Text.Blank
import RobotPuzzle.Text.CharRange
import RobotPuzzle.Text.Decimal
import RobotPuzzle.Text.Match
import RobotPuzzle.Text.Place
import RobotPuzzle.Text.Printable
import RobotPuzzle.Text.Quoted
import RobotPuzzle.World
