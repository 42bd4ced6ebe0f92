import LoxTokens.Command.Answer
import LoxTokens.Command.Flag
import LoxTokens.Command.Line
import LoxTokens.Command.Run
import LoxTokens.Description
import LoxTokens.Diagnostic
import LoxTokens.Folder
import LoxTokens.Golden.Comparison
import LoxTokens.Golden.Expectations
import LoxTokens.Golden.Suite
import LoxTokens.Golden.Test
import LoxTokens.Log
import LoxTokens.Log.Filter
import LoxTokens.Main
import LoxTokens.Piece
import LoxTokens.Reporter
import LoxTokens.Run.Outcome
import LoxTokens.Run.Prompt
import LoxTokens.Run.Script
import LoxTokens.Scan
import LoxTokens.Scan.InPlace
import LoxTokens.Text.Alphabetic
import LoxTokens.Text.Basic
import LoxTokens.Text.Lines
import LoxTokens.Text.Numeral
import LoxTokens.Text.Numeric
import LoxTokens.Text.Pattern
import LoxTokens.Text.Pattern.Nesting
import LoxTokens.Text.Pattern.State
import LoxTokens.Text.Pattern.Step
import LoxTokens.Text.Plain
import LoxTokens.Text.Quoted
import LoxTokens.Text.Ranges
import LoxTokens.Text.Similarity
import LoxTokens.Text.Spacing
import LoxTokens.Text.Utf8
import LoxTokens.Text.Visible
import LoxTokens.Text.Visible.Extending
import LoxTokens.Text.Visible.Unprintable
import LoxTokens.Token.Basic
import LoxTokens.Token.Mark
import LoxTokens.Proofs.InPlace.Course
import LoxTokens.Proofs.InPlace.Run
import LoxTokens.Proofs.Reading
import LoxTokens.Proofs.InPlace.Bounds
import LoxTokens.Proofs.Lines
import LoxTokens.Proofs.Seam
import LoxTokens.Proofs.Reporter
import LoxTokens.Proofs.Script
import LoxTokens.Proofs.Automaton
import LoxTokens.Proofs.Emissions
import LoxTokens.Proofs.Golden.Markers
import LoxTokens.Proofs.Text.Lines
import LoxTokens.Proofs.Writing
import LoxTokens.Proofs.Silent
import LoxTokens.Proofs.Golden.Comparison
import LoxTokens.Proofs.Golden.Passing
import LoxTokens.Proofs.Utf8.Inverse
import LoxTokens.Proofs.Utf8.Malformed
import LoxTokens.Proofs.LineByLine
import LoxTokens.Proofs.Prompt
import LoxTokens.Proofs.Golden.Comments
import LoxTokens.Proofs.Golden.Verdict
import LoxTokens.Proofs.Settled
import LoxTokens.Proofs.Script.Bytes
import LoxTokens.Proofs.Listing
import LoxTokens.Proofs.Mending
import LoxTokens.Proofs.Logging
import LoxTokens.Proofs.Comments
import LoxTokens.Proofs.Front
import LoxTokens.Proofs.Golden.Suite
import LoxTokens.Proofs.Prompt.Loop
import LoxTokens.Proofs.InPlace.Listening
import LoxTokens.Proofs.Reporter.Session
import LoxTokens.Proofs.LineEnds
import LoxTokens.Proofs.Text.Runs
import LoxTokens.Proofs.Text.Quoted
import LoxTokens.Proofs.Golden.Account
import LoxTokens.Proofs.Golden.Notes
import LoxTokens.Proofs.Description
import LoxTokens.Proofs.Description.Values
