import Questionnaire.Text.Blank
import Questionnaire.Text.Word
import Questionnaire.Text.Plain
import Questionnaire.Text.Case
import Questionnaire.Text.Quoted
import Questionnaire.Text.Utf8
import Questionnaire.Number.Power
import Questionnaire.Number.Written
import Questionnaire.Number.Read
import Questionnaire.Number.Arithmetic
import Questionnaire.Json.Written
import Questionnaire.Json.Read
import Questionnaire.Value.Json
import Questionnaire.Expression.Failure
import Questionnaire.Expression.Tree
import Questionnaire.Expression.Evaluate
import Questionnaire.Answer.Evaluate
import Questionnaire.ValueType.Read
import Questionnaire.ValueType.Written
import Questionnaire.Signature.Build
import Questionnaire.Answer.Attempt
import Questionnaire.Arguments
import Questionnaire.Filename
import Questionnaire.FileTree.Operations
import Questionnaire.Registry
import Questionnaire.Store
import Questionnaire.Main
import Questionnaire.Proofs.Except
import Questionnaire.Proofs.Text
import Questionnaire.Proofs.Answer.Stretch
import Questionnaire.Proofs.Answer.Reading
import Questionnaire.Proofs.Answer.Literal
import Questionnaire.Proofs.Expression.Token
import Questionnaire.Proofs.Expression.Tree
import Questionnaire.Proofs.Keyed
import Questionnaire.Proofs.Signature.Build
import Questionnaire.Proofs.Signature.Declared
import Questionnaire.Proofs.Toml.Quoted
import Questionnaire.Proofs.Toml.Read
import Questionnaire.Proofs.Saved
import Questionnaire.Proofs.FileTree
import Questionnaire.Proofs.FileTree.Content
import Questionnaire.Proofs.Store
import Questionnaire.Proofs.Session.Dialogue
import Questionnaire.Proofs.Session.Exchange
import Questionnaire.Proofs.Session.Given
import Questionnaire.Proofs.Session.Collect
import Questionnaire.Proofs.Session.Restore
import Questionnaire.Proofs.Session.Parts
import Questionnaire.Proofs.Session.Parallel
import Questionnaire.Proofs.Session.Ending
import Questionnaire.Proofs.Session.Noninterference
import Questionnaire.Proofs.Session.Decline
import Questionnaire.Proofs.Session.Phases
import Questionnaire.Proofs.Override
import Questionnaire.Proofs.Registry
import Questionnaire.Proofs.Session.Calls
import Questionnaire.Proofs.CommandLine.Run
import Questionnaire.Proofs.Lindenmayer.Grammar
import Questionnaire.Proofs.Session.Frame
import Questionnaire.Proofs.FileTree.Entries
import Questionnaire.Proofs.FileTree.Place
import Questionnaire.Proofs.Store.History
import Questionnaire.Proofs.ValueType.Read
import Questionnaire.Proofs.Lindenmayer.Bracket
import Questionnaire.Proofs.Text.Lines
import Questionnaire.Proofs.Session.Modular
import Questionnaire.Proofs.Session.Source
import Questionnaire.Proofs.Session.Loop
import Questionnaire.Proofs.Session.Shared
import Questionnaire.Proofs.Session.Unbroken
import Questionnaire.Proofs.CommandLine.Asked
import Questionnaire.Proofs.Session.Retry
import Questionnaire.Proofs.Session.Load
import Questionnaire.Proofs.Expression.Crash
import Questionnaire.Proofs.Session.Crash
import Questionnaire.Proofs.Session.Waiting
import Questionnaire.Proofs.Session.Blank
import Questionnaire.Proofs.ValueType.Tuple
import Questionnaire.Proofs.ValueType.Literal
import Questionnaire.Proofs.Lindenmayer.Settings
import Questionnaire.Proofs.Number.Written
import Questionnaire.Proofs.Expression.Data
import Questionnaire.Proofs.Answer.Written
import Questionnaire.Proofs.Override.Assignment
import Questionnaire.Proofs.Number.Order
import Questionnaire.Proofs.Number.Integer
import Questionnaire.Proofs.Configuration
import Questionnaire.Proofs.ValueType.Interval
import Questionnaire.Proofs.Lindenmayer.Branch
import Questionnaire.Proofs.Lindenmayer.Picture
import Questionnaire.Proofs.Lindenmayer.Rules
import Questionnaire.Proofs.Lindenmayer.Segments
import Questionnaire.Proofs.ValueType.Context
import Questionnaire.Proofs.Text.Markup
import Questionnaire.Proofs.Value.Json
import Questionnaire.Proofs.Text.Words
import Questionnaire.Proofs.Signature.Documentation
import Questionnaire.Proofs.Expression.Level
import Questionnaire.Proofs.Expression.Sign
import Questionnaire.Proofs.Answer.Outside
import Questionnaire.Proofs.Answer.Levels
import Questionnaire.Proofs.Answer.Nested
import Questionnaire.Proofs.ValueType.Comma
import Questionnaire.Proofs.Answer.Code
import Questionnaire.Proofs.Answer.Layout
