import Standin.Program
import Standin.Config.Arguments
import Standin.Source.Record.Reading
import Standin.Number.Reading
import Standin.Registry.Operation
import Standin.Proofs.Footprint
import Standin.Proofs.RoundTrip
import Standin.Proofs.Accepted
import Standin.Proofs.Teardown
import Standin.Proofs.Lane
import Standin.Proofs.VisitingOrder
import Standin.Proofs.Writes
import Standin.Proofs.InStep
import Standin.Proofs.Nesting
import Standin.Proofs.History
import Standin.Proofs.Declined
import Standin.Proofs.Refused
import Standin.Proofs.AliasOnly
import Standin.Proofs.WriteLog
import Standin.Proofs.OneByOne
import Standin.Proofs.AtRest
import Standin.Proofs.Walk
import Standin.Proofs.Writable
import Standin.Proofs.Reach
import Standin.Proofs.Opened
import Standin.Proofs.SameTable
import Standin.Proofs.Tandem
import Standin.Proofs.Follows
import Standin.Proofs.Evaluating
import Standin.Proofs.Executing
import Standin.Proofs.Loading
import Standin.Proofs.OpenedBody
import Standin.Proofs.OpenedRun
import Standin.Proofs.Finders
import Standin.Proofs.Sessions
import Standin.Proofs.Outline
import Standin.Proofs.Occurrences
import Standin.Proofs.Spelling
import Standin.Proofs.Heads
import Standin.Proofs.Declaring
import Standin.Proofs.Triggers
import Standin.Proofs.Found
import Standin.Proofs.Places
import Standin.Proofs.Resets
import Standin.Proofs.Brackets
import Standin.Proofs.AssignmentExpressions
import Standin.Proofs.Splitting
import Standin.Proofs.Lines
import Standin.Proofs.PathLists
import Standin.Proofs.Candidates
import Standin.Proofs.TextOrder
import Standin.Proofs.Crossing
import Standin.Proofs.Layout
import Standin.Proofs.Running
import Standin.Proofs.LaidStrings
import Standin.Proofs.LaidExpressions
import Standin.Proofs.LaidPatterns
import Standin.Proofs.LaidStatements
import Standin.Proofs.DocumentOrder
import Standin.Proofs.NameTable
import Standin.Proofs.RegistryLists
import Standin.Proofs.Ancestors
