import Lockstep.Block.Basic
import Lockstep.Block.Cursor
import Lockstep.Block.Entries
import Lockstep.Block.Marker
import Lockstep.Block.Names
import Lockstep.Block.Scan
import Lockstep.Change.Query
import Lockstep.Change.Series
import Lockstep.Change.Session
import Lockstep.Change.Source
import Lockstep.Check.Change
import Lockstep.Check.File
import Lockstep.Check.Program
import Lockstep.Check.Scan
import Lockstep.Check.Violation
import Lockstep.Cli.Options
import Lockstep.Cli.Program
import Lockstep.Cli.Suggestion
import Lockstep.Disk.Fault
import Lockstep.Disk.Tree
import Lockstep.Failure
import Lockstep.Git.Command
import Lockstep.Git.Script
import Lockstep.Git.Source
import Lockstep.Git.Trailer
import Lockstep.Glob.Basic
import Lockstep.Glob.Brace
import Lockstep.Glob.Bracket
import Lockstep.Glob.CharClass
import Lockstep.Glob.Expression
import Lockstep.Glob.Group
import Lockstep.Glob.Segment
import Lockstep.Main
import Lockstep.Patch.Basic
import Lockstep.Patch.Header
import Lockstep.Patch.LineNumber
import Lockstep.Patch.PathName
import Lockstep.Patch.Reader
import Lockstep.Path
import Lockstep.Pattern
import Lockstep.Run
import Lockstep.Text.Basic
import Lockstep.Text.Blank
import Lockstep.Text.Category.Basic
import Lockstep.Text.Category.Letter
import Lockstep.Text.Category.Lower
import Lockstep.Text.Category.Other
import Lockstep.Text.Category.Sign
import Lockstep.Text.Category.Upper
import Lockstep.Text.Lines
import Lockstep.Text.Quoted
import Lockstep.Text.Units
import Lockstep.Text.Utf8
import Lockstep.Proofs.Memory
import Lockstep.Proofs.Scan
import Lockstep.Proofs.Selection
import Lockstep.Proofs.PatternLists
import Lockstep.Proofs.Unmet
import Lockstep.Proofs.Verdict
import Lockstep.Proofs.Numbers
import Lockstep.Proofs.Touch
import Lockstep.Proofs.Shortcuts
import Lockstep.Proofs.Diff.Render
import Lockstep.Proofs.Utf8
import Lockstep.Proofs.Diff.Header
import Lockstep.Proofs.Diff.RoundTrip
import Lockstep.Proofs.Block.Render
import Lockstep.Proofs.Block.RoundTrip
import Lockstep.Proofs.Block.Nesting
import Lockstep.Proofs.Block.Spread
import Lockstep.Proofs.Block.PlainLines
import Lockstep.Proofs.Block.LineEnds
import Lockstep.Proofs.Inquiry
import Lockstep.Proofs.WholeCheck
import Lockstep.Proofs.Block.Names
import Lockstep.Proofs.CleanScan
import Lockstep.Proofs.CheckFailure
import Lockstep.Proofs.Glob.Literal
import Lockstep.Proofs.Rooted
import Lockstep.Proofs.Agreement
import Lockstep.Proofs.EarlyStop
import Lockstep.Proofs.Arguments
import Lockstep.Proofs.ExitStatus
import Lockstep.Proofs.Revisions
import Lockstep.Proofs.Diff.Quoting
import Lockstep.Proofs.Diff.Numbering
import Lockstep.Proofs.Diff.Keys
import Lockstep.Proofs.OneByOne
import Lockstep.Proofs.Block.Cursor
import Lockstep.Proofs.Survey
import Lockstep.Proofs.StalePaths
import Lockstep.Proofs.Block.Endings
import Lockstep.Proofs.Trailer
import Lockstep.Proofs.FileLists
import Lockstep.Proofs.Diff.Counting
import Lockstep.Proofs.SingleLine
