import BlockSyntax.Text.RangeTable
import BlockSyntax.Text.Letter
import BlockSyntax.Text.Printable
import BlockSyntax.Text.Decimal
import BlockSyntax.Text.Quote
import BlockSyntax.Token.Basic
import BlockSyntax.Source.Utf8
import BlockSyntax.Source.Feed
import BlockSyntax.Scanner.Mode
import BlockSyntax.Scanner.Reader
import BlockSyntax.Scanner.Step
import BlockSyntax.Scanner.Tape
import BlockSyntax.Scanner.Narration
import BlockSyntax.Syntax.Error
import BlockSyntax.Syntax.Cursor
import BlockSyntax.Syntax.Check
import BlockSyntax.Settings
import BlockSyntax.Journal
import BlockSyntax.Report
import BlockSyntax.Text.Space
import BlockSyntax.Disk
import BlockSyntax.Command.Line
import BlockSyntax.Command.Run
import BlockSyntax.Fixture.Suite
import BlockSyntax.Main
import BlockSyntax.Proofs.TextScan
import BlockSyntax.Proofs.MaximalMunch
import BlockSyntax.Proofs.LexemeLayout
import BlockSyntax.Proofs.Grammar
import BlockSyntax.Proofs.ReplyLogic
import BlockSyntax.Proofs.ExpressionCheck
import BlockSyntax.Proofs.StatementRules
import BlockSyntax.Proofs.StatementCheck
import BlockSyntax.Proofs.Acceptance
import BlockSyntax.Proofs.NestedSource
import BlockSyntax.Proofs.Recovery
import BlockSyntax.Proofs.ReaderProgress
import BlockSyntax.Proofs.ErrorOrder
import BlockSyntax.Proofs.ExpectedKinds
import BlockSyntax.Proofs.CorrectPrefix
import BlockSyntax.Proofs.OnlineCheck
import BlockSyntax.Proofs.FailingFeed
import BlockSyntax.Proofs.FailedRead
import BlockSyntax.Proofs.ExpressionRules
import BlockSyntax.Proofs.Resynchronisation
import BlockSyntax.Proofs.PullCount
import BlockSyntax.Proofs.CallDepth
