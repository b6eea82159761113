import LogMigration.CommandLine.Session
import LogMigration.Config.Document
import LogMigration.Main
import LogMigration.Proofs.ByteLines
import LogMigration.Proofs.CallInContext
import LogMigration.Proofs.CleanVerdict
import LogMigration.Proofs.EditScript
import LogMigration.Proofs.Enumeration
import LogMigration.Proofs.Exclusion
import LogMigration.Proofs.ExternalCount
import LogMigration.Proofs.ImportPlace
import LogMigration.Proofs.ImportSpecifier
import LogMigration.Proofs.LineCount
import LogMigration.Proofs.LineEnding
import LogMigration.Proofs.Rehearsal
import LogMigration.Proofs.RepeatedPass
import LogMigration.Proofs.Replacement
import LogMigration.Proofs.RuleOrder
import LogMigration.Proofs.RunAccount
import LogMigration.Proofs.SecondPass
import LogMigration.Proofs.StatementBalance
import LogMigration.Proofs.StatementTotals
import LogMigration.Proofs.Transcript
import LogMigration.Proofs.TreeRun
import LogMigration.Run.Tree
import LogMigration.Scan.External
import LogMigration.Scan.Replay
import LogMigration.Scan.System
import LogMigration.SourceEdit
