import SqlBuild.Floating.Reading
import SqlBuild.Main
import SqlBuild.Proofs.PasswordSecrecy
import SqlBuild.Rehearsal.MemoryServer
import SqlBuild.Rehearsal.MemoryStore
import SqlBuild.Rehearsal.ScriptedClients
import SqlBuild.Rehearsal.ScriptedLink
import SqlBuild.Proofs.Plays
import SqlBuild.Proofs.SessionPlays
import SqlBuild.Proofs.UpgradeGate
import SqlBuild.Proofs.Encoding
import SqlBuild.Proofs.Records
import SqlBuild.Proofs.Compilation
import SqlBuild.Proofs.FileTrees
import SqlBuild.Proofs.CacheHistory
import SqlBuild.Proofs.ArtifactStore
import SqlBuild.Proofs.BulkRoundTrip
import SqlBuild.Proofs.Precedence
import SqlBuild.Proofs.ScriptPreview
import SqlBuild.Proofs.SessionDiscipline
import SqlBuild.Proofs.Cancellation
import SqlBuild.Proofs.BuildParts
import SqlBuild.Proofs.StraightLine
import SqlBuild.Proofs.FailureIsolation
import SqlBuild.Proofs.AuditEntry
import SqlBuild.Proofs.Preview
import SqlBuild.Proofs.RawMode
import SqlBuild.Proofs.BuildStack
import SqlBuild.Proofs.Inlining
import SqlBuild.Proofs.AppliedOnce
import SqlBuild.Proofs.RecordForm
import SqlBuild.Proofs.Notices
import SqlBuild.Proofs.Conversations
import SqlBuild.Proofs.FailedBuilds
import SqlBuild.Proofs.LineByLine
import SqlBuild.Proofs.Expansion
import SqlBuild.Proofs.Conditionals
import SqlBuild.Proofs.FailureReports
import SqlBuild.Proofs.ConditionalLines
import SqlBuild.Proofs.BuildArguments
import SqlBuild.Proofs.UpgradeWalk
import SqlBuild.Proofs.PlainUpgrades
import SqlBuild.Proofs.BatchSplitting
import SqlBuild.Proofs.MatchingRuns
import SqlBuild.Proofs.InlineCommands
import SqlBuild.Proofs.InsertStatements
import SqlBuild.Proofs.ReturnCodes
import SqlBuild.Proofs.Messages
import SqlBuild.Proofs.DecimalTexts
import SqlBuild.Proofs.TimeCells
import SqlBuild.Proofs.WorkTables
import SqlBuild.Proofs.CompilerSteps
import SqlBuild.Proofs.TableLocations
import SqlBuild.Proofs.DelimitedSources
import SqlBuild.Proofs.SourceWords
import SqlBuild.Proofs.IndexedDictionary
import SqlBuild.Proofs.OptionLines
import SqlBuild.Proofs.SymbolicWalk
import SqlBuild.Proofs.Columns
import SqlBuild.Proofs.RenderedTables
import SqlBuild.Proofs.FixedColumns
import SqlBuild.Proofs.BatchOutput
import SqlBuild.Proofs.ServerMessages
import SqlBuild.Proofs.CacheAge
import SqlBuild.Proofs.UndefinedTokens
import SqlBuild.Proofs.DistinctKeys
import SqlBuild.Proofs.ProfileLookup
import SqlBuild.Proofs.StackedFlags
import SqlBuild.Proofs.AddedFlags
import SqlBuild.Proofs.SequenceFlags
