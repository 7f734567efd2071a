import BuildDiagnostics.Main
import BuildDiagnostics.Proofs.Emission
import BuildDiagnostics.Proofs.Interleaving
import BuildDiagnostics.Proofs.Resolution
import BuildDiagnostics.Proofs.Record
import BuildDiagnostics.Proofs.Reset
import BuildDiagnostics.Proofs.FileName
import BuildDiagnostics.Proofs.Readings
import BuildDiagnostics.Proofs.LinkerName
import BuildDiagnostics.Proofs.Lookup
import BuildDiagnostics.Proofs.LinkerMessage
import BuildDiagnostics.Proofs.Success
import BuildDiagnostics.Proofs.BlankLine
import BuildDiagnostics.Proofs.Boundary
import BuildDiagnostics.Proofs.Replay
import BuildDiagnostics.Proofs.CacheLine
import BuildDiagnostics.Proofs.LinkerLine
import BuildDiagnostics.Proofs.ContextLine
import BuildDiagnostics.Proofs.MakeLine
import BuildDiagnostics.Proofs.LineHeading
import BuildDiagnostics.Proofs.Overlap
import BuildDiagnostics.Proofs.LatestBatch
import BuildDiagnostics.Proofs.SecondPass
import BuildDiagnostics.Proofs.CMakeMessage
import BuildDiagnostics.Proofs.Grouping
import BuildDiagnostics.Proofs.LogRun
import BuildDiagnostics.Proofs.Destination
import BuildDiagnostics.Proofs.IncludeReport
import BuildDiagnostics.Proofs.SoundRecord
import BuildDiagnostics.Proofs.IndentedBlock
import BuildDiagnostics.Proofs.RelatedPlace
import BuildDiagnostics.Proofs.ColumnHeading
import BuildDiagnostics.Proofs.LinkerForm
import BuildDiagnostics.Proofs.CacheLayout
import BuildDiagnostics.Proofs.CacheMeaning
import BuildDiagnostics.Proofs.MsvcReport
import BuildDiagnostics.Proofs.QuotedReport
import BuildDiagnostics.Proofs.SortedSnapshot
import BuildDiagnostics.Proofs.IdleGrammar
import BuildDiagnostics.Proofs.Chunks
import BuildDiagnostics.Proofs.LowerCase
import BuildDiagnostics.Proofs.Registration
import BuildDiagnostics.Proofs.FailedLookup
import BuildDiagnostics.Proofs.LongerBatch
import BuildDiagnostics.Proofs.BaseOrder
import BuildDiagnostics.Proofs.AsciiOutput
