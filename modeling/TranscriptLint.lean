import TranscriptLint.Main
import TranscriptLint.Proofs.Indentation
import TranscriptLint.Proofs.Lines
import TranscriptLint.Proofs.TabStops
import TranscriptLint.Proofs.Words
import TranscriptLint.Proofs.BlockNormalForm
import TranscriptLint.Proofs.LiteralBlock
import TranscriptLint.Proofs.DirectiveGrammar
import TranscriptLint.Proofs.RestCover
import TranscriptLint.Proofs.RestSections
import TranscriptLint.Proofs.Classification
import TranscriptLint.Proofs.ScriptLines
import TranscriptLint.Proofs.Dedent
import TranscriptLint.Proofs.DocumentCoordinates
import TranscriptLint.Proofs.FunctionLookup
import TranscriptLint.Proofs.DocstringExtent
import TranscriptLint.Proofs.DocstringLines
import TranscriptLint.Proofs.DocstringOwner
import TranscriptLint.Proofs.DocstringCoordinates
import TranscriptLint.Proofs.PhysicalLines
import TranscriptLint.Proofs.DialectFilter
import TranscriptLint.Proofs.MarkdownPlaces
import TranscriptLint.Proofs.FenceContent
import TranscriptLint.Proofs.Deduplication
import TranscriptLint.Proofs.Files
import TranscriptLint.Proofs.PathComponents
import TranscriptLint.Proofs.SearchRoots
import TranscriptLint.Proofs.DocumentList
import TranscriptLint.Proofs.ProjectFile
import TranscriptLint.Proofs.Decimal
import TranscriptLint.Proofs.JsonTokens
import TranscriptLint.Proofs.JsonText
import TranscriptLint.Proofs.JsonWriting
import TranscriptLint.Proofs.FindingRecords
import TranscriptLint.Proofs.JsonReport
import TranscriptLint.Proofs.Colours
import TranscriptLint.Proofs.OptionCheck
import TranscriptLint.Proofs.LintRun
import TranscriptLint.Proofs.Enrichment
import TranscriptLint.Proofs.Headers
import TranscriptLint.Proofs.LinterCalls
import TranscriptLint.Proofs.BlockReach
import TranscriptLint.Proofs.ReportFile
import TranscriptLint.Proofs.Independence
import TranscriptLint.Proofs.HostCalls
import TranscriptLint.Proofs.CheckScreen
import TranscriptLint.Proofs.CheckStages
import TranscriptLint.Proofs.LinterVersion
import TranscriptLint.Proofs.Misconfiguration
import TranscriptLint.Proofs.ExitStatus
import TranscriptLint.Proofs.Presentation
