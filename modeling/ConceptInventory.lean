import ConceptInventory.Analysis.Schedule
import ConceptInventory.CommandLine.FileTree
import ConceptInventory.Extractor.Dispatching
import ConceptInventory.Extractor.Requests
import ConceptInventory.Findings.Import
import ConceptInventory.Inventory.History
import ConceptInventory.Inventory.Lineage
import ConceptInventory.Json.WrittenFields
import ConceptInventory.Lexis.Cut
import ConceptInventory.Lexis.Marks
import ConceptInventory.Main
import ConceptInventory.Session.Closed
import ConceptInventory.Transcript.Refusal
import ConceptInventory.Transcript.Validity
import ConceptInventory.Transcript.Written
import ConceptInventory.Vocabulary
import ConceptInventory.Proofs.Extraction
import ConceptInventory.Proofs.SessionOutcome
import ConceptInventory.Proofs.ScheduleAgreement
import ConceptInventory.Proofs.EarliestStamps
import ConceptInventory.Proofs.CutDecision
import ConceptInventory.Proofs.LineBreaks
import ConceptInventory.Proofs.LineCuts
import ConceptInventory.Proofs.Neighbours
import ConceptInventory.Proofs.LineLocality
import ConceptInventory.Proofs.Resolution
import ConceptInventory.Proofs.QuotedText
import ConceptInventory.Proofs.WholeNumbers
import ConceptInventory.Proofs.JsonRoundTrip
import ConceptInventory.Proofs.CFamilyTexts
import ConceptInventory.Proofs.FindingsRoundTrip
import ConceptInventory.Proofs.PrintedTokens
import ConceptInventory.Proofs.TranscriptFile
import ConceptInventory.Proofs.ReadingHistory
import ConceptInventory.Proofs.LiteralIdentity
import ConceptInventory.Proofs.Filing
import ConceptInventory.Proofs.FragmentOrder
import ConceptInventory.Proofs.DroppedText
import ConceptInventory.Proofs.MaximalMunch
import ConceptInventory.Proofs.Vocabulary
import ConceptInventory.Proofs.FirstBinding
import ConceptInventory.Proofs.LineageHistory
import ConceptInventory.Proofs.ReadSets
import ConceptInventory.Proofs.FirstFault
import ConceptInventory.Proofs.TokenSeam
import ConceptInventory.Proofs.SurroundingGaps
import ConceptInventory.Proofs.PythonLines
import ConceptInventory.Grammars.Lexicons
import ConceptInventory.Proofs.WholeWords
import ConceptInventory.Proofs.TokenTexts
import ConceptInventory.Proofs.TokenKeys
import ConceptInventory.Proofs.ThresholdOrder
import ConceptInventory.Proofs.KeywordCalls
import ConceptInventory.Proofs.StreamChains
import ConceptInventory.Proofs.RootTally
import ConceptInventory.Proofs.TokenRows
import ConceptInventory.Proofs.LongestMatches
import ConceptInventory.Proofs.ConsoleMarkup
import ConceptInventory.Proofs.WrittenFile
import ConceptInventory.Proofs.OutputPaths
