import VerbScript.Console.Completion
import VerbScript.Console.Highlight
import VerbScript.Main
import VerbScript.Proofs.Budget
import VerbScript.Proofs.BufferedLines
import VerbScript.Proofs.CallTrace
import VerbScript.Proofs.CanonicalSnapshots
import VerbScript.Proofs.CommandSyntax
import VerbScript.Proofs.ConsoleHistories
import VerbScript.Proofs.ElementAssignments
import VerbScript.Proofs.Filing
import VerbScript.Proofs.HighlightedText
import VerbScript.Proofs.Inheritance
import VerbScript.Proofs.Interleaving
import VerbScript.Proofs.Occurrence
import VerbScript.Proofs.PackedScripts
import VerbScript.Proofs.PhraseScan
import VerbScript.Proofs.Precedence
import VerbScript.Proofs.PropertyWrites
import VerbScript.Proofs.Refinement
import VerbScript.Proofs.RenderedTokens
import VerbScript.Proofs.ScanProgress
import VerbScript.Proofs.ScriptEnd
import VerbScript.Proofs.SnapshotFidelity
import VerbScript.Proofs.SourceOrder
import VerbScript.Proofs.SpacedLines
import VerbScript.Proofs.StepAccount
import VerbScript.Proofs.Tracing
import VerbScript.Proofs.Truncation
import VerbScript.Proofs.VerbLines
import VerbScript.Proofs.VerbNames
import VerbScript.Proofs.WellFormedScripts
import VerbScript.Proofs.WordCompletion
