import PeSignals.Image.Writer
import PeSignals.Image.Create
import PeSignals.Image.Given
import PeSignals.Protection.Rating
import PeSignals.Scan.Create
import PeSignals.Json.Reader
import PeSignals.Display.Payload
import PeSignals.Display.Command
import PeSignals.Config.Cache
import PeSignals.Main
import PeSignals.Proofs.Bytes.Search
import PeSignals.Proofs.Image.RoundTrip
import PeSignals.Proofs.Text.Fragment
import PeSignals.Proofs.Image.Appended
import PeSignals.Proofs.Protection.Recording
import PeSignals.Proofs.Files.Walk
import PeSignals.Proofs.Protection.Survey
import PeSignals.Proofs.Protection.Classification
import PeSignals.Proofs.Protection.Reordering
import PeSignals.Proofs.Protection.Score
import PeSignals.Proofs.Display.Detection
import PeSignals.Proofs.Scan.Detection
import PeSignals.Proofs.Scan.Inspection
import PeSignals.Proofs.Display.Legible
import PeSignals.Proofs.Display.Inspection
import PeSignals.Proofs.Image.Truncated
import PeSignals.Proofs.Image.ReachedRecords
import PeSignals.Proofs.Protection.Grading
import PeSignals.Proofs.Scan.ManualWork
import PeSignals.Proofs.Files.Resolve
import PeSignals.Proofs.Files.Write
import PeSignals.Proofs.Scan.Report
import PeSignals.Proofs.Display.Message
import PeSignals.Proofs.CommandLine.Invocation
import PeSignals.Proofs.CommandLine.Run
import PeSignals.Proofs.Image.LookupTable
import PeSignals.Proofs.Image.ImportBounds
import PeSignals.Proofs.Image.Diagnostics
import PeSignals.Proofs.Protection.Selection
import PeSignals.Proofs.Protection.History
import PeSignals.Proofs.Protection.Executable
import PeSignals.Proofs.Protection.Steam
import PeSignals.Proofs.Files.Whereabouts
import PeSignals.Proofs.Protection.MainExecutable
import PeSignals.Proofs.Display.Imports
import PeSignals.Proofs.Image.Entropies
import PeSignals.Proofs.Scan.Agreement
import PeSignals.Proofs.Finding.History
import PeSignals.Proofs.Scan.Bookkeeping
import PeSignals.Proofs.Protection.FirstEvidence
import PeSignals.Proofs.Config.Cache
import PeSignals.Proofs.Bytes.Windows
import PeSignals.Proofs.Log.Scope
import PeSignals.Proofs.Files.Detour
