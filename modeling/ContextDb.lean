import ContextDb.Context.Contested
import ContextDb.Context.EvidenceCover
import ContextDb.Context.Noninterference
import ContextDb.Context.PackSize
import ContextDb.Context.RecallBinding
import ContextDb.Format.Registry
import ContextDb.Graph.PolicyDecision
import ContextDb.Graph.References
import ContextDb.Index.Lexical
import ContextDb.Journal.Verification
import ContextDb.Knowledge.Retraction
import ContextDb.Native.Assertion
import ContextDb.Native.Checkpoints
import ContextDb.Native.Publication
import ContextDb.Recall.Confidentiality
import ContextDb.Recall.EvidenceRoom
import ContextDb.Reference.ConflictLinks
import ContextDb.Reference.DeletionClosure
import ContextDb.Reference.ExportRoundTrip
import ContextDb.Reference.HistoricalReads
import ContextDb.Reference.Noninterference
import ContextDb.SecureStore.DeletionRuns
import ContextDb.Storage.Fjall
