import KnowledgeBase.Properties.ActualBinding
import KnowledgeBase.Properties.PoolCapacity
import KnowledgeBase.Properties.ReferencedBytes
import KnowledgeBase.Properties.ServingFact
import KnowledgeBase.Properties.ItemLedger
import KnowledgeBase.Properties.Observations
import KnowledgeBase.Properties.HumanReview
import KnowledgeBase.Properties.Attempts
import KnowledgeBase.Properties.Cutover
import KnowledgeBase.Properties.Overlap
import KnowledgeBase.Properties.Cleanup
import KnowledgeBase.Properties.OwnerGraph
import KnowledgeBase.Properties.UploadHolds
import KnowledgeBase.Properties.RebuildTotal
import KnowledgeBase.Properties.FullRetry
import KnowledgeBase.Properties.ConstructHandoff
import KnowledgeBase.Properties.BoundedDelivery
import KnowledgeBase.Properties.AcquisitionRetry
import KnowledgeBase.Properties.OperatorRestart
import KnowledgeBase.Properties.WriterCutover
import KnowledgeBase.Properties.LifecycleReplay
import KnowledgeBase.Properties.MetadataRevert
import KnowledgeBase.Properties.CollectionsAgain
import KnowledgeBase.Properties.RealignedSummaries
import KnowledgeBase.Properties.Inflation
import KnowledgeBase.Properties.ChunkedCuts
import KnowledgeBase.Properties.CutsAssembly
import KnowledgeBase.Properties.GateResolvers
import KnowledgeBase.Properties.StructuredOutput
import KnowledgeBase.Properties.GateBalance
import KnowledgeBase.Properties.CliRouter
import KnowledgeBase.Properties.ContextPack
import KnowledgeBase.Properties.RankingLaw
import KnowledgeBase.Properties.KeysetListing
import KnowledgeBase.Properties.HtmlCleaning
import KnowledgeBase.Properties.PinnedEgress
import KnowledgeBase.Properties.TagsRoundTrip
import KnowledgeBase.Properties.StageEnvelope
import KnowledgeBase.Properties.TimeSortable
import KnowledgeBase.Properties.DeliveryFence
import KnowledgeBase.Properties.MigrationChain
import KnowledgeBase.Properties.PromptAdmission
import KnowledgeBase.Properties.CanonicalJson
import KnowledgeBase.Properties.CleanRoutes
import KnowledgeBase.Properties.AuditVolume
import KnowledgeBase.Properties.ExecutionVerdict
import KnowledgeBase.Properties.Registry
import KnowledgeBase.Properties.RepresentationHistory
