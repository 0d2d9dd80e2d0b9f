import Aeon.JobStream
import Aeon.JobStreamDelivery
import Aeon.ConversationService
import Aeon.ServiceTermination
import Aeon.ExpertRegistryTypes
import Aeon.ExpertRegistryValidation
import Aeon.ExpertRegistry
import Aeon.PrefillResidency
import Aeon.ExactList
import Aeon.RegistryPlacement
import Aeon.RegistrySides
import Aeon.RegistryReservation
import Aeon.RegistryRequests
import Aeon.RegistryCompletion
import Aeon.RegistryModes
import Aeon.RegistrySlotConservation
import Aeon.HostBudget
import Aeon.HostPartition
import Aeon.CorridorDisjointness
import Aeon.PrefixRecord
import Aeon.TextGeneration
import Aeon.SessionEngine
import Aeon.SessionReuse
import Aeon.Bytes
import Aeon.PromptJson
import Aeon.PromptEncoder
import Aeon.PromptContinuation
import Aeon.StreamDecoder
import Aeon.Conversation
import Aeon.ExactTokenHistory
import Aeon.StagingArena
import Aeon.MoveToFront
import Aeon.PrefillPass
import Aeon.DirectIoReader
import Aeon.DispatchOwnership
import Aeon.PipelineOwnership
import Aeon.ReadDispatch
import Aeon.ReadRun
import Aeon.ArtifactContainer
import Aeon.ArtifactRoundTrip
import Aeon.AttentionTile
import Aeon.AttentionTileKeys
import Aeon.BudgetPartition
import Aeon.CallFrames
import Aeon.DeferredDestination
import Aeon.DemotionDrop
import Aeon.DispatchLeases
import Aeon.ForwardWindow
import Aeon.NarrowScratch
import Aeon.GenerationContract
import Aeon.JsonNumbers
import Aeon.JsonReading
import Aeon.JsonSpan
import Aeon.JsonSpanKeys
import Aeon.JsonSpanMembers
import Aeon.LeaseSafety
import Aeon.MixedRadix
import Aeon.PromptExactHistory
import Aeon.ServiceOrder
import Aeon.StagedRequests
import Aeon.SwizzledLayout
import Aeon.SwizzledReaders
import Aeon.ThinkingSplit
import Aeon.TokenizerRoundTrip
import Aeon.DeviceIds
import Aeon.ToolResults
import Aeon.TokenCap
import Aeon.ComputationKey
import Aeon.OptCurve
import Aeon.RouterKernel
import Aeon.SamplerExclusion
import Aeon.ScratchFit
import Aeon.ContextSearch
import Aeon.StageTiling
import Aeon.GroupedKernels
import Aeon.RoutingProfileSurvival
import Aeon.PromptReference
import Aeon.ManifestAcceptance
import Aeon.CompressorRing
import Aeon.LayerSnapshot
import Aeon.StreamedReply
import Aeon.ExpertPermutation
