import TritonBackend.CopyStream
import TritonBackend.CopyPlan
import TritonBackend.CommonCore
import TritonBackend.IteratorCore
import TritonBackend.CollectorCore
import TritonBackend.BatchInputCore
import TritonBackend.ResponderCore
import TritonBackend.BackendCore
import TritonBackend.AsyncCore
import TritonBackend.SysSteps
import TritonBackend.CollectorSteps
import TritonBackend.ResponderSteps
import TritonBackend.Responses
import TritonBackend.AsyncTasks
import TritonBackend.AsyncCompletion
import TritonBackend.CollectorPlan
import TritonBackend.CollectorKernel
import TritonBackend.CollectorRun
import TritonBackend.CollectorBlame
import TritonBackend.Gathering
import TritonBackend.IteratorChunks
import TritonBackend.IteratorFailures
import TritonBackend.BatchInputFill
import TritonBackend.GatheredTensor
import TritonBackend.CollectorSync
import TritonBackend.StagedFill
import TritonBackend.AsyncDispatch
import TritonBackend.AsyncStaging
import TritonBackend.ResponderPlan
import TritonBackend.ResponderRun
import TritonBackend.Shapes
import TritonBackend.Scattering
import TritonBackend.RoundTrip
import TritonBackend.ResponderGiven
import TritonBackend.GatheredBatch
import TritonBackend.ResponderOwnership
import TritonBackend.ResponderSync
import TritonBackend.Framing
import TritonBackend.StringBuffer
import TritonBackend.Fallible
import TritonBackend.JsonCore
import TritonBackend.SequenceCore
import TritonBackend.SequenceControls
import TritonBackend.Growable
import TritonBackend.ModelConfigCore
import TritonBackend.ModelConfig
import TritonBackend.Registry
import TritonBackend.TrackerCore
import TritonBackend.TrackerLedger
import TritonBackend.TrackerMerge
import TritonBackend.TrackerLifetime
import TritonBackend.BatchInputBounds
import TritonBackend.ResponderTurns
import TritonBackend.ResponderBounds
import TritonBackend.StateReturn
import TritonBackend.BatchOutputParse
import TritonBackend.ScatterShapes
import TritonBackend.SequenceAcceptance
import TritonBackend.LaidCopies
import TritonBackend.ThreadStores
import TritonBackend.GatherThreads
import TritonBackend.ReadInputCore
import TritonBackend.ReadInputSync
import TritonBackend.ReadInputPolicy
import TritonBackend.IteratorRuns
import TritonBackend.AsyncSegments
import TritonBackend.FirstKept
import TritonBackend.MemoryCreation
import TritonBackend.UsageAttributes
import TritonBackend.Numerals
import TritonBackend.ParseValues
import TritonBackend.Separated
import TritonBackend.TypedString
import TritonBackend.GatherPlan
import TritonBackend.AsyncEnlisted
import TritonBackend.AsyncAgreement
import TritonBackend.Refusals
import TritonBackend.DirectCollector
import TritonBackend.ExecuteCore
import TritonBackend.ExecuteProtocol
import TritonBackend.ExecuteModel
import TritonBackend.ExecuteEcho
import TritonBackend.BlsCore
import TritonBackend.BlsRuns
import TritonBackend.BlsResults
import TritonBackend.BlsProgress
import TritonBackend.Offers
import TritonBackend.BatchingStrategies
import TritonBackend.BoundedBatches
import TritonBackend.ModelPaths
import TritonBackend.Custody
import TritonBackend.InstanceCore
import TritonBackend.LifecycleCore
import TritonBackend.InstanceStreams
import TritonBackend.LifecycleRuns
import TritonBackend.BackendKinds
import TritonBackend.LifecycleResults
