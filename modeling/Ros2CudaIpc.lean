import Ros2CudaIpc.PublicationRace
import Ros2CudaIpc.MappingBounds
import Ros2CudaIpc.ReleaseSafety
import Ros2CudaIpc.DlpackOwnership
import Ros2CudaIpc.CacheSafety
import Ros2CudaIpc.ManagerInvariant
import Ros2CudaIpc.BlockView
import Ros2CudaIpc.ManagerRefinement
import Ros2CudaIpc.PointCloud2ReadHandle
import Ros2CudaIpc.ImageLayoutChecks
import Ros2CudaIpc.FailedReserve
import Ros2CudaIpc.DlpackImageStates
import Ros2CudaIpc.CacheInsertion
import Ros2CudaIpc.InsertionRuns
import Ros2CudaIpc.StreamBinding
import Ros2CudaIpc.MetadataCacheAgreement
import Ros2CudaIpc.MapAllOrNothing
import Ros2CudaIpc.MappingRuns
import Ros2CudaIpc.GracePeriod
import Ros2CudaIpc.ReservationReturn
import Ros2CudaIpc.PublicationIdentity
import Ros2CudaIpc.ResetIsolation
import Ros2CudaIpc.AllocationSize
import Ros2CudaIpc.GpuImageTransport
import Ros2CudaIpc.CudaContextGuard
import Ros2CudaIpc.MetadataNames
import Ros2CudaIpc.RoundRobin
import Ros2CudaIpc.InitialisationRollback
import Ros2CudaIpc.InitialisationRefinement
import Ros2CudaIpc.ReservationScan
import Ros2CudaIpc.ManagerExclusion
import Ros2CudaIpc.StreamOrder
import Ros2CudaIpc.ZeroCopy
import Ros2CudaIpc.ReadyRecords
import Ros2CudaIpc.ReleaseEffects
import Ros2CudaIpc.ReadObservation
import Ros2CudaIpc.ReadSafety
import Ros2CudaIpc.ReleaseProgress
import Ros2CudaIpc.SharedNames
import Ros2CudaIpc.SharedNamesSafety
import Ros2CudaIpc.PoolUtilisation
import Ros2CudaIpc.PoolRecovery
import Ros2CudaIpc.ImportBalance
