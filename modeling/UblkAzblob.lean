import UblkAzblob.Foundation.Markup
import UblkAzblob.Foundation.Recency
import UblkAzblob.Foundation.Bytes
import UblkAzblob.Foundation.UpdateLog
import UblkAzblob.Foundation.Tiling
import UblkAzblob.Foundation.OrderedMap
import UblkAzblob.Foundation.Action
import UblkAzblob.Foundation.PowerLoss
import UblkAzblob.Foundation.SparseFile
import UblkAzblob.Foundation.Interleaving
import UblkAzblob.Foundation.TextTable
import UblkAzblob.Foundation.FileTree
import UblkAzblob.Construction.Backend
import UblkAzblob.Construction.PageBlob
import UblkAzblob.Construction.TemplateCopy
import UblkAzblob.Construction.CacheLru
import UblkAzblob.Construction.CacheBudget
import UblkAzblob.Construction.FileCacheState
import UblkAzblob.Construction.FileCacheCrash
import UblkAzblob.Construction.FileCachePages
import UblkAzblob.Construction.FileCacheOps
import UblkAzblob.Construction.FileCacheOpen
import UblkAzblob.Construction.FileCacheSession
import UblkAzblob.Construction.FileCacheConcurrent
import UblkAzblob.Construction.Buffered
import UblkAzblob.Construction.Stack
import UblkAzblob.Construction.ClusterLease
import UblkAzblob.Construction.Coordinator
import UblkAzblob.Construction.AzureEtag
import UblkAzblob.Construction.BudgetFile
import UblkAzblob.Construction.Mounts
import UblkAzblob.Construction.NbdTarget
import UblkAzblob.Construction.RenewLoop
import UblkAzblob.Construction.CoordinationGuard
import UblkAzblob.Construction.CacheDir
import UblkAzblob.Construction.Shutdown
import UblkAzblob.Construction.VolumeMeta
import UblkAzblob.Construction.NodeService
import UblkAzblob.Construction.Controller
import UblkAzblob.Construction.Overlay
import UblkAzblob.Construction.BlobService
import UblkAzblob.Construction.Provisioning
import UblkAzblob.Construction.NodePublish
import UblkAzblob.Construction.MountPlan
import UblkAzblob.Construction.IoGateway
import UblkAzblob.Construction.CacheIndex
import UblkAzblob.Construction.PeerDir
import UblkAzblob.Construction.DeviceStack
import UblkAzblob.Construction.BufferedConcurrent
import UblkAzblob.Construction.StateFile
import UblkAzblob.Construction.PageList
import UblkAzblob.Construction.BufferLedger
import UblkAzblob.Proof.Bitmap
import UblkAzblob.Proof.CacheLru
import UblkAzblob.Proof.FileCacheBeats
import UblkAzblob.Proof.PageProtocol
import UblkAzblob.Proof.SectorStore
import UblkAzblob.Proof.MemBackend
import UblkAzblob.Proof.FileCacheTidy
import UblkAzblob.Proof.DiskImage
import UblkAzblob.Proof.PowerLoss
import UblkAzblob.Proof.FileCachePages
import UblkAzblob.Proof.FileCacheOps
import UblkAzblob.Proof.FileCacheFlush
import UblkAzblob.Proof.FileCacheOpen
import UblkAzblob.Proof.FileCacheRefinement
import UblkAzblob.Proof.FileCacheRun
import UblkAzblob.Proof.BufferedTidy
import UblkAzblob.Proof.BufferedFlush
import UblkAzblob.Proof.BufferedRefinement
import UblkAzblob.Proof.FileCacheVersions
import UblkAzblob.Proof.FileCacheJobs
import UblkAzblob.Proof.FileCacheTurns
import UblkAzblob.Proof.KillCoherence
import UblkAzblob.Proof.PowerCoherence
import UblkAzblob.Proof.Stack
import UblkAzblob.Proof.BufferedSuccess
import UblkAzblob.Proof.StackDurability
import UblkAzblob.Proof.ClusterLease
import UblkAzblob.Proof.Coordinator
import UblkAzblob.Proof.AzureEtag
import UblkAzblob.Proof.BudgetFile
import UblkAzblob.Proof.MetadataMirror
import UblkAzblob.Proof.BudgetExact
import UblkAzblob.Proof.Mounts
import UblkAzblob.Proof.NbdTarget
import UblkAzblob.Proof.RenewLoop
import UblkAzblob.Proof.CoordinationGuard
import UblkAzblob.Proof.CacheDir
import UblkAzblob.Proof.Shutdown
import UblkAzblob.Proof.VolumeMeta
import UblkAzblob.Proof.NodeService
import UblkAzblob.Proof.Controller
import UblkAzblob.Proof.IoGateway
import UblkAzblob.Proof.BlobService
import UblkAzblob.Proof.Overlay
import UblkAzblob.Proof.Delivery
import UblkAzblob.Proof.PageBlob
import UblkAzblob.Proof.TemplateCopy
import UblkAzblob.Proof.Provisioning
import UblkAzblob.Proof.Eviction
import UblkAzblob.Proof.PeerRead
import UblkAzblob.Proof.UploadLimit
import UblkAzblob.Proof.BufferBounds
import UblkAzblob.Proof.SparsenessMap
import UblkAzblob.Proof.LruOrder
import UblkAzblob.Proof.StateFile
import UblkAzblob.Proof.PageList
import UblkAzblob.Proof.BufferUploads
import UblkAzblob.Proof.BufferLedger
import UblkAzblob.Proof.BufferReads
import UblkAzblob.Proof.FlushBarrier
import UblkAzblob.Proof.FileCacheSteps
import UblkAzblob.Proof.FileCacheSystem
import UblkAzblob.Proof.FileCacheBarrier
import UblkAzblob.Proof.FileCacheWarmth
import UblkAzblob.Construction.Lifetime
import UblkAzblob.Proof.Lifetime
import UblkAzblob.Construction.NodeMachine
import UblkAzblob.Proof.NodeMachine
import UblkAzblob.Construction.FlushTimer
import UblkAzblob.Proof.FlushTimer
import UblkAzblob.Construction.VolumeLifecycle
import UblkAzblob.Proof.VolumeLifecycle
import UblkAzblob.Construction.UblkTarget
import UblkAzblob.Proof.UblkTarget
import UblkAzblob.Construction.RequestSigning
import UblkAzblob.Proof.RequestSigning
