import VolumeManager.Proc
import VolumeManager.Types
import VolumeManager.FilePath
import VolumeManager.Store.Basic
import VolumeManager.Store.Memory
import VolumeManager.Store.Etcd
import VolumeManager.Store.Cluster
import VolumeManager.Config
import VolumeManager.Host.Tree
import VolumeManager.Host.Os
import VolumeManager.Storage.Retry
import VolumeManager.Codec
import VolumeManager.Api.Files
import VolumeManager.Api.FileRoundTrips
import VolumeManager.Store.Agreement
import VolumeManager.Storage.Backend
import VolumeManager.Api.Handlers
import VolumeManager.Api.Server
import VolumeManager.Api.Routing
import VolumeManager.Api.Manager
import VolumeManager.Api.Lifecycle
import VolumeManager.Api.Agreement
import VolumeManager.Api.Attach
import VolumeManager.Api.Interference
import VolumeManager.Api.Creates
import VolumeManager.Driver.Client
import VolumeManager.Driver.Paths
import VolumeManager.Driver.Csi
import VolumeManager.Driver.Bridge
import VolumeManager.Json.Text
import VolumeManager.Json.Time
import VolumeManager.Json.Volume
