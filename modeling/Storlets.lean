import Storlets.Library.Fallible
import Storlets.Library.Runs
import Storlets.Library.Threads
import Storlets.Library.Traced
import Storlets.Library.PyDict
import Storlets.Library.PyStr
import Storlets.Middleware.Http
import Storlets.Gateway.Request
import Storlets.Middleware.Base
import Storlets.Middleware.Object
import Storlets.Middleware.Proxy
import Storlets.Middleware.ExactlyOnce
import Storlets.Middleware.Copy
import Storlets.Middleware.AllOrNothing
import Storlets.Library.ByteWire
import Storlets.Sbus.Wire
import Storlets.Gateway.Iterator
import Storlets.Agent.Files
import Storlets.Middleware.StorletRange
import Storlets.Library.PyJson
import Storlets.Library.JsonText
import Storlets.Sbus.Decoder
import Storlets.Sbus.Datagram
import Storlets.Sbus.InDatagram
import Storlets.Agent.Server
import Storlets.Library.Effects
import Storlets.Library.PosixPath
import Storlets.Library.BytePath
import Storlets.Gateway.Host
import Storlets.Gateway.RunTimePaths
import Storlets.Gateway.Registration
import Storlets.Gateway.Cache
import Storlets.Gateway.Confinement
import Storlets.Agent.Factory
import Storlets.Agent.Accounting
import Storlets.Agent.MainLoop
import Storlets.Agent.Shutdown
import Storlets.Agent.Daemon
import Storlets.Agent.ExitContract
import Storlets.Agent.Serving
import Storlets.Agent.Task
import Storlets.Library.Descriptors
import Storlets.Gateway.Protocol
import Storlets.Gateway.Ownership
import Storlets.Middleware.Acl
import Storlets.Middleware.Attributes
import Storlets.Gateway.Contents
import Storlets.Gateway.Updates
import Storlets.Gateway.PartialFetch
import Storlets.Gateway.Interleaved
import Storlets.Gateway.Invocation
import Storlets.Gateway.FailedCall
import Storlets.Gateway.GreenOwnership
import Storlets.Gateway.GreenThreads
import Storlets.Gateway.Cleanup
import Storlets.Agent.SDaemon
import Storlets.Agent.SameView
import Storlets.Agent.TwoDaemons
import Storlets.Sbus.Transport
import Storlets.Gateway.Inputs
import Storlets.Middleware.CopyRange
import Storlets.Middleware.AclRace
import Storlets.Gateway.Isolation
import Storlets.Gateway.Sockets
import Storlets.Agent.TaskTable
import Storlets.Gateway.Containers
import Storlets.Gateway.ContainerLimit
import Storlets.Agent.JavaTasks
import Storlets.Sbus.TextCodec
import Storlets.Library.JsonCodec
import Storlets.Library.JsonCut
import Storlets.Gateway.OutputMetadata
import Storlets.Middleware.ExtraResources
import Storlets.Library.Lines
import Storlets.Gateway.Lines
import Storlets.Gateway.LineEnd
import Storlets.Gateway.ClosedNumber
import Storlets.Library.JsonDepth
import Storlets.Sbus.Client
import Storlets.Gateway.SandboxClient
import Storlets.Agent.Exchange
import Storlets.Agent.BulkStop
import Storlets.Agent.Cursor
import Storlets.Agent.Readlines
import Storlets.Agent.RangeStream
import Storlets.Agent.Waiting
import Storlets.Middleware.Echo
import Storlets.Gateway.Dependencies
import Storlets.Gateway.StaleDaemon
import Storlets.Gateway.RemoteFactory
import Storlets.Library.JavaStr
import Storlets.Samples.Clause
import Storlets.Library.Utf8
import Storlets.Samples.Csv
import Storlets.Samples.Partitions
import Storlets.Samples.PartitionsIdentity
import Storlets.Samples.Pushdown
import Storlets.Gateway.RemoteTasks
import Storlets.Middleware.FrontDoor
import Storlets.Middleware.VerifiedRuns
import Storlets.Middleware.Unanswered
