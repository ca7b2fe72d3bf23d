import Kallichore.Clients.Basic
import Kallichore.Clients.Connected
import Kallichore.Clients.Pings
import Kallichore.ExecutionHistory.Basic
import Kallichore.ExecutionHistory.Bounds
import Kallichore.ExecutionHistory.Clip
import Kallichore.ExecutionHistory.Log
import Kallichore.ExecutionQueue.Basic
import Kallichore.ExecutionQueue.Ledger
import Kallichore.Handler.Basic
import Kallichore.Handler.History
import Kallichore.Handler.Reply
import Kallichore.Handler.Tools
import Kallichore.Jupyter.Message
import Kallichore.KernelState.Basic
import Kallichore.KernelState.Writers
import Kallichore.Lib.Event
import Kallichore.Lib.Extremes
import Kallichore.Lib.IpAddr
import Kallichore.Lib.LastMax
import Kallichore.Lib.Machine
import Kallichore.Lib.Outcome
import Kallichore.Lib.Outstanding
import Kallichore.Lib.Percent
import Kallichore.Lib.Remains
import Kallichore.Lib.Runs
import Kallichore.Lib.Saturating
import Kallichore.Lib.ShellWord
import Kallichore.Lib.Utf8
import Kallichore.Lib.Utf8Lossy
import Kallichore.Lib.WhileLoop
import Kallichore.Lib.Words
import Kallichore.Lifetime.Basic
import Kallichore.Lifetime.Change
import Kallichore.Lifetime.Channel
import Kallichore.Lifetime.ClientChannel
import Kallichore.Lifetime.Exit
import Kallichore.Lifetime.Listeners
import Kallichore.Lifetime.Process
import Kallichore.Listener.Bridge
import Kallichore.Listener.Call
import Kallichore.Listener.Loopback
import Kallichore.Listener.Presence
import Kallichore.Listener.Route
import Kallichore.Listener.Running
import Kallichore.Listener.Services
import Kallichore.Ports.Generate
import Kallichore.Ports.Release
import Kallichore.Proxy.Alone
import Kallichore.Proxy.Answer
import Kallichore.Proxy.Forward
import Kallichore.Proxy.Loop
import Kallichore.Proxy.Request
import Kallichore.Proxy.Showing
import Kallichore.Resources.CpuTracker
import Kallichore.Resources.Monitor
import Kallichore.Resources.ProcStat
import Kallichore.Resources.ProcessTree
import Kallichore.Server.Authorization
import Kallichore.Server.Configuration
import Kallichore.Server.Deletion
import Kallichore.Server.Idle
import Kallichore.Server.IdleTimer
import Kallichore.Server.Rejection
import Kallichore.Server.Routes
import Kallichore.Server.Sessions
import Kallichore.Server.Shutdown
import Kallichore.Server.Status
import Kallichore.Session.Abandon
import Kallichore.Session.Basic
import Kallichore.Session.ClientView
import Kallichore.Session.Collect
import Kallichore.Session.Frame
import Kallichore.Session.InFlight
import Kallichore.Shell.Escape
import Kallichore.Startup.Environment
import Kallichore.Startup.Handshake
import Kallichore.Startup.KernelInfo
import Kallichore.Startup.Move
import Kallichore.Startup.RunChild
import Kallichore.StdioBridge.Answers
import Kallichore.StdioBridge.Basic
import Kallichore.StdioBridge.Discovery
import Kallichore.StdioBridge.Events
import Kallichore.StdioBridge.Framing
import Kallichore.StdioBridge.Handshake
import Kallichore.StdioBridge.Link
import Kallichore.StdioBridge.Record
import Kallichore.StdioBridge.View
import Kallichore.Wire.Basic
import Kallichore.Wire.Decode
import Kallichore.Wire.RoundTrip
import Kallichore.Workspaces.Basic
import Kallichore.Workspaces.Broker
import Kallichore.Workspaces.Dispatch
import Kallichore.Workspaces.Focus
import Kallichore.Workspaces.Identity
import Kallichore.Workspaces.Ids
import Kallichore.Workspaces.Pending
import Kallichore.Workspaces.Registry
import Kallichore.Workspaces.Roster
import Kallichore.Workspaces.Sessions
import Kallichore.Workspaces.Token
