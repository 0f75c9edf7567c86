import WinFuse.Wire.Bytes
import WinFuse.Wire.Layout
import WinFuse.Proto.OperationContext
import WinFuse.Proto.Encode
import WinFuse.Proto.Decode
import WinFuse.Proto.BatchForget
import WinFuse.Proto.AttrMap
import WinFuse.Proto.Routines
import WinFuse.Proto.Forget
import WinFuse.Engine.Instance
import WinFuse.Engine.Transact
import WinFuse.Engine.Mount
import WinFuse.Engine.Transitions
import WinFuse.Engine.Invariants
import WinFuse.Engine.Preservation
import WinFuse.Engine.Lifecycle
import WinFuse.Engine.InitGate
import WinFuse.Engine.Requests
import WinFuse.Engine.Correlation
import WinFuse.Engine.Drain
import WinFuse.Engine.Emission
import WinFuse.Engine.Split
import WinFuse.Engine.Information
import WinFuse.Engine.Teardown
import WinFuse.Engine.Progress
import WinFuse.Engine.Safety
import WinFuse.Engine.Lockout
import WinFuse.Engine.Bounds
import WinFuse.Engine.HostView
