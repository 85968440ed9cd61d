import ADesk.Observer.Adoption
import ADesk.Observer.Replay
import ADesk.Observer.Tracking
import ADesk.Notify.Chain
import ADesk.Wakeup
import ADesk.Compositor.Mirror
import ADesk.Recorder.AviRoundTrip
import ADesk.Compositor.Sourcing
import ADesk.Runtime.Causality
import ADesk.Runtime.Delivery
import ADesk.Compositor.Tables
import ADesk.Foundation.Tally
import ADesk.Server.Connections
import ADesk.Server.Isolation
import ADesk.Server.Teardown
import ADesk.Wm.Consistency
import ADesk.Compositor.Command
import ADesk.Compositor.Inject
import ADesk.Foundation.FifoGate
import ADesk.Foundation.Outbox
import ADesk.Foundation.Scripts
import ADesk.Notify.Store
import ADesk.Observer.Pending
import ADesk.Server.Announced
import ADesk.Server.CursorAgreement
import ADesk.Server.EventFilters
import ADesk.Server.Exclusion
import ADesk.Server.Pointing
import ADesk.Server.ReadOrder
import ADesk.Server.Typing
import ADesk.Server.InspectionCuts
import ADesk.Viewer.RecordingReports
import ADesk.Viewer.Replies
import ADesk.Viewer.Streaming
import ADesk.A11y.Service
import ADesk.A11y.Correlate
import ADesk.Client.RawEvents
import ADesk.Client.StreamContract
import ADesk.Client.Subscribing
import ADesk.Viewer.KeyInput
import ADesk.Viewer.Keystroke
import ADesk.Agent.Retries
import ADesk.Agent.Reports
import ADesk.A11y.OutlineRecovery
import ADesk.Machines.Registered
import ADesk.Machines.Argv
import ADesk.Machines.Mounts
import ADesk.Wm.Recency
import ADesk.Compositor.Numbering
import ADesk.Core.Coalescing
import ADesk.Core.Coverage
import ADesk.Observer.QuietFlag
import ADesk.Observer.Horizons
import ADesk.Observer.Timing
import ADesk.Observer.Clipping
import ADesk.Compositor.Chords
import ADesk.Registry.Exec
import ADesk.Server.Attribution
import ADesk.Server.Resolution
import ADesk.Viewer.Repaint
import ADesk.Compositor.Captures
import ADesk.Overlay.Inspecting
import ADesk.ViewerGui.Window
import ADesk.Viewer.Pacing
import ADesk.Server.Buttons
import ADesk.A11y.Search
import ADesk.Client.LineReading
import ADesk.Viewer.LineWriting
import ADesk.Render.Damage
import ADesk.Render.Scaling
import ADesk.Server.Images
import ADesk.Agent.Caps
import ADesk.Observer.Retention
import ADesk.Compositor.Layouts
import ADesk.Agent.Watching
import ADesk.Machines.Timestamps
import ADesk.Registry.Launching
import ADesk.Registry.Parser
import ADesk.Registry.Scan
import ADesk.Agent.Notes
import ADesk.Agent.Decisions
