import Dsoal.Lib.Transition
import Dsoal.Lib.Checks
import Dsoal.Core.FormatChecks
import Dsoal.Core.ALFormat
import Dsoal.Formats.Arithmetic
import Dsoal.Formats.Sizes
import Dsoal.Lib.Packed
import Dsoal.Core.FormatBytes
import Dsoal.Formats.Normal
import Dsoal.Lib.BitScan
import Dsoal.Core.Slots
import Dsoal.Slots.Layout
import Dsoal.Slots.Contents
import Dsoal.Slots.Run
import Dsoal.Lib.RefLedger
import Dsoal.Core.ComObject
import Dsoal.Refs.Counts
import Dsoal.Core.DeviceTable
import Dsoal.Lib.Mutex
import Dsoal.Devices.Sharing
import Dsoal.Core.SourcePool
import Dsoal.Devices.Sources
import Dsoal.Core.Notify
import Dsoal.Lib.Laps
import Dsoal.Notify.Passes
import Dsoal.Core.Basic
import Dsoal.Core.Format
import Dsoal.Core.Source
import Dsoal.Core.Buffer
import Dsoal.Core.Buffer3D
import Dsoal.Core.DSound
import Dsoal.Core.Methods
import Dsoal.Lib.Staging
import Dsoal.Params.Setters
import Dsoal.Params.Rolloff
import Dsoal.Params.Render
import Dsoal.Params.Cases
import Dsoal.Params.Methods
import Dsoal.Object.Cases
import Dsoal.Object.Access
import Dsoal.Object.Invariant
import Dsoal.Object.Listener
import Dsoal.Object.Methods
import Dsoal.Object.Lifetime
import Dsoal.Object.Steps
import Dsoal.Object.Rendering
import Dsoal.Object.Registered
import Dsoal.Object.Level
import Dsoal.Core.Teardown
import Dsoal.Object.Teardown
import Dsoal.Lib.Teardown
import Dsoal.Object.Deferred
import Dsoal.Core.NotifyThread
import Dsoal.Notify.Wakeups
import Dsoal.Core.Creation
import Dsoal.Object.Creation
import Dsoal.Core.CaptureBuffer
import Dsoal.Capture.Threads
import Dsoal.Capture.Parent
import Dsoal.Core.Capture
import Dsoal.Core.SourceContext
import Dsoal.Devices.Generation
import Dsoal.Core.Eax
import Dsoal.Eax.Properties
import Dsoal.Core.WriteEmu
import Dsoal.Object.PrimaryFrame
import Dsoal.Object.WriteEmu
import Dsoal.Core.DeviceId
import Dsoal.Core.CaptureObject
import Dsoal.Core.FullDuplex
import Dsoal.Lib.Ring
import Dsoal.Core.CaptureLoop
import Dsoal.Capture.Loop
import Dsoal.Factory.Uninitialized
import Dsoal.Object.PrimaryRefs
import Dsoal.Core.PrimaryCreation
import Dsoal.Object.PrimaryCreation
import Dsoal.Core.Positions
import Dsoal.Playback.Track
import Dsoal.Playback.Methods
import Dsoal.Playback.Cursors
import Dsoal.Object.Each
import Dsoal.Object.Tracks
import Dsoal.Object.Positions
import Dsoal.Playback.Starts
import Dsoal.Object.Playback
import Dsoal.Object.LevelFailure
import Dsoal.Object.Resources
import Dsoal.Object.CreateFailure
import Dsoal.Formats.Emulation
import Dsoal.Object.FormatFailure
import Dsoal.Lib.Toggle
import Dsoal.Lib.Dues
import Dsoal.Core.StopEvents
import Dsoal.Core.Locks
import Dsoal.Locks.CaptureRegions
import Dsoal.Locks.Alternation
import Dsoal.Devices.LocationFailure
import Dsoal.Notify.Seek
import Dsoal.Notify.StopView
import Dsoal.Notify.Stops
import Dsoal.Lib.IntTypes
import Dsoal.Core.SaturateCast
import Dsoal.Numbers.SaturateCast
import Dsoal.Lib.FloatValue
import Dsoal.Params.Ranges
import Dsoal.Object.Ranges
import Dsoal.Lib.Visit
import Dsoal.Core.Endpoints
import Dsoal.Endpoints.Enumeration
import Dsoal.Endpoints.Listing
import Dsoal.Core.PropSet
import Dsoal.Endpoints.Mapping
import Dsoal.Endpoints.Descriptions
import Dsoal.Endpoints.Outputs
import Dsoal.Core.DeviceShare
import Dsoal.Devices.Opening
import Dsoal.Core.DuplexTrace
import Dsoal.Factory.References
import Dsoal.Lib.AtomicObject
import Dsoal.Core.Factory
import Dsoal.Factory.Counting
import Dsoal.Factory.Exports
import Dsoal.Core.PrimaryCounters
import Dsoal.Object.PrimaryCounters
import Dsoal.Lib.StreamRing
import Dsoal.Core.CaptureStream
import Dsoal.Capture.Stream
import Dsoal.Lib.RefOwners
import Dsoal.Core.ComPtr
import Dsoal.Refs.ComPtr
import Dsoal.Core.AlObjects
import Dsoal.Object.AlObjects
import Dsoal.Core.Enumerate
import Dsoal.Endpoints.EntryPoints
import Dsoal.Object.Messages
import Dsoal.Core.Getters
import Dsoal.Lib.Histories
import Dsoal.Object.Settings
import Dsoal.Object.ReadBack
import Dsoal.Object.Progress
import Dsoal.Object.ContextFrame
import Dsoal.Object.PrimarySettings
import Dsoal.Object.StreamWrites
