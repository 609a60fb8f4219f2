import Ak1Driver.Lib.Transition
import Ak1Driver.Lib.Loop
import Ak1Driver.Lib.Window
import Ak1Driver.Lib.Chunks
import Ak1Driver.Lib.Carry
import Ak1Driver.Lib.Sides
import Ak1Driver.Lib.Machine
import Ak1Driver.Lib.Ledger
import Ak1Driver.Lib.Tally
import Ak1Driver.Lib.Checked
import Ak1Driver.Lib.Bytes
import Ak1Driver.Lib.Heap
import Ak1Driver.Lib.Pages
import Ak1Driver.Proto.Buffers
import Ak1Driver.Proto.Device
import Ak1Driver.Proto.Commands
import Ak1Driver.Proto.Mode2
import Ak1Driver.Proto.Resample
import Ak1Driver.Proto.Checked
import Ak1Driver.Proto.Property
import Ak1Driver.Layout
import Ak1Driver.Conversion
import Ak1Driver.Feeding
import Ak1Driver.Interpolation
import Ak1Driver.Exchange
import Ak1Driver.Streaming
import Ak1Driver.Driver.Stream
import Ak1Driver.Driver.Rt
import Ak1Driver.Driver.Packets
import Ak1Driver.Driver.Audio
import Ak1Driver.Driver.Requests
import Ak1Driver.Driver.Mixing
import Ak1Driver.Driver.Handles
import Ak1Driver.Driver.Usb
import Ak1Driver.Driver.Flight
import Ak1Driver.Driver.Processing
import Ak1Driver.Driver.Cyclic
import Ak1Driver.Driver.Resources
import Ak1Driver.Driver.Statistics
import Ak1Driver.Asio.Driver
import Ak1Driver.Asio.Duplex
import Ak1Driver.Asio.Threads
import Ak1Driver.Asio.Studio
import Ak1Driver.Asio.Server
import Ak1Driver.Panel.Template
import Ak1Driver.Panel.Dialog
import Ak1Driver.Proofs.Conservation
import Ak1Driver.Proofs.Latency
import Ak1Driver.Proofs.Wakeup
import Ak1Driver.Proofs.Restoration
import Ak1Driver.Proofs.Capture
import Ak1Driver.Proofs.Playback
import Ak1Driver.Proofs.Mirror
import Ak1Driver.Proofs.Resampling
import Ak1Driver.Proofs.Drift
import Ak1Driver.Proofs.Accounts
import Ak1Driver.Proofs.CardRate
import Ak1Driver.Proofs.EngineUsers
import Ak1Driver.Proofs.TwoLists
import Ak1Driver.Proofs.Grounded
import Ak1Driver.Proofs.FailedStart
import Ak1Driver.Proofs.PowerState
import Ak1Driver.Proofs.Closing
import Ak1Driver.Proofs.RateChange
import Ak1Driver.Proofs.Acknowledgement
import Ak1Driver.Proofs.Stopping
import Ak1Driver.Proofs.Reentry
import Ak1Driver.Proofs.Polling
import Ak1Driver.Proofs.Notification
import Ak1Driver.Proofs.Placement
import Ak1Driver.Proofs.Slots
import Ak1Driver.Proofs.NoOverflow
import Ak1Driver.Proofs.WireFormat
import Ak1Driver.Proofs.Saturation
import Ak1Driver.Proofs.DialogTemplate
import Ak1Driver.Proofs.OneThread
import Ak1Driver.Proofs.QuietStop
import Ak1Driver.Proofs.Bursts
import Ak1Driver.Proofs.Carriage
import Ak1Driver.Proofs.Delivery
import Ak1Driver.Proofs.WireToWire
import Ak1Driver.Proofs.PromptHost
import Ak1Driver.Proofs.PacketRing
import Ak1Driver.Proofs.Recording
import Ak1Driver.Proofs.Bystanders
import Ak1Driver.Proofs.Loopback
import Ak1Driver.Proofs.Ownership
import Ak1Driver.Proofs.LastStream
import Ak1Driver.Proofs.Unloading
