import OpenVizsla.Foundation.Delay
import OpenVizsla.Foundation.Integers
import OpenVizsla.Foundation.Streaming
import OpenVizsla.Foundation.Runs
import OpenVizsla.Foundation.Updates
import OpenVizsla.Foundation.Restarts
import OpenVizsla.Foundation.Calls
import OpenVizsla.Foundation.CallRules
import OpenVizsla.Foundation.Logging
import OpenVizsla.Foundation.Records
import OpenVizsla.Foundation.Ledger
import OpenVizsla.Foundation.Triples
import OpenVizsla.Foundation.Environment
import OpenVizsla.Decoder.Chunking
import OpenVizsla.Decoder.Chunks
import OpenVizsla.Decoder.MemoryBound
import OpenVizsla.Decoder.WireGrammar
import OpenVizsla.Decoder.WireDecoding
import OpenVizsla.Decoder.WireCut
import OpenVizsla.Decoder.Promptness
import OpenVizsla.Decoder.Reported
import OpenVizsla.Decoder.Checked
import OpenVizsla.Decoder.Termination
import OpenVizsla.Register.Message
import OpenVizsla.Register.Grammar
import OpenVizsla.Capture.Progress
import OpenVizsla.Capture.Delivery
import OpenVizsla.Capture.Resumption
import OpenVizsla.Capture.Synchronisation
import OpenVizsla.Capture.FirstCause
import OpenVizsla.Capture.Upkeep
import OpenVizsla.Capture.CountLimit
import OpenVizsla.Capture.Buffer
import OpenVizsla.Capture.Client
import OpenVizsla.Decoder.WirePackets
import OpenVizsla.Capture.HaltEcho
import OpenVizsla.Capture.Corruption
import OpenVizsla.Capture.Stop
import OpenVizsla.Extcap.WindowRule
import OpenVizsla.Extcap.Session
import OpenVizsla.Extcap.Queue
import OpenVizsla.Extcap.Clock
import OpenVizsla.Extcap.CaptureEnd
import OpenVizsla.Extcap.Pcap
import OpenVizsla.Extcap.BrokenPipe
import OpenVizsla.Extcap.Tool
import OpenVizsla.Extcap.WireFile
import OpenVizsla.Device.State
import OpenVizsla.Device.Bit
import OpenVizsla.Device.Ov
import OpenVizsla.Device.Transaction
import OpenVizsla.Device.Pairing
import OpenVizsla.Device.SyncEcho
import OpenVizsla.Device.Confirmation
import OpenVizsla.Device.Acquisition
import OpenVizsla.Device.ErrorStrings
import OpenVizsla.Device.FailedLoad
import OpenVizsla.Device.MapChange
import OpenVizsla.Device.BitGrammar
import OpenVizsla.Device.Upload
import OpenVizsla.Device.Payload
import OpenVizsla.Device.MapTerminator
import OpenVizsla.Device.RegisterLoops
import OpenVizsla.Device.RegisterLink
import OpenVizsla.Device.RoundTrip
import OpenVizsla.Device.UsableMap
import OpenVizsla.Device.PackageFiles
import OpenVizsla.Device.PackageLoad
import OpenVizsla.Device.PackageLedger
import OpenVizsla.Device.Ulpi
import OpenVizsla.Device.StreamOrder
import OpenVizsla.Device.Handle
