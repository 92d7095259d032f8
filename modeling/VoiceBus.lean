import VoiceBus.Clock
import VoiceBus.Config.Reader
import VoiceBus.Config.Writer
import VoiceBus.Reference
import VoiceBus.Session
import VoiceBus.Proofs.Frame.Image
import VoiceBus.Proofs.Assembler.Completion
import VoiceBus.Proofs.Assembler.Outcome
import VoiceBus.Proofs.Encoder.Frames
import VoiceBus.Proofs.Assembler.Calls
import VoiceBus.Proofs.Assembler.Loss
import VoiceBus.Proofs.Crc.Register
import VoiceBus.Proofs.Crc.Bits
import VoiceBus.Proofs.Frame.Flip
import VoiceBus.Proofs.Session.Link
import VoiceBus.Proofs.Frame.Burst
import VoiceBus.Proofs.Assembler.Device
import VoiceBus.Proofs.Assembler.Reassembly
import VoiceBus.Proofs.Assembler.Fates
import VoiceBus.Proofs.Transport.Reports
import VoiceBus.Proofs.Transport.Splice
import VoiceBus.Proofs.Crc.Powers
import VoiceBus.Proofs.Frame.Spread
import VoiceBus.Proofs.Assembler.Resync
import VoiceBus.Proofs.Assembler.Whole
import VoiceBus.Proofs.Transport.Talkers
import VoiceBus.Proofs.Session.Sharing
import VoiceBus.Proofs.Header.Number
import VoiceBus.Proofs.Table
import VoiceBus.Proofs.Assembler.Separation
import VoiceBus.Proofs.Encoder.Requests
import VoiceBus.Proofs.Topic.Grammar
import VoiceBus.Proofs.Encoder.Counters
import VoiceBus.Proofs.Config.Validation
import VoiceBus.Proofs.Topic.Uplink
import VoiceBus.Proofs.Transport.Settings
import VoiceBus.Proofs.Frame.Shortened
import VoiceBus.Proofs.Numeric.Whole
import VoiceBus.Proofs.Json.Lexing
import VoiceBus.Proofs.Json.Numeral
import VoiceBus.Proofs.Json.Spelling
import VoiceBus.Proofs.Json.Text
import VoiceBus.Proofs.Numeric.Plain
import VoiceBus.Proofs.Config.Document
import VoiceBus.Proofs.Encoder.Split
import VoiceBus.Proofs.Encoder.Loop
import VoiceBus.Proofs.Frame.Sealing
import VoiceBus.Proofs.Crc.Remainder
import VoiceBus.Proofs.Frame.Fields
import VoiceBus.Proofs.Assembler.Eviction
import VoiceBus.Proofs.Frame.Extent
import VoiceBus.Proofs.Json.Grammar
import VoiceBus.Proofs.Transport.Receiving
import VoiceBus.Proofs.Transport.Streaming
import VoiceBus.Proofs.Config.Partial
import VoiceBus.Proofs.Numeric.Nearest
import VoiceBus.Proofs.Config.Expiry
import VoiceBus.Proofs.Assembler.Exits
import VoiceBus.Proofs.Assembler.Filling
import VoiceBus.Proofs.Encoder.Loop
import VoiceBus.Proofs.Frame.Sealing
