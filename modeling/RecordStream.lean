import RecordStream.Main
import RecordStream.Proofs.Json.Schedule
import RecordStream.Proofs.MessagePack.Schedule
import RecordStream.Proofs.Transfer.Delivery
import RecordStream.Record.Shape
import RecordStream.Wire.Operation
import RecordStream.Wire.Registry
import RecordStream.Proofs.Transfer.Calls
import RecordStream.Proofs.Transfer.Frames
import RecordStream.Proofs.Transfer.Reporting
import RecordStream.Proofs.Command.Parse
import RecordStream.Proofs.Command.Settings
import RecordStream.Proofs.Transfer.Connections
import RecordStream.Proofs.Logging.Console
import RecordStream.Proofs.Transfer.Emission
import RecordStream.Proofs.Command.Send
import RecordStream.Proofs.Command.Receive
import RecordStream.Proofs.Binary64.Range
import RecordStream.Proofs.MessagePack.Size
import RecordStream.Proofs.Transfer.Completion
import RecordStream.Proofs.Transfer.Reuse
import RecordStream.Proofs.Wire.Cut
import RecordStream.Proofs.Command.Operands
import RecordStream.Proofs.Framing.Objects
import RecordStream.Proofs.Value.Every
import RecordStream.Proofs.Json.Content
import RecordStream.Proofs.MessagePack.Content
import RecordStream.Proofs.Wire.Rebuild
import RecordStream.Proofs.Transfer.Attempts
import RecordStream.Proofs.Transfer.Offers
import RecordStream.Proofs.Transfer.Partition
import RecordStream.Proofs.Command.Reading
import RecordStream.Proofs.Command.Interleaving
import RecordStream.Proofs.Command.Escapes
import RecordStream.Proofs.Record.Fields
import RecordStream.Proofs.Sorting.Search
import RecordStream.Proofs.Wire.Buffer
import RecordStream.Proofs.Sorting.Run
import RecordStream.Proofs.Sorting.Merge
import RecordStream.Proofs.Sorting.Powersort
import RecordStream.Proofs.Value.Order
import RecordStream.Proofs.Wire.Keys
import RecordStream.Proofs.Record.Refusal
import RecordStream.Proofs.Text.Digits
import RecordStream.Proofs.Transfer.Arguments
import RecordStream.Proofs.Transfer.Ports
import RecordStream.Proofs.Command.Refusals
import RecordStream.Proofs.Transfer.Closing
import RecordStream.Proofs.Json.Stream
import RecordStream.Proofs.Hexdump.Alignment
import RecordStream.Proofs.Logging.Logger
