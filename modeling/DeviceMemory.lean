import DeviceMemory.ByteSize
import DeviceMemory.Text.Utf8
import DeviceMemory.Engine.Reply
import DeviceMemory.Session.Run
import DeviceMemory.Proofs.Ledger.History
import DeviceMemory.Proofs.Ledger.Shared
import DeviceMemory.Proofs.Traffic.Conservation
import DeviceMemory.Proofs.Traffic.Release
import DeviceMemory.Proofs.Traffic.Atomicity
import DeviceMemory.Proofs.Traffic.Placements
import DeviceMemory.Proofs.Traffic.Settlement
import DeviceMemory.Proofs.Engine.Alike
import DeviceMemory.Proofs.Traffic.Totals
import DeviceMemory.Proofs.Traffic.Foreign
import DeviceMemory.Proofs.Traffic.Shadow
import DeviceMemory.Proofs.Traffic.Isolation
import DeviceMemory.Proofs.Engine.Policies
import DeviceMemory.Proofs.Host.Once
import DeviceMemory.Proofs.Settings.Search
import DeviceMemory.Proofs.Traffic.Chronicle
import DeviceMemory.Proofs.Traffic.Statistics
import DeviceMemory.Proofs.Logger.Shared
import DeviceMemory.Proofs.Host.Limit
import DeviceMemory.Proofs.Traffic.Oversize
import DeviceMemory.Proofs.ByteSize.Display
import DeviceMemory.Proofs.ByteSize.Accuracy
import DeviceMemory.Proofs.Ledger.Peaks
import DeviceMemory.Proofs.Traffic.Intake
import DeviceMemory.Proofs.Traffic.Mappable
import DeviceMemory.Proofs.Host.Selection
import DeviceMemory.Proofs.Settings.Variables
import DeviceMemory.Proofs.Settings.Decoding
import DeviceMemory.Proofs.Traffic.Streams
import DeviceMemory.Proofs.Traffic.Messages
import DeviceMemory.Proofs.Traffic.Allotment
