import DarwinGpib.Transfer.NiFraming
import DarwinGpib.Transfer.ReadBounds
import DarwinGpib.Transfer.CommandBytes
import DarwinGpib.Transfer.WriteTruth
import DarwinGpib.Transfer.ReadLoops
import DarwinGpib.Transfer.BusyPolling
import DarwinGpib.Transfer.FirmwareEngine
import DarwinGpib.Transfer.ReplyPairing
import DarwinGpib.Client.HandleAliasing
import DarwinGpib.Client.EosSetting
import DarwinGpib.Client.AddressEncoding
import DarwinGpib.Client.SplitTransfers
import DarwinGpib.Client.StatusMirrors
import DarwinGpib.Client.DeviceOutcomes
import DarwinGpib.Client.WriteFraming
import DarwinGpib.Library.Transition
import DarwinGpib.Broker.Reaping
import DarwinGpib.Broker.Ownership
import DarwinGpib.Board.DescriptorInvariant
import DarwinGpib.Board.LegalAddresses
import DarwinGpib.Board.Addressing
import DarwinGpib.Board.SerialPolling
import DarwinGpib.Board.FailureReports
import DarwinGpib.Board.SharedStatus
import DarwinGpib.Board.ServiceRequests
import DarwinGpib.Transfer.NiReplies
import DarwinGpib.Transfer.EndlessReads
import DarwinGpib.Transfer.MessageReads
import DarwinGpib.Board.OptionAnswers
import DarwinGpib.Board.OfflineBoards
import DarwinGpib.Client.FileWrites
import DarwinGpib.Client.EotModes
import DarwinGpib.Client.BoardNames
import DarwinGpib.Transfer.EndpointDiscovery
import DarwinGpib.Firmware.Reassembly
import DarwinGpib.Firmware.Extraction
import DarwinGpib.App.ShellRemoval
import DarwinGpib.Transfer.NiRequests
import DarwinGpib.Client.LineRequests
import DarwinGpib.Transfer.DeviceStrings
import DarwinGpib.Wire.Traffic
import DarwinGpib.Wire.Sessions
import DarwinGpib.Broker.Progress
import DarwinGpib.Broker.Delivery
import DarwinGpib.Wire.BoardLists
import DarwinGpib.App.InstrumentScan
import DarwinGpib.App.DevicesPanel
import DarwinGpib.App.SearchPath
import DarwinGpib.Board.ServiceLives
