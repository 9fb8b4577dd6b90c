import DoorControl.Bench.Firmware
import DoorControl.Bench.Rig
import DoorControl.Bench.Transport
import DoorControl.Proofs.Config.Format
import DoorControl.Proofs.Config.Merge
import DoorControl.Proofs.Config.Port
import DoorControl.Proofs.Config.ShortReads
import DoorControl.Proofs.Console.Grammar
import DoorControl.Proofs.Console.Language
import DoorControl.Proofs.Debounce
import DoorControl.Proofs.Device.Commands
import DoorControl.Proofs.Device.Eligibility
import DoorControl.Proofs.Device.Finality
import DoorControl.Proofs.Device.Freshness
import DoorControl.Proofs.Device.Mailbox
import DoorControl.Proofs.Device.Offset
import DoorControl.Proofs.Device.Press
import DoorControl.Proofs.Device.Reports
import DoorControl.Proofs.Device.Reset
import DoorControl.Proofs.Device.Secrets
import DoorControl.Proofs.Device.Strike
import DoorControl.Proofs.Device.Submission
import DoorControl.Proofs.Device.Usable
import DoorControl.Proofs.Session.Farewell
import DoorControl.Proofs.Session.Discovery
import DoorControl.Proofs.Session.Wording
import DoorControl.Proofs.Board.Message
import DoorControl.Proofs.Board.Station
import DoorControl.Proofs.Stalls
import DoorControl.Proofs.Backoff
import DoorControl.Proofs.Blinking
import DoorControl.Proofs.Board.Flush
import DoorControl.Proofs.Console.Framing
