import Ig4u.Lib.Run
import Ig4u.Lib.Counter
import Ig4u.Lib.Stream
import Ig4u.Lib.Buffer
import Ig4u.Lib.Word
import Ig4u.Lib.Gf2
import Ig4u.Lib.Crc
import Ig4u.Config
import Ig4u.Msg
import Ig4u.Protocol.Basic
import Ig4u.Protocol.Frame
import Ig4u.Protocol.Grammar
import Ig4u.Protocol.Crc
import Ig4u.Protocol.Errors
import Ig4u.Hal.Basic
import Ig4u.Hal.Stream
import Ig4u.Hal.Peer
import Ig4u.Hal.Lifecycle
import Ig4u.Hal.Receive
import Ig4u.Hal.Resync
import Ig4u.Hal.Traffic
import Ig4u.Hal.Waiting
import Ig4u.Commands.Basic
import Ig4u.Commands.Exchange
import Ig4u.Commands.Call
import Ig4u.Commands.Reply
import Ig4u.Commands.Converse
import Ig4u.Commands.Parsers
import Ig4u.Commands.Simulation
import Ig4u.Commands.Evidence
import Ig4u.Commands.FaultLog
import Ig4u.Commands.Exact
import Ig4u.CommTest.Basic
import Ig4u.CommTest.Report
import Ig4u.CommTest.Verdict
import Ig4u.Channel.Basic
import Ig4u.Channel.Refinement
import Ig4u.Channel.Correlation
import Ig4u.Channel.Balance
import Ig4u.App.Task
import Ig4u.App.Cmds
import Ig4u.App.Dispatch
import Ig4u.App.Simulation
import Ig4u.App.Mode
import Ig4u.App.Scenario
import Ig4u.App.Interlock
import Ig4u.App.Latch
import Ig4u.App.Timer
import Ig4u.App.Timeout
import Ig4u.App.Account
import Ig4u.App.Ack
import Ig4u.App.Fidelity
import Ig4u.App.Telemetry
import Ig4u.App.Peer
import Ig4u.App.Ledger
import Ig4u.App.Control
import Ig4u.App.History
import Ig4u.App.Provenance
import Ig4u.App.Uplink
import Ig4u.App.Waiting
import Ig4u.App.Return
import Ig4u.App.Fire
import Ig4u.App.CgResult
import Ig4u.App.Housekeeping
