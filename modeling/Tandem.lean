import Tandem.Assembly
import Tandem.Channel.Basic
import Tandem.Channel.Mailbox
import Tandem.Channel.Player
import Tandem.CommandLine
import Tandem.DualRun
import Tandem.Instruction.Basic
import Tandem.Instruction.Opcode
import Tandem.Instruction.Operand
import Tandem.Link
import Tandem.Machine.Basic
import Tandem.Machine.Solo
import Tandem.Main
import Tandem.Monitor.Basic
import Tandem.Monitor.Schedule
import Tandem.Numeral
import Tandem.Performer
import Tandem.Program
import Tandem.Queue
import Tandem.Recovery
import Tandem.Registers
import Tandem.Request
import Tandem.Session.Basic
import Tandem.Session.Endpoint
import Tandem.Session.Performer
import Tandem.Side
import Tandem.Text.Blank
import Tandem.Text.Lines
import Tandem.Proofs.Monitor.Turn
import Tandem.Proofs.Monitor.Wakeful
import Tandem.Proofs.Monitor.Delivery
import Tandem.Proofs.Machine.Step
import Tandem.Proofs.Diamond
import Tandem.Proofs.Monitor.View
import Tandem.Proofs.Monitor.Confluence
import Tandem.Proofs.Machine.Stride
import Tandem.Proofs.DualRun.Progress
import Tandem.Proofs.DualRun.Accounts
import Tandem.Proofs.DualRun.Deadlock
import Tandem.Proofs.DualRun.Determinism
import Tandem.Proofs.Machine.Mailbox
import Tandem.Proofs.DualRun.Alone
import Tandem.Proofs.Recovery
import Tandem.Proofs.Numeral
import Tandem.Proofs.Decimal
import Tandem.Proofs.Assembly.Grammar
import Tandem.Proofs.Assembly.RoundTrip
import Tandem.Proofs.Machine.Unused
import Tandem.Proofs.DualRun.Symmetry
import Tandem.Proofs.CommandLine
import Tandem.Proofs.Machine.Inbox
import Tandem.Proofs.Machine.Exact
import Tandem.Proofs.Machine.Calls
import Tandem.Proofs.Machine.Fault
import Tandem.Proofs.Machine.Resumption
import Tandem.Proofs.Machine.Relevance
import Tandem.Proofs.Machine.Justification
import Tandem.Proofs.DualRun.Exits
import Tandem.Proofs.Assembly.Concatenation
import Tandem.Proofs.Machine.Forward
import Tandem.Proofs.Monitor.Descent
import Tandem.Proofs.Writes
import Tandem.Proofs.DualRun.Termination
import Tandem.Proofs.Wrapping
import Tandem.Proofs.Session
