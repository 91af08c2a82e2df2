import Lockstep.Bridge.Crash
import Lockstep.Channel.Handle
import Lockstep.Channel.Words
import Lockstep.Main
import Lockstep.Peer.Script
import Lockstep.Proofs.Effect
import Lockstep.Proofs.Channel.Objects
import Lockstep.Proofs.Channel.Closing
import Lockstep.Proofs.Channel.Turn
import Lockstep.Proofs.Channel.Party
import Lockstep.Proofs.Channel.Race
import Lockstep.Proofs.Channel.Duel
import Lockstep.Proofs.Text.Utf8
import Lockstep.Proofs.Text.Faithful
import Lockstep.Proofs.Parameter.Spelling
import Lockstep.Proofs.Parameter.Name
import Lockstep.Proofs.Bridge.Responder
import Lockstep.Proofs.Bridge.Turn
import Lockstep.Proofs.Simulator.Crew
import Lockstep.Proofs.Bridge.Step
import Lockstep.Proofs.Bridge.Standing
import Lockstep.Proofs.Bridge.Frame
import Lockstep.Proofs.Bridge.Failure
import Lockstep.Proofs.Simulator.Turns
import Lockstep.Proofs.Simulator.Tally
import Lockstep.Proofs.Simulator.Wait
import Lockstep.Proofs.Simulator.Talk
import Lockstep.Proofs.Simulator.Exchange
import Lockstep.Proofs.Simulator.Request
import Lockstep.Proofs.Toml.Keys
import Lockstep.Proofs.Parameter.File
import Lockstep.Proofs.Simulator.Loading
import Lockstep.Proofs.Simulator.Opening
import Lockstep.Proofs.Simulator.Numbering
import Lockstep.Proofs.Simulator.Headless
import Lockstep.Proofs.Simulator.Farewell
import Lockstep.Proofs.Channel.Port
import Lockstep.Proofs.Bridge.Fault
import Lockstep.Proofs.Bridge.Answer
import Lockstep.Proofs.Simulator.Dialogue
import Lockstep.Proofs.Simulator.Candid
import Lockstep.Proofs.Simulator.Stalled
import Lockstep.Proofs.Bridge.Store
import Lockstep.Proofs.Simulator.Linked
import Lockstep.Proofs.Simulator.Remote
import Lockstep.Proofs.Bridge.Outfit
import Lockstep.Proofs.Bridge.History
import Lockstep.Proofs.Bridge.Granted
import Lockstep.Proofs.Simulator.Raised
import Lockstep.Proofs.Controller.Orders
import Lockstep.Proofs.Simulator.Streamed
import Lockstep.Proofs.Simulator.Files
import Lockstep.Proofs.Parameter.Covered
import Lockstep.Proofs.Bridge.Driven
import Lockstep.Proofs.Simulator.Arrival
import Lockstep.Proofs.Simulator.Bench
import Lockstep.Proofs.Simulator.Meeting
import Lockstep.Proofs.Simulator.InProcess
import Lockstep.Proofs.Channel.Teardown
import Lockstep.Proofs.Simulator.Cleanup
import Lockstep.Proofs.Simulator.Wiring
import Lockstep.Proofs.Bridge.Output
import Lockstep.Proofs.Bridge.Mapped
import Lockstep.Proofs.Channel.Contents
import Lockstep.Proofs.Simulator.Halves
import Lockstep.Proofs.Bridge.Counts
import Lockstep.Proofs.Simulator.Ledger
import Lockstep.Proofs.Simulator.Audit
import Lockstep.Proofs.Simulator.Counters
import Lockstep.Proofs.Channel.Attempt
import Lockstep.Proofs.Bridge.Stream
import Lockstep.Proofs.Simulator.Patience
import Lockstep.Proofs.Parameter.Width
import Lockstep.Proofs.Parameter.Annals
import Lockstep.Proofs.Simulator.Early
import Lockstep.Proofs.Text.Cut
import Lockstep.Proofs.Parameter.Batch
import Lockstep.Proofs.Message.Drawing
import Lockstep.Proofs.Bridge.Armed
import Lockstep.Proofs.Bridge.Timing
import Lockstep.Proofs.Simulator.Torque
