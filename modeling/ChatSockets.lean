import ChatSockets.Account
import ChatSockets.Address
import ChatSockets.ChatError
import ChatSockets.Config
import ChatSockets.Connector
import ChatSockets.Header
import ChatSockets.Link
import ChatSockets.Paths
import ChatSockets.Proofs.Accounts
import ChatSockets.Proofs.Application
import ChatSockets.Proofs.Application.Answers
import ChatSockets.Proofs.Application.Backoff
import ChatSockets.Proofs.Application.Callers
import ChatSockets.Proofs.Application.Holds
import ChatSockets.Proofs.Application.Intake
import ChatSockets.Proofs.Application.OnLink
import ChatSockets.Proofs.Application.Oversize
import ChatSockets.Proofs.Application.Probes
import ChatSockets.Proofs.Application.Recall
import ChatSockets.Proofs.Application.Reports
import ChatSockets.Proofs.Application.Responses
import ChatSockets.Proofs.Application.Shown
import ChatSockets.Proofs.Application.Shutdown
import ChatSockets.Proofs.Application.State
import ChatSockets.Proofs.Application.Submissions
import ChatSockets.Proofs.Application.Written
import ChatSockets.Proofs.Device
import ChatSockets.Proofs.Device.Anonymity
import ChatSockets.Proofs.Device.Credentials
import ChatSockets.Proofs.Device.Dialing
import ChatSockets.Proofs.Device.Links
import ChatSockets.Proofs.Device.Mirror
import ChatSockets.Proofs.Device.Notice
import ChatSockets.Proofs.Device.OpenWait
import ChatSockets.Proofs.Device.Operations
import ChatSockets.Proofs.Device.Schedule
import ChatSockets.Proofs.Device.Window
import ChatSockets.Proofs.Dialogue
import ChatSockets.Proofs.Dialogue.Transcript
import ChatSockets.Proofs.Entries
import ChatSockets.Proofs.Exchange
import ChatSockets.Proofs.Exchange.Invariant
import ChatSockets.Proofs.Exchange.Sends
import ChatSockets.Proofs.Exchange.Sockets
import ChatSockets.Proofs.Handover
import ChatSockets.Proofs.Header
import ChatSockets.Proofs.Link
import ChatSockets.Proofs.Lobby
import ChatSockets.Proofs.Lobby.Registry
import ChatSockets.Proofs.Network
import ChatSockets.Proofs.Network.Delivery
import ChatSockets.Proofs.Network.Flush
import ChatSockets.Proofs.Network.Invariant
import ChatSockets.Proofs.Network.Isolation
import ChatSockets.Proofs.Network.Sockets
import ChatSockets.Proofs.Network.Steps
import ChatSockets.Proofs.Network.Story
import ChatSockets.Proofs.Network.Streams
import ChatSockets.Proofs.Network.Taken
import ChatSockets.Proofs.Office
import ChatSockets.Proofs.Office.Lines
import ChatSockets.Proofs.Office.Mailboxes
import ChatSockets.Proofs.Office.Owners
import ChatSockets.Proofs.Opening
import ChatSockets.Proofs.Pair
import ChatSockets.Proofs.Server.Custody
import ChatSockets.Proofs.Server.Deeds
import ChatSockets.Proofs.Server.Execution
import ChatSockets.Proofs.Server.Greeting
import ChatSockets.Proofs.Server.Listening
import ChatSockets.Proofs.Server.Mailroom
import ChatSockets.Proofs.Server.Parting
import ChatSockets.Proofs.Server.Push
import ChatSockets.Proofs.Server.Session
import ChatSockets.Proofs.Socket.Calls
import ChatSockets.Proofs.Socket.Closing
import ChatSockets.Proofs.Socket.Failures
import ChatSockets.Proofs.Socket.Intake
import ChatSockets.Proofs.Socket.Keeper
import ChatSockets.Proofs.Socket.Ledger
import ChatSockets.Proofs.Socket.Mirror
import ChatSockets.Proofs.Socket.Pace
import ChatSockets.Proofs.Socket.Probes
import ChatSockets.Proofs.Socket.Receivers
import ChatSockets.Proofs.Socket.Record
import ChatSockets.Proofs.Socket.Relabel
import ChatSockets.Proofs.Socket.Signal
import ChatSockets.Proofs.Socket.Standing
import ChatSockets.Proofs.Socket.Step
import ChatSockets.Proofs.Socket.Tokens
import ChatSockets.Proofs.Socket.Verdict
import ChatSockets.Proofs.Socket.Vigilance
import ChatSockets.Proofs.Socket.Window
import ChatSockets.Proofs.Text
import ChatSockets.Proofs.Wire.Faults
import ChatSockets.Proofs.Wire.Reassembly
import ChatSockets.Proofs.Wire.RoundTrip
import ChatSockets.Proofs.Wire.Size
import ChatSockets.Proofs.Wire.Stream
import ChatSockets.Request
import ChatSockets.Script.Client
import ChatSockets.Script.ClientSide
import ChatSockets.Script.Crew
import ChatSockets.Script.Decoder
import ChatSockets.Script.Mailroom
import ChatSockets.Script.Peer
import ChatSockets.Script.Pending
import ChatSockets.Script.Policy
import ChatSockets.Script.Server
import ChatSockets.Script.WallClock
import ChatSockets.Server.Mailroom
import ChatSockets.Server.Session
import ChatSockets.Socket.Call
import ChatSockets.Socket.Connection
import ChatSockets.Socket.Keeper
import ChatSockets.Socket.Pending
import ChatSockets.Socket.Policy
import ChatSockets.Socket.State
import ChatSockets.Table
import ChatSockets.Text.Blank
import ChatSockets.Text.Decimal
import ChatSockets.Text.Duration
import ChatSockets.Text.Hidden
import ChatSockets.Text.Quoted
import ChatSockets.Wire.Decode
import ChatSockets.Wire.Encode
import ChatSockets.Wire.Fault
import ChatSockets.Wire.Frame
import ChatSockets.Wire.Input
import ChatSockets.Wire.Message
import ChatSockets.Wire.Varint
