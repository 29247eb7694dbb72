import Libdiscord.Base.Transition
import Libdiscord.Base.BitField
import Libdiscord.Base.BoundedQueue
import Libdiscord.Base.Block
import Libdiscord.Base.CString
import Libdiscord.Base.Fragment
import Libdiscord.Base.Ownership
import Libdiscord.Base.Heap
import Libdiscord.Base.Record
import Libdiscord.Base.Format
import Libdiscord.Base.Simulation
import Libdiscord.Json.Value
import Libdiscord.Json.Text
import Libdiscord.Json.Encode
import Libdiscord.Json.User
import Libdiscord.Json.Message
import Libdiscord.Json.Filling
import Libdiscord.Json.Snowflake
import Libdiscord.Json.Size
import Libdiscord.Json.Roles
import Libdiscord.Rest.Request
import Libdiscord.Rest.Isolation
import Libdiscord.Rest.Sending
import Libdiscord.Rest.Body
import Libdiscord.Rest.Headers
import Libdiscord.Rest.Capacity
import Libdiscord.Rest.Wire
import Libdiscord.Context
import Libdiscord.Connect
import Libdiscord.Bootstrap
import Libdiscord.Json.Residue
import Libdiscord.Log
import Libdiscord.Gateway.Parser
import Libdiscord.Gateway.Callback
import Libdiscord.Gateway.System
import Libdiscord.Gateway.Payload
import Libdiscord.Gateway.Effects
import Libdiscord.Gateway.Steps
import Libdiscord.Gateway.Receive
import Libdiscord.Gateway.Isolation
import Libdiscord.Gateway.Handshake
import Libdiscord.Gateway.Identity
import Libdiscord.Gateway.Reading
import Libdiscord.Gateway.Counting
import Libdiscord.Gateway.Sequence
import Libdiscord.Gateway.Heartbeat
import Libdiscord.Gateway.Alarm
import Libdiscord.Gateway.Delivery
import Libdiscord.Gateway.Spacing
import Libdiscord.Gateway.Recovery
import Libdiscord.Gateway.Ordering
import Libdiscord.Gateway.Obtained
import Libdiscord.Gateway.Requests
import Libdiscord.Gateway.Outstanding
import Libdiscord.Gateway.Current
import Libdiscord.Gateway.Dispatch
import Libdiscord.Gateway.Session
import Libdiscord.Gateway.Validation
import Libdiscord.Gateway.Close
import Libdiscord.Gateway.References
import Libdiscord.Gateway.Transmission
import Libdiscord.Gateway.Crash
import Libdiscord.Gateway.Outbox
import Libdiscord.Gateway.Heard
import Libdiscord.Gateway.Client
import Libdiscord.Gateway.Refinement
import Libdiscord.Gateway.Logging
import Libdiscord.Gateway.Journal
import Libdiscord.Gateway.Printing
import Libdiscord.Gateway.Memory
import Libdiscord.Gateway.Allocation
import Libdiscord.Gateway.Leaks
import Libdiscord.Gateway.Values
import Libdiscord.Gateway.Lifetime
import Libdiscord.Bot.Callback
import Libdiscord.Bot.Chat
import Libdiscord.Bot.Hash
import Libdiscord.Bot.Counter
import Libdiscord.Bot.Process
import Libdiscord.Bot.Posting
import Libdiscord.Bot.Failure
import Libdiscord.Bot.Main
