import ChatCore.Relational.Table
import ChatCore.Relational.Program
import ChatCore.Relational.Statements
import ChatCore.Relational.ReadCommitted
import ChatCore.Relational.RelyGuarantee
import ChatCore.Relational.Rules
import ChatCore.Relational.SafeRules
import ChatCore.Relational.Numbering
import ChatCore.Protocol.Content
import ChatCore.Protocol.ConnectorEvents
import ChatCore.Protocol.Cursors
import ChatCore.Database.Schema
import ChatCore.Services.Commands
import ChatCore.Services.Conversations
import ChatCore.Services.Listing
import ChatCore.Services.Runs
import ChatCore.Services.StructuredInputs
import ChatCore.Services.EmailHandoffs
import ChatCore.Services.EventStore
import ChatCore.Services.Admin
import ChatCore.Services.RunContext
import ChatCore.Services.RunWorker
import ChatCore.Services.Retention
import ChatCore.Services.Server
import ChatCore.Services.Locks
import ChatCore.Services.Sweeps
import ChatCore.Services.Guards
import ChatCore.Services.Writes
import ChatCore.Services.EventNumbering
import ChatCore.Services.Replays
import ChatCore.Services.MessageOrder
import ChatCore.Services.Idempotency
import ChatCore.Services.Consent
import ChatCore.Transition.Steps
import ChatCore.Runs.Execution
import ChatCore.Runs.System
import ChatCore.Runs.Changes
import ChatCore.Runs.Identity
import ChatCore.Relational.Alone
import ChatCore.Relational.Triples
import ChatCore.Relational.Ghosts
import ChatCore.Services.Effects
import ChatCore.Services.Visits
import ChatCore.Services.Expiry
import ChatCore.Runs.Soundness
import ChatCore.Runs.Invariant
import ChatCore.Runs.Lifecycle
import ChatCore.Runs.Projection
import ChatCore.Runs.Fencing
import ChatCore.Runs.Deeds
import ChatCore.Runs.Cancelling
import ChatCore.Runs.Closing
import ChatCore.Runs.EventLog
import ChatCore.Runs.Pausing
import ChatCore.Runs.Claiming
import ChatCore.Runs.Exclusive
import ChatCore.Runs.Survival
import ChatCore.Paging.Keyset
import ChatCore.Services.Pages
import ChatCore.Services.Rosters
import ChatCore.Runs.Attribution
import ChatCore.Runs.Confidentiality
import ChatCore.Client.MessageList
import ChatCore.Streaming.Text
import ChatCore.Streaming.LineReader
import ChatCore.Streaming.Blocks
import ChatCore.Client.EventStream
import ChatCore.Cooperative.Tasks
import ChatCore.Client.State
import ChatCore.Client.ChatClient
import ChatCore.Client.Delivery
import ChatCore.Client.Reducer
import ChatCore.Connectors.Text
import ChatCore.Connectors.Schemas
import ChatCore.Connectors.Haystack
import ChatCore.Services.Sessions
import ChatCore.Services.Bootstraps
import ChatCore.Retention.Progress
import ChatCore.Retention.Activity
import ChatCore.Retention.Worker
import ChatCore.Provisioning.Resolution
import ChatCore.Relational.Trails
import ChatCore.Services.EventBroker
import ChatCore.Services.EventStreams
import ChatCore.Services.Histories
import ChatCore.Runs.Appending
import ChatCore.Runs.Reference
import ChatCore.Cooperative.Owners
import ChatCore.Cooperative.Guards
import ChatCore.Client.LiveMessages
import ChatCore.Client.LiveText
import ChatCore.Client.Streams
import ChatCore.Client.Phases
import ChatCore.Client.FrameLimit
import ChatCore.Client.Careless
import ChatCore.Client.Destruction
import ChatCore.Security.RateLimit
import ChatCore.Security.SignedTokens
import ChatCore.Security.AdminTokens
import ChatCore.Services.MessageCursors
import ChatCore.Codecs.Base64Url
import ChatCore.Codecs.Dates
import ChatCore.Codecs.JsonText
import ChatCore.Services.CursorCodecs
import ChatCore.Connectors.Chunks
import ChatCore.Connectors.NativeStream
import ChatCore.Provisioning.Reparsing
import ChatCore.Provisioning.Export
import ChatCore.Retention.Starvation
import ChatCore.Retention.Exactness
import ChatCore.EventDelivery.ManyProcesses
import ChatCore.Services.ContactValues
import ChatCore.Services.Strangers
import ChatCore.Client.Shown
import ChatCore.EventDelivery.Reconnecting
import ChatCore.Services.Authentication
