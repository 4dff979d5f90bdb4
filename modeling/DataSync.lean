import DataSync.Basic
import DataSync.Cbor.Reader
import DataSync.Cbor.Record
import DataSync.Cbor.Value
import DataSync.Display.Basic
import DataSync.Display.Errors
import DataSync.Display.Items
import DataSync.Display.Obex
import DataSync.Display.Rehearsal
import DataSync.Display.Session
import DataSync.Duration
import DataSync.Http.Agent
import DataSync.IoError
import DataSync.Local.Agent
import DataSync.Local.Child
import DataSync.Local.Frame
import DataSync.Local.Message
import DataSync.Obex.Address
import DataSync.Obex.Agent
import DataSync.Obex.Header
import DataSync.Obex.Packet
import DataSync.Obex.Session
import DataSync.Password
import DataSync.Proofs.Cbor.Records
import DataSync.Proofs.Cbor.RoundTrip
import DataSync.Proofs.Durations
import DataSync.Proofs.InTurn
import DataSync.Proofs.Keeps
import DataSync.Proofs.Local.Conversation
import DataSync.Proofs.Local.CutStreams
import DataSync.Proofs.Local.FrameStream
import DataSync.Proofs.Local.MessageRoundTrip
import DataSync.Proofs.Local.OneChild
import DataSync.Proofs.Local.Pairing
import DataSync.Proofs.Local.Questions
import DataSync.Proofs.Local.ShoutingChild
import DataSync.Proofs.Local.Watched
import DataSync.Proofs.Obex.AddressGrammar
import DataSync.Proofs.Obex.CanonicalHeaders
import DataSync.Proofs.Obex.ClosedAgents
import DataSync.Proofs.Obex.Contacts
import DataSync.Proofs.Obex.EncodedPackets
import DataSync.Proofs.Obex.PacketRoundTrip
import DataSync.Proofs.Obex.PacketSizes
import DataSync.Proofs.Obex.PacketStreams
import DataSync.Proofs.Obex.Requests
import DataSync.Proofs.Obex.Responses
import DataSync.Proofs.Obex.Segments
import DataSync.Proofs.Obex.Streams
import DataSync.Proofs.Obex.Tape
import DataSync.Proofs.Obex.TidyStreams
import DataSync.Proofs.Obex.WrittenAddresses
import DataSync.Proofs.Session.Access
import DataSync.Proofs.Session.Accounts
import DataSync.Proofs.Session.Boundary
import DataSync.Proofs.Session.Commits
import DataSync.Proofs.Session.Counts
import DataSync.Proofs.Session.Course
import DataSync.Proofs.Session.Finish
import DataSync.Proofs.Session.Following
import DataSync.Proofs.Session.History
import DataSync.Proofs.Session.Invariant
import DataSync.Proofs.Session.Isolation
import DataSync.Proofs.Session.LocalModes
import DataSync.Proofs.Session.Minutes
import DataSync.Proofs.Session.Repetitions
import DataSync.Proofs.Session.Reported
import DataSync.Proofs.Session.Requests
import DataSync.Proofs.Session.ResendTimes
import DataSync.Proofs.Session.Run
import DataSync.Proofs.Session.Steady
import DataSync.Proofs.Session.StoreCalls
import DataSync.Proofs.Session.Success
import DataSync.Proofs.Source.Allocation
import DataSync.Proofs.Source.Beginning
import DataSync.Proofs.Source.Calls
import DataSync.Proofs.Source.CommittedListing
import DataSync.Proofs.Source.Comparison
import DataSync.Proofs.Source.Ending
import DataSync.Proofs.Source.FailedItems
import DataSync.Proofs.Source.FailedSources
import DataSync.Proofs.Source.FileRevisions
import DataSync.Proofs.Source.Inventories
import DataSync.Proofs.Source.KnownRevisions
import DataSync.Proofs.Source.ListedFiles
import DataSync.Proofs.Source.MemoryItems
import DataSync.Proofs.Source.NamedBackend
import DataSync.Proofs.Source.NewFiles
import DataSync.Proofs.Source.NextSession
import DataSync.Proofs.Source.Partition
import DataSync.Proofs.Source.Persisted
import DataSync.Proofs.Source.Searches
import DataSync.Proofs.Source.Stable
import DataSync.Proofs.Source.Standing
import DataSync.Proofs.Source.Wiping
import DataSync.Proofs.Storage.DiskEntries
import DataSync.Proofs.Storage.Durability
import DataSync.Proofs.Storage.EscapedText
import DataSync.Proofs.Storage.Folders
import DataSync.Proofs.Storage.LawfulNode
import DataSync.Proofs.Storage.LineGrammar
import DataSync.Proofs.Storage.ReopenableNode
import DataSync.Proofs.Storage.Reopening
import DataSync.Proofs.Storage.Replacing
import DataSync.Proofs.Storage.WrittenLines
import DataSync.Proofs.Text.Cutting
import DataSync.Proofs.Text.Numerals
import DataSync.Proofs.Text.Utf16
import DataSync.Proofs.Transport.CallingOff
import DataSync.Proofs.Transport.Calls
import DataSync.Proofs.Transport.Core
import DataSync.Proofs.Transport.HandedOver
import DataSync.Proofs.Transport.LawfulAgents
import DataSync.Proofs.Transport.Mimicry
import DataSync.Proofs.Transport.Orderly
import DataSync.Rehearsal.BareAgent
import DataSync.Rehearsal.ChildProgram
import DataSync.Rehearsal.HandleKeeper
import DataSync.Rehearsal.Journal
import DataSync.Rehearsal.PlannedEngine
import DataSync.Rehearsal.Recorder
import DataSync.Rehearsal.ScriptedAgent
import DataSync.Rehearsal.ScriptedBackend
import DataSync.Rehearsal.ScriptedChild
import DataSync.Rehearsal.ScriptedClient
import DataSync.Rehearsal.ScriptedReach
import DataSync.Rehearsal.Stage
import DataSync.Rehearsal.TwoMessageEngine
import DataSync.Session.AgentOfConfig
import DataSync.Session.Config
import DataSync.Session.Engine
import DataSync.Session.Error
import DataSync.Session.Event
import DataSync.Session.Exchange
import DataSync.Session.Handle
import DataSync.Session.Items
import DataSync.Session.LocalTarget
import DataSync.Session.Report
import DataSync.Session.Retry
import DataSync.Session.Status
import DataSync.Session.Surroundings
import DataSync.Session.Synchronizer
import DataSync.Source.Allocator
import DataSync.Source.Backend
import DataSync.Source.Basic
import DataSync.Source.ChangeSet
import DataSync.Source.Error
import DataSync.Source.FileItems
import DataSync.Source.MemoryBackend
import DataSync.Source.Mode
import DataSync.Source.Revision
import DataSync.Storage.Disk
import DataSync.Storage.Error
import DataSync.Storage.FileNode
import DataSync.Storage.MemoryNode
import DataSync.Storage.Node
import DataSync.Storage.PropertyFile
import DataSync.Table
import DataSync.Text.Blank
import DataSync.Text.Invisible
import DataSync.Text.Lossy
import DataSync.Text.Numeral
import DataSync.Text.Quoted
import DataSync.Text.Split
import DataSync.Text.Utf16
import DataSync.Transport.Agent
import DataSync.Transport.Choice
import DataSync.Transport.Error
import DataSync.Transport.Message
import DataSync.Transport.Status
import DataSync.Transport.Wire
