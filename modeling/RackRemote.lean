import RackRemote.Ieee.Shortest
import RackRemote.Osc.Encoder
import RackRemote.Osc.Decoder
import RackRemote.Osc.Frame
import RackRemote.Net.Address
import RackRemote.Net.Failure
import RackRemote.Control.Route
import RackRemote.Control.Arguments
import RackRemote.Control.OriginUrl
import RackRemote.Rack.Basic
import RackRemote.Control.GlobalCommand
import RackRemote.Control.PluginCommand
import RackRemote.Control.Callback
import RackRemote.Host.Reception
import RackRemote.Session
import RackRemote.Toml.Document
import RackRemote.Settings
import RackRemote.CommandLine
import RackRemote.Net.Bench
import RackRemote.Net.Tape
import RackRemote.Main
import RackRemote.Proofs.HostFrame
import RackRemote.Proofs.Desk
import RackRemote.Proofs.Moves
import RackRemote.Proofs.Refusals
import RackRemote.Proofs.Rejection
import RackRemote.Proofs.Ownership
import RackRemote.Proofs.RackSteps
import RackRemote.Proofs.PluginKeys
import RackRemote.Proofs.RackRuns
import RackRemote.Proofs.RouteGrammar
import RackRemote.Proofs.RootNames
import RackRemote.Proofs.Decisions
import RackRemote.Proofs.Addressing
import RackRemote.Proofs.Mirror
import RackRemote.Proofs.Hearing
import RackRemote.Proofs.Reconstruction
import RackRemote.Proofs.Transcript
import RackRemote.Proofs.Echo
import RackRemote.Proofs.PluginList
import RackRemote.Proofs.Lookup
import RackRemote.Proofs.PendingReplace
import RackRemote.Proofs.Welcome
import RackRemote.Proofs.Authority
import RackRemote.Proofs.Sending
import RackRemote.Proofs.Streams
import RackRemote.Proofs.Framing
import RackRemote.Proofs.Bundles
import RackRemote.Proofs.Recasting
import RackRemote.Proofs.StreamReading
import RackRemote.Proofs.HostSteps
import RackRemote.Proofs.FreshStreams
import RackRemote.Proofs.OpenStreams
import RackRemote.Proofs.TurnedAway
import RackRemote.Proofs.Quoting
import RackRemote.Proofs.Scalars
import RackRemote.Proofs.SettingsFile
import RackRemote.Proofs.Widening
import RackRemote.Proofs.Parameters
import RackRemote.Proofs.PluginCommands
import RackRemote.Proofs.HostCommands
import RackRemote.Proofs.PathGrammar
import RackRemote.Proofs.UrlGrammar
import RackRemote.Proofs.CheckedArguments
import RackRemote.Proofs.Delivery
import RackRemote.Proofs.Callbacks
import RackRemote.Proofs.SecondRegistration
import RackRemote.Proofs.Cloning
import RackRemote.Proofs.ConnectionIds
import RackRemote.Proofs.IndexDigits
import RackRemote.Proofs.Warnings
import RackRemote.Proofs.Serving
