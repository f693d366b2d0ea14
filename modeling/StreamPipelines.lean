import StreamPipelines.Main
import StreamPipelines.Message.Summary
import StreamPipelines.Proofs.CommandLine.Simulation
import StreamPipelines.Proofs.Connection.Duplicates
import StreamPipelines.Proofs.Connection.Independence
import StreamPipelines.Proofs.Connection.Publication
import StreamPipelines.Proofs.Simulation.Panel
import StreamPipelines.Proofs.Simulation.Settling
import StreamPipelines.Proofs.Wire.Canonical
import StreamPipelines.Proofs.Session.Run
import StreamPipelines.Proofs.Message.Changes
import StreamPipelines.Proofs.Sequencer.Run
import StreamPipelines.Proofs.Message.Internal
import StreamPipelines.Proofs.Binary64.Rounding
import StreamPipelines.Proofs.Binary64.Shortest
import StreamPipelines.Proofs.Binary64.Layout
import StreamPipelines.Proofs.Json.Text
import StreamPipelines.Proofs.Message.Values
import StreamPipelines.Proofs.Client.Authorization
import StreamPipelines.Proofs.Client.Detail
import StreamPipelines.Proofs.Endpoint.Message
import StreamPipelines.Proofs.Text.Grouping
import StreamPipelines.Proofs.Simulation.Response
import StreamPipelines.Proofs.CommandLine.Configuration
