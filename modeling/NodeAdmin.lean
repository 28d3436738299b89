import NodeAdmin.Double.Arithmetic
import NodeAdmin.Double.Text
import NodeAdmin.Double.Reading
import NodeAdmin.Text.Case
import NodeAdmin.Text.Pieces
import NodeAdmin.Text.Utf8
import NodeAdmin.Text.Hex
import NodeAdmin.Json.Printer
import NodeAdmin.Json.Decode
import NodeAdmin.Time.Reading
import NodeAdmin.Time.Writing
import NodeAdmin.Cost.Report
import NodeAdmin.Console.Render
import NodeAdmin.Console.Output
import NodeAdmin.Config.Document
import NodeAdmin.Session.Basic
import NodeAdmin.CommandLine.Run
import NodeAdmin.Main
import NodeAdmin.Proofs.Api.TokenReach
import NodeAdmin.Proofs.CommandLine.TokenHistory
import NodeAdmin.Proofs.Cost.Coherence
import NodeAdmin.Proofs.Double.Nonnegative
import NodeAdmin.Proofs.Cost.Usage
import NodeAdmin.Proofs.Config.Persistence
import NodeAdmin.Proofs.Url.Plain
import NodeAdmin.Proofs.Api.Requests
import NodeAdmin.Proofs.Text.LetterCase
import NodeAdmin.Proofs.CommandLine.Conversation
import NodeAdmin.Proofs.Api.Twins
import NodeAdmin.Proofs.CommandLine.ArgumentTwins
import NodeAdmin.Proofs.CommandLine.Noninterference
import NodeAdmin.Proofs.Node.Records
import NodeAdmin.Proofs.CommandLine.Recommendation
import NodeAdmin.Proofs.CommandLine.JsonAnswers
import NodeAdmin.Proofs.CommandLine.ProviderKeys
import NodeAdmin.Proofs.Model.Listing
import NodeAdmin.Proofs.Time.Timestamps
import NodeAdmin.Proofs.Json.Members
import NodeAdmin.Proofs.Json.Values
import NodeAdmin.Proofs.Node.LogEntries
import NodeAdmin.Proofs.Double.Accuracy
import NodeAdmin.Proofs.Cost.TokenCounts
import NodeAdmin.Proofs.Cost.Estimate
import NodeAdmin.Proofs.Time.Calendar
import NodeAdmin.Proofs.Model.Selection
import NodeAdmin.Proofs.Session.Endpoint
import NodeAdmin.Proofs.CommandLine.EndpointVerdicts
import NodeAdmin.Proofs.CommandLine.StoredOverrides
import NodeAdmin.Proofs.Text.Utf8
import NodeAdmin.Proofs.Url.Joining
import NodeAdmin.Proofs.Url.Segments
import NodeAdmin.Proofs.Api.ModelAddress
import NodeAdmin.Proofs.CommandLine.RefusedTokens
import NodeAdmin.Proofs.Json.Wrapping
import NodeAdmin.Proofs.Api.ListShapes
import NodeAdmin.Proofs.Time.UnixSeconds
import NodeAdmin.Proofs.Node.LogTimestamps
import NodeAdmin.Proofs.Time.Spellings
import NodeAdmin.Proofs.Model.ContextLengths
import NodeAdmin.Proofs.Console.LogLines
import NodeAdmin.Proofs.Cost.ShownCosts
import NodeAdmin.Proofs.Cost.EstimateOrder
import NodeAdmin.Proofs.Cost.ShownBalances
import NodeAdmin.Proofs.Cost.ShownTokens
