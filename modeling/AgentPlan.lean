import AgentPlan.Binary.Basic
import AgentPlan.Binary.Shortest
import AgentPlan.Chat.Completion
import AgentPlan.Chat.Exchange
import AgentPlan.Chat.Question
import AgentPlan.Draft.Defect
import AgentPlan.Draft.Normalize
import AgentPlan.Draft.TimeToLive
import AgentPlan.Extract
import AgentPlan.Failure
import AgentPlan.Json.Fault
import AgentPlan.Json.Numeral
import AgentPlan.Json.Printer
import AgentPlan.Json.Reader
import AgentPlan.Json.Token
import AgentPlan.Json.Tree
import AgentPlan.Json.Value
import AgentPlan.Main
import AgentPlan.Model.Encode
import AgentPlan.Model.Message
import AgentPlan.Model.Provider
import AgentPlan.Model.Reply
import AgentPlan.Plan.Audit
import AgentPlan.Plan.Basic
import AgentPlan.Plan.Decode
import AgentPlan.Plan.Encode
import AgentPlan.Plan.Reader
import AgentPlan.Planner.Client
import AgentPlan.Planner.Event
import AgentPlan.Planner.Repairer
import AgentPlan.Planner.Run
import AgentPlan.Prompt
import AgentPlan.Proofs.Chat.FirstChoice
import AgentPlan.Proofs.Draft.Acceptance
import AgentPlan.Proofs.Draft.Defects
import AgentPlan.Proofs.Draft.ExactTtl
import AgentPlan.Proofs.Draft.FixedPoints
import AgentPlan.Proofs.Draft.FlatComponents
import AgentPlan.Proofs.Draft.Frame
import AgentPlan.Proofs.Draft.NormalDefects
import AgentPlan.Proofs.Draft.NormalForm
import AgentPlan.Proofs.Draft.Pointers
import AgentPlan.Proofs.Draft.Reading
import AgentPlan.Proofs.Draft.RepeatedIds
import AgentPlan.Proofs.Draft.StepIds
import AgentPlan.Proofs.Draft.Tidying
import AgentPlan.Proofs.Draft.Validation
import AgentPlan.Proofs.Draft.WellFormed
import AgentPlan.Proofs.Except
import AgentPlan.Proofs.Extract.Pieces
import AgentPlan.Proofs.Json.Forms
import AgentPlan.Proofs.Json.NumberValue
import AgentPlan.Proofs.Json.Parsed
import AgentPlan.Proofs.Json.Places
import AgentPlan.Proofs.Json.Printed
import AgentPlan.Proofs.Json.Records
import AgentPlan.Proofs.Json.RoundedValue
import AgentPlan.Proofs.Json.Skipped
import AgentPlan.Proofs.Json.Strings
import AgentPlan.Proofs.Json.Tokens
import AgentPlan.Proofs.Json.ValueTrees
import AgentPlan.Proofs.Json.Views
import AgentPlan.Proofs.Plan.Findings
import AgentPlan.Proofs.Plan.Spelling
import AgentPlan.Proofs.Planner.Advice
import AgentPlan.Proofs.Planner.Counters
import AgentPlan.Proofs.Planner.Dialogue
import AgentPlan.Proofs.Planner.Failures
import AgentPlan.Proofs.Planner.Log
import AgentPlan.Proofs.Planner.Prolonging
import AgentPlan.Proofs.Planner.Refusals
import AgentPlan.Proofs.Planner.Repairs
import AgentPlan.Proofs.Planner.Rounds
import AgentPlan.Proofs.Planner.Scan
import AgentPlan.Proofs.Planner.Validity
import AgentPlan.Proofs.Planner.Warnings
import AgentPlan.Proofs.Prompt.Blocks
import AgentPlan.Proofs.Request.Acceptance
import AgentPlan.Proofs.Request.Forms
import AgentPlan.Proofs.Request.RoundTrip
import AgentPlan.Proofs.Service.Answers
import AgentPlan.Proofs.Service.Bystanders
import AgentPlan.Proofs.Settings.Acceptance
import AgentPlan.Proofs.Settings.Reading
import AgentPlan.Proofs.Settings.Secrecy
import AgentPlan.Proofs.Settings.StepLimit
import AgentPlan.Proofs.Text.Decimal
import AgentPlan.Proofs.Text.EmptyLine
import AgentPlan.Proofs.Text.Ends
import AgentPlan.Proofs.Text.LetterCase
import AgentPlan.Proofs.Text.Utf8
import AgentPlan.Request.Basic
import AgentPlan.Request.Reader
import AgentPlan.Service
import AgentPlan.Settings.Basic
import AgentPlan.Settings.Encode
import AgentPlan.Settings.Lookup
import AgentPlan.Startup.EnvFile
import AgentPlan.Startup.Filter
import AgentPlan.Startup.Run
import AgentPlan.Text.Basic
import AgentPlan.Text.Canonical
import AgentPlan.Text.Number
import AgentPlan.Text.Property
import AgentPlan.Text.Utf16
import AgentPlan.Text.Utf8
import AgentPlan.Web.Address
import AgentPlan.Web.Direction
import AgentPlan.Web.Domain
import AgentPlan.Web.Folding
import AgentPlan.Web.Host
import AgentPlan.Web.Ipv4
import AgentPlan.Web.Ipv6
import AgentPlan.Web.Joining
import AgentPlan.Web.Path
import AgentPlan.Web.Percent
import AgentPlan.Web.Punycode
