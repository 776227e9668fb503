import MultiCluster.Binary64
import MultiCluster.Binary64.Reading
import MultiCluster.Binary64.Scaled
import MultiCluster.Binary64.Shortest
import MultiCluster.Call
import MultiCluster.Deployment
import MultiCluster.Deployment.Draft
import MultiCluster.Error
import MultiCluster.Flow
import MultiCluster.Health
import MultiCluster.Http.Address
import MultiCluster.Http.MediaType
import MultiCluster.Http.Status
import MultiCluster.Identifier
import MultiCluster.Job
import MultiCluster.Json
import MultiCluster.Json.Decode
import MultiCluster.Json.Parser
import MultiCluster.Json.Printer
import MultiCluster.Json.Skip
import MultiCluster.Json.Texts
import MultiCluster.Json.Token
import MultiCluster.Kube.Client
import MultiCluster.Kube.Credentials
import MultiCluster.Kube.Kubeconfig
import MultiCluster.Kube.Objects
import MultiCluster.Kube.Reply
import MultiCluster.Kube.Request
import MultiCluster.Kube.Shape
import MultiCluster.Kube.Shape.Container
import MultiCluster.Kube.Shape.Pod
import MultiCluster.Kube.Shape.Volume
import MultiCluster.Member
import MultiCluster.Metric
import MultiCluster.Metric.Endpoint
import MultiCluster.Metric.Request
import MultiCluster.Metric.Series
import MultiCluster.Node
import MultiCluster.Page
import MultiCluster.Quantity
import MultiCluster.Registry
import MultiCluster.Registry.Remote
import MultiCluster.Scenario.Clock
import MultiCluster.Scenario.World
import MultiCluster.Service.Listing
import MultiCluster.Service.Observe
import MultiCluster.Service.Query
import MultiCluster.Service.Register
import MultiCluster.Settings
import MultiCluster.Settings.Load
import MultiCluster.Settings.Sample
import MultiCluster.Shutdown
import MultiCluster.Span
import MultiCluster.Status
import MultiCluster.Store
import MultiCluster.Summary
import MultiCluster.Sweep
import MultiCluster.Sweep.Activity
import MultiCluster.Text.Base64
import MultiCluster.Text.Blank
import MultiCluster.Text.Normal
import MultiCluster.Text.Normal.Table
import MultiCluster.Text.Numeral
import MultiCluster.Text.Pem
import MultiCluster.Text.Percent
import MultiCluster.Text.Printable
import MultiCluster.Text.Quoted
import MultiCluster.Text.Ranges
import MultiCluster.Text.Split
import MultiCluster.Text.Utf8
import MultiCluster.Timestamp
import MultiCluster.Toml
import MultiCluster.Toml.Parser
import MultiCluster.Totals
import MultiCluster.Url
import MultiCluster.Url.Domain
import MultiCluster.Url.Domain.Charset
import MultiCluster.Url.Domain.Direction
import MultiCluster.Url.Domain.Joiner
import MultiCluster.Url.Domain.Mapping
import MultiCluster.Url.Host
import MultiCluster.Url.Punycode
import MultiCluster.Web.Exchange
import MultiCluster.Web.Route
import MultiCluster.Web.Service
import MultiCluster.Word
import MultiCluster.Yaml.Cursor
import MultiCluster.Yaml.Decode
import MultiCluster.Yaml.Node
import MultiCluster.Yaml.Scalar
import MultiCluster.Yaml.Scalar.Block
import MultiCluster.Yaml.Token
import MultiCluster.Yaml.Token.Lexer
import MultiCluster.Yaml.Token.Name
import MultiCluster.Yaml.Value
import MultiCluster.Proofs.Surroundings
import MultiCluster.Proofs.Store.Lookup
import MultiCluster.Proofs.Store.Answers
import MultiCluster.Proofs.Flow.Pool
import MultiCluster.Proofs.Flow.Alone
import MultiCluster.Proofs.Service.Look
import MultiCluster.Proofs.Sweep.Pass
import MultiCluster.Proofs.Service.Listing
import MultiCluster.Proofs.Flow.Asks
import MultiCluster.Proofs.Registry.Traffic
import MultiCluster.Proofs.Json.RoundTrip
import MultiCluster.Proofs.Json.Token
import MultiCluster.Proofs.Json.Fields
import MultiCluster.Proofs.Json.Record
import MultiCluster.Proofs.Json.Dictionary
import MultiCluster.Proofs.Json.Merge
import MultiCluster.Proofs.Registry.Request
import MultiCluster.Proofs.Registry.Server
import MultiCluster.Proofs.Status
import MultiCluster.Proofs.Status.Patch
import MultiCluster.Proofs.Registry.Agreement
import MultiCluster.Proofs.Registry.Keeper
import MultiCluster.Proofs.Flow.Course
import MultiCluster.Proofs.Service.Register
import MultiCluster.Proofs.Service.Load
import MultiCluster.Proofs.Service.Sound
import MultiCluster.Proofs.Service.Admission
import MultiCluster.Proofs.Service.Contact
import MultiCluster.Proofs.Text.Octets
import MultiCluster.Proofs.Service.Division
import MultiCluster.Proofs.Service.Custody
import MultiCluster.Proofs.Service.Reach
import MultiCluster.Proofs.Registry.Spoiled
import MultiCluster.Proofs.Kube.Target
import MultiCluster.Proofs.Flow.Answered
import MultiCluster.Proofs.Service.Measure
import MultiCluster.Proofs.Store.Rekey
import MultiCluster.Proofs.Flow.Rekey
import MultiCluster.Proofs.Service.Rekey
import MultiCluster.Proofs.Web.Rekey
import MultiCluster.Proofs.Web.Session
import MultiCluster.Proofs.Shutdown
import MultiCluster.Proofs.Quantity.Rounding
import MultiCluster.Proofs.Quantity.Reading
import MultiCluster.Proofs.Quantity.Words
import MultiCluster.Proofs.Quantity.Spelling
import MultiCluster.Proofs.Quantity.Order
import MultiCluster.Proofs.Sweep.Activity
import MultiCluster.Proofs.Metric.Filter
import MultiCluster.Proofs.Metric.Answer
import MultiCluster.Proofs.Metric.Endpoint
import MultiCluster.Proofs.Page
import MultiCluster.Proofs.Deployment
import MultiCluster.Proofs.Service.Deployments
import MultiCluster.Proofs.Service.Paging
import MultiCluster.Proofs.Service.Sums
import MultiCluster.Proofs.Text.Numeral
import MultiCluster.Proofs.Metric.Request
import MultiCluster.Proofs.Web.Metrics
import MultiCluster.Proofs.Quantity.Grammar
import MultiCluster.Proofs.Quantity.Octets
import MultiCluster.Proofs.Settings.Field
import MultiCluster.Proofs.Settings.Document
import MultiCluster.Proofs.Settings.Environment
import MultiCluster.Proofs.Settings.Load
import MultiCluster.Proofs.Toml.Distinct
