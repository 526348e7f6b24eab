import IrisService.Library.Runs
import IrisService.Orders.System
import IrisService.Http
import IrisService.Orders.OrderHandlers
import IrisService.Orders.Totals
import IrisService.Orders.TotalsStep
import IrisService.Orders.TotalsInv
import IrisService.Orders.TotalsRuns
import IrisService.Library.CommitHistory
import IrisService.Orders.StatusWrites
import IrisService.Orders.LineStatusRuns
import IrisService.Orders.OrderStatusRuns
import IrisService.Auth.Jwt
import IrisService.Auth.Handlers
import IrisService.Auth.RefreshRuns
import IrisService.Customers.Create
import IrisService.Customers.CreateRuns
import IrisService.Python.Dict
import IrisService.Mcp.CreateOrder
import IrisService.Mcp.IdempotencyInv
import IrisService.Mcp.IdempotencyRuns
import IrisService.Messaging.Enrichment
import IrisService.Messaging.RequestReply
import IrisService.Messaging.RequestReplyRuns
import IrisService.Library.ConsumerGroups
import IrisService.Messaging.KafkaClient
import IrisService.Messaging.Fleet
import IrisService.Ml.Model
import IrisService.Ml.Serving
import IrisService.Library.GroupBy
import IrisService.Ml.FeatureEngineering
import IrisService.Ml.Inference
import IrisService.Ml.FeatureParity
import IrisService.Auth.ApiKey
import IrisService.Auth.Deps
import IrisService.Customers.RecentBuffer
import IrisService.Mcp.Actuator
import IrisService.Mcp.Auth
import IrisService.Messaging.KafkaRestarts
import IrisService.Mcp.Principals
import IrisService.Mcp.Sessions
import IrisService.Library.Effects
import IrisService.Mcp.Audit
import IrisService.Mcp.Tools
import IrisService.Library.EffectLogic
import IrisService.Library.Retry
import IrisService.Mcp.ToolAudit
import IrisService.Mcp.ToolReads
import IrisService.Mcp.ToolSessions
import IrisService.Orders.PriceSnapshot
import IrisService.Auth.Jobs
import IrisService.Auth.CleanupRuns
import IrisService.Auth.JobTokens
import IrisService.Auth.AccountRuns
import IrisService.Auth.AccessTokens
import IrisService.Auth.TokenSpec
import IrisService.Library.Tickets
import IrisService.Auth.TokenHistories
import IrisService.Customers.Handlers
import IrisService.Integration.Upstreams
import IrisService.Customers.EnrichmentRouter
import IrisService.Customers.Degradation
import IrisService.Rest.Requests
import IrisService.Rest.Constraints
import IrisService.Rest.Statements
import IrisService.Rest.Steps
import IrisService.Rest.Asked
import IrisService.Rest.RequestRuns
import IrisService.Rest.ConstraintLaw
import IrisService.Db.Select
import IrisService.Library.Binary64
import IrisService.Listings.Repositories
import IrisService.Listings.Paging
import IrisService.Listings.Search
import IrisService.Mcp.MetricsRegistry
import IrisService.Mcp.MetricsCache
import IrisService.Library.Tails
import IrisService.Mcp.RingBuffer
import IrisService.Mcp.LogCapture
import IrisService.Listings.PagesDuringWrites
import IrisService.Ml.RiskBand
import IrisService.Ml.Router
import IrisService.Ml.ChurnContract
import IrisService.Ml.ReportedBand
import IrisService.App.Routing
import IrisService.App.Setup
import IrisService.App.RateLimit
import IrisService.Rest.Atomicity
import IrisService.Rest.Footprints
import IrisService.Library.Solo
import IrisService.Rest.Spec
import IrisService.Rest.SpecRuns
import IrisService.Rest.SpecLaws
import IrisService.Rest.Acknowledged
import IrisService.Library.Separation
import IrisService.Rest.Separation
import IrisService.Library.Stuttering
import IrisService.Customers.Outages
import IrisService.Customers.Announcements
import IrisService.Rest.Numbers
import IrisService.Mcp.Health
import IrisService.Ml.Extraction
import IrisService.Ml.Loading
import IrisService.Auth.ApiKeyCalls
import IrisService.Library.RunningBest
import IrisService.Ml.EarlyStop
import IrisService.Ml.SeedData
import IrisService.Ml.SeedLabels
import IrisService.Auth.TokenText
import IrisService.Mcp.IdempotencyBound
import IrisService.Orders.DecimalTotals
import IrisService.Mcp.OpenApiDoc
