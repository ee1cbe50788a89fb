import KeyNetra.Lib.Text
import KeyNetra.Lib.StableSort
import KeyNetra.Lib.Table
import KeyNetra.Lib.Fallible
import KeyNetra.Lib.BoolExpr
import KeyNetra.Lib.Runs
import KeyNetra.Lib.ReadThrough
import KeyNetra.Py.Value
import KeyNetra.Modeling.Schema
import KeyNetra.Modeling.SchemaParser
import KeyNetra.Modeling.Grammar
import KeyNetra.Modeling.PermissionText
import KeyNetra.Engine.Conditions
import KeyNetra.Engine.PermissionGraph
import KeyNetra.Engine.PolicyGraph
import KeyNetra.Engine.Pipeline
import KeyNetra.Engine.Subjects
import KeyNetra.Repo.Policies
import KeyNetra.Config.AdminAuth
import KeyNetra.Cache.Backend
import KeyNetra.Cache.Adapters
import KeyNetra.Repo.Tables
import KeyNetra.Modeling.ModelFiles
import KeyNetra.Services.AccessIndexer
import KeyNetra.Services.Authorization
import KeyNetra.Services.Freshness
import KeyNetra.Services.Coherence
import KeyNetra.Concurrency.AclVisibility
import KeyNetra.Services.ModelEnforcement
import KeyNetra.Api.Idempotency
import KeyNetra.Concurrency.ModelVisibility
import KeyNetra.Concurrency.VersionBumps
import KeyNetra.Services.AclStage
import KeyNetra.Services.SubjectAgreement
import KeyNetra.Services.PolicySimulator
import KeyNetra.Services.PolicyWrites
import KeyNetra.Concurrency.PolicyFreshness
import KeyNetra.Services.Frame
import KeyNetra.Services.StoppedWrites
import KeyNetra.Py.CodedDigest
import KeyNetra.Services.DecisionKeys
import KeyNetra.Services.Revisions
import KeyNetra.Repo.CurrentRows
import KeyNetra.Cache.Keys
import KeyNetra.Engine.Withdrawal
import KeyNetra.Services.Revocation
import KeyNetra.Services.Batch
import KeyNetra.Services.Drafts
import KeyNetra.Services.SharedCaches
import KeyNetra.Engine.PolicyLists
import KeyNetra.Engine.Explain
import KeyNetra.Services.PolicyDsl
import KeyNetra.Services.ImpactAnalysis
import KeyNetra.Cache.IndexInvalidation
import KeyNetra.Services.Isolation
import KeyNetra.Api.Access
import KeyNetra.Api.StuckKeys
import KeyNetra.Services.Audit
import KeyNetra.Lib.Operations
import KeyNetra.Engine.Limits
import KeyNetra.Services.Degradation
import KeyNetra.Services.ResourceIdentity
import KeyNetra.Repo.PolicySession
import KeyNetra.Concurrency.TenantCreation
import KeyNetra.Services.FrontEnds
import KeyNetra.Lib.Mealy
import KeyNetra.Lib.TokenBucket
import KeyNetra.Config.RateLimit
import KeyNetra.Config.Jwks
import KeyNetra.Config.ApiKeys
import KeyNetra.Services.AttributeLimits
import KeyNetra.Engine.SameConditions
import KeyNetra.Engine.Removal
import KeyNetra.Services.PolicyLint
import KeyNetra.Services.LintedPolicies
import KeyNetra.Lib.Base64
import KeyNetra.Py.JsonText
import KeyNetra.Py.JsonScalars
import KeyNetra.Lib.Paging
import KeyNetra.Api.Cursor
import KeyNetra.Api.CursorFields
import KeyNetra.Api.Listings
import KeyNetra.Api.CursorPaging
import KeyNetra.Api.MalformedCursors
import KeyNetra.Lib.Rbac
import KeyNetra.Lib.NamedTable
import KeyNetra.Lib.Ensuring
import KeyNetra.Repo.Rbac
import KeyNetra.Services.Roles
import KeyNetra.Services.Seeding
import KeyNetra.Services.SeedReset
import KeyNetra.Lib.Expiring
import KeyNetra.Lib.Grouping
import KeyNetra.Cache.MemoryBackend
import KeyNetra.Services.Relationships
import KeyNetra.Lib.Footprint
import KeyNetra.Engine.Footprint
import KeyNetra.Services.Headless
import KeyNetra.Py.JsonRoundTrip
import KeyNetra.Lib.PubSub
import KeyNetra.Concurrency.PolicyUpdates
import KeyNetra.Config.KeyRotation
import KeyNetra.Config.ConfigFile
import KeyNetra.Services.Prefetching
import KeyNetra.Services.PolicySuites
