import SpellServer.Dictionary.Codes
import SpellServer.Dictionary.Files
import SpellServer.Dictionary.LoadAlone
import SpellServer.Dictionary.LoadedOnce
import SpellServer.Dictionary.Loading
import SpellServer.Dictionary.Pairs
import SpellServer.Dictionary.Registration
import SpellServer.Dictionary.Registry
import SpellServer.Dictionary.Serving
import SpellServer.Http.AdminNetworks
import SpellServer.Http.Admission
import SpellServer.Http.Authorization
import SpellServer.Http.Billing
import SpellServer.Http.Bodies
import SpellServer.Http.Configuration
import SpellServer.Http.Forwarding
import SpellServer.Http.GateRules
import SpellServer.Http.Gates
import SpellServer.Http.Guessing
import SpellServer.Http.HandlerRuns
import SpellServer.Http.Handlers
import SpellServer.Http.KeyAvailability
import SpellServer.Http.LanguageCodes
import SpellServer.Http.LimiterHistory
import SpellServer.Http.Message
import SpellServer.Http.Models
import SpellServer.Http.OriginRegistration
import SpellServer.Http.RateLimiter
import SpellServer.Http.RetryAfter
import SpellServer.Http.SpellRoutes
import SpellServer.Http.Startup
import SpellServer.Http.SuspendedTenants
import SpellServer.Http.TenantPatches
import SpellServer.Http.TenantUpdates
import SpellServer.Http.Totality
import SpellServer.Library.Accumulate
import SpellServer.Library.Calendar
import SpellServer.Library.Decimal
import SpellServer.Library.Dict
import SpellServer.Library.Fields
import SpellServer.Library.Grouping
import SpellServer.Library.Interleaving
import SpellServer.Library.Json
import SpellServer.Library.Ladder
import SpellServer.Library.Mirror
import SpellServer.Library.Mutex
import SpellServer.Library.Paths
import SpellServer.Library.Quantile
import SpellServer.Library.Results
import SpellServer.Library.SlidingWindow
import SpellServer.Library.Solo
import SpellServer.Library.Sorting
import SpellServer.Library.Tally
import SpellServer.Library.Text
import SpellServer.Library.Utf8
import SpellServer.Library.WebOrigin
import SpellServer.Net.AddressText
import SpellServer.Net.Cidr
import SpellServer.Net.Membership
import SpellServer.Spell.Check
import SpellServer.Spell.Faithful
import SpellServer.Spell.Runs
import SpellServer.Spell.Tokenize
import SpellServer.Store.BootstrapKeys
import SpellServer.Store.BootstrapReset
import SpellServer.Store.Caches
import SpellServer.Store.Calls
import SpellServer.Store.Coherence
import SpellServer.Store.Driver
import SpellServer.Store.ExternalRotation
import SpellServer.Store.KeyFiling
import SpellServer.Store.KeyGrants
import SpellServer.Store.KeyMoves
import SpellServer.Store.KeyOwnership
import SpellServer.Store.KeyShapes
import SpellServer.Store.KeyTenants
import SpellServer.Store.Keys
import SpellServer.Store.Ledger
import SpellServer.Store.Lifecycle
import SpellServer.Store.Locality
import SpellServer.Store.Mirrors
import SpellServer.Store.OriginRaces
import SpellServer.Store.Origins
import SpellServer.Store.PlatformAccess
import SpellServer.Store.QuotaAdmission
import SpellServer.Store.QuotaRaces
import SpellServer.Store.Records
import SpellServer.Store.Revocation
import SpellServer.Store.RoundTrip
import SpellServer.Store.Schema
import SpellServer.Store.Sequential
import SpellServer.Store.SharedDatabase
import SpellServer.Store.StoredCodes
import SpellServer.Store.Suspension
import SpellServer.Store.TenantAnswers
import SpellServer.Store.TenantCreation
import SpellServer.Store.TenantIsolation
import SpellServer.Store.TenantPresence
import SpellServer.Store.TenantProfiles
import SpellServer.Store.TenantRaces
import SpellServer.Store.TenantScope
import SpellServer.Store.Tenants
import SpellServer.Store.UntouchedKeys
import SpellServer.Store.World
import SpellServer.Usage.Aggregation
import SpellServer.Usage.Agreement
import SpellServer.Usage.Buckets
import SpellServer.Usage.Civil
import SpellServer.Usage.Conservation
import SpellServer.Usage.DayGrammar
import SpellServer.Usage.DayTexts
import SpellServer.Usage.Days
import SpellServer.Usage.Deploys
import SpellServer.Usage.Filing
import SpellServer.Usage.Gaps
import SpellServer.Usage.Groups
import SpellServer.Usage.Histograms
import SpellServer.Usage.Isolation
import SpellServer.Usage.OutputOrder
import SpellServer.Usage.Percentile
import SpellServer.Usage.Queries
import SpellServer.Usage.Recorder
import SpellServer.Usage.Reports
import SpellServer.Usage.Retention
import SpellServer.Usage.Rollup
import SpellServer.Usage.Service
import SpellServer.Usage.Shares
import SpellServer.Usage.Window
import SpellServer.Usage.WindowDays
