import PoolHealth.Backend
import PoolHealth.Config.Health
import PoolHealth.Config.Pool
import PoolHealth.Count
import PoolHealth.Decimal.Binary64
import PoolHealth.Decimal.Layout
import PoolHealth.Decimal.Shortest
import PoolHealth.Env
import PoolHealth.Errors
import PoolHealth.Health.Check
import PoolHealth.Health.Component
import PoolHealth.Health.Cycle
import PoolHealth.Health.CycleResult
import PoolHealth.Health.Error
import PoolHealth.Health.History
import PoolHealth.Health.Host
import PoolHealth.Health.Monitor
import PoolHealth.Health.Service
import PoolHealth.Health.Status
import PoolHealth.Json.Document
import PoolHealth.Json.Printer
import PoolHealth.Json.Reading
import PoolHealth.Json.Token
import PoolHealth.Json.Value
import PoolHealth.Keyed
import PoolHealth.Manager.Call
import PoolHealth.Manager.Config
import PoolHealth.Manager.Error
import PoolHealth.Manager.PoolManager
import PoolHealth.Metrics.Record
import PoolHealth.Metrics.Registry
import PoolHealth.Pool.Acquire
import PoolHealth.Pool.Advisor
import PoolHealth.Pool.Await
import PoolHealth.Pool.Call
import PoolHealth.Pool.Checkout
import PoolHealth.Pool.Checkup
import PoolHealth.Pool.ErrorWindow
import PoolHealth.Pool.Lifecycle
import PoolHealth.Pool.Maintenance
import PoolHealth.Pool.Opening
import PoolHealth.Pool.Semaphore
import PoolHealth.Pool.State
import PoolHealth.Pool.Stats
import PoolHealth.Pool.WaitSamples
import PoolHealth.Proofs.Config.Keys
import PoolHealth.Proofs.Config.Variables
import PoolHealth.Proofs.Health.Aggregation
import PoolHealth.Proofs.Health.Cycles
import PoolHealth.Proofs.Health.Deltas
import PoolHealth.Proofs.Health.Evidence
import PoolHealth.Proofs.Health.Freshness
import PoolHealth.Proofs.Health.HistoryBounds
import PoolHealth.Proofs.Health.Monitoring
import PoolHealth.Proofs.Health.Origins
import PoolHealth.Proofs.Health.Retention
import PoolHealth.Proofs.Health.Summary
import PoolHealth.Proofs.Health.Upkeep
import PoolHealth.Proofs.Health.Watch
import PoolHealth.Proofs.Json.Lexemes
import PoolHealth.Proofs.Json.Members
import PoolHealth.Proofs.Json.Rendering
import PoolHealth.Proofs.Json.RoundTrip
import PoolHealth.Proofs.Json.Syntax
import PoolHealth.Proofs.Keyed
import PoolHealth.Proofs.Manager.Addresses
import PoolHealth.Proofs.Manager.Agreement
import PoolHealth.Proofs.Manager.AllOrNothing
import PoolHealth.Proofs.Manager.Bookkeeping
import PoolHealth.Proofs.Manager.Books
import PoolHealth.Proofs.Manager.BringingUp
import PoolHealth.Proofs.Manager.CheckingAll
import PoolHealth.Proofs.Manager.ClosingAll
import PoolHealth.Proofs.Manager.Errands
import PoolHealth.Proofs.Manager.Fleet
import PoolHealth.Proofs.Manager.Insides
import PoolHealth.Proofs.Manager.Isolation
import PoolHealth.Proofs.Manager.Moves
import PoolHealth.Proofs.Manager.Names
import PoolHealth.Proofs.Manager.Portfolio
import PoolHealth.Proofs.Manager.Turns
import PoolHealth.Proofs.Metrics.Attribution
import PoolHealth.Proofs.Metrics.Families
import PoolHealth.Proofs.Pool.Accounts
import PoolHealth.Proofs.Pool.Cancellation
import PoolHealth.Proofs.Pool.Capacity
import PoolHealth.Proofs.Pool.Change
import PoolHealth.Proofs.Pool.CheckoutChanges
import PoolHealth.Proofs.Pool.CheckupChanges
import PoolHealth.Proofs.Pool.Closing
import PoolHealth.Proofs.Pool.Conservation
import PoolHealth.Proofs.Pool.Crew
import PoolHealth.Proofs.Pool.Cutoff
import PoolHealth.Proofs.Pool.Dates
import PoolHealth.Proofs.Pool.Draining
import PoolHealth.Proofs.Pool.Lifecycle
import PoolHealth.Proofs.Pool.LifecycleChanges
import PoolHealth.Proofs.Pool.Lines
import PoolHealth.Proofs.Pool.Metering
import PoolHealth.Proofs.Pool.Meters
import PoolHealth.Proofs.Pool.Ownership
import PoolHealth.Proofs.Pool.Permits
import PoolHealth.Proofs.Pool.Phases
import PoolHealth.Proofs.Pool.Places
import PoolHealth.Proofs.Pool.RecentErrors
import PoolHealth.Proofs.Pool.Recycling
import PoolHealth.Proofs.Pool.Roles
import PoolHealth.Proofs.Pool.RollingAverage
import PoolHealth.Proofs.Pool.Seclusion
import PoolHealth.Proofs.Pool.Serving
import PoolHealth.Proofs.Pool.Signals
import PoolHealth.Proofs.Pool.Token
import PoolHealth.Proofs.Pool.Traffic
import PoolHealth.Proofs.Pool.TrafficChanges
import PoolHealth.Proofs.Pool.Unused
import PoolHealth.Proofs.Sequential.Attempts
import PoolHealth.Proofs.Sequential.Calls
import PoolHealth.Proofs.Sequential.Checkouts
import PoolHealth.Proofs.Sequential.Driving
import PoolHealth.Proofs.Sequential.HealthCheck
import PoolHealth.Proofs.Sequential.Reference
import PoolHealth.Proofs.Sequential.Refinement
import PoolHealth.Proofs.Sequential.Setbacks
import PoolHealth.Proofs.Sequential.SettingUp
import PoolHealth.Proofs.Trace
import PoolHealth.Scenario.Executor
import PoolHealth.Scenario.Jobs
import PoolHealth.Scenario.PoolSession
import PoolHealth.Scenario.ScriptedBackend
import PoolHealth.Scenario.Session
import PoolHealth.Scenario.SystemSession
import PoolHealth.Scenario.World
import PoolHealth.Text.Blank
import PoolHealth.Text.Invisible
import PoolHealth.Text.Numeral
import PoolHealth.Text.Quoted
import PoolHealth.Time.Calendar
import PoolHealth.Time.Duration
import PoolHealth.Time.Wording
