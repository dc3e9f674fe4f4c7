import VitaleBackend.Lib.Sweep
import VitaleBackend.Lib.RowLock
import VitaleBackend.RuleEngine.Raan
import VitaleBackend.Api.Freshness
import VitaleBackend.Api.ReadCommitted
import VitaleBackend.Api.Objects
import VitaleBackend.Api.Hits
import VitaleBackend.Api.LastModified
import VitaleBackend.Api.Fixdates
import VitaleBackend.Api.IfNoneMatch
import VitaleBackend.Api.Cors
import VitaleBackend.Poller.Rotation
import VitaleBackend.Poller.Catalogue
import VitaleBackend.Poller.Decay
import VitaleBackend.Poller.Isolation
import VitaleBackend.Poller.History
import VitaleBackend.Poller.MissingData
import VitaleBackend.Poller.Schedule
import VitaleBackend.Poller.Precondition
import VitaleBackend.Poller.Gaps
import VitaleBackend.Poller.Staleness
import VitaleBackend.Poller.Overlap
import VitaleBackend.Poller.Ticks
import VitaleBackend.Poller.Reorder
import VitaleBackend.Poller.Request
import VitaleBackend.Poller.Cycle
import VitaleBackend.Poller.Featured
import VitaleBackend.Poller.Independence
import VitaleBackend.Poller.IntegerFields
import VitaleBackend.Poller.Rendered
import VitaleBackend.Api.Origins
import VitaleBackend.Poller.HotSlice
import VitaleBackend.Api.TopN
import VitaleBackend.Lib.Moments
import VitaleBackend.Poller.Growth
import VitaleBackend.Api.Snapshots
import VitaleBackend.Api.Stats
import VitaleBackend.Api.Events
import VitaleBackend.Api.Detail
import VitaleBackend.Api.Selects
import VitaleBackend.Poller.Loop
import VitaleBackend.Poller.Workers
import VitaleBackend.Api.Sessions
import VitaleBackend.Lib.Like
import VitaleBackend.Api.Search
import VitaleBackend.Poller.Interleaved
import VitaleBackend.Poller.Wire
import VitaleBackend.Poller.Drift
import VitaleBackend.Lib.Journal
import VitaleBackend.Poller.Logged
import VitaleBackend.Poller.LogFrames
import VitaleBackend.Poller.Audit
import VitaleBackend.Poller.Summary
import VitaleBackend.Poller.LogFile
import VitaleBackend.Poller.Listed
import VitaleBackend.Poller.Renewal
import VitaleBackend.Api.Delivery
