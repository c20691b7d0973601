import StatusTimeline.Config.Core
import StatusTimeline.Config.Logging
import StatusTimeline.Config.Timeline
import StatusTimeline.Json.Printer
import StatusTimeline.Json.Reader
import StatusTimeline.Main
import StatusTimeline.Proofs.Config.Reading
import StatusTimeline.Proofs.Config.Sources
import StatusTimeline.Proofs.Config.Sweeping
import StatusTimeline.Proofs.Database.Agreement
import StatusTimeline.Proofs.Database.Annotation
import StatusTimeline.Proofs.Engine.Chain
import StatusTimeline.Proofs.Engine.Compensation
import StatusTimeline.Proofs.Engine.Deletion
import StatusTimeline.Proofs.Engine.Recovery
import StatusTimeline.Proofs.Engine.Retry
import StatusTimeline.Proofs.Engine.Scope
import StatusTimeline.Proofs.Engine.Stepwise
import StatusTimeline.Proofs.Engine.Thinning
import StatusTimeline.Proofs.Http.Visits
import StatusTimeline.Proofs.Interleaving.Linear
import StatusTimeline.Proofs.Interleaving.Paging
import StatusTimeline.Proofs.Interleaving.Schedules
import StatusTimeline.Proofs.Leasing.Overtaking
import StatusTimeline.Proofs.Leasing.Renewal
import StatusTimeline.Proofs.Leasing.Waiting
import StatusTimeline.Proofs.Lock.Slots
import StatusTimeline.Proofs.Store.Clock
import StatusTimeline.Proofs.Store.Compound
import StatusTimeline.Proofs.Store.Creation
import StatusTimeline.Proofs.Store.Purge
import StatusTimeline.Proofs.Store.Views
import StatusTimeline.Proofs.Timeline.Coverage
import StatusTimeline.Proofs.Timeline.Report
import StatusTimeline.Proofs.Timeline.Ties
import StatusTimeline.Proofs.Wire.Roundtrip
import StatusTimeline.Simulation.Setup
import StatusTimeline.Wire.Audit
import StatusTimeline.Wire.Values
