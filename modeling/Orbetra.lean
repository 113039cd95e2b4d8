import Orbetra.Affiliates.Anchor
import Orbetra.Affiliates.Deals
import Orbetra.Affiliates.Payout
import Orbetra.Audit.Reading
import Orbetra.Auth.Guesses
import Orbetra.Auth.Reuse
import Orbetra.Auth.Rotation
import Orbetra.Auth.SignOut
import Orbetra.Auth.Straddle
import Orbetra.Auth.Tabs
import Orbetra.Billing.Ladder
import Orbetra.Billing.Metering
import Orbetra.Billing.Order
import Orbetra.Billing.Overage
import Orbetra.Billing.Restore
import Orbetra.Codec.Chunks
import Orbetra.Codec.Packets
import Orbetra.Codec.Sound
import Orbetra.Commands.Credit
import Orbetra.Commands.LastWrite
import Orbetra.Commands.Pairing
import Orbetra.Commands.Reconcile
import Orbetra.Commands.Settled
import Orbetra.Db.Events
import Orbetra.Devices.Accounts
import Orbetra.Devices.Cap
import Orbetra.Devices.Ceilings
import Orbetra.Devices.Csv
import Orbetra.Devices.Imei
import Orbetra.Devices.Import
import Orbetra.Devices.Quarantine
import Orbetra.Devices.Shares
import Orbetra.Framework.Alternation
import Orbetra.Framework.Effect
import Orbetra.Framework.Json
import Orbetra.Framework.Machine
import Orbetra.Framework.Redelivery
import Orbetra.Framework.Transducer
import Orbetra.Framework.Update
import Orbetra.Gdpr.Export
import Orbetra.Geofence.Budget
import Orbetra.Geofence.Engine
import Orbetra.Geofence.Rollback
import Orbetra.Geofence.Stays
import Orbetra.Ingest.Acks
import Orbetra.Ingest.Gauge
import Orbetra.Ingest.LiveTable
import Orbetra.Ingest.RejectDrain
import Orbetra.Ingest.Retired
import Orbetra.Live.Chain
import Orbetra.Live.Gateway
import Orbetra.Live.Marker
import Orbetra.Live.Revocation
import Orbetra.Live.Socket
import Orbetra.Live.Store
import Orbetra.Live.Trail
import Orbetra.Maintenance.EngineHours
import Orbetra.Pipeline.Fed
import Orbetra.Pipeline.Isolation
import Orbetra.Pipeline.NoLoss
import Orbetra.Pipeline.Normalize
import Orbetra.Registry.InTime
import Orbetra.Registry.Lists
import Orbetra.Reports.Schedule
import Orbetra.Rules.Episodes
import Orbetra.Rules.Fuel
import Orbetra.Rules.Peak
import Orbetra.Rules.Replay
import Orbetra.Sending.Binding
import Orbetra.Sending.Feedback
import Orbetra.Sending.Verified
import Orbetra.Settings.Branding
import Orbetra.Settings.Reference
import Orbetra.Settings.Uploads
import Orbetra.Shards.Lease
import Orbetra.Sms.Charge
import Orbetra.Sms.Onboarding
import Orbetra.Track.DayFilter
import Orbetra.Trip.Agreement
import Orbetra.Trip.Coverage
import Orbetra.Trip.Handoff
import Orbetra.Trip.Idempotence
import Orbetra.Trip.Insertions
import Orbetra.Trip.Odometer
import Orbetra.Trip.OpenRow
import Orbetra.Trip.Replay
import Orbetra.Trip.Requested
import Orbetra.Users.Scope
import Orbetra.Webhook.Ranges
