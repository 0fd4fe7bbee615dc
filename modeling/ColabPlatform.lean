import ColabPlatform.Foundation.Run
import ColabPlatform.Foundation.Table
import ColabPlatform.Foundation.Session
import ColabPlatform.Foundation.Transactions
import ColabPlatform.Foundation.Interleaving
import ColabPlatform.Foundation.Maxima
import ColabPlatform.Foundation.CacheAside
import ColabPlatform.Foundation.Holds
import ColabPlatform.Foundation.KeyStore
import ColabPlatform.Foundation.OrderedDict
import ColabPlatform.Foundation.Codec
import ColabPlatform.Common.Text
import ColabPlatform.Common.Auth
import ColabPlatform.Billing.Model
import ColabPlatform.Billing.Credits
import ColabPlatform.Billing.CreditLedger
import ColabPlatform.Billing.Overdraft
import ColabPlatform.Billing.Subscriptions
import ColabPlatform.Billing.Webhooks
import ColabPlatform.Billing.DuplicateGrant
import ColabPlatform.Billing.Refunds
import ColabPlatform.Billing.StripeHandlers
import ColabPlatform.Billing.RcHandlers
import ColabPlatform.Billing.HandlerSpecs
import ColabPlatform.Billing.StripeOrder
import ColabPlatform.Billing.RcOrder
import ColabPlatform.Billing.PeriodGrants
import ColabPlatform.Billing.Entitlements
import ColabPlatform.Billing.EntitlementAxes
import ColabPlatform.Billing.Cancellation
import ColabPlatform.Billing.EntitlementRuns
import ColabPlatform.Billing.WebhookLedger
import ColabPlatform.Billing.EntitlementCache
import ColabPlatform.Gateway.Model
import ColabPlatform.Gateway.Stack
import ColabPlatform.Gateway.Serve
import ColabPlatform.Gateway.Identity
import ColabPlatform.Gateway.Isolation
import ColabPlatform.Gateway.Retries
import ColabPlatform.Auth.Model
import ColabPlatform.Auth.Sessions
import ColabPlatform.Auth.IdealTokens
import ColabPlatform.Auth.Revocation
import ColabPlatform.Auth.Rotation
import ColabPlatform.Auth.AccessTokens
import ColabPlatform.Auth.Otp
import ColabPlatform.Auth.OtpGuessing
import ColabPlatform.Auth.PhoneLogin
import ColabPlatform.Auth.MagicLinks
import ColabPlatform.Ai.CallSpecs
import ColabPlatform.Ai.GenerationSpecs
import ColabPlatform.Ai.Charging
import ColabPlatform.Ai.Deliveries
import ColabPlatform.Ai.Mockups
import ColabPlatform.Foundation.Milestones
import ColabPlatform.Profiles.BadgeFsm
import ColabPlatform.Profiles.Events
import ColabPlatform.Moderation.CaseLifecycle
import ColabPlatform.Moderation.Dmca
import ColabPlatform.Moderation.DmcaSafety
import ColabPlatform.Ai.OutputModeration
import ColabPlatform.Chat.Agreement
import ColabPlatform.Common.Floats
import ColabPlatform.Identity.Persona
import ColabPlatform.Identity.Underage
import ColabPlatform.Identity.Verdicts
import ColabPlatform.Moderation.FailSafe
import ColabPlatform.Profiles.AiReview
import ColabPlatform.Profiles.BadgeCoverage
import ColabPlatform.Foundation.SlidingWindow
import ColabPlatform.Foundation.Rendezvous
import ColabPlatform.Invites.Model
import ColabPlatform.Invites.Quota
import ColabPlatform.Invites.QuotaOrder
import ColabPlatform.Invites.Sending
import ColabPlatform.Invites.Answers
import ColabPlatform.Invites.Runs
import ColabPlatform.Invites.Lifecycle
import ColabPlatform.Invites.Matches
import ColabPlatform.Invites.Blocked
import ColabPlatform.Invites.Grants
import ColabPlatform.Invites.Idempotence
import ColabPlatform.Chat.Fanout
import ColabPlatform.Ai.ConsentSteps
import ColabPlatform.Ai.Bilateral
import ColabPlatform.Foundation.Walk
import ColabPlatform.Collabs.Model
import ColabPlatform.Collabs.Runs
import ColabPlatform.Collabs.Transitions
import ColabPlatform.Collabs.Immutable
import ColabPlatform.Collabs.Activity
import ColabPlatform.Collabs.Archival
import ColabPlatform.Collabs.Nudges
import ColabPlatform.Collabs.Exports
import ColabPlatform.Foundation.Cursor
import ColabPlatform.Collabs.Whiteboard
import ColabPlatform.Chat.Runs
import ColabPlatform.Chat.Nonces
import ColabPlatform.Chat.Frozen
import ColabPlatform.Chat.RoomBlocks
import ColabPlatform.Chat.PendingQueue
import ColabPlatform.Common.UuidV7
import ColabPlatform.Chat.Reconnect
import ColabPlatform.Meetings.Model
import ColabPlatform.Meetings.Scheduling
import ColabPlatform.Meetings.BotConsent
import ColabPlatform.Meetings.RecallWebhooks
import ColabPlatform.Moderation.Reports
import ColabPlatform.Foundation.Validity
import ColabPlatform.Admin.Entitlements
import ColabPlatform.Admin.Model
import ColabPlatform.Admin.CreditGrants
import ColabPlatform.Admin.Audit
import ColabPlatform.Media.Model
import ColabPlatform.Media.RoomScope
import ColabPlatform.Media.Moderated
import ColabPlatform.Notifications.Model
import ColabPlatform.Notifications.Delivery
import ColabPlatform.Notifications.ExactlyOnce
import ColabPlatform.Billing.Dunning
import ColabPlatform.Foundation.TokenBucket
import ColabPlatform.Common.RateLimit
import ColabPlatform.Moderation.ScoreLaws
import ColabPlatform.Billing.EntitlementOrder
import ColabPlatform.Billing.ReserveRetry
import ColabPlatform.Foundation.Block
import ColabPlatform.Analytics.Rollup
import ColabPlatform.Analytics.RollupIsolation
import ColabPlatform.Discovery.FeedCap
import ColabPlatform.Discovery.HiddenProfiles
import ColabPlatform.Foundation.Moves
import ColabPlatform.Profiles.Portfolio
import ColabPlatform.Moderation.Duplicates
import ColabPlatform.Foundation.Paging
import ColabPlatform.Chat.History
import ColabPlatform.Collabs.Listing
import ColabPlatform.Chat.RoomList
import ColabPlatform.Chat.ReadReceipts
import ColabPlatform.Collabs.Comments
import ColabPlatform.Foundation.OffsetPages
import ColabPlatform.Discovery.FeedPages
import ColabPlatform.Invites.QuotaWindow
import ColabPlatform.Auth.BruteForce
import ColabPlatform.Auth.MobileSession
import ColabPlatform.Common.Events
import ColabPlatform.Common.RateLimitRounding
import ColabPlatform.Profiles.HealthScore
import ColabPlatform.Profiles.Personality
import ColabPlatform.Matching.Ranking
import ColabPlatform.Collabs.TaskOrder
import ColabPlatform.Matching.Recommendations
import ColabPlatform.Foundation.Base64
import ColabPlatform.Foundation.JsonText
import ColabPlatform.Common.IsoTime
import ColabPlatform.Common.PageCursor
import ColabPlatform.Invites.Listing
import ColabPlatform.Invites.BlockList
import ColabPlatform.Meetings.Listing
import ColabPlatform.Meetings.RecallClient
import ColabPlatform.Foundation.Midpoint
import ColabPlatform.Collabs.Midpoints
import ColabPlatform.Profiles.PerceptualHash
import ColabPlatform.Foundation.Deletion
import ColabPlatform.Support.Sanitizing
import ColabPlatform.Support.Tickets
import ColabPlatform.Foundation.Batch
import ColabPlatform.Analytics.Sources
import ColabPlatform.Analytics.Backfill
import ColabPlatform.Notifications.Preferences
import ColabPlatform.Notifications.Dispatch
import ColabPlatform.Notifications.Seeding
import ColabPlatform.Foundation.Broker
import ColabPlatform.Collabs.Consumers
import ColabPlatform.Bus.Publishers
import ColabPlatform.Bus.Consumers
