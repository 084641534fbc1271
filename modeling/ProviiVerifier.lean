import ProviiVerifier.Interleaving.Prog
import ProviiVerifier.Interleaving.Pool
import ProviiVerifier.Encoding.Percent
import ProviiVerifier.Error
import ProviiVerifier.Ids
import ProviiVerifier.Challenge
import ProviiVerifier.ChallengeDO
import ProviiVerifier.NonceDO
import ProviiVerifier.IdempotencyDO
import ProviiVerifier.Policy
import ProviiVerifier.Service
import ProviiVerifier.Stores
import ProviiVerifier.IdempotencyWire
import ProviiVerifier.ChallengeLifecycle
import ProviiVerifier.NonceRetention
import ProviiVerifier.Auth
import ProviiVerifier.ReplayWindow
import ProviiVerifier.Gates
import ProviiVerifier.Credits
import ProviiVerifier.Redeem
import ProviiVerifier.HostedRedeem
import ProviiVerifier.Verify
import ProviiVerifier.Calendar
import ProviiVerifier.CreateChallenge
import ProviiVerifier.ChallengeFrame
import ProviiVerifier.Retention.SingleUse
import ProviiVerifier.HostedNonceDO
import ProviiVerifier.NonceSingleUse
import ProviiVerifier.Retention.FirstWriter
import ProviiVerifier.HostedIdempotencyDO
import ProviiVerifier.IdempotencyFirstWriter
import ProviiVerifier.HostedStatus
import ProviiVerifier.SessionRecord
import ProviiVerifier.Requests
import ProviiVerifier.ChallengeRecords
import ProviiVerifier.Original
import ProviiVerifier.Verdicts
import ProviiVerifier.Timeline
import ProviiVerifier.Deadlines
import ProviiVerifier.Healthy
import ProviiVerifier.Retry
import ProviiVerifier.IdempotentRoutes
import ProviiVerifier.IdempotentStore
import ProviiVerifier.IdempotentReplay
import ProviiVerifier.CreateOnce
import ProviiVerifier.RedeemOnce
import ProviiVerifier.Billing
import ProviiVerifier.Retention.Expiring
import ProviiVerifier.SessionTtl
import ProviiVerifier.Interleaving.System
import ProviiVerifier.JwksCache
import ProviiVerifier.IssuerRegistry
import ProviiVerifier.IssuerLookups
import ProviiVerifier.AgeCutoff
import ProviiVerifier.ApiKeyCache
import ProviiVerifier.NonceTags
import ProviiVerifier.HostedCounter
import ProviiVerifier.Encoding.Split
import ProviiVerifier.OriginPatterns
import ProviiVerifier.Retention.ReadThrough
import ProviiVerifier.OriginPolicyStore
import ProviiVerifier.Interleaving.Play
import ProviiVerifier.CreatedPolicies
import ProviiVerifier.HostedChallenge
import ProviiVerifier.VerifiableCreation
import ProviiVerifier.RedeemRetry
import ProviiVerifier.ChargedVerdicts
import ProviiVerifier.ExpertCounter
import ProviiVerifier.ErrorEnvelope
import ProviiVerifier.Encoding.Base64Url
import ProviiVerifier.SessionCookie
import ProviiVerifier.SessionToken
import ProviiVerifier.Encoding.Aead
import ProviiVerifier.KeyRotation
import ProviiVerifier.RotatedSecrets
import ProviiVerifier.RotationVerified
import ProviiVerifier.HostedKeys
import ProviiVerifier.WsTicket
import ProviiVerifier.HostedCors
import ProviiVerifier.StatusTokenCache
import ProviiVerifier.InternalBearer
import ProviiVerifier.ChallengeLookup
import ProviiVerifier.Interleaving.Ends
import ProviiVerifier.ShortCodeEntries
import ProviiVerifier.ShortCodeSecrecy
import ProviiVerifier.StatusAuth
import ProviiVerifier.Payers
import ProviiVerifier.Interleaving.Clock
import ProviiVerifier.OriginPolicyCache
import ProviiVerifier.ChallengeWrites
import ProviiVerifier.FailedReads
import ProviiVerifier.LostResponses
import ProviiVerifier.ExpiredReads
import ProviiVerifier.HostedPolls
import ProviiVerifier.Interleaving.Project
import ProviiVerifier.CreatedChallenges
import ProviiVerifier.Encoding.Decimal
import ProviiVerifier.TierLimits
import ProviiVerifier.RateLimits
import ProviiVerifier.QuotaWindows
import ProviiVerifier.CanonicalMessage
import ProviiVerifier.CsrfToken
import ProviiVerifier.BanStore
import ProviiVerifier.ShortCodeIndex
import ProviiVerifier.ApiKeyIndex
import ProviiVerifier.Pkce
import ProviiVerifier.SessionBinding
import ProviiVerifier.EnvelopeEncryption
import ProviiVerifier.HostedEncryption
import ProviiVerifier.StrictTypes
import ProviiVerifier.Encoding.CharBoundary
import ProviiVerifier.MessageSanitizer
import ProviiVerifier.InputStrings
import ProviiVerifier.ErrorDetails
import ProviiVerifier.ShortCodeGrammar
import ProviiVerifier.NonceWire
import ProviiVerifier.PrefixRejection
import ProviiVerifier.Encoding.AddressBlocks
import ProviiVerifier.SsrfAddresses
import ProviiVerifier.Encoding.Numerals
import ProviiVerifier.IpText
import ProviiVerifier.SsrfHosts
import ProviiVerifier.SimulateProof
import ProviiVerifier.SimulatedProofs
import ProviiVerifier.RegisteredOrigins
import ProviiVerifier.CompleteFlow
import ProviiVerifier.ChallengeNotifyDO
import ProviiVerifier.Interleaving.Meter
import ProviiVerifier.InternalAdmin
import ProviiVerifier.AdminRuns
import ProviiVerifier.ChallengePoll
