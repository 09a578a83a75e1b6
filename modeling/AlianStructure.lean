import AlianStructure.Guarantees.SingleBroadcast
import AlianStructure.Guarantees.ConfirmedForever
import AlianStructure.Guarantees.RefreshRotation
import AlianStructure.Guarantees.WalletSecondFactor
import AlianStructure.Guarantees.AdminGate
import AlianStructure.Guarantees.BackupCodes
import AlianStructure.Guarantees.PrimaryWallet
import AlianStructure.Guarantees.DelegationConfinement
import AlianStructure.Guarantees.DelegationHandshake
import AlianStructure.Guarantees.AccountLockout
import AlianStructure.Guarantees.GrantfoxRotation
import AlianStructure.Guarantees.MatchingCompleteness
import AlianStructure.Guarantees.PaymentsCredited
import AlianStructure.Guarantees.RefundTotals
import AlianStructure.Guarantees.SubmittedHash
import AlianStructure.Guarantees.RetryBudget
import AlianStructure.Guarantees.BatchPipeline
import AlianStructure.Guarantees.ConnectionIndex
import AlianStructure.Guarantees.CircuitRecovery
import AlianStructure.Guarantees.FeasibleWeights
import AlianStructure.Guarantees.RebalancingTargets
import AlianStructure.Guarantees.RebalancingOnce
import AlianStructure.Guarantees.ModuleStates
import AlianStructure.Guarantees.WebhookRetries
import AlianStructure.Guarantees.ProvenanceVerification
import AlianStructure.Guarantees.PoolAgreement
import AlianStructure.Guarantees.ProviderBreaker
import AlianStructure.Guarantees.ReviewWalk
import AlianStructure.Guarantees.HistoryWalk
import AlianStructure.Guarantees.DigestDelivery
import AlianStructure.Guarantees.ReplayGuard
import AlianStructure.Guarantees.FileQuarantine
import AlianStructure.Guarantees.PathContainment
import AlianStructure.Guarantees.EmailUnsubscribed
import AlianStructure.Guarantees.EmailAccounts
import AlianStructure.Guarantees.ClientReconnection
import AlianStructure.Guarantees.ConcurrentPayments
import AlianStructure.Guarantees.MeteredUsage
import AlianStructure.Guarantees.RevocationReach
import AlianStructure.Guarantees.PriceAggregation
import AlianStructure.Guarantees.BatchOrder
import AlianStructure.Guarantees.StakingAccounts
import AlianStructure.Guarantees.ChallengeBinding
import AlianStructure.Guarantees.PayloadNonces
import AlianStructure.Guarantees.RetryAfter
import AlianStructure.Guarantees.QuotaWindows
import AlianStructure.Guarantees.AmountArithmetic
import AlianStructure.Guarantees.FailedTransactions
import AlianStructure.Guarantees.RotationAtomicity
import AlianStructure.Guarantees.TwoFactorLockout
import AlianStructure.Guarantees.PatternAgreement
import AlianStructure.Guarantees.CacheKeys
import AlianStructure.Guarantees.CacheProvenance
import AlianStructure.Guarantees.GenericWalk
import AlianStructure.Guarantees.CanonicalCursors
import AlianStructure.Guarantees.PortfolioReturns
import AlianStructure.Guarantees.DriftDetection
import AlianStructure.Guarantees.YieldAllocation
import AlianStructure.Guarantees.YieldClaims
import AlianStructure.Guarantees.ChannelGating
import AlianStructure.Guarantees.ReconnectTimers
import AlianStructure.Guarantees.CsvRoundTrip
import AlianStructure.Guarantees.AlertRules
import AlianStructure.Guarantees.ScoringBounds
import AlianStructure.Guarantees.LogNoninterference
import AlianStructure.Guarantees.QueryMeaning
import AlianStructure.Guarantees.SimulationGas
import AlianStructure.Guarantees.ImageHeaders
import AlianStructure.Guarantees.MagicBytes
import AlianStructure.Guarantees.SolverFeasibility
