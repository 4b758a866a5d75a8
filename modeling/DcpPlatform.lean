import DcpPlatform.Payouts.Exclusivity
import DcpPlatform.Pods.StaleStops
import DcpPlatform.Topups.FoundRows
import DcpPlatform.Topups.OneCredit
import DcpPlatform.Contracts.ProviderStake
import DcpPlatform.Contracts.AttestationDeadlines
import DcpPlatform.Contracts.AttestationExits
import DcpPlatform.Topups.EventOrder
import DcpPlatform.Queue.TerminalJobs
import DcpPlatform.OpenRouter.Partition
import DcpPlatform.Pods.Stranded
import DcpPlatform.Pods.PaidPods
import DcpPlatform.Subscriptions.GrantedOnce
import DcpPlatform.Refunds.RefundedOnce
import DcpPlatform.Sessions.Telescoping
import DcpPlatform.Sessions.ChargedOnce
import DcpPlatform.Volumes.Billing
import DcpPlatform.Credits.LedgerMatches
import DcpPlatform.Wallets.CoveredHolds
import DcpPlatform.Adapters.ProvenRouting
import DcpPlatform.Missions.OneLease
import DcpPlatform.Missions.ExclusiveLeases
import DcpPlatform.Dispatcher.EveryAssignment
import DcpPlatform.Keys.OwnAuthority
import DcpPlatform.SignUp.KeyOwners
import DcpPlatform.SignUp.StarterCredit
import DcpPlatform.SignUp.Deletion
import DcpPlatform.Polling.NextJob
import DcpPlatform.Probes.ProvenReachable
import DcpPlatform.PromptCache.Canonical
import DcpPlatform.Providers.StickyQuarantine
import DcpPlatform.EscrowListener.ReturnedHolds
import DcpPlatform.EscrowListener.AppliedOnce
import DcpPlatform.Pipeline.ReservedOnce
import DcpPlatform.Dispatcher.OneRepair
import DcpPlatform.Lora.EndsOnce
import DcpPlatform.Checkpoints.LatestSave
import DcpPlatform.Checkpoints.Pruning
import DcpPlatform.Referrals.PaidOnce
import DcpPlatform.Chat.MeasuredLimits
import DcpPlatform.Chat.KeyRunsOnce
import DcpPlatform.Billing.AccountedOnce
import DcpPlatform.Billing.WithinCaps
import DcpPlatform.Jobs.PaidWhileLive
import DcpPlatform.Payouts.Summary
import DcpPlatform.Topups.PathsAgree
import DcpPlatform.Pods.SettlementsAgree
import DcpPlatform.Jobs.Reconciliation
import DcpPlatform.PayoutBatches.Preview
import DcpPlatform.Batches.Interrupted
import DcpPlatform.Batches.Retries
import DcpPlatform.Billing.StreamedBills
import DcpPlatform.Billing.AnthropicStreams
import DcpPlatform.Chat.Relay
import DcpPlatform.Chat.ServedModel
import DcpPlatform.Chat.ThinkStripper
import DcpPlatform.Scheduler.JobScheduler
import DcpPlatform.ControlPlane.Prewarm
import DcpPlatform.Creates.Replays
import DcpPlatform.FinancialIdempotency.Replays
