import Mancipatio.Library.Execution
import Mancipatio.Library.Checked
import Mancipatio.Library.ProRata
import Mancipatio.Library.Rows
import Mancipatio.Library.Bytes
import Mancipatio.Library.Merkle
import Mancipatio.Library.Handover
import Mancipatio.Library.Ledger
import Mancipatio.Basic
import Mancipatio.Kyc
import Mancipatio.Snapshot
import Mancipatio.Vesting.Refund
import Mancipatio.Payout.Schedule
import Mancipatio.Payout.Rounds
import Mancipatio.Otc.Atomicity
import Mancipatio.Custody.Lifecycle
import Mancipatio.Distributions.Receipts
import Mancipatio.Hook.BlocklistAuthority
import Mancipatio.Authority.Timelock
import Mancipatio.Authority.Recovery
import Mancipatio.Authority.Staleness
import Mancipatio.Vesting.Entitlement
import Mancipatio.Payout.Effect
import Mancipatio.Distributions.ExactlyOnce
import Mancipatio.Sales.Machine
import Mancipatio.Sales.Containment
import Mancipatio.Sales.IssuerFreeze
import Mancipatio.Offers.Offer
import Mancipatio.Offers.Lifecycle
import Mancipatio.Library.Borsh
import Mancipatio.Accounts
import Mancipatio.Kyc.Layout
import Mancipatio.Hook.Config
import Mancipatio.Hook.Execute
import Mancipatio.Kyc.Receiver
import Mancipatio.Kyc.Agreement
import Mancipatio.Hook.MetaList
import Mancipatio.Rights.Milestones
import Mancipatio.Rights.Claims
import Mancipatio.Capacity.Functions
import Mancipatio.Capacity.Effect
import Mancipatio.Capacity.Counting
import Mancipatio.Capacity.Cap
import Mancipatio.Capacity.Adoption
import Mancipatio.Capacity.Applications
import Mancipatio.Indexer.Queue
import Mancipatio.Indexer.Delivery
import Mancipatio.Indexer.Jobs
import Mancipatio.Indexer.Mirror
import Mancipatio.Library.LastWriter
import Mancipatio.Indexer.Confluence
import Mancipatio.Library.JsonText
import Mancipatio.Commitments.Trees
import Mancipatio.Commitments.Soundness
import Mancipatio.Commitments.Plan
import Mancipatio.Commitments.Payable
import Mancipatio.Commitments.Stored
import Mancipatio.Library.Slots
import Mancipatio.Releases
import Mancipatio.Kyc.Approvals
import Mancipatio.Distributions.Allocation
import Mancipatio.Distributions.SendPlan
import Mancipatio.Distributions.SendJournal
import Mancipatio.Distributions.PaidOnce
import Mancipatio.Library.Decimals
import Mancipatio.Library.Doubles
import Mancipatio.Library.Intervals
import Mancipatio.Payout.Front
import Mancipatio.FxRates.Parse
import Mancipatio.FxRates.Effective
import Mancipatio.Payout.Completion
import Mancipatio.Sales.Settlement
import Mancipatio.Commitments.Snapshots
import Mancipatio.Hook.FrontAgreement
import Mancipatio.Invocations.Attribution
import Mancipatio.Invocations.CallTree
import Mancipatio.Invocations.Spoofing
import Mancipatio.Invocations.Pairing
import Mancipatio.Recipients.Parse
import Mancipatio.Recipients.Cells
import Mancipatio.Recipients.Spelling
import Mancipatio.Recipients.Lines
import Mancipatio.Recipients.Reading
import Mancipatio.Recipients.Misreading
import Mancipatio.Recipients.Canonical
import Mancipatio.Recipients.Exactness
import Mancipatio.Capacity.Revaluation
import Mancipatio.Capacity.Posting
import Mancipatio.Capacity.Linking
import Mancipatio.Capacity.Floors
import Mancipatio.Capacity.Undercounting
import Mancipatio.Governance.Proposals
import Mancipatio.Governance.Counting
import Mancipatio.Authority.Rotation
import Mancipatio.Issuance.Classes
import Mancipatio.Authority.PauseLaw
import Mancipatio.Issuance.Supply
import Mancipatio.Issuance.Containment
import Mancipatio.WalletRewrite.Judge
import Mancipatio.WalletRewrite.Batch
import Mancipatio.WalletRewrite.Soundness
import Mancipatio.WalletRewrite.Reading
