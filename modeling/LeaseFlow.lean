import LeaseFlow.Foundations.Transaction
import LeaseFlow.Foundations.Run
import LeaseFlow.Foundations.Register
import LeaseFlow.Contract.OracleRegistry
import LeaseFlow.Contract.Creation
import LeaseFlow.Contract.SymbolLease
import LeaseFlow.Contract.Occupancy
import LeaseFlow.Contract.DepositSlash
import LeaseFlow.Contract.Dispatch
import LeaseFlow.Escrow.History
import LeaseFlow.Deposits.Backing
import LeaseFlow.Deposits.DoublePayout
import LeaseFlow.Deposits.Finality
import LeaseFlow.Deposits.FullPayout
import LeaseFlow.Deposits.Simulation
import LeaseFlow.Deposits.Splits
import LeaseFlow.Safeguards.Nonces
import LeaseFlow.Safeguards.ReportSignature
import LeaseFlow.Safeguards.Demotion
import LeaseFlow.Safeguards.VelocityPause
import LeaseFlow.Safeguards.CouncilVeto
import LeaseFlow.Dunning.Reserves
import LeaseFlow.Dunning.CreditHistory
import LeaseFlow.Dunning.Growth
import LeaseFlow.Dunning.Announcements
import LeaseFlow.Dunning.OpenDeposits
import LeaseFlow.Dunning.Refunds
import LeaseFlow.Dunning.PeggedBilling
import LeaseFlow.Dunning.GracePeriod
import LeaseFlow.Dunning.Volatility
import LeaseFlow.Billing.Treasury
import LeaseFlow.Billing.Cycles
import LeaseFlow.Billing.Balances
import LeaseFlow.Billing.PullPayments
import LeaseFlow.Billing.Charges
import LeaseFlow.Billing.TreasuryBacking
import LeaseFlow.Billing.EmergencyPause
import LeaseFlow.Vault.Freeze
import LeaseFlow.Vault.Backing
import LeaseFlow.Vault.Lockup
import LeaseFlow.Vault.Entitlement
import LeaseFlow.Calendar.BillingDates
import LeaseFlow.Calendar.MonthLength
import LeaseFlow.Calendar.TerminationRefund
import LeaseFlow.Calendar.FirstMonthRent
import LeaseFlow.Calendar.RentPartition
import LeaseFlow.Deposits.DestroyedAsset
import LeaseFlow.Safeguards.AdminContinuity
import LeaseFlow.Safeguards.DaoResume
import LeaseFlow.Safeguards.OraclePolicy
import LeaseFlow.Safeguards.Availability
import LeaseFlow.Safeguards.ReentrancyLock
import LeaseFlow.Holdings.YieldCollateral
import LeaseFlow.Holdings.YieldShares
import LeaseFlow.Holdings.RentBalance
import LeaseFlow.Holdings.FrozenAssets
import LeaseFlow.Holdings.LateFees
import LeaseFlow.Safeguards.ActiveFlag
import LeaseFlow.Archive.FreshRecords
import LeaseFlow.Archive.AppendOnly
import LeaseFlow.Archive.Pagination
import LeaseFlow.Archive.LegalHolds
import LeaseFlow.Archive.Cooldown
import LeaseFlow.Portfolio.Accounting
import LeaseFlow.Portfolio.EvictionLimit
import LeaseFlow.Portfolio.WindowStats
import LeaseFlow.Solvency.Agreement
import LeaseFlow.Solvency.Atomicity
import LeaseFlow.Solvency.LeaseByLease
import LeaseFlow.Division.Quotients
import LeaseFlow.Dust.Recovery
import LeaseFlow.Safeguards.Admission
import LeaseFlow.Holdings.Buyout
import LeaseFlow.Holdings.Dormant
import LeaseFlow.Portfolio.Proposals
import LeaseFlow.Portfolio.Activation
import LeaseFlow.Access.Subleasing
import LeaseFlow.Access.Revocation
import LeaseFlow.Access.Closing
import LeaseFlow.Access.Indexes
import LeaseFlow.Access.Mandate
import LeaseFlow.Access.Subtrees
import LeaseFlow.Access.DerivedIndexes
import LeaseFlow.Access.Tenure
import LeaseFlow.KeySpace.LeaseRecords
import LeaseFlow.Timelock.Operations
import LeaseFlow.Timelock.Effect
import LeaseFlow.Timelock.Quorum
import LeaseFlow.Timelock.LoneSigner
import LeaseFlow.Timelock.Lifecycle
import LeaseFlow.Identity.Effect
import LeaseFlow.Identity.Votes
import LeaseFlow.Identity.Trust
import LeaseFlow.OracleGovernance.Effect
import LeaseFlow.OracleGovernance.Outsiders
import LeaseFlow.OracleGovernance.Counters
import LeaseFlow.Collateral.Operations
import LeaseFlow.Collateral.Effect
import LeaseFlow.Collateral.MarginCalls
import LeaseFlow.Collateral.Topups
import LeaseFlow.Collateral.Interference
import LeaseFlow.Collateral.Rating
import LeaseFlow.KeySpace.SmartLock
import LeaseFlow.KeySpace.Rights
import LeaseFlow.KeySpace.Ownership
import LeaseFlow.KeySpace.Titles
import LeaseFlow.KeySpace.RentAccrual
import LeaseFlow.KeySpace.LeaseLock
import LeaseFlow.KeySpace.Shadowing
import LeaseFlow.KeySpace.DepositAccounts
import LeaseFlow.KeySpace.SharedStore
import LeaseFlow.KeySpace.RefundBound
import LeaseFlow.Dust.Shares
import LeaseFlow.Foundations.Accrual
import LeaseFlow.KeySpace.RentAccrual
