import SmartErpPos.Costing.IssueRuns
import SmartErpPos.Offline.Durability
import SmartErpPos.Ledger.TrialBalance
import SmartErpPos.Offline.LineRemoval
import SmartErpPos.Pos.OrderLineVoids
import SmartErpPos.Offline.ProjectionAgreement
import SmartErpPos.Hr.LeaveCount
import SmartErpPos.Hr.LeaveMath
import SmartErpPos.Lib.CivilDate
import SmartErpPos.Lib.DigitText
import SmartErpPos.Lib.SpanMerge
import SmartErpPos.Hr.PayeProgression
import SmartErpPos.Lib.Brackets
import SmartErpPos.Assets.BookValue
import SmartErpPos.Assets.Depreciation
import SmartErpPos.Ownership.Transfer
import SmartErpPos.Ownership.Register
import SmartErpPos.Purchasing.PoLineMoney
import SmartErpPos.Hr.PayrollClosure
import SmartErpPos.Hr.PayrollInput
import SmartErpPos.Hr.PayrollFigures
import SmartErpPos.Hr.AdvanceRecovery
import SmartErpPos.Hr.Payroll
import SmartErpPos.Hr.Statutory
import SmartErpPos.Hr.JournalAccuracy
import SmartErpPos.Sales.CostClosure
import SmartErpPos.Sales.CostReconciliation
import SmartErpPos.Lib.Passes
import SmartErpPos.Lib.RoundingResidue
import SmartErpPos.Receivables.AgedReceivables
import SmartErpPos.Sales.ProfitShares
import SmartErpPos.Sales.DiscountGate
import SmartErpPos.Ledger.CarryForward
import SmartErpPos.Ledger.YearEndJournal
import SmartErpPos.Purchasing.NetReceived
import SmartErpPos.Products.UomTree
import SmartErpPos.Receivables.OpenItems
import SmartErpPos.Ownership.Dividends
import SmartErpPos.Currency.MoneyAllocation
import SmartErpPos.Sales.TenderAccounts
import SmartErpPos.Tax.ProductLiability
import SmartErpPos.Ledger.JournalBalance
import SmartErpPos.Tax.PriceModes
import SmartErpPos.Treasury.ReceiptRuns
import SmartErpPos.Treasury.WorksheetSteps
import SmartErpPos.Treasury.ReceiptSteps
import SmartErpPos.Treasury.ReceiptBooks
import SmartErpPos.Treasury.ReceiptRows
import SmartErpPos.Treasury.ReceiptLedger
import SmartErpPos.Treasury.DepositWorksheets
import SmartErpPos.Treasury.Receipts
import SmartErpPos.Currency.RevaluationRuns
import SmartErpPos.Currency.Revaluation
import SmartErpPos.Ledger.TextReference
import SmartErpPos.Treasury.DocumentRaceRuns
import SmartErpPos.Treasury.DocumentRaceInvariant
import SmartErpPos.Treasury.DocumentRace
import SmartErpPos.Treasury.Settlements
import SmartErpPos.Treasury.Documents
import SmartErpPos.Returns.CreditNoteRaceRuns
import SmartErpPos.Returns.Documents
import SmartErpPos.Returns.CreditNoteRace
import SmartErpPos.Sales.RevenueBalance
import SmartErpPos.Sales.Checkout
import SmartErpPos.Sales.TenderAllocation
import SmartErpPos.Sales.RevenueJournal
import SmartErpPos.Sales.RefundConsistency
import SmartErpPos.Sales.RefundDocument
import SmartErpPos.Lot.FefoOrder
import SmartErpPos.Lib.SortedDraw
import SmartErpPos.Offline.MirrorRuns
import SmartErpPos.Offline.MirrorBalance
import SmartErpPos.Offline.StockMirror
import SmartErpPos.Lib.Throwing
import SmartErpPos.Assets.RegisterRuns
import SmartErpPos.Assets.Register
import SmartErpPos.Assets.Service
import SmartErpPos.Expenses.StatusRuns
import SmartErpPos.Expenses.StatusJournals
import SmartErpPos.Expenses.Rows
import SmartErpPos.Ledger.OwnJournals
import SmartErpPos.Expenses.Service
import SmartErpPos.Expenses.Repository
import SmartErpPos.CashRegister.CloseRaceRuns
import SmartErpPos.CashRegister.CloseRace
import SmartErpPos.CashRegister.MovementJournals
import SmartErpPos.Ledger.DocumentBalances
import SmartErpPos.CashRegister.Movements
import SmartErpPos.CashRegister.Sessions
import SmartErpPos.Auth.TokenFamilies
import SmartErpPos.Auth.RefreshTokens
import SmartErpPos.Sales.VoidedStock
import SmartErpPos.Lot.OnHand
import SmartErpPos.Sales.SaleStock
import SmartErpPos.Sales.ReturnRaceRuns
import SmartErpPos.Sales.ReturnRaceInvariant
import SmartErpPos.Sales.ReturnRace
import SmartErpPos.Sales.DailyRollup
import SmartErpPos.Sales.ProductNet
import SmartErpPos.Sales.ReturnedItems
import SmartErpPos.Sales.ProductRollup
import SmartErpPos.Sales.Tender
import SmartErpPos.Sales.SaleStore
import SmartErpPos.Ledger.ParkedRuns
import SmartErpPos.Ledger.ParkedJournals
import SmartErpPos.Ledger.JeApproval
import SmartErpPos.Grir.ResidualOnce
import SmartErpPos.Grir.Residual
import SmartErpPos.Grir.OneToOne
import SmartErpPos.Grir.Clearing
import SmartErpPos.Grir.Documents
import SmartErpPos.Lib.GreedyMatching
import SmartErpPos.Lib.SqlText
import SmartErpPos.Transfers.Conservation
import SmartErpPos.Transfers.Creation
import SmartErpPos.Transfers.Stages
import SmartErpPos.Transfers.LineSteps
import SmartErpPos.Transfers.StockMoves
import SmartErpPos.Transfers.Service
import SmartErpPos.Transfers.Repository
import SmartErpPos.Deposits.Liability
import SmartErpPos.Deposits.Journals
import SmartErpPos.Deposits.Rows
import SmartErpPos.Deposits.Service
import SmartErpPos.Pos.ReplayTwice
import SmartErpPos.Pos.CheckFrame
import SmartErpPos.Pos.ReplayFrame
import SmartErpPos.Pos.EventReplayer
import SmartErpPos.Pos.CheckService
import SmartErpPos.Pos.Floor
import SmartErpPos.Tax.PreviewParity
import SmartErpPos.Tax.DocumentTaxService
import SmartErpPos.Tax.DocumentTaxPreview
import SmartErpPos.Tax.TaxCompute
import SmartErpPos.Sales.RefundCharged
import SmartErpPos.Sales.DiscountRoundTrip
import SmartErpPos.Lib.RoundedRat
import SmartErpPos.Sales.SaleDiscounts
import SmartErpPos.Costing.PathAgreement
import SmartErpPos.Costing.CostLayers
import SmartErpPos.Lib.GreedyDraw
import SmartErpPos.Offline.DeliveryOrder
import SmartErpPos.Offline.SyncEngine
import SmartErpPos.Offline.QuantityConservation
import SmartErpPos.Offline.RestaurantOps
import SmartErpPos.Ledger.ProjectionOutbox
import SmartErpPos.Ledger.PeriodProjection
import SmartErpPos.Ledger.Reposting
import SmartErpPos.Ledger.ActivePosting
import SmartErpPos.Ledger.BalanceCache
import SmartErpPos.Ledger.Balances
import SmartErpPos.Ledger.WellFormed
import SmartErpPos.Ledger.Effects
import SmartErpPos.Ledger.AccountingCore
import SmartErpPos.Ledger.Statements
import SmartErpPos.Ledger.NetActive
import SmartErpPos.Ledger.Governance
import SmartErpPos.Ledger.Types
import SmartErpPos.Lot.StatusSafety
import SmartErpPos.Lot.CoupledRuns
import SmartErpPos.Lot.Splitting
import SmartErpPos.Lot.Deduction
import SmartErpPos.Lot.Coupling
import SmartErpPos.Lot.Wiring
import SmartErpPos.Lib.Transition
import SmartErpPos.Lib.KeyedSum
import SmartErpPos.Lot.Service
import SmartErpPos.Lot.Repository
import SmartErpPos.Lot.Rules
import SmartErpPos.Lot.Types
import SmartErpPos.Lib.Fallible
import SmartErpPos.Lib.Numeric
import SmartErpPos.Offline.Compaction
import SmartErpPos.Offline.ClosedChecks
import SmartErpPos.Offline.Selectors
import SmartErpPos.Lib.OrderedMap
