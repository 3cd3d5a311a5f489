import LotterySlip.Main
import LotterySlip.Sample
import LotterySlip.Proofs.Decimal.Rounding
import LotterySlip.Proofs.Decimal.Value
import LotterySlip.Proofs.Totals
import LotterySlip.Proofs.Decimal.Text
import LotterySlip.Proofs.Text.Blank
import LotterySlip.Proofs.Text.Fold
import LotterySlip.Proofs.Alias.Index
import LotterySlip.Proofs.Alias.Search
import LotterySlip.Proofs.Alias.Literal
import LotterySlip.Proofs.Alias.Longest
import LotterySlip.Proofs.Alias.Shuffled
import LotterySlip.Proofs.Alias.Genuine
import LotterySlip.Proofs.Decimal.Normalize
import LotterySlip.Proofs.Formatted.Header
import LotterySlip.Proofs.Formatted.Line
import LotterySlip.Proofs.Formatted.Shipped
import LotterySlip.Proofs.Isolation
import LotterySlip.Proofs.Decimal.Exact
import LotterySlip.Proofs.Sums
import LotterySlip.Proofs.Reordering
import LotterySlip.Proofs.Decimal.Sign
import LotterySlip.Proofs.Config
import LotterySlip.Proofs.Money
import LotterySlip.Proofs.Table
import LotterySlip.Proofs.Order
import LotterySlip.Proofs.Overrides
import LotterySlip.Proofs.Stations
import LotterySlip.Proofs.Text.Mark
import LotterySlip.Proofs.Text.Spelling
import LotterySlip.Proofs.Spelling.Line
import LotterySlip.Proofs.Formatted.Refusal
import LotterySlip.Proofs.Repricing
import LotterySlip.Proofs.Header.Division
import LotterySlip.Proofs.SingleLine
import LotterySlip.Proofs.Applicability
import LotterySlip.Proofs.Limit
import LotterySlip.Proofs.Strictness
import LotterySlip.Proofs.Document.Survival
import LotterySlip.Proofs.Number.Count
import LotterySlip.Proofs.Sequence
import LotterySlip.Proofs.Header.Grammar
import LotterySlip.Proofs.Header.Vanishing
import LotterySlip.Proofs.Pricing
import LotterySlip.Proofs.Text.NormalForm
import LotterySlip.Proofs.Spelling.Header
import LotterySlip.Proofs.Alias.Declared
import LotterySlip.Proofs.Number.Combination
import LotterySlip.Proofs.Alias.Representation
