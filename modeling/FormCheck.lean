import FormCheck.Proofs.Acceptance
import FormCheck.Proofs.Accounting
import FormCheck.Proofs.Attributes
import FormCheck.Proofs.Edits
import FormCheck.Proofs.Grammar
import FormCheck.Proofs.Independence
import FormCheck.Proofs.Inlining
import FormCheck.Proofs.Judgement
import FormCheck.Proofs.Loading
import FormCheck.Proofs.Provenance
import FormCheck.Proofs.Remarks
import FormCheck.Proofs.RoundTrip
import FormCheck.Proofs.Submissions
import FormCheck.Proofs.Wording
import FormCheck.RuleBook.Folder
import FormCheck.RuleBook.Shelf
import FormCheck.Proofs.Today
import FormCheck.Proofs.WorkingDays
import FormCheck.Proofs.Additions
import FormCheck.Proofs.Omissions
import FormCheck.Proofs.Layers
import FormCheck.Proofs.Digitless
import FormCheck.Proofs.Rerendering
import FormCheck.Proofs.SinglePass
import FormCheck.Proofs.Tightening
import FormCheck.Proofs.Columns
import FormCheck.Proofs.MessageTokens
import FormCheck.Proofs.SentFailures
import FormCheck.Proofs.StandardDates
import FormCheck.Proofs.EarliestDates
import FormCheck.Proofs.LooseDates
import FormCheck.Proofs.LeadingDates
import FormCheck.Proofs.LiteralDates
import FormCheck.Proofs.Trimming
import FormCheck.Proofs.NearestDoubles
import FormCheck.Proofs.WholeNumbers
import FormCheck.Proofs.Bytes
import FormCheck.Proofs.LengthUnits
import FormCheck.Proofs.InertAttributes
import FormCheck.Proofs.Holidays
import FormCheck.Proofs.Weekends
import FormCheck.Proofs.Chains
import FormCheck.Proofs.Shelves
import FormCheck.Proofs.Choices
import FormCheck.Proofs.FormNames
import FormCheck.Proofs.Matching
