import VirtualRecords.Main
import VirtualRecords.Service.Operation
import VirtualRecords.Proofs.Criteria.Meaning
import VirtualRecords.Proofs.CreationOrder
import VirtualRecords.Proofs.Store.Members
import VirtualRecords.Proofs.Service.Run
import VirtualRecords.Proofs.Service.Plans
import VirtualRecords.Proofs.Service.Isolation
import VirtualRecords.Proofs.Schema.Judgement
import VirtualRecords.Proofs.Service.Validity
import VirtualRecords.Proofs.Paging
import VirtualRecords.Proofs.Service.Paging
import VirtualRecords.Proofs.NextPage
import VirtualRecords.Proofs.Store.History
import VirtualRecords.Proofs.Criteria.SqlText
import VirtualRecords.Proofs.QueryText.Flat
import VirtualRecords.Proofs.Criteria.Faults
import VirtualRecords.Proofs.Service.Refusals
import VirtualRecords.Proofs.QueryText.Brackets
import VirtualRecords.Proofs.QueryText.Merging
import VirtualRecords.Proofs.QueryText.Quoting
import VirtualRecords.Proofs.QueryText.Accepted
import VirtualRecords.Proofs.Formats
import VirtualRecords.Proofs.Text.LikeScan
import VirtualRecords.Proofs.RecordOrder
import VirtualRecords.Proofs.Criteria.FirstFault
import VirtualRecords.Proofs.Schema.Acceptance
import VirtualRecords.Proofs.Criteria.Canonical
import VirtualRecords.Proofs.Schema.Registration
import VirtualRecords.Proofs.Service.Findable
import VirtualRecords.Proofs.QueryText.Extraction
import VirtualRecords.Proofs.QueryText.Nested
import VirtualRecords.Proofs.QueryText.Spaced
import VirtualRecords.Proofs.QueryText.BrokenLine
import VirtualRecords.Proofs.Service.Counting
import VirtualRecords.Proofs.Service.Listing
import VirtualRecords.Proofs.Criteria.Trichotomy
import VirtualRecords.Proofs.Criteria.Answers
import VirtualRecords.Proofs.Number.Rounding
import VirtualRecords.Proofs.Criteria.Integers
import VirtualRecords.Proofs.Criteria.TextPatterns
import VirtualRecords.Proofs.Criteria.Membership
import VirtualRecords.Proofs.Schema.Coercion
import VirtualRecords.Proofs.Criteria.Carried
import VirtualRecords.Proofs.QueryText.Appending
import VirtualRecords.Proofs.Service.Updating
import VirtualRecords.Proofs.Schema.Feedback
import VirtualRecords.Proofs.Schema.Addressing
import VirtualRecords.Proofs.Text.Layout
import VirtualRecords.Proofs.Calendar.Layout
import VirtualRecords.Proofs.Criteria.Dates
import VirtualRecords.Proofs.Service.SortedNumbers
import VirtualRecords.Proofs.Criteria.ListText
import VirtualRecords.Proofs.Criteria.FlatConditions
import VirtualRecords.Proofs.CommandLine.RecordFile
import VirtualRecords.Proofs.Schema.Loading
import VirtualRecords.Proofs.QueryText.Rounds
import VirtualRecords.Proofs.Schema.DisplayOrder
import VirtualRecords.Proofs.Schema.Declaration
