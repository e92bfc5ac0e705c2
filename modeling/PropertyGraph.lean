import PropertyGraph.Collection.Member
import PropertyGraph.Policy.Description
import PropertyGraph.Proofs.Calendar.Spelling
import PropertyGraph.Proofs.Json.ConfigText
import PropertyGraph.Proofs.Json.ConfigWritten
import PropertyGraph.Proofs.Json.ElementText
import PropertyGraph.Proofs.Json.SnapshotText
import PropertyGraph.Proofs.Json.TaggedSpellings
import PropertyGraph.Proofs.Json.ValueText
import PropertyGraph.Proofs.Policy.Conjunction
import PropertyGraph.Proofs.Policy.Meaning
import PropertyGraph.Proofs.Policy.PointOfView
import PropertyGraph.Proofs.Policy.Reversal
import PropertyGraph.Proofs.Snapshot.Distinction
import PropertyGraph.Proofs.Snapshot.Identity
import PropertyGraph.Proofs.Snapshot.Matching
import PropertyGraph.Proofs.Store.Filtering
import PropertyGraph.Proofs.Store.Interleaving
import PropertyGraph.Proofs.Store.Journal
import PropertyGraph.Proofs.Store.Numbering
import PropertyGraph.Proofs.Store.Reading
import PropertyGraph.Proofs.Store.Refusal
import PropertyGraph.Proofs.Value.Quotation
import PropertyGraph.Sequence
import PropertyGraph.Store.Session
import PropertyGraph.Value.Clock
import PropertyGraph.Value.Conversion
import PropertyGraph.Value.Text
import PropertyGraph.Proofs.Policy.Replacement
import PropertyGraph.Proofs.Snapshot.LastText
import PropertyGraph.Proofs.Sequence.Counting
import PropertyGraph.Proofs.Sequence.Searching
import PropertyGraph.Proofs.Value.Agreement
import PropertyGraph.Proofs.Value.FractionalPart
import PropertyGraph.Proofs.Collection.Membership
