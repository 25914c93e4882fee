import IdentSearch.Configuration.Step
import IdentSearch.HumpCache.Step
import IdentSearch.Main
import IdentSearch.Proofs.Hump.Locality
import IdentSearch.Proofs.Alignment.Spread.Optimality
import IdentSearch.Proofs.Alignment.Spread.Least
import IdentSearch.Proofs.Alignment.Regrouping
import IdentSearch.Proofs.Alignment.Greedy.Completeness
import IdentSearch.Proofs.Alignment.Greedy.Assignment
import IdentSearch.Proofs.Cascade.Truthful
import IdentSearch.Proofs.Cascade.WordStart
import IdentSearch.Proofs.Session.Containers
import IdentSearch.Proofs.Session.Punctuation
import IdentSearch.Proofs.Session.Lifecycle
import IdentSearch.Proofs.Session.Typed
import IdentSearch.Proofs.Checked.Session
import IdentSearch.Proofs.HumpCache.Accounts
import IdentSearch.Proofs.Text.Splitting
import IdentSearch.Proofs.Session.Nesting
import IdentSearch.Proofs.Matcher.Marking
import IdentSearch.Proofs.Matcher.Loosening
import IdentSearch.Proofs.Session.Switching
import IdentSearch.Proofs.Options.Entries
import IdentSearch.Proofs.Options.Unknown
import IdentSearch.Proofs.Options.Reading
import IdentSearch.Proofs.Configuration.Precedence
import IdentSearch.Proofs.Configuration.Reporting
import IdentSearch.Proofs.Configuration.Snapshot
import IdentSearch.Proofs.Match.Symmetry
import IdentSearch.Proofs.Session.WordOrder
import IdentSearch.Proofs.Text.Words
import IdentSearch.Proofs.Hump.Refinement
import IdentSearch.Proofs.Hump.Segmenters
import IdentSearch.Proofs.Similarity.Recurrence
import IdentSearch.Proofs.Similarity.Table
import IdentSearch.Proofs.Similarity.Shortcuts
import IdentSearch.Proofs.Ranking.Grouping
import IdentSearch.Proofs.Span.Canonical
import IdentSearch.Proofs.Session.Views
import IdentSearch.Proofs.Ranking.Highlighting
import IdentSearch.Proofs.Session.Highlighting
import IdentSearch.Proofs.Options.RoundTrip
import IdentSearch.Proofs.Text.Comparison
import IdentSearch.Proofs.Text.Rejoining
import IdentSearch.Proofs.Json.Reading
import IdentSearch.Proofs.Json.RoundTrip
import IdentSearch.Proofs.CommandLine.Shown
import IdentSearch.Proofs.Text.Lines
import IdentSearch.Proofs.CommandLine.Overrides
import IdentSearch.Proofs.CommandLine.Ranking
