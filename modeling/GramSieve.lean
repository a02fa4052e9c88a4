import GramSieve.Pattern.Tree
import GramSieve.Pattern.Fault
import GramSieve.Unicode.Category
import GramSieve.Unicode.Script
import GramSieve.Unicode.Property
import GramSieve.Unicode.Age
import GramSieve.Unicode.Segmentation
import GramSieve.Unicode.CaseShift
import GramSieve.Unicode.PropertyName
import GramSieve.Pattern.Escape
import GramSieve.Pattern.Reader
import GramSieve.Regex.Build
import GramSieve.Regex.Resolve
import GramSieve.Regex.Compile
import GramSieve.Text.Locale
import GramSieve.Automaton.Dfa
import GramSieve.Files.ByteSize
import GramSieve.Files.Binary
import GramSieve.Gram.Analyzer
import GramSieve.Formula.Basic
import GramSieve.Formula.Simplify
import GramSieve.Formula.Disjunction
import GramSieve.Formula.Render
import GramSieve.Query.Basic
import GramSieve.Query.Order
import GramSieve.Gram.Requirement
import GramSieve.Search.Plan
import GramSieve.Search.Recheck
import GramSieve.Search.Deadline
import GramSieve.Config.Settings
import GramSieve.Index.Basic
import GramSieve.Files.Discovery
import GramSieve.Files.Content
import GramSieve.CommandLine.Run
import GramSieve.Main
import GramSieve.Proofs.Formula.Disjunction
import GramSieve.Proofs.Automaton.Subset
import GramSieve.Proofs.Automaton.Transitions
import GramSieve.Proofs.Gram.Components
import GramSieve.Proofs.Gram.Unfolding
import GramSieve.Proofs.Gram.Necessity
import GramSieve.Proofs.Text.Folding
import GramSieve.Proofs.CodeSet
import GramSieve.Proofs.Pattern.Runs
import GramSieve.Proofs.Pattern.FoldedRange
import GramSieve.Proofs.Regex.Literal
import GramSieve.Proofs.Regex.Branches
import GramSieve.Proofs.Regex.WellFormed
import GramSieve.Proofs.Regex.Unanchored
import GramSieve.Proofs.Regex.Escaping
import GramSieve.Proofs.Regex.Concrete
import GramSieve.Proofs.Regex.Building
import GramSieve.Proofs.Regex.Choice
import GramSieve.Proofs.Text.FoldedLanguage
import GramSieve.Proofs.Regex.FoldedPattern
import GramSieve.Proofs.Text.PairRules
import GramSieve.Proofs.Search.Baseline
import GramSieve.Proofs.Search.Literal
import GramSieve.Proofs.Query.Meaning
import GramSieve.Proofs.Index.Postings
import GramSieve.Proofs.Index.History
import GramSieve.Proofs.Index.Segment
import GramSieve.Proofs.Search.Recheck
import GramSieve.Proofs.Search.Plan
import GramSieve.Proofs.Search.Clock
import GramSieve.Proofs.Search.Execution
import GramSieve.Proofs.Index.Placement
import GramSieve.Proofs.Index.Search
import GramSieve.Proofs.Index.MixedCase
import GramSieve.Proofs.Index.Timeout
import GramSieve.Proofs.Index.Addresses
import GramSieve.Proofs.Search.Emptiness
import GramSieve.Proofs.Search.Counters
import GramSieve.Proofs.Formula.Order
import GramSieve.Proofs.Formula.Recursion
import GramSieve.Proofs.Formula.LeafPaths
import GramSieve.Proofs.Formula.NormalForm
import GramSieve.Proofs.Gram.PathRequirement
import GramSieve.Proofs.Gram.Faithfulness
import GramSieve.Proofs.Gram.Literal
import GramSieve.Proofs.Automaton.StateBound
import GramSieve.Proofs.Gram.GramLimit
import GramSieve.Proofs.Index.Precision
import GramSieve.Proofs.Index.Queries
import GramSieve.Proofs.Search.HighWater
