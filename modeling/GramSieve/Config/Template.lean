namespace GramSieve.Config

/-!
# A configuration to start from

`template` writes out every setting with its default, and says what it is for.
-/

/-- A configuration file with all defaults. -/
def template : String :=
  "# ngram_regex configuration
# Generated template - customize as needed

[regex]
# Length of the indexed n-grams
gram_size = 3

# Widest character class expanded into separate n-grams
max_expand = 4

# Bound on automaton states traced while extracting n-grams
# 0 accelerates only plain literal sequences
max_states_traced = 10000

# Bound on states when determinizing a regex
max_determinized_states = 20000

# Bound on distinct n-grams extracted from one regex
max_ngrams_extracted = 100

# Bound on term clauses in the n-gram query
max_ngram_clauses = 1024

case_sensitive = false

# Lowercasing rules for case-insensitive search: root, tr, az, ga, el, ...
locale = \"root\"

# Fail instead of scanning every file when a regex cannot be accelerated
reject_unaccelerated = false

# Time budget for rechecking candidates in milliseconds (0 = unbounded)
timeout_ms = 0

[index]
# Patterns to exclude from indexing
exclude_patterns = [
    \"**/node_modules/**\",
    \"**/target/**\",
    \"**/.git/**\",
    \"**/build/**\",
    \"**/dist/**\",
    \"**/__pycache__/**\",
    \"**/venv/**\",
    \"**/.venv/**\",
]

# Maximum file size to index in bytes (default: 10MB)
max_file_size = 10485760

# Shards are searched in parallel
shards = 4
max_docs_per_segment = 10000

# Set to false to always scan every file
build_ngrams = true
"

end GramSieve.Config
