import Dossier.Config.Types
import Dossier.Text.Words
import Dossier.Toml.Document
import Dossier.Unicode.Printable

/-!
# Configuration files

A configuration file is read, brought into its normal form and checked.  The normal form shortens an
overlap that is not below its window, and drops a token for administrators that is blank.
-/

namespace Dossier

/-- What can be wrong with a configuration. -/
inductive ConfigFault where
  | dsnBlank
  | noConnections
  | noDimensions
  | apiKeyBlank
  | noWindow
  | noAttempts
  | noSearchDepth
  | noTopK
  | candidatesBelowTopK
  | dedupOutOfRange
  | noSourcesPerRecord
  | noStaleDays
  | mediumAboveHigh
  | noBatch
deriving DecidableEq

/-- The wording of a fault. -/
def ConfigFault.message : ConfigFault → String
  | dsnBlank => "storage.sqlite.dsn must be non-empty."
  | noConnections => "storage.sqlite.pool_max_conns must be greater than zero."
  | noDimensions => "providers.embedding.dimensions must be greater than zero."
  | apiKeyBlank => "Provider embedding api_key must be non-empty."
  | noWindow => "chunking.window_tokens must be greater than zero."
  | noAttempts => "embedder.max_attempts must be greater than zero."
  | noSearchDepth => "search.lexical_k and search.vector_k must be greater than zero."
  | noTopK => "evidence.top_k must be greater than zero."
  | candidatesBelowTopK => "evidence.candidate_k must be greater than or equal to evidence.top_k."
  | dedupOutOfRange => "evidence.dedup_sim_threshold must be in the range 0.0-1.0."
  | noSourcesPerRecord => "evidence.max_sources_per_record must be greater than zero."
  | noStaleDays => "evidence.stale_after_days must be greater than zero."
  | mediumAboveHigh => "evidence.medium_confidence must not exceed evidence.high_confidence."
  | noBatch => "reindex.batch_size must be greater than zero."

namespace Config

/-- Is a threshold a number from zero to one? -/
def isRatio (x : Single) : Bool := x.isFinite && Binary.zero.le x && x.le Single.one

/-- The checks in the order in which they are made, each with whether it fails. -/
def checks (cfg : Config) : List (ConfigFault × Bool) :=
  [ (.dsnBlank, Text.isBlankText cfg.store.dsn),
    (.noConnections, cfg.store.maxConnections == 0),
    (.noDimensions, cfg.embedding.dimensions == 0),
    (.apiKeyBlank, Text.isBlankText cfg.embedding.apiKey),
    (.noWindow, cfg.chunking.windowTokens == 0),
    (.noAttempts, cfg.embedder.maxAttempts == 0),
    (.noSearchDepth, cfg.search.lexicalK == 0 || cfg.search.vectorK == 0),
    (.noTopK, cfg.evidence.topK == 0),
    (.candidatesBelowTopK, decide (cfg.evidence.candidateK < cfg.evidence.topK)),
    (.dedupOutOfRange, !isRatio cfg.evidence.dedupThreshold),
    (.noSourcesPerRecord, cfg.evidence.maxSourcesPerRecord == 0),
    (.noStaleDays, decide (cfg.evidence.staleAfterDays ≤ 0)),
    (.mediumAboveHigh, cfg.evidence.highConfidence.lt cfg.evidence.mediumConfidence),
    (.noBatch, cfg.reindex.batchSize == 0) ]

/-- The first fault of a configuration. -/
def fault? (cfg : Config) : Option ConfigFault := (cfg.checks.find? (·.2)).map (·.1)

/-- The chunking with an overlap below its window. -/
def normalChunking (c : ChunkingConfig) : ChunkingConfig :=
  if 0 < c.windowTokens ∧ c.windowTokens ≤ c.overlapTokens then
    { c with overlapTokens := c.windowTokens - 1 }
  else c

/-- The configuration in its normal form. -/
def normal (cfg : Config) : Config :=
  { cfg with
    chunking := normalChunking cfg.chunking
    security := { cfg.security with
      adminAuthToken := cfg.security.adminAuthToken.filter fun t => !Text.isBlankText t } }

/-- Why a configuration file is of no use. -/
inductive LoadError where
  | unreadable (path : String)
  | malformed (path : String)
  | invalid (fault : ConfigFault)
deriving DecidableEq

/-- A character of a path as it is shown: those that cannot be shown by themselves, quotes and
backslashes are escaped. -/
def shownChar (c : Char) : String :=
  if c = '"' then "\\\""
  else if c = '\'' then "\\'"
  else if c = '\\' then "\\\\"
  else if c = '\n' then "\\n"
  else if c = '\r' then "\\r"
  else if c = '\t' then "\\t"
  else if c.toNat = 0 then "\\0"
  else if Unicode.isPrintable c then c.toString
  else "\\u\x7b" ++ String.ofList (Nat.toDigits 16 c.toNat) ++ "\x7d"

/-- A path between quotes. -/
def shownPath (path : String) : String := "\"" ++ String.join (path.toList.map shownChar) ++ "\""

/-- The wording of a failure to load a configuration. -/
def LoadError.message : LoadError → String
  | unreadable path => "Failed to read config file at " ++ shownPath path ++ "."
  | malformed path => "Failed to parse config file at " ++ shownPath path ++ "."
  | invalid fault => fault.message

/-- The configuration that the text of a file stands for. -/
def parse (path text : String) : Except LoadError Config :=
  match (Toml.parse text).bind ofJson with
  | none => .error (.malformed path)
  | some cfg =>
    match cfg.normal.fault? with
    | some fault => .error (.invalid fault)
    | none => .ok cfg.normal

/-- The configuration of a file whose text is given, if it can be read. -/
def load (path : String) (text : Option String) : Except LoadError Config :=
  match text with
  | none => .error (.unreadable path)
  | some text => parse path text

end Config

end Dossier
