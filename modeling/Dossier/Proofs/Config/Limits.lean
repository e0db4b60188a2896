import Dossier.Proofs.Config.Valid
import Dossier.Proofs.Number.Value

/-!
# What an accepted configuration guarantees

The checks of a configuration compare numbers, and a comparison with a NaN fails whatever it is made
for.  A threshold for near duplicates is checked to be finite, so it is a number from zero to one.
The two bars of confidence are only compared with each other: they are in order unless one of them
is a NaN.  An age after which sources are stale is positive, but as a number of seconds it need not
be an integer of 64 bits.
-/

namespace Dossier

/-- An integer that is read lies below its bound. -/
lemma Json.lt_of_asInt64 {n : ℤ} {j : Json} (h : j.asInt64 = some n) : n < 2 ^ 63 := by
  unfold asInt64 at h
  split at h
  · split at h
    · rename_i hbounds
      cases h
      exact hbounds.2
    · cases h
  · cases h

namespace Config

variable {cfg : Config}

/-! ### Reading -/

/-- The age of stale sources is read as an integer of 64 bits. -/
lemma staleAfterDays_lt_of_readEvidence {j : Json} {evidence : EvidenceConfig}
    (h : readEvidence j = some evidence) : evidence.staleAfterDays < 2 ^ 63 := by
  unfold readEvidence at h
  obtain ⟨slots, -, h⟩ := Option.bind_eq_some_iff.mp h
  split at h
  · obtain ⟨top, -, h⟩ := Option.bind_eq_some_iff.mp h
    obtain ⟨candidates, -, h⟩ := Option.bind_eq_some_iff.mp h
    obtain ⟨dedup, -, h⟩ := Option.bind_eq_some_iff.mp h
    obtain ⟨perRecord, -, h⟩ := Option.bind_eq_some_iff.mp h
    obtain ⟨stale, hstale, h⟩ := Option.bind_eq_some_iff.mp h
    obtain ⟨high, -, h⟩ := Option.bind_eq_some_iff.mp h
    obtain ⟨medium, -, h⟩ := Option.bind_eq_some_iff.mp h
    obtain ⟨snippet, -, h⟩ := Option.bind_eq_some_iff.mp h
    cases h
    exact Json.Slot.of_orElse (P := fun n => n < 2 ^ 63) (fun _ _ => Json.lt_of_asInt64) (by decide)
      hstale
  · cases h

/-- The age of stale sources of a configuration is read as an integer of 64 bits. -/
lemma staleAfterDays_lt_of_ofJson {j : Json} (h : ofJson j = some cfg) :
    cfg.evidence.staleAfterDays < 2 ^ 63 := by
  unfold ofJson at h
  obtain ⟨slots, -, h⟩ := Option.bind_eq_some_iff.mp h
  split at h
  · obtain ⟨service, -, h⟩ := Option.bind_eq_some_iff.mp h
    obtain ⟨store, -, h⟩ := Option.bind_eq_some_iff.mp h
    obtain ⟨embedding, -, h⟩ := Option.bind_eq_some_iff.mp h
    obtain ⟨chunking, -, h⟩ := Option.bind_eq_some_iff.mp h
    obtain ⟨embedder, -, h⟩ := Option.bind_eq_some_iff.mp h
    obtain ⟨search, -, h⟩ := Option.bind_eq_some_iff.mp h
    obtain ⟨evidence, hevidence, h⟩ := Option.bind_eq_some_iff.mp h
    obtain ⟨reindex, -, h⟩ := Option.bind_eq_some_iff.mp h
    obtain ⟨security, -, h⟩ := Option.bind_eq_some_iff.mp h
    cases h
    exact Json.Slot.of_orElse (P := fun evidence => evidence.staleAfterDays < 2 ^ 63)
      (fun _ _ => staleAfterDays_lt_of_readEvidence) (by decide) hevidence
  · cases h

/-! ### Checking -/

/-- A threshold that is a ratio has a value from zero to one. -/
lemma isRatio_iff {x : Single} :
    isRatio x = true ↔ ∃ q, x.value? = some (ExtendedRat.of q) ∧ 0 ≤ q ∧ q ≤ 1 := by
  unfold isRatio
  rw [Bool.and_eq_true, Bool.and_eq_true]
  constructor
  · rintro ⟨⟨-, hlow⟩, hhigh⟩
    obtain ⟨zero, p, hzero, hp, hlow⟩ := (Binary.le_iff_value Single.limit_pos).mp hlow
    have hhigh := (Binary.le_iff_of_value Single.limit_pos hp Single.value_one).mp hhigh
    rw [Single.value_zero] at hzero
    cases hzero
    obtain ⟨q, rfl, hbounds⟩ := Binary.exists_ratio_of_between hlow hhigh
    exact ⟨q, hp, hbounds⟩
  · rintro ⟨q, hq, hlow, hhigh⟩
    refine ⟨⟨?_, ?_⟩, ?_⟩
    · cases x with
      | nan s => cases hq
      | infinite s => cases s <;> simp [Binary.value?] at hq
      | finite s r => rfl
    · exact (Binary.le_iff_of_value Single.limit_pos Single.value_zero hq).mpr
        (ExtendedRat.of_le_of.mpr hlow)
    · exact (Binary.le_iff_of_value Single.limit_pos hq Single.value_one).mpr
        (ExtendedRat.of_le_of.mpr hhigh)

/-- What an accepted configuration guarantees. -/
structure InLimits (cfg : Config) : Prop where
  overlap : cfg.chunking.overlapTokens < cfg.chunking.windowTokens
  dedup : ∃ q, cfg.evidence.dedupThreshold.value? = some (ExtendedRat.of q) ∧ 0 ≤ q ∧ q ≤ 1
  top : 1 ≤ cfg.evidence.topK
  candidates : cfg.evidence.topK ≤ cfg.evidence.candidateK
  connections : 1 ≤ cfg.store.maxConnections
  dimensions : 1 ≤ cfg.embedding.dimensions
  attempts : 1 ≤ cfg.embedder.maxAttempts
  lexical : 1 ≤ cfg.search.lexicalK
  vector : 1 ≤ cfg.search.vectorK
  perRecord : 1 ≤ cfg.evidence.maxSourcesPerRecord
  batch : 1 ≤ cfg.reindex.batchSize
  stale : 0 < cfg.evidence.staleAfterDays ∧ cfg.evidence.staleAfterDays < 2 ^ 63
  bars : ∀ p q, cfg.evidence.mediumConfidence.value? = some p →
    cfg.evidence.highConfidence.value? = some q → p ≤ q

/-- The normal form has an overlap below its window, if there is a window. -/
lemma overlap_lt_window {c : ChunkingConfig} (h : 1 ≤ (normalChunking c).windowTokens) :
    (normalChunking c).overlapTokens < (normalChunking c).windowTokens := by
  unfold normalChunking at h ⊢
  split
  · rename_i hlong
    exact Nat.sub_lt hlong.1 Nat.one_pos
  · rename_i hshort
    rw [if_neg hshort] at h
    omega

/-- A configuration that is read from the text of a file is within the limits. -/
lemma inLimits_of_parse {path text : String} (h : parse path text = .ok cfg) : cfg.InLimits := by
  have hvalid := valid_of_parse h
  obtain ⟨j, read, hjson, rfl, -⟩ := exists_read_of_parse h
  have hcandidates : (.candidatesBelowTopK, decide (read.normal.evidence.candidateK <
      read.normal.evidence.topK)) ∈ read.normal.checks := by simp [checks]
  have hdedup : (.dedupOutOfRange, !isRatio read.normal.evidence.dedupThreshold) ∈
      read.normal.checks := by simp [checks]
  have hdepth : (.noSearchDepth, read.normal.search.lexicalK == 0 ||
      read.normal.search.vectorK == 0) ∈ read.normal.checks := by simp [checks]
  have hstale : (.noStaleDays, decide (read.normal.evidence.staleAfterDays ≤ 0)) ∈
      read.normal.checks := by simp [checks]
  have hbars : (.mediumAboveHigh, read.normal.evidence.highConfidence.lt
      read.normal.evidence.mediumConfidence) ∈ read.normal.checks := by simp [checks]
  have hwindow : 1 ≤ read.normal.chunking.windowTokens :=
    hvalid.pos_of_check .noWindow (by simp [checks])
  have hratio : isRatio read.normal.evidence.dedupThreshold = true := by
    simpa using hvalid.passes hdedup
  have hword : read.evidence.staleAfterDays < 2 ^ 63 := staleAfterDays_lt_of_ofJson hjson
  have hboth := hvalid.passes hdepth
  rw [Bool.or_eq_false_iff, beq_eq_false_iff_ne, beq_eq_false_iff_ne] at hboth
  exact
    { overlap := overlap_lt_window hwindow
      dedup := isRatio_iff.mp hratio
      top := hvalid.pos_of_check .noTopK (by simp [checks])
      candidates := Nat.not_lt.mp (of_decide_eq_false (hvalid.passes hcandidates))
      connections := hvalid.pos_of_check .noConnections (by simp [checks])
      dimensions := hvalid.pos_of_check .noDimensions (by simp [checks])
      attempts := hvalid.pos_of_check .noAttempts (by simp [checks])
      lexical := Nat.pos_of_ne_zero hboth.1
      vector := Nat.pos_of_ne_zero hboth.2
      perRecord := hvalid.maxSourcesPerRecord_pos
      batch := hvalid.pos_of_check .noBatch (by simp [checks])
      stale := ⟨Int.not_le.mp (of_decide_eq_false (hvalid.passes hstale)), hword⟩
      bars := by
        intro p q hp hq
        have hnot := Bool.eq_false_iff.mp (hvalid.passes hbars)
        rw [ne_eq, Binary.lt_iff_of_value Single.limit_pos hq hp, not_lt] at hnot
        exact hnot }

namespace InLimits

/-- The bars of confidence are in order unless one of them is a NaN. -/
lemma bars_ordered_iff (h : cfg.InLimits) :
    (∃ p q, cfg.evidence.mediumConfidence.value? = some p ∧
      cfg.evidence.highConfidence.value? = some q ∧ p ≤ q) ↔
    cfg.evidence.mediumConfidence.isNaN = false ∧ cfg.evidence.highConfidence.isNaN = false := by
  constructor
  · rintro ⟨p, q, hp, hq, -⟩
    exact ⟨Binary.exists_value_iff.mp ⟨p, hp⟩, Binary.exists_value_iff.mp ⟨q, hq⟩⟩
  · rintro ⟨hmedium, hhigh⟩
    obtain ⟨p, hp⟩ := Binary.exists_value_iff.mpr hmedium
    obtain ⟨q, hq⟩ := Binary.exists_value_iff.mpr hhigh
    exact ⟨p, q, hp, hq, h.bars p q hp hq⟩

/-- A score that reaches the bar of high confidence reaches that of medium confidence, unless the
latter is a NaN and the former is not. -/
lemma reaches_iff (h : cfg.InLimits) :
    (∀ score : Single, cfg.evidence.highConfidence.le score = true →
      cfg.evidence.mediumConfidence.le score = true) ↔
    cfg.evidence.highConfidence.isNaN = true ∨ cfg.evidence.mediumConfidence.isNaN = false := by
  constructor
  · intro hreach
    rcases hhigh : cfg.evidence.highConfidence.isNaN with _ | _
    · right
      -- the bar of high confidence is a score that reaches it
      obtain ⟨q, hq⟩ := Binary.exists_value_iff.mpr hhigh
      have hself := (Binary.le_iff_of_value Single.limit_pos hq hq).mpr le_rfl
      obtain ⟨p, -, hp, -⟩ := (Binary.le_iff_value Single.limit_pos).mp (hreach _ hself)
      exact Binary.exists_value_iff.mp ⟨p, hp⟩
    · exact .inl rfl
  · rintro hnan score hscore
    obtain ⟨q, t, hq, ht, hqt⟩ := (Binary.le_iff_value Single.limit_pos).mp hscore
    have hnumber := Binary.exists_value_iff.mp ⟨q, hq⟩
    have hmedium := hnan.resolve_left (by rw [hnumber]; exact Bool.false_ne_true)
    obtain ⟨p, hp⟩ := Binary.exists_value_iff.mpr hmedium
    exact (Binary.le_iff_of_value Single.limit_pos hp ht).mpr ((h.bars p q hp hq).trans hqt)

end InLimits

/-- An accepted configuration is within its limits.  Its bars of confidence are in order unless one
of them is a NaN; a score that reaches the high bar reaches the medium one unless this one is a NaN
and the high one is not; and the age of stale sources in seconds is positive, and an integer of 64
bits up to a number of days that nothing checks. -/
theorem limits_of_parse {path text : String} (h : parse path text = .ok cfg) :
    cfg.InLimits ∧
    ((∃ p q, cfg.evidence.mediumConfidence.value? = some p ∧
        cfg.evidence.highConfidence.value? = some q ∧ p ≤ q) ↔
      cfg.evidence.mediumConfidence.isNaN = false ∧ cfg.evidence.highConfidence.isNaN = false) ∧
    ((∀ score : Single, cfg.evidence.highConfidence.le score = true →
        cfg.evidence.mediumConfidence.le score = true) ↔
      cfg.evidence.highConfidence.isNaN = true ∨ cfg.evidence.mediumConfidence.isNaN = false) ∧
    0 < cfg.evidence.staleAfterDays * 86400 ∧
    (cfg.evidence.staleAfterDays * 86400 < 2 ^ 63 ↔
      cfg.evidence.staleAfterDays ≤ 106751991167300) := by
  have hlimits := inLimits_of_parse h
  have hstale := hlimits.stale.1
  exact ⟨hlimits, hlimits.bars_ordered_iff, hlimits.reaches_iff, by omega, by omega⟩

/-! ### Texts -/

/-- The value of a document, from its characters. -/
lemma parse_of_toList {text : String} {cs : List Char} (h : text.toList = cs) :
    Toml.parse text =
      let cs := if cs.head? = some '\ufeff' then cs.drop 1 else cs
      (Toml.readStatements (cs.length + 2) {} cs).map fun s => .obj (Toml.fieldsToJson s.root) := by
  subst h
  rfl

/-- What a function says of the configuration that a value stands for, if that passes all checks. -/
def accepted {α : Type} (f : Config → α) (j : Json) : Option α :=
  (ofJson j).bind fun cfg => if cfg.normal.fault?.isNone then some (f cfg.normal) else none

/-- A configuration that passes all checks is accepted. -/
lemma exists_of_accepted {α : Type} (path : String) {text : String} {f : Config → α} {a : α}
    (h : (Toml.parse text).bind (accepted f) = some a) :
    ∃ cfg, parse path text = .ok cfg ∧ f cfg = a := by
  obtain ⟨j, hj, h⟩ := Option.bind_eq_some_iff.mp h
  obtain ⟨read, hread, h⟩ := Option.bind_eq_some_iff.mp h
  split at h
  · rename_i hnone
    refine ⟨read.normal, ?_, Option.some.inj h⟩
    unfold parse
    rw [hj, Option.bind_some, hread]
    dsimp only
    rw [Option.isNone_iff_eq_none.mp hnone]
  · cases h

/-- The lines of a configuration with some settings for evidence. -/
def linesWith (evidence : List String) : List String :=
  ["[service]", "http_bind = \"\"", "admin_bind = \"\"", "log_level = \"\"",
    "[storage.sqlite]", "dsn = \"memory\"", "pool_max_conns = 4",
    "[providers.embedding]", "provider_id = \"\"", "api_base = \"\"", "api_key = \"key\"",
    "path = \"\"", "model = \"\"", "dimensions = 16", "timeout_ms = 1000",
    "[evidence]"] ++ evidence

/-- The text of such a configuration. -/
def textWith (evidence : List String) : String := "\n".intercalate (linesWith evidence)

/-- Its characters, line by line. -/
lemma toList_textWith (evidence : List String) :
    (textWith evidence).toList = "\n".toList.intercalate ((linesWith evidence).map String.toList) :=
  String.toList_intercalate

/-- A medium bar below the standard high bar and a week: the configuration is within its limits, and
whatever reaches the high bar reaches the medium one. -/
theorem limits_of_week :
    ∃ cfg, parse "evi.toml" (textWith ["medium_confidence = 0.25", "stale_after_days = 7"]) = .ok cfg ∧
      cfg.InLimits ∧ cfg.evidence.staleAfterDays * 86400 < 2 ^ 63 ∧
      ∀ score : Single, cfg.evidence.highConfidence.le score = true →
        cfg.evidence.mediumConfidence.le score = true := by
  have hread : (Toml.parse (textWith ["medium_confidence = 0.25", "stale_after_days = 7"])).bind
      (accepted fun cfg => (cfg.evidence.mediumConfidence.isNaN, cfg.evidence.staleAfterDays)) =
        some (false, 7) := by
    rw [parse_of_toList (toList_textWith _)]
    decide +kernel
  obtain ⟨cfg, hcfg, hvalues⟩ := exists_of_accepted "evi.toml" hread
  obtain ⟨hmedium, hstale⟩ := Prod.mk.inj hvalues
  obtain ⟨hlimits, -, hreach, -, hseconds⟩ := limits_of_parse hcfg
  refine ⟨cfg, hcfg, hlimits, hseconds.mpr ?_, hreach.mpr (.inr hmedium)⟩
  rw [hstale]
  decide

/-- A medium bar that is a NaN is accepted, and so is an age whose seconds are beyond 64 bits. -/
theorem limits_exceeded :
    (¬ ∀ path text cfg, parse path text = .ok cfg →
      ∃ p q, cfg.evidence.mediumConfidence.value? = some p ∧
        cfg.evidence.highConfidence.value? = some q ∧ p ≤ q) ∧
    ¬ ∀ path text cfg, parse path text = .ok cfg →
      cfg.evidence.staleAfterDays * 86400 < 2 ^ 63 := by
  have hread : (Toml.parse (textWith
      ["medium_confidence = nan", "stale_after_days = 106751991167301"])).bind
        (accepted fun cfg => (cfg.evidence.mediumConfidence, cfg.evidence.staleAfterDays)) =
          some (.nan false, 106751991167301) := by
    rw [parse_of_toList (toList_textWith _)]
    decide +kernel
  obtain ⟨cfg, hcfg, hvalues⟩ := exists_of_accepted "evi.toml" hread
  obtain ⟨hmedium, hstale⟩ := Prod.mk.inj hvalues
  refine ⟨fun h => ?_, fun h => ?_⟩
  · obtain ⟨p, q, hp, -⟩ := h _ _ cfg hcfg
    rw [hmedium] at hp
    cases hp
  · have hfits := h _ _ cfg hcfg
    rw [hstale] at hfits
    exact absurd hfits (by decide)

end Config

end Dossier
