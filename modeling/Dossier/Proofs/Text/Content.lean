import Mathlib.Data.List.Induction
import Dossier.Proofs.Text.Words
import Dossier.Text.Content

/-!
# What becomes of a text that is made searchable

Entities are decoded one kind after the other, each in a pass over the whole text.  All these passes
come to a single one, which decodes what stands in the text and never looks at what it has written
(`decodeEntities_eq`): no character that an entity stands for is part of the name of a later one, so
no pass completes a name, and names do not overlap.  The words of the decoded text in Normalization
Form KC are joined by single spaces, which leaves the words as they are (`pieces_intercalate`).
-/

namespace Dossier.Text

open Unicode

variable {table : List (List Char × Char)} {e : List Char × Char} {c : Char}
  {name rest cs : List Char} {ws : List (List Char)}

/-! ### One pass for all entities -/

/-- The first entity of a table with whose name a text begins. -/
def entityAt? (table : List (List Char × Char)) (cs : List Char) : Option (List Char × Char) :=
  table.find? (·.1.isPrefixOf cs)

/-- A text with the entities of a table decoded in one pass from left to right: where the name of an
entity stands its character is written, and the pass goes on behind the name. -/
def decodeOnce (table : List (List Char × Char)) : List Char → List Char
  | [] => []
  | c :: rest =>
    match entityAt? table (c :: rest) with
    | some e => e.2 :: decodeOnce table (rest.drop (e.1.length - 1))
    | none => c :: decodeOnce table rest
termination_by cs => cs.length
decreasing_by all_goals simp only [List.length_drop, List.length_cons]; omega

/-- A table whose entities can be decoded one after the other: each name begins with an ampersand
and has no other, and no character that an entity stands for is in the name of a later one. -/
structure InOrder (table : List (List Char × Char)) : Prop where
  named : ∀ e ∈ table, e.1.head? = some '&' ∧ '&' ∉ e.1.tail
  unfinished : table.Pairwise fun earlier later => earlier.2 ∉ later.1

/-- The name of an entity in a table is an ampersand and characters that are none. -/
lemma InOrder.exists_name (h : InOrder table) (he : e ∈ table) :
    ∃ name, e.1 = '&' :: name ∧ '&' ∉ name := by
  obtain ⟨hhead, htail⟩ := h.named e he
  obtain ⟨name, hname⟩ := List.head?_eq_some_iff.mp hhead
  rw [hname] at htail
  exact ⟨name, hname, htail⟩

/-- The table of a pass can be decoded without its last entity. -/
lemma InOrder.of_append {more : List (List Char × Char)} (h : InOrder (table ++ more)) :
    InOrder table where
  named e he := h.named e (List.mem_append_left more he)
  unfinished := (List.pairwise_append.mp h.unfinished).1

/-- A text begins with the name of the entity that is found. -/
lemma prefix_of_entityAt? (h : entityAt? table cs = some e) : e.1 <+: cs :=
  List.isPrefixOf_iff_prefix.mp
    (List.find?_some (p := fun e : List Char × Char => e.1.isPrefixOf cs) h)

/-- The entity that is found is one of the table. -/
lemma mem_of_entityAt? (h : entityAt? table cs = some e) : e ∈ table :=
  List.mem_of_find?_eq_some h

/-- No entity is found where a text begins with no name. -/
lemma entityAt?_eq_none : entityAt? table cs = none ↔ ∀ e ∈ table, ¬ e.1 <+: cs := by
  unfold entityAt?
  simp only [List.find?_eq_none, List.isPrefixOf_iff_prefix]

/-- An entity at the end of a table is found where none of the others is. -/
lemma entityAt?_concat : entityAt? (table ++ [e]) cs =
    (entityAt? table cs).or (if e.1 <+: cs then some e else none) := by
  unfold entityAt?
  rw [List.find?_append, List.find?_singleton]
  simp only [List.isPrefixOf_iff_prefix]

/-- Nothing is left of a text that has nothing. -/
lemma decodeOnce_nil (table : List (List Char × Char)) : decodeOnce table [] = [] := by
  rw [decodeOnce]

/-- Where the name of an entity stands its character is written. -/
lemma decodeOnce_name (hne : e.1 ≠ [])
    (h : entityAt? table (e.1 ++ rest) = some e) :
    decodeOnce table (e.1 ++ rest) = e.2 :: decodeOnce table rest := by
  rcases e with ⟨_ | ⟨c, name⟩, written⟩
  · exact absurd rfl hne
  · dsimp only [List.cons_append] at h ⊢
    rw [decodeOnce, h]
    simp

/-- Where no name stands the text stays as it is. -/
lemma decodeOnce_cons (h : entityAt? table (c :: rest) = none) :
    decodeOnce table (c :: rest) = c :: decodeOnce table rest := by
  rw [decodeOnce, h]

/-- A pass for no entities leaves a text as it is. -/
lemma decodeOnce_of_no_table (cs : List Char) : decodeOnce [] cs = cs := by
  induction cs with
  | nil => exact decodeOnce_nil []
  | cons c rest ih => rw [decodeOnce_cons rfl, ih]

/-- No name begins with another character than an ampersand. -/
lemma InOrder.entityAt?_of_ne (h : InOrder table) (hc : c ≠ '&') (rest : List Char) :
    entityAt? table (c :: rest) = none := by
  refine entityAt?_eq_none.mpr fun e he hprefix => ?_
  obtain ⟨name, hname, -⟩ := h.exists_name he
  rw [hname, List.cons_prefix_cons] at hprefix
  exact hc hprefix.1.symm

/-- A pass leaves characters as they are that are no ampersands. -/
lemma InOrder.decodeOnce_append (h : InOrder table) (hname : '&' ∉ name) (rest : List Char) :
    decodeOnce table (name ++ rest) = name ++ decodeOnce table rest := by
  induction name with
  | nil => rfl
  | cons c name ih =>
    rw [List.mem_cons, not_or] at hname
    rw [List.cons_append, decodeOnce_cons (h.entityAt?_of_ne (Ne.symm hname.1) _), ih hname.2,
      List.cons_append]

/-- What a pass has written begins with characters that no entity stands for only where the text
does. -/
lemma prefix_of_prefix_decodeOnce (hnone : ∀ e ∈ table, e.2 ∉ name)
    (h : name <+: decodeOnce table cs) : name <+: cs := by
  induction name generalizing cs with
  | nil => exact List.nil_prefix
  | cons n name ih =>
    rcases cs with _ | ⟨c, rest⟩
    · rwa [decodeOnce_nil] at h
    · rcases hfind : entityAt? table (c :: rest) with _ | e
      · rw [decodeOnce_cons hfind, List.cons_prefix_cons] at h
        have hrest : ∀ e ∈ table, e.2 ∉ name := fun e he hmem =>
          hnone e he (List.mem_cons_of_mem n hmem)
        exact List.cons_prefix_cons.mpr ⟨h.1, ih hrest h.2⟩
      · rw [decodeOnce, hfind, List.cons_prefix_cons] at h
        have hmem := mem_of_entityAt? hfind
        exact absurd (h.1 ▸ List.mem_cons_self) (hnone e hmem)

/-! ### One kind after the other -/

/-- What is still to be left out of an occurrence is left out. -/
lemma replaceFrom_append (pattern : List Char) (replacement : Char) (name rest : List Char) :
    replaceFrom pattern replacement name.length (name ++ rest) =
      replaceFrom pattern replacement 0 rest := by
  induction name with
  | nil => rfl
  | cons c name ih => exact ih

/-- An occurrence of a name is replaced. -/
lemma decodeEntity_name (hne : e.1 ≠ []) (rest : List Char) :
    decodeEntity (e.1 ++ rest) e = e.2 :: decodeEntity rest e := by
  rcases e with ⟨_ | ⟨c, name⟩, written⟩
  · exact absurd rfl hne
  · have hprefix : (c :: name).isPrefixOf (c :: (name ++ rest)) = true :=
      List.isPrefixOf_iff_prefix.mpr (List.prefix_append (c :: name) rest)
    unfold decodeEntity
    dsimp only [List.cons_append]
    rw [replaceFrom, if_pos hprefix]
    exact congrArg _ (replaceFrom_append _ _ name rest)

/-- Where the name does not stand the text stays as it is. -/
lemma decodeEntity_cons (h : ¬ e.1 <+: c :: rest) :
    decodeEntity (c :: rest) e = c :: decodeEntity rest e := by
  unfold decodeEntity
  rw [replaceFrom, if_neg (mt List.isPrefixOf_iff_prefix.mp h)]

/-- The name of an entity in a table has a character. -/
lemma InOrder.name_ne_nil (h : InOrder table) (he : e ∈ table) : e.1 ≠ [] := by
  obtain ⟨name, hname, -⟩ := h.exists_name he
  rw [hname]
  exact List.cons_ne_nil _ _

/-- What is left behind a name is shorter than the text. -/
lemma length_lt_append (hne : name ≠ []) (rest : List Char) :
    rest.length < (name ++ rest).length := by
  rw [List.length_append]
  exact Nat.lt_add_of_pos_left (List.length_pos_iff.mpr hne)

/-- A pass leaves a name as it is that comes behind all of its own, where it finds none of these. -/
lemma InOrder.decodeOnce_last (h : InOrder (table ++ [e]))
    (hfind : entityAt? table (e.1 ++ rest) = none) :
    decodeOnce table (e.1 ++ rest) = e.1 ++ decodeOnce table rest := by
  obtain ⟨name, hname, hplain⟩ := h.exists_name (List.mem_append_right table List.mem_cons_self)
  rw [hname, List.cons_append] at hfind ⊢
  rw [decodeOnce_cons hfind, h.of_append.decodeOnce_append hplain]
  rfl

/-- A pass completes no name that comes behind all of its own. -/
lemma InOrder.not_completed (h : InOrder (table ++ [e])) (hnot : ¬ e.1 <+: c :: rest) :
    ¬ e.1 <+: c :: decodeOnce table rest := by
  obtain ⟨name, hname, -⟩ := h.exists_name (List.mem_append_right table List.mem_cons_self)
  intro hwritten
  refine hnot ?_
  rw [hname, List.cons_prefix_cons] at hwritten ⊢
  refine ⟨hwritten.1, prefix_of_prefix_decodeOnce (fun e' he' hmem => ?_) hwritten.2⟩
  refine (List.pairwise_append.mp h.unfinished).2.2 e' he' e List.mem_cons_self ?_
  rw [hname]
  exact List.mem_cons_of_mem '&' hmem

/-- What a pass writes for an entity begins no name that comes behind all of its own. -/
lemma InOrder.not_begun {e' : List Char × Char} (h : InOrder (table ++ [e])) (he' : e' ∈ table) :
    ¬ e.1 <+: e'.2 :: rest := by
  obtain ⟨name, hname, -⟩ := h.exists_name (List.mem_append_right table List.mem_cons_self)
  intro hwritten
  refine (List.pairwise_append.mp h.unfinished).2.2 e' he' e List.mem_cons_self ?_
  rw [hname, List.cons_prefix_cons] at hwritten
  rw [hname, ← hwritten.1]
  exact List.mem_cons_self

/-- Decoding one more kind of entity behind a pass is a pass for this kind too. -/
lemma InOrder.decodeEntity_decodeOnce (h : InOrder (table ++ [e])) (cs : List Char) :
    decodeEntity (decodeOnce table cs) e = decodeOnce (table ++ [e]) cs := by
  have hne : e.1 ≠ [] := h.name_ne_nil (List.mem_append_right table List.mem_cons_self)
  induction hlength : cs.length using Nat.strongRecOn generalizing cs with
  | ind n ih =>
    subst hlength
    rcases cs with _ | ⟨c, rest⟩
    · rw [decodeOnce_nil, decodeOnce_nil]
      rfl
    rcases hfind : entityAt? table (c :: rest) with _ | e'
    · by_cases hprefix : e.1 <+: c :: rest
      · -- The entity stands in the text, and the pass for the others has left it there.
        obtain ⟨behind, hbehind⟩ := hprefix
        rw [← hbehind] at hfind ih ⊢
        have hboth : entityAt? (table ++ [e]) (e.1 ++ behind) = some e := by
          rw [entityAt?_concat, hfind, if_pos (List.prefix_append _ _), Option.none_or]
        rw [h.decodeOnce_last hfind, decodeEntity_name hne, decodeOnce_name hne hboth,
          ih _ (length_lt_append hne behind) behind rfl]
      · -- No name stands here, and none is completed by what the pass writes behind.
        have hboth : entityAt? (table ++ [e]) (c :: rest) = none := by
          rw [entityAt?_concat, hfind, if_neg hprefix, Option.none_or]
        rw [decodeOnce_cons hfind, decodeEntity_cons (h.not_completed hprefix),
          decodeOnce_cons hboth, ih _ (Nat.lt_succ_self _) rest rfl]
    · -- Another entity stands in the text, and its character begins no name.
      have he' : e' ∈ table := mem_of_entityAt? hfind
      have hne' : e'.1 ≠ [] := h.of_append.name_ne_nil he'
      obtain ⟨behind, hbehind⟩ := prefix_of_entityAt? hfind
      rw [← hbehind] at hfind ih ⊢
      have hboth : entityAt? (table ++ [e]) (e'.1 ++ behind) = some e' := by
        rw [entityAt?_concat, hfind, Option.some_or]
      rw [decodeOnce_name hne' hfind, decodeEntity_cons (h.not_begun he'),
        decodeOnce_name hne' hboth, ih _ (length_lt_append hne' behind) behind rfl]

/-- Decoding the entities of a table one kind after the other is a single pass. -/
theorem InOrder.foldl_decodeEntity (h : InOrder table) (cs : List Char) :
    table.foldl decodeEntity cs = decodeOnce table cs := by
  induction table using List.reverseRecOn with
  | nil => exact (decodeOnce_of_no_table cs).symm
  | append_singleton table e ih =>
    rw [List.foldl_append, List.foldl_cons, List.foldl_nil, ih h.of_append,
      h.decodeEntity_decodeOnce]

/-! ### The six entities -/

/-- The entities can be decoded one after the other. -/
lemma inOrder_entities : InOrder entities := ⟨by decide, by decide⟩

/-- No name of an entity begins another. -/
lemma eq_of_prefix_name : ∀ e ∈ entities, ∀ e' ∈ entities, e.1 <+: e'.1 → e = e' := by decide

/-- Decoding the entities one kind after the other is a single pass. -/
lemma decodeEntities_eq (cs : List Char) : decodeEntities cs = decodeOnce entities cs :=
  inOrder_entities.foldl_decodeEntity cs

/-- Where an entity stands in a text it is the one that is found. -/
lemma entityAt?_entities (he : e ∈ entities) (rest : List Char) :
    entityAt? entities (e.1 ++ rest) = some e := by
  rcases hfind : entityAt? entities (e.1 ++ rest) with _ | e'
  · exact absurd (List.prefix_append e.1 rest) (entityAt?_eq_none.mp hfind e he)
  · have hmem := mem_of_entityAt? hfind
    rcases List.prefix_or_prefix_of_prefix (prefix_of_entityAt? hfind)
      (List.prefix_append e.1 rest) with hle | hle
    · rw [eq_of_prefix_name e' hmem e he hle]
    · rw [eq_of_prefix_name e he e' hmem hle]

/-- Where an entity stands in a text its character is written. -/
lemma decodeOnce_entity (he : e ∈ entities) (rest : List Char) :
    decodeOnce entities (e.1 ++ rest) = e.2 :: decodeOnce entities rest := by
  refine decodeOnce_name ?_ (entityAt?_entities he rest)
  obtain ⟨name, hname, -⟩ := inOrder_entities.exists_name he
  rw [hname]
  exact List.cons_ne_nil _ _

/-- A text whose ampersands are written as entities. -/
def escape (cs : List Char) : List Char :=
  cs.flatMap fun c => if c = '&' then "&amp;".toList else [c]

/-- Decoding takes one level of escaping away, whatever is escaped. -/
lemma decodeOnce_escape (cs : List Char) : decodeOnce entities (escape cs) = cs := by
  induction cs with
  | nil => exact decodeOnce_nil entities
  | cons c rest ih =>
    unfold escape at ih ⊢
    rw [List.flatMap_cons]
    split
    · rename_i hc
      have hamp : ("&amp;".toList, '&') ∈ entities := by decide
      rw [decodeOnce_entity hamp, ih, hc]
    · rename_i hc
      rw [List.singleton_append, decodeOnce_cons (inOrder_entities.entityAt?_of_ne hc _), ih]

/-- Names that are escaped are not decoded. -/
example : decodeEntities "&lt;b&gt; &amp;lt; &amp;amp;nbsp;".toList =
    "<b> &lt; &amp;nbsp;".toList := by
  decide

/-! ### Words joined by spaces -/

/-- The pieces of words that are joined by single spaces are these words. -/
lemma pieces_intercalate (h : ∀ w ∈ ws, IsWord w) : pieces ([' '].intercalate ws) = ws := by
  induction ws with
  | nil => exact pieces_nil
  | cons w ws ih =>
    obtain ⟨hw, hws⟩ := List.forall_mem_cons.mp h
    rcases ws with _ | ⟨v, ws⟩
    · rw [List.intercalate_singleton, hw.pieces_eq]
    · rw [List.intercalate_cons_cons, List.append_assoc, List.singleton_append,
        pieces_append_cons (by decide), hw.pieces_eq, ih hws]
      rfl

/-- The words of a text are words. -/
lemma isWord_of_mem_words (cs : List Char) : ∀ w ∈ words cs, IsWord w := by
  unfold words
  rw [List.forall_mem_map]
  exact (Laid.of_tokens cs).isWord

/-- Collapsing leaves the words of a text as they are. -/
lemma words_collapse (cs : List Char) : words (collapse cs) = words cs := by
  rw [words_eq_pieces, collapse, pieces_intercalate (isWord_of_mem_words cs)]

/-! ### All together -/

/-- The entities in a text without its markup are decoded as in a single pass that writes a
character for each of them, leaves the rest as it is and does not look at what it has written; so
text that was escaped loses one level of escaping.  What comes out in the end are words joined by
single spaces: it does not change when it is collapsed again, and its words are those of the decoded
text in Normalization Form KC. -/
theorem normalize_canonical (raw : List Char) :
    decodeEntities (stripMarkup false raw) = decodeOnce entities (stripMarkup false raw) ∧
    (∀ e ∈ entities, ∀ rest,
      decodeOnce entities (e.1 ++ rest) = e.2 :: decodeOnce entities rest) ∧
    (∀ c rest, (∀ e ∈ entities, ¬ e.1 <+: c :: rest) →
      decodeOnce entities (c :: rest) = c :: decodeOnce entities rest) ∧
    (∀ cs, decodeEntities (escape cs) = cs) ∧
    (∃ ws, (∀ w ∈ ws, IsWord w) ∧ normalize raw = [' '].intercalate ws) ∧
    collapse (normalize raw) = normalize raw ∧
    pieces (normalize raw) = pieces (nfkc (decodeOnce entities (stripMarkup false raw))) := by
  refine ⟨decodeEntities_eq _, fun e he rest => decodeOnce_entity he rest, ?plain, ?escaped,
    ⟨_, isWord_of_mem_words _, rfl⟩, ?fixed, ?same⟩
  case plain => exact fun c rest hnone => decodeOnce_cons (entityAt?_eq_none.mpr hnone)
  case escaped =>
    intro cs
    rw [decodeEntities_eq, decodeOnce_escape]
  case fixed =>
    unfold normalize
    rw [collapse, words_collapse]
    rfl
  case same =>
    rw [← words_eq_pieces, ← words_eq_pieces, ← decodeEntities_eq]
    exact words_collapse _

/-- The markup goes, one level of escaping is undone, the superscript becomes a digit, and the
letter with its accent, which is decomposed on the way, is composed again. -/
example : normalize "<p>À\n30&nbsp;m² &amp;lt; 1</p>".toList = "À 30 m2 &lt; 1".toList := by
  decide +kernel

end Dossier.Text
