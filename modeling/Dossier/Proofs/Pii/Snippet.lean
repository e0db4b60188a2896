import Dossier.Proofs.Pii.Cover
import Dossier.Proofs.Pii.Tokens

/-!
# Redaction of the beginning of a text

Redaction goes through the beginning of a text as it goes through the text, until a match in one of
them reaches the place from which on they differ.  So a value that lies in the beginning as a whole
is hidden there too, unless a value that is masked there begins inside it (`guards_take`).  A value
that does not end in the beginning need not be hidden at all.
-/

namespace Dossier.Pii

open Unicode

variable {kind : Kind} {before before' : Option Char} {n : ℕ} {ps qs ps' qs' ys zs : List Part}

/-- Every value that is masked among the first characters of a text is hidden in another one, or
some value of the other one begins inside it. -/
def Guards (n : ℕ) (ps qs : List Part) : Prop :=
  ∀ a e, Masked ps a e → e ≤ n →
    (∀ i, a ≤ i → i < e → Hidden qs i) ∨ ∃ a' e', Masked qs a' e' ∧ a < a' ∧ a' < e

/-- How two texts compare from where they differ: `n` characters of the first one are left that the
other one is about. -/
structure Apart (before : Option Char) (n : ℕ) (ys zs : List Part) : Prop where
  /-- A match that may end here in the first text may end here in the other one. -/
  ends : before.any isWord → (faces ys).head?.any isWord = false →
    (faces zs).head?.any isWord = false
  /-- What the first text shows, the other one hides. -/
  hides : ∀ i, i < n → Shown ys i → Hidden zs i
  /-- No match reaches beyond this place in both texts, unless no characters are left. -/
  stops : n = 0 ∨ ys = [] ∨ ys.head?.any Part.isMasked ∨ zs.head?.any Part.isMasked
  guards : Guards n ys zs

/-- Two texts have their first parts in common and are apart behind them. -/
def Parting (before : Option Char) (n : ℕ) (ps qs : List Part) : Prop :=
  ∃ common ys zs, ps = common ++ ys ∧ qs = common ++ zs ∧
    Apart (behind before (faces common)) (n - (common.flatMap Part.chars).length) ys zs

/-! ### First parts in common -/

/-- Behind a part that they have in common, texts are guarded as they are from there. -/
lemma Guards.cons {x : Part} (h : Guards (n - x.chars.length) ps qs) :
    Guards n (x :: ps) (x :: qs) := by
  intro a e hmasked he
  cases hmasked with
  | here kind value _ =>
    left
    intro i _ hi
    exact hidden_cons.mpr (.inl ⟨hi, rfl⟩)
  | @later _ a e _ hmasked =>
    rcases h a e hmasked (by omega) with hhidden | ⟨a', e', hmasked', hlt, hlt'⟩
    · left
      intro i ha hi
      exact hidden_cons.mpr (.inr ⟨by omega, hhidden _ (by omega) (by omega)⟩)
    · right
      exact ⟨_, _, .later x hmasked', by omega, by omega⟩

namespace Parting

/-- Texts that are apart have no parts in common. -/
lemma of_apart (h : Apart before n ys zs) : Parting before n ys zs :=
  ⟨[], ys, zs, rfl, rfl, h⟩

/-- A part that two texts have in common. -/
lemma cons {x : Part} (h : Parting (some x.face) (n - x.chars.length) ps qs) :
    Parting before n (x :: ps) (x :: qs) := by
  obtain ⟨common, ys, zs, rfl, rfl, hapart⟩ := h
  refine ⟨x :: common, ys, zs, rfl, rfl, ?_⟩
  rw [faces_cons, behind_cons, List.flatMap_cons, List.length_append, ← Nat.sub_sub]
  exact hapart

/-- A part that two texts have in common, if what they are compared behind is masked. -/
lemma cons_masked {m : List Char} (h : Parting (behind before m) (n - m.length) ps qs) :
    Parting before n (.masked kind m :: ps) (.masked kind m :: qs) := by
  apply cons
  obtain ⟨common, ys, zs, rfl, rfl, hapart⟩ := h
  refine ⟨common, ys, zs, rfl, rfl, ?_⟩
  rcases List.eq_nil_or_concat' common with rfl | ⟨l, x, rfl⟩
  · -- No match ends behind a bracket.
    refine ⟨fun hword => ?_, hapart.hides, hapart.stops, hapart.guards⟩
    exact absurd hword (Bool.eq_false_iff.mp isWord_bracket)
  · have hlast : ∀ b, behind b (faces (l ++ [x])) = some x.face := by
      intro b
      rw [faces_append]
      exact behind_concat
    rw [hlast] at hapart ⊢
    exact hapart

/-- Texts with first parts in common are guarded. -/
lemma guards (h : Parting before n ps qs) : Guards n ps qs := by
  obtain ⟨common, ys, zs, rfl, rfl, hapart⟩ := h
  have hguards := hapart.guards
  clear hapart
  induction common generalizing n with
  | nil => exact hguards
  | cons x common ih =>
    rw [List.flatMap_cons, List.length_append, ← Nat.sub_sub] at hguards
    exact (ih hguards).cons

end Parting

/-! ### What a rule does to both -/

section

variable {ps qs ps' qs' : List Part} {a e : ℕ}

/-- A value that a rule leaves masked in the first text is guarded, if the other one hides what the
first one has shown of it. -/
lemma Guards.of_masked (h : Guards n ps qs) (hps : Passes kind before ps ps')
    (hqs : Passes kind before' qs qs') (hmasked : Masked ps' a e) (he : e ≤ n)
    (hhides : ∀ i, a ≤ i → i < n → Shown ps i → Hidden qs' i) :
    (∀ i, a ≤ i → i < e → Hidden qs' i) ∨ ∃ a' e', Masked qs' a' e' ∧ a < a' ∧ a' < e := by
  rcases hps.masked_or_shown hmasked with hold | hnew
  · rcases h a e hold he with hhidden | ⟨a', e', hmasked', hlt, hlt'⟩
    · exact .inl fun i ha hi => hqs.hidden (hhidden i ha hi)
    · exact .inr ⟨a', e', hqs.masked hmasked', hlt, hlt'⟩
  · exact .inl fun i ha hi => hhides i ha (by omega) (hnew i ha hi)

/-- A rule leaves a masked part in front. -/
lemma Passes.isMasked_head (h : Passes kind before ps ps') (hhead : ps.head?.any Part.isMasked) :
    ps'.head?.any Part.isMasked := by
  cases h with
  | nil => exact hhead
  | keep _ _ => exact hhead
  | hide _ _ _ => rfl

/-- A rule leaves texts apart that are. -/
lemma Apart.passes (h : Apart before n ps qs) (hps : Passes kind before ps ps')
    (hqs : Passes kind before qs qs') : Apart before n ps' qs' where
  ends hbefore hhead := hqs.plain_head (h.ends hbefore (hps.isWord_head hbefore hhead))
  hides i hi hshown := hqs.hidden (h.hides i hi (hps.shown hshown))
  stops := by
    rcases h.stops with hnone | rfl | hmasked | hmasked
    · exact .inl hnone
    · exact .inr (.inl (hps.eq_nil rfl))
    · exact .inr (.inr (.inl (hps.isMasked_head hmasked)))
    · exact .inr (.inr (.inr (hqs.isMasked_head hmasked)))
  guards a e hmasked he := h.guards.of_masked hps hqs hmasked he fun i _ hi hshown =>
    hqs.hidden (h.hides i hi hshown)

end

section

variable {cs m m' : List Char} {rest : List Part}

/-- What the first text shows from some place on is hidden in the other one behind the characters
that they have in common. -/
lemma Apart.hidden_of_shown (h : Apart before' (n - cs.length) ys zs) {i : ℕ} (hcs : cs.length ≤ i)
    (hi : i < n) (hshown : Shown (cs.map .kept ++ ys) i) : Hidden (cs.map .kept ++ zs) i := by
  rcases shown_kept_append.mp hshown with hlt | ⟨hle, hys⟩
  · omega
  · exact hidden_kept_append.mpr ⟨hle, h.hides _ (by omega) hys⟩

/-- Texts that are apart behind some characters have these in common. -/
lemma Apart.parting (h : Apart (behind before cs) (n - cs.length) ys zs) :
    Parting before n (cs.map .kept ++ ys) (cs.map .kept ++ zs) := by
  refine ⟨cs.map .kept, ys, zs, rfl, rfl, ?_⟩
  rw [faces_kept, flatMap_chars_kept]
  exact h

/-- Texts part where a rule masks a match in the other one that reaches the end of what they have in
common. -/
lemma Apart.of_long_match (h : Apart (behind before cs) (n - cs.length) ys zs)
    (hzs : zs = m'.map .kept ++ rest) (hm : cs ++ m' ≠ [])
    (hsome : kind.pattern.matchLength? ⟨before, cs ++ m' ++ faces rest⟩ = some (cs ++ m').length) :
    Apart before n (pass kind before (cs.map .kept ++ ys))
      (pass kind before (cs.map .kept ++ zs)) := by
  have hps := passes_pass kind before (cs.map .kept ++ ys)
  have hqs := passes_pass kind before (cs.map .kept ++ zs)
  have hcut : pass kind before (cs.map .kept ++ zs) =
      .masked kind (cs ++ m') :: pass kind (behind before (cs ++ m')) rest := by
    rw [hzs, ← List.append_assoc, ← List.map_append, pass_hide hm hsome]
  have hhides : ∀ i, i < n → Shown (cs.map .kept ++ ys) i →
      Hidden (pass kind before (cs.map .kept ++ zs)) i := by
    intro i hi hshown
    by_cases hmatch : i < (cs ++ m').length
    · rw [hcut]
      exact hidden_cons.mpr (.inl ⟨hmatch, rfl⟩)
    · rw [List.length_append] at hmatch
      exact hqs.hidden (h.hidden_of_shown (by omega) hi hshown)
  have hguards : Guards n (cs.map .kept ++ ys) (cs.map .kept ++ zs) := h.parting.guards
  refine ⟨fun _ _ => ?_, fun i hi hshown => hhides i hi (hps.shown hshown), ?_, ?_⟩
  · rw [hcut]
    exact isWord_bracket
  · rw [hcut]
    exact .inr (.inr (.inr rfl))
  · exact fun a e hmasked he =>
      hguards.of_masked hps hqs hmasked he fun i _ hi hshown => hhides i hi hshown

/-- Where a match of the first text can reach beyond what two texts have in common, a masked part of
the other one begins, unless no characters are left that it is about. -/
lemma Apart.exists_masked (h : Apart before' (n - cs.length) ys zs) (hm' : m' ≠ [])
    (hys : ys = m'.map .kept ++ rest) (hn : cs.length + m'.length ≤ n) :
    ∃ e, Masked (cs.map .kept ++ zs) cs.length e := by
  obtain ⟨c, m', rfl⟩ := List.exists_cons_of_ne_nil hm'
  rw [List.length_cons] at hn
  rcases h.stops with hnone | hnil | hhead | hhead
  · omega
  · rw [hys] at hnil
    cases hnil
  · rw [hys] at hhead
    cases hhead
  · rcases zs with _ | ⟨_ | ⟨kind', value⟩, zs⟩
    · cases hhead
    · cases hhead
    · exact ⟨_, masked_kept_append.mpr ⟨0, _, rfl, rfl, .here kind' value zs⟩⟩

/-- Texts part where a rule masks a match in the first one that reaches beyond what they have in
common. -/
lemma Apart.of_beyond (h : Apart (behind before cs) (n - cs.length) ys zs) (hcs : cs ≠ [])
    (hm' : m' ≠ []) (hys : ys = m'.map .kept ++ rest)
    (hsome : kind.pattern.matchLength? ⟨before, cs ++ m' ++ faces rest⟩ = some (cs ++ m').length) :
    Apart before n (pass kind before (cs.map .kept ++ ys))
      (pass kind before (cs.map .kept ++ zs)) := by
  have hps := passes_pass kind before (cs.map .kept ++ ys)
  have hqs := passes_pass kind before (cs.map .kept ++ zs)
  have htext : pass kind before (cs.map .kept ++ ys) =
      .masked kind (cs ++ m') :: pass kind (behind before (cs ++ m')) rest := by
    rw [hys, ← List.append_assoc, ← List.map_append,
      pass_hide (List.append_ne_nil_of_left_ne_nil hcs m') hsome]
  have hhides : ∀ i, (cs ++ m').length ≤ i → i < n → Shown (cs.map .kept ++ ys) i →
      Hidden (pass kind before (cs.map .kept ++ zs)) i := by
    intro i hle hi hshown
    rw [List.length_append] at hle
    exact hqs.hidden (h.hidden_of_shown (by omega) hi hshown)
  have hguards : Guards n (cs.map .kept ++ ys) (cs.map .kept ++ zs) := h.parting.guards
  refine ⟨fun hbefore hhead => ?_, fun i hi hshown => ?_, ?_, fun a e hmasked he => ?_⟩
  · -- Both texts begin with the character with which the match begins.
    have hfirst := hps.isWord_head hbefore hhead
    obtain ⟨c, cs, rfl⟩ := List.exists_cons_of_ne_nil hcs
    exact hqs.plain_head hfirst
  · rw [htext] at hshown
    rcases shown_cons.mp hshown with ⟨-, hmasked⟩ | ⟨hle, -⟩
    · cases hmasked
    · rw [← htext] at hshown
      exact hhides i hle hi (hps.shown hshown)
  · rw [htext]
    exact .inr (.inr (.inl rfl))
  · have hvalue := hmasked
    rw [htext] at hvalue
    cases hvalue with
    | here _ _ _ =>
      rw [List.length_append] at he ⊢
      obtain ⟨e', hthere⟩ := h.exists_masked hm' hys he
      have hcspos := List.length_pos_iff.mpr hcs
      have hm'pos := List.length_pos_iff.mpr hm'
      exact .inr ⟨_, e', hqs.masked hthere, by omega, by omega⟩
    | later _ _ =>
      refine hguards.of_masked hps hqs hmasked he fun i ha hi hshown => hhides i ?_ hi hshown
      have hchars : (Part.masked kind (cs ++ m')).chars = cs ++ m' := rfl
      rw [hchars] at ha
      omega

end

/-! ### Where texts part -/

/-- In two texts that begin with the same characters, the preferred match is the same one, unless it
reaches beyond these characters in the first text, or reaches their end in the other one. -/
lemma Pattern.Rule.same_or_long {p : Pattern} (hp : p.Rule) {cs y z : List Char} (hcs : cs ≠ [])
    (hends : (behind before cs).any isWord → y.head?.any isWord = false →
      z.head?.any isWord = false) :
    p.matchLength? ⟨before, cs ++ y⟩ = p.matchLength? ⟨before, cs ++ z⟩ ∨
      p.Beyond cs.length ⟨before, cs ++ y⟩ ∨
        ∃ l, cs.length ≤ l ∧ p.matchLength? ⟨before, cs ++ z⟩ = some l := by
  have hsame : Alike before before := rfl
  by_cases halike : Alike y.head? z.head?
  · rcases p.near_or_beyond cs hsame halike with heq | hbeyond | ⟨l, hl, hsome⟩
    · exact .inl heq
    · exact .inr (.inl hbeyond)
    · exact .inr (.inr ⟨l, hl.le, hsome⟩)
  · -- The last of the characters is then the first one of the tails.
    obtain ⟨l, d, rfl⟩ := (List.eq_nil_or_concat' cs).resolve_left hcs
    have htail : Alike (d :: y).head? (d :: z).head? := rfl
    have hnear := p.near_or_beyond l hsame htail
    rw [List.length_append, List.length_singleton, List.append_assoc, List.append_assoc,
      List.singleton_append, List.singleton_append]
    rcases hnear with heq | ⟨k, hk, hsome⟩ | ⟨k, hk, hsome⟩
    · exact .inl heq
    · rcases Nat.lt_or_ge (l.length + 1) k with hlt | hge
      · exact .inr (.inl ⟨k, hlt, hsome⟩)
      · -- A match that ends with these characters has no word character behind it.
        have hlength : k = (l ++ [d]).length := by
          rw [List.length_append, List.length_singleton]
          omega
        have hspans : p.Spans before (l ++ [d]) y.head? := by
          apply hp.spans_of_matchLength?
          rw [List.append_assoc, List.singleton_append, ← hlength]
          exact hsome
        obtain ⟨l', c, heq, hc, hafter⟩ := hp.last hspans
        obtain ⟨-, hlast⟩ := List.append_inj' heq rfl
        rw [List.cons.injEq] at hlast
        have hword : (behind before (l ++ [d])).any isWord := by
          rw [behind_concat, hlast.1]
          exact hc
        exact absurd (hafter.trans (hends hword hafter).symm) halike
    · exact .inr (.inr ⟨k, hk, hsome⟩)

section

variable {common : List Part} {l : ℕ}

/-- Texts part where a match in the other one reaches the end of what they have in common. -/
lemma Apart.pass_of_long (hlong : (faces common).length ≤ l)
    (hsome : kind.pattern.matchLength? ⟨before, faces (common ++ zs)⟩ = some l)
    (h : Apart (behind before (faces common)) (n - (common.flatMap Part.chars).length) ys zs) :
    Apart before n (pass kind before (common ++ ys)) (pass kind before (common ++ zs)) := by
  rcases matchLength?_faces kind before (common ++ zs) with hnone | ⟨m, rest, hparts, hm, hmatch⟩
  · rw [hsome] at hnone
    cases hnone
  · rw [hparts, faces_append, faces_kept, hmatch, Option.some.injEq] at hsome
    rw [← hsome, faces, List.length_map] at hlong
    obtain ⟨cs, m', rfl, rfl, hzs⟩ := eq_kept_of_append hparts hlong
    rw [faces_kept, flatMap_chars_kept] at h
    exact h.of_long_match hzs hm hmatch

/-- Texts part where a match in the first one reaches beyond what they have in common. -/
lemma Apart.pass_of_beyond (hcommon : common ≠ [])
    (hbeyond : kind.pattern.Beyond (faces common).length ⟨before, faces (common ++ ys)⟩)
    (h : Apart (behind before (faces common)) (n - (common.flatMap Part.chars).length) ys zs) :
    Apart before n (pass kind before (common ++ ys)) (pass kind before (common ++ zs)) := by
  obtain ⟨l, hlong, hsome⟩ := hbeyond
  rcases matchLength?_faces kind before (common ++ ys) with hnone | ⟨m, rest, hparts, hm, hmatch⟩
  · rw [hsome] at hnone
    cases hnone
  · rw [hparts, faces_append, faces_kept, hmatch, Option.some.injEq] at hsome
    rw [← hsome, faces, List.length_map] at hlong
    obtain ⟨cs, m', rfl, rfl, hys⟩ := eq_kept_of_append hparts hlong.le
    rw [faces_kept, flatMap_chars_kept] at h
    rw [List.length_map, List.length_append] at hlong
    refine h.of_beyond ?_ ?_ hys hmatch
    · exact fun hnil => hcommon (List.map_eq_nil_iff.mpr hnil)
    · rintro rfl
      exact absurd hlong (Nat.lt_irrefl _)

end

/-- A rule goes through texts with first parts in common so that they have first parts in common. -/
theorem Parting.pass (h : Parting before n ps qs) (kind : Kind) :
    Parting before n (pass kind before ps) (pass kind before qs) := by
  obtain ⟨common, ys, zs, rfl, rfl, hapart⟩ := h
  induction hlength : common.length using Nat.strongRecOn generalizing common before n with
  | ind k ih =>
    rcases hcommon : common with _ | ⟨x, others⟩
    · rw [hcommon] at hapart
      exact .of_apart (hapart.passes (passes_pass _ _ _) (passes_pass _ _ _))
    have hfaces : faces common ≠ [] := by
      rw [hcommon, faces_cons]
      exact List.cons_ne_nil _ _
    have hcompare := kind.rule.same_or_long hfaces hapart.ends
    rw [← faces_append, ← faces_append] at hcompare
    rw [← hcommon]
    -- Either the rule does the same here in both texts, or this is where they part now.
    rcases hcompare with heq | hbeyond | ⟨l, hlong, hsome⟩
    · rcases matchLength?_faces kind before (common ++ ys) with hnone | ⟨m, rest, hparts, hm, hmatch⟩
      · -- No match begins here in either text.
        rw [hnone] at heq
        rw [hcommon] at hnone heq hlength hapart ⊢
        rw [faces_cons, behind_cons, List.flatMap_cons, List.length_append, ← Nat.sub_sub] at hapart
        rw [List.cons_append] at hnone heq
        rw [List.cons_append, List.cons_append, pass_keep hnone, pass_keep heq.symm]
        exact (ih others.length (by rw [← hlength]; exact Nat.lt_succ_self _) others hapart rfl).cons
      · by_cases hlong : (faces common).length ≤ m.length
        · refine .of_apart (hapart.pass_of_long hlong ?_)
          rw [← heq, hparts, faces_append, faces_kept]
          exact hmatch
        · -- The same match begins here in both texts, and it ends in what they have in common.
          rw [Nat.not_le, faces, List.length_map] at hlong
          obtain ⟨more, hmore, hrest⟩ := eq_kept_append_of_append hparts hlong
          have hthere : kind.pattern.matchLength? ⟨before, m ++ faces (more ++ zs)⟩ =
              some m.length := by
            rw [hparts, faces_append, faces_kept, hmatch, hmore, List.append_assoc, faces_append,
              faces_kept] at heq
            exact heq.symm
          rw [hrest] at hmatch
          have hpos := List.length_pos_iff.mpr hm
          rw [hmore] at hlength hapart ⊢
          rw [faces_append, faces_kept, behind_append, List.flatMap_append, flatMap_chars_kept,
            List.length_append, ← Nat.sub_sub] at hapart
          rw [List.length_append, List.length_map] at hlength
          rw [List.append_assoc, List.append_assoc, pass_hide hm hmatch, pass_hide hm hthere]
          exact (ih more.length (by omega) more hapart rfl).cons_masked
    · exact .of_apart (hapart.pass_of_beyond (hcommon ▸ List.cons_ne_nil x others) hbeyond)
    · exact .of_apart (hapart.pass_of_long hlong hsome)

/-! ### The beginning of a text -/

/-- What is masked in a text as a whole before some place is hidden in the text up to there, or a
value that is masked in that text begins inside it. -/
theorem guards_take (text : List Char) (n : ℕ) : Guards n (parts text) (parts (text.take n)) := by
  have hstart : Parting none n (text.map .kept) ((text.take n).map .kept) := by
    refine ⟨(text.take n).map .kept, (text.drop n).map .kept, [], ?_, (List.append_nil _).symm, ?_⟩
    · rw [← List.map_append, List.take_append_drop]
    · rw [faces_kept, flatMap_chars_kept]
      refine ⟨fun _ _ => rfl, fun i hi hshown => ?_, ?_, fun a e hmasked _ => ?_⟩
      · -- No character is left if the text is longer, and otherwise nothing is left to show.
        rw [List.length_take] at hi
        rw [List.drop_eq_nil_of_le (by omega)] at hshown
        cases hshown
      · rw [List.length_take]
        rcases Nat.le_total n text.length with hle | hle
        · exact .inl (by omega)
        · exact .inr (.inl (by rw [List.drop_eq_nil_of_le hle, List.map_nil]))
      · rw [← List.append_nil (List.map Part.kept _)] at hmasked
        obtain ⟨a', e', -, -, hnone⟩ := masked_kept_append.mp hmasked
        cases hnone
  have hparting : Parting none n (parts text) (parts (text.take n)) :=
    List.foldl_rel (r := Parting none n) hstart fun kind _ _ _ h => h.pass kind
  exact hparting.guards

/-- A text that ends inside an address need not hide what it has of it. -/
example : let text := "Reach jane@acme.io".toList
    parts text = "Reach ".toList.map .kept ++ [.masked .email "jane@acme.io".toList] ∧
      parts (text.take 12) = "Reach jane@a".toList.map .kept := by
  decide +kernel

/-- An address that is one only in the text up to some place may begin inside a telephone number. -/
example : let text := "(415) 555-0100@b.cox1".toList
    parts text = .masked .phone "(415) 555-0100".toList :: "@b.cox1".toList.map .kept ∧
      parts (text.take 20) =
        "(415) ".toList.map .kept ++ [.masked .email "555-0100@b.cox".toList] := by
  decide +kernel

end Dossier.Pii
