import Dossier.Proofs.Pii.Snippet
import Dossier.Proofs.Service.Narrowing

/-!
# Snippets and personal data

A chunk is cut to its snippet before it is redacted, so the rules see a text that may end inside a
value, and what is left of such a value need not look like one.  A value that the snippet holds as a
whole is hidden in it, unless the cut makes another value begin inside it.
-/

namespace Dossier

open Pii

variable {σ : Type} {svc : Service σ} {w w' : World σ} {req : PackRequest} {pack : EvidencePack}

namespace Service.Assembly

/-- With the standard policy, what a source shows is what some session makes of the first characters
of its chunk. -/
lemma Makes.exists_session {a : Assembly svc req w} (ha : a.Makes pack) (hq : svc.Quiet)
    (hw : Reachable svc w)
    (hstandard : ∀ items o, svc.redact items o = .ok (Policy.standardRedaction items))
    (hredact : svc.config.security.redactPii = true) {source : Source}
    (hsource : source ∈ pack.sources) :
    ∃ s : Session, let r := (s.redact
        (source.candidate.context.chunk.text.toList.take svc.config.evidence.snippetMaxChars)).2
      source.candidate.snippet.toList = r.text ∧ source.candidate.redacted = r.touched := by
  have hmarked := mem_marked_of_mem_left (ha.mem_left_of_mem_sources hsource)
  obtain ⟨c, hc, hwhich⟩ := List.mem_map.mp hmarked
  have hnodup : (a.permitted.map Candidate.chunk).Nodup :=
    (ha.nodup_all hq (hw.sound hq).keyed (hw.shows hq)).sublist (List.filter_sublist.map _)
  have hshown := ha.shown.eq_of_standard hstandard hnodup
  rw [if_pos hredact] at hshown
  rw [hshown] at hc
  obtain ⟨c', hc', s, hcontext, hsnippet, hredacted⟩ := Policy.exists_session_of_mem_shown hc
  have hcut := Candidate.snippet_of_mem_ofHits (List.mem_filter.mp hc').1
  have htext : c'.snippet.toList =
      c.context.chunk.text.toList.take svc.config.evidence.snippetMaxChars := by
    rw [hcut, hcontext]
    exact String.toList_ofList
  rw [htext] at hsnippet hredacted
  refine ⟨s, ?_⟩
  rw [← hwhich]
  refine ⟨?_, hredacted⟩
  exact (congrArg String.toList hsnippet).trans String.toList_ofList

end Service.Assembly

/-- With the standard policy a snippet is what a session makes of the first characters of its chunk,
and what a session makes of a text shows the parts of the text.  Of the values that are masked in
the whole chunk, the snippet hides those that it holds as a whole, or it masks another value that
begins inside. -/
theorem snippets_hide_values (hq : svc.Quiet) (hw : Reachable svc w)
    (hstandard : ∀ items o, svc.redact items o = .ok (Policy.standardRedaction items))
    (hredact : svc.config.security.redactPii = true)
    (h : perform (svc.pack req) w = (.ok pack, w')) {source : Source}
    (hsource : source ∈ pack.sources) :
    let text := source.candidate.context.chunk.text.toList
    let n := svc.config.evidence.snippetMaxChars
    (∃ s : Session, source.candidate.snippet.toList = (s.redact (text.take n)).2.text ∧
        source.candidate.redacted = (s.redact (text.take n)).2.touched) ∧
      (∀ cs : List Char, (parts cs).flatMap Part.chars = cs ∧
        ∀ s : Session, (s.redact cs).2.Shows (parts cs)) ∧
      ∀ a e, Masked (parts text) a e → e ≤ n →
        (∀ i, a ≤ i → i < e → Hidden (parts (text.take n)) i) ∨
          ∃ a' e', Masked (parts (text.take n)) a' e' ∧ a < a' ∧ a' < e := by
  intro text n
  obtain ⟨a, ha, -⟩ := Service.pack_eq_ok h
  refine ⟨ha.exists_session hq hw hstandard hredact hsource, fun cs => ⟨?_, ?_⟩, ?_⟩
  · exact flatMap_chars_parts cs
  · exact fun s => s.shows_redact cs
  · exact guards_take text n

/-- The store of a service on its own that keeps a note with an address. -/
def Service.oneAddress (cfg : Config) : World Unit :=
  [Operation.ingest (.sampleNote "acme" "Call" "Renewal jane@acme.io")].foldl
    (Operation.run (standalone cfg)) (.start (standalone cfg) ⟨0⟩ ())

/-- The text of each source of a pack, what is shown of it, and whether it was redacted. -/
def EvidencePack.texts (pack : EvidencePack) : List (String × String × Bool) :=
  pack.sources.map fun source =>
    (source.candidate.context.chunk.text, source.candidate.snippet, source.candidate.redacted)

/-- A pack with one source, whose snippet holds an address as a whole. -/
theorem snippets_hide_values_oneAddress :
    let svc := Service.standalone .keyed
    let w := Service.oneAddress .keyed
    svc.Quiet ∧ Reachable svc w ∧
      (∀ items o, svc.redact items o = .ok (Policy.standardRedaction items)) ∧
      svc.config.security.redactPii = true ∧ ∃ pack w' source,
        perform (svc.pack .sample) w = (.ok pack, w') ∧ source ∈ pack.sources ∧
        source.candidate.snippet = "Renewal [EMAIL_1]" ∧
        let text := source.candidate.context.chunk.text.toList
        let n := svc.config.evidence.snippetMaxChars
        Masked (parts text) 8 20 ∧ 20 ≤ n ∧
        (∃ s : Session, source.candidate.snippet.toList = (s.redact (text.take n)).2.text ∧
            source.candidate.redacted = (s.redact (text.take n)).2.touched) ∧
          (∀ cs : List Char, (parts cs).flatMap Part.chars = cs ∧
            ∀ s : Session, (s.redact cs).2.Shows (parts cs)) ∧
          ∀ a e, Masked (parts text) a e → e ≤ n →
            (∀ i, a ≤ i → i < e → Hidden (parts (text.take n)) i) ∨
              ∃ a' e', Masked (parts (text.take n)) a' e' ∧ a < a' ∧ a' < e := by
  have hq := Service.quiet_standalone .keyed
  have hw : Reachable (Service.standalone .keyed) (Service.oneAddress .keyed) :=
    ⟨⟨0⟩, (), Run.operations _ _ _⟩
  have hparts : parts "Renewal jane@acme.io".toList =
      "Renewal ".toList.map .kept ++ [.masked .email "jane@acme.io".toList] := by
    decide +kernel
  have hmasked : Masked (parts "Renewal jane@acme.io".toList) 8 20 := by
    rw [hparts]
    exact masked_kept_append.mpr ⟨0, 12, rfl, rfl, .here .email "jane@acme.io".toList []⟩
  have htexts : (perform ((Service.standalone .keyed).pack .sample)
      (Service.oneAddress .keyed)).1.toOption.map EvidencePack.texts =
        some [("Renewal jane@acme.io", "Renewal [EMAIL_1]", true)] := by
    decide +kernel
  rcases h : perform ((Service.standalone .keyed).pack .sample) (Service.oneAddress .keyed)
    with ⟨e | pack, w'⟩
  · rw [h] at htexts
    cases htexts
  · rw [h] at htexts
    obtain ⟨source, hsources, htext⟩ := List.map_eq_singleton_iff.mp (Option.some.inj htexts)
    rw [Prod.mk.injEq, Prod.mk.injEq] at htext
    have hsource : source ∈ pack.sources := hsources ▸ List.mem_singleton_self source
    refine ⟨hq, hw, fun _ _ => rfl, rfl, pack, w', source, h, hsource, htext.2.1, ?_, ?_, ?_⟩
    · rw [htext.1]
      exact hmasked
    · decide
    · exact snippets_hide_values hq hw (fun _ _ => rfl) rfl h hsource

/-- A snippet that ends inside an address shows what it holds of the address, all of which is hidden
if the whole chunk is redacted. -/
theorem cut_uncovers_address :
    let cfg := { Config.keyed with
      evidence := { Config.keyed.evidence with snippetMaxChars := 14 } }
    let svc := Service.standalone cfg
    let text := "Renewal jane@acme.io".toList
    svc.config.security.redactPii = true ∧
      (perform (svc.pack .sample) (Service.oneAddress cfg)).1.toOption.map EvidencePack.texts =
        some [("Renewal jane@acme.io", "Renewal jane@a", false)] ∧
      ∀ i, 8 ≤ i → i < 14 → Hidden (parts text) i ∧ ¬ Hidden (parts (text.take 14)) i := by
  decide +kernel

end Dossier
