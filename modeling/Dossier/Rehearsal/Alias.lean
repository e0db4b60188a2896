import Dossier.Json.Revise
import Dossier.Store.Row
import Std.Data.HashMap

/-!
# Aliases

Identifiers differ from one rehearsal to the next; aliases do not.  Records are `r1`, `r2`, … in the
order in which they came into the store, a chunk is named by its record and its index, as in `r1:0`,
also once it is gone, and packs are `p1`, `p2`, … in the order in which they were handed out.
-/

namespace Dossier

/-- The aliases that were given so far. -/
structure Aliases where
  names : Std.HashMap Nat String := {}
  packs : List Id := []

namespace Aliases

/-- The alias of something unknown. -/
def unknown : String := "?"

/-- The aliases with those of the records and chunks of a store. -/
def learn (a : Aliases) (s : Store) : Aliases :=
  let records := s.records.mapIdx fun i r => (r.id.number, s!"r{i + 1}")
  let named := records.foldl (fun names (n, name) => names.insert n name) a.names
  { a with names := s.chunks.foldl (fun names c => names.insert c.id.number
      (named.getD c.record.number unknown ++ ":" ++ toString c.index)) named }

/-- The aliases with one for a pack. -/
def addPack (a : Aliases) (pack : Id) : Aliases :=
  let packs := a.packs ++ [pack]
  { names := a.names.insert pack.number s!"p{packs.length}", packs }

/-- The alias of an identifier that a text spells out. -/
def ofText? (a : Aliases) (text : String) : Option String :=
  if text.length = 36 then (Id.parse text).map fun id => a.names.getD id.number unknown else none

/-- What stands before the identifier of a pack in a reference. -/
def packMark : String := "pack:"

/-- A text with the alias in place of an identifier.  Unless the text has to be one, it stays as it
is when it spells out an unknown one. -/
def replace (a : Aliases) (isId : Bool) (text : String) : String :=
  let shorten (t : String) : String := match a.ofText? t with
    | some found => if found = unknown ∧ !isId then t else found
    | none => t
  if text.startsWith packMark then packMark ++ shorten (text.drop packMark.length).toString
  else shorten text

/-! ### What an alias stands for -/

/-- The item of a list that a letter and a number from one on stand for. -/
def numbered {α : Type} (items : List α) (text : String) : Option α := do
  let n ← (text.drop 1).toNat?
  if n = 0 then none else items[n - 1]?

/-- The pack that an alias stands for. -/
def pack? (a : Aliases) (text : String) : Option Id := numbered a.packs text

end Aliases

namespace Store

/-- The record that an alias stands for. -/
def recordOf? (s : Store) (text : String) : Option Id := (Aliases.numbered s.records text).map (·.id)

/-- The chunk that an alias stands for. -/
def chunkOf? (s : Store) (text : String) : Option Id :=
  match text.splitOn ":" with
  | [record, index] => do
    let record ← s.recordOf? record
    let index ← index.toInt?
    (s.chunks.find? fun c => c.record == record && c.index == index).map (·.id)
  | _ => none

/-- A value with identifiers of records in place of their aliases behind a dollar sign. -/
def spellOut (s : Store) (j : Json) : Json :=
  let leaf (_ : String) (v : Json) : Option Json := some <| match v with
    | .str t => if t.startsWith "$" then
        ((s.recordOf? (t.drop 1).toString).map fun id => Json.str id.text).getD v
      else v
    | other => other
  (j.revise leaf "").getD j

end Store

end Dossier
