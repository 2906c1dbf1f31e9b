import HitListing.Definitions
import HitListing.Project
import HitListing.Query
import HitListing.Store

/-!
# Search

The documents that hold every term of a query, in the order of their paths.
What a document holds are the words of its path and of its text, or in a
definition search the symbols that it defines.
-/

namespace HitListing.Search

/-- The words of a document's text, from its stored positions. -/
def storedTerms (positions : Option Bytes) : Except Fault (List Text) :=
  match positions with
  | none => .ok []
  | some bytes => do
    let fields ← (← Json.ofBytes bytes).fieldsOf
    let found ← ((Json.lookup "terms" fields).getD (.obj [])).each
    if found.all Json.isScalar then return found.filterMap Json.text? else throw .wrongKind

/-- What a document holds. -/
def termsOf (hit : Hit) (defSearch : Bool) : Except Fault (List Text) :=
  if defSearch then do
    (← Definitions.ofField hit.tags).lowerSymbols
  else do
    let stored ← storedTerms hit.positions
    return (words (hit.path.getD [])).map lower ++ stored

/-- Whether a document answers a query. -/
def answers (q : Query) (hit : Hit) : Except Fault Bool := do
  let found ← termsOf hit q.defSearch
  return q.terms.all found.contains

/-- The ids of the documents that answer a query.  A query without terms has no
answer. -/
def search (s : Store) (q : Query) : Except Fault (List Int) :=
  if q.terms.isEmpty then .ok []
  else do
    let hits ← s.list
    let found ← hits.filterM (answers q)
    return found.map (·.id)

end HitListing.Search
