import StoredCall.Dialect
import StoredCall.Traced

/-!
# Metadata sources

Where the facts about a database and its routines come from. A source answers look-ups from a list
of signatures and remembers the look-ups that it was asked.

* `MetadataSource.find`: the signatures that a filter admits;
* `MetadataSource.loadColumns`: the columns of the one routine that a filter admits, in ordinal
  order;
* `Dialect.forDatabase`: the dialect for a kind of call to a database.
-/

namespace StoredCall

/-- A source of metadata. -/
structure MetadataSource where
  info : DatabaseInfo := .ofProduct "Microsoft SQL Server"
  signatures : List Signature := []
  /-- The reason for which every look-up fails. -/
  failure : Option String := none
  /-- The look-ups received, oldest first. -/
  lookups : List RoutineName := []

namespace MetadataSource

variable (source : MetadataSource)

/-- The source after a look-up. -/
def record (lookup : RoutineName) : MetadataSource :=
  { source with lookups := source.lookups ++ [lookup] }

/-- The source with its memory of look-ups cleared. -/
def forget : MetadataSource := { source with lookups := [] }

/-- The signatures that the filter admits. -/
def find (lookup : RoutineName) : Except MetadataError (List Signature) :=
  match source.failure with
  | some reason => .error (.source reason)
  | none => .ok (source.signatures.filter fun s => lookup.admits s.routine)

/-- The only signature found. -/
def single (lookup : RoutineName) : List Signature → Except MetadataError Signature
  | [] => .error (.procedureNotFound lookup.text)
  | [s] => .ok s
  | found => .error (.ambiguousSignature lookup.text (found.map (·.routine.text)))

/-- The signature of the one routine that the filter admits. -/
def signature (lookup : RoutineName) : Except MetadataError Signature :=
  source.find lookup >>= single lookup

/-- What a look-up reports by itself. -/
def findEvents (lookup : RoutineName) : List Event :=
  if source.failure.isSome then [.lookupFailing lookup.text] else []

/-- The columns of the one routine that the filter admits, in ordinal order. -/
def loadColumns (lookup : RoutineName) : Traced (Except MetadataError (List Column)) :=
  match source.signature lookup with
  | .error e => ⟨.error e, source.findEvents lookup⟩
  | .ok s => ⟨.ok (inOrdinalOrder s.columns), [.columnsLoaded s.routine.text s.columns.length]⟩

/-- The source in diagnostics. -/
def diagnostic : String :=
  Text.quoteRecord "MockMetadataSource"
    [("product", Text.quote source.info.product), ("signatures", toString source.signatures.length),
     ("failing", toString source.failure.isSome), ("lookups", toString source.lookups.length)]

end MetadataSource

namespace Dialect

/-- The dialect for calls of one kind: columns are used if the call wants them and the database
reports them for that kind. -/
def forCalls (info : DatabaseInfo) (isFunction useColumns : Bool) : Dialect :=
  { forFamily info with columnsUsed := useColumns && info.family.reportsColumns isFunction }

/-- The dialect for calls of one kind, reporting the choice. -/
def forDatabase (info : DatabaseInfo) (isFunction useColumns : Bool) : Traced Dialect :=
  let d := forCalls info isFunction useColumns
  let unsupported := useColumns && !info.family.reportsColumns isFunction
  ⟨d, (if unsupported then [.columnsUnsupported info.product isFunction] else [])
    ++ [.dialectChosen info.family d.columnsUsed]⟩

end Dialect

end StoredCall
