import SqlSearch.Document.Clause
import SqlSearch.Document.Aggregation
import SqlSearch.Json.Printer

/-!
# Query documents

A query document is the body of a search request: what to match, which page of the matches to
return, which aggregations to compute and how to sort.

## Main definitions

* `Document`: the document
* `Document.toJson`: its written form, fields in the order query, page, aggregations, sort
* `Document.Form`, `Document.render`: the texts that can be asked for

## Design

Aggregations that are absent and aggregations that are present but empty are different
documents, and only the former are left out of the text. An empty sort list is left out.
-/

namespace SqlSearch

/-- The direction of a sort key. -/
inductive SortOrder where
  | asc
  | desc
  deriving DecidableEq, Repr

/-- The word for a direction in the document. -/
def SortOrder.key : SortOrder → String
  | .asc => "asc"
  | .desc => "desc"

/-- A field to sort by. -/
structure SortDirective where
  /-- The field. -/
  field : String
  /-- The direction. -/
  order : SortOrder
  deriving DecidableEq, Repr

/-- The body of a search request. -/
structure Document where
  /-- What a record has to match. -/
  query : Clause
  /-- How many matches to pass over. -/
  start : Nat
  /-- How many matches to return. -/
  size : Nat
  /-- What to compute from the matches. -/
  aggregations : Option Aggregations
  /-- How to sort the matches. -/
  sort : List SortDirective

namespace Document

/-- Something is computed from the matches. -/
def isAggregation (doc : Document) : Bool := doc.aggregations.isSome

/-- The written form of a sort key. -/
def sortToJson (directive : SortDirective) : Json :=
  .single directive.field (.str directive.order.key)

/-- The field with the aggregations, if there are any to write. -/
def aggregationField : Option Aggregations → List (String × Json)
  | none => []
  | some aggregations => [("aggregations", aggregations.toJson)]

/-- The field with the sort keys, if there are any. -/
def sortField : List SortDirective → List (String × Json)
  | [] => []
  | directives => [("sort", .arr (directives.map sortToJson))]

/-- The written form of a document. -/
def toJson (doc : Document) : Json :=
  .obj ([("query", doc.query.toJson), ("from", .num doc.start), ("size", .num doc.size)] ++
    aggregationField doc.aggregations ++ sortField doc.sort)

/-- The texts of a document. -/
inductive Form where
  /-- Without white space. -/
  | compact
  /-- One field or item on a line. -/
  | pretty
  /-- Without white space, the keys of every object in order. -/
  | sorted
  deriving DecidableEq, Repr

/-- The text of a document. -/
def render (doc : Document) : Form → String
  | .compact => doc.toJson.compact
  | .pretty => doc.toJson.pretty
  | .sorted => doc.toJson.sortKeys.compact

end Document

end SqlSearch
