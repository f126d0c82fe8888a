import SqlReview.Json.Basic
import SqlReview.Query.Structure

/-!
# Structures as documents

The structure of a query written as a document: one field for every signal, in a fixed order.
-/

namespace SqlReview
namespace Query

/-- A join as a document. -/
def Join.toJson (join : Join) : Json :=
  .object [
    ("left_table", .string join.left),
    ("right_table", .string join.right),
    ("join_type", .string join.kind),
    ("has_on_clause", .bool join.hasOn),
    ("has_using_clause", .bool join.hasUsing)]

/-- A compared column as a document. -/
def WhereColumn.toJson (column : WhereColumn) : Json :=
  .object [
    ("name", .string column.name),
    ("wrapped_in_function", .bool column.isWrapped),
    ("leading_wildcard_like", .bool column.hasLeadingWildcard)]

/-- The use of an aggregate as a document. -/
def Aggregate.toJson (aggregate : Aggregate) : Json :=
  .object [
    ("function", .string aggregate.function),
    ("distinct", .bool aggregate.isDistinct)]

end Query

/-- The structure of a query as a document. -/
def Structure.toJson (query : Structure) : Json :=
  .object [
    ("tables", .array (query.tables.map .string)),
    ("aliases", .object (query.aliases.map fun entry => (entry.1, .string entry.2))),
    ("joins", .array (query.joins.map Query.Join.toJson)),
    ("where_columns", .array (query.whereColumns.map Query.WhereColumn.toJson)),
    ("has_where", .bool query.hasWhere),
    ("has_or_in_where", .bool query.hasOrInWhere),
    ("has_index_hint", .bool query.hasIndexHint),
    ("select_columns", .array (query.selectColumns.map .string)),
    ("select_has_aggregate", .bool query.selectHasAggregate),
    ("group_by_columns", .array (query.groupByColumns.map .string)),
    ("order_by_columns", .array (query.orderByColumns.map .string)),
    ("has_limit", .bool query.hasLimit),
    ("aggregates", .array (query.aggregates.map Query.Aggregate.toJson)),
    ("subquery_count", .nat query.subqueryCount),
    ("selects_all_columns", .bool query.selectsAllColumns)]

end SqlReview
