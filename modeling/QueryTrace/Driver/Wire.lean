import QueryTrace.Call.Args
import QueryTrace.Opcode.Term

/-!
# Building queries

A query is built by calling a root method of the driver and then chainable methods on the node that
the call gives. The wire form of a node is `[code, operands]`, with an object of the named options
as a third element when there are any; the node that a method is called on is its first operand.
-/

namespace QueryTrace.Wire

/-- The methods that start a query. -/
def rootMethods : List String :=
  ["db", "table", "table_create", "table_drop", "table_list", "db_create", "db_drop", "db_list",
   "expr", "js", "json", "http", "uuid", "now", "time", "epoch_time", "iso8601", "range",
   "random", "literal", "point", "line", "polygon", "circle", "geojson", "grant"]

/-- The methods that can be called on a node. -/
def chainMethods : List String :=
  ["eq", "ne", "lt", "le", "gt", "ge", "not", "and", "or", "add", "sub", "mul", "div", "mod",
   "floor", "ceil", "round", "bit_and", "bit_or", "bit_xor", "bit_not", "bit_sal", "bit_sar",
   "get", "get_all", "between", "filter", "nth", "bracket", "get_field", "slice", "skip",
   "limit", "sample", "map", "fold", "concat_map", "order_by", "distinct", "union",
   "with_fields", "offsets_of", "is_empty", "contains", "pluck", "without", "merge", "append",
   "prepend", "difference", "set_insert", "set_union", "set_intersection", "set_difference",
   "has_fields", "insert_at", "splice_at", "delete_at", "change_at", "keys", "values", "insert",
   "update", "replace", "delete", "sync", "match", "split", "upcase", "downcase", "coerce_to",
   "type_of", "to_json_string", "in_timezone", "timezone", "during", "date", "time_of_day",
   "year", "month", "day", "day_of_week", "day_of_year", "hours", "minutes", "seconds",
   "to_iso8601", "to_epoch_time", "distance", "fill", "includes", "intersects", "polygon_sub",
   "to_geojson", "get_intersecting", "get_nearest", "group", "ungroup", "reduce", "count", "sum",
   "avg", "min", "max", "inner_join", "outer_join", "eq_join", "zip", "do", "branch", "for_each",
   "default", "changes", "info", "index_create", "index_drop", "index_list", "index_rename",
   "index_status", "index_wait", "config", "rebalance", "reconfigure", "status", "wait", "grant",
   "get_write_hook", "set_write_hook", "table", "table_create", "table_drop", "table_list"]

/-- The term of a method. Two methods have names that differ from those of their terms. -/
def termName : String → String
  | "js" => "javascript"
  | "do" => "funcall"
  | name => name

/-- The number of a method's term, zero when it has none. -/
def code (method : String) : Nat :=
  (Term.code? (termName method)).getD 0

def term (code : Nat) (operands : List Value) (args : Args) : Value :=
  let head := [.ofWord (.ofNat code), .array (operands ++ args.positional)]
  .array (if args.named.isEmpty then head else head ++ [args.options])

/-- The wire form of a root call. An expression is its first argument. -/
def root (method : String) (args : Args) : Value :=
  if method = "expr" then args.positional.headD .null else term (code method) [] args

def chain (node : Value) (method : String) (args : Args) : Value :=
  term (code method) [node] args

/-- The options of a run say that nobody waits for an answer. -/
def wantsNoReply (options : Args) : Bool :=
  options.named.any fun
    | (name, .bool true) => name = "noreply"
    | _ => false

end QueryTrace.Wire
