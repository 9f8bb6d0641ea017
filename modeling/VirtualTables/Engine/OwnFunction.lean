import VirtualTables.Engine.Names

/-!
# The functions of an engine

An engine has functions of its own. One that is registered under the same name replaces them for
good: they are not called again when it is removed. But the engine still knows the name, and says
another thing of a call than of one of an unknown name.
-/

namespace VirtualTables
namespace OwnFunction

/-- The functions that take any number of arguments, as registered ones do. -/
def variadicNames : List String :=
  ["char", "date", "datetime", "format", "json_array", "json_extract", "json_insert", "json_object",
    "json_remove", "json_replace", "json_set", "jsonb_array", "jsonb_extract", "jsonb_insert",
    "jsonb_object", "jsonb_remove", "jsonb_replace", "jsonb_set", "julianday", "printf", "strftime",
    "time", "unixepoch"]

/-- The functions with conditions on the number of their arguments. -/
def boundedNames : List String :=
  ["abs", "avg", "changes", "coalesce", "concat", "concat_ws", "count", "cume_dist", "dense_rank",
    "first_value", "glob", "group_concat", "hex", "if", "ifnull", "iif", "instr", "json",
    "json_array_length", "json_error_position", "json_group_array", "json_group_object",
    "json_patch", "json_pretty", "json_quote", "json_type", "json_valid", "jsonb",
    "jsonb_group_array", "jsonb_group_object", "jsonb_patch", "lag", "last_insert_rowid",
    "last_value", "lead", "length", "like", "likelihood", "likely", "load_extension", "lower",
    "ltrim", "max", "min", "nth_value", "ntile", "nullif", "octet_length", "percent_rank", "quote",
    "random", "randomblob", "rank", "replace", "round", "row_number", "rtrim", "sign", "soundex",
    "sqlite_compileoption_get", "sqlite_compileoption_used", "sqlite_log", "sqlite_source_id",
    "sqlite_version", "string_agg", "substr", "substring", "subtype", "sum", "timediff", "total",
    "total_changes", "trim", "typeof", "unhex", "unicode", "unistr", "unistr_quote", "unlikely",
    "upper", "zeroblob"]

/-- Whether an engine has a function of a name that takes any number of arguments. -/
def isVariadic (name : String) : Bool :=
  variadicNames.any (EngineName.same name)

/-- Whether an engine has a function of a name. -/
def isKnown (name : String) : Bool :=
  isVariadic name || boundedNames.any (EngineName.same name)

end OwnFunction
end VirtualTables
