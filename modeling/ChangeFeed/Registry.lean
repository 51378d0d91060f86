import ChangeFeed.Config.Error
import ChangeFeed.Handler
import ChangeFeed.Text.Quoted

/-!
# Registry of filters and source handlers

The names by which a configuration selects filters and source handlers.
-/

namespace ChangeFeed

/-- The filters and source handlers that a configuration may name (`HandlerRegistry`). -/
structure Registry where
  filters : Dictionary String Filter
  handlers : Dictionary String Handler

namespace Registry

/-- A registry of nothing (`HandlerRegistry.empty`). -/
def empty : Registry := ⟨[], []⟩

/-- Registers a filter; one of the same name is replaced (`HandlerRegistry.register_filter`). -/
def registerFilter (name : String) (f : Filter) (r : Registry) : Registry :=
  { r with filters := Dictionary.insert name f r.filters }

/-- Registers a source handler; one of the same name is replaced
(`HandlerRegistry.register_source_handler`). -/
def registerHandler (name : String) (h : Handler) (r : Registry) : Registry :=
  { r with handlers := Dictionary.insert name h r.handlers }

/-- The built-in filters and source handlers (`HandlerRegistry.default`). -/
def builtin : Registry :=
  empty
    |> registerFilter "all_pass" .allPass
    |> registerFilter "ignore_deletes" .ignoreDeletes
    |> registerHandler "raw_json" .rawJson
    |> registerHandler "raw_json_with_metadata" .rawJsonWithMetadata

/-- The filter of a name (`HandlerRegistry.filter`). -/
def filter (r : Registry) (name : String) : Except ConfigError Filter :=
  match Dictionary.find? name r.filters with
  | some f => .ok f
  | none => .error (.unknownFilter name)

/-- The source handler of a name (`HandlerRegistry.source_handler`). -/
def handler (r : Registry) (name : String) : Except ConfigError Handler :=
  match Dictionary.find? name r.handlers with
  | some h => .ok h
  | none => .error (.unknownHandler name)

/-- Names in brackets, quoted. -/
def listed (names : List String) : String :=
  "[" ++ ", ".intercalate (names.map Text.quoted) ++ "]"

/-- The names of a registry, for diagnosis (`HandlerRegistry.fmt`). -/
def summary (r : Registry) : String :=
  "HandlerRegistry \x7b filters: " ++ listed (Dictionary.keys r.filters) ++ ", handlers: " ++
    listed (Dictionary.keys r.handlers) ++ " \x7d"

end Registry

end ChangeFeed
