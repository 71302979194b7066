import RecordQuery.Setting.Inline
import RecordQuery.Settings

/-! Settings from environment variables: `QUERYKIT__PAGING__SIZE` is `size` inside `paging`. -/
namespace RecordQuery.Settings

def variableStart : String := "QUERYKIT__"

def variableNames : List String :=
  ["LOGGING__LEVEL", "LOGGING__JSON", "PAGING__SIZE", "PAGING__ORIGIN", "LIMITS__MAX_DEPTH",
    "LIMITS__MAX_CONDITIONS", "LIMITS__MAX_SORT_FIELDS", "TIEBREAKER"].map (variableStart ++ ·)

def splitNames : List Char → List Char
  | '_' :: '_' :: rest => '.' :: splitNames rest
  | c :: rest => c :: splitNames rest
  | [] => []

/-- The path that a variable sets, if it is one of ours and names every step. Case does not
matter, nor do blanks around the whole name or behind its start. -/
def variablePath? (name : String) : Option (List String) :=
  let cs := (trimBlank name.toList).map Char.toLower
  let start := variableStart.toList.map Char.toLower
  if start.isPrefixOf cs then
    let path := (trimBlank (splitNames (cs.drop start.length))).splitOn '.'
    if path.any List.isEmpty then none else some (path.map String.ofList)
  else none

/-- All variables make one layer, a later one going over an earlier one. -/
def variableLayer (bindings : List (String × String)) : Setting :=
  Setting.overlayAll <| bindings.filterMap fun v =>
    (variablePath? v.1).map fun path => Setting.nest path (.ofInline v.2)

end RecordQuery.Settings
