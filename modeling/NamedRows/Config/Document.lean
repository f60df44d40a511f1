import NamedRows.Config
import NamedRows.Error
import NamedRows.Json.Reader

/-!
# Configurations as documents

A configuration is written as a JSON object with one member a setting (`Config.render`) and read from such an object or
from an array of the settings in order (`Config.parse`). A setting that is left out has its default, one that is given
twice is refused, and members that name no setting are passed over whatever they hold.
-/

namespace NamedRows.Config

/-- The names of the settings. -/
def keyMember : String := "identifying_column"

def overrunMember : String := "range_bounds"

def reportsMember : String := "log_events"

def textOf? : Json → Option String
  | .string s => s
  | _ => none

def flagOf? : Json → Option Bool
  | .bool b => some b
  | _ => none

/-- The policy of a name. -/
def overrunNamed? (name : String) : Option Overrun := [Overrun.clamp, Overrun.fail].find? fun o => o.name = name

/-- A policy: its name, or an object whose one member has that name and holds nothing. -/
def overrunOf? : Json → Option Overrun
  | .string (some name) => overrunNamed? name
  | .object [(some name, .null)] => overrunNamed? name
  | _ => none

/-- A setting, given the values found for it. -/
def setting? {α : Type} (read : Json → Option α) (default : α) : List Json → Option α
  | [] => some default
  | [value] => read value
  | _ => none

/-- The configuration whose settings have the given values. -/
def ofSettings? (key overrun reports : List Json) : Option Config := do
  let standard : Config := {}
  return {
    key := ← setting? textOf? standard.key key
    overrun := ← setting? overrunOf? standard.overrun overrun
    reports := ← setting? flagOf? standard.reports reports }

/-- The values of the members of a name. -/
def valuesOf (members : List (Option String × Json)) (name : String) : List Json :=
  (members.filter fun m => m.1 = some name).map Prod.snd

/-- The configuration a value holds. Every member needs a name that is a text. -/
def ofJson? : Json → Option Config
  | .object members =>
    if members.all fun m => m.1.isSome then
      ofSettings? (valuesOf members keyMember) (valuesOf members overrunMember) (valuesOf members reportsMember)
    else none
  | .array [] => ofSettings? [] [] []
  | .array [key] => ofSettings? [key] [] []
  | .array [key, overrun] => ofSettings? [key] [overrun] []
  | .array [key, overrun, reports] => ofSettings? [key] [overrun] [reports]
  | _ => none

/-- Reads a configuration. -/
def parse (document : String) : Except Error Config :=
  match (Json.parse? document).bind ofJson? with
  | some config => .ok config
  | none => .error (.malformed document .badConfig)

/-- The document of a configuration, without blanks. -/
def render (config : Config) : String :=
  let quoted := fun s => String.ofList (Json.leastEscaping.quoted s)
  let members := [(keyMember, quoted config.key), (overrunMember, quoted config.overrun.name),
    (reportsMember, toString config.reports)]
  "\x7b" ++ String.intercalate "," (members.map fun m => quoted m.1 ++ ":" ++ m.2) ++ "\x7d"

end NamedRows.Config
