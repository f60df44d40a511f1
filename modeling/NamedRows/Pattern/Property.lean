import NamedRows.Pattern.Break

/-!
# Names of properties

The sets that patterns ask for by name. A name alone stands for a yes-or-no property, a general category or a script
(`propertySet?`); a property with a value stands for the characters that have that value (`valueSet?`). Names are
compared in their loose form (`looseName`).
-/

namespace NamedRows.Pattern

open Unicode

/-- The loose form of a property's name: ASCII only, lower case, without spaces, hyphens, underscores and a leading
`is`. -/
def looseName (name : List Char) : String :=
  let isPrefixed := (name.take 2).map Char.toLower = ['i', 's']
  let kept := (if isPrefixed then name.drop 2 else name).filter fun c =>
    c.toNat < 128 && c ≠ ' ' && c ≠ '_' && c ≠ '-'
  let lower := kept.map Char.toLower
  if isPrefixed && lower = ['c'] then "isc" else String.ofList lower

/-- The general category, or group of categories, with a loose name. -/
def categorySet? (name : String) : Option CharSet :=
  if name = "any" then some .all
  else if name = "assigned" then some (.compl (.property (.category "cn")))
  else if name = "ascii" then some (.range '\x00' '\x7f')
  else
    match categoryGroups.find? fun g => g.1.contains name with
    | some group => some (.unions (group.2.map fun member => .property (.category member)))
    | none =>
      if (NamedSet.find? generalCategories name).isSome then some (.property (.category name)) else none

/-- The script with a loose name. -/
def scriptSet? (name : String) : Option CharSet :=
  if (NamedSet.find? scripts name).isSome then some (.property (.script name)) else none

/-- The characters used with the script of a loose name. -/
def scriptUseSet? (name : String) : Option CharSet :=
  if (NamedSet.find? scripts name).isSome then some (.property (.usedWith name)) else none

/-- The set a single property name stands for. Three abbreviations of categories are also abbreviations of properties;
they stand for the categories. -/
def propertySet? (name : List Char) : Option CharSet :=
  let loose := looseName name
  if ["cf", "sc", "lc"].contains loose then categorySet? loose
  else if (NamedSet.find? binaryProperties loose).isSome then some (.property (.binary loose))
  else (categorySet? loose).or (scriptSet? loose)

/-- The characters that the version of a loose name has. -/
def ageSet? (name : String) : Option CharSet :=
  if (agesUpTo name).isEmpty then none else some (.property (.age name))

/-- The set of the characters whose property has a given value. -/
def valueSet? (property value : List Char) : Option CharSet :=
  match looseName property with
  | "gc" | "generalcategory" => categorySet? (looseName value)
  | "sc" | "script" => scriptSet? (looseName value)
  | "scx" | "scriptextensions" => scriptUseSet? (looseName value)
  | "age" => ageSet? (looseName value)
  | "gcb" | "graphemeclusterbreak" => BreakClass.find? graphemeBreaks (looseName value)
  | "wb" | "wordbreak" => BreakClass.find? wordBreaks (looseName value)
  | "sb" | "sentencebreak" => BreakClass.find? sentenceBreaks (looseName value)
  | _ => none

end NamedRows.Pattern
