import TagCatalog.Double

/-!
# Settings

A tree of settings, as a file or the environment gives it. The names in a table differ in more than
the case of their letters.

* `Setting`;
* `Setting.lowerName`: a name in lower case;
* `Setting.get`: the setting with a name;
* `Setting.merge`: puts a setting in a table under a name; tables are merged deeply, anything else
  replaces what was there.
-/

namespace TagCatalog

/-- A tree of settings. -/
inductive Setting where
  | null
  | boolean (value : Bool)
  | integer (value : Int)
  | real (value : Double)
  | text (value : String)
  | list (items : List Setting)
  | table (entries : List (String × Setting))

namespace Setting

/-- A letter in lower case. One letter outside ASCII, the sign of the unit kelvin, has a lower case
within ASCII; the case of the others makes no difference to a name that is looked up. -/
def lowerChar (c : Char) : Char := if c == '\u212A' then 'k' else c.toLower

/-- A name in lower case. -/
def lowerName (name : String) : String := String.ofList (name.toList.map lowerChar)

/-- The table without entries. -/
def empty : Setting := table []

/-- The entries of a table; anything else has none. -/
def entries : Setting → List (String × Setting)
  | table es => es
  | _ => []

/-- The items of a list; anything else has none. -/
def items : Setting → List Setting
  | list ss => ss
  | _ => []

/-- The setting with a name. -/
def get (s : Setting) (name : String) : Option Setting :=
  (s.entries.find? (·.1 == name)).map (·.2)

/-- The entries with another setting under a name. -/
def replaceIn (name : String) (s : Setting) : List (String × Setting) → List (String × Setting)
  | [] => [(name, s)]
  | e :: es => if e.1 == name then (name, s) :: es else e :: replaceIn name s es

/-- A table with another setting under a name; anything else becomes a table. -/
def put (s : Setting) (name : String) (value : Setting) : Setting :=
  table (replaceIn name value s.entries)

mutual

/-- Puts a setting in a table under a name in lower case. The entries of a table are merged into what
is there. -/
def merge (s : Setting) (name : String) : Setting → Setting
  | table es => s.put (lowerName name) (mergeAll es ((s.get (lowerName name)).getD empty))
  | value => s.put (lowerName name) value

/-- Merges entries into a table. -/
def mergeAll : List (String × Setting) → Setting → Setting
  | [], s => s
  | (name, value) :: es, s => mergeAll es (merge s name value)

end

end Setting

end TagCatalog
