import TagCatalog.Double.Reader
import TagCatalog.Setting
import TagCatalog.Yaml.Reader

/-!
# Settings in YAML

* `Setting.ofNode`: the settings of a YAML node;
* `Setting.ofYaml`: the entries of a file of settings, which holds one mapping or nothing.

The names in a mapping are texts or integers. Reading a mapping with any other name has no result at
all, not even an error.
-/

namespace TagCatalog

/-- Why a file gives no settings. -/
inductive SettingFault where
  /-- The file is no YAML, or does not fit the settings. -/
  | unfit
  /-- Reading was given up, without an error. -/
  | abandoned
  deriving DecidableEq, Repr

namespace Setting

/-- The name that a key stands for. -/
def nameOf? : Yaml.Node → Option String
  | .text name => some name
  | .integer n => some (String.ofList (Text.signedDecimal n.toInt))
  | _ => none

mutual

/-- The settings of a node. A scalar that does not fit its tag is null. -/
def ofNode : Yaml.Node → Except SettingFault Setting
  | .null | .bad => .ok null
  | .boolean b => .ok (boolean b)
  | .integer n => .ok (integer n.toInt)
  | .real s =>
    match Double.ofText? s.toList with
    | some x => .ok (real x)
    | none => .error .unfit
  | .text s => .ok (text s)
  | .list ns => (ofItems ns).map list
  | .mapping es => (ofEntries es []).map table

/-- The settings of the items of a list. -/
def ofItems : List Yaml.Node → Except SettingFault (List Setting)
  | [] => .ok []
  | n :: ns => do
    let s ← ofNode n
    return s :: (← ofItems ns)

/-- The settings of the entries of a mapping, behind those of earlier entries. -/
def ofEntries : List (Yaml.Node × Yaml.Node) → List (String × Setting) →
    Except SettingFault (List (String × Setting))
  | [], done => .ok done
  | (key, value) :: es, done =>
    match nameOf? key with
    | none => .error .abandoned
    | some name => do
      let s ← ofNode value
      ofEntries es (replaceIn name s done)

end

/-- The entries of a file of settings. -/
def ofYaml (s : String) : Except SettingFault (List (String × Setting)) :=
  match Yaml.document? s with
  | none => .error .unfit
  | some none => .ok []
  | some (some n) =>
    match ofNode n with
    | .ok (table es) => .ok es
    | .ok _ => .error .unfit
    | .error fault => .error fault

end Setting

end TagCatalog
