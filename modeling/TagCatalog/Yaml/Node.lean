import TagCatalog.Double.Reader
import TagCatalog.Text.Hex
import TagCatalog.Yaml.Token

/-!
# YAML nodes

The values of a YAML document. A scalar in quotes or with a tag of its own is text; a plain scalar
is read by its look.

* `Yaml.Node`, with equality `Node.same`;
* `Node.ofPlain`: a plain scalar without a tag;
* `Node.ofTagged`: a plain scalar with a tag of the core schema.
-/

namespace TagCatalog.Yaml

/-- A value of a YAML document. -/
inductive Node where
  | null
  | boolean (value : Bool)
  | integer (value : Int64)
  /-- A number that is no integer, as it is written. -/
  | real (text : String)
  | text (value : String)
  | list (items : List Node)
  | mapping (entries : List (Node × Node))
  /-- A scalar that does not fit its tag, or an alias of a node that it stands in. -/
  | bad

namespace Node

mutual

/-- Two nodes are equal. -/
def same : Node → Node → Bool
  | null, null | bad, bad => true
  | boolean a, boolean b => a == b
  | integer a, integer b => a == b
  | real a, real b | text a, text b => a == b
  | list as, list bs => sameItems as bs
  | mapping as, mapping bs => sameEntries as bs
  | _, _ => false

/-- Two lists of nodes are equal. -/
def sameItems : List Node → List Node → Bool
  | [], [] => true
  | a :: as, b :: bs => same a b && sameItems as bs
  | _, _ => false

/-- Two lists of entries are equal. -/
def sameEntries : List (Node × Node) → List (Node × Node) → Bool
  | [], [] => true
  | (k, v) :: as, (l, w) :: bs => same k l && same v w && sameEntries as bs
  | _, _ => false

end

/-- The value `bad`. -/
def isBad : Node → Bool
  | bad => true
  | _ => false

/-- Reads a signed numeral in a base that fits a signed word, by the values of its digits. -/
def basedInteger? (base : Nat) (s : List Char) : Option Int64 :=
  let digits? := fun t : List Char =>
    if t = [] then none
    else (t.mapM Text.hexValue?).bind fun ds =>
      if ds.all (· < base) then some (ds.foldl (fun n d => base * n + d) 0) else none
  match s with
  | '-' :: t => (digits? t).bind fun n => Text.int64OfInt? (-(n : Int))
  | '+' :: t => (digits? t).bind fun n => Text.int64OfInt? n
  | t => (digits? t).bind fun n => Text.int64OfInt? n

/-- Reads an integer behind a prefix: of a base, or a further sign. -/
def prefixedInteger? : List Char → Option Int64
  | '0' :: 'x' :: s => basedInteger? 16 s
  | '0' :: 'o' :: s => basedInteger? 8 s
  | '+' :: s => Text.int64? s
  | _ => none

/-- A word for an infinity or for no number, with a point. -/
def isPointedWord (s : String) : Bool :=
  [".inf", ".Inf", ".INF", "+.inf", "+.Inf", "+.INF", "-.inf", "-.Inf", "-.INF",
    ".nan", ".NaN", ".NAN"].contains s

/-- A text is a number. -/
def isReal (s : String) : Bool := isPointedWord s || (Double.ofText? s.toList).isSome

/-- A plain scalar without a tag. -/
def ofPlain (s : String) : Node :=
  match prefixedInteger? s.toList with
  | some n => integer n
  | none =>
    if s == "~" || s == "null" then null
    else if s == "true" then boolean true
    else if s == "false" then boolean false
    else match Text.int64? s.toList with
      | some n => integer n
      | none => if isReal s then real s else text s

/-- A plain scalar with a tag of the core schema. -/
def ofTagged (type s : String) : Node :=
  if type == "bool" then
    if s == "true" then boolean true else if s == "false" then boolean false else bad
  else if type == "int" then
    match Text.int64? s.toList with
    | some n => integer n
    | none => bad
  else if type == "float" then if isReal s then real s else bad
  else if type == "null" then if s == "~" || s == "null" then null else bad
  else text s

end Node

end TagCatalog.Yaml
