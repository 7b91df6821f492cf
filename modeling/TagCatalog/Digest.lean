import TagCatalog.Text.Split

/-!
# Content digests

A digest names the contents of a manifest: an algorithm, a colon and an encoded value. The
algorithm consists of components of lower-case letters and digits, joined by `+`, `.`, `_` or `-`;
the value consists of letters, digits, `=`, `_` and `-`. For the registered algorithms sha256,
sha384 and sha512 the value is lower-case hexadecimal of a fixed length.

* `Digest`, `Digest.text`;
* `Digest.Fault`, `Digest.Fault.message`;
* `Digest.parse`.
-/

namespace TagCatalog

/-- A manifest digest. -/
structure Digest where
  algorithm : String
  value : String
  deriving DecidableEq, Repr

namespace Digest

/-- The digest as the registry writes it. -/
def text (d : Digest) : String := d.algorithm ++ ":" ++ d.value

/-- Why a text is no digest. -/
inductive Fault where
  | missingColon
  | emptyComponent
  | badComponent (component : String)
  | emptyValue
  | badValue (value : String)
  | badLength (found expected : Nat)
  | notHexadecimal (value : String)
  deriving DecidableEq, Repr

/-- The wording of a fault. -/
def Fault.message : Fault → String
  | missingColon => "missing ':' in digest"
  | emptyComponent => "Empty algorithm component"
  | badComponent component => "Invalid algorithm component: " ++ component
  | emptyValue => "Empty algorithm value"
  | badValue value => "Invalid encoded value " ++ value
  | badLength found expected =>
    "Invalid digest length " ++ toString found ++ " expected " ++ toString expected
  | notHexadecimal value => "Invalid non-hexadecimal character in digest: " ++ value

/-- A character that separates the components of an algorithm. -/
def isSeparator (c : Char) : Bool := c == '+' || c == '.' || c == '_' || c == '-'

/-- A character of a component. -/
def isComponentChar (c : Char) : Bool := ('a' ≤ c && c ≤ 'z') || ('0' ≤ c && c ≤ '9')

/-- A character of a value. -/
def isValueChar (c : Char) : Bool := c.isAlphanum || c == '=' || c == '_' || c == '-'

/-- A lower-case hexadecimal digit. -/
def isHexChar (c : Char) : Bool := ('0' ≤ c && c ≤ '9') || ('a' ≤ c && c ≤ 'f')

/-- The number of digits that a registered algorithm asks for. -/
def expectedLength? (algorithm : List Char) : Option Nat :=
  if algorithm = "sha256".toList then some 64
  else if algorithm = "sha384".toList then some 96
  else if algorithm = "sha512".toList then some 128
  else none

/-- Checks a component of an algorithm. -/
def checkComponent (component : List Char) : Except Fault Unit :=
  if component = [] then .error .emptyComponent
  else if component.all isComponentChar then .ok ()
  else .error (.badComponent (String.ofList component))

/-- Checks the value of a registered algorithm. -/
def checkRegistered (algorithm value : List Char) : Except Fault Unit :=
  match expectedLength? algorithm with
  | none => .ok ()
  | some expected =>
    if value.length ≠ expected then .error (.badLength value.length expected)
    else if value.all isHexChar then .ok ()
    else .error (.notHexadecimal (String.ofList value))

/-- Reads a digest. -/
def parse (s : String) : Except Fault Digest :=
  match Text.splitFirst? ':' s.toList with
  | none => .error .missingColon
  | some (algorithm, value) => do
    (Text.splitOn isSeparator algorithm).forM checkComponent
    if value = [] then throw .emptyValue
    if !value.all isValueChar then throw (.badValue (String.ofList value))
    checkRegistered algorithm value
    return ⟨String.ofList algorithm, String.ofList value⟩

end Digest

end TagCatalog
