import TagCatalog.Text.Blank
import TagCatalog.Text.Split

/-!
# Challenges

A registry that wants its clients authenticated answers with **challenges**, one to a header: a
scheme and, after a space, parameters `key=value`. A value is quoted, and then runs to the next
quote, or bare, and then runs to the next comma. Keys are compared without regard to case and the
last of equal keys counts; keys other than `realm`, `service` and `scope` are passed over.

* `Scheme`, `Challenge`;
* `Challenge.Fault`, `Challenge.Fault.message`;
* `Challenge.parameter`, `Challenge.parameters`: the parameters of a header;
* `Challenge.parse`.
-/

namespace TagCatalog

/-- An authentication scheme; any scheme without a meaning here is kept as spelled. -/
inductive Scheme where
  | basic
  | bearer
  | other (name : String)
  deriving DecidableEq, Repr

/-- The scheme of a name, without regard to case. -/
def Scheme.ofName (name : List Char) : Scheme :=
  let lower := name.map Char.toLower
  if lower = "basic".toList then .basic
  else if lower = "bearer".toList then .bearer
  else .other (String.ofList name)

/-- A challenge. -/
structure Challenge where
  scheme : Scheme
  realm : Option String
  service : Option String
  scope : Option String
  deriving DecidableEq, Repr

namespace Challenge

/-- Why a header is no challenge. -/
inductive Fault where
  | empty
  /-- What is left holds no `=`. -/
  | malformed (rest : String)
  | unterminated
  | noRealm
  deriving DecidableEq, Repr

/-- The wording of a fault. -/
def Fault.message : Fault → String
  | empty => "Empty WWW-Authenticate header"
  | malformed rest => "Malformed WWW-Authenticate parameter: " ++ rest
  | unterminated => "Unterminated quoted value in WWW-Authenticate"
  | noRealm => "Bearer challenge missing required 'realm' parameter"

/-- A parameter of a challenge. -/
structure Parameter where
  key : List Char
  value : List Char

/-- The value of a parameter and what follows it. -/
def value (s : List Char) : Except Fault (List Char × List Char) :=
  match s with
  | '"' :: quoted =>
    match Text.splitFirst? '"' quoted with
    | some parts => .ok parts
    | none => .error .unterminated
  | bare => .ok (Text.trim (bare.takeWhile (· != ',')), bare.dropWhile (· != ','))

/-- What follows a parameter without blanks, commas and blanks. -/
def afterSeparators (s : List Char) : List Char :=
  Text.trimStart ((Text.trimStart s).dropWhile (· == ','))

/-- The first parameter of a non-empty text, and the text after it and the separators. -/
def parameter (s : List Char) : Except Fault (Parameter × List Char) :=
  match Text.splitFirst? '=' s with
  | none => .error (.malformed (String.ofList s))
  | some (key, afterKey) => do
    let (value, rest) ← value (Text.trimStart afterKey)
    return (⟨Text.trim key, value⟩, afterSeparators rest)

theorem length_dropWhile_le (p : Char → Bool) (s : List Char) :
    (s.dropWhile p).length ≤ s.length := (List.dropWhile_sublist p).length_le

theorem length_trimStart_le (s : List Char) : (Text.trimStart s).length ≤ s.length :=
  length_dropWhile_le _ s

theorem length_afterSeparators_le (s : List Char) : (afterSeparators s).length ≤ s.length :=
  Nat.le_trans (length_trimStart_le _) (Nat.le_trans (length_dropWhile_le _ _) (length_trimStart_le s))

theorem length_value_le {s v rest : List Char} (h : value s = .ok (v, rest)) :
    rest.length ≤ s.length := by
  unfold value at h
  split at h
  · next quoted =>
    split at h
    · next parts hp =>
      cases h
      have := Text.length_lt_of_splitFirst? (a := v) (b := rest) hp
      simp only [List.length_cons]
      omega
    · simp at h
  · cases h
    exact length_dropWhile_le _ _

theorem length_parameter_lt {s : List Char} {p : Parameter} {rest : List Char}
    (h : parameter s = .ok (p, rest)) : rest.length < s.length := by
  unfold parameter at h
  split at h
  · simp at h
  · next key afterKey hk =>
    cases hv : value (Text.trimStart afterKey) with
    | error e => rw [hv] at h; simp [bind, Except.bind] at h
    | ok r =>
      obtain ⟨v, r⟩ := r
      rw [hv] at h
      simp only [bind, Except.bind, pure, Except.pure, Except.ok.injEq, Prod.mk.injEq] at h
      rw [← h.2]
      have h1 := length_value_le hv
      have h2 := length_afterSeparators_le r
      have h3 := length_trimStart_le afterKey
      have h4 := Text.length_lt_of_splitFirst? hk
      omega

/-- All parameters of a text without blanks in front. -/
def parametersFrom (s : List Char) : Except Fault (List Parameter) :=
  if s = [] then .ok []
  else
    match h : parameter s with
    | .error e => .error e
    | .ok (p, rest) =>
      have : rest.length < s.length := length_parameter_lt h
      (parametersFrom rest).map (p :: ·)
termination_by s.length

/-- The parameters of a header after its scheme. -/
def parameters (s : List Char) : Except Fault (List Parameter) := parametersFrom (Text.trim s)

/-- The value of the last parameter with a key, given in lower case. -/
def lastValue? (key : String) (ps : List Parameter) : Option String :=
  ((ps.reverse.find? fun p => p.key.map Char.toLower == key.toList).map fun p =>
    String.ofList p.value)

/-- The scheme and the rest of a header without blanks around it. -/
def splitScheme (s : List Char) : List Char × List Char := (Text.splitFirst? ' ' s).getD (s, [])

/-- Reads a challenge header. -/
def parse (header : String) : Except Fault Challenge :=
  match Text.trim header.toList with
  | [] => .error .empty
  | s => do
    let (name, rest) := splitScheme s
    let ps ← parameters rest
    let challenge : Challenge :=
      ⟨Scheme.ofName name, lastValue? "realm" ps, lastValue? "service" ps, lastValue? "scope" ps⟩
    if challenge.scheme = .bearer ∧ challenge.realm = none then throw .noRealm
    return challenge

end Challenge

end TagCatalog
