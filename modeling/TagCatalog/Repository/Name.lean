import TagCatalog.Text.Split

/-!
# Repository names

A repository name is a list of path components, joined by `/`, that may begin with a registry host.
It carries no tag and no digest, and what follows a registry host is at most 255 characters long.

* `RepositoryName.Fault`, `RepositoryName.Fault.message?`;
* `isPathComponent`, `isHost`, `matchesGrammar`: the grammar;
* `repositoryPart`: the name without its registry host;
* `RepositoryName`, `RepositoryName.parse`, `RepositoryName.pullScope`.
-/

namespace TagCatalog

namespace RepositoryName

/-- Why a text is no repository name. -/
inductive Fault where
  /-- The text is empty. -/
  | empty
  /-- A tag or digest follows the name. -/
  | suffixed
  /-- The grammar does not admit the text. -/
  | malformed
  /-- The repository part is too long. -/
  | tooLong
  deriving DecidableEq, Repr

/-- The wording of the faults that the grammar of references finds. -/
def Fault.message? : Fault → Option String
  | malformed => some "invalid reference format"
  | tooLong => some "repository name must not be more than 255 characters"
  | empty | suffixed => none

/-! ## The grammar -/

/-- Where a reader of a path component stands. -/
inductive ComponentState where
  | start
  | word
  | dot
  | underscore
  | twoUnderscores
  | dashes
  deriving DecidableEq

/-- A lower-case letter or a digit. -/
def isWordChar (c : Char) : Bool := ('a' ≤ c && c ≤ 'z') || ('0' ≤ c && c ≤ '9')

/-- One character of a path component: words are separated by a dot, one or two underscores or any
number of dashes. -/
def ComponentState.step? : ComponentState → Char → Option ComponentState
  | start, c => if isWordChar c then some word else none
  | word, c =>
    if isWordChar c then some word
    else if c == '.' then some dot
    else if c == '_' then some underscore
    else if c == '-' then some dashes
    else none
  | underscore, c =>
    if isWordChar c then some word else if c == '_' then some twoUnderscores else none
  | dashes, c => if isWordChar c then some word else if c == '-' then some dashes else none
  | dot, c | twoUnderscores, c => if isWordChar c then some word else none

/-- A path component. -/
def isPathComponent (s : List Char) : Bool :=
  s.foldlM ComponentState.step? ComponentState.start == some .word

/-- A label of a host: letters, digits and inner dashes. -/
def isLabel (s : List Char) : Bool :=
  s.all (fun c => c.isAlphanum || c == '-') &&
    (s.head?.map Char.isAlphanum).getD false && (s.getLast?.map Char.isAlphanum).getD false

/-- A name of labels joined by dots. -/
def isDomain (s : List Char) : Bool := (Text.splitAll '.' s).all isLabel

/-- A registry host, perhaps with a port. -/
def isHost (s : List Char) : Bool :=
  match Text.splitFirst? ':' s with
  | none => isDomain s
  | some (domain, port) => isDomain domain && port != [] && port.all Char.isDigit

/-- The grammar of names. -/
def matchesGrammar (s : List Char) : Bool :=
  match Text.splitAll '/' s with
  | first :: rest =>
    rest.all isPathComponent && (isPathComponent first || (isHost first && rest != []))
  | [] => false

/-! ## The registry host -/

/-- The name of the default registry. -/
def defaultRegistry : List Char := "docker.io".toList

/-- Its other name. -/
def defaultRegistryAlias : List Char := "index.docker.io".toList

/-- The first component names a registry: it has a dot or a colon, or is the local host. -/
def namesRegistry (s : List Char) : Bool := s.contains '.' || s.contains ':' || s == "localhost".toList

/-- The name without its registry host; a name of one component on the default registry stands
below `library/`. -/
def repositoryPart (s : List Char) : List Char :=
  let (isDefault, repository) := match Text.splitFirst? '/' s with
    | some (first, rest) =>
      if namesRegistry first then (first == defaultRegistry || first == defaultRegistryAlias, rest)
      else (true, s)
    | none => (true, s)
  if isDefault && !repository.contains '/' then "library/".toList ++ repository else repository

/-- The greatest length of a repository part. -/
def maxLength : Nat := 255

/-- A tag or digest follows the name: an `@` anywhere, or a colon in the last component. -/
def isSuffixed (s : List Char) : Bool :=
  s.contains '@' || ((Text.splitAll '/' s).getLast?.map (·.contains ':')).getD false

/-- What is wrong with a text as a repository name. -/
def fault? (s : List Char) : Option Fault :=
  if s = [] then some .empty
  else if isSuffixed s then some .suffixed
  else if !matchesGrammar s then some .malformed
  else if maxLength < (repositoryPart s).length then some .tooLong
  else none

end RepositoryName

/-- A repository name, spelled as it was given. -/
structure RepositoryName where
  text : String
  valid : RepositoryName.fault? text.toList = none

namespace RepositoryName

/-- Reads a repository name. -/
def parse (s : String) : Except Fault RepositoryName :=
  match h : fault? s.toList with
  | none => .ok ⟨s, h⟩
  | some fault => .error fault

/-- The scope of a token that grants pulling from the repository. -/
def pullScope (name : RepositoryName) : String := "repository:" ++ name.text ++ ":pull"

end RepositoryName

end TagCatalog
