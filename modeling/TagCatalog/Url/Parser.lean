import TagCatalog.Url
import TagCatalog.Url.Domain

/-!
# Reading URLs

The reader of the URL Standard, written as a chain of cuts: control characters and blanks are
dropped, then the text is cut at the scheme, the authority, the path, the query and the fragment,
and each part is encoded.

* `Url.Fault`, `Url.Fault.message`;
* `Url.parse`, `Url.join`: an absolute URL, and a reference relative to another URL;
* `Path.build`: the segments of a path, with `.` and `..` resolved.
-/

namespace TagCatalog.Url

/-- Why a text is no URL. -/
inductive Fault where
  | emptyHost
  | badDomain
  | badPort
  | badIpv4
  | badIpv6
  | badHostCharacter
  | noBase
  | opaqueBase
  deriving DecidableEq, Repr

/-- The wording of a fault. -/
def Fault.message : Fault → String
  | emptyHost => "empty host"
  | badDomain => "invalid international domain name"
  | badPort => "invalid port number"
  | badIpv4 => "invalid IPv4 address"
  | badIpv6 => "invalid IPv6 address"
  | badHostCharacter => "invalid domain character"
  | noBase => "relative URL without a base"
  | opaqueBase => "relative URL with a cannot-be-a-base base"

/-! ## Cuts -/

/-- The text without control characters and blanks at its ends, and without tabs and line ends. -/
def cleaned (s : List Char) : List Char :=
  let outer := fun c : Char => decide (c.toNat ≤ 0x20)
  let inner := (((s.dropWhile outer).reverse).dropWhile outer).reverse
  inner.filter fun c => !(c == '\t' || c == '\n' || c == '\r')

/-- A character of a scheme after its first letter. -/
def isSchemeChar (c : Char) : Bool := c.isAlphanum || c == '+' || c == '-' || c == '.'

/-- The scheme, in lower case, and what follows its colon. -/
def splitScheme? : List Char → Option (String × List Char)
  | c :: s =>
    if c.isAlpha then
      match (c :: s).dropWhile isSchemeChar with
      | ':' :: rest => some (String.ofList (((c :: s).takeWhile isSchemeChar).map Char.toLower), rest)
      | _ => none
    else none
  | [] => none

/-- A slash, which a special scheme may also write as a backslash. -/
def isSlash (special : Bool) (c : Char) : Bool := c == '/' || (special && c == '\\')

/-- A character that ends the authority. -/
def endsAuthority (special : Bool) (c : Char) : Bool := isSlash special c || c == '?' || c == '#'

/-- A character that ends the path. -/
def endsPath (c : Char) : Bool := c == '?' || c == '#'

/-- The query and fragment of what follows a path, encoded. -/
def tail (special : Bool) (s : List Char) : Option String × Option String :=
  let encode := fun set t => String.ofList (percentEncode set t)
  let fragmentOf := fun t : List Char => match t with
    | '#' :: f => some (encode inFragment f)
    | _ => none
  match s with
  | '?' :: q =>
    (some (encode (if special then inSpecialQuery else inQuery) (q.takeWhile (· != '#'))),
      fragmentOf (q.dropWhile (· != '#')))
  | t => (none, fragmentOf t)

/-! ## Paths -/

namespace Path

/-- A segment that stands for the directory it is in. -/
def isDot (s : List Char) : Bool := s == ['.'] || s.map Char.toLower == ['%', '2', 'e']

/-- A segment that stands for the directory above. -/
def isDoubleDot (s : List Char) : Bool :=
  let t := s.map Char.toLower
  t == ['.', '.'] || t == ['.', '%', '2', 'e'] || t == ['%', '2', 'e', '.'] ||
    t == ['%', '2', 'e', '%', '2', 'e']

/-- A drive letter with its colon. -/
def isDrive : List Char → Bool
  | [c, ':'] => c.isAlpha
  | _ => false

/-- A drive letter with its colon, or a bar in its place. -/
def isDriveLike : List Char → Bool
  | [c, d] => c.isAlpha && (d == ':' || d == '|')
  | _ => false

/-- The path without its last segment; a file path keeps its drive. -/
def shortened (file : Bool) (path : List String) : List String :=
  match path with
  | [s] => if file && isDrive s.toList then path else []
  | _ => path.dropLast

/-- Adds one piece, given as it is written, to a path; `last` when no slash follows it. -/
def push (file last : Bool) (path : List String) (piece : List Char) : List String :=
  let encoded := percentEncode inPath piece
  if isDoubleDot encoded then
    if last then shortened file path ++ [""] else shortened file path
  else if isDot encoded then if last then path ++ [""] else path
  else if file && path == [] && isDriveLike encoded then
    path ++ [String.ofList (encoded.take 1 ++ [':'])]
  else path ++ [String.ofList encoded]

/-- Adds the pieces between slashes to a path. -/
def extend (file : Bool) (path : List String) : List (List Char) → List String
  | [] => path
  | [piece] => push file true path piece
  | piece :: rest => extend file (push file false path piece) rest

/-- The segments of a path that continues `path`, from the text after its slash. -/
def build (special file : Bool) (path : List String) (s : List Char) : List String :=
  extend file path (Text.splitOn (isSlash special) s)

end Path

/-! ## Hosts -/

/-- The host of a special scheme. -/
def parseHost (s : List Char) : Except Fault Host :=
  match s with
  | '[' :: inner =>
    if inner.getLast? = some ']' then
      match Ipv6.parse? inner.dropLast with
      | some pieces => .ok (.ipv6 pieces)
      | none => .error .badIpv6
    else .error .badIpv6
  | _ =>
    match Domain.toAscii? (Text.Utf8.decodeLossy (percentDecode s)) with
    | none => .error .badDomain
    | some [] => .error .emptyHost
    | some name =>
      if Ipv4.endsInNumber name then
        match Ipv4.parse? name with
        | some address => .ok (.ipv4 address)
        | none => .error .badIpv4
      else .ok (.domain (String.ofList name))

/-- A character that no host may hold as it is. -/
def isForbiddenHostChar (c : Char) : Bool :=
  c.toNat == 0 || c == '\t' || c == '\n' || c == '\r' || c == ' ' || c == '#' || c == '/' ||
    c == ':' || c == '<' || c == '>' || c == '?' || c == '@' || c == '[' || c == '\\' ||
    c == ']' || c == '^' || c == '|'

/-- The host of a scheme without special rules. -/
def parseOpaqueHost (s : List Char) : Except Fault Host :=
  match s with
  | '[' :: inner =>
    if inner.getLast? = some ']' then
      match Ipv6.parse? inner.dropLast with
      | some pieces => .ok (.ipv6 pieces)
      | none => .error .badIpv6
    else .error .badIpv6
  | _ =>
    if s.any isForbiddenHostChar then .error .badHostCharacter
    else .ok (.domain (String.ofList (percentEncode isControl s)))

/-- The host before the colon of the port; brackets hold their colons. -/
def hostLength (inBrackets : Bool) : List Char → Nat
  | [] => 0
  | c :: s =>
    if c == ':' && !inBrackets then 0
    else 1 + hostLength (if c == '[' then true else if c == ']' then false else inBrackets) s

/-- The port of a scheme: digits, none for the default port or without any digit. -/
def parsePort (scheme : String) (digits : List Char) : Except Fault (Option Nat) :=
  if digits.all Char.isDigit ∧ Text.digitsValue digits ≤ 65535 then
    let port := Text.digitsValue digits
    .ok (if digits = [] ∨ defaultPort? scheme = some port then none else some port)
  else .error .badPort

/-- The user name and password of the text before the `@`, encoded. -/
def parseUser (s : List Char) : String × String :=
  let encode := fun t => String.ofList (percentEncode inUserinfo t)
  match Text.splitFirst? ':' s with
  | none => (encode s, "")
  | some (name, password) => (encode name, encode password)

/-! ## Parts after the scheme -/

/-- A URL from its authority, given as it is written, and what follows it. -/
def withAuthority (scheme : String) (s : List Char) : Except Fault Url := do
  let special := isSpecialScheme scheme
  let authority := s.takeWhile (!endsAuthority special ·)
  let rest := s.dropWhile (!endsAuthority special ·)
  let (user, hostPort) := match Text.splitLast? '@' authority with
    | some (user, hostPort) => (some user, hostPort)
    | none => (none, authority)
  let (username, password) := parseUser (user.getD [])
  let hostText := hostPort.take (hostLength false hostPort)
  let afterHost := hostPort.drop (hostLength false hostPort)
  if hostText = [] ∧ (special ∨ afterHost ≠ [] ∨ username ≠ "" ∨ password ≠ "" ∨
      (user = some [] ∧ rest ≠ [])) then
    throw .emptyHost
  let host ← if special then parseHost hostText else parseOpaqueHost hostText
  let portText := afterHost.drop 1
  let (digits, rest) :=
    if special then (portText, rest)
    else (portText.takeWhile (· != '\\'), portText.dropWhile (· != '\\') ++ rest)
  let port ← parsePort scheme digits
  let pathText := rest.takeWhile (!endsPath ·)
  let (query, fragment) := tail special (rest.dropWhile (!endsPath ·))
  let path := match pathText with
    | [] => if special then [""] else []
    | c :: t => Path.build special false [] (if isSlash special c then t else c :: t)
  return ⟨scheme, username, password, some host, port, .segments path, query, fragment⟩

/-- A URL of a scheme without special rules. -/
def withoutRules (scheme : String) (s : List Char) : Except Fault Url :=
  match s with
  | '/' :: '/' :: t => withAuthority scheme t
  | _ =>
    let pathText := s.takeWhile (!endsPath ·)
    let (query, fragment) := tail false (s.dropWhile (!endsPath ·))
    let path := match pathText with
      | '/' :: t => Path.segments (Path.build false false [] t)
      | t => Path.opaque_ (String.ofList (percentEncode isControl t))
    .ok ⟨scheme, "", "", none, none, path, query, fragment⟩

/-- A file URL. `base` is the file URL it may be relative to. -/
def fileUrl (base : Option Url) (s : List Char) : Except Fault Url := do
  let pathAndTail := fun (host : Option Host) (start : List String) (t : List Char) =>
    let (query, fragment) := tail true (t.dropWhile (!endsPath ·))
    let pathText := t.takeWhile (!endsPath ·)
    (⟨"file", "", "", host, none, .segments (Path.build true true start pathText), query,
      fragment⟩ : Url)
  let drop := fun t : List Char => match t with
    | c :: r => if isSlash true c then r else c :: r
    | [] => []
  match s with
  | c :: d :: t =>
    if isSlash true c && isSlash true d then
      let hostText := t.takeWhile (!endsAuthority true ·)
      let rest := t.dropWhile (!endsAuthority true ·)
      if Path.isDriveLike hostText then return pathAndTail (some (.domain "")) [] t
      else
        let host ← if hostText = [] then pure (.domain "") else parseHost hostText
        let host := if host = .domain "localhost" then .domain "" else host
        return pathAndTail (some host) [] (drop rest)
    else if isSlash true c then
      return pathAndTail ((base.bind (·.host)).getD (.domain "")) [] (d :: t)
    else relative base s pathAndTail
  | _ => relative base s pathAndTail
where
  /-- A file reference without a slash in front. -/
  relative (base : Option Url) (s : List Char)
      (pathAndTail : Option Host → List String → List Char → Url) : Except Fault Url :=
    match base with
    | none => .ok (pathAndTail (some (.domain "")) [] s)
    | some b =>
      let start := match b.path with
        | .segments list => list
        | .opaque_ _ => []
      match s with
      | [] => .ok b.withoutFragment
      | '?' :: _ =>
        let (query, fragment) := tail true s
        .ok { b with query := query, fragment := fragment }
      | '#' :: _ => .ok { b with fragment := (tail true s).2 }
      | _ => .ok (pathAndTail b.host (Path.shortened true start) s)

/-- A reference without a scheme, relative to a URL whose path has segments. -/
def relativeTo (base : Url) (segments : List String) (s : List Char) : Except Fault Url :=
  let special := isSpecialScheme base.scheme
  let continued := fun (start : List String) (t : List Char) =>
    let (query, fragment) := tail special (t.dropWhile (!endsPath ·))
    { base with
      path := .segments (Path.build special false start (t.takeWhile (!endsPath ·)))
      query := query
      fragment := fragment }
  match s with
  | [] => .ok base.withoutFragment
  | '?' :: _ =>
    let (query, fragment) := tail special s
    .ok { base with query := query, fragment := fragment }
  | '#' :: _ => .ok { base with fragment := (tail special s).2 }
  | '/' :: '/' :: t => withAuthority base.scheme t
  | c :: t =>
    if isSlash special c then
      if (t.head?.map (isSlash special)).getD false then
        withAuthority base.scheme (s.dropWhile (isSlash special))
      else .ok (continued [] t)
    else .ok (continued segments.dropLast s)

/-- A reference that may be relative to `base`. -/
def resolve (base : Option Url) (input : String) : Except Fault Url :=
  let s := cleaned input.toList
  match splitScheme? s with
  | some (scheme, rest) =>
    if scheme = "file" then fileUrl (base.filter (·.scheme == "file")) rest
    else if isSpecialScheme scheme then
      let slashes := rest.takeWhile (isSlash true)
      match base.filter (·.scheme == scheme), slashes with
      | some b, [] => relative b rest
      | some b, [_] => relative b rest
      | _, _ => withAuthority scheme (rest.dropWhile (isSlash true))
    else withoutRules scheme rest
  | none =>
    match base with
    | none => .error .noBase
    | some b =>
      if b.scheme = "file" then fileUrl (some b) s
      else relative b s
where
  /-- A reference relative to a URL; with an opaque path only a fragment can be replaced. -/
  relative (b : Url) (s : List Char) : Except Fault Url :=
    match b.path with
    | .segments list => relativeTo b list s
    | .opaque_ _ =>
      match s with
      | '#' :: _ => .ok { b with fragment := (tail false s).2 }
      | _ => .error .opaqueBase

/-- Reads an absolute URL. -/
def parse (input : String) : Except Fault Url := resolve none input

/-- Reads a reference relative to a URL. -/
def join (base : Url) (input : String) : Except Fault Url := resolve (some base) input

end TagCatalog.Url
