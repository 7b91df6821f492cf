import TagCatalog.Text.Hex
import TagCatalog.Text.Utf8
import TagCatalog.Yaml.Token

/-!
# Reading YAML tokens

The lexer of YAML streams. Block structure follows from the columns of lines: a column deeper than
the block it stands in opens a block, a shallower one closes blocks. A scalar or collection may turn
out to be the key of a mapping when a `:` follows it; its place is remembered as a **simple key**, so
that the tokens of the key can be put in front of it.

* `Lexer`: the state, with the text that is left, the position, the open blocks and the simple keys;
* `Lexer.quoted`, `Lexer.plain`, `Lexer.blockScalar`: the three ways to write a scalar;
* `Lexer.next`: one token;
* `tokens?`: all tokens of a text.

A text that is no YAML has no tokens; the reason is not told.
-/

namespace TagCatalog.Yaml

/-- The place of a token that may turn out to be the key of a mapping. -/
structure SimpleKey where
  possible : Bool
  /-- Nothing but a key can stand at the place. -/
  required : Bool
  /-- The number of the token. -/
  token : Nat
  index : Nat
  line : Nat
  column : Nat

/-- No key. -/
def SimpleKey.none : SimpleKey := ⟨false, false, 0, 0, 0, 0⟩

/-- A column to return to, and whether a block ends there. -/
structure Indent where
  column : Int
  block : Bool

/-- The state of the lexer. -/
structure Lexer where
  rest : List Char
  index : Nat
  line : Nat
  column : Nat
  /-- Only blanks stand before the position on its line. -/
  leading : Bool
  /-- The tokens read so far, each with its column. -/
  tokens : Array (Token × Nat)
  /-- The innermost flow collection comes first; the last entry belongs to the block. -/
  keys : List SimpleKey
  keyAllowed : Bool
  indent : Int
  indents : List Indent
  flowLevel : Nat
  /-- Where a `:` may follow without a blank. -/
  adjacentAt : Nat
  flowMappingStarted : Bool
  implicitFlowMapping : Bool

/-- The computations of the lexer. -/
abbrev Lex := StateT Lexer Option

namespace Lexer

/-- The state before a text. -/
def start (text : List Char) : Lexer where
  rest := text
  index := 0
  line := 1
  column := 0
  leading := true
  tokens := #[]
  keys := [SimpleKey.none]
  keyAllowed := true
  indent := -1
  indents := []
  flowLevel := 0
  adjacentAt := 0
  flowMappingStarted := false
  implicitFlowMapping := false

/-! ## Characters -/

/-- The text is no YAML. -/
def refuse {α : Type} : Lex α := fun _ => none

/-- The character `n` places ahead. -/
def peekAt (n : Nat) : Lex Char := do return (← get).rest[n]?.getD endMark

/-- The next character. -/
def peek : Lex Char := peekAt 0

/-- Passes a blank. -/
def skipBlank : Lex Unit := modify fun s =>
  { s with rest := s.rest.tail, index := s.index + 1, column := s.column + 1 }

/-- Passes characters that are no blanks. -/
def skip (n : Nat) : Lex Unit := modify fun s =>
  { s with rest := s.rest.drop n, index := s.index + n, column := s.column + n, leading := false }

/-- Passes a line end; a carriage return and a line feed are one. -/
def skipBreak : Lex Unit := modify fun s =>
  let n := match s.rest with
    | '\r' :: '\n' :: _ => 2
    | _ => 1
  { s with rest := s.rest.drop n, index := s.index + n, line := s.line + 1, column := 0,
           leading := true }

/-- Passes the rest of a line. -/
def skipComment : Lex Unit := modify fun s =>
  let n := (s.rest.takeWhile (!endsLine ·)).length
  { s with rest := s.rest.drop n, index := s.index + n, column := s.column + n, leading := false }

/-- Fuel that no walk over the text that is left uses up. -/
def fuel : Lex Nat := do return (← get).rest.length + 1

/-- Takes characters of a class. -/
def takeClass (p : Char → Bool) : Lex (List Char) := do
  let taken := (← get).rest.takeWhile p
  if taken ≠ [] then skip taken.length
  return taken

/-! ## Blanks -/

/-- The blanks passed on a line: whether a tab and whether a space was among them. -/
structure Blanks where
  tab : Bool
  space : Bool

/-- Passes blanks and a comment up to the end of the line. A comment must stand behind a blank. -/
def skipToEol (tabs : Bool) : Lex Blanks := do
  loop (← fuel) ⟨false, false⟩
where
  /-- One blank after the other. -/
  loop : Nat → Blanks → Lex Blanks
    | 0, seen => return seen
    | n + 1, seen => do
      let c ← peek
      if c == ' ' then
        skipBlank
        loop n { seen with space := true }
      else if c == '\t' && tabs then
        skipBlank
        loop n { seen with tab := true }
      else if c == '#' then
        if seen.tab || seen.space then
          skipComment
          return seen
        else refuse
      else return seen

/-- A key may begin here. -/
def allowKey : Lex Unit := modify fun s => { s with keyAllowed := true }

/-- No key may begin here. -/
def forbidKey : Lex Unit := modify fun s => { s with keyAllowed := false }

/-- Passes blanks, comments and line ends in front of a token. Tabs do not indent blocks. -/
def skipToToken : Lex Unit := do
  loop (← fuel)
where
  /-- One blank, comment or line end after the other. -/
  loop : Nat → Lex Unit
    | 0 => return
    | n + 1 => do
      let s ← get
      let c ← peek
      if c == '\t' && !s.indents.isEmpty && s.leading && (s.column : Int) < s.indent then
        let _ ← skipToEol true
        if endsLine (← peek) then loop n else refuse
      else if isBlank c then
        skipBlank
        loop n
      else if isBreak c then
        skipBreak
        if s.flowLevel == 0 then allowKey
        loop n
      else if c == '#' then
        skipComment
        loop n

/-- Passes the blanks behind a `?`, of which there must be some. -/
def skipAfterKeyMark : Lex Unit := do
  loop (← fuel) false
where
  /-- One blank, comment or line end after the other. -/
  loop : Nat → Bool → Lex Unit
    | 0, found => if found then return else refuse
    | n + 1, found => do
      let c ← peek
      if c == ' ' then
        skipBlank
        loop n true
      else if isBreak c then
        skipBreak
        if (← get).flowLevel == 0 then allowKey
        loop n true
      else if c == '#' then
        skipComment
        loop n found
      else if found then return
      else refuse

/-! ## Tokens and blocks -/

/-- Adds a token. -/
def emit (t : Token) (column : Nat) : Lex Unit := modify fun s =>
  { s with tokens := s.tokens.push (t, column) }

/-- Adds a token in front of the token with a number. -/
def insertBefore (number : Nat) (t : Token) : Lex Unit := modify fun s =>
  { s with tokens := s.tokens.insertIdxIfInBounds number (t, s.column) }

/-- Opens a block at a column, unless one is open there; a column that was only set aside for
flow content is given up. -/
def openBlock (column : Nat) (number : Option Nat) (t : Token) : Lex Unit := do
  if (← get).flowLevel == 0 then
    modify fun s =>
      match s.indents with
      | i :: outer =>
        if s.indent ≤ column && !i.block then { s with indent := i.column, indents := outer } else s
      | [] => s
    let s ← get
    if s.indent < column then
      set { s with indents := ⟨s.indent, true⟩ :: s.indents, indent := (column : Int) }
      match number with
      | some n => insertBefore n t
      | none => emit t column

/-- Closes the blocks deeper than a column. -/
def closeBlocks (column : Int) : Lex Unit := do
  let s ← get
  if s.flowLevel == 0 then loop s.indents column
where
  /-- One block after the other. -/
  loop : List Indent → Int → Lex Unit
    | [], _ => return
    | i :: outer, column => do
      if (← get).indent > column then
        modify fun s => { s with indent := i.column, indents := outer }
        if i.block then emit .blockEnd 0
        loop outer column

/-- Gives up the columns set aside for flow content. -/
def closeSetAside : Lex Unit := do
  loop (← get).indents
where
  /-- One column after the other. -/
  loop : List Indent → Lex Unit
    | [] => return
    | i :: outer => do
      if !i.block then
        modify fun s => { s with indent := i.column, indents := outer }
        loop outer

/-- Sets aside the column behind an open block, for flow content. -/
def setAside : Lex Unit := modify fun s =>
  match s.indents with
  | i :: _ =>
    if s.flowLevel == 0 && i.block then
      { s with indents := ⟨s.indent, false⟩ :: s.indents, indent := s.indent + 1 }
    else s
  | [] => s

/-! ## Simple keys -/

/-- Remembers the position as that of a possible key. -/
def rememberKey : Lex Unit := modify fun s =>
  if s.keyAllowed then
    let required := s.flowLevel == 0 && s.indent == (s.column : Int) &&
      ((s.indents.head?.map (·.block)).getD false)
    { s with keys := ⟨true, required, s.tokens.size, s.index, s.line, s.column⟩ :: s.keys.tail }
  else s

/-- The innermost possible key is none; that must not be required. -/
def dropKey : Lex Unit := do
  let s ← get
  match s.keys with
  | k :: outer =>
    if k.possible && k.required then refuse
    else set { s with keys := { k with possible := false } :: outer }
  | [] => return

/-- The key is too far behind: on a line before, or more than 1024 characters away. -/
def isStale (s : Lexer) (k : SimpleKey) : Bool :=
  k.possible && s.flowLevel == 0 && (k.line < s.line || k.index + 1024 < s.index)

/-- Drops the possible keys that are too far behind. -/
def dropStaleKeys : Lex Unit := do
  let s ← get
  if s.keys.any fun k => isStale s k && k.required then refuse
  else set { s with keys := s.keys.map fun k => if isStale s k then { k with possible := false } else k }

/-! ## Scalars -/

/-- A line `---` or `...` begins at the position. -/
def atDocumentMark : Lex Bool := do
  let s ← get
  return s.column == 0 && endsWord (s.rest[3]?.getD endMark) &&
    (s.rest.take 3 == ['-', '-', '-'] || s.rest.take 3 == ['.', '.', '.'])

/-- A line `...` begins at the position. -/
def atDocumentEnd : Lex Bool := do
  let s ← get
  return s.column == 0 && endsWord (s.rest[3]?.getD endMark) && s.rest.take 3 == ['.', '.', '.']

/-- A line `---` begins at the position. -/
def atDocumentStart : Lex Bool := do
  let s ← get
  return s.column == 0 && endsWord (s.rest[3]?.getD endMark) && s.rest.take 3 == ['-', '-', '-']

/-- What a single character behind a backslash stands for. -/
def escapeChar? (c : Char) : Option Char :=
  match c with
  | '0' => some '\x00'
  | 'a' => some '\x07'
  | 'b' => some '\x08'
  | 't' => some '\t'
  | '\t' => some '\t'
  | 'n' => some '\n'
  | 'v' => some '\x0b'
  | 'f' => some '\x0c'
  | 'r' => some '\r'
  | 'e' => some '\x1b'
  | ' ' => some ' '
  | '"' => some '"'
  | '/' => some '/'
  | '\\' => some '\\'
  | 'N' => some '\u0085'
  | '_' => some '\u00a0'
  | 'L' => some '\u2028'
  | 'P' => some '\u2029'
  | _ => none

/-- The number of hexadecimal digits behind a backslash and a letter. -/
def escapeLength? (c : Char) : Option Nat :=
  match c with
  | 'x' => some 2
  | 'u' => some 4
  | 'U' => some 8
  | _ => none

/-- The character of a code point. -/
def charOf? (n : Nat) : Option Char := if n.isValidChar then some (Char.ofNat n) else none

/-- An escape sequence, from its backslash on. -/
def escape : Lex Char := do
  let c ← peekAt 1
  match escapeLength? c with
  | some n =>
    skip 2
    let digits := (← get).rest.take n
    match digits.mapM Text.hexValue?, charOf? (Text.hexNumber digits) with
    | some ds, some e =>
      if ds.length == n then
        skip n
        return e
      else refuse
    | _, _ => refuse
  | none =>
    match escapeChar? c with
    | some e =>
      skip 2
      return e
    | none => refuse

/-- White space inside a scalar: blanks on one line, or a line end and further line ends. -/
structure Gap where
  blanks : List Char
  /-- The first line end was passed. -/
  folded : Bool
  /-- The first line end counts, and was not escaped. -/
  counted : Bool
  further : Nat

/-- No white space. -/
def Gap.empty : Gap := ⟨[], false, false, 0⟩

/-- The text that white space stands for: a line end counts as a space, each further one as a line
end. -/
def Gap.text (g : Gap) : List Char :=
  if g.folded then
    if g.counted && g.further == 0 then [' '] else List.replicate g.further '\n'
  else g.blanks

/-- Passes white space inside a quoted scalar. -/
def quotedGap : Nat → Gap → Lex Gap
  | 0, g => return g
  | n + 1, g => do
    let s ← get
    let c ← peek
    if isBlank c then
      if g.folded then
        if c == '\t' && (s.column : Int) < s.indent then refuse
        else
          skipBlank
          quotedGap n g
      else
        skipBlank
        quotedGap n { g with blanks := g.blanks ++ [c] }
    else if isBreak c then
      skipBreak
      if g.folded then quotedGap n { g with further := g.further + 1 }
      else quotedGap n ⟨[], true, true, 0⟩
    else return g

/-- The characters of a quoted scalar up to white space or the closing quote, and whether an
escaped line end stopped them. -/
def quotedWord (single : Bool) : Nat → List Char → Lex (List Char × Bool)
  | 0, word => return (word, false)
  | n + 1, word => do
    let c ← peek
    let d ← peekAt 1
    if endsWord c then return (word, false)
    else if single && c.toNat == 0x27 then
      if d.toNat == 0x27 then
        skip 2
        quotedWord single n (word ++ [c])
      else return (word, false)
    else if !single && c == '"' then return (word, false)
    else if !single && c == '\\' then
      if isBreak d then
        skip 1
        skipBreak
        return (word, true)
      else
        let e ← escape
        quotedWord single n (word ++ [e])
    else
      skip 1
      quotedWord single n (word ++ [c])

/-- The contents of a quoted scalar up to its closing quote. -/
def quotedText (single : Bool) : Nat → List Char → Lex (List Char)
  | 0, _ => refuse
  | n + 1, text => do
    let s ← get
    if (← atDocumentMark) || isEnd (← peek) || (s.column : Int) < s.indent then refuse
    else
      let (word, escaped) ← quotedWord single (← fuel) []
      let c ← peek
      if (single && c.toNat == 0x27) || (!single && c == '"') then return text ++ word
      else
        let gap ← quotedGap (← fuel) { Gap.empty with folded := escaped }
        quotedText single n (text ++ word ++ gap.text)

/-- A quoted scalar; behind it stands nothing but the end of its line, a mark of a flow collection,
or the colon that makes it a key. -/
def quoted (single : Bool) : Lex Unit := do
  let s ← get
  skip 1
  let text ← quotedText single (← fuel) []
  skip 1
  let _ ← skipToEol true
  let c ← peek
  let t ← get
  let flow := decide (0 < t.flowLevel)
  if endsLine c || (flow && (c == ',' || c == ']' || c == '\x7d')) ||
      (c == ':' && (flow || s.line == t.line)) then
    skipToToken
    modify fun t => { t with adjacentAt := t.index }
    emit (.scalar false (String.ofList text)) s.column
  else refuse

/-- The characters `c` and `d` continue a plain scalar with `c`. -/
def continuesPlain (flow : Bool) (c d : Char) : Bool :=
  !endsWord c && !(c == ':' && (endsWord d || (flow && isFlow d))) && !(flow && isFlow c)

/-- The characters of a plain scalar up to white space or its end. -/
def plainWord (flow : Bool) : Nat → List Char → Lex (List Char)
  | 0, word => return word
  | n + 1, word => do
    let c ← peek
    if continuesPlain flow c (← peekAt 1) then
      skip 1
      plainWord flow n (word ++ [c])
    else return word

/-- Passes white space inside a plain scalar. -/
def plainGap (indent : Int) : Nat → Gap → Lex Gap
  | 0, g => return g
  | n + 1, g => do
    let s ← get
    let c ← peek
    if isBlank c then
      if !s.leading then
        skipBlank
        plainGap indent n { g with blanks := g.blanks ++ [c] }
      else if (s.column : Int) < indent && c == '\t' then
        let _ ← skipToEol true
        if endsLine (← peek) then plainGap indent n g else refuse
      else
        skipBlank
        plainGap indent n g
    else if isBreak c then
      let first := !s.leading
      skipBreak
      if first then plainGap indent n ⟨[], true, true, 0⟩
      else plainGap indent n { g with further := g.further + 1 }
    else return g

/-- The contents of a plain scalar; `gap` is the white space before the position. -/
def plainText (indent : Int) : Nat → List Char → Gap → Lex (List Char)
  | 0, text, _ => return text
  | n + 1, text, gap => do
    let s ← get
    let flow := decide (0 < s.flowLevel)
    let c ← peek
    let d ← peekAt 1
    if (← atDocumentMark) || c == '#' then return text
    else if flow && c == '-' && isFlow d then refuse
    else
      let word ← plainWord flow (← fuel) []
      let text := if word = [] then text else text ++ gap.text ++ word
      let gap := if word = [] then gap else Gap.empty
      let e ← peek
      if isBlank e || isBreak e then
        let gap ← plainGap indent (← fuel) gap
        let t ← get
        if !flow && (t.column : Int) < indent then return text
        else plainText indent n text gap
      else return text

/-- A plain scalar, which may go on on further, deeper lines. -/
def plain : Lex Unit := do
  closeSetAside
  let s ← get
  let indent := s.indent + 1
  if 0 < s.flowLevel && (s.column : Int) < indent then refuse
  else
    modify fun t => { t with leading := false }
    let text ← plainText indent (← fuel) [] Gap.empty
    if (← get).leading then allowKey
    if text = [] then refuse else emit (.scalar true (String.ofList text)) s.column

/-! ### Block scalars -/

/-- What becomes of the line ends after a block scalar. -/
inductive Chomping where
  | strip
  | clip
  | keep
  deriving DecidableEq

/-- A sign that says what becomes of the last line ends. -/
def chompingOf? (c : Char) : Option Chomping :=
  if c == '+' then some .keep else if c == '-' then some .strip else none

/-- A digit that says how deep the lines stand. -/
def depthOf? (c : Char) : Option Nat := if c.isDigit then some (c.toNat - '0'.toNat) else none

/-- The signs behind the mark of a block scalar, in either order. -/
def blockHeader : Lex (Chomping × Option Nat) := do
  let c ← peek
  match chompingOf? c with
  | some chomping =>
    skip 1
    match depthOf? (← peek) with
    | some 0 => refuse
    | some d =>
      skip 1
      return (chomping, some d)
    | none => return (chomping, none)
  | none =>
    match depthOf? c with
    | some 0 => refuse
    | some d =>
      skip 1
      match chompingOf? (← peek) with
      | some chomping =>
        skip 1
        return (chomping, some d)
      | none => return (.clip, some d)
    | none => return (.clip, none)

/-- Passes spaces up to a column. -/
def skipSpaces (column : Option Nat) : Nat → Lex Unit
  | 0 => return
  | n + 1 => do
    let s ← get
    if (← peek) == ' ' && (column.all fun c => s.column < c) then
      skipBlank
      skipSpaces column n

/-- Passes the indentation of a line and the empty lines before it; yields the number of empty
lines and the deepest column. -/
def blockIndent (column : Option Nat) : Nat → Nat → Nat → Lex (Nat × Nat)
  | 0, breaks, deepest => return (breaks, deepest)
  | n + 1, breaks, deepest => do
    skipSpaces column (← fuel)
    let deepest := max deepest (← get).column
    if isBreak (← peek) then
      skipBreak
      blockIndent column n (breaks + 1) deepest
    else return (breaks, deepest)

/-- The lines of a block scalar read so far: the text, whether a line end follows it, the empty
lines after that, and whether the last line began with a blank. -/
structure Lines where
  text : List Char
  ended : Bool
  empty : Nat
  blank : Bool

/-- Line ends. -/
def breaks (n : Nat) : List Char := List.replicate n '\n'

/-- The text before a further line: two lines of text are folded into one. -/
def Lines.joined (l : Lines) (literal blank : Bool) : List Char :=
  if !literal && l.ended && !l.blank && !blank then
    l.text ++ (if l.empty == 0 then [' '] else breaks l.empty)
  else l.text ++ breaks (if l.ended then l.empty + 1 else l.empty)

/-- The lines of a block scalar that stand at a column. -/
def blockLines (literal : Bool) (column : Nat) : Nat → Lines → Lex Lines
  | 0, l => return l
  | n + 1, l => do
    let s ← get
    let c ← peek
    if s.column != column || isEnd c then return l
    else if column == 0 && (← atDocumentEnd) then return l
    else
      let blank := isBlank c
      let content := s.rest.takeWhile (!endsLine ·)
      skip content.length
      let text := l.joined literal blank ++ content
      if isEnd (← peek) then return ⟨text, false, 0, blank⟩
      else
        skipBreak
        let (empty, _) ← blockIndent (some column) (← fuel) 0 0
        blockLines literal column n ⟨text, true, empty, blank⟩

/-- A block scalar. -/
def blockScalar (literal : Bool) : Lex Unit := do
  let first ← get
  skip 1
  closeSetAside
  let (chomping, depth) ← blockHeader
  let _ ← skipToEol true
  let c ← peek
  if !endsLine c then refuse
  else
    let broken := isBreak c
    if broken then skipBreak
    if (← peek) == '\t' then refuse
    else
      let s ← get
      let given := depth.map fun d => if 0 ≤ s.indent then s.indent.toNat + d else d
      let (empty, deepest) ← blockIndent given (← fuel) 0 0
      let column := given.getD <|
        let least := max deepest (s.indent + 1).toNat
        if 0 < s.indent then max least 1 else least
      let t ← get
      if isEnd (← peek) then
        let text := match chomping with
          | .strip => []
          | .clip => if t.line == first.line then [] else breaks 1
          | .keep => if t.line == first.line then [] else breaks (max empty 1)
        emit (.scalar false (String.ofList text)) first.column
      else if t.column < column && s.indent < (t.column : Int) then refuse
      else
        let lines ← blockLines literal column (← fuel) ⟨[], false, empty, false⟩
        let t ← get
        let tail := match chomping with
          | .strip => []
          | _ =>
            breaks (if lines.ended then 1 else 0) ++
              breaks (if isEnd ((t.rest.head?).getD endMark) && max column 1 ≤ t.column then 1 else 0)
        let kept := match chomping with
          | .keep => breaks lines.empty
          | _ => []
        emit (.scalar false (String.ofList (lines.text ++ tail ++ kept))) t.column

/-! ## Names -/

/-- An anchor or an alias. -/
def anchorName : Lex String := do
  skip 1
  let name ← takeClass isAnchorChar
  if name = [] then refuse else return String.ofList name

/-- A byte `%` and two digits. -/
def uriByte? : List Char → Option UInt8
  | '%' :: a :: b :: _ =>
    match Text.hexValue? a, Text.hexValue? b with
    | some x, some y => some (UInt8.ofNat (16 * x + y))
    | _, _ => none
  | _ => none

/-- The number of bytes of a character whose first byte is given. -/
def utf8Length? (b : UInt8) : Option Nat :=
  if b < 0x80 then some 1
  else if 0xC0 ≤ b ∧ b < 0xE0 then some 2
  else if 0xE0 ≤ b ∧ b < 0xF0 then some 3
  else if 0xF0 ≤ b ∧ b < 0xF8 then some 4
  else none

/-- A character given by the escapes of its bytes. -/
def uriEscape : Lex Char := do
  match uriByte? (← get).rest with
  | none => refuse
  | some b =>
    match utf8Length? b with
    | none => refuse
    | some n =>
      let taken := (← get).rest.take (3 * n)
      let bytes := (List.range n).mapM fun i => uriByte? (taken.drop (3 * i))
      match bytes.bind Text.Utf8.decode? with
      | some [c] =>
        skip (3 * n)
        return c
      | _ => refuse

/-- Characters of a class, some of which may be escaped. -/
def uriText (p : Char → Bool) : Nat → List Char → Lex (List Char)
  | 0, text => return text
  | n + 1, text => do
    let c ← peek
    if p c then
      if c == '%' then
        let e ← uriEscape
        uriText p n (text ++ [e])
      else
        skip 1
        uriText p n (text ++ [c])
    else return text

/-- A tag handle: a `!`, a name and perhaps another `!`. -/
def tagHandle (directive : Bool) : Lex (List Char) := do
  if (← peek) != '!' then refuse
  else
    skip 1
    let name ← takeClass isNameChar
    if (← peek) == '!' then
      skip 1
      return '!' :: name ++ ['!']
    else if directive && name ≠ [] then refuse
    else return '!' :: name

/-- A tag between `!<` and `>`. -/
def verbatimTag : Lex (List Char) := do
  skip 2
  let text ← uriText isUriChar (← fuel) []
  if (← peek) == '>' then
    skip 1
    return text
  else refuse

/-- The handle and suffix of a tag. -/
def tagParts : Lex (List Char × List Char) := do
  if (← peekAt 1) == '<' then
    let suffix ← verbatimTag
    return ([], suffix)
  else
    let handle ← tagHandle false
    let suffix ← uriText isTagChar (← fuel) []
    if 2 ≤ handle.length && handle.getLast? == some '!' then
      if suffix = [] then refuse else return (handle, suffix)
    else
      let suffix := handle.drop 1 ++ suffix
      if suffix = [] then return ([], ['!']) else return (['!'], suffix)

/-- A tag. -/
def tag : Lex Unit := do
  let s ← get
  let (handle, suffix) ← tagParts
  let c ← peek
  if endsWord c || (0 < s.flowLevel && isFlow c) then
    emit (.tag (String.ofList handle) (String.ofList suffix)) s.column
  else refuse

/-- One of the two numbers of a version. -/
def versionNumber : Lex Unit := do
  let digits ← takeClass Char.isDigit
  if digits = [] || 9 < digits.length then refuse

/-- Passes blanks. -/
def skipBlanks : Lex Unit := do
  loop (← fuel)
where
  /-- One blank after the other. -/
  loop : Nat → Lex Unit
    | 0 => return
    | n + 1 => do
      if isBlank (← peek) then
        skipBlank
        loop n

/-- What a tag handle stands for: `!` and a local name, or a URI. -/
def tagValue : Lex (List Char) := do
  let c ← peek
  if c == '!' then
    skip 1
    let text ← uriText isUriChar (← fuel) []
    return '!' :: text
  else if isTagChar c then uriText isUriChar (← fuel) []
  else refuse

/-- The token of a directive; one with an unknown name declares nothing. -/
def directiveToken (name : List Char) : Lex Token := do
  if name = "YAML".toList then
    skipBlanks
    versionNumber
    if (← peek) != '.' then refuse
    else
      skip 1
      versionNumber
      return .versionDirective
  else if name = "TAG".toList then
    skipBlanks
    let handle ← tagHandle true
    skipBlanks
    let value ← tagValue
    if endsWord (← peek) then
      return .tagDirective (String.ofList handle) (String.ofList value)
    else refuse
  else
    skipComment
    return .tagDirective "" ""

/-- A directive. -/
def directive : Lex Unit := do
  let s ← get
  skip 1
  let name ← takeClass isNameChar
  if name = [] || !endsWord (← peek) then refuse
  else
    let t ← directiveToken name
    let _ ← skipToEol true
    if !endsLine (← peek) then refuse
    else
      if isBreak (← peek) then skipBreak
      emit t s.column

/-! ## One token -/

/-- Ends the single-pair mapping of a flow sequence. -/
def endImplicitMapping : Lex Unit := do
  let s ← get
  if s.implicitFlowMapping then
    set { s with implicitFlowMapping := false, flowMappingStarted := false }
    emit .flowMappingEnd s.column

/-- The flow collections that may stand inside each other. -/
def maxFlowLevel : Nat := 255

/-- The start of a flow collection. -/
def flowStart (t : Token) : Lex Unit := do
  rememberKey
  setAside
  let s ← get
  if s.flowLevel == maxFlowLevel then refuse
  else
    set { s with keys := SimpleKey.none :: s.keys, flowLevel := s.flowLevel + 1, keyAllowed := true,
                 flowMappingStarted := s.flowMappingStarted || t == Token.flowMappingStart }
    skip 1
    let _ ← skipToEol true
    emit t s.column

/-- The end of a flow collection. -/
def flowEnd (t : Token) : Lex Unit := do
  dropKey
  modify fun s =>
    if 0 < s.flowLevel then { s with flowLevel := s.flowLevel - 1, keys := s.keys.tail } else s
  forbidKey
  endImplicitMapping
  let s ← get
  skip 1
  let _ ← skipToEol true
  modify fun u => if 0 < u.flowLevel then { u with adjacentAt := u.index } else u
  emit t s.column

/-- The comma of a flow collection. -/
def flowEntry : Lex Unit := do
  dropKey
  allowKey
  endImplicitMapping
  let s ← get
  skip 1
  let _ ← skipToEol true
  emit .flowEntry s.column

/-- An anchor or tag at the start of a line may not stand before an entry at the start of a line,
inside a block. -/
def entryMisplaced (s : Lexer) : Bool :=
  match s.tokens.back? with
  | some (.anchor _, 0) | some (.tag _ _, 0) => s.column == 0 && -1 < s.indent
  | _ => false

/-- The dash of a block sequence. -/
def blockEntry : Lex Unit := do
  let s ← get
  if 0 < s.flowLevel || !s.keyAllowed || entryMisplaced s then refuse
  else
    skip 1
    openBlock s.column none .blockSequenceStart
    let blanks ← skipToEol true
    if blanks.tab && (← peek) == '-' && endsWord (← peekAt 1) then refuse
    else
      let c ← peek
      if isBreak c || isFlow c then setAside
      dropKey
      allowKey
      emit .blockEntry s.column

/-- The question mark of a key. -/
def keyMark : Lex Unit := do
  let s ← get
  if s.flowLevel == 0 then
    if !s.keyAllowed then refuse else openBlock s.column none .blockMappingStart
  else modify fun s => { s with flowMappingStarted := true }
  dropKey
  modify fun t => { t with keyAllowed := s.flowLevel == 0 }
  skip 1
  skipAfterKeyMark
  if (← peek) == '\t' then refuse else emit .key s.column

/-- The colon of a value. The tokens of a simple key before it are put in their place. -/
def valueMark : Lex Unit := do
  let s ← get
  let k := s.keys.head?.getD SimpleKey.none
  let implicit := 0 < s.flowLevel && !s.flowMappingStarted
  modify fun t => { t with implicitFlowMapping := implicit }
  skip 1
  if (← peek) == '\t' then
    let blanks ← skipToEol true
    let c ← peek
    if !blanks.space && (c == '-' || isNameChar c) then refuse
  if k.possible then
    insertBefore k.token .key
    if implicit then
      if k.line < s.line then refuse else insertBefore k.token Token.flowMappingStart
    openBlock k.column (some k.token) .blockMappingStart
    setAside
    modify fun t => { t with keys := { k with possible := false } :: t.keys.tail }
    forbidKey
  else
    if implicit then emit .flowMappingStart s.column
    if s.flowLevel == 0 then
      if !s.keyAllowed then refuse else openBlock s.column none .blockMappingStart
    setAside
    modify fun t => { t with keyAllowed := s.flowLevel == 0 }
  emit .value s.column

/-- The end of the text. -/
def finish : Lex Unit := do
  let s ← get
  if s.keys.any fun k => k.required && k.possible then refuse
  else
    modify fun t => { t with keys := t.keys.map fun k => { k with possible := false } }
    closeBlocks (-1)
    forbidKey
    emit .streamEnd 0

/-- A line `---` or `...`. -/
def documentMark (t : Token) : Lex Unit := do
  closeBlocks (-1)
  dropKey
  forbidKey
  skip 3
  emit t 0

/-- The tokens that begin with the character `c`, before `d`. -/
def dispatch (c d : Char) : Lex Unit := do
  let s ← get
  let flow := decide (0 < s.flowLevel)
  let keyed := fun body : Lex Unit => do
    rememberKey
    forbidKey
    body
  if c == '[' then flowStart .flowSequenceStart
  else if c == '\x7b' then flowStart .flowMappingStart
  else if c == ']' then flowEnd .flowSequenceEnd
  else if c == '\x7d' then flowEnd .flowMappingEnd
  else if c == ',' then flowEntry
  else if c == '-' && endsWord d then blockEntry
  else if c == '?' && endsWord d then keyMark
  else if c == ':' && (endsWord d || (flow && (isFlow d || s.index == s.adjacentAt))) then valueMark
  else if c == '*' then keyed do emit (.alias (← anchorName)) s.column
  else if c == '&' then keyed do emit (.anchor (← anchorName)) s.column
  else if c == '!' then keyed tag
  else if (c == '|' || c == '>') && !flow then
    rememberKey
    allowKey
    blockScalar (c == '|')
  else if c.toNat == 0x27 then keyed (quoted true)
  else if c == '"' then keyed (quoted false)
  else if c == '%' || c == '@' || c.toNat == 0x60 then refuse
  else keyed plain

/-- Reads the next token, and the tokens of structure before it. -/
def next : Lex Unit := do
  skipToToken
  dropStaleKeys
  closeBlocks (← get).column
  let s ← get
  let c ← peek
  if isEnd c then finish
  else if s.column == 0 && c == '%' then
    closeBlocks (-1)
    dropKey
    forbidKey
    directive
  else if ← atDocumentStart then documentMark .documentStart
  else if ← atDocumentEnd then
    documentMark .documentEnd
    let _ ← skipToEol true
    if !endsLine (← peek) then refuse
  else if (s.column : Int) < s.indent then refuse
  else dispatch c (← peekAt 1)

/-- Reads tokens up to the end of the text. -/
def run : Nat → Lex Unit
  | 0 => refuse
  | n + 1 => do
    next
    match (← get).tokens.back? with
    | some (.streamEnd, _) => return
    | _ => run n

end Lexer

/-- The tokens of a text, if it is YAML. A NUL character ends the text. -/
def tokens? (text : String) : Option (List Token) :=
  let s := text.toList.takeWhile (!isEnd ·)
  ((Lexer.run (s.length + 2)).run (Lexer.start s)).map fun r => (r.2.tokens.map (·.1)).toList

end TagCatalog.Yaml
