/-!
# YAML tokens

* `Yaml.Token`: the tokens of a YAML stream; block structure is made explicit;
* the classes of characters that the lexer tells apart.
-/

namespace TagCatalog.Yaml

/-- A token of a YAML stream. -/
inductive Token where
  | versionDirective
  /-- A handle for tags and what it stands for. -/
  | tagDirective (handle value : String)
  | documentStart
  | documentEnd
  | streamEnd
  | blockSequenceStart
  | blockMappingStart
  | blockEnd
  | flowSequenceStart
  | flowSequenceEnd
  | flowMappingStart
  | flowMappingEnd
  | blockEntry
  | flowEntry
  | key
  | value
  | alias (name : String)
  | anchor (name : String)
  | tag (handle suffix : String)
  /-- A scalar, plain or in another style. -/
  | scalar (plain : Bool) (text : String)
  deriving DecidableEq, Repr

/-- What stands for the end of the text. -/
def endMark : Char := '\x00'

/-- The end of the text. -/
def isEnd (c : Char) : Bool := c == endMark

/-- A line end. -/
def isBreak (c : Char) : Bool := c == '\n' || c == '\r'

/-- A space or tab. -/
def isBlank (c : Char) : Bool := c == ' ' || c == '\t'

/-- A line end or the end of the text. -/
def endsLine (c : Char) : Bool := isBreak c || isEnd c

/-- A character that ends a word. -/
def endsWord (c : Char) : Bool := isBlank c || endsLine c

/-- A character with a meaning in flow collections. -/
def isFlow (c : Char) : Bool := c == ',' || c == '[' || c == ']' || c == '\x7b' || c == '\x7d'

/-- A character of directive names and tag handles. -/
def isNameChar (c : Char) : Bool := c.isAlphanum || c == '_' || c == '-'

/-- A character of tag prefixes. -/
def isUriChar (c : Char) : Bool :=
  isNameChar c || "#;/?:@&=+$,.!~*()[]%".toList.contains c || c.toNat == 0x27

/-- A character of tag suffixes. -/
def isTagChar (c : Char) : Bool := isUriChar c && !isFlow c && c != '!'

/-- A character of the names of anchors. -/
def isAnchorChar (c : Char) : Bool := !endsWord c && !isFlow c && c.toNat != 0xFEFF

end TagCatalog.Yaml
