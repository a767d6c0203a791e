import SongPattern.Yaml.Scalar
import SongPattern.Yaml.Tag

namespace SongPattern.Yaml

/-- The signs and texts of a document, with marks where indentation opens or closes a block. -/
inductive Token where
  | version (major minor : Nat)
  | tagHandle (handle : List Char) (lead : List UInt8)
  | documentStart
  | documentEnd
  | blockListStart
  | blockMapStart
  | blockEnd
  | listStart
  | listEnd
  | mapStart
  | mapEnd
  | item
  | comma
  | key
  | value
  | alias (name : List Char)
  | anchor (name : List Char)
  | tag (handle : List Char) (suffix : List UInt8)
  | scalar (text : List Char) (style : Style)
  deriving DecidableEq

/-- A token that turns out to be a key once a colon follows it. A required one starts a line of its
block, so that nothing else can be meant. -/
structure PendingKey where
  position : Nat
  required : Bool
  cursor : Cursor

/-- How far a document has been read. The pending keys belong to the flows that are open, the
innermost first, and last to the block around them. -/
structure Reader where
  cursor : Cursor
  tokens : Array Token
  indent : Int
  outerIndents : List Int
  key : Option PendingKey
  outerKeys : List (Option PendingKey)
  keyAllowed : Bool

namespace Reader

def start (cs : List Char) : Reader := ⟨.ofText cs, #[], -1, [], none, [], true⟩

def inFlow (r : Reader) : Bool := !r.outerKeys.isEmpty

def push (r : Reader) (t : Token) : Reader := { r with tokens := r.tokens.push t }

def insert (r : Reader) (position : Nat) (t : Token) : Reader :=
  { r with tokens := r.tokens.insertIdxIfInBounds position t }

/-- Passes blanks, comments and line breaks up to the next token. Tabs do not indent, and in a
block a new line may start with a key. A mark of the byte order at the start of a line is passed,
but still takes up its column. -/
def toNextToken : (fuel : Nat) → Reader → Reader
  | 0, r => r
  | fuel + 1, r =>
    let tabs := r.inFlow || !r.keyAllowed
    let c := r.cursor
    let c := if c.column = 0 && c.rest.head? = some '\ufeff' then c.skip 1 else c
    let c := c.skipWhile fun ch => ch = ' ' || (tabs && ch = '\t')
    let c := if c.rest.head? = some '#' then c.skipWhile (!isBreak ·) else c
    if c.rest.head?.any isBreak then
      toNextToken fuel { r with cursor := c.readBreak.2, keyAllowed := r.keyAllowed || !r.inFlow }
    else { r with cursor := c }

/-- A key lies on one line and is at most 1024 bytes long. -/
def isStale (now : Cursor) (k : PendingKey) : Bool :=
  k.cursor.line < now.line || k.cursor.offset + 1024 < now.offset

def dropStale (now : Cursor) : Option PendingKey → Option (Option PendingKey)
  | none => some none
  | some k => if !isStale now k then some (some k) else if k.required then none else some none

def dropStaleKeys (r : Reader) : Option Reader := do
  return { r with
    key := ← dropStale r.cursor r.key
    outerKeys := ← r.outerKeys.mapM (dropStale r.cursor) }

/-- Closes the blocks that are indented more than `column`. -/
def closeBlocks (column : Int) : (indents : List Int) → Reader → Reader
  | [], r => r
  | outer :: indents, r =>
    if r.inFlow || r.indent ≤ column then r
    else
      closeBlocks column indents
        { r.push .blockEnd with indent := outer, outerIndents := indents }

def unindent (r : Reader) (column : Int) : Reader := closeBlocks column r.outerIndents r

/-- Opens a block at `column`, before the token at `position`, unless one is open there. -/
def indentTo (r : Reader) (column position : Nat) (t : Token) : Reader :=
  if r.inFlow || column ≤ r.indent then r
  else { r.insert position t with indent := column, outerIndents := r.indent :: r.outerIndents }

/-- Gives up on the pending key. -/
def dropKey (r : Reader) : Option Reader :=
  if r.key.any PendingKey.required then none else some { r with key := none }

/-- Remembers that the next token may be a key. -/
def saveKey (r : Reader) : Option Reader :=
  if !r.keyAllowed then some r
  else do
    let r ← r.dropKey
    let required := !r.inFlow && r.indent = r.cursor.column
    return { r with key := some ⟨r.tokens.size, required, r.cursor⟩ }

def takeSigns (r : Reader) (count : Nat) (t : Token) : Reader :=
  { r.push t with cursor := r.cursor.skip count }

def readDocumentMark (r : Reader) (t : Token) : Option Reader := do
  let r ← (r.unindent (-1)).dropKey
  return { r with keyAllowed := false }.takeSigns 3 t

def readFlowStart (r : Reader) (t : Token) : Option Reader := do
  let r ← r.saveKey
  return { r with key := none, outerKeys := r.key :: r.outerKeys, keyAllowed := true }.takeSigns 1 t

def readFlowEnd (r : Reader) (t : Token) : Option Reader := do
  let r ← r.dropKey
  let r := match r.outerKeys with
    | key :: outer => { r with key := key, outerKeys := outer }
    | [] => r
  return { r with keyAllowed := false }.takeSigns 1 t

def readComma (r : Reader) : Option Reader := do
  let r ← r.dropKey
  return { r with keyAllowed := true }.takeSigns 1 .comma

/-- An item of a block may only stand where a key could. -/
def readItem (r : Reader) : Option Reader := do
  guard (r.inFlow || r.keyAllowed)
  let r ← (r.indentTo r.cursor.column r.tokens.size .blockListStart).dropKey
  return { r with keyAllowed := true }.takeSigns 1 .item

def readKeySign (r : Reader) : Option Reader := do
  guard (r.inFlow || r.keyAllowed)
  let r ← (r.indentTo r.cursor.column r.tokens.size .blockMapStart).dropKey
  return { r with keyAllowed := !r.inFlow }.takeSigns 1 .key

/-- A colon makes the pending token a key, or else follows a key that was announced. -/
def readValueSign (r : Reader) : Option Reader :=
  match r.key with
  | some k =>
    let r := (r.insert k.position .key).indentTo k.cursor.column k.position .blockMapStart
    some ({ r with key := none, keyAllowed := false }.takeSigns 1 .value)
  | none => do
    guard (r.inFlow || r.keyAllowed)
    let r := r.indentTo r.cursor.column r.tokens.size .blockMapStart
    return { r with keyAllowed := !r.inFlow }.takeSigns 1 .value

/-- The name of an anchor, behind its sign. -/
def readName? (c : Cursor) : Option (List Char × Cursor) :=
  let name := c.rest.takeWhile isWordChar
  let c := c.skip name.length
  let ends := atGap c.rest || c.rest.head?.any ("?:,]\x7d%@`".toList.contains ·)
  if name.isEmpty || !ends then none else some (name, c)

def readAnchor (r : Reader) (make : List Char → Token) : Option Reader := do
  let r ← r.saveKey
  let (name, c) ← readName? (r.cursor.skip 1)
  return { r.push (make name) with cursor := c, keyAllowed := false }

/-- A byte in hexadecimal behind a percent sign. -/
def readOctet? (c : Cursor) : Option (Nat × Cursor) :=
  match c.rest with
  | '%' :: a :: b :: _ => do return ((← hexValue? a) * 16 + (← hexValue? b), c.skip 3)
  | _ => none

/-- How many bytes follow the first one of a character. -/
def followers? (lead : Nat) : Option Nat :=
  if lead < 0x80 then some 0
  else if lead < 0xc0 then none
  else if lead < 0xe0 then some 1
  else if lead < 0xf0 then some 2
  else if lead < 0xf8 then some 3
  else none

def readFollowers? : (count : Nat) → Cursor → Option (List UInt8 × Cursor)
  | 0, c => some ([], c)
  | count + 1, c => do
    let (octet, c) ← readOctet? c
    guard (0x80 ≤ octet && octet < 0xc0)
    let (octets, c) ← readFollowers? count c
    return (.ofNat octet :: octets, c)

/-- A character that is given by its bytes. Only their leading bits are checked. -/
def readOctets? (c : Cursor) : Option (List UInt8 × Cursor) := do
  let (lead, c) ← readOctet? c
  let (octets, c) ← readFollowers? (← followers? lead) c
  return (.ofNat lead :: octets, c)

/-- A character that may stand in a tag for itself. -/
def isUriChar (verbatim : Bool) (c : Char) : Bool :=
  isWordChar c || ";/?:@&=+$.!~*'()".toList.contains c ||
    (verbatim && (c = ',' || c = '[' || c = ']'))

/-- The bytes of a part of a tag, behind those read before in reverse. -/
def readUri? (verbatim : Bool) :
    (fuel : Nat) → List UInt8 → Cursor → Option (List UInt8 × Cursor)
  | 0, _, _ => none
  | fuel + 1, uri, c =>
    match c.rest with
    | [] => some (uri.reverse, c)
    | ch :: _ => do
      if ch = '%' then
        let (octets, c) ← readOctets? c
        readUri? verbatim fuel (octets.reverse ++ uri) c
      else if isUriChar verbatim ch then
        readUri? verbatim fuel (.ofNat ch.toNat :: uri) (c.skip 1)
      else return (uri.reverse, c)

/-- A part of a tag that has at least one byte, even if it is a zero. -/
def readUriPart? (verbatim : Bool) (c : Cursor) : Option (List UInt8 × Cursor) := do
  let (uri, c) ← readUri? verbatim (c.rest.length + 1) [] c
  guard !uri.isEmpty
  return (Tag.clip uri, c)

/-- A handle and a suffix. Between angles there is no handle; a lone mark has no suffix. -/
def readTagParts? (c : Cursor) : Option (List Char × List UInt8 × Cursor) := do
  match c.rest with
  | '!' :: '<' :: _ =>
    let (uri, c) ← readUriPart? true (c.skip 2)
    guard (c.rest.head? = some '>')
    return ([], uri, c.skip 1)
  | _ =>
    let name := (c.rest.drop 1).takeWhile isWordChar
    let after := c.skip (name.length + 1)
    if after.rest.head? = some '!' then
      let (suffix, c) ← readUriPart? false (after.skip 1)
      return ('!' :: name ++ ['!'], suffix, c)
    else
      let (rest, c) ← readUri? false (after.rest.length + 1) [] after
      let suffix := Tag.clip (Tag.bytesOf (.ofList name) ++ rest)
      if suffix.isEmpty then return ([], [Tag.mark], c) else return (['!'], suffix, c)

def readTag (r : Reader) : Option Reader := do
  let r ← r.saveKey
  let (handle, suffix, c) ← readTagParts? r.cursor
  guard (atGap c.rest || (r.inFlow && c.rest.head? = some ','))
  return { r.push (.tag handle suffix) with cursor := c, keyAllowed := false }

def readBlockScalar (r : Reader) (style : Style) : Option Reader := do
  let r ← r.dropKey
  let (text, c) ← readBlock (style = .folded) r.indent (r.cursor.skip 1)
  return { r.push (.scalar text style) with cursor := c, keyAllowed := true }

def readQuotedScalar (r : Reader) (mark : Char) : Option Reader := do
  let r ← r.saveKey
  let (text, c) ← readQuoted mark (r.cursor.rest.length + 1) [] (r.cursor.skip 1)
  return { r.push (.scalar text .quoted) with cursor := c, keyAllowed := false }

def readPlainScalar (r : Reader) : Option Reader := do
  let r ← r.saveKey
  let (text, broken, c) ←
    readPlain r.inFlow (r.indent + 1) (r.cursor.rest.length + 1) [] .none r.cursor
  return { r.push (.scalar text .plain) with cursor := c, keyAllowed := broken }

def readNumber? (c : Cursor) : Option (Nat × Cursor) := do
  let digits := c.rest.takeWhile Char.isDigit
  guard (digits.length ≤ 9)
  return (← Number.readNat? digits, c.skip digits.length)

/-- The version of the language, or a handle for tags, and nothing else but a comment. -/
def readDirective (r : Reader) : Option Reader := do
  let r ← (r.unindent (-1)).dropKey
  let name := (r.cursor.rest.drop 1).takeWhile isWordChar
  let c := r.cursor.skip (name.length + 1)
  guard (atGap c.rest)
  let c := c.skipWhile isSpace
  let (t, c) ← match String.ofList name with
    | "YAML" => do
      let (major, c) ← readNumber? c
      guard (c.rest.head? = some '.')
      let (minor, c) ← readNumber? (c.skip 1)
      pure (Token.version major minor, c)
    | "TAG" => do
      guard (c.rest.head? = some '!')
      let name := (c.rest.drop 1).takeWhile isWordChar
      let after := c.skip (name.length + 1)
      let closed := after.rest.head? = some '!'
      guard (closed || name.isEmpty)
      let handle := '!' :: name ++ if closed then ['!'] else []
      let c := if closed then after.skip 1 else after
      guard (c.rest.head?.any isSpace)
      let (lead, c) ← readUriPart? true (c.skipWhile isSpace)
      guard (atGap c.rest)
      pure (Token.tagHandle handle lead, c)
    | _ => none
  let c := c.skipWhile isSpace
  let c := if c.rest.head? = some '#' then c.skipWhile (!isBreak ·) else c
  guard (atBreak c.rest)
  return { r.push t with cursor := c.readBreak.2, keyAllowed := false }

/-- Signs that cannot start a plain text. -/
def isIndicator (c : Char) : Bool := "-?:,[]\x7b\x7d#&*!|>'\"%@`".toList.contains c

/-- A hyphen may start a plain text before anything but a space, and so may, in a block, a question
mark and a colon before a word. -/
def startsPlain (inFlow : Bool) : List Char → Bool
  | [] => false
  | c :: rest =>
    !(atGap (c :: rest) || isIndicator c) || (c = '-' && !rest.head?.any isSpace) ||
      (!inFlow && (c = '?' || c = ':') && !atGap rest)

/-- Reads the token at the cursor. -/
def readToken (r : Reader) : Option Reader :=
  if r.cursor.column = 0 && r.cursor.rest.head? = some '%' then r.readDirective
  else if r.cursor.atDocumentMark then
    r.readDocumentMark (if r.cursor.rest.head? = some '-' then .documentStart else .documentEnd)
  else match r.cursor.rest with
  | [] => none
  | '[' :: _ => r.readFlowStart .listStart
  | '\x7b' :: _ => r.readFlowStart .mapStart
  | ']' :: _ => r.readFlowEnd .listEnd
  | '\x7d' :: _ => r.readFlowEnd .mapEnd
  | ',' :: _ => r.readComma
  | c :: rest =>
    if c = '-' && atGap rest then r.readItem
    else if c = '?' && (r.inFlow || atGap rest) then r.readKeySign
    else if c = ':' && (r.inFlow || atGap rest) then r.readValueSign
    else if c = '*' then r.readAnchor .alias
    else if c = '&' then r.readAnchor .anchor
    else if c = '!' then r.readTag
    else if c = '|' && !r.inFlow then r.readBlockScalar .literal
    else if c = '>' && !r.inFlow then r.readBlockScalar .folded
    else if c = '\'' || c = '"' then r.readQuotedScalar c
    else if startsPlain r.inFlow (c :: rest) then r.readPlainScalar
    else none

/-- At the end all blocks are closed, and no key may still be awaited. -/
def finish (r : Reader) : Option (Array Token) := do
  return (← (r.unindent (-1)).dropKey).tokens

def readAll : (fuel : Nat) → Reader → Option (Array Token)
  | 0, _ => none
  | fuel + 1, r => do
    let r ← (r.toNextToken (r.cursor.rest.length + 1)).dropStaleKeys
    let r := r.unindent r.cursor.column
    if r.cursor.rest.isEmpty then r.finish else readAll fuel (← r.readToken)

end Reader

/-- The tokens of a document. Each round takes at least one character. -/
def tokenize? (s : String) : Option (List Token) := do
  let cs := s.toList
  guard (cs.all isPrintable)
  return (← Reader.readAll (cs.length + 2) (.start cs)).toList

end SongPattern.Yaml
