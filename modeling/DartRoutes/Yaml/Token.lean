import DartRoutes.Text.Utf8
import DartRoutes.Yaml.Block
import DartRoutes.Yaml.Plain

/-!
# Tokens of a YAML text

The marks and scalars of a YAML text. The nesting that block collections express by indentation is
made explicit by tokens of its own, and the mark of a key is put in front of a key that is
recognised only by the colon behind it. The tokens in front of a fault are kept, because a fault of
theirs comes first; a token that may still turn out to be a key is not among them.
-/

namespace DartRoutes.Yaml

inductive Directive where
  | version (major : Nat)
  | tagHandle (handle expansion : Text)
  | unknown
  deriving DecidableEq, Repr

/-- A mark or a scalar. -/
inductive Token where
  | directive (directive : Directive)
  | documentStart
  | documentEnd
  | blockSequenceStart
  | blockMappingStart
  | blockEnd
  | flowSequenceStart
  | flowSequenceEnd
  | flowMappingStart
  | flowMappingEnd
  | blockEntry
  | flowEntry
  | key
  | value
  | alias (name : Text)
  | anchor (name : Text)
  | tag (handle? : Option Text) (suffix : Text)
  | scalar (text : Text) (plain : Bool)
  deriving DecidableEq, Repr

/-- The tokens of a text, up to its end or up to a fault. -/
structure TokenStream where
  tokens : List Token
  fault? : Option Fault
  deriving DecidableEq, Repr

/-- A place at which a key may have started. -/
structure KeyStart where
  tokenCount : Nat
  required : Bool
  index : Nat
  line : Nat
  column : Int

/-- The state of a scan. -/
structure Scanner where
  cursor : Cursor
  tokens : List Token
  /-- The number of collections in brackets or braces that are open. -/
  flowLevel : Nat
  indent : Int
  outerIndents : List Int
  mayStartKey : Bool
  /-- For each flow level the place at which a key may have started. -/
  keyStarts : List (Nat × KeyStart)

namespace Scanner

def ofText (text : Text) : Scanner where
  cursor := .ofText text
  tokens := []
  flowLevel := 0
  indent := -1
  outerIndents := []
  mayStartKey := true
  keyStarts := []

def inFlow (scanner : Scanner) : Bool :=
  scanner.flowLevel != 0

/-- The scan with more tokens. -/
def emit (scanner : Scanner) (tokens : List Token) : Scanner :=
  { scanner with tokens := scanner.tokens ++ tokens }

/-- The scan behind a mark of some characters. -/
def mark (scanner : Scanner) (length : Nat) (token : Token) : Scanner :=
  { scanner with cursor := scanner.cursor.skip length }.emit [token]

/-- Goes on to the next token; a line break allows a key again. -/
def skipToToken : (fuel : Nat) → Scanner → Scanner
  | 0, scanner => scanner
  | fuel + 1, scanner =>
      let cursor := scanner.cursor.skipSpaces.skipComment
      if isLineBreak cursor.next then
        skipToToken fuel { scanner with
          cursor := cursor.lineBreak.2
          mayStartKey := scanner.mayStartKey || !scanner.inFlow }
      else { scanner with cursor }

/-- Is the place of a possible key too far away for a key on one line? -/
def isStale (cursor : Cursor) (start : KeyStart) : Bool :=
  start.line != cursor.line || decide (start.index + 1024 < cursor.index)

/-- Forgets the places of keys that are too far away. -/
def dropStaleKeys (scanner : Scanner) : Read Scanner :=
  if scanner.keyStarts.any fun (_, start) => start.required && isStale scanner.cursor start then
    .error .malformed
  else
    .ok { scanner with
      keyStarts := scanner.keyStarts.filter fun (_, start) => !isStale scanner.cursor start }

/-- Forgets the place of a possible key on the current level. -/
def dropKey (scanner : Scanner) : Read Scanner :=
  match scanner.keyStarts.lookup scanner.flowLevel with
  | some start =>
      if start.required then .error .malformed
      else
        .ok { scanner with
          keyStarts := scanner.keyStarts.filter fun (level, _) => level != scanner.flowLevel }
  | none => .ok scanner

/-- Notes that a key may start here. -/
def noteKey (scanner : Scanner) : Read Scanner :=
  if scanner.mayStartKey then do
    let scanner ← scanner.dropKey
    let start : KeyStart := {
      tokenCount := scanner.tokens.length
      required := !scanner.inFlow && scanner.indent == scanner.cursor.column
      index := scanner.cursor.index
      line := scanner.cursor.line
      column := scanner.cursor.column }
    return { scanner with keyStarts := (scanner.flowLevel, start) :: scanner.keyStarts }
  else .ok scanner

/-- Closes the block collections that are indented further than a column. -/
def unwind (column : Int) : List Int → Int → List Token → List Int × Int × List Token
  | [], indent, ends => ([], indent, ends)
  | outer :: outers, indent, ends =>
      if column < indent then unwind column outers outer (.blockEnd :: ends)
      else (outer :: outers, indent, ends)

/-- Closes the block collections that end before a column. -/
def closeBlocks (scanner : Scanner) (column : Int) : Scanner :=
  if scanner.inFlow then scanner
  else
    let (outerIndents, indent, ends) := unwind column scanner.outerIndents scanner.indent []
    { scanner with outerIndents, indent }.emit ends

/-- Opens a block collection at a column if it is indented further than the collection around. -/
def openBlock (scanner : Scanner) (column : Int) (position : Nat) (token : Token) : Scanner :=
  if scanner.indent < column then
    { scanner with
      outerIndents := scanner.indent :: scanner.outerIndents
      indent := column
      tokens := scanner.tokens.insertIdx position token }
  else scanner

/-- The name of an anchor or an alias behind its indicator. -/
def name (cursor : Cursor) : Read (Text × Cursor) :=
  let name := cursor.chunk isNameCharacter
  let cursor := cursor.skipWhile isNameCharacter
  if !name.isEmpty
      && (isBlankOrEnd cursor.next || "?:,]\x7d%@\x60".toList.contains cursor.next) then
    .ok (name, cursor)
  else .error .malformed

/-- May the character stand in the suffix of a tag? -/
def isTagCharacter (character : Char) : Bool :=
  character.isAlphanum || "-;/?:@&=+$,_.!~*'()[]%".toList.contains character

/-- The bytes of percent escapes, of which there are at most `fuel`. -/
def escapedBytes : (fuel : Nat) → Cursor → Read (Bytes × Cursor)
  | 0, _ => .error .malformed
  | fuel + 1, cursor =>
      if cursor.next = '%' then do
        let digits := (cursor.rest.drop 1).take 2
        if digits.length = 2 ∧ digits.all isHexDigit then
          let (bytes, cursor) ← escapedBytes fuel (cursor.skip 3)
          return (UInt8.ofNat (digitsValue 16 digits) :: bytes, cursor)
        else .error .malformed
      else .ok ([], cursor)

/-- The suffix of a tag, which has at most `fuel` pieces. -/
def tagSuffixPieces : (fuel : Nat) → Cursor → Read (Text × Cursor)
  | 0, _ => .error .malformed
  | fuel + 1, cursor =>
      if cursor.next = '%' then do
        let (bytes, cursor) ← escapedBytes (cursor.rest.length + 1) cursor
        match Utf8.decode bytes with
        | .ok piece =>
            let (further, cursor) ← tagSuffixPieces fuel cursor
            return (piece ++ further, cursor)
        | .error _ => .error .malformed
      else if isTagCharacter cursor.next then do
        let first := cursor.next
        let (further, cursor) ← tagSuffixPieces fuel cursor.step
        return (first :: further, cursor)
      else .ok ([], cursor)

/-- The suffix of a tag; it is not empty. -/
def tagSuffix (cursor : Cursor) : Read (Text × Cursor) := do
  if isTagCharacter cursor.next then
    let first := cursor.next
    if first = '%' then tagSuffixPieces (cursor.rest.length + 1) cursor
    else
      let (further, cursor) ← tagSuffixPieces (cursor.rest.length + 1) cursor.step
      return (first :: further, cursor)
  else .error .malformed

/-- The handle of a tag, between exclamation marks. -/
def tagHandle (cursor : Cursor) : Read (Text × Cursor) :=
  if cursor.next != '!' then .error .malformed
  else
    let cursor := cursor.step
    if cursor.next = ' ' then .ok (['!'], cursor)
    else
      let word := cursor.chunk isNameCharacter
      let cursor := cursor.skipWhile isNameCharacter
      if cursor.next = '!' then .ok (['!'] ++ word ++ ['!'], cursor.step) else .error .malformed

def tag (cursor : Cursor) : Read (Token × Cursor) := do
  let (handle?, suffix, cursor) ←
    if cursor.peek 1 = '<' then do
      let (suffix, cursor) ← tagSuffix (cursor.skip 2)
      if cursor.next = '>' then pure (none, suffix, cursor.step) else .error .malformed
    else if isBlankOrEnd (cursor.peek 1) then pure (none, ['!'], cursor.step)
    else do
      let word := cursor.rest.drop 1 |>.takeWhile fun character => !isSpaceOrEnd character
      let (handle, cursor) ←
        if word.contains '!' then tagHandle cursor else pure (['!'], cursor.step)
      let (suffix, cursor) ← tagSuffix cursor
      pure (some handle, suffix, cursor)
  if isSpaceOrEnd cursor.next then return (.tag handle? suffix, cursor) else .error .malformed

def versionNumber (cursor : Cursor) : Read (Nat × Cursor) :=
  let digits := cursor.chunk Char.isDigit
  if digits.isEmpty then .error .malformed
  else do
    let number ← Read.ofNumeral (Numeral.whole 10 digits)
    return (number.toNat, cursor.skipWhile Char.isDigit)

def directive (cursor : Cursor) : Read (Directive × Cursor) := do
  let name := cursor.chunk isNameCharacter
  let cursor := cursor.skipWhile isNameCharacter
  if name.isEmpty || !isSpaceOrEnd cursor.next then .error .malformed
  else
    let (directive, cursor) ←
      if name = ("YAML" : Text) then do
        let (major, cursor) ← versionNumber cursor.skipSpaces
        if cursor.next != '.' then .error .malformed
        let (_, cursor) ← versionNumber cursor.step
        if isSpaceOrEnd cursor.next then pure (.version major, cursor) else .error .malformed
      else if name = ("TAG" : Text) then do
        let (handle, cursor) ← tagHandle cursor.skipSpaces
        if cursor.next != ' ' then .error .malformed
        let (expansion, cursor) ← tagSuffix cursor.skipSpaces
        if isSpaceOrEnd cursor.next then pure (.tagHandle handle expansion, cursor)
        else .error .malformed
      else pure (.unknown, cursor.skipWhile (!isLineBreak ·))
    return (directive, ← cursor.endLine)

/-- A separator of documents. -/
def separate (scanner : Scanner) (token : Token) : Read Scanner := do
  let scanner ← (scanner.closeBlocks (-1)).dropKey
  return { scanner with mayStartKey := false }.mark 3 token

def openFlow (scanner : Scanner) (token : Token) : Read Scanner := do
  let scanner ← scanner.noteKey
  return { scanner with flowLevel := scanner.flowLevel + 1, mayStartKey := true }.mark 1 token

def closeFlow (scanner : Scanner) (token : Token) : Read Scanner := do
  let scanner ← scanner.dropKey
  if scanner.inFlow then
    return { scanner with flowLevel := scanner.flowLevel - 1, mayStartKey := false }.mark 1 token
  else .error .malformed

def blockEntry (scanner : Scanner) : Read Scanner := do
  if !scanner.inFlow && !scanner.mayStartKey then .error .malformed
  else
    let scanner :=
      if scanner.inFlow then scanner
      else
        scanner.openBlock scanner.cursor.column scanner.tokens.length .blockSequenceStart
    let scanner ← { scanner with mayStartKey := true }.dropKey
    return scanner.mark 1 .blockEntry

def keyMark (scanner : Scanner) : Read Scanner := do
  if !scanner.inFlow && !scanner.mayStartKey then .error .malformed
  else
    let scanner :=
      if scanner.inFlow then scanner
      else scanner.openBlock scanner.cursor.column scanner.tokens.length .blockMappingStart
    let scanner ← { scanner with mayStartKey := !scanner.inFlow }.dropKey
    return scanner.mark 1 .key

/-- The colon behind a key, which may be recognised only now. -/
def valueMark (scanner : Scanner) : Read Scanner := do
  match scanner.keyStarts.lookup scanner.flowLevel with
  | some start =>
      let scanner := { scanner with
        keyStarts := scanner.keyStarts.filter fun (level, _) => level != scanner.flowLevel
        tokens := scanner.tokens.insertIdx start.tokenCount .key
        mayStartKey := false }
      let scanner :=
        if scanner.inFlow then scanner
        else scanner.openBlock start.column start.tokenCount .blockMappingStart
      return scanner.mark 1 .value
  | none =>
      if !scanner.inFlow && !scanner.mayStartKey then .error .malformed
      else
        let scanner :=
          if scanner.inFlow then scanner
          else scanner.openBlock scanner.cursor.column scanner.tokens.length .blockMappingStart
        let scanner ← { scanner with mayStartKey := !scanner.inFlow }.dropKey
        return scanner.mark 1 .value

/-- A token that may start a key, and behind which no key may start. -/
def property (scanner : Scanner) (scan : Cursor → Read (Token × Cursor)) : Read Scanner := do
  let scanner ← scanner.noteKey
  let (token, cursor) ← scan scanner.cursor
  return { scanner with cursor, mayStartKey := false }.emit [token]

def blockScalar (scanner : Scanner) (folded : Bool) : Read Scanner := do
  let scanner ← { scanner with mayStartKey := true }.dropKey
  let (content, cursor) ← Block.scan folded scanner.indent scanner.cursor.step
  return { scanner with cursor }.emit [.scalar content false]

def plainScalar (scanner : Scanner) : Read Scanner := do
  let scanner ← scanner.noteKey
  let fuel := scanner.cursor.rest.length + 1
  let (content, cursor, lineEnded) :=
    Plain.scan scanner.inFlow (scanner.indent + 1) fuel [] false scanner.cursor
  return { scanner with cursor, mayStartKey := lineEnded }.emit [.scalar content true]

def quotedScalar (quote : Char) (cursor : Cursor) : Read (Token × Cursor) := do
  let (text, cursor) ← Quoted.scan quote (cursor.rest.length + 1) cursor.step
  return (.scalar text false, cursor)

def directiveLine (scanner : Scanner) : Read Scanner := do
  let scanner ← (scanner.closeBlocks (-1)).dropKey
  let (directive, cursor) ← directive scanner.cursor.step
  return { scanner with cursor, mayStartKey := false }.emit [.directive directive]

/-- Scans the next token; there is no answer at the end of the text. -/
def scanToken (scanner : Scanner) : Read Scanner :=
  let cursor := scanner.cursor
  let separates := cursor.column == 0 && cursor.atSeparator
  let isMark := scanner.inFlow || isBlankOrEnd (cursor.peek 1)
  match cursor.next with
  | '%' => if cursor.column = 0 then scanner.directiveLine else .error .malformed
  | '[' => scanner.openFlow .flowSequenceStart
  | '\x7b' => scanner.openFlow .flowMappingStart
  | ']' => scanner.closeFlow .flowSequenceEnd
  | '\x7d' => scanner.closeFlow .flowMappingEnd
  | ',' => do
      let scanner ← { scanner with mayStartKey := true }.dropKey
      return scanner.mark 1 .flowEntry
  | '*' => scanner.property fun cursor => do
      let (name, cursor) ← name cursor.step
      return (.alias name, cursor)
  | '&' => scanner.property fun cursor => do
      let (name, cursor) ← name cursor.step
      return (.anchor name, cursor)
  | '!' => scanner.property tag
  | '\'' => scanner.property (quotedScalar '\'')
  | '"' => scanner.property (quotedScalar '"')
  | character =>
      if character = '-' ∧ separates then scanner.separate .documentStart
      else if character = '.' ∧ separates then scanner.separate .documentEnd
      else if character = '-' ∧ isBlankOrEnd (cursor.peek 1) then scanner.blockEntry
      else if character = '?' ∧ isMark then scanner.keyMark
      else if character = ':' ∧ isMark then scanner.valueMark
      else if character = '|' ∧ !scanner.inFlow then scanner.blockScalar false
      else if character = '>' ∧ !scanner.inFlow then scanner.blockScalar true
      else if Plain.starts scanner.inFlow cursor then scanner.plainScalar
      else .error .malformed

/-- Goes on to the next token and closes the block collections that end before it. -/
def approach (scanner : Scanner) : Read Scanner := do
  let scanner ← (scanner.skipToToken (scanner.cursor.rest.length + 1)).dropStaleKeys
  return scanner.closeBlocks scanner.cursor.column

/-- Scans to the end of the text if it is near, or else the next token. -/
def advance (scanner : Scanner) : Read (Scanner × Bool) := do
  let scanner ← scanner.approach
  if scanner.cursor.rest.isEmpty then return (← (scanner.closeBlocks (-1)).dropKey, true)
  else return (← scanner.scanToken, false)

/-- The tokens that are in front of every place at which a key may have started. -/
def settled (scanner : Scanner) : List Token :=
  let pending := scanner.keyStarts.filter fun (_, start) => !isStale scanner.cursor start
  scanner.tokens.take
    (pending.foldl (fun least (_, start) => min least start.tokenCount) scanner.tokens.length)

/-- Scans the rest of a text of at most `fuel` tokens. -/
def run : (fuel : Nat) → Scanner → TokenStream
  | 0, scanner => ⟨scanner.settled, some .malformed⟩
  | fuel + 1, scanner =>
      match scanner.advance with
      | .error fault => ⟨scanner.settled, some fault⟩
      | .ok (scanner, true) => ⟨scanner.tokens, none⟩
      | .ok (scanner, false) => run fuel scanner

end Scanner

/-- The tokens of a text. A byte order mark at its beginning is left out. -/
def TokenStream.ofText (text : Text) : TokenStream :=
  if text.all isYamlCharacter then
    let scanner := Scanner.ofText text
    let scanner :=
      if text.head? = some '\uFEFF' then { scanner with cursor := scanner.cursor.step }
      else scanner
    scanner.run (text.length + 1)
  else ⟨[], some .malformed⟩

end DartRoutes.Yaml
