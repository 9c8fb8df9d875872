import DartRoutes.Yaml.Quoted

/-!
# Plain scalars

Scalars without quotes. They end at a comment, at the colon of a key, or where a line is not
indented far enough; inside brackets and braces they also end at the marks of a collection.
-/

namespace DartRoutes.Yaml

namespace Plain

/-- May a plain scalar start here? -/
def starts (inFlow : Bool) (cursor : Cursor) : Bool :=
  let character := cursor.next
  !(isBlankOrEnd character || "-?:,[]\x7b\x7d#&*!|>'\"%@\x60".toList.contains character)
    || (!isBlankOrEnd (cursor.peek 1)
      && (character == '-' || (!inFlow && (character == '?' || character == ':'))))

/-- The characters of a plain scalar up to the next blank or the end of the scalar. -/
def chunk (inFlow : Bool) : Text → Text
  | [] => []
  | character :: rest =>
      let next := rest.head?.getD endMark
      if isBlankOrEnd character
          || (character == ':'
            && (isBlankOrEnd next || (inFlow && ",[]\x7b\x7d".toList.contains next)))
          || (inFlow && ",?[]\x7b\x7d".toList.contains character) then []
      else character :: chunk inFlow rest

/-- Line breaks and spaces at the beginning of lines, up to the next line with text; there is no
answer before a separator of documents. -/
def breaks : (fuel : Nat) → Cursor → Option Text × Cursor
  | 0, cursor => (some [], cursor)
  | fuel + 1, cursor =>
      if cursor.atSeparator then (none, cursor)
      else
        let cursor := cursor.skipSpaces
        if isLineBreak cursor.next then
          let (first, cursor) := cursor.lineBreak
          let (further, cursor) := breaks fuel cursor
          (further.map (first ++ ·), cursor)
        else (some [], cursor)

/-- What stands between two chunks of a scalar, the place behind it, and whether a line ended. -/
def spaces (cursor : Cursor) : Text × Cursor × Bool :=
  let blanks := cursor.chunk (· == ' ')
  let cursor := cursor.skipSpaces
  if isLineBreak cursor.next then
    let (first, cursor) := cursor.lineBreak
    match breaks (cursor.rest.length + 1) cursor with
    | (some further, cursor) => (foldBreaks first further, cursor, true)
    | (none, cursor) => ([], cursor, true)
  else (blanks, cursor, false)

/--
The rest of a scalar behind the text `between`, the place behind it, and whether a line ended
behind its last chunk. The text has at most `fuel` chunks.
-/
def scan (inFlow : Bool) (indent : Int) :
    (fuel : Nat) → (between : Text) → (lineEnded : Bool) → Cursor → Text × Cursor × Bool
  | 0, _, lineEnded, cursor => ([], cursor, lineEnded)
  | fuel + 1, between, lineEnded, cursor =>
      let piece := if cursor.next = '#' then [] else chunk inFlow cursor.rest
      if piece.isEmpty then ([], cursor, lineEnded)
      else
        let (further, cursor, lineEnded) := spaces (cursor.skip piece.length)
        if further.isEmpty || cursor.next == '#'
            || (!inFlow && decide (cursor.column < indent)) then
          (between ++ piece, cursor, lineEnded)
        else
          let (rest, cursor, lineEnded) := scan inFlow indent fuel further lineEnded cursor
          (between ++ piece ++ rest, cursor, lineEnded)

end Plain

end DartRoutes.Yaml
