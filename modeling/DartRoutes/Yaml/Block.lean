import DartRoutes.Yaml.Quoted

/-!
# Block scalars

Literal and folded scalars, whose lines are indented below their parent. A header may state how the
line breaks at the end are kept and how far the lines are indented.
-/

namespace DartRoutes.Yaml

namespace Block

/-- What happens to the line breaks at the end of a block scalar. -/
inductive Chomping where
  | strip
  | clip
  | keep
  deriving DecidableEq, Repr

structure Header where
  chomping : Chomping
  increment? : Option Nat
  deriving DecidableEq, Repr

/-- The chomping that a character states. -/
def chomping? (character : Char) : Option Chomping :=
  if character = '+' then some .keep else if character = '-' then some .strip else none

/-- The increment of the indentation that a character states; zero is none. -/
def increment? (character : Char) : Read (Option Nat) :=
  if character = '0' then .error .malformed
  else if character.isDigit then .ok (some (digitValue character))
  else .ok none

/-- The header behind the indicator of the scalar, up to the end of the line. -/
def header (cursor : Cursor) : Read (Header × Cursor) := do
  let (header, cursor) ←
    match chomping? cursor.next with
    | some chomping =>
        let cursor := cursor.step
        match ← increment? cursor.next with
        | some increment => pure (⟨chomping, some increment⟩, cursor.step)
        | none => pure (⟨chomping, none⟩, cursor)
    | none =>
        match ← increment? cursor.next with
        | some increment =>
            let cursor := cursor.step
            match chomping? cursor.next with
            | some chomping => pure (⟨chomping, some increment⟩, cursor.step)
            | none => pure (⟨.clip, some increment⟩, cursor)
        | none => pure (⟨.clip, none⟩, cursor)
  if isSpaceOrEnd cursor.next then return (header, ← cursor.endLine)
  else .error .malformed

/-- The line breaks before the first line with text, and the greatest column that is reached. -/
def leading : (fuel : Nat) → Int → Cursor → Text × Int × Cursor
  | 0, greatest, cursor => ([], greatest, cursor)
  | fuel + 1, greatest, cursor =>
      if cursor.next = ' ' then
        let cursor := cursor.step
        leading fuel (max greatest cursor.column) cursor
      else if isLineBreak cursor.next then
        let (first, cursor) := cursor.lineBreak
        let (further, greatest, cursor) := leading fuel greatest cursor
        (first ++ further, greatest, cursor)
      else ([], greatest, cursor)

/-- The place behind the spaces up to a column. -/
def skipIndent (indent : Int) : (fuel : Nat) → Cursor → Cursor
  | 0, cursor => cursor
  | fuel + 1, cursor =>
      if cursor.column < indent ∧ cursor.next = ' ' then skipIndent indent fuel cursor.step
      else cursor

/-- The line breaks before the next line with text, whose indentation is left out. -/
def breaks (indent : Int) : (fuel : Nat) → Cursor → Text × Cursor
  | 0, cursor => ([], cursor)
  | fuel + 1, cursor =>
      let cursor := skipIndent indent cursor.rest.length cursor
      if isLineBreak cursor.next then
        let (first, cursor) := cursor.lineBreak
        let (further, cursor) := breaks indent fuel cursor
        (first ++ further, cursor)
      else ([], cursor)

def isBlankCharacter (character : Char) : Bool :=
  character == ' ' || character == '\t'

/-- The lines of a scalar, when the line breaks `pending` stand before the next line. -/
def lines (folded : Bool) (chomping : Chomping) (indent : Int) :
    (fuel : Nat) → (pending : Text) → Cursor → Text × Cursor
  | 0, _, cursor => ([], cursor)
  | fuel + 1, pending, cursor =>
      let line := cursor.chunk (!isLineBreak ·)
      let startsBlank := isBlankCharacter cursor.next
      let (lineEnd, cursor) := (cursor.skipWhile (!isLineBreak ·)).lineBreak
      let (further, cursor) := breaks indent (cursor.rest.length + 1) cursor
      if cursor.column = indent ∧ cursor.next ≠ endMark then
        let between : Text :=
          if folded ∧ lineEnd = ['\n'] ∧ !startsBlank ∧ !isBlankCharacter cursor.next then
            if further.isEmpty then [' '] else []
          else lineEnd
        let (rest, cursor) := lines folded chomping indent fuel further cursor
        (pending ++ line ++ between ++ rest, cursor)
      else
        let tail : Text :=
          match chomping with
          | .strip => []
          | .clip => lineEnd
          | .keep => lineEnd ++ further
        (pending ++ line ++ tail, cursor)

/-- A block scalar behind its indicator, inside a parent with the given indentation. -/
def scan (folded : Bool) (parentIndent : Int) (cursor : Cursor) : Read (Text × Cursor) := do
  let (header, cursor) ← header cursor
  let least := max 1 (parentIndent + 1)
  let fuel := cursor.rest.length + 1
  let (pending, indent, cursor) :=
    match header.increment? with
    | none =>
        let (pending, greatest, cursor) := leading fuel 0 cursor
        (pending, max least greatest, cursor)
    | some increment =>
        let indent := least + increment - 1
        let (pending, cursor) := breaks indent fuel cursor
        (pending, indent, cursor)
  if cursor.column = indent ∧ cursor.next ≠ endMark then
    return lines folded header.chomping indent fuel pending cursor
  else
    return (if header.chomping = .keep then pending else [], cursor)

end Block

end DartRoutes.Yaml
