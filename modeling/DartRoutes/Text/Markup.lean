import DartRoutes.Text.Blank
import DartRoutes.Text.Casing

/-!
# Markup

Shown texts may hold tags in brackets that set a style. Showing a text drops its tags and the
control characters that would move the cursor. A backslash in front of a tag makes it a text, and
escaping puts such backslashes in front of everything that looks like a tag. A text with a tag that
closes nothing cannot be shown.
-/

namespace DartRoutes

namespace Markup

/-- Is the character dropped when it is shown? -/
def isControl (character : Char) : Bool :=
  ['\x07', '\x08', '\x0B', '\x0C', '\r'].contains character

/-- May the character stand at the beginning of a tag? -/
def startsTag (character : Char) : Bool :=
  ('a' ≤ character && character ≤ 'z') || ['#', '/', '@'].contains character

/-- The tag at the beginning of a text. -/
def tag? : Text → Option Text
  | '[' :: first :: rest =>
      let inside := rest.takeWhile fun character => character != '[' && character != ']'
      match rest.drop inside.length with
      | ']' :: _ => if startsTag first then some ('[' :: first :: inside ++ [']']) else none
      | _ => none
  | _ => none

/-- The backslashes at the beginning of a text and the tag behind them. -/
def slashedTag? (text : Text) : Option (Text × Text) :=
  let slashes := text.takeWhile (· == '\\')
  (tag? (text.drop slashes.length)).map fun tag => (slashes, tag)

/-- The text in which nothing looks like a tag. -/
def escapeTags : Text → Text :=
  Text.substitute fun rest =>
    (slashedTag? rest).map fun (slashes, tag) =>
      (slashes.length + tag.length - 1, slashes ++ slashes ++ ['\\'] ++ tag)

/-- The text that is shown as it is when a tag is put behind it. A single backslash at its end is
doubled; of several backslashes none is. -/
def escape (text : Text) : Text :=
  let escaped := escapeTags text
  match escaped.reverse with
  | ['\\'] => escaped ++ ['\\']
  | '\\' :: before :: _ => if before = '\\' then escaped else escaped ++ ['\\']
  | _ => escaped

/-- How a text is shown: half of the backslashes in front of a tag are shown, and the tag itself is
shown if their number is odd. -/
def plain (text : Text) : Text :=
  let shown := Text.substitute (fun rest =>
    match slashedTag? rest, rest with
    | some (slashes, tag), _ =>
        some (slashes.length + tag.length - 1,
          slashes.take (slashes.length / 2) ++ (if slashes.length % 2 = 1 then tag else []))
    | none, '\\' :: '[' :: _ => some (1, ['['])
    | none, _ => none) text
  shown.filter (!isControl ·)

/-- A text between the tags of a style. -/
def tagged (style text : Text) : Text :=
  "[" ++ style ++ "]" ++ text ++ "[/" ++ style ++ "]"

/-- A text in a style, shown as it is. -/
def styled (style text : Text) : Text :=
  tagged style (escape text)

/-- The styles in which something is shown. -/
def styles : List Text :=
  ["bold", "dim", "green", "bold green", "bold yellow", "bold red", "bold white",
    "bold bright_cyan", "bold bright_green"]

/-- A text whose tags close each other in turn, whatever is put between them: this is escaped, or it
has nothing to escape. -/
inductive IsTidy : Text → Prop
  | plain {text : Text} : '[' ∉ text → '\\' ∉ text → IsTidy text
  | styled {style : Text} (text : Text) : style ∈ styles → IsTidy (styled style text)
  | append {left right : Text} : IsTidy left → IsTidy right → IsTidy (left ++ right)

/-- The tags that count in a text from a position on, each with its position; the first one is a text
if a backslash in front of it escapes it. -/
def tagsFrom (position : Nat) (isEscaped : Bool) : Text → List (Nat × Text)
  | [] => []
  | character :: rest =>
      let behind := tagsFrom (position + 1) (character == '\\' && !isEscaped) rest
      match tag? (character :: rest) with
      | some tag => if isEscaped then behind else (position, tag) :: behind
      | none => behind

/-- The name of a style; neither case nor the blanks around it matter. -/
def styleName (text : Text) : Text :=
  Text.lower (((text.dropWhile isBlank).reverse.dropWhile isBlank).reverse)

/-- Why tags do not close each other behind some styles that are still open, the last one first. -/
def mismatch? (opened : List Text) : List (Nat × Text) → Option Text
  | [] => none
  | (position, tag) :: tags =>
      let place : Text := " at position " ++ Text.ofNat position
      match tag.tail.takeWhile fun character => character != '=' && character != ']' with
      | '/' :: name =>
          if (styleName name).isEmpty then
            match opened with
            | [] => some ("closing tag '[/]'" ++ place ++ " has nothing to close")
            | _ :: opened => mismatch? opened tags
          else if opened.contains (styleName name) then
            mismatch? (opened.erase (styleName name)) tags
          else some ("closing tag '" ++ tag ++ "'" ++ place ++ " doesn't match any open tag")
      | name => mismatch? (styleName name :: opened) tags

/-- Why a text cannot be shown. -/
def fault? (text : Text) : Option Text :=
  mismatch? [] (tagsFrom 0 false text)

end Markup

end DartRoutes
