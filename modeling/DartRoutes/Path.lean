import DartRoutes.Text.Basic

/-!
# Paths

Slash-separated paths. Repeated slashes, segments `.` and a slash at the end carry no meaning and
vanish; segments `..` are kept. Exactly two slashes at the beginning are a root of their own.
-/

namespace DartRoutes

/-- Where a path starts. -/
inductive Path.Anchor where
  | relative
  | root
  | doubleRoot
  deriving DecidableEq, Repr

/-- A path as the list of its parts. -/
structure Path where
  anchor : Path.Anchor
  parts : List Text
  deriving DecidableEq, Repr

namespace Path

def Anchor.text : Anchor → Text
  | relative => []
  | root => "/"
  | doubleRoot => "//"

/-- The anchor of a written path. -/
def anchorOf : Text → Anchor
  | '/' :: '/' :: '/' :: _ => .root
  | '/' :: '/' :: _ => .doubleRoot
  | '/' :: _ => .root
  | _ => .relative

/-- Does a segment of a written path count as a part? -/
def isPart (segment : Text) : Bool :=
  !segment.isEmpty && segment != ['.']

/-- The path that a text denotes. -/
def ofText (text : Text) : Path :=
  ⟨anchorOf text, (text.splitOn '/').filter isPart⟩

/-- The path as it is written; the empty relative path is a dot. -/
def text (path : Path) : Text :=
  match path.anchor, path.parts with
  | .relative, [] => "."
  | anchor, parts => anchor.text ++ Text.join "/" parts

/-- The right path seen from the left one. -/
def join (left right : Path) : Path :=
  match right.anchor with
  | .relative => ⟨left.anchor, left.parts ++ right.parts⟩
  | _ => right

instance : HDiv Path Text Path := ⟨fun path text => path.join (ofText text)⟩

instance : HDiv Path String Path := ⟨fun path text => path.join (ofText text)⟩

def parent (path : Path) : Path :=
  { path with parts := path.parts.dropLast }

/-- The last part; it is empty if there is none. -/
def name (path : Path) : Text :=
  path.parts.getLast?.getD []

/-- The place of the dot that starts the extension of a name, if the name has one: a dot that is
neither the first nor the last character. -/
def extensionStart? (name : Text) : Option Nat :=
  match name.reverse.findIdx? (· = '.') with
  | none => none
  | some behind =>
      let start := name.length - 1 - behind
      if 0 < behind ∧ 0 < start then some start else none

def stem (path : Path) : Text :=
  match extensionStart? path.name with
  | some start => path.name.take start
  | none => path.name

/-- The extension of the last part, without its dot. -/
def extension (path : Path) : Text :=
  match extensionStart? path.name with
  | some start => path.name.drop (start + 1)
  | none => []

/-- The parts of a list behind the parts that it starts with. -/
def partsBehind? : (start parts : List Text) → Option (List Text)
  | [], parts => some parts
  | _ :: _, [] => none
  | first :: start, part :: parts =>
      if first = part then partsBehind? start parts else none

/-- The path seen from a directory that it lies in. -/
def relativeTo? (path root : Path) : Option Path :=
  if path.anchor = root.anchor then
    (partsBehind? root.parts path.parts).map (⟨.relative, ·⟩)
  else none

/-- The path as it is shown: seen from the root if it lies there. -/
def shownFrom (path root : Path) : Text :=
  ((path.relativeTo? root).getD path).text

end Path

end DartRoutes
