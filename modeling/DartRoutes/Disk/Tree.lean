import DartRoutes.Text.Utf8

/-!
# File trees

A file tree is a file or a directory of named trees. A place is the list of names that lead to a
part of the tree. Putting a tree at a place changes what is there and below, and nothing else.
-/

namespace DartRoutes

/-- The names that lead from the root to a part of a tree. -/
abbrev Place := List Text

inductive FileTree where
  | file (content : Bytes)
  | directory (entries : List (Text × FileTree))

namespace FileTree

def empty : FileTree :=
  .directory []

/-- The tree of a name in a directory. -/
def entry? (name : Text) : FileTree → Option FileTree
  | .file _ => none
  | .directory entries => entries.lookup name

def at? : Place → FileTree → Option FileTree
  | [], tree => some tree
  | name :: place, tree => (tree.entry? name).bind (at? place)

def isDirectory : FileTree → Bool
  | .file _ => false
  | .directory _ => true

/-- The content of a tree that is a file. -/
def content? : FileTree → Option Bytes
  | .file content => some content
  | .directory _ => none

/-- The content of the file at a place. -/
def contentAt? (place : Place) (tree : FileTree) : Option Bytes :=
  (tree.at? place).bind content?

/-- The entries of a directory with a tree for a name; a name that is there keeps its place. -/
def setEntry (name : Text) (new : FileTree) : List (Text × FileTree) → List (Text × FileTree)
  | [] => [(name, new)]
  | entry :: entries =>
      if entry.1 = name then (name, new) :: entries else entry :: setEntry name new entries

/-- The tree with a new tree at a place. Directories on the way are made; a file on the way stays
as it is. -/
def put : FileTree → Place → FileTree → FileTree
  | _, [], new => new
  | .file content, _ :: _, _ => .file content
  | .directory entries, name :: place, new =>
      .directory (setEntry name (put ((entries.lookup name).getD empty) place new) entries)

/-- The tree without what is at a place and below it; the root stays. -/
def erase : FileTree → Place → FileTree
  | tree, [] => tree
  | .file content, _ :: _ => .file content
  | .directory entries, [name] => .directory (entries.filter (·.1 != name))
  | .directory entries, name :: next :: place =>
      match entries.lookup name with
      | some tree => .directory (setEntry name (erase tree (next :: place)) entries)
      | none => .directory entries

mutual

/-- The files of a tree with their places. -/
def files : FileTree → List (Place × Bytes)
  | .file content => [([], content)]
  | .directory entries => entryFiles entries

/-- The files of the entries of a directory. -/
def entryFiles : List (Text × FileTree) → List (Place × Bytes)
  | [] => []
  | (name, tree) :: entries =>
      (files tree).map (fun file => (name :: file.1, file.2)) ++ entryFiles entries

end

theorem lookup_setEntry (name other : Text) (new : FileTree) (entries : List (Text × FileTree)) :
    (setEntry name new entries).lookup other =
      if other = name then some new else entries.lookup other := by
  induction entries with
  | nil => grind [setEntry]
  | cons entry entries induction =>
      obtain ⟨key, tree⟩ := entry
      by_cases found : key = name <;> by_cases same : other = key <;>
        grind [setEntry]

theorem at?_append (start further : Place) (tree : FileTree) :
    tree.at? (start ++ further) = (tree.at? start).bind (at? further) := by
  induction start generalizing tree with
  | nil => rfl
  | cons name start induction =>
      cases found : tree.entry? name with
      | none => simp [at?, found]
      | some below => simp [at?, found, induction]

theorem contentAt?_cons (name : Text) (place : Place) (entries : List (Text × FileTree)) :
    (directory entries).contentAt? (name :: place) =
      (entries.lookup name).bind (contentAt? place) := by
  cases found : entries.lookup name with
  | none => simp [contentAt?, at?, entry?, found]
  | some below => simp [contentAt?, at?, entry?, found]

theorem contentAt?_empty (place : Place) : empty.contentAt? place = none := by
  cases place with
  | nil => rfl
  | cons name place => exact contentAt?_cons name place []

/-- Putting a tree at a place changes no file elsewhere. -/
theorem contentAt?_put_of_not_prefix {place other : Place} (new tree : FileTree)
    (apart : ¬ place <+: other) :
    (tree.put place new).contentAt? other = tree.contentAt? other := by
  induction place generalizing tree other with
  | nil => exact absurd List.nil_prefix apart
  | cons name place induction =>
      cases tree with
      | file content => rfl
      | directory entries =>
          cases other with
          | nil => rfl
          | cons head rest =>
              rw [put, contentAt?_cons, contentAt?_cons, lookup_setEntry]
              by_cases same : head = name
              · subst same
                have below : ¬ place <+: rest := fun shorter =>
                  apart (List.cons_prefix_cons.mpr ⟨rfl, shorter⟩)
                rw [if_pos rfl, Option.bind_some, induction _ below]
                cases entries.lookup head with
                | none => exact contentAt?_empty rest
                | some tree => rfl
              · rw [if_neg same]

theorem at?_put_of_directory {start : Place} {name : Text} {tree : FileTree}
    {entries : List (Text × FileTree)} (new : FileTree)
    (found : tree.at? start = some (directory entries)) :
    (tree.put (start ++ [name]) new).at? (start ++ [name]) = some new := by
  induction start generalizing tree with
  | nil =>
      cases found
      simp [put, at?, entry?, lookup_setEntry]
  | cons head start induction =>
      cases tree with
      | file content => simp [at?, entry?] at found
      | directory others =>
          cases below : others.lookup head with
          | none => simp [at?, entry?, below] at found
          | some subtree =>
              simp only [at?, entry?, below, Option.bind_some] at found
              simp [put, at?, entry?, lookup_setEntry, below, induction found]

end FileTree

end DartRoutes
