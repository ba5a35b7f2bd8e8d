namespace StepCommand

-- Files in directories. A name is a text, and an entry is not a link to another.
inductive FileTree where
  | file (content : ByteArray)
  | directory (entries : List (String × FileTree))
deriving Inhabited

-- The names on the way from the root.
abbrev Location := List String

namespace FileTree

def isDirectory : FileTree → Bool
  | directory _ => true
  | file _ => false

def find? : FileTree → Location → Option FileTree
  | tree, [] => some tree
  | directory entries, name :: rest =>
      match entries.lookup name with
      | some inner => find? inner rest
      | none => none
  | file _, _ :: _ => none

-- An entry keeps its place if it is replaced; a new one comes last.
def setEntry (name : String) (tree : FileTree) : List (String × FileTree) →
    List (String × FileTree)
  | [] => [(name, tree)]
  | (other, inner) :: rest =>
      if other = name then (other, tree) :: rest else (other, inner) :: setEntry name tree rest

-- Changes nothing if a file stands in the way.
def put : FileTree → Location → FileTree → FileTree
  | _, [], tree => tree
  | directory entries, name :: rest, tree =>
      let inner := (entries.lookup name).getD (directory [])
      directory (setEntry name (put inner rest tree) entries)
  | file content, _ :: _, _ => file content

def remove : FileTree → Location → FileTree
  | tree, [] => tree
  | directory entries, [name] => directory (entries.filter fun entry => entry.1 ≠ name)
  | directory entries, name :: next :: rest =>
      match entries.lookup name with
      | some inner => directory (setEntry name (remove inner (next :: rest)) entries)
      | none => directory entries
  | file content, _ :: _ => file content

mutual

-- Every file and directory below a directory; the name of a directory ends in a slash.
def listing (path : String) : FileTree → List String
  | file _ => []
  | directory entries => listingOf path entries

def listingOf (path : String) : List (String × FileTree) → List String
  | [] => []
  | (name, tree) :: rest =>
      let here := path ++ name ++ if tree.isDirectory then "/" else ""
      here :: (listing here tree ++ listingOf path rest)

end

end FileTree

end StepCommand
