/-! The part of a file system that reading a file takes, and a tree of files held in memory. -/

namespace DecodeBench

structure FileAccess (m : Type → Type) where
  isDirectory : String → m Bool
  isFile : String → m Bool
  read : String → m (Option (List UInt8))

def joinPath (directory entry : String) : String :=
  if directory.isEmpty || entry.startsWith "/" then entry
  else if directory.endsWith "/" then directory ++ entry else directory ++ "/" ++ entry

abbrev AbsolutePath := List String

inductive FileEntry where
  | file (bytes : List UInt8)
  | directory
  deriving Repr

structure FileTree where
  entries : List (AbsolutePath × FileEntry)
  workingDirectory : AbsolutePath := []

namespace FileTree

def isOnTheWay (t : FileTree) (path : AbsolutePath) : Bool :=
  path.isPrefixOf t.workingDirectory || t.entries.any fun (p, _) => path.isPrefixOf p && p.length != path.length

def entry? (t : FileTree) (path : AbsolutePath) : Option FileEntry :=
  match t.entries.lookup path with
  | some e => some e
  | none => if path.isEmpty || t.isOnTheWay path then some .directory else none

def isDirectory (t : FileTree) (path : AbsolutePath) : Bool :=
  match t.entry? path with
  | some .directory => true
  | _ => false

def descend (t : FileTree) (here : AbsolutePath) (name : String) : Option AbsolutePath :=
  if t.isDirectory here then
    if name = "" ∨ name = "." then some here else if name = ".." then some here.dropLast else some (here ++ [name])
  else none

def resolve? (t : FileTree) (path : String) : Option AbsolutePath :=
  if path.isEmpty then none
  else (path.splitOn "/").foldlM t.descend (if path.startsWith "/" then [] else t.workingDirectory)

def find? (t : FileTree) (path : String) : Option FileEntry := (t.resolve? path).bind t.entry?

def access (t : FileTree) : FileAccess Id where
  isDirectory path := match t.find? path with
    | some .directory => true
    | _ => false
  isFile path := match t.find? path with
    | some (.file _) => true
    | _ => false
  read path := match t.find? path with
    | some (.file bytes) => some bytes
    | _ => none

end FileTree

end DecodeBench
