/-!
# Files and directories

A file system as a value.

* `FileTree`: a file with its bytes, or a directory with its entries;
* `FileSystem`: a tree and the directory that relative paths start from;
* `FileSystem.find`, `readText`, `write`: what a path leads to, its text, and new content for it;
* `FileTree.walk`: the files below a path, each directory in the order of its names;
* `FileName.extension?`, `stem?`, `extended?`: the parts of the last name of a path, and a path with
  an extension added.

There are no links.  A path is cut at its slashes; a dot or an empty name stays where it is, and two
dots lead to the directory above.
-/

namespace ShapeCheck

/-- A file or a directory. -/
inductive FileTree where
  | file (content : ByteArray)
  | directory (entries : List (String × FileTree))

/-- Why a file cannot be had. -/
inductive IoFault where
  | notFound
  | notADirectory
  | isADirectory
  | notText
  deriving DecidableEq, Repr

/-- The words for a fault. -/
def IoFault.message : IoFault → String
  | notFound => "No such file or directory (os error 2)"
  | notADirectory => "Not a directory (os error 20)"
  | isADirectory => "Is a directory (os error 21)"
  | notText => "stream did not contain valid UTF-8"

namespace FileTree

/-- The directory without entries. -/
def empty : FileTree := directory []

instance : Inhabited FileTree := ⟨empty⟩

/-- One step along a path, from the trees above, nearest first, and the tree arrived at. -/
def step (above : List FileTree) (here : FileTree) (name : String) :
    Except IoFault (List FileTree × FileTree) :=
  match here with
  | file _ => .error .notADirectory
  | directory entries =>
    if name = "" ∨ name = "." then .ok (above, here)
    else if name = ".." then
      match above with
      | [] => .ok ([], here)
      | parent :: more => .ok (more, parent)
    else
      match entries.lookup name with
      | none => .error .notFound
      | some next => .ok (here :: above, next)

/-- The steps along a path. -/
def follow (above : List FileTree) (here : FileTree) : List String →
    Except IoFault (List FileTree × FileTree)
  | [] => .ok (above, here)
  | name :: rest =>
    match step above here name with
    | .error fault => .error fault
    | .ok (above, here) => follow above here rest

/-- The entries with one of them replaced or added. -/
def setEntry (name : String) (t : FileTree) :
    List (String × FileTree) → List (String × FileTree)
  | [] => [(name, t)]
  | entry :: rest =>
    if entry.1 = name then (name, t) :: rest else entry :: setEntry name t rest

/-- The tree with another tree put at the end of a list of names.  Directories on the way are made
if `parents` is set; a directory is never replaced by a file, and takes up the entries of another
directory. -/
def put (parents : Bool) (t : FileTree) : List String → FileTree → Except IoFault FileTree
  | [], file _ => .ok t
  | [], directory entries =>
    match t with
    | file _ => .error .isADirectory
    | directory more =>
      .ok (directory (more.foldl (fun entries (name, t) => setEntry name t entries) entries))
  | _ :: _, file _ => .error .notADirectory
  | [name], directory entries =>
    match entries.lookup name with
    | none => .ok (directory (setEntry name t entries))
    | some old => do .ok (directory (setEntry name (← put parents t [] old) entries))
  | name :: next :: rest, directory entries =>
    match entries.lookup name with
    | some old => do
      .ok (directory (setEntry name (← put parents t (next :: rest) old) entries))
    | none =>
      if parents then do
        .ok (directory (setEntry name (← put parents t (next :: rest) empty) entries))
      else .error .notFound

/-- A path one name further. -/
def join (path name : String) : String :=
  if path.endsWith "/" then path ++ name else path ++ "/" ++ name

mutual

/-- The files at and below a path, with their paths and contents. -/
def walk (path : String) : FileTree → List (String × ByteArray)
  | file content => [(path, content)]
  | directory entries =>
    ((walkEntries path entries).mergeSort fun a b => decide (a.1 ≤ b.1)).flatMap Prod.snd
termination_by structural t => t

/-- The files below the entries of a directory, by name of the entry. -/
def walkEntries (path : String) :
    List (String × FileTree) → List (String × List (String × ByteArray))
  | [] => []
  | (name, t) :: rest => (name, walk (join path name) t) :: walkEntries path rest
termination_by structural entries => entries

end

end FileTree

/-- A tree and the names that lead to the directory where relative paths start. -/
structure FileSystem where
  root : FileTree
  current : List String

namespace FileSystem

/-- The names of a path from the root of the tree. -/
def names (fs : FileSystem) (path : String) : List String :=
  let parts := path.splitOn "/"
  if path.startsWith "/" then parts else fs.current ++ parts

/-- What a path leads to; the empty path leads nowhere. -/
def find (fs : FileSystem) (path : String) : Except IoFault FileTree :=
  if path = "" then .error .notFound
  else (FileTree.follow [] fs.root (fs.names path)).map Prod.snd

/-- The bytes of a file. -/
def readBytes (fs : FileSystem) (path : String) : Except IoFault ByteArray :=
  match fs.find path with
  | .error fault => .error fault
  | .ok (.directory _) => .error .isADirectory
  | .ok (.file content) => .ok content

/-- Bytes as text. -/
def textOf (content : ByteArray) : Except IoFault String :=
  match String.fromUTF8? content with
  | some text => .ok text
  | none => .error .notText

/-- The text of a file. -/
def readText (fs : FileSystem) (path : String) : Except IoFault String :=
  (fs.readBytes path).bind textOf

/-- Whether a path leads to a file. -/
def isFile (fs : FileSystem) (path : String) : Bool :=
  match fs.find path with
  | .ok (.file _) => true
  | _ => false

/-- Whether a path leads anywhere. -/
def exists? (fs : FileSystem) (path : String) : Bool := (fs.find path).isOk

/-- Names without those that stay where they are and without steps back. -/
def canonical (done : List String) : List String → List String
  | [] => done.reverse
  | name :: rest =>
    if name = "" ∨ name = "." then canonical done rest
    else if name = ".." then canonical done.tail rest
    else canonical (name :: done) rest

/-- The file system with a tree put at a path; see `FileTree.put`. -/
def plant (fs : FileSystem) (parents : Bool) (path : String) (t : FileTree) :
    Except IoFault FileSystem :=
  (FileTree.put parents t (canonical [] (fs.names path)) fs.root).map ({ fs with root := · })

/-- The names that lead to the directory of a path. -/
def above (fs : FileSystem) (path : String) : List String :=
  ((fs.names path).reverse.dropWhile (· = "")).reverse.dropLast

/-- The file system with new text for a file in a directory that exists.  A slash at the end asks
for a directory. -/
def write (fs : FileSystem) (path text : String) : Except IoFault FileSystem :=
  if path = "" then .error .notFound
  else
    match FileTree.follow [] fs.root (fs.above path) with
    | .error fault => .error fault
    | .ok (_, .file _) => .error .notADirectory
    | .ok (_, .directory _) =>
      if path.endsWith "/" then .error .isADirectory
      else fs.plant false path (.file text.toUTF8)

/-- The files at and below a path, or why there is nothing there. -/
def walk (fs : FileSystem) (path : String) : Except IoFault (List (String × ByteArray)) :=
  (fs.find path).map (FileTree.walk path)

end FileSystem

namespace FileName

/-- The names of a path, slashes and dots behind the last one left out. -/
def parts (path : String) : List String :=
  ((path.splitOn "/").reverse.dropWhile fun part => part = "" ∨ part = ".").reverse

/-- The last name of a path, slashes and dots behind it left out. -/
def ofPath? (path : String) : Option String := (parts path).getLast?.filter (· ≠ "..")

/-- The characters before and after the last dot; a dot at the very start does not count. -/
def cut? (name : String) : Option (String × String) :=
  match name.toList.reverse.dropWhile (· ≠ '.') with
  | _ :: before :: more =>
    some (String.ofList (before :: more).reverse,
      String.ofList (name.toList.reverse.takeWhile (· ≠ '.')).reverse)
  | _ => none

/-- The part of the last name of a path after its last dot. -/
def extension? (path : String) : Option String := ((ofPath? path).bind cut?).map Prod.snd

/-- The part of the last name of a path before its last dot. -/
def stem? (path : String) : Option String :=
  (ofPath? path).map fun name => ((cut? name).map Prod.fst).getD name

/-- A path with an extension added to its last name. -/
def extended? (path extension : String) : Option String :=
  (ofPath? path).map fun _ => String.intercalate "/" (parts path) ++ "." ++ extension

end FileName

end ShapeCheck
