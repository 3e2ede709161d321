import BlockSyntax.Text.Quote

/-!
# Directory trees

A `Disk` is a file system given as data: the files and directories under the working directory,
each by its path there, with the bytes of each file; and the entries known from the root of the
file system.  A directory that holds a listed entry exists as well, and of two files listed at one
path the later one is there.  The working directory is a directory of its own inside `/tmp`, under
a name that nothing else refers to and that is as long as a fresh temporary directory's name.

`Disk.openFile` finds the file a path names as an operating system does: it walks the path name by
name from the working directory (from the root for a path that starts with `/`), `.` staying and
`..` going up (the root is its own parent), and every name but the last must be a directory.  It
fails with a missing entry, a directory where a file was wanted, a file where a directory was
wanted, or a name longer than 255 bytes (or a whole path of 4096 bytes or more); a path that holds
the character U+0000 cannot be given to the system at all.

`pathText` writes a path the way a path object shows it: repeated `/` and `.` names dropped,
a trailing `/` dropped, `.` for the empty path, and two leading slashes kept.
-/

namespace BlockSyntax

/-- What a path may name. -/
inductive Node where
  | file (bytes : List UInt8)
  | dir
  deriving DecidableEq, Repr

/-- Why a file could not be opened. -/
inductive OpenError where
  | missing
  | isDirectory
  | notDirectory
  /-- A name of the path is longer than 255 bytes, or the whole path is 4096 bytes or more. -/
  | nameTooLong
  /-- The path holds the character U+0000, which no path given to the system may hold. -/
  | nullCharacter
  deriving DecidableEq, Repr

/-- The message of an open error for the path `shown`. -/
def OpenError.describe (e : OpenError) (shown : String) : String :=
  match e with
  | .missing => "[Errno 2] No such file or directory: " ++ Text.quote shown
  | .isDirectory => "[Errno 21] Is a directory: " ++ Text.quote shown
  | .notDirectory => "[Errno 20] Not a directory: " ++ Text.quote shown
  | .nameTooLong => "[Errno 36] File name too long: " ++ Text.quote shown
  | .nullCharacter => "embedded null byte"

/-- The names of a path, without empty names (from repeated or outer `/`) and without `.`. -/
def pathNames (s : String) : List String :=
  (s.splitOn "/").filter fun n => n ≠ "" && n ≠ "."

/-- A path as a path object shows it. -/
def pathText (s : String) : String :=
  let root :=
    if s.startsWith "//" && !s.startsWith "///" then "//"
    else if s.startsWith "/" then "/"
    else ""
  let body := "/".intercalate (pathNames s)
  if root.isEmpty && body.isEmpty then "." else root ++ body

/-- Files with their bytes and directories, each by its names from the top of the tree. -/
structure Tree where
  files : List (List String × List UInt8)
  dirs : List (List String)
  deriving Repr

namespace Tree

/-- The tree with the files and directories at the given paths. -/
def ofLists (files : List (String × List UInt8)) (dirs : List String) : Tree :=
  ⟨files.map fun (p, b) => (pathNames p, b), dirs.map pathNames⟩

/-- What the names `p` lead to from the top of the tree. -/
def node? (t : Tree) (p : List String) : Option Node :=
  match (t.files.filter (·.1 = p)).getLast? with
  | some (_, bytes) => some (.file bytes)
  | none =>
    if p.isEmpty || t.dirs.any (p.isPrefixOf ·) ||
        t.files.any (fun f => p.isPrefixOf f.1 && p.length < f.1.length) then some .dir
    else none

/-- The entries directly inside the directory `p`, by name, in no particular order. -/
def children (t : Tree) (p : List String) : List String :=
  let below := t.files.map (·.1) ++ t.dirs
  (below.filterMap fun q => if p.isPrefixOf q then (q.drop p.length).head? else none).eraseDups

/-- What every system the checker runs on holds from its root: the device directory with the
empty device `null`, and the directory of temporary files.  Nothing in them is a fixture. -/
def system : Tree :=
  ⟨[(["dev", "null"], [])], [["dev"], ["tmp"]]⟩

end Tree

/-- The names of the directory that holds the working directory, from the root. -/
def home : List String := ["tmp"]

/-- Where a walk through the file system stands: at names under the working directory, or at
names from the root. -/
inductive Spot where
  | below (names : List String)
  | absolute (names : List String)
  deriving DecidableEq, Repr

namespace Spot

/-- The spot `..` leads to: the root is its own parent, and the working directory's parent is
`home`. -/
def up : Spot → Spot
  | below [] => absolute home
  | below p => below p.dropLast
  | absolute p => absolute p.dropLast

/-- The spot a name leads to. -/
def down (s : Spot) (name : String) : Spot :=
  match s with
  | below p => below (p ++ [name])
  | absolute p => absolute (p ++ [name])

/-- The spot a path leads to from `s` by its names alone, `..` going up. -/
def follow (s : Spot) (names : List String) : Spot :=
  names.foldl (fun s n => if n = ".." then s.up else s.down n) s

/-- The first spot of a path: the root for a path that starts with `/`, else the working
directory. -/
def start (path : String) : Spot :=
  if path.startsWith "/" then absolute [] else below []

end Spot

/-- The length in bytes of the working directory's own name: a fresh temporary directory is named
`tmp` and eight random letters. -/
def workNameBytes : Nat := 11

/-- The length in bytes of the names `ns` written from the root, each after a `/`. -/
def namesBytes (ns : List String) : Nat :=
  (ns.map fun n => n.utf8ByteSize + 1).foldr (· + ·) 0

/-- The length in bytes of a spot's absolute path, the form in which it is handed to the system;
the root alone is `/`. -/
def Spot.pathBytes : Spot → Nat
  | .below ns => namesBytes home + workNameBytes + 1 + namesBytes ns
  | .absolute ns => max 1 (namesBytes ns)

/-- Whether a name is too long for a directory entry: more than 255 bytes. -/
def tooLong (name : String) : Bool :=
  255 < name.utf8ByteSize

/-- A file system: what lies under the working directory, and what is known from the root. -/
structure Disk where
  work : Tree
  root : Tree
  deriving Repr

namespace Disk

/-- The file system with the given files and directories under the working directory. -/
def ofLists (files : List (String × List UInt8)) (dirs : List String) : Disk :=
  ⟨Tree.ofLists files dirs, Tree.system⟩

/-- What a spot holds. -/
def node? (d : Disk) : Spot → Option Node
  | .below p => d.work.node? p
  | .absolute p => d.root.node? p

/-- The entries directly inside a directory, by name, in no particular order. -/
def children (d : Disk) : Spot → List String
  | .below p => d.work.children p
  | .absolute p => d.root.children p

/-- Walks the names `ns` from the directory at `here`, one at a time, to the spot they lead to.
Every name but the last must lead to a directory, and a name too long for a directory entry is
refused before it is looked up. -/
def locate (d : Disk) (here : Spot) : List String → Except OpenError Spot
  | [] => .ok here
  | n :: rest =>
    if n = ".." then d.locate here.up rest
    else if tooLong n then .error .nameTooLong
    else if rest.isEmpty then .ok (here.down n)
    else
      match d.node? (here.down n) with
      | some .dir => d.locate (here.down n) rest
      | some (.file _) => .error .notDirectory
      | none => .error .missing

/-- What a spot holds, asked by its absolute path and found by walking down to it from the top of
its tree; `none` when the walk finds nothing there.  An absolute path of 4096 bytes or more is
refused before the walk. -/
def stat (d : Disk) (s : Spot) : Except OpenError (Option Node) :=
  if 4096 ≤ s.pathBytes then .error .nameTooLong else
  let (top, names) := match s with
    | .below p => (Spot.below [], p)
    | .absolute p => (Spot.absolute [], p)
  match d.locate top names with
  | .ok s => .ok (d.node? s)
  | .error .nameTooLong => .error .nameTooLong
  | .error _ => .ok none

/-- Opens what the spot holds, as a file.  `trailing` tells that the path ended in `/`, so that it
must name a directory. -/
def openAt (d : Disk) (here : Spot) (trailing : Bool) : Except OpenError (List UInt8) :=
  match d.node? here with
  | some (.file bytes) => if trailing then .error .notDirectory else .ok bytes
  | some .dir => .error .isDirectory
  | none => .error .missing

/-- Opens the file that a path names, for reading its bytes.  A path that ends in `/` or `/.` must
name a directory. -/
def openFile (d : Disk) (path : String) : Except OpenError (List UInt8) :=
  if path.contains (Char.ofNat 0) then .error .nullCharacter
  else if 4096 ≤ path.utf8ByteSize then .error .nameTooLong
  else if path.isEmpty then .error .missing
  else
    let last := (path.splitOn "/").getLastD ""
    match d.locate (Spot.start path) (pathNames path) with
    | .ok s => d.openAt s (last = "" || last = ".")
    | .error e => .error e

end Disk

end BlockSyntax
