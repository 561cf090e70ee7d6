/-!
# Files

A file system as a value: which files and directories there are, what the files
hold, and which directory is the current one.  Paths are resolved component by
component, so `a/../b` needs the directory `a`.  An operation that fails names
itself, the path it was given and the reason.

Besides files and directories there is the null device, which is always empty
and keeps nothing that is written to it.
-/

namespace Ascent

/-- What is at a place. -/
inductive Entry where
  | file (text : String)
  | directory
  /-- A device that is always empty. -/
  | void
deriving DecidableEq, Repr

/-- A file system.  Places are lists of names from the root, which is always a
directory. -/
structure Files where
  entries : List (List String × Entry)
  current : List String
deriving Repr

namespace Files

/-- Why an operation fails. -/
inductive Reason where
  | notFound
  | notDirectory
  | isDirectory
  | alreadyThere
  | nameTooLong
  | invalid
deriving DecidableEq, Repr

/-- The wording of a reason. -/
def Reason.message : Reason → String
  | .notFound => "no such file or directory"
  | .notDirectory => "not a directory"
  | .isDirectory => "is a directory"
  | .alreadyThere => "file exists"
  | .nameTooLong => "file name too long"
  | .invalid => "invalid argument"

/-- A failed operation. -/
structure Failure where
  operation : String
  path : String
  reason : Reason
deriving DecidableEq, Repr

/-- The wording of a failure. -/
def Failure.message (failure : Failure) : String :=
  failure.operation ++ " " ++ failure.path ++ ": " ++ failure.reason.message

/-! ## Places -/

/-- What is at a place, if anything. -/
def at? (files : Files) (place : List String) : Option Entry :=
  if place.isEmpty then some .directory else files.entries.lookup place

/-- Put something at a place. -/
def put (files : Files) (place : List String) (entry : Entry) : Files :=
  { files with entries := (files.entries.filter fun other => other.1 != place) ++ [(place, entry)] }

/-- The names in a path. -/
def names (path : String) : List String :=
  (path.splitOn "/").filter (!·.isEmpty)

/-- Whether a path starts at the root. -/
def isAbsolute (path : String) : Bool :=
  path.toList.head? == some '/'

/-- Whether a path ends in a slash, and so must be a directory. -/
def endsInSlash (path : String) : Bool :=
  path.toList.getLast? == some '/'

/-- The greatest number of bytes of a name. -/
def nameLimit : Nat :=
  255

/-- The greatest number of bytes of a path. -/
def pathLimit : Nat :=
  4095

/-- Follow names from a directory.  All but the last one must be there. -/
def follow (files : Files) : (place : List String) → List String → Except Reason (List String)
  | place, [] => .ok place
  | place, name :: rest =>
      if nameLimit < name.utf8ByteSize then .error .nameTooLong
      else
        let next :=
          if name == "." then place
          else if name == ".." then place.dropLast
          else place ++ [name]
        if rest.isEmpty then .ok next
        else
          match files.at? next with
          | some .directory => files.follow next rest
          | some _ => .error .notDirectory
          | none => .error .notFound

/-- The place that a path means. -/
def resolve (files : Files) (path : String) : Except Reason (List String) :=
  if path.toList.contains '\x00' then .error .invalid
  else if pathLimit < path.utf8ByteSize then .error .nameTooLong
  else if path.isEmpty then .error .notFound
  else files.follow (if isAbsolute path then [] else files.current) (names path)

/-- What is at the place that a path means. -/
def stat (files : Files) (path : String) : Except Reason Entry := do
  match files.at? (← files.resolve path) with
  | some .directory => return .directory
  | some entry => if endsInSlash path then .error .notDirectory else return entry
  | none => .error .notFound

/-! ## Operations -/

/-- The text of a file. -/
def read (files : Files) (path : String) : Except Failure String :=
  match files.stat path with
  | .ok (.file text) => .ok text
  | .ok .void => .ok ""
  | .ok .directory => .error ⟨"read", path, .isDirectory⟩
  | .error reason => .error ⟨"open", path, reason⟩

/-- Make a file with a text, or give an existing one that text. -/
def write (files : Files) (path text : String) : Except Failure Files :=
  let fail (reason : Reason) : Except Failure Files := .error ⟨"open", path, reason⟩
  match files.resolve path with
  | .error reason => fail reason
  | .ok place =>
      match files.at? place with
      | some .directory => fail .isDirectory
      | some (.file _) =>
          if endsInSlash path then fail .notDirectory else .ok (files.put place (.file text))
      | some .void => if endsInSlash path then fail .notDirectory else .ok files
      | none => if endsInSlash path then fail .isDirectory else .ok (files.put place (.file text))

/-- Make a directory. -/
def makeDirectory (files : Files) (path : String) : Except Failure Files :=
  match files.resolve path with
  | .error reason => .error ⟨"mkdir", path, reason⟩
  | .ok place =>
      match files.at? place with
      | some _ => .error ⟨"mkdir", path, .alreadyThere⟩
      | none => .ok (files.put place .directory)

/-- The part of a path before its last slash. -/
def parent (path : String) : String :=
  String.ofList ((path.toList.reverse.dropWhile (· != '/')).drop 1).reverse

/-- Make a directory and those that it is in.  The first argument bounds the depth. -/
def makeDirectoriesFrom : Nat → Files → String → Except Failure Files
  | 0, files, _ => .ok files
  | fuel + 1, files, path =>
      match files.stat path with
      | .ok .directory => .ok files
      | .ok _ => .error ⟨"mkdir", path, .notDirectory⟩
      | .error _ => do
          let outer := parent path
          let files ← if outer.isEmpty then .ok files else makeDirectoriesFrom fuel files outer
          match files.makeDirectory path with
          | .ok made => .ok made
          | .error failure =>
              match files.stat path with
              | .ok .directory => .ok files
              | _ => .error failure

/-- Make a directory and those that it is in. -/
def makeDirectories (files : Files) (path : String) : Except Failure Files :=
  makeDirectoriesFrom (path.length + 1) files path

/-- A list of names without `.` and without `..` where that cancels a name; the
names so far are in reverse. -/
def cleanNames (absolute : Bool) : (sofar : List String) → List String → List String
  | sofar, [] => sofar.reverse
  | sofar, "." :: rest => cleanNames absolute sofar rest
  | [], ".." :: rest =>
      if absolute then cleanNames absolute [] rest else cleanNames absolute [".."] rest
  | last :: sofar, ".." :: rest =>
      if last == ".." then cleanNames absolute (".." :: last :: sofar) rest
      else cleanNames absolute sofar rest
  | sofar, name :: rest => cleanNames absolute (name :: sofar) rest

/-- The directory of a path, by its text alone. -/
def directoryOf (path : String) : String :=
  let absolute := isAbsolute path
  let kept := String.ofList ((path.toList.reverse.dropWhile (· != '/')).reverse)
  let cleaned := "/".intercalate (cleanNames absolute [] (names kept))
  if absolute then "/" ++ cleaned else if cleaned.isEmpty then "." else cleaned

/-- Make a file with a text, and the directories that it is in. -/
def save (files : Files) (path text : String) : Except Failure Files := do
  let directory := directoryOf path
  let files ← if directory == "." then .ok files else files.makeDirectories directory
  files.write path text

/-! ## Whole trees -/

/-- Put a name at its place by order. -/
def insertSorted (entry : String × String) : List (String × String) → List (String × String)
  | [] => [entry]
  | other :: rest =>
      if entry.1 < other.1 then entry :: other :: rest else other :: insertSorted entry rest

/-- All files below the current directory by their names from there, in order. -/
def listing (files : Files) : List (String × String) :=
  files.entries.foldl (fun sorted (place, entry) =>
    match entry with
    | .file text =>
        if files.current.isPrefixOf place then
          insertSorted ("/".intercalate (place.drop files.current.length), text) sorted
        else sorted
    | _ => sorted) []

/-- An empty current directory.  Around it is what every system has: some
directories at the root, and the null device. -/
def empty : Files :=
  let directories := [["dev"], ["etc"], ["proc"], ["tmp"], ["usr"], ["var"], ["work"]]
  ⟨directories.map (·, .directory) ++ [(["dev", "null"], .void)], ["work"]⟩

/-- A current directory with these directories and files; what cannot be made is
left out. -/
def ofLists (directories : List String) (texts : List (String × String)) : Files :=
  let step (files : Files) (change : Files → Except Failure Files) : Files :=
    match change files with
    | .ok changed => changed
    | .error _ => files
  let files := directories.foldl (fun files path => step files (·.makeDirectories path)) empty
  texts.foldl (fun files (path, text) => step files (·.save path text)) files

end Files

end Ascent
