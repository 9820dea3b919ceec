import PlanningSearch.View

/-!
Writing exports into directories. A `Disk` is a tree of directories with files in them, seen from
the current directory; directories outside of it are taken not to exist.
-/

namespace PlanningSearch

/-- The directories and files below the current directory, each by the parts of its path. -/
structure Disk where
  dirs : List (List String)
  files : List (List String × String)
  deriving DecidableEq, Repr

namespace Disk

def empty : Disk := ⟨[[]], []⟩

def place (path : String) : Bool × List String :=
  (path.toList.head? == some '/',
    ((path.toList.splitOn '/').map String.ofList).filter fun n => n != "" && n != ".")

def parts? (path : String) : Option (List String) :=
  match place path with
  | (true, _) => none
  | (false, names) => some names

def isDir (d : Disk) (p : List String) : Bool := d.dirs.contains p

def isFile (d : Disk) (p : List String) : Bool := d.files.any fun f => f.1 == p

def noSuchFile : SearchError := .io "No such file or directory (os error 2)"

def notADirectory : SearchError := .io "Not a directory (os error 20)"

def isADirectory : SearchError := .io "Is a directory (os error 21)"

def fileExists : SearchError := .io "File exists (os error 17)"

def follow (d : Disk) (dir : List String) : List String → Except SearchError (List String)
  | [] => .ok dir
  | ".." :: names => if dir.isEmpty then .error noSuchFile else follow d dir.dropLast names
  | name :: names =>
    let p := dir ++ [name]
    if d.isFile p then .error notADirectory
    else if !d.isDir p then .error noSuchFile
    else follow d p names

def makeAll (d : Disk) (dir : List String) : List String → Except SearchError Disk
  | [] => .ok d
  | ".." :: names => if dir.isEmpty then .error noSuchFile else makeAll d dir.dropLast names
  | name :: names =>
    let p := dir ++ [name]
    if d.isFile p then .error (if names.isEmpty then fileExists else notADirectory)
    else if d.isDir p then makeAll d p names
    else makeAll { d with dirs := d.dirs ++ [p] } p names

def makeDir (d : Disk) (path : String) : Except SearchError Disk :=
  match parts? path with
  | none => .error noSuchFile
  | some names => d.makeAll [] names

def write (d : Disk) (path : String) (file : CsvFile) : Except SearchError Disk :=
  match parts? path with
  | none => .error noSuchFile
  | some names =>
    match d.follow [] names with
    | .error e => .error e
    | .ok dir =>
      let target := dir ++ [file.name]
      if d.isDir target then .error isADirectory
      else .ok { d with
        files := (target, file.content) :: d.files.filter fun f => f.1 != target }

end Disk

def joinPath (dir name : String) : String :=
  if dir.isEmpty || dir.endsWith "/" then dir ++ name else dir ++ "/" ++ name

end PlanningSearch
