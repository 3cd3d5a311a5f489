/-! Files as a program sees them: by path, each with its text or with a reason why it has none. -/
namespace LotterySlip

inductive FileFault
  | missing
  | notDirectory
  | isDirectory
  | nameTooLong
  deriving DecidableEq, Repr

def FileFault.message : FileFault → String
  | missing => "No such file or directory (os error 2)"
  | notDirectory => "Not a directory (os error 20)"
  | isDirectory => "Is a directory (os error 21)"
  | nameTooLong => "File name too long (os error 36)"

abbrev Files := String → Except FileFault String

def Files.has (files : Files) (path : String) : Bool :=
  match files path with
  | .ok _ => true
  | .error .isDirectory => true
  | .error _ => false

def joinPath (dir name : String) : String :=
  if dir.isEmpty || dir.toList.getLast? == some '/' then dir ++ name else dir ++ "/" ++ name

structure FileTree where
  texts : List (List String × String)
  directories : List (List String)

namespace FileTree

def parts (path : String) : List String :=
  (path.toList.splitOn '/').map String.ofList

def isIdle (part : String) : Bool := part = "" || part = "."

/-- The place of the working directory. Its name is not known; no path leads to a part named by a
dot. -/
def workingPlace : List String := ["tmp", "."]

def commonDirectories : List (List String) :=
  [["bin"], ["boot"], ["dev", "fd"], ["etc"], ["home"], ["lib"], ["media"], ["mnt"], ["opt"],
    ["proc", "self", "fd"], ["root"], ["run"], ["sbin"], ["srv"], ["sys"], ["tmp"], ["usr", "bin"],
    ["usr", "lib"], ["usr", "local"], ["usr", "share"], ["var", "lib"], ["var", "log"],
    ["var", "tmp"]]

def devices (piped : String) : List (List String × String) :=
  [(["dev", "null"], ""), (["dev", "stdin"], piped), (["dev", "fd", "0"], piped),
    (["proc", "self", "fd", "0"], piped)]

def ofList (files : List (String × String)) (piped : String) : FileTree where
  texts := files.map (fun f => (workingPlace ++ (parts f.1).filter fun p => !isIdle p, f.2)) ++
    devices piped
  directories := workingPlace :: commonDirectories

def text? (t : FileTree) (place : List String) : Option String :=
  (t.texts.find? fun e => e.1 == place).map fun e => e.2

def isDirectory (t : FileTree) (place : List String) : Bool :=
  t.directories.any place.isPrefixOf || t.texts.any fun e => place.isPrefixOf e.1 && e.1 ≠ place

def maxNameSize : Nat := 255

def maxPathSize : Nat := 4095

/-- Follows the parts of a path from a place. Two dots lead to the directory around a place; there
is none around the root. -/
def follow (t : FileTree) (place : List String) : List String → Except FileFault String
  | [] =>
    if t.isDirectory place then .error .isDirectory
    else match t.text? place with
      | some text => .ok text
      | none => .error .missing
  | part :: rest =>
    if !t.isDirectory place then
      .error (if (t.text? place).isSome then .notDirectory else .missing)
    else if isIdle part then follow t place rest
    else if part = ".." then follow t place.dropLast rest
    else if maxNameSize < part.utf8ByteSize then .error .nameTooLong
    else follow t (place ++ [part]) rest

def files (t : FileTree) : Files := fun path =>
  if maxPathSize < path.utf8ByteSize then .error .nameTooLong
  else t.follow (if path.toList.head? = some '/' then [] else workingPlace) (parts path)

end FileTree
end LotterySlip
