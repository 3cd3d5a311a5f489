/-! Documents: the values that catalogs, settings and answers are written down as. -/
namespace LotterySlip

/-- A single value. A `plain` value is an unquoted word of a catalog file, which may be read as text
or as what the word denotes. A `real` holds the decimal text of a number that is not whole. -/
inductive Scalar
  | null
  | bool (b : Bool)
  | int (i : Int)
  | real (digits : String)
  | text (s : String)
  | plain (s : String)
  deriving DecidableEq, Repr, Inhabited

/-- What a tag in front of a value tells: the kind of a single value, a name that only a reader who
asks for a choice knows, or nothing of use. -/
inductive Tag
  | null
  | bool
  | int
  | real
  | named (name : String)
  | other
  deriving DecidableEq, Repr, Inhabited

/-- A value with parts, which stand in the order in which they are written. Lists and objects belong
to JSON, where the members of an object have different names. Sequences and mappings belong to
catalog files, where a name may be any value and may be repeated, and where a value may have a tag.
-/
inductive Document
  | scalar (s : Scalar)
  | list (items : List Document)
  | object (members : List (String × Document))
  | sequence (items : List Document)
  | mapping (pairs : List (Document × Document))
  | tagged (tag : Tag) (d : Document)
  deriving Repr, Inhabited

namespace Document

def null : Document := scalar .null

def bool (b : Bool) : Document := scalar (.bool b)

def int (i : Int) : Document := scalar (.int i)

def nat (n : Nat) : Document := scalar (.int n)

def text (s : String) : Document := scalar (.text s)

def nothing : Document := scalar (.plain "")

def texts (ss : List String) : Document := list (ss.map text)

def orNull (d : Option Document) : Document := d.getD null

def member? (name : String) : Document → Option Document
  | object members => (members.find? fun m => m.1 == name).map fun m => m.2
  | _ => none

def bare : Document → Document
  | tagged _ d => d
  | d => d

def items? (d : Document) : Option (List Document) :=
  match d.bare with
  | list items => some items
  | sequence items => some items
  | _ => none

def pairs? (d : Document) : Option (List (Document × Document)) :=
  match d.bare with
  | object members => some (members.map fun m => (text m.1, m.2))
  | mapping pairs => some pairs
  | _ => none

end Document
end LotterySlip
