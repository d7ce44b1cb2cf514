import EventNet.Store.Database

/-!
Addresses of event databases.

An address is a path, perhaps behind a scheme, and after the first question mark parameters in the
form of a web query.  The path `:memory:`, no path and the parameter `mode=memory` name a database that
nobody else sees; any other path is that of a file, which is made when it is missing and its directory
is there.
-/

namespace EventNet

/-- Where a database is and how it is opened. -/
structure Address where
  path : String
  inMemory : Bool
  readOnly : Bool
  /-- Whether the file is taken not to change, so that nothing can be written. -/
  immutable : Bool
  /-- The file layer asked for by name. -/
  layer : Option String
  deriving DecidableEq, Repr

namespace Address

/-- The value of a byte that is a hexadecimal digit. -/
def hexByte? (b : UInt8) : Option Nat :=
  Json.hexDigit? (Char.ofNat b.toNat)

/-- Bytes with every percent sign and two digits put back into the byte they stand for. -/
def unescape : List UInt8 → List UInt8
  | 37 :: a :: b :: rest =>
    match hexByte? a, hexByte? b with
    | some x, some y => UInt8.ofNat (x * 16 + y) :: unescape rest
    | _, _ => 37 :: unescape (a :: b :: rest)
  | b :: rest => b :: unescape rest
  | [] => []
termination_by bytes => bytes.length

/-- A text without its escapes; none where the bytes are no text. -/
def unescape? (text : String) : Option String :=
  String.fromUTF8? ⟨(unescape text.toUTF8.toList).toArray⟩

/-- A text of a query without its escapes; a plus sign stands for a blank. -/
def unescapeQuery (text : String) : String :=
  (unescape? (text.map fun c => if c == '+' then ' ' else c)).getD "\uFFFD"

/-- What stands before the first occurrence of a character, and what stands after it. -/
def cut (c : Char) (cs : List Char) : List Char × Option (List Char) :=
  (cs.takeWhile (· != c),
    match cs.dropWhile (· != c) with
    | [] => none
    | _ :: rest => some rest)

/-- Split at every occurrence of a character. -/
def split (c : Char) : List Char → List (List Char)
  | [] => [[]]
  | d :: rest =>
    match split c rest with
    | [] => [[d]]
    | part :: parts => if d == c then [] :: part :: parts else (d :: part) :: parts

/-- The parameters of a query in order. -/
def parameters (cs : List Char) : List (String × String) :=
  ((split '&' cs).filter fun part => !part.isEmpty).map fun part =>
    let (name, value) := cut '=' part
    (unescapeQuery (String.ofList name), unescapeQuery (String.ofList (value.getD [])))

/-- Take a beginning off as often as it is there, trying up to a number of times. -/
def dropBeginning (beginning : List Char) : (tries : Nat) → List Char → List Char
  | 0, cs => cs
  | tries + 1, cs =>
    if beginning.isPrefixOf cs then dropBeginning beginning tries (cs.drop beginning.length) else cs

/-- An address without its scheme. -/
def withoutScheme (cs : List Char) : List Char :=
  let cs := dropBeginning "sqlite://".toList cs.length cs
  dropBeginning "sqlite:".toList cs.length cs

/-- Apply one parameter; none for one that is not known. -/
def parameter? (a : Address) : String × String → Option Address
  | ("mode", "ro") => some { a with readOnly := true }
  | ("mode", "rw") | ("mode", "rwc") => some a
  | ("mode", "memory") => some { a with inMemory := true }
  | ("cache", "private") | ("cache", "shared") => some a
  | ("immutable", "true") | ("immutable", "1") => some { a with immutable := true }
  | ("immutable", "false") | ("immutable", "0") => some { a with immutable := false }
  | ("vfs", name) => some { a with layer := some name }
  | _ => none

/-- Read an address. -/
def parse? (text : String) : Option Address := do
  let (path, query) := cut '?' (withoutScheme text.toList)
  let path ← unescape? (String.ofList path)
  let plain : Address := ⟨path, path == ":memory:" || path.isEmpty, false, false, none⟩
  (parameters (query.getD [])).foldlM parameter? plain

/-- The file layers there are. -/
def layers : List String := ["unix", "unix-none", "unix-dotfile", "unix-excl", "memdb"]

/-- The directory of the file. -/
def directory (a : Address) : String :=
  let cs := (a.path.toList.reverse.dropWhile (· != '/')).reverse
  if cs.length ≤ 1 then String.ofList cs else String.ofList cs.dropLast

/-- Whether there can be a file of the path. -/
def namesFile (isDirectory : String → Bool) (a : Address) : Bool :=
  isDirectory a.directory && !isDirectory a.path

/-- Open the database of an address, given which directories there are, and make its tables.  A file
that is only to be read has to be there before, which it is not. -/
def openDatabase (isDirectory : String → Bool) (a : Address) : Except Fault Database :=
  if a.layer.any fun l => !layers.contains l then .error .cannotOpen
  else if a.inMemory then if a.readOnly then .error .database else .ok .new
  else if a.readOnly || !a.namesFile isDirectory then .error .cannotOpen
  else if a.immutable then .error .database
  else .ok .new

end Address

/-- Open the database of an address, given which directories there are. -/
def Database.connect (isDirectory : String → Bool) (url : String) (buffer : Nat) :
    Traced (Except Fault (Connection × Database)) :=
  match Address.parse? url with
  | none => Fault.database.raise
  | some a =>
    match a.openDatabase isDirectory with
    | .error f => f.raise
    | .ok db => ⟨.ok (.new buffer, db), [.log .info "sqlite event store ready"]⟩

end EventNet
