import EventNet.Toml.Scalar
import EventNet.Toml.Table

/-!
Reading TOML documents.

A document is read line by line into a tree of tables, which is then the tree of an object.  Dates are
not read, since no setting is one.
-/

namespace EventNet.Toml

/-- Whether a character can stand in a key without quotes. -/
def isKeyChar (c : Char) : Bool :=
  c.isAlphanum || c == '_' || c == '-'

/-- The characters after blanks within a line. -/
def skipBlanks (cs : List Char) : List Char :=
  cs.dropWhile isBlank

/-- One part of a key. -/
def keyPart? : List Char → Option (String × List Char)
  | '"' :: rest => lineText? '"' (rest.length + 1) [] rest
  | '\'' :: rest => lineText? '\'' (rest.length + 1) [] rest
  | cs =>
    let key := cs.takeWhile isKeyChar
    if key.isEmpty then none else some (String.ofList key, cs.dropWhile isKeyChar)

/-- A key: the parts in front of the last one, and the last one; `fuel` bounds their number. -/
def key? : (fuel : Nat) → List Char → Option (List String × String × List Char)
  | 0, _ => none
  | fuel + 1, cs => do
    let (part, rest) ← keyPart? (skipBlanks cs)
    match skipBlanks rest with
    | '.' :: rest => do
      let (path, last, rest) ← key? fuel rest
      some (part :: path, last, rest)
    | rest => some ([], part, rest)

/-- The characters after a comment, if there is one. -/
def skipComment? : List Char → Option (List Char)
  | '#' :: rest =>
    let line := rest.takeWhile fun c => c != '\n' && c != '\r'
    if line.any isControl then none else some (rest.drop line.length)
  | cs => some cs

/-- The characters after the end of a line, in front of which a comment may stand. -/
def lineEnd? (cs : List Char) : Option (List Char) := do
  match ← skipComment? (skipBlanks cs) with
  | [] => some []
  | cs => newline? cs

/-- The characters after blanks, line ends and comments; `fuel` bounds the number of lines. -/
def skipGap? : (fuel : Nat) → List Char → Option (List Char)
  | 0, _ => none
  | fuel + 1, cs => do
    let cs ← skipComment? (skipBlanks cs)
    match newline? cs with
    | some rest => skipGap? fuel rest
    | none => some cs

mutual

/-- One value and the characters after it; `fuel` bounds the steps. -/
def value? : (fuel : Nat) → List Char → Option (Json × List Char)
  | 0, _ => none
  | fuel + 1, cs =>
    match cs with
    | '"' :: _ => (text? '"' cs).map fun (s, rest) => (.str s, rest)
    | '\'' :: _ => (text? '\'' cs).map fun (s, rest) => (.str s, rest)
    | '[' :: rest => (items? fuel [] rest).map fun (items, rest) => (.arr items, rest)
    | '\x7b' :: rest =>
      match skipBlanks rest with
      | '\x7d' :: rest => some (.obj [], rest)
      | rest => (pairs? fuel [] rest).map fun (entries, rest) => (.obj (entriesJson entries), rest)
    | _ =>
      let word := cs.takeWhile isWordChar
      (word? word).map fun j => (j, cs.drop word.length)

/-- The items of an array up to its closing bracket. -/
def items? : (fuel : Nat) → (acc : List Json) → List Char → Option (List Json × List Char)
  | 0, _, _ => none
  | fuel + 1, acc, cs => do
    match ← skipGap? (cs.length + 1) cs with
    | ']' :: rest => some (acc.reverse, rest)
    | cs => do
      let (item, rest) ← value? fuel cs
      match ← skipGap? (rest.length + 1) rest with
      | ',' :: rest => items? fuel (item :: acc) rest
      | ']' :: rest => some ((item :: acc).reverse, rest)
      | _ => none

/-- The entries of an inline table up to its closing brace. -/
def pairs? : (fuel : Nat) → (acc : Entries) → List Char → Option (Entries × List Char)
  | 0, _, _ => none
  | fuel + 1, acc, cs => do
    let (path, key, rest) ← key? cs.length cs
    match rest with
    | '=' :: rest => do
      let (j, rest) ← value? fuel (skipBlanks rest)
      let acc ← assign path key j acc
      match skipBlanks rest with
      | ',' :: rest => pairs? fuel acc rest
      | '\x7d' :: rest => some (acc, rest)
      | _ => none
    | _ => none

end

/-- A document while it is read: all entries, and the path of the last header. -/
structure Document where
  entries : Entries
  header : List String

/-- Read one line that is not blank; answers the document and the characters after the line. -/
def line? (d : Document) (cs : List Char) : Option (Document × List Char) :=
  match cs with
  | '[' :: '[' :: rest => do
    let (path, key, rest) ← key? (rest.length + 1) rest
    match rest with
    | ']' :: ']' :: rest => do
      let entries ← openItem path key d.entries
      let rest ← lineEnd? rest
      some (⟨entries, path ++ [key]⟩, rest)
    | _ => none
  | '[' :: rest => do
    let (path, key, rest) ← key? (rest.length + 1) rest
    match rest with
    | ']' :: rest => do
      let entries ← openTable path key d.entries
      let rest ← lineEnd? rest
      some (⟨entries, path ++ [key]⟩, rest)
    | _ => none
  | cs => do
    let (path, key, rest) ← key? (cs.length + 1) cs
    match rest with
    | '=' :: rest => do
      let rest := skipBlanks rest
      let (j, rest) ← value? (2 * rest.length + 2) rest
      let entries ← atPath d.header (assign path key j) d.entries
      let rest ← lineEnd? rest
      some ({ d with entries }, rest)
    | _ => none

/-- Read lines; `fuel` bounds their number. -/
def lines? : (fuel : Nat) → Document → List Char → Option Document
  | 0, _, _ => none
  | fuel + 1, d, cs => do
    match ← skipGap? (cs.length + 1) cs with
    | [] => some d
    | cs => do
      let (d, rest) ← line? d cs
      lines? fuel d rest

/-- Read a document as the tree of an object. -/
def ofText? (text : String) : Option Json :=
  let cs := text.toList
  (lines? (cs.length + 1) ⟨[], []⟩ cs).map fun d => .obj (entriesJson d.entries)

end EventNet.Toml
