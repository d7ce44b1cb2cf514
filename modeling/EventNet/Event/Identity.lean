import EventNet.Json.Reader

/-!
Identities of events: numbers of 128 bits, written as 32 hexadecimal digits in five groups.
-/

namespace EventNet

/-- The identity of an event. -/
structure EventId where
  bits : Nat
  deriving DecidableEq, Repr

namespace EventId

/-- The 32 digits. -/
def digits (id : EventId) : List Char :=
  let digits := Nat.toDigits 16 (id.bits % Nat.pow 2 128)
  List.replicate (32 - digits.length) '0' ++ digits

/-- The written form: groups of 8, 4, 4, 4 and 12 digits. -/
def text (id : EventId) : String :=
  let d := id.digits
  String.ofList
    (d.take 8 ++ '-' :: (d.drop 8).take 4 ++ '-' :: (d.drop 12).take 4 ++
      '-' :: (d.drop 16).take 4 ++ '-' :: d.drop 20)

/-- The identity of 32 digits. -/
def ofDigits? (cs : List Char) : Option EventId :=
  if cs.length == 32 then
    (cs.mapM Json.hexDigit?).map fun ds => ⟨ds.foldl (fun n d => n * 16 + d) 0⟩
  else none

/-- The identity of five groups of digits. -/
def ofGroups? (cs : List Char) : Option EventId :=
  if cs.length == 36 && [8, 13, 18, 23].all fun i => cs[i]? == some '-' then
    ofDigits? (cs.take 8 ++ (cs.drop 9).take 4 ++ (cs.drop 14).take 4 ++
      (cs.drop 19).take 4 ++ cs.drop 24)
  else none

/-- Read an identity: digits alone, in groups, in groups between braces, or in groups after
`urn:uuid:`. -/
def parse? (text : String) : Option EventId :=
  let cs := text.toList
  match cs.length with
  | 32 => ofDigits? cs
  | 36 => ofGroups? cs
  | 38 =>
    if cs.head? == some '\x7b' && cs.getLast? == some '\x7d' then ofGroups? (cs.drop 1).dropLast
    else none
  | 45 => if cs.take 9 == "urn:uuid:".toList then ofGroups? (cs.drop 9) else none
  | _ => none

end EventId

end EventNet
