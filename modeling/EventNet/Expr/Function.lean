import EventNet.Expr.Error
import EventNet.Number.Word
import EventNet.Value.Text

/-!
Functions that expressions can call.

The built-in functions look at their arguments only.  Aggregates are made for one marking: they answer
questions about the token counts of all states whose names start with a given text.  A registry holds
functions by name, and extending it by another lets the other's functions replace its own.
-/

namespace EventNet

/-- A function from evaluated arguments. -/
abbrev Function := List Value → Except ExprError Value

/-- Functions by name. -/
abbrev Registry := Dict Function

namespace Function

/-- The only argument, which has to be a text. -/
def oneString (name : String) : List Value → Except ExprError String
  | [.str s] => .ok s
  | [v] => .error (.type (.notString name v.kind))
  | args => .error (.arity name (.exactly 1) args.length)

/-- The two arguments, which have to be texts. -/
def twoStrings (name : String) : List Value → Except ExprError (String × String)
  | [.str s, .str t] => .ok (s, t)
  | [v, w] => .error (.type (.notStrings name v.kind w.kind))
  | args => .error (.arity name (.exactly 2) args.length)

/-- The number of characters, items or entries. -/
def len : Function
  | [.str s] => .ok (.ofInt s.toList.length)
  | [.list items] => .ok (.ofInt items.length)
  | [.map entries] => .ok (.ofInt entries.length)
  | [.null] => .ok .zero
  | [v] => .error (.type (.noLength v.kind))
  | args => .error (.arity "len" (.exactly 1) args.length)

/-- The magnitude of a number. -/
def abs : Function
  | [.number x] => .ok (.number x.abs)
  | [v] => .error (.type (.notNumber "abs" v.kind))
  | args => .error (.arity "abs" (.exactly 1) args.length)

/-- Whether a text occurs within another. -/
def occursIn (needle : List Char) : List Char → Bool
  | [] => needle.isEmpty
  | c :: rest => needle.isPrefixOf (c :: rest) || occursIn needle rest

/-- Whether a text has a part, a map a key or a list an item; nil has nothing. -/
def contains : Function
  | [.str s, .str needle] => .ok (.bool (occursIn needle.toList s.toList))
  | [.map entries, key] =>
    match key.toKey? with
    | some k => .ok (.bool (Dict.contains entries k))
    | none => .error (.type (.memberKey key.kind))
  | [.list items, needle] => .ok (.bool (items.any (· == needle)))
  | [.null, _] => .ok (.bool false)
  | [v, w] => .error (.type (.noMembers v.kind w.kind))
  | args => .error (.arity "contains" (.exactly 2) args.length)

/-- Whether a text starts with another. -/
def startsWith : Function := fun args =>
  (twoStrings "startsWith" args).map fun (s, t) => .bool (t.toList.isPrefixOf s.toList)

/-- Whether a text ends with another. -/
def endsWith : Function := fun args =>
  (twoStrings "endsWith" args).map fun (s, t) =>
    .bool (t.toList.reverse.isPrefixOf s.toList.reverse)

/-- The numbers among values that all have to be numbers. -/
def numbers (name : String) : List Value → Except ExprError (List Float)
  | [] => .ok []
  | .number x :: rest => (numbers name rest).map (x :: ·)
  | v :: _ => .error (.type (.notNumbers name v.kind))

/-- The extreme one of the arguments, or of the items of a single list. -/
def extremum (name : String) (pick : Float → Float → Float) : Function := fun args =>
  let values := match args with
    | [.list items] => items
    | args => args
  match numbers name values with
  | .error e => .error e
  | .ok [] => .error (.arity name (.atLeast 1) 0)
  | .ok (x :: rest) => .ok (.number (rest.foldl pick x))

end Function

namespace Registry

/-- The functions that every expression can call. -/
def builtins : Registry :=
  [("abs", Function.abs), ("contains", Function.contains), ("endsWith", Function.endsWith),
   ("len", Function.len), ("max", Function.extremum "max" Double.greater),
   ("min", Function.extremum "min" Double.lesser), ("startsWith", Function.startsWith)]

/-- The token counts of the states whose names start with a text. -/
def countsWith (tokens : Dict Int) (start : String) : List Int :=
  (tokens.filter fun (name, _) => start.toList.isPrefixOf name.toList).map (·.2)

/-- A function that answers a question about the counts selected by its argument. -/
def aggregate (name : String) (tokens : Dict Int) (answer : List Int → Int) : Function := fun args =>
  (Function.oneString name args).map fun start => .ofInt (answer (countsWith tokens start))

/-- The aggregate functions over a marking. -/
def aggregates (tokens : Dict Int) : Registry :=
  [("count", aggregate "count" tokens fun counts => ((counts.filter (0 < ·)).length : Nat)),
   ("maxOf", aggregate "maxOf" tokens fun counts => counts.max?.getD 0),
   ("minOf", aggregate "minOf" tokens fun counts => counts.min?.getD 0),
   ("sum", aggregate "sum" tokens Word.sum),
   ("tokens", fun args =>
      (Function.oneString "tokens" args).map fun name => .ofInt ((tokens.get? name).getD 0))]

/-- Add the functions of another registry, which replace those of the same name. -/
def extend (r other : Registry) : Registry :=
  r.insertAll other

/-- The names shown for inspection. -/
def inspect (r : Registry) : String :=
  "FunctionRegistry \x7b functions: " ++ Text.quotedList r.keys ++ " \x7d"

end Registry

end EventNet
