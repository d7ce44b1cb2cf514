import EventNet.Settings.Lenient

/-!
Which log lines are wanted.

A filter is a list of directives, each of which sets the threshold for a target, for a span, or for
everything.  Of two directives for the same the later one holds.  A directive that names no threshold
wants every line of its target, and a bare word is a target unless it names a threshold.
-/

namespace EventNet

/-- The least important lines that are still wanted. -/
inductive Threshold where
  | off | error | warn | info | debug | trace
  deriving DecidableEq, Repr

namespace Threshold

/-- All thresholds, from nothing to everything. -/
def all : List Threshold := [off, error, warn, info, debug, trace]

/-- The name of a threshold. -/
def name : Threshold → String
  | off => "off"
  | error => "error"
  | warn => "warn"
  | info => "info"
  | debug => "debug"
  | trace => "trace"

/-- Read a threshold: its name in any case, or its number. -/
def ofText? (text : String) : Option Threshold :=
  match Lenient.digits? text with
  | some n => all[n]?
  | none => all.find? fun t => t.name.toList == text.toList.map Char.toLower

end Threshold

/-- The threshold for a part of the log. -/
structure Directive where
  target : Option String
  span : Option String
  threshold : Threshold
  deriving DecidableEq, Repr

namespace Directive

/-- The directive for everything. -/
def global (t : Threshold) : Directive :=
  ⟨none, none, t⟩

/-- Write a directive. -/
def text (d : Directive) : String :=
  let place := d.target.getD "" ++ (d.span.map fun s => "[" ++ s ++ "]").getD ""
  if place.isEmpty then d.threshold.name else place ++ "=" ++ d.threshold.name

/-- Read the threshold after a place; none there means everything. -/
def thresholdAfter? : List Char → Option Threshold
  | [] => some .trace
  | '=' :: [] => some .trace
  | '=' :: rest => Threshold.ofText? (String.ofList rest)
  | _ => none

/-- Read a span, after its bracket, with the threshold that follows. -/
def ofSpan? (target : Option String) (cs : List Char) : Option Directive :=
  let name := cs.takeWhile fun c => c != ']' && c != '\x7b'
  match cs.drop name.length with
  | ']' :: rest => (thresholdAfter? rest).map fun t => ⟨target, some (String.ofList name), t⟩
  | _ => none

/-- Whether a directive that begins with no span can begin with a character. -/
def isFirstChar (c : Char) : Bool :=
  c == '-' || c == ':' || c == '_' || Text.isAlphanumeric c

/-- Read a directive. -/
def ofText? (text : String) : Option Directive :=
  let cs := text.toList
  let target := cs.takeWhile fun c => c != '=' && c != '['
  match cs, cs.drop target.length with
  | '[' :: rest, _ => ofSpan? none rest
  | c :: _, rest =>
    if !isFirstChar c then none
    else
      let name := String.ofList target
      match rest with
      | [] =>
        match Threshold.ofText? name with
        | some t => some (global t)
        | none => some ⟨some name, none, .trace⟩
      | '[' :: rest => ofSpan? (some name) rest
      | rest => (thresholdAfter? rest).map fun t => ⟨some name, none, t⟩
  | [], _ => none

/-- Whether two directives are for the same. -/
def concurs (a b : Directive) : Bool :=
  a.target == b.target && a.span == b.span

end Directive

/-- Directives, no two of which are for the same. -/
abbrev LogFilter := List Directive

namespace LogFilter

/-- Add a directive in place of the one for the same. -/
def add (f : LogFilter) (d : Directive) : LogFilter :=
  f.filter (fun e => !e.concurs d) ++ [d]

/-- The filter of some directives; without any, errors are wanted. -/
def ofDirectives (ds : List Directive) : LogFilter :=
  if ds.isEmpty then [.global .error] else ds.foldl add []

/-- Read directives between commas. -/
def ofText? (text : String) : Option LogFilter :=
  (((text.splitOn ",").filter fun part => !part.isEmpty).mapM Directive.ofText?).map ofDirectives

end LogFilter

/-- The filter of logging settings: the general level and the levels of modules. -/
def LoggingSettings.filter? (s : LoggingSettings) : Option LogFilter := do
  let general ← LogFilter.ofText? s.level
  let modules ← s.moduleLevels.mapM fun (target, level) => Directive.ofText? (target ++ "=" ++ level)
  some (modules.foldl LogFilter.add general)

end EventNet
