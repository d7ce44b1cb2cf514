import EventNet.Net.Firing
import Std.Data.HashSet

/-!
Which markings a net can reach.

The probe fires actions without bindings and goes through the markings level by level: those that one
firing leads to, then those that two lead to, and so on.  A marking whose token key was met before is
not expanded again.  The bound on the number of steps is the bound on the levels.
-/

namespace EventNet

namespace Net

/-- The net at given counts, without data. -/
def atTokens (net : Net) (tokens : Dict Int) : Net :=
  { net with marking := ⟨tokens, []⟩ }

/-- What a probe knows: the keys met so far and the counts still to expand, newest first. -/
structure Probe where
  visited : Std.HashSet String
  next : List (Dict Int)

/-- Remember a marking, to be expanded if it is new. -/
def Probe.visit (p : Probe) (m : Marking) : Probe :=
  if p.visited.contains m.tokenKey then p
  else ⟨p.visited.insert m.tokenKey, m.tokens :: p.next⟩

/-- Fire each action at some counts; none once the target is met. -/
def expand (net : Net) (target tokens : Dict Int) :
    List Action → Probe → Traced (Option Probe)
  | [], p => .silent (some p)
  | a :: rest, p =>
    let call := (net.atTokens tokens).fire a none
    match call.1 with
    | .error _ => do
      Traced.emitAll (signals call.1)
      expand net target tokens rest p
    | .ok () =>
      if call.2.marking.matchesTokens target then ⟨none, signals call.1⟩
      else do
        Traced.emitAll (signals call.1)
        expand net target tokens rest (p.visit call.2.marking)

/-- Expand each of a list of counts; none once the target is met. -/
def expandAll (net : Net) (target : Dict Int) :
    List (Dict Int) → Probe → Traced (Option Probe)
  | [], p => .silent (some p)
  | tokens :: rest, p => do
    match ← expand net target tokens net.schema.actions p with
    | none => pure none
    | some p => expandAll net target rest p

/-- Expand level after level, at most `steps` of them. -/
def expandLevels (net : Net) (target : Dict Int) :
    (steps : Nat) → (level : List (Dict Int)) → Std.HashSet String → Traced Bool
  | 0, _, _ => .silent false
  | steps + 1, level, visited =>
    if level.isEmpty then .silent false
    else do
      match ← expandAll net target level ⟨visited, []⟩ with
      | none => pure true
      | some p => expandLevels net target steps p.next.reverse p.visited

/-- Whether at most `steps` firings lead from the marking of a net to the counts of a target. -/
def canReach (net : Net) (target : Dict Int) (steps : Nat) : Traced Bool :=
  if net.marking.matchesTokens target then .silent true
  else
    expandLevels net target steps [net.marking.tokens]
      (Std.HashSet.emptyWithCapacity.insert net.marking.tokenKey)

end Net

end EventNet
