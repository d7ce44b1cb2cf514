import EventNet.Event.Basic
import EventNet.Fault.Basic

/-!
Programs that work on a store call by call.

A program is finished with a value, or it makes a call and goes on with the answer, or it asks for the
stamp of a new event, or it reports signals.  It says nothing about the store behind the calls: a
`Host` answers them.  The calls of several programs can therefore be interleaved in any order, and
what holds of a program for every host holds of it however its store behaves.
-/

namespace EventNet

/-- A call to a store. -/
inductive StoreCall where
  | loadSnapshot (stream : String)
  | read (stream : String) (start : Int)
  | append (stream : String) (expected : Int) (events : List Event)
  | saveSnapshot (snapshot : StateSnapshot)

/-- What a call is answered with. -/
def StoreCall.Answer : StoreCall → Type
  | .loadSnapshot _ => Except Fault (Option StateSnapshot)
  | .read .. => Except Fault (List Event)
  | .append .. => Except Fault Int
  | .saveSnapshot _ => Except Fault Unit

/-- A computation that calls a store. -/
inductive Program (α : Type) where
  | done (a : α)
  | call (c : StoreCall) (next : c.Answer → Program α)
  /-- Ask for what makes an event new. -/
  | stamp (next : Stamp → Program α)
  | report (signals : List Signal) (next : Program α)

namespace Program

variable {α β : Type}

/-- Go on with the value of a program. -/
def andThen : Program α → (α → Program β) → Program β
  | .done a, f => f a
  | .call c next, f => .call c fun answer => (next answer).andThen f
  | .stamp next, f => .stamp fun s => (next s).andThen f
  | .report signals next, f => .report signals (next.andThen f)

instance : Monad Program where
  pure := done
  bind := andThen

/-- The saved state of a stream. -/
def loadSnapshot (stream : String) : Program (Except Fault (Option StateSnapshot)) :=
  .call (.loadSnapshot stream) .done

/-- The events of a stream from a version on. -/
def read (stream : String) (start : Int) : Program (Except Fault (List Event)) :=
  .call (.read stream start) .done

/-- Append a batch; answers the new version. -/
def append (stream : String) (expected : Int) (events : List Event) : Program (Except Fault Int) :=
  .call (.append stream expected events) .done

/-- Save a state. -/
def saveSnapshot (snapshot : StateSnapshot) : Program (Except Fault Unit) :=
  .call (.saveSnapshot snapshot) .done

/-- The stamp of a new event. -/
def newStamp : Program Stamp :=
  .stamp .done

/-- Report signals. -/
def emit (signals : List Signal) : Program Unit :=
  .report signals (.done ())

/-- Report a log line. -/
def log (level : Level) (message : String) : Program Unit :=
  emit [.log level message]

/-- A value with its signals. -/
def ofTraced (t : Traced α) : Program α :=
  .report t.signals (.done t.value)

end Program

/-- What answers the calls of a program. -/
structure Host (m : Type → Type) where
  call : (c : StoreCall) → m c.Answer
  stamp : m Stamp
  report : List Signal → m Unit

/-- Run a program on a host. -/
def Program.run {α : Type} {m : Type → Type} [Monad m] (host : Host m) : Program α → m α
  | .done a => pure a
  | .call c next => host.call c >>= fun answer => (next answer).run host
  | .stamp next => host.stamp >>= fun s => (next s).run host
  | .report signals next => host.report signals >>= fun _ => next.run host

end EventNet
