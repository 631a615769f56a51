import Stepwise.Debuggee.Registry

/-!
# Programs on the registries

What a program does to its registries, as a list of actions.  Tracers and scopes are held under
handles that the program chooses.  A handle that is taken again first gets the new tracer or scope
and then drops the one it held; dropping a scope leaves the innermost function, whichever it is.

Main definition: `Debuggee.act?`, one call of a function of `ShimState`, or the drop of a tracer or
scope.
-/

namespace Stepwise

/-- A step of a program. -/
inductive Action where
  | allocate (size : Nat)
  | release (address : Nat)
  /-- Renders an allocation anew; its renderer takes some actions and gives a value. -/
  | rerender (address : Nat) (typeName value : Text) (actions : List Action)
  | trace (handle name typeName value : Text)
  /-- Assigns to the variable last traced under a handle. -/
  | assign (handle value : Text)
  | tracePointer (handle name pointee : Text) (address : Nat)
  /-- Assigns to the pointer last traced under a handle. -/
  | point (handle : Text) (address : Nat)
  | untrace (handle : Text)
  | enter (handle name : Text)
  | leave (handle : Text)
  | dump
  /-- Asks for the contents of the registries. -/
  | inspect
  deriving Repr, Inhabited

/-- What an action gives back. -/
inductive Reply where
  | nothing
  | address (address : Nat)
  | flag (value : Bool)
  | text (text : Text)
  /-- Whether an allocation was rendered, and the replies to its renderer. -/
  | rendered (replies : Option (List Reply))
  | contents (registry : Registry)

/-- The registries of a program and its handles. -/
structure Debuggee where
  /-- The registries. -/
  registry : Registry := {}
  /-- The variables traced under handles that have not been dropped. -/
  tracers : List (Text × Nat) := []
  /-- The variable last traced under a handle, for values. -/
  values : List (Text × Nat) := []
  /-- The variable last traced under a handle, for pointers. -/
  pointers : List (Text × Nat) := []
  /-- The handles of scopes that have not been dropped. -/
  scopes : List Text := []

namespace Debuggee

/-- Drops the tracer held under a handle, and tells whether there is one. -/
def dropTracer (p : Debuggee) (handle : Text) : Debuggee × Bool :=
  match p.tracers.lookup handle with
  | none => (p, false)
  | some id =>
    ({ p with
      registry := p.registry.untrace id
      tracers := p.tracers.filter (·.1 ≠ handle) }, true)

/-- Drops the scope held under a handle, and tells whether there is one. -/
def dropScope (p : Debuggee) (handle : Text) : Debuggee × Bool :=
  if p.scopes.contains handle then
    ({ p with registry := p.registry.leave, scopes := p.scopes.filter (· ≠ handle) }, true)
  else (p, false)

/-- Holds a new tracer under a handle. -/
def holdTracer (p : Debuggee) (handle : Text) (registry : Registry) (id : Nat) : Debuggee :=
  let p := (dropTracer { p with registry } handle).1
  { p with tracers := (handle, id) :: p.tracers }

mutual

/-- One action; nothing if the program breaks down. -/
def act? (p : Debuggee) : Action → Option (Debuggee × Reply)
  | .allocate size =>
    (p.registry.allocate? size).map fun (registry, address) =>
      ({ p with registry }, .address address)
  | .release address => some ({ p with registry := p.registry.release address }, .nothing)
  | .rerender address typeName value actions =>
    if p.registry.canRender address then
      let hook := p.registry.inHook
      match actAll? { p with registry := p.registry.beginRender address typeName } actions with
      | none => none
      | some (p, replies) =>
        some ({ p with registry := p.registry.endRender address value hook },
          .rendered (some replies))
    else some (p, .rendered none)
  | .trace handle name typeName value =>
    (p.registry.trace? name typeName value).map fun (registry, id) =>
      ({ p.holdTracer handle registry id with values := (handle, id) :: p.values }, .nothing)
  | .assign handle value =>
    match p.values.lookup handle with
    | none => some (p, .nothing)
    | some id => some ({ p with registry := p.registry.assign id (.value value) }, .nothing)
  | .tracePointer handle name pointee address =>
    (p.registry.tracePointer? name pointee address).map fun (registry, id) =>
      ({ p.holdTracer handle registry id with pointers := (handle, id) :: p.pointers }, .nothing)
  | .point handle address =>
    match p.pointers.lookup handle with
    | none => some (p, .nothing)
    | some id => some ({ p with registry := p.registry.assign id (.pointer address) }, .nothing)
  | .untrace handle =>
    match p.dropTracer handle with
    | (p, found) => some (p, .flag found)
  | .enter handle name =>
    let label := p.registry.nextLabel name
    let p := (dropScope { p with registry := p.registry.enter name } handle).1
    some ({ p with scopes := handle :: p.scopes }, .text label)
  | .leave handle =>
    match p.dropScope handle with
    | (p, found) => some (p, .flag found)
  | .dump => some (p, .text p.registry.dump)
  | .inspect => some (p, .contents p.registry)

/-- Several actions in turn. -/
def actAll? (p : Debuggee) : List Action → Option (Debuggee × List Reply)
  | [] => some (p, [])
  | a :: as =>
    match act? p a with
    | none => none
    | some (p, reply) =>
      match actAll? p as with
      | none => none
      | some (p, replies) => some (p, reply :: replies)

end

end Debuggee

end Stepwise
