import Mathlib.Algebra.Ring.Nat
import Ak1Driver.Lib.Transition

/-! The library as COM sees it, one atomic operation at a time: its objects with
their counts of references, and the count that tells whether the library may be
unloaded. What the objects' methods do is not looked at here, except that they
use the object, and that a thread watches the settings for it. -/

namespace Ak1Driver.Asio
namespace Server

/-- Where a `release` is. -/
inductive Releasing where
  | leaving
  /-- It was the last reference: the watch thread ends first. -/
  | dropping
  | freeing
  | uncounting
  deriving DecidableEq

/-- The calls into the library that take more than one operation. -/
inductive Call where
  /-- `CreateInstance`, asked for an interface that the object has or not. -/
  | creating (known : Bool)
  | querying (object : Nat) (known : Bool)
  /-- A call that gives a reference back, and may hand another one out. -/
  | releasing (object : Nat) (hands : Bool) (point : Releasing)
  | method (object : Nat) (init : Bool)
  | returned
  deriving DecidableEq

structure Object where
  refs : UInt32
  watch : Option Nat
  /-- Its memory has not been given back. -/
  alive : Bool
  /-- Proof data: the references that the host has to it. -/
  held : Nat

def Object.create : Object := { refs := 1, watch := none, alive := true, held := 0 }

structure Watcher where
  object : Nat
  running : Bool

inductive Event where
  | createInstance (null outer known : Bool)
  | queryInterface (object : Nat) (known : Bool)
  | addRef (object : Nat)
  | release (object : Nat)
  | enter (object : Nat) (init : Bool)
  /-- A method uses its object. The settings' watch starts or does not. -/
  | work (call : Nat) (started : Bool)
  | leave (call : Nat)
  /-- The next operation of a call of another kind. -/
  | go (call : Nat)
  /-- A watch thread uses its object. -/
  | noticed (watcher : Nat)
  | ended (watcher : Nat)
  | lockServer (lock : Bool)

end Server

open Server in
structure Server where
  objects : List Object
  /-- The count `OBJECTS`. -/
  count : UInt32
  calls : List Call
  watchers : List Watcher
  /-- Proof data: the host's locks on the library. -/
  locks : Nat
  /-- Proof data: an object was used or freed after its memory had been given back. -/
  faulted : Bool

namespace Server

def loaded : Server :=
  { objects := []
    count := 0
    calls := []
    watchers := []
    locks := 0
    faulted := false }

/-- `DllCanUnloadNow` -/
def canUnloadNow (server : Server) : Bool := server.count == 0

def use (server : Server) (place : Nat) (object : Object) (changed : Object) : Server :=
  { server with objects := server.objects.set place changed, faulted := server.faulted || !object.alive }

def enters (server : Server) (call : Call) : Server := { server with calls := server.calls ++ [call] }

def goesTo (server : Server) (number : Nat) (call : Call) : Server := { server with calls := server.calls.set number call }

def watches (server : Server) (watcher : Nat) : Bool := server.watchers[watcher]?.any (·.running)

/-- The next operation of a `release`. -/
def releases (server : Server) (number place : Nat) (object : Object) (hands : Bool) : Releasing → Option Server
  | .leaving =>
    let left : Object := { object with refs := object.refs - 1 }
    if left.refs = 0 then some ((server.use place object left).goesTo number (.releasing place hands .dropping))
    else
      -- `CreateInstance` returns here, with the reference that it has queried.
      some ((server.use place object { left with held := left.held + hands.toNat }).goesTo number .returned)
  | .dropping =>
    -- The watch is taken once its thread has ended; nobody else looks at it here.
    if object.watch.any server.watches then none
    else some ((server.use place object { object with watch := none }).goesTo number (.releasing place hands .freeing))
  | .freeing =>
    some ((server.use place object { object with alive := false }).goesTo number (.releasing place hands .uncounting))
  | .uncounting => some ({ server with count := server.count - 1 }.goesTo number .returned)

def act (server : Server) (number : Nat) : Call → Option Server
  | .creating known =>
    some ({ server with objects := server.objects ++ [Object.create] }.goesTo number (.querying server.objects.length known))
  | .querying place known => do
    let object ← server.objects[place]?
    let server := if known then server.use place object { object with refs := object.refs + 1 } else server
    return server.goesTo number (.releasing place known .leaving)
  | .releasing place hands point => do
    let object ← server.objects[place]?
    server.releases number place object hands point
  | .method .. | .returned => none

/-- A method that uses its object; `init` starts the watch. -/
def works (server : Server) (place : Nat) (object : Object) (starts : Bool) : Server :=
  if starts && object.watch.isNone then
    { server.use place object { object with watch := some server.watchers.length } with
      watchers := server.watchers ++ [{ object := place, running := true }] }
  else server.use place object object

def step (server : Server) : Event → Option Server
  | .createInstance null outer known =>
    if null || outer then some server else some ({ server with count := server.count + 1 }.enters (.creating known))
  | .queryInterface place known => do
    let object ← server.objects[place]?
    return if known then
      server.use place object { object with refs := object.refs + 1, held := object.held + 1 }
    else server
  | .addRef place => do
    let object ← server.objects[place]?
    return server.use place object { object with refs := object.refs + 1, held := object.held + 1 }
  | .release place => do
    let object ← server.objects[place]?
    return { server with objects := server.objects.set place { object with held := object.held - 1 } }.enters
      (.releasing place false .leaving)
  | .enter place init => do
    let _ ← server.objects[place]?
    return server.enters (.method place init)
  | .work number started =>
    match server.calls[number]? with
    | some (.method place init) => do
      let object ← server.objects[place]?
      return server.works place object (init && started)
    | _ => none
  | .leave number =>
    match server.calls[number]? with
    | some (.method _ _) => some (server.goesTo number .returned)
    | _ => none
  | .go number => do
    let call ← server.calls[number]?
    server.act number call
  | .noticed number => do
    let watcher ← server.watchers[number]?
    let object ← server.objects[watcher.object]?
    if watcher.running then some (server.use watcher.object object object) else none
  | .ended number => do
    let watcher ← server.watchers[number]?
    some { server with watchers := server.watchers.set number { watcher with running := false } }
  | .lockServer lock =>
    if lock then some { server with count := server.count + 1, locks := server.locks + 1 }
    else some { server with count := server.count - 1, locks := server.locks - 1 }

/-- What COM asks of the host: it uses an object only by a reference that it has,
keeps one while a method of the object is under way, and takes back only locks that
it made. There is room in the counts for one more. -/
def Permitted (server : Server) : Event → Prop
  | .createInstance .. => server.count.toNat + 1 < 2 ^ 32
  | .queryInterface place _ | .addRef place =>
    ∀ object ∈ server.objects[place]?, 0 < object.held ∧ object.refs.toNat + 1 < 2 ^ 32
  | .release place =>
    ∀ object ∈ server.objects[place]?, 0 < object.held ∧ (object.held = 1 → ∀ init, .method place init ∉ server.calls)
  | .enter place _ => ∀ object ∈ server.objects[place]?, 0 < object.held
  | .lockServer lock => if lock then server.count.toNat + 1 < 2 ^ 32 else 0 < server.locks
  | _ => True

instance (server : Server) : (event : Event) → Decidable (server.Permitted event)
  | .createInstance .. => inferInstanceAs (Decidable (_ < _))
  | .queryInterface place _ | .addRef place | .release place | .enter place _ =>
    inferInstanceAs (Decidable (∀ object ∈ server.objects[place]?, _))
  | .lockServer lock => inferInstanceAs (Decidable (if lock then _ else _))
  | .work .. | .leave _ | .go _ | .noticed _ | .ended _ => inferInstanceAs (Decidable True)

end Server
end Ak1Driver.Asio
