import Ak1Driver.Driver.Packets
import Ak1Driver.Driver.Stream
import Ak1Driver.Driver.Usb
import Ak1Driver.Lib.Heap

/-! What the driver gets from the framework and the memory manager, and gives
back: the engine's transfers and the packets of streams. Any call that may fail
may fail at any time; `answers` are the statuses that the calls will return, in
order. -/

namespace Ak1Driver.Driver.Resources
open Proto Lib

def statusInsufficientResources : NtStatus := 0xC000009A
def statusInvalidParameter : NtStatus := 0xC000000D

inductive Resource where
  | request
  /-- The URB belongs to the request. -/
  | urb (request : Nat)
  | buffer
  | mdl (buffer : Nat)
  | pool
  deriving DecidableEq

/-- An MDL describes a buffer that must not go before it; a deleted request takes its URB along. -/
instance : Dependent Resource where
  needs
    | .mdl buffer => some buffer
    | _ => none
  belongs
    | .urb request => some request
    | _ => none

structure System where
  heap : Heap Resource
  answers : List NtStatus

namespace System

/-- A call that may fail. -/
def call (system : System) : NtStatus × System :=
  match system.answers with
  | [] => (0, system)
  | answer :: answers => (answer, { system with answers })

def acquire (resource : Resource) (system : System) : Nat × System :=
  let (handle, heap) := system.heap.acquire resource
  (handle, { system with heap })

def release (handle : Nat) (system : System) : System := { system with heap := system.heap.release handle }

/-- Releases what a pointer points to, unless it is null. -/
def free (pointer : Option Nat) (system : System) : System :=
  match pointer with
  | some handle => system.release handle
  | none => system

end System

structure Transfer where
  request : Option Nat := none
  urb : Option Nat := none
  buffer : Option Nat := none
  mdl : Option Nat := none

namespace Transfer

def allocate (transfer : Transfer) (system : System) : Except NtStatus Unit × Transfer × System :=
  let (status, system) := system.call
  if !ntSuccess status then (.error status, transfer, system)
  else
    let (request, system) := system.acquire .request
    let transfer := { transfer with request := some request }
    let (status, system) := system.call
    if !ntSuccess status then (.error status, transfer, system)
    else
      let (urb, system) := system.acquire (.urb request)
      let transfer := { transfer with urb := some urb }
      let (buffer, system) := system.acquire .buffer
      let transfer := { transfer with buffer := some buffer }
      let (status, system) := system.call
      if !ntSuccess status then (.error statusInsufficientResources, transfer, system)
      else
        let (mdl, system) := system.acquire (.mdl buffer)
        (.ok (), { transfer with mdl := some mdl }, system)

def free (transfer : Transfer) (system : System) : System :=
  ((system.free transfer.mdl).free transfer.buffer).free transfer.request

def new (system : System) : Except NtStatus Transfer × System :=
  match allocate {} system with
  | (.ok (), transfer, system) => (.ok transfer, system)
  | (.error status, transfer, system) => (.error status, transfer.free system)

end Transfer

structure Engine where
  captures : List Transfer
  playbacks : List Transfer
  running : Bool

namespace Engine

/-- Purges the pipes, waits and starts them again; no status of it matters. -/
def stop (engine : Engine) : Engine := { engine with running := false }

/-- The end of an engine. -/
def drop (engine : Engine) (system : System) : System :=
  let engine := if engine.running then engine.stop else engine
  (engine.captures ++ engine.playbacks).foldl (fun system transfer => transfer.free system) system

/-- The loop that fills an engine, which ends with it if a transfer cannot be had. -/
def fill : (left : Nat) → Engine → System → Except NtStatus Engine × System
  | 0, engine, system => (.ok engine, system)
  | left + 1, engine, system =>
    match Transfer.new system with
    | (.error status, system) => (.error status, engine.drop system)
    | (.ok capture, system) =>
      let engine := { engine with captures := engine.captures ++ [capture] }
      match Transfer.new system with
      | (.error status, system) => (.error status, engine.drop system)
      | (.ok playback, system) => fill left { engine with playbacks := engine.playbacks ++ [playback] } system

/-- Makes so many calls, as long as they succeed. -/
def submit : (left : Nat) → System → Except NtStatus Unit × System
  | 0, system => (.ok (), system)
  | left + 1, system =>
    let (status, system) := system.call
    if !ntSuccess status then (.error status, system) else submit left system

/-- Before it gets anything, an engine resets two pipes and configures the card. It takes
three calls to send a request. -/
def start (system : System) : Except NtStatus Engine × System :=
  match submit 3 system with
  | (.error status, system) => (.error status, system)
  | (.ok (), system) =>
    match fill transfers { captures := [], playbacks := [], running := false } system with
    | (.error status, system) => (.error status, system)
    | (.ok engine, system) =>
      let engine := { engine with running := true }
      match submit (3 * engine.captures.length) system with
      | (.error status, system) => (.error status, engine.stop.drop system)
      | (.ok (), system) => (.ok engine, system)

end Engine

/-- What ACX is given for a stream's packets: the array that describes them, with their MDLs. -/
structure Packets where
  array : Nat
  mdls : Nat → Option Nat := fun _ => none

structure Stream where
  blockAlign : Nat
  /-- The addresses in the ring, null where there is none. -/
  buffers : Nat → Option Nat := fun _ => none
  /-- How many of them the frames go to. -/
  count : Nat := 0
  /-- The packets that ACX has, and how many. -/
  packets : Option (Packets × Nat) := none

namespace Stream

def freeEach (packets : Packets) : (left index : Nat) → Stream → System → Stream × System
  | 0, _, stream, system => (stream, system)
  | left + 1, index, stream, system =>
    let system := system.free (packets.mdls index)
    let system := system.free (stream.buffers index)
    freeEach packets left (index + 1) { stream with buffers := Function.update stream.buffers index none } system

def freePackets (stream : Stream) (packets : Packets) (count : Nat) (system : System) : Stream × System :=
  let (stream, system) := freeEach packets count 0 stream system
  ({ stream with count := 0 }, system.release packets.array)

/-- The packets from number `index` on. -/
def allocateEach : (left index : Nat) → Packets → Stream → System → Except NtStatus Packets × Stream × System
  | 0, _, packets, stream, system => (.ok packets, stream, system)
  | left + 1, index, packets, stream, system =>
    let (status, system) := system.call
    if !ntSuccess status then (.error statusInsufficientResources, stream.freePackets packets index system)
    else
      let (buffer, system) := system.acquire .pool
      let (status, system) := system.call
      if !ntSuccess status then
        (.error statusInsufficientResources, stream.freePackets packets index (system.release buffer))
      else
        let (mdl, system) := system.acquire (.mdl buffer)
        allocateEach left (index + 1) { packets with mdls := Function.update packets.mdls index (some mdl) }
          { stream with buffers := Function.update stream.buffers index (some buffer) } system

def allocatePackets (stream : Stream) (count packetBytes : Nat) (system : System) : Except NtStatus Packets × Stream × System :=
  if count = 0 ∨ maxPackets < count ∨ packetBytes = 0 ∨ packetBytes % stream.blockAlign ≠ 0 then
    (.error statusInvalidParameter, stream, system)
  else
    let (status, system) := system.call
    if !ntSuccess status then (.error statusInsufficientResources, stream, system)
    else
      let (array, system) := system.acquire .pool
      match allocateEach count 0 { array } stream system with
      | (.error status, stream, system) => (.error status, stream, system)
      | (.ok packets, stream, system) => (.ok packets, { stream with count }, system)

end Stream

/-- The driver of one card: its engine, if one runs, and its streams. -/
structure Card where
  heap : Heap Resource := {}
  engine : Option Engine := none
  streams : List Stream

namespace Card

inductive Event where
  | startEngine (answers : List NtStatus)
  | stopEngine
  | allocatePackets (place count packetBytes : Nat) (answers : List NtStatus)
  | freePackets (place : Nat)

/-- An engine is started when there is none. ACX allocates packets for a stream that
has none, and frees those that it got. -/
def step (card : Card) : Event → Option Card
  | .startEngine answers =>
    match card.engine with
    | some _ => none
    | none =>
      match Engine.start ⟨card.heap, answers⟩ with
      | (.error _, system) => some { card with heap := system.heap }
      | (.ok engine, system) => some { card with heap := system.heap, engine := some engine }
  | .stopEngine => do
    let engine ← card.engine
    some { card with heap := (engine.stop.drop ⟨card.heap, []⟩).heap, engine := none }
  | .allocatePackets place count packetBytes answers => do
    let stream ← card.streams[place]?
    match stream.packets with
    | some _ => none
    | none =>
      match stream.allocatePackets count packetBytes ⟨card.heap, answers⟩ with
      | (.error _, stream, system) => some { card with heap := system.heap, streams := card.streams.set place stream }
      | (.ok packets, stream, system) =>
        some { card with heap := system.heap, streams := card.streams.set place { stream with packets := some (packets, count) } }
  | .freePackets place => do
    let stream ← card.streams[place]?
    let (packets, count) ← stream.packets
    let (stream, system) := stream.freePackets packets count ⟨card.heap, []⟩
    some { card with heap := system.heap, streams := card.streams.set place { stream with packets := none } }

end Card
end Ak1Driver.Driver.Resources
