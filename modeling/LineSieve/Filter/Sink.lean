import LineSieve.Filter.Pieces
import LineSieve.SystemError

/-!
# Sinks for bytes

A sink passes what is written on to a device, which may have room for a number of bytes only. A
buffer between them holds bytes back until it is full or is flushed.

A write that finds no room stores what fits and fails.

* `Device.write`: a write that reaches the device.
* `Sink.write`: a write that may stay in the buffer.
* `Sink.flush`: empties the buffer.
-/

namespace LineSieve

/-- Where bytes end up. -/
structure Device where
  stored : Pieces
  /-- How many bytes still fit; `none` if there is no limit. -/
  room : Option Nat
  /-- The error of a write that does not fit. -/
  fault : SystemError

namespace Device

/-- A device without a limit. -/
def unlimited : Device := ⟨.empty, none, .brokenPipe⟩

/-- A device that takes `room` bytes in all. -/
def limited (room : Nat) (fault : SystemError) : Device := ⟨.empty, some room, fault⟩

/-- The bytes that a device has taken. -/
def written (d : Device) : Bytes := d.stored.contents

def write (d : Device) (bytes : Bytes) : Device × Except SystemError Unit :=
  match d.room with
  | none => ({ d with stored := d.stored.add bytes }, .ok ())
  | some room =>
    if bytes.length ≤ room then
      ({ d with stored := d.stored.add bytes, room := some (room - bytes.length) }, .ok ())
    else ({ d with stored := d.stored.add (bytes.take room), room := some 0 }, .error d.fault)

end Device

structure Sink where
  device : Device
  /-- Bytes written and not yet passed on. -/
  pending : Pieces
  /-- How many bytes the buffer holds; at zero every write reaches the device. -/
  capacity : Nat

namespace Sink

def unbuffered (device : Device) : Sink := ⟨device, .empty, 0⟩

def buffered (capacity : Nat) (device : Device) : Sink := ⟨device, .empty, capacity⟩

/-- Passes on what is pending. -/
def flush (s : Sink) : Sink × Except SystemError Unit :=
  let (device, result) := s.device.write s.pending.contents
  ({ s with device, pending := .empty }, result)

/-- Writes where the buffer has been made ready: what is as long as the buffer goes past it. -/
def place (s : Sink) (bytes : Bytes) : Sink × Except SystemError Unit :=
  if s.capacity ≤ bytes.length then
    let (device, result) := s.device.write bytes
    ({ s with device }, result)
  else ({ s with pending := s.pending.add bytes }, .ok ())

/-- Writes all of the bytes, after a flush if they do not fit beside what is pending. -/
def write (s : Sink) (bytes : Bytes) : Sink × Except SystemError Unit :=
  if s.capacity < s.pending.size + bytes.length then
    match s.flush with
    | (s, .ok ()) => s.place bytes
    | (s, .error e) => (s, .error e)
  else s.place bytes

end Sink

end LineSieve
