import Utp.Foundation.Contract

/-! # The receive buffer

Writes append and wake pending reads in order; a read that finds the buffer
empty waits. `drain` ends the stream after the buffered bytes. `appended`,
`taken` and `settled` are histories kept for the statements: all bytes ever
written, all bytes ever handed to a read, and what each pending read got.
-/

namespace Utp

abbrev Bytes := List UInt8

/-- A read that waits for data: its promise and the size of its buffer. -/
structure PendingRead where
  id : Nat
  size : Nat
  deriving DecidableEq

structure BlockingBuffer where
  buffer : Bytes
  readResolvers : List PendingRead
  closed : Bool
  closedForWriting : Bool
  maxBytes : Nat
  appended : Bytes
  taken : Bytes
  settled : List (Nat × Option Bytes)
  nextRead : Nat
  deriving DecidableEq

namespace BlockingBuffer

def create (maxBytes : Nat) : BlockingBuffer where
  buffer := []
  readResolvers := []
  closed := false
  closedForWriting := false
  maxBytes := maxBytes
  appended := []
  taken := []
  settled := []
  nextRead := 0

def length (self : BlockingBuffer) : Nat := self.buffer.length

def freeSpace (self : BlockingBuffer) : Nat := self.maxBytes - self.length

/-- `this.buffer.write(data)`, which appends before it first yields. -/
def append (self : BlockingBuffer) (data : Bytes) : BlockingBuffer :=
  { self with buffer := self.buffer ++ data, appended := self.appended ++ data }

/-- `this.buffer.read(buf)` on a buffer that is not empty. -/
def take (self : BlockingBuffer) (size : Nat) : BlockingBuffer :=
  { self with
    buffer := self.buffer.drop size
    taken := self.taken ++ self.buffer.take size }

def settle (self : BlockingBuffer) (id : Nat) (result : Option Bytes) : BlockingBuffer :=
  { self with settled := self.settled ++ [(id, result)] }

def settleAll (self : BlockingBuffer) (reads : List PendingRead) (result : Option Bytes) :
    BlockingBuffer :=
  { self with settled := self.settled ++ reads.map fun read => (read.id, result) }

def popReader (self : BlockingBuffer) : BlockingBuffer :=
  { self with readResolvers := self.readResolvers.tail }

def pushReader (self : BlockingBuffer) (size : Nat) : BlockingBuffer :=
  { self with
    readResolvers := self.readResolvers ++ [⟨self.nextRead, size⟩]
    nextRead := self.nextRead + 1 }

/-- The `while` loop of `write`, for at most `laps` rounds. While the buffer
holds data no read starts to wait, so the reads pending at the start are
enough rounds as long as writes do not overlap. -/
def resolveReaders : Nat → Async BlockingBuffer Unit
  | 0 => pure ()
  | laps + 1 => do
      let self ← .get
      match self.readResolvers with
      | [] => pure ()
      | read :: _ =>
          if self.length = 0 then pure () else do
            let readBytes := self.buffer.take read.size
            Async.awaited (.modify fun self => self.popReader.take read.size)
            .modify fun self => self.settle read.id (some readBytes)
            resolveReaders laps

def write (data : Bytes) : Async BlockingBuffer Nat := do
  Async.awaited (.modify fun self => self.append data)
  let self ← .get
  resolveReaders self.readResolvers.length
  pure data.length

def read (size : Nat) : Async BlockingBuffer (Option Bytes) := do
  let self ← .get
  if self.closed then
    if self.readResolvers.length ≠ 0 then .throw "AssertionError"
    else if self.length ≠ 0 then .throw "AssertionError"
    else pure none
  else if 0 < self.length then do
    Async.awaited (.modify fun self => self.take size)
    pure (some (self.buffer.take size))
  else if self.closedForWriting then do
    .modify fun self => { self with closed := true }
    pure none
  else do
    .modify fun self => self.pushReader size
    .waitUntil fun now => now.settled.any fun entry => entry.1 = self.nextRead
    let now ← .get
    pure ((now.settled.lookup self.nextRead).getD none)

/-- No more data will be written; what is buffered can still be read. -/
def drain (self : BlockingBuffer) : BlockingBuffer :=
  if self.closed || self.closedForWriting then self
  else if self.length = 0 then
    { self.settleAll self.readResolvers none with
      closedForWriting := true
      closed := true
      readResolvers := [] }
  else { self with closedForWriting := true }

/-! ## Single moves -/

/-- The single writes of `read`, and of `write` once it has appended. -/
inductive ReadMove (self : BlockingBuffer) : BlockingBuffer → Prop
  | serve (size : Nat) (hdata : self.length ≠ 0) : ReadMove self (self.popReader.take size)
  | settle (id : Nat) (bytes : Bytes) : ReadMove self (self.settle id (some bytes))
  | take (size : Nat) (hdata : 0 < self.length) : ReadMove self (self.take size)
  | finish (hempty : self.length = 0) (hdrained : self.closedForWriting = true) :
      ReadMove self { self with closed := true }
  | wait (size : Nat) (hempty : self.length = 0) (hopen : self.closed = false)
      (hundrained : self.closedForWriting = false) : ReadMove self (self.pushReader size)

theorem ReadMove.appended {self next : BlockingBuffer} (hmove : self.ReadMove next) :
    next.appended = self.appended := by
  cases hmove <;> rfl

/-- A read finds the end of the stream only in an empty buffer that was drained. -/
theorem ReadMove.closed {self next : BlockingBuffer} (hmove : self.ReadMove next) :
    next.closedForWriting = self.closedForWriting ∧ (next.closed = true →
      self.closed = true ∨ (self.buffer = [] ∧ self.closedForWriting = true)) := by
  cases hmove with
  | finish hempty hdrained =>
      exact ⟨rfl, fun _ => .inr ⟨List.length_eq_zero_iff.mp hempty, hdrained⟩⟩
  | _ => exact ⟨rfl, .inl⟩

theorem ReadMove.empty {self next : BlockingBuffer} (hmove : self.ReadMove next)
    (hempty : self.buffer = []) : next.buffer = [] := by
  cases hmove with
  | serve size hdata => exact absurd (List.length_eq_zero_iff.mpr hempty) hdata
  | take size hdata => simp [length, hempty] at hdata
  | _ => exact hempty

theorem resolveReaders_moves (laps : Nat) : (resolveReaders laps).MovesAlways ReadMove := by
  induction laps with
  | zero => exact .pure
  | succ laps ih =>
      refine .read fun self => ?_
      split
      next => trivial
      next read rest _ =>
        split
        next => trivial
        next hdata =>
          refine ⟨.serve read.size hdata, ?_⟩
          intro later _ _
          exact ⟨.settle read.id _, ih.moves _⟩

theorem read_moves (size : Nat) : (read size).MovesAlways ReadMove := by
  refine .read fun self => ?_
  split
  next =>
    split
    next => trivial
    next =>
      split
      next => trivial
      next => trivial
  next hopen =>
    split
    next hdata => exact ⟨.take size hdata, fun _ _ _ => trivial⟩
    next hempty =>
      have hlength : self.length = 0 := by omega
      split
      next hdrained => exact ⟨.finish hlength hdrained, trivial⟩
      next hundrained =>
        exact ⟨.wait size hlength (by simpa using hopen) (by simpa using hundrained),
          fun _ _ _ => trivial⟩

/-- Drop the buffered data and wake every pending read. -/
def close (self : BlockingBuffer) : BlockingBuffer :=
  { self.settleAll self.readResolvers none with
    closed := true
    buffer := []
    readResolvers := [] }

/-! ## Draining -/

@[simp] theorem drain_appended (self : BlockingBuffer) : self.drain.appended = self.appended := by
  unfold drain
  split
  next => rfl
  next => split <;> rfl

theorem drain_closedForWriting {self : BlockingBuffer}
    (hfinished : self.closed = true → self.closedForWriting = true) :
    self.drain.closedForWriting = true := by
  unfold drain
  split
  next h => exact (Bool.or_eq_true_iff.mp h).elim hfinished id
  next => split <;> rfl

theorem drain_empty {self : BlockingBuffer} (hempty : self.closed = true → self.buffer = [])
    (hclosed : self.drain.closed = true) : self.drain.buffer = [] := by
  unfold drain at hclosed ⊢
  split at hclosed
  next h => rw [if_pos h]; exact hempty hclosed
  next h =>
    rw [if_neg h]
    split at hclosed
    next hlength =>
      rw [if_pos hlength]
      exact List.length_eq_zero_iff.mp hlength
    next hlength =>
      rw [if_neg hlength]
      exact hempty hclosed

end BlockingBuffer

end Utp
