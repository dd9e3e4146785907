import Mathlib.Data.List.Basic

/-!
# One WebSocket connection and the goroutines around it

`internal/websocket/handler.go` as a transition system. The state is one `Connection` with its
handler's registry and `connectionsMu`, the buffered channel `c.send`, the frames written on the
socket, and a program counter for every goroutine that touches them:

* `HandleWebSocket` after the upgrade: subscribe, register under the lock, write the server
  info, start the pumps, or `close()` when the write fails;
* `readPump` and `writePump`, each ending in its deferred `close()`;
* the `sendMessage` calls of `handleCommand` and `handleEvent` goroutines, one `Sender` each;
  `readPump` runs `sendError`'s `sendMessage` itself;
* the goroutines `close()` spawns to run `close(c.send)` under a `recover`;
* `BroadcastEvent` and `Shutdown`, which range over the registry under the read and the write
  lock and call `close()` inside.

A transition is one statement of one goroutine (`step`), or an event of the environment: the
parent context is cancelled, or `EmitEvent` starts `handleEvent`. Where the statement depends on
the outside world (what `ReadMessage` returns, whether a write succeeds, which ready case a
`select` picks), the action names the outcome, so every schedule of the program is a list of
actions (`run`). `close()` is one body, `closeStep`, run by whichever goroutine called it.

The model follows the source's atomicity: the `select`s, each channel operation, each lock
operation, and each assignment to the connection's fields are separate steps. Go's `RWMutex`
also blocks `RLock` while a writer waits; the model does not, which only adds schedules. A
payload is what `json.Marshal` returns, which has no newline byte (`Json`).

The socket's log records each message, with the goroutine that wrote it. Besides the writes of
the source, gorilla's `ReadMessage` answers from `readPump`'s goroutine: its default ping handler
writes a pong, and a close message from the peer, a message over `maxMessageSize` or a protocol
error make it write a close message before `ReadMessage` returns the error. Once a close message
has gone out, gorilla fails every later write with `ErrCloseSent`; a write also fails once
`c.conn.Close()` has run, and may fail before either (`State.canWrite`).

Each goroutine's statements write only some of the fields (`handleStep_frame` and its siblings),
a goroutine moves only by its own statements (`place_step`), and no transition starts a pump
twice (`started_step`). A property that every transition keeps holds in every reachable state
(`Reachable.induction`); the later modules prove their invariants that way. The races of
`close()` are schedules at the end of this module.
-/

namespace MatterServer.Websocket

/-- `'\n'`. -/
def newline : UInt8 := 10

/-- What `json.Marshal` returns. It escapes control characters in strings and adds no
whitespace, so its output has no newline byte. -/
abbrev Json := {d : List UInt8 // newline ∉ d}

/-- The goroutines that take `connectionsMu`. -/
inductive Tid
  | handle
  | reader
  | writer
  | broadcast
  | shutdown
  deriving DecidableEq, Repr

/-- `sync.RWMutex`: the goroutine holding the write lock and the number of read locks. -/
structure RWMutex where
  writer : Option Tid
  readers : Nat
  deriving DecidableEq, Repr

/-- `Lock()`: blocks until no one holds the mutex. -/
def RWMutex.lock (mu : RWMutex) (t : Tid) : Option RWMutex :=
  if mu.writer = none ∧ mu.readers = 0 then some ⟨some t, 0⟩ else none

/-- `Unlock()`. -/
def RWMutex.unlock (mu : RWMutex) : RWMutex := { mu with writer := none }

/-- `RLock()`: blocks while a writer holds the mutex. -/
def RWMutex.rlock (mu : RWMutex) : Option RWMutex :=
  if mu.writer = none then some { mu with readers := mu.readers + 1 } else none

/-- `RUnlock()`. -/
def RWMutex.runlock (mu : RWMutex) : RWMutex := { mu with readers := mu.readers - 1 }

/-- The statements of `Connection.close`, in order. -/
inductive ClosePc
  /-- `select { case <-c.ctx.Done(): return; default: }` -/
  | checkDone
  /-- `if c.unsubscribe != nil` -/
  | checkUnsubscribe
  /-- `c.unsubscribe()` -/
  | unsubscribe
  /-- `c.unsubscribe = nil` -/
  | clearUnsubscribe
  /-- `c.cancel()` -/
  | cancel
  /-- `c.handler.connectionsMu.Lock()` -/
  | lock
  /-- `delete(c.handler.connections, c.id)` -/
  | delete
  /-- `c.handler.connectionsMu.Unlock()` -/
  | unlock
  /-- `go func() { ... close(c.send) }()` -/
  | spawnCloser
  /-- `c.conn.Close()` -/
  | closeConn
  deriving DecidableEq, Repr

/-- Where a `sendMessage` call is. -/
inductive SendPc
  /-- The `ctx.Done` check and `json.Marshal`. -/
  | checkDone
  /-- `select { case c.send <- data: ...; case <-c.ctx.Done(): ...;
  case <-time.After(...): ... }` -/
  | select
  /-- Returned `nil` or the error text. -/
  | returned (err : Option String)
  deriving DecidableEq, Repr

/-- A `sendMessage` call and the payload it marshals. -/
structure Sender where
  pc : SendPc
  data : Json
  deriving DecidableEq, Repr

/-- Where `HandleWebSocket` is, after the upgrade. -/
inductive HandlePc
  | subscribe
  | lock
  | register
  | unlock
  | writeInfo
  | startWriter
  | startReader
  | closing (pc : ClosePc)
  | returned
  deriving DecidableEq, Repr

/-- Where `readPump` is. -/
inductive ReaderPc
  | idle
  | checkDone
  | read
  | sendError (m : Sender)
  | closing (pc : ClosePc)
  | returned
  deriving DecidableEq, Repr

/-- Where `writePump` is. A frame under construction is its first message and the messages
batched after it. -/
inductive WriterPc
  | idle
  | select
  | nextWriter (message : Json)
  | countQueued (message : Json)
  | batch (message : Json) (more : List Json) (n : Nat)
  | closeWriter (message : Json) (more : List Json)
  | closing (pc : ClosePc)
  | returned
  deriving DecidableEq, Repr

/-- Where `BroadcastEvent` is; `idle` between calls. -/
inductive BroadcastPc
  | idle
  | rlock (data : Json)
  | range (data : Json)
  | closing (pc : ClosePc)
  | runlock
  deriving DecidableEq, Repr

/-- Where `Shutdown` is. -/
inductive ShutdownPc
  | idle
  | lock
  | range
  | closing (pc : ClosePc)
  | reset
  | unlock
  | returned
  deriving DecidableEq, Repr

/-- A message on the socket: a text message, or the control messages close, ping and pong. -/
inductive Frame
  | text (data : List UInt8)
  | close
  | ping
  | pong
  deriving DecidableEq, Repr

/-- The connection's fields and its entry in the handler. `unsubscribeCalls` counts the
invocations of the handle `Subscribe` returned; `subscribed` is set once `Subscribe` has
registered `handleEvent`, after which an `EmitEvent` (from a snapshot taken at any time after)
can start it. -/
structure Conn where
  ctxDone : Bool
  unsubscribe : Bool
  unsubscribeCalls : Nat
  subscribed : Bool
  registered : Bool
  mu : RWMutex
  closers : Nat
  connClosed : Bool
  deriving DecidableEq, Repr

/-- `c.send`: the buffered payloads, whether `close(c.send)` has run, every payload the channel
accepted in order, and whether a goroutine has sent on it after it was closed. A send on a
closed channel panics, and no sending goroutine recovers, so that ends the process. -/
structure Chan where
  queue : List Json
  closed : Bool
  accepted : List Json
  panicked : Bool
  deriving DecidableEq, Repr

/-- The whole system. `info` is `json.Marshal(h.server.GetServerInfo())`. -/
structure State where
  info : Json
  conn : Conn
  chan : Chan
  sent : List (Tid × Frame)
  handle : HandlePc
  reader : ReaderPc
  writer : WriterPc
  senders : List Sender
  broadcast : BroadcastPc
  shutdown : ShutdownPc
  deriving DecidableEq, Repr

/-- Right after the upgrade: a fresh context, nothing subscribed or registered, the pumps not
started. -/
def init (info : Json) : State where
  info := info
  conn := ⟨false, false, 0, false, false, ⟨none, 0⟩, 0, false⟩
  chan := ⟨[], false, [], false⟩
  sent := []
  handle := .subscribe
  reader := .idle
  writer := .idle
  senders := []
  broadcast := .idle
  shutdown := .idle

/-- A close message has gone out: gorilla's `Conn` then holds `writeErr = ErrCloseSent`. -/
def closeSent (sent : List (Tid × Frame)) : Bool := sent.any fun e => e.2 == .close

/-- A write can go out: `c.conn.Close()` has not run and no close message has gone out. It may
still fail. -/
def State.canWrite (s : State) : Bool := !s.conn.connClosed && !closeSent s.sent

/-! ## Statements -/

/-- One statement of `close()` run by `t`: the new connection state, and the next statement, or
`none` when `close()` returns. `none` overall means the statement blocks. -/
def closeStep (t : Tid) (c : Conn) : ClosePc → Option (Conn × Option ClosePc)
  | .checkDone => some (c, if c.ctxDone then none else some .checkUnsubscribe)
  | .checkUnsubscribe => some (c, some (if c.unsubscribe then .unsubscribe else .cancel))
  | .unsubscribe =>
    some ({ c with unsubscribeCalls := c.unsubscribeCalls + 1 }, some .clearUnsubscribe)
  | .clearUnsubscribe => some ({ c with unsubscribe := false }, some .cancel)
  | .cancel => some ({ c with ctxDone := true }, some .lock)
  | .lock =>
    match c.mu.lock t with
    | some mu => some ({ c with mu }, some .delete)
    | none => none
  | .delete => some ({ c with registered := false }, some .unlock)
  | .unlock => some ({ c with mu := c.mu.unlock }, some .spawnCloser)
  | .spawnCloser => some ({ c with closers := c.closers + 1 }, some .closeConn)
  | .closeConn => some ({ c with connClosed := true }, none)

/-- The send case of a `select`: on a closed channel it is ready and panics; otherwise it is
ready while the 256-slot buffer has room. -/
def Chan.send (ch : Chan) (data : Json) : Option Chan :=
  if ch.closed then some { ch with panicked := true }
  else if ch.queue.length < 256 then
    some { ch with queue := ch.queue ++ [data], accepted := ch.accepted ++ [data] }
  else none

/-- The outcome of a statement of `sendMessage`: `proceed` past the `ctx.Done` check, a
`marshalError`, or the `select` case taken. -/
inductive SendCase
  | proceed
  | marshalError
  | send
  | done
  | timeout
  deriving DecidableEq, Repr

/-- One statement of `sendMessage(data)`. -/
def sendStep (ctxDone : Bool) (ch : Chan) (data : Json) :
    SendPc → SendCase → Option (Chan × SendPc)
  | .checkDone, .proceed =>
    some (ch, if ctxDone then .returned (some "connection closed") else .select)
  | .checkDone, .marshalError =>
    if ctxDone then none else some (ch, .returned (some "failed to marshal message"))
  | .select, .send =>
    match ch.send data with
    | some ch => some (ch, .returned none)
    | none => none
  | .select, .done => if ctxDone then some (ch, .returned (some "connection closed")) else none
  | .select, .timeout => some (ch, .returned (some "send timeout"))
  | _, _ => none

/-- `HandleWebSocket`'s next statement; `ok` is whether marshalling and writing the server info
succeed. -/
def handleStep (s : State) (ok : Bool) : Option State :=
  match s.handle with
  | .subscribe =>
    some { s with conn := { s.conn with unsubscribe := true, subscribed := true }, handle := .lock }
  | .lock =>
    match s.conn.mu.lock .handle with
    | some mu => some { s with conn := { s.conn with mu }, handle := .register }
    | none => none
  | .register => some { s with conn := { s.conn with registered := true }, handle := .unlock }
  | .unlock => some { s with conn := { s.conn with mu := s.conn.mu.unlock }, handle := .writeInfo }
  | .writeInfo =>
    if ok ∧ s.canWrite then
      some { s with sent := s.sent ++ [(.handle, .text s.info.val)], handle := .startWriter }
    else some { s with handle := .closing .checkDone }
  | .startWriter => some { s with writer := .select, handle := .startReader }
  | .startReader => some { s with reader := .checkDone, handle := .returned }
  | .closing pc =>
    match closeStep .handle s.conn pc with
    | some (c, some pc) => some { s with conn := c, handle := .closing pc }
    | some (c, none) => some { s with conn := c, handle := .returned }
    | none => none
  | .returned => none

/-- What `ReadMessage` meets: an error; a ping, which the default ping handler answers with a
pong before the read goes on; a close message from the peer, a message over `maxMessageSize` or a
protocol error, which gorilla answers with a close message before `ReadMessage` returns the
error; a frame that decodes as a command (whose `handleCommand` goroutine will send `result`);
or one that does not (answered by `sendError` with `errorResult`). -/
inductive ReadResult
  | error
  | ping
  | close
  | command (result : Json)
  | invalid (errorResult : Json)
  deriving DecidableEq, Repr

/-- A write whose error is ignored: the frame goes out if a write can. -/
def State.sendIgnoringError (s : State) (t : Tid) (f : Frame) : List (Tid × Frame) :=
  if s.canWrite then s.sent ++ [(t, f)] else s.sent

/-- `readPump`'s next statement; `r` is what `ReadMessage` meets when that is the statement. On a
closed socket it returns an error. -/
def readerStep (s : State) (r : ReadResult) : Option State :=
  match s.reader with
  | .checkDone => some { s with reader := if s.conn.ctxDone then .closing .checkDone else .read }
  | .read =>
    match r with
    | .error => some { s with reader := .closing .checkDone }
    | .ping =>
      if s.conn.connClosed then none
      else some { s with sent := s.sendIgnoringError .reader .pong }
    | .close =>
      if s.conn.connClosed then none
      else some { s with sent := s.sendIgnoringError .reader .close, reader := .closing .checkDone }
    | .command result =>
      if s.conn.connClosed then none
      else some { s with senders := s.senders ++ [⟨.checkDone, result⟩], reader := .checkDone }
    | .invalid errorResult =>
      if s.conn.connClosed then none
      else some { s with reader := .sendError ⟨.checkDone, errorResult⟩ }
  | .closing pc =>
    match closeStep .reader s.conn pc with
    | some (c, some pc) => some { s with conn := c, reader := .closing pc }
    | some (c, none) => some { s with conn := c, reader := .returned }
    | none => none
  | .idle | .sendError _ | .returned => none

/-- The `sendMessage` that `readPump` runs for `sendError`; when it returns, the loop continues. -/
def readerSendStep (s : State) (k : SendCase) : Option State :=
  match s.reader with
  | .sendError m =>
    match sendStep s.conn.ctxDone s.chan m.data m.pc k with
    | some (ch, .returned _) => some { s with chan := ch, reader := .checkDone }
    | some (ch, pc) => some { s with chan := ch, reader := .sendError { m with pc } }
    | none => none
  | _ => none

/-- The outcome of a statement of `writePump`: the `select` case taken (`tick` with the ping
write's outcome), or whether `NextWriter` or `w.Close()` succeeds. -/
inductive WriterCase
  | done
  | recv
  | tick (ok : Bool)
  | io (ok : Bool)
  deriving DecidableEq, Repr

/-- The bytes a batched frame carries: the first message, then `'\n'` and each further one. -/
def frameBytes (message : Json) (more : List Json) : List UInt8 :=
  message.val ++ more.flatMap fun m => newline :: m.val

/-- `writePump`'s next statement. A receive on the closed, empty channel yields `nil`. -/
def writerStep (s : State) (k : WriterCase) : Option State :=
  match s.writer with
  | .select =>
    match k with
    | .done => if s.conn.ctxDone then some { s with writer := .closing .checkDone } else none
    | .recv =>
      match s.chan.queue with
      | message :: queue =>
        some { s with chan := { s.chan with queue }, writer := .nextWriter message }
      | [] =>
        if s.chan.closed then
          some { s with sent := s.sendIgnoringError .writer .close, writer := .closing .checkDone }
        else none
    | .tick ok =>
      if ok ∧ s.canWrite then some { s with sent := s.sent ++ [(.writer, .ping)] }
      else some { s with writer := .closing .checkDone }
    | .io _ => none
  | .nextWriter message =>
    match k with
    | .io ok =>
      if ok ∧ s.canWrite then some { s with writer := .countQueued message }
      else some { s with writer := .closing .checkDone }
    | _ => none
  | .countQueued message => some { s with writer := .batch message [] s.chan.queue.length }
  | .batch message more n =>
    match n, s.chan.queue with
    | 0, _ => some { s with writer := .closeWriter message more }
    | n + 1, m :: queue =>
      some { s with chan := { s.chan with queue }, writer := .batch message (more ++ [m]) n }
    | n + 1, [] =>
      if s.chan.closed then
        some { s with writer := .batch message (more ++ [⟨[], List.not_mem_nil _⟩]) n }
      else none
  | .closeWriter message more =>
    match k with
    | .io ok =>
      if ok ∧ s.canWrite then
        some { s with sent := s.sent ++ [(.writer, .text (frameBytes message more))],
                      writer := .select }
      else some { s with writer := .closing .checkDone }
    | _ => none
  | .closing pc =>
    match closeStep .writer s.conn pc with
    | some (c, some pc) => some { s with conn := c, writer := .closing pc }
    | some (c, none) => some { s with conn := c, writer := .returned }
    | none => none
  | .idle | .returned => none

/-- `BroadcastEvent(event)` with `data` its marshalled event: the next statement, or the call
itself from `idle`. -/
def broadcastStep (s : State) (data : Json) : Option State :=
  match s.broadcast with
  | .idle => some { s with broadcast := .rlock data }
  | .rlock data =>
    match s.conn.mu.rlock with
    | some mu => some { s with conn := { s.conn with mu }, broadcast := .range data }
    | none => none
  | .range data =>
    if s.conn.registered then
      match s.chan.send data with
      | some ch => some { s with chan := ch, broadcast := .runlock }
      | none => some { s with broadcast := .closing .checkDone }
    else some { s with broadcast := .runlock }
  | .closing pc =>
    match closeStep .broadcast s.conn pc with
    | some (c, some pc) => some { s with conn := c, broadcast := .closing pc }
    | some (c, none) => some { s with conn := c, broadcast := .runlock }
    | none => none
  | .runlock => some { s with conn := { s.conn with mu := s.conn.mu.runlock }, broadcast := .idle }

/-- `Shutdown()`: the next statement, or the call itself from `idle`. -/
def shutdownStep (s : State) : Option State :=
  match s.shutdown with
  | .idle => some { s with shutdown := .lock }
  | .lock =>
    match s.conn.mu.lock .shutdown with
    | some mu => some { s with conn := { s.conn with mu }, shutdown := .range }
    | none => none
  | .range => some { s with shutdown := if s.conn.registered then .closing .checkDone else .reset }
  | .closing pc =>
    match closeStep .shutdown s.conn pc with
    | some (c, some pc) => some { s with conn := c, shutdown := .closing pc }
    | some (c, none) => some { s with conn := c, shutdown := .reset }
    | none => none
  | .reset => some { s with conn := { s.conn with registered := false }, shutdown := .unlock }
  | .unlock => some { s with conn := { s.conn with mu := s.conn.mu.unlock }, shutdown := .returned }
  | .returned => none

/-- A goroutine spawned by `close()` runs `close(c.send)`; on a closed channel that panics and
the deferred `recover` swallows it. -/
def closerStep (s : State) : Option State :=
  if s.conn.closers = 0 then none
  else some { s with conn := { s.conn with closers := s.conn.closers - 1 },
                     chan := { s.chan with closed := true } }

/-- A transition: one statement of a goroutine with the outcome it meets, or an event of the
environment. -/
inductive Action
  | handle (ok : Bool)
  | reader (r : ReadResult)
  | readerSend (k : SendCase)
  | writer (k : WriterCase)
  | sender (i : Nat) (k : SendCase)
  | closer
  | broadcast (data : Json)
  | shutdown
  /-- `EmitEvent` starts `handleEvent`, which calls `sendMessage(event)`. -/
  | emit (data : Json)
  /-- The request context that `c.ctx` derives from is cancelled. -/
  | cancelParent
  deriving DecidableEq, Repr

/-- One transition; `none` when it is not enabled. Nothing runs after a panic. -/
def step (s : State) : Action → Option State
  | .handle ok => handleStep s ok
  | .reader r => readerStep s r
  | .readerSend k => readerSendStep s k
  | .writer k => writerStep s k
  | .sender i k =>
    match s.senders[i]? with
    | some m =>
      match sendStep s.conn.ctxDone s.chan m.data m.pc k with
      | some (ch, pc) => some { s with chan := ch, senders := s.senders.set i { m with pc } }
      | none => none
    | none => none
  | .closer => closerStep s
  | .broadcast data => broadcastStep s data
  | .shutdown => shutdownStep s
  | .emit data =>
    if s.conn.subscribed then some { s with senders := s.senders ++ [⟨.checkDone, data⟩] }
    else none
  | .cancelParent => some { s with conn := { s.conn with ctxDone := true } }

/-! ## What each goroutine writes

One lemma per goroutine: a transition of it leaves every field it does not write as it was.
The invariants of the later modules cite these instead of splitting the statements again. -/

section Frames

variable {s s' : State}

/-- `HandleWebSocket` changes the connection, the socket, its own place, and starts the pumps. -/
theorem handleStep_frame {ok : Bool} (h : handleStep s ok = some s') :
    s' = { s with conn := s'.conn, sent := s'.sent, handle := s'.handle, reader := s'.reader,
                  writer := s'.writer } := by
  cases hpc : s.handle <;> simp only [handleStep, hpc] at h <;> (try split at h) <;> cases h <;>
    rfl

/-- `readPump` changes the connection, the socket, the senders it starts, and its own place. -/
theorem readerStep_frame {r : ReadResult} (h : readerStep s r = some s') :
    s' = { s with conn := s'.conn, sent := s'.sent, senders := s'.senders, reader := s'.reader } := by
  cases hpc : s.reader <;> simp only [readerStep, hpc] at h <;> (try split at h) <;>
    (try split at h) <;> cases h <;> rfl

/-- `readPump`'s `sendError` changes the channel and `readPump`'s place. -/
theorem readerSendStep_frame {k : SendCase} (h : readerSendStep s k = some s') :
    s' = { s with chan := s'.chan, reader := s'.reader } := by
  cases hpc : s.reader <;> simp only [readerSendStep, hpc] at h <;> (try split at h) <;>
    cases h <;> rfl

/-- `writePump` changes the connection, the channel's buffer, the socket, and its own place. -/
theorem writerStep_frame {k : WriterCase} (h : writerStep s k = some s') :
    s' = { s with conn := s'.conn, chan := { s.chan with queue := s'.chan.queue },
                  sent := s'.sent, writer := s'.writer } := by
  cases hpc : s.writer <;> simp only [writerStep, hpc] at h <;> (try split at h) <;>
    (try split at h) <;> (try split at h) <;> cases h <;> rfl

/-- `BroadcastEvent` changes the connection, the channel, and its own place. -/
theorem broadcastStep_frame {data : Json} (h : broadcastStep s data = some s') :
    s' = { s with conn := s'.conn, chan := s'.chan, broadcast := s'.broadcast } := by
  cases hpc : s.broadcast <;> simp only [broadcastStep, hpc] at h <;> (try split at h) <;>
    (try split at h) <;> cases h <;> rfl

/-- `Shutdown` changes the connection and its own place. -/
theorem shutdownStep_frame (h : shutdownStep s = some s') :
    s' = { s with conn := s'.conn, shutdown := s'.shutdown } := by
  cases hpc : s.shutdown <;> simp only [shutdownStep, hpc] at h <;> (try split at h) <;>
    cases h <;> rfl

/-- The goroutine `close()` spawns is done, and closes the channel. -/
theorem closerStep_frame (h : closerStep s = some s') :
    s' = { s with conn := { s.conn with closers := s'.conn.closers },
                  chan := { s.chan with closed := true } } := by
  unfold closerStep at h
  split at h <;> cases h
  rfl

/-- A `sendMessage` goroutine changes the channel and the senders. -/
theorem senderStep_frame {i : Nat} {k : SendCase} (h : step s (.sender i k) = some s') :
    s' = { s with chan := s'.chan, senders := s'.senders } := by
  simp only [step] at h
  split at h <;> (try split at h) <;> cases h
  rfl

/-- `EmitEvent` starts a `sendMessage` goroutine. -/
theorem emitStep_frame {data : Json} (h : step s (.emit data) = some s') :
    s' = { s with senders := s'.senders } := by
  simp only [step] at h
  split at h <;> cases h
  rfl

end Frames

/-! ## Schedules -/

/-- `HandleWebSocket` has not yet run `go client.writePump()`. -/
def HandlePc.beforeWriter : HandlePc → Bool
  | .subscribe | .lock | .register | .unlock | .writeInfo | .startWriter => true
  | _ => false

/-- `HandleWebSocket` has not yet run `go client.readPump()`. -/
def HandlePc.beforeReader : HandlePc → Bool
  | .startReader => true
  | pc => pc.beforeWriter

/-- A process that has not panicked takes the transition. -/
def step? (s : State) (a : Action) : Option State :=
  if s.chan.panicked then none else step s a

/-- A transition that a process takes is a transition of `step`. -/
theorem step_of_step? {s s' : State} {a : Action} (h : step? s a = some s') :
    step s a = some s' := by
  unfold step? at h
  split at h
  · cases h
  · exact h

/-- A process that takes a transition has not panicked. -/
theorem running_of_step? {s s' : State} {a : Action} (h : step? s a = some s') :
    s.chan.panicked = false := by
  unfold step? at h
  split at h
  · cases h
  · exact Bool.eq_false_iff.mpr ‹_›

/-- A schedule, run from `s`. -/
def run (s : State) : List Action → Option State
  | [] => some s
  | a :: as => (step? s a).bind fun s => run s as

/-- `{}`. -/
def emptyObject : Json := ⟨[123, 125], by decide⟩

/-- `HandleWebSocket` from the upgrade to its return, with the server info written. -/
def handshake : List Action := List.replicate 7 (.handle true)

/-- The states some schedule reaches from the upgrade. -/
def Reachable (s : State) : Prop := ∃ info as, run (init info) as = some s

/-- The pumps are started once, by `HandleWebSocket`: until it starts one, that one is idle. -/
structure Started (s : State) : Prop where
  writer_idle : s.handle.beforeWriter = true → s.writer = .idle
  reader_idle : s.handle.beforeReader = true → s.reader = .idle

/-- Running two schedules one after the other. -/
theorem run_append (s : State) (as bs : List Action) :
    run s (as ++ bs) = (run s as).bind fun s => run s bs := by
  induction as generalizing s with
  | nil => rfl
  | cons a as ih =>
    simp only [List.cons_append, run]
    cases step? s a <;> simp [ih]

/-- A transition from a reachable state reaches a reachable state. -/
theorem Reachable.step {s s' : State} (h : Reachable s) {a : Action} (ha : step? s a = some s') :
    Reachable s' := by
  obtain ⟨info, as, hs⟩ := h
  exact ⟨info, as ++ [a], by simp [run_append, hs, run, ha]⟩

/-- A schedule from a reachable state reaches a reachable state. -/
theorem Reachable.of_run {s s' : State} (h : Reachable s) {as : List Action}
    (ha : run s as = some s') : Reachable s' := by
  obtain ⟨info, bs, hs⟩ := h
  exact ⟨info, bs ++ as, by simp [run_append, hs, ha]⟩

/-- The state after the upgrade is reachable. -/
theorem reachable_init (info : Json) : Reachable (init info) := ⟨info, [], rfl⟩

/-- After the upgrade no pump runs. -/
theorem started_init (info : Json) : Started (init info) := ⟨fun _ => rfl, fun _ => rfl⟩

/-- A transition that moves neither the pumps nor `HandleWebSocket` keeps `Started`. -/
theorem Started.of_frame {s s' : State} (hs : Started s) (hw : s'.writer = s.writer)
    (hr : s'.reader = s.reader) (hh : s'.handle = s.handle) : Started s' :=
  ⟨fun h => hw ▸ hs.writer_idle (hh ▸ h), fun h => hr ▸ hs.reader_idle (hh ▸ h)⟩

/-- A pump that has a statement to run has been started, and `HandleWebSocket` is past
starting it. -/
theorem Started.past_reader {s : State} (hs : Started s) (hr : s.reader ≠ .idle) :
    s.handle.beforeReader = false :=
  Bool.eq_false_iff.mpr fun h => hr (hs.reader_idle h)

/-- A running `writePump` was started. -/
theorem Started.past_writer {s : State} (hs : Started s) (hw : s.writer ≠ .idle) :
    s.handle.beforeWriter = false :=
  Bool.eq_false_iff.mpr fun h => hw (hs.writer_idle h)

/-- No transition starts a pump twice, and an idle pump has no statement to run. -/
theorem started_step {s s' : State} {a : Action} (hs : Started s) (h : step s a = some s') :
    Started s' := by
  cases a with
  | handle ok =>
    change handleStep s ok = some s' at h
    cases hpc : s.handle <;> simp only [handleStep, hpc] at h <;> (try split at h) <;> cases h
    all_goals
      obtain ⟨hw, hr⟩ := hs
      exact ⟨fun hb => by simp_all [HandlePc.beforeWriter, HandlePc.beforeReader],
        fun hb => by simp_all [HandlePc.beforeWriter, HandlePc.beforeReader]⟩
  | reader r =>
    have hpast := hs.past_reader fun hr => by simp [step, readerStep, hr] at h
    rw [readerStep_frame h]
    exact ⟨hs.writer_idle, fun hb => absurd hb (Bool.eq_false_iff.mp hpast)⟩
  | readerSend k =>
    have hpast := hs.past_reader fun hr => by simp [step, readerSendStep, hr] at h
    rw [readerSendStep_frame h]
    exact ⟨hs.writer_idle, fun hb => absurd hb (Bool.eq_false_iff.mp hpast)⟩
  | writer k =>
    have hpast := hs.past_writer fun hr => by simp [step, writerStep, hr] at h
    rw [writerStep_frame h]
    exact ⟨fun hb => absurd hb (Bool.eq_false_iff.mp hpast), hs.reader_idle⟩
  | sender i k => rw [senderStep_frame h]; exact hs.of_frame rfl rfl rfl
  | closer => rw [closerStep_frame h]; exact hs.of_frame rfl rfl rfl
  | broadcast data => rw [broadcastStep_frame h]; exact hs.of_frame rfl rfl rfl
  | shutdown => rw [shutdownStep_frame h]; exact hs.of_frame rfl rfl rfl
  | emit data => rw [emitStep_frame h]; exact hs.of_frame rfl rfl rfl
  | cancelParent => cases h; exact hs.of_frame rfl rfl rfl

/-- Which of the goroutines that take `connectionsMu` takes the transition: `none` for a
`sendMessage` goroutine, a closer and the environment. -/
def Action.tid : Action → Option Tid
  | .handle _ => some .handle
  | .reader _ | .readerSend _ => some .reader
  | .writer _ => some .writer
  | .broadcast _ => some .broadcast
  | .shutdown => some .shutdown
  | _ => none

/-- A transition of `t` is not one of another goroutine. -/
theorem Action.tid_ne {a : Action} {t u : Tid} (ht : a.tid = some t) (hu : u ≠ t) :
    a.tid ≠ some u :=
  fun h => hu (Option.some.inj (h.symm.trans ht))

/-- `HandleWebSocket` starts each pump at the top of its loop, from `idle`. -/
theorem handleStep_pumps {s s' : State} {ok : Bool} (hs : Started s)
    (h : handleStep s ok = some s') :
    (s'.reader = s.reader ∨ s.reader = .idle ∧ s'.reader = .checkDone) ∧
      (s'.writer = s.writer ∨ s.writer = .idle ∧ s'.writer = .select) := by
  cases hpc : s.handle <;> simp only [handleStep, hpc] at h <;> (try split at h) <;> cases h
  case startWriter.refl =>
    exact ⟨.inl rfl, .inr ⟨hs.writer_idle (by simp [hpc, HandlePc.beforeWriter]), rfl⟩⟩
  case startReader.refl =>
    exact ⟨.inr ⟨hs.reader_idle (by simp [hpc, HandlePc.beforeReader]), rfl⟩, .inl rfl⟩
  all_goals exact ⟨.inl rfl, .inl rfl⟩

/-- A goroutine moves only by its own statements, except that `HandleWebSocket` starts the
pumps. -/
theorem place_step {s s' : State} {a : Action} (hs : Started s) (h : step s a = some s') :
    (a.tid ≠ some .handle → s'.handle = s.handle) ∧
      (a.tid ≠ some .reader → s'.reader = s.reader ∨ s.reader = .idle ∧ s'.reader = .checkDone) ∧
      (a.tid ≠ some .writer → s'.writer = s.writer ∨ s.writer = .idle ∧ s'.writer = .select) ∧
      (a.tid ≠ some .broadcast → s'.broadcast = s.broadcast) ∧
      (a.tid ≠ some .shutdown → s'.shutdown = s.shutdown) := by
  cases a
  case handle ok =>
    obtain ⟨hr, hw⟩ := handleStep_pumps hs h
    rw [handleStep_frame h] at hr hw ⊢
    exact ⟨fun h => absurd rfl h, fun _ => hr, fun _ => hw, fun _ => rfl, fun _ => rfl⟩
  -- every other transition: its goroutine's frame lemma names the one place it moves
  all_goals first
    | rw [readerStep_frame h] | rw [readerSendStep_frame h] | rw [writerStep_frame h]
    | rw [broadcastStep_frame h] | rw [shutdownStep_frame h] | rw [senderStep_frame h]
    | rw [closerStep_frame h] | rw [emitStep_frame h] | cases h
  all_goals
    refine ⟨fun h => ?_, fun h => ?_, fun h => ?_, fun h => ?_, fun h => ?_⟩ <;>
      first | rfl | exact .inl rfl | exact absurd rfl h

/-- A property every transition keeps holds of every reachable state. -/
theorem Reachable.induction {P : State → Prop} (hinit : ∀ info, P (init info))
    (hstep : ∀ s s' a, Reachable s → P s → step? s a = some s' → P s') {s : State}
    (h : Reachable s) : P s := by
  have key : ∀ as s, Reachable s → P s → ∀ s', run s as = some s' → P s' := by
    intro as
    induction as with
    | nil => intro s _ hp s' h; cases h; exact hp
    | cons a as ih =>
      intro s hr hp s' h
      simp only [run, Option.bind_eq_some] at h
      obtain ⟨t, ht, h⟩ := h
      exact ih t (hr.step ht) (hstep s t a hr hp ht) s' h
  obtain ⟨info, as, hs⟩ := h
  exact key as _ (reachable_init info) (hinit info) s hs

/-! ## Races around `close()`

Schedules from the upgrade, each a list of transitions the source allows. An action whose
statement does not depend on the world carries an outcome it ignores; `.reader .error` and
`.writer (.io true)` below stand for "the next statement".

* `commandThenDisconnect`: a client sends a command and disconnects. `readPump` starts the
  command's `handleCommand`, whose `sendMessage` passes its `ctx.Done` check; the next read fails
  and `readPump`'s deferred `close()` runs to the end, and the goroutine it spawned closes
  `c.send`. The `sendMessage` is still at its `select`, where the send case is ready: Go may pick
  it, and a send on a closed channel panics.
* `twoCloses`: the read fails and the ping write fails at the same time, so both pumps call
  `close()`. Both pass the `ctx.Done` check before either cancels, both see `c.unsubscribe`
  set, and both invoke it.
* `parentCancelled`: the request context is cancelled once the pumps run. Each pump sees
  `ctx.Done` and returns, and each deferred `close()` sees `ctx.Done` and returns at once: the
  handle is never invoked, the socket is never closed, and the connection stays registered.
* `twoCommandsThenDisconnect`: as the first, with two commands in flight. The first
  `sendMessage` panics, and a panic ends the process (`run_panicked`): the second command gets no
  result, though its `sendMessage` never returned an error.
-/

/-- A command whose response is `result`, then a failed read and `readPump`'s `close()`. -/
def commandThenDisconnect (result : Json) : List Action :=
  handshake ++
    [.reader .error, .reader (.command result), .sender 0 .proceed, .reader .error,
      .reader .error] ++
    List.replicate 10 (.reader .error) ++ [.closer]

/-- A `sendMessage` that passed its `ctx.Done` check before `close()` ran is at its `select`
after `close(c.send)`: its send case is ready, and taking it panics. -/
theorem sendMessage_sends_on_closed (info result : Json) :
    ∃ s, run (init info) (commandThenDisconnect result) = some s ∧ s.chan.closed = true ∧
      s.conn.ctxDone = true ∧ s.reader = .returned ∧ s.senders = [⟨.select, result⟩] ∧
      (step? s (.sender 0 .send)).map (·.chan.panicked) = some true :=
  ⟨_, rfl, rfl, rfl, rfl, rfl, rfl⟩

/-- Both pumps fail and call `close()`, and both get past its `ctx.Done` check and its
`c.unsubscribe != nil` test before either clears or cancels. -/
def twoCloses : List Action :=
  handshake ++
    [.reader .error, .reader .error, .writer (.tick false), .reader .error, .writer (.io true),
      .reader .error, .writer (.io true), .reader .error, .writer (.io true)]

/-- The request context is cancelled; both pumps see it and return. -/
def parentCancelled : List Action :=
  handshake ++ [.cancelParent, .reader .error, .reader .error, .writer .done, .writer (.io true)]

/-- Two schedules break the close-once contract: in one, the handle `Subscribe` returned is
invoked twice; in the other, both pumps have returned while the handle was never invoked, the
socket is open, and the connection is still registered. -/
theorem close_races (info : Json) :
    (∃ s, run (init info) twoCloses = some s ∧ s.conn.unsubscribeCalls = 2) ∧
      ∃ s, run (init info) parentCancelled = some s ∧ s.reader = .returned ∧
        s.writer = .returned ∧ s.conn.unsubscribeCalls = 0 ∧ s.conn.connClosed = false ∧
        s.conn.registered = true :=
  ⟨⟨_, rfl, rfl⟩, ⟨_, rfl, rfl, rfl, rfl, rfl, rfl⟩⟩

/-- A panic ends the process: no schedule moves a state that has panicked. -/
theorem run_panicked {s : State} (h : s.chan.panicked = true) :
    ∀ as s', run s as = some s' → s' = s
  | [], _, hs => (Option.some.inj hs).symm
  | a :: as, s', hs => by simp [run, step?, h] at hs

/-- Two commands whose responses are `r₁` and `r₂`, each `sendMessage` past its `ctx.Done`
check, then a failed read and `readPump`'s `close()`. -/
def twoCommandsThenDisconnect (r₁ r₂ : Json) : List Action :=
  handshake ++
    [.reader .error, .reader (.command r₁), .sender 0 .proceed, .reader .error,
      .reader (.command r₂), .sender 1 .proceed, .reader .error, .reader .error] ++
    List.replicate 10 (.reader .error) ++ [.closer]

/-- Two commands are in flight when `close()` closes `c.send`. The first `sendMessage` takes its
ready send case and panics; then nothing runs, so the second command's response is never
enqueued, and its `sendMessage` is still at its `select`, having returned no error. -/
theorem commands_lose_results (info r₁ r₂ : Json) :
    ∃ s, run (init info) (twoCommandsThenDisconnect r₁ r₂ ++ [.sender 0 .send]) = some s ∧
      s.chan.panicked = true ∧ s.chan.accepted = [] ∧ s.senders[1]? = some ⟨.select, r₂⟩ ∧
      ∀ as s', run s as = some s' → s' = s :=
  ⟨_, rfl, rfl, rfl, rfl, run_panicked rfl⟩

end MatterServer.Websocket
