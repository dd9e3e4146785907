import MatterServer.Websocket.Model

/-!
# What reaches the socket: the server info, then `c.send` in order

`HandleWebSocket` writes the server info before it starts the pumps; afterwards every text
frame is `writePump`'s, and `readPump` writes only gorilla's pong and close replies.
`writePump` takes one payload from `c.send`, reads `len(c.send)`, takes that
many more, and writes them as one text frame joined by `'\n'`. Producers only append to the
buffer and `writePump` is its only reader, so the count it read is never more than what is
buffered (`QueueInv.batch_le`), and the batch never meets an empty channel.

`QueueInv.fifo` is the accounting: the payloads the channel accepted, in order, are the pieces of
the text frames `writePump` wrote, then those lost with the frame it was building when it exited
(`lost`, empty while it runs), then those in the frame it is building, then the buffer. Since a
payload has no newline, splitting a frame at `'\n'` gives back exactly its payloads
(`pieces_frameBytes`), and a control frame has none. `sent_fifo` reads the socket's order off
the invariant.

A close message, `writePump`'s or `readPump`'s, is the socket's last frame, and the pump that
wrote it has left its loop (`close_last`): a second invariant, `CloseInv`, kept by every
transition of every goroutine.
-/

namespace MatterServer.Websocket

/-- The payloads `writePump` has taken from `c.send` for the frame it is building. -/
def WriterPc.held : WriterPc → List Json
  | .nextWriter m | .countQueued m => [m]
  | .batch m more _ | .closeWriter m more => m :: more
  | _ => []

/-- `writePump` has left its loop: it is in its deferred `close()`, or has returned. -/
def WriterPc.exited : WriterPc → Bool
  | .closing _ | .returned => true
  | _ => false

/-- `readPump` has left its loop: it is in its deferred `close()`, or has returned. -/
def ReaderPc.exited : ReaderPc → Bool
  | .closing _ | .returned => true
  | _ => false

/-- `HandleWebSocket` has not yet written the server info. -/
def HandlePc.beforeInfo : HandlePc → Bool
  | .subscribe | .lock | .register | .unlock | .writeInfo => true
  | _ => false

/-- A frame's text split at `'\n'`; control frames carry none. -/
def Frame.pieces : Frame → List (List UInt8)
  | .text data => data.splitOn newline
  | _ => []

/-- The pieces of every frame after the first, in write order. -/
def writtenPieces (sent : List (Tid × Frame)) : List (List UInt8) :=
  sent.tail.flatMap fun e => e.2.pieces

/-- The socket's log and the channel's accounting. -/
structure QueueInv (s : State) : Prop where
  fifo : ∃ lost : List Json, (lost = [] ∨ s.writer.exited = true) ∧
    s.chan.accepted.map Subtype.val =
      writtenPieces s.sent ++ (lost ++ s.writer.held ++ s.chan.queue).map Subtype.val
  batch_le : ∀ m more n, s.writer = .batch m more n → n ≤ s.chan.queue.length
  sent_shape : s.sent = [] ∨
    ∃ rest, s.sent = (.handle, .text s.info.val) :: rest ∧
      ∀ e ∈ rest, e.1 = .writer ∨ e.1 = .reader ∧ (e.2 = .pong ∨ e.2 = .close)
  before_info : s.handle.beforeInfo = true → s.sent = []
  info_sent : s.writer ≠ .idle ∨ s.reader ≠ .idle ∨ s.handle = .startWriter ∨
    s.handle = .startReader → s.sent ≠ []

/-- Before anything runs, nothing has been accepted or written. -/
theorem queueInv_init (info : Json) : QueueInv (init info) where
  fifo := ⟨[], .inl rfl, rfl⟩
  batch_le _ _ _ h := by cases h
  sent_shape := .inl rfl
  before_info _ := rfl
  info_sent h := by simp [init] at h

/-! ## Frames -/

/-- A payload without a newline is one piece. -/
theorem splitOn_of_not_mem {d : List UInt8} (h : newline ∉ d) : d.splitOn newline = [d] :=
  List.splitOnP_eq_single _ d fun _ hx hx' => h (beq_iff_eq.mp hx' ▸ hx)

/-- Splitting a batched frame at `'\n'` gives back its payloads. -/
theorem pieces_frameBytes (m : Json) (more : List Json) :
    (Frame.text (frameBytes m more)).pieces = (m :: more).map Subtype.val := by
  induction more generalizing m with
  | nil => simp [Frame.pieces, frameBytes, splitOn_of_not_mem m.2]
  | cons m' more ih =>
    have h : frameBytes m (m' :: more) = m.val ++ newline :: frameBytes m' more := by
      simp [frameBytes]
    simp only [Frame.pieces] at ih ⊢
    rw [h, List.splitOn, List.splitOnP_first (· == newline) m.val
      (fun x hx hx' => m.2 (beq_iff_eq.mp hx' ▸ hx)) newline (beq_self_eq_true _)]
    rw [← List.splitOn, ih m']
    rfl

/-- A frame written after the first adds its pieces. -/
theorem writtenPieces_append {sent : List (Tid × Frame)} (h : sent ≠ []) (e : Tid × Frame) :
    writtenPieces (sent ++ [e]) = writtenPieces sent ++ e.2.pieces := by
  simp [writtenPieces, List.tail_append_of_ne_nil h]

/-- A control frame adds no pieces. -/
theorem writtenPieces_control {sent : List (Tid × Frame)} {e : Tid × Frame}
    (h : e.2.pieces = []) : writtenPieces (sent ++ [e]) = writtenPieces sent := by
  cases sent <;> simp [writtenPieces, h]

/-- A frame of `writePump`, or a pong or close message of `readPump`, after the server info keeps
the shape of the socket. -/
theorem sent_shape_append {info : Json} {sent : List (Tid × Frame)} (h : sent ≠ [])
    (hs : sent = [] ∨ ∃ rest, sent = (.handle, .text info.val) :: rest ∧
      ∀ e ∈ rest, e.1 = .writer ∨ e.1 = .reader ∧ (e.2 = .pong ∨ e.2 = .close))
    {e : Tid × Frame} (he : e.1 = .writer ∨ e.1 = .reader ∧ (e.2 = .pong ∨ e.2 = .close)) :
    ∃ rest, sent ++ [e] = (.handle, .text info.val) :: rest ∧
      ∀ e ∈ rest, e.1 = .writer ∨ e.1 = .reader ∧ (e.2 = .pong ∨ e.2 = .close) := by
  obtain ⟨rest, rfl, hr⟩ := hs.resolve_left h
  refine ⟨rest ++ [e], rfl, fun e' he' => ?_⟩
  rcases List.mem_append.mp he' with he' | he'
  · exact hr e' he'
  · rw [List.mem_singleton.mp he']; exact he

/-! ## The channel -/

/-- A send on `c.send` either panics and leaves the buffer alone, or appends the payload to the
buffer and to the accepted payloads. -/
theorem Chan.send_cases {ch ch' : Chan} {d : Json} (h : ch.send d = some ch') :
    (ch'.queue = ch.queue ∧ ch'.accepted = ch.accepted) ∨
      (ch'.queue = ch.queue ++ [d] ∧ ch'.accepted = ch.accepted ++ [d]) := by
  unfold Chan.send at h
  split at h
  · cases h; exact .inl ⟨rfl, rfl⟩
  · split at h
    · cases h; exact .inr ⟨rfl, rfl⟩
    · cases h

/-- `sendMessage` changes the channel only by its send. -/
theorem sendStep_chan {ctxDone : Bool} {ch ch' : Chan} {d : Json} {pc pc' : SendPc} {k : SendCase}
    (h : sendStep ctxDone ch d pc k = some (ch', pc')) :
    (ch'.queue = ch.queue ∧ ch'.accepted = ch.accepted) ∨
      (ch'.queue = ch.queue ++ [d] ∧ ch'.accepted = ch.accepted ++ [d]) := by
  cases pc <;> cases k <;> simp only [sendStep] at h <;> (try split at h) <;> cases h
  case select.send.h_1 ch'' hs => exact Chan.send_cases hs
  all_goals exact .inl ⟨rfl, rfl⟩

section Steps

variable {s s' : State}

/-- A transition that touches neither the socket nor `writePump`, and only appends to the channel
or leaves its buffer alone. -/
theorem QueueInv.enqueue (hi : QueueInv s) (hsent : s'.sent = s.sent) (hw : s'.writer = s.writer)
    (hr : s'.reader = s.reader ∨ s.reader ≠ .idle) (hh : s'.handle = s.handle)
    (hinfo : s'.info = s.info)
    (hq : (s'.chan.queue = s.chan.queue ∧ s'.chan.accepted = s.chan.accepted) ∨
      ∃ d, s'.chan.queue = s.chan.queue ++ [d] ∧ s'.chan.accepted = s.chan.accepted ++ [d]) :
    QueueInv s' := by
  obtain ⟨lost, hl, he⟩ := hi.fifo
  refine ⟨⟨lost, hw ▸ hl, ?_⟩, fun m more n hb => ?_, hsent ▸ hinfo ▸ hi.sent_shape,
    fun hb => hsent ▸ hi.before_info (hh ▸ hb), fun hb => hsent ▸ hi.info_sent ?_⟩
  · rcases hq with ⟨hq, ha⟩ | ⟨d, hq, ha⟩
    · rw [hq, ha, hsent, hw]; exact he
    · rw [hq, ha, hsent, hw]; simp [he]
  · have := hi.batch_le m more n (hw ▸ hb)
    rcases hq with ⟨hq, -⟩ | ⟨d, hq, -⟩ <;> rw [hq] <;> simp <;> omega
  · rw [hw, hh] at hb
    rcases hr with hr | hr
    · rwa [hr] at hb
    · exact .inr (.inl hr)

/-- What a statement of `writePump` writes: nothing, or one frame while a write can go out, and a
close message only as it leaves its loop. Once out of its loop it stays out. -/
theorem writerStep_sent {k : WriterCase} (h : writerStep s k = some s') :
    (s.writer.exited = true → s'.writer.exited = true) ∧
      (s'.sent = s.sent ∨ s.canWrite = true ∧
        ∃ f, s'.sent = s.sent ++ [(.writer, f)] ∧ (f = .close → s'.writer.exited = true)) := by
  cases hpc : s.writer <;> simp only [writerStep, hpc] at h <;> (try split at h) <;>
    (try split at h) <;> (try split at h) <;> cases h
  case select.h_2.h_2.isTrue.refl =>
    refine ⟨by simp [hpc, WriterPc.exited], ?_⟩
    unfold State.sendIgnoringError
    split
    · exact .inr ⟨‹_›, _, rfl, fun _ => rfl⟩
    · exact .inl rfl
  case select.h_3.isTrue.refl hok | closeWriter.h_1.isTrue.refl hok =>
    refine ⟨by simp [hpc, WriterPc.exited], .inr ⟨hok.2, _, rfl, ?_⟩⟩
    exact nofun
  all_goals first
    | exact ⟨fun _ => rfl, .inl rfl⟩
    | exact ⟨by simp [hpc, WriterPc.exited], .inl rfl⟩

/-- What a statement of `readPump` writes: nothing, or gorilla's pong, or its close message as
`readPump` leaves its loop, each while a write can go out. Once out of its loop it stays out. -/
theorem readerStep_sent {r : ReadResult} (h : readerStep s r = some s') :
    (s.reader.exited = true → s'.reader.exited = true) ∧
      (s'.sent = s.sent ∨ s.canWrite = true ∧
        (s'.sent = s.sent ++ [(.reader, .pong)] ∨
          s'.sent = s.sent ++ [(.reader, .close)] ∧ s'.reader.exited = true)) := by
  cases hpc : s.reader <;> simp only [readerStep, hpc] at h <;> (try split at h) <;>
    (try split at h) <;> cases h
  case read.h_2.isFalse.refl =>
    refine ⟨by simp [hpc, ReaderPc.exited], ?_⟩
    unfold State.sendIgnoringError
    split
    · exact .inr ⟨‹_›, .inl rfl⟩
    · exact .inl rfl
  case read.h_3.isFalse.refl =>
    refine ⟨fun _ => rfl, ?_⟩
    unfold State.sendIgnoringError
    split
    · exact .inr ⟨‹_›, .inr ⟨rfl, rfl⟩⟩
    · exact .inl rfl
  all_goals first
    | exact ⟨fun _ => rfl, .inl rfl⟩
    | exact ⟨by simp [hpc, ReaderPc.exited], .inl rfl⟩

/-- `HandleWebSocket`'s statements keep the invariant. -/
theorem queueInv_handleStep {ok : Bool} (hs : Started s) (hi : QueueInv s)
    (h : handleStep s ok = some s') : QueueInv s' := by
  cases hpc : s.handle <;> simp only [handleStep, hpc] at h <;> (try split at h) <;> cases h
  case writeInfo.isTrue.refl hok =>
    have h0 := hi.before_info (by simp [hpc, HandlePc.beforeInfo])
    have hw := hs.writer_idle (by simp [hpc, HandlePc.beforeWriter])
    obtain ⟨lost, hl, he⟩ := hi.fifo
    refine ⟨⟨lost, hl, by simpa [h0, writtenPieces] using he⟩, hi.batch_le,
      .inr ⟨[], by simp [h0], nofun⟩, fun hb => (by simp [HandlePc.beforeInfo] at hb),
      fun _ => (by simp)⟩
  case startWriter.refl =>
    have hw := hs.writer_idle (by simp [hpc, HandlePc.beforeWriter])
    obtain ⟨lost, hl, he⟩ := hi.fifo
    refine ⟨⟨lost, ?_, ?_⟩, fun _ _ _ hb => (by cases hb), hi.sent_shape,
      fun hb => (by simp [HandlePc.beforeInfo] at hb), fun _ => hi.info_sent (by simp [hpc])⟩
    · rcases hl with hl | hl
      · exact .inl hl
      · simp [hw, WriterPc.exited] at hl
    · simpa [hw, WriterPc.held] using he
  all_goals
    exact ⟨hi.fifo, hi.batch_le, hi.sent_shape,
      fun hb => hi.before_info (by revert hb; simp [hpc, HandlePc.beforeInfo]),
      fun hb => hi.info_sent (by revert hb; simp [hpc])⟩

/-- A statement of a pump after the server info: it leaves `HandleWebSocket` alone and writes at
most one frame that a pump may write. -/
theorem QueueInv.of_pump (hi : QueueInv s) (hne : s.sent ≠ []) (hh : s'.handle = s.handle)
    (hinfo : s'.info = s.info)
    (hsent : s'.sent = s.sent ∨ ∃ e : Tid × Frame,
      (e.1 = .writer ∨ e.1 = .reader ∧ (e.2 = .pong ∨ e.2 = .close)) ∧ s'.sent = s.sent ++ [e])
    (hfifo : ∃ lost : List Json, (lost = [] ∨ s'.writer.exited = true) ∧
      s'.chan.accepted.map Subtype.val =
        writtenPieces s'.sent ++ (lost ++ s'.writer.held ++ s'.chan.queue).map Subtype.val)
    (hbatch : ∀ m more n, s'.writer = .batch m more n → n ≤ s'.chan.queue.length) :
    QueueInv s' := by
  have hne' : s'.sent ≠ [] := by rcases hsent with h | ⟨e, -, h⟩ <;> simp [h, hne]
  refine ⟨hfifo, hbatch, ?_, fun hb => absurd (hi.before_info (hh ▸ hb)) hne, fun _ => hne'⟩
  rcases hsent with h | ⟨e, he, h⟩
  · exact h ▸ hinfo ▸ hi.sent_shape
  · exact .inr (h ▸ hinfo ▸ sent_shape_append hne hi.sent_shape he)

/-- The frame `writePump` builds is lost with it when it exits: what it held joins `lost`. -/
theorem fifo_exit {lost : List Json}
    (he : s.chan.accepted.map Subtype.val =
      writtenPieces s.sent ++ (lost ++ s.writer.held ++ s.chan.queue).map Subtype.val)
    (hsent : writtenPieces s'.sent = writtenPieces s.sent) (hq : s'.chan = s.chan)
    (hexit : s'.writer.exited = true) (hheld : s'.writer.held = []) :
    ∃ lost : List Json, (lost = [] ∨ s'.writer.exited = true) ∧
      s'.chan.accepted.map Subtype.val =
        writtenPieces s'.sent ++ (lost ++ s'.writer.held ++ s'.chan.queue).map Subtype.val :=
  ⟨lost ++ s.writer.held, .inr hexit, by rw [hsent, hq, hheld, he]; simp⟩

/-- `writePump`'s statements keep the invariant. -/
theorem queueInv_writerStep {k : WriterCase} (hi : QueueInv s) (h : writerStep s k = some s') :
    QueueInv s' := by
  have hidle : s.writer ≠ .idle := fun hw => by simp [writerStep, hw] at h
  have hne := hi.info_sent (.inl hidle)
  obtain ⟨lost, hl, he⟩ := hi.fifo
  have hrun : ∀ {pc : WriterPc}, s.writer = pc → pc.exited = false → lost = [] :=
    fun hpc hx => hl.resolve_right (by simp [hpc, hx])
  cases hpc : s.writer <;> simp only [writerStep, hpc] at h <;> (try split at h) <;>
    (try split at h) <;> (try split at h) <;> cases h
  case select.h_2.h_1.refl m q hq =>
    refine hi.of_pump hne rfl rfl (.inl rfl)
      ⟨lost, .inl (hrun hpc rfl), by simp [he, hpc, hq, WriterPc.held, hrun hpc rfl]⟩
      fun _ _ _ h => by cases h
  case select.h_2.h_2.isTrue.refl hq hc =>
    refine hi.of_pump hne rfl rfl ?_ (fifo_exit he ?_ rfl rfl rfl) fun _ _ _ h => by cases h
    all_goals
      unfold State.sendIgnoringError
      split
    · exact .inr ⟨_, .inl rfl, rfl⟩
    · exact .inl rfl
    · exact writtenPieces_control rfl
    · rfl
  case select.h_3.isTrue.refl hok =>
    refine hi.of_pump hne rfl rfl (.inr ⟨_, .inl rfl, rfl⟩)
      ⟨lost, .inl (hrun hpc rfl), by simp [he, writtenPieces_control, Frame.pieces, hpc]⟩
      fun _ _ _ h => by cases h
  case nextWriter.h_1.isTrue.refl m hok =>
    refine hi.of_pump hne rfl rfl (.inl rfl)
      ⟨lost, .inl (hrun hpc rfl), by simp [he, hpc, WriterPc.held]⟩ fun _ _ _ h => by cases h
  case countQueued.refl m =>
    refine hi.of_pump hne rfl rfl (.inl rfl)
      ⟨lost, .inl (hrun hpc rfl), by simp [he, hpc, WriterPc.held]⟩
      fun _ _ _ h => by cases h; exact le_refl _
  case batch.h_1.refl m more _ =>
    refine hi.of_pump hne rfl rfl (.inl rfl)
      ⟨lost, .inl (hrun hpc rfl), by simp [he, hpc, WriterPc.held]⟩ fun _ _ _ h => by cases h
  case batch.h_2.refl m more _ _ n x q hq =>
    have hle := hi.batch_le _ _ _ hpc
    refine hi.of_pump hne rfl rfl (.inl rfl)
      ⟨lost, .inl (hrun hpc rfl), by simp [he, hpc, hq, WriterPc.held]⟩ fun _ _ _ h => ?_
    cases h
    simp only [hq, List.length_cons] at hle
    show n ≤ q.length
    omega
  case batch.h_3.isTrue.refl m more _ _ n hq _ =>
    have hle := hi.batch_le _ _ _ hpc
    simp [hq] at hle
  case closeWriter.h_1.isTrue.refl m more hok =>
    refine hi.of_pump hne rfl rfl (.inr ⟨_, .inl rfl, rfl⟩)
      ⟨[], .inl rfl, ?_⟩ fun _ _ _ h => by cases h
    rw [writtenPieces_append hne, pieces_frameBytes, he, hrun hpc rfl]
    simp [hpc, WriterPc.held]
  all_goals
    exact hi.of_pump hne rfl rfl (.inl rfl) (fifo_exit he rfl rfl rfl rfl)
      fun _ _ _ h => by cases h

/-- `readPump`'s statements keep the invariant: it writes only control frames, which carry no
payload. -/
theorem queueInv_readerStep {r : ReadResult} (hi : QueueInv s) (h : readerStep s r = some s') :
    QueueInv s' := by
  have hidle : s.reader ≠ .idle := fun hr => by simp [readerStep, hr] at h
  obtain ⟨lost, hl, he⟩ := hi.fifo
  have hsent := (readerStep_sent h).2
  have hp : writtenPieces s'.sent = writtenPieces s.sent := by
    rcases hsent with hs | ⟨-, hs | ⟨hs, -⟩⟩ <;> rw [hs]
    all_goals exact writtenPieces_control rfl
  rw [readerStep_frame h]
  refine hi.of_pump (hi.info_sent (.inr (.inl hidle))) rfl rfl ?_
    ⟨lost, hl, by rw [hp]; exact he⟩ hi.batch_le
  rcases hsent with hs | ⟨-, hs | ⟨hs, -⟩⟩
  · exact .inl hs
  · exact .inr ⟨_, .inr ⟨rfl, .inl rfl⟩, hs⟩
  · exact .inr ⟨_, .inr ⟨rfl, .inr rfl⟩, hs⟩

/-- Every transition keeps the invariant. -/
theorem queueInv_step {a : Action} (hs : Started s) (hi : QueueInv s) (h : step s a = some s') :
    QueueInv s' := by
  have same : ∀ {s' : State}, s'.sent = s.sent → s'.writer = s.writer →
      s'.reader = s.reader → s'.handle = s.handle →
      s'.info = s.info → s'.chan.queue = s.chan.queue → s'.chan.accepted = s.chan.accepted →
      QueueInv s' := fun h1 h2 h3 h4 h5 h6 h7 => hi.enqueue h1 h2 (.inl h3) h4 h5 (.inl ⟨h6, h7⟩)
  cases a with
  | handle ok => exact queueInv_handleStep hs hi h
  | writer k => exact queueInv_writerStep hi h
  | reader r => exact queueInv_readerStep hi h
  | readerSend k =>
    change readerSendStep s k = some s' at h
    cases hpc : s.reader <;> simp only [readerSendStep, hpc] at h <;> (try split at h) <;>
      cases h <;> exact hi.enqueue rfl rfl (.inr (by simp [hpc])) rfl rfl
        ((sendStep_chan ‹_›).imp_right (⟨_, ·⟩))
  | sender i k =>
    simp only [step] at h
    split at h <;> (try split at h) <;> cases h
    exact hi.enqueue rfl rfl (.inl rfl) rfl rfl ((sendStep_chan ‹_›).imp_right (⟨_, ·⟩))
  | broadcast data =>
    change broadcastStep s data = some s' at h
    cases hpc : s.broadcast <;> simp only [broadcastStep, hpc] at h <;> (try split at h) <;>
      (try split at h) <;> cases h
    case range.isTrue.h_1.refl d _ ch hch =>
      exact hi.enqueue rfl rfl (.inl rfl) rfl rfl ((Chan.send_cases hch).imp_right (⟨_, ·⟩))
    all_goals exact same rfl rfl rfl rfl rfl rfl rfl
  | shutdown => rw [shutdownStep_frame h]; exact same rfl rfl rfl rfl rfl rfl rfl
  | closer => rw [closerStep_frame h]; exact same rfl rfl rfl rfl rfl rfl rfl
  | emit data => rw [emitStep_frame h]; exact same rfl rfl rfl rfl rfl rfl rfl
  | cancelParent => cases h; exact same rfl rfl rfl rfl rfl rfl rfl

end Steps

/-- In every reachable state the socket's log and the channel's accounting hold. -/
theorem Reachable.queueInv {s : State} (h : Reachable s) : QueueInv s :=
  (Reachable.induction (P := fun s => Started s ∧ QueueInv s)
    (fun info => ⟨started_init info, queueInv_init info⟩)
    (fun _ _ _ _ hp h => ⟨started_step hp.1 (step_of_step? h),
      queueInv_step hp.1 hp.2 (step_of_step? h)⟩) h).2

/-- What the socket carries, in every reachable state: nothing, or first the server info written
by `HandleWebSocket`, and afterwards only frames written by `writePump` and the pong and close
replies gorilla writes from `readPump`, so every text frame after the first is `writePump`'s.
Split at `'\n'`, the text frames after the first are a prefix of the payloads `c.send` accepted,
in the order it accepted them; what is missing is what `writePump` lost with the frame it was
building when it exited (nothing while it runs), the frame it is building, and the buffer. -/
theorem sent_fifo {s : State} (h : Reachable s) :
    (s.sent = [] ∨
      ∃ rest, s.sent = (.handle, .text s.info.val) :: rest ∧
        ∀ e ∈ rest, e.1 = .writer ∨ e.1 = .reader ∧ (e.2 = .pong ∨ e.2 = .close)) ∧
    writtenPieces s.sent <+: s.chan.accepted.map Subtype.val ∧
    ∃ lost : List Json, (lost = [] ∨ s.writer.exited = true) ∧
      s.chan.accepted.map Subtype.val =
        writtenPieces s.sent ++ (lost ++ s.writer.held ++ s.chan.queue).map Subtype.val := by
  obtain ⟨fifo, -, shape, -, -⟩ := h.queueInv
  obtain ⟨lost, hl, he⟩ := fifo
  exact ⟨shape, ⟨_, he.symm⟩, lost, hl, he⟩

/-- The handshake, then one event delivered: `EmitEvent` starts `handleEvent`, its
`sendMessage` enqueues, and `writePump` writes it as a frame of its own. -/
def oneEvent (data : Json) : List Action :=
  handshake ++ [.emit data, .sender 0 .proceed, .sender 0 .send, .writer .recv] ++
    List.replicate 4 (.writer (.io true))

/-- One event after the handshake: the socket holds the server info, then the event. -/
theorem sent_fifo_oneEvent :
    ∃ s, run (init emptyObject) (oneEvent emptyObject) = some s ∧ s.sent.length = 2 ∧
      ((s.sent = [] ∨
        ∃ rest, s.sent = (.handle, .text s.info.val) :: rest ∧
          ∀ e ∈ rest, e.1 = .writer ∨ e.1 = .reader ∧ (e.2 = .pong ∨ e.2 = .close)) ∧
      writtenPieces s.sent <+: s.chan.accepted.map Subtype.val ∧
      ∃ lost : List Json, (lost = [] ∨ s.writer.exited = true) ∧
        s.chan.accepted.map Subtype.val =
          writtenPieces s.sent ++ (lost ++ s.writer.held ++ s.chan.queue).map Subtype.val) :=
  ⟨_, rfl, rfl, sent_fifo ((reachable_init _).of_run
    (show run (init emptyObject) (oneEvent emptyObject) = some _ from rfl))⟩

/-! ## The close message

`writePump` writes a close message when it receives from the closed, empty channel, and
gorilla writes one from `readPump` when the peer closes, a message is too large or the peer
breaks the protocol; each pump leaves its loop right after. After a close message gorilla fails
every write, so nothing follows it on the socket (`close_last`).
-/

/-- Once a close message is on the socket it is the last frame, and the pump that wrote it has
left its loop. -/
structure CloseInv (s : State) : Prop where
  last : ∀ pre t post, s.sent = pre ++ (t, .close) :: post → post = []
  exited : ∀ t, (t, Frame.close) ∈ s.sent →
    t = .writer ∧ s.writer.exited = true ∨ t = .reader ∧ s.reader.exited = true

/-- A write goes out only to a log without a close message. -/
theorem closeSent_of_canWrite {s : State} (h : s.canWrite = true) : closeSent s.sent = false := by
  simp only [State.canWrite, Bool.and_eq_true, Bool.not_eq_true'] at h
  exact h.2

/-- A frame added to a log without a close message leaves any close message last. -/
theorem last_append {sent : List (Tid × Frame)} (h : closeSent sent = false) (e : Tid × Frame) :
    ∀ pre t post, sent ++ [e] = pre ++ (t, .close) :: post → post = [] := by
  intro pre t post heq
  rcases List.eq_nil_or_concat post with rfl | ⟨post, x, rfl⟩
  · rfl
  · rw [List.concat_eq_append, ← List.cons_append, ← List.append_assoc] at heq
    have hsent := (List.append_inj' heq rfl).1
    simp [closeSent, hsent] at h

/-- Before the server info is written, nothing is. -/
theorem closeInv_init (info : Json) : CloseInv (init info) :=
  ⟨fun pre _ _ h => (by cases pre <;> cases h), fun _ h => (by cases h)⟩

section Steps

variable {s s' : State}

/-- A transition keeps the invariant when it writes only while a write can go out, keeps each
pump that has left its loop out of it, and writes a close message only from a pump that leaves
its loop. -/
theorem CloseInv.of_write (hi : CloseInv s)
    (hw : s.writer.exited = true → s'.writer.exited = true)
    (hr : s.reader.exited = true → s'.reader.exited = true)
    (hsent : s'.sent = s.sent ∨ s.canWrite = true ∧ ∃ e : Tid × Frame, s'.sent = s.sent ++ [e] ∧
      (e.2 = .close → e.1 = .writer ∧ s'.writer.exited = true ∨
        e.1 = .reader ∧ s'.reader.exited = true)) : CloseInv s' := by
  have hold : ∀ t, (t, Frame.close) ∈ s.sent →
      t = .writer ∧ s'.writer.exited = true ∨ t = .reader ∧ s'.reader.exited = true :=
    fun t ht => (hi.exited t ht).imp (And.imp_right hw) (And.imp_right hr)
  rcases hsent with hsent | ⟨hcan, e, hsent, he⟩
  · exact ⟨hsent ▸ hi.last, fun t ht => hold t (hsent ▸ ht)⟩
  · refine ⟨hsent ▸ last_append (closeSent_of_canWrite hcan) e, fun t ht => ?_⟩
    rw [hsent, List.mem_append, List.mem_singleton] at ht
    rcases ht with ht | ht
    · exact hold t ht
    · rw [← ht] at he
      exact he rfl

/-- A transition that touches neither the socket nor the pumps. -/
theorem CloseInv.of_same (hi : CloseInv s) (hsent : s'.sent = s.sent)
    (hw : s'.writer = s.writer) (hr : s'.reader = s.reader) : CloseInv s' :=
  hi.of_write (hw ▸ id) (hr ▸ id) (.inl hsent)

/-- `HandleWebSocket`'s statements keep the invariant: it starts the pumps from `idle`, and the
server info is not a close message. -/
theorem closeInv_handleStep {ok : Bool} (hs : Started s) (hi : CloseInv s)
    (h : handleStep s ok = some s') : CloseInv s' := by
  obtain ⟨hr, hw⟩ := handleStep_pumps hs h
  refine hi.of_write (fun hx => ?_) (fun hx => ?_) ?_
  · rcases hw with hw | ⟨hw, -⟩
    · rwa [hw]
    · simp [hw, WriterPc.exited] at hx
  · rcases hr with hr | ⟨hr, -⟩
    · rwa [hr]
    · simp [hr, ReaderPc.exited] at hx
  · cases hpc : s.handle <;> simp only [handleStep, hpc] at h <;> (try split at h) <;> cases h
    case writeInfo.isTrue.refl hok =>
      refine .inr ⟨hok.2, _, rfl, ?_⟩
      exact nofun
    all_goals exact .inl rfl

/-- Every transition keeps the invariant. -/
theorem closeInv_step {a : Action} (hs : Started s) (hi : CloseInv s) (h : step s a = some s') :
    CloseInv s' := by
  cases a with
  | handle ok => exact closeInv_handleStep hs hi h
  | writer k =>
    obtain ⟨hx, hsent⟩ := writerStep_sent h
    have hr := congrArg State.reader (writerStep_frame h)
    exact hi.of_write hx (hr ▸ id)
      (hsent.imp_right fun ⟨hc, f, hf, hcl⟩ => ⟨hc, _, hf, fun e => .inl ⟨rfl, hcl e⟩⟩)
  | reader r =>
    obtain ⟨hx, hsent⟩ := readerStep_sent h
    have hw := congrArg State.writer (readerStep_frame h)
    refine hi.of_write (hw ▸ id) hx (hsent.imp_right fun ⟨hc, hf⟩ => ⟨hc, ?_⟩)
    rcases hf with hf | ⟨hf, hcl⟩
    · exact ⟨_, hf, nofun⟩
    · exact ⟨_, hf, fun _ => .inr ⟨rfl, hcl⟩⟩
  | readerSend k =>
    have hx : s.reader.exited = false := by
      cases hpc : s.reader <;> simp only [step, readerSendStep, hpc] at h <;> first
        | rfl
        | cases h
    rw [readerSendStep_frame h]
    exact hi.of_write id (fun h => by simp [hx] at h) (.inl rfl)
  | sender i k => rw [senderStep_frame h]; exact hi.of_same rfl rfl rfl
  | broadcast data => rw [broadcastStep_frame h]; exact hi.of_same rfl rfl rfl
  | shutdown => rw [shutdownStep_frame h]; exact hi.of_same rfl rfl rfl
  | closer => rw [closerStep_frame h]; exact hi.of_same rfl rfl rfl
  | emit data => rw [emitStep_frame h]; exact hi.of_same rfl rfl rfl
  | cancelParent => cases h; exact hi.of_same rfl rfl rfl

end Steps

/-- In every reachable state a close message, if written, is the last frame. -/
theorem Reachable.closeInv {s : State} (h : Reachable s) : CloseInv s :=
  (Reachable.induction (P := fun s => Started s ∧ CloseInv s)
    (fun info => ⟨started_init info, closeInv_init info⟩)
    (fun _ _ _ _ hp h => ⟨started_step hp.1 (step_of_step? h),
      closeInv_step hp.1 hp.2 (step_of_step? h)⟩) h).2

/-- The server writes nothing after a close message: in every reachable state a close message on
the socket is the last frame, so there is at most one, and the pump that wrote it has left its
loop: `writePump`, which found `c.send` closed, or `readPump`, whose `ReadMessage` answered the
peer's close message, a message over the limit or a protocol error. -/
theorem close_last {s : State} (h : Reachable s) {pre post : List (Tid × Frame)} {t : Tid}
    (hs : s.sent = pre ++ (t, .close) :: post) :
    post = [] ∧ (t = .writer ∧ s.writer.exited = true ∨ t = .reader ∧ s.reader.exited = true) :=
  ⟨h.closeInv.last pre t post hs, h.closeInv.exited t (by rw [hs]; simp)⟩

/-- The peer closes the connection after the handshake: `readPump`'s `ReadMessage` answers with a
close message and returns its error, and `writePump`'s next ping fails. -/
def peerClose : List Action :=
  handshake ++ [.reader .error, .reader .close, .writer (.tick true)]

/-- After `peerClose` the socket holds the server info, then `readPump`'s close message, and
`writePump` has left its loop without writing. -/
theorem close_last_peerClose :
    ∃ s, run (init emptyObject) peerClose = some s ∧ s.writer = .closing .checkDone ∧
      s.sent = [(.handle, .text emptyObject.val)] ++ (.reader, .close) :: [] ∧
      (([] : List (Tid × Frame)) = [] ∧
        (Tid.reader = .writer ∧ s.writer.exited = true ∨
          Tid.reader = .reader ∧ s.reader.exited = true)) :=
  have hrun : run (init emptyObject) peerClose = some _ := rfl
  ⟨_, hrun, rfl, rfl, close_last ((reachable_init _).of_run hrun) rfl⟩

end MatterServer.Websocket
