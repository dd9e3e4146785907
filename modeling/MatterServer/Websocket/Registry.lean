import MatterServer.Websocket.Model

/-!
# The registry and `close(c.send)`

`close()` deletes the connection from `h.connections` under the write lock before it spawns the
goroutine that closes `c.send`, and `HandleWebSocket` registers the connection before anything can
start a `close()` of it. `BroadcastEvent` sends only to the connections it finds in the registry,
under the read lock. So it never sends on a closed channel, unlike a `sendMessage` that passed its
`ctx.Done` check before the close.

`RegistryInv` says that a registered connection has an open channel, no pending closer, and no
`close()` past its `delete`, and that before the registration nothing has begun to close it. A
statement either adds nothing to the registry and leaves the closers and the channel's state
alone (`RegistryInv.quiet`), or is a statement of `close()` (`RegistryInv.close`, from
`closeStep_registry`), or is the registration or the closer itself. From the invariant, only a
send of `sendMessage` can set the channel's panic (`panicked_step`).
-/

namespace MatterServer.Websocket

/-- The statements of `close()` after its `delete`. -/
def ClosePc.deleted : ClosePc → Bool
  | .unlock | .spawnCloser | .closeConn => true
  | _ => false

/-- Where goroutine `t` is in a `close()` it runs, if it is in one. -/
def State.closing (s : State) : Tid → Option ClosePc
  | .handle => match s.handle with
    | .closing pc => some pc
    | _ => none
  | .reader => match s.reader with
    | .closing pc => some pc
    | _ => none
  | .writer => match s.writer with
    | .closing pc => some pc
    | _ => none
  | .broadcast => match s.broadcast with
    | .closing pc => some pc
    | _ => none
  | .shutdown => match s.shutdown with
    | .closing pc => some pc
    | _ => none

/-- `HandleWebSocket` has not yet put the connection in the registry. -/
def HandlePc.beforeRegister : HandlePc → Bool
  | .subscribe | .lock | .register => true
  | _ => false

/-- The registry holds the connection only while its channel is open and no `close()` of it has
passed its `delete`; before `HandleWebSocket` registers it, nothing has begun to close it. -/
structure RegistryInv (s : State) : Prop where
  registered_open : s.conn.registered = true →
    s.conn.closers = 0 ∧ s.chan.closed = false ∧
      ∀ t pc, s.closing t = some pc → pc.deleted = false
  before_register : s.handle.beforeRegister = true →
    s.conn.registered = false ∧ s.conn.closers = 0 ∧ s.chan.closed = false ∧
      ∀ t, s.closing t = none

/-- What a statement of `close()` does to the registry: `delete` removes the connection and is
the only statement after which the caller is past it, and only the spawning of the closer changes
the count of closers. -/
theorem closeStep_registry {t : Tid} {c c' : Conn} {pc : ClosePc} {n : Option ClosePc}
    (h : closeStep t c pc = some (c', n)) :
    (c'.registered = true → c.registered = true ∧ pc ≠ .delete) ∧
      (c'.closers = c.closers ∨ pc = .spawnCloser) ∧
      ((n.map ClosePc.deleted).getD false = true → pc.deleted = true ∨ pc = .delete) := by
  cases pc <;> simp only [closeStep, Option.some.injEq, Prod.mk.injEq] at h
  case lock =>
    split at h
    · simp only [Option.some.injEq, Prod.mk.injEq] at h
      obtain ⟨rfl, rfl⟩ := h
      exact ⟨fun h => ⟨h, nofun⟩, .inl rfl, by simp [ClosePc.deleted]⟩
    · cases h
  all_goals
    obtain ⟨rfl, rfl⟩ := h
    refine ⟨fun h => by simp_all, by simp, ?_⟩
    (try split) <;> simp [ClosePc.deleted]

/-- After the upgrade, nothing is registered and nothing closes the connection. -/
theorem registryInv_init (info : Json) : RegistryInv (init info) where
  registered_open h := by cases h
  before_register _ := ⟨rfl, rfl, rfl, fun t => by cases t <;> rfl⟩

section Kinds

variable {s s' : State} {t : Tid}

/-- A statement by `t` that adds nothing to the registry, leaves the closers and the channel's
state alone, and either keeps `t` where it is in `close()` or starts a `close()` once the
connection has been registered. -/
theorem RegistryInv.quiet (hi : RegistryInv s)
    (hR : s'.conn.registered = true → s.conn.registered = true)
    (hK : s'.conn.closers = s.conn.closers) (hC : s'.chan.closed = s.chan.closed)
    (hB : s'.handle.beforeRegister = s.handle.beforeRegister)
    (ho : ∀ u, u ≠ t → s'.closing u = s.closing u)
    (ht : s'.closing t = s.closing t ∨
      s'.closing t = some .checkDone ∧ s.handle.beforeRegister = false) : RegistryInv s' := by
  have hcl : ∀ u, s'.closing u = s.closing u ∨
      s'.closing u = some .checkDone ∧ s.handle.beforeRegister = false := fun u => by
    by_cases hu : u = t
    · exact hu ▸ ht
    · exact .inl (ho u hu)
  constructor
  · intro hr
    obtain ⟨hk, hc, hd⟩ := hi.registered_open (hR hr)
    refine ⟨hK ▸ hk, hC ▸ hc, fun u pc hu => ?_⟩
    rcases hcl u with h | ⟨h, -⟩
    · exact hd u pc (h ▸ hu)
    · rw [h] at hu
      cases hu
      rfl
  · intro hb
    obtain ⟨hr, hk, hc, hn⟩ := hi.before_register (hB ▸ hb)
    refine ⟨Bool.eq_false_iff.mpr fun h => by simp [hR h] at hr, hK ▸ hk, hC ▸ hc,
      fun u => ?_⟩
    rcases hcl u with h | ⟨-, h⟩
    · rw [h, hn]
    · rw [← hB, hb] at h
      cases h

/-- A statement of a `close()` run by `t`. -/
theorem RegistryInv.close {pc : ClosePc} {c' : Conn} {n : Option ClosePc} (hi : RegistryInv s)
    (hpc : s.closing t = some pc) (h : closeStep t s.conn pc = some (c', n))
    (hconn : s'.conn = c') (hC : s'.chan.closed = s.chan.closed)
    (hB : s'.handle.beforeRegister = s.handle.beforeRegister)
    (ho : ∀ u, u ≠ t → s'.closing u = s.closing u) (ht : s'.closing t = n) :
    RegistryInv s' := by
  obtain ⟨hR, hK, hN⟩ := closeStep_registry h
  subst hconn
  constructor
  · intro hr
    obtain ⟨hr, hdel⟩ := hR hr
    obtain ⟨hk, hc, hd⟩ := hi.registered_open hr
    have hpd := hd t pc hpc
    refine ⟨?_, hC ▸ hc, fun u p hu => ?_⟩
    · rcases hK with hK | rfl
      · exact hK ▸ hk
      · simp [ClosePc.deleted] at hpd
    · by_cases hut : u = t
      · subst hut
        rw [ht] at hu
        subst hu
        cases hp : p.deleted
        · rfl
        · rcases hN (by simp [hp]) with h' | h'
          · rw [hpd] at h'; cases h'
          · exact absurd h' hdel
      · exact hd u p ((ho u hut) ▸ hu)
  · intro hb
    obtain ⟨-, -, -, hn⟩ := hi.before_register (hB ▸ hb)
    rw [hn t] at hpc
    cases hpc

end Kinds

/-- Once `readPump` runs, the registration is past. -/
theorem beforeRegister_false_of_reader {s : State} (hs : Started s) (hr : s.reader ≠ .idle) :
    s.handle.beforeRegister = false := by
  have h := hs.past_reader hr
  cases hpc : s.handle <;> simp_all [HandlePc.beforeReader, HandlePc.beforeWriter,
    HandlePc.beforeRegister]

/-- Once `writePump` runs, the registration is past. -/
theorem beforeRegister_false_of_writer {s : State} (hs : Started s) (hw : s.writer ≠ .idle) :
    s.handle.beforeRegister = false := by
  have h := hs.past_writer hw
  cases hpc : s.handle <;> simp_all [HandlePc.beforeWriter, HandlePc.beforeRegister]

/-- A registered connection is past its registration. -/
theorem RegistryInv.beforeRegister_false {s : State} (hi : RegistryInv s)
    (hr : s.conn.registered = true) : s.handle.beforeRegister = false :=
  Bool.eq_false_iff.mpr fun hb => by simp [(hi.before_register hb).1] at hr

/-- A send leaves the channel open or closed as it was, and panics only on a closed channel. -/
theorem Chan.send_closed {ch ch' : Chan} {d : Json} (h : ch.send d = some ch') :
    ch'.closed = ch.closed ∧ (ch'.panicked = ch.panicked ∨ ch.closed = true) := by
  unfold Chan.send at h
  split at h
  · cases h; exact ⟨rfl, .inr ‹_›⟩
  · split at h
    · cases h; exact ⟨rfl, .inl rfl⟩
    · cases h

/-- A statement of `sendMessage` changes the channel only by its send. -/
theorem sendStep_closed {ctxDone : Bool} {ch ch' : Chan} {d : Json} {pc pc' : SendPc}
    {k : SendCase} (h : sendStep ctxDone ch d pc k = some (ch', pc')) :
    ch'.closed = ch.closed ∧ (ch'.panicked = ch.panicked ∨ ch.closed = true) := by
  cases pc <;> cases k <;> simp only [sendStep] at h <;> (try split at h) <;> cases h
  case select.send.h_1 ch'' hs => exact Chan.send_closed hs
  all_goals exact ⟨rfl, .inl rfl⟩

section Steps

variable {s s' : State}

/-- A goroutine's place in `close()` moves only with its own statements: it reads only the
goroutine's place, and a pump that `HandleWebSocket` starts is outside `close()` before and
after. -/
theorem closing_step {a : Action} (hs : Started s) (h : step s a = some s') {u : Tid}
    (hu : a.tid ≠ some u) : s'.closing u = s.closing u := by
  obtain ⟨hh, hr, hw, hb, hd⟩ := place_step hs h
  cases u
  · simp only [State.closing, hh hu]
  · rcases hr hu with e | ⟨e, e'⟩
    · simp only [State.closing, e]
    · simp only [State.closing, e, e']
  · rcases hw hu with e | ⟨e, e'⟩
    · simp only [State.closing, e]
    · simp only [State.closing, e, e']
  · simp only [State.closing, hb hu]
  · simp only [State.closing, hd hu]

/-- `HandleWebSocket`'s statements keep the invariant; its registration needs it to hold before. -/
theorem registryInv_handleStep {ok : Bool} (hi : RegistryInv s) (h : handleStep s ok = some s')
    (ho : ∀ u, u ≠ .handle → s'.closing u = s.closing u) : RegistryInv s' := by
  cases hpc : s.handle <;> simp only [handleStep, hpc] at h <;> (try split at h) <;> cases h
  case register.refl =>
    obtain ⟨-, hk, hc, hn⟩ := hi.before_register (by simp [hpc, HandlePc.beforeRegister])
    refine ⟨fun _ => ⟨hk, hc, fun u pc hu => ?_⟩,
      fun hb => by simp [HandlePc.beforeRegister] at hb⟩
    by_cases hut : u = .handle
    · subst hut
      simp [State.closing] at hu
    · rw [ho u hut, hn u] at hu
      cases hu
  case closing.h_1.refl | closing.h_2.refl =>
    rename_i hc
    exact hi.close (t := .handle) (by simp [State.closing, hpc]) hc rfl rfl
      (by simp [hpc, HandlePc.beforeRegister]) ho rfl
  case writeInfo.isFalse.refl =>
    exact hi.quiet (t := .handle) id rfl rfl (by simp [hpc, HandlePc.beforeRegister]) ho
      (.inr ⟨by simp [State.closing], by simp [hpc, HandlePc.beforeRegister]⟩)
  all_goals
    exact hi.quiet (t := .handle) id rfl rfl (by simp [hpc, HandlePc.beforeRegister])
      ho (.inl (by simp [State.closing, hpc]))

/-- `readPump`'s statements keep the invariant. -/
theorem registryInv_readerStep {r : ReadResult} (hs : Started s) (hi : RegistryInv s)
    (h : readerStep s r = some s') (ho : ∀ u, u ≠ .reader → s'.closing u = s.closing u) :
    RegistryInv s' := by
  cases hpc : s.reader <;> simp only [readerStep, hpc] at h <;> (try split at h) <;>
    (try split at h) <;> cases h
  case closing.h_1.refl | closing.h_2.refl =>
    rename_i hc
    exact hi.close (t := .reader) (by simp [State.closing, hpc]) hc rfl rfl rfl
      ho rfl
  all_goals
    have hb := beforeRegister_false_of_reader hs (by simp [hpc])
    refine hi.quiet (t := .reader) id rfl rfl rfl ho ?_
    by_cases hd : s.conn.ctxDone = true <;> simp [State.closing, hpc, hd, hb]

/-- The `sendError` of `readPump` keeps the invariant. -/
theorem registryInv_readerSendStep {k : SendCase} (hi : RegistryInv s)
    (h : readerSendStep s k = some s') (ho : ∀ u, u ≠ .reader → s'.closing u = s.closing u) :
    RegistryInv s' := by
  cases hpc : s.reader <;> simp only [readerSendStep, hpc] at h <;> (try split at h) <;> cases h
  all_goals
    rename_i hst
    exact hi.quiet (t := .reader) id rfl (sendStep_closed hst).1 rfl
      ho (.inl (by simp [State.closing, hpc]))

/-- `writePump`'s statements keep the invariant. -/
theorem registryInv_writerStep {k : WriterCase} (hs : Started s) (hi : RegistryInv s)
    (h : writerStep s k = some s') (ho : ∀ u, u ≠ .writer → s'.closing u = s.closing u) :
    RegistryInv s' := by
  cases hpc : s.writer <;> simp only [writerStep, hpc] at h <;> (try split at h) <;>
    (try split at h) <;> (try split at h) <;> cases h
  case closing.h_1.refl | closing.h_2.refl =>
    rename_i hc
    exact hi.close (t := .writer) (by simp [State.closing, hpc]) hc rfl rfl rfl
      ho rfl
  all_goals
    have hb := beforeRegister_false_of_writer hs (by simp [hpc])
    exact hi.quiet (t := .writer) id rfl rfl rfl ho
      (by simp [State.closing, hpc, hb])

/-- `BroadcastEvent`'s statements keep the invariant. -/
theorem registryInv_broadcastStep {data : Json} (hi : RegistryInv s)
    (h : broadcastStep s data = some s') (ho : ∀ u, u ≠ .broadcast → s'.closing u = s.closing u) :
    RegistryInv s' := by
  cases hpc : s.broadcast <;> simp only [broadcastStep, hpc] at h <;> (try split at h) <;>
    (try split at h) <;> cases h
  case range.isTrue.h_1.refl d hr ch hch =>
    exact hi.quiet (t := .broadcast) id rfl (Chan.send_closed hch).1 rfl
      ho (.inl (by simp [State.closing, hpc]))
  case range.isTrue.h_2.refl =>
    exact hi.quiet (t := .broadcast) id rfl rfl rfl ho
      (.inr ⟨by simp [State.closing], hi.beforeRegister_false ‹_›⟩)
  case closing.h_1.refl | closing.h_2.refl =>
    rename_i hc
    exact hi.close (t := .broadcast) (by simp [State.closing, hpc]) hc rfl rfl rfl
      ho rfl
  all_goals
    exact hi.quiet (t := .broadcast) id rfl rfl rfl ho
      (.inl (by simp [State.closing, hpc]))

/-- `Shutdown`'s statements keep the invariant. -/
theorem registryInv_shutdownStep (hi : RegistryInv s) (h : shutdownStep s = some s')
    (ho : ∀ u, u ≠ .shutdown → s'.closing u = s.closing u) : RegistryInv s' := by
  cases hpc : s.shutdown <;> simp only [shutdownStep, hpc] at h <;> (try split at h) <;> cases h
  case closing.h_1.refl | closing.h_2.refl =>
    rename_i hc
    exact hi.close (t := .shutdown) (by simp [State.closing, hpc]) hc rfl rfl rfl
      ho rfl
  case range.isTrue.refl =>
    exact hi.quiet (t := .shutdown) id rfl rfl rfl ho
      (.inr ⟨by simp [State.closing], hi.beforeRegister_false ‹_›⟩)
  case reset.refl =>
    exact hi.quiet (t := .shutdown) (fun h => by simp at h) rfl rfl rfl
      ho (.inl (by simp [State.closing, hpc]))
  all_goals
    exact hi.quiet (t := .shutdown) id rfl rfl rfl ho
      (.inl (by simp [State.closing, hpc]))

/-- `close(c.send)` runs only once the connection has left the registry. -/
theorem registryInv_closerStep (hi : RegistryInv s) (h : closerStep s = some s') :
    RegistryInv s' := by
  unfold closerStep at h
  split at h
  · cases h
  · rename_i hk
    cases h
    refine ⟨fun hr => absurd (hi.registered_open hr).1 hk, fun hb => ?_⟩
    exact absurd (hi.before_register hb).2.1 hk

/-- Every transition keeps the invariant. -/
theorem registryInv_step {a : Action} (hs : Started s) (hi : RegistryInv s)
    (h : step s a = some s') : RegistryInv s' := by
  have ho : ∀ u, a.tid ≠ some u → s'.closing u = s.closing u := fun _ hu => closing_step hs h hu
  cases a with
  | handle ok => exact registryInv_handleStep hi h fun u hu => ho u (Action.tid_ne rfl hu)
  | reader r => exact registryInv_readerStep hs hi h fun u hu => ho u (Action.tid_ne rfl hu)
  | readerSend k => exact registryInv_readerSendStep hi h fun u hu => ho u (Action.tid_ne rfl hu)
  | writer k => exact registryInv_writerStep hs hi h fun u hu => ho u (Action.tid_ne rfl hu)
  | broadcast data =>
    exact registryInv_broadcastStep hi h fun u hu => ho u (Action.tid_ne rfl hu)
  | shutdown => exact registryInv_shutdownStep hi h fun u hu => ho u (Action.tid_ne rfl hu)
  | closer => exact registryInv_closerStep hi h
  | sender i k =>
    simp only [step] at h
    split at h <;> (try split at h) <;> cases h
    rename_i hst
    exact hi.quiet (t := .handle) id rfl (sendStep_closed hst).1 rfl (fun u _ => ho u nofun)
      (.inl rfl)
  | emit data =>
    rw [emitStep_frame h]
    exact hi.quiet (t := .handle) id rfl rfl rfl (fun u _ => rfl) (.inl rfl)
  | cancelParent =>
    cases h
    exact hi.quiet (t := .handle) id rfl rfl rfl (fun u _ => rfl) (.inl rfl)

/-- Only a send panics, and `BroadcastEvent` sends only to a registered connection, whose channel
the invariant says is open. -/
theorem panicked_step {a : Action} (hi : RegistryInv s) (h : step s a = some s')
    (hs : ∀ i k, a ≠ .sender i k) (hr : ∀ k, a ≠ .readerSend k) :
    s'.chan.panicked = s.chan.panicked := by
  cases a with
  | handle ok => rw [handleStep_frame h]
  | reader r => rw [readerStep_frame h]
  | writer k => rw [writerStep_frame h]
  | broadcast data =>
    change broadcastStep s data = some s' at h
    cases hpc : s.broadcast <;> simp only [broadcastStep, hpc] at h <;> (try split at h) <;>
      (try split at h) <;> cases h
    case range.isTrue.h_1.refl =>
      rename_i hreg _ _ hch
      have hopen := (hi.registered_open hreg).2.1
      exact (Chan.send_closed hch).2.resolve_right (by simp [hopen])
    all_goals rfl
  | shutdown => rw [shutdownStep_frame h]
  | closer => rw [closerStep_frame h]
  | emit data => rw [emitStep_frame h]
  | cancelParent => cases h; rfl
  | sender i k => exact absurd rfl (hs i k)
  | readerSend k => exact absurd rfl (hr k)

end Steps

/-- In every reachable state the pumps have started once and the registry invariant holds. -/
theorem Reachable.registryInv {s : State} (h : Reachable s) : Started s ∧ RegistryInv s :=
  Reachable.induction (P := fun s => Started s ∧ RegistryInv s)
    (fun info => ⟨started_init info, registryInv_init info⟩)
    (fun _ _ _ _ hp h => ⟨started_step hp.1 (step_of_step? h),
      registryInv_step hp.1 hp.2 (step_of_step? h)⟩) h

/-- The registry never holds a connection whose channel `close()` has closed or is about to
close, so `BroadcastEvent`, which sends only to registered connections under the read lock,
never sends on a closed channel: in every reachable state, a registered connection has an open
channel and no pending closer, and a transition that panics is a `sendMessage`'s send. -/
theorem panic_only_in_sendMessage {s : State} (h : Reachable s) :
    (s.conn.registered = true → s.chan.closed = false ∧ s.conn.closers = 0) ∧
      ∀ a s', step? s a = some s' → s'.chan.panicked = true →
        (∃ i k, a = .sender i k) ∨ ∃ k, a = .readerSend k := by
  obtain ⟨-, hi⟩ := h.registryInv
  refine ⟨fun hr => ⟨(hi.registered_open hr).2.1, (hi.registered_open hr).1⟩,
    fun a s' hstep hp => ?_⟩
  by_contra hne
  push_neg at hne
  have hsame := panicked_step hi (step_of_step? hstep) hne.1 hne.2
  simp [hp, running_of_step? hstep] at hsame

/-- After the handshake the connection is registered with an open channel. -/
theorem panic_only_in_sendMessage_handshake :
    ∃ s, run (init emptyObject) handshake = some s ∧
      ((s.conn.registered = true → s.chan.closed = false ∧ s.conn.closers = 0) ∧
        ∀ a s', step? s a = some s' → s'.chan.panicked = true →
          (∃ i k, a = .sender i k) ∨ ∃ k, a = .readerSend k) :=
  ⟨_, rfl, panic_only_in_sendMessage ((reachable_init _).of_run
    (show run (init emptyObject) handshake = some _ from rfl))⟩

end MatterServer.Websocket
