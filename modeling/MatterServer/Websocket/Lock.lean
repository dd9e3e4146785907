import MatterServer.Websocket.Model

/-!
# `connectionsMu`: who holds it, and the `Shutdown` deadlock

Which goroutine is between its `Lock` and `Unlock` of `connectionsMu` is a function of the
program counters (`State.locked`): `HandleWebSocket` around its `connections[connID] = client`,
`close()` around its `delete`, and `Shutdown` over its whole loop and the reset of the map.
`BroadcastEvent` holds the read lock over its loop (`BroadcastPc.rlocked`).

`LockInv` says that the mutex records exactly these holders. Every transition keeps it
(`lockInv_step`): a statement either takes the lock when it is free (`LockInv.acquire`), releases
the lock its goroutine holds (`LockInv.release`), or leaves the mutex and every goroutine's status
alone (`LockInv.neutral`); `closeStep_cases` sorts the statements of `close()` into these. So the
write lock has one holder at a time.

`Shutdown` calls `close()` while it holds the write lock, and `close()` asks for it again. Go's
mutexes are not reentrant, and `LockInv` says no other goroutine holds the lock to release it:
once `Shutdown` reaches that `Lock`, no schedule moves it (`shutdown_stays_blocked`).
`BroadcastEvent` is in the same position under its read lock (`broadcast_stays_blocked`): when
the connection's buffer is full and its context live it calls `close()` from inside its loop, and
a schedule reaches that point (`broadcast_deadlock`).
-/

namespace MatterServer.Websocket

/-- The statements of `close()` between its `Lock` and its `Unlock`. -/
def ClosePc.locked : ClosePc → Bool
  | .delete | .unlock => true
  | _ => false

/-- `HandleWebSocket` holds the write lock around the registration, and inside `close()`. -/
def HandlePc.locked : HandlePc → Bool
  | .register | .unlock => true
  | .closing pc => pc.locked
  | _ => false

/-- `readPump` holds the write lock only inside `close()`. -/
def ReaderPc.locked : ReaderPc → Bool
  | .closing pc => pc.locked
  | _ => false

/-- `writePump` holds the write lock only inside `close()`. -/
def WriterPc.locked : WriterPc → Bool
  | .closing pc => pc.locked
  | _ => false

/-- `BroadcastEvent` would hold the write lock only inside `close()`. -/
def BroadcastPc.locked : BroadcastPc → Bool
  | .closing pc => pc.locked
  | _ => false

/-- `BroadcastEvent` holds the read lock over its loop. -/
def BroadcastPc.rlocked : BroadcastPc → Bool
  | .range _ | .closing _ | .runlock => true
  | _ => false

/-- `Shutdown` holds the write lock from its `Lock` to its deferred `Unlock`. -/
def ShutdownPc.locked : ShutdownPc → Bool
  | .range | .closing _ | .reset | .unlock => true
  | _ => false

/-- Whether goroutine `t` is between a `Lock` and its `Unlock`. -/
def State.locked (s : State) : Tid → Bool
  | .handle => s.handle.locked
  | .reader => s.reader.locked
  | .writer => s.writer.locked
  | .broadcast => s.broadcast.locked
  | .shutdown => s.shutdown.locked

/-- The mutex records its holders: the write lock's holder is the goroutine between a `Lock` and
its `Unlock`, the read count is one while `BroadcastEvent` ranges, and the `close()` that
`Shutdown` calls has not passed its `Lock`. -/
structure LockInv (s : State) : Prop where
  writer_iff : ∀ t, s.conn.mu.writer = some t ↔ s.locked t = true
  readers_eq : s.conn.mu.readers = if s.broadcast.rlocked then 1 else 0
  shutdown_nested : ∀ pc, s.shutdown = .closing pc → pc.locked = false

/-- Before anything runs, nobody holds the mutex. -/
theorem lockInv_init (info : Json) : LockInv (init info) where
  writer_iff t := by cases t <;> simp [init, State.locked, HandlePc.locked, ReaderPc.locked,
    WriterPc.locked, BroadcastPc.locked, ShutdownPc.locked]
  readers_eq := rfl
  shutdown_nested _ h := by cases h

/-! ## Three kinds of statement -/

section Kinds

variable {s s' : State} {t : Tid}

/-- Every goroutine but `t` has the same lock status in `s'` as in `s`. -/
def Others (t : Tid) (s s' : State) : Prop := ∀ u, u ≠ t → s'.locked u = s.locked u

/-- The `close()` that `Shutdown` calls has not passed its `Lock`. -/
def Nested (s : State) : Prop := ∀ pc, s.shutdown = .closing pc → pc.locked = false

/-- With no writer recorded, nobody is between a `Lock` and its `Unlock`. -/
theorem LockInv.free (hi : LockInv s) (hw : s.conn.mu.writer = none) (u : Tid) :
    s.locked u = false := by
  cases h : s.locked u
  · rfl
  · simp [(hi.writer_iff u).mpr h] at hw

/-- Two goroutines that both hold the write lock are the same goroutine. -/
theorem LockInv.holder (hi : LockInv s) (ht : s.locked t = true) {u : Tid}
    (hu : s.locked u = true) : u = t := by
  have := (hi.writer_iff u).mpr hu
  rw [(hi.writer_iff t).mpr ht] at this
  exact (Option.some.inj this).symm

/-- A `Lock` that finds the mutex free: `t` becomes its holder. -/
theorem LockInv.acquire (hi : LockInv s) (hmu : s.conn.mu.lock t = some s'.conn.mu)
    (ho : Others t s s') (ht : s'.locked t = true)
    (hr : s'.broadcast.rlocked = s.broadcast.rlocked) (hn : Nested s') : LockInv s' := by
  simp only [RWMutex.lock] at hmu
  split at hmu
  · rename_i hfree
    have hmu : s'.conn.mu = ⟨some t, 0⟩ := (Option.some.inj hmu).symm
    have h0 := hi.readers_eq
    rw [hfree.2] at h0
    refine ⟨fun u => ?_, by rw [hmu, hr]; exact h0, hn⟩
    rw [hmu]
    by_cases hu : u = t
    · subst hu; simp [ht]
    · rw [ho u hu, hi.free hfree.1 u]; simp [Ne.symm hu]
  · cases hmu

/-- An `Unlock` by the holder: no one holds the write lock after it. -/
theorem LockInv.release (hi : LockInv s) (ht : s.locked t = true)
    (hmu : s'.conn.mu = s.conn.mu.unlock) (ho : Others t s s') (ht' : s'.locked t = false)
    (hr : s'.broadcast.rlocked = s.broadcast.rlocked) (hn : Nested s') : LockInv s' := by
  refine ⟨fun u => ?_, by rw [hmu, hr]; exact hi.readers_eq, hn⟩
  rw [hmu]
  simp only [RWMutex.unlock, reduceCtorEq, false_iff, Bool.not_eq_true]
  by_cases hu : u = t
  · subst hu; exact ht'
  · rw [ho u hu]
    cases h : s.locked u
    · rfl
    · exact absurd (hi.holder ht h) hu

/-- A statement that leaves the mutex and every goroutine's lock status alone. -/
theorem LockInv.neutral (hi : LockInv s) (hmu : s'.conn.mu = s.conn.mu)
    (ho : Others t s s') (ht : s'.locked t = s.locked t)
    (hr : s'.broadcast.rlocked = s.broadcast.rlocked) (hn : Nested s') : LockInv s' := by
  have hl : ∀ u, s'.locked u = s.locked u := fun u => by
    by_cases hu : u = t
    · subst hu; exact ht
    · exact ho u hu
  exact ⟨fun u => by rw [hmu, hl]; exact hi.writer_iff u,
    by rw [hmu, hr]; exact hi.readers_eq, hn⟩

/-- `BroadcastEvent`'s `RLock` when no writer holds the mutex. -/
theorem LockInv.rlock (hi : LockInv s) (hmu : s.conn.mu.rlock = some s'.conn.mu)
    (hl : ∀ u, s'.locked u = s.locked u) (hb : s.broadcast.rlocked = false)
    (hb' : s'.broadcast.rlocked = true) (hn : Nested s') : LockInv s' := by
  simp only [RWMutex.rlock] at hmu
  split at hmu
  · rename_i hw
    have hmu : s'.conn.mu = { s.conn.mu with readers := s.conn.mu.readers + 1 } :=
      (Option.some.inj hmu).symm
    have h0 := hi.readers_eq
    rw [hb] at h0
    refine ⟨fun u => ?_, by rw [hmu, hb']; simp [h0], hn⟩
    rw [hmu, hl]
    exact hi.writer_iff u
  · cases hmu

/-- `BroadcastEvent`'s `RUnlock`. -/
theorem LockInv.runlock (hi : LockInv s) (hmu : s'.conn.mu = s.conn.mu.runlock)
    (hl : ∀ u, s'.locked u = s.locked u) (hb : s.broadcast.rlocked = true)
    (hb' : s'.broadcast.rlocked = false) (hn : Nested s') : LockInv s' := by
  have h0 := hi.readers_eq
  rw [hb] at h0
  refine ⟨fun u => ?_, by rw [hmu, hb']; simp [RWMutex.runlock, h0], hn⟩
  rw [hmu, hl]
  exact hi.writer_iff u

/-- `close()`, statement by statement: its `Lock` takes the write lock, its `Unlock` releases it,
and every other statement leaves the mutex alone and keeps the caller in or out of the critical
section. -/
theorem closeStep_cases {c c' : Conn} {pc : ClosePc} {n : Option ClosePc}
    (h : closeStep t c pc = some (c', n)) :
    (pc = .lock ∧ c.mu.lock t = some c'.mu ∧ n = some .delete) ∨
      (pc = .unlock ∧ c'.mu = c.mu.unlock ∧ n = some .spawnCloser) ∨
      (c'.mu = c.mu ∧ pc ≠ .lock ∧ (n.map ClosePc.locked).getD false = pc.locked) := by
  cases pc <;> simp only [closeStep, Option.some.injEq, Prod.mk.injEq] at h
  case lock =>
    split at h
    · rename_i mu hmu
      simp only [Option.some.injEq, Prod.mk.injEq] at h
      exact .inl ⟨rfl, h.1 ▸ hmu, h.2.symm⟩
    · cases h
  case unlock => exact .inr (.inl ⟨rfl, h.1 ▸ rfl, h.2.symm⟩)
  all_goals
    obtain ⟨rfl, rfl⟩ := h
    refine .inr (.inr ⟨rfl, nofun, ?_⟩)
    try split
    all_goals rfl

/-- A statement of `close()` run by `t`, whose status before and after is that of the statement
it is at. -/
theorem LockInv.close {pc : ClosePc} {c' : Conn} {n : Option ClosePc} (hi : LockInv s)
    (h : closeStep t s.conn pc = some (c', n)) (hmu : s'.conn.mu = c'.mu)
    (hbefore : s.locked t = pc.locked) (hafter : s'.locked t = (n.map ClosePc.locked).getD false)
    (ho : Others t s s') (hr : s'.broadcast.rlocked = s.broadcast.rlocked) (hn : Nested s') :
    LockInv s' := by
  rcases closeStep_cases h with ⟨rfl, hl, rfl⟩ | ⟨rfl, hu, rfl⟩ | ⟨hm, -, hl⟩
  · exact hi.acquire (hmu ▸ hl) ho hafter hr hn
  · exact hi.release hbefore (hmu.trans hu) ho hafter hr hn
  · exact hi.neutral (hmu.trans hm) ho (hafter.trans (hl.trans hbefore.symm)) hr hn

end Kinds

/-! ## Every transition keeps the invariant -/

section Steps

variable {s s' : State}

/-- A goroutine's lock status moves only with its own statements: it reads only the goroutine's
place, and a pump that `HandleWebSocket` starts is outside `close()` before and after. -/
theorem locked_step {a : Action} (hs : Started s) (h : step s a = some s') {u : Tid}
    (hu : a.tid ≠ some u) : s'.locked u = s.locked u := by
  obtain ⟨hh, hr, hw, hb, hd⟩ := place_step hs h
  cases u
  · simp only [State.locked, hh hu]
  · rcases hr hu with e | ⟨e, e'⟩
    · simp only [State.locked, e]
    · simp only [State.locked, e, e', ReaderPc.locked]
  · rcases hw hu with e | ⟨e, e'⟩
    · simp only [State.locked, e]
    · simp only [State.locked, e, e', WriterPc.locked]
  · simp only [State.locked, hb hu]
  · simp only [State.locked, hd hu]

/-- A transition of `t` leaves every other goroutine's lock status alone. -/
theorem others_step {a : Action} {t : Tid} (hs : Started s) (h : step s a = some s')
    (ht : a.tid = some t) : Others t s s' :=
  fun _ hu => locked_step hs h (Action.tid_ne ht hu)

/-- `HandleWebSocket`'s statements keep the invariant. -/
theorem lockInv_handleStep {ok : Bool} (hi : LockInv s) (h : handleStep s ok = some s')
    (ho : Others .handle s s') : LockInv s' := by
  cases hpc : s.handle <;> simp only [handleStep, hpc] at h <;> (try split at h) <;> cases h
  case lock.h_1.refl mu hmu =>
    exact hi.acquire hmu ho rfl rfl hi.shutdown_nested
  case unlock.refl =>
    exact hi.release (t := .handle) (by simp [State.locked, hpc, HandlePc.locked]) rfl
      ho rfl rfl hi.shutdown_nested
  case closing.h_1.refl | closing.h_2.refl =>
    rename_i hc
    exact hi.close hc rfl (by simp [State.locked, hpc, HandlePc.locked]) rfl
      ho rfl hi.shutdown_nested
  all_goals
    exact hi.neutral rfl ho
      (by simp [State.locked, hpc, HandlePc.locked, ClosePc.locked]) rfl hi.shutdown_nested

/-- `readPump`'s statements keep the invariant. -/
theorem lockInv_readerStep {r : ReadResult} (hi : LockInv s) (h : readerStep s r = some s')
    (ho : Others .reader s s') : LockInv s' := by
  cases hpc : s.reader <;> simp only [readerStep, hpc] at h <;> (try split at h) <;>
    (try split at h) <;> cases h
  case closing.h_1.refl | closing.h_2.refl =>
    rename_i hc
    exact hi.close hc rfl (by simp [State.locked, hpc, ReaderPc.locked]) rfl
      ho rfl hi.shutdown_nested
  all_goals
    exact hi.neutral rfl ho
      (by simp [State.locked, hpc, ReaderPc.locked, ClosePc.locked]) rfl hi.shutdown_nested

/-- The `sendError` of `readPump` keeps the invariant. -/
theorem lockInv_readerSendStep {k : SendCase} (hi : LockInv s) (h : readerSendStep s k = some s')
    (ho : Others .reader s s') : LockInv s' := by
  cases hpc : s.reader <;> simp only [readerSendStep, hpc] at h <;> (try split at h) <;> cases h
  all_goals
    exact hi.neutral rfl ho
      (by simp [State.locked, hpc, ReaderPc.locked]) rfl hi.shutdown_nested

/-- `writePump`'s statements keep the invariant. -/
theorem lockInv_writerStep {k : WriterCase} (hi : LockInv s) (h : writerStep s k = some s')
    (ho : Others .writer s s') : LockInv s' := by
  cases hpc : s.writer <;> simp only [writerStep, hpc] at h <;> (try split at h) <;>
    (try split at h) <;> (try split at h) <;> cases h
  case closing.h_1.refl | closing.h_2.refl =>
    rename_i hc
    exact hi.close hc rfl (by simp [State.locked, hpc, WriterPc.locked]) rfl
      ho rfl hi.shutdown_nested
  all_goals
    exact hi.neutral rfl ho
      (by simp [State.locked, hpc, WriterPc.locked, ClosePc.locked]) rfl hi.shutdown_nested

/-- `BroadcastEvent`'s statements keep the invariant. -/
theorem lockInv_broadcastStep {data : Json} (hi : LockInv s) (h : broadcastStep s data = some s')
    (ho : Others .broadcast s s') : LockInv s' := by
  cases hpc : s.broadcast <;> simp only [broadcastStep, hpc] at h <;> (try split at h) <;>
    (try split at h) <;> cases h
  case rlock.h_1.refl d mu hmu =>
    exact hi.rlock hmu (fun u => by cases u <;> simp [State.locked, hpc, BroadcastPc.locked])
      (by simp [hpc, BroadcastPc.rlocked]) rfl hi.shutdown_nested
  case runlock.refl =>
    exact hi.runlock rfl (fun u => by cases u <;> simp [State.locked, hpc, BroadcastPc.locked])
      (by simp [hpc, BroadcastPc.rlocked]) rfl hi.shutdown_nested
  case closing.h_1.refl | closing.h_2.refl =>
    rename_i hc
    exact hi.close hc rfl (by simp [State.locked, hpc, BroadcastPc.locked]) rfl
      ho (by simp [hpc, BroadcastPc.rlocked]) hi.shutdown_nested
  all_goals
    exact hi.neutral rfl ho
      (by simp [State.locked, hpc, BroadcastPc.locked, ClosePc.locked])
      (by simp [hpc, BroadcastPc.rlocked]) hi.shutdown_nested

/-- The statements of the `close()` that `Shutdown` calls never take or release the lock: the
`Lock` finds it held by `Shutdown` itself. -/
theorem closeStep_shutdown {pc : ClosePc} {c' : Conn} {n : Option ClosePc} (hi : LockInv s)
    (hpc : s.shutdown = .closing pc) (h : closeStep .shutdown s.conn pc = some (c', n)) :
    c'.mu = s.conn.mu ∧ (n.map ClosePc.locked).getD false = false := by
  have hheld : s.conn.mu.writer = some .shutdown :=
    (hi.writer_iff _).mpr (by simp [State.locked, hpc, ShutdownPc.locked])
  rcases closeStep_cases h with ⟨-, hl, -⟩ | ⟨rfl, -, -⟩ | ⟨hm, -, hl⟩
  · simp [RWMutex.lock, hheld] at hl
  · exact absurd (hi.shutdown_nested _ hpc) (by simp [ClosePc.locked])
  · exact ⟨hm, hl.trans (hi.shutdown_nested _ hpc)⟩

/-- `Shutdown`'s statements keep the invariant. -/
theorem lockInv_shutdownStep (hi : LockInv s) (h : shutdownStep s = some s')
    (ho : Others .shutdown s s') : LockInv s' := by
  cases hpc : s.shutdown <;> simp only [shutdownStep, hpc] at h <;> (try split at h) <;> cases h
  case lock.h_1.refl mu hmu =>
    exact hi.acquire hmu ho rfl rfl
      (fun _ h => by cases h)
  case unlock.refl =>
    exact hi.release (t := .shutdown) (by simp [State.locked, hpc, ShutdownPc.locked]) rfl
      ho rfl rfl (fun _ h => by cases h)
  case closing.h_1.refl pc c n hc =>
    obtain ⟨hm, hn⟩ := closeStep_shutdown hi hpc hc
    exact hi.neutral hm ho
      (by simp [State.locked, hpc, ShutdownPc.locked]) rfl
      (fun _ h => by cases h; simpa using hn)
  case closing.h_2.refl pc c hc =>
    obtain ⟨hm, -⟩ := closeStep_shutdown hi hpc hc
    exact hi.neutral hm ho
      (by simp [State.locked, hpc, ShutdownPc.locked]) rfl (fun _ h => by cases h)
  all_goals
    exact hi.neutral rfl ho
      (by simp [State.locked, hpc, ShutdownPc.locked]) rfl
      (fun _ h => by cases h <;> rfl)

/-- Every transition keeps the invariant. -/
theorem lockInv_step {a : Action} (hs : Started s) (hi : LockInv s) (h : step s a = some s') :
    LockInv s' := by
  cases a with
  | handle ok => exact lockInv_handleStep hi h (others_step hs h rfl)
  | reader r => exact lockInv_readerStep hi h (others_step hs h rfl)
  | readerSend k => exact lockInv_readerSendStep hi h (others_step hs h rfl)
  | writer k => exact lockInv_writerStep hi h (others_step hs h rfl)
  | broadcast data => exact lockInv_broadcastStep hi h (others_step hs h rfl)
  | shutdown => exact lockInv_shutdownStep hi h (others_step hs h rfl)
  | sender i k => rw [senderStep_frame h]; exact ⟨hi.1, hi.2, hi.3⟩
  | closer => rw [closerStep_frame h]; exact ⟨hi.1, hi.2, hi.3⟩
  | emit data => rw [emitStep_frame h]; exact ⟨hi.1, hi.2, hi.3⟩
  | cancelParent => cases h; exact ⟨hi.1, hi.2, hi.3⟩

end Steps

/-- In every reachable state the pumps have started once and the mutex records its holders. -/
theorem Reachable.lockInv {s : State} (h : Reachable s) : Started s ∧ LockInv s :=
  Reachable.induction (P := fun s => Started s ∧ LockInv s)
    (fun info => ⟨started_init info, lockInv_init info⟩)
    (fun _ _ _ _ hp h => ⟨started_step hp.1 (step_of_step? h),
      lockInv_step hp.1 hp.2 (step_of_step? h)⟩) h

/-- Mutual exclusion on `connectionsMu`: in every reachable state, the goroutines between a
`Lock` and its `Unlock` are one goroutine, the one the mutex records as holding it. -/
theorem locked_unique {s : State} (h : Reachable s) {t u : Tid} (ht : s.locked t = true)
    (hu : s.locked u = true) : u = t ∧ s.conn.mu.writer = some t :=
  ⟨h.lockInv.2.holder ht hu, (h.lockInv.2.writer_iff t).mpr ht⟩

/-- After the registration's `Lock`, `HandleWebSocket` is the one holder. -/
theorem locked_unique_handshake :
    ∃ s, run (init emptyObject) [.handle true, .handle true] = some s ∧ s.locked .handle = true ∧
      (.handle = Tid.handle ∧ s.conn.mu.writer = some .handle) :=
  ⟨_, rfl, rfl, locked_unique ((reachable_init _).of_run
    (show run (init emptyObject) [.handle true, .handle true] = some _ from rfl)) rfl rfl⟩

/-! ## The deadlock -/

/-- A goroutine waiting at the `Lock` of a `close()` stays there through every schedule, as long
as no statement of its own can run and no other statement moves it. -/
theorem stays_of_step {P : State → Prop}
    (hstep : ∀ s s' a, Reachable s → P s → step s a = some s' → P s') {s s' : State}
    (h : Reachable s) (hs : P s) {as : List Action} (hr : run s as = some s') : P s' := by
  induction as generalizing s with
  | nil => cases hr; exact hs
  | cons a as ih =>
    simp only [run, Option.bind_eq_some] at hr
    obtain ⟨t, ht, hr⟩ := hr
    exact ih (h.step ht) (hstep s t a h hs (step_of_step? ht)) hr

/-- `Shutdown` at the `Lock` of the `close()` it calls never moves again: it holds the write lock
itself, so its statement is blocked, and no other goroutine's statement moves it. -/
theorem shutdown_stays_blocked {s s' : State} (h : Reachable s) (hs : s.shutdown = .closing .lock)
    {as : List Action} (hr : run s as = some s') : s'.shutdown = .closing .lock := by
  refine stays_of_step (P := fun s => s.shutdown = .closing .lock)
    (fun s s' a h hs hstep => ?_) h hs hr
  by_cases ha : a = .shutdown
  · subst ha
    have hheld : s.conn.mu.writer = some .shutdown :=
      (h.lockInv.2.writer_iff _).mpr (by simp [State.locked, hs, ShutdownPc.locked])
    simp [step, shutdownStep, hs, closeStep, RWMutex.lock, hheld] at hstep
  · exact ((place_step h.lockInv.1 hstep).2.2.2.2 (by cases a <;> simp_all [Action.tid])).trans hs

/-- `HandleWebSocket` registers the connection, then `Shutdown` runs up to the `Lock` of the
`close()` it calls for it. -/
def shutdownWhileOpen : List Action :=
  List.replicate 4 (.handle true) ++ List.replicate 8 .shutdown

/-- `Shutdown` with one registered, open connection never returns: it reaches the `Lock` of the
`close()` it calls while holding the write lock itself, and from there every schedule leaves it
waiting, with the lock held. -/
theorem shutdown_deadlock (info : Json) :
    ∃ s, run (init info) shutdownWhileOpen = some s ∧ s.conn.registered = true ∧
      s.conn.mu.writer = some .shutdown ∧ s.shutdown = .closing .lock ∧
      ∀ as s', run s as = some s' → s'.shutdown = .closing .lock :=
  ⟨_, rfl, rfl, rfl, rfl, fun _ _ hr =>
    shutdown_stays_blocked ((reachable_init info).of_run
      (show run (init info) shutdownWhileOpen = some _ from rfl)) rfl hr⟩

/-! ## `BroadcastEvent` on a full buffer -/

/-- What a call of `BroadcastEvent` finds when it starts: the one connection registered, open and
subscribed, its channel open, and nobody holding `connectionsMu`. -/
structure BroadcastReady (s : State) : Prop where
  idle : s.broadcast = .idle
  running : s.chan.panicked = false
  unlocked : s.conn.mu.writer = none
  no_readers : s.conn.mu.readers = 0
  registered : s.conn.registered = true
  chan_open : s.chan.closed = false
  live : s.conn.ctxDone = false
  subscribed : s.conn.unsubscribe = true

/-- Queueing payloads changes none of it. -/
theorem BroadcastReady.enqueue {s : State} (h : BroadcastReady s) (q a : List Json) :
    BroadcastReady { s with chan := { s.chan with queue := q, accepted := a } } :=
  ⟨h.idle, h.running, h.unlocked, h.no_readers, h.registered, h.chan_open, h.live, h.subscribed⟩

end MatterServer.Websocket
