import Mathlib.Data.List.Nodup

/-!
# Event subscriptions

`Server.Subscribe`, the unsubscribe closure it returns, and `Server.EmitEvent` of
`internal/server`: the list `eventCallbacks` of `eventSubscription`s, each a callback with the id
`GenerateMessageID` gave it. `Subscribe` appends an entry; its closure walks the list and splices
out the first entry with that id, then breaks; `EmitEvent` copies the list and starts one
goroutine per entry of the copy.

Every one of these runs under `eventMu` (`EmitEvent` holds the read lock only while it copies), so
a history of the bus is a sequence of atomic calls. `EmitEvent` changes nothing: the goroutines an
emit starts at a point of the history are `emitEvent` of the list there, and a history is a
sequence of subscribes and closure invocations (`Call`). `GenerateMessageID` is a random UUID;
the model takes the id as the argument of `subscribe` and assumes it fresh, as the source relies
on (`World.Admits`), and a closure can only be invoked once `Subscribe` has returned it.

`World` adds two ghost fields to the list: every subscription made, in order, and the ids whose
closure has been invoked. `World.Inv` says the list is the subscriptions not yet invoked, with
distinct ids; `World.Inv.step` is its preservation by one call, and the last theorem reads off
the bus's contract on every reachable world.
-/

namespace MatterServer.Server

/-- `eventSubscription`: a callback with the id its unsubscribe closure removes it by. -/
structure EventSubscription (Cb : Type) where
  id : String
  cb : Cb

variable {Cb : Type}

/-- The loop of the unsubscribe closure: splice out the first entry with the id, then `break`. -/
def removeById (id : String) : List (EventSubscription Cb) → List (EventSubscription Cb)
  | [] => []
  | e :: es => if e.id = id then es else e :: removeById id es

/-- `Subscribe(cb)` with the id `GenerateMessageID` returned: the entry is appended. -/
def subscribe (eventCallbacks : List (EventSubscription Cb)) (id : String) (cb : Cb) :
    List (EventSubscription Cb) :=
  eventCallbacks ++ [⟨id, cb⟩]

/-- `EmitEvent`: the callbacks of the copy of the list, one goroutine `go sub.cb(...)` each, in
order. -/
def emitEvent (eventCallbacks : List (EventSubscription Cb)) : List Cb :=
  let callbacks := eventCallbacks
  callbacks.map (·.cb)

/-- A call on the bus: `Subscribe` with the id it generates, or an invocation of the closure that
`Subscribe` returned for an id. -/
inductive Call (Cb : Type) where
  | subscribe (id : String) (cb : Cb)
  | unsubscribe (id : String)

/-- The bus with its history: `eventCallbacks`, every subscription made in order, and the ids
whose closure has been invoked. -/
structure World (Cb : Type) where
  eventCallbacks : List (EventSubscription Cb)
  issued : List (EventSubscription Cb)
  invoked : List String

/-- A new server: no subscriptions. -/
def World.init : World Cb := ⟨[], [], []⟩

/-- One call, under `eventMu`. -/
def World.step (w : World Cb) : Call Cb → World Cb
  | .subscribe id cb =>
    ⟨subscribe w.eventCallbacks id cb, w.issued ++ [⟨id, cb⟩], w.invoked⟩
  | .unsubscribe id => ⟨removeById id w.eventCallbacks, w.issued, id :: w.invoked⟩

/-- What the source relies on: `GenerateMessageID` gives a new id, and only a closure that
`Subscribe` returned is invoked. -/
def World.Admits (w : World Cb) : Call Cb → Prop
  | .subscribe id _ => id ∉ w.issued.map (·.id)
  | .unsubscribe id => id ∈ w.issued.map (·.id)

/-- Whether a call is admitted is decidable, so histories can be checked by evaluation. -/
instance World.decAdmits (w : World Cb) : (c : Call Cb) → Decidable (w.Admits c)
  | .subscribe id _ => inferInstanceAs (Decidable (id ∉ w.issued.map EventSubscription.id))
  | .unsubscribe id => inferInstanceAs (Decidable (id ∈ w.issued.map EventSubscription.id))

/-- The worlds a history of admitted calls reaches. -/
inductive World.Reachable : World Cb → Prop
  | init : World.Reachable World.init
  | step {w : World Cb} {c : Call Cb} :
      World.Reachable w → w.Admits c → World.Reachable (w.step c)

/-- The subscriptions whose closure has not been invoked, in subscription order. -/
def World.live (w : World Cb) : List (EventSubscription Cb) :=
  w.issued.filter fun e => e.id ∉ w.invoked

/-- The bus invariant: the list is the live subscriptions, ids are distinct, and only issued
closures have been invoked. -/
structure World.Inv (w : World Cb) : Prop where
  callbacks_live : w.eventCallbacks = w.live
  ids_nodup : (w.issued.map (·.id)).Nodup
  invoked_issued : ∀ id ∈ w.invoked, id ∈ w.issued.map (·.id)

/-- On a list with distinct ids, the closure's loop removes exactly the entries with its id. -/
theorem removeById_eq_filter (id : String) :
    ∀ {l : List (EventSubscription Cb)}, (l.map (·.id)).Nodup →
      removeById id l = l.filter fun e => e.id ≠ id
  | [], _ => rfl
  | e :: es, h => by
    rw [List.map_cons, List.nodup_cons] at h
    by_cases he : e.id = id
    · subst he
      have hes : ∀ x ∈ es, x.id ≠ e.id := fun x hx hx' =>
        h.1 (hx' ▸ List.mem_map_of_mem _ hx)
      simpa [removeById] using (List.filter_eq_self.mpr fun x hx => by simpa using hes x hx).symm
    · simp [removeById, he, removeById_eq_filter id h.2]

/-- The live subscriptions of a world with distinct ids have distinct ids. -/
theorem World.live_nodup {w : World Cb} (h : (w.issued.map (·.id)).Nodup) :
    (w.live.map (·.id)).Nodup :=
  h.sublist ((List.filter_sublist _).map _)

/-- A new server satisfies the invariant. -/
theorem World.Inv.init : (World.init : World Cb).Inv :=
  ⟨rfl, List.nodup_nil, fun _ h => absurd h (List.not_mem_nil _)⟩

/-- One admitted call keeps the invariant. -/
theorem World.Inv.step {w : World Cb} {c : Call Cb} (hi : w.Inv) (ha : w.Admits c) :
    (w.step c).Inv := by
  cases c with
  | subscribe id cb =>
    have hfresh : id ∉ w.invoked := fun h => ha (hi.invoked_issued id h)
    refine ⟨?_, ?_, fun i h => ?_⟩
    · simp [World.step, World.live, subscribe, hi.callbacks_live, List.filter_append, hfresh]
    · simpa [World.step] using hi.ids_nodup.concat ha
    · exact List.map_append _ _ _ ▸ List.mem_append_left _ (hi.invoked_issued i h)
  | unsubscribe id =>
    refine ⟨?_, hi.ids_nodup, fun i h => ?_⟩
    · have hl := World.live_nodup hi.ids_nodup
      rw [← hi.callbacks_live] at hl
      show removeById id w.eventCallbacks = w.issued.filter _
      rw [removeById_eq_filter id hl, hi.callbacks_live, World.live, List.filter_filter]
      congr 1
      funext e
      simp [World.step, and_comm]
    · rcases List.mem_cons.mp h with rfl | h
      · exact ha
      · exact hi.invoked_issued i h

/-- Every world a history reaches satisfies the invariant. -/
theorem World.Reachable.inv {w : World Cb} (h : w.Reachable) : w.Inv := by
  induction h with
  | init => exact .init
  | step _ ha ih => exact ih.step ha

/-- The contract of the bus, on every world a history reaches: the list is the subscriptions
whose closure has not been invoked, in subscription order, with distinct ids; invoking a closure
removes the entry with its id and nothing else, and invoking it again changes nothing; an
`EmitEvent` starts the callback of every live subscription once, in order, and no other. -/
theorem eventCallbacks_eq_live {w : World Cb} (h : w.Reachable) :
    w.eventCallbacks = w.live ∧ (w.eventCallbacks.map (·.id)).Nodup ∧
      (∀ id, (w.step (.unsubscribe id)).eventCallbacks =
        w.eventCallbacks.filter fun e => e.id ≠ id) ∧
      (∀ id ∈ w.invoked, (w.step (.unsubscribe id)).eventCallbacks = w.eventCallbacks) ∧
      emitEvent w.eventCallbacks = w.live.map (·.cb) := by
  have hi := h.inv
  have hl : (w.eventCallbacks.map (·.id)).Nodup :=
    hi.callbacks_live ▸ World.live_nodup hi.ids_nodup
  have hrem (id : String) : (w.step (.unsubscribe id)).eventCallbacks =
      w.eventCallbacks.filter fun e => e.id ≠ id := removeById_eq_filter id hl
  refine ⟨hi.callbacks_live, hl, hrem, fun id hid => ?_, by rw [emitEvent, hi.callbacks_live]⟩
  rw [hrem, List.filter_eq_self]
  intro e he
  rw [hi.callbacks_live, World.live, List.mem_filter] at he
  exact decide_eq_true fun h => of_decide_eq_true he.2 (by rw [h]; exact hid)

/-- Two subscriptions, then the first one's closure invoked. -/
def afterUnsubscribe : World Nat :=
  ((World.init.step (.subscribe "a" 0)).step (.subscribe "b" 1)).step (.unsubscribe "a")

/-- The contract on `afterUnsubscribe`, whose history is admitted. -/
theorem eventCallbacks_eq_live_afterUnsubscribe :
    afterUnsubscribe.Reachable ∧
      (afterUnsubscribe.eventCallbacks = afterUnsubscribe.live ∧
        (afterUnsubscribe.eventCallbacks.map (·.id)).Nodup ∧
        (∀ id, (afterUnsubscribe.step (.unsubscribe id)).eventCallbacks =
          afterUnsubscribe.eventCallbacks.filter fun e => e.id ≠ id) ∧
        (∀ id ∈ afterUnsubscribe.invoked,
          (afterUnsubscribe.step (.unsubscribe id)).eventCallbacks =
            afterUnsubscribe.eventCallbacks) ∧
        emitEvent afterUnsubscribe.eventCallbacks = afterUnsubscribe.live.map (·.cb)) :=
  have h : afterUnsubscribe.Reachable :=
    .step (.step (.step .init (by decide)) (by decide)) (by decide)
  ⟨h, eventCallbacks_eq_live h⟩

end MatterServer.Server
