import Tcpcc.Bridge.Invariant

/-!
# The primitive steps keep the invariant

One lemma for each step that the blocks of both threads are built from. The loop that
wakes every waiter has a closed form, and the release of a buffer and the end of a
session are assembled from it.
-/

namespace Tcpcc.Bridge
open FlaggedList State
open Function (update update_of_ne update_self)

variable {s : State} {x : SessionId} {d : Dir}

theorem set₂_ne {β γ : Type} [DecidableEq β] (m : ℕ → β → γ) {y : ℕ} (hy : y ≠ x) (b : β)
    (v : γ) : set₂ m x b v y = m y := by
  unfold set₂
  rw [update_of_ne hy]

theorem set₂_self {β γ : Type} [DecidableEq β] (m : ℕ → β → γ) (b : β) (v : γ) :
    set₂ m x b v x b = v := by
  simp [set₂]

theorem set₂_other {β γ : Type} [DecidableEq β] (m : ℕ → β → γ) {b c : β} (hc : c ≠ b) (v : γ) :
    set₂ m x b v x c = m x c := by
  simp [set₂, hc]

/-! ## The ready queue -/

theorem queueSession_readyQueued (y : SessionId) :
    (queueSession x s).readyQueued y = (s.readyQueued y || (decide (y = x) && s.allocated x)) := by
  by_cases hy : y = x
  · subst hy
    cases ha : s.allocated y <;> cases hq : s.readyQueued y <;> simp [queueSession, ha, hq]
  · cases ha : s.allocated x <;> cases hq : s.readyQueued x <;> simp [queueSession, ha, hq, hy]

theorem ReadyOK.queueSession (h : ReadyOK s.ready s.readyQueued s.allocated) (x : SessionId) :
    ReadyOK (queueSession x s).ready (queueSession x s).readyQueued s.allocated where
  listed := by
    cases ha : s.allocated x with
    | false => simpa [State.queueSession, ha] using h.listed
    | true =>
      cases hq : s.readyQueued x with
      | true => simpa [State.queueSession, ha, hq] using h.listed
      | false => simpa [State.queueSession, ha, hq] using h.listed.append hq
  live := by
    intro y hy
    rw [queueSession_readyQueued] at hy
    by_cases hxy : y = x
    · subst hxy
      cases hq : s.readyQueued y with
      | true => exact h.live y hq
      | false => simpa [hq] using hy
    · simp only [hxy, decide_false, Bool.false_and, Bool.or_false] at hy
      exact h.live y hy

theorem SettledOK.queue {running stopping queued queued' : SessionId → Bool}
    {pumping : Option SessionId} {flow : SessionId → Dir → Flow}
    {writable readable : SessionId → Side → Bool}
    (h : SettledOK running stopping queued pumping flow writable readable)
    (hq : ∀ y, queued y = true → queued' y = true) :
    SettledOK running stopping queued' pumping flow writable readable where
  settled y hr hs hy hp := by
    refine h.settled y hr hs ?_ hp
    cases hqy : queued y with
    | false => rfl
    | true => rw [hq y hqy] at hy; exact absurd hy (by simp)
  rested := h.rested

theorem Core.queueSession (h : Core s) (x : SessionId) : Core (queueSession x s) :=
  { h with
    ready := h.ready.queueSession x
    settled := h.settled.queue fun y hy => by simp [queueSession_readyQueued, hy] }

theorem Inv.queueSession (h : Inv s) (x : SessionId) : Inv (queueSession x s) :=
  { h with toCore := h.toCore.queueSession x }

theorem Core.unqueueSession (h : Core s) (hx : s.running x = false) :
    Core (unqueueSession x s) :=
  { h with
    ready :=
      { listed := h.ready.listed.remove x
        live := by
          intro y hy
          by_cases hxy : y = x
          · simp [State.unqueueSession, hxy] at hy
          · simp only [State.unqueueSession, update_of_ne hxy] at hy
            exact h.ready.live y hy }
    settled :=
      { settled := by
          intro y hr hs hy hp
          have hxy : y ≠ x := fun he => by
            rw [he] at hr
            exact absurd (hx.symm.trans hr) (by simp)
          simp only [State.unqueueSession, update_of_ne hxy] at hy
          exact h.settled.settled y hr hs hy hp
        rested := h.settled.rested } }

theorem Inv.unqueueSession (h : Inv s) (hx : s.running x = false) : Inv (unqueueSession x s) :=
  { h with toCore := h.toCore.unqueueSession hx }

/-! ## Waking the waiters -/

def woken (s : State) : State :=
  { s with
    flow := fun x d => { s.flow x d with bufferWaiting := false }
    bufferWaiters := []
    bufferWaitQueued := fun _ => false
    ready := s.ready ++ s.bufferWaiters.filter fun x => !s.readyQueued x
    readyQueued := fun x => s.readyQueued x || s.bufferWaitQueued x
    dispatcherPending := s.dispatcherPending || !s.bufferWaiters.isEmpty }

theorem woken_of_nil (h : WaitersOK [] s.bufferWaitQueued s.allocated s.flow)
    (hw : s.bufferWaiters = []) : woken s = s := by
  have hqueued : ∀ y, s.bufferWaitQueued y = false := h.listed.eq_nil_iff.mp rfl
  have hwaiting : ∀ y e, (s.flow y e).bufferWaiting = false := by
    intro y e
    cases hf : (s.flow y e).bufferWaiting with
    | false => rfl
    | true => exact absurd ((hqueued y).symm.trans (h.waiting y e hf)) (by simp)
  have hflow : (fun y e => { s.flow y e with bufferWaiting := false }) = s.flow := by
    funext y e
    rw [← hwaiting y e]
  have hwq : (fun _ => false) = s.bufferWaitQueued := funext fun y => (hqueued y).symm
  have hready : s.ready ++ s.bufferWaiters.filter (fun y => !s.readyQueued y) = s.ready := by
    simp [hw]
  have hrq : (fun y => s.readyQueued y || s.bufferWaitQueued y) = s.readyQueued := by
    funext y
    simp [hqueued y]
  have hp : (s.dispatcherPending || !s.bufferWaiters.isEmpty) = s.dispatcherPending := by
    simp [hw]
  unfold woken
  rw [hflow, hwq, hready, hrq, hp, ← hw]

theorem WaitersOK.stopWaiting (h : WaitersOK s.bufferWaiters s.bufferWaitQueued s.allocated s.flow)
    (x : SessionId) : WaitersOK (stopWaiting x s).bufferWaiters (stopWaiting x s).bufferWaitQueued
      s.allocated (stopWaiting x s).flow where
  listed := h.listed.remove x
  live := by
    intro y hy
    by_cases hxy : y = x
    · simp [State.stopWaiting, hxy] at hy
    · simp only [State.stopWaiting, update_of_ne hxy] at hy
      exact h.live y hy
  waiting := by
    intro y e hy
    by_cases hxy : y = x
    · simp [State.stopWaiting, hxy] at hy
    · simp only [State.stopWaiting, update_of_ne hxy] at hy ⊢
      exact h.waiting y e hy

theorem woken_wakeBufferWaiter {l : List SessionId} (hw : s.bufferWaiters = x :: l)
    (h : WaitersOK s.bufferWaiters s.bufferWaitQueued s.allocated s.flow) :
    (wakeBufferWaiter s x).bufferWaiters = l ∧ woken (wakeBufferWaiter s x) = woken s := by
  have hlisted := h.listed
  rw [hw] at hlisted
  have hx : s.bufferWaitQueued x = true := (hlisted.mem x).mp (by simp)
  have ha : s.allocated x = true := h.live x hx
  have hrest : (stopWaiting x s).bufferWaiters = l := by simp [State.stopWaiting, hx, hw]
  refine ⟨hrest, ?_⟩
  have hnot : x ∉ l := (List.nodup_cons.mp hlisted.nodup).1
  have hq : ∀ y, (wakeBufferWaiter s x).readyQueued y = (s.readyQueued y || decide (y = x)) := by
    intro y
    unfold wakeBufferWaiter
    rw [queueSession_readyQueued]
    simp [State.stopWaiting, ha]
  have hready : (wakeBufferWaiter s x).ready =
      if s.readyQueued x then s.ready else s.ready ++ [x] := by
    cases hr : s.readyQueued x <;>
      simp [wakeBufferWaiter, State.queueSession, State.stopWaiting, ha, hr]
  have hflow : (fun y e => { (wakeBufferWaiter s x).flow y e with bufferWaiting := false }) =
      fun y e => { s.flow y e with bufferWaiting := false } := by
    funext y e
    by_cases hy : y = x
    · simp [wakeBufferWaiter, State.queueSession, State.stopWaiting, hy]
    · simp [wakeBufferWaiter, State.queueSession, State.stopWaiting, hy]
  have hlist : (wakeBufferWaiter s x).ready ++
      (wakeBufferWaiter s x).bufferWaiters.filter (fun y => !(wakeBufferWaiter s x).readyQueued y) =
      s.ready ++ s.bufferWaiters.filter fun y => !s.readyQueued y := by
    have hfilter : l.filter (fun y => !(wakeBufferWaiter s x).readyQueued y) =
        l.filter fun y => !s.readyQueued y := by
      refine List.filter_congr fun y hy => ?_
      have hne : y ≠ x := fun he => hnot (he ▸ hy)
      simp [hq, hne]
    rw [show (wakeBufferWaiter s x).bufferWaiters = l from hrest, hfilter, hready, hw]
    cases hr : s.readyQueued x <;> simp [hr]
  have hqueued : (fun y => (wakeBufferWaiter s x).readyQueued y ||
      (wakeBufferWaiter s x).bufferWaitQueued y) =
      fun y => s.readyQueued y || s.bufferWaitQueued y := by
    funext y
    rw [hq]
    by_cases hy : y = x
    · simp [hy, hx]
    · simp [wakeBufferWaiter, State.queueSession, State.stopWaiting, hy]
  have hpending : ((wakeBufferWaiter s x).dispatcherPending ||
      !(wakeBufferWaiter s x).bufferWaiters.isEmpty) =
      (s.dispatcherPending || !s.bufferWaiters.isEmpty) := by
    simp [wakeBufferWaiter, State.queueSession, hw]
  unfold woken
  rw [hflow, hlist, hqueued, hpending]
  rfl

theorem wakeBufferWaiters_eq (h : WaitersOK s.bufferWaiters s.bufferWaitQueued s.allocated s.flow) :
    wakeBufferWaiters s = woken s := by
  unfold wakeBufferWaiters
  generalize hw : s.bufferWaiters = l
  induction l generalizing s with
  | nil =>
    rw [hw] at h
    exact (woken_of_nil h hw).symm
  | cons x l ih =>
    obtain ⟨hrest, hwoken⟩ := woken_wakeBufferWaiter hw h
    have hok : WaitersOK (wakeBufferWaiter s x).bufferWaiters
        (wakeBufferWaiter s x).bufferWaitQueued (wakeBufferWaiter s x).allocated
        (wakeBufferWaiter s x).flow := h.stopWaiting x
    rw [List.foldl_cons, ih hok hrest, hwoken]

/-! ## Direction buffers -/

theorem FlowOK.notWaiting {f : Flow} (h : FlowOK f) : FlowOK { f with bufferWaiting := false } :=
  { h with waiting := by simp }

theorem FlowOK.dropped {f : Flow} (h : FlowOK f) : FlowOK { f with buffer := none } :=
  { h with
    split := by
      obtain ⟨rest, hsplit, hlength, -⟩ := h.split
      exact ⟨rest, hsplit, hlength, by simp⟩
    eof := fun he => ⟨(h.eof he).1, rfl⟩
    waiting := fun hw => ⟨rfl, (h.waiting hw).2⟩ }

theorem ne_of_running {running : SessionId → Bool} {y : SessionId} (hx : running x = false)
    (hy : running y = true) : y ≠ x := fun he => by simp [he, hx] at hy

theorem Core.withFlow (h : Core s) {F : Dir → Flow} {n : ℤ} (ha : s.allocated x = true)
    (hc : s.connecting x = false) (hq : s.running x = false ∨ s.pumping = some x)
    (hok : ∀ d, FlowOK (F d))
    (hbacked : ∀ d, s.finishedNotified x = false → (F d).buffer = none → (F d).length = 0)
    (hwait : ∀ d, (F d).bufferWaiting = true → s.bufferWaitQueued x = true)
    (hdone : ∀ d, (s.flow x d).done = true → (F d).done = true)
    (hsum : n + bufferLimit * held (s.flow x) = s.bufferBytes + bufferLimit * held F)
    (hbound : n ≤ totalBufferLimit) :
    Core { s with flow := update s.flow x F, bufferBytes := n } :=
  { h with
    waiters :=
      { h.waiters with
        waiting := by
          intro y e hy
          by_cases hxy : y = x
          · subst hxy
            exact hwait e (by simpa using hy)
          · exact h.waiters.waiting y e (by simpa [hxy] using hy) }
    budget :=
      { sum := by
          have hx : x ∈ Finset.range s.nextSession := Finset.mem_range.mpr (h.active.fresh x ha)
          have htotal := sum_update held s.flow _ hx F
          rw [h.budget.sum, ← Int.mul_add, ← Int.natCast_add, ← htotal, Int.natCast_add,
            Int.mul_add] at hsum
          exact (Int.add_left_inj _).mp hsum
        bound := hbound }
    flows :=
      { ok := forall_of_ne x h.flows.ok (fun y hy => by simp [hy]) (by simpa using hok)
        backed := forall_of_ne x h.flows.backed (fun y hy => by simp [hy])
          (by simpa using hbacked) }
    phase :=
      { h.phase with
        isConnecting := by
          intro y hcy
          have hy : y ≠ x := ne_of_running hc hcy
          simpa [hy] using h.phase.isConnecting y hcy }
    settled :=
      { settled := by
          intro y hr hs hqy hp e
          have hy : y ≠ x := by
            rintro rfl
            rcases hq with hq | hq
            · simp [hq] at hr
            · exact hp hq
          simpa [hy] using h.settled.settled y hr hs hqy hp e
        rested := by
          intro y hr hp e
          have hy : y ≠ x := by
            rintro rfl
            rcases hq with hq | hq
            · simp [hq] at hr
            · exact hp hq
          simpa [hy] using h.settled.rested y hr hp e }
    finish :=
      ⟨by
        intro y hf hst
        obtain ⟨hclosed, hd⟩ := h.finish.clean y hf hst
        refine ⟨hclosed, fun e => ?_⟩
        by_cases hy : y = x
        · subst hy
          simpa using hdone e (hd e)
        · simpa [hy] using hd e⟩ }

theorem Core.withDirection (h : Core s) {f : Flow} {n : ℤ} (ha : s.allocated x = true)
    (hc : s.connecting x = false) (hq : s.running x = false ∨ s.pumping = some x)
    (hok : FlowOK f)
    (hbacked : s.finishedNotified x = false → f.buffer = none → f.length = 0)
    (hwait : f.bufferWaiting = true → s.bufferWaitQueued x = true)
    (hdone : (s.flow x d).done = true → f.done = true)
    (hsum : n + bufferLimit * held (s.flow x) =
      s.bufferBytes + bufferLimit * held (update (s.flow x) d f))
    (hbound : n ≤ totalBufferLimit) :
    Core { s with flow := set₂ s.flow x d f, bufferBytes := n } := by
  refine h.withFlow ha hc hq ?_ ?_ ?_ ?_ hsum hbound
  · intro e
    by_cases he : e = d
    · simpa [he] using hok
    · simpa [he] using h.flows.ok x e
  · intro e hf
    by_cases he : e = d
    · simpa [he] using hbacked hf
    · simpa [he] using h.flows.backed x e hf
  · intro e
    by_cases he : e = d
    · simpa [he] using hwait
    · simpa [he] using h.waiters.waiting x e
  · intro e
    by_cases he : e = d
    · simpa [he] using hdone
    · simp [he]

theorem Core.stopWaiting (h : Core s) (ha : s.allocated x = true) (hc : s.connecting x = false)
    (hx : s.running x = false) : Core (stopWaiting x s) := by
  have hflow := h.withFlow ha hc (.inl hx)
    (F := fun e => { s.flow x e with bufferWaiting := false }) (n := s.bufferBytes)
    (fun e => (h.flows.ok x e).notWaiting) (h.flows.backed x) (by simp) (by simp) rfl
    h.budget.bound
  exact { hflow with waiters := h.waiters.stopWaiting x }

theorem ReadyOK.woken (h : Core s) :
    ReadyOK (woken s).ready (woken s).readyQueued s.allocated where
  listed :=
    { nodup := by
        refine List.nodup_append.mpr ⟨h.ready.listed.nodup, h.waiters.listed.nodup.filter _, ?_⟩
        intro a ha b hb hab
        have hq := (h.ready.listed.mem a).mp ha
        rw [List.mem_filter] at hb
        rw [hab] at hq
        exact absurd hb.2 (by simp [hq])
      mem := by
        intro y
        simp only [Bridge.woken, List.mem_append, List.mem_filter, h.ready.listed.mem,
          h.waiters.listed.mem]
        cases s.readyQueued y <;> cases s.bufferWaitQueued y <;> simp }
  live := by
    intro y hy
    simp only [Bridge.woken, Bool.or_eq_true] at hy
    rcases hy with hy | hy
    · exact h.ready.live y hy
    · exact h.waiters.live y hy

theorem Core.woken (h : Core s) : Core (woken s) :=
  { h with
    ready := ReadyOK.woken h
    waiters := ⟨nil, by simp [Bridge.woken], by simp [Bridge.woken]⟩
    budget := ⟨h.budget.sum, h.budget.bound⟩
    flows := ⟨fun y e => (h.flows.ok y e).notWaiting, h.flows.backed⟩
    phase :=
      { h.phase with
        isConnecting := by
          intro y hc
          obtain ⟨ha, hs, hf, hst, hflow⟩ := h.phase.isConnecting y hc
          exact ⟨ha, hs, hf, hst, fun e => by simp [Bridge.woken, hflow e]⟩ }
    settled :=
      { settled := by
          intro y hr hs hq hp e
          simp only [Bridge.woken, Bool.or_eq_false_iff] at hq
          have hsettled := h.settled.settled y hr hs hq.1 hp e
          have hwaiting : (s.flow y e).bufferWaiting = false := by
            cases hw : (s.flow y e).bufferWaiting with
            | false => rfl
            | true => exact absurd (hq.2.symm.trans (h.waiters.waiting y e hw)) (by simp)
          simpa [Settled, Bridge.woken, hwaiting] using hsettled
        rested := h.settled.rested }
    finish := ⟨h.finish.clean⟩ }

theorem held_update_none (flow : Dir → Flow) (d : Dir) (hb : (flow d).buffer.isSome = true) :
    held (update flow d { flow d with buffer := none }) + 1 = held flow := by
  cases d
  · simp [held, hb]
    omega
  · simp [held, hb]

theorem held_update_some (flow : Dir → Flow) (d : Dir) (data : List UInt8)
    (hb : (flow d).buffer = none) :
    held (update flow d { flow d with buffer := some data }) = held flow + 1 := by
  cases d
  · simp [held, hb]
    omega
  · simp [held, hb]

theorem Core.dropBuffer (h : Core s) (ha : s.allocated x = true) (hc : s.connecting x = false)
    (hq : s.running x = false ∨ s.pumping = some x) (hb : (s.flow x d).buffer.isSome = true)
    (hl : s.finishedNotified x = true ∨ (s.flow x d).length = 0) : Core (dropBuffer x d s) := by
  have hheld : (held (s.flow x) : ℤ) =
      held (update (s.flow x) d { s.flow x d with buffer := none }) + 1 := by
    exact_mod_cast (held_update_none (s.flow x) d hb).symm
  refine h.withDirection ha hc hq (h.flows.ok x d).dropped ?_ (h.waiters.waiting x d) id ?_ ?_
  · intro hf _
    rcases hl with hl | hl
    · simp [hf] at hl
    · exact hl
  · rw [hheld, Int.mul_add, Int.mul_one]
    omega
  · have hbound := h.budget.bound
    omega

theorem WaitersOK.dropBuffer
    (h : WaitersOK s.bufferWaiters s.bufferWaitQueued s.allocated s.flow) (x : SessionId)
    (d : Dir) :
    WaitersOK s.bufferWaiters s.bufferWaitQueued s.allocated (dropBuffer x d s).flow :=
  { h with
    waiting := by
      intro y e
      by_cases hy : y = x ∧ e = d
      · simpa [State.dropBuffer, set₂_apply, hy] using h.waiting x d
      · simpa [State.dropBuffer, set₂_apply, hy] using h.waiting y e }

theorem releaseBuffer_eq (h : WaitersOK s.bufferWaiters s.bufferWaitQueued s.allocated s.flow)
    (x : SessionId) (d : Dir) : releaseBuffer x d s =
      if (s.flow x d).buffer.isSome then woken (dropBuffer x d s) else s := by
  unfold releaseBuffer
  rw [wakeBufferWaiters_eq (s := State.dropBuffer x d s) (h.dropBuffer x d)]

theorem Core.releaseBuffer (h : Core s) (ha : s.allocated x = true) (hc : s.connecting x = false)
    (hq : s.running x = false ∨ s.pumping = some x)
    (hl : s.finishedNotified x = true ∨ (s.flow x d).length = 0) : Core (releaseBuffer x d s) := by
  rw [releaseBuffer_eq h.waiters]
  split
  case isTrue hb => exact (h.dropBuffer ha hc hq hb hl).woken
  case isFalse => exact h

theorem releaseBuffer_buffer (h : WaitersOK s.bufferWaiters s.bufferWaitQueued s.allocated s.flow)
    (x : SessionId) (d : Dir) (y : SessionId) (e : Dir) :
    ((releaseBuffer x d s).flow y e).buffer =
      if y = x ∧ e = d then none else (s.flow y e).buffer := by
  rw [releaseBuffer_eq h]
  cases hb : (s.flow x d).buffer with
  | some data =>
    by_cases hy : y = x ∧ e = d <;> simp [woken, State.dropBuffer, set₂_apply, hy]
  | none =>
    by_cases hy : y = x ∧ e = d
    · simp [hy, hb]
    · simp [hy]

theorem releaseBuffer_waitQueued
    (h : WaitersOK s.bufferWaiters s.bufferWaitQueued s.allocated s.flow) (x : SessionId) (d : Dir)
    (y : SessionId) (hy : (releaseBuffer x d s).bufferWaitQueued y = true) :
    s.bufferWaitQueued y = true := by
  rw [releaseBuffer_eq h] at hy
  split at hy
  · simp [woken] at hy
  · exact hy

structure Undisturbed (s s' : State) : Prop where
  registry : s'.toRegistry = s.toRegistry
  running : s'.running = s.running
  stopping : s'.stopping = s.stopping
  finishedNotified : s'.finishedNotified = s.finishedNotified
  finished : s'.finished = s.finished
  status : s'.status = s.status
  sock : s'.sock = s.sock
  pumping : s'.pumping = s.pumping
  dispatching : s'.dispatching = s.dispatching
  readable : s'.readable = s.readable
  writable : s'.writable = s.writable
  history : s'.toHistory = s.toHistory

theorem Undisturbed.trans {a b c : State} (h : Undisturbed a b) (h' : Undisturbed b c) :
    Undisturbed a c where
  registry := h'.registry.trans h.registry
  running := h'.running.trans h.running
  stopping := h'.stopping.trans h.stopping
  finishedNotified := h'.finishedNotified.trans h.finishedNotified
  finished := h'.finished.trans h.finished
  status := h'.status.trans h.status
  sock := h'.sock.trans h.sock
  pumping := h'.pumping.trans h.pumping
  dispatching := h'.dispatching.trans h.dispatching
  readable := h'.readable.trans h.readable
  writable := h'.writable.trans h.writable
  history := h'.history.trans h.history

theorem releaseBuffer_undisturbed
    (h : WaitersOK s.bufferWaiters s.bufferWaitQueued s.allocated s.flow) (x : SessionId)
    (d : Dir) :
    Undisturbed s (releaseBuffer x d s) := by
  rw [releaseBuffer_eq h]
  split <;> exact ⟨rfl, rfl, rfl, rfl, rfl, rfl, rfl, rfl, rfl, rfl, rfl, rfl⟩

theorem ExhaustedOK.releaseBuffer
    (h : WaitersOK s.bufferWaiters s.bufferWaitQueued s.allocated s.flow)
    (he : ExhaustedOK s.bufferWaiters s.bufferBytes) (x : SessionId) (d : Dir) :
    ExhaustedOK (releaseBuffer x d s).bufferWaiters (releaseBuffer x d s).bufferBytes := by
  rw [releaseBuffer_eq h]
  split
  · exact ⟨by simp [woken]⟩
  · exact he

theorem OnceOK.undisturbed {s' : State}
    (h : OnceOK s.allocated s.finishedNotified s.armed s.finished
    s.reaping s.cancelWait s.reaps s.signals s.notices s.nextSession) (hu : Undisturbed s s') :
    OnceOK s'.allocated s'.finishedNotified s'.armed s'.finished s'.reaping s'.cancelWait s'.reaps
      s'.signals s'.notices s'.nextSession := by
  rw [hu.registry, hu.finishedNotified, hu.finished, hu.history]
  exact h

theorem Inv.releaseBuffer (h : Inv s) (hr : s.running x = true) (hp : s.pumping = some x)
    (hl : (s.flow x d).length = 0) : Inv (releaseBuffer x d s) where
  toCore := by
    obtain ⟨ha, hc, -⟩ := h.phase.isRunning x hr
    exact h.toCore.releaseBuffer ha hc (.inr hp) (.inr hl)
  holders :=
    { buffer := by
        intro y e hy
        rw [releaseBuffer_buffer h.waiters] at hy
        rw [(releaseBuffer_undisturbed h.waiters x d).running]
        split at hy
        · simp at hy
        · exact h.holders.buffer y e hy
      waiter := by
        intro y hy
        rw [(releaseBuffer_undisturbed h.waiters x d).running]
        exact h.holders.waiter y (releaseBuffer_waitQueued h.waiters x d y hy) }
  exhausted := h.exhausted.releaseBuffer h.waiters x d
  once := h.once.undisturbed (releaseBuffer_undisturbed h.waiters x d)

/-! ## The end of a session -/

theorem Core.markFinished (h : Core s) (ha : s.allocated x = true) (hc : s.connecting x = false)
    (hclean : s.status x = 0 → s.isClosed x = true ∧ ∀ d, (s.flow x d).done = true) :
    Core (markFinished x s) :=
  { h with
    flows :=
      { h.flows with
        backed := forall_of_ne x h.flows.backed
          (fun y hxy => by simp [State.markFinished, hxy]) (by simp [State.markFinished]) }
    phase :=
      { isRunning := forall_of_ne x h.phase.isRunning
          (fun y hxy => by simp [State.markFinished, hxy]) (by simp [State.markFinished])
        isConnecting := by
          intro y hy
          have hxy : y ≠ x := ne_of_running hc hy
          simpa [State.markFinished, hxy] using h.phase.isConnecting y hy
        live := forall_of_ne x h.phase.live
          (fun y hxy => by simp [State.markFinished, hxy]) (by simp [State.markFinished])
        isFinished := forall_of_ne x h.phase.isFinished
          (fun y hxy => by simp [State.markFinished, hxy]) (by simp [State.markFinished]) }
    status :=
      { h.status with
        stopped := by
          intro y hy hs hf
          by_cases hxy : y = x
          · simp [State.markFinished, hxy] at hf
          · simp only [State.markFinished, update_of_ne hxy] at hs hf
            exact h.status.stopped y hy hs hf
        final := by
          intro y hy
          by_cases hxy : y = x
          · exact .inl (by simp [State.markFinished, hxy])
          · simpa [State.markFinished, hxy] using
              h.status.final y (by simpa [State.markFinished, hxy] using hy) }
    settled :=
      { settled := by
          intro y hr hs hq hp
          by_cases hxy : y = x
          · simp [State.markFinished, hxy] at hr
          · simp only [State.markFinished, update_of_ne hxy] at hr hs
            exact h.settled.settled y hr hs hq hp
        rested := by
          intro y hr hp
          by_cases hxy : y = x
          · simp [State.markFinished, hxy] at hr
          · simp only [State.markFinished, update_of_ne hxy] at hr
            exact h.settled.rested y hr hp }
    finish :=
      ⟨by
        intro y hf hst
        by_cases hxy : y = x
        · subst hxy
          simpa [State.markFinished] using hclean hst
        · simpa [State.markFinished, hxy] using
            h.finish.clean y (by simpa [State.markFinished, hxy] using hf) hst⟩ }

section Release
variable (h : Core s) (ha : s.allocated x = true) (hc : s.connecting x = false)
    (hx : s.running x = false) (hf : s.finishedNotified x = true)
include h ha hc hx hf

theorem Core.releasing : Core (State.stopWaiting x s) ∧
    Core (State.releaseBuffer x .publicToBackend (State.stopWaiting x s)) :=
  have hstop := h.stopWaiting ha hc hx
  ⟨hstop, hstop.releaseBuffer ha hc (.inl hx) (.inl hf)⟩

theorem Core.releaseSessionBuffers :
    Core (releaseSessionBuffers x s) ∧ Undisturbed s (releaseSessionBuffers x s) := by
  obtain ⟨h₁, h₂⟩ := h.releasing ha hc hx hf
  have hu := releaseBuffer_undisturbed h₁.waiters x .publicToBackend
  have hreg := congrArg Registry.allocated hu.registry
  have hcon := congrArg Registry.connecting hu.registry
  have h₃ := h₂.releaseBuffer (x := x) (d := .backendToPublic) (by rw [hreg]; exact ha)
    (by rw [hcon]; exact hc) (.inl (by rw [hu.running]; exact hx))
    (.inl (by rw [hu.finishedNotified]; exact hf))
  have hstop : Undisturbed s (State.stopWaiting x s) :=
    ⟨rfl, rfl, rfl, rfl, rfl, rfl, rfl, rfl, rfl, rfl, rfl, rfl⟩
  exact ⟨h₃, (hstop.trans hu).trans (releaseBuffer_undisturbed h₂.waiters x .backendToPublic)⟩

theorem releaseSessionBuffers_others :
    (∀ y e, ((State.releaseSessionBuffers x s).flow y e).buffer =
      if y = x then none else (s.flow y e).buffer) ∧
    ∀ y, (State.releaseSessionBuffers x s).bufferWaitQueued y = true →
      y ≠ x ∧ s.bufferWaitQueued y = true := by
  obtain ⟨h₁, h₂⟩ := h.releasing ha hc hx hf
  refine ⟨fun y e => ?_, fun y hy => ?_⟩
  · unfold State.releaseSessionBuffers
    rw [releaseBuffer_buffer h₂.waiters, releaseBuffer_buffer h₁.waiters]
    by_cases hy : y = x
    · cases e <;> simp [hy]
    · simp [hy, State.stopWaiting]
  · have hq := releaseBuffer_waitQueued h₁.waiters x .publicToBackend y
      (releaseBuffer_waitQueued h₂.waiters x .backendToPublic y hy)
    by_cases hxy : y = x
    · simp [State.stopWaiting, hxy] at hq
    · exact ⟨hxy, by simpa [State.stopWaiting, hxy] using hq⟩

theorem ExhaustedOK.releaseSessionBuffers (he : ExhaustedOK s.bufferWaiters s.bufferBytes) :
    ExhaustedOK (State.releaseSessionBuffers x s).bufferWaiters
      (State.releaseSessionBuffers x s).bufferBytes := by
  obtain ⟨h₁, h₂⟩ := h.releasing ha hc hx hf
  have he₁ : ExhaustedOK (State.stopWaiting x s).bufferWaiters s.bufferBytes := by
    refine ⟨fun hw => he.exhausted fun hnil => hw ?_⟩
    simp [State.stopWaiting, hnil]
  exact (he₁.releaseBuffer (s := State.stopWaiting x s) h₁.waiters x
    .publicToBackend).releaseBuffer h₂.waiters x .backendToPublic

end Release

theorem Core.signalFinished (h : Core s) (hf : s.finishedNotified x = true) :
    Core (signalFinished x s) :=
  { h with
    phase :=
      { h.phase with
        isFinished := by
          intro y hy
          by_cases hxy : y = x
          · rw [hxy]
            exact hf
          · exact h.phase.isFinished y (by simpa [State.signalFinished, hxy] using hy) } }

theorem OnceOK.finish (h : OnceOK s.allocated s.finishedNotified s.armed s.finished s.reaping
    s.cancelWait s.reaps s.signals s.notices s.nextSession) (hx : s.finishedNotified x = false)
    (hzero : s.finished x = 0) (hlt : x < s.nextSession) :
    OnceOK s.allocated (update s.finishedNotified x true) (signalFinished x s).armed
      (signalFinished x s).finished s.reaping s.cancelWait s.reaps (signalFinished x s).signals
      (signalFinished x s).notices s.nextSession := by
  have hsignals : s.signals x = 0 := by simp [h.signalled x, hx]
  have hnotices : s.notices x = 0 := by simp [h.noticed x, hx]
  have huntaken : s.reaping ≠ some x := fun he => by simp [h.taken x he] at hx
  constructor
  · exact forall_of_ne x h.signalled
      (fun y hy => by simp [State.signalFinished, hy]) (by simp [State.signalFinished, hsignals])
  · intro y
    by_cases hy : y = x
    · cases hn : s.completionNotify <;> simp [State.signalFinished, hy, hnotices, hn]
    · cases hn : s.completionNotify <;> simpa [State.signalFinished, hy, hn] using h.noticed y
  · exact forall_of_ne x h.credit
      (fun y hy => by simp [State.signalFinished, hy]) (by
        simp [State.signalFinished, huntaken, hzero, Completion.complete, Completion.UINT_MAX])
  · exact forall_of_ne x h.taken (fun y hxy => by simp [hxy]) (by simp)
  · exact h.reaped
  · exact h.unreaped
  · intro y hy
    have hxy : y ≠ x := Nat.ne_of_gt (Nat.lt_of_lt_of_le hlt hy)
    simpa [hxy] using h.fresh y hy
  · exact h.waiting

def State.CleanlyDone (s : State) (x : SessionId) : Prop :=
  s.status x = 0 → s.isClosed x = true ∧ ∀ d, (s.flow x d).done = true

/-- `sessionFinish` does nothing to a session that is not there or has been finished; else
the session is marked, its buffers are released and its completion is signalled. -/
theorem sessionFinish_cases (h : Core s) (hc : s.connecting x = false)
    (hclean : s.finishedNotified x = false → s.CleanlyDone x) :
    (sessionFinish x s = s ∧ (s.allocated x = true → s.finishedNotified x = true)) ∨
    (sessionFinish x s = signalFinished x (State.releaseSessionBuffers x (State.markFinished x s)) ∧
      s.allocated x = true ∧ s.finishedNotified x = false ∧ Core (State.markFinished x s) ∧
      Core (State.releaseSessionBuffers x (State.markFinished x s)) ∧
      Undisturbed (State.markFinished x s)
        (State.releaseSessionBuffers x (State.markFinished x s))) := by
  unfold State.sessionFinish
  split
  case isFalse hcond =>
    refine .inl ⟨rfl, fun ha => ?_⟩
    simpa [ha] using hcond
  case isTrue hcond =>
    rw [Bool.and_eq_true, Bool.not_eq_true'] at hcond
    have hm := h.markFinished hcond.1 hc (hclean hcond.2)
    obtain ⟨hcore, hu⟩ := hm.releaseSessionBuffers hcond.1 hc (by simp [State.markFinished])
      (by simp [State.markFinished])
    exact .inr ⟨rfl, hcond.1, hcond.2, hm, hcore, hu⟩

theorem Inv.sessionFinish (h : Inv s) (hc : s.connecting x = false)
    (hclean : s.finishedNotified x = false → s.CleanlyDone x) : Inv (sessionFinish x s) := by
  obtain ⟨heq, -⟩ | ⟨heq, ha, hnew, hm, hcore, hu⟩ := sessionFinish_cases h.toCore hc hclean
  · rw [heq]
    exact h
  have hx : (State.markFinished x s).running x = false := by simp [State.markFinished]
  have hf : (State.markFinished x s).finishedNotified x = true := by simp [State.markFinished]
  obtain ⟨hbuffer, hwaiter⟩ := releaseSessionBuffers_others hm ha hc hx hf
  have hrun : ∀ y, y ≠ x → s.running y = true →
      (State.releaseSessionBuffers x (State.markFinished x s)).running y = true := by
    intro y hy hr
    rw [hu.running]
    simpa [State.markFinished, hy] using hr
  rw [heq]
  exact
    { toCore := hcore.signalFinished (by rw [hu.finishedNotified]; exact hf)
      holders :=
        { buffer := by
            intro y e hy
            by_cases hxy : y = x
            · simp [State.signalFinished, hbuffer, hxy] at hy
            · simp only [State.signalFinished, hbuffer, hxy, if_false] at hy
              exact hrun y hxy (h.holders.buffer y e hy)
          waiter := by
            intro y hy
            obtain ⟨hxy, hq⟩ := hwaiter y hy
            exact hrun y hxy (h.holders.waiter y hq) }
      exhausted := ExhaustedOK.releaseSessionBuffers hm ha hc hx hf h.exhausted
      once := by
        have hzero : s.finished x = 0 := by
          by_contra hne
          exact absurd (hnew.symm.trans (h.phase.isFinished x hne)) (by simp)
        have hfinish := h.once.finish hnew hzero (h.active.fresh x ha)
        unfold State.signalFinished at hfinish ⊢
        simp only [hu.registry, hu.finishedNotified, hu.finished, hu.history]
        exact hfinish }

theorem sessionFinish_running (h : Inv s) (hc : s.connecting x = false)
    (hclean : s.finishedNotified x = false → s.CleanlyDone x) :
    (sessionFinish x s).running x = false := by
  obtain ⟨heq, hdone⟩ | ⟨heq, -, -, -, -, hu⟩ := sessionFinish_cases h.toCore hc hclean
  · rw [heq]
    refine Bool.eq_false_iff.mpr fun hr => ?_
    obtain ⟨ha, -, hf⟩ := h.phase.isRunning x hr
    exact absurd (hf.symm.trans (hdone ha)) (by simp)
  · rw [heq]
    show (State.releaseSessionBuffers x (State.markFinished x s)).running x = false
    rw [hu.running]
    simp [State.markFinished]

/-! ## Requests to stop -/

theorem markStopped_status (h : StatusOK s.status s.finishStatus s.allocated s.stopping
    s.finishedNotified s.stops s.nextSession) {status : ℤ} (hst : status < 0) :
    (markStopped x status s).status x < 0 ∧
    ∀ y, (markStopped x status s).status y = s.status y ∨ (y = x ∧ s.status x = 0) := by
  have hx := h.nonpos x
  by_cases h0 : s.status x = 0
  · have hcond : status ≠ 0 ∧ s.status x = 0 := ⟨by omega, h0⟩
    simp only [markStopped, hcond, ne_eq, not_false_eq_true, and_self, if_true, update_self]
    refine ⟨hst, fun y => ?_⟩
    by_cases hy : y = x
    · exact .inr ⟨hy, trivial⟩
    · exact .inl (by simp [hy])
  · simp only [markStopped, h0, and_false, if_false]
    exact ⟨by omega, fun y => .inl trivial⟩

theorem markStopped_failed {status : ℤ} {y : SessionId} (h : s.status y ≠ 0) :
    (markStopped x status s).status y ≠ 0 := by
  by_cases hcond : status ≠ 0 ∧ s.status x = 0
  · have hxy : y ≠ x := fun he => h (he ▸ hcond.2)
    simpa [markStopped, hcond, hxy] using h
  · simpa only [markStopped, if_neg hcond] using h

theorem StatusOK.markStopped (h : Core s) (ha : s.allocated x = true) {status : ℤ}
    (hst : status < 0) : StatusOK (markStopped x status s).status s.finishStatus s.allocated
      (markStopped x status s).stopping s.finishedNotified (markStopped x status s).stops
      s.nextSession := by
  obtain ⟨hneg, hkeep⟩ := markStopped_status (x := x) h.status hst
  constructor
  · intro y
    rcases hkeep y with hy | ⟨rfl, -⟩
    · rw [hy]
      exact h.status.nonpos y
    · omega
  · intro y hy hs hf
    by_cases hxy : y = x
    · rw [hxy]
      exact hneg
    · rcases hkeep y with hk | ⟨he, -⟩
      · rw [hk]
        exact h.status.stopped y hy (by simpa [State.markStopped, hxy] using hs) hf
      · exact absurd he hxy
  · intro r hr
    simp only [State.markStopped, List.mem_append, List.mem_singleton] at hr
    rcases hr with hr | rfl
    · obtain ⟨hfresh, hlt⟩ := h.status.told r hr
      refine ⟨hfresh, ?_⟩
      rcases hkeep r.session with hk | ⟨he, -⟩
      · rw [hk]
        exact hlt
      · rw [he]
        exact hneg
    · exact ⟨h.active.fresh x ha, hneg⟩
  · intro y hf
    have hmem : ∀ r ∈ s.stops, r ∈ (State.markStopped x status s).stops := fun r hr =>
      List.mem_append_left _ hr
    rcases hkeep y with hk | ⟨rfl, h0⟩
    · rw [hk]
      rcases h.status.final y hf with hfin | ⟨hfin, r, hr, hlate⟩
      · exact .inl hfin
      · exact .inr ⟨hfin, r, hmem r hr, hlate⟩
    · have hzero : s.finishStatus y = 0 := by
        rcases h.status.final y hf with hfin | ⟨hfin, -⟩
        · rw [← hfin, h0]
        · exact hfin
      exact .inr ⟨hzero, ⟨y, status, s.finishedNotified y⟩, by simp [State.markStopped], rfl, hf⟩

theorem Core.markStopped (h : Core s) (ha : s.allocated x = true) (hc : s.connecting x = false)
    {status : ℤ} (hst : status < 0) : Core (markStopped x status s) := by
  obtain ⟨hneg, hkeep⟩ := markStopped_status (x := x) h.status hst
  have hstop : ∀ y, (State.markStopped x status s).stopping y = false → s.stopping y = false := by
    intro y hy
    by_cases hxy : y = x
    · simp [State.markStopped, hxy] at hy
    · simpa [State.markStopped, hxy] using hy
  exact
    { h with
      status := StatusOK.markStopped h ha hst
      phase :=
        { h.phase with
          isConnecting := by
            intro y hy
            have hxy : y ≠ x := ne_of_running hc hy
            obtain ⟨hay, hs, hf, h0, hflow⟩ := h.phase.isConnecting y hy
            refine ⟨hay, by simpa [State.markStopped, hxy] using hs, hf, ?_, hflow⟩
            rcases hkeep y with hk | ⟨he, -⟩
            · rw [hk, h0]
            · exact absurd he hxy }
      settled :=
        { h.settled with
          settled := fun y hr hs hq hp => h.settled.settled y hr (hstop y hs) hq hp }
      finish :=
        ⟨by
          intro y hf h0
          rcases hkeep y with hk | ⟨rfl, -⟩
          · exact h.finish.clean y hf (hk ▸ h0)
          · omega⟩ }

theorem Inv.sessionStop (h : Inv s) (hc : s.connecting x = false) {status : ℤ}
    (hst : status < 0) : Inv (sessionStop x status s).2 := by
  unfold State.sessionStop
  split
  case isFalse => exact h
  case isTrue ha =>
    have hm : Inv (State.markStopped x status s) :=
      { h with toCore := h.toCore.markStopped ha hc hst }
    simpa [hc] using hm.queueSession x

end Tcpcc.Bridge
