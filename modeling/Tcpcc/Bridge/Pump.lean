import Tcpcc.Bridge.Contracts

/-!
# The pump of one session

The loop of a direction is entered with the direction at rest. A round that takes a
readiness flag leaves the direction settled until a call succeeds, so whichever way the
loop is left, the direction is settled or the session is queued again. The other
direction is not disturbed: the two share neither flags nor buffer.
-/

namespace Tcpcc.Bridge
open Resumption State

variable {s s' : State} {x : SessionId} {d : Dir} {f : Flow}

/-! ## Streams -/

theorem FlowOK.empty (h : FlowOK f) (hl : f.length = 0) :
    f.offset = 0 ∧ f.received = f.accepted := by
  have hoff : f.offset = 0 := by
    rcases h.range with hr | hr
    · omega
    · exact hr.1
  obtain ⟨rest, hsplit, hlength, -⟩ := h.split
  have hnil : rest = [] := List.eq_nil_of_length_eq_zero (by omega)
  exact ⟨hoff, by simpa [hnil] using hsplit⟩

theorem FlowOK.received_eq (h : FlowOK f) (hb : f.buffer = none → f.length = 0) :
    f.received = f.accepted ++ f.unsent := by
  cases hbuf : f.buffer with
  | none => simpa [Flow.unsent, hbuf] using (h.empty (hb hbuf)).2
  | some data =>
    obtain ⟨rest, hsplit, -, hdata⟩ := h.split
    rw [hsplit, ← hdata data hbuf]
    simp [Flow.unsent, hbuf]

theorem FlowOK.advance (h : FlowOK f) {data : List UInt8} (hb : f.buffer = some data) {n : ℕ}
    (hn : 0 < n) (hle : n ≤ f.length - f.offset) : FlowOK (f.advance n) := by
  obtain ⟨rest, hsplit, hlength, hdata⟩ := h.split
  have hrest : f.unsent = rest := by simp [Flow.unsent, hb, hdata data hb]
  have hlt : f.offset < f.length := by omega
  constructor
  · refine ⟨rest.drop n, ?_, ?_, ?_⟩
    · simp [Flow.advance, hrest, hsplit]
    · by_cases hd : f.offset + n = f.length <;> simp [Flow.advance, hd, hlength] <;> omega
    · intro data' hb'
      have hdata' : (data'.take f.length).drop f.offset = rest := hdata data' hb'
      by_cases hd : f.offset + n = f.length
      · have hnil : rest.drop n = [] := List.drop_eq_nil_of_le (by omega)
        simp [Flow.advance, hd, hnil]
      · simp only [Flow.advance, hd, if_false]
        rw [← hdata', List.drop_drop]
  · by_cases hd : f.offset + n = f.length <;> simp [Flow.advance, hd]
    omega
  · have hmin : min n rest.length = n := by omega
    simp [Flow.advance, hrest, h.bytes, hmin]
  · intro he
    have := (h.eof he).1
    omega
  · exact h.shut
  · exact h.done
  · intro hw
    have := (h.waiting hw).2.1
    omega

theorem FlowOK.fill (h : FlowOK f) (hl : f.length = 0) (he : f.eof = false)
    (hw : f.bufferWaiting = false) {data : List UInt8} (hd : data ≠ []) :
    FlowOK (f.fill data) := by
  obtain ⟨hoff, hsame⟩ := h.empty hl
  have hpos : 0 < data.length := List.length_pos_of_ne_nil hd
  constructor
  · refine ⟨data, by simp [Flow.fill, hsame], by simp [Flow.fill, hoff], ?_⟩
    intro data' hb'
    simp only [Flow.fill, Option.map_eq_some_iff] at hb'
    obtain ⟨old, -, rfl⟩ := hb'
    simp [Flow.fill, hoff]
  · exact .inl (by simpa [Flow.fill, hoff] using hpos)
  · exact h.bytes
  · simp [Flow.fill, he]
  · exact h.shut
  · exact h.done
  · simp [Flow.fill, hw]

theorem FlowOK.install (h : FlowOK f) (hl : f.length = 0) (he : f.eof = false)
    (hw : f.bufferWaiting = false) (data : List UInt8) : FlowOK { f with buffer := some data } := by
  obtain ⟨hoff, hsame⟩ := h.empty hl
  exact
    { h with
      split := ⟨[], by simpa using hsame, by simp [hl], by simp [hl]⟩
      eof := by simp [he]
      waiting := by simp [hw] }

theorem FlowOK.startWaiting (h : FlowOK f) (hl : f.length = 0) (hb : f.buffer = none)
    (hd : f.done = false) : FlowOK { f with bufferWaiting := true } :=
  { h with waiting := fun _ => ⟨hb, hl, hd⟩ }

theorem FlowOK.atEof (h : FlowOK f) (hl : f.length = 0) (hb : f.buffer = none) :
    FlowOK { f with eof := true } :=
  { h with
    eof := fun _ => ⟨hl, hb⟩
    shut := by
      rcases h.shut with hs | hs
      · exact .inl hs
      · exact .inr ⟨hs.1, rfl⟩ }

structure Ending (f : Flow) : Prop where
  eof : f.eof = true
  undone : f.done = false
  unshut : f.shutdowns = 0
  active : f.bufferWaiting = false

theorem FlowOK.shutdown (h : FlowOK f) (he : Ending f) (ok : Prop) [Decidable ok] :
    FlowOK { f with shutdowns := f.shutdowns + 1, done := if ok then true else f.done } :=
  { h with
    shut := .inr ⟨by simp [he.unshut], he.eof⟩
    done := by simp [he.unshut]
    waiting := by simp [he.active] }

/-! ## Local assertions -/

def Dir.other : Dir → Dir
  | .publicToBackend => .backendToPublic
  | .backendToPublic => .publicToBackend

theorem Dir.other_ne (d : Dir) : d.other ≠ d := by cases d <;> simp [Dir.other]

theorem Dir.other_source (d : Dir) : d.other.source = d.dest := by cases d <;> rfl

theorem Dir.other_dest (d : Dir) : d.other.dest = d.source := by cases d <;> rfl

theorem Dir.source_ne_dest (d : Dir) : d.source ≠ d.dest := by cases d <;> simp [source, dest]

structure Pumping (x : SessionId) (s : State) : Prop where
  pumping : s.pumping = some x
  running : s.running x = true

def Rest (d : Dir) (x : SessionId) (s : State) : Prop :=
  Rested (s.flow x d) (s.readable x d.source)

def AtEase (d : Dir) (x : SessionId) (s : State) : Prop :=
  s.readyQueued x = true ∨ Settled (s.flow x d) (s.writable x d.dest) (s.readable x d.source)

/-- While direction `d` is pumped the other one is at rest; once it has been pumped
itself (`P`), it is at ease too. -/
structure Aside (P : Prop) (d : Dir) (x : SessionId) (s : State) : Prop extends Pumping x s where
  rest : Rest d.other x s
  ease : P → AtEase d.other x s

theorem Pumping.stable (h : Pumping x s) (hr : DispatcherRely s s') : Pumping x s' :=
  ⟨hr.pumping.trans h.pumping, (hr.kept x h.running).running⟩

theorem Rest.stable (h : Rest d x s) (hx : s.running x = true) (hr : DispatcherRely s s') :
    Rest d x s' := by
  have hk := hr.kept x hx
  unfold Rest Rested
  rw [hk.flow]
  exact ⟨fun hb => hk.readable _ (h.1 hb), h.2⟩

theorem AtEase.stable (h : AtEase d x s) (hx : s.running x = true) (hr : DispatcherRely s s') :
    AtEase d x s' := by
  have hk := hr.kept x hx
  rcases hk.flags with hq | ⟨hread, hwrite⟩
  · exact .inl hq
  · rcases h with h | h
    · exact .inl (hk.queued h)
    · unfold AtEase
      rw [hread, hwrite, hk.flow]
      exact .inr h

variable {P : Prop}

theorem Aside.stable (h : Aside P d x s) (hr : DispatcherRely s s') :
    Aside P d x s' where
  toPumping := h.toPumping.stable hr
  rest := h.rest.stable h.running hr
  ease hP := (h.ease hP).stable h.running hr

theorem Aside.frame (h : Aside P d x s) (hp : s'.pumping = s.pumping)
    (hr : s'.running x = s.running x) (hq : s.readyQueued x = true → s'.readyQueued x = true)
    (hf : s'.flow x d.other = s.flow x d.other ∨
      (s'.readyQueued x = true ∧
        s'.flow x d.other = { s.flow x d.other with bufferWaiting := false }))
    (hread : s'.readable x d.dest = s.readable x d.dest)
    (hwrite : s'.writable x d.source = s.writable x d.source) : Aside P d x s' where
  pumping := hp.trans h.pumping
  running := hr.trans h.running
  rest := by
    have hrest := h.rest
    unfold Rest at hrest ⊢
    rw [Dir.other_source] at hrest ⊢
    rw [hread]
    rcases hf with hf | ⟨-, hf⟩
    · rw [hf]
      exact hrest
    · rw [hf]
      exact hrest
  ease hP := by
    rcases hf with hf | ⟨hqueued, -⟩
    · rcases h.ease hP with he | he
      · exact .inl (hq he)
      · refine .inr ?_
        rw [Dir.other_source, Dir.other_dest] at he ⊢
        rw [hf, hread, hwrite]
        exact he
    · exact .inl hqueued

/-! ## The blocks of a round -/

theorem Inv.withFlags (h : Inv s) (hp : s.pumping = some x) {R W : SessionId → Side → Bool}
    (hR : ∀ y, y ≠ x → R y = s.readable y) (hW : ∀ y, y ≠ x → W y = s.writable y) :
    Inv { s with readable := R, writable := W } :=
  { h with
    settled :=
      { settled := by
          intro y hr hs hq hpy e
          have hy : y ≠ x := fun he => hpy (he ▸ hp)
          simp only [hR y hy, hW y hy]
          exact h.settled.settled y hr hs hq hpy e
        rested := by
          intro y hr hpy e
          have hy : y ≠ x := fun he => hpy (he ▸ hp)
          simp only [hR y hy]
          exact h.settled.rested y hr hpy e } }

theorem Inv.setFlow (h : Inv s) (hp : Pumping x s) (hok : FlowOK f)
    (hbacked : f.buffer = none → f.length = 0)
    (hwait : f.bufferWaiting = true → s.bufferWaitQueued x = true)
    (hdone : (s.flow x d).done = true → f.done = true)
    (hb : f.buffer.isSome = (s.flow x d).buffer.isSome) : Inv (s.setFlow x d f) where
  toCore := by
    obtain ⟨ha, hc, -⟩ := h.phase.isRunning x hp.running
    have hheld : held (Function.update (s.flow x) d f) = held (s.flow x) := by
      cases d <;> simp [held, hb]
    exact h.toCore.withDirection ha hc (.inr hp.pumping) hok (fun _ => hbacked) hwait hdone
      (by rw [hheld]) h.budget.bound
  holders :=
    { h.holders with
      buffer := by
        intro y e hy
        by_cases hxy : y = x
        · rw [hxy]
          exact hp.running
        · rw [show (s.setFlow x d f).flow y = s.flow y from set₂_ne s.flow hxy d f] at hy
          exact h.holders.buffer y e hy }
  exhausted := h.exhausted
  once := h.once

theorem DispatcherGuar.setFlow (h : Inv s) (hp : Pumping x s) (d : Dir) (f : Flow) :
    DispatcherGuar s (s.setFlow x d f) :=
  DispatcherGuar.withFlow (h.phase.isRunning x hp.running).1 _ _

structure Idle (f : Flow) : Prop where
  empty : f.length = 0
  open_ : f.eof = false
  active : f.bufferWaiting = false

def HeadPost (P : Prop) (d : Dir) (x : SessionId) : PumpHead → State → Prop
  | .leave, s => Aside P d x s ∧ Rest d x s ∧ AtEase d x s
  | .send, s => Aside P d x s ∧ Rest d x s ∧ AtEase d x s ∧
      (s.flow x d).offset < (s.flow x d).length
  | .allocate, s => Aside P d x s ∧ AtEase d x s ∧ Idle (s.flow x d) ∧
      (s.flow x d).buffer = none ∧ s.bufferBytes + bufferLimit ≤ totalBufferLimit
  | .recv, s => Aside P d x s ∧ AtEase d x s ∧ Idle (s.flow x d) ∧
      (s.flow x d).buffer.isSome = true

theorem pumpHead_unsent (hi : Inv s) (h : Aside P d x s) (hrest : Rest d x s)
    (hl : (s.flow x d).offset < (s.flow x d).length) :
    Inv (takeWritable x d.dest s).2 ∧ DispatcherGuar s (takeWritable x d.dest s).2 ∧
      Aside P d x (takeWritable x d.dest s).2 ∧ Rest d x (takeWritable x d.dest s).2 ∧
      AtEase d x (takeWritable x d.dest s).2 := by
  refine ⟨?_, DispatcherGuar.of_view rfl rfl, ?_, hrest, ?_⟩
  · exact hi.withFlags h.pumping (fun _ _ => rfl) (fun y hy => set₂_ne _ hy _ _)
  · exact h.frame rfl rfl id (.inl rfl) rfl (set₂_other _ d.source_ne_dest _)
  · exact .inr (.inr (.inl ⟨hl, set₂_self _ _ _⟩))

theorem pumpHead_read (hi : Inv s) (h : Aside P d x s) (hrest : Rest d x s)
    (hd : (s.flow x d).done = false) (hl : ¬ (s.flow x d).offset < (s.flow x d).length)
    (hw : (s.flow x d).bufferWaiting = false) :
    Inv (takeReadable x d.source s).2 ∧ DispatcherGuar s (takeReadable x d.source s).2 ∧
      Aside P d x (takeReadable x d.source s).2 ∧ AtEase d x (takeReadable x d.source s).2 ∧
      Idle (s.flow x d) := by
  refine ⟨?_, DispatcherGuar.of_view rfl rfl, ?_, ?_, ?_, ?_, hw⟩
  · exact hi.withFlags h.pumping (fun y hy => set₂_ne _ hy _ _) (fun _ _ => rfl)
  · exact h.frame rfl rfl id (.inl rfl) (set₂_other _ d.source_ne_dest.symm _) rfl
  · exact .inr (.inr (.inr (.inl ⟨hl, hw, set₂_self _ _ _⟩)))
  · rcases (hi.flows.ok x d).range with hr | hr
    · exact absurd hr hl
    · exact hr.2
  · cases he : (s.flow x d).eof with
    | false => rfl
    | true => exact absurd (hd.symm.trans (hrest.2 he)) (by simp)

theorem pumpHead_wait (hi : Inv s) (h : Aside P d x s) (hd : (s.flow x d).done = false)
    (hidle : Idle (s.flow x d)) (hb : (s.flow x d).buffer = none)
    (hfull : totalBufferLimit < s.bufferBytes + bufferLimit) :
    Inv (waitForBuffer x d (setReadable x d.source s)) ∧
      DispatcherGuar s (waitForBuffer x d (setReadable x d.source s)) ∧
      HeadPost P d x .leave (waitForBuffer x d (setReadable x d.source s)) := by
  have hset : Inv (setReadable x d.source s) :=
    hi.withFlags h.pumping (fun y hy => set₂_ne _ hy _ _) (fun _ _ => rfl)
  obtain ⟨ha, -, -⟩ := hi.phase.isRunning x h.running
  have hflow := (hi.flows.ok x d).startWaiting hidle.empty hb hd
  have hlisted : WaitersOK (waitForBuffer x d s).bufferWaiters
      (waitForBuffer x d s).bufferWaitQueued s.allocated s.flow :=
    { listed := hi.waiters.listed.push x
      live := by
        intro y hy
        by_cases hxy : y = x
        · rw [hxy]
          exact ha
        · exact hi.waiters.live y (by simpa [waitForBuffer, hxy] using hy)
      waiting := by
        intro y e hy
        have hq := hi.waiters.waiting y e hy
        by_cases hxy : y = x
        · simp [waitForBuffer, hxy]
        · simpa [waitForBuffer, hxy] using hq }
  have hjoined : Inv { setReadable x d.source s with
      bufferWaiters := (waitForBuffer x d s).bufferWaiters
      bufferWaitQueued := (waitForBuffer x d s).bufferWaitQueued } :=
    { hset with
      waiters := hlisted
      holders :=
        { hset.holders with
          waiter := by
            intro y hy
            by_cases hxy : y = x
            · rw [hxy]
              exact h.running
            · exact hi.holders.waiter y (by simpa [waitForBuffer, hxy] using hy) }
      exhausted := ⟨fun _ => hfull⟩ }
  refine ⟨?_, ?_, ?_, ?_, ?_⟩
  · exact hjoined.setFlow ⟨h.pumping, h.running⟩ hflow (fun _ => hidle.empty)
      (fun _ => by simp [waitForBuffer]) id rfl
  · exact (DispatcherGuar.setFlow hi h.toPumping d { s.flow x d with bufferWaiting := true }).trans
      (DispatcherGuar.of_view rfl rfl)
  · refine h.frame rfl rfl id (.inl (set₂_other _ d.other_ne _)) ?_ rfl
    exact set₂_other _ d.source_ne_dest.symm _
  · refine ⟨fun _ => set₂_self _ _ _, ?_⟩
    rw [show (waitForBuffer x d (setReadable x d.source s)).flow x d =
      { s.flow x d with bufferWaiting := true } from set₂_self _ _ _]
    simp [hidle.open_]
  · refine .inr (.inr (.inr (.inr ?_)))
    rw [show (waitForBuffer x d (setReadable x d.source s)).flow x d =
      { s.flow x d with bufferWaiting := true } from set₂_self _ _ _]

theorem pumpHead_safe (h : Aside P d x s) (hrest : Rest d x s) :
    Safe Inv dispatcherContract (HeadPost P d x)
      (Prog.block fun s (_ : Reply) => pumpHead d x s) s := by
  refine Safe.block fun t hr hi _ => ?_
  have ht := h.stable hr
  have htrest := hrest.stable h.running hr
  cases hd : (t.flow x d).done with
  | true =>
    simp only [pumpHead, hd, if_true]
    exact ⟨hi, DispatcherGuar.refl t, ht, htrest, .inr (.inl hd)⟩
  | false =>
    by_cases hl : (t.flow x d).offset < (t.flow x d).length
    · obtain ⟨hinv, hguar, haside, hrest', hease⟩ := pumpHead_unsent hi ht htrest hl
      simp only [pumpHead, hd, hl, if_true, Bool.false_eq_true, if_false]
      refine ⟨hinv, hguar, ?_⟩
      cases (takeWritable x d.dest t).1 with
      | true => exact ⟨haside, hrest', hease, hl⟩
      | false => exact ⟨haside, hrest', hease⟩
    · cases hw : (t.flow x d).bufferWaiting with
      | true =>
        simp only [pumpHead, hd, hl, hw, if_true, Bool.false_eq_true, if_false]
        exact ⟨hi, DispatcherGuar.refl t, ht, htrest, .inr (.inr (.inr (.inr hw)))⟩
      | false =>
        obtain ⟨hinv, hguar, haside, hease, hidle⟩ := pumpHead_read hi ht htrest hd hl hw
        simp only [pumpHead, hd, hl, hw, Bool.false_eq_true, if_false]
        cases hread : (takeReadable x d.source t).1 with
        | false =>
          have hnone : (t.flow x d).buffer.isSome ≠ true := fun hb => by
            have := htrest.1 hb
            simp [takeReadable] at hread
            simp [hread] at this
          refine ⟨hinv, hguar, haside, ⟨fun hb => absurd hb hnone, htrest.2⟩, hease⟩
        | true =>
          simp only [if_true]
          cases hacq : acquireBuffer x d (takeReadable x d.source t).2 with
          | held =>
            refine ⟨hinv, hguar, haside, hease, hidle, ?_⟩
            simp only [acquireBuffer] at hacq
            split at hacq
            case isTrue hb => exact hb
            case isFalse => split at hacq <;> cases hacq
          | exhausted =>
            simp only [acquireBuffer] at hacq
            split at hacq
            case isTrue => cases hacq
            case isFalse hb =>
              split at hacq
              case isFalse => cases hacq
              case isTrue hfull =>
                obtain ⟨hinv', hguar', hpost⟩ := pumpHead_wait hinv haside hd hidle
                  (Option.not_isSome_iff_eq_none.mp hb) (by omega)
                exact ⟨hinv', hguar.trans hguar', hpost⟩
          | allocate =>
            simp only [acquireBuffer] at hacq
            split at hacq
            case isTrue => cases hacq
            case isFalse hb =>
              split at hacq
              case isTrue => cases hacq
              case isFalse hfull =>
                exact ⟨hinv, hguar, haside, hease, hidle, Option.not_isSome_iff_eq_none.mp hb,
                  Int.not_lt.mp hfull⟩

theorem countSendEagain_eq (d : Dir) (x : SessionId) (s : State) :
    ∃ c, countSendEagain d x s = { s with hostSendEagain := c } := by
  cases d with
  | publicToBackend => exact ⟨_, rfl⟩
  | backendToPublic => exact ⟨s.hostSendEagain, rfl⟩

theorem countPartialWrite_eq (d : Dir) (x : SessionId) (partly : Bool) (s : State) :
    ∃ c, countPartialWrite d x partly s = { s with hostPartialWrites := c } := by
  cases d with
  | publicToBackend => exact ⟨_, rfl⟩
  | backendToPublic => exact ⟨s.hostPartialWrites, rfl⟩

theorem countRecvEagain_eq (d : Dir) (x : SessionId) (s : State) :
    ∃ c, countRecvEagain d x s = { s with hostRecvEagain := c } := by
  cases d with
  | publicToBackend => exact ⟨s.hostRecvEagain, rfl⟩
  | backendToPublic => exact ⟨_, rfl⟩

def CallPost (P : Prop) (d : Dir) (x : SessionId) : PumpCall → State → Prop
  | .again, s => Aside P d x s ∧ Rest d x s ∧ AtEase d x s
  | .fail status, s => Pumping x s ∧ status < 0
  | .eof, s => Aside P d x s ∧ Ending (s.flow x d)
  | .moved, s => Aside P d x s ∧ Rest d x s

theorem pumpSend_moved (hi : Inv s) (h : Aside P d x s) (hrest : Rest d x s)
    (hl : (s.flow x d).offset < (s.flow x d).length) {n : ℕ} (hn : 0 < n)
    (hle : n ≤ (s.flow x d).length - (s.flow x d).offset) :
    Inv ((setWritable x d.dest s).setFlow x d ((s.flow x d).advance n)) ∧
      DispatcherGuar s ((setWritable x d.dest s).setFlow x d ((s.flow x d).advance n)) ∧
      Aside P d x ((setWritable x d.dest s).setFlow x d ((s.flow x d).advance n)) ∧
      Rest d x ((setWritable x d.dest s).setFlow x d ((s.flow x d).advance n)) := by
  obtain ⟨data, hdata⟩ : ∃ data, (s.flow x d).buffer = some data := by
    cases hb : (s.flow x d).buffer with
    | some data => exact ⟨data, rfl⟩
    | none =>
      have := hi.flows.backed x d (hi.phase.isRunning x h.running).2.2 hb
      omega
  have hset : Inv (setWritable x d.dest s) :=
    hi.withFlags h.pumping (fun _ _ => rfl) (fun y hy => set₂_ne _ hy _ _)
  have hp : Pumping x (setWritable x d.dest s) := ⟨h.pumping, h.running⟩
  refine ⟨?_, ?_, ?_, ?_⟩
  · refine hset.setFlow hp ((hi.flows.ok x d).advance hdata hn hle) ?_
      (hi.waiters.waiting x d) id rfl
    intro hb
    exact absurd (hdata.symm.trans hb) (by simp)
  · exact (DispatcherGuar.setFlow hi h.toPumping d ((s.flow x d).advance n)).trans
      (DispatcherGuar.of_view rfl rfl)
  · exact h.frame rfl rfl id (.inl (set₂_other _ d.other_ne _)) rfl
      (set₂_other _ d.source_ne_dest _)
  · unfold Rest Rested
    rw [show ((setWritable x d.dest s).setFlow x d ((s.flow x d).advance n)).flow x d =
      (s.flow x d).advance n from set₂_self _ _ _]
    exact hrest

theorem pumpSend_safe (h : Aside P d x s) (hrest : Rest d x s) (hease : AtEase d x s)
    (hl : (s.flow x d).offset < (s.flow x d).length) :
    Safe Inv dispatcherContract (fun a t => a ≠ .eof ∧ CallPost P d x a t)
      (Prog.await (sendReply d x) (pumpSend d x)) s := by
  refine Safe.await fun t hr hi r hready => ?_
  have ht := h.stable hr
  have htrest := hrest.stable h.running hr
  have htease := hease.stable h.running hr
  rw [← (hr.kept x h.running).flow] at hl
  unfold pumpSend
  by_cases hagain : r.ret = -EAGAIN
  · obtain ⟨c, hc⟩ := countSendEagain_eq d x t
    rw [if_pos hagain, hc]
    refine ⟨{ hi with }, DispatcherGuar.of_view rfl rfl, by simp, ?_⟩
    exact ⟨ht.frame rfl rfl id (.inl rfl) rfl rfl, htrest, htease⟩
  rw [if_neg hagain]
  by_cases hneg : r.ret < 0
  · rw [if_pos hneg]
    exact ⟨hi, DispatcherGuar.refl t, by simp, ht.toPumping, hneg⟩
  rw [if_neg hneg]
  by_cases hzero : r.ret = 0
  · rw [if_pos hzero]
    exact ⟨hi, DispatcherGuar.refl t, by simp, ht.toPumping, by decide⟩
  rw [if_neg hzero]
  obtain ⟨c, hc⟩ := countPartialWrite_eq d x
    (decide (r.ret.toNat < (t.flow x d).length - (t.flow x d).offset)) t
  simp only [sendReply, decide_eq_true_eq] at hready
  have hpos : 0 < r.ret.toNat := by omega
  have hle : r.ret.toNat ≤ (t.flow x d).length - (t.flow x d).offset := by omega
  have hcount : Inv { t with hostPartialWrites := c } := { hi with }
  have hguar₀ : DispatcherGuar t { t with hostPartialWrites := c } := DispatcherGuar.of_view rfl rfl
  have hside : Aside P d x { t with hostPartialWrites := c } :=
    ht.frame rfl rfl id (.inl rfl) rfl rfl
  obtain ⟨hinv, hguar, haside, hrest'⟩ := pumpSend_moved hcount hside htrest hl hpos hle
  simp only [hc]
  exact ⟨hinv, hguar₀.trans hguar, by simp, haside, hrest'⟩

theorem pumpAllocate_safe (h : HeadPost P d x .allocate s) :
    Safe Inv dispatcherContract
      (fun ok t => Pumping x t ∧ (ok = true → HeadPost P d x .recv t))
      (Prog.block (pumpAllocate d x)) s := by
  obtain ⟨haside, hease, hidle, hnone, hbytes⟩ := h
  refine Safe.block fun t hr hi r => ?_
  have ht := haside.stable hr
  have hflow := (hr.kept x haside.running).flow
  rw [← hflow] at hidle hnone
  rw [← hr.bufferBytes] at hbytes
  unfold pumpAllocate
  by_cases hneg : r.ret < 0
  · simp only [hneg, if_true]
    exact ⟨hi, DispatcherGuar.refl t, ht.toPumping, by simp⟩
  · simp only [hneg, if_false]
    obtain ⟨ha, hc, -⟩ := hi.phase.isRunning x ht.running
    have hsum := held_update_some (t.flow x) d r.data hnone
    have hcore := hi.toCore.withDirection (d := d) (n := t.bufferBytes + bufferLimit) ha hc
      (.inr ht.pumping)
      ((hi.flows.ok x d).install hidle.empty hidle.open_ hidle.active r.data) (by simp)
      (hi.waiters.waiting x d) id (by rw [hsum]; push_cast; rw [Int.mul_add]; omega) hbytes
    have hself : (installBuffer x d r.data t).flow x d =
        { t.flow x d with buffer := some r.data } :=
      set₂_self _ _ _
    refine ⟨?_, ?_, ⟨ht.pumping, ht.running⟩, fun _ => ⟨?_, ?_, ?_, ?_⟩⟩
    · exact
        { toCore := { hcore with }
          holders :=
            { hi.holders with
              buffer := by
                intro y e hy
                by_cases hxy : y = x
                · rw [hxy]
                  exact ht.running
                · rw [show (installBuffer x d r.data t).flow y = t.flow y from set₂_ne _ hxy _ _]
                    at hy
                  exact hi.holders.buffer y e hy }
          exhausted := ⟨fun hw => by
            have := hi.exhausted.exhausted hw
            omega⟩
          once := hi.once }
    · exact (DispatcherGuar.withFlow ha _ t.bufferBytes).trans (DispatcherGuar.of_view rfl rfl)
    · exact ht.frame rfl rfl id (.inl (set₂_other _ d.other_ne _)) rfl rfl
    · rcases hease.stable haside.running hr with he | he
      · exact .inl he
      · refine .inr ?_
        rw [hself]
        exact he
    · rw [hself]
      exact ⟨hidle.empty, hidle.open_, hidle.active⟩
    · rw [hself]
      rfl

/-! ## Giving the buffer back -/

theorem releaseBuffer_self (h : WaitersOK s.bufferWaiters s.bufferWaitQueued s.allocated s.flow)
    (hw : (s.flow x d).bufferWaiting = false) :
    (releaseBuffer x d s).flow x d = { s.flow x d with buffer := none } := by
  rw [releaseBuffer_eq h]
  split
  case isTrue =>
    simp only [woken, dropBuffer, set₂_self]
    rw [← hw]
  case isFalse hb =>
    have hnone := Option.not_isSome_iff_eq_none.mp hb
    rw [← hnone]

theorem releaseBuffer_queued (h : WaitersOK s.bufferWaiters s.bufferWaitQueued s.allocated s.flow)
    {y : SessionId} (hy : s.readyQueued y = true) : (releaseBuffer x d s).readyQueued y = true := by
  rw [releaseBuffer_eq h]
  split
  · simp [woken, dropBuffer, hy]
  · exact hy

theorem releaseBuffer_other (h : WaitersOK s.bufferWaiters s.bufferWaitQueued s.allocated s.flow) :
    (releaseBuffer x d s).flow x d.other = s.flow x d.other ∨
      ((releaseBuffer x d s).readyQueued x = true ∧ (releaseBuffer x d s).flow x d.other =
        { s.flow x d.other with bufferWaiting := false }) := by
  rw [releaseBuffer_eq h]
  split
  case isFalse => exact .inl rfl
  case isTrue =>
    have hflow : (woken (dropBuffer x d s)).flow x d.other =
        { s.flow x d.other with bufferWaiting := false } := by
      simp only [woken, dropBuffer, set₂_other _ d.other_ne]
    cases hw : (s.flow x d.other).bufferWaiting with
    | true => exact .inr ⟨by simp [woken, dropBuffer, h.waiting x d.other hw], hflow⟩
    | false => exact .inl (by rw [hflow, ← hw])

theorem Aside.releaseBuffer (hi : Inv s) (h : Aside P d x s) :
    Aside P d x (releaseBuffer x d s) := by
  have hu := releaseBuffer_undisturbed hi.waiters x d
  exact h.frame hu.pumping (by rw [hu.running]) (releaseBuffer_queued hi.waiters)
    (releaseBuffer_other hi.waiters) (by rw [hu.readable]) (by rw [hu.writable])

theorem AtEase.releaseBuffer (hi : Inv s) (h : AtEase d x s)
    (hw : (s.flow x d).bufferWaiting = false) : AtEase d x (releaseBuffer x d s) := by
  have hu := releaseBuffer_undisturbed hi.waiters x d
  rcases h with h | h
  · exact .inl (releaseBuffer_queued hi.waiters h)
  · refine .inr ?_
    rw [releaseBuffer_self hi.waiters hw, hu.readable, hu.writable]
    exact h

theorem DispatcherGuar.giveBack (hi : Inv s) (hp : Pumping x s) (hl : (s.flow x d).length = 0) :
    DispatcherGuar s (State.releaseBuffer x d s) := by
  obtain ⟨ha, hc, -⟩ := hi.phase.isRunning x hp.running
  exact DispatcherGuar.releaseBuffer hi.toCore ha hc (.inr hp.pumping) (.inr hl)
    (hi.waiter_unfinished)

theorem pumpRecv_again (hi : Inv s) (h : Aside P d x s) (hease : AtEase d x s)
    (hidle : Idle (s.flow x d)) :
    Inv (releaseBuffer x d s) ∧ DispatcherGuar s (releaseBuffer x d s) ∧
      CallPost P d x .again (releaseBuffer x d s) := by
  refine ⟨hi.releaseBuffer h.running h.pumping hidle.empty,
    DispatcherGuar.giveBack hi h.toPumping hidle.empty, h.releaseBuffer hi, ?_,
    hease.releaseBuffer hi hidle.active⟩
  unfold Rest Rested
  rw [releaseBuffer_self hi.waiters hidle.active]
  simp [hidle.open_]

theorem pumpRecv_eof (hi : Inv s) (h : Aside P d x s) (hidle : Idle (s.flow x d)) :
    let t := releaseBuffer x d s
    let t' := t.setFlow x d { t.flow x d with eof := true }
    Inv t' ∧ DispatcherGuar s t' ∧ CallPost P d x .eof t' := by
  intro t t'
  have hinv : Inv t := hi.releaseBuffer h.running h.pumping hidle.empty
  have haside : Aside P d x t := h.releaseBuffer hi
  have hflow : t.flow x d = { s.flow x d with buffer := none } :=
    releaseBuffer_self hi.waiters hidle.active
  have hnew : t'.flow x d = { t.flow x d with eof := true } := set₂_self _ _ _
  have hunshut : (s.flow x d).shutdowns = 0 := by
    rcases (hi.flows.ok x d).shut with hs | ⟨-, he⟩
    · exact hs
    · exact absurd (hidle.open_.symm.trans he) (by simp)
  have hundone : (s.flow x d).done = false := by
    cases hd : (s.flow x d).done with
    | false => rfl
    | true =>
      have := (hi.flows.ok x d).done hd
      omega
  have hempty : (t.flow x d).length = 0 := by rw [hflow]; exact hidle.empty
  refine ⟨?_, ?_, ?_, ?_⟩
  · refine hinv.setFlow haside.toPumping
      ((hinv.flows.ok x d).atEof hempty (by rw [hflow])) (fun _ => hempty) ?_ id rfl
    intro hw
    exact hinv.waiters.waiting x d hw
  · exact (DispatcherGuar.giveBack hi h.toPumping hidle.empty).trans
      (DispatcherGuar.setFlow hinv haside.toPumping d _)
  · exact haside.frame rfl rfl id (.inl (set₂_other _ d.other_ne _)) rfl rfl
  · rw [hnew, hflow]
    exact ⟨rfl, hundone, hunshut, hidle.active⟩

theorem pumpRecv_moved (hi : Inv s) (h : Aside P d x s) (hidle : Idle (s.flow x d))
    (hb : (s.flow x d).buffer.isSome = true) {data : List UInt8} (hd : data ≠ []) :
    let t := (setReadable x d.source s).setFlow x d ((s.flow x d).fill data)
    Inv t ∧ DispatcherGuar s t ∧ CallPost P d x .moved t := by
  intro t
  have hset : Inv (setReadable x d.source s) :=
    hi.withFlags h.pumping (fun y hy => set₂_ne _ hy _ _) (fun _ _ => rfl)
  have hnew : t.flow x d = (s.flow x d).fill data := set₂_self _ _ _
  have hsome : ((s.flow x d).fill data).buffer.isSome = (s.flow x d).buffer.isSome := by
    simp [Flow.fill]
  refine ⟨?_, ?_, ?_, ?_, ?_⟩
  · refine hset.setFlow ⟨h.pumping, h.running⟩
      ((hi.flows.ok x d).fill hidle.empty hidle.open_ hidle.active hd) ?_
      (hi.waiters.waiting x d) id hsome
    intro hnone
    rw [hb, hnone] at hsome
    exact absurd hsome (by simp)
  · exact (DispatcherGuar.setFlow hi h.toPumping d ((s.flow x d).fill data)).trans
      (DispatcherGuar.of_view rfl rfl)
  · exact h.frame rfl rfl id (.inl (set₂_other _ d.other_ne _))
      (set₂_other _ d.source_ne_dest.symm _) rfl
  · exact fun _ => set₂_self _ _ _
  · rw [hnew]
    intro he
    exact absurd (hidle.open_.symm.trans he) (by simp)

theorem pumpRecv_safe (h : HeadPost P d x .recv s) :
    Safe Inv dispatcherContract (CallPost P d x)
      (Prog.await (fun _ r => recvReply r) (pumpRecv d x)) s := by
  obtain ⟨haside, hease, hidle, hsome⟩ := h
  refine Safe.await fun t hr hi r hready => ?_
  have ht := haside.stable hr
  have htease := hease.stable haside.running hr
  rw [← (hr.kept x haside.running).flow] at hidle hsome
  unfold pumpRecv
  by_cases hagain : r.ret = -EAGAIN
  · obtain ⟨c, hc⟩ := countRecvEagain_eq d x t
    rw [if_pos hagain, hc]
    have hcount : Inv { t with hostRecvEagain := c } := { hi with }
    have hguar₀ : DispatcherGuar t { t with hostRecvEagain := c } := DispatcherGuar.of_view rfl rfl
    obtain ⟨hinv, hguar, hpost⟩ := pumpRecv_again (P := P) hcount
      (ht.frame rfl rfl id (.inl rfl) rfl rfl) htease hidle
    exact ⟨hinv, hguar₀.trans hguar, hpost⟩
  rw [if_neg hagain]
  by_cases hneg : r.ret < 0
  · rw [if_pos hneg]
    exact ⟨hi, DispatcherGuar.refl t, ht.toPumping, hneg⟩
  rw [if_neg hneg]
  by_cases hzero : r.ret = 0
  · rw [if_pos hzero]
    exact pumpRecv_eof hi ht hidle
  · rw [if_neg hzero]
    have hdata : r.data ≠ [] := by
      simp only [recvReply, hneg, decide_false, Bool.false_or, Bool.and_eq_true,
        decide_eq_true_eq] at hready
      rintro hnil
      rw [hnil] at hready
      exact hzero hready.1
    exact pumpRecv_moved hi ht hidle hsome hdata

/-! ## The loop -/

def LoopPost (P : Prop) (d : Dir) (x : SessionId) (status : ℤ) (s : State) : Prop :=
  Pumping x s ∧ status ≤ 0 ∧ (status = 0 → Aside P d x s ∧ Rest d x s ∧ AtEase d x s)

theorem pumpShutdown_safe (h : Aside P d x s) (he : Ending (s.flow x d)) :
    Safe Inv dispatcherContract (LoopPost P d x)
      (Prog.await (fun _ r => r.status) (pumpShutdown d x)) s := by
  refine Safe.await fun t hr hi r hready => ?_
  have ht := h.stable hr
  rw [← (hr.kept x h.running).flow] at he
  have hstatus : r.ret ≤ 0 := by simpa [Reply.status] using hready
  have hok := (hi.flows.ok x d).shutdown he (r.ret = 0)
  have heof := (hi.flows.ok x d).eof he.eof
  have hnew : (pumpShutdown d x t r).2.flow x d =
      { t.flow x d with
        shutdowns := (t.flow x d).shutdowns + 1
        done := if r.ret = 0 then true else (t.flow x d).done } := set₂_self _ _ _
  have haside : Aside P d x (pumpShutdown d x t r).2 :=
    ht.frame rfl rfl id (.inl (set₂_other _ d.other_ne _)) rfl rfl
  refine ⟨?_, DispatcherGuar.setFlow hi ht.toPumping d _, haside.toPumping, hstatus, ?_⟩
  · refine hi.setFlow ht.toPumping hok (fun _ => heof.1) (hi.waiters.waiting x d) ?_ rfl
    intro hd
    exact absurd (he.undone.symm.trans hd) (by simp)
  · intro hzero
    have hret : r.ret = 0 := hzero
    refine ⟨haside, ⟨?_, ?_⟩, .inr (.inl ?_)⟩
    · rw [hnew]
      intro hb
      simp [heof.2] at hb
    · rw [hnew]
      simp [hret]
    · rw [hnew]
      simp [hret]

theorem pumpLeave_safe (h : Aside P d x s) (hrest : Rest d x s) (left : ℕ)
    (hease : left = 0 ∨ AtEase d x s) :
    Safe Inv dispatcherContract (LoopPost P d x) (pumpLeave x left) s := by
  unfold pumpLeave
  by_cases hl : left = 0
  · rw [if_pos hl]
    refine Safe.block fun t hr hi _ => ?_
    have ht := h.stable hr
    have htrest := hrest.stable h.running hr
    obtain ⟨ha, -, -⟩ := hi.phase.isRunning x ht.running
    have hq : (queueSession x t).readyQueued x = true := by simp [queueSession_readyQueued, ha]
    refine ⟨hi.queueSession x,
      DispatcherGuar.queueSession (not_quiet_of_running hi.toCore ht.running),
      ⟨ht.pumping, ht.running⟩, le_refl _, fun _ => ⟨?_, htrest, .inl hq⟩⟩
    exact ht.frame rfl rfl (fun _ => hq) (.inl rfl) rfl rfl
  · rw [if_neg hl]
    exact ⟨h.toPumping, le_refl _, fun _ => ⟨h, hrest, hease.resolve_left hl⟩⟩

theorem pumpReceive_safe (h : HeadPost P d x .recv s) (left : ℕ) (again : Thread ℤ)
    (hagain : ∀ t, Aside P d x t → Rest d x t →
      Safe Inv dispatcherContract (LoopPost P d x) again t) :
    Safe Inv dispatcherContract (LoopPost P d x) (pumpReceive d x left again) s := by
  refine Safe.seq (pumpRecv_safe h) fun call t hpost => ?_
  cases call with
  | again => exact pumpLeave_safe hpost.1 hpost.2.1 left (.inr hpost.2.2)
  | fail status => exact ⟨hpost.1, le_of_lt hpost.2, fun hzero => by have := hpost.2; omega⟩
  | moved => exact hagain t hpost.1 hpost.2
  | eof =>
    refine Safe.seq (pumpShutdown_safe hpost.1 hpost.2) fun status u hloop => ?_
    by_cases hzero : status = 0
    · rw [if_pos hzero]
      obtain ⟨haside, hrest, hease⟩ := hloop.2.2 hzero
      exact pumpLeave_safe haside hrest left (.inr hease)
    · rw [if_neg hzero]
      exact hloop

theorem pumpDirection_safe (left : ℕ) (h : Aside P d x s) (hrest : Rest d x s) :
    Safe Inv dispatcherContract (LoopPost P d x) (pumpDirection d x left) s := by
  induction left generalizing s with
  | zero => exact pumpLeave_safe h hrest 0 (.inl rfl)
  | succ left ih =>
    refine Safe.seq (pumpHead_safe h hrest) fun head t hpost => ?_
    cases head with
    | leave => exact ⟨hpost.1.toPumping, le_refl _, fun _ => hpost⟩
    | send =>
      refine Safe.seq (pumpSend_safe hpost.1 hpost.2.1 hpost.2.2.1 hpost.2.2.2) ?_
      rintro call u ⟨hcall, hpost⟩
      cases call with
      | again => exact pumpLeave_safe hpost.1 hpost.2.1 left (.inr hpost.2.2)
      | fail status => exact ⟨hpost.1, le_of_lt hpost.2, fun hzero => by have := hpost.2; omega⟩
      | eof => exact absurd rfl hcall
      | moved => exact ih hpost.1 hpost.2
    | allocate =>
      refine Safe.seq (pumpAllocate_safe hpost) fun ok u hok => ?_
      cases ok with
      | true => exact pumpReceive_safe (hok.2 rfl) left _ fun _ => ih
      | false => exact ⟨hok.1, by decide, fun hzero => absurd hzero (by decide)⟩
    | recv => exact pumpReceive_safe hpost left _ fun _ => ih

end Tcpcc.Bridge
