import Tcpcc.Lib.RoundRobin
import Tcpcc.Runtime.Guarantees

/-!
# Whose turn it is

The ready queue with the listener in the hands of the worker is a queue that takes turns. While
admission is open and two listeners have connections waiting, every step of the runtime is a
step of that queue, so the connections accepted from the two differ by at most one. The bound
counts from a state in which neither is about to have two turns in a row: a listener that is
queued again between its removal from the queue and its accept keeps that place.
-/

namespace Tcpcc.Runtime
open Resumption State RoundRobin
open Bridge (SockId SessionId)

variable {c d : Config} {s s' : State} {e f : ListenerId}

def State.turns (s : State) : Turns ListenerId := ⟨s.readyList, s.entry, s.accepts⟩

def Pending (e : ListenerId) (s : State) : Prop :=
  e ∈ s.listeners ∧ s.starting ≠ some e ∧ s.acceptQueue (s.listenerSock e) ≠ []

instance (e : ListenerId) (s : State) : Decidable (Pending e s) :=
  inferInstanceAs (Decidable (_ ∧ _ ∧ _))

def Contended (e f : ListenerId) (s : State) : Prop :=
  admissionAvailable s = true ∧ Pending e s ∧ Pending f s

instance (e f : ListenerId) (s : State) : Decidable (Contended e f s) :=
  inferInstanceAs (Decidable (_ ∧ _ ∧ _))

theorem Contended.symm (h : Contended e f s) : Contended f e s := ⟨h.1, h.2.2, h.2.1⟩

theorem Contended.running (h : Contended e f s) (hi : Inv s) : s.running = true := by
  obtain ⟨havailable, ⟨hlisted, -, -⟩, -⟩ := h
  have hserves : s.allocated = true := by
    by_contra hdown
    rw [(hi.ready.dormant (by simpa using hdown)).1] at hlisted
    cases hlisted
  simp only [admissionAvailable, Bool.and_eq_true] at havailable
  simp [State.running, hserves, havailable.1.1, havailable.1.2]

theorem Pending.queued (h : Pending e s) (hi : Inv s) (hrun : s.running = true) :
    e ∈ s.readyList ∨ s.entry = some e := by
  obtain ⟨hlisted, hstarting, hqueue⟩ := h
  rcases hi.pending.pending hrun e hlisted hqueue with hq | hentry | hstart
  · exact .inl ((hi.ready.listed.mem e).mpr hq)
  · exact .inr hentry
  · exact absurd hstart hstarting

theorem Contended.engaged (h : Contended e f s) (hi : Inv s) : Engaged e f s.turns where
  nodup := hi.ready.listed.nodup
  first := h.2.1.queued hi (h.running hi)
  second := h.2.2.queued hi (h.running hi)

theorem QueueStep.turns (h : QueueStep s s') (hs : Contended e f s) (hs' : Contended e f s')
    (hi : Inv s) (hi' : Inv s') : Step e f s.turns s'.turns := by
  have hother : ∀ x, s.acceptQueue (s.listenerSock x) = [] → x ≠ e ∧ x ≠ f := fun x hx =>
    ⟨fun he => hs.2.1.2.2 (he ▸ hx), fun hf => hs.2.2.2.2 (hf ▸ hx)⟩
  cases h with
  | keep hlist hentry haccepts => exact .same hlist hentry haccepts
  | push x hnew hlist hentry haccepts => exact .join x hnew hlist hentry haccepts
  | pop x hnone hlist hentry haccepts => exact .take x hnone hlist hentry haccepts
  | drop x hentry hnone hlist haccepts hwhy =>
    rcases hwhy with hshut | hempty
    · exact absurd (hs.1.symm.trans hshut) (by simp)
    · exact .pass x (hother x hempty).1 (hother x hempty).2 hentry hnone hlist haccepts
  | accept x hentry hnone hlist haccepts => exact .serve x hentry hnone hlist haccepts
  | withdraw x hstart hlist hentry haccepts =>
    have hxe : x ≠ e := fun he => hs.2.1.2.1 (he ▸ hstart)
    have hxf : x ≠ f := fun hf => hs.2.2.2.1 (hf ▸ hstart)
    exact .leave x hxe hxf hlist hentry haccepts
  | off hoff =>
    rcases hoff with hoff | hoff
    · exact absurd ((hs.running hi).symm.trans hoff) (by simp)
    · exact absurd ((hs'.running hi').symm.trans hoff) (by simp)

def balance (e f : ListenerId) (s : State) : ℤ :=
  s.accepts e - s.accepts f - lead e f s.turns

theorem contended_run {ls : List Transition} (h : Reachable c) (hef : e ≠ f)
    (hrun : runtime.run c ls = some d)
    (hthrough : runtime.Throughout (fun d => Contended e f d.state) c ls) :
    balance e f d.state = balance e f c.state ∧
      (¬ Ahead e f c.state.turns → ¬ Ahead e f d.state.turns) ∧
      (¬ Ahead f e c.state.turns → ¬ Ahead f e d.state.turns) := by
  have hcarried := hthrough.carries runtime (K := fun d => Reachable d ∧
    balance e f d.state = balance e f c.state ∧
      (¬ Ahead e f c.state.turns → ¬ Ahead e f d.state.turns) ∧
      (¬ Ahead f e c.state.turns → ¬ Ahead f e d.state.turns))
    (fun b l b' hb hb' hk hs => ?_) ⟨h, rfl, id, id⟩ hrun
  · exact hcarried.2
  · obtain ⟨hreach, hbalance, hfirst, hsecond⟩ := hk
    have hnext : Reachable b' := hreach.step hs
    have hi := reachable_inv hreach
    have hi' := reachable_inv hnext
    have hstep := (reachable_law hreach hs).queue.turns hb hb' hi hi'
    refine ⟨hnext, (hstep.lead hef (hb.engaged hi) (hb'.engaged hi')).trans hbalance,
      fun hnot hahead => hfirst hnot (hstep.ahead hef (hb.engaged hi) hahead),
      fun hnot hahead => hsecond hnot
        (hstep.symm.ahead (Ne.symm hef) (hb.symm.engaged hi) hahead)⟩

/-- The ready queue holds each listener at most once, listeners join it at its end and leave it
at its head for the worker, and a pass accepts no more than its batch. While admission is open
and two listeners have connections waiting, each is served in turn, unless one of them is in the
hands of the worker at the start and has been queued again ahead of the other. -/
theorem reachable_round_robin (h : Reachable c) :
    c.state.readyList.Nodup ∧
    (∀ e, e ∈ c.state.readyList ↔ c.state.readyQueued e = true) ∧
    (∀ l c', runtime.step c l = some c' → c.state.running = true → c'.state.running = true →
      c'.state.readyList = c.state.readyList ∨
      (∃ e, e ∉ c.state.readyList ∧ c'.state.readyList = c.state.readyList ++ [e]) ∨
      (∃ e, c.state.readyList = e :: c'.state.readyList ∧ c'.state.entry = some e) ∨
      (∃ e, c.state.starting = some e ∧ c'.state.readyList = c.state.readyList.erase e)) ∧
    c.state.passAccepted ≤ c.state.acceptBatch ∧
    (∀ e f, e ≠ f → ¬ Ahead e f c.state.turns → ¬ Ahead f e c.state.turns →
      ∀ ls d, runtime.run c ls = some d →
        runtime.Throughout (fun d => Contended e f d.state) c ls →
        d.state.accepts e + c.state.accepts f ≤ d.state.accepts f + c.state.accepts e + 1) := by
  have hi := reachable_inv h
  refine ⟨hi.ready.listed.nodup, hi.ready.listed.mem, fun l c' hs hrun hrun' => ?_, hi.batch,
    fun e f hef hfirst hsecond ls d hrun hthrough => ?_⟩
  · cases (reachable_law h hs).queue with
    | keep hlist hentry haccepts => exact .inl hlist
    | push e hnew hlist hentry haccepts => exact .inr (.inl ⟨e, hnew, hlist⟩)
    | pop e hnone hlist hentry haccepts => exact .inr (.inr (.inl ⟨e, hlist, hentry⟩))
    | drop e hentry hnone hlist haccepts hwhy => exact .inl hlist
    | accept e hentry hnone hlist haccepts =>
      by_cases hmem : e ∈ c.state.readyList
      · exact .inl (by rw [hlist, if_pos hmem])
      · exact .inr (.inl ⟨e, hmem, by rw [hlist, if_neg hmem]⟩)
    | withdraw e hstart hlist hentry haccepts => exact .inr (.inr (.inr ⟨e, hstart, hlist⟩))
    | off hoff =>
      rcases hoff with hoff | hoff
      · exact absurd (hrun.symm.trans hoff) (by simp)
      · exact absurd (hrun'.symm.trans hoff) (by simp)
  · obtain ⟨hbalance, hfirst', hsecond'⟩ := contended_run h hef hrun hthrough
    have hstart := lead_mem hef hfirst hsecond
    have hend := lead_mem hef (hfirst' hfirst) (hsecond' hsecond)
    simp only [balance] at hbalance
    omega

/-! ## Two listeners -/

def pairRun : List Transition :=
  ask socketRequest [0, 0] ++ ask socketRequest [0, 0] ++
    ask (listenRequest 1) [0, 0, 0] ++ ask (listenRequest 2) [0, 0, 0] ++
    ask (startRequest 1 0 80) [0, 0, 0, 0, 0, 0, 0, 0, 0] ++ ask (startRequest 2 0 81) [0, 0, 0, 0]

def pairIdleRun : List Transition :=
  pairRun ++ work [0, 0, 0] ++ work [0, 0, -EAGAIN, 0] ++ work [0, 0, -EAGAIN, 0] ++ work [0, 0] ++
    work [0, 0, 0] ++ work [0, 0]

def bothRun : List Transition :=
  pairIdleRun ++ [.env (.arrival 0), .env (.arrival 0), .env (.arrival 0),
    .env (.arrival 1), .env (.arrival 1)]

def requeuedRun : List Transition :=
  pairIdleRun ++ [.env (.arrival 0)] ++ work [0, 0, 0] ++ work [0] ++
    [.env (.arrival 0), .env (.arrival 0), .env (.arrival 1)]

def rejectSteps : List Transition := [0, 0, -1, 0, 0, 0].map workerStep

def threeTurns : List Transition :=
  work [0, 0, 0] ++ (work [0] ++ rejectSteps) ++ (work [0] ++ rejectSteps) ++ work [0, 0] ++
    work [0, 0, 0] ++ (work [0] ++ rejectSteps)

theorem round_robin_both :
    (configAfter (bothRun ++ threeTurns)).state.accepts 0 = 2 ∧
      1 ≤ (configAfter (bothRun ++ threeTurns)).state.accepts 1 := by
  have hstart : (configAfter bothRun).state.accepts 0 = 0 ∧
      (configAfter bothRun).state.accepts 1 = 0 := by decide +kernel
  have hend : (configAfter (bothRun ++ threeTurns)).state.accepts 0 = 2 := by decide +kernel
  have hidle : (configAfter bothRun).state.entry = none := by decide +kernel
  obtain ⟨-, -, -, -, hturns⟩ := reachable_round_robin (reachable_configAfter bothRun)
  have hle := hturns 0 1 (by decide) (by simp [Ahead, State.turns, hidle])
    (by simp [Ahead, State.turns, hidle]) threeTurns (configAfter (bothRun ++ threeTurns))
    (runtime.run_after (by decide +kernel)) (by decide +kernel)
  refine ⟨hend, ?_⟩
  rw [hstart.1, hstart.2, hend] at hle
  omega

/-- A listener that is queued again by a callback before its accept has two turns in a row. -/
theorem requeued_listener_served_twice :
    ∃ c ls d e f, Reachable c ∧ runtime.run c ls = some d ∧ e ≠ f ∧
      runtime.Throughout (fun d => Contended e f d.state) c ls ∧
      d.state.accepts e = c.state.accepts e + 2 ∧ d.state.accepts f = c.state.accepts f := by
  refine ⟨configAfter requeuedRun, rejectSteps ++ work [0, 0, 0],
    configAfter (requeuedRun ++ (rejectSteps ++ work [0, 0, 0])), 0, 1,
    reachable_configAfter _, runtime.run_after (by decide +kernel), by decide,
    by decide +kernel, by decide +kernel, by decide +kernel⟩

end Tcpcc.Runtime
