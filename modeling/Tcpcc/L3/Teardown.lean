import Tcpcc.L3.Conservation

/-!
# Stopping the pump

`tcpcc_l3_teardown` raises `shutting_down` before it sleeps in `disable_irq` and `free_irq`, and
calls `kthread_stop` after them. A pump that is awake in between sees the flag and returns, so that
`kthread_stop` is handed a thread that is gone. It is handed a live one if the pump does not come
to its test in between.
-/

namespace Tcpcc.L3
open Device

variable {s t : Device}

def callsKthreadStop (s : Device) : Bool :=
  s.ioTask && match s.teardown with
    | .none => !s.irqRegistered
    | .freeIrq => true
    | _ => false

def testsInTeardown (s : Device) : Event → Bool
  | .pump _ => decide (s.pump = .awake) &&
      (decide (s.teardown = .disableIrq) || decide (s.teardown = .freeIrq))
  | _ => false

structure Kept (s : Device) : Prop where
  up : s.teardown = .none → s.shuttingDown = false
  running : s.teardown.halted = false →
    s.shouldStop = false ∧ (s.ioTask = true → s.pump.gone = false)

theorem Kept.wake (h : Kept s) : Kept s.wake := by
  unfold Device.wake
  split
  case isTrue => exact ⟨h.up, fun hopen => ⟨(h.running hopen).1, fun _ => rfl⟩⟩
  case isFalse => exact h

theorem Kept.xmit (h : Kept s) (skb : Skb) (linear : Bool) : Kept (s.xmit skb linear).2 := by
  have hhanded := xmit_cases skb linear s
  generalize (s.xmit skb linear).1 = answer, (s.xmit skb linear).2 = t at hhanded
  cases hhanded with
  | dropped | refused | queued => exact ⟨h.up, h.running⟩
  | first =>
    refine Kept.wake ?_
    exact ⟨h.up, h.running⟩

theorem TeardownAt.none_or_sleeping {at' : TeardownAt} (h : at'.halted = false) :
    at' = .none ∨ at' = .disableIrq ∨ at' = .freeIrq := by
  cases at' with
  | none => exact .inl rfl
  | disableIrq => exact .inr (.inl rfl)
  | freeIrq => exact .inr (.inr rfl)
  | kthreadStop | reaping | done => cases h

theorem PumpMove.gone {i : PumpInput} (h : PumpMove i s t) (hgone : t.pump.gone = true) :
    s.shouldStop = true ∨ s.pump = .awake ∧ s.shuttingDown = true := by
  cases h with
  | starts =>
    cases hstop : s.shouldStop with
    | true => exact .inl rfl
    | false =>
      simp only [hstop] at hgone
      cases hgone
  | exits hpump hstop =>
    obtain hstop | hstop := Bool.or_eq_true_iff.mp hstop
    · exact .inl hstop
    · exact .inr ⟨hpump, hstop⟩
  | sleeps | readYields | skips | resumes | drained | takes | writeYields => cases hgone
  | begins =>
    have hin := outside_beginRound s
    revert hgone hin
    cases s.beginRound.pump <;> simp [PumpAt.gone, PumpAt.outside]
  | reads =>
    revert hgone
    unfold Device.receive
    cases i.read <;> exact Bool.noConfusion
  | turns =>
    revert hgone
    unfold Device.unblock
    split_ifs <;> exact Bool.noConfusion
  | writes =>
    revert hgone
    unfold Device.write
    dsimp only
    split_ifs <;> exact Bool.noConfusion

theorem Kept.pump {i : PumpInput} (h : Kept s) (horder : Orderly s) (hmove : PumpMove i s t)
    (htest : testsInTeardown s (.pump i) = false) : Kept t := by
  have hframe := hmove.frame horder.outside
  refine ⟨?_, ?_⟩
  · rw [hframe.teardown, hframe.shuttingDown]
    exact h.up
  · rw [hframe.teardown, hframe.shouldStop]
    intro hopen
    obtain ⟨hstop, -⟩ := h.running hopen
    refine ⟨hstop, fun _ => Bool.eq_false_iff.mpr fun hgone => ?_⟩
    obtain htold | ⟨hawake, hdown⟩ := hmove.gone hgone
    · exact Bool.noConfusion (hstop.symm.trans htold)
    obtain hnone | hsleeping := TeardownAt.none_or_sleeping hopen
    · exact Bool.noConfusion ((h.up hnone).symm.trans hdown)
    · simp only [testsInTeardown, hawake, decide_true, Bool.true_and, Bool.or_eq_false_iff,
        decide_eq_false_iff_not] at htest
      exact hsleeping.elim htest.1 htest.2

theorem halted_quiesce (s : Device) : s.quiesce.teardown.halted = true := by
  unfold Device.quiesce
  dsimp only
  split <;> rfl

theorem Kept.of_halted (h : t.teardown.halted = true) : Kept t := by
  refine ⟨fun hnone => ?_, fun hopen => Bool.noConfusion (hopen.symm.trans h)⟩
  rw [hnone] at h
  cases h

theorem Kept.teardown (h : Kept s) (hmove : TeardownMove s t) : Kept t := by
  cases hmove with
  | disables hteardown =>
    exact ⟨TeardownAt.noConfusion, fun _ => h.running (by rw [hteardown]; rfl)⟩
  | bare => exact .of_halted (halted_quiesce _)
  | frees hteardown =>
    exact ⟨TeardownAt.noConfusion, fun _ => h.running (by rw [hteardown]; rfl)⟩
  | stops => exact .of_halted (halted_quiesce _)
  | joins => exact .of_halted rfl
  | reaps hteardown => exact .of_halted (by rw [hteardown]; rfl)
  | finishes => exact .of_halted rfl

theorem Kept.step {e : Event} (h : Kept s) (horder : Orderly s)
    (htest : testsInTeardown s e = false) (hstep : s.step e = some t) : Kept t := by
  cases step_cases hstep with
  | hands => exact h.xmit _ _
  | interrupts => exact Kept.wake ⟨h.up, h.running⟩
  | pumps _ hmove => exact h.pump horder hmove htest
  | opens | closes => exact ⟨h.up, h.running⟩
  | tearsDown hmove => exact h.teardown hmove

theorem kept_fresh (mtu : ℕ) (irq event task : Bool) : Kept (fresh mtu irq event task) where
  up _ := rfl
  running _ := by
    refine ⟨rfl, fun htask => ?_⟩
    simp only [fresh] at htask ⊢
    rw [htask]
    rfl

theorem kthreadStop_alive {mtu : ℕ} {irq event task : Bool} {es : List Event}
    (h : Machine.run step (fresh mtu irq event task) es = some s)
    (hmeets : Machine.meets step (fun s e => !testsInTeardown s e) (fresh mtu irq event task) es
      = true)
    (hcalls : callsKthreadStop s = true) : s.pump.gone = false := by
  have hinv : Orderly s ∧ Kept s := by
    refine Machine.run_invariant_meets (I := fun s => Orderly s ∧ Kept s) ?_
      ⟨orderly_fresh mtu irq event task, kept_fresh mtu irq event task⟩ h hmeets
    intro s e t hs htest hstep
    exact ⟨hs.1.step hstep, hs.2.step hs.1 ((Bool.not_eq_true_eq_eq_false _).mp htest) hstep⟩
  obtain ⟨htask, hteardown⟩ := Bool.and_eq_true_iff.mp hcalls
  refine (hinv.2.running ?_).2 htask
  cases hat : s.teardown with
  | none | disableIrq | freeIrq => rfl
  | kthreadStop | reaping | done =>
    rw [hat] at hteardown
    cases hteardown

theorem kthreadStop_alive_quiet :
    ∃ s, Machine.run step (fresh 1500 true true true)
        [.openDevice, .pump {}, .pump {}, .teardown, .teardown] = some s ∧
      callsKthreadStop s = true ∧ s.pump.gone = false := by
  obtain ⟨s, hs, hcalls⟩ : ∃ s, Machine.run step (fresh 1500 true true true)
      [.openDevice, .pump {}, .pump {}, .teardown, .teardown] = some s ∧
      callsKthreadStop s = true := ⟨_, rfl, rfl⟩
  exact ⟨s, hs, hcalls, kthreadStop_alive hs rfl hcalls⟩

/-- An interrupt makes the pump runnable, the teardown begins, and the pump runs while the teardown
sleeps in `disable_irq`. -/
theorem kthreadStop_gone :
    ∃ s, Machine.run step (fresh 1500 true true true)
        [.openDevice, .pump {}, .pump {}, .irq { readable := true }, .teardown, .pump {},
          .teardown] = some s ∧
      callsKthreadStop s = true ∧ s.pump = .exited :=
  ⟨_, rfl, rfl, rfl⟩

end Tcpcc.L3
