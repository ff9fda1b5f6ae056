import Tcpcc.L3.Conservation

/-!
# The pump does not stall and does not spin

The pump sleeps only when there is nothing to read and nothing that the host would take, and each
of its rounds calls the host. A wakeup comes with the first packet of an empty queue and with
interrupts; writability is watched exactly while the host refuses packets.
-/

namespace Tcpcc.L3
open Device Transmit

variable {s t : Device}

def Worked (s : Device) : Prop := s.runtime.ioRounds = 0 ∨ 0 < s.roundReads + s.roundWrites

def RoundAt (s : Device) : PumpAt → Prop
  | .absent | .exited => True
  | .created => s.runtime.ioRounds = 0
  | .awake => Worked s
  | .asleep => Worked s ∧ s.rxReady = false ∧ s.txReady = false
  | .receiving n => s.roundReads = n ∧ s.roundWrites = 0
  | .received true => 0 < s.roundReads ∧ s.roundWrites = 0
  | .received false => s.txReady = true ∧ s.roundWrites = 0
  | .sending n =>
    s.roundWrites = n ∧ s.txBlocked = false ∧ (0 < s.roundReads + s.roundWrites ∨ s.held ≠ [])
  | .writing n =>
    s.roundWrites = n ∧ n < ioBudget ∧ s.txBlocked = false ∧ s.pending.isSome = true

structure Flow (s : Device) : Prop where
  stopped : s.opened = true → s.shuttingDown = false → s.stopped = true →
    txLowWatermark ≤ s.held.length
  interest : s.writeInterest = s.txBlocked
  blocked : s.pump ≠ .exited → s.txBlocked = true → s.pending.isSome = true
  emptyRounds : s.runtime.emptyRounds = 0
  reads : s.roundReads ≤ ioBudget
  writes : s.roundWrites ≤ ioBudget
  wakeups : s.runtime.txQueueWakeups ≤ s.enqueued.length

structure Live (s : Device) : Prop extends Flow s where
  round : RoundAt s s.pump

theorem txReady_eq_false : s.txReady = false ↔
    s.txBlocked = true ∧ s.txWritable = false ∨
      s.txBlocked = false ∧ s.queue = [] ∧ s.pending = none := by
  unfold txReady
  cases s.txBlocked with
  | true => simp
  | false => simp [and_comm]

theorem txReady_of_not_blocked (h : s.txBlocked = false) : s.txReady = true ↔ s.held ≠ [] := by
  unfold txReady held
  rw [h]
  cases s.pending with
  | none => simp
  | some skb => simp

/-! ## Interrupts and packets -/

structure Urges (s t : Device) : Prop where
  pump : t.pump = s.pump
  reads : t.roundReads = s.roundReads
  writes : t.roundWrites = s.roundWrites
  rounds : t.runtime.ioRounds = s.runtime.ioRounds
  txBlocked : t.txBlocked = s.txBlocked
  pending : t.pending = s.pending
  held : s.held ≠ [] → t.held ≠ []
  txReady : s.txReady = true → t.txReady = true

theorem Urges.worked (h : Urges s t) (hs : Worked s) : Worked t := by
  unfold Worked
  rw [h.rounds, h.reads, h.writes]
  exact hs

theorem Urges.round (h : Urges s t) (hs : RoundAt s s.pump) (hawake : t.pump ≠ .asleep) :
    RoundAt t t.pump := by
  rw [h.pump] at hawake ⊢
  cases hpump : s.pump with
  | absent | exited => exact trivial
  | created =>
    rw [hpump] at hs
    exact h.rounds.trans hs
  | awake =>
    rw [hpump] at hs
    exact h.worked hs
  | asleep => exact absurd hpump hawake
  | receiving n =>
    rw [hpump] at hs
    exact ⟨h.reads.trans hs.1, h.writes.trans hs.2⟩
  | received worked =>
    rw [hpump] at hs
    cases worked with
    | true => exact ⟨h.reads ▸ hs.1, h.writes.trans hs.2⟩
    | false => exact ⟨h.txReady hs.1, h.writes.trans hs.2⟩
  | sending n =>
    rw [hpump] at hs
    refine ⟨h.writes.trans hs.1, h.txBlocked.trans hs.2.1, ?_⟩
    rw [h.reads, h.writes]
    exact hs.2.2.imp id h.held
  | writing n =>
    rw [hpump] at hs
    exact ⟨h.writes.trans hs.1, hs.2.1, h.txBlocked.trans hs.2.2.1, h.pending ▸ hs.2.2.2⟩

theorem Urges.wake (h : Urges s t) (hs : RoundAt s s.pump) : RoundAt t.wake t.wake.pump := by
  unfold Device.wake
  split
  case isTrue hasleep =>
    rw [h.pump] at hasleep
    rw [hasleep] at hs
    exact h.worked hs.1
  case isFalse hawake => exact h.round hs hawake

theorem Urges.still (h : Urges s t) (hs : RoundAt s s.pump) (hrx : t.rxReady = s.rxReady)
    (htx : t.txReady = s.txReady) : RoundAt t t.pump := by
  by_cases hasleep : t.pump = .asleep
  · rw [← h.pump, hasleep] at hs
    rw [hasleep]
    exact ⟨h.worked hs.1, hrx.trans hs.2.1, htx.trans hs.2.2⟩
  · exact h.round hs hasleep

theorem Flow.wake (h : Flow s) : Flow s.wake := by
  unfold Device.wake
  split
  case isTrue hasleep =>
    refine ⟨h.stopped, h.interest, fun _ => h.blocked ?_, h.emptyRounds, h.reads, h.writes,
      h.wakeups⟩
    rw [hasleep]
    exact PumpAt.noConfusion
  case isFalse => exact h

theorem Live.irqHandler (h : Live s) (events : HostEvents) : Live (s.irqHandler events) := by
  unfold Device.irqHandler
  dsimp only
  refine ⟨Flow.wake ?_, Urges.wake (s := s) ?_ h.round⟩
  · exact ⟨h.stopped, h.interest, h.blocked, h.emptyRounds, h.reads, h.writes, h.wakeups⟩
  · refine ⟨rfl, rfl, rfl, rfl, rfl, rfl, id, ?_⟩
    unfold Device.txReady
    cases s.txBlocked with
    | true =>
      intro hready
      simp only [if_true] at hready
      simp only [if_true, hready, Bool.true_or]
    | false => exact id

theorem Urges.enqueue (skb : Skb) (stopped : Bool) (runtime : RuntimeStats)
    (hrounds : runtime.ioRounds = s.runtime.ioRounds) :
    Urges s { s with
      toTransmit := s.toTransmit.enqueue skb, stopped := stopped, runtime := runtime } := by
  refine ⟨rfl, rfl, rfl, hrounds, rfl, rfl, ?_, ?_⟩
  · intro _
    rw [held_enqueue]
    exact List.append_ne_nil_of_right_ne_nil _ (List.cons_ne_nil skb [])
  · unfold Device.txReady
    cases s.txBlocked with
    | true => exact id
    | false =>
      intro _
      simp [Transmit.enqueue]

theorem Flow.enqueue (h : Flow s) (skb : Skb) (runtime : RuntimeStats)
    (hempty : runtime.emptyRounds = 0) (hwakeups : runtime.txQueueWakeups ≤ s.enqueued.length + 1) :
    Flow { s with
      toTransmit := s.toTransmit.enqueue skb
      stopped := s.stopped || decide (s.queue.length + 1 ≥ txQueueLimit)
      runtime := runtime } where
  stopped hopened hup hstopped := by
    have hlength : (s.toTransmit.enqueue skb).held.length = s.held.length + 1 := by
      rw [held_enqueue, List.length_append, List.length_singleton]
    rw [hlength]
    obtain hstopped | hstopped := Bool.or_eq_true_iff.mp hstopped
    · exact Nat.le_succ_of_le (h.stopped hopened hup hstopped)
    · have hheld : s.queue.length ≤ s.held.length := by
        rw [Transmit.held, List.length_append]
        omega
      have hfull := of_decide_eq_true hstopped
      simp only [txQueueLimit, txLowWatermark] at hfull ⊢
      omega
  interest := h.interest
  blocked := h.blocked
  emptyRounds := hempty
  reads := h.reads
  writes := h.writes
  wakeups := by
    simp only [Transmit.enqueue, List.length_append, List.length_singleton]
    exact hwakeups

theorem txReady_enqueue (skb : Skb) (stopped : Bool) (runtime : RuntimeStats)
    (hqueue : s.queue ≠ []) :
    Device.txReady { s with
      toTransmit := s.toTransmit.enqueue skb, stopped := stopped, runtime := runtime } =
    s.txReady := by
  unfold Device.txReady
  cases s.txBlocked with
  | true => rfl
  | false =>
    have hne : s.queue.isEmpty = false := List.isEmpty_eq_false_iff.mpr hqueue
    simp [Transmit.enqueue, hne]

theorem Live.handed {skb : Skb} {answer : TxResult} (h : Live s) (hand : Handed skb s answer t) :
    Live t := by
  cases hand with
  | dropped error =>
    refine ⟨?_, Urges.still (s := s) ⟨rfl, rfl, rfl, rfl, rfl, rfl, id, id⟩ h.round rfl rfl⟩
    exact ⟨h.stopped, h.interest, h.blocked, h.emptyRounds, h.reads, h.writes, h.wakeups⟩
  | refused hfull =>
    refine ⟨?_, Urges.still (s := s) ⟨rfl, rfl, rfl, rfl, rfl, rfl, id, id⟩ h.round rfl rfl⟩
    refine ⟨fun _ _ _ => ?_, h.interest, h.blocked, h.emptyRounds, h.reads, h.writes, h.wakeups⟩
    rw [Transmit.held, List.length_append]
    simp only [txQueueLimit, txLowWatermark] at hfull ⊢
    omega
  | queued hroom hqueue =>
    refine ⟨h.enqueue skb _ h.emptyRounds (Nat.le_succ_of_le h.wakeups), ?_⟩
    exact (Urges.enqueue skb _ _ rfl).still h.round rfl (txReady_enqueue skb _ _ hqueue)
  | first =>
    refine ⟨Flow.wake ?_, ?_⟩
    · exact h.enqueue skb _ h.emptyRounds (Nat.succ_le_succ h.wakeups)
    · refine Urges.wake (Urges.enqueue skb _ _ ?_) h.round
      rfl

/-! ## The pump -/

/-- Interest changes succeed, and reads give a packet or `EAGAIN`. -/
def Calm : Event → Prop
  | .pump i => i.mod = 0 ∧ i.read ≠ .failed
  | _ => True

theorem Live.begins (h : Live s) (hpump : s.pump = .awake) (hwork : s.hasWork = true)
    (hgo : (s.shouldStop || s.shuttingDown) = false) : Live s.beginRound := by
  have hready : s.rxReady = false → s.txReady = true := by
    intro hrx
    rw [hasWork, hgo, hrx] at hwork
    exact hwork
  refine ⟨⟨h.stopped, h.interest, fun _ => h.blocked ?_, h.emptyRounds, Nat.zero_le _,
    Nat.zero_le _, h.wakeups⟩, ?_⟩
  · rw [hpump]
    exact PumpAt.noConfusion
  · unfold beginRound
    dsimp only
    split
    case isTrue => exact ⟨rfl, rfl⟩
    case isFalse hrx => exact ⟨hready (Bool.eq_false_iff.mpr hrx), rfl⟩

theorem Live.receive (h : Live s) {i : PumpInput} {n : ℕ} (hread : i.read ≠ .failed)
    (hpump : s.pump = .receiving n) (hbudget : n < ioBudget) : Live (s.receive i n) := by
  have hround := h.round
  rw [hpump] at hround
  obtain ⟨hreads, hwrites⟩ := hround
  have hblocked : s.txBlocked = true → s.pending.isSome = true :=
    h.blocked (by rw [hpump]; exact PumpAt.noConfusion)
  have hmore : s.roundReads + 1 ≤ ioBudget := by omega
  unfold Device.receive
  cases hi : i.read with
  | again =>
    exact ⟨⟨h.stopped, h.interest, fun _ => hblocked, h.emptyRounds, hmore, h.writes, h.wakeups⟩,
      Nat.succ_pos _, hwrites⟩
  | failed => exact absurd hi hread
  | packet bytes =>
    exact ⟨⟨h.stopped, h.interest, fun _ => hblocked, h.emptyRounds, hmore, h.writes, h.wakeups⟩,
      congrArg (· + 1) hreads, hwrites⟩

theorem Live.turns (h : Live s) {i : PumpInput} {worked : Bool} (hmod : i.mod = 0)
    (hpump : s.pump = .received worked) (hready : s.txReady = true) : Live (s.unblock i) := by
  have hwrites : s.roundWrites = 0 := by
    have hround := h.round
    rw [hpump] at hround
    cases worked with
    | true | false => exact hround.2
  have hblocked : s.txBlocked = true → s.pending.isSome = true :=
    h.blocked (by rw [hpump]; exact PumpAt.noConfusion)
  unfold unblock
  split
  case isTrue htx =>
    have hwritable : s.txWritable = true := by
      rwa [txReady, if_pos htx] at hready
    obtain ⟨skb, hskb⟩ := Option.isSome_iff_exists.mp (hblocked htx)
    rw [if_neg (by rw [hwritable]; exact Bool.noConfusion), if_neg (not_not.mpr hmod)]
    refine ⟨⟨h.stopped, rfl, fun _ hb => Bool.noConfusion hb, h.emptyRounds, h.reads, h.writes,
      h.wakeups⟩, hwrites, rfl, .inr ?_⟩
    rw [held_pending hskb]
    exact List.cons_ne_nil skb s.queue
  case isFalse htx =>
    have hfree : s.txBlocked = false := Bool.eq_false_iff.mpr htx
    exact ⟨⟨h.stopped, h.interest, fun _ => hblocked, h.emptyRounds, h.reads, h.writes, h.wakeups⟩,
      hwrites, hfree, .inr ((txReady_of_not_blocked hfree).mp hready)⟩

theorem Live.write (h : Live s) {i : PumpInput} {n : ℕ} {skb : Skb} (hmod : i.mod = 0)
    (hpump : s.pump = .writing n) (hpending : s.pending = some skb) : Live (s.write i n skb) := by
  have hround := h.round
  rw [hpump] at hround
  obtain ⟨hwrites, hbudget, hfree, -⟩ := hround
  have hmore : s.roundWrites + 1 ≤ ioBudget := by omega
  have hsome : s.pending.isSome = true := by rw [hpending, Option.isSome_some]
  unfold Device.write
  dsimp only
  split
  case isTrue =>
    unfold armWritable
    dsimp only
    rw [if_neg (not_not.mpr hmod)]
    exact ⟨⟨h.stopped, rfl, fun _ _ => hsome, h.emptyRounds, h.reads, hmore, h.wakeups⟩,
      .inr (Nat.succ_pos _)⟩
  case isFalse =>
    obtain ⟨stopped, heq, -, hlow⟩ := finishTx_some (s := { s with
      toTransmit := s.toTransmit.attempt skb i.ret
      roundWrites := s.roundWrites + 1 }) hpending i.ret
    rw [heq]
    refine ⟨⟨?_, h.interest, fun _ hb => ?_, h.emptyRounds, h.reads, hmore, h.wakeups⟩,
      congrArg (· + 1) hwrites, hfree, .inl (Nat.succ_pos _)⟩
    · intro _ hup hstopped
      exact (hlow hstopped).2 hup
    · exact Bool.noConfusion (hfree.symm.trans hb)

theorem Live.exits (h : Live s) : Live { finishTx (-ECANCELED) s with pump := .exited } := by
  cases hpending : s.pending with
  | none =>
    rw [finishTx_none hpending]
    exact ⟨⟨h.stopped, h.interest, fun hne => absurd rfl hne, h.emptyRounds, h.reads, h.writes,
      h.wakeups⟩, trivial⟩
  | some skb =>
    obtain ⟨stopped, heq, -, hlow⟩ := finishTx_some hpending (-ECANCELED)
    rw [heq]
    refine ⟨⟨?_, h.interest, fun hne => absurd rfl hne, h.emptyRounds, h.reads, h.writes,
      h.wakeups⟩, trivial⟩
    intro _ hup hstopped
    exact (hlow hstopped).2 hup

theorem Live.goes (h : Live s) {at' : PumpAt} (hpump : s.pump ≠ .exited)
    (ht : t = { s with
      toTransmit := t.toTransmit
      runtime := { s.runtime with
        rxBudgetYields := t.runtime.rxBudgetYields
        txBudgetYields := t.runtime.txBudgetYields }
      rxReady := t.rxReady
      pump := at' })
    (henqueued : t.enqueued = s.enqueued) (hheld : t.held = s.held)
    (hsome : s.pending.isSome = true → t.pending.isSome = true) (hround : RoundAt t at') :
    Live t := by
  have hflow : Flow t := by
    rw [ht]
    refine ⟨fun ho hu hs => ?_, h.interest, fun _ hb => hsome (h.blocked hpump hb), h.emptyRounds,
      h.reads, h.writes, ?_⟩
    · exact hheld ▸ h.stopped ho hu hs
    · exact henqueued ▸ h.wakeups
  refine ⟨hflow, ?_⟩
  have hat : t.pump = at' := by rw [ht]
  rw [hat]
  exact hround

theorem Live.pump (h : Live s) {i : PumpInput} (hmod : i.mod = 0) (hread : i.read ≠ .failed)
    (hmove : PumpMove i s t) : Live t := by
  have hround := h.round
  have hrunning : s.pump ≠ .exited := fun hexited => by
    have hgone := hmove.not_gone
    rw [hexited] at hgone
    cases hgone
  cases hmove with
  | starts hpump =>
    rw [hpump] at hround
    refine h.goes hrunning rfl rfl rfl id ?_
    split
    · exact trivial
    · exact .inl hround
  | sleeps hpump hidle =>
    rw [hpump] at hround
    simp only [hasWork, Bool.or_eq_false_iff] at hidle
    exact h.goes hrunning rfl rfl rfl id ⟨hround, hidle.1.2, hidle.2⟩
  | exits => exact h.exits
  | begins hpump hwork hgo => exact h.begins hpump hwork hgo
  | reads hpump hbudget => exact h.receive hread hpump hbudget
  | readYields hpump hbudget =>
    rw [hpump] at hround
    refine h.goes hrunning rfl rfl rfl id ⟨?_, hround.2⟩
    exact Nat.lt_of_lt_of_le (by decide) (hround.1 ▸ hbudget)
  | turns hpump hready => exact h.turns hmod hpump hready
  | @skips worked hpump hready =>
    rw [hpump] at hround
    cases worked with
    | true => exact h.goes hrunning rfl rfl rfl id (.inr (Nat.add_pos_left hround.1 _))
    | false => exact Bool.noConfusion (hready.symm.trans hround.1)
  | resumes hpump hbudget hpending =>
    rw [hpump] at hround
    refine h.goes hrunning rfl rfl rfl id ⟨hround.1, hbudget, hround.2.1, ?_⟩
    exact Option.isSome_iff_exists.mpr ⟨_, hpending⟩
  | drained hpump hbudget hpending hqueue =>
    rw [hpump] at hround
    refine h.goes hrunning rfl rfl rfl id (.inr ?_)
    refine hround.2.2.resolve_right (not_not.mpr ?_)
    rw [Transmit.held, hpending, hqueue]
    rfl
  | takes hpump hbudget hpending hqueue =>
    rw [hpump] at hround
    exact h.goes hrunning rfl rfl (held_take hpending hqueue) (fun _ => rfl)
      ⟨hround.1, hbudget, hround.2.1, rfl⟩
  | writeYields hpump hbudget =>
    rw [hpump] at hround
    refine h.goes hrunning rfl rfl rfl id (.inr (Nat.add_pos_right _ ?_))
    exact Nat.lt_of_lt_of_le (by decide) (hround.1 ▸ hbudget)
  | writes hpump hpending => exact h.write hmod hpump hpending

/-! ## Teardown, and whole runs -/

theorem Live.wake (h : Live s) : Live s.wake :=
  ⟨h.toFlow.wake, Urges.wake ⟨rfl, rfl, rfl, rfl, rfl, rfl, id, id⟩ h.round⟩

/-- Flags of the netdevice and of the teardown; the stopped queue means nothing when the device is
closed or shuts down. -/
theorem Live.flags (h : Live s) (ht : t = { s with
      shuttingDown := t.shuttingDown
      eventRegistered := t.eventRegistered
      irqRegistered := t.irqRegistered
      ioTask := t.ioTask
      opened := t.opened
      stopped := t.stopped
      shouldStop := t.shouldStop
      teardown := t.teardown })
    (hstopped : t.opened = true → t.shuttingDown = false → t.stopped = true →
      txLowWatermark ≤ t.held.length) : Live t := by
  refine ⟨⟨hstopped, ?_, ?_, ?_, ?_, ?_, ?_⟩, Urges.still (s := s) ?_ h.round ?_ ?_⟩
  · rw [ht]
    exact h.interest
  · rw [ht]
    exact h.blocked
  · rw [ht]
    exact h.emptyRounds
  · rw [ht]
    exact h.reads
  · rw [ht]
    exact h.writes
  · rw [ht]
    exact h.wakeups
  · rw [ht]
    exact ⟨rfl, rfl, rfl, rfl, rfl, rfl, id, id⟩
  · rw [ht]
  · rw [ht]
    rfl

theorem Live.quiesce (h : Live s) (hdown : s.shuttingDown = true) : Live s.quiesce := by
  have hvacuous : ∀ {p : Prop}, s.shuttingDown = false → p := fun hup =>
    Bool.noConfusion (hdown.symm.trans hup)
  have hstop : Live { s with stopped := true } := h.flags rfl fun _ hup _ => hvacuous hup
  unfold Device.quiesce
  dsimp only
  split_ifs
  · refine hstop.wake.flags rfl fun _ hup _ => hvacuous ?_
    revert hup
    unfold Device.wake
    split <;> exact id
  · exact h.flags rfl fun _ hup _ => hvacuous hup

theorem Live.reap {skb : Skb} {rest : List Skb} (h : Live s) (hdown : s.shuttingDown = true)
    (hgone : s.pump.gone = true) :
    Live { s with toTransmit := s.toTransmit.reap skb rest } := by
  refine ⟨⟨fun _ hup => Bool.noConfusion (hdown.symm.trans hup), h.interest, h.blocked,
    h.emptyRounds, h.reads, h.writes, h.wakeups⟩, ?_⟩
  cases hpump : s.pump with
  | absent | exited => exact trivial
  | created | awake | asleep | receiving | received | sending | writing =>
    rw [hpump] at hgone
    cases hgone

theorem Live.teardown (h : Live s) (horder : Orderly s) (hmove : TeardownMove s t) : Live t := by
  have hshut : Live { s with shuttingDown := true, eventRegistered := false } :=
    h.flags rfl fun _ hup => Bool.noConfusion hup
  cases hmove with
  | disables => exact hshut.flags rfl fun _ hup => Bool.noConfusion hup
  | bare => exact hshut.quiesce rfl
  | frees => exact h.flags rfl h.stopped
  | stops hteardown =>
    refine Live.quiesce (h.flags rfl h.stopped) (horder.down ?_)
    rw [hteardown]
    exact TeardownAt.noConfusion
  | joins => exact h.flags rfl h.stopped
  | reaps hteardown =>
    have hdown := horder.down (by rw [hteardown]; exact TeardownAt.noConfusion)
    exact h.reap hdown (horder.joined (by rw [hteardown, TeardownAt.joined]))
  | finishes => exact h.flags rfl h.stopped

theorem Live.step {e : Event} (h : Live s) (horder : Orderly s) (hcalm : Calm e)
    (hstep : s.step e = some t) : Live t := by
  cases step_cases hstep with
  | hands => exact h.handed (xmit_cases _ _ s)
  | interrupts => exact h.irqHandler _
  | pumps _ hmove => exact h.pump hcalm.1 hcalm.2 hmove
  | opens => exact h.flags rfl fun _ _ hs => Bool.noConfusion hs
  | closes => exact h.flags rfl fun ho => Bool.noConfusion ho
  | tearsDown hmove => exact h.teardown horder hmove

theorem live_fresh (mtu : ℕ) (irq event task : Bool) : Live (fresh mtu irq event task) where
  stopped h := Bool.noConfusion h
  interest := rfl
  blocked _ h := Bool.noConfusion h
  emptyRounds := rfl
  reads := Nat.zero_le _
  writes := Nat.zero_le _
  wakeups := Nat.zero_le _
  round := by
    cases task with
    | true => exact rfl
    | false => exact trivial

theorem run_live {es : List Event} (hcalm : ∀ e ∈ es, Calm e) (hs : Orderly s) (hlive : Live s)
    (h : Machine.run step s es = some t) : Live t := by
  induction es generalizing s with
  | nil =>
    cases h
    exact hlive
  | cons e es ih =>
    obtain ⟨u, hu, hrest⟩ := Machine.run_cons.mp h
    obtain ⟨he, hes⟩ := List.forall_mem_cons.mp hcalm
    exact ih hes (hs.step hu) (hlive.step hs he hu) hrest

theorem pump_never_stalls {mtu : ℕ} {irq event task : Bool} {es : List Event}
    (hcalm : ∀ i, .pump i ∈ es → i.mod = 0 ∧ i.read ≠ .failed)
    (h : Machine.run step (fresh mtu irq event task) es = some s) :
    (s.opened = true → s.shuttingDown = false →
      (s.stopped = true → txLowWatermark ≤ s.queue.length + s.pending.toList.length) ∧
      s.writeInterest = s.txBlocked ∧
      (s.pump = .asleep → s.rxReady = false ∧
        (s.txBlocked = true ∧ s.txWritable = false ∨ s.queue = [] ∧ s.pending = none))) ∧
    s.runtime.emptyRounds = 0 ∧
    (s.pump = .awake → s.runtime.ioRounds = 0 ∨ 0 < s.roundReads + s.roundWrites) ∧
    s.roundReads ≤ ioBudget ∧ s.roundWrites ≤ ioBudget ∧
    s.runtime.txQueueWakeups ≤ s.enqueued.length := by
  have hevents : ∀ e ∈ es, Calm e := by
    intro e he
    cases e with
    | pump i => exact hcalm i he
    | xmit | irq | openDevice | stopDevice | teardown => exact trivial
  have hlive := run_live hevents (orderly_fresh mtu irq event task)
    (live_fresh mtu irq event task) h
  have hround := hlive.round
  refine ⟨fun hopened hup => ⟨fun hstopped => ?_, hlive.interest, fun hasleep => ?_⟩,
    hlive.emptyRounds, fun hawake => ?_, hlive.reads, hlive.writes, hlive.wakeups⟩
  · have hheld := hlive.stopped hopened hup hstopped
    rw [Transmit.held, List.length_append] at hheld
    omega
  · rw [hasleep] at hround
    refine ⟨hround.2.1, (txReady_eq_false.mp hround.2.2).imp id And.right⟩
  · rw [hawake] at hround
    exact hround

def congestedRun : List Event :=
  [.openDevice, .pump {}, .xmit ⟨0, 40⟩ true, .pump {}, .pump {}, .pump {},
    .pump { ret := -EAGAIN }, .pump {}] ++
  (List.range 64).map (fun n => .xmit ⟨n + 1, 40⟩ true) ++ [.pump {}]

theorem pump_never_stalls_congested :
    ∃ s, Machine.run step (fresh 1500 true true true) congestedRun = some s ∧
      s.pump = .asleep ∧ s.txBlocked = true ∧ s.stopped = true ∧ s.writeInterest = true ∧
      txLowWatermark ≤ s.queue.length + s.pending.toList.length := by
  have hrun : (Machine.run step (fresh 1500 true true true) congestedRun).map (fun s =>
      (s.opened, s.shuttingDown, s.pump, s.txBlocked, s.stopped)) =
      some (true, false, .asleep, true, true) := by decide +kernel
  obtain ⟨s, hs, hfields⟩ := Option.map_eq_some_iff.mp hrun
  simp only [Prod.mk.injEq] at hfields
  obtain ⟨hopened, hup, hasleep, hblocked, hstopped⟩ := hfields
  have hcalm : ∀ e ∈ congestedRun, (match e with
      | .pump i => decide (i.mod = 0 ∧ i.read ≠ .failed)
      | _ => true) = true := by decide +kernel
  obtain ⟨hflow, -⟩ := pump_never_stalls (fun i hi => of_decide_eq_true (hcalm _ hi)) hs
  obtain ⟨hlow, hinterest, -⟩ := hflow hopened hup
  exact ⟨s, hs, hasleep, hblocked, hstopped, hinterest.trans hblocked, hlow hstopped⟩

end Tcpcc.L3
