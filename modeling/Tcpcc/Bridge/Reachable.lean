import Tcpcc.Bridge.ControlSafe

/-!
# Reachable states of the bridge

The environment keeps the invariant and both contracts, the two threads keep them by
the preceding modules, so every configuration that the system reaches from boot
satisfies the invariant.
-/

namespace Tcpcc.Bridge
open Resumption State

variable {s s' : State} {c : Config} {x : SessionId}

/-! ## The environment -/

theorem markPublicReady_spec (hi : Inv s) (readable writable : Bool) (hx : ¬ Quiet x s) :
    Inv (markPublicReady x readable writable s) ∧
      DispatcherRely s (markPublicReady x readable writable s) ∧
      ControlRely s (markPublicReady x readable writable s) := by
  unfold markPublicReady
  split
  case isFalse => exact ⟨hi, DispatcherRely.refl s, ControlRely.refl s⟩
  case isTrue ha =>
    have hqueued : (queueSession x s).readyQueued x = true := by
      simp [queueSession_readyQueued, ha]
    have hmono : ∀ side, s.readable x side = true →
        set₂ s.readable x .publicSide (readable || s.readable x .publicSide) x side = true := by
      intro side hs
      rw [set₂_apply]
      split
      · rename_i hside
        rw [hside.2] at hs
        rw [hs, Bool.or_true]
      · exact hs
    refine ⟨?_, ?_, ?_⟩
    · exact (hi.queueSession x).raise (fun y hy => set₂_ne _ hy _ _) (fun y hy => set₂_ne _ hy _ _)
        hmono (.inl hqueued)
    · refine ⟨rfl, rfl, rfl, fun y hy => ?_, fun _ _ => id⟩
      by_cases hxy : y = x
      · subst hxy
        exact ⟨hy, rfl, id, fun _ => hqueued, hmono, .inl hqueued⟩
      · refine ⟨hy, rfl, id, fun hq => ?_, fun side hs => ?_,
          .inr ⟨set₂_ne _ hxy _ _, set₂_ne _ hxy _ _⟩⟩
        · simp [queueSession_readyQueued, hq]
        · show set₂ s.readable x .publicSide _ y side = true
          rw [set₂_ne _ hxy]
          exact hs
    · have hflags : ControlRely s { s with
          readable := set₂ s.readable x .publicSide (readable || s.readable x .publicSide)
          writable := set₂ s.writable x .publicSide (writable || s.writable x .publicSide) } :=
        ControlRely.of_view rfl
      exact hflags.trans (ControlRely.queueSession fun hq =>
        hx ⟨hq.finished, hq.silent, hq.detached, hq.unqueued⟩)

theorem publicCallback_spec (hi : Inv s) (w : Wakeup) (sk : SockId) :
    Inv (publicCallback w sk s) ∧ DispatcherRely s (publicCallback w sk s) ∧
      ControlRely s (publicCallback w sk s) := by
  unfold publicCallback
  cases hdata : (s.sock sk).userData with
  | null | listener => exact ⟨hi, DispatcherRely.refl s, ControlRely.refl s⟩
  | session x =>
    simp only
    split
    · exact markPublicReady_spec hi _ _ fun hq => hq.detached sk hdata
    · exact ⟨hi, DispatcherRely.refl s, ControlRely.refl s⟩

theorem runtimeIrq_spec (hi : Inv s) (e : HostEvent) (h : runtimeIrq e s = some s') :
    Inv s' ∧ DispatcherRely s s' ∧ ControlRely s s' := by
  unfold runtimeIrq at h
  split at h
  case isFalse => cases h
  case isTrue hroom =>
    cases h
    refine ⟨?_, DispatcherRely.of_view rfl, ControlRely.of_view rfl⟩
    have hcredits := hi.queue.credits
    have hmax : s.runtimeQueue.length ≠ Completion.UINT_MAX := by
      unfold Completion.UINT_MAX
      simp only [runtimeQueueLimit] at hroom
      omega
    exact
      { hi with
        queue :=
          { credits := by simp [Completion.complete, hmax, hcredits]
            bound := by
              rw [List.length_append]
              exact hroom } }

theorem foreign_userData {old new : Sock} (h : foreign old new = true) :
    new.userData = old.userData ∨ new.userData.isSession = false := by
  simp only [foreign, Bool.or_eq_true, Bool.and_eq_true, beq_iff_eq, Bool.not_eq_true'] at h
  rcases h with h | h
  · exact .inl h.1
  · exact .inr h.2

theorem environment_spec (e : Event) (hi : Inv s) (h : environment s e = some s') :
    Inv s' ∧ DispatcherRely s s' ∧ ControlRely s s' := by
  cases e with
  | callback w sk =>
    cases h
    exact publicCallback_spec hi w sk
  | hostEvent e => exact runtimeIrq_spec hi e h
  | sock sk v =>
    simp only [environment, Option.ite_none_right_eq_some, Option.some.injEq] at h
    obtain ⟨hforeign, rfl⟩ := h
    have hdata := foreign_userData hforeign
    exact ⟨hi.setSock hdata, DispatcherRely.of_sock _, ControlRely.setSock hdata⟩

/-! ## The system -/

theorem operation_safe (op : Op) (h : Calm s) :
    Safe Inv operationContract OutcomeOK op.program s := by
  have hsafe : Safe Inv (controlContract s.allocated op) OutcomeOK op.program s :=
    (program_safe op h).mono fun _ _ hpost => hpost.1
  exact Safe.weaken (C := controlContract s.allocated op) (D := operationContract)
    (fun _ _ hr => hr)
    (fun _ _ hg => ⟨_, _, hg⟩) hsafe

theorem bridge_compatible :
    bridge.Compatible Inv dispatcherContract operationContract SegmentOK OutcomeOK where
  guarA _ _ _ _ h := h.toControlRely
  guarB _ _ _ _ := fun ⟨_, _, h⟩ => h.toDispatcherRely
  env s e s' hi he := environment_spec e hi he
  stableA a s s' h hr _ := SegmentOK.stable a s s' h hr
  stableB a s s' h hr _ := OutcomeOK.stable a s s' h hr
  resumeA a _ p s hp _ h := by
    cases hp
    exact dispatcherThread_safe a h
  resumeB a op p s hp _ h := by
    cases hp
    exact operation_safe op h.calm

theorem reachable_sound (h : Reachable c) :
    System.Sound Inv dispatcherContract operationContract SegmentOK OutcomeOK c := by
  exact bridge_compatible.reachable h ⟨Inv.initial, ⟨rfl, rfl⟩, rfl, fun _ => rfl, rfl, rfl⟩

theorem reachable_inv (h : Reachable c) : Inv c.state := (reachable_sound h).1

theorem reachable_outcome (h : Reachable c) {a : Outcome} (ha : c.right = .ret a) :
    OutcomeOK a c.state := by
  have hright := (reachable_sound h).2.2
  rw [ha] at hright
  exact hright

end Tcpcc.Bridge
