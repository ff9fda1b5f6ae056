import Tcpcc.Bridge.Completion
import Tcpcc.Lib.StructFormat

/-!
# Bridge results and the supervisor that reads them

The hosted kernel copies `struct tcpcc_bridge_result` into its response; the reference supervisor
unpacks it and gives up on a result that breaks the contract of the bridge. An error that the host
reports while a session is connecting is only noted. The connection can come up nevertheless, if
the socket is writable and has no pending error, and such a session may end with status 0.
-/

namespace Tcpcc.Reference
open Records Resumption StructFormat Bridge

/-! ## The payload -/

/-- `struct tcpcc_bridge_result` as the bridge fills it. -/
def resultMembers (r : Result) : List (Kind × ℕ) :=
  [(.unsigned 8, r.token), (.unsigned 8, r.publicToBackendBytes),
    (.unsigned 8, r.backendToPublicBytes), (.unsigned 4, r.bufferLimit),
    (.unsigned 4, r.totalBufferLimit), (.unsigned 4, r.terminalEvents),
    (.unsigned 4, r.hostSendEagain), (.unsigned 4, r.hostPartialWrites),
    (.unsigned 4, r.hostRecvEagain), (.unsigned 4, r.sessionLimit),
    (.signed 4, ofSigned 4 r.status), (.unsigned 4, 0), (.unsigned 4, 0)]

def encodeBridgeResult (r : Result) : List UInt8 := store (resultMembers r)

def bridgeResultFormat : List Code := (codes "<QQQIIIIIIIiII".toList).getD []

def decodeBridgeResult (data : List UInt8) (allowTerminalError : Bool) : Except String Result :=
  match unpack bridgeResultFormat data with
  | none =>
    .error ("bridge result has size " ++ toString data.length ++ ", expected " ++
      toString (calcsize bridgeResultFormat))
  | some [.number token, .number publicToBackend, .number backendToPublic, .number bufferLimit,
      .number totalBufferLimit, .number terminalEvents, .number hostSendEagain,
      .number hostPartialWrites, .number hostRecvEagain, .number sessionLimit, .number status,
      .number reserved0, .number reserved1] =>
    if reserved0 ≠ 0 ∨ reserved1 ≠ 0 then
      .error ("bridge result reserved fields are " ++ toString reserved0 ++ "/" ++
        toString reserved1)
    else if status ≠ 0 ∧ !allowTerminalError then
      .error ("successful bridge response contains status " ++ toString status)
    else if 0 < status then
      .error ("bridge result contains positive terminal status " ++ toString status)
    else if sessionLimit < 1 then .error "bridge result reports a zero session limit"
    else .ok ⟨token.toNat, publicToBackend.toNat, backendToPublic.toNat, bufferLimit.toNat,
      totalBufferLimit.toNat, terminalEvents.toNat, hostSendEagain.toNat, hostPartialWrites.toNat,
      hostRecvEagain.toNat, sessionLimit.toNat, status⟩
  | some _ => .error "struct.error"

def bridgeSessionLimit : ℕ := 1048575
def bridgeBufferLimit : ℕ := 16 * 1024
def bridgeTotalBufferLimit : ℕ := 256 * 1024
def hostEventError : ℕ := 1 <<< 3

def validateBridgeContract (result : Result) : Except String Unit :=
  if result.sessionLimit ≠ bridgeSessionLimit then
    .error ("hosted bridge session limit is " ++ toString result.sessionLimit ++ ", expected " ++
      toString bridgeSessionLimit)
  else if result.bufferLimit ≠ bridgeBufferLimit ∨
      result.totalBufferLimit ≠ bridgeTotalBufferLimit then
    .error "hosted bridge buffer contract changed"
  else if result.status = 0 ∧ result.terminalEvents &&& hostEventError ≠ 0 then
    .error "successful hosted bridge result contains a host error event"
  else .ok ()

/-- What `_join_bridge_result` does with the payload of a successful response. -/
def checkBridgeResult (data : List UInt8) : Except String Unit := do
  let result ← decodeBridgeResult data true
  validateBridgeContract result

def asStored (r : Result) : Result where
  token := r.token % 2 ^ 64
  publicToBackendBytes := r.publicToBackendBytes % 2 ^ 64
  backendToPublicBytes := r.backendToPublicBytes % 2 ^ 64
  bufferLimit := r.bufferLimit % 2 ^ 32
  totalBufferLimit := r.totalBufferLimit % 2 ^ 32
  terminalEvents := r.terminalEvents % 2 ^ 32
  hostSendEagain := r.hostSendEagain % 2 ^ 32
  hostPartialWrites := r.hostPartialWrites % 2 ^ 32
  hostRecvEagain := r.hostRecvEagain % 2 ^ 32
  sessionLimit := r.sessionLimit % 2 ^ 32
  status := r.status

theorem decode_encodeBridgeResult {r : Result} (hlow : -2 ^ 31 ≤ r.status) (hhigh : r.status ≤ 0)
    (hlimit : 1 ≤ r.sessionLimit % 2 ^ 32) :
    decodeBridgeResult (encodeBridgeResult r) true = .ok (asStored r) := by
  have hunpack := unpack_store (resultMembers r)
  rw [show ((resultMembers r).map fun m => .item m.1) = bridgeResultFormat from rfl] at hunpack
  have hstatus : toSigned 4 (ofSigned 4 r.status % 256 ^ 4) = r.status := by
    rw [Nat.mod_eq_of_lt (ofSigned_lt 4 r.status), toSigned_ofSigned (by omega) (by omega)]
  have hpositive : ¬ 0 < r.status := by omega
  have hlimit' : ¬ ((r.sessionLimit % 256 ^ 4 : ℕ) : ℤ) < 1 := by omega
  unfold decodeBridgeResult
  rw [encodeBridgeResult, hunpack]
  simp only [resultMembers, List.map_cons, List.map_nil, Kind.load, Kind.size, decode_encode,
    hstatus, Nat.zero_mod, Nat.cast_zero, ne_eq, not_true_eq_false, or_self, Bool.not_true,
    Bool.false_eq_true, and_false, if_false, hpositive, hlimit', Int.toNat_natCast]
  rfl

theorem validate_asStored {r : Result} (hbuffer : r.bufferLimit = bufferLimit)
    (htotal : r.totalBufferLimit = totalBufferLimit) (hsessions : r.sessionLimit = sessionLimit)
    (hevents : r.status = 0 → r.terminalEvents &&& eventError = 0) :
    validateBridgeContract (asStored r) = .ok () := by
  have hbit : r.terminalEvents % 2 ^ 32 &&& hostEventError = r.terminalEvents &&& eventError := by
    rw [← Nat.and_two_pow_sub_one_eq_mod, Nat.and_assoc]
    congr 1
  have hbuffer' : r.bufferLimit % 2 ^ 32 = bridgeBufferLimit := by rw [hbuffer]; rfl
  have htotal' : r.totalBufferLimit % 2 ^ 32 = bridgeTotalBufferLimit := by rw [htotal]; rfl
  have hsessions' : r.sessionLimit % 2 ^ 32 = bridgeSessionLimit := by rw [hsessions]; rfl
  have hnoerror : ¬ (r.status = 0 ∧ r.terminalEvents &&& eventError ≠ 0) :=
    fun h => h.2 (hevents h.1)
  simp only [validateBridgeContract, asStored, hbuffer', htotal', hsessions', hbit, ne_eq,
    not_true_eq_false, or_self, if_false, if_neg hnoerror]

/-! ## Results of a run -/

/-- The step does not complete the start of session `x` after the host reported an error for it. -/
def ConnectsCleanly (x : SessionId) (c : Config) (l : Transition) : Prop :=
  ∀ d ∈ bridge.step c l, c.state.connecting x = true → d.state.connecting x = false →
    d.state.allocated x = true → d.state.terminalEvents x &&& eventError = 0

instance (x : SessionId) (c : Config) (l : Transition) : Decidable (ConnectsCleanly x c l) :=
  inferInstanceAs (Decidable (∀ d ∈ bridge.step c l, _ → _ → _ → _))

theorem step_overlooked {c c' : Config} {l : Transition} {x : SessionId} (h : Reachable c)
    (hs : bridge.step c l = some c') (hx : Overlooked x c'.state) :
    Overlooked x c.state ∨ (c.state.connecting x = true ∧ c'.state.allocated x = true) := by
  have htransition : Overlooked x c'.state → Overlooked x c.state ∨
      (c.state.connecting x = true ∧ (x ≠ c.state.nextSession →
        c'.state.finishedNotified x = c.state.finishedNotified x)) := by
    refine (reachable_sound h).transition (R := fun s s' => Overlooked x s' → Overlooked x s ∨
      (s.connecting x = true ∧ (x ≠ s.nextSession →
        s'.finishedNotified x = s.finishedNotified x))) (fun _ => .inl) ?_ ?_ ?_ hs
    · exact fun _ _ hguar hx => .inl (hguar.overlooked x hx)
    · rintro _ _ ⟨live, op, hguar⟩ hx
      exact (hguar.overlooked x hx).imp_right fun hc => ⟨hc, hguar.finish x⟩
    · exact fun _ e _ hi he hx => .inl ((environment_spec e hi he).2.2.overlooked x hx)
  refine (htransition hx).imp_right fun ⟨hc, hfinish⟩ => ⟨hc, ?_⟩
  have hi := reachable_inv h
  obtain ⟨ha, -, hunfinished, -⟩ := hi.phase.isConnecting x hc
  have hnext : x ≠ c.state.nextSession := (hi.active.fresh x ha).ne
  rcases hx.2.1 with hx | hx
  · exact hx
  · rw [hfinish hnext, hunfinished] at hx
    cases hx

theorem run_not_overlooked {c : Config} {ls : List Transition} {x : SessionId}
    (hclean : bridge.Along (ConnectsCleanly x) boot ls) (hrun : bridge.run boot ls = some c) :
    Reachable c ∧ ¬ Overlooked x c.state := by
  refine System.Along.carries bridge (K := fun c => Reachable c ∧ ¬ Overlooked x c.state)
    (fun c l c' hok hc hs => ⟨reachable_step hc.1 hs, fun hx => ?_⟩) hclean
    ⟨⟨[], rfl⟩, fun hx => by simp [Overlooked, boot, State.initial] at hx⟩ hrun
  rcases step_overlooked hc.1 hs hx with hold | ⟨hconn, halloc⟩
  · exact hc.2 hold
  · exact hx.2.2.2 (hok c' hs hconn hx.1 halloc)

/-- The supervisor accepts the result of every session whose start was not completed over an error
that the host had reported for it. -/
theorem run_results_accepted {c : Config} {ls : List Transition} {x : SessionId} {ret : ℤ}
    {result : Result} {cleanup : ℤ} (hrun : bridge.run boot ls = some c)
    (hclean : bridge.Along (ConnectsCleanly x) boot ls)
    (hret : c.right = .ret (.reaped x ret result cleanup)) (hint : -2 ^ 31 ≤ result.status) :
    checkBridgeResult (encodeBridgeResult result) = .ok () := by
  obtain ⟨hreach, hnot⟩ := run_not_overlooked hclean hrun
  obtain ⟨hcalm, hreaped⟩ := reachable_outcome hreach hret
  obtain ⟨hle, hneg⟩ := hreaped.status_le (reachable_inv hreach)
  obtain ⟨hbuffer, htotal, hsessions⟩ := hreaped.limits
  have hevents : result.status = 0 → result.terminalEvents &&& eventError = 0 := by
    intro hzero
    by_contra herror
    rw [hreaped.events] at herror
    refine hnot ⟨hcalm.connected x, .inr hreaped.finished, ?_, herror⟩
    by_contra hne
    have := (hneg hne).2
    omega
  have hlimit : 1 ≤ result.sessionLimit % 2 ^ 32 := by
    rw [hsessions]
    decide
  rw [checkBridgeResult, decode_encodeBridgeResult hint hle hlimit]
  exact validate_asStored hbuffer htotal hsessions hevents

theorem results_accepted_transfer :
    joined (configAfter (transferRun ++ joinRun)) = some (0, 0, transferResult 0, 0) ∧
      checkBridgeResult (encodeBridgeResult (transferResult 0)) = .ok () := by
  have hrun : bridge.run (configAfter []) (transferRun ++ joinRun) =
      some (configAfter (transferRun ++ joinRun)) := run_configAfter (by decide +kernel)
  exact ⟨joined_transferRun, run_results_accepted hrun (by decide +kernel)
    (right_of_joined joined_transferRun) (by decide)⟩

def noisy : Transition → Transition
  | .env (.hostEvent e) => .env (.hostEvent ⟨e.token, eventWritable ||| eventError⟩)
  | l => l

/-- The socket has no pending error, so the connection comes up and both streams pass; the session
ends with status 0 and the supervisor gives up. -/
theorem noisy_connect_rejected :
    (bridge.run boot ((transferRun ++ joinRun).map noisy)).isSome = true ∧
      ∃ result, joined (configAfter ((transferRun ++ joinRun).map noisy)) = some (0, 0, result, 0) ∧
        result.status = 0 ∧ checkBridgeResult (encodeBridgeResult result) =
          .error "successful hosted bridge result contains a host error event" := by
  refine ⟨by decide +kernel, { transferResult 0 with terminalEvents := eventError }, ?_, rfl, ?_⟩
  · decide +kernel
  · decide +kernel

end Tcpcc.Reference
