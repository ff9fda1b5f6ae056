import Tcpcc.Native.Config
import Tcpcc.Native.Shutdown

/-!
# What the supervisor asks of the hosted kernel

`tcpcc_runtime_start` and `tcpcc_shutdown_runtime` as sequences of control transactions, whatever
their outcomes. A transaction fails, or gives a response with any status.
-/

namespace Tcpcc.Native
open Control Records

inductive Dialogue (α : Type)
  | done (a : α)
  | ask (q : Request) (next : Option Response → Dialogue α)

namespace Dialogue

def bind {α β : Type} : Dialogue α → (α → Dialogue β) → Dialogue β
  | .done a, k => k a
  | .ask q next, k => .ask q fun r => (next r).bind k

instance : Monad Dialogue where
  pure := .done
  bind := bind

/-- The transactions with the given outcomes, of which some were used before. -/
def run {α : Type} (answer : ℕ → Option Response) :
    Dialogue α → ℕ → α × List (Request × Option Response)
  | .done a, _ => (a, [])
  | .ask q next, used =>
    let (a, log) := (next (answer used)).run answer (used + 1)
    (a, (q, answer used) :: log)

def controlCall (op handle arg0 : ℕ) (data : List UInt8) : Dialogue (ℤ × Option Response) :=
  .ask (request op handle arg0 0 data) fun
    | none => .done (-1, none)
    | some r => .done (r.status, some r)

end Dialogue

/-! ## Payloads -/

def bytesOf (text : String) : List UInt8 := text.toList.map fun c => UInt8.ofNat c.toNat

def addressBytes : ℕ := 16

def ipAddress (version : ℕ) (packed : List UInt8) : List UInt8 :=
  encodeLittle 1 version ++ encodeLittle 3 0 ++
    (packed ++ List.replicate addressBytes 0).take addressBytes

def ipEndpoint (version : ℕ) (packed : List UInt8) (port : ℕ) : List UInt8 :=
  ipAddress version packed ++ encodeLittle 2 port ++ encodeLittle 2 0

def l3Config (version : ℕ) (packed : List UInt8) (prefixLen : ℕ) : List UInt8 :=
  ipAddress version packed ++ encodeLittle 1 prefixLen ++ encodeLittle 3 0

def backendIpv4 : ℕ := 0x7f000001
def defaultAcceptBatch : ℕ := 64

def serviceConfig (backendPort maxConnections : ℕ) : List UInt8 :=
  encodeLittle 4 backendIpv4 ++ encodeLittle 2 backendPort ++ encodeLittle 2 0 ++
    encodeLittle 4 maxConnections ++ encodeLittle 4 defaultAcceptBatch

def helloSize : ℕ := 88
def hostedTunFd : ℕ := 3

def featureHostedService : ℕ := 1 <<< 1
def featureDynamicFlows : ℕ := 1 <<< 2
def featureIpEndpoints : ℕ := 1 <<< 3
def featureMultiListener : ℕ := 1 <<< 5

def requiredFeatures (routeCount : ℕ) : ℕ :=
  (featureHostedService ||| featureDynamicFlows ||| featureIpEndpoints) |||
    (if 1 < routeCount then featureMultiListener else 0)

/-- The version, the features and the capacity in `struct tcpcc_control_hello` will do. -/
def helloSuits (config : Config) (r : Response) : Bool :=
  r.length == helloSize && field r.data 0 4 == controlVersion &&
    (field r.data 4 4 &&& requiredFeatures config.routes.length) ==
      requiredFeatures config.routes.length &&
    config.maxConnections ≤ field r.data 8 4

def newHandle : ℤ × Option Response → Option ℕ
  | (0, some r) => if 0 < r.handle ∧ r.handle < 2 ^ 31 then some r.handle else none
  | _ => none

def verifiesCc (cc : String) : ℤ × Option Response → Bool
  | (0, some r) => r.length == (bytesOf cc).length && r.data.take r.length == bytesOf cc
  | _ => false

namespace Dialogue

def startRoute (inet : Inet) (config : Config) (route : Route) : Dialogue (Option ℕ) := do
  let opened ← controlCall opSocketIp 0 route.listen.version []
  match newHandle opened with
  | none => pure none
  | some listener =>
    let selected ← controlCall opSetCc listener 0 (bytesOf config.cc)
    if selected.1 ≠ 0 then pure none
    else
      let shown ← controlCall opGetCc listener 0 []
      if verifiesCc config.cc shown = false then pure none
      else
        match inet.pton route.listen.version config.tunGuest with
        | none => pure none
        | some packed =>
          let bound ← controlCall opBindIp listener 0
            (ipEndpoint route.listen.version packed route.listen.port)
          if bound.1 ≠ 0 then pure none
          else
            let listening ← controlCall opListen listener config.backlog []
            if listening.1 ≠ 0 then pure none
            else
              let started ← controlCall opServiceStart listener 0
                (serviceConfig route.backend.port config.maxConnections)
              pure (newHandle started)

def startRoutes (inet : Inet) (config : Config) (service : ℕ) : List Route → Dialogue Bool
  | [] => pure true
  | route :: routes => do
    let started ← startRoute inet config route
    if started = some service then startRoutes inet config service routes else pure false

/-- `tcpcc_runtime_start` behind the start of the process: whether it succeeds, and the handle of
the service if there is one. -/
def runtimeStart (inet : Inet) (config : Config) : Dialogue (Bool × Option ℕ) :=
  match config.routes with
  | [] => pure (false, none)
  | first :: routes => do
    let hello ← controlCall opHello 0 0 []
    if hello.1 ≠ 0 ∨ (hello.2.map (helloSuits config)).getD false = false then pure (false, none)
    else
      let version := first.listen.version
      match inet.pton version config.tunGuest with
      | none => pure (false, none)
      | some packed =>
        let attached ← controlCall opL3AttachIp hostedTunFd 0
          (l3Config version packed (if version = 4 then 32 else 128))
        match newHandle attached with
        | none => pure (false, none)
        | some _ =>
          match ← startRoute inet config first with
          | none => pure (false, none)
          | some service =>
            let started ← startRoutes inet config service routes
            pure (started, some service)

/-- The transactions of `tcpcc_shutdown_runtime`. -/
def shutdownRuntime (graceMs handle : ℕ) : Dialogue Bool := do
  let stats ← controlCall opServiceStats handle 0 []
  if stats.1 ≠ 0 ∨ holdsStats stats.2 = false then pure false
  else
    let drained ← controlCall opServiceDrain handle (if graceMs = 0 then 1 else graceMs) []
    if drained.1 ≠ -ETIMEDOUT ∧ drained.1 ≠ 0 then pure false
    else
      let stopped ← controlCall opServiceStop handle controlTimeout []
      if stopped.1 ≠ 0 ∨ holdsStats stopped.2 = false then pure false
      else
        let shut ← controlCall opShutdown 0 0 []
        pure (decide (shut.1 = 0))

/-- The request of `main` before it gives up on the process. -/
def stopService (handle : ℕ) : Dialogue Unit := do
  let _ ← controlCall opServiceStop handle controlTimeout []
  pure ()

/-! ## With a responder -/

def serve {α σ : Type} (respond : Request → σ → Option (Response × σ)) :
    Dialogue α → σ → α × List (Request × Option Response) × σ
  | .done a, s => (a, [], s)
  | .ask q next, s =>
    match respond q s with
    | none =>
      let (a, log, s) := (next none).serve respond s
      (a, (q, none) :: log, s)
    | some (r, s) =>
      let (a, log, s) := (next (some r)).serve respond s
      (a, (q, some r) :: log, s)

theorem serve_bind {α β σ : Type} {respond : Request → σ → Option (Response × σ)}
    {d : Dialogue α} {k : α → Dialogue β} {s t : σ} {a : α} {log : List (Request × Option Response)}
    (h : d.serve respond s = (a, log, t)) :
    (d >>= k).serve respond s = (((k a).serve respond t).1,
      log ++ ((k a).serve respond t).2.1, ((k a).serve respond t).2.2) := by
  induction d generalizing s log with
  | done b =>
    cases h
    rfl
  | ask q next ih =>
    change (Dialogue.ask q fun r => (next r).bind k).serve respond s = _
    simp only [serve] at h ⊢
    split at h
    · cases h
      rw [show ((next none).bind k).serve respond s = _ from ih none rfl]
      rfl
    case h_2 r s' _ =>
      cases h
      rw [show ((next (some r)).bind k).serve respond s' = _ from ih (some r) rfl]
      rfl

section
variable {α β σ : Type} {respond : Request → σ → Option (Response × σ)} {s t : σ}

def Serves (respond : Request → σ → Option (Response × σ)) (d : Dialogue α) (s : σ)
    (P : α → List (Request × Option Response) → σ → Prop) : Prop :=
  P (d.serve respond s).1 (d.serve respond s).2.1 (d.serve respond s).2.2

theorem Serves.mono {d : Dialogue α} {P Q : α → List (Request × Option Response) → σ → Prop}
    (h : Serves respond d s P) (hPQ : ∀ a log t, P a log t → Q a log t) : Serves respond d s Q :=
  hPQ _ _ _ h

theorem Serves.bind {d : Dialogue α} {k : α → Dialogue β}
    {P : β → List (Request × Option Response) → σ → Prop}
    (h : Serves respond d s fun a log t =>
      Serves respond (k a) t fun b log' u => P b (log ++ log') u) :
    Serves respond (d >>= k) s P := by
  unfold Serves
  rw [serve_bind (k := k) (rfl : d.serve respond s = (_, _, _))]
  exact h

theorem Serves.call {op handle arg0 : ℕ} {data : List UInt8} {r : Response}
    {k : ℤ × Option Response → Dialogue β}
    {P : β → List (Request × Option Response) → σ → Prop}
    (hr : respond (request op handle arg0 0 data) s = some (r, t))
    (h : Serves respond (k (r.status, some r)) t fun b log u =>
      P b ((request op handle arg0 0 data, some r) :: log) u) :
    Serves respond (controlCall op handle arg0 data >>= k) s P := by
  refine Serves.bind ?_
  unfold Serves
  simp only [controlCall, serve, hr]
  exact h

end

/-! ## On a clock -/

/-- The dialogue on the clock of its transactions, whether they fail or not. -/
def onClock {α : Type} (hosted : Hosted) : Dialogue α → ℕ → α × ℕ
  | .done a, now => (a, now)
  | .ask q next, now =>
    match controlTransact hosted q now with
    | .failed now => (next none).onClock hosted now
    | .ok r now => (next (some r)).onClock hosted now

theorem onClock_call {β : Type} (hosted : Hosted) (op handle arg0 now : ℕ)
    (k : ℤ × Option Response → Dialogue β) :
    (controlCall op handle arg0 [] >>= k).onClock hosted now =
      let (result, r, now) := Native.controlCall hosted op handle arg0 now
      (k (result, r)).onClock hosted now := by
  change (Dialogue.ask _ _).onClock hosted now = _
  rw [onClock, Native.controlCall]
  cases controlTransact hosted (request op handle arg0 0 []) now <;> rfl

/-- The transactions of `tcpcc_shutdown_runtime` on a clock are the function with deadlines. -/
theorem shutdownRuntime_onClock (hosted : Hosted) (graceMs handle now : ℕ) :
    Native.shutdownRuntime hosted graceMs handle now =
      let (ended, now) := (shutdownRuntime graceMs handle).onClock hosted now
      (if ended then 0 else -1, now) := by
  unfold Native.shutdownRuntime serviceStats shutdownRuntime
  rw [onClock_call]
  rcases Native.controlCall hosted opServiceStats handle 0 now with ⟨result, r, t₁⟩
  by_cases hresult : result = 0
  case neg => simp [hresult, onClock, pure]
  by_cases hstats : holdsStats r = false
  case pos => simp [hresult, hstats, onClock, pure]
  simp only [hresult, hstats, ne_eq, not_true_eq_false, Bool.true_eq_false, or_self, if_true,
    if_false]
  rw [onClock_call]
  rcases Native.controlCall hosted opServiceDrain handle _ t₁ with ⟨result, r, t₂⟩
  dsimp only
  split
  case isTrue => rfl
  rw [onClock_call]
  rcases Native.controlCall hosted opServiceStop handle controlTimeout t₂ with ⟨result, r, t₃⟩
  dsimp only
  split
  case isTrue => rfl
  rw [onClock_call]
  rcases Native.controlCall hosted opShutdown 0 0 t₃ with ⟨result, r, t₄⟩
  by_cases hshut : result = 0
  · simp [hshut, onClock, pure]
  · simp [hshut, onClock, pure]

end Dialogue

end Tcpcc.Native
