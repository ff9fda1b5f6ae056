import Tcpcc.Native.Rules
import Tcpcc.Native.Startable
import Tcpcc.Native.Transaction
import Tcpcc.Runtime.Exchanges

/-!
# Routes never cross

A successful startup, seen from both ends: the policies that were installed on the host, and the
listeners that its transactions left in the hosted kernel, in every run in which the hosted kernel
answered them so. A packet to the public end of a route is rewritten to the one listener whose
backend is that of the route.
-/

namespace Tcpcc.Native
open Control Records
open Tcpcc.Runtime (Exchange Exchanges Idle Progress Prepared networkOrder)

variable {α β : Type} {inet : Inet} {config : Config}

namespace Dialogue

theorem run_bind (answer : ℕ → Option Response) (d : Dialogue α) (k : α → Dialogue β) (used : ℕ) :
    (d >>= k).run answer used =
      (((k (d.run answer used).1).run answer (used + (d.run answer used).2.length)).1,
        (d.run answer used).2 ++
          ((k (d.run answer used).1).run answer (used + (d.run answer used).2.length)).2) := by
  induction d generalizing used with
  | done a => rfl
  | ask q next ih =>
    change (Dialogue.ask q fun r => (next r).bind k).run answer used = _
    simp only [run, List.length_cons, List.cons_append]
    rw [show ((next (answer used)).bind k).run answer (used + 1) = _ from ih _ _,
      Nat.add_assoc, Nat.add_comm 1]

/-- Whatever run of the hosted side answers the transactions, it leads from states with the one
property to states with the other. -/
def Ensures (P : Runtime.Config → Prop) (d : Dialogue α) (Q : α → Runtime.Config → Prop) : Prop :=
  ∀ answer used c e, P c → Exchanges c (d.run answer used).2 e → Q (d.run answer used).1 e

section
variable {P : Runtime.Config → Prop} {Q : β → Runtime.Config → Prop}

theorem Ensures.pure {b : β} (h : ∀ c e, P c → Idle c e → Q b e) :
    Ensures P (Pure.pure b : Dialogue β) Q := by
  intro answer used c e hc hx
  cases hx with
  | idle hidle => exact h c e hc hidle

theorem Ensures.bind {M : α → Runtime.Config → Prop} {d : Dialogue α} {k : α → Dialogue β}
    (h : Ensures P d M) (hk : ∀ a, Ensures (M a) (k a) Q) : Ensures P (d >>= k) Q := by
  intro answer used c e hc hx
  rw [run_bind] at hx ⊢
  obtain ⟨c', hfirst, hrest⟩ := hx.append
  exact hk _ answer _ c' e (h answer used c c' hc hfirst) hrest

theorem Ensures.call {op handle arg0 : ℕ} {data : List UInt8}
    {k : ℤ × Option Response → Dialogue β}
    (h : ∀ r, Ensures (fun d => ∃ c, P c ∧ Exchange c (request op handle arg0 0 data) r d)
      (k (r.status, some r)) Q) : Ensures P (controlCall op handle arg0 data >>= k) Q := by
  intro answer used c e hc hx
  change Exchanges c ((_, answer used) :: _) e at hx
  unfold controlCall
  simp only [Bind.bind, Dialogue.bind, run]
  cases hanswer : answer used with
  | none =>
    rw [hanswer] at hx
    cases hx
  | some r =>
    rw [hanswer] at hx
    cases hx with
    | exchange hexchange hrest => exact h r answer (used + 1) _ e ⟨c, hc, hexchange⟩ hrest

theorem Ensures.pre (P' : Runtime.Config → Prop) {d : Dialogue β} (h : Ensures P' d Q)
    (hP : ∀ c, P c → P' c) : Ensures P d Q :=
  fun answer used c e hc hx => h answer used c e (hP c hc) hx

theorem Ensures.exists {ι : Type} {P : ι → Runtime.Config → Prop} {d : Dialogue β}
    (h : ∀ x, Ensures (P x) d Q) : Ensures (fun c => ∃ x, P x c) d Q :=
  fun answer used c e ⟨x, hc⟩ hx => h x answer used c e hc hx

end

end Dialogue

/-! ## The hosted side -/

def Packet.endpoint (p : Packet) : Runtime.Endpoint where
  version := ipVersion p.version
  address := networkOrder p.address
  port := p.port

def hostedRoute (guest : List UInt8) (r : Route) : Runtime.Route where
  endpoint := some (Packet.endpoint ⟨r.listen.version, guest, r.listen.port⟩)
  backendIpv4 := backendIpv4
  backendPort := r.backend.port

section
variable {packed : List UInt8} {route : Route} {routes : List Runtime.Route}

theorem newHandle_eq_some {r : Response} {handle : ℕ}
    (h : newHandle (r.status, some r) = some handle) :
    r.status = 0 ∧ r.handle = handle ∧ handle < 2 ^ 31 := by
  unfold newHandle at h
  split at h
  case h_1 r' heq =>
    obtain ⟨hzero, hr⟩ := Prod.mk.inj heq
    obtain rfl := Option.some.inj hr
    obtain ⟨hrange, hhandle⟩ := Option.ite_none_right_eq_some.mp h
    obtain rfl := Option.some.inj hhandle
    exact ⟨hzero, rfl, hrange.2⟩
  case h_2 => cases h

theorem bindTo_ipEndpoint (handle : ℕ) (hroute : Forwardable inet config route packed) :
    (Runtime.Request.ofWire (request opBindIp handle 0 0
      (ipEndpoint route.listen.version packed route.listen.port))).bindTo =
      Packet.endpoint ⟨route.listen.version, packed, route.listen.port⟩ := by
  have hsmall : route.listen.version < 256 := by
    rcases hroute.version with h | h <;> omega
  have hfields := ipEndpoint_fields packed hsmall (Nat.lt_succ_of_le hroute.listenPort.2)
  unfold Runtime.Request.bindTo
  simp only [Runtime.Request.ofWire, request, hfields, Packet.endpoint, ipVersion]
  congr 1
  rcases hroute.version with hv | hv
  · have hpadded : networkOrder (paddedAddress packed) = networkOrder packed * 2 ^ 96 := by
      rw [paddedAddress_eq (hroute.size.trans_le (by rw [hv]; decide)), networkOrder_append_zeros,
        hroute.size, hv]
      rfl
    simp [hv, hpadded]
  · have hpadded : paddedAddress packed = packed := by
      rw [paddedAddress_eq (hroute.size.trans_le (by rw [hv]; decide)), hroute.size, hv]
      simp [addressLength]
    simp [hv, hpadded]

theorem startRoute_ensures (hroute : Forwardable inet config route packed) :
    (Dialogue.startRoute inet config route).Ensures (Progress routes) fun a c =>
      a ≠ none → Progress (routes ++ [hostedRoute packed route]) c := by
  have hnone : ∀ P : Runtime.Config → Prop, (pure none : Dialogue (Option ℕ)).Ensures P fun a c =>
      a ≠ none → Progress (routes ++ [hostedRoute packed route]) c :=
    fun P => .pure fun _ _ _ _ h => absurd rfl h
  refine .call fun opened => ?_
  cases hhandle : newHandle (opened.status, some opened) with
  | none => exact hnone _
  | some listener =>
    obtain ⟨hopened, hlistener, hbound⟩ := newHandle_eq_some hhandle
    refine Dialogue.Ensures.pre (fun c => ∃ i sk, i < Runtime.maxSockets ∧ i + 1 = listener ∧
      Prepared routes i sk { family := ipVersion route.listen.version } c) ?_ ?_
    case refine_2 =>
      rintro c ⟨c₀, hc₀, hx⟩
      obtain ⟨i, sk, hi, hslots, hprepared⟩ := hc₀.socket hx rfl hopened
      exact ⟨i, sk, hslots, hi.symm.trans hlistener, hprepared⟩
    refine .exists fun i => .exists fun sk => ?_
    by_cases hi : i < Runtime.maxSockets ∧ i + 1 = listener
    case neg => exact fun _ _ _ _ hc => absurd ⟨hc.1, hc.2.1⟩ hi
    obtain ⟨hslots, rfl⟩ := hi
    have hsigned : Runtime.signed (i + 1) = i + 1 := by
      rw [Runtime.signed, if_pos hbound]
      rfl
    refine .call fun selected => ?_
    dsimp only
    split
    case isTrue => exact hnone _
    refine .call fun shown => ?_
    split
    case isTrue => exact hnone _
    rw [hroute.guest]
    refine .call fun bound => ?_
    dsimp only
    split
    case isTrue => exact hnone _
    case isFalse hbind =>
      refine .call fun listening => ?_
      dsimp only
      split
      case isTrue => exact hnone _
      refine .call fun started => .pure ?_
      rintro c e ⟨c₅, ⟨c₄, ⟨c₃, ⟨c₂, ⟨c₁, ⟨-, -, h₁⟩, hx₁⟩, hx₂⟩, hx₃⟩, hx₄⟩, hx₅⟩ hidle hsome
      obtain ⟨service, hservice⟩ := Option.ne_none_iff_exists'.mp hsome
      obtain ⟨hzero, -, -⟩ := newHandle_eq_some hservice
      have h₃ := (h₁.passed hx₁ (.inl rfl)).passed hx₂ (.inl rfl)
      have h₄ := h₃.bound hx₃ rfl hsigned (not_not.mp hbind)
      have h₆ := ((h₄.passed hx₄ (.inr rfl)).started hx₅ rfl hsigned hslots hzero).idle hidle
      have hconfig : (Runtime.Request.ofWire (request opServiceStart (i + 1) 0 0
          (serviceConfig route.backend.port config.maxConnections))).config =
          ⟨backendIpv4, route.backend.port, 0, config.maxConnections, defaultAcceptBatch⟩ :=
        serviceConfig_fields (Nat.lt_succ_of_le hroute.backendPort.2)
          (hroute.maxConnections.trans_lt (by decide))
      rw [bindTo_ipEndpoint (i + 1) hroute, hconfig] at h₆
      exact h₆

theorem startRoutes_ensures (service : ℕ) {rest : List Route}
    (hrest : ∀ r ∈ rest, Forwardable inet config r packed) :
    (Dialogue.startRoutes inet config service rest).Ensures (Progress routes) fun a c =>
      a = true → Progress (routes ++ rest.map (hostedRoute packed)) c := by
  induction rest generalizing routes with
  | nil =>
    refine .pure fun c e hc hidle _ => ?_
    rw [List.map_nil, List.append_nil]
    exact hc.idle hidle
  | cons route rest ih =>
    obtain ⟨hroute, hrest⟩ := List.forall_mem_cons.mp hrest
    refine .bind (startRoute_ensures hroute) fun a => ?_
    by_cases ha : a = some service
    · have hall : routes ++ (route :: rest).map (hostedRoute packed) =
          routes ++ [hostedRoute packed route] ++ rest.map (hostedRoute packed) := by simp
      rw [if_pos ha, hall]
      exact .pre _ (ih hrest) fun c hc => hc (by simp [ha])
    · rw [if_neg ha]
      exact .pure fun _ _ _ _ hfalse => absurd hfalse (by decide)

theorem runtimeStart_ensures (hroutes : ∀ r ∈ config.routes, Forwardable inet config r packed) :
    (Dialogue.runtimeStart inet config).Ensures (Progress []) fun a c =>
      a.1 = true → Progress (config.routes.map (hostedRoute packed)) c := by
  have hfail : ∀ (P : Runtime.Config → Prop) (service : Option ℕ),
      (pure (false, service) : Dialogue (Bool × Option ℕ)).Ensures P fun a c =>
        a.1 = true → Progress (config.routes.map (hostedRoute packed)) c :=
    fun P service => .pure fun _ _ _ _ h => Bool.noConfusion h
  unfold Dialogue.runtimeStart
  cases hconfig : config.routes with
  | nil =>
    rw [hconfig] at hfail
    exact hfail _ _
  | cons first rest =>
    rw [hconfig] at hroutes hfail
    obtain ⟨hfirst, hrest⟩ := List.forall_mem_cons.mp hroutes
    refine .call fun hello => ?_
    dsimp only
    split
    case isTrue => exact hfail _ _
    rw [hfirst.guest]
    refine .call fun attached => ?_
    cases newHandle (attached.status, some attached) with
    | none => exact hfail _ _
    | some ifindex =>
      refine .pre (Progress []) ?_ fun c ⟨c₂, ⟨c₁, h₁, hx₁⟩, hx₂⟩ =>
        (h₁.passed hx₁ (.inl rfl)).passed hx₂ (.inl rfl)
      refine .bind (startRoute_ensures hfirst) fun a => ?_
      cases a with
      | none => exact hfail _ _
      | some service =>
        refine .bind (.pre _ (startRoutes_ensures service hrest) fun c hc => hc nofun) fun b => ?_
        exact .pure fun c e hc hidle hb => (hc hb).idle hidle

end

/-! ## Reaching ready -/

def controlOf : Action → Option (Request × Option Response)
  | .control q r => some (q, r)
  | _ => none

def transactions (actions : List Action) : List (Request × Option Response) :=
  actions.filterMap controlOf

def readyState (w : World) (inet : Inet) (config : Config) (n : Netfilter) : Option Supervisor :=
  if w.preflight = false ∨ w.inspected = false ∨ config.checkOnly = true ∨ w.allocated = false ∨
      w.masked = false ∨ w.signalFd = false then none
  else
    match tunOpen w config with
    | none => none
    | some config =>
      let (ok, _, n', j) := installAll w config 0 config.routes n
      if ok = false then none
      else
        let ((ok, _), s) := runtimeStart w inet config
          (Supervisor.commanded { netfilter := n } n' j)
        if ok = false then none else some s

theorem tunOpen_eq_some {w : World} {named : Config} (h : tunOpen w config = some named) :
    ∃ name, named = { config with tunName := name } := by
  unfold tunOpen at h
  by_cases htun : w.tun = true
  · simp only [htun, if_true] at h
    split at h
    · obtain ⟨random, -, rfl⟩ := Option.map_eq_some_iff.mp h
      exact ⟨_, rfl⟩
    · cases h
      exact ⟨config.tunName, rfl⟩
  · rw [if_neg htun] at h
    cases h

theorem runtimeStart_started {w : World} {s : Supervisor}
    (h : (runtimeStart w inet config s).1.1 = true) :
    ((Dialogue.runtimeStart inet config).run w.answer s.asked).1.1 = true ∧
      (runtimeStart w inet config s).2.netfilter = s.netfilter ∧
      transactions (runtimeStart w inet config s).2.actions = transactions s.actions ++
        ((Dialogue.runtimeStart inet config).run w.answer s.asked).2 := by
  have hprocess : ∀ trace : List Syscall, (trace.map Action.process).filterMap controlOf = [] :=
    fun trace => by simp [List.filterMap_map, Function.comp_def, controlOf]
  have hcontrol : ∀ log : List (Request × Option Response),
      (log.map fun e => Action.control e.1 e.2).filterMap controlOf = log :=
    fun log => by simp [List.filterMap_map, Function.comp_def, controlOf]
  unfold runtimeStart at h ⊢
  split at h
  case isTrue => cases h
  case isFalse harguments =>
    rw [if_neg harguments]
    dsimp only at h ⊢
    split at h
    case isTrue => cases h
    case isFalse hstarted =>
      rw [if_neg hstarted]
      refine ⟨h, rfl, ?_⟩
      simp only [transactions, Supervisor.talk, List.filterMap_append, hprocess, hcontrol,
        List.append_nil]

section
variable {w : World} {n : Netfilter} {s : Supervisor}

theorem readyState_cases (h : readyState w inet config n = some s) :
    ∃ name fs n' j service,
      (w.preflight = true ∧ w.inspected = true ∧ config.checkOnly = false ∧ w.allocated = true ∧
        w.masked = true ∧ w.signalFd = true) ∧
      tunOpen w config = some { config with tunName := name } ∧
      installAll w { config with tunName := name } 0 config.routes n = (true, fs, n', j) ∧
      runtimeStart w inet { config with tunName := name }
        (Supervisor.commanded { netfilter := n } n' j) = ((true, service), s) := by
  unfold readyState at h
  split at h
  case isTrue => cases h
  case isFalse hgo =>
    simp only [not_or, Bool.not_eq_false, Bool.not_eq_true] at hgo
    split at h
    case h_1 => cases h
    case h_2 named hopen =>
      obtain ⟨name, rfl⟩ := tunOpen_eq_some hopen
      rcases hinstall : installAll w { config with tunName := name } 0 config.routes n with
        ⟨ok, fs, n', j⟩
      simp only [hinstall] at h
      cases ok with
      | false => cases h
      | true =>
        rcases hstart : runtimeStart w inet { config with tunName := name }
          (Supervisor.commanded { netfilter := n } n' j) with ⟨⟨ok, service⟩, t⟩
        simp only [hstart, Bool.true_eq_false, if_false] at h
        cases ok with
        | false => cases h
        | true =>
          cases h
          exact ⟨name, fs, n', j, service, hgo, hopen, hinstall, hstart⟩

/-- It is what `main` has when it waits for a signal: a wait that fails leads to the cleanup. -/
theorem readyState_main (h : readyState w inet config n = some s) (hwait : w.signalled = false) :
    ∃ fs service, main w inet config n = cleanup w
      { supervisor := s, firewalls := fs, tun := true, service := service } := by
  obtain ⟨name, fs, n', j, service, ⟨hpre, hinspected, hcheck, halloc, hmasked, hfd⟩, hopen,
    hinstall, hstart⟩ := readyState_cases h
  refine ⟨fs, service, ?_⟩
  rw [main, if_neg (by simp [hpre, hinspected]), if_neg (by simp [hcheck]),
    if_neg (by simp [halloc])]
  simp [launch, serve, hmasked, hfd, hopen, hinstall, hstart, hwait]

theorem readyState_eq_some (h : readyState w inet config n = some s) :
    ∃ (name : String) (fs : List Firewall) (j : Journal),
      installAll w { config with tunName := name } 0 config.routes n = (true, fs, s.netfilter, j) ∧
      ((Dialogue.runtimeStart inet { config with tunName := name }).run w.answer 0).1.1 = true ∧
      transactions s.actions =
        ((Dialogue.runtimeStart inet { config with tunName := name }).run w.answer 0).2 := by
  obtain ⟨name, fs, n', j, service, -, -, hinstall, hstart⟩ := readyState_cases h
  have hready : (runtimeStart w inet { config with tunName := name }
      (Supervisor.commanded { netfilter := n } n' j)).1.1 = true := by rw [hstart]
  have hstarted := runtimeStart_started hready
  rw [hstart] at hstarted
  obtain ⟨hok, hnetfilter, hlog⟩ := hstarted
  have hjournal : transactions (Supervisor.commanded { netfilter := n } n' j).actions = [] := by
    simp [transactions, Supervisor.commanded, List.filterMap_map, Function.comp_def, controlOf]
  rw [hjournal] at hlog
  exact ⟨name, fs, j, by rw [hnetfilter]; exact hinstall, hok, hlog⟩

end

/-! ## Both sides together -/

section
variable {w : World} {n : Netfilter} {s : Supervisor} {guest : List UInt8} {r : Route}

theorem readyState_dnats (hinet : inet.Lawful) (h : config.Complete inet) (hlinked : n.Linked)
    (hready : readyState w inet config n = some s) (hr : r ∈ config.routes)
    (hguest : Forwardable inet config r guest) :
    (s.netfilter.dnats inet r.packet).Perm
      (⟨r.listen.version, guest, r.listen.port⟩ :: n.dnats inet r.packet) := by
  obtain ⟨name, fs, j, hinstall, -⟩ := readyState_eq_some hready
  obtain ⟨hpolicies, hperm⟩ :
      _ ∧ (s.netfilter.dnats inet r.packet).Perm _ := installAll_dnats hlinked hinstall
  obtain ⟨text, packed, htext, hname⟩ := h.guest r hr
  obtain rfl : packed = guest := by
    have hpton := hinet.ntop_pton hguest.version (hinet.size htext)
    rw [← hname, hguest.guest] at hpton
    exact (Option.some.inj hpton).symm
  have hone : fs.filterMap (·.rewrite inet r.packet) =
      [⟨r.listen.version, packed, r.listen.port⟩] := by
    refine rewrites_route hinet ?_ hpolicies h.routes.listen h.routes.ports hr hguest.size hname
    exact h.variant
  rw [hone] at hperm
  exact hperm

theorem readyState_progress {d : Runtime.Config}
    (hroutes : ∀ r ∈ config.routes, Forwardable inet config r guest)
    (hready : readyState w inet config n = some s)
    (hserved : Exchanges Runtime.boot (transactions s.actions) d) :
    Progress (config.routes.map (hostedRoute guest)) d := by
  obtain ⟨name, -, -, -, hok, hlog⟩ := readyState_eq_some hready
  have hnamed : ∀ r ∈ ({ config with tunName := name } : Config).routes,
      Forwardable inet { config with tunName := name } r guest := by
    intro r hr
    have h := hroutes r hr
    exact ⟨h.version, h.guest, h.size, h.listenPort, h.backendPort, h.backlog, h.maxConnections,
      h.cc⟩
  rw [hlog] at hserved
  exact runtimeStart_ensures hnamed w.answer 0 _ _ Runtime.progress_boot hserved hok

theorem hostedRoute_eq {r' : Route} (hports : (config.routes.map fun r => r.listen.port).Nodup)
    (hr : r ∈ config.routes) (hr' : r' ∈ config.routes)
    (h : (hostedRoute guest r').endpoint = (hostedRoute guest r).endpoint) : r' = r := by
  have hport : r'.listen.port = r.listen.port := congrArg Runtime.Endpoint.port (Option.some.inj h)
  exact List.inj_on_of_nodup_map hports hr' hr hport

end

/-- Whatever forwards were accepted, once the command is ready a packet to the public end of a
route is rewritten to the guest with the port of the route, one hosted listener is bound there, and
it passes connections on to the backend of this route: so does the service from then on, until
another service is started. -/
theorem routes_never_cross {strtod : String → Option Float} {w : World} {n : Netfilter}
    {s : Supervisor} {d : Runtime.Config} {r : Route} (hinet : inet.Lawful)
    (h : Accepted inet strtod config) (hlinked : n.Linked)
    (hready : readyState w inet config n = some s)
    (hserved : Exchanges Runtime.boot (transactions s.actions) d) (hr : r ∈ config.routes) :
    ∃ guest, inet.pton r.listen.version config.tunGuest = some guest ∧
      (s.netfilter.dnats inet r.packet).Perm
        (⟨r.listen.version, guest, r.listen.port⟩ :: n.dnats inet r.packet) ∧
      (∃ e ∈ d.state.listeners, d.state.route e = hostedRoute guest r ∧
        ∀ e' ∈ d.state.listeners, (d.state.place (d.state.listenerSock e')).bound =
          some (Packet.endpoint ⟨r.listen.version, guest, r.listen.port⟩) → e' = e) ∧
      ∀ ls f, Runtime.runtime.run d ls = some f → (∀ l ∈ ls, Runtime.startsService l = false) →
        ∀ dial ∈ f.state.dials,
          dial.endpoint = some (Packet.endpoint ⟨r.listen.version, guest, r.listen.port⟩) →
          dial.backendIpv4 = 0x7f000001 ∧ dial.backendPort = r.backend.port := by
  have hcomplete := h.complete
  obtain ⟨guest, hroutes⟩ := hcomplete.forwardable hinet
  have hprogress := readyState_progress hroutes hready hserved
  refine ⟨guest, (hroutes r hr).guest,
    readyState_dnats hinet hcomplete hlinked hready hr (hroutes r hr), ?_, ?_⟩
  · have hopened : d.state.listeners.map d.state.route = config.routes.map (hostedRoute guest) :=
      hprogress.opened
    have hmem : hostedRoute guest r ∈ d.state.listeners.map d.state.route := by
      rw [hopened]
      exact List.mem_map_of_mem hr
    obtain ⟨e, he, hroute⟩ := List.mem_map.mp hmem
    refine ⟨e, he, hroute, fun e' he' hbound => ?_⟩
    have hports : (d.state.listeners.map fun e => (d.state.route e).endpoint).Nodup := by
      have heq : (d.state.listeners.map fun e => (d.state.route e).endpoint) =
          config.routes.map fun r => (hostedRoute guest r).endpoint := by
        have hmap := congrArg (List.map Runtime.Route.endpoint) hopened
        simpa only [List.map_map, Function.comp_def] using hmap
      rw [heq]
      refine (List.nodup_map_iff_inj_on (List.Nodup.of_map _ hcomplete.routes.ports)).mpr ?_
      intro r₁ hr₁ r₂ hr₂ hsame
      exact hostedRoute_eq hcomplete.routes.ports hr₂ hr₁ hsame
    refine List.inj_on_of_nodup_map hports he' he ?_
    rw [hroute]
    exact hbound
  · intro ls f hrun hls dial hdial hendpoint
    obtain ⟨p, hp⟩ := hprogress.waits
    have hobeys : d.right.Obeys Runtime.SameRoutes := by
      rw [hp]
      trivial
    have hsame := Runtime.run_sameRoutes hprogress.reachable hobeys hls hrun
    have hf := Runtime.reachable_inv (hprogress.reachable.run Runtime.runtime hrun)
    have hmem := hf.routing.dialed dial hdial
    rw [show f.state.routes = _ from hsame, hprogress.routes] at hmem
    obtain ⟨r', hr', rfl⟩ := List.mem_map.mp hmem
    obtain rfl := hostedRoute_eq hcomplete.routes.ports hr hr' hendpoint
    exact ⟨rfl, rfl⟩

/-! ## A startup that reaches ready

The transactions with the hosted kernel in which nothing fails are transactions with the runtime. -/

namespace Dialogue

def Asks (P : Request → Prop) : Dialogue α → Prop
  | .done _ => True
  | .ask q next => P q ∧ ∀ r, (next r).Asks P

theorem Asks.bind {P : Request → Prop} {d : Dialogue α} {k : α → Dialogue β} (h : d.Asks P)
    (hk : ∀ a, (k a).Asks P) : (d >>= k).Asks P := by
  induction d with
  | done a => exact hk a
  | ask q next ih => exact ⟨h.1, fun r => ih r (h.2 r)⟩

theorem Asks.call {P : Request → Prop} {op handle arg0 : ℕ} {data : List UInt8}
    (h : P (request op handle arg0 0 data)) : (controlCall op handle arg0 data).Asks P :=
  ⟨h, fun r => by cases r <;> trivial⟩

variable {σ : Type} {respond : Request → σ → Option (Response × σ)}

theorem run_serve (d : Dialogue α) (s : σ) (before : List (Request × Option Response)) :
    d.run (fun i => ((before ++ (d.serve respond s).2.1)[i]?).bind Prod.snd) before.length =
      ((d.serve respond s).1, (d.serve respond s).2.1) := by
  induction d generalizing s before with
  | done a => rfl
  | ask q next ih =>
    cases hrespond : respond q s with
    | none =>
      have hnext := ih none s (before ++ [(q, none)])
      simp only [List.append_assoc, List.singleton_append, List.length_append,
        List.length_singleton] at hnext
      simp only [serve, hrespond, run, List.getElem?_append_right (Nat.le_refl _), Nat.sub_self,
        List.getElem?_cons_zero, Option.bind_some, hnext]
    | some a =>
      obtain ⟨r, t⟩ := a
      have hnext := ih (some r) t (before ++ [(q, some r)])
      simp only [List.append_assoc, List.singleton_append, List.length_append,
        List.length_singleton] at hnext
      simp only [serve, hrespond, run, List.getElem?_append_right (Nat.le_refl _), Nat.sub_self,
        List.getElem?_cons_zero, Option.bind_some, hnext]

end Dialogue

theorem serve_exchanges {d : Dialogue α} {k : Runtime.Kernel} {c : Runtime.Config}
    {last : Option Runtime.Response} (hasks : d.Asks fun q => Runtime.goesOn q = true)
    (hstate : c.state = k.state) (hready : c.right = .ret (.ready last))
    (hlog : Unrefused (d.serve (fun q k => k.execute q) k).2.1) :
    ∃ e, Exchanges c (d.serve (fun q k => k.execute q) k).2.1 e := by
  induction d generalizing k c last with
  | done a => exact ⟨c, .idle (.refl c)⟩
  | ask q next ih =>
    cases hexec : k.execute q with
    | none =>
      simp only [Dialogue.serve, hexec] at hlog
      obtain ⟨r, hr, -⟩ := hlog _ List.mem_cons_self
      cases hr
    | some a =>
      obtain ⟨r, k'⟩ := a
      simp only [Dialogue.serve, hexec] at hlog ⊢
      obtain ⟨⟨_, ⟨⟩, hzero⟩, hrest⟩ := List.forall_mem_cons.mp hlog
      obtain ⟨d, hx, hd, last', hlast⟩ :=
        Runtime.execute_exchange hstate hready hexec hzero hasks.1
      obtain ⟨e, he⟩ := ih (some r) (hasks.2 _) hd hlast hrest
      exact ⟨e, .exchange hx he⟩

theorem startRoute_asks (r : Route) :
    (Dialogue.startRoute inet config r).Asks fun q => Runtime.goesOn q = true := by
  refine .bind (.call rfl) fun opened => ?_
  cases newHandle opened with
  | none => trivial
  | some listener =>
    refine .bind (.call rfl) fun selected => ?_
    split
    case isTrue => trivial
    refine .bind (.call rfl) fun shown => ?_
    split
    case isTrue => trivial
    cases inet.pton r.listen.version config.tunGuest with
    | none => trivial
    | some packed =>
      refine .bind (.call rfl) fun bound => ?_
      split
      case isTrue => trivial
      refine .bind (.call rfl) fun listening => ?_
      split
      case isTrue => trivial
      exact .bind (.call rfl) fun started => trivial

theorem startRoutes_asks (service : ℕ) (routes : List Route) :
    (Dialogue.startRoutes inet config service routes).Asks fun q => Runtime.goesOn q = true := by
  induction routes with
  | nil => trivial
  | cons r routes ih =>
    refine .bind (startRoute_asks r) fun started => ?_
    split
    · exact ih
    · trivial

theorem runtimeStart_asks :
    (Dialogue.runtimeStart inet config).Asks fun q => Runtime.goesOn q = true := by
  unfold Dialogue.runtimeStart
  cases config.routes with
  | nil => trivial
  | cons first rest =>
    refine .bind (.call rfl) fun hello => ?_
    split
    case isTrue => trivial
    dsimp only
    cases inet.pton first.listen.version config.tunGuest with
    | none => trivial
    | some packed =>
      refine .bind (.call rfl) fun attached => ?_
      cases newHandle attached with
      | none => trivial
      | some ifindex =>
        refine .bind (startRoute_asks first) fun started => ?_
        cases started with
        | none => trivial
        | some service => exact .bind (startRoutes_asks service rest) fun _ => trivial

def smoothWorld (inet : Inet) (config : Config) : World :=
  { sampleWorld with
    tunRandom := some "1"
    answer := fun i =>
      ((startup inet { config with tunName := "tcpcc1" }).2.1[i]?).bind Prod.snd }

theorem smoothWorld_ready (hname : config.tunName = "") (hcheck : config.checkOnly = false)
    (hstart : (startup inet { config with tunName := "tcpcc1" }).1.1 = true)
    (hlog : Unrefused (startup inet { config with tunName := "tcpcc1" }).2.1)
    (hinstall : (installAll (smoothWorld inet config) { config with tunName := "tcpcc1" } 0
      config.routes {}).1 = true) :
    ∃ s d, readyState (smoothWorld inet config) inet config {} = some s ∧
      Exchanges Runtime.boot (transactions s.actions) d := by
  have hrun : (Dialogue.runtimeStart inet { config with tunName := "tcpcc1" }).run
      (smoothWorld inet config).answer 0 = ((startup inet { config with tunName := "tcpcc1" }).1,
        (startup inet { config with tunName := "tcpcc1" }).2.1) := Dialogue.run_serve _ _ []
  have hopen : tunOpen (smoothWorld inet config) config =
      some { config with tunName := "tcpcc1" } := by
    rw [tunOpen, if_pos hname]
    rfl
  rcases hall : installAll (smoothWorld inet config) { config with tunName := "tcpcc1" } 0
    config.routes {} with ⟨ok, fs, n', j⟩
  obtain rfl : ok = true := by
    rw [hall] at hinstall
    exact hinstall
  have hstarted : (runtimeStart (smoothWorld inet config) inet { config with tunName := "tcpcc1" }
      (Supervisor.commanded { netfilter := {} } n' j)).1.1 = true := by
    change ((Dialogue.runtimeStart inet { config with tunName := "tcpcc1" }).run
      (smoothWorld inet config).answer 0).1.1 = true
    rw [hrun]
    exact hstart
  have hready : readyState (smoothWorld inet config) inet config {} =
      some (runtimeStart (smoothWorld inet config) inet { config with tunName := "tcpcc1" }
        (Supervisor.commanded { netfilter := {} } n' j)).2 := by
    unfold readyState
    rw [if_neg (by simp [smoothWorld, sampleWorld, hcheck]), hopen]
    simp only [hall, hstarted, Bool.true_eq_false, if_false]
  obtain ⟨d, hd⟩ := serve_exchanges (c := Runtime.boot) (runtimeStart_asks) rfl rfl hlog
  refine ⟨_, d, hready, ?_⟩
  obtain ⟨-, -, htransactions⟩ := runtimeStart_started hstarted
  have hjournal : transactions (Supervisor.commanded { netfilter := {} } n' j).actions = [] := by
    simp [transactions, Supervisor.commanded, List.filterMap_map, Function.comp_def, controlOf]
  rw [htransactions, hjournal]
  change Exchanges Runtime.boot ([] ++ ((Dialogue.runtimeStart inet
    { config with tunName := "tcpcc1" }).run (smoothWorld inet config).answer 0).2) d
  rw [hrun]
  exact hd

theorem routes_never_cross_pair : ∃ s d,
    readyState (smoothWorld dottedInet (forwardConfig [80, 443])) dottedInet
      (forwardConfig [80, 443]) {} = some s ∧
    Exchanges Runtime.boot (transactions s.actions) d ∧
    s.netfilter.dnats dottedInet (forwardRoute 443).packet = [⟨4, [198, 18, 0, 2], 443⟩] ∧
    ∃ e ∈ d.state.listeners, (d.state.route e).backendPort = 8080 := by
  have haccepted : Accepted dottedInet noFloat (forwardConfig [80, 443]) :=
    forwardConfig_accepted (by decide +kernel) (by decide)
  have hcomplete : Config.Complete dottedInet
      { forwardConfig [80, 443] with tunName := "tcpcc1" } := { haccepted.complete with }
  obtain ⟨-, hstart, hlog⟩ := (hcomplete.startable_iff dottedInet_lawful).mpr
    ⟨by decide, by decide, fun r hr packed _ => by
      obtain ⟨port, -, rfl⟩ := List.mem_map.mp hr
      rfl⟩
  obtain ⟨s, d, hready, hserved⟩ := smoothWorld_ready rfl rfl hstart hlog (by decide +kernel)
  have hlinked : Netfilter.Linked {} := nofun
  obtain ⟨guest, hguest, hdnats, ⟨e, he, hroute, -⟩, -⟩ := routes_never_cross dottedInet_lawful
    haccepted hlinked hready hserved (r := forwardRoute 443) (by simp [forwardConfig])
  obtain rfl : guest = [198, 18, 0, 2] := by
    have hpton : dottedInet.pton 4 "198.18.0.2" = some [198, 18, 0, 2] := by decide +kernel
    exact Option.some.inj (hguest.symm.trans hpton)
  refine ⟨s, d, hready, hserved, List.perm_singleton.mp hdnats, e, he, ?_⟩
  rw [hroute]
  rfl

end Tcpcc.Native
