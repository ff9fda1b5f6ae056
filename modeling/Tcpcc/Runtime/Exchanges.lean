import Tcpcc.Runtime.History
import Tcpcc.Runtime.Kernel

/-!
# Routes under the requests of the native side

What a sequence of requests makes of the listeners, in every run in which these requests are
answered. A socket that is created, bound and started becomes one more listener with its own
backend, whatever connections arrive meanwhile.
-/

namespace Tcpcc.Runtime
open Resumption State
open Bridge (SockId)

variable {c d e : Config} {s t : State} {q : Request} {a : Answer} {routes : List Route}

/-! ## Requests and what happens between them -/

def Idle (c d : Config) : Prop :=
  ∃ ls : List Transition, runtime.run c ls = some d ∧ ∀ l ∈ ls, l.callsRight = false

theorem Idle.refl (c : Config) : Idle c c := ⟨[], rfl, nofun⟩

theorem Idle.reachable (h : Reachable c) (hidle : Idle c d) : Reachable d := by
  obtain ⟨ls, hrun, -⟩ := hidle
  exact h.run runtime hrun

theorem Idle.rely {p : ControlPoint} (hidle : Idle c d) (h : Reachable c) (hp : c.right = .ret p) :
    d.right = .ret p ∧ RequestRely c.state d.state := by
  obtain ⟨ls, hrun, hcalls⟩ := hidle
  induction ls generalizing c with
  | nil =>
    cases hrun
    exact ⟨hp, .refl _⟩
  | cons l ls ih =>
    simp only [System.run, Option.bind_eq_some_iff] at hrun
    obtain ⟨c', hstep, hrest⟩ := hrun
    obtain ⟨hcall, hcalls⟩ := List.forall_mem_cons.mp hcalls
    have hmoves : ∀ i, l ≠ .right i := by
      rintro i rfl
      simp [System.step, hp] at hstep
    have hp' := (System.step_right_other hcall hmoves hstep).trans hp
    obtain ⟨hd, hr⟩ := ih (h.step hstep) hp' hrest hcalls
    exact ⟨hd, (runtime_compatible.rely_right hmoves (reachable_sound h) hstep).trans hr⟩

/-- A request of the native side arrives and is answered. The hosted side fills in the handle of
the response to all but the requests that the outside world answers. -/
def Exchange (c : Config) (q : Control.Request) (r : Control.Response) (d : Config) : Prop :=
  ∃ c' ls a, Idle c c' ∧ Handles c' (.ofWire q) ls a d ∧ r.status = a.status ∧
    (RequestOp.ofWire q.op ≠ .other → r.handle = (a.handle % 2 ^ 32).toNat)

inductive Exchanges : Config → List (Control.Request × Option Control.Response) → Config → Prop
  | idle {c d : Config} (h : Idle c d) : Exchanges c [] d
  | exchange {c d e : Config} {q : Control.Request} {r : Control.Response}
      {log : List (Control.Request × Option Control.Response)} (h : Exchange c q r d)
      (hrest : Exchanges d log e) : Exchanges c ((q, some r) :: log) e

theorem Exchanges.append {log log' : List (Control.Request × Option Control.Response)}
    (h : Exchanges c (log ++ log') e) : ∃ d, Exchanges c log d ∧ Exchanges d log' e := by
  induction log generalizing c with
  | nil => exact ⟨c, .idle (.refl c), h⟩
  | cons x log ih =>
    cases h with
    | exchange h hrest =>
      obtain ⟨d, hd, he⟩ := ih hrest
      exact ⟨d, .exchange h hd, he⟩

/-! ## The listeners -/

structure Progress (routes : List Route) (c : Config) : Prop where
  reachable : Reachable c
  waits : ∃ p, c.right = .ret p
  opened : c.state.openRoutes = routes
  routes : c.state.routes = routes
  known : ∀ e ∈ c.state.listeners, c.state.listenerSock e < c.state.nextSock

theorem progress_boot : Progress [] boot where
  reachable := ⟨[], rfl⟩
  waits := ⟨_, rfl⟩
  opened := rfl
  routes := rfl
  known := nofun

structure Prepared (routes : List Route) (i : ℕ) (sk : SockId) (place : Place) (c : Config) :
    Prop extends Progress routes c where
  slot : c.state.table i = some sk
  place : c.state.place sk = place
  new : ∀ e ∈ c.state.listeners, c.state.listenerSock e ≠ sk

theorem Progress.of_side (h : Progress routes c) (hd : Reachable d) (hwaits : ∃ p, d.right = .ret p)
    (hlisteners : d.state.listeners = c.state.listeners)
    (hsock : d.state.listenerSock = c.state.listenerSock)
    (hconfig : d.state.listenerConfig = c.state.listenerConfig)
    (hroutes : d.state.routes = c.state.routes) (hgrows : c.state.nextSock ≤ d.state.nextSock)
    (hplace : ∀ e ∈ c.state.listeners,
      d.state.place (c.state.listenerSock e) = c.state.place (c.state.listenerSock e)) :
    Progress routes d where
  reachable := hd
  waits := hwaits
  opened := by
    rw [← h.opened, openRoutes, openRoutes, hlisteners]
    refine List.map_congr_left fun e he => ?_
    rw [State.route, State.route, routeOf, routeOf, hsock, hconfig, hplace e he]
  routes := hroutes.trans h.routes
  known e he := by
    rw [hlisteners] at he
    rw [hsock]
    exact Nat.lt_of_lt_of_le (h.known e he) hgrows

theorem Progress.unmoved (h : Progress routes c) (hd : Reachable d)
    (hwaits : ∃ p, d.right = .ret p) (hu : Unmoved c.state d.state) : Progress routes d :=
  h.of_side hd hwaits (congrArg ControlSide.listeners hu.side)
    (congrArg ControlSide.listenerSock hu.side) (congrArg ControlSide.listenerConfig hu.side)
    (congrArg ControlSide.routes hu.side) hu.places.grows
    fun e he => hu.places.placed _ (h.known e he)

theorem Prepared.unmoved {i : ℕ} {sk : SockId} {place : Place}
    (h : Prepared routes i sk place c) (hd : Reachable d) (hwaits : ∃ p, d.right = .ret p)
    (hu : Unmoved c.state d.state) : Prepared routes i sk place d where
  toProgress := h.toProgress.unmoved hd hwaits hu
  slot := hu.side ▸ h.slot
  place := by
    have howned := (reachable_inv h.reachable).owners.live_iff sk
    have hlive : c.state.unreleased sk := howned.mpr ⟨.slot i, h.slot⟩
    exact (hu.places.placed sk hlive.1).trans h.place
  new e he := by
    rw [congrArg ControlSide.listeners hu.side] at he
    rw [congrArg ControlSide.listenerSock hu.side]
    exact h.new e he

theorem Progress.idle (h : Progress routes c) (hidle : Idle c d) : Progress routes d := by
  obtain ⟨p, hp⟩ := h.waits
  obtain ⟨hd, hr⟩ := hidle.rely h.reachable hp
  exact h.unmoved (hidle.reachable h.reachable) ⟨p, hd⟩ hr.unmoved

theorem Prepared.idle {i : ℕ} {sk : SockId} {place : Place}
    (h : Prepared routes i sk place c) (hidle : Idle c d) : Prepared routes i sk place d := by
  obtain ⟨p, hp⟩ := h.waits
  obtain ⟨hd, hr⟩ := hidle.rely h.reachable hp
  exact h.unmoved (hidle.reachable h.reachable) ⟨p, hd⟩ hr.unmoved

section
variable {q : Control.Request} {r : Control.Response} {i : ℕ} {sk : SockId} {place : Place}

theorem Exchange.effect (hx : Exchange c q r d) (h : Reachable c) :
    ∃ c' a, Idle c c' ∧ Reachable d ∧ (∃ p, d.right = .ret p) ∧ r.status = a.status ∧
      (RequestOp.ofWire q.op ≠ .other → r.handle = (a.handle % 2 ^ 32).toNat) ∧
      Effect (.ofWire q) a c'.state d.state := by
  obtain ⟨c', ls, a, hidle, hh, hstatus, hhandle⟩ := hx
  have hc' := hidle.reachable h
  have hright : ∃ p, d.right = .ret p := by
    rcases right_of_lastResponse hh.answered with hp | hp
    · exact ⟨_, hp⟩
    · exact ⟨_, hp⟩
  exact ⟨c', a, hidle, hc'.run runtime hh.run, hright, hstatus, hhandle, (request_effect hc' hh).2⟩

theorem Exchange.unmoved (hx : Exchange c q r d) (h : Reachable c)
    (hwaits : ∃ p, c.right = .ret p)
    (hop : RequestOp.ofWire q.op = .other ∨ RequestOp.ofWire q.op = .listen) :
    Reachable d ∧ (∃ p, d.right = .ret p) ∧ Unmoved c.state d.state := by
  obtain ⟨c', a, hidle, hd, hright, -, -, heffect⟩ := hx.effect h
  obtain ⟨p, hp⟩ := hwaits
  have hr := (hidle.rely h hp).2
  have hu : Unmoved c'.state d.state := by
    rcases hop with hop | hop
    · rwa [Effect, show (Request.ofWire q).op = .other from hop] at heffect
    · rwa [Effect, show (Request.ofWire q).op = .listen from hop] at heffect
  exact ⟨hd, hright, hu.side.trans hr.side, hr.places.trans hu.places⟩

theorem Progress.passed (h : Progress routes c) (hx : Exchange c q r d)
    (hop : RequestOp.ofWire q.op = .other ∨ RequestOp.ofWire q.op = .listen) :
    Progress routes d := by
  obtain ⟨hd, hwaits, hu⟩ := hx.unmoved h.reachable h.waits hop
  exact h.unmoved hd hwaits hu

theorem Prepared.passed (h : Prepared routes i sk place c) (hx : Exchange c q r d)
    (hop : RequestOp.ofWire q.op = .other ∨ RequestOp.ofWire q.op = .listen) :
    Prepared routes i sk place d := by
  obtain ⟨hd, hwaits, hu⟩ := hx.unmoved h.reachable h.waits hop
  exact h.unmoved hd hwaits hu

theorem Progress.socket (h : Progress routes c) (hx : Exchange c q r d)
    (hop : RequestOp.ofWire q.op = .socketIp) (hzero : r.status = 0) :
    ∃ i sk, r.handle = i + 1 ∧ i < maxSockets ∧
      Prepared routes i sk { family := (Request.ofWire q).family } d := by
  obtain ⟨c', a, hidle, hd, hwaits, hstatus, hhandle, heffect⟩ := hx.effect h.reachable
  have hc' := h.idle hidle
  rw [Effect, show (Request.ofWire q).op = .socketIp from hop] at heffect
  obtain ⟨⟨i, sk, hslot, hnew, -, hplace, hside⟩, hplaces⟩ := heffect (hstatus.symm.trans hzero)
  have hlisteners : d.state.listeners = c'.state.listeners :=
    (congrArg ControlSide.listeners hside).trans rfl
  have hsocks : d.state.listenerSock = c'.state.listenerSock :=
    (congrArg ControlSide.listenerSock hside).trans rfl
  have htable : d.state.table i = some sk := hside ▸ (Function.update_self ..)
  have hi : i < maxSockets := by
    by_contra hge
    exact absurd (htable.symm.trans ((reachable_inv hd).slots i (Nat.not_lt.mp hge))) (by simp)
  refine ⟨i, sk, ?_, hi, ?_, htable, hplace, fun e he => ?_⟩
  · have hi' : i < 16 := hi
    rw [hhandle (by rw [hop]; decide), hslot]
    omega
  · exact hc'.of_side hd hwaits hlisteners hsocks
      ((congrArg ControlSide.listenerConfig hside).trans rfl)
      ((congrArg ControlSide.routes hside).trans rfl) hplaces.grows
      fun e he => hplaces.placed _ (hc'.known e he)
  · rw [hlisteners] at he
    rw [hsocks]
    exact Nat.ne_of_lt (Nat.lt_of_lt_of_le (hc'.known e he) hnew)

theorem Prepared.bound (h : Prepared routes i sk place c) (hx : Exchange c q r d)
    (hop : RequestOp.ofWire q.op = .bindIp) (hhandle : signed q.handle = i + 1)
    (hzero : r.status = 0) :
    Prepared routes i sk { place with bound := some (Request.ofWire q).bindTo } d := by
  obtain ⟨c', a, hidle, hd, hwaits, hstatus, -, heffect⟩ := hx.effect h.reachable
  have hc' := h.idle hidle
  rw [Effect, show (Request.ofWire q).op = .bindIp from hop] at heffect
  obtain ⟨sk', hsk', hbound⟩ := heffect (hstatus.symm.trans hzero)
  have hslot : (Request.ofWire q).handle.toNat - 1 = i := by
    change (signed q.handle).toNat - 1 = i
    omega
  obtain rfl : sk = sk' := by
    rw [hslot, hc'.slot] at hsk'
    exact Option.some.inj hsk'
  have hside := hbound.side
  have hlisteners : d.state.listeners = c'.state.listeners := congrArg ControlSide.listeners hside
  have hsocks : d.state.listenerSock = c'.state.listenerSock :=
    congrArg ControlSide.listenerSock hside
  refine ⟨?_, ?_, ?_, fun e he => ?_⟩
  · exact hc'.of_side hd hwaits hlisteners hsocks (congrArg ControlSide.listenerConfig hside)
      (congrArg ControlSide.routes hside) hbound.grows
      fun e he => hbound.other _ (hc'.known e he) (hc'.new e he)
  · exact hside ▸ hc'.slot
  · rw [hbound.place, hc'.place]
  · rw [hlisteners] at he
    rw [hsocks]
    exact hc'.new e he

theorem Prepared.started (h : Prepared routes i sk place c) (hx : Exchange c q r d)
    (hop : RequestOp.ofWire q.op = .serviceStart) (hhandle : signed q.handle = i + 1)
    (hi : i < maxSockets) (hzero : r.status = 0) :
    Progress (routes ++ [place.route (Request.ofWire q).config]) d := by
  obtain ⟨c', a, hidle, hd, hwaits, hstatus, -, heffect⟩ := hx.effect h.reachable
  have hc' := h.idle hidle
  rw [Effect, show (Request.ofWire q).op = .serviceStart from hop] at heffect
  rcases heffect with ⟨-, sk', hsk', hopened, hrest⟩ | ⟨hfail, -⟩
  · have hslot : (Request.ofWire q).handle.toNat - 1 = i := by
      change (signed q.handle).toNat - 1 = i
      omega
    have hrange : ¬((Request.ofWire q).handle < 1 ∨ (Request.ofWire q).handle > maxSockets) := by
      change ¬(signed q.handle < 1 ∨ signed q.handle > maxSockets)
      rw [hhandle]
      omega
    obtain rfl : sk = sk' := by
      rw [lookup, if_neg hrange, hslot, hc'.slot] at hsk'
      exact Option.some.inj hsk'
    rw [hc'.place] at hopened hrest
    refine ⟨hd, hwaits, ?_, ?_, hopened.known⟩
    · rw [hopened.opened, hc'.opened]
    · rw [hrest.routes, hc'.routes]
  · exact absurd (hstatus.symm.trans hzero) hfail

end

/-! ## The kernel in which nothing fails

Its answers are those of the runtime in a run in which only the control thread moves. -/

def goesOn (q : Control.Request) : Bool :=
  RequestOp.ofWire q.op != .finish && RequestOp.ofWire q.op != .shutdown

theorem drive_controlThread (hvalid : ¬(q.magic ≠ controlMagic ∨ q.version ≠ controlVersion))
    (hgoes : q.op ≠ .finish ∧ q.op ≠ .shutdown)
    (h : (controlExecute q).drive {} s = some (a, t)) :
    (controlThread q).drive {} s = some (.ready (some ⟨q, a⟩), t) := by
  have hterminal : Response.terminal ⟨q, a⟩ = false := by
    simp [Response.terminal, hgoes.1, hgoes.2]
  unfold controlThread
  rw [if_neg hvalid, Prog.drive_bind, h]
  simp [Prog.drive_block, hterminal]

theorem handles_drive {last : Option Response} (hready : c.right = .ret (.ready last))
    (hvalid : ¬(q.magic ≠ controlMagic ∨ q.version ≠ controlVersion))
    (hgoes : q.op ≠ .finish ∧ q.op ≠ .shutdown)
    (h : (controlExecute q).drive {} c.state = some (a, t)) :
    ∃ ls, Handles c q ls a { c with state := t, right := .ret (.ready (some ⟨q, a⟩)) } := by
  obtain ⟨n, hrun⟩ := runtime.run_drive (c := { c with right := controlThread q }) rfl
    (drive_controlThread hvalid hgoes h)
  refine ⟨List.replicate n (.right {}), ?_, ?_, rfl⟩
  · have hstep : runtime.step c (.resumeRight (.request q)) =
        some { c with right := controlThread q } := by
      simp only [System.step, hready]
      rfl
    rw [System.run, hstep, Option.bind_some]
    exact hrun
  · intro l hl
    rw [List.eq_of_mem_replicate hl]
    rfl

theorem execute_exchange {k k' : Kernel} {last : Option Response} {q : Control.Request}
    {r : Control.Response} (hstate : c.state = k.state) (hready : c.right = .ret (.ready last))
    (hexec : k.execute q = some (r, k')) (hzero : r.status = 0) (hgoes : goesOn q = true) :
    ∃ d, Exchange c q r d ∧ d.state = k'.state ∧ ∃ last', d.right = .ret (.ready last') := by
  have hgoes' : RequestOp.ofWire q.op ≠ .finish ∧ RequestOp.ofWire q.op ≠ .shutdown := by
    simpa [goesOn] using hgoes
  unfold Kernel.execute at hexec
  split at hexec
  case isTrue =>
    cases hexec
    have hproto : -EPROTO = 0 := hzero
    exact absurd hproto (by decide)
  case isFalse hvalid =>
    have hother : RequestOp.ofWire q.op = .other → k'.state = k.state →
        ∃ d, Exchange c q r d ∧ d.state = k'.state ∧ ∃ last', d.right = .ret (.ready last') := by
      intro hop hsame
      have hdrive : (controlExecute (.ofWire q)).drive {} c.state =
          some (.ofStatus (.ofWire q) 0, c.state) := by
        rw [controlExecute, show (Request.ofWire q).op = .other from hop]
        rfl
      obtain ⟨ls, hh⟩ := handles_drive hready hvalid hgoes' hdrive
      exact ⟨_, ⟨c, ls, _, .refl c, hh, hzero, fun h => absurd hop h⟩,
        hstate.trans hsame.symm, _, rfl⟩
    split_ifs at hexec with hhello hattach hset hget
    · cases hexec
      exact hother (by rw [hhello]; rfl) rfl
    · refine hother (by rw [hattach]; rfl) ?_
      obtain rfl : k' = (k.l3AttachIp q).2 := (congrArg Prod.snd (Option.some.inj hexec)).symm
      unfold Kernel.l3AttachIp
      dsimp only
      split_ifs <;> rfl
    · refine hother (by rw [hset]; rfl) ?_
      obtain rfl : k' = (k.setCc q).2 := (congrArg Prod.snd (Option.some.inj hexec)).symm
      unfold Kernel.setCc
      cases lookup (signed q.handle) k.state with
      | none => rfl
      | some sk =>
        dsimp only
        split <;> rfl
    · cases hexec
      exact hother (by rw [hget]; rfl) rfl
    · obtain ⟨⟨a, t⟩, hdrive, heq⟩ := Option.map_eq_some_iff.mp hexec
      cases heq
      rw [← hstate] at hdrive
      obtain ⟨ls, hh⟩ := handles_drive hready hvalid hgoes' hdrive
      exact ⟨_, ⟨c, ls, a, .refl c, hh, rfl, fun _ => rfl⟩, rfl, _, rfl⟩

end Tcpcc.Runtime
