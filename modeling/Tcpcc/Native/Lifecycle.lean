import Tcpcc.Native.Dialogue
import Tcpcc.Native.Firewall
import Tcpcc.Native.Process

/-!
# The lifecycle of the native command

`main` of the native command, from the checks at its start to the status it exits with. The
outcomes of all external steps are a parameter. What it does to the firewall, to processes, to the
hosted kernel and to the TUN descriptor is kept in one order.
-/

namespace Tcpcc.Native
open Control Trace

inductive Action
  | firewall (c : Command) (ok : Bool)
  | process (c : Syscall)
  | control (q : Request) (r : Option Response)
  | closeTun
  deriving DecidableEq, Repr

/-- The outcomes of the external steps, in the order of `main`. -/
structure World where
  preflight : Bool := true
  inspected : Bool := true
  allocated : Bool := true
  masked : Bool := true
  signalFd : Bool := true
  tunRandom : Option String := none
  /-- The device was opened, created and configured. -/
  tun : Bool := true
  pid : ℕ
  install : ℕ → InstallOutcome
  /-- The argument checks of `tcpcc_hosted_process_start`. -/
  arguments : Bool := true
  start : Startup
  client : Bool := true
  answer : ℕ → Option Response
  /-- A signal arrived and the child was still there. -/
  signalled : Bool := true
  /-- The child exited by itself, with status 0. -/
  exitsCleanly : Bool := true
  close : ℕ → CloseOutcome

structure Supervisor where
  process : Process := {}
  netfilter : Netfilter
  /-- The transactions that were made. -/
  asked : ℕ := 0
  actions : List Action := []

namespace Supervisor

def log (s : Supervisor) (a : Action) : Supervisor := { s with actions := s.actions ++ [a] }

def commanded (s : Supervisor) (n : Netfilter) (j : Journal) : Supervisor :=
  { s with netfilter := n, actions := s.actions ++ j.map fun e => .firewall e.1 e.2 }

def talk {α : Type} (w : World) (d : Dialogue α) (s : Supervisor) : α × Supervisor :=
  let (a, log) := d.run w.answer s.asked
  (a, { s with
    asked := s.asked + log.length
    actions := s.actions ++ log.map fun e => .control e.1 e.2 })

end Supervisor

def syscallOf : Action → Option Syscall
  | .process c => some c
  | _ => none

def commandOf : Action → Option (Command × Bool)
  | .firewall c ok => some (c, ok)
  | _ => none

def syscalls (actions : List Action) : List Syscall := actions.filterMap syscallOf

def journal (actions : List Action) : Journal := actions.filterMap commandOf

def running (actions : List Action) : List ℤ := children (syscalls actions)

/-! ## The hosted process -/

/-- `tcpcc_close`. -/
def closeFd (s : Supervisor) (fd : ℤ) : Supervisor :=
  if 0 ≤ fd then s.log (.process (.closed fd)) else s

def hostedProcessCloseChannels (s : Supervisor) : Supervisor :=
  let t := closeFd (closeFd s s.process.requestFd) s.process.responseFd
  { t with process := { s.process with requestFd := -1, responseFd := -1 } }

/-- `tcpcc_hosted_process_signal` with SIGKILL. -/
def hostedProcessSignal (s : Supervisor) : Supervisor :=
  if s.process.pid ≤ 0 then s else s.log (.process (.killed s.process.pid))

def hostedProcessWait (s : Supervisor) : Bool × Supervisor :=
  if s.process.pid ≤ 0 then (false, s)
  else if s.process.pid ∈ running s.actions then
    let t := closeFd (s.log (.process (.waited s.process.pid true))) s.process.pidFd
    (true, { t with process := { s.process with pid := -1, pidFd := -1 } })
  else (false, s.log (.process (.waited s.process.pid false)))

/-- `tcpcc_runtime_start`: whether it succeeds, and the handle of the service. -/
def runtimeStart (w : World) (inet : Inet) (config : Config) (s : Supervisor) :
    (Bool × Option ℕ) × Supervisor :=
  if w.arguments = false then ((false, none), s)
  else
    let (result, started) := hostedProcessStart w.start
    let s := { s with
      process := started.process
      actions := s.actions ++ started.trace.map .process }
    if result ≠ 0 ∨ w.client = false then ((false, none), s)
    else s.talk w (Dialogue.runtimeStart inet config)

/-! ## The firewall -/

/-- The policies of the routes, up to the first one that fails; the others stay blank. -/
def installAll (w : World) (config : Config) :
    ℕ → List Route → Netfilter → Bool × List Firewall × Netfilter × Journal
  | _, [], n => (true, [], n, [])
  | i, route :: routes, n =>
    let (f, n, j) := firewallInstall config w.pid route.listen (w.install i) n
    if f.installed = false then (false, f :: List.replicate routes.length {}, n, j)
    else
      let (ok, fs, n, js) := installAll w config (i + 1) routes n
      (ok, f :: fs, n, j ++ js)

/-- The policies of a reversed list, each closed whatever became of the others. -/
def closeAll (w : World) : List Firewall → Netfilter → Bool × Netfilter × Journal
  | [], n => (true, n, [])
  | f :: fs, n =>
    let (ok, n, j) := firewallClose f (w.close fs.length) n
    let (oks, n, js) := closeAll w fs n
    (ok && oks, n, j ++ js)

/-- `tcpcc_tun_open`, which chooses the name of the device if there is none. -/
def tunOpen (w : World) (config : Config) : Option Config :=
  let named := if config.tunName = "" then w.tunRandom.map fun random =>
      { config with tunName := "tcpcc" ++ random } else some config
  if w.tun then named else none

/-! ## The program -/

/-- What `main` has at its label `cleanup`. -/
structure Stage where
  supervisor : Supervisor
  firewalls : List Firewall
  tun : Bool
  service : Option ℕ := none
  stopped : Bool := false
  result : ℤ := 1

def awaitExit (w : World) (s : Supervisor) : Bool × Supervisor :=
  if 0 < s.process.pid then
    let (waited, s) := hostedProcessWait s
    (waited && w.exitsCleanly, s)
  else (true, s)

/-- `main` from the start of the runtime. -/
def serve (w : World) (inet : Inet) (config : Config) (firewalls : List Firewall)
    (s : Supervisor) : Stage :=
  let ((ok, service), s) := runtimeStart w inet config s
  if ok = false ∨ w.signalled = false then
    { supervisor := s, firewalls := firewalls, tun := true, service := service }
  else
    let (ok, s) := s.talk w (Dialogue.shutdownRuntime config.graceMs (service.getD 0))
    if ok = false then
      { supervisor := s, firewalls := firewalls, tun := true, service := service }
    else
      let (clean, s) := awaitExit w (hostedProcessCloseChannels s)
      { supervisor := s, firewalls := firewalls, tun := true, service := service, stopped := true,
        result := if clean then 0 else 1 }

/-- `main` from the setup of the signals. -/
def launch (w : World) (inet : Inet) (config : Config) (n : Netfilter) : Stage :=
  let blank := List.replicate config.routes.length {}
  if w.masked = false ∨ w.signalFd = false then
    { supervisor := { netfilter := n }, firewalls := blank, tun := false }
  else
    match tunOpen w config with
    | none => { supervisor := { netfilter := n }, firewalls := blank, tun := false }
    | some config =>
      let (ok, firewalls, n', j) := installAll w config 0 config.routes n
      let s := Supervisor.commanded { netfilter := n } n' j
      if ok = false then { supervisor := s, firewalls := firewalls, tun := true }
      else serve w inet config firewalls s

/-- What `main` does to a process that was not stopped. -/
def abandonRuntime (w : World) (service : Option ℕ) (s : Supervisor) : Supervisor :=
  let s := match service with
    | some handle => (s.talk w (Dialogue.stopService handle)).2
    | none => s
  (hostedProcessWait (hostedProcessCloseChannels (hostedProcessSignal s))).2

/-- `main` from its label `cleanup`. -/
def cleanup (w : World) (stage : Stage) : ℤ × Supervisor :=
  let s := stage.supervisor
  let s := if 0 < s.process.pid ∧ stage.stopped = false then abandonRuntime w stage.service s else s
  let (ok, n, j) := closeAll w stage.firewalls.reverse s.netfilter
  let s := s.commanded n j
  let s := if stage.tun then s.log .closeTun else s
  (if ok then stage.result else 1, s)

/-- The exit status of `main`, and what it did to a host with these rules. -/
def main (w : World) (inet : Inet) (config : Config) (n : Netfilter) : ℤ × Supervisor :=
  if w.preflight = false ∨ w.inspected = false then (1, { netfilter := n })
  else if config.checkOnly then (0, { netfilter := n })
  else if w.allocated = false then (1, { netfilter := n })
  else cleanup w (launch w inet config n)

end Tcpcc.Native
