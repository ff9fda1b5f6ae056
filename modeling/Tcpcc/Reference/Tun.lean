import Tcpcc.Lib.Raising
import Tcpcc.Native.Ownership

/-!
# The TUN queue of the reference supervisor

`create_tun_queue` and `TunQueue` of `tcpcc_host.py`. The opener, the ioctl, the closer, the command
runner and the name factory are callables of the caller, which may answer differently each time:
their answers depend on all calls that were made before. Every call is recorded with its answer.
-/

namespace Tcpcc.Reference
variable {ε α : Type}

/-- `TunConfig`; both addresses have one version. -/
structure TunConfig where
  hostAddress : String
  guestAddress : String
  ipv6 : Bool
  mtu : ℕ := 1500
  name : Option String := none

def TunConfig.maxPrefixlen (config : TunConfig) : String := if config.ipv6 then "128" else "32"

/-- A call of `create_tun_queue` with its answer. An ioctl changes the request that it is given. -/
inductive TunCall (ε : Type)
  | nameFactory (answer : Except ε String)
  | opener (path : String) (answer : Except ε ℤ)
  | ioctl (fd : ℤ) (request : List UInt8) (answer : Except ε (List UInt8))
  | runner (argv : List String) (answer : Except ε Unit)
  | closer (fd : ℤ) (answer : Except ε Unit)

/-- The callables; `errno` is the error number of an `OSError`. -/
structure TunCalls (ε : Type) where
  nameFactory : List (TunCall ε) → Except ε String
  opener : List (TunCall ε) → String → Except ε ℤ
  ioctl : List (TunCall ε) → ℤ → List UInt8 → Except ε (List UInt8)
  runner : List (TunCall ε) → List String → Except ε Unit
  closer : List (TunCall ε) → ℤ → Except ε Unit
  errno : ε → Option ℕ

inductive TunError (ε : Type)
  | raised (e : ε)
  | value (message : String)
  /-- The interface that was attached instead of the expected one, `none` for a name that is not
  ASCII. -/
  | attached (actual : Option String) (expected : String)
  | fileExists (attempts : ℕ) (lastCollision : Option ε)
  /-- `TunSetupCleanupError`. -/
  | setupCleanup (setup : TunError ε) (cleanup : ε)

/-- The variables of `create_tun_queue` and the calls it has made. -/
structure Creating (ε : Type) where
  calls : List (TunCall ε) := []
  nameCollision : Bool := false
  lastCollision : Option ε := none

abbrev TunScript (ε α : Type) := Raising (Creating ε) (TunError ε) α

structure TunQueue where
  name : String
  fd : Option ℤ
  deriving DecidableEq, Repr

def tunNameError : String :=
  "TUN name must contain 1-15 ASCII letters, digits, dots, underscores, or hyphens"

def validateTunName (name : String) : TunScript ε String :=
  if name.toList ≠ [] ∧ name.length ≤ 15 ∧ name.toList.all Native.isTunChar ∧ name ≠ "." ∧
      name ≠ ".." then pure name
  else throw (.value tunNameError)

def ifnamsiz : ℕ := 16

/-- `_ifreq`: the name, `TUN_IFF_FLAGS` and zeros up to `IFREQ_SIZE`. -/
def ifreq (name : String) : List UInt8 :=
  name.toList.map (fun c => UInt8.ofNat c.toNat) ++
    (List.replicate (ifnamsiz - name.length) 0 ++ ([0x01, 0x90] ++ List.replicate 22 0))

/-- `_attached_name`, `none` for a name that is not ASCII. -/
def attachedName (request : List UInt8) : Option String :=
  let encoded := (request.take ifnamsiz).takeWhile (· ≠ 0)
  if encoded.all (· < 128) then some (String.ofList (encoded.map fun b => Char.ofNat b.toNat))
  else none

namespace TunCalls

def perform (answer : List (TunCall ε) → Except ε α) (record : Except ε α → TunCall ε) :
    TunScript ε α :=
  Raising.call (fun s => answer s.calls) (fun r s => { s with calls := s.calls ++ [record r] })
    .raised

def collides (c : TunCalls ε) (e : ε) : Bool :=
  c.errno e = some 16 || c.errno e = some 17

def performRun (c : TunCalls ε) (argv : List String) : TunScript ε Unit :=
  perform (fun calls => c.runner calls argv) (.runner argv)

/-- `TUNSETIFF`, and the nested handler that recognises a collision of a generated name. -/
def attach (c : TunCalls ε) (generated : Bool) (fd : ℤ) (name : String) :
    TunScript ε (List UInt8) :=
  tryCatch (perform (fun calls => c.ioctl calls fd (ifreq name)) (.ioctl fd (ifreq name)))
    fun error =>
      match error with
      | .raised e =>
        if generated && c.collides e then do
          modify fun s => { s with lastCollision := some e, nameCollision := true }
          throw (.raised e)
        else throw (.raised e)
      | error => throw error

def configure (c : TunCalls ε) (config : TunConfig) (ipPath name : String) : TunScript ε Unit := do
  c.performRun [ipPath, "address", "add", config.hostAddress ++ "/" ++ config.maxPrefixlen, "peer",
    config.guestAddress ++ "/" ++ config.maxPrefixlen, "dev", name]
  c.performRun [ipPath, "link", "set", "dev", name, "mtu", toString config.mtu, "up"]
  if config.ipv6 then
    c.performRun [ipPath, "-6", "route", "replace", config.guestAddress ++ "/128", "dev", name,
      "src", config.hostAddress]
  else pure ()

def setUp (c : TunCalls ε) (config : TunConfig) (ipPath name : String) (fd : ℤ) :
    TunScript ε String := do
  let request ← c.attach config.name.isNone fd name
  match attachedName request with
  | none => throw (.attached none name)
  | some actual =>
    if actual ≠ name then throw (.attached (some actual) name)
    else do
      c.configure config ipPath name
      pure actual

def closeAfterSetupError (c : TunCalls ε) (fd : ℤ) (setupError : TunError ε) : TunScript ε Unit :=
  tryCatch (perform (fun calls => c.closer calls fd) (.closer fd)) fun error =>
    match error with
    | .raised cleanup => throw (.setupCleanup setupError cleanup)
    | error => throw error

def candidate (c : TunCalls ε) (config : TunConfig) : TunScript ε String :=
  match config.name with
  | none => perform c.nameFactory .nameFactory
  | some name => pure name

def attempt (c : TunCalls ε) (config : TunConfig) (tunPath ipPath : String) (attempts : ℕ) :
    ℕ → TunScript ε TunQueue
  | 0 => do
    let s ← get
    throw (.fileExists attempts s.lastCollision)
  | n + 1 => do
    let name ← c.candidate config
    let name ← validateTunName name
    let fd ← perform (fun calls => c.opener calls tunPath) (.opener tunPath)
    modify fun s => { s with nameCollision := false }
    let actual ← tryCatch (do
        let actual ← c.setUp config ipPath name fd
        pure (some actual))
      fun setupError => do
        c.closeAfterSetupError fd setupError
        let s ← get
        if s.nameCollision then pure none else throw setupError
    match actual with
    | some actual => pure ⟨actual, some fd⟩
    | none => c.attempt config tunPath ipPath attempts n

def createTunQueue (c : TunCalls ε) (config : TunConfig) (tunPath ipPath : String)
    (maxNameAttempts : ℤ) : TunScript ε TunQueue :=
  if ipPath = "" ∨ '\x00' ∈ ipPath.toList then throw (.value "ip_path must name one executable")
  else if maxNameAttempts < 1 then
    throw (.value "max_name_attempts must be a positive integer")
  else
    let attempts := if config.name.isNone then maxNameAttempts.toNat else 1
    c.attempt config tunPath ipPath attempts attempts

end TunCalls

/-- `TunQueue.close`, over the queue and the calls that were made. -/
def TunQueue.close (c : TunCalls ε) : Raising (TunQueue × List (TunCall ε)) ε Unit := do
  let s ← get
  match s.1.fd with
  | none => pure ()
  | some fd => do
    modify fun s => ({ s.1 with fd := none }, s.2)
    Raising.call (fun s => c.closer s.2 fd) (fun r s => (s.1, s.2 ++ [.closer fd r])) id

/-! ## What becomes of the descriptors -/

inductive Use
  | opened (fd : ℤ)
  | closed (fd : ℤ)
  deriving DecidableEq, Repr

def TunCall.use : TunCall ε → Option Use
  | .opener _ (.ok fd) => some (.opened fd)
  | .closer fd _ => some (.closed fd)
  | _ => none

def descriptors (calls : List (TunCall ε)) : List Use := calls.filterMap TunCall.use

structure Collision (ε : Type) where
  name : String
  fd : ℤ
  error : ε

def Collision.calls (tunPath : String) (x : Collision ε) : List (TunCall ε) :=
  [.nameFactory (.ok x.name), .opener tunPath (.ok x.fd),
    .ioctl x.fd (ifreq x.name) (.error x.error), .closer x.fd (.ok ())]

theorem Collision.descriptors_calls (tunPath : String) (x : Collision ε) :
    descriptors (x.calls tunPath) = [.opened x.fd, .closed x.fd] :=
  rfl

structure Retries (c : TunCalls ε) (config : TunConfig) (xs : List (Collision ε)) : Prop where
  collides : ∀ x ∈ xs, c.collides x.error = true
  generated : xs ≠ [] → config.name = none

def afterClose (err : TunError ε) : Except ε Unit → TunError ε
  | .ok _ => err
  | .error cleanup => .setupCleanup err cleanup

structure Abandoned (c : TunCalls ε) (config : TunConfig) (ipPath : String)
    (calls last : List (TunCall ε)) (e : TunError ε) : Prop where
  closes : ∃ name fd opening setup r err before after,
    last = opening ++ setup ++ [.closer fd r] ∧ descriptors opening = [.opened fd] ∧
    descriptors setup = [] ∧
    (c.setUp config ipPath name fd).outcome before = (.error err, after) ∧
    before.calls = calls ++ opening ∧ after.calls = before.calls ++ setup ∧
    e = afterClose err r

structure Quiet (s t : Creating ε) : Prop where
  calls : ∃ ys, t.calls = s.calls ++ ys ∧ descriptors ys = []
  nameCollision : t.nameCollision = s.nameCollision

namespace Quiet
variable {s t u : Creating ε}

theorem trans (h : Quiet s t) (h' : Quiet t u) : Quiet s u := by
  obtain ⟨ys, hys, hquiet⟩ := h.calls
  obtain ⟨zs, hzs, hquiet'⟩ := h'.calls
  refine ⟨⟨ys ++ zs, by rw [hzs, hys, List.append_assoc], ?_⟩,
    h'.nameCollision.trans h.nameCollision⟩
  rw [descriptors, List.filterMap_append]
  exact List.append_eq_nil_iff.mpr ⟨hquiet, hquiet'⟩

end Quiet

namespace TunCalls
variable (c : TunCalls ε) (config : TunConfig) (tunPath ipPath : String) {s : Creating ε}

theorem quiet_performRun (argv : List String) :
    (c.performRun argv).wp (fun _ t => Quiet s t) (fun _ t => Quiet s t) s := by
  rw [performRun, perform, Raising.wp_call]
  exact ⟨fun _ _ => ⟨⟨_, rfl, rfl⟩, rfl⟩, fun _ _ => ⟨⟨_, rfl, rfl⟩, rfl⟩⟩

theorem quiet_performRun_from {r : Creating ε} (hr : Quiet r s) (argv : List String) :
    (c.performRun argv).wp (fun _ t => Quiet r t) (fun _ t => Quiet r t) s :=
  Raising.wp_mono (c.quiet_performRun argv) (fun _ _ h => hr.trans h) (fun _ _ h => hr.trans h)

theorem quiet_configure {r : Creating ε} (hr : Quiet r s) (name : String) :
    (c.configure config ipPath name).wp (fun _ t => Quiet r t) (fun _ t => Quiet r t) s := by
  rw [configure, Raising.wp_bind]
  refine Raising.wp_mono (c.quiet_performRun_from hr _) (fun _ t ht => ?_) (fun _ _ h => h)
  rw [Raising.wp_bind]
  refine Raising.wp_mono (c.quiet_performRun_from ht _) (fun _ u hu => ?_) (fun _ _ h => h)
  split
  case isTrue => exact c.quiet_performRun_from hu _
  case isFalse => exact (Raising.wp_pure _).mpr hu

structure SetupRaised (name : String) (fd : ℤ) (s t : Creating ε) : Prop where
  calls : ∃ ys, t.calls = s.calls ++ ys ∧ descriptors ys = [] ∧
    (t.nameCollision = true → config.name = none ∧
      ∃ e, c.collides e = true ∧ ys = [.ioctl fd (ifreq name) (.error e)])

theorem setupRaised_of_quiet {name : String} {fd : ℤ} {t : Creating ε}
    (hs : s.nameCollision = false) (h : Quiet s t) : c.SetupRaised config name fd s t := by
  obtain ⟨ys, hys, hquiet⟩ := h.calls
  refine ⟨ys, hys, hquiet, ?_⟩
  intro htrue
  rw [h.nameCollision, hs] at htrue
  cases htrue

theorem attach_spec (name : String) (fd : ℤ) (hs : s.nameCollision = false) :
    (c.attach config.name.isNone fd name).wp (fun _ t => Quiet s t)
      (fun _ t => c.SetupRaised config name fd s t) s := by
  rw [attach, perform, Raising.wp_tryCatch, Raising.wp_call]
  refine ⟨fun _ _ => ⟨⟨_, rfl, rfl⟩, rfl⟩, fun e _ => ?_⟩
  dsimp only
  split
  case isTrue hcollides =>
    rw [Bool.and_eq_true, Option.isNone_iff_eq_none] at hcollides
    rw [Raising.wp_bind, Raising.wp_modify, Raising.wp_throw]
    exact ⟨_, rfl, rfl, fun _ => ⟨hcollides.1, e, hcollides.2, rfl⟩⟩
  case isFalse =>
    rw [Raising.wp_throw]
    exact c.setupRaised_of_quiet config hs ⟨⟨_, rfl, rfl⟩, rfl⟩

theorem setUp_spec (name : String) (fd : ℤ) (hs : s.nameCollision = false) :
    (c.setUp config ipPath name fd).wp (fun _ t => Quiet s t)
      (fun _ t => c.SetupRaised config name fd s t) s := by
  have hraised {t : Creating ε} (ht : Quiet s t) : c.SetupRaised config name fd s t :=
    c.setupRaised_of_quiet config hs ht
  rw [setUp, Raising.wp_bind]
  refine Raising.wp_mono (c.attach_spec config name fd hs) (fun request t ht => ?_) (fun _ _ h => h)
  split
  case h_1 => exact (Raising.wp_throw _).mpr (hraised ht)
  case h_2 actual _ =>
    split
    case isTrue => exact (Raising.wp_throw _).mpr (hraised ht)
    case isFalse =>
      rw [Raising.wp_bind]
      exact Raising.wp_mono (c.quiet_configure config ipPath ht name)
        (fun _ u hu => (Raising.wp_pure _).mpr hu) (fun _ _ h => hraised h)

structure Chosen (name : String) (s t : Creating ε) : Prop where
  calls : ∃ ys, t.calls = s.calls ++ ys ∧ descriptors ys = [] ∧
    (config.name = none → ys = [.nameFactory (.ok name)])

theorem candidate_spec :
    (c.candidate config).wp (fun name t => Chosen config name s t) (fun _ t => Quiet s t) s := by
  rw [candidate]
  split
  case h_1 =>
    rw [perform, Raising.wp_call]
    exact ⟨fun name _ => ⟨_, rfl, rfl, fun _ => rfl⟩, fun _ _ => ⟨⟨_, rfl, rfl⟩, rfl⟩⟩
  case h_2 name hname =>
    rw [Raising.wp_pure]
    refine ⟨[], by simp, rfl, ?_⟩
    intro hnone
    rw [hname] at hnone
    cases hnone

theorem validateTunName_spec (name : String) :
    (validateTunName name : TunScript ε String).wp (fun a t => a = name ∧ t = s)
      (fun _ t => t = s) s := by
  rw [validateTunName]
  split
  case isTrue => exact (Raising.wp_pure _).mpr ⟨rfl, rfl⟩
  case isFalse => exact (Raising.wp_throw _).mpr rfl

structure Acquired (n : ℕ) (s : Creating ε) (q : TunQueue) (t : Creating ε) : Prop where
  attempts : ∃ xs fd last, Retries c config xs ∧ xs.length < n ∧
    t.calls = s.calls ++ xs.flatMap (Collision.calls tunPath) ++ last ∧
    descriptors last = [.opened fd] ∧ q.fd = some fd

structure Refused (n : ℕ) (s : Creating ε) (e : TunError ε) (t : Creating ε) : Prop where
  attempts : ∃ xs last, Retries c config xs ∧
    t.calls = s.calls ++ xs.flatMap (Collision.calls tunPath) ++ last ∧
    (xs.length ≤ n ∧ descriptors last = [] ∨
      xs.length < n ∧
        Abandoned c config ipPath (s.calls ++ xs.flatMap (Collision.calls tunPath)) last e)

theorem refused_of_quiet {n : ℕ} {e : TunError ε} {t : Creating ε}
    (h : ∃ ys, t.calls = s.calls ++ ys ∧ descriptors ys = []) :
    c.Refused config tunPath ipPath n s e t := by
  obtain ⟨ys, hys, hquiet⟩ := h
  exact ⟨[], ys, ⟨by simp, by simp⟩, by simpa using hys, .inl ⟨Nat.zero_le _, hquiet⟩⟩

section Retry
variable {n : ℕ} {x : Collision ε} {t u : Creating ε}

theorem retries_cons {xs : List (Collision ε)} (hx : c.collides x.error = true)
    (hgenerated : config.name = none) (h : Retries c config xs) : Retries c config (x :: xs) :=
  ⟨List.forall_mem_cons.mpr ⟨hx, h.collides⟩, fun _ => hgenerated⟩

theorem Acquired.retry {q : TunQueue} (hx : c.collides x.error = true)
    (hgenerated : config.name = none) (ht : t.calls = s.calls ++ x.calls tunPath)
    (h : c.Acquired config tunPath n t q u) : c.Acquired config tunPath (n + 1) s q u := by
  obtain ⟨xs, fd, last, hxs, hlength, hcalls, hlast, hfd⟩ := h.attempts
  refine ⟨x :: xs, fd, last, c.retries_cons config hx hgenerated hxs, Nat.succ_lt_succ hlength,
    ?_, hlast, hfd⟩
  rw [hcalls, ht, List.flatMap_cons]
  simp only [List.append_assoc]

theorem Refused.retry {e : TunError ε} (hx : c.collides x.error = true)
    (hgenerated : config.name = none) (ht : t.calls = s.calls ++ x.calls tunPath)
    (h : c.Refused config tunPath ipPath n t e u) :
    c.Refused config tunPath ipPath (n + 1) s e u := by
  obtain ⟨xs, last, hxs, hcalls, hlast⟩ := h.attempts
  refine ⟨x :: xs, last, c.retries_cons config hx hgenerated hxs, ?_, ?_⟩
  · rw [hcalls, ht, List.flatMap_cons]
    simp only [List.append_assoc]
  · rw [ht, List.append_assoc, ← List.flatMap_cons] at hlast
    exact hlast.imp (fun h => ⟨Nat.succ_le_succ h.1, h.2⟩) fun h => ⟨Nat.succ_lt_succ h.1, h.2⟩

end Retry

section Attempt
variable {n : ℕ} {fd : ℤ} {t u : Creating ε} {ys : List (TunCall ε)}

theorem acquired_of_setUp {actual : String} (ht : t.calls = s.calls ++ ys)
    (hys : descriptors ys = [.opened fd]) (h : Quiet t u) :
    c.Acquired config tunPath (n + 1) s ⟨actual, some fd⟩ u := by
  obtain ⟨zs, hzs, hquiet⟩ := h.calls
  refine ⟨[], fd, ys ++ zs, ⟨by simp, by simp⟩, Nat.succ_pos n, ?_, ?_, rfl⟩
  · simp only [hzs, ht, List.flatMap_nil, List.append_nil, List.append_assoc]
  · rw [descriptors, List.filterMap_append, ← descriptors, ← descriptors, hys, hquiet]
    rfl

theorem refused_of_setUp {name : String} {err : TunError ε} (ht : t.calls = s.calls ++ ys)
    (hys : descriptors ys = [.opened fd])
    (houtcome : (c.setUp config ipPath name fd).outcome t = (.error err, u))
    (h : c.SetupRaised config name fd t u) {r : Except ε Unit} {v : Creating ε}
    (hv : v.calls = u.calls ++ [.closer fd r]) :
    c.Refused config tunPath ipPath (n + 1) s (afterClose err r) v := by
  obtain ⟨zs, hzs, hquiet, -⟩ := h.calls
  refine ⟨[], ys ++ zs ++ [.closer fd r], ⟨by simp, by simp⟩, ?_, .inr ⟨Nat.succ_pos n, ?_⟩⟩
  · simp only [hv, hzs, ht, List.flatMap_nil, List.append_nil, List.append_assoc]
  · exact ⟨name, fd, ys, zs, r, err, t, u, rfl, hys, hquiet, houtcome, by simpa using ht, hzs, rfl⟩

end Attempt

theorem closeAfterSetupError_spec (fd : ℤ) (err : TunError ε) :
    (c.closeAfterSetupError fd err).wp
      (fun _ t => t = { s with calls := s.calls ++ [.closer fd (.ok ())] })
      (fun e t => ∃ cleanup, e = .setupCleanup err cleanup ∧
        t = { s with calls := s.calls ++ [.closer fd (.error cleanup)] }) s := by
  rw [closeAfterSetupError, perform, Raising.wp_tryCatch, Raising.wp_call]
  refine ⟨fun _ _ => rfl, fun cleanup _ => ?_⟩
  dsimp only
  rw [Raising.wp_throw]
  exact ⟨cleanup, rfl, rfl⟩

theorem attempt_spec (attempts n : ℕ) :
    (c.attempt config tunPath ipPath attempts n).wp (c.Acquired config tunPath n s)
      (c.Refused config tunPath ipPath n s) s := by
  induction n generalizing s with
  | zero =>
    rw [attempt, Raising.wp_bind, Raising.wp_get, Raising.wp_throw]
    exact c.refused_of_quiet config tunPath ipPath ⟨[], by simp, rfl⟩
  | succ n ih =>
    rw [attempt, Raising.wp_bind]
    refine Raising.wp_mono (c.candidate_spec config) (fun candidate t ht => ?_)
      (fun _ t ht => c.refused_of_quiet config tunPath ipPath ht.calls)
    obtain ⟨ys, hys, hquiet, hchosen⟩ := ht.calls
    rw [Raising.wp_bind]
    refine Raising.wp_mono (validateTunName_spec candidate) ?_ ?_
    rotate_left
    · rintro _ _ rfl
      exact c.refused_of_quiet config tunPath ipPath ⟨ys, hys, hquiet⟩
    rintro name _ ⟨rfl, rfl⟩
    rw [Raising.wp_bind, perform, Raising.wp_call]
    refine ⟨fun fd _ => ?_, fun e _ => ?_⟩
    rotate_left
    · refine c.refused_of_quiet config tunPath ipPath ⟨ys ++ [.opener tunPath (.error e)], ?_, ?_⟩
      · simp only [hys, List.append_assoc]
      · rw [descriptors, List.filterMap_append, ← descriptors, hquiet]
        rfl
    rw [Raising.wp_bind, Raising.wp_modify, Raising.wp_bind, Raising.wp_tryCatch, Raising.wp_bind]
    generalize hu : ({ calls := _, nameCollision := false, lastCollision := _ } : Creating ε) = u
    have hcalls : u.calls = s.calls ++ (ys ++ [.opener tunPath (.ok fd)]) := by
      simp only [← hu, hys, List.append_assoc]
    have hopened : descriptors (ys ++ [.opener tunPath (.ok fd)]) = [.opened fd] := by
      rw [descriptors, List.filterMap_append, ← descriptors, hquiet]
      rfl
    have hfresh : u.nameCollision = false := by rw [← hu]
    refine Raising.wp_mono (Raising.wp_outcome (c.setUp_spec config ipPath name fd hfresh))
      (fun actual v hv => ?_) (fun err v hv => ?_)
    · rw [Raising.wp_pure, Raising.wp_pure]
      exact c.acquired_of_setUp config tunPath hcalls hopened hv.2
    · have hrefused {r : Except ε Unit} {w : Creating ε}
          (hw : w.calls = v.calls ++ [.closer fd r]) :
          c.Refused config tunPath ipPath (n + 1) s (afterClose err r) w :=
        c.refused_of_setUp config tunPath ipPath hcalls hopened hv.1 hv.2 hw
      rw [Raising.wp_bind]
      refine Raising.wp_mono (c.closeAfterSetupError_spec fd err) ?_ ?_
      rotate_left
      · rintro _ w ⟨cleanup, rfl, rfl⟩
        exact hrefused (r := .error cleanup) rfl
      rintro _ w rfl
      rw [Raising.wp_bind, Raising.wp_get]
      split
      case isFalse => exact (Raising.wp_throw _).mpr (hrefused (r := .ok ()) rfl)
      case isTrue hcollision =>
        -- the calls of this attempt are those of a collision
        obtain ⟨zs, hzs, -, hnoted⟩ := hv.2.calls
        obtain ⟨hgenerated, e, he, rfl⟩ := hnoted hcollision
        have hx : v.calls ++ [.closer fd (.ok ())] =
            s.calls ++ (⟨name, fd, e⟩ : Collision ε).calls tunPath := by
          rw [hzs, hcalls, hchosen hgenerated]
          simp [Collision.calls]
        rw [Raising.wp_pure]
        exact Raising.wp_mono ih (fun _ _ h => h.retry c config tunPath he hgenerated hx)
          (fun _ _ h => h.retry c config tunPath ipPath he hgenerated hx)

def closedAgain (fds : List ℤ) : List Use := fds.flatMap fun fd => [.opened fd, .closed fd]

theorem descriptors_collisions (xs : List (Collision ε)) :
    descriptors (xs.flatMap (Collision.calls tunPath)) = closedAgain (xs.map Collision.fd) := by
  induction xs with
  | nil => rfl
  | cons x xs ih =>
    rw [List.flatMap_cons, descriptors, List.filterMap_append, ← descriptors, ← descriptors, ih,
      x.descriptors_calls]
    rfl

theorem Abandoned.descriptors_eq {calls last : List (TunCall ε)} {e : TunError ε}
    (h : Abandoned c config ipPath calls last e) : ∃ fd, descriptors last = closedAgain [fd] := by
  obtain ⟨_, fd, opening, setup, r, _, _, _, rfl, hopening, hsetup, -⟩ := h.closes
  refine ⟨fd, ?_⟩
  rw [descriptors, List.filterMap_append, List.filterMap_append, ← descriptors, ← descriptors,
    hopening, hsetup]
  rfl

theorem outcome_close {q : TunQueue} {calls : List (TunCall ε)} {fd : ℤ} (h : q.fd = some fd) :
    ((TunQueue.close c).outcome (q, calls)).2 =
      ({ q with fd := none }, calls ++ [.closer fd (c.closer calls fd)]) := by
  obtain ⟨name, _⟩ := q
  subst h
  rfl

theorem outcome_close_closed {q : TunQueue} {calls : List (TunCall ε)} (h : q.fd = none) :
    (TunQueue.close c).outcome (q, calls) = (.ok (), (q, calls)) := by
  obtain ⟨name, _⟩ := q
  subst h
  rfl

def closeTimes (n : ℕ) (s : TunQueue × List (TunCall ε)) : TunQueue × List (TunCall ε) :=
  (fun s => ((TunQueue.close c).outcome s).2)^[n] s

theorem closeTimes_succ {q : TunQueue} {calls : List (TunCall ε)} {fd : ℤ} (h : q.fd = some fd)
    (n : ℕ) : c.closeTimes (n + 1) (q, calls) =
      ({ q with fd := none }, calls ++ [.closer fd (c.closer calls fd)]) := by
  rw [closeTimes, Function.iterate_succ_apply, c.outcome_close h]
  induction n with
  | zero => rfl
  | succ n ih => rw [Function.iterate_succ_apply, c.outcome_close_closed rfl, ih]

/-- Every descriptor that `create_tun_queue` opened was closed exactly once, but for the last one
if a queue is returned. It retries only after collisions of generated names, and an abandoned
attempt is reported with the failure of its close. -/
theorem createTunQueue_never_leaks (maxNameAttempts : ℤ) :
    (c.createTunQueue config tunPath ipPath maxNameAttempts).wp
      (fun q t => ∃ xs fd last, Retries c config xs ∧
        t.calls = xs.flatMap (Collision.calls tunPath) ++ last ∧
        descriptors t.calls = closedAgain (xs.map Collision.fd) ++ [.opened fd] ∧
        xs.length + 1 ≤ maxNameAttempts ∧ q.fd = some fd ∧
        ∀ n, ∃ r, c.closeTimes (n + 1) (q, t.calls) =
          ({ q with fd := none }, t.calls ++ [.closer fd r]))
      (fun e t => ∃ xs last fds, Retries c config xs ∧
        t.calls = xs.flatMap (Collision.calls tunPath) ++ last ∧
        descriptors t.calls = closedAgain (xs.map Collision.fd ++ fds) ∧
        (xs.map Collision.fd ++ fds).length ≤ maxNameAttempts.toNat ∧
        (descriptors last = [] ∨
          Abandoned c config ipPath (xs.flatMap (Collision.calls tunPath)) last e)) {} := by
  rw [createTunQueue]
  split
  case isTrue =>
    rw [Raising.wp_throw]
    exact ⟨[], [], [], ⟨by simp, by simp⟩, rfl, rfl, Nat.zero_le _, .inl rfl⟩
  split
  case isTrue =>
    rw [Raising.wp_throw]
    exact ⟨[], [], [], ⟨by simp, by simp⟩, rfl, rfl, Nat.zero_le _, .inl rfl⟩
  case isFalse hmax =>
    dsimp only
    generalize hn : (if config.name.isNone then maxNameAttempts.toNat else 1) = n
    have hle : n ≤ maxNameAttempts.toNat := by
      rw [← hn]
      split <;> omega
    refine Raising.wp_mono (c.attempt_spec config tunPath ipPath n n) (fun q t h => ?_)
      (fun e t h => ?_)
    · obtain ⟨xs, fd, last, hxs, hlength, hcalls, hlast, hfd⟩ := h.attempts
      rw [List.nil_append] at hcalls
      refine ⟨xs, fd, last, hxs, hcalls, ?_, by omega, hfd, fun n => ⟨_, c.closeTimes_succ hfd n⟩⟩
      rw [hcalls, descriptors, List.filterMap_append, ← descriptors, ← descriptors,
        descriptors_collisions, hlast]
    · obtain ⟨xs, last, hxs, hcalls, hlast⟩ := h.attempts
      rw [List.nil_append] at hcalls hlast
      have hsplit : descriptors t.calls =
          closedAgain (xs.map Collision.fd) ++ descriptors last := by
        rw [hcalls, descriptors, List.filterMap_append, ← descriptors, ← descriptors,
          descriptors_collisions]
      rcases hlast with ⟨hlength, hlast⟩ | ⟨hlength, hlast⟩
      · refine ⟨xs, last, [], hxs, hcalls, ?_, ?_, .inl hlast⟩
        · rw [hsplit, hlast, List.append_nil, List.append_nil]
        · simp only [List.append_nil, List.length_map]
          omega
      · obtain ⟨fd, hfd⟩ := Abandoned.descriptors_eq c config ipPath hlast
        refine ⟨xs, last, [fd], hxs, hcalls, ?_, ?_, .inr hlast⟩
        · rw [hsplit, hfd, closedAgain, closedAgain, closedAgain, List.flatMap_append]
        · simp only [List.length_append, List.length_map, List.length_singleton]
          omega

end TunCalls
end Tcpcc.Reference
