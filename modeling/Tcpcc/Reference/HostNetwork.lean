import Tcpcc.Lib.Raising
import Tcpcc.Reference.Ownership

/-!
# Acquiring the host network

`acquire_host_network` and `OwnershipJournal` of `tcpcc_host.py`. The callables may answer
differently each time, and `defer` may raise without registering anything. Every call is recorded
with its answer. A resource is held from the call that acquires it to the call that closes it.
-/

namespace Tcpcc.Reference
variable {ε α : Type}

inductive Resource
  | tun
  | dnat
  deriving DecidableEq, Repr

/-- The names of a `FirewallDnatLease`. -/
structure DnatLease where
  backendId : String
  resourceName : String
  deriving DecidableEq, Repr

/-- A call of `acquire_host_network` with its answer. A report is `none` if it is not of the
expected type. -/
inductive HostCall (ε : Type)
  | preflight (ok : Except ε (Option Bool))
  | ownership (blocking : Except ε (Option Bool))
  | compatibility (answer : Except ε Unit)
  | acquireTun (name : Except ε String)
  | identity (tunName : String) (owner : Except ε NftOwnership)
  | acquireDnat (owner : NftOwnership) (lease : Except ε DnatLease)
  | defer (label : String) (answer : Except ε Unit)
  | close (r : Resource) (answer : Except ε Unit)

structure HostCalls (ε : Type) where
  preflight : List (HostCall ε) → Except ε (Option Bool)
  ownership : List (HostCall ε) → Except ε (Option Bool)
  compatibility : List (HostCall ε) → Except ε Unit
  acquireTun : List (HostCall ε) → Except ε String
  identity : List (HostCall ε) → String → Except ε NftOwnership
  acquireDnat : List (HostCall ε) → NftOwnership → Except ε DnatLease
  deferred : List (HostCall ε) → String → Except ε Unit
  close : List (HostCall ε) → Resource → Except ε Unit

inductive HostError (ε : Type)
  | raised (e : ε)
  | type (message : String)
  | value (message : String)
  | runtime (message : String)
  /-- `HostPreflightError`. -/
  | preflight
  /-- `StaleOwnershipError`. -/
  | stale
  /-- `CleanupError`. -/
  | cleanup (failures : List (String × HostError ε))
  /-- `StartupRollbackError`. -/
  | rollback (startup : HostError ε) (failures : List (String × HostError ε))

structure Journal where
  entries : List (String × Resource) := []
  closed : Bool := false
  deriving DecidableEq, Repr

structure Acquiring (ε : Type) where
  calls : List (HostCall ε) := []
  journal : Journal := {}

abbrev HostScript (ε α : Type) := Raising (Acquiring ε) (HostError ε) α

structure HostNetworkLease where
  tunName : String
  dnat : DnatLease
  deriving DecidableEq, Repr

namespace HostCalls

def perform (answer : List (HostCall ε) → Except ε α) (record : Except ε α → HostCall ε) :
    HostScript ε α :=
  Raising.call (fun s => answer s.calls) (fun r s => { s with calls := s.calls ++ [record r] })
    .raised

def closeResource (c : HostCalls ε) (r : Resource) : HostScript ε Unit :=
  perform (fun calls => c.close calls r) (.close r)

def attemptClose (c : HostCalls ε) (label : String) (r : Resource) :
    HostScript ε (List (String × HostError ε)) :=
  tryCatch (do
      c.closeResource r
      pure [])
    fun error => pure [(label, error)]

def defer (c : HostCalls ε) (label : String) (r : Resource) : HostScript ε Unit := do
  let s ← get
  if s.journal.closed then throw (.runtime "cannot add a resource to a closed journal")
  else if label = "" then throw (.value "cleanup label must not be empty")
  else do
    perform (fun calls => c.deferred calls label) (.defer label)
    modify fun s =>
      { s with journal := { s.journal with entries := s.journal.entries ++ [(label, r)] } }

def closeEntries (c : HostCalls ε) :
    List (String × Resource) → HostScript ε (List (String × HostError ε))
  | [] => pure []
  | (label, r) :: rest => do
    let failure ← c.attemptClose label r
    let failures ← c.closeEntries rest
    pure (failure ++ failures)

def journalClose (c : HostCalls ε) : HostScript ε Unit := do
  let s ← get
  if s.journal.closed then pure ()
  else do
    modify fun s => { s with journal := { entries := [], closed := true } }
    let failures ← c.closeEntries s.journal.entries.reverse
    if failures.isEmpty then pure () else throw (.cleanup failures)

def rollbackUnregisteredResource (c : HostCalls ε) (label : String) (r : Resource)
    (startupError : HostError ε) : HostScript ε Unit := do
  let failure ← c.attemptClose label r
  let failures ← tryCatch (do
      c.journalClose
      pure [])
    fun error =>
      match error with
      | .cleanup failures => pure failures
      | error => throw error
  if (failure ++ failures).isEmpty then throw startupError
  else throw (.rollback startupError (failure ++ failures))

def registerResource (c : HostCalls ε) (label : String) (r : Resource) : HostScript ε Unit :=
  tryCatch (c.defer label r) fun error => c.rollbackUnregisteredResource label r error

def checkHost (c : HostCalls ε) : HostScript ε Unit := do
  let preflight ← perform c.preflight .preflight
  match preflight with
  | none => throw (.type "preflight_collector returned an invalid report")
  | some false => throw .preflight
  | some true =>
    let ownership ← perform c.ownership .ownership
    match ownership with
    | none => throw (.type "ownership_collector returned an invalid report")
    | some true => throw .stale
    | some false => perform c.compatibility .compatibility

def acquireResources (c : HostCalls ε) : HostScript ε HostNetworkLease := do
  let tun ← perform c.acquireTun .acquireTun
  c.registerResource ("tun:" ++ tun) .tun
  let owner ← perform (fun calls => c.identity calls tun) (.identity tun)
  let dnat ← perform (fun calls => c.acquireDnat calls owner) (.acquireDnat owner)
  if dnat.resourceName = "" then
    throw (.type "dnat_acquirer returned an invalid firewall lease")
  else do
    c.registerResource (dnat.backendId ++ ":" ++ dnat.resourceName) .dnat
    pure ⟨tun, dnat⟩

def closeAfterFailure (c : HostCalls ε) (startupError : HostError ε) : HostScript ε Unit :=
  tryCatch c.journalClose fun error =>
    match error with
    | .cleanup failures => throw (.rollback startupError failures)
    | error => throw error

def rollback (c : HostCalls ε) (startupError : HostError ε) : HostScript ε HostNetworkLease :=
  match startupError with
  | .rollback startup failures => throw (.rollback startup failures)
  | startupError => do
    c.closeAfterFailure startupError
    throw startupError

def acquireHostNetwork (c : HostCalls ε) : HostScript ε HostNetworkLease := do
  c.checkHost
  tryCatch c.acquireResources c.rollback

end HostCalls

/-! ## What the calls say -/

namespace HostCall

def blame : HostCall ε → Option (HostError ε)
  | .preflight (.error e) => some (.raised e)
  | .preflight (.ok none) => some (.type "preflight_collector returned an invalid report")
  | .preflight (.ok (some false)) => some .preflight
  | .ownership (.error e) => some (.raised e)
  | .ownership (.ok none) => some (.type "ownership_collector returned an invalid report")
  | .ownership (.ok (some true)) => some .stale
  | .compatibility (.error e) => some (.raised e)
  | .acquireTun (.error e) => some (.raised e)
  | .identity _ (.error e) => some (.raised e)
  | .acquireDnat _ (.error e) => some (.raised e)
  | .defer _ (.error e) => some (.raised e)
  | _ => none

def acquires : HostCall ε → Option Resource
  | .acquireTun (.ok _) => some .tun
  | .acquireDnat _ (.ok _) => some .dnat
  | _ => none

def closes : HostCall ε → Option Resource
  | .close r _ => some r
  | _ => none

def asks : HostCall ε → Bool
  | .acquireTun _ => true
  | .acquireDnat _ _ => true
  | _ => false

end HostCall

structure Ran (calls : List (HostCall ε)) (errors : List (HostError ε)) (rs : List Resource) :
    Prop where
  blames : calls.filterMap HostCall.blame = errors
  acquires : calls.filterMap HostCall.acquires = rs
  closes : calls.filterMap HostCall.closes = []

theorem Ran.append {calls calls' : List (HostCall ε)} {errors errors' : List (HostError ε)}
    {rs rs' : List Resource} (h : Ran calls errors rs) (h' : Ran calls' errors' rs') :
    Ran (calls ++ calls') (errors ++ errors') (rs ++ rs') := by
  refine ⟨?_, ?_, ?_⟩
  · rw [List.filterMap_append, h.blames, h'.blames]
  · rw [List.filterMap_append, h.acquires, h'.acquires]
  · rw [List.filterMap_append, h.closes, h'.closes, List.append_nil]

def passed : List (HostCall ε) :=
  [.preflight (.ok (some true)), .ownership (.ok (some false)), .compatibility (.ok ())]

def Gated (calls : List (HostCall ε)) : Prop :=
  calls.any HostCall.asks = true → passed <+: calls

def closingFailure (x : Resource × Except ε Unit) : Option (HostError ε) :=
  match x.2 with
  | .ok _ => none
  | .error e => some (.raised e)

structure Cleaned (rs : List Resource) (failures : List (String × HostError ε))
    (calls calls' : List (HostCall ε)) : Prop where
  closings : ∃ xs : List (Resource × Except ε Unit),
    calls' = calls ++ xs.map (fun x => .close x.1 x.2) ∧ xs.map Prod.fst = rs ∧
    failures.map Prod.snd = xs.filterMap closingFailure

theorem Cleaned.append {rs rs' : List Resource} {failures failures' : List (String × HostError ε)}
    {calls calls' calls'' : List (HostCall ε)} (h : Cleaned rs failures calls calls')
    (h' : Cleaned rs' failures' calls' calls'') :
    Cleaned (rs ++ rs') (failures ++ failures') calls calls'' := by
  obtain ⟨xs, rfl, rfl, hfailures⟩ := h.closings
  obtain ⟨ys, rfl, rfl, hfailures'⟩ := h'.closings
  refine ⟨xs ++ ys, ?_, List.map_append, ?_⟩
  · rw [List.map_append, List.append_assoc]
  · rw [List.map_append, List.filterMap_append, hfailures, hfailures']

def rolledBack (startupError : HostError ε) (failures : List (String × HostError ε)) :
    HostError ε :=
  if failures.isEmpty then startupError else .rollback startupError failures

def HostError.isRollback : HostError ε → Bool
  | .rollback _ _ => true
  | _ => false

namespace HostCalls
variable (c : HostCalls ε) {s : Acquiring ε}

theorem attemptClose_spec (label : String) (r : Resource) :
    (c.attemptClose label r).wp
      (fun failures t => Cleaned [r] failures s.calls t.calls ∧ t.journal = s.journal)
      (fun _ _ => False) s := by
  rw [attemptClose, closeResource, perform, Raising.wp_tryCatch, Raising.wp_bind, Raising.wp_call]
  refine ⟨fun _ _ => ?_, fun e _ => ?_⟩
  · rw [Raising.wp_pure]
    exact ⟨⟨[(r, .ok ())], rfl, rfl, rfl⟩, rfl⟩
  · rw [Raising.wp_pure]
    exact ⟨⟨[(r, .error e)], rfl, rfl, rfl⟩, rfl⟩

theorem closeEntries_spec (entries : List (String × Resource)) :
    (c.closeEntries entries).wp
      (fun failures t => Cleaned (entries.map Prod.snd) failures s.calls t.calls ∧
        t.journal = s.journal) (fun _ _ => False) s := by
  induction entries generalizing s with
  | nil =>
    rw [closeEntries, Raising.wp_pure]
    exact ⟨⟨[], by simp, rfl, rfl⟩, rfl⟩
  | cons entry entries ih =>
    obtain ⟨label, r⟩ := entry
    rw [closeEntries, Raising.wp_bind]
    refine Raising.wp_mono (c.attemptClose_spec label r) (fun failure t ht => ?_) (fun _ _ h => h)
    rw [Raising.wp_bind]
    refine Raising.wp_mono ih (fun failures u hu => ?_) (fun _ _ h => h)
    rw [Raising.wp_pure]
    exact ⟨ht.1.append hu.1, hu.2.trans ht.2⟩

theorem journalClose_closed (h : s.journal.closed = true) :
    c.journalClose.wp (fun _ t => t = s) (fun _ _ => False) s := by
  rw [journalClose, Raising.wp_bind, Raising.wp_get, if_pos h, Raising.wp_pure]

theorem journalClose_spec (h : s.journal.closed = false) :
    c.journalClose.wp
      (fun _ t => Cleaned (s.journal.entries.map Prod.snd).reverse [] s.calls t.calls ∧
        t.journal = ⟨[], true⟩)
      (fun e t => ∃ failures, e = .cleanup failures ∧ failures.isEmpty = false ∧
        Cleaned (s.journal.entries.map Prod.snd).reverse failures s.calls t.calls ∧
        t.journal = ⟨[], true⟩) s := by
  rw [journalClose, Raising.wp_bind, Raising.wp_get, if_neg (by rw [h]; exact Bool.false_ne_true),
    Raising.wp_bind, Raising.wp_modify, Raising.wp_bind]
  refine Raising.wp_mono (c.closeEntries_spec _) ?_ (fun _ _ h => h.elim)
  rintro failures t ⟨hcleaned, hjournal⟩
  rw [List.map_reverse] at hcleaned
  split
  case isTrue hempty =>
    rw [List.isEmpty_iff.mp hempty] at hcleaned
    exact (Raising.wp_pure _).mpr ⟨hcleaned, hjournal⟩
  case isFalse hempty =>
    exact (Raising.wp_throw _).mpr ⟨failures, rfl, Bool.eq_false_iff.mpr hempty, hcleaned, hjournal⟩

theorem throw_rolledBack (startupError : HostError ε) (failures : List (String × HostError ε)) :
    (if failures.isEmpty then throw startupError
      else throw (.rollback startupError failures) : HostScript ε Unit) =
      throw (rolledBack startupError failures) := by
  rw [rolledBack]
  split <;> rfl

theorem rollbackUnregisteredResource_spec (label : String) (r : Resource)
    (startupError : HostError ε) (h : s.journal.closed = false) :
    (c.rollbackUnregisteredResource label r startupError).wp (fun _ _ => False)
      (fun e t => ∃ failures, e = rolledBack startupError failures ∧
        Cleaned (r :: (s.journal.entries.map Prod.snd).reverse) failures s.calls t.calls ∧
        t.journal = ⟨[], true⟩) s := by
  rw [rollbackUnregisteredResource, Raising.wp_bind]
  refine Raising.wp_mono (c.attemptClose_spec label r) ?_ (fun _ _ h => h.elim)
  rintro failure t ⟨hclosed, hjournal⟩
  simp only [throw_rolledBack]
  rw [Raising.wp_bind, Raising.wp_tryCatch, Raising.wp_bind]
  refine Raising.wp_mono (c.journalClose_spec (hjournal ▸ h)) (fun _ u hu => ?_) ?_
  · rw [Raising.wp_pure, Raising.wp_throw, ← hjournal]
    exact ⟨failure ++ [], rfl, hclosed.append hu.1, hu.2⟩
  · rintro _ u ⟨failures, rfl, -, hu⟩
    rw [Raising.wp_pure, Raising.wp_throw, ← hjournal]
    exact ⟨failure ++ failures, rfl, hclosed.append hu.1, hu.2⟩

theorem defer_spec {label : String} (hlabel : label ≠ "") (r : Resource)
    (h : s.journal.closed = false) :
    (c.defer label r).wp
      (fun _ t => t.calls = s.calls ++ [.defer label (.ok ())] ∧
        t.journal = ⟨s.journal.entries ++ [(label, r)], false⟩)
      (fun e t => ∃ x, e = .raised x ∧ t.calls = s.calls ++ [.defer label (.error x)] ∧
        t.journal = s.journal) s := by
  rw [defer, Raising.wp_bind, Raising.wp_get, if_neg (by rw [h]; exact Bool.false_ne_true),
    if_neg hlabel, Raising.wp_bind, perform, Raising.wp_call]
  refine ⟨fun _ _ => ?_, fun x _ => ⟨x, rfl, rfl, rfl⟩⟩
  rw [Raising.wp_modify]
  exact ⟨rfl, by rw [← h]⟩

theorem registerResource_spec {label : String} (hlabel : label ≠ "") (r : Resource)
    (h : s.journal.closed = false) :
    (c.registerResource label r).wp
      (fun _ t => t.calls = s.calls ++ [.defer label (.ok ())] ∧
        t.journal = ⟨s.journal.entries ++ [(label, r)], false⟩)
      (fun e t => ∃ x failures, e = rolledBack (.raised x) failures ∧
        Cleaned (r :: (s.journal.entries.map Prod.snd).reverse) failures
          (s.calls ++ [.defer label (.error x)]) t.calls ∧ t.journal = ⟨[], true⟩) s := by
  rw [registerResource, Raising.wp_tryCatch]
  refine Raising.wp_mono (c.defer_spec hlabel r h) (fun _ _ h => h) ?_
  rintro _ t ⟨x, rfl, hcalls, hjournal⟩
  have hspec := c.rollbackUnregisteredResource_spec label r (.raised x) (hjournal ▸ h)
  rw [hcalls, hjournal] at hspec
  refine Raising.wp_mono hspec (fun _ _ h => h.elim) ?_
  rintro e u ⟨failures, he, hcleaned, hclosed⟩
  exact ⟨x, failures, he, hcleaned, hclosed⟩

structure Holding (rs : List Resource) (s t : Acquiring ε) : Prop where
  closed : t.journal.closed = false
  entries : t.journal.entries.map Prod.snd = rs
  startup : ∃ zs, t.calls = s.calls ++ zs ∧ Ran zs [] rs

structure Unregistered (rs : List Resource) (r : Resource) (s t : Acquiring ε) : Prop where
  closed : t.journal.closed = false
  entries : t.journal.entries.map Prod.snd = rs
  startup : ∃ zs, t.calls = s.calls ++ zs ∧ Ran zs [] (rs ++ [r])

structure Pending (s : Acquiring ε) (e : HostError ε) (t : Acquiring ε) : Prop where
  isRollback : e.isRollback = false
  closed : t.journal.closed = false
  startup : ∃ zs, t.calls = s.calls ++ zs ∧ Ran zs [e] (t.journal.entries.map Prod.snd)
  order : t.journal.entries.map Prod.snd <+: [.tun, .dnat]

structure Undone (s : Acquiring ε) (e : HostError ε) (t : Acquiring ε) : Prop where
  closed : t.journal.closed = true
  startup : ∃ zs err rs failures, err.isRollback = false ∧ e = rolledBack err failures ∧
    Ran zs [err] rs ∧ rs <+: [.tun, .dnat] ∧
    Cleaned rs.reverse failures (s.calls ++ zs) t.calls

section Stages
variable {rs : List Resource} {r : Resource} {t : Acquiring ε} {call : HostCall ε}

theorem Holding.called (h : Holding rs s t) (hcall : Ran [call] [] []) :
    Holding rs s { t with calls := t.calls ++ [call] } := by
  obtain ⟨zs, hzs, hran⟩ := h.startup
  refine ⟨h.closed, h.entries, zs ++ [call], ?_, ?_⟩
  · simp only [hzs, List.append_assoc]
  · simpa using hran.append hcall

theorem Holding.acquired (h : Holding rs s t) (hcall : Ran [call] [] [r]) :
    Unregistered rs r s { t with calls := t.calls ++ [call] } := by
  obtain ⟨zs, hzs, hran⟩ := h.startup
  refine ⟨h.closed, h.entries, zs ++ [call], ?_, hran.append hcall⟩
  simp only [hzs, List.append_assoc]

theorem Holding.perform_spec (h : Holding rs s t) (horder : rs <+: [.tun, .dnat])
    (answer : List (HostCall ε) → Except ε α) (record : Except ε α → HostCall ε)
    (hrecord : ∀ e, Ran [record (.error e)] [.raised e] []) :
    (perform answer record).wp
      (fun a u => answer t.calls = .ok a ∧ u = { t with calls := t.calls ++ [record (.ok a)] })
      (fun e u => Pending s e u) t := by
  rw [perform, Raising.wp_call]
  refine ⟨fun a ha => ⟨ha, rfl⟩, fun e _ => ?_⟩
  obtain ⟨zs, hzs, hran⟩ := h.startup
  refine ⟨rfl, h.closed, ⟨zs ++ [record (.error e)], ?_, ?_⟩, by rw [h.entries]; exact horder⟩
  · simp only [hzs, List.append_assoc]
  · rw [h.entries]
    simpa using hran.append (hrecord e)

theorem Unregistered.register_spec (h : Unregistered rs r s t)
    (horder : rs ++ [r] <+: [.tun, .dnat]) {label : String} (hlabel : label ≠ "") :
    (c.registerResource label r).wp (fun _ u => Holding (rs ++ [r]) s u)
      (fun e u => Undone s e u) t := by
  obtain ⟨zs, hzs, hran⟩ := h.startup
  refine Raising.wp_mono (c.registerResource_spec hlabel r h.closed) ?_ ?_
  · rintro _ u ⟨hcalls, hjournal⟩
    refine ⟨by rw [hjournal], ?_, zs ++ [.defer label (.ok ())], ?_, ?_⟩
    · rw [hjournal, List.map_append, h.entries]
      rfl
    · rw [hcalls, hzs, List.append_assoc]
    · have hdefer : Ran (ε := ε) [.defer label (.ok ())] [] [] := ⟨rfl, rfl, rfl⟩
      simpa using hran.append hdefer
  · rintro e u ⟨x, failures, he, hcleaned, hclosed⟩
    rw [hzs, h.entries, List.append_assoc] at hcleaned
    refine ⟨by rw [hclosed], zs ++ [.defer label (.error x)], .raised x, rs ++ [r], failures, rfl,
      he, ?_, horder, ?_⟩
    · have hdefer : Ran [.defer label (.error x)] [.raised x] [] := ⟨rfl, rfl, rfl⟩
      simpa using hran.append hdefer
    · rw [List.reverse_append]
      exact hcleaned

end Stages

theorem acquireResources_spec
    (hnamed : ∀ calls owner lease, c.acquireDnat calls owner = .ok lease →
      lease.resourceName ≠ "") (h : s.journal = {}) :
    c.acquireResources.wp (fun _ t => Holding [.tun, .dnat] s t)
      (fun e t => Pending s e t ∨ Undone s e t) s := by
  have hnone : Holding [] s s := ⟨by rw [h], by rw [h]; rfl, [], by simp, rfl, rfl, rfl⟩
  rw [acquireResources, Raising.wp_bind]
  refine Raising.wp_mono (hnone.perform_spec (by simp) c.acquireTun .acquireTun
    fun _ => ⟨rfl, rfl, rfl⟩) ?_ (fun _ _ h => .inl h)
  rintro tun _ ⟨-, rfl⟩
  have htun : Ran (ε := ε) [.acquireTun (.ok tun)] [] [.tun] := ⟨rfl, rfl, rfl⟩
  rw [Raising.wp_bind]
  refine Raising.wp_mono ((hnone.acquired htun).register_spec c (by simp) (by simp))
    (fun _ t ht => ?_)
    (fun _ _ h => .inr h)
  rw [Raising.wp_bind]
  refine Raising.wp_mono
    (ht.perform_spec (by simp) (fun calls => c.identity calls tun) (.identity tun)
    fun _ => ⟨rfl, rfl, rfl⟩) ?_ (fun _ _ h => .inl h)
  rintro owner _ ⟨-, rfl⟩
  have howner : Ran (ε := ε) [.identity tun (.ok owner)] [] [] := ⟨rfl, rfl, rfl⟩
  have hidentified := ht.called howner
  rw [Raising.wp_bind]
  refine Raising.wp_mono
    (hidentified.perform_spec (by simp) (fun calls => c.acquireDnat calls owner)
    (.acquireDnat owner) fun _ => ⟨rfl, rfl, rfl⟩) ?_ (fun _ _ h => .inl h)
  rintro dnat _ ⟨hlease, rfl⟩
  have hdnat : Ran (ε := ε) [.acquireDnat owner (.ok dnat)] [] [.dnat] := ⟨rfl, rfl, rfl⟩
  rw [if_neg (hnamed _ _ _ hlease), Raising.wp_bind]
  refine Raising.wp_mono ((hidentified.acquired hdnat).register_spec c (by simp) (by simp))
    (fun _ u hu => ?_) (fun _ _ h => .inr h)
  exact (Raising.wp_pure _).mpr hu

theorem rollback_of_isRollback {e : HostError ε} (h : e.isRollback = true) :
    c.rollback e = throw e := by
  cases e <;> first | rfl | cases h

theorem rollback_of_original {e : HostError ε} (h : e.isRollback = false) :
    c.rollback e = (do
      c.closeAfterFailure e
      throw e) := by
  cases e <;> first | rfl | cases h

theorem Pending.undone {e : HostError ε} {t : Acquiring ε} (h : Pending s e t) :
    (c.rollback e).wp (fun _ _ => False) (fun e' u => Undone s e' u) t := by
  obtain ⟨zs, hzs, hran⟩ := h.startup
  have hundone {failures : List (String × HostError ε)} {u : Acquiring ε}
      (hcleaned : Cleaned (t.journal.entries.map Prod.snd).reverse failures t.calls u.calls)
      (hjournal : u.journal = ⟨[], true⟩) : Undone s (rolledBack e failures) u := by
    rw [hzs] at hcleaned
    exact ⟨by rw [hjournal], zs, e, _, failures, h.isRollback, rfl, hran, h.order, hcleaned⟩
  rw [c.rollback_of_original h.isRollback, Raising.wp_bind, closeAfterFailure, Raising.wp_tryCatch]
  refine Raising.wp_mono (c.journalClose_spec h.closed) (fun _ u hu => ?_) ?_
  · exact (Raising.wp_throw _).mpr (hundone hu.1 hu.2)
  · rintro _ u ⟨failures, rfl, hfailures, hcleaned, hjournal⟩
    rw [Raising.wp_throw]
    have hrolled : rolledBack e failures = .rollback e failures := by
      rw [rolledBack, hfailures, if_neg Bool.false_ne_true]
    exact hrolled ▸ hundone hcleaned hjournal

theorem Undone.undone {e : HostError ε} {t : Acquiring ε} (h : Undone s e t) :
    (c.rollback e).wp (fun _ _ => False) (fun e' u => Undone s e' u) t := by
  cases hroll : e.isRollback with
  | true => exact c.rollback_of_isRollback hroll ▸ (Raising.wp_throw _).mpr h
  | false =>
    rw [c.rollback_of_original hroll, Raising.wp_bind, closeAfterFailure, Raising.wp_tryCatch]
    refine Raising.wp_mono (c.journalClose_closed h.closed) ?_ (fun _ _ h => h.elim)
    rintro _ _ rfl
    exact (Raising.wp_throw _).mpr h

theorem checkHost_spec :
    c.checkHost.wp (fun _ t => t.calls = s.calls ++ passed ∧ t.journal = s.journal)
      (fun e t => ∃ zs, t.calls = s.calls ++ zs ∧ Ran zs [e] [] ∧
        zs.any HostCall.asks = false) s := by
  rw [checkHost, Raising.wp_bind, perform, Raising.wp_call]
  refine ⟨fun preflight _ => ?_, fun e _ => ⟨_, rfl, ⟨rfl, rfl, rfl⟩, rfl⟩⟩
  rcases preflight with _ | _ | _
  · exact (Raising.wp_throw _).mpr ⟨_, rfl, ⟨rfl, rfl, rfl⟩, rfl⟩
  · exact (Raising.wp_throw _).mpr ⟨_, rfl, ⟨rfl, rfl, rfl⟩, rfl⟩
  dsimp only
  rw [Raising.wp_bind, perform, Raising.wp_call]
  refine ⟨fun ownership _ => ?_, fun e _ => ?_⟩
  rotate_left
  · exact ⟨_, List.append_assoc _ _ _, ⟨rfl, rfl, rfl⟩, rfl⟩
  rcases ownership with _ | _ | _
  · exact (Raising.wp_throw _).mpr ⟨_, List.append_assoc _ _ _, ⟨rfl, rfl, rfl⟩, rfl⟩
  rotate_left
  · exact (Raising.wp_throw _).mpr ⟨_, List.append_assoc _ _ _, ⟨rfl, rfl, rfl⟩, rfl⟩
  dsimp only
  rw [perform, Raising.wp_call]
  refine ⟨fun _ _ => ⟨by simp [passed], rfl⟩, fun e _ => ?_⟩
  exact ⟨_, (List.append_assoc _ _ _).trans (List.append_assoc _ _ _), ⟨rfl, rfl, rfl⟩, rfl⟩

def closeTimes (n : ℕ) (s : Acquiring ε) : Acquiring ε :=
  (fun s => (c.journalClose.outcome s).2)^[n] s

theorem closeTimes_closed (h : s.journal.closed = true) (n : ℕ) : c.closeTimes n s = s := by
  induction n with
  | zero => rfl
  | succ n ih =>
    have hclose : (c.journalClose.outcome s).2 = s := by
      rcases c.journalClose.outcome_cases s with ⟨a, t, ht⟩ | ⟨e, t, ht⟩
      · rw [ht]
        exact (c.journalClose_closed h).1 a t ht
      · exact ((c.journalClose_closed h).2 e t ht).elim
    rw [closeTimes, Function.iterate_succ_apply, hclose]
    exact ih

theorem closeTimes_succ (h : s.journal.closed = false) (n : ℕ) :
    ∃ failures, Cleaned (s.journal.entries.map Prod.snd).reverse failures s.calls
      (c.closeTimes (n + 1) s).calls := by
  have hspec := c.journalClose_spec h
  rw [closeTimes, Function.iterate_succ_apply]
  rcases c.journalClose.outcome_cases s with ⟨a, t, ht⟩ | ⟨e, t, ht⟩
  · obtain ⟨hcleaned, hjournal⟩ := hspec.1 a t ht
    refine ⟨[], ?_⟩
    rw [ht, ← closeTimes, c.closeTimes_closed (by rw [hjournal])]
    exact hcleaned
  · obtain ⟨failures, -, -, hcleaned, hjournal⟩ := hspec.2 e t ht
    refine ⟨failures, ?_⟩
    rw [ht, ← closeTimes, c.closeTimes_closed (by rw [hjournal])]
    exact hcleaned

/-- Acquisition is a transaction. A lease closes both resources once, the DNAT rule first. An error
leaves nothing that was acquired, and is the original error or tells of it and of every failure to
clean up. -/
theorem acquireHostNetwork_transaction
    (hnamed : ∀ calls owner lease, c.acquireDnat calls owner = .ok lease →
      lease.resourceName ≠ "") :
    c.acquireHostNetwork.wp
      (fun _ t => Gated t.calls ∧ Ran t.calls [] [.tun, .dnat] ∧
        ∀ n, ∃ r r', (c.closeTimes (n + 1) t).calls = t.calls ++ [.close .dnat r, .close .tun r'])
      (fun e t => ∃ startup err rs failures, Gated startup ∧ Ran startup [err] rs ∧
        rs <+: [.tun, .dnat] ∧ e = rolledBack err failures ∧
        Cleaned rs.reverse failures startup t.calls) {} := by
  rw [acquireHostNetwork, Raising.wp_bind]
  refine Raising.wp_mono c.checkHost_spec ?_ ?_
  rotate_left
  · rintro e t ⟨zs, hzs, hran, hasks⟩
    rw [List.nil_append] at hzs
    refine ⟨zs, e, [], [], ?_, hran, List.nil_prefix, rfl, [], by simpa using hzs, rfl, rfl⟩
    rw [Gated, hasks]
    exact fun h => (Bool.false_ne_true h).elim
  rintro _ s ⟨hcalls, hjournal⟩
  rw [List.nil_append] at hcalls
  have hpassed : Ran (ε := ε) passed [] [] := ⟨rfl, rfl, rfl⟩
  rw [Raising.wp_tryCatch]
  refine Raising.wp_mono (c.acquireResources_spec hnamed hjournal) (fun _ t ht => ?_)
    (fun e t ht => ?_)
  · obtain ⟨zs, hzs, hran⟩ := ht.startup
    rw [hcalls] at hzs
    refine ⟨?_, ?_, ?_⟩
    · rw [hzs]
      exact fun _ => List.prefix_append _ _
    · rw [hzs]
      exact hpassed.append hran
    · intro n
      obtain ⟨failures, hcleaned⟩ := c.closeTimes_succ ht.closed n
      rw [ht.entries] at hcleaned
      obtain ⟨xs, hxs, hfst, -⟩ := hcleaned.closings
      obtain ⟨x, y, rfl⟩ : ∃ x y, xs = [x, y] := by
        rw [← List.length_eq_two, ← List.length_map (f := Prod.fst), hfst]
        rfl
      simp only [List.reverse_cons, List.reverse_nil, List.nil_append, List.cons_append,
        List.map_cons, List.map_nil, List.cons.injEq, and_true] at hfst
      exact ⟨x.2, y.2, by rw [hxs, ← hfst.1, ← hfst.2]; rfl⟩
  · have hundone : (c.rollback e).wp (fun _ _ => False) (fun e' u => Undone s e' u) t :=
      ht.elim (fun h => h.undone c) fun h => h.undone c
    refine Raising.wp_mono hundone (fun _ _ h => h.elim) (fun e' u hu => ?_)
    obtain ⟨zs, err, rs, failures, -, he, hran, horder, hcleaned⟩ := hu.startup
    rw [hcalls] at hcleaned
    exact ⟨passed ++ zs, err, rs, failures, fun _ => List.prefix_append _ _, hpassed.append hran,
      horder, he, hcleaned⟩

def sampleCalls : HostCalls String where
  preflight _ := .ok (some true)
  ownership _ := .ok (some false)
  compatibility _ := .ok ()
  acquireTun _ := .ok "t0"
  identity _ _ := .ok ⟨7, 11, ['t', '0'], by decide, by decide, by decide, by decide,
    List.all_eq_true.mp rfl, by decide⟩
  acquireDnat _ _ := .ok ⟨"nft-exec", "tcpcc_unit"⟩
  deferred _ _ := .ok ()
  close _ r := if r = .tun then .error "EBADF" else .ok ()

theorem sampleCalls_transaction :
    ∃ lease t, sampleCalls.acquireHostNetwork.outcome {} = (.ok lease, t) ∧
      Ran t.calls [] [.tun, .dnat] ∧ ∀ n, ∃ r r', (sampleCalls.closeTimes (n + 1) t).calls =
        t.calls ++ [.close .dnat r, .close .tun r'] := by
  have hnamed : ∀ calls owner lease, sampleCalls.acquireDnat calls owner = .ok lease →
      lease.resourceName ≠ "" := by
    rintro _ _ _ ⟨⟩
    decide
  exact ⟨_, _, rfl, ((acquireHostNetwork_transaction sampleCalls hnamed).1 _ _ rfl).2⟩

end HostCalls
end Tcpcc.Reference
