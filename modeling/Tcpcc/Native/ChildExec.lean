import Tcpcc.Lib.FdTable
import Tcpcc.Native.Dialogue
import Tcpcc.Native.Process

/-!
# The descriptors of the hosted kernel

The descriptor table of the child of `tcpcc_hosted_process_start` up to `execv`. The supervisor
has a descriptor for signals and the TUN open and creates three pipes; the child inherits the table
and maps four descriptors to fixed numbers. `none` stands for a child that reports an error and
exits.
-/

namespace Tcpcc.Native

/-- An open file of the supervisor: a pipe of the function, one that `main` opened and keeps, or
one that it was started with. -/
inductive File
  | pipe (e : PipeEnd)
  | signals
  | tunDevice
  | inherited (n : ℕ)
  deriving DecidableEq, Repr

/-- The outcome of `close_range`; `unsupported` for `ENOSYS` and for hosts without the call. -/
inductive CloseRange
  | closed
  | unsupported
  | failed
  deriving DecidableEq, Repr

def execStatusFd : ℕ := 4

/-- `tcpcc_child_close_from`; the limit is `none` for `RLIM_INFINITY`. -/
def childCloseFrom (o : CloseRange) (firstFd : ℕ) (descriptorLimit : Option ℕ)
    (t : FdTable File) : Option (FdTable File) :=
  match o with
  | .closed => some (t.take firstFd)
  | .failed => none
  | .unsupported => some (t.closeBelow firstFd (min (descriptorLimit.getD 1048576) 1048576))

/-- The descriptors of `tcpcc_child_exec` when it calls `execv`. -/
def childExec (tunFd : ℕ) (requests responses execStatus : ℕ × ℕ) (o : CloseRange)
    (descriptorLimit : Option ℕ) (t : FdTable File) : Option (FdTable File) := do
  let t ← t.dup2 requests.1 0
  let t ← t.dup2 responses.2 1
  let t ← t.dup2 tunFd hostedTunFd
  let t ← t.dup2 execStatus.2 execStatusFd
  let t ← t.setCloexec hostedTunFd false
  let t ← t.setCloexec execStatusFd true
  childCloseFrom o (execStatusFd + 1) descriptorLimit t

/-- The child of `tcpcc_hosted_process_start`, for a supervisor with the descriptors `t`. -/
def hostedChild (tunFd : ℕ) (o : CloseRange) (descriptorLimit : Option ℕ) (t : FdTable File) :
    Option (FdTable File) :=
  if tunFd < 3 then none
  else
    let requests := t.pipe (.pipe .requestsRead) (.pipe .requestsWrite)
    let responses := requests.2.pipe (.pipe .responsesRead) (.pipe .responsesWrite)
    let execStatus := responses.2.pipe (.pipe .execRead) (.pipe .execWrite)
    childExec tunFd requests.1 responses.1 execStatus.1 o descriptorLimit execStatus.2

/-- The TUN and the descriptors of `main` when it calls `tcpcc_runtime_start`. What else it opens
up to there (files it reads, pipes of the commands it runs), it has closed again. -/
def supervisorOpens (inherited : FdTable File) : ℕ × FdTable File :=
  (inherited.openNew .signals).2.openNew .tunDevice

/-- What the hosted kernel is promised at `execv`. -/
structure ExecLayout (tun : File) (t : FdTable File) : Prop where
  stdin : t.exec.get 0 = some ⟨.pipe .requestsRead, false⟩
  stdout : t.exec.get 1 = some ⟨.pipe .responsesWrite, false⟩
  tun : t.exec.get hostedTunFd = some ⟨tun, false⟩
  status : t.get execStatusFd = some ⟨.pipe .execWrite, true⟩
  rest : ∀ fd, execStatusFd < fd → t.get fd = none

/-- The four mappings do not disturb each other when the sources that come later lie above the
numbers that are mapped before. -/
theorem childExec_spec {t : FdTable File} {tunFd : ℕ} (requests responses execStatus : ℕ × ℕ)
    {req resp tun status : Descriptor File} (limit : Option ℕ)
    (hreq : t.get requests.1 = some req) (hresp : t.get responses.2 = some resp)
    (htun : t.get tunFd = some tun) (hstatus : t.get execStatus.2 = some status)
    (hresp1 : 1 < responses.2) (htun3 : 3 ≤ tunFd) (hstatus4 : 4 < execStatus.2) :
    ∃ t', childExec tunFd requests responses execStatus .closed limit t = some t' ∧
      t'.get 0 = some ⟨req.file, if requests.1 = 0 then req.cloexec else false⟩ ∧
      t'.get 1 = some ⟨resp.file, false⟩ ∧ t'.get hostedTunFd = some ⟨tun.file, false⟩ ∧
      t'.get execStatusFd = some ⟨status.file, true⟩ ∧
      ∀ fd, execStatusFd < fd → t'.get fd = none := by
  simp only [hostedTunFd, execStatusFd]
  obtain ⟨t₁, h₁, hget₁, hother₁⟩ := FdTable.dup2_spec 0 hreq
  have hresp₁ := (hother₁ responses.2 (by omega)).trans hresp
  obtain ⟨t₂, h₂, hget₂, hother₂⟩ := FdTable.dup2_spec 1 hresp₁
  have htun₂ := (hother₂ tunFd (by omega)).trans ((hother₁ tunFd (by omega)).trans htun)
  obtain ⟨t₃, h₃, hget₃, hother₃⟩ := FdTable.dup2_spec 3 htun₂
  have hstatus₃ := (hother₃ execStatus.2 (by omega)).trans <|
    (hother₂ execStatus.2 (by omega)).trans <| (hother₁ execStatus.2 (by omega)).trans hstatus
  obtain ⟨t₄, h₄, hget₄, hother₄⟩ := FdTable.dup2_spec 4 hstatus₃
  have htun₄ := (hother₄ 3 (by omega)).trans hget₃
  obtain ⟨t₅, h₅, hget₅, hother₅⟩ := FdTable.setCloexec_spec false htun₄
  have hstatus₅ := (hother₅ 4 (by omega)).trans hget₄
  obtain ⟨t₆, h₆, hget₆, hother₆⟩ := FdTable.setCloexec_spec true hstatus₅
  refine ⟨t₆.take 5, ?_, ?_, ?_, ?_, ?_, ?_⟩
  · simp only [childExec, hostedTunFd, execStatusFd, h₁, h₂, h₃, h₄, h₅, h₆, childCloseFrom,
      Option.bind_eq_bind, Option.bind_some]
  · rw [FdTable.get_take, if_pos (by omega), hother₆ 0 (by omega), hother₅ 0 (by omega),
      hother₄ 0 (by omega), hother₃ 0 (by omega), hother₂ 0 (by omega), hget₁]
  · rw [FdTable.get_take, if_pos (by omega), hother₆ 1 (by omega), hother₅ 1 (by omega),
      hother₄ 1 (by omega), hother₃ 1 (by omega), hget₂, if_neg (by omega)]
  · rw [FdTable.get_take, if_pos (by omega), hother₆ 3 (by omega), hget₅]
  · rw [FdTable.get_take, if_pos (by omega), hget₆]
  · intro fd hfd
    rw [FdTable.get_take, if_neg (by omega)]

theorem hostedChild_spec {t : FdTable File} {tunFd : ℕ} {tun : Descriptor File}
    (limit : Option ℕ) (htun : t.get tunFd = some tun) (htun3 : 3 ≤ tunFd) :
    ∃ t', hostedChild tunFd .closed limit t = some t' ∧
      t'.get 0 = some ⟨.pipe .requestsRead, if t.lowestFree = 0 then true else false⟩ ∧
      t'.get 1 = some ⟨.pipe .responsesWrite, false⟩ ∧
      t'.get hostedTunFd = some ⟨tun.file, false⟩ ∧
      t'.get execStatusFd = some ⟨.pipe .execWrite, true⟩ ∧
      ∀ fd, execStatusFd < fd → t'.get fd = none := by
  obtain ⟨req₀, req₁, t₁, hpipe₁, hrequests⟩ :=
    t.pipe_spec (.pipe .requestsRead) (.pipe .requestsWrite)
  obtain ⟨resp₀, resp₁, t₂, hpipe₂, hresponses⟩ :=
    t₁.pipe_spec (.pipe .responsesRead) (.pipe .responsesWrite)
  obtain ⟨status₀, status₁, t₃, hpipe₃, hexec⟩ :=
    t₂.pipe_spec (.pipe .execRead) (.pipe .execWrite)
  have h₁ := hrequests.read_lt
  have h₂ := hrequests.write_lt
  have h₃ := hresponses.read_eq
  have h₄ := hresponses.read_lt
  have h₅ := hresponses.write_lt
  have h₆ := hexec.read_eq
  have h₇ := hexec.read_lt
  obtain ⟨t', hchild, hlayout⟩ := childExec_spec (req₀, req₁) (resp₀, resp₁)
    (status₀, status₁) limit
    (hexec.kept (hresponses.kept hrequests.read)) (hexec.kept hresponses.write)
    (hexec.kept (hresponses.kept (hrequests.kept htun))) hexec.write
    (by omega) htun3 (by omega)
  simp only [hrequests.read_eq] at hlayout
  refine ⟨t', ?_, hlayout⟩
  rw [hostedChild, if_neg (by omega)]
  simp only [hpipe₁, hpipe₂, hpipe₃]
  exact hchild

theorem lowestFree_eq_zero_iff (t : FdTable File) : t.lowestFree = 0 ↔ t.get 0 = none :=
  ⟨fun h => h ▸ t.get_lowestFree, fun h => Nat.le_zero.mp (FdTable.lowestFree_le h)⟩

/-- The hosted kernel finds its descriptors as promised exactly when the supervisor has some file
open as descriptor 0. Otherwise the request pipe takes that number itself and `dup2` leaves its
close-on-exec flag set. -/
theorem hostedChild_layout_iff {t : FdTable File} {tunFd : ℕ} {tun : Descriptor File}
    (limit : Option ℕ) (htun : t.get tunFd = some tun) (htun3 : 3 ≤ tunFd) :
    (∃ t', hostedChild tunFd .closed limit t = some t' ∧ ExecLayout tun.file t') ↔
      (t.get 0).isSome := by
  obtain ⟨t', hchild, hin, hout, htun', hstatus, hrest⟩ := hostedChild_spec limit htun htun3
  constructor
  · rintro ⟨s, hs, hlayout⟩
    obtain rfl : s = t' := Option.some.inj (hs.symm.trans hchild)
    rw [Option.isSome_iff_ne_none]
    intro hfree
    have hstdin := hlayout.stdin
    rw [FdTable.get_exec, hin, if_pos ((lowestFree_eq_zero_iff t).mpr hfree)] at hstdin
    cases hstdin
  · intro hopen
    have hused : t.lowestFree ≠ 0 := by
      rw [Ne, lowestFree_eq_zero_iff]
      exact Option.isSome_iff_ne_none.mp hopen
    rw [if_neg hused] at hin
    exact ⟨t', hchild, by rw [FdTable.get_exec, hin]; rfl, by rw [FdTable.get_exec, hout]; rfl,
      by rw [FdTable.get_exec, htun']; rfl, hstatus, hrest⟩

/-- Whatever descriptors the supervisor was started with, the descriptor for signals is open as
descriptor 0 if no other file is. -/
theorem hostedChild_layout (limit : Option ℕ) (inherited : FdTable File)
    (htun3 : 3 ≤ (supervisorOpens inherited).1) :
    ∃ t', hostedChild (supervisorOpens inherited).1 .closed limit (supervisorOpens inherited).2 =
      some t' ∧ ExecLayout .tunDevice t' := by
  obtain ⟨d, hzero⟩ := Option.isSome_iff_exists.mp (inherited.isSome_openNew_zero .signals)
  refine (hostedChild_layout_iff limit (FdTable.get_openNew_self _ _) htun3).mpr ?_
  exact Option.isSome_of_eq_some (FdTable.get_openNew .tunDevice hzero)

def closedStdin : FdTable File := [none, some ⟨.inherited 1, false⟩, some ⟨.inherited 2, false⟩]

theorem hostedChild_layout_closedStdin :
    (supervisorOpens closedStdin).2.get 0 = some ⟨.signals, true⟩ ∧
      (supervisorOpens closedStdin).1 = 3 ∧
      ∃ t', hostedChild (supervisorOpens closedStdin).1 .closed (some 1024)
        (supervisorOpens closedStdin).2 = some t' ∧ ExecLayout .tunDevice t' :=
  ⟨rfl, rfl, hostedChild_layout (some 1024) closedStdin (by decide)⟩

end Tcpcc.Native
