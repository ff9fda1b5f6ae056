import Mathlib.Data.Int.Init
import Mathlib.Data.List.Nodup
import Mathlib.Data.List.Perm.Basic
import Mathlib.Logic.Function.Basic
import Tcpcc.Lib.Trace

/-!
# Starting the hosted kernel

`tcpcc_hosted_process_start` and its companions. The outcome of every system call is a parameter.
What the supervisor does to descriptors and children is kept in order. `waitpid` succeeds on a
child that was not reaped before, and only there.
-/

namespace Tcpcc.Native
open Function (update update_eq_self update_idem update_of_ne)

structure Process where
  pid : ℤ := -1
  pidFd : ℤ := -1
  requestFd : ℤ := -1
  responseFd : ℤ := -1
  deriving DecidableEq, Repr

inductive Syscall
  | opened (fd : ℤ)
  | closed (fd : ℤ)
  | forked (pid : ℤ)
  | killed (pid : ℤ)
  | waited (pid : ℤ) (ok : Bool)
  deriving DecidableEq, Repr

def openedFd : Syscall → Option ℤ
  | .opened fd => some fd
  | _ => none

def closedFd : Syscall → Option ℤ
  | .closed fd => some fd
  | _ => none

def childrenAfter (kids : List ℤ) : Syscall → List ℤ
  | .forked pid => kids ++ [pid]
  | .waited pid true => kids.erase pid
  | _ => kids

def children (trace : List Syscall) : List ℤ := trace.foldl childrenAfter []

def Syscall.target : Syscall → Option ℤ
  | .killed pid => some pid
  | .waited pid _ => some pid
  | _ => none

def Tended (trace : List Syscall) : Prop :=
  Trace.Always (fun before c => ∀ pid, c.target = some pid → pid ∈ children before) trace

inductive PipeEnd
  | requestsRead
  | requestsWrite
  | responsesRead
  | responsesWrite
  | execRead
  | execWrite
  deriving DecidableEq, Repr

inductive ExecRead
  | interrupted
  | failed
  | eof
  | bytes (n : ℕ)
  deriving DecidableEq, Repr

inductive PidfdOpen
  | fd (fd : ℤ)
  | unsupported
  | failed
  deriving DecidableEq, Repr

/-- The outcomes of the system calls, `none` and `false` for a failure. -/
structure Startup where
  getrlimit : Bool := true
  requests : Option (ℤ × ℤ)
  responses : Option (ℤ × ℤ)
  execStatus : Option (ℤ × ℤ)
  fork : Option ℤ
  execReads : List ExecRead := []
  /-- Reading and setting the flags of the two channels. -/
  requestFlags : Bool × Bool := (true, true)
  responseFlags : Bool × Bool := (true, true)
  pidfd : PidfdOpen
  duplicate : Option ℤ := none

structure Starting where
  ends : PipeEnd → ℤ := fun _ => -1
  process : Process := {}
  trace : List Syscall := []

namespace Starting

def log (s : Starting) (c : Syscall) : Starting := { s with trace := s.trace ++ [c] }

def close (s : Starting) (e : PipeEnd) : Starting :=
  if 0 ≤ s.ends e then
    { s with ends := update s.ends e (-1), trace := s.trace ++ [.closed (s.ends e)] }
  else s

/-- `tcpcc_pipe` into two ends. -/
def pipe (s : Starting) (readEnd writeEnd : PipeEnd) : Option (ℤ × ℤ) → Bool × Starting
  | none => (false, s)
  | some (r, w) =>
    (true, { s with
      ends := update (update s.ends readEnd r) writeEnd w
      trace := s.trace ++ [.opened r, .opened w] })

def pipes (s : Starting) (o : Startup) : Bool × Starting :=
  match s.pipe .requestsRead .requestsWrite o.requests with
  | (false, s) => (false, s)
  | (true, s) =>
    match s.pipe .responsesRead .responsesWrite o.responses with
    | (false, s) => (false, s)
    | (true, s) => s.pipe .execRead .execWrite o.execStatus

def closeAll (s : Starting) : Starting :=
  (((((s.close .requestsRead).close .requestsWrite).close .responsesRead).close
    .responsesWrite).close .execRead).close .execWrite

def closeChannels (s : Starting) : Starting := (s.close .requestsWrite).close .responsesRead

def reap (s : Starting) (child : ℤ) : Starting :=
  s.log (.waited child (child ∈ children s.trace))

end Starting

/-- `tcpcc_read_exec_status`: 1 for an error number, 0 for a successful exec. -/
def readExecStatus : ℕ → List ExecRead → ℤ
  | received, [] => if received = 0 then 0 else -1
  | received, .interrupted :: reads => readExecStatus received reads
  | _, .failed :: _ => -1
  | received, .eof :: _ => if received = 0 then 0 else -1
  | received, .bytes n :: reads =>
    if 4 ≤ received + n then 1 else readExecStatus (received + n) reads

def openChildEventFd (o : Startup) : ℤ :=
  match o.pidfd with
  | .fd fd => fd
  | .unsupported => o.duplicate.getD (-1)
  | .failed => -1

def setNonblock (flags : Bool × Bool) : Bool := flags.1 && flags.2

def Starting.forked (s : Starting) (child : ℤ) : Starting :=
  ((((s.log (.forked child)).close .requestsRead).close .responsesWrite).close .execWrite).close
    .execRead

/-- The rest of `tcpcc_hosted_process_start` in the parent. -/
def startParent (o : Startup) (child : ℤ) (s : Starting) : ℤ × Starting :=
  if readExecStatus 0 o.execReads ≠ 0 then (-1, s.closeChannels.reap child)
  else if (setNonblock o.requestFlags && setNonblock o.responseFlags) = false then
    (-1, ((s.log (.killed child)).reap child).closeChannels)
  else
    let s := { s with process := { s.process with pid := child, pidFd := openChildEventFd o } }
    if openChildEventFd o < 0 then (-1, ((s.log (.killed child)).reap child).closeChannels)
    else
      (0, { s with process := { s.process with
        requestFd := s.ends .requestsWrite
        responseFd := s.ends .responsesRead } })

/-- `tcpcc_hosted_process_start` after its argument checks: what it returns and leaves. -/
def hostedProcessStart (o : Startup) : ℤ × Starting :=
  if o.getrlimit = false then (-1, {})
  else
    match Starting.pipes {} o with
    | (false, s) => (-1, s.closeAll)
    | (true, s) =>
      match o.fork with
      | none => (-1, s.closeAll)
      | some child => startParent o child (s.forked child)

/-! ## What the system guarantees of fresh descriptors and children -/

def Startup.fds (o : Startup) : List ℤ :=
  [o.requests, o.responses, o.execStatus].flatMap fun p => p.elim [] fun p => [p.1, p.2]

structure Startup.Fresh (o : Startup) : Prop where
  nonneg : ∀ fd ∈ o.fds, 0 ≤ fd
  distinct : o.fds.Nodup
  child : ∀ pid, o.fork = some pid → 0 < pid

structure Nothing (s : Starting) : Prop where
  process : s.process = {}
  closed : ∀ fd ∈ s.trace.filterMap openedFd, (s.trace.filterMap closedFd).count fd = 1
  reaped : children s.trace = []

def Startup.execs (o : Startup) : Bool :=
  o.getrlimit && (o.requests.isSome && o.responses.isSome && o.execStatus.isSome) &&
    o.fork.isSome && readExecStatus 0 o.execReads == 0 &&
    (setNonblock o.requestFlags && setNonblock o.responseFlags)

def Startup.eventFails (o : Startup) : Bool := o.execs && decide (openChildEventFd o < 0)

/-! ## Descriptors -/

def allEnds : List PipeEnd :=
  [.requestsRead, .requestsWrite, .responsesRead, .responsesWrite, .execRead, .execWrite]

def openFd (ends : PipeEnd → ℤ) (e : PipeEnd) : Option ℤ :=
  if 0 ≤ ends e then some (ends e) else none

def Starting.Tracked (s : Starting) : Prop :=
  (s.trace.filterMap closedFd ++ allEnds.filterMap (openFd s.ends)).Perm
    (s.trace.filterMap openedFd)

theorem filterMap_openFd_update {ends : PipeEnd → ℤ} {e : PipeEnd} {v : ℤ} {l : List PipeEnd}
    (hl : l.Nodup) (he : e ∈ l) (hclosed : ends e < 0) (hv : 0 ≤ v) :
    (l.filterMap (openFd (update ends e v))).Perm (v :: l.filterMap (openFd ends)) := by
  induction l with
  | nil => cases he
  | cons x l ih =>
    obtain ⟨hx, hl⟩ := List.nodup_cons.mp hl
    by_cases hxe : x = e
    · subst hxe
      have hrest : l.filterMap (openFd (update ends x v)) = l.filterMap (openFd ends) := by
        refine List.filterMap_congr fun y hy => ?_
        have hyx : y ≠ x := fun h => hx (h ▸ hy)
        simp only [openFd, update_of_ne hyx]
      have hnew : openFd (update ends x v) x = some v := by simp [openFd, hv]
      have hold : openFd ends x = none := if_neg (Int.not_le.mpr hclosed)
      rw [List.filterMap_cons_some hnew, List.filterMap_cons_none hold, hrest]
    · have hsame : openFd (update ends e v) x = openFd ends x := by
        simp only [openFd, update_of_ne hxe]
      have hperm := ih hl (List.mem_of_ne_of_mem (Ne.symm hxe) he)
      cases hopen : openFd ends x with
      | none =>
        rw [List.filterMap_cons_none (hsame.trans hopen), List.filterMap_cons_none hopen]
        exact hperm
      | some y =>
        rw [List.filterMap_cons_some (hsame.trans hopen), List.filterMap_cons_some hopen]
        exact (hperm.cons y).trans (.swap v y _)

theorem children_append (trace : List Syscall) (c : Syscall) :
    children (trace ++ [c]) = childrenAfter (children trace) c := by
  rw [children, List.foldl_append]
  rfl

theorem opened_append (trace : List Syscall) {c : Syscall} (h : openedFd c = none) :
    (trace ++ [c]).filterMap openedFd = trace.filterMap openedFd := by
  rw [List.filterMap_append, List.filterMap_cons_none h, List.filterMap_nil, List.append_nil]

theorem mem_allEnds (e : PipeEnd) : e ∈ allEnds := by cases e <;> decide

section
variable {s : Starting} {e : PipeEnd}

theorem close_process : (s.close e).process = s.process := by
  unfold Starting.close
  split <;> rfl

theorem close_opened :
    (s.close e).trace.filterMap openedFd = s.trace.filterMap openedFd := by
  unfold Starting.close
  split
  · simp [openedFd]
  · rfl

theorem close_children : children (s.close e).trace = children s.trace := by
  unfold Starting.close
  split
  · exact children_append _ _
  · rfl

theorem log_tended {c : Syscall} (h : Tended s.trace)
    (hc : ∀ pid, c.target = some pid → pid ∈ children s.trace) : Tended (s.log c).trace :=
  Trace.always_concat.mpr ⟨h, hc⟩

theorem untargeted_tended {trace : List Syscall} (h : ∀ c ∈ trace, c.target = none) :
    Tended trace := by
  rintro before c after rfl pid hpid
  rw [h c (by simp)] at hpid
  cases hpid

theorem close_tended (h : Tended s.trace) : Tended (s.close e).trace := by
  unfold Starting.close
  split
  · exact log_tended h nofun
  · exact h

theorem close_ends (e' : PipeEnd) (h : s.ends e' < 0 ∨ e' = e) : (s.close e).ends e' < 0 := by
  unfold Starting.close
  split
  case isTrue =>
    by_cases he : e' = e
    · subst he
      simp
    · simpa [update_of_ne he] using h.resolve_right he
  case isFalse hopen =>
    rcases h with h | rfl
    · exact h
    · exact Int.not_le.mp hopen

theorem Starting.Tracked.close (h : s.Tracked) : (s.close e).Tracked := by
  unfold Starting.close
  split
  case isFalse => exact h
  case isTrue hopen =>
    have hback : s.ends = update (update s.ends e (-1)) e (s.ends e) := by
      rw [update_idem, update_eq_self]
    have hperm : (allEnds.filterMap (openFd s.ends)).Perm
        (s.ends e :: allEnds.filterMap (openFd (update s.ends e (-1)))) := by
      have hclosed : update s.ends e (-1) e < 0 := by simp
      have := filterMap_openFd_update (by decide) (mem_allEnds e) hclosed hopen
      rwa [← hback] at this
    unfold Starting.Tracked at h ⊢
    simp only [List.filterMap_append, List.filterMap_cons, closedFd, openedFd, List.filterMap_nil,
      List.append_nil, List.append_assoc, List.singleton_append]
    exact (hperm.symm.append_left _).trans h

theorem Starting.Tracked.pipe (h : s.Tracked) (readEnd writeEnd : PipeEnd) {r w : ℤ}
    (hne : readEnd ≠ writeEnd) (hread : s.ends readEnd < 0) (hwrite : s.ends writeEnd < 0)
    (hr : 0 ≤ r) (hw : 0 ≤ w) : (s.pipe readEnd writeEnd (some (r, w))).2.Tracked := by
  have hwrite' : update s.ends readEnd r writeEnd < 0 := by
    rwa [update_of_ne hne.symm]
  have hperm := (filterMap_openFd_update (by decide) (mem_allEnds writeEnd) hwrite' hw).trans
    ((filterMap_openFd_update (by decide) (mem_allEnds readEnd) hread hr).cons w)
  unfold Starting.Tracked at h ⊢
  simp only [Starting.pipe, List.filterMap_append, List.filterMap_cons, closedFd, openedFd,
    List.filterMap_nil, List.append_nil]
  refine (hperm.append_left _).trans ?_
  refine List.perm_middle.trans ((List.perm_middle.cons w).trans ?_)
  refine ((h.cons r).cons w).trans ((List.Perm.swap r w _).trans ?_)
  have hcomm : ([r, w] ++ s.trace.filterMap openedFd).Perm _ := List.perm_append_comm
  exact hcomm

theorem log_tracked {c : Syscall} (h : s.Tracked) (hopened : openedFd c = none)
    (hclosed : closedFd c = none) : (s.log c).Tracked := by
  unfold Starting.Tracked at h ⊢
  simpa only [Starting.log, List.filterMap_append, List.filterMap_cons, hopened, hclosed,
    List.filterMap_nil, List.append_nil] using h

theorem Starting.Tracked.closed_once (h : s.Tracked) (hends : ∀ e, s.ends e < 0)
    (hdistinct : (s.trace.filterMap openedFd).Nodup) :
    ∀ fd ∈ s.trace.filterMap openedFd, (s.trace.filterMap closedFd).count fd = 1 := by
  have hnone : allEnds.filterMap (openFd s.ends) = [] := by
    rw [List.filterMap_eq_nil_iff]
    intro e _
    exact if_neg (Int.not_le.mpr (hends e))
  unfold Starting.Tracked at h
  rw [hnone, List.append_nil] at h
  intro fd hfd
  rw [h.count_eq]
  exact List.count_eq_one_of_mem hdistinct hfd

end

/-! ## Starting the process -/

structure Accounted (o : Startup) (s : Starting) (process : Process) (kids : List ℤ)
    (closed : List PipeEnd) : Prop where
  process : s.process = process
  tracked : s.Tracked
  opened : s.trace.filterMap openedFd <+: o.fds
  children : children s.trace = kids
  tended : Tended s.trace
  ends : ∀ e ∈ closed, s.ends e < 0

section
variable {o : Startup} {s : Starting} {p : Process} {kids : List ℤ} {closed : List PipeEnd}

theorem Accounted.close (h : Accounted o s p kids closed) (e : PipeEnd) :
    Accounted o (s.close e) p kids (e :: closed) where
  process := close_process.trans h.process
  tracked := h.tracked.close
  opened := by
    rw [close_opened]
    exact h.opened
  children := close_children.trans h.children
  tended := close_tended h.tended
  ends := by
    intro e' he'
    rcases List.mem_cons.mp he' with rfl | he'
    · exact close_ends e' (.inr rfl)
    · exact close_ends e' (.inl (h.ends e' he'))

theorem Accounted.closeAll (h : Accounted o s p kids closed) :
    Accounted o s.closeAll p kids (allEnds.reverse ++ closed) :=
  (((((h.close .requestsRead).close .requestsWrite).close .responsesRead).close
    .responsesWrite).close .execRead).close .execWrite

theorem Accounted.log {c : Syscall} (h : Accounted o s p kids closed) (hopened : openedFd c = none)
    (hclosed : closedFd c = none) (htarget : ∀ pid, c.target = some pid → pid ∈ kids) :
    Accounted o (s.log c) p (childrenAfter kids c) closed where
  process := h.process
  tracked := log_tracked h.tracked hopened hclosed
  opened := by
    rw [Starting.log, opened_append _ hopened]
    exact h.opened
  children := by rw [Starting.log, children_append, h.children]
  tended := log_tended h.tended fun pid hpid => h.children ▸ htarget pid hpid
  ends := h.ends

theorem Accounted.fork (h : Accounted o s p [] closed) (child : ℤ) :
    Accounted o (s.log (.forked child)) p [child] closed :=
  h.log rfl rfl (by simp [Syscall.target])

theorem Accounted.kill {child : ℤ} (h : Accounted o s p [child] closed) :
    Accounted o (s.log (.killed child)) p [child] closed :=
  h.log rfl rfl (by simp [Syscall.target])

theorem Accounted.reap {child : ℤ} (h : Accounted o s p [child] closed) :
    Accounted o (s.reap child) p [] closed := by
  have hmem : child ∈ Native.children s.trace := by simp [h.children]
  have hlog := h.log (c := .waited child true) rfl rfl (by simp [Syscall.target])
  simpa [Starting.reap, hmem, childrenAfter] using hlog

theorem Accounted.nothing_iff (h : Accounted o s p [] closed) (hfresh : o.Fresh)
    (hclosed : ∀ e, e ∈ closed) : Nothing s ↔ p = {} := by
  refine ⟨fun hnothing => h.process.symm.trans hnothing.process, fun hp => ?_⟩
  exact {
    process := h.process.trans hp
    closed := h.tracked.closed_once (fun e => h.ends e (hclosed e))
      (hfresh.distinct.sublist h.opened.sublist)
    reaped := h.children }

end

theorem pipes_accounted {o : Startup} (hfresh : o.Fresh) :
    Accounted o (Starting.pipes {} o).2 {} [] [] := by
  have hnonneg := hfresh.nonneg
  have hstart : Starting.Tracked {} := List.Perm.refl []
  rcases hrequests : o.requests with _ | ⟨a, b⟩
  · simp only [Starting.pipes, Starting.pipe, hrequests]
    exact ⟨rfl, hstart, List.nil_prefix, rfl, Trace.always_nil, by simp⟩
  simp only [Startup.fds, hrequests, List.flatMap_cons, Option.elim_some] at hnonneg
  have ha : 0 ≤ a := hnonneg a (by simp)
  have hb : 0 ≤ b := hnonneg b (by simp)
  have hfirst := hstart.pipe .requestsRead .requestsWrite (by decide)
    (by decide) (by decide) ha hb
  rcases hresponses : o.responses with _ | ⟨c, d⟩
  · simp only [Starting.pipes, Starting.pipe, hrequests, hresponses]
    refine ⟨rfl, hfirst, ?_, rfl, untargeted_tended (by simp [Syscall.target]), by simp⟩
    simp [Startup.fds, hrequests, openedFd]
  simp only [hresponses, Option.elim_some] at hnonneg
  have hc : 0 ≤ c := hnonneg c (by simp)
  have hd : 0 ≤ d := hnonneg d (by simp)
  have hsecond := hfirst.pipe .responsesRead .responsesWrite (by decide)
    (by simp [Starting.pipe]) (by simp [Starting.pipe]) hc hd
  rcases hexec : o.execStatus with _ | ⟨e, f⟩
  · simp only [Starting.pipes, Starting.pipe, hrequests, hresponses, hexec]
    refine ⟨rfl, hsecond, ?_, rfl, untargeted_tended (by simp [Syscall.target]), by simp⟩
    simp [Startup.fds, hrequests, hresponses, openedFd]
  simp only [hexec, Option.elim_some] at hnonneg
  have he : 0 ≤ e := hnonneg e (by simp)
  have hf : 0 ≤ f := hnonneg f (by simp)
  have hthird := hsecond.pipe .execRead .execWrite (by decide)
    (by simp [Starting.pipe]) (by simp [Starting.pipe]) he hf
  simp only [Starting.pipes, Starting.pipe, hrequests, hresponses, hexec]
  refine ⟨rfl, hthird, ?_, rfl, untargeted_tended (by simp [Syscall.target]), by simp⟩
  simp [Startup.fds, hrequests, hresponses, hexec, openedFd]

theorem pipes_fst (o : Startup) : (Starting.pipes {} o).1 =
    (o.requests.isSome && o.responses.isSome && o.execStatus.isSome) := by
  rcases hrequests : o.requests with _ | ⟨a, b⟩
  · simp [Starting.pipes, Starting.pipe, hrequests]
  rcases hresponses : o.responses with _ | ⟨c, d⟩
  · simp [Starting.pipes, Starting.pipe, hrequests, hresponses]
  rcases hexec : o.execStatus with _ | ⟨e, f⟩
  · simp [Starting.pipes, Starting.pipe, hrequests, hresponses, hexec]
  · simp [Starting.pipes, Starting.pipe, hrequests, hresponses, hexec]

theorem Accounted.forked {o : Startup} {s : Starting} {p : Process} {closed : List PipeEnd}
    (h : Accounted o s p [] closed) (child : ℤ) :
    Accounted o (s.forked child) p [child]
      (.execRead :: .execWrite :: .responsesWrite :: .requestsRead :: closed) :=
  ((((h.fork child).close .requestsRead).close .responsesWrite).close .execWrite).close .execRead

structure Failed (o : Startup) (s : Starting) (p : Process) : Prop where
  accounted : ∃ closed, Accounted o s p [] closed ∧ ∀ e, e ∈ closed
  process : o.eventFails = false ∧ p = {} ∨
    o.eventFails = true ∧ ∃ child, o.fork = some child ∧ p.pid = child

theorem Accounted.abandoned {o : Startup} {s : Starting} {p : Process} {child : ℤ}
    (h : Accounted o s p [child] [.execRead, .execWrite, .responsesWrite, .requestsRead]) :
    (∃ closed, Accounted o (s.closeChannels.reap child) p [] closed ∧ ∀ e, e ∈ closed) ∧
      ∃ closed, Accounted o ((s.log (.killed child)).reap child).closeChannels p [] closed ∧
        ∀ e, e ∈ closed := by
  have hends : ∀ e : PipeEnd, e ∈ [.responsesRead, .requestsWrite, .execRead, .execWrite,
      .responsesWrite, .requestsRead] := by
    intro e
    cases e <;> decide
  constructor
  · exact ⟨_, ((h.close .requestsWrite).close .responsesRead).reap, hends⟩
  · exact ⟨_, (h.kill.reap.close .requestsWrite).close .responsesRead, hends⟩

structure Started (o : Startup) (s : Starting) (child : ℤ) : Prop where
  accounted : ∃ p closed, Accounted o s p [child] closed ∧ p.pid = child
  fork : o.fork = some child
  event : o.eventFails = false

theorem startParent_cases {o : Startup} {s : Starting} {child : ℤ}
    (h : Accounted o s {} [child] [.execRead, .execWrite, .responsesWrite, .requestsRead])
    (hfork : o.fork = some child)
    (hmade : (o.getrlimit && (o.requests.isSome && o.responses.isSome && o.execStatus.isSome)) =
      true) :
    ((startParent o child s).1 = -1 ∧ ∃ p, Failed o (startParent o child s).2 p) ∨
      ((startParent o child s).1 = 0 ∧ Started o (startParent o child s).2 child) := by
  have hset : Accounted o { s with process := { s.process with
      pid := child, pidFd := openChildEventFd o } }
      { s.process with pid := child, pidFd := openChildEventFd o } [child]
      [.execRead, .execWrite, .responsesWrite, .requestsRead] :=
    ⟨rfl, h.tracked, h.opened, h.children, h.tended, h.ends⟩
  unfold startParent
  by_cases hexec : readExecStatus 0 o.execReads = 0
  · by_cases hflags : (setNonblock o.requestFlags && setNonblock o.responseFlags) = false
    · have hevent : o.eventFails = false := by simp [Startup.eventFails, Startup.execs, hflags]
      simp only [hexec, hflags, ne_eq, not_true, if_false, if_true]
      exact .inl ⟨trivial, _, h.abandoned.2, .inl ⟨hevent, rfl⟩⟩
    · have hflags : (setNonblock o.requestFlags && setNonblock o.responseFlags) = true := by
        simpa using hflags
      have hexecs : o.execs = true := by
        rw [Startup.execs, hmade, hflags, hfork, hexec]
        rfl
      by_cases hevent : openChildEventFd o < 0
      · -- the process identifier is in the structure already
        simp only [hexec, hflags, hevent, ne_eq, not_true, if_false, if_true, Bool.true_eq_false]
        refine .inl ⟨trivial, _, hset.abandoned.2, .inr ⟨?_, child, hfork, rfl⟩⟩
        simp [Startup.eventFails, hexecs, hevent]
      · simp only [hexec, hflags, hevent, ne_eq, not_true, if_false, Bool.true_eq_false]
        refine .inr ⟨trivial, ⟨_, _, ⟨rfl, h.tracked, h.opened, h.children, h.tended, h.ends⟩, rfl⟩,
          hfork, ?_⟩
        simp [Startup.eventFails, hevent]
  · have hevent : o.eventFails = false := by simp [Startup.eventFails, Startup.execs, hexec]
    simp only [hexec, ne_eq, not_false_eq_true, if_true]
    exact .inl ⟨trivial, _, h.abandoned.1, .inl ⟨hevent, rfl⟩⟩

theorem start_cases {o : Startup} (hfresh : o.Fresh) :
    ((hostedProcessStart o).1 = -1 ∧ ∃ p, Failed o (hostedProcessStart o).2 p) ∨
      ((hostedProcessStart o).1 = 0 ∧ ∃ child, Started o (hostedProcessStart o).2 child) := by
  have hends : ∀ e : PipeEnd, e ∈ allEnds.reverse ++ [] := by
    intro e
    cases e <;> decide
  have hpiped := pipes_accounted hfresh
  have hmade := pipes_fst o
  have hclosed : ∀ s, Accounted o s {} [] [] → o.execs = false → Failed o s.closeAll {} :=
    fun s h hexecs => ⟨⟨_, h.closeAll, hends⟩, .inl ⟨by simp [Startup.eventFails, hexecs], rfl⟩⟩
  unfold hostedProcessStart
  by_cases hlimit : o.getrlimit = false
  · have hblank : Accounted o {} {} [] allEnds :=
      ⟨rfl, .refl [], List.nil_prefix, rfl, Trace.always_nil, by simp⟩
    simp only [hlimit, if_true]
    exact .inl ⟨trivial, _, ⟨_, hblank, mem_allEnds⟩,
      .inl ⟨by simp [Startup.eventFails, Startup.execs, hlimit], rfl⟩⟩
  have hlimit : o.getrlimit = true := by simpa using hlimit
  rcases hpipes : Starting.pipes {} o with ⟨made, s⟩
  rw [hpipes] at hpiped hmade
  cases made with
  | false =>
    simp only [hlimit, Bool.true_eq_false, if_false]
    exact .inl ⟨trivial, _, hclosed s hpiped (by simp [Startup.execs, ← hmade])⟩
  | true =>
    rcases hfork : o.fork with _ | child
    · simp only [hlimit, Bool.true_eq_false, if_false]
      exact .inl ⟨trivial, _, hclosed s hpiped (by simp [Startup.execs, hfork])⟩
    · simp only [hlimit, Bool.true_eq_false, if_false]
      have hdone := startParent_cases (hpiped.forked child) hfork (by rw [hlimit, ← hmade]; rfl)
      exact hdone.imp_right fun h => ⟨h.1, child, h.2⟩

theorem start_nothing_iff {o : Startup} (hfresh : o.Fresh)
    (hfail : (hostedProcessStart o).1 = -1) :
    Nothing (hostedProcessStart o).2 ↔ o.eventFails = false := by
  rcases start_cases hfresh with ⟨-, p, ⟨closed, haccounted, hall⟩, hprocess⟩ | ⟨hok, -⟩
  · rw [haccounted.nothing_iff hfresh hall]
    rcases hprocess with ⟨hevent, hp⟩ | ⟨hevent, child, hfork, hpid⟩
    · exact iff_of_true hp hevent
    · refine iff_of_false (fun hp => ?_) (by simp [hevent])
      rw [hp] at hpid
      have := hfresh.child child hfork
      have hchild : child = -1 := hpid.symm
      omega
  · rw [hok] at hfail
    cases hfail

end Tcpcc.Native
