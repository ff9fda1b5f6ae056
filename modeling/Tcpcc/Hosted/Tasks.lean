import Mathlib.Algebra.Order.Ring.Int
import Mathlib.Logic.Function.Basic
import Tcpcc.Lib.Machine

/-!
# Task switching

`process.c`: `copy_thread`, `__switch_to` and the entry of a kernel thread. A context that is not
running lies on the stack of its task, at the stack pointer that its `thread_struct` keeps;
`tcpcc_switch_context` saves one and goes on at another. The second half of `__switch_to` therefore
runs in the activation that was suspended there, with the `prev` of that activation.
-/

namespace Tcpcc.Hosted
open Function (update update_of_ne update_self)

def threadSize : ℕ := 16384

structure Layout (T : Type) where
  stackPage : T → ℕ
  owner : ℕ → Option T
  page_pos : ∀ t, 0 < stackPage t
  owner_iff : ∀ a t, owner a = some t ↔ stackPage t ≤ a ∧ a < stackPage t + threadSize

/-- What a saved context continues with: the entry of a kernel thread, or the rest of a call of
`__switch_to` with its `prev`. -/
inductive Frame (T : Type)
  | threadEntry
  | switchTo (prev : T)
  deriving DecidableEq, Repr

structure ThreadStruct (T : Type) where
  sp : ℕ := 0
  prevSched : Option T := none
  fn : Option ℕ := none
  fnArg : ℕ := 0
  deriving DecidableEq, Repr

inductive Result (T : Type)
  | returned (last : T)
  | scheduleTail (prev : T) (fn arg : ℕ)
  | panic (message : String)
  | lost
  deriving DecidableEq, Repr

inductive Standing
  | unknown
  | prepared
  | running
  | switchedOut
  deriving DecidableEq, Repr

/-- One switch: on whose stack it began, on whose it ended, whether that task ran for the first
time, and what its code was given. -/
structure Handover (T : Type) where
  before : Option T
  after : Option T
  first : Bool
  result : Result T

structure Tasks (T : Type) where
  currentTask : T
  thread : T → ThreadStruct T
  memory : ℕ → Option (Frame T)
  rsp : ℕ
  halted : Bool
  standing : T → Standing
  handovers : List (Handover T)

variable {T : Type} [DecidableEq T]

namespace Tasks

def setThread (t : T) (f : ThreadStruct T → ThreadStruct T) (s : Tasks T) : Tasks T :=
  { s with thread := update s.thread t (f (s.thread t)) }

def store (a : ℕ) (frame : Option (Frame T)) (s : Tasks T) : Tasks T :=
  { s with memory := update s.memory a frame }

/-- The stack pointer that `tcpcc_prepare_kernel_stack` comes to: eight words below the top, which
it rounds down to a multiple of 16. -/
def preparedSp (layout : Layout T) (p : T) : ℕ :=
  (layout.stackPage p + threadSize) / 16 * 16 - 8 * 8

def prepareKernelStack (layout : Layout T) (p : T) (s : Tasks T) : Tasks T :=
  (s.store (preparedSp layout p) (some .threadEntry)).setThread p fun th =>
    { th with sp := preparedSp layout p }

/-- `copy_thread`, and whether it succeeds. -/
def copyThread (layout : Layout T) (p : T) (fn : Option ℕ) (arg : ℕ) (s : Tasks T) :
    Bool × Tasks T :=
  if fn.isNone then (false, s)
  else (true, prepareKernelStack layout p (s.setThread p fun _ => { fn, fnArg := arg }))

/-- `tcpcc_kernel_thread_entry` up to the call of the thread function. -/
def kernelThreadEntry (s : Tasks T) : Result T × Tasks T :=
  match (s.thread s.currentTask).prevSched with
  | none => (.panic "tcpcc: first task entry has no previous scheduler task", s)
  | some prev =>
    match (s.thread s.currentTask).fn with
    | none => (.panic "tcpcc: first task entry has no kernel-thread function", s)
    | some fn =>
      (.scheduleTail prev fn (s.thread s.currentTask).fnArg,
        s.setThread s.currentTask fun th => { th with prevSched := none })

/-- `__switch_to` behind `tcpcc_switch_context`. -/
def switchedBack (prev : T) (s : Tasks T) : Result T × Tasks T :=
  if s.currentTask ≠ prev then
    (.panic "tcpcc: current ownership mismatch after task switch", s)
  else
    match (s.thread s.currentTask).prevSched with
    | none => (.panic "tcpcc: resumed task lost previous scheduler ownership", s)
    | some last => (.returned last, s)

/-- `tcpcc_switch_context` of `prev`, whose stack pointer is then `sp`, and what follows on the
other stack. -/
def switchContext (prev : T) (sp nextSp : ℕ) (s : Tasks T) : Result T × Tasks T :=
  let s := ((s.store sp (some (.switchTo prev))).setThread prev fun th => { th with sp })
  let s := { s with rsp := nextSp }
  match s.memory nextSp with
  | none => (.lost, s)
  | some .threadEntry => s.kernelThreadEntry
  | some (.switchTo prev) => s.switchedBack prev

def switchTo (prev next : T) (sp : ℕ) (s : Tasks T) : Result T × Tasks T :=
  if s.currentTask ≠ prev then
    (.panic "tcpcc: current ownership mismatch before task switch", s)
  else if (s.thread next).sp = 0 then
    (.panic "tcpcc: scheduler selected task without a hosted context", s)
  else
    let s := s.setThread next fun th => { th with prevSched := some prev }
    let s := { s with currentTask := next }
    s.switchContext prev sp (s.thread next).sp

def boot (init : T) (rsp : ℕ) : Tasks T where
  currentTask := init
  thread := fun _ => {}
  memory := fun _ => none
  rsp := rsp
  halted := false
  standing := update (fun _ => .unknown) init .running
  handovers := []

end Tasks

inductive Event (T : Type)
  /-- the running code moves on its own stack and writes to it -/
  | run (rsp : ℕ) (writes : List (ℕ × Option (Frame T)))
  | copyThread (p : T) (fn : Option ℕ) (arg : ℕ)
  | switchTo (prev next : T) (sp : ℕ)
  deriving DecidableEq, Repr

namespace Tasks

def writeAll (writes : List (ℕ × Option (Frame T))) (s : Tasks T) : Tasks T :=
  writes.foldl (fun s w => s.store w.1 w.2) s

def isPanic : Result T → Bool
  | .panic _ => true
  | .lost => true
  | _ => false

def step (layout : Layout T) (s : Tasks T) : Event T → Option (Tasks T)
  | .run rsp writes =>
    if s.halted = false ∧ layout.owner rsp = layout.owner s.rsp ∧
        ∀ w ∈ writes, layout.owner w.1 = layout.owner s.rsp then
      some { s.writeAll writes with rsp }
    else none
  | .copyThread p fn arg =>
    if s.halted then none
    else
      let (copied, t) := s.copyThread layout p fn arg
      some (if copied then { t with standing := update t.standing p .prepared } else t)
  | .switchTo prev next sp =>
    if s.halted = false ∧ layout.owner sp = layout.owner s.rsp then
      let (result, t) := s.switchTo prev next sp
      some
        { t with
          halted := isPanic result
          standing := update (update t.standing prev .switchedOut) next .running
          handovers := ⟨layout.owner s.rsp, layout.owner t.rsp, s.standing next = .prepared,
            result⟩ :: t.handovers }
    else none

/-- The scheduler passes the running task and another one that was prepared and has never run or was
switched out; and no task is prepared while it runs. -/
def schedules (layout : Layout T) (s : Tasks T) : Event T → Bool
  | .run _ _ => true
  | .copyThread p _ _ => layout.owner s.rsp ≠ some p
  | .switchTo prev next _ => layout.owner s.rsp = some prev ∧ next ≠ prev ∧
      (s.standing next = .prepared ∨ s.standing next = .switchedOut)

/-! ## What a suspended task leaves behind -/

variable {layout : Layout T} {s u : Tasks T} {t p : T} {frame : Frame T}

structure Rests (layout : Layout T) (s : Tasks T) (t : T) (frame : Frame T) : Prop where
  own : layout.owner (s.thread t).sp = some t
  saved : s.memory (s.thread t).sp = some frame

def Faithful (h : Handover T) : Prop :=
  ∃ before after, h.before = some before ∧ h.after = some after ∧
    if h.first then ∃ fn arg, h.result = .scheduleTail before fn arg
    else h.result = .returned before

structure Inv (layout : Layout T) (s : Tasks T) : Prop where
  live : s.halted = false
  current : layout.owner s.rsp = some s.currentTask
  prepared : ∀ t, s.standing t = .prepared →
    t ≠ s.currentTask ∧ Rests layout s t .threadEntry ∧ (s.thread t).fn.isSome = true
  switchedOut : ∀ t, s.standing t = .switchedOut →
    t ≠ s.currentTask ∧ Rests layout s t (.switchTo t)
  faithful : ∀ h ∈ s.handovers, Faithful h

omit [DecidableEq T] in
theorem Rests.sp_ne (h : Rests layout s t frame) : (s.thread t).sp ≠ 0 := by
  intro hzero
  have hown := h.own
  rw [hzero, layout.owner_iff] at hown
  have hpos := layout.page_pos t
  omega

omit [DecidableEq T] in
theorem Rests.keep (h : Rests layout s t frame) (hthread : (u.thread t).sp = (s.thread t).sp)
    (hmemory : ∀ a, layout.owner a = some t → u.memory a = s.memory a) :
    Rests layout u t frame where
  own := by
    rw [hthread]
    exact h.own
  saved := by
    rw [hthread, hmemory _ h.own]
    exact h.saved

omit [DecidableEq T] in
theorem owner_preparedSp (layout : Layout T) (p : T) :
    layout.owner (preparedSp layout p) = some p := by
  rw [layout.owner_iff, preparedSp, threadSize]
  omega

/-! ## Steps -/

omit [DecidableEq T] in
theorem writeAll_memory {writes : List (ℕ × Option (Frame T))} {a : ℕ}
    (h : ∀ w ∈ writes, w.1 ≠ a) : (s.writeAll writes).memory a = s.memory a := by
  unfold writeAll
  induction writes generalizing s with
  | nil => rfl
  | cons w writes ih =>
    obtain ⟨hw, hrest⟩ := List.forall_mem_cons.mp h
    rw [List.foldl_cons, ih hrest]
    exact update_of_ne (Ne.symm hw) _ _

omit [DecidableEq T] in
theorem writeAll_frame (writes : List (ℕ × Option (Frame T))) :
    (s.writeAll writes).currentTask = s.currentTask ∧ (s.writeAll writes).thread = s.thread ∧
      (s.writeAll writes).halted = s.halted ∧ (s.writeAll writes).standing = s.standing ∧
      (s.writeAll writes).handovers = s.handovers := by
  unfold writeAll
  induction writes generalizing s with
  | nil => exact ⟨rfl, rfl, rfl, rfl, rfl⟩
  | cons w writes ih => exact ih

omit [DecidableEq T] in
theorem Inv.run {rsp : ℕ} {writes : List (ℕ × Option (Frame T))} (hi : Inv layout s)
    (hrsp : layout.owner rsp = layout.owner s.rsp)
    (hwrites : ∀ w ∈ writes, layout.owner w.1 = layout.owner s.rsp) :
    Inv layout { s.writeAll writes with rsp } := by
  obtain ⟨hcurrent, hthread, hhalted, hstanding, hhandovers⟩ := s.writeAll_frame writes
  have hmemory : ∀ t, t ≠ s.currentTask → ∀ a, layout.owner a = some t →
      (s.writeAll writes).memory a = s.memory a := by
    intro t ht a ha
    refine writeAll_memory fun w hw => ?_
    rintro rfl
    have hown := hwrites w hw
    rw [ha, hi.current, Option.some.injEq] at hown
    exact ht hown
  have hrests : ∀ t frame, t ≠ s.currentTask → Rests layout s t frame →
      Rests layout { s.writeAll writes with rsp } t frame := fun t frame ht h =>
    h.keep (by rw [hthread]) (hmemory t ht)
  constructor
  · exact hhalted.trans hi.live
  · rw [hrsp, hi.current, hcurrent]
  · intro t ht
    obtain ⟨hne, hrest, hfn⟩ := hi.prepared t (hstanding ▸ ht)
    refine ⟨by rw [hcurrent]; exact hne, hrests t _ hne hrest, ?_⟩
    rw [hthread]
    exact hfn
  · intro t ht
    obtain ⟨hne, hrest⟩ := hi.switchedOut t (hstanding ▸ ht)
    exact ⟨by rw [hcurrent]; exact hne, hrests t _ hne hrest⟩
  · rw [hhandovers]
    exact hi.faithful

theorem copyThread_some {fn : ℕ} (arg : ℕ) :
    s.copyThread layout p (some fn) arg =
      (true, { s with
        thread := update s.thread p
          { sp := preparedSp layout p, fn := some fn, fnArg := arg }
        memory := update s.memory (preparedSp layout p) (some .threadEntry) }) := by
  simp [copyThread, prepareKernelStack, setThread, store]

theorem Inv.copyThread {fn : ℕ} (arg : ℕ) (hi : Inv layout s) (hp : p ≠ s.currentTask) :
    Inv layout { s with
      thread := update s.thread p
        { sp := preparedSp layout p, fn := some fn, fnArg := arg }
      memory := update s.memory (preparedSp layout p) (some .threadEntry)
      standing := update s.standing p .prepared } := by
  have hrests : ∀ t frame, t ≠ p → Rests layout s t frame →
      Rests layout { s with
        thread := update s.thread p
          { sp := preparedSp layout p, fn := some fn, fnArg := arg }
        memory := update s.memory (preparedSp layout p) (some .threadEntry)
        standing := update s.standing p .prepared } t frame := by
    intro t frame ht h
    refine h.keep (by simp [ht]) fun a ha => update_of_ne ?_ _ _
    rintro rfl
    rw [owner_preparedSp, Option.some.injEq] at ha
    exact ht ha.symm
  constructor
  · exact hi.live
  · exact hi.current
  · intro t ht
    by_cases htp : t = p
    · subst htp
      refine ⟨hp, ⟨?_, ?_⟩, ?_⟩
      · simpa using owner_preparedSp layout t
      · simp
      · simp
    · simp only [update_of_ne htp] at ht
      obtain ⟨hne, hrest, hfn⟩ := hi.prepared t ht
      exact ⟨hne, hrests t _ htp hrest, by simpa [htp] using hfn⟩
  · intro t ht
    by_cases htp : t = p
    · subst htp
      simp at ht
    · simp only [update_of_ne htp] at ht
      obtain ⟨hne, hrest⟩ := hi.switchedOut t ht
      exact ⟨hne, hrests t _ htp hrest⟩
  · exact hi.faithful

def handOver (prev next : T) (sp : ℕ) (s : Tasks T) : Tasks T :=
  { s with
    currentTask := next
    thread := update
      (update s.thread next { s.thread next with prevSched := some prev }) prev
        { s.thread prev with sp }
    memory := update s.memory sp (some (.switchTo prev))
    rsp := (s.thread next).sp }

theorem switchTo_eq {next : T} {sp : ℕ} (hne : next ≠ s.currentTask)
    (hsp : (s.thread next).sp ≠ 0) :
    s.switchTo s.currentTask next sp =
      match (s.handOver s.currentTask next sp).memory (s.thread next).sp with
      | none => (.lost, s.handOver s.currentTask next sp)
      | some .threadEntry => (s.handOver s.currentTask next sp).kernelThreadEntry
      | some (.switchTo prev) => (s.handOver s.currentTask next sp).switchedBack prev := by
  simp [switchTo, hsp, switchContext, setThread, store, handOver, Ne.symm hne]

section
variable {next : T} {sp : ℕ} (hi : Inv layout s) (hne : next ≠ s.currentTask)
  (hsp : layout.owner sp = some s.currentTask)
include hi hne hsp

omit hi in
theorem handOver_memory (h : Rests layout s next frame) :
    (s.handOver s.currentTask next sp).memory (s.thread next).sp = some frame := by
  refine (update_of_ne ?_ _ _).trans h.saved
  intro heq
  have hown := h.own
  rw [heq, hsp, Option.some.injEq] at hown
  exact hne hown.symm

theorem switchTo_prepared (h : s.standing next = .prepared) :
    ∃ fn arg, s.switchTo s.currentTask next sp = (.scheduleTail s.currentTask fn arg,
      (s.handOver s.currentTask next sp).setThread next
        fun th => { th with prevSched := none }) := by
  obtain ⟨-, hrest, hfn⟩ := hi.prepared next h
  obtain ⟨fn, hfn⟩ := Option.isSome_iff_exists.mp hfn
  refine ⟨fn, (s.thread next).fnArg, ?_⟩
  rw [switchTo_eq hne hrest.sp_ne, handOver_memory hne hsp hrest]
  simp [kernelThreadEntry, handOver, hne, hfn]

theorem switchTo_switchedOut (h : s.standing next = .switchedOut) :
    s.switchTo s.currentTask next sp =
      (.returned s.currentTask, s.handOver s.currentTask next sp) := by
  obtain ⟨-, hrest⟩ := hi.switchedOut next h
  rw [switchTo_eq hne hrest.sp_ne, handOver_memory hne hsp hrest]
  simp [switchedBack, handOver, hne]

end

structure Switched (s : Tasks T) (next : T) (sp : ℕ) (u : Tasks T) : Prop where
  currentTask : u.currentTask = next
  rsp : u.rsp = (s.thread next).sp
  memory : u.memory = update s.memory sp (some (.switchTo s.currentTask))
  saved : (u.thread s.currentTask).sp = sp
  kept : ∀ t, t ≠ s.currentTask → (u.thread t).sp = (s.thread t).sp
  fn : ∀ t, (u.thread t).fn = (s.thread t).fn
  live : u.halted = false
  standing : u.standing =
    update (update s.standing s.currentTask .switchedOut) next .running
  handovers : ∃ h, Faithful h ∧ u.handovers = h :: s.handovers

theorem Inv.switched {next : T} {sp : ℕ} (hi : Inv layout s) (hne : next ≠ s.currentTask)
    (hsp : layout.owner sp = some s.currentTask)
    (hown : layout.owner (s.thread next).sp = some next)
    (h : Switched s next sp u) : Inv layout u := by
  have hrests : ∀ t frame, t ≠ s.currentTask → Rests layout s t frame → Rests layout u t frame := by
    intro t frame ht hrest
    refine hrest.keep (h.kept t ht) fun a ha => ?_
    rw [h.memory]
    refine update_of_ne ?_ _ _
    rintro rfl
    rw [hsp, Option.some.injEq] at ha
    exact ht ha.symm
  have hstanding : ∀ t, u.standing t ≠ .running →
      t ≠ next ∧ (t = s.currentTask ∧ u.standing t = .switchedOut ∨
        t ≠ s.currentTask ∧ u.standing t = s.standing t) := by
    intro t ht
    rw [h.standing] at ht ⊢
    have htn : t ≠ next := by
      rintro rfl
      exact ht (update_self _ _ _)
    rw [update_of_ne htn]
    by_cases htc : t = s.currentTask
    · rw [htc]
      exact ⟨htc ▸ htn, .inl ⟨rfl, update_self _ _ _⟩⟩
    · exact ⟨htn, .inr ⟨htc, update_of_ne htc _ _⟩⟩
  constructor
  · exact h.live
  · rw [h.rsp, h.currentTask]
    exact hown
  · intro t ht
    obtain ⟨htn, ⟨-, hout⟩ | ⟨htc, hsame⟩⟩ := hstanding t (by rw [ht]; decide)
    · rw [ht] at hout
      cases hout
    · obtain ⟨-, hrest, hfn⟩ := hi.prepared t (hsame.symm.trans ht)
      rw [h.currentTask, h.fn]
      exact ⟨htn, hrests t _ htc hrest, hfn⟩
  · intro t ht
    rw [h.currentTask]
    obtain ⟨htn, ⟨rfl, -⟩ | ⟨htc, hsame⟩⟩ := hstanding t (by rw [ht]; decide)
    · refine ⟨htn, ⟨?_, ?_⟩⟩
      · rw [h.saved]
        exact hsp
      · rw [h.saved, h.memory]
        exact update_self _ _ _
    · exact ⟨htn, hrests t _ htc (hi.switchedOut t (hsame.symm.trans ht)).2⟩
  · obtain ⟨handover, hfaithful, heq⟩ := h.handovers
    rw [heq]
    exact List.forall_mem_cons.mpr ⟨hfaithful, hi.faithful⟩

/-! ## Runs -/

theorem step_switchTo {next : T} {sp : ℕ} (hi : Inv layout s) (hne : next ≠ s.currentTask)
    (hstanding : s.standing next = .prepared ∨ s.standing next = .switchedOut)
    (hsp : layout.owner sp = some s.currentTask)
    (h : step layout s (.switchTo s.currentTask next sp) = some u) :
    layout.owner (s.thread next).sp = some next ∧ Switched s next sp u := by
  have hguard : s.halted = false ∧ layout.owner sp = layout.owner s.rsp :=
    ⟨hi.live, hsp.trans hi.current.symm⟩
  simp only [step, if_pos hguard] at h
  rcases hstanding with hprepared | hout
  · have hown := (hi.prepared next hprepared).2.1.own
    obtain ⟨fn, arg, hswitch⟩ := switchTo_prepared hi hne hsp hprepared
    rw [hswitch] at h
    cases h
    refine ⟨hown, rfl, rfl, rfl, ?_, ?_, ?_, rfl, rfl, _, ⟨_, _, hi.current, hown, ?_⟩, rfl⟩
    · simp [setThread, handOver, Ne.symm hne]
    · intro t ht
      by_cases htn : t = next
      · simp [setThread, handOver, htn, hne]
      · simp [setThread, handOver, htn, ht]
    · intro t
      by_cases htn : t = next
      · simp [setThread, handOver, htn, hne]
      · by_cases ht : t = s.currentTask
        · simp [setThread, handOver, ht, Ne.symm hne]
        · simp [setThread, handOver, htn, ht]
    · rw [if_pos (decide_eq_true hprepared)]
      exact ⟨fn, arg, rfl⟩
  · have hown := (hi.switchedOut next hout).2.own
    rw [switchTo_switchedOut hi hne hsp hout] at h
    cases h
    refine ⟨hown, rfl, rfl, rfl, ?_, ?_, ?_, rfl, rfl, _, ⟨_, _, hi.current, hown, ?_⟩, rfl⟩
    · simp [handOver]
    · intro t ht
      by_cases htn : t = next
      · simp [handOver, htn, hne]
      · simp [handOver, htn, ht]
    · intro t
      by_cases ht : t = s.currentTask
      · simp [handOver, ht]
      · by_cases htn : t = next
        · simp [handOver, htn, hne]
        · simp [handOver, htn, ht]
    · rw [if_neg (by simp [hout])]

theorem Inv.step {e : Event T} (hi : Inv layout s) (hsched : schedules layout s e = true)
    (h : step layout s e = some u) : Inv layout u := by
  cases e with
  | run rsp writes =>
    simp only [Tasks.step, Option.ite_none_right_eq_some, Option.some.injEq] at h
    obtain ⟨⟨-, hrsp, hwrites⟩, rfl⟩ := h
    exact hi.run hrsp hwrites
  | copyThread p fn arg =>
    simp only [schedules, hi.current, decide_eq_true_eq, ne_eq, Option.some.injEq] at hsched
    cases fn with
    | none =>
      simp only [Tasks.step, hi.live, Tasks.copyThread] at h
      cases h
      exact hi
    | some fn =>
      simp only [Tasks.step, copyThread_some] at h
      rw [if_neg (by simp [hi.live])] at h
      cases h
      exact hi.copyThread arg fun heq => hsched heq.symm
  | switchTo prev next sp =>
    simp only [schedules, hi.current, decide_eq_true_eq, Option.some.injEq] at hsched
    obtain ⟨rfl, hne, hstanding⟩ := hsched
    have hsp : layout.owner sp = some s.currentTask := by
      simp only [Tasks.step, Option.ite_none_right_eq_some] at h
      exact h.1.2.trans hi.current
    obtain ⟨hown, hswitched⟩ := step_switchTo hi hne hstanding hsp h
    exact hi.switched hne hsp hown hswitched

theorem inv_boot {init : T} {rsp : ℕ} (h : layout.owner rsp = some init) :
    Inv layout (boot init rsp) := by
  have hstanding : ∀ t, (boot init rsp).standing t = .running ∨
      (boot init rsp).standing t = .unknown := by
    intro t
    by_cases ht : t = init
    · exact .inl (by simp [boot, ht])
    · exact .inr (by simp [boot, ht])
  constructor
  · rfl
  · exact h
  · intro t ht
    rcases hstanding t with hother | hother
    · rw [ht] at hother
      cases hother
    · rw [ht] at hother
      cases hother
  · intro t ht
    rcases hstanding t with hother | hother
    · rw [ht] at hother
      cases hother
    · rw [ht] at hother
      cases hother
  · exact List.forall_mem_nil _

/-- However the scheduler switches, the current task is the one on whose stack the code runs, each
task is given the one that ran before it, and nothing panics. -/
theorem run_identity {init : T} {rsp : ℕ} {es : List (Event T)}
    (hrsp : layout.owner rsp = some init)
    (h : Machine.run (step layout) (boot init rsp) es = some s)
    (hsched : Machine.meets (step layout) (schedules layout) (boot init rsp) es = true) :
    layout.owner s.rsp = some s.currentTask ∧ (∀ h ∈ s.handovers, Faithful h) ∧
      s.halted = false := by
  have hi : Inv layout s := Machine.run_invariant_meets
    (fun _ _ _ hi hsched h => hi.step hsched h) (inv_boot hrsp) h hsched
  exact ⟨hi.current, hi.faithful, hi.live⟩

def sampleLayout : Layout ℕ where
  stackPage t := (t + 1) * threadSize
  owner a := if a / threadSize = 0 then none else some (a / threadSize - 1)
  page_pos t := by
    rw [threadSize]
    omega
  owner_iff a t := by
    rw [threadSize]
    split
    · simp
      omega
    · simp
      omega

def sampleSwitches : List (Event ℕ) :=
  [.copyThread 1 (some 7) 8, .switchTo 0 1 20000, .run 40000 [(40008, none)], .switchTo 1 0 40016,
    .switchTo 0 1 20008]

theorem identity_round_trip :
    ∃ s, Machine.run (step sampleLayout) (boot 0 20000) sampleSwitches = some s ∧
      s.currentTask = 1 ∧ s.handovers.map Handover.result = [.returned 0, .returned 1,
        .scheduleTail 0 7 8] ∧
      sampleLayout.owner s.rsp = some s.currentTask ∧ (∀ h ∈ s.handovers, Faithful h) ∧
      s.halted = false := by
  obtain ⟨s, hs, hshown⟩ : ∃ s,
      Machine.run (step sampleLayout) (boot 0 20000) sampleSwitches = some s ∧
      (s.currentTask, s.handovers.map Handover.result) =
        (1, [.returned 0, .returned 1, .scheduleTail 0 7 8]) := by
    have hrun : (Machine.run (step sampleLayout) (boot 0 20000) sampleSwitches).map
        (fun s => (s.currentTask, s.handovers.map Handover.result)) =
          some (1, [.returned 0, .returned 1, .scheduleTail 0 7 8]) := by decide +kernel
    exact Option.map_eq_some_iff.mp hrun
  obtain ⟨hcurrent, hresults⟩ := Prod.mk.inj hshown
  exact ⟨s, hs, hcurrent, hresults, run_identity (by decide +kernel) hs (by decide +kernel)⟩

end Tasks

end Tcpcc.Hosted
