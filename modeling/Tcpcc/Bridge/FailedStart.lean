import Tcpcc.Bridge.Completion

/-!
# A start that fails

`tcpcc_bridge_start` has one way back from every point where it can fail. The stages of a
start are described relative to the state `r` in which it was called: no slot taken yet, a
slot in hand, and a session that has entered the registry. What the unwinding leaves is
`Restored`. Other parties run between the blocks of the start; `quiet` stands for the
assumption that none of them changes the callbacks, the user data or the counters of the
public socket.
-/

namespace Tcpcc.Bridge
open Resumption State
open Function (update update_eq_self update_idem update_of_ne update_self)

variable {s s' r : State} {x : SessionId} {sk : SockId} {id : SlotId} {quiet : Prop}
variable {c c' : Config} {ls : List Transition}

/-! ## What the others do and what the start does -/

def Unheard (s : State) : Prop := ∀ x, s.connecting x = true → s.eventRefs x = 0

theorem restorePublicCallbacks_eventRefs (x : SessionId) (s : State) :
    (restorePublicCallbacks x s).eventRefs = s.eventRefs := by
  unfold restorePublicCallbacks
  split
  · rfl
  · split <;> rfl

def Unowned (sk : SockId) (r : State) : Prop := ∀ y, r.publicSock y ≠ some sk

structure StartRely (quiet : Prop) (sk : SockId) (s s' : State) : Prop where
  registry : s'.toRegistry = s.toRegistry
  userData : quiet → (s'.sock sk).userData = (s.sock sk).userData
  hooks : quiet → (s'.sock sk).hooks = (s.sock sk).hooks
  releases : quiet → (s'.sock sk).releases = (s.sock sk).releases
  shutdowns : quiet → (∀ y, s.publicSock y = some sk → s.connecting y = true) →
    (s'.sock sk).shutdowns = (s.sock sk).shutdowns

/-- A block of the start of session `x` on the socket `sk`: it concerns the two alone, and of
the socket it changes the callbacks and the user data at most. -/
structure StartGuar (x : SessionId) (sk : SockId) (s s' : State) : Prop
    extends Touches x (· = sk) s s' where
  sock : ∃ u h, s'.sock sk = { s.sock sk with userData := u, hooks := h }

def startContract (quiet : Prop) (x : SessionId) (sk : SockId) : Contract State where
  rely := StartRely quiet sk
  guar := StartGuar x sk
  refl _ := ⟨rfl, fun _ => rfl, fun _ => rfl, fun _ => rfl, fun _ _ => rfl⟩
  trans {a b d} h h' := by
    refine ⟨h'.registry.trans h.registry, fun hq => (h'.userData hq).trans (h.userData hq),
      fun hq => (h'.hooks hq).trans (h.hooks hq), fun hq => (h'.releases hq).trans (h.releases hq),
      fun hq hsk => (h'.shutdowns hq fun y hy => ?_).trans (h.shutdowns hq hsk)⟩
    rw [congrArg Registry.publicSock h.registry] at hy
    rw [congrArg Registry.connecting h.registry]
    exact hsk y hy

theorem StartGuar.of_sessions (h : ∀ y, y ≠ x → sessionView s' y = sessionView s y)
    (hshared : s'.shared = s.shared) : StartGuar x sk s s' where
  toTouches := .of_sessions h hshared
  sock := ⟨_, _, congrFun (congrArg (fun shared => shared.2.2.2.2) hshared) sk⟩

/-! ## The stages of a start -/

structure Spared (quiet : Prop) (r : State) (sk : SockId) (s : State) : Prop where
  releases : quiet → (s.sock sk).releases = (r.sock sk).releases
  shutdowns : quiet → Unowned sk r → (s.sock sk).shutdowns = (r.sock sk).shutdowns
  connecting : Unowned sk r → ∀ y, s.publicSock y = some sk → s.connecting y = true

def SameHooks (r : State) (sk : SockId) (s : State) : Prop :=
  (s.sock sk).userData = (r.sock sk).userData ∧ (s.sock sk).hooks = (r.sock sk).hooks

structure Books (r : State) (t : Registry) : Prop where
  active : t.active = r.active
  count : t.activeSessions = r.activeSessions
  allocated : t.allocated = r.allocated
  next : t.nextSession = r.nextSession
  host : t.host = r.host

structure Unslotted (r : State) (t : Registry) : Prop extends Books r t where
  slot : t.slot = r.slot
  slotCount : t.slotCount = r.slotCount
  freeSlots : t.freeSlots = r.freeSlots

structure Taken (r : State) (id : SlotId) (t : Registry) : Prop where
  free : id :: t.freeSlots = r.freeSlots ∧ t.slotCount = r.slotCount ∨
    r.freeSlots = [] ∧ t.freeSlots = [] ∧ id = r.slotCount + 1 ∧ t.slotCount = r.slotCount + 1
  others : ∀ j, j ≠ id → t.slot j = r.slot j
  vacant : (r.slot id).session = none

structure Slotted (r : State) (id : SlotId) (t : Registry) : Prop
    extends Books r t, Taken r id t where
  session : (t.slot id).session = none
  generation : (t.slot id).generation = (r.slot id).generation

structure Entered (r : State) (sk : SockId) (id : SlotId) (t : Registry) : Prop
    extends Taken r id t where
  slot : t.slot id = ⟨some r.nextSession, nextGeneration (r.slot id).generation⟩
  active : t.active = r.active ++ [r.nextSession]
  count : t.activeSessions = r.activeSessions + 1
  allocated : t.allocated = update r.allocated r.nextSession true
  next : t.nextSession = r.nextSession + 1
  slotOf : t.slotOf r.nextSession = id
  publicSock : t.publicSock r.nextSession = some sk
  connecting : t.connecting r.nextSession = true

structure Descriptor (old : HostUse) (x : SessionId) (opens adds dels closes : ℕ) (t : Registry) :
    Prop where
  use : t.host x = ⟨old.opens + opens, old.adds + adds, old.dels + dels, old.closes + closes⟩
  opened : opens ≤ 1
  added : adds ≤ opens
  fd : 0 ≤ t.hostFd x ↔ closes < opens
  registered : t.registered x = true ↔ dels < adds

def Hooked (r : State) (sk : SockId) (s : State) : Prop :=
  s.publicCallbacksInstalled r.nextSession = false ∧ SameHooks r sk s ∨
    s.publicCallbacksInstalled r.nextSession = true ∧ (r.sock sk).userData = .null ∧
      s.savedHooks r.nextSession = (r.sock sk).hooks ∧
      (s.sock sk).userData = .session r.nextSession

/-- What a failed start leaves: the sessions as they were, the slot it took at the head of
`free_slots` with at most its generation advanced, and every descriptor it opened and every
registration it made undone once. -/
structure Restored (r : State) (t : Registry) : Prop where
  active : t.active = r.active
  count : t.activeSessions = r.activeSessions
  allocated : t.allocated = r.allocated
  free : t.freeSlots = r.freeSlots ∧ t.slotCount = r.slotCount ∨
    r.freeSlots = [] ∧ t.freeSlots = [r.slotCount + 1] ∧ t.slotCount = r.slotCount + 1
  sessions : ∀ j, (t.slot j).session = (r.slot j).session
  generations : ∀ j, (t.slot j).generation = (r.slot j).generation ∨
    t.freeSlots.head? = some j ∧
      (t.slot j).generation = nextGeneration (r.slot j).generation
  host : (t.nextSession = r.nextSession ∧ t.host = r.host) ∨
    t.nextSession = r.nextSession + 1 ∧ t.hostFd r.nextSession < 0 ∧
      t.registered r.nextSession = false ∧ ∃ opens adds, opens ≤ 1 ∧ adds ≤ opens ∧
      t.host r.nextSession = ⟨(r.host r.nextSession).opens + opens,
        (r.host r.nextSession).adds + adds, (r.host r.nextSession).dels + adds,
        (r.host r.nextSession).closes + opens⟩

theorem Spared.stable (h : Spared quiet r sk s) (hr : StartRely quiet sk s s') :
    Spared quiet r sk s' where
  releases hq := (hr.releases hq).trans (h.releases hq)
  shutdowns hq hun := (hr.shutdowns hq (h.connecting hun)).trans (h.shutdowns hq hun)
  connecting := by
    rw [congrArg Registry.publicSock hr.registry, congrArg Registry.connecting hr.registry]
    exact h.connecting

theorem SameHooks.stable (h : quiet → SameHooks r sk s) (hr : StartRely quiet sk s s')
    (hq : quiet) :
    SameHooks r sk s' := ⟨(hr.userData hq).trans (h hq).1, (hr.hooks hq).trans (h hq).2⟩

theorem Hooked.stable (h : quiet → Hooked r sk s) (hr : StartRely quiet sk s s') (hq : quiet) :
    Hooked r sk s' := by
  unfold Hooked SameHooks
  rw [congrArg Registry.publicCallbacksInstalled hr.registry,
    congrArg Registry.savedHooks hr.registry, hr.userData hq, hr.hooks hq]
  exact h hq

theorem Spared.frame (h : Spared quiet r sk s) (hsock : s'.sock = s.sock)
    (hpub : s'.publicSock = s.publicSock) (hconn : s'.connecting = s.connecting) :
    Spared quiet r sk s' := by
  refine ⟨?_, ?_, ?_⟩
  · rw [hsock]
    exact h.releases
  · rw [hsock]
    exact h.shutdowns
  · rw [hpub, hconn]
    exact h.connecting

structure At (quiet : Prop) (r : State) (sk : SockId) (B : Registry → Prop) (H : State → Prop)
    (s : State) : Prop where
  books : B s.toRegistry
  spared : Spared quiet r sk s
  hooks : quiet → H s

abbrev AtOutset (quiet : Prop) (r : State) (sk : SockId) : State → Prop :=
  At quiet r sk (Unslotted r) (SameHooks r sk)

abbrev AtSlot (quiet : Prop) (r : State) (sk : SockId) (id : SlotId) : State → Prop :=
  At quiet r sk (Slotted r id) (SameHooks r sk)

abbrev AtSession (quiet : Prop) (r : State) (sk : SockId) (id : SlotId)
    (opens adds dels closes : ℕ) : State → Prop :=
  At quiet r sk (fun t => Entered r sk id t ∧
    Descriptor (r.host r.nextSession) r.nextSession opens adds dels closes t) (Hooked r sk)

section Stages
variable {B : Registry → Prop} {opens adds dels closes : ℕ}

theorem At.outset (h : At quiet r sk B (SameHooks r sk) s) (hr : StartRely quiet sk s s') :
    At quiet r sk B (SameHooks r sk) s' :=
  ⟨hr.registry ▸ h.books, h.spared.stable hr, SameHooks.stable h.hooks hr⟩

theorem At.session (h : At quiet r sk B (Hooked r sk) s) (hr : StartRely quiet sk s s') :
    At quiet r sk B (Hooked r sk) s' :=
  ⟨hr.registry ▸ h.books, h.spared.stable hr, Hooked.stable h.hooks hr⟩

def StartPost (quiet : Prop) (r : State) (sk : SockId) : Outcome → State → Prop
  | .value ret => fun s => ret ≠ 0 ∧ At quiet r sk (Restored r) (SameHooks r sk) s
  | .started .. => fun _ => True
  | .reaped .. => fun _ => True

theorem Unslotted.restored {t : Registry} (h : Unslotted r t) : Restored r t where
  active := h.active
  count := h.count
  allocated := h.allocated
  free := .inl ⟨h.freeSlots, h.slotCount⟩
  sessions j := by rw [h.slot]
  generations j := .inl (by rw [h.slot])
  host := .inl ⟨h.next, h.host⟩

theorem At.post (h : AtOutset quiet r sk s) {ret : ℤ} (hret : ret ≠ 0) :
    StartPost quiet r sk (.value ret) s := ⟨hret, h.books.restored, h.spared, h.hooks⟩

/-! ## The dispatcher and the slot -/

theorem At.manager (h : AtOutset quiet r sk s) (i a b t n : Bool) (st : ℤ) (run p : Bool)
    (k : Kthread) :
    AtOutset quiet r sk { s with
      initialized := i, dispatcherStopping := a, dispatcherShouldStop := b, dispatcherTask := t
      runtimeNotify := n, dispatcherStatus := st, dispatcherRunning := run
      dispatcherPending := p, dispatcherThread := k } where
  books := ⟨⟨h.books.active, h.books.count, h.books.allocated, h.books.next, h.books.host⟩,
    h.books.slot, h.books.slotCount, h.books.freeSlots⟩
  spared := h.spared.frame rfl rfl rfl
  hooks := h.hooks

theorem startDispatcher_start (h : AtOutset quiet r sk s) :
    Prompt Unheard (startContract quiet r.nextSession sk) (fun _ => AtOutset quiet r sk)
      startDispatcher s := by
  unfold startDispatcher
  apply Prompt.bind
  apply Prompt.block {}
  intro s' hr _ _
  have h' := h.outset hr
  unfold prepareDispatcher
  simp only
  split
  · exact ⟨.of_sessions (fun _ _ => rfl) rfl, h'.manager _ _ _ _ _ _ _ _ _⟩
  · split
    · exact ⟨.of_sessions (fun _ _ => rfl) rfl, h'.manager _ _ _ _ _ _ _ _ _⟩
    · refine ⟨.of_sessions (fun _ _ => rfl) rfl, ?_⟩
      apply Prompt.await {} (fun _ => rfl)
      intro t ht _ reply
      have h'' := (h'.manager true false s'.dispatcherShouldStop s'.dispatcherTask true 0
        s'.dispatcherRunning false s'.dispatcherThread).outset ht
      unfold spawnDispatcher
      split
      · exact ⟨.of_sessions (fun _ _ => rfl) rfl, h''.manager _ _ _ _ _ _ _ _ _⟩
      · exact ⟨.of_sessions (fun _ _ => rfl) rfl, h''.manager _ _ _ _ _ _ _ _ _⟩

theorem Inv.newSlot (hi : Inv r) :
    (r.slot (r.slotCount + 1)).session = none ∧ (r.slot (r.slotCount + 1)).generation = 0 := by
  constructor
  · cases hs : (r.slot (r.slotCount + 1)).session with
    | none => rfl
    | some y =>
      obtain ⟨ha, hid⟩ := hi.slots.owned _ y hs
      have hle := (hi.slots.owner y ha).1.2
      rw [hid] at hle
      exact absurd hle (Nat.not_succ_le_self _)
  · rw [hi.names.slots]
    have hnone : allocations r.slotOf r.nextSession (r.slotCount + 1) = 0 := by
      unfold allocations
      rw [Finset.card_eq_zero, Finset.filter_eq_empty_iff]
      intro y hy he
      have hle := (hi.names.range y (Finset.mem_range.mp hy)).2
      rw [he] at hle
      exact absurd hle (Nat.not_succ_le_self _)
    rw [hnone]
    rfl

theorem allocateSlot_start (hi : Inv r) (h : AtOutset quiet r sk s) :
    Prompt Unheard (startContract quiet r.nextSession sk) (fun res s =>
      match res with
      | .error ret => ret ≠ 0 ∧ AtOutset quiet r sk s
      | .ok id => AtSlot quiet r sk id s) allocateSlot s := by
  unfold allocateSlot
  apply Prompt.bind
  apply Prompt.block {}
  intro s' hr _ _
  have h' := h.outset hr
  unfold reuseSlot
  split
  · refine ⟨.of_sessions (fun _ _ => rfl) rfl, ?_, h'⟩
    split
    · decide
    · assumption
  · split
    case h_1 id rest hfree =>
      refine ⟨.of_sessions (fun _ _ => rfl) rfl, ?_⟩
      have hid : r.freeSlots = id :: rest := h'.books.freeSlots.symm.trans hfree
      have hvacant : (r.slot id).session = none :=
        (hi.slots.free id (by rw [hid]; exact List.mem_cons_self ..)).2.1
      exact
        { books :=
            { toBooks := ⟨h'.books.active, h'.books.count, h'.books.allocated, h'.books.next,
                h'.books.host⟩
              free := .inl ⟨hid.symm, h'.books.slotCount⟩
              others := fun j _ => congrFun h'.books.slot j
              vacant := hvacant
              session := (congrArg Slot.session (congrFun h'.books.slot id)).trans hvacant
              generation := congrArg Slot.generation (congrFun h'.books.slot id) }
          spared := h'.spared.frame rfl rfl rfl
          hooks := h'.hooks }
    case h_2 hfree =>
      refine ⟨.of_sessions (fun _ _ => rfl) rfl, ?_⟩
      apply Prompt.await {} (fun _ => rfl)
      intro t ht _ reply
      have h'' := h'.outset ht
      have hempty : t.freeSlots = [] := by
        rw [congrArg Registry.freeSlots ht.registry]
        exact hfree
      unfold createSlot
      split
      · rename_i hneg
        exact ⟨.of_sessions (fun _ _ => rfl) rfl, Int.ne_of_lt hneg, h''⟩
      · split
        · refine ⟨.of_sessions (fun _ _ => rfl) rfl, ?_⟩
          obtain ⟨hvacant, hgen⟩ := hi.newSlot
          have hid : t.slotCount + 1 = r.slotCount + 1 := by rw [h''.books.slotCount]
          simp only [hid]
          exact
            { books :=
                { toBooks := ⟨h''.books.active, h''.books.count, h''.books.allocated,
                    h''.books.next, h''.books.host⟩
                  free := .inr ⟨h''.books.freeSlots.symm.trans hempty, hempty, rfl, rfl⟩
                  others := fun j hj =>
                    (update_of_ne hj _ _).trans (congrFun h''.books.slot j)
                  vacant := hvacant
                  session := by simp only [update_self]
                  generation := by simp only [update_self, hgen] }
              spared := h''.spared.frame rfl rfl rfl
              hooks := h''.hooks }
        · exact ⟨.of_sessions (fun _ _ => rfl) rfl, by decide, h''⟩

/-! ## The session enters and leaves -/

theorem StartGuar.trans {a b d : State} (h : StartGuar x sk a b) (h' : StartGuar x sk b d) :
    StartGuar x sk a d where
  toTouches := h.toTouches.trans h'.toTouches
  sock := by
    obtain ⟨u, k, hb⟩ := h.sock
    obtain ⟨u', k', hd⟩ := h'.sock
    exact ⟨u', k', by rw [hd, hb]⟩

theorem Taken.back {t t' : Registry} (h : Taken r id t) (hfree : t'.freeSlots = id :: t.freeSlots)
    (hcount : t'.slotCount = t.slotCount) :
    t'.freeSlots = r.freeSlots ∧ t'.slotCount = r.slotCount ∨
      r.freeSlots = [] ∧ t'.freeSlots = [r.slotCount + 1] ∧ t'.slotCount = r.slotCount + 1 := by
  rcases h.free with ⟨hfirst, hsame⟩ | ⟨hnone, hrest, hid, hmore⟩
  · exact .inl ⟨hfree.trans hfirst, hcount.trans hsame⟩
  · exact .inr ⟨hnone, by rw [hfree, hrest, hid], hcount.trans hmore⟩

theorem Slotted.restored {t t' : Registry} (h : Slotted r id t)
    (hfree : t'.freeSlots = id :: t.freeSlots) (hcount : t'.slotCount = t.slotCount)
    (hslot : t'.slot = t.slot) (hbooks : Books r t') : Restored r t' where
  active := hbooks.active
  count := hbooks.count
  allocated := hbooks.allocated
  free := h.toTaken.back hfree hcount
  sessions j := by
    rw [hslot]
    by_cases hj : j = id
    · rw [hj, h.session, h.vacant]
    · rw [h.others j hj]
  generations j := by
    rw [hslot]
    by_cases hj : j = id
    · exact .inl (by rw [hj, h.generation])
    · exact .inl (by rw [h.others j hj])
  host := .inl ⟨hbooks.next, hbooks.host⟩

theorem allocateSession_start (h : AtSlot quiet r sk id s) (reply : Reply) :
    StartGuar r.nextSession sk s (allocateSession sk id s reply).2 ∧
      match (allocateSession sk id s reply).1 with
      | none => StartPost quiet r sk (.value (-ENOMEM)) (allocateSession sk id s reply).2
      | some x => x = r.nextSession ∧
        AtSession quiet r sk id 0 0 0 0 (allocateSession sk id s reply).2 := by
  have hbooks := h.books.toBooks
  unfold allocateSession
  split
  · refine ⟨.of_sessions (fun _ _ => rfl) rfl, by decide, ?_⟩
    exact ⟨h.books.restored rfl rfl rfl
      ⟨hbooks.active, hbooks.count, hbooks.allocated, hbooks.next, hbooks.host⟩,
      h.spared.frame rfl rfl rfl, h.hooks⟩
  · have hnext : s.nextSession = r.nextSession := hbooks.next
    simp only [hnext]
    refine ⟨.of_sessions (fun y hy => by simp [sessionView, hy]) rfl, trivial, ?_⟩
    refine ⟨⟨?_, ?_⟩, ⟨h.spared.releases, h.spared.shutdowns, fun hun y hy => ?_⟩,
      fun hq => .inl ⟨update_self .., h.hooks hq⟩⟩
    · exact
        { free := h.books.free
          others := fun j hj => (update_of_ne hj _ _).trans (h.books.others j hj)
          vacant := h.books.vacant
          slot := (update_self ..).trans (by rw [h.books.generation])
          active := by rw [hbooks.active]
          count := by rw [hbooks.count]
          allocated := by rw [hbooks.allocated]
          next := rfl
          slotOf := update_self ..
          publicSock := update_self ..
          connecting := update_self .. }
    · exact
        { use := congrFun hbooks.host r.nextSession
          opened := Nat.zero_le 1
          added := Nat.le_refl 0
          fd := by simp
          registered := by simp }
    · by_cases hyn : y = r.nextSession
      · rw [hyn]
        exact update_self ..
      · have hsame : s.publicSock y = some sk := by simpa [hyn] using hy
        simpa [hyn] using h.spared.connecting hun y hsame

theorem restorePublicCallbacks_start (h : AtSession quiet r sk id opens adds dels closes s) :
    StartGuar r.nextSession sk s (restorePublicCallbacks r.nextSession s) ∧
      At quiet r sk (fun t => Entered r sk id t ∧
        Descriptor (r.host r.nextSession) r.nextSession opens adds dels closes t) (SameHooks r sk)
        (restorePublicCallbacks r.nextSession s) := by
  obtain ⟨⟨he, hd⟩, hspared, hhooks⟩ := h
  have hpub : s.publicSock r.nextSession = some sk := he.publicSock
  unfold restorePublicCallbacks
  rw [hpub]
  simp only
  split
  case isFalse hins =>
    refine ⟨.of_sessions (fun _ _ => rfl) rfl, ⟨he, hd⟩, hspared, fun hq => ?_⟩
    rcases hhooks hq with ⟨-, hsame⟩ | ⟨hins', -⟩
    · exact hsame
    · exact absurd hins' hins
  case isTrue hins =>
    have hsock : ∃ u k, (if (s.sock sk).userData = .session r.nextSession then
        { s.sock sk with userData := .null, hooks := s.savedHooks r.nextSession }
        else s.sock sk) = { s.sock sk with userData := u, hooks := k } := by
      split
      · exact ⟨_, _, rfl⟩
      · exact ⟨_, _, rfl⟩
    refine ⟨⟨⟨fun y hy => by simp [sessionView, hy], rfl, rfl, rfl, rfl,
      fun k hk => update_of_ne hk _ _⟩, ?_⟩, ⟨?_, ?_⟩, ⟨fun hq => ?_, fun hq hun => ?_,
      hspared.connecting⟩, fun hq => ?_⟩
    · simpa using hsock
    · exact { he with }
    · exact ⟨hd.use, hd.opened, hd.added, hd.fd, hd.registered⟩
    · obtain ⟨u, k, hu⟩ := hsock
      simp only [update_self, hu]
      exact hspared.releases hq
    · obtain ⟨u, k, hu⟩ := hsock
      simp only [update_self, hu]
      exact hspared.shutdowns hq hun
    · rcases hhooks hq with ⟨hins', -⟩ | ⟨-, hnull, hsaved, hdata⟩
      · rw [hins] at hins'
        cases hins'
      · unfold SameHooks
        simp only [update_self, hdata, if_true]
        exact ⟨hnull.symm, hsaved⟩

abbrev AtClosing (quiet : Prop) (r : State) (sk : SockId) (id : SlotId)
    (opens adds dels closes : ℕ) : State → Prop :=
  At quiet r sk (fun t => Entered r sk id t ∧
    Descriptor (r.host r.nextSession) r.nextSession opens adds dels closes t) (SameHooks r sk)

theorem disableEvents_start (h : AtClosing quiet r sk id opens adds 0 0 s) (reply : Reply) :
    StartGuar r.nextSession sk s (disableEvents r.nextSession s reply).2 ∧
      AtClosing quiet r sk id opens adds adds 0 (disableEvents r.nextSession s reply).2 := by
  obtain ⟨⟨he, hd⟩, hspared, hhooks⟩ := h
  have hle := Nat.le_trans hd.added hd.opened
  unfold disableEvents
  refine ⟨.of_sessions (fun y hy => ?_) rfl, ⟨?_, ?_⟩, hspared.frame rfl rfl rfl, hhooks⟩
  · by_cases hreg : s.registered r.nextSession = true <;> simp [sessionView, hy, hreg]
  · exact { he with }
  · refine ⟨?_, hd.opened, hd.added, hd.fd, by simp⟩
    have huse : s.host r.nextSession = _ := hd.use
    cases hreg : s.registered r.nextSession with
    | true =>
      have hone : adds = 1 := Nat.le_antisymm hle (hd.registered.mp hreg)
      simp only [if_true, update_self, huse, hone]
    | false =>
      have hzero : adds = 0 := by
        have hnot : ¬ 0 < adds := fun hpos => by
          have hyes : s.registered r.nextSession = true := hd.registered.mpr hpos
          rw [hreg] at hyes
          cases hyes
        omega
      simp only [Bool.false_eq_true, if_false, huse, hzero]

theorem closeHost_start (h : AtClosing quiet r sk id opens adds adds 0 s) (reply : Reply) :
    StartGuar r.nextSession sk s (closeHost r.nextSession s reply).2 ∧
      AtClosing quiet r sk id opens adds adds opens (closeHost r.nextSession s reply).2 := by
  obtain ⟨⟨he, hd⟩, hspared, hhooks⟩ := h
  have hopened := hd.opened
  unfold closeHost
  split
  case isTrue hfd =>
    have hone : opens = 1 := Nat.le_antisymm hopened (hd.fd.mp hfd)
    refine ⟨.of_sessions (fun y hy => by simp [sessionView, hy]) rfl, ⟨?_, ?_⟩,
      hspared.frame rfl rfl rfl, hhooks⟩
    · exact { he with }
    · have huse : s.host r.nextSession = _ := hd.use
      refine ⟨?_, hd.opened, hd.added, by simp, hd.registered⟩
      simp only [update_self, huse, hone]
  case isFalse hfd =>
    have hzero : opens = 0 := by
      have hnot : ¬ 0 < opens := fun hpos => hfd (hd.fd.mpr hpos)
      omega
    subst hzero
    exact ⟨.of_sessions (fun _ _ => rfl) rfl, ⟨he, hd⟩, hspared, hhooks⟩

theorem filter_erase_ne (l : List SessionId) (x : SessionId) :
    (l.erase x).filter (· ≠ x) = l.filter (· ≠ x) := by
  induction l with
  | nil => rfl
  | cons a l ih =>
    by_cases ha : a = x
    · simp [ha]
    · simpa [ha] using ih

theorem Touches.unqueueSession {mine : SockId → Prop} :
    Touches x mine s (unqueueSession x s) where
  sessions y hy := by simp [sessionView, State.unqueueSession, hy]
  order := by
    unfold State.unqueueSession
    simp only
    split
    · exact filter_erase_ne s.ready x
    · rfl
  bufferBytes := rfl
  bufferHighWater := rfl
  bufferWaiters := rfl
  socks _ _ := rfl

theorem Entered.restored (h : Entered r sk id s.toRegistry) (hi : Inv r)
    (hd : Descriptor (r.host r.nextSession) r.nextSession opens adds adds opens s.toRegistry) :
    Restored r (releaseFailedStart r.nextSession s).toRegistry := by
  have hfresh : r.allocated r.nextSession = false := by
    cases ha : r.allocated r.nextSession with
    | false => rfl
    | true => exact absurd (hi.active.fresh _ ha) (Nat.lt_irrefl _)
  have hactive : r.nextSession ∉ r.active := fun hmem => by
    rw [hi.active.listed.mem, hfresh] at hmem
    cases hmem
  have hslotOf : s.slotOf r.nextSession = id := h.slotOf
  have hslot : s.slot id = ⟨some r.nextSession, nextGeneration (r.slot id).generation⟩ := h.slot
  have hslots : (releaseFailedStart r.nextSession s).slot =
      update s.slot id ⟨none, nextGeneration (r.slot id).generation⟩ := by
    simp [releaseFailedStart, retire, State.unqueueSession, hslotOf, hslot]
  have hfree : (releaseFailedStart r.nextSession s).freeSlots = id :: s.freeSlots := by
    rw [← hslotOf]
    rfl
  refine
    { active := ?_
      count := ?_
      allocated := ?_
      free := h.toTaken.back hfree rfl
      sessions := fun j => ?_
      generations := fun j => ?_
      host := .inr ⟨h.next, ?_, ?_, opens, adds, hd.opened, hd.added, hd.use⟩ }
  · show s.active.erase r.nextSession = r.active
    rw [show s.active = _ from h.active, List.erase_append_right _ hactive]
    simp
  · show s.activeSessions - 1 = r.activeSessions
    rw [show s.activeSessions = _ from h.count]
    rfl
  · show update s.allocated r.nextSession false = r.allocated
    rw [show s.allocated = _ from h.allocated, update_idem, ← hfresh, update_eq_self]
  · rw [hslots]
    by_cases hj : j = id
    · rw [hj, update_self, h.vacant]
    · rw [update_of_ne hj, show s.slot j = _ from h.others j hj]
  · rw [hslots, hfree]
    by_cases hj : j = id
    · exact .inr ⟨by rw [hj]; rfl, by rw [hj, update_self]⟩
    · exact .inl (by rw [update_of_ne hj, show s.slot j = _ from h.others j hj])
  · have hnot : ¬ 0 ≤ s.hostFd r.nextSession := fun hle => Nat.lt_irrefl _ (hd.fd.mp hle)
    exact Int.not_le.mp hnot
  · cases hreg : s.registered r.nextSession with
    | false => exact hreg
    | true => exact absurd (hd.registered.mp hreg) (Nat.lt_irrefl _)

theorem releaseFailedStart_start (hi : Inv r)
    (h : AtClosing quiet r sk id opens adds adds opens s) :
    StartGuar r.nextSession sk s (releaseFailedStart r.nextSession s) ∧
      At quiet r sk (Restored r) (SameHooks r sk) (releaseFailedStart r.nextSession s) := by
  obtain ⟨⟨he, hd⟩, hspared, hhooks⟩ := h
  refine ⟨⟨Touches.unqueueSession.trans (.of_sessions (fun y hy => ?_) rfl),
    _, _, rfl⟩, he.restored hi hd,
      ⟨hspared.releases, hspared.shutdowns, fun hun y hy => ?_⟩, hhooks⟩
  · simp [sessionView, releaseFailedStart, retire, hy]
  · have hy' : update s.publicSock r.nextSession none y = some sk := hy
    by_cases hyn : y = r.nextSession
    · rw [hyn, update_self] at hy'
      cases hy'
    · rw [update_of_ne hyn] at hy'
      exact (update_of_ne hyn _ _).trans (hspared.connecting hun y hy')

/-! ## The whole start -/

theorem failStart_start (hi : Inv r) (h : AtSession quiet r sk id opens adds 0 0 s) {ret : ℤ}
    (hret : ret ≠ 0) :
    Prompt Unheard (startContract quiet r.nextSession sk) (StartPost quiet r sk)
      (failStart r.nextSession ret) s := by
  unfold failStart
  apply Prompt.bind
  apply Prompt.await {} (fun _ => rfl)
  intro s₁ hr₁ hu reply
  obtain ⟨hguar, hrestored⟩ := restorePublicCallbacks_start (h.session hr₁)
  obtain ⟨hguar', hdisabled⟩ := disableEvents_start hrestored reply
  refine ⟨hguar.trans hguar', ?_⟩
  -- no event of a connecting session is under way, so nothing is awaited
  have hidle : (restorePublicCallbacks r.nextSession s₁).eventRefs r.nextSession = 0 := by
    rw [restorePublicCallbacks_eventRefs]
    exact hu _ (h.session hr₁).books.1.connecting
  have hbusy : (disableEvents r.nextSession (restorePublicCallbacks r.nextSession s₁) reply).1.2 =
      false := by simp [disableEvents, hidle]
  generalize disableEvents r.nextSession (restorePublicCallbacks r.nextSession s₁) reply = answer
    at hdisabled hbusy ⊢
  obtain ⟨⟨status, busy⟩, s₂⟩ := answer
  have hfree : busy = false := hbusy
  subst hfree
  apply Prompt.bind
  show Prompt Unheard (startContract quiet r.nextSession sk) (StartPost quiet r sk)
    (Prog.await (fun _ reply => reply.status) (closeHost r.nextSession) >>= fun _ =>
      Prog.block fun s _ => (.value ret, releaseFailedStart r.nextSession s)) s₂
  apply Prompt.bind
  apply Prompt.await {} (fun _ => rfl)
  intro s₃ hr₃ _ reply'
  obtain ⟨hguar, hclosed⟩ := closeHost_start (hdisabled.outset hr₃) reply'
  refine ⟨hguar, ?_⟩
  apply Prompt.block {}
  intro s₄ hr₄ _ _
  obtain ⟨hguar, hlast⟩ := releaseFailedStart_start hi (hclosed.outset hr₄)
  exact ⟨hguar, hret, hlast⟩

theorem reply_start (h : AtSession quiet r sk id opens adds dels closes s)
    (f : State → Reply → ℤ) :
    Prompt Unheard (startContract quiet r.nextSession sk)
      (fun _ => AtSession quiet r sk id opens adds dels closes)
      (Prog.await (fun _ reply => reply.status) fun s reply => (f s reply, s)) s := by
  apply Prompt.await {} (fun _ => rfl)
  intro s' hr _ _
  exact ⟨.of_sessions (fun _ _ => rfl) rfl, h.session hr⟩

theorem awaitConnect_start (h : AtSession quiet r sk id opens adds dels closes s) :
    Prompt Unheard (startContract quiet r.nextSession sk)
      (fun _ => AtSession quiet r sk id opens adds dels closes)
      (awaitConnect r.nextSession) s := by
  apply Prompt.await ⟨1, []⟩ (fun _ => by simp)
  intro s' hr _ _
  have h' := h.session hr
  split
  · exact ⟨.of_sessions (fun y hy => by simp [sessionView, hy]) rfl,
      h'.books, h'.spared.frame rfl rfl rfl, h'.hooks⟩
  · exact ⟨.of_sessions (fun _ _ => rfl) rfl, h'⟩

theorem connect_start (h : AtSession quiet r sk id 1 0 0 0 s) :
    Prompt Unheard (startContract quiet r.nextSession sk)
      (fun _ s => ∃ adds, AtSession quiet r sk id 1 adds 0 0 s) (connect r.nextSession) s := by
  unfold connect
  apply Prompt.bind
  apply Prompt.await {} (fun _ => rfl)
  intro s' hr _ reply
  have h' := h.session hr
  by_cases hret : reply.ret = 0
  case neg =>
    rw [if_neg hret]
    refine ⟨.of_sessions (fun _ _ => rfl) rfl, ?_⟩
    simp only [ne_eq, hret, not_false_eq_true, if_true]
    exact ⟨0, h'⟩
  case pos =>
    rw [if_pos hret]
    refine ⟨.of_sessions (fun y hy => by simp [sessionView, hy]) rfl, ?_⟩
    have hadded : AtSession quiet r sk id 1 1 0 0 { s' with
        registered := update s'.registered r.nextSession true
        host := update s'.host r.nextSession { s'.host r.nextSession with
          adds := (s'.host r.nextSession).adds + 1 } } := by
      obtain ⟨⟨he, hd⟩, hspared, hhooks⟩ := h'
      have huse : s'.host r.nextSession = _ := hd.use
      refine ⟨⟨{ he with }, ?_⟩, hspared.frame rfl rfl rfl, hhooks⟩
      refine ⟨?_, Nat.le_refl 1, Nat.le_refl 1, hd.fd, by simp⟩
      simp only [update_self, huse]
    simp only [ne_eq, hret, not_true_eq_false, if_false]
    refine (reply_start hadded _).seq fun ret t ht => ?_
    split
    · exact ⟨1, ht⟩
    · refine (awaitConnect_start ht).seq fun answer t ht => ?_
      cases answer with
      | timeout => exact ⟨1, ht⟩
      | ready => exact (reply_start ht _).mono fun _ _ hlast => ⟨1, hlast⟩

theorem installPublicCallbacks_start (h : AtSession quiet r sk id opens adds dels closes s) :
    StartGuar r.nextSession sk s (installPublicCallbacks r.nextSession sk s).2 ∧
      AtSession quiet r sk id opens adds dels closes
        (installPublicCallbacks r.nextSession sk s).2 := by
  obtain ⟨⟨he, hd⟩, hspared, hhooks⟩ := h
  unfold installPublicCallbacks
  split
  case isTrue => exact ⟨.of_sessions (fun _ _ => rfl) rfl, ⟨he, hd⟩, hspared, hhooks⟩
  case isFalse hdata =>
    rw [ne_eq, not_not] at hdata
    refine ⟨⟨⟨fun y hy => by simp [sessionView, hy], rfl, rfl, rfl, rfl,
      fun k hk => update_of_ne hk _ _⟩, ?_⟩, ⟨{ he with }, { hd with }⟩,
      ⟨fun hq => ?_, fun hq hun => ?_, hspared.connecting⟩, fun hq => ?_⟩
    · exact ⟨_, _, update_self ..⟩
    · simp only [update_self]
      exact hspared.releases hq
    · simp only [update_self]
      exact hspared.shutdowns hq hun
    · rcases hhooks hq with ⟨-, hsame, hhooks'⟩ | ⟨-, -, -, hother⟩
      · right
        simp only [update_self]
        exact ⟨trivial, hsame.symm.trans hdata, hhooks', trivial⟩
      · rw [hdata] at hother
        cases hother

theorem openSession_start (hi : Inv r) (h : AtSession quiet r sk id 0 0 0 0 s) :
    Prompt Unheard (startContract quiet r.nextSession sk) (StartPost quiet r sk)
      (openSession sk r.nextSession) s := by
  unfold openSession
  apply Prompt.bind
  apply Prompt.block {}
  intro s' hr _ reply
  have h' := h.session hr
  obtain ⟨⟨he, hd⟩, hspared, hhooks⟩ := h'
  have huse : s'.host r.nextSession = _ := hd.use
  by_cases hfd : reply.ret < 0
  case pos =>
    simp only [hfd, if_true]
    refine ⟨.of_sessions (fun y hy => by simp [sessionView, hy]) rfl, ?_⟩
    have hclosed : AtSession quiet r sk id 0 0 0 0 { s' with
        hostFd := update s'.hostFd r.nextSession reply.ret } := by
      refine ⟨⟨{ he with }, huse, Nat.zero_le 1, Nat.le_refl 0, ?_, hd.registered⟩,
        hspared.frame rfl rfl rfl, hhooks⟩
      simpa using hfd
    exact failStart_start hi hclosed (Int.ne_of_lt hfd)
  case neg =>
    simp only [hfd, if_false]
    refine ⟨.of_sessions (fun y hy => by simp [sessionView, hy]) rfl, ?_⟩
    have hopen : AtSession quiet r sk id 1 0 0 0 { s' with
        hostFd := update s'.hostFd r.nextSession reply.ret
        host := update s'.host r.nextSession { s'.host r.nextSession with
          opens := (s'.host r.nextSession).opens + 1 } } := by
      refine ⟨⟨{ he with }, ?_, Nat.le_refl 1, Nat.zero_le 1, ?_, hd.registered⟩,
        hspared.frame rfl rfl rfl, hhooks⟩
      · simp only [update_self, huse]
      · simp only [update_self]
        exact ⟨fun _ => Nat.one_pos, fun _ => Int.not_lt.mp hfd⟩
    refine (reply_start hopen _).seq fun ret t ht => ?_
    split
    case isTrue hret => exact failStart_start hi ht hret
    case isFalse =>
      refine (connect_start ht).seq fun ret t hconnected => ?_
      obtain ⟨adds, ht⟩ := hconnected
      split
      case isTrue hret => exact failStart_start hi ht hret
      case isFalse =>
        apply Prompt.bind
        apply Prompt.block {}
        intro t' hr' _ _
        obtain ⟨hguar, hinstalled⟩ := installPublicCallbacks_start (ht.session hr')
        refine ⟨hguar, ?_⟩
        split
        case isTrue hret => exact failStart_start hi hinstalled hret
        case isFalse =>
          refine (reply_start hinstalled _).seq fun ret t ht => ?_
          split
          case isTrue hret => exact failStart_start hi ht hret
          case isFalse =>
            apply Prompt.block {}
            intro t' _ _ _
            have hflags : Touches r.nextSession (· = sk) t' { t' with
                connecting := update t'.connecting r.nextSession false
                readable := update t'.readable r.nextSession fun _ => true
                writable := update t'.writable r.nextSession fun _ => true
                running := update t'.running r.nextSession true } :=
              .of_sessions (fun y hy => by simp [sessionView, hy]) rfl
            exact ⟨⟨hflags.trans Touches.queueSession, _, _, rfl⟩, trivial⟩

theorem start_start (hi : Inv r) :
    Prompt Unheard (startContract quiet r.nextSession sk) (StartPost quiet r sk)
      (start sk) r := by
  have houtset : AtOutset quiet r sk r :=
    ⟨⟨⟨rfl, rfl, rfl, rfl, rfl⟩, rfl, rfl, rfl⟩,
      ⟨fun _ => rfl, fun _ _ => rfl, fun hun y hy => absurd hy (hun y)⟩, fun _ => ⟨rfl, rfl⟩⟩
  unfold start
  refine (startDispatcher_start houtset).seq fun ret t ht => ?_
  split
  case isTrue hret => exact ht.post hret
  case isFalse =>
    refine (allocateSlot_start hi ht).seq fun slot t ht => ?_
    cases slot with
    | error ret => exact ht.2.post ht.1
    | ok id =>
      apply Prompt.bind
      apply Prompt.await {} (fun _ => rfl)
      intro t' hr _ reply
      obtain ⟨hguar, hpost⟩ := allocateSession_start (ht.outset hr) reply
      refine ⟨hguar, ?_⟩
      cases hx : (allocateSession sk id t' reply).1 with
      | none =>
        rw [hx] at hpost
        exact hpost
      | some x =>
        rw [hx] at hpost
        obtain ⟨rfl, hsession⟩ := hpost
        exact openSession_start hi hsession

end Stages

/-! ## Starts in runs of the bridge -/

theorem StartPost.stable {a : Outcome} (h : StartPost quiet r sk a s)
    (hr : StartRely quiet sk s s') : StartPost quiet r sk a s' := by
  cases a with
  | value ret => exact ⟨h.1, h.2.outset hr⟩
  | started y handle => trivial
  | reaped y ret result cleanup => trivial

def SockUndisturbed (sk : SockId) (c : Config) (l : Transition) : Prop :=
  ∀ v, l = .env (.sock sk v) → ∃ state, v = { c.state.sock sk with state := state }

theorem environment_sock {e : Event} (h : environment s e = some s') (sk : SockId) :
    s'.sock sk = s.sock sk ∨ ∃ v, e = .sock sk v ∧ s'.sock sk = v := by
  cases e with
  | callback w k =>
    cases h
    left
    unfold publicCallback
    split
    · split
      · unfold markPublicReady
        split <;> rfl
      · rfl
    · rfl
  | hostEvent e =>
    simp only [environment, runtimeIrq, Option.ite_none_right_eq_some, Option.some.injEq] at h
    obtain ⟨-, rfl⟩ := h
    exact .inl rfl
  | sock k v =>
    simp only [environment, Option.ite_none_right_eq_some, Option.some.injEq] at h
    obtain ⟨-, rfl⟩ := h
    by_cases hk : sk = k
    · subst hk
      exact .inr ⟨v, rfl, update_self ..⟩
    · exact .inl (update_of_ne hk _ _)

theorem step_startRely (h : Reachable c) {l : Transition} (hl : ∀ i, l ≠ .right i)
    (hok : quiet → SockUndisturbed sk c l) (hs : bridge.step c l = some c') :
    StartRely quiet sk c.state c'.state := by
  have hreg := step_registry h hl hs
  rcases step_other h hl hs with ⟨e, rfl, he⟩ | hguar
  · have hsock : quiet → ∃ state, c'.state.sock sk = { c.state.sock sk with state := state } := by
      intro hq
      rcases environment_sock he sk with hsame | ⟨v, rfl, hv⟩
      · exact ⟨(c.state.sock sk).state, hsame⟩
      · obtain ⟨state, rfl⟩ := hok hq v rfl
        exact ⟨state, hv⟩
    constructor
    case registry => exact hreg
    all_goals
      intro hq
      obtain ⟨state, hstate⟩ := hsock hq
      simp [hstate]
  · obtain ⟨n, hn⟩ := hguar.socks sk
    refine ⟨hreg, ?_, ?_, ?_, fun _ hsk => by rw [hguar.spared sk hsk]⟩
    all_goals simp [hn]

/-- `tcpcc_bridge_start` never waits for the other parties, and if it fails it has undone what
it did. -/
theorem reachable_failed_start (h : Reachable c) (hcalls : ∀ l ∈ ls, l.callsRight = false)
    (hrun : bridge.run c (.resumeRight (.start sk) :: ls) = some c') :
    (∃ ls' c'' a, (∀ l ∈ ls', ∃ i, l = Label.right i) ∧ bridge.run c' ls' = some c'' ∧
      c''.right = .ret a) ∧
    (∀ m ∈ bridge.rightMoves { c with right := start sk } ls,
      StartGuar c.state.nextSession sk m.1 m.2) ∧
    ∀ ret, c'.right = .ret (.value ret) → ret ≠ 0 ∧ Restored c.state c'.state.toRegistry ∧
      c.state.nextSession ∉ c'.state.ready ∧
      (bridge.Along (SockUndisturbed sk) { c with right := start sk } ls →
        SameHooks c.state sk c'.state ∧
        (c'.state.sock sk).releases = (c.state.sock sk).releases ∧
        (Unowned sk c.state → (c'.state.sock sk).shutdowns = (c.state.sock sk).shutdowns)) := by
  obtain ⟨⟨a, ha⟩, hrun'⟩ := call_split hrun
  have hcall := reachable_call h ha (.start sk)
  have hunheard : ∀ d, Reachable d → Unheard d.state := fun d hd => reachable_unheard hd
  obtain ⟨hlast, hmoves⟩ := System.follow_right (S := bridge) (I := Unheard)
    (C := startContract (bridge.Along (SockUndisturbed sk) { c with right := start sk } ls)
      c.state.nextSession sk)
    (Q := StartPost (bridge.Along (SockUndisturbed sk) { c with right := start sk } ls) c.state sk)
    (P := Reachable) (c := { c with right := start sk })
    (fun _ _ _ hd hs => reachable_step hd hs) hunheard
    (fun d l d' hd hok _ hr hs => step_startRely hd hr hok hs)
    (fun _ _ _ hpost hr => hpost.stable hr) hcalls (System.Along.guarded bridge id) hcall
    (start_start (reachable_inv h)) hrun'
  have hc' := hcall.run (S := bridge) hrun'
  refine ⟨System.returns_right (S := bridge) (P := Reachable)
    (fun _ _ _ hd hs => reachable_step hd hs) hunheard hc' hlast, hmoves, fun ret hret => ?_⟩
  rw [hret] at hlast
  obtain ⟨hne, hrestored, hspared, hhooks⟩ := hlast
  refine ⟨hne, hrestored, fun hmem => ?_, fun hq => ⟨hhooks hq, hspared.releases hq,
    hspared.shutdowns hq⟩⟩
  have hi' := reachable_inv hc'
  have halive := hi'.ready.live _ ((hi'.ready.listed.mem _).mp hmem)
  rw [show c'.state.allocated = _ from hrestored.allocated] at halive
  exact Nat.lt_irrefl _ ((reachable_inv h).active.fresh _ halive)

def refusedRun : List Transition :=
  [0, 0, 0, 0, 0, 3, 0, 0, - EIO, 0, 0, 0].map controlStep

theorem failed_start_refused :
    Restored boot.state (configAfter (.resumeRight (.start 7) :: refusedRun)).state.toRegistry :=
  ((reachable_failed_start (reachable_configAfter []) (by decide)
    (run_configAfter (by decide +kernel))).2.2 (- EIO)
    (right_of_returned (by decide +kernel))).2.1

end Tcpcc.Bridge
