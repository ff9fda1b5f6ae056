import Tcpcc.Bridge.DispatcherSafe

/-!
# Steps of the registry

Slots, allocation, callbacks, the start of traffic and retirement: what the control-side
operations do to the registry keeps the invariant and leaves running sessions alone.
-/

namespace Tcpcc.Bridge
open Resumption State FlaggedList
open Function (update update_eq_self update_of_ne update_self)

variable {s s' : State} {x : SessionId}

theorem DispatcherRely.of_eq (hpump : s'.pumping = s.pumping)
    (hdisp : s'.dispatching = s.dispatching) (hbytes : s'.bufferBytes = s.bufferBytes)
    (hconn : ∀ y, s.dispatching = some y → s.connecting y = false → s'.connecting y = false)
    (hx : ∀ y, s.running y = true → s'.running y = true ∧ s'.flow y = s.flow y ∧
      s'.stopping y = s.stopping y ∧ s'.readyQueued y = s.readyQueued y ∧
      s'.readable y = s.readable y ∧ s'.writable y = s.writable y) : DispatcherRely s s' where
  pumping := hpump
  dispatching := hdisp
  bufferBytes := hbytes
  kept y hy := by
    obtain ⟨hr, hf, hs, hq, hread, hwrite⟩ := hx y hy
    exact ⟨hr, hf, hs ▸ id, hq ▸ id, fun side => by rw [hread]; exact id, .inr ⟨hread, hwrite⟩⟩
  connected := hconn

structure DispatcherView where
  pumping : Option SessionId
  dispatching : Option SessionId
  bufferBytes : ℤ
  connecting : SessionId → Bool
  running : SessionId → Bool
  flow : SessionId → Dir → Flow
  stopping : SessionId → Bool
  readyQueued : SessionId → Bool
  readable : SessionId → Side → Bool
  writable : SessionId → Side → Bool
  status : SessionId → ℤ

def dispatcherView (s : State) : DispatcherView where
  pumping := s.pumping
  dispatching := s.dispatching
  bufferBytes := s.bufferBytes
  connecting := s.connecting
  running := s.running
  flow := s.flow
  stopping := s.stopping
  readyQueued := s.readyQueued
  readable := s.readable
  writable := s.writable
  status := s.status

theorem DispatcherRely.of_view (h : dispatcherView s' = dispatcherView s) : DispatcherRely s s' :=
  .of_eq (congrArg DispatcherView.pumping h) (congrArg DispatcherView.dispatching h)
    (congrArg DispatcherView.bufferBytes h)
    (fun y _ hy => (congrFun (congrArg DispatcherView.connecting h) y).trans hy) fun y hy =>
      ⟨(congrFun (congrArg DispatcherView.running h) y).trans hy,
        congrFun (congrArg DispatcherView.flow h) y,
        congrFun (congrArg DispatcherView.stopping h) y,
        congrFun (congrArg DispatcherView.readyQueued h) y,
        congrFun (congrArg DispatcherView.readable h) y,
        congrFun (congrArg DispatcherView.writable h) y⟩

/-! ## Who is where -/

structure TenureView where
  allocated : SessionId → Bool
  connecting : SessionId → Bool
  publicSock : SessionId → Option SockId
  handle : SessionId → ℤ
  nextSession : SessionId
  finishedNotified : SessionId → Bool
  completions : ℕ
  completionNotify : Option ℕ
  terminalEvents : SessionId → ℕ

def tenureView (s : State) : TenureView where
  allocated := s.allocated
  connecting := s.connecting
  publicSock := s.publicSock
  handle := s.handle
  nextSession := s.nextSession
  finishedNotified := s.finishedNotified
  completions := s.completions
  completionNotify := s.completionNotify
  terminalEvents := s.terminalEvents

/-- A socket keeps its releases, and a listener its callback; a socket that no session
owns stays as it is. -/
structure SockKept (owned : Prop) (a b : Sock) : Prop where
  releases : b.releases = a.releases
  listener : ∀ l, a.userData = .listener l → b.userData = .listener l ∧ b.hooks = a.hooks
  foreign : ∀ l, b.userData = .listener l → a.userData = .listener l
  bystander : ¬ owned → b = a

theorem SockKept.refl (owned : Prop) (a : Sock) : SockKept owned a a :=
  ⟨rfl, fun _ h => ⟨h, rfl⟩, fun _ => id, fun _ => rfl⟩

namespace Unmoved

theorem of_parts (h : DispatcherRely s s') (hview : tenureView s' = tenureView s)
    (hstop : ∀ y, s.stopping y = true → s'.stopping y = true)
    (hfail : ∀ y, s.status y ≠ 0 → s'.status y ≠ 0)
    (hsock : ∀ k, SockKept (∃ y, s.publicSock y = some k) (s.sock k) (s'.sock k)) :
    Unmoved s s' where
  toDispatcherRely := h
  next := congrArg TenureView.nextSession hview
  residents y :=
    { allocated := congrFun (congrArg TenureView.allocated hview) y
      publicSock := congrFun (congrArg TenureView.publicSock hview) y
      handle := congrFun (congrArg TenureView.handle hview) y
      connecting := fun hy => by
        rw [show s'.connecting y = s.connecting y from
          congrFun (congrArg TenureView.connecting hview) y] at hy
        exact hy
      stopping := hstop y
      finished := congrFun (congrArg TenureView.finishedNotified hview) y }
  releases k := (hsock k).releases
  listener k := (hsock k).listener
  foreign k := (hsock k).foreign
  bystander k hk := (hsock k).bystander fun ⟨y, hy⟩ => hk y hy
  completions := congrArg TenureView.completions hview
  notifier := congrArg TenureView.completionNotify hview
  events y := congrFun (congrArg TenureView.terminalEvents hview) y
  failed := hfail

theorem of_rely (h : DispatcherRely s s') (hview : tenureView s' = tenureView s)
    (hstop : s'.stopping = s.stopping) (hstatus : s'.status = s.status)
    (hsock : s'.sock = s.sock) : Unmoved s s' :=
  of_parts h hview (fun y hy => (congrFun hstop y).trans hy) (fun y hy => by rwa [hstatus])
    fun k => by
      rw [hsock]
      exact SockKept.refl _ _

theorem of_view (h : dispatcherView s' = dispatcherView s) (hview : tenureView s' = tenureView s)
    (hsock : s'.sock = s.sock) : Unmoved s s' :=
  of_rely (.of_view h) hview (congrArg DispatcherView.stopping h)
    (congrArg DispatcherView.status h) hsock

theorem refl (s : State) : Unmoved s s := of_view rfl rfl rfl

end Unmoved

theorem ControlGuar.of_view {live : SessionId → Bool} {op : Op}
    (h : dispatcherView s' = dispatcherView s) (hview : tenureView s' = tenureView s)
    (hsock : s'.sock = s.sock) : ControlGuar live op s s' :=
  (Unmoved.of_view h hview hsock).guar

/-! ## Who is there after a block of an operation -/

namespace Tenure
variable {live : SessionId → Bool} {op : Op}

theorem survivor (h : Tenure live op s s') (hx : s'.allocated x = true) :
    (s.allocated x = true ∧ Resident x s s') ∨
      ∃ sk, op = .start sk ∧ s.allocated = live ∧ x = s.nextSession ∧
        s'.publicSock x = some sk := by
  have hold : Resident x s s' → s.allocated x = true ∧ Resident x s s' :=
    fun hres => ⟨hres.allocated.symm.trans hx, hres⟩
  cases h with
  | keep _ hres _ => exact .inl (hold (hres x))
  | enter sk hop hlive _ hres _ hpub _ =>
    by_cases hnew : x = s.nextSession
    · subst hnew
      exact .inr ⟨sk, hop, hlive, rfl, hpub⟩
    · exact .inl (hold (hres x hnew))
  | drop y sk _ _ _ _ hres hgone _ =>
    exact .inl (hold (hres x fun he => by simp [he, hgone] at hx))
  | reap y sk _ _ _ _ _ hres hgone _ =>
    exact .inl (hold (hres x fun he => by simp [he, hgone] at hx))

theorem bystander {sk : SockId} (h : Tenure live (.start sk) s s')
    (hfresh : s.allocated s.nextSession = false) (hlive : live x = true)
    (hx : s.allocated x = true) : Resident x s s' := by
  cases h with
  | keep _ hres _ => exact hres x
  | enter _ _ _ _ hres _ _ _ => exact hres x fun he => by simp [he, hfresh] at hx
  | drop y _ _ _ hback _ hres hgone _ =>
    refine hres x fun he => ?_
    rw [hback, ← he, hlive] at hgone
    cases hgone
  | reap _ _ hop => exact absurd rfl (hop sk)

theorem next_le (h : Tenure live op s s') : s.nextSession ≤ s'.nextSession := by
  cases h with
  | keep hnext => exact Nat.le_of_eq hnext.symm
  | enter _ _ _ hnext => exact Nat.le_of_lt (by rw [hnext]; exact Nat.lt_succ_self _)
  | drop _ _ _ _ _ hnext => exact Nat.le_of_eq hnext.symm
  | reap _ _ _ _ _ _ hnext => exact Nat.le_of_eq hnext.symm

theorem releases (h : Tenure live op s s') :
    (∀ k, (s'.sock k).releases = (s.sock k).releases) ∨
      ∃ x sk, (∀ k, op ≠ .start k) ∧ s.allocated x = true ∧ s.publicSock x = some sk ∧
        s'.allocated x = false ∧ (∀ y, y ≠ x → Resident y s s') ∧
        ∀ k, (s'.sock k).releases =
          if k = sk then (s.sock k).releases + 1 else (s.sock k).releases := by
  cases h with
  | keep _ _ hsock => exact .inl hsock
  | enter _ _ _ _ _ _ _ hsock => exact .inl hsock
  | drop _ _ _ _ _ _ _ _ hsock => exact .inl hsock
  | reap x sk hop hx _ hpub _ hres hgone hsock =>
    exact .inr ⟨x, sk, hop, hx, hpub, hgone, hres, hsock⟩

end Tenure

/-! ## Slots -/

namespace SlotsOK
variable {slot : ℕ → Slot} {slotCount : ℕ} {freeSlots : List ℕ} {inHand : Option ℕ}
  {slotOf : ℕ → ℕ} {allocated : ℕ → Bool} {id : ℕ} {rest : List ℕ}

theorem takeFree (h : SlotsOK slot slotCount (id :: rest) none slotOf allocated) :
    SlotsOK slot slotCount rest (some id) slotOf allocated := by
  obtain ⟨hid, hrest⟩ := List.nodup_cons.mp h.nodup
  exact
    { h with
      nodup := hrest
      free := by
        intro i hi
        obtain ⟨hrange, hnone, -⟩ := h.free i (List.mem_cons_of_mem _ hi)
        refine ⟨hrange, hnone, fun he => hid ?_⟩
        rw [Option.some.injEq] at he
        exact he ▸ hi
      hand := by
        intro i hi
        rw [Option.some.injEq] at hi
        obtain ⟨hrange, hnone, -⟩ := h.free i (by simp [hi])
        exact ⟨hrange, hnone⟩
      cover := by
        intro i h1 hle
        rcases h.cover i h1 hle with hc | hc | hc
        · rcases List.mem_cons.mp hc with hc | hc
          · exact .inr (.inr (by rw [hc]))
          · exact .inl hc
        · exact .inr (.inl hc)
        · simp at hc }

theorem beyond (h : SlotsOK slot slotCount freeSlots inHand slotOf allocated)
    (hid : slotCount < id) : (slot id).session = none := by
  cases hs : (slot id).session with
  | none => rfl
  | some y =>
    obtain ⟨ha, hslot⟩ := h.owned id y hs
    have := (h.owner y ha).1.2
    omega

theorem newSlot (h : SlotsOK slot slotCount freeSlots none slotOf allocated) :
    SlotsOK (update slot (slotCount + 1) {}) (slotCount + 1) freeSlots
      (some (slotCount + 1)) slotOf allocated := by
  have hsession : ∀ i, (update slot (slotCount + 1) {} i).session =
      (slot i).session := by
    intro i
    by_cases hi : i = slotCount + 1
    · rw [hi, update_self, h.beyond (Nat.lt_succ_self slotCount)]
    · rw [update_of_ne hi]
  constructor
  · exact h.nodup
  · intro i hi
    obtain ⟨hrange, hnone, -⟩ := h.free i hi
    refine ⟨⟨hrange.1, by omega⟩, by rw [hsession]; exact hnone, fun he => ?_⟩
    rw [Option.some.injEq] at he
    omega
  · intro i hi
    rw [Option.some.injEq] at hi
    exact ⟨⟨by omega, by omega⟩, by rw [hsession]; exact h.beyond (by omega)⟩
  · intro i y hy
    rw [hsession] at hy
    exact h.owned i y hy
  · intro y hy
    obtain ⟨hrange, hslot⟩ := h.owner y hy
    exact ⟨⟨hrange.1, by omega⟩, by rw [hsession]; exact hslot⟩
  · intro i h1 hle
    by_cases hi : i = slotCount + 1
    · exact .inr (.inr (by rw [hi]))
    · rcases h.cover i h1 (by omega) with hc | hc | hc
      · exact .inl hc
      · exact .inr (.inl (by rw [hsession]; exact hc))
      · simp at hc

theorem putFree (h : SlotsOK slot slotCount freeSlots (some id) slotOf allocated) :
    SlotsOK slot slotCount (id :: freeSlots) none slotOf allocated := by
  obtain ⟨hrange, hnone⟩ := h.hand id rfl
  exact
    { h with
      nodup := List.nodup_cons.mpr ⟨fun hid => (h.free id hid).2.2 rfl, h.nodup⟩
      free := by
        intro i hi
        rcases List.mem_cons.mp hi with hi | hi
        · rw [hi]
          exact ⟨hrange, hnone, by simp⟩
        · obtain ⟨hr, hn, -⟩ := h.free i hi
          exact ⟨hr, hn, by simp⟩
      hand := by simp
      cover := by
        intro i h1 hle
        rcases h.cover i h1 hle with hc | hc | hc
        · exact .inl (List.mem_cons_of_mem _ hc)
        · exact .inr (.inl hc)
        · rw [Option.some.injEq] at hc
          exact .inl (by simp [hc]) }

theorem assign (h : SlotsOK slot slotCount freeSlots (some id) slotOf allocated) {x : ℕ}
    (hx : allocated x = false) (generation : ℕ) :
    SlotsOK (update slot id ⟨some x, generation⟩) slotCount freeSlots none
      (update slotOf x id) (update allocated x true) := by
  obtain ⟨hrange, hnone⟩ := h.hand id rfl
  have hne : ∀ y, allocated y = true → y ≠ x := fun y hy he => by simp [he, hx] at hy
  constructor
  · exact h.nodup
  · intro i hi
    obtain ⟨hr, hn, hhand⟩ := h.free i hi
    have hi' : i ≠ id := fun he => hhand (by rw [he])
    exact ⟨hr, by rw [update_of_ne hi']; exact hn, by simp⟩
  · simp
  · intro i y hy
    by_cases hi : i = id
    · rw [hi, update_self, Option.some.injEq] at hy
      simp [← hy, hi]
    · rw [update_of_ne hi] at hy
      obtain ⟨ha, hslot⟩ := h.owned i y hy
      rw [update_of_ne (hne y ha), update_of_ne (hne y ha)]
      exact ⟨ha, hslot⟩
  · intro y hy
    by_cases hxy : y = x
    · subst hxy
      simpa using hrange
    · rw [update_of_ne hxy] at hy ⊢
      obtain ⟨hr, hslot⟩ := h.owner y hy
      have hid : slotOf y ≠ id := fun he => by simp [he, hnone] at hslot
      exact ⟨hr, by rw [update_of_ne hid]; exact hslot⟩
  · intro i h1 hle
    by_cases hi : i = id
    · exact .inr (.inl (by simp [hi]))
    · rcases h.cover i h1 hle with hc | hc | hc
      · exact .inl hc
      · exact .inr (.inl (by rw [update_of_ne hi]; exact hc))
      · rw [Option.some.injEq] at hc
        exact absurd hc.symm hi

theorem release (h : SlotsOK slot slotCount freeSlots none slotOf allocated) {x : ℕ}
    (hx : allocated x = true) :
    SlotsOK (update slot (slotOf x) { slot (slotOf x) with session := none }) slotCount
      (slotOf x :: freeSlots) none slotOf (update allocated x false) := by
  obtain ⟨hrange, hown⟩ := h.owner x hx
  have hne : ∀ y, allocated y = true → y ≠ x → slotOf y ≠ slotOf x := by
    intro y hy hyx he
    have hslot := (h.owner y hy).2
    rw [he, hown, Option.some.injEq] at hslot
    exact hyx hslot.symm
  constructor
  · refine List.nodup_cons.mpr ⟨fun hid => ?_, h.nodup⟩
    simp [(h.free _ hid).2.1] at hown
  · intro i hi
    rcases List.mem_cons.mp hi with hi | hi
    · rw [hi]
      exact ⟨hrange, by simp, by simp⟩
    · obtain ⟨hr, hn, -⟩ := h.free i hi
      have hi' : i ≠ slotOf x := fun he => by simp [he, hown] at hn
      exact ⟨hr, by rw [update_of_ne hi']; exact hn, by simp⟩
  · simp
  · intro i y hy
    by_cases hi : i = slotOf x
    · simp [hi] at hy
    · rw [update_of_ne hi] at hy
      obtain ⟨ha, hslot⟩ := h.owned i y hy
      have hyx : y ≠ x := fun he => hi (by rw [← hslot, he])
      exact ⟨by rw [update_of_ne hyx]; exact ha, hslot⟩
  · intro y hy
    have hyx : y ≠ x := fun he => by simp [he] at hy
    rw [update_of_ne hyx] at hy
    obtain ⟨hr, hslot⟩ := h.owner y hy
    exact ⟨hr, by rw [update_of_ne (hne y hy hyx)]; exact hslot⟩
  · intro i h1 hle
    by_cases hi : i = slotOf x
    · exact .inl (by simp [hi])
    · rcases h.cover i h1 hle with hc | hc | hc
      · exact .inl (List.mem_cons_of_mem _ hc)
      · exact .inr (.inl (by rw [update_of_ne hi]; exact hc))
      · simp at hc

end SlotsOK

/-! ## Names -/

theorem allocations_update (slotOf : ℕ → ℕ) (id : ℕ) {n m : ℕ} (h : m ≤ n) (i : ℕ) :
    allocations (update slotOf n id) m i = allocations slotOf m i := by
  unfold allocations
  congr 1
  refine Finset.filter_congr fun y hy => ?_
  rw [update_of_ne (Nat.ne_of_lt (Nat.lt_of_lt_of_le (Finset.mem_range.mp hy) h))]

theorem allocations_succ (slotOf : ℕ → ℕ) (n i : ℕ) :
    allocations slotOf (n + 1) i = allocations slotOf n i + if slotOf n = i then 1 else 0 := by
  unfold allocations
  rw [Finset.range_add_one, Finset.filter_insert]
  split
  · rw [Finset.card_insert_of_notMem (by simp)]
  · rfl

theorem nextGeneration_generationOf (n : ℕ) :
    nextGeneration (generationOf n) = generationOf (n + 1) := by
  have hnext : ∀ g, nextGeneration g = if (g + 1) % 2 ^ 11 = 0 then 1 else (g + 1) % 2 ^ 11 := by
    intro g
    unfold nextGeneration
    rw [show handleGenerationMask = 2 ^ 11 - 1 from rfl, Nat.and_two_pow_sub_one_eq_mod]
  cases n with
  | zero => rfl
  | succ k =>
    rw [show generationOf (k + 1) = k % 2047 + 1 from rfl,
      show generationOf (k + 1 + 1) = (k + 1) % 2047 + 1 from rfl, hnext]
    split <;> omega

namespace NamesOK
variable {slot : ℕ → Slot} {slotCount : ℕ} {slotOf : ℕ → ℕ} {generation : ℕ → ℕ} {handle : ℕ → ℤ}
  {token : ℕ → ℕ} {allocated : ℕ → Bool} {n id : ℕ}

theorem newSlot (h : NamesOK slot slotCount slotOf generation handle token allocated n) :
    NamesOK (update slot (slotCount + 1) {}) (slotCount + 1) slotOf generation handle token
      allocated n :=
  { h with
    slots := by
      intro i
      by_cases hi : i = slotCount + 1
      · have hzero : allocations slotOf n i = 0 := by
          refine Finset.card_eq_zero.mpr (Finset.filter_eq_empty_iff.mpr fun y hy he => ?_)
          exact Nat.not_succ_le_self _ (hi ▸ he ▸ (h.range y (Finset.mem_range.mp hy)).2)
        rw [hzero, hi, update_self]
        rfl
      · rw [update_of_ne hi]
        exact h.slots i
    range := fun x hx => ⟨(h.range x hx).1, Nat.le_succ_of_le (h.range x hx).2⟩ }

theorem assign (h : NamesOK slot slotCount slotOf generation handle token allocated n)
    (hid : 1 ≤ id ∧ id ≤ slotCount) (hfree : ∀ x, allocated x = true → slotOf x ≠ id) :
    let g := nextGeneration (slot id).generation
    NamesOK (update slot id ⟨some n, g⟩) slotCount (update slotOf n id)
      (update generation n g) (update handle n (makeHandle (id - 1) g))
      (update token n (runtimeToken (runtimeSlotBase + id - 1) g))
      (update allocated n true) (n + 1) := by
  have hgen : nextGeneration (slot id).generation = generationOf (allocations slotOf n id + 1) := by
    rw [h.slots id, nextGeneration_generationOf]
  constructor
  · intro i
    rw [allocations_succ, allocations_update _ _ (Nat.le_refl n), update_self]
    by_cases hi : i = id
    · simp [hi, hgen]
    · simpa [hi, Ne.symm hi] using h.slots i
  · intro x hx
    by_cases hxn : x = n
    · simpa [hxn] using hid
    · simpa [hxn] using h.range x (by omega)
  · intro x hx
    by_cases hxn : x = n
    · subst hxn
      rw [allocations_succ, allocations_update _ _ (Nat.le_refl x), update_self]
      simpa using hgen
    · have hlt : x < n := by omega
      rw [allocations_update _ _ hlt, update_of_ne hxn, update_of_ne hxn]
      exact h.generations x hlt
  · intro x hx
    by_cases hxn : x = n
    · simp [hxn]
    · simpa [hxn] using h.handles x (Nat.lt_of_le_of_ne (Nat.lt_succ_iff.mp hx) hxn)
  · intro x hx
    by_cases hxn : x = n
    · simp [hxn]
    · simpa [hxn] using h.tokens x (Nat.lt_of_le_of_ne (Nat.lt_succ_iff.mp hx) hxn)
  · intro x y hx hxy hy
    have hxn : x ≠ n := Nat.ne_of_lt (Nat.lt_of_lt_of_le hxy (Nat.lt_succ_iff.mp hy))
    rw [update_of_ne hxn] at hx ⊢
    by_cases hyn : y = n
    · rw [hyn, update_self]
      exact Ne.symm (hfree x hx)
    · rw [update_of_ne hyn]
      exact h.last x y hx hxy (Nat.lt_of_le_of_ne (Nat.lt_succ_iff.mp hy) hyn)

theorem release (h : NamesOK slot slotCount slotOf generation handle token allocated n) (x : ℕ) :
    NamesOK (update slot (slotOf x) { slot (slotOf x) with session := none }) slotCount
      slotOf generation handle token (update allocated x false) n :=
  { h with
    slots := by
      intro i
      by_cases hi : i = slotOf x
      · simpa [hi] using h.slots (slotOf x)
      · simpa [hi] using h.slots i
    last := by
      intro y z hy
      have hyx : y ≠ x := fun he => by simp [he] at hy
      exact h.last y z (by simpa [hyx] using hy) }

end NamesOK

/-! ## Allocation -/

theorem Inv.unseen (h : Inv s) : s.allocated s.nextSession = false ∧
    s.readyQueued s.nextSession = false ∧ s.bufferWaitQueued s.nextSession = false ∧
    s.running s.nextSession = false := by
  have ha : s.allocated s.nextSession = false := by
    cases ha : s.allocated s.nextSession with
    | false => rfl
    | true => exact absurd (h.active.fresh _ ha) (Nat.lt_irrefl _)
  refine ⟨ha, ?_, ?_, ?_⟩
  · cases hq : s.readyQueued s.nextSession with
    | false => rfl
    | true => exact absurd (ha.symm.trans (h.ready.live _ hq)) (by simp)
  · cases hq : s.bufferWaitQueued s.nextSession with
    | false => rfl
    | true => exact absurd (ha.symm.trans (h.waiters.live _ hq)) (by simp)
  · cases hr : s.running s.nextSession with
    | false => rfl
    | true => exact absurd (ha.symm.trans (h.phase.isRunning _ hr).1) (by simp)

section Allocate
variable {sk : SockId} {id : ℕ} {r : Reply}

theorem allocated_groups (sk : SockId) (h : Inv s) (hhand : s.slotInHand = some id)
    (hboot : s.initialized = true) (hr : ¬ r.ret < 0) :
    let t := (allocateSession sk id s r).2
    ActiveOK t.active t.activeSessions t.allocated t.nextSession t.initialized ∧
      SlotsOK t.slot t.slotCount t.freeSlots t.slotInHand t.slotOf t.allocated ∧
      RetiredOK t.retired t.freed t.allocated t.nextSession ∧
      BudgetOK t.bufferBytes t.flow t.nextSession := by
  obtain ⟨ha, -, -, -⟩ := h.unseen
  simp only [allocateSession, if_neg hr]
  refine ⟨⟨h.active.listed.append ha, ?_, ?_, by simp [hboot]⟩, ?_, ⟨h.retired.nodup, ?_⟩, ?_,
    h.budget.bound⟩
  · simp [h.active.count]
  · intro y hy
    by_cases hxy : y = s.nextSession
    · omega
    · have := h.active.fresh y (by simpa [hxy] using hy)
      omega
  · have hslots := h.slots
    rw [hhand] at hslots
    exact hslots.assign ha _
  · intro y hy
    obtain ⟨hgone, hlt⟩ := h.retired.gone y hy
    have hxy : y ≠ s.nextSession := by omega
    exact ⟨by simpa [hxy] using hgone, by omega⟩
  · have hsame : ∑ y ∈ Finset.range s.nextSession,
        held (update s.flow s.nextSession (fun _ => {}) y) =
        ∑ y ∈ Finset.range s.nextSession, held (s.flow y) := by
      refine Finset.sum_congr rfl fun y hy => ?_
      rw [update_of_ne (Nat.ne_of_lt (Finset.mem_range.mp hy))]
    rw [Finset.sum_range_succ, hsame, update_self]
    simpa [held] using h.budget.sum

theorem allocated_phase (sk : SockId) (id : ℕ) (h : Inv s) (hr : ¬ r.ret < 0) :
    let t := (allocateSession sk id s r).2
    PhaseOK t.allocated t.connecting t.running t.stopping t.finishedNotified t.finished t.status
        t.flow ∧
      StatusOK t.status t.finishStatus t.allocated t.stopping t.finishedNotified t.stops
        t.nextSession ∧
      FinishOK t.finishedNotified t.finishClosed t.status t.flow ∧
      FlowsOK t.flow t.finishedNotified := by
  simp only [allocateSession, if_neg hr]
  refine ⟨⟨?_, ?_, ?_, ?_⟩, ⟨?_, ?_, ?_, ?_⟩, ⟨?_⟩, ⟨?_, ?_⟩⟩
  · exact forall_of_ne s.nextSession h.phase.isRunning (fun y hxy => by simp [hxy]) (by simp)
  · exact forall_of_ne s.nextSession h.phase.isConnecting (fun y hxy => by simp [hxy]) (by simp)
  · exact forall_of_ne s.nextSession h.phase.live (fun y hxy => by simp [hxy]) (by simp)
  · exact forall_of_ne s.nextSession h.phase.isFinished (fun y hxy => by simp [hxy]) (by simp)
  · exact forall_of_ne s.nextSession h.status.nonpos (fun y hxy => by simp [hxy]) (by simp)
  · exact forall_of_ne s.nextSession h.status.stopped (fun y hxy => by simp [hxy]) (by simp)
  · intro q hq
    obtain ⟨hlt, hneg⟩ := h.status.told q hq
    have hxy : q.session ≠ s.nextSession := Nat.ne_of_lt hlt
    exact ⟨Nat.lt_succ_of_lt hlt, by simpa [hxy] using hneg⟩
  · exact forall_of_ne s.nextSession h.status.final (fun y hxy => by simp [hxy]) (by simp)
  · exact forall_of_ne s.nextSession h.finish.clean (fun y hxy => by simp [hxy]) (by simp)
  · exact forall_of_ne s.nextSession h.flows.ok
      (fun y hxy => by simp [hxy]) (fun _ => by simpa using FlowOK.default)
  · exact forall_of_ne s.nextSession h.flows.backed (fun y hxy => by simp [hxy]) (by simp)

theorem nextGeneration_bounds (generation : ℕ) :
    0 < nextGeneration generation ∧ nextGeneration generation ≤ handleGenerationMask := by
  unfold nextGeneration
  simp only
  split
  · decide
  · exact ⟨Nat.pos_of_ne_zero ‹_›, Nat.and_le_right⟩

theorem allocated_tenants (sk : SockId) (id : ℕ) (h : Inv s) (hr : ¬ r.ret < 0) :
    let t := (allocateSession sk id s r).2
    TenantsOK t.publicSock t.handle t.generation t.slotOf t.slotCount t.allocated := by
  simp only [allocateSession, if_neg hr]
  refine ⟨h.tenants.bound, ?_, ?_, ?_⟩
  · intro y hy
    by_cases hxy : y = s.nextSession
    · exact ⟨sk, by simp [hxy]⟩
    · simpa [hxy] using h.tenants.housed y (by simpa [hxy] using hy)
  · intro y hy
    have hxy : y ≠ s.nextSession := fun he => by simp [he] at hy
    simpa [hxy] using h.tenants.vacated y (by simpa [hxy] using hy)
  · exact forall_of_ne s.nextSession h.tenants.named
      (fun y hxy => by simp [hxy]) (by simpa using nextGeneration_bounds _)

theorem allocated_names (sk : SockId) (h : Inv s) (hhand : s.slotInHand = some id)
    (hr : ¬ r.ret < 0) :
    let t := (allocateSession sk id s r).2
    NamesOK t.slot t.slotCount t.slotOf t.generation t.handle t.token t.allocated
      t.nextSession := by
  obtain ⟨hrange, hnone⟩ := h.slots.hand id hhand
  simp only [allocateSession, if_neg hr]
  refine h.names.assign hrange fun y hy he => ?_
  have hslot := (h.slots.owner y hy).2
  rw [he, hnone] at hslot
  cases hslot

theorem allocated_once (sk : SockId) (id : ℕ) (h : Inv s) (hr : ¬ r.ret < 0) :
    let t := (allocateSession sk id s r).2
    OnceOK t.allocated t.finishedNotified t.armed t.finished t.reaping t.cancelWait t.reaps
      t.signals
      t.notices t.nextSession := by
  obtain ⟨hreaps, hunfinished⟩ := h.once.fresh s.nextSession (Nat.le_refl _)
  have hsame : update s.finishedNotified s.nextSession false = s.finishedNotified := by
    rw [← hunfinished, update_eq_self]
  simp only [allocateSession, if_neg hr, hsame]
  exact
    { h.once with
      credit := by
        intro y ha hf
        have hxy : y ≠ s.nextSession := fun he => by simp [he, hunfinished] at hf
        simpa [hxy] using h.once.credit y (by simpa [hxy] using ha) hf
      unreaped := by
        intro y hy
        by_cases hxy : y = s.nextSession
        · rw [hxy]
          exact hreaps
        · exact h.once.unreaped y (by simpa [hxy] using hy)
      fresh := fun y hy => h.once.fresh y (Nat.le_of_succ_le hy)
      waiting := by
        intro y hy
        obtain ⟨ha, hreaping⟩ := h.once.waiting y hy
        refine ⟨?_, hreaping⟩
        by_cases hxy : y = s.nextSession
        · simp [hxy]
        · simpa [hxy] using ha }

theorem Inv.allocateSession (h : Inv s) (hhand : s.slotInHand = some id)
    (hboot : s.initialized = true) (hr : ¬ r.ret < 0) : Inv (allocateSession sk id s r).2 := by
  obtain ⟨ha, hq, hw, hrun⟩ := h.unseen
  obtain ⟨hactive, hslots, hretired, hbudget⟩ := allocated_groups sk h hhand hboot hr
  obtain ⟨hphase, hstatus, hfinish, hflows⟩ := allocated_phase sk id h hr
  have htenants := allocated_tenants sk id h hr
  have hnames := allocated_names sk h hhand hr
  have honce := allocated_once sk id h hr
  have hqueued : update s.readyQueued s.nextSession false = s.readyQueued := by
    rw [← hq, update_eq_self]
  have hwaits : update s.bufferWaitQueued s.nextSession false = s.bufferWaitQueued := by
    rw [← hw, update_eq_self]
  have hrunning : update s.running s.nextSession false = s.running := by
    rw [← hrun, update_eq_self]
  have hlive : ∀ y, s.allocated y = true →
      update s.allocated s.nextSession true y = true := by
    intro y hy
    by_cases hxy : y = s.nextSession
    · simp [hxy]
    · simpa [hxy] using hy
  simp only [Bridge.allocateSession, if_neg hr] at hactive hslots hretired hbudget hphase
  simp only [Bridge.allocateSession, if_neg hr] at hstatus hfinish hflows htenants hnames honce ⊢
  exact
    { active := hactive
      slots := hslots
      tenants := htenants
      names := hnames
      once := honce
      retired := hretired
      budget := hbudget
      phase := hphase
      status := hstatus
      finish := hfinish
      flows := hflows
      queue := h.queue
      thread := h.thread
      exhausted := h.exhausted
      ready := by
        rw [hqueued]
        exact ⟨h.ready.listed, fun y hy => hlive y (h.ready.live y hy)⟩
      waiters := by
        rw [hwaits]
        refine ⟨h.waiters.listed, fun y hy => hlive y (h.waiters.live y hy), fun y e hy => ?_⟩
        by_cases hxy : y = s.nextSession
        · simp [hxy] at hy
        · exact h.waiters.waiting y e (by simpa [hxy] using hy)
      hooks := by
        refine ⟨fun k y hy => ?_⟩
        obtain ⟨hay, hpub, hins⟩ := h.hooks.live k y hy
        have hxy : y ≠ s.nextSession := fun he => by simp [he, ha] at hay
        simpa [hxy] using ⟨hay, hpub, hins⟩
      refs := by
        have hne : ∀ y, s.dispatching = some y → y ≠ s.nextSession := fun y hy he => by
          have := h.refs.live y hy
          simp [he, ha] at this
        constructor
        · intro y
          by_cases hxy : y = s.nextSession
          · have hnd : s.dispatching ≠ some y := fun he => hne y he hxy
            simp [hxy, hxy ▸ hnd]
          · simpa [hxy] using h.refs.refs y
        · intro y hy
          simpa [hne y hy] using h.refs.idle y hy
        · exact fun y hy => hlive y (h.refs.live y hy)
      settled := by
        rw [hrunning, hqueued]
        have hne : ∀ y, s.running y = true → y ≠ s.nextSession := fun y hy he => by
          simp [he, hrun] at hy
        constructor
        · intro y hy hs hqy hp e
          have hxy := hne y hy
          simp only [update_of_ne hxy] at hs ⊢
          exact h.settled.settled y hy hs hqy hp e
        · intro y hy hp e
          have hxy := hne y hy
          simp only [update_of_ne hxy]
          exact h.settled.rested y hy hp e
      holders := by
        rw [hrunning, hwaits]
        refine ⟨fun y e hy => ?_, h.holders.waiter⟩
        by_cases hxy : y = s.nextSession
        · simp [hxy] at hy
        · exact h.holders.buffer y e (by simpa [hxy] using hy) }

theorem DispatcherRely.allocateSession (h : Inv s) (hr : ¬ r.ret < 0) :
    DispatcherRely s (allocateSession sk id s r).2 := by
  obtain ⟨-, -, -, hrun⟩ := h.unseen
  simp only [Bridge.allocateSession, if_neg hr]
  refine .of_eq rfl rfl rfl (fun y hd hc => ?_) fun y hy => ?_
  · have hxy : y ≠ s.nextSession := Nat.ne_of_lt (h.active.fresh y (h.refs.live y hd))
    simpa [hxy] using hc
  · have hxy : y ≠ s.nextSession := fun he => by simp [he, hrun] at hy
    simpa [hxy] using hy

theorem ControlGuar.allocateSession (h : Inv s) (hr : ¬ r.ret < 0) :
    ControlGuar s.allocated (.start sk) s (allocateSession sk id s r).2 := by
  refine
    { toDispatcherRely := DispatcherRely.allocateSession h hr
      tenure := .enter sk rfl rfl ?_ ?_ ?_ ?_ ?_
      finish := ?_
      overlooked := ?_
      listener := ?_
      foreign := ?_
      bystander := ?_
      completions := ?_
      notifier := .inl ?_ }
  all_goals simp only [Bridge.allocateSession, if_neg hr]
  · intro y hy
    constructor <;> simp [hy]
  · simp
  · simp
  · exact fun _ => trivial
  · intro y hy
    simp [hy]
  · intro y hy
    by_cases hxy : y = s.nextSession
    · simp [Overlooked, hxy] at hy
    · exact .inl (by simpa [Overlooked, hxy] using hy)
  · exact fun _ _ hl => ⟨hl, trivial⟩
  · exact fun _ _ hl => hl
  · exact fun _ _ => trivial

end Allocate

/-! ## Callbacks, events and the start of traffic -/

theorem Inv.installPublicCallbacks (h : Inv s) {sk : SockId} (ha : s.allocated x = true)
    (hpub : s.publicSock x = some sk) : Inv (installPublicCallbacks x sk s).2 := by
  unfold State.installPublicCallbacks
  split
  · exact h
  · exact
      { h with
        hooks :=
          ⟨by
            intro k y hy
            by_cases hk : k = sk
            · have hxy : x = y := by simpa [hk] using hy
              subst hxy
              exact ⟨ha, by rw [hk]; exact hpub, by simp⟩
            · obtain ⟨hay, hpy, hiy⟩ := h.hooks.live k y (by simpa [hk] using hy)
              refine ⟨hay, hpy, ?_⟩
              by_cases hxy : y = x
              · simp [hxy]
              · simpa [hxy] using hiy⟩ }

theorem Unmoved.installPublicCallbacks {sk : SockId} (hpub : s.publicSock x = some sk) :
    Unmoved s (installPublicCallbacks x sk s).2 := by
  unfold State.installPublicCallbacks
  split
  case isTrue => exact refl s
  case isFalse hnull =>
    refine of_parts (.of_view rfl) rfl (fun _ => id) (fun _ => id) fun k => ?_
    by_cases hk : k = sk
    · subst hk
      refine ⟨by simp, fun l hl => ?_, by simp, fun hno => absurd ⟨x, hpub⟩ hno⟩
      rw [hl] at hnull
      exact absurd hnull (by simp)
    · simpa [hk] using SockKept.refl _ _

theorem restorePublicCallbacks_eq (x : SessionId) (s : State) : ∃ f i,
    restorePublicCallbacks x s = { s with sock := f, publicCallbacksInstalled := i } := by
  unfold restorePublicCallbacks
  cases s.publicSock x with
  | none => exact ⟨s.sock, s.publicCallbacksInstalled, rfl⟩
  | some sk =>
    cases hins : s.publicCallbacksInstalled x with
    | false => exact ⟨s.sock, s.publicCallbacksInstalled, by simp⟩
    | true => exact ⟨_, _, rfl⟩

theorem restorePublicCallbacks_spec (h : Inv s) :
    Inv (restorePublicCallbacks x s) ∧ Unmoved s (restorePublicCallbacks x s) ∧
      Detached x (restorePublicCallbacks x s) := by
  unfold State.restorePublicCallbacks
  cases hpub : s.publicSock x with
  | none =>
    refine ⟨h, Unmoved.refl s, fun k hk => ?_⟩
    have := (h.hooks.live k x hk).2.1
    simp [hpub] at this
  | some sk =>
    simp only
    split
    case isFalse hins =>
      exact ⟨h, Unmoved.refl s, fun k hk => hins (h.hooks.live k x hk).2.2⟩
    case isTrue hins =>
      have hother : ∀ k y, (update s.sock sk (if (s.sock sk).userData = .session x then
          { s.sock sk with userData := .null, hooks := s.savedHooks x } else s.sock sk)
            k).userData =
            .session y → (s.sock k).userData = .session y ∧ y ≠ x := by
        intro k y hy
        by_cases hk : k = sk
        · subst hk
          rw [update_self] at hy
          split at hy
          · cases hy
          · rename_i hne
            exact ⟨hy, fun he => hne (he ▸ hy)⟩
        · rw [update_of_ne hk] at hy
          refine ⟨hy, fun he => hk ?_⟩
          have := (h.hooks.live k x (he ▸ hy)).2.1
          rw [hpub, Option.some.injEq] at this
          exact this.symm
      have hkept : ∀ k, SockKept (∃ y, s.publicSock y = some k) (s.sock k) (update s.sock sk
          (if (s.sock sk).userData = .session x then
            { s.sock sk with userData := .null, hooks := s.savedHooks x } else s.sock sk) k) := by
        intro k
        by_cases hk : k = sk
        · subst hk
          rw [update_self]
          split
          · rename_i hsession
            refine ⟨rfl, fun l hl => ?_, by simp, fun hno => absurd ⟨x, hpub⟩ hno⟩
            rw [hsession] at hl
            cases hl
          · exact SockKept.refl _ _
        · rw [update_of_ne hk]
          exact SockKept.refl _ _
      refine ⟨?_, Unmoved.of_parts (.of_view rfl) rfl (fun _ => id) (fun _ => id) hkept,
        fun k hk => (hother k x hk).2 rfl⟩
      exact
        { h with
          hooks :=
            ⟨by
              intro k y hy
              obtain ⟨hold, hxy⟩ := hother k y hy
              obtain ⟨hay, hpy, hiy⟩ := h.hooks.live k y hold
              exact ⟨hay, hpy, by simpa [hxy] using hiy⟩⟩ }

theorem Unmoved.unqueueSession (hx : s.running x = false) : Unmoved s (unqueueSession x s) := by
  have hrely : DispatcherRely s (State.unqueueSession x s) :=
    .of_eq rfl rfl rfl (fun _ _ => id) fun y hy => by
      have hxy : y ≠ x := ne_of_running hx hy
      simpa [State.unqueueSession, hxy] using hy
  exact of_rely hrely rfl rfl rfl rfl

theorem Inv.startRunning (h : Inv s) (hc : s.connecting x = true) : Inv (startRunning x s) := by
  obtain ⟨ha, hs, hf, hst, hflow⟩ := h.phase.isConnecting x hc
  have hqueued : (State.queueSession x s).readyQueued x = true := by
    simp [queueSession_readyQueued, ha]
  have hq := h.queueSession x
  exact
    { hq with
      phase :=
        { isRunning := forall_of_ne x h.phase.isRunning
            (fun y hxy => by simp [Bridge.startRunning, State.queueSession, hxy])
            (by simpa [Bridge.startRunning, State.queueSession] using ⟨ha, hf⟩)
          isConnecting := forall_of_ne x h.phase.isConnecting
            (fun y hxy => by simp [Bridge.startRunning, State.queueSession, hxy])
            (by simp [Bridge.startRunning, State.queueSession])
          live := forall_of_ne x h.phase.live
            (fun y hxy => by simp [Bridge.startRunning, State.queueSession, hxy])
            (by simp [Bridge.startRunning, State.queueSession])
          isFinished := h.phase.isFinished }
      settled :=
        { settled := by
            intro y hr hsy hqy hp
            have hxy : y ≠ x := fun he => by
              rw [he] at hqy
              exact absurd (hqueued.symm.trans hqy) (by simp)
            simpa [Bridge.startRunning, State.queueSession, hxy] using hq.settled.settled y
              (by simpa [Bridge.startRunning, State.queueSession, hxy] using hr) hsy hqy hp
          rested := forall_of_ne x h.settled.rested
            (fun y hxy => by simp [Bridge.startRunning, State.queueSession, Rested, hxy])
            (by simp [Bridge.startRunning, State.queueSession, Rested, hflow]) }
      holders :=
        { buffer := forall_of_ne x h.holders.buffer
            (fun y hxy => by simp [Bridge.startRunning, State.queueSession, hxy])
            (by simp [Bridge.startRunning, State.queueSession])
          waiter := forall_of_ne x h.holders.waiter
            (fun y hxy => by simp [Bridge.startRunning, State.queueSession, hxy])
            (by simp [Bridge.startRunning, State.queueSession]) } }

theorem DispatcherRely.queueSession (x : SessionId) : DispatcherRely s (queueSession x s) where
  pumping := rfl
  dispatching := rfl
  bufferBytes := rfl
  kept y hy := by
    refine ⟨hy, rfl, id, fun hq => ?_, fun _ => id, .inr ⟨rfl, rfl⟩⟩
    simp [queueSession_readyQueued, hq]
  connected _ _ := id

theorem DispatcherRely.startRunning (hx : s.running x = false) :
    DispatcherRely s (startRunning x s) := by
  have hset : DispatcherRely s { s with
      connecting := update s.connecting x false
      readable := update s.readable x fun _ => true
      writable := update s.writable x fun _ => true
      running := update s.running x true } := by
    refine .of_eq rfl rfl rfl (fun y _ hc => ?_) fun y hy => ?_
    · by_cases hxy : y = x
      · simp [hxy]
      · simpa [hxy] using hc
    · have hxy : y ≠ x := ne_of_running hx hy
      simpa [hxy] using hy
  exact hset.trans (queueSession x)

theorem Unmoved.startRunning (hx : s.running x = false) : Unmoved s (startRunning x s) where
  toDispatcherRely := DispatcherRely.startRunning hx
  next := rfl
  residents y :=
    { allocated := rfl
      publicSock := rfl
      handle := rfl
      connecting := fun hy => by
        by_cases hxy : y = x
        · simp [Bridge.startRunning, State.queueSession, hxy] at hy
        · simpa [Bridge.startRunning, State.queueSession, hxy] using hy
      stopping := id
      finished := rfl }
  releases _ := rfl
  listener _ _ hl := ⟨hl, rfl⟩
  foreign _ _ := id
  bystander _ _ := rfl
  completions := rfl
  notifier := rfl
  events _ := rfl
  failed _ := id

theorem Unmoved.sockShutdown {sk : SockId} (hpub : s.publicSock x = some sk) :
    Unmoved s (sockShutdown sk s) := by
  refine of_parts (.of_view rfl) rfl (fun _ => id) (fun _ => id) fun k => ?_
  by_cases hk : k = sk
  · subst hk
    exact ⟨by simp [State.sockShutdown, State.setSock],
      fun l hl => by simpa [State.sockShutdown, State.setSock] using hl,
      fun l hl => by simpa [State.sockShutdown, State.setSock] using hl,
      fun hno => absurd ⟨x, hpub⟩ hno⟩
  · simpa [State.sockShutdown, State.setSock, hk] using SockKept.refl _ _

/-! ## Retirement -/

structure Retirable (x : SessionId) (s : State) : Prop where
  allocated : s.allocated x = true
  stopped : s.running x = false
  undelivered : s.dispatching ≠ some x
  detached : Detached x s
  unqueued : s.readyQueued x = false
  hand : s.slotInHand = none
  unwaited : s.cancelWait = none

theorem Inv.retire (h : Inv s) (hx : Retirable x s) : Inv (retire x s) := by
  have hwait : s.bufferWaitQueued x = false := by
    cases hw : s.bufferWaitQueued x with
    | false => rfl
    | true => exact absurd (hx.stopped.symm.trans (h.holders.waiter x hw)) (by simp)
  have hslots := h.slots
  rw [hx.hand] at hslots
  have hslot : (Bridge.retire x s).slot =
      update s.slot (s.slotOf x) { s.slot (s.slotOf x) with session := none } := by
    simp [Bridge.retire, (h.slots.owner x hx.allocated).2]
  have hlive : ∀ y, y ≠ x → s.allocated y = true → (Bridge.retire x s).allocated y = true := by
    intro y hxy hy
    simpa [Bridge.retire, hxy] using hy
  have hmem : x ∈ s.active := (h.active.listed.mem x).mpr hx.allocated
  have hrunning : update s.running x false = s.running := by
    rw [← hx.stopped, update_eq_self]
  exact
    { h with
      ready := ⟨h.ready.listed, fun y hy => hlive y (fun he => by
        rw [he] at hy
        exact absurd (hx.unqueued.symm.trans hy) (by simp)) (h.ready.live y hy)⟩
      waiters := ⟨h.waiters.listed, fun y hy => hlive y (fun he => by
        rw [he] at hy
        exact absurd (hwait.symm.trans hy) (by simp)) (h.waiters.live y hy), h.waiters.waiting⟩
      active :=
        { listed := h.active.listed.erase x
          count := by
            show (s.active.erase x).length = s.activeSessions - 1
            rw [List.length_erase_of_mem hmem, h.active.count]
          fresh := forall_of_ne x h.active.fresh
            (fun y hxy => by simp [Bridge.retire, hxy]) (by simp [Bridge.retire])
          dormant := by
            intro hboot
            simp [Bridge.retire, h.active.dormant hboot] }
      slots := by
        rw [hslot]
        simpa [Bridge.retire, hx.hand] using hslots.release hx.allocated
      tenants :=
        { bound := h.tenants.bound
          housed := forall_of_ne x h.tenants.housed
            (fun y hxy => by simp [Bridge.retire, hxy]) (by simp [Bridge.retire])
          vacated := forall_of_ne x h.tenants.vacated
            (fun y hxy => by simp [Bridge.retire, hxy]) (by simp [Bridge.retire])
          named := forall_of_ne x h.tenants.named
            (fun y hxy => by simp [Bridge.retire, hxy]) (by simp [Bridge.retire]) }
      names := by
        rw [hslot]
        exact h.names.release x
      once :=
        { h.once with
          credit := forall_of_ne x h.once.credit
            (fun y hxy => by simp [Bridge.retire, hxy]) (by simp [Bridge.retire])
          unreaped := forall_of_ne x h.once.unreaped
            (fun y hxy => by simp [Bridge.retire, hxy]) (by simp [Bridge.retire])
          waiting := by
            intro y hy
            rw [show (Bridge.retire x s).cancelWait = none from hx.unwaited] at hy
            cases hy }
      retired :=
        { nodup := by
            have hnot : x ∉ s.freed ++ s.retired := fun hm => by
              have := (h.retired.gone x hm).1
              simp [hx.allocated] at this
            show (s.freed ++ (s.retired ++ [x])).Nodup
            rw [← List.append_assoc, List.nodup_append]
            refine ⟨h.retired.nodup, List.nodup_singleton x, ?_⟩
            intro a ha b hb hab
            rw [List.mem_singleton] at hb
            exact hnot (hb ▸ hab ▸ ha)
          gone := by
            intro y hy
            have hy' : y ∈ s.freed ++ s.retired ∨ y = x := by
              simpa [Bridge.retire, or_assoc] using hy
            by_cases hxy : y = x
            · exact ⟨by simp [Bridge.retire, hxy], hxy ▸ h.active.fresh x hx.allocated⟩
            · obtain ⟨hgone, hlt⟩ := h.retired.gone y (hy'.resolve_right hxy)
              exact ⟨by simpa [Bridge.retire, hxy] using hgone, hlt⟩ }
      hooks := ⟨fun k y hy => by
        have hxy : y ≠ x := fun he => hx.detached k (he ▸ hy)
        simpa [Bridge.retire, hxy] using h.hooks.live k y hy⟩
      refs :=
        { h.refs with
          live := by
            intro y hy
            have hxy : y ≠ x := fun he => hx.undelivered (he ▸ hy)
            exact hlive y hxy (h.refs.live y hy) }
      phase :=
        { isRunning := forall_of_ne x h.phase.isRunning
            (fun y hxy => by simp [Bridge.retire, hxy]) (by simp [Bridge.retire])
          isConnecting := forall_of_ne x h.phase.isConnecting
            (fun y hxy => by simp [Bridge.retire, hxy]) (by simp [Bridge.retire])
          live := forall_of_ne x h.phase.live
            (fun y hxy => by simp [Bridge.retire, hxy]) (by simp [Bridge.retire])
          isFinished := h.phase.isFinished }
      status :=
        { h.status with
          stopped := forall_of_ne x h.status.stopped
            (fun y hxy => by simp [Bridge.retire, hxy]) (by simp [Bridge.retire]) }
      settled := by
        show SettledOK (update s.running x false) s.stopping s.readyQueued s.pumping s.flow
          s.writable s.readable
        rw [hrunning]
        exact h.settled
      holders := by
        show HoldersOK (update s.running x false) s.bufferWaitQueued s.flow
        rw [hrunning]
        exact h.holders }

theorem DispatcherRely.retire (hx : s.running x = false) : DispatcherRely s (retire x s) := by
  refine .of_eq rfl rfl rfl (fun y _ hc => ?_) fun y hy => ?_
  · by_cases hxy : y = x
    · simp [Bridge.retire, hxy]
    · simpa [Bridge.retire, hxy] using hc
  · have hxy : y ≠ x := ne_of_running hx hy
    simpa [Bridge.retire, hxy] using hy

theorem Overlooked.retire {y : SessionId} (h : Overlooked y (retire x s)) :
    Overlooked y s ∨ s.connecting y = true := by
  cases hc : s.connecting y with
  | true => exact .inr rfl
  | false =>
    obtain ⟨-, hseen, hrest⟩ := h
    refine .inl ⟨hc, hseen.imp_left fun ha => ?_, hrest⟩
    by_cases hxy : y = x
    · simp [Bridge.retire, hxy] at ha
    · simpa [Bridge.retire, hxy] using ha

theorem ControlGuar.releaseFailedStart {live : SessionId → Bool} {sk : SockId}
    (hx : s.running x = false) (hpub : s.publicSock x = some sk)
    (hback : (releaseFailedStart x s).allocated = live) :
    ControlGuar live (.start sk) s (releaseFailedStart x s) := by
  have hun := Unmoved.unqueueSession hx
  have hrely : DispatcherRely s (Bridge.releaseFailedStart x s) :=
    (hun.toDispatcherRely.trans (DispatcherRely.retire hx)).trans
      (.of_eq rfl rfl rfl (fun _ _ => id) fun y hy => by
        have hy' : update s.running x false y = true := hy
        have hxy : y ≠ x := fun he => by simp [he] at hy'
        exact ⟨hy, rfl, update_of_ne hxy _ _, rfl, rfl, rfl⟩)
  refine
    { toDispatcherRely := hrely
      tenure := .drop x sk rfl hpub hback rfl (fun y hxy => ?_) ?_ fun _ => rfl
      finish := fun _ _ => rfl
      overlooked := fun y hy => ?_
      listener := fun _ _ hl => ⟨hl, rfl⟩
      foreign := fun _ _ => id
      bystander := fun _ _ => rfl
      completions := rfl
      notifier := .inl rfl }
  · constructor <;>
      simp [Bridge.releaseFailedStart, Bridge.retire, State.unqueueSession, hxy]
  · simp [Bridge.releaseFailedStart, Bridge.retire]
  · exact Overlooked.retire hy

theorem ControlGuar.reap {live : SessionId → Bool} {op : Op} {sk : SockId} (n : SessionId → ℕ)
    (hop : ∀ k, op ≠ .start k) (ha : s.allocated x = true) (hx : s.running x = false)
    (hfin : s.finishedNotified x = true) (hpub : s.publicSock x = some sk) :
    ControlGuar live op s { retire x (sockRelease sk s) with reaping := none, reaps := n } := by
  have hrely : DispatcherRely s
      { Bridge.retire x (State.sockRelease sk s) with reaping := none, reaps := n } :=
    ((DispatcherRely.of_sock _).trans (DispatcherRely.retire hx)).trans (.of_view rfl)
  refine
    { toDispatcherRely := hrely
      tenure := .reap x sk hop ha hfin hpub rfl (fun y hxy => ?_) ?_ fun k => ?_
      finish := fun _ _ => rfl
      overlooked := fun y hy => Overlooked.retire hy
      listener := fun k l hl => ?_
      foreign := fun k l hl => ?_
      bystander := fun k hk => ?_
      completions := rfl
      notifier := .inl rfl }
  · constructor <;> simp [Bridge.retire, State.sockRelease, State.setSock, hxy]
  · simp [Bridge.retire]
  · by_cases hk : k = sk
    · subst hk
      simp [Bridge.retire, State.sockRelease, State.setSock]
    · simp [Bridge.retire, State.sockRelease, State.setSock, hk]
  · by_cases hk : k = sk
    · subst hk
      simpa [Bridge.retire, State.sockRelease, State.setSock] using hl
    · simpa [Bridge.retire, State.sockRelease, State.setSock, hk] using hl
  · by_cases hk : k = sk
    · subst hk
      simpa [Bridge.retire, State.sockRelease, State.setSock] using hl
    · simpa [Bridge.retire, State.sockRelease, State.setSock, hk] using hl
  · have hne : k ≠ sk := fun he => hk x (he ▸ hpub)
    simp [Bridge.retire, State.sockRelease, State.setSock, hne]

end Tcpcc.Bridge
