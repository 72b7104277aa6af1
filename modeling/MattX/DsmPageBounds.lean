import MattX.DsmPageIndex

set_option autoImplicit false

/-!
# Which segments the page arrays have room for

Work on a page stays on it: whatever a step touches and sends on has the offset
it was given. So only what brings an offset in matters, and that is a fault
inside a mapping or an area of the segment.
-/
namespace MattX.DsmPageIndex
open GuestRegistry DsmDirectory DsmTranslation GuardedRuns

/-! ### A page is never left -/

/-- The outcome is about the page of `w` and nothing else. -/
structure Outcome.StaysOn (o : Outcome) (w : Work) : Prop where
  accesses : ∀ a ∈ o.accesses, a.index = w.offset / pageSize
  works : ∀ v ∈ o.works, v.offset = w.offset

theorem staysOn_idle (s : State) (w : Work) : (Outcome.mk s [] []).StaysOn w :=
  ⟨by simp, by simp⟩

theorem ownerReads_index {dir : GlobalDir} {d : Slot} {p : PageIdx} {offset : ℕ} {a : Access}
    (h : a ∈ ownerReads dir d p offset) : a.index = offset / pageSize := by
  simp only [ownerReads, List.mem_cons] at h
  rcases h with rfl | h
  · rfl
  · split_ifs at h
    · rw [List.mem_singleton.mp h]
    · cases h

theorem ownerWrites_index {offset : ℕ} {a : Access} (h : a ∈ ownerWrites offset) :
    a.index = offset / pageSize := by
  simp only [ownerWrites, List.mem_cons, List.not_mem_nil, or_false] at h
  rcases h with rfl | rfl | rfl <;> rfl

theorem invalidates_offset {w v : Work} {acquirer : ℕ} {mask : NodeMask} {c : Chance}
    (h : v ∈ invalidates w acquirer mask c) : v.offset = w.offset := by
  obtain ⟨n, -, rfl⟩ := List.mem_map.mp h
  rfl

theorem place_staysOn (s : State) (w : Work) (tgid base : ℕ) (isWrite : Bool) (c : Chance) :
    (mattxDsmFaultPlace s w tgid base isWrite c).StaysOn w := by
  simp only [mattxDsmFaultPlace]
  split
  · split
    · exact staysOn_idle s w
    · exact ⟨by simp, by simp⟩
    · refine ⟨fun a member => ?_, fun v member => ?_⟩
      · simp only [List.cons_append, List.mem_cons, List.mem_append, List.mem_ite_nil_right,
          List.not_mem_nil, or_false] at member
        rcases member with rfl | ⟨-, rfl⟩ | rfl <;> rfl
      · dsimp only at member
        split_ifs at member
        · rw [List.mem_singleton.mp member]
        · cases member
  · exact staysOn_idle s w

theorem inject_staysOn (s : State) (w : Work) (tgid base : ℕ) (isWrite : Bool) (c : Chance) :
    (mattxDsmFaultInject s w tgid base isWrite c).StaysOn w := by
  refine ⟨fun a member => ?_, fun v member => ?_⟩
  · simp only [mattxDsmFaultInject, List.mem_ite_nil_right, List.mem_singleton] at member
    rw [member.2]
  · simp only [mattxDsmFaultInject, List.mem_ite_nil_right, List.mem_singleton] at member
    rw [member.2]

theorem mark_staysOn (s : State) (w : Work) (tgid base : ℕ) :
    (mattxDsmFaultMark s w tgid base).StaysOn w := by
  simp only [mattxDsmFaultMark]
  split
  · refine ⟨fun a member => ?_, by simp⟩
    simp only [List.mem_ite_nil_right, List.mem_singleton] at member
    rw [member.2]
  · exact staysOn_idle s w

theorem upgrade_staysOn (s : State) (w : Work) (tgid base : ℕ) (c : Chance) :
    (mattxDsmPfnMkwriteUpgrade s w tgid base c).StaysOn w := by
  simp only [mattxDsmPfnMkwriteUpgrade]
  split
  · exact ⟨by simp, by simp⟩
  · exact staysOn_idle s w

theorem invalidate_staysOn (s : State) (w : Work) : (mattxDsmInvalidateKworker s w).StaysOn w := by
  refine ⟨fun a member => ?_, by simp [mattxDsmInvalidateKworker]⟩
  simp only [mattxDsmInvalidateKworker, List.mem_flatMap] at member
  obtain ⟨i, -, member⟩ := member
  split_ifs at member
  · cases member
  · obtain ⟨m, -, member⟩ := List.mem_flatMap.mp member
    simp only [List.mem_ite_nil_right, List.mem_singleton] at member
    rw [member.2]

theorem flush_staysOn (s : State) (w : Work) : (mattxDsmFlushKworker s w).StaysOn w := by
  simp only [mattxDsmFlushKworker]
  split
  · exact staysOn_idle s w
  · exact ⟨by simp, by simp⟩
  · refine ⟨fun a member => ?_, by simp⟩
    simp only [List.mem_cons, List.mem_ite_nil_right, List.not_mem_nil, or_false] at member
    rcases member with rfl | ⟨-, rfl | ⟨-, rfl⟩⟩ <;> rfl

theorem faultKworker_staysOn (s : State) (w : Work) (sender : Node) (c : Chance) :
    (mattxDsmFaultKworker s w sender c).StaysOn w := by
  simp only [mattxDsmFaultKworker]
  split
  · exact staysOn_idle s w
  · split
    · split
      · exact ⟨by simp, by simp⟩
      · exact ⟨by simp, by simp⟩
      · refine ⟨fun a member => ownerReads_index member, fun v member => ?_⟩
        dsimp only at member
        split at member
        · split_ifs at member
          · simp only [List.mem_cons, List.not_mem_nil, or_false] at member
            rcases member with rfl | rfl <;> rfl
          · rw [List.mem_singleton.mp member]
        · rw [List.mem_singleton.mp member]
    · exact ⟨by simp, by simp⟩

theorem downgrade_staysOn (s : State) (w : Work) (sender : Node) :
    (mattxDsmFaultKworkerDowngrade s w sender).StaysOn w := by
  refine ⟨fun a member => ?_, by simp [mattxDsmFaultKworkerDowngrade]⟩
  simp only [mattxDsmFaultKworkerDowngrade, List.mem_ite_nil_right] at member
  exact ownerWrites_index member.2

theorem pump_staysOn (s : State) (w : Work) (sender : Node) (c : Chance) :
    (mattxDsmFaultKworkerPump s w sender c).StaysOn w := by
  simp only [mattxDsmFaultKworkerPump]
  split
  · split
    · exact staysOn_idle s w
    · exact ⟨by simp, by simp⟩
    · refine ⟨fun a member => ?_, by simp⟩
      simp only [List.cons_append, List.mem_cons, List.mem_append, List.mem_ite_nil_right,
        List.not_mem_nil, or_false] at member
      rcases member with rfl | ⟨-, rfl⟩ | rfl <;> rfl
  · exact staysOn_idle s w

theorem update_staysOn (s : State) (w : Work) : (mattxDsmUpdateKworker s w).StaysOn w := by
  simp only [mattxDsmUpdateKworker]
  split
  · exact staysOn_idle s w
  · split
    · split
      · exact staysOn_idle s w
      · exact ⟨by simp, by simp⟩
      · refine ⟨fun a member => ?_, by simp⟩
        rcases List.mem_append.mp member with read | write
        · exact ownerReads_index read
        · simp only [List.mem_ite_nil_right] at write
          exact ownerWrites_index write.2
    · exact staysOn_idle s w

theorem writeAcquire_staysOn (s : State) (w : Work) (c : Chance) :
    (mattxDsmWriteAcquireKworker s w c).StaysOn w := by
  simp only [mattxDsmWriteAcquireKworker]
  split
  · exact staysOn_idle s w
  · exact ⟨by simp, by simp⟩
  · refine ⟨fun a member => ?_, fun v member => ?_⟩
    · rcases List.mem_cons.mp member with rfl | write
      · rfl
      · exact ownerWrites_index write
    · dsimp only at member
      exact invalidates_offset member

theorem sync_staysOn (s : State) (w : Work) (isWrite : Bool) (c : Chance) :
    (mattxVm1ShmSyncKworker s w isWrite c).StaysOn w := by
  simp only [mattxVm1ShmSyncKworker]
  split
  · exact staysOn_idle s w
  · exact ⟨by simp, by simp⟩
  · refine ⟨fun a member => ownerReads_index member, fun v member => ?_⟩
    dsimp only at member
    split at member
    · split_ifs at member
      · simp only [List.mem_cons, List.not_mem_nil, or_false] at member
        rcases member with rfl | rfl <;> rfl
      · rw [List.mem_singleton.mp member]
    · rw [List.mem_singleton.mp member]

theorem claim_staysOn (s : State) (w : Work) (dirIdx : Slot) (isWrite : Bool) (c : Chance) :
    (mattxVm1ShmSyncKworkerClaim s w dirIdx isWrite c).StaysOn w := by
  simp only [mattxVm1ShmSyncKworkerClaim]
  split
  · split
    · exact ⟨by simp, by simp⟩
    · refine ⟨fun a member => ?_, fun v member => ?_⟩
      · rcases List.mem_cons.mp member with rfl | write
        · rfl
        · exact ownerWrites_index write
      · dsimp only at member
        exact invalidates_offset member
  · exact staysOn_idle s w

/-- No function of the chain computes another page than the one it was asked for. -/
theorem serve_staysOn (s : State) (w : Work) (c : Chance) : (serve s w c).StaysOn w := by
  unfold serve
  cases w.stage with
  | waiting tgid base isWrite => exact place_staysOn s w tgid base isWrite c
  | placed tgid base isWrite => exact inject_staysOn s w tgid base isWrite c
  | injected tgid base => exact mark_staysOn s w tgid base
  | acquiring tgid base => exact upgrade_staysOn s w tgid base c
  | pageFault sender => exact faultKworker_staysOn s w sender c
  | fetching sender => exact downgrade_staysOn s w sender
  | pumping sender => exact pump_staysOn s w sender c
  | writeAcquire => exact writeAcquire_staysOn s w c
  | invalidate => exact invalidate_staysOn s w
  | flush => exact flush_staysOn s w
  | update => exact update_staysOn s w
  | sync isWrite => exact sync_staysOn s w isWrite c
  | syncing dirIdx isWrite =>
    exact ⟨fun a member => ownerWrites_index member,
      by simp [mattxVm1ShmSyncKworkerDowngrade]⟩
  | claiming dirIdx isWrite => exact claim_staysOn s w dirIdx isWrite c

/-! ### What is registered stays short -/

def GuestFits (b : ℕ) (g : GuestInfo) : Prop := ∀ m ∈ g.dsmMap, m.size ≤ b

def RegistryFits (b : ℕ) (r : Registry) : Prop := ∀ g ∈ r, GuestFits b g

theorem guestFits_modify {b : ℕ} {g : GuestInfo} (fits : GuestFits b g) (d : ℕ)
    {f : DsmMapping → DsmMapping} (size : ∀ m, (f m).size = m.size) :
    GuestFits b (g.modifyMapping d f) := by
  intro m member
  rcases SlotTable.mem_modify member with old | ⟨small, rfl⟩
  · exact fits m old
  · rw [size]
    exact fits _ (SlotTable.slot_mem small)

theorem guestFits_mapLive {b : ℕ} {g : GuestInfo} (fits : GuestFits b g)
    {f : DsmMapping → DsmMapping} (size : ∀ m, (f m).size = m.size) :
    GuestFits b { g with dsmMap := g.dsmMap.mapLive f } := by
  intro m member
  obtain ⟨old, here, rfl⟩ := SlotTable.mem_mapLive.mp member
  rw [size]
  exact fits old here

theorem guestFits_register {b : ℕ} {g : GuestInfo} (fits : GuestFits b g) (base shmid : ℕ)
    {size : ℕ} (short : size ≤ b) : GuestFits b (g.register base size shmid) := by
  simp only [GuestInfo.register]
  split_ifs
  · intro m member
    rcases SlotTable.mem_push.mp member with old | rfl
    · exact fits m old
    · exact short
  · exact fits

theorem guestFits_populate {b : ℕ} (vmas : List (ℕ × ℕ × ℕ)) (short : ∀ v ∈ vmas, v.2.1 ≤ b)
    {g : GuestInfo} (fits : GuestFits b g) :
    GuestFits b (vmas.foldl (fun g v => g.register v.1 v.2.1 v.2.2) g) := by
  induction vmas generalizing g with
  | nil => exact fits
  | cons v vmas ih =>
    have first := guestFits_register fits v.1 v.2.2 (short v List.mem_cons_self)
    exact ih (fun x member => short x (List.mem_cons_of_mem v member)) first

theorem guestFits_removeMapping {b : ℕ} {g : GuestInfo} (fits : GuestFits b g) (d : ℕ) :
    GuestFits b (g.removeMapping d) := by
  intro m member
  have freed : GuestFits b (g.modifyMapping d .freePages) := guestFits_modify fits d fun _ => rfl
  exact freed m (SlotTable.mem_swapRemove member)

theorem registryFits_modify {b : ℕ} {r : Registry} (fits : RegistryFits b r) (i : ℕ)
    {f : GuestInfo → GuestInfo} (kept : ∀ g, GuestFits b g → GuestFits b (f g)) :
    RegistryFits b (r.modify i f) := by
  intro g member
  rcases SlotTable.mem_modify member with old | ⟨small, rfl⟩
  · exact fits g old
  · exact kept _ (fits _ (SlotTable.slot_mem small))

theorem registryFits_modifyCell {b : ℕ} {r : Registry} (fits : RegistryFits b r) (tgid base : ℕ)
    {f : DsmMapping → DsmMapping} (size : ∀ m, (f m).size = m.size) :
    RegistryFits b (modifyCell r tgid base f) := by
  unfold modifyCell
  split
  · exact registryFits_modify fits _ fun g small => guestFits_modify small _ size
  · exact fits

theorem backPage_size (m : DsmMapping) (p : PageIdx) (fresh : Option Frame) :
    (m.backPage p fresh).size = m.size := by
  unfold DsmMapping.backPage
  split <;> rfl

theorem registryFits_addGuest {b : ℕ} {r : Registry} (fits : RegistryFits b r)
    (localPid origPid : ℕ) (homeNode : Node) :
    RegistryFits b (addGuest r localPid origPid homeNode) := by
  unfold addGuest
  split_ifs
  · intro g member
    rcases SlotTable.mem_push.mp member with old | rfl
    · exact fits g old
    · rintro m ⟨d, small, -⟩
      exact absurd small (Nat.not_lt_zero d)
  · exact fits

theorem registryFits_populate {b : ℕ} {r : Registry} (fits : RegistryFits b r) (tgid : ℕ)
    {vmas : List (ℕ × ℕ × ℕ)} (short : ∀ v ∈ vmas, v.2.1 ≤ b) :
    RegistryFits b (populate r tgid vmas) := by
  unfold populate
  split
  · refine registryFits_modify fits _ fun g small => guestFits_populate vmas short ?_
    rintro m ⟨d, none_live, -⟩
    exact absurd none_live (Nat.not_lt_zero d)
  · exact fits

theorem registryFits_shmat {b : ℕ} {r : Registry} (fits : RegistryFits b r)
    (tgid base shmid : ℕ) {size : ℕ} (short : size ≤ b) :
    RegistryFits b (GuestRegistry.shmat r tgid base size shmid) := by
  unfold GuestRegistry.shmat
  split
  · exact registryFits_modify fits _ fun g small => guestFits_register small base shmid short
  · exact fits

theorem registryFits_shmdt {b : ℕ} {r : Registry} (fits : RegistryFits b r) (tgid base : ℕ) :
    RegistryFits b (GuestRegistry.shmdt r tgid base) := by
  unfold GuestRegistry.shmdt
  split
  · exact registryFits_modify fits _ fun g small => guestFits_removeMapping small _
  · exact fits

theorem registryFits_removeGuest {b : ℕ} {r : Registry} (fits : RegistryFits b r) (i : ℕ) :
    RegistryFits b (removeGuest r i) := by
  unfold removeGuest
  split_ifs
  · intro g member
    have freed := registryFits_modify fits i fun g small =>
      guestFits_mapLive small (f := DsmMapping.freePages) fun _ => rfl
    exact freed g (SlotTable.mem_swapRemove member)
  · exact fits

theorem registryFits_invalidate {b : ℕ} {r : Registry} (fits : RegistryFits b r) (shmid : ℕ)
    (p : PageIdx) (acquirer : ℕ) : RegistryFits b (invalidate r shmid p acquirer) := by
  intro g member
  obtain ⟨old, here, rfl⟩ := SlotTable.mem_mapLive.mp member
  split_ifs
  · exact fits old here
  · refine guestFits_mapLive (fits old here) fun m => ?_
    split_ifs <;> rfl

theorem registryFits_flush {b : ℕ} {r : Registry} (fits : RegistryFits b r) (origPid shmid : ℕ)
    (p : PageIdx) : RegistryFits b (flush r origPid shmid p) := by
  unfold flush
  split
  · exact registryFits_modify fits _ fun g small => guestFits_modify small _ fun _ => rfl
  · exact fits

/-! ### The invariant -/

/-- The bytes that the arrays have pages for. -/
abbrev room : ℕ := maxDsmPages * pageSize

structure Fits (s : State) : Prop where
  guests : ∀ n, RegistryFits room (s.guests n)
  tasks : ∀ h pid m, s.tasks h pid = some m → ∀ a ∈ m.areas, a.length ≤ room
  works : ∀ w ∈ s.works, w.offset < room

theorem fits_setGuests {s : State} (h : Fits s) (n : Node) {r : Registry}
    (fits : RegistryFits room r) : Fits (s.setGuests n r) := by
  refine ⟨fun m => ?_, h.tasks, h.works⟩
  by_cases here : m = n
  · subst m
    simpa [State.setGuests] using fits
  · simpa [State.setGuests, here] using h.guests m

theorem fits_setDir {s : State} (h : Fits s) (n : Node) (dir : GlobalDir) :
    Fits (s.setDir n dir) := ⟨h.guests, h.tasks, h.works⟩

theorem fits_setLeash {s : State} (h : Fits s) (n : Node) (tgid : ℕ)
    (l : Option (ℕ × ℕ × Bool)) : Fits (s.setLeash n tgid l) := ⟨h.guests, h.tasks, h.works⟩

theorem place_fits {s : State} (h : Fits s) (w : Work) (tgid base : ℕ) (isWrite : Bool)
    (c : Chance) : Fits (mattxDsmFaultPlace s w tgid base isWrite c).state := by
  simp only [mattxDsmFaultPlace]
  split
  · split
    · exact h
    · exact h
    · exact fits_setGuests h _ (registryFits_modifyCell (h.guests _) tgid base fun m =>
        backPage_size m _ _)
  · exact h

theorem inject_fits {s : State} (h : Fits s) (w : Work) (tgid base : ℕ) (isWrite : Bool)
    (c : Chance) : Fits (mattxDsmFaultInject s w tgid base isWrite c).state := by
  have noted : ∀ p : PageIdx, Fits (s.setGuests w.node
      (modifyCell (s.guests w.node) tgid base fun m => m.setState p .shared)) := fun p =>
    fits_setGuests h _ (registryFits_modifyCell (h.guests _) tgid base fun _ => rfl)
  simp only [mattxDsmFaultInject]
  split_ifs
  · cases cellOf w.offset with
    | none => exact fits_setLeash h _ _ _
    | some p => exact fits_setLeash (noted p) _ _ _
  · cases cellOf w.offset with
    | none => exact fits_setLeash h _ _ _
    | some p => exact fits_setLeash h _ _ _
  · cases cellOf w.offset with
    | none => exact h
    | some p => exact noted p
  · cases cellOf w.offset with
    | none => exact h
    | some p => exact h

theorem mark_fits {s : State} (h : Fits s) (w : Work) (tgid base : ℕ) :
    Fits (mattxDsmFaultMark s w tgid base).state := by
  simp only [mattxDsmFaultMark]
  split
  · exact fits_setGuests h _ (registryFits_modifyCell (h.guests _) tgid base fun _ => rfl)
  · exact h

theorem upgrade_fits {s : State} (h : Fits s) (w : Work) (tgid base : ℕ) (c : Chance) :
    Fits (mattxDsmPfnMkwriteUpgrade s w tgid base c).state := by
  simp only [mattxDsmPfnMkwriteUpgrade]
  split
  · dsimp only
    split
    · exact fits_setGuests h _ (registryFits_modifyCell (h.guests _) tgid base fun _ => rfl)
    · exact h
  · exact h

theorem invalidate_fits {s : State} (h : Fits s) (w : Work) :
    Fits (mattxDsmInvalidateKworker s w).state := by
  simp only [mattxDsmInvalidateKworker]
  split
  · exact fits_setGuests h _ (registryFits_invalidate (h.guests _) _ _ _)
  · exact h

theorem flush_fits {s : State} (h : Fits s) (w : Work) : Fits (mattxDsmFlushKworker s w).state := by
  simp only [mattxDsmFlushKworker]
  split
  · exact h
  · exact h
  · exact fits_setGuests h _ (registryFits_flush (h.guests _) _ _ _)

theorem faultKworker_fits {s : State} (h : Fits s) (w : Work) (sender : Node) (c : Chance) :
    Fits (mattxDsmFaultKworker s w sender c).state := by
  simp only [mattxDsmFaultKworker]
  split
  · exact h
  · split
    · split <;> exact h
    · exact h

theorem downgrade_fits {s : State} (h : Fits s) (w : Work) (sender : Node) :
    Fits (mattxDsmFaultKworkerDowngrade s w sender).state := by
  simp only [mattxDsmFaultKworkerDowngrade]
  split
  · exact fits_setDir h _ _
  · exact h

theorem pump_fits {s : State} (h : Fits s) (w : Work) (sender : Node) (c : Chance) :
    Fits (mattxDsmFaultKworkerPump s w sender c).state := by
  simp only [mattxDsmFaultKworkerPump]
  split
  · split
    · exact h
    · exact h
    · exact fits_setDir h _ _
  · exact h

theorem update_fits {s : State} (h : Fits s) (w : Work) :
    Fits (mattxDsmUpdateKworker s w).state := by
  simp only [mattxDsmUpdateKworker]
  split
  · exact h
  · split
    · split
      · exact h
      · exact h
      · exact fits_setDir h _ _
    · exact h

theorem writeAcquire_fits {s : State} (h : Fits s) (w : Work) (c : Chance) :
    Fits (mattxDsmWriteAcquireKworker s w c).state := by
  simp only [mattxDsmWriteAcquireKworker]
  split
  · exact h
  · exact h
  · exact fits_setDir h _ _

theorem sync_fits {s : State} (h : Fits s) (w : Work) (isWrite : Bool) (c : Chance) :
    Fits (mattxVm1ShmSyncKworker s w isWrite c).state := by
  simp only [mattxVm1ShmSyncKworker]
  split <;> exact h

theorem syncDowngrade_fits {s : State} (h : Fits s) (w : Work) (dirIdx : Slot) (isWrite : Bool) :
    Fits (mattxVm1ShmSyncKworkerDowngrade s w dirIdx isWrite).state := by
  simp only [mattxVm1ShmSyncKworkerDowngrade]
  split
  · exact fits_setDir h _ _
  · exact h

theorem claim_fits {s : State} (h : Fits s) (w : Work) (dirIdx : Slot) (isWrite : Bool)
    (c : Chance) : Fits (mattxVm1ShmSyncKworkerClaim s w dirIdx isWrite c).state := by
  simp only [mattxVm1ShmSyncKworkerClaim]
  split
  · split
    · exact h
    · exact fits_setDir h _ _
  · exact h

theorem serve_fits {s : State} (h : Fits s) (w : Work) (c : Chance) : Fits (serve s w c).state := by
  unfold serve
  cases w.stage with
  | waiting tgid base isWrite => exact place_fits h w tgid base isWrite c
  | placed tgid base isWrite => exact inject_fits h w tgid base isWrite c
  | injected tgid base => exact mark_fits h w tgid base
  | acquiring tgid base => exact upgrade_fits h w tgid base c
  | pageFault sender => exact faultKworker_fits h w sender c
  | fetching sender => exact downgrade_fits h w sender
  | pumping sender => exact pump_fits h w sender c
  | writeAcquire => exact writeAcquire_fits h w c
  | invalidate => exact invalidate_fits h w
  | flush => exact flush_fits h w
  | update => exact update_fits h w
  | sync isWrite => exact sync_fits h w isWrite c
  | syncing dirIdx isWrite => exact syncDowngrade_fits h w dirIdx isWrite
  | claiming dirIdx isWrite => exact claim_fits h w dirIdx isWrite c

/-! ### Where offsets come from -/

/-- What an event that starts something touches and sends. -/
structure Outcome.Bounded (o : Outcome) : Prop where
  accesses : ∀ a ∈ o.accesses, a.InRange
  works : ∀ v ∈ o.works, v.offset < room

theorem bounded_idle (s : State) : (Outcome.mk s [] []).Bounded := ⟨by simp, by simp⟩

theorem index_lt {offset : ℕ} (h : offset < room) : offset / pageSize < maxDsmPages :=
  Nat.div_lt_of_lt_mul (by rwa [Nat.mul_comm])

theorem Outcome.StaysOn.bounded {o : Outcome} {w : Work} (h : o.StaysOn w)
    (small : w.offset < room) : o.Bounded := by
  refine ⟨fun a member => ?_, fun v member => ?_⟩
  · unfold Access.InRange
    rw [h.accesses a member]
    exact index_lt small
  · rw [h.works v member]
    exact small

theorem translate_lt {b : ℕ} {g : GuestInfo} (fits : GuestFits b g) {addr shmid offset : ℕ}
    (h : translate g addr = some (shmid, offset)) : offset < b := by
  obtain ⟨d, found, same⟩ := Option.map_eq_some_iff.mp h
  have inside := SlotTable.find?_holds found
  have short := fits _ (SlotTable.slot_mem (SlotTable.find?_lt found))
  simp only [decide_eq_true_eq] at inside
  have value := (Prod.mk.inj same).2
  omega

theorem translateAt_lt {s : State} (h : Fits s) {n : Node} {tgid addr : ℕ} {g : GuestInfo}
    {shmid offset : ℕ} (found : translateAt s n tgid addr = some (g, shmid, offset)) :
    offset < room := by
  obtain ⟨i, guest, rest⟩ := Option.bind_eq_some_iff.mp found
  obtain ⟨k, translated, same⟩ := Option.map_eq_some_iff.mp rest
  cases same
  exact translate_lt (h.guests n _ (SlotTable.slot_mem (SlotTable.find?_lt guest))) translated

theorem fault_bounded {s : State} (h : Fits s) (n : Node) (tgid addr : ℕ) (isWrite : Bool) :
    (mattxDsmFault s n tgid addr isWrite).Bounded := by
  simp only [mattxDsmFault]
  split
  · rename_i found
    have small := translateAt_lt h found
    exact ⟨by simp, by simp [small]⟩
  · exact bounded_idle s

theorem pfnMkwrite_bounded {s : State} (h : Fits s) (n : Node) (tgid addr : ℕ) :
    (mattxDsmPfnMkwrite s n tgid addr).Bounded := by
  simp only [mattxDsmPfnMkwrite]
  split
  · rename_i found
    have small := translateAt_lt h found
    refine ⟨by simp, fun v member => ?_⟩
    dsimp only at member
    split_ifs at member
    · simp only [List.mem_cons, List.not_mem_nil, or_false] at member
      rcases member with rfl | rfl
      · exact small
      · exact small
    · cases member
  · exact bounded_idle s

theorem cleanup_bounded {s : State} (h : Fits s) (n : Node) (tgid : ℕ) :
    (mattxDsmCleanupCb s n tgid).Bounded := by
  simp only [mattxDsmCleanupCb]
  split
  · split
    · rename_i i guest
      split
      · rename_i d found
        have inside := SlotTable.find?_holds found
        have short := h.guests n _ (SlotTable.slot_mem (SlotTable.find?_lt guest)) _
          (SlotTable.slot_mem (SlotTable.find?_lt found))
        simp only [decide_eq_true_eq] at inside
        split
        · refine ⟨fun a member => ?_, fun v member => ?_⟩
          · rw [List.mem_singleton.mp member]
            exact index_lt (by omega)
          · dsimp only at member
            split_ifs at member
            · rw [List.mem_singleton.mp member]
              dsimp only
              omega
            · cases member
        · exact bounded_idle _
      · exact bounded_idle _
    · exact bounded_idle _
  · exact bounded_idle _

/-- Bombs are made by loops over the arrays. -/
theorem bombs_bounded {g : GuestInfo} {m : DsmMapping} {packs : PageIdx → Bool} {v : Work}
    (h : v ∈ bombs g m packs) : v.offset < room := by
  obtain ⟨p, -, rfl⟩ := List.mem_map.mp h
  exact Nat.mul_lt_mul_of_pos_right p.isLt (by decide)

theorem funeral_inRange {m : DsmMapping} {packed : Bool} {a : Access}
    (h : a ∈ funeralAccesses m packed) : a.InRange := by
  obtain ⟨p, -, member⟩ := List.mem_flatMap.mp h
  rcases List.mem_cons.mp member with rfl | member
  · exact p.isLt
  · split_ifs at member
    · rw [List.mem_singleton.mp member]
      exact p.isLt
    · cases member

theorem sweeper_bounded (s : State) (n : Node) (i : ℕ) : (mattxDsmSweeper s n i).Bounded := by
  simp only [mattxDsmSweeper]
  split
  · refine ⟨fun a member => ?_, fun v member => ?_⟩
    · obtain ⟨m, -, member⟩ := List.mem_flatMap.mp member
      obtain ⟨p, -, rfl⟩ := List.mem_map.mp member
      exact p.isLt
    · obtain ⟨m, -, member⟩ := List.mem_flatMap.mp member
      exact bombs_bounded member
  · exact bounded_idle _

theorem reap_bounded (s : State) (n : Node) (i : ℕ) (packed : Bool) :
    (reap s n i packed).Bounded := by
  simp only [reap]
  split
  · refine ⟨fun a member => ?_, fun v member => ?_⟩
    · obtain ⟨m, -, member⟩ := List.mem_flatMap.mp member
      exact funeral_inRange member
    · obtain ⟨m, -, member⟩ := List.mem_flatMap.mp member
      exact bombs_bounded member
  · exact bounded_idle _

theorem awakenShmdt_bounded (s : State) (n : Node) (tgid base : ℕ) (packed : Bool) :
    (awakenShmdt s n tgid base packed).Bounded := by
  simp only [awakenShmdt]
  split
  · split
    · exact ⟨fun a member => funeral_inRange member, fun v member => bombs_bounded member⟩
    · exact bounded_idle _
  · exact bounded_idle _

/-- A native fault lies in an area of the segment. -/
theorem nativeFault_bounded {s : State} (h : Fits s) (n : Node) (pid addr : ℕ) (isWrite : Bool) :
    (entryHandlerShmemFault s n pid addr isWrite).Bounded := by
  simp only [entryHandlerShmemFault]
  split
  · exact bounded_idle _
  · rename_i vma found
    obtain ⟨m, task, here⟩ := Option.bind_eq_some_iff.mp found
    have short := h.tasks n pid m task vma (List.mem_of_find?_eq_some here)
    have covers : vma.Covers addr := by simpa using List.find?_some here
    have below : faultAddr addr ≤ addr := Nat.div_mul_le_self addr pageSize
    have small : faultAddr addr - vma.vmStart < room := by
      have nonempty := vma.nonempty
      unfold Area.length at short
      unfold Area.Covers at covers
      omega
    split
    · split
      · exact bounded_idle _
      · refine ⟨fun a member => ?_, by simp⟩
        rw [List.mem_singleton.mp member]
        exact index_lt small
      · refine ⟨fun a member => ?_, fun v member => ?_⟩
        · simp only [List.mem_cons, List.mem_ite_nil_right, List.not_mem_nil, or_false] at member
          rcases member with rfl | rfl | ⟨-, rfl⟩ <;> exact index_lt small
        · dsimp only at member
          split_ifs at member
          · rw [List.mem_singleton.mp member]
            exact small
          · cases member
    · exact bounded_idle _

/-! ### Runs -/

theorem fits_setTask {s : State} (h : Fits s) (n : Node) (pid : ℕ) {m : Option AddressSpace}
    (short : ∀ m' ∈ m, ∀ a ∈ m'.areas, a.length ≤ room) :
    Fits { s with tasks := Function.update s.tasks n (Function.update (s.tasks n) pid m) } := by
  refine ⟨h.guests, fun k q m' found => ?_, h.works⟩
  by_cases node : k = n
  · subst k
    by_cases here : q = pid
    · subst q
      simp only [Function.update_self] at found
      exact short m' found
    · simp only [Function.update_self, Function.update_of_ne here] at found
      exact h.tasks n q m' found
  · simp only [Function.update_of_ne node] at found
    exact h.tasks k q m' found

theorem fits_eraseIdx {s : State} (h : Fits s) (k : ℕ) :
    Fits { s with works := s.works.eraseIdx k } :=
  ⟨h.guests, h.tasks, fun w member => h.works w (List.mem_of_mem_eraseIdx member)⟩

theorem step_bounded {s : State} (h : Fits s) (e : Event) : (step s e).Bounded := by
  cases e with
  | setMode n mode => exact bounded_idle _
  | addGuest n localPid origPid homeNode => exact bounded_idle _
  | handleMigrateDone n tgid vmas => exact bounded_idle _
  | shmat n tgid hollowAddr vma => exact bounded_idle _
  | shmdt n tgid base packed => exact awakenShmdt_bounded s n tgid base packed
  | reap n i packed => exact reap_bounded s n i packed
  | setTask n pid m => exact bounded_idle _
  | exit n pid => exact bounded_idle _
  | removeSegment n shmid => exact bounded_idle _
  | fault n tgid addr isWrite => exact fault_bounded h n tgid addr isWrite
  | pfnMkwrite n tgid addr => exact pfnMkwrite_bounded h n tgid addr
  | trap n tgid => exact cleanup_bounded h n tgid
  | sweep n i => exact sweeper_bounded s n i
  | nativeFault n pid addr isWrite => exact nativeFault_bounded h n pid addr isWrite
  | serve k c =>
    simp only [step]
    split
    · rename_i w found
      exact (serve_staysOn _ w c).bounded (h.works w (List.mem_of_getElem? found))
    · exact bounded_idle _
  | lose k => exact bounded_idle _

theorem sweeper_fits {s : State} (h : Fits s) (n : Node) (i : ℕ) :
    Fits (mattxDsmSweeper s n i).state := by
  simp only [mattxDsmSweeper]
  split
  · exact fits_setGuests h n (registryFits_modify (h.guests n) i fun g small =>
      guestFits_mapLive small fun _ => rfl)
  · exact h

theorem reap_fits {s : State} (h : Fits s) (n : Node) (i : ℕ) (packed : Bool) :
    Fits (reap s n i packed).state := by
  simp only [reap]
  split <;> exact fits_setGuests h n (registryFits_removeGuest (h.guests n) i)

theorem awakenShmdt_fits {s : State} (h : Fits s) (n : Node) (tgid base : ℕ) (packed : Bool) :
    Fits (awakenShmdt s n tgid base packed).state := by
  simp only [awakenShmdt]
  split
  · split <;> exact fits_setGuests h n (registryFits_shmdt (h.guests n) tgid base)
  · exact h

theorem fault_fits {s : State} (h : Fits s) (n : Node) (tgid addr : ℕ) (isWrite : Bool) :
    Fits (mattxDsmFault s n tgid addr isWrite).state := by
  simp only [mattxDsmFault]
  split <;> exact h

theorem pfnMkwrite_fits {s : State} (h : Fits s) (n : Node) (tgid addr : ℕ) :
    Fits (mattxDsmPfnMkwrite s n tgid addr).state := by
  simp only [mattxDsmPfnMkwrite]
  split <;> exact h

theorem cleanup_fits {s : State} (h : Fits s) (n : Node) (tgid : ℕ) :
    Fits (mattxDsmCleanupCb s n tgid).state := by
  have cleared := fits_setLeash h n tgid none
  simp only [mattxDsmCleanupCb]
  split
  · split
    · split
      · split <;> exact cleared
      · exact cleared
    · exact cleared
  · exact h

theorem nativeFault_fits {s : State} (h : Fits s) (n : Node) (pid addr : ℕ) (isWrite : Bool) :
    Fits (entryHandlerShmemFault s n pid addr isWrite).state := by
  simp only [entryHandlerShmemFault]
  split
  · exact h
  · split
    · split <;> exact h
    · exact h

theorem step_fits {s : State} (h : Fits s) (e : Event) (short : Within maxDsmPages e) :
    Fits (step s e).state := by
  cases e with
  | setMode n mode => exact ⟨h.guests, h.tasks, h.works⟩
  | addGuest n localPid origPid homeNode =>
    exact fits_setGuests h n (registryFits_addGuest (h.guests n) localPid origPid homeNode)
  | handleMigrateDone n tgid vmas =>
    refine fits_setGuests h n (registryFits_populate (h.guests n) tgid fun v member => ?_)
    obtain ⟨a, area, rfl⟩ := List.mem_map.mp member
    exact short a area
  | shmat n tgid hollowAddr vma =>
    exact fits_setGuests h n (registryFits_shmat (h.guests n) tgid hollowAddr vma.shmid
      (short vma List.mem_cons_self))
  | shmdt n tgid base packed => exact awakenShmdt_fits h n tgid base packed
  | reap n i packed => exact reap_fits h n i packed
  | setTask n pid m =>
    refine fits_setTask h n pid fun m' here => ?_
    cases here
    exact short
  | exit n pid => exact fits_setTask h n pid fun m' here => by cases here
  | removeSegment n shmid => exact fits_setDir h n _
  | fault n tgid addr isWrite => exact fault_fits h n tgid addr isWrite
  | pfnMkwrite n tgid addr => exact pfnMkwrite_fits h n tgid addr
  | trap n tgid => exact cleanup_fits h n tgid
  | sweep n i => exact sweeper_fits h n i
  | nativeFault n pid addr isWrite => exact nativeFault_fits h n pid addr isWrite
  | serve k c =>
    simp only [step]
    split
    · exact serve_fits (fits_eraseIdx h k) _ c
    · exact h
  | lose k => exact fits_eraseIdx h k

theorem next_fits {s : State} (h : Fits s) (e : Event) (short : Within maxDsmPages e) :
    Fits (next s e) := by
  have after := step_fits h e short
  refine ⟨after.guests, after.tasks, fun w member => ?_⟩
  rcases List.mem_append.mp member with old | new
  · exact after.works w old
  · exact (step_bounded h e).works w new

theorem boot_fits : Fits boot := by
  refine ⟨fun n g member => ?_, fun h pid m found => ?_, fun w member => ?_⟩
  · obtain ⟨i, small, -⟩ := member
    exact absurd small (Nat.not_lt_zero i)
  · cases found
  · cases member

theorem runs_inRange {es : List Event}
    (short : machine.Follows (fun _ => Within maxDsmPages) boot es) :
    machine.Follows InRange boot es :=
  short.entails (fun _ e h _ small => next_fits h e small)
    (fun _ e h _ _ => (step_bounded h e).accesses) boot_fits

/-! ### Longer segments -/

/-- The mapping is found again by its start. -/
theorem cellAt_of_translateAt {s : State} {n : Node} {tgid addr : ℕ} {g : GuestInfo}
    {shmid offset : ℕ} (found : translateAt s n tgid addr = some (g, shmid, offset)) :
    ∃ cell, cellAt (s.guests n) tgid (faultAddr addr - offset) = some cell := by
  obtain ⟨i, guest, rest⟩ := Option.bind_eq_some_iff.mp found
  obtain ⟨k, translated, same⟩ := Option.map_eq_some_iff.mp rest
  cases same
  obtain ⟨d, inside, value⟩ := Option.map_eq_some_iff.mp translated
  have live := SlotTable.find?_lt inside
  have covers := SlotTable.find?_holds inside
  simp only [decide_eq_true_eq] at covers
  have start : (((s.guests n).slot i).dsmMap.slot d).baseAddr = faultAddr addr - offset := by
    have away := (Prod.mk.inj value).2
    omega
  cases again : mappingAt ((s.guests n).slot i) (faultAddr addr - offset) with
  | none =>
    have missed := SlotTable.find?_eq_none.mp again d live
    simp [start] at missed
  | some e =>
    refine ⟨(i, e), ?_⟩
    simp only [cellAt, guest, Option.bind_some, again, Option.map_some]

/-- The reply is there. -/
def replied : Chance := ⟨true, none, false, none, fun _ => false⟩

theorem cellOf_beyond {offset : ℕ} (beyond : room ≤ offset) : cellOf offset = none :=
  dif_neg (Nat.not_lt.mpr ((Nat.le_div_iff_mul_le (by decide)).mpr beyond))

/-- A fault that far inside any mapping ends outside the arrays, whatever else goes on. -/
theorem fault_overruns {s : State} {n : Node} {tgid addr : ℕ} {g : GuestInfo} {shmid offset : ℕ}
    (found : translateAt s n tgid addr = some (g, shmid, offset)) (beyond : room ≤ offset)
    (isWrite : Bool) :
    ¬machine.Follows InRange s [.fault n tgid addr isWrite, .serve s.works.length replied] := by
  obtain ⟨cell, again⟩ := cellAt_of_translateAt found
  intro follows
  have inRange := follows.2.2.2.1
  have sleeping : (machine.next s (.fault n tgid addr isWrite)).works[s.works.length]? =
      some ⟨n, g.origPid, shmid, offset, .waiting tgid (faultAddr addr - offset) isWrite⟩ := by
    simp [machine, next, step, mattxDsmFault, found]
  have kept : (machine.next s (.fault n tgid addr isWrite)).guests = s.guests := by
    simp [machine, next, step, mattxDsmFault, found]
  have accessed : ⟨.pages, offset / pageSize⟩ ∈
      (step (machine.next s (.fault n tgid addr isWrite))
        (.serve s.works.length replied)).accesses := by
    simp only [step, sleeping, serve, mattxDsmFaultPlace, replied, if_true, kept, again,
      cellOf_beyond beyond, List.mem_singleton]
  have small := inRange _ accessed
  exact absurd small (Nat.not_lt.mpr ((Nat.le_div_iff_mul_le (by decide)).mpr beyond))

/-- One page more than the arrays have. -/
def longArea : Area :=
  ⟨20480, 1073152, 0, 5, 9, by decide, by decide, by decide, by decide⟩

def longBlueprint : AddressSpace := ⟨[longArea], List.pairwise_singleton _ _⟩

/-- A process with the long area moves from node 1 to node 0. -/
def longImport : List Event :=
  [.setTask 1 7 longBlueprint, .addGuest 0 40 7 1, .handleMigrateDone 0 40 longBlueprint]

theorem longImport_within : machine.Follows (fun _ => Within 257) boot longImport := by decide

theorem longImport_translates :
    ∃ g, translateAt (machine.after boot longImport) 0 40 1069056 = some (g, 5, 1048576) := by
  have value : (translateAt (machine.after boot longImport) 0 40 1069056).map Prod.snd =
      some (5, 1048576) := by decide
  obtain ⟨⟨g, k⟩, found, rfl⟩ := Option.map_eq_some_iff.mp value
  exact ⟨g, found⟩

/-- Every access is in range, in every run and at every address, exactly if no area of a segment
has more pages than the arrays. -/
theorem indices_right_iff (n : ℕ) :
    (∀ es, machine.Follows (fun _ => Within n) boot es → machine.Follows InRange boot es) ↔
      n ≤ maxDsmPages := by
  constructor
  · intro right
    by_contra long
    have pages : maxDsmPages = 256 := rfl
    obtain ⟨g, found⟩ := longImport_translates
    let fault : List Event := [.fault 0 40 1069056 false,
      .serve (machine.after boot longImport).works.length replied]
    have within : machine.Follows (fun _ => Within n) boot (longImport ++ fault) := by
      refine Machine.follows_append.mpr ⟨longImport_within.mono fun s e small a member => ?_, ?_⟩
      · have wider : 257 * pageSize ≤ n * pageSize := Nat.mul_le_mul_right _ (by omega)
        exact (small a member).trans wider
      · exact ⟨trivial, by simp [Within, Event.areas], trivial, by simp [Within, Event.areas],
          trivial⟩
    have inRange := (Machine.follows_append.mp (right _ within)).2
    exact fault_overruns found (Nat.le_refl _) false inRange
  · intro short es within
    refine runs_inRange (within.mono fun s e small a member => ?_)
    exact (small a member).trans (Nat.mul_le_mul_right _ short)

/-- The surrogate faults on the last page, which is fetched from home. -/
def lastPageRun : List Event :=
  longImport ++ [.fault 0 40 1069056 false, .serve 1 replied, .serve 1 replied, .serve 0 replied]

theorem last_page_is_past_the_arrays :
    machine.Runs boot lastPageRun ∧ ¬machine.Follows InRange boot lastPageRun ∧
      machine.outputs (fun s e => (step s e).accesses) boot lastPageRun = [⟨.pages, 256⟩] := by
  decide

end MattX.DsmPageIndex
