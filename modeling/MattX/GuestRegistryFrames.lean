import MattX.GuestRegistry
import MattX.GuardedRuns

set_option autoImplicit false

namespace MattX.GuestRegistryFrames
open GuestRegistry GuardedRuns

/-- The registry beside the pages allocated for it. -/
structure PagePool where
  guests : Registry
  frames : Frame → Bool

def zeroPool : PagePool := ⟨zeroRegistry, fun _ => false⟩

inductive RegistryOp where
  | addGuest (localPid origPid : ℕ) (homeNode : Node)
  | removeGuest (i : ℕ)
  | populate (tgid : ℕ) (vmas : List (ℕ × ℕ × ℕ))
  | shmat (tgid base size shmid : ℕ)
  | shmdt (tgid base : ℕ)
  | backPage (tgid base : ℕ) (p : PageIdx) (fresh : Option Frame)
  | markShared (tgid base : ℕ) (p : PageIdx)
  | upgrade (tgid base : ℕ) (p : PageIdx)
  | markPresent (tgid base : ℕ) (p : PageIdx)
  | clearPresent (i : ℕ)
  | setMigrating (tgid : ℕ) (b : Bool)
  | invalidate (shmid : ℕ) (p : PageIdx) (acquirer : ℕ)
  | flush (origPid shmid : ℕ) (p : PageIdx)

/-- The frame a fault takes from the allocator, if it needs one. -/
def takenFrame (r : Registry) (tgid base : ℕ) (p : PageIdx) (fresh : Option Frame) :
    Option Frame :=
  match cellAt r tgid base with
  | some (i, d) => if (mapping r i d).pages p = none then fresh else none
  | none => none

def freedByShmdt (r : Registry) (tgid base : ℕ) (f : Frame) : Bool :=
  match cellAt r tgid base with
  | some (i, d) => (mapping r i d).owns f
  | none => false

def freedByRemoval (r : Registry) (i : ℕ) (f : Frame) : Bool :=
  decide (i < r.count) &&
    (List.range (r.slot i).dsmMap.count).any fun d => (mapping r i d).owns f

def RegistryOp.apply (s : PagePool) : RegistryOp → PagePool
  | addGuest localPid origPid homeNode =>
    { s with guests := GuestRegistry.addGuest s.guests localPid origPid homeNode }
  | removeGuest i =>
    ⟨GuestRegistry.removeGuest s.guests i, fun f => s.frames f && !freedByRemoval s.guests i f⟩
  | populate tgid vmas => { s with guests := GuestRegistry.populate s.guests tgid vmas }
  | shmat tgid base size shmid =>
    { s with guests := GuestRegistry.shmat s.guests tgid base size shmid }
  | shmdt tgid base =>
    ⟨GuestRegistry.shmdt s.guests tgid base,
      fun f => s.frames f && !freedByShmdt s.guests tgid base f⟩
  | backPage tgid base p fresh =>
    ⟨GuestRegistry.backPage s.guests tgid base p fresh,
      fun f => s.frames f || takenFrame s.guests tgid base p fresh == some f⟩
  | markShared tgid base p =>
    { s with guests := modifyCell s.guests tgid base fun m => m.setState p .shared }
  | upgrade tgid base p =>
    { s with guests := modifyCell s.guests tgid base fun m => m.setState p .exclusive }
  | markPresent tgid base p =>
    { s with guests := modifyCell s.guests tgid base fun m => m.setPresent p }
  | clearPresent i => { s with guests := GuestRegistry.clearPresent s.guests i }
  | setMigrating tgid b => { s with guests := GuestRegistry.setMigrating s.guests tgid b }
  | invalidate shmid p acquirer =>
    { s with guests := GuestRegistry.invalidate s.guests shmid p acquirer }
  | flush origPid shmid p => { s with guests := GuestRegistry.flush s.guests origPid shmid p }

/-- The allocator only returns pages that are not in use. -/
def Enabled (s : PagePool) : RegistryOp → Prop
  | .backPage _ _ _ (some f) => s.frames f = false
  | _ => True

def registryMachine : Machine PagePool RegistryOp where
  enabled := Enabled
  next := RegistryOp.apply

def Owns (r : Registry) (i d : ℕ) (p : PageIdx) (f : Frame) : Prop :=
  Live r i d ∧ (mapping r i d).pages p = some f

structure WellFormed (s : PagePool) : Prop where
  unique : ∀ {i d p j e q f}, Owns s.guests i d p f → Owns s.guests j e q f →
    i = j ∧ d = e ∧ p = q
  allocated : ∀ {i d p f}, Owns s.guests i d p f → s.frames f = true
  backed : ∀ {i d p}, Live s.guests i d → (mapping s.guests i d).pageStates p ≠ .invalid →
    (mapping s.guests i d).pages p ≠ none

/-- Nothing is left of an earlier user of the slot. -/
def Clean (m : DsmMapping) : Prop := ∀ p, m.pages p = none ∧ m.pageStates p = .invalid

/-- New mappings take clean slots, and a page is marked in a cell that has it. -/
def TakesClean (s : PagePool) : RegistryOp → Prop
  | .populate tgid vmas => ∀ i ∈ guestOf s.guests tgid,
    ∀ d < min vmas.length maxDsmSegments, Clean (mapping s.guests i d)
  | .shmat tgid _ _ _ => ∀ i ∈ guestOf s.guests tgid,
    (s.guests.slot i).dsmMap.count < maxDsmSegments →
      Clean (mapping s.guests i (s.guests.slot i).dsmMap.count)
  | .markShared tgid base p | .upgrade tgid base p => ∀ c ∈ cellAt s.guests tgid base,
    (mapping s.guests c.1 c.2).pages p ≠ none
  | _ => True

instance (s : PagePool) (op : RegistryOp) : Decidable (registryMachine.enabled s op) :=
  match op with
  | .backPage _ _ _ (some f) => inferInstanceAs (Decidable (s.frames f = false))
  | .backPage _ _ _ none | .addGuest .. | .removeGuest .. | .populate .. | .shmat .. | .shmdt ..
  | .markShared .. | .upgrade .. | .markPresent .. | .clearPresent .. | .setMigrating ..
  | .invalidate .. | .flush .. => isTrue trivial

instance (m : DsmMapping) : Decidable (Clean m) :=
  inferInstanceAs (Decidable (∀ p, m.pages p = none ∧ m.pageStates p = .invalid))

instance (s : PagePool) (op : RegistryOp) : Decidable (TakesClean s op) := by
  cases op <;> unfold TakesClean <;> infer_instance

/-- A live cell whose pages are those of the live cell `o` names in the older registry. -/
structure Descends (r r' : Registry) (o : ℕ → ℕ → ℕ × ℕ) (i d : ℕ) : Prop where
  live : Live r (o i d).1 (o i d).2
  pages : (mapping r' i d).pages = (mapping r (o i d).1 (o i d).2).pages
  states : ∀ p, (mapping r' i d).pageStates p ≠ .invalid →
    (mapping r (o i d).1 (o i d).2).pageStates p ≠ .invalid ∨
      (mapping r (o i d).1 (o i d).2).pages p ≠ none

/-- Moving cells around keeps the pool well formed, as long as no two come from one. -/
theorem WellFormed.descend {s s' : PagePool} (wf : WellFormed s) (o : ℕ → ℕ → ℕ × ℕ)
    (inj : ∀ i d j e, Live s'.guests i d → Live s'.guests j e → o i d = o j e → i = j ∧ d = e)
    (cells : ∀ i d, Live s'.guests i d →
      Clean (mapping s'.guests i d) ∨ Descends s.guests s'.guests o i d)
    (kept : ∀ i d p f, Live s'.guests i d → Owns s.guests (o i d).1 (o i d).2 p f →
      s'.frames f = true) : WellFormed s' := by
  have source : ∀ {i d p f}, Owns s'.guests i d p f → Owns s.guests (o i d).1 (o i d).2 p f := by
    intro i d p f owns
    rcases cells i d owns.1 with clean | from_old
    · exact absurd owns.2 (by rw [(clean p).1]; simp)
    · exact ⟨from_old.live, from_old.pages ▸ owns.2⟩
  refine ⟨?_, ?_, ?_⟩
  · intro i d p j e q f first second
    obtain ⟨hi, hd, hp⟩ := wf.unique (source first) (source second)
    obtain ⟨rfl, rfl⟩ := inj i d j e first.1 second.1 (Prod.ext hi hd)
    exact ⟨rfl, rfl, hp⟩
  · intro i d p f owns
    exact kept i d p f owns.1 (source owns)
  · intro i d p live state
    rcases cells i d live with clean | from_old
    · exact absurd (clean p).2 state
    · rw [from_old.pages]
      rcases from_old.states p state with old | backed
      · exact wf.backed from_old.live old
      · exact backed

/-- The case in which every cell stays where it is. -/
theorem WellFormed.in_place {s s' : PagePool} (wf : WellFormed s)
    (cells : ∀ i d, Live s'.guests i d →
      Clean (mapping s'.guests i d) ∨ Descends s.guests s'.guests Prod.mk i d)
    (kept : ∀ f, s.frames f = true → s'.frames f = true) : WellFormed s' :=
  wf.descend Prod.mk (fun _ _ _ _ _ _ same => Prod.mk.inj same) cells
    fun _ _ _ _ _ owns => kept _ (wf.allocated owns)

theorem modifyMapping_wellFormed {s : PagePool} (wf : WellFormed s) (i d : ℕ)
    (f : DsmMapping → DsmMapping)
    (pages : (f (mapping s.guests i d)).pages = (mapping s.guests i d).pages)
    (states : ∀ p, (f (mapping s.guests i d)).pageStates p ≠ .invalid →
      (mapping s.guests i d).pageStates p ≠ .invalid ∨ (mapping s.guests i d).pages p ≠ none) :
    WellFormed { s with guests := modifyMapping s.guests i d f } := by
  refine wf.in_place (fun j e live => Or.inr ?_) fun _ => id
  have old := live_modifyMapping.mp live
  by_cases here : j = i ∧ e = d
  · obtain ⟨rfl, rfl⟩ := here
    refine ⟨old, ?_, ?_⟩
    · simpa [mapping_modifyMapping] using pages
    · simpa [mapping_modifyMapping] using states
  · refine ⟨old, ?_, ?_⟩
    · simp [mapping_modifyMapping, here]
    · intro p state
      exact Or.inl (by simpa [mapping_modifyMapping, here] using state)

theorem modifyCell_wellFormed {s : PagePool} (wf : WellFormed s) (tgid base : ℕ) (p : PageIdx)
    (st : PageState) (backed : st ≠ .invalid → ∀ c ∈ cellAt s.guests tgid base,
      (mapping s.guests c.1 c.2).pages p ≠ none) :
    WellFormed { s with guests := modifyCell s.guests tgid base fun m => m.setState p st } := by
  unfold modifyCell
  cases found : cellAt s.guests tgid base with
  | none => exact wf
  | some c =>
    refine modifyMapping_wellFormed wf c.1 c.2 (fun m => m.setState p st) rfl fun q state => ?_
    by_cases hq : q = p
    · subst q
      rw [DsmMapping.setState_apply, if_pos rfl] at state
      exact Or.inr (backed state c found)
    · rw [DsmMapping.setState_apply, if_neg hq] at state
      exact Or.inl state

theorem markPresent_wellFormed {s : PagePool} (wf : WellFormed s) (tgid base : ℕ) (p : PageIdx) :
    WellFormed { s with guests := modifyCell s.guests tgid base fun m => m.setPresent p } := by
  unfold modifyCell
  cases cellAt s.guests tgid base with
  | none => exact wf
  | some c => exact modifyMapping_wellFormed wf c.1 c.2 _ rfl fun _ => Or.inl

theorem flush_wellFormed {s : PagePool} (wf : WellFormed s) (origPid shmid : ℕ) (p : PageIdx) :
    WellFormed { s with guests := flush s.guests origPid shmid p } := by
  unfold flush
  cases flushedFrame s.guests origPid shmid p with
  | none => exact wf
  | some c =>
    refine modifyMapping_wellFormed wf c.1 c.2.1 (fun m => m.setState p .invalid) rfl
      fun q state => ?_
    by_cases hq : q = p
    · exact absurd rfl (by rwa [DsmMapping.setState_apply, if_pos hq] at state)
    · rw [DsmMapping.setState_apply, if_neg hq] at state
      exact Or.inl state

theorem invalidate_wellFormed {s : PagePool} (wf : WellFormed s) (shmid : ℕ) (p : PageIdx)
    (acquirer : ℕ) : WellFormed { s with guests := invalidate s.guests shmid p acquirer } := by
  refine wf.in_place (fun i d live => Or.inr ?_) fun _ => id
  obtain ⟨hi, hd⟩ := live
  change i < s.guests.count at hi
  have slot := SlotTable.mapLive_slot (t := s.guests) hi
    fun g => if g.origPid = acquirer then g else g.invalidate shmid p
  change (invalidate s.guests shmid p acquirer).slot i = _ at slot
  have count : ((invalidate s.guests shmid p acquirer).slot i).dsmMap.count =
      (s.guests.slot i).dsmMap.count := by
    rw [slot]
    split_ifs <;> rfl
  have old : Live s.guests i d := ⟨hi, count ▸ hd⟩
  have cell : mapping (invalidate s.guests shmid p acquirer) i d = mapping s.guests i d ∨
      mapping (invalidate s.guests shmid p acquirer) i d =
        (mapping s.guests i d).setState p .invalid := by
    unfold mapping
    rw [slot]
    split_ifs
    · exact Or.inl rfl
    · change ((s.guests.slot i).dsmMap.mapLive _).slot d = _ ∨
        ((s.guests.slot i).dsmMap.mapLive _).slot d = _
      rw [SlotTable.mapLive_slot old.2]
      split_ifs
      · exact Or.inr rfl
      · exact Or.inl rfl
  rcases cell with same | lowered
  · exact ⟨old, by rw [same], fun q state => Or.inl (by rwa [same] at state)⟩
  · refine ⟨old, by rw [lowered]; rfl, fun q state => Or.inl ?_⟩
    rw [lowered] at state
    by_cases hq : q = p
    · exact absurd rfl (by rwa [DsmMapping.setState_apply, if_pos hq] at state)
    · rwa [DsmMapping.setState_apply, if_neg hq] at state

theorem addGuest_wellFormed {s : PagePool} (wf : WellFormed s) (localPid origPid : ℕ)
    (homeNode : Node) :
    WellFormed { s with guests := addGuest s.guests localPid origPid homeNode } := by
  unfold addGuest
  split_ifs
  · refine wf.in_place (fun i d live => Or.inr ?_) fun _ => id
    have here : i ≠ s.guests.count := by
      rintro rfl
      have := live.2
      rw [SlotTable.push_slot, if_pos rfl] at this
      exact absurd this (Nat.not_lt_zero d)
    obtain ⟨hi, hd⟩ := live
    rw [SlotTable.push_count] at hi
    rw [SlotTable.push_slot, if_neg here] at hd
    have cell : mapping (s.guests.push fun _ =>
        ⟨localPid, origPid, homeNode, false, ⟨fun _ => .zero, 0⟩⟩) i d = mapping s.guests i d := by
      unfold mapping
      rw [SlotTable.push_slot, if_neg here]
    exact ⟨⟨by omega, hd⟩, by rw [cell], fun p state => Or.inl (by rwa [cell] at state)⟩
  · exact wf

/-- Registering a segment leaves every slot's pages and states as they were. -/
theorem register_slot (g : GuestInfo) (base size shmid d : ℕ) :
    ((g.register base size shmid).dsmMap.slot d).pages = (g.dsmMap.slot d).pages ∧
    ((g.register base size shmid).dsmMap.slot d).pageStates = (g.dsmMap.slot d).pageStates := by
  unfold GuestInfo.register
  split_ifs
  · simp only [SlotTable.push_slot]
    split_ifs with h
    · subst d
      exact ⟨rfl, rfl⟩
    · exact ⟨rfl, rfl⟩
  · exact ⟨rfl, rfl⟩

theorem register_count (g : GuestInfo) (base size shmid : ℕ) :
    (g.register base size shmid).dsmMap.count =
      if g.dsmMap.count < maxDsmSegments then g.dsmMap.count + 1 else g.dsmMap.count := by
  unfold GuestInfo.register
  split_ifs <;> rfl

def registerAll (g : GuestInfo) (vmas : List (ℕ × ℕ × ℕ)) : GuestInfo :=
  vmas.foldl (fun g v => g.register v.1 v.2.1 v.2.2) g

theorem registerAll_slot (g : GuestInfo) (vmas : List (ℕ × ℕ × ℕ)) (d : ℕ) :
    ((registerAll g vmas).dsmMap.slot d).pages = (g.dsmMap.slot d).pages ∧
    ((registerAll g vmas).dsmMap.slot d).pageStates = (g.dsmMap.slot d).pageStates := by
  induction vmas generalizing g with
  | nil => exact ⟨rfl, rfl⟩
  | cons v vmas ih =>
    have first := register_slot g v.1 v.2.1 v.2.2 d
    have rest := ih (g.register v.1 v.2.1 v.2.2)
    exact ⟨rest.1.trans first.1, rest.2.trans first.2⟩

theorem registerAll_count (g : GuestInfo) (vmas : List (ℕ × ℕ × ℕ)) :
    (registerAll g vmas).dsmMap.count ≤ max g.dsmMap.count
      (min (g.dsmMap.count + vmas.length) maxDsmSegments) := by
  induction vmas generalizing g with
  | nil => exact le_max_left _ _
  | cons v vmas ih =>
    have rest := ih (g.register v.1 v.2.1 v.2.2)
    rw [register_count] at rest
    change (registerAll (g.register v.1 v.2.1 v.2.2) vmas).dsmMap.count ≤ _
    rw [List.length_cons]
    split_ifs at rest <;> omega

/-- A guest whose mappings keep their content, the ones that become live being clean. -/
theorem modify_guest_wellFormed {s : PagePool} (wf : WellFormed s) (i : ℕ)
    (f : GuestInfo → GuestInfo)
    (slots : ∀ d, ((f (s.guests.slot i)).dsmMap.slot d).pages = (mapping s.guests i d).pages ∧
      ((f (s.guests.slot i)).dsmMap.slot d).pageStates = (mapping s.guests i d).pageStates)
    (fresh : ∀ d < (f (s.guests.slot i)).dsmMap.count,
      d < (s.guests.slot i).dsmMap.count ∨ Clean (mapping s.guests i d)) :
    WellFormed { s with guests := s.guests.modify i f } := by
  refine wf.in_place (fun j d live => ?_) fun _ => id
  obtain ⟨hj, hd⟩ := live
  rw [SlotTable.modify_count] at hj
  by_cases here : j = i
  · subst j
    have cell : mapping (s.guests.modify i f) i d = (f (s.guests.slot i)).dsmMap.slot d := by
      rw [mapping, SlotTable.modify_slot_self]
    rw [SlotTable.modify_slot_self] at hd
    rcases fresh d hd with old | clean
    · refine Or.inr ⟨⟨hj, old⟩, by rw [cell, (slots d).1], fun p state => Or.inl ?_⟩
      rwa [cell, (slots d).2] at state
    · refine Or.inl fun p => ?_
      change (mapping (s.guests.modify i f) i d).pages p = none ∧
        (mapping (s.guests.modify i f) i d).pageStates p = .invalid
      rw [cell, (slots d).1, (slots d).2]
      exact clean p
  · rw [SlotTable.modify_slot, if_neg here] at hd
    have cell : mapping (s.guests.modify i f) j d = mapping s.guests j d := by
      rw [mapping, SlotTable.modify_slot, if_neg here, mapping]
    exact Or.inr ⟨⟨hj, hd⟩, by rw [cell], fun p state => Or.inl (by rwa [cell] at state)⟩

theorem clearPresent_wellFormed {s : PagePool} (wf : WellFormed s) (i : ℕ) :
    WellFormed { s with guests := clearPresent s.guests i } := by
  refine modify_guest_wellFormed wf i _ (fun d => ?_) fun _ => Or.inl
  simp only [SlotTable.mapLive, mapping]
  split_ifs <;> exact ⟨rfl, rfl⟩

theorem setMigrating_wellFormed {s : PagePool} (wf : WellFormed s) (tgid : ℕ) (b : Bool) :
    WellFormed { s with guests := setMigrating s.guests tgid b } := by
  unfold setMigrating
  cases guestOf s.guests tgid with
  | none => exact wf
  | some i => exact modify_guest_wellFormed wf i _ (fun _ => ⟨rfl, rfl⟩) fun _ => Or.inl

theorem shmat_wellFormed {s : PagePool} (wf : WellFormed s) (tgid base size shmid : ℕ)
    (clean : TakesClean s (.shmat tgid base size shmid)) :
    WellFormed { s with guests := shmat s.guests tgid base size shmid } := by
  unfold shmat
  cases found : guestOf s.guests tgid with
  | none => exact wf
  | some i =>
    refine modify_guest_wellFormed wf i _ (fun d => register_slot _ _ _ _ d) fun d hd => ?_
    rw [register_count] at hd
    by_cases room : (s.guests.slot i).dsmMap.count < maxDsmSegments
    · rw [if_pos room] at hd
      by_cases old : d < (s.guests.slot i).dsmMap.count
      · exact Or.inl old
      · obtain rfl : d = (s.guests.slot i).dsmMap.count := by omega
        exact Or.inr (clean i found room)
    · rw [if_neg room] at hd
      exact Or.inl hd

theorem populate_wellFormed {s : PagePool} (wf : WellFormed s) (tgid : ℕ)
    (vmas : List (ℕ × ℕ × ℕ)) (clean : TakesClean s (.populate tgid vmas)) :
    WellFormed { s with guests := populate s.guests tgid vmas } := by
  unfold populate
  cases found : guestOf s.guests tgid with
  | none => exact wf
  | some i =>
    refine modify_guest_wellFormed wf i _ (fun d => registerAll_slot _ vmas d) fun d hd => ?_
    have bound := registerAll_count
      { s.guests.slot i with dsmMap := { (s.guests.slot i).dsmMap with count := 0 } } vmas
    refine Or.inr (clean i found d (lt_of_lt_of_le hd (bound.trans ?_)))
    simp only
    omega

theorem owns_eq_true {m : DsmMapping} {f : Frame} :
    m.owns f = true ↔ ∃ p, m.pages p = some f := by
  simp [DsmMapping.owns]

theorem removeMapping_slot (g : GuestInfo) {d e : ℕ}
    (he : e < g.dsmMap.count - 1) :
    (g.removeMapping d).dsmMap.slot e =
      g.dsmMap.slot (if e = d then g.dsmMap.count - 1 else e) := by
  change ((g.dsmMap.modify d .freePages).swapRemove d).slot e = _
  rw [SlotTable.swapRemove_slot, SlotTable.modify_count, SlotTable.modify_slot, if_neg]
  split_ifs <;> omega

theorem shmdt_wellFormed {s : PagePool} (wf : WellFormed s) (tgid base : ℕ) :
    WellFormed (RegistryOp.apply s (.shmdt tgid base)) := by
  change WellFormed ⟨shmdt s.guests tgid base,
    fun f => s.frames f && !freedByShmdt s.guests tgid base f⟩
  unfold shmdt freedByShmdt
  cases found : cellAt s.guests tgid base with
  | none => simpa using wf
  | some c =>
    obtain ⟨i, d⟩ := c
    obtain ⟨hi, hd, -, -⟩ := cellAt_some found
    have count : ((s.guests.slot i).removeMapping d).dsmMap.count =
        (s.guests.slot i).dsmMap.count - 1 := rfl
    -- the last mapping moves into the slot of the one that is removed
    refine wf.descend (fun j e => (j, if j = i then
      (if e = d then (s.guests.slot i).dsmMap.count - 1 else e) else e)) ?_ ?_ ?_
    · rintro j e k l ⟨-, he⟩ ⟨-, hl⟩ same
      obtain ⟨rfl, same⟩ := Prod.mk.inj same
      refine ⟨rfl, ?_⟩
      by_cases here : j = i
      · subst j
        simp only [if_pos] at same
        rw [SlotTable.modify_slot_self, count] at he hl
        exact SlotTable.origin_inj he hl same
      · simpa [here] using same
    · rintro j e ⟨hj, he⟩
      rw [SlotTable.modify_count] at hj
      refine Or.inr ?_
      by_cases here : j = i
      · subst j
        rw [SlotTable.modify_slot_self, count] at he
        have cell : mapping (s.guests.modify i fun g => g.removeMapping d) i e =
            mapping s.guests i (if e = d then (s.guests.slot i).dsmMap.count - 1 else e) := by
          rw [mapping, SlotTable.modify_slot_self, removeMapping_slot _ he, mapping]
        refine ⟨⟨hj, by simpa using SlotTable.origin_lt he⟩, by simp [cell], fun p state => ?_⟩
        exact Or.inl (by simpa [cell] using state)
      · rw [SlotTable.modify_slot, if_neg here] at he
        have cell : mapping (s.guests.modify i fun g => g.removeMapping d) j e =
            mapping s.guests j e := by
          rw [mapping, SlotTable.modify_slot, if_neg here, mapping]
        refine ⟨⟨hj, by simpa [here] using he⟩, by simp [cell, here], fun p state => ?_⟩
        exact Or.inl (by simpa [cell, here] using state)
    · rintro j e p f ⟨-, he⟩ owns
      have kept : (mapping s.guests i d).owns f = false := by
        by_contra freed
        obtain ⟨q, owner⟩ := owns_eq_true.mp (Bool.not_eq_false _ ▸ freed)
        obtain ⟨here, same, -⟩ := wf.unique owns ⟨⟨hi, hd⟩, owner⟩
        have here : j = i := here
        subst j
        simp only [if_pos] at same
        rw [SlotTable.modify_slot_self, count] at he
        split_ifs at same <;> omega
      simp [wf.allocated owns, kept]

theorem removeGuest_slot {r : Registry} {i j : ℕ} (hi : i < r.count) (hj : j < r.count - 1) :
    (removeGuest r i).slot j = r.slot (if j = i then r.count - 1 else j) := by
  rw [removeGuest, if_pos hi, SlotTable.swapRemove_slot, SlotTable.modify_count,
    SlotTable.modify_slot, if_neg]
  split_ifs <;> omega

theorem removeGuest_wellFormed {s : PagePool} (wf : WellFormed s) (i : ℕ) :
    WellFormed (RegistryOp.apply s (.removeGuest i)) := by
  change WellFormed ⟨removeGuest s.guests i, fun f => s.frames f && !freedByRemoval s.guests i f⟩
  by_cases hi : i < s.guests.count
  · have count : (removeGuest s.guests i).count = s.guests.count - 1 := by
      rw [removeGuest, if_pos hi]
      rfl
    have origin : ∀ {j e : ℕ}, Live (removeGuest s.guests i) j e → j < s.guests.count - 1 ∧
        e < (s.guests.slot (if j = i then s.guests.count - 1 else j)).dsmMap.count := by
      rintro j e ⟨hj, he⟩
      rw [count] at hj
      exact ⟨hj, removeGuest_slot hi hj ▸ he⟩
    refine wf.descend (fun j e => (if j = i then s.guests.count - 1 else j, e)) ?_ ?_ ?_
    · intro j e k l first second same
      obtain ⟨moved, rfl⟩ := Prod.mk.inj same
      exact ⟨SlotTable.origin_inj (origin first).1 (origin second).1 moved, rfl⟩
    · intro j e live
      obtain ⟨hj, he⟩ := origin live
      have cell : mapping (removeGuest s.guests i) j e =
          mapping s.guests (if j = i then s.guests.count - 1 else j) e := by
        rw [mapping, removeGuest_slot hi hj, mapping]
      exact Or.inr ⟨⟨SlotTable.origin_lt hj, he⟩, by rw [cell],
        fun p state => Or.inl (by rwa [cell] at state)⟩
    · intro j e p f live owns
      obtain ⟨hj, -⟩ := origin live
      have kept : freedByRemoval s.guests i f = false := by
        by_contra freed
        rw [Bool.not_eq_false, freedByRemoval, Bool.and_eq_true] at freed
        obtain ⟨d, hd, owner⟩ := List.any_eq_true.mp freed.2
        obtain ⟨q, owner⟩ := owns_eq_true.mp owner
        have same := (wf.unique owns ⟨⟨hi, List.mem_range.mp hd⟩, owner⟩).1
        simp only at same
        split_ifs at same <;> omega
      simp [wf.allocated owns, kept]
  · have same : removeGuest s.guests i = s.guests := by rw [removeGuest, if_neg hi]
    have kept : ∀ f, freedByRemoval s.guests i f = false := by simp [freedByRemoval, hi]
    simpa [same, kept] using wf

theorem backPage_pages (m : DsmMapping) (p q : PageIdx) (fresh : Option Frame) :
    (m.backPage p fresh).pages q =
      if q = p ∧ m.pages p = none then fresh else m.pages q := by
  unfold DsmMapping.backPage
  by_cases hq : q = p
  · subst q
    cases page : m.pages p <;> cases fresh <;> simp [DsmMapping.setPage, page]
  · cases page : m.pages p <;> cases fresh <;> simp [DsmMapping.setPage, hq]

theorem backPage_wellFormed {s : PagePool} (wf : WellFormed s) (tgid base : ℕ) (p : PageIdx)
    (fresh : Option Frame) (unused : Enabled s (.backPage tgid base p fresh)) :
    WellFormed (RegistryOp.apply s (.backPage tgid base p fresh)) := by
  change WellFormed ⟨modifyCell s.guests tgid base fun m => m.backPage p fresh,
    fun f => s.frames f || takenFrame s.guests tgid base p fresh == some f⟩
  unfold modifyCell takenFrame
  cases found : cellAt s.guests tgid base with
  | none => simpa using wf
  | some c =>
    obtain ⟨i, d⟩ := c
    obtain ⟨hi, hd, -, -⟩ := cellAt_some found
    -- a cell owns what it owned before, or it is the cell that took the fresh frame
    have origin : ∀ {j e q f},
        Owns (modifyMapping s.guests i d fun m => m.backPage p fresh) j e q f →
          Owns s.guests j e q f ∨ (j = i ∧ e = d ∧ q = p) ∧
            (mapping s.guests i d).pages p = none ∧ fresh = some f := by
      rintro j e q f ⟨live, page⟩
      have old := live_modifyMapping.mp live
      rw [mapping_modifyMapping] at page
      split_ifs at page with here
      · obtain ⟨rfl, rfl⟩ := here
        rw [backPage_pages] at page
        split_ifs at page with taken
        · exact Or.inr ⟨⟨rfl, rfl, taken.1⟩, taken.2, page⟩
        · exact Or.inl ⟨old, page⟩
      · exact Or.inl ⟨old, page⟩
    have foreign : ∀ {j e q f}, Owns s.guests j e q f → fresh ≠ some f := by
      rintro j e q f owns rfl
      exact Bool.false_ne_true ((unused : s.frames f = false).symm.trans (wf.allocated owns))
    refine ⟨?_, ?_, ?_⟩
    · intro j e q k l r f first second
      rcases origin first with first | ⟨⟨rfl, rfl, rfl⟩, -, taken⟩
      · rcases origin second with second | ⟨-, -, taken⟩
        · exact wf.unique first second
        · exact absurd taken (foreign first)
      · rcases origin second with second | ⟨⟨rfl, rfl, rfl⟩, -, -⟩
        · exact absurd taken (foreign second)
        · exact ⟨rfl, rfl, rfl⟩
    · intro j e q f owns
      rcases origin owns with old | ⟨-, empty, taken⟩
      · simp [wf.allocated old]
      · simp [empty, taken]
    · intro j e q live state
      have old := live_modifyMapping.mp live
      have kept : (mapping s.guests j e).pages q ≠ none → (mapping
          (modifyMapping s.guests i d fun m => m.backPage p fresh) j e).pages q ≠ none := by
        intro page
        rw [mapping_modifyMapping]
        split_ifs with here
        · obtain ⟨rfl, rfl⟩ := here
          rw [backPage_pages, if_neg]
          · exact page
          · rintro ⟨rfl, missing⟩
            exact page missing
        · exact page
      refine kept (wf.backed old ?_)
      simp only [mapping_modifyMapping] at state
      split_ifs at state
      · have same : ((mapping s.guests j e).backPage p fresh).pageStates =
            (mapping s.guests j e).pageStates := by
          unfold DsmMapping.backPage
          split <;> rfl
        rwa [same] at state
      · exact state

theorem step_wellFormed {s : PagePool} (wf : WellFormed s) (op : RegistryOp)
    (enabled : Enabled s op) (clean : TakesClean s op) : WellFormed (op.apply s) := by
  cases op with
  | addGuest localPid origPid homeNode => exact addGuest_wellFormed wf localPid origPid homeNode
  | removeGuest i => exact removeGuest_wellFormed wf i
  | populate tgid vmas => exact populate_wellFormed wf tgid vmas clean
  | shmat tgid base size shmid => exact shmat_wellFormed wf tgid base size shmid clean
  | shmdt tgid base => exact shmdt_wellFormed wf tgid base
  | backPage tgid base p fresh => exact backPage_wellFormed wf tgid base p fresh enabled
  | markShared tgid base p =>
    exact modifyCell_wellFormed wf tgid base p .shared fun _ => clean
  | upgrade tgid base p =>
    exact modifyCell_wellFormed wf tgid base p .exclusive fun _ => clean
  | markPresent tgid base p => exact markPresent_wellFormed wf tgid base p
  | clearPresent i => exact clearPresent_wellFormed wf i
  | setMigrating tgid b => exact setMigrating_wellFormed wf tgid b
  | invalidate shmid p acquirer => exact invalidate_wellFormed wf shmid p acquirer
  | flush origPid shmid p => exact flush_wellFormed wf origPid shmid p

theorem zeroPool_wellFormed : WellFormed zeroPool := by
  refine ⟨?_, ?_, ?_⟩
  · rintro i d p j e q f ⟨⟨hi, -⟩, -⟩
    exact absurd hi (Nat.not_lt_zero i)
  · rintro i d p f ⟨⟨hi, -⟩, -⟩
    exact absurd hi (Nat.not_lt_zero i)
  · rintro i d p ⟨hi, -⟩
    exact absurd hi (Nat.not_lt_zero i)

/-- In every run from a loaded module in which new mappings take clean slots and pages are marked
in cells that have them, the live cells stay well formed. -/
theorem registry_runs_wellFormed (ops : List RegistryOp)
    (clean : registryMachine.Follows TakesClean zeroPool ops) :
    registryMachine.Always WellFormed zeroPool ops :=
  clean.always (fun _ op wf enabled clean => step_wellFormed wf op enabled clean)
    zeroPool_wellFormed

theorem registry_runs_wellFormed_detach :
    registryMachine.Always WellFormed zeroPool
      [.addGuest 500 100 2, .shmat 500 4096 8192 7, .backPage 500 4096 0 (some 1),
        .markShared 500 4096 0, .upgrade 500 4096 0, .flush 100 7 0, .shmdt 500 4096,
        .removeGuest 0] :=
  registry_runs_wellFormed _ (by decide +kernel)

/-- Segment 8 moves into slot 0 when segment 7 goes; its old slot still points to its page, and
segment 9 is attached over it. -/
theorem reused_slot_aliases_page :
    registryMachine.Runs zeroPool
      [.addGuest 500 100 2, .shmat 500 4096 4096 7, .shmat 500 8192 4096 8,
        .backPage 500 8192 0 (some 1), .shmdt 500 4096, .shmat 500 12288 4096 9] ∧
    ¬ registryMachine.Always WellFormed zeroPool
      [.addGuest 500 100 2, .shmat 500 4096 4096 7, .shmat 500 8192 4096 8,
        .backPage 500 8192 0 (some 1), .shmdt 500 4096, .shmat 500 12288 4096 9] := by
  refine ⟨by decide, ?_⟩
  rintro ⟨-, -, -, -, -, -, wf⟩
  have same := wf.unique (i := 0) (d := 0) (p := 0) (j := 0) (e := 1) (q := 0) (f := 1)
    ⟨⟨by decide, by decide⟩, by decide⟩ ⟨⟨by decide, by decide⟩, by decide⟩
  exact absurd same.2.1 (by decide)

end MattX.GuestRegistryFrames
