import MattX.GuestHost

set_option autoImplicit false

namespace MattX.GuestIsolation
open GuestRegistry GuestRegistryFrames GuestHost

/-- Page states, page pointers and page tables of guest `i` are what they were. -/
def Untouched (h h' : Host) (i : ℕ) : Prop := ∀ d, Live h.guests i d → ∀ q,
  (mapping h'.guests i d).pageStates q = (mapping h.guests i d).pageStates q ∧
  (mapping h'.guests i d).pages q = (mapping h.guests i d).pages q ∧
  h'.pte (h.guests.slot i).localPid (mapping h.guests i d).baseAddr q =
    h.pte (h.guests.slot i).localPid (mapping h.guests i d).baseAddr q

/-- The guests a reply's data is copied from: at most the one the flush stops at. -/
def CopiedFrom (h : Host) : HomeRequest → ℕ → Prop
  | .invalidate .., _ => False
  | .flush origPid shmid p, i => ∃ d, flushTarget h.guests origPid shmid = some (i, d) ∧
    Dirty (mapping h.guests i d) p

/-- What the request asks of mapping `d` of guest `i`, a guest of the home that sent it. -/
def Served (h h' : Host) : HomeRequest → ℕ → ℕ → Prop
  | .invalidate shmid p acquirer, i, d =>
    (h.guests.slot i).origPid ≠ acquirer → (mapping h.guests i d).shmid = shmid →
      (mapping h'.guests i d).pageStates p = .invalid ∧
      h'.pte (h.guests.slot i).localPid (mapping h.guests i d).baseAddr p = .absent
  | .flush origPid shmid p, i, d =>
    (h.guests.slot i).origPid = origPid → (mapping h.guests i d).shmid = shmid →
      ¬ Dirty (mapping h'.guests i d) p

/-- A request of `home` touches, reads and reaches the guests of `home` and no others. -/
structure Isolated (h : Host) (home : Node) (req : HomeRequest) : Prop where
  memory : (h.serve req).1.phys = h.phys
  foreign : ∀ i < h.guests.count, (h.guests.slot i).homeNode ≠ home →
    Untouched h (h.serve req).1 i ∧ ¬ CopiedFrom h req i
  own : ∀ i d, Live h.guests i d → (h.guests.slot i).homeNode = home →
    Served h (h.serve req).1 req i d

/-- What keeps a request apart from the guests of other homes. For an invalidation: none of them
has the page in a segment of that number, nor in a page table that is zapped. For a flush: the
first guest of that pid is not a foreign one with a dirty page, a guest of `home` that has the page
dirty is the one the search stops at, and no foreign page table is zapped. -/
def Separate (h : Host) (home : Node) : HomeRequest → Prop
  | .invalidate shmid p acquirer =>
    ∀ i d, Live h.guests i d → (h.guests.slot i).homeNode ≠ home →
      ((h.guests.slot i).origPid ≠ acquirer → (mapping h.guests i d).shmid = shmid →
        (mapping h.guests i d).pageStates p = .invalid) ∧
      (invalidateHits h.guests shmid acquirer (h.guests.slot i).localPid
        (mapping h.guests i d).baseAddr = true →
        h.pte (h.guests.slot i).localPid (mapping h.guests i d).baseAddr p = .absent)
  | .flush origPid shmid p =>
    (∀ i d, flushTarget h.guests origPid shmid = some (i, d) →
      (h.guests.slot i).homeNode ≠ home → ¬ Dirty (mapping h.guests i d) p) ∧
    ∀ i d, Live h.guests i d →
      ((h.guests.slot i).homeNode = home → (h.guests.slot i).origPid = origPid →
        (mapping h.guests i d).shmid = shmid → Dirty (mapping h.guests i d) p →
        flushTarget h.guests origPid shmid = some (i, d)) ∧
      ((h.guests.slot i).homeNode ≠ home →
        flushHits h.guests origPid shmid p (h.guests.slot i).localPid
          (mapping h.guests i d).baseAddr = true →
        h.pte (h.guests.slot i).localPid (mapping h.guests i d).baseAddr p = .absent)

theorem invalidate_isolated (h : Host) (home : Node) (shmid : ℕ) (p : PageIdx) (acquirer : ℕ) :
    Isolated h home (.invalidate shmid p acquirer) ↔
      Separate h home (.invalidate shmid p acquirer) := by
  have cell : ∀ {i d}, Live h.guests i d →
      mapping (h.serve (.invalidate shmid p acquirer)).1.guests i d =
        if (h.guests.slot i).origPid ≠ acquirer ∧ (mapping h.guests i d).shmid = shmid then
          (mapping h.guests i d).setState p .invalid
        else mapping h.guests i d := fun live => mapping_invalidate live shmid p acquirer
  have entry : ∀ t b q, (h.serve (.invalidate shmid p acquirer)).1.pte t b q =
      if q = p ∧ invalidateHits h.guests shmid acquirer t b = true then .absent
      else h.pte t b q := fun _ _ _ => rfl
  constructor
  · intro isolated i d live foreign
    have untouched := (isolated.foreign i live.1 foreign).1 d live p
    constructor
    · intro other segment
      rw [← untouched.1, cell live, if_pos ⟨other, segment⟩, DsmMapping.setState_apply,
        if_pos rfl]
    · intro hit
      rw [← untouched.2.2, entry, if_pos ⟨rfl, hit⟩]
  · intro separate
    refine ⟨rfl, ?_, ?_⟩
    · intro i hi foreign
      refine ⟨fun d live q => ⟨?_, ?_, ?_⟩, id⟩
      · rw [cell live]
        split_ifs with lowered
        · rw [DsmMapping.setState_apply]
          split_ifs with hq
          · rw [hq, (separate i d live foreign).1 lowered.1 lowered.2]
          · rfl
        · rfl
      · rw [cell live]
        split_ifs <;> rfl
      · rw [entry]
        split_ifs with hit
        · rw [hit.1, (separate i d live foreign).2 hit.2]
        · rfl
    · intro i d live _ other segment
      constructor
      · rw [cell live, if_pos ⟨other, segment⟩, DsmMapping.setState_apply, if_pos rfl]
      · rw [entry, if_pos ⟨rfl, invalidateHits_eq_true.mpr
          ⟨i, d, live, other, rfl, segment, rfl⟩⟩]

theorem flush_isolated (h : Host) (home : Node) (origPid shmid : ℕ) (p : PageIdx) :
    Isolated h home (.flush origPid shmid p) ↔ Separate h home (.flush origPid shmid p) := by
  have cell : ∀ i d, mapping (h.serve (.flush origPid shmid p)).1.guests i d =
      if flushTarget h.guests origPid shmid = some (i, d) ∧ Dirty (mapping h.guests i d) p then
        (mapping h.guests i d).setState p .invalid
      else mapping h.guests i d := mapping_flush h.guests origPid shmid p
  have entry : ∀ t b q, (h.serve (.flush origPid shmid p)).1.pte t b q =
      if q = p ∧ flushHits h.guests origPid shmid p t b = true then .absent
      else h.pte t b q := fun _ _ _ => rfl
  constructor
  · intro isolated
    refine ⟨?_, fun i d live => ⟨?_, ?_⟩⟩
    · intro i d target foreign dirty
      exact (isolated.foreign i (flushTarget_some target).1 foreign).2 ⟨d, target, dirty⟩
    · intro own pid segment dirty
      have served := isolated.own i d live own pid segment
      rw [cell] at served
      split_ifs at served with copied
      · exact copied.1
      · exact absurd dirty served
    · intro foreign hit
      have untouched := (isolated.foreign i live.1 foreign).1 d live p
      rw [← untouched.2.2, entry, if_pos ⟨rfl, hit⟩]
  · rintro ⟨first, rest⟩
    refine ⟨rfl, ?_, ?_⟩
    · intro i hi foreign
      refine ⟨fun d live q => ?_, ?_⟩
      · have same : mapping (h.serve (.flush origPid shmid p)).1.guests i d =
            mapping h.guests i d := by
          rw [cell, if_neg fun copied => first i d copied.1 foreign copied.2]
        refine ⟨by rw [same], by rw [same], ?_⟩
        rw [entry]
        split_ifs with hit
        · rw [hit.1, ((rest i d live).2 foreign) hit.2]
        · rfl
      · rintro ⟨d, target, dirty⟩
        exact first i d target foreign dirty
    · intro i d live own pid segment dirty
      rw [cell] at dirty
      split_ifs at dirty with copied
      · have state := dirty.2
        rw [DsmMapping.setState_apply, if_pos rfl] at state
        exact nomatch state
      · exact copied ⟨(rest i d live).1 own pid segment dirty, dirty⟩

/-- On every host state, a request of `home` keeps to the guests of `home` exactly when no guest
of another home collides with it. -/
theorem request_isolated_iff (h : Host) (home : Node) (req : HomeRequest) :
    Isolated h home req ↔ Separate h home req := by
  cases req with
  | invalidate shmid p acquirer => exact invalidate_isolated h home shmid p acquirer
  | flush origPid shmid p => exact flush_isolated h home origPid shmid p

/-- Two homes with a process 100 and a segment 7 each; the guest of home 2 came first and writes. -/
def sharedHost : Host where
  pool := registryMachine.after zeroPool
    [.addGuest 500 100 2, .shmat 500 4096 4096 7, .backPage 500 4096 0 (some 8),
      .markShared 500 4096 0, .upgrade 500 4096 0, .addGuest 501 100 1, .shmat 501 4096 4096 7,
      .backPage 501 4096 0 (some 9), .markShared 501 4096 0]
  phys f := fun _ => if f = 8 then 1 else 0
  pte t b p :=
    if t = 500 ∧ b = 4096 ∧ p = 0 then .writable 8
    else if t = 501 ∧ b = 4096 ∧ p = 0 then .readOnly 9
    else .absent

/-- Requests of home 1 take the page from home 2's guest: one zaps it, the other sends its bytes. -/
theorem sharedHost_not_isolated :
    (mapping sharedHost.guests 0 0).pageStates 0 = .exclusive ∧
    (sharedHost.guests.slot 0).homeNode = 2 ∧
    (mapping (sharedHost.serve (.invalidate 7 0 300)).1.guests 0 0).pageStates 0 = .invalid ∧
    (sharedHost.serve (.flush 100 7 0)).2 = some (sharedHost.phys 8) ∧
    ¬ Isolated sharedHost 1 (.invalidate 7 0 300) ∧ ¬ Isolated sharedHost 1 (.flush 100 7 0) := by
  have live : Live sharedHost.guests 0 0 := ⟨by decide, by decide⟩
  refine ⟨by decide, by decide, by decide, rfl, fun isolated => ?_, fun isolated => ?_⟩
  · have untouched := (isolated.foreign 0 (by decide) (by decide)).1 0 live 0
    exact absurd untouched.1 (by decide)
  · exact (isolated.foreign 0 (by decide) (by decide)).2 ⟨0, by decide, by decide⟩

end MattX.GuestIsolation
