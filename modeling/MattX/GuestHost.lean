import MattX.GuestRegistryFrames

set_option autoImplicit false

/-!
# A host node: the registry, the memory behind it and the page tables of the guests
-/
namespace MattX.GuestHost
open GuestRegistry GuestRegistryFrames

inductive Pte where
  | absent
  | readOnly (f : Frame)
  | writable (f : Frame)
  deriving DecidableEq, Repr

/-- `pte t b p` is the entry of page `p` of the area that process `t` has mapped at `b`. -/
structure Host where
  pool : PagePool
  phys : Frame → Page
  pte : ℕ → ℕ → PageIdx → Pte

namespace Host

def guests (h : Host) : Registry := h.pool.guests

def apply (h : Host) (op : RegistryOp) : Host := { h with pool := op.apply h.pool }

/-- `real_zap_vma_ptes` for page `p` of the areas in `hit`. -/
def zap (h : Host) (hit : ℕ → ℕ → Bool) (p : PageIdx) : Host :=
  { h with pte := fun t b q => if q = p ∧ hit t b = true then .absent else h.pte t b q }

end Host

/-- What the home node can ask of a host. Neither kworker looks at who sent it. -/
inductive HomeRequest where
  | invalidate (shmid : ℕ) (p : PageIdx) (acquirer : ℕ)
  | flush (origPid shmid : ℕ) (p : PageIdx)

def invalidateHits (r : Registry) (shmid acquirer t b : ℕ) : Bool :=
  (List.range r.count).any fun i => (r.slot i).origPid != acquirer && (r.slot i).localPid == t &&
    (List.range (r.slot i).dsmMap.count).any fun d =>
      (mapping r i d).shmid == shmid && (mapping r i d).baseAddr == b

def flushHits (r : Registry) (origPid shmid : ℕ) (p : PageIdx) (t b : ℕ) : Bool :=
  match flushedFrame r origPid shmid p with
  | some (i, d, _) => (r.slot i).localPid == t && (mapping r i d).baseAddr == b
  | none => false

/-- `mattx_dsm_invalidate_kworker`. -/
def Host.invalidate (h : Host) (shmid : ℕ) (p : PageIdx) (acquirer : ℕ) : Host :=
  (h.apply (.invalidate shmid p acquirer)).zap (invalidateHits h.guests shmid acquirer) p

/-- `mattx_dsm_flush_kworker` up to the zap: the copied page and the lowered state. -/
def Host.flushCopy (h : Host) (origPid shmid : ℕ) (p : PageIdx) : Host × Option Page :=
  (h.apply (.flush origPid shmid p), (flushedFrame h.guests origPid shmid p).map fun c => h.phys c.2.2)

def Host.flush (h : Host) (origPid shmid : ℕ) (p : PageIdx) : Host × Option Page :=
  ((h.flushCopy origPid shmid p).1.zap (flushHits h.guests origPid shmid p) p,
    (h.flushCopy origPid shmid p).2)

def Host.serve (h : Host) : HomeRequest → Host × Option Page
  | .invalidate shmid p acquirer => (h.invalidate shmid p acquirer, none)
  | .flush origPid shmid p => h.flush origPid shmid p

/-- The page would be copied and returned by a flush that stops at this mapping. -/
def Dirty (m : DsmMapping) (p : PageIdx) : Prop :=
  m.pages p ≠ none ∧ m.pageStates p = .exclusive

instance (m : DsmMapping) (p : PageIdx) : Decidable (Dirty m p) := by
  unfold Dirty
  infer_instance

theorem flushedFrame_isSome {r : Registry} {origPid shmid i d : ℕ} {p : PageIdx}
    (target : flushTarget r origPid shmid = some (i, d)) (dirty : Dirty (mapping r i d) p) :
    ∃ f, flushedFrame r origPid shmid p = some (i, d, f) := by
  obtain ⟨f, page⟩ := Option.ne_none_iff_exists'.mp dirty.1
  exact ⟨f, by simp [flushedFrame, target, page, dirty.2]⟩

theorem flushedFrame_some {r : Registry} {origPid shmid i d : ℕ} {p : PageIdx} {f : Frame}
    (h : flushedFrame r origPid shmid p = some (i, d, f)) :
    flushTarget r origPid shmid = some (i, d) ∧ (mapping r i d).pages p = some f ∧
      (mapping r i d).pageStates p = .exclusive := by
  unfold flushedFrame at h
  split at h
  · rename_i i' d' target
    split at h
    · rename_i f' page
      split_ifs at h with state
      obtain ⟨rfl, rest⟩ := Prod.mk.inj (Option.some.inj h)
      obtain ⟨rfl, rfl⟩ := Prod.mk.inj rest
      exact ⟨target, page, state⟩
    · exact nomatch h
  · exact nomatch h

/-- A flush lowers the page it copies and leaves every other mapping alone. -/
theorem mapping_flush (r : Registry) (origPid shmid : ℕ) (p : PageIdx) (i d : ℕ) :
    mapping (flush r origPid shmid p) i d =
      if flushTarget r origPid shmid = some (i, d) ∧ Dirty (mapping r i d) p then
        (mapping r i d).setState p .invalid
      else mapping r i d := by
  unfold flush
  cases copied : flushedFrame r origPid shmid p with
  | none =>
    rw [if_neg]
    rintro ⟨target, dirty⟩
    obtain ⟨f, found⟩ := flushedFrame_isSome target dirty
    rw [copied] at found
    exact nomatch found
  | some c =>
    obtain ⟨j, e, f⟩ := c
    obtain ⟨target, page, state⟩ := flushedFrame_some copied
    simp only [mapping_modifyMapping]
    by_cases here : i = j ∧ d = e
    · obtain ⟨rfl, rfl⟩ := here
      rw [if_pos ⟨rfl, rfl⟩, if_pos ⟨target, by simp [page], state⟩]
    · rw [if_neg here, if_neg]
      rintro ⟨other, -⟩
      obtain ⟨rfl, rfl⟩ := Prod.mk.inj (Option.some.inj (target.symm.trans other))
      exact here ⟨rfl, rfl⟩

theorem mapping_invalidate {r : Registry} {i d : ℕ} (live : Live r i d) (shmid : ℕ) (p : PageIdx)
    (acquirer : ℕ) :
    mapping (invalidate r shmid p acquirer) i d =
      if (r.slot i).origPid ≠ acquirer ∧ (mapping r i d).shmid = shmid then
        (mapping r i d).setState p .invalid
      else mapping r i d := by
  unfold mapping GuestRegistry.invalidate
  rw [SlotTable.mapLive_slot live.1]
  by_cases skipped : (r.slot i).origPid = acquirer
  · rw [if_pos skipped, if_neg fun h => h.1 skipped]
  · rw [if_neg skipped]
    change ((r.slot i).dsmMap.mapLive _).slot d = _
    rw [SlotTable.mapLive_slot live.2]
    by_cases same : ((r.slot i).dsmMap.slot d).shmid = shmid
    · rw [if_pos same, if_pos ⟨skipped, same⟩]
    · rw [if_neg same, if_neg fun h => same h.2]

theorem invalidateHits_eq_true {r : Registry} {shmid acquirer t b : ℕ} :
    invalidateHits r shmid acquirer t b = true ↔
      ∃ i d, Live r i d ∧ (r.slot i).origPid ≠ acquirer ∧ (r.slot i).localPid = t ∧
        (mapping r i d).shmid = shmid ∧ (mapping r i d).baseAddr = b := by
  simp only [invalidateHits, List.any_eq_true, List.mem_range, Bool.and_eq_true, bne_iff_ne,
    beq_iff_eq, Live]
  constructor
  · rintro ⟨i, hi, ⟨other, process⟩, d, hd, segment, base⟩
    exact ⟨i, d, ⟨hi, hd⟩, other, process, segment, base⟩
  · rintro ⟨i, d, ⟨hi, hd⟩, other, process, segment, base⟩
    exact ⟨i, hi, ⟨other, process⟩, d, hd, segment, base⟩

end MattX.GuestHost
