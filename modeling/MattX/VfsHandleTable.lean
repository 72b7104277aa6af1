import MattX.VfsHandleClaims

set_option autoImplicit false

/-!
# What is in a server's table of open files

As long as no step drops a claim, each index in use has a claimant; when no
message is under way that is a handle, or a call that has its reply.
-/
namespace MattX.VfsHandles
open GuardedRuns VfsRpc
open RequestHandlers (maxFds)

structure Sound (s : State) : Prop where
  matching : Matching s
  answered : Answered s
  held : Held s

theorem sound_boot : Sound boot where
  matching := ⟨by simp [boot], by simp [boot], by simp [boot]⟩
  answered := ⟨by simp [boot], by simp [boot]⟩
  held := ⟨by simp [boot, tally], by simp [boot, tally, Claimed]⟩

theorem sound_next {s : State} (h : Sound s) (e : Event) (en : enabled s e) (ok : Truthful s e) :
    Sound (next s e) := by
  obtain ⟨lost, effect, -⟩ := effect_next h.matching e en ok
  exact ⟨h.matching.next e en ok, h.answered.next e en ok, h.held.effect effect⟩

/-- Every index in use is claimed. -/
def Owned (s : State) : Prop := ∀ n fd, s.table n fd ≠ none → 0 < tally (isAt n fd) s

theorem Owned.effect {s s' : State} (h : Owned s) (held : Held s) (e : Effect s s' none) :
    Owned s' := by
  intro n fd used
  cases e with
  | moves eq table =>
    have moved := eq (isAt n fd)
    rw [table] at used
    have was := h n fd used
    simp only [weigh, Option.any_none, Bool.false_eq_true, if_false] at moved
    omega
  | frees y all eq table =>
    have moved := eq (isAt n fd)
    by_cases place : y.node = n ∧ y.fd = fd
    · have claimed : Claimed s y := by
        have one := eq (· == y)
        rw [weigh_some, if_pos (by simp)] at one
        unfold Claimed
        omega
      rw [table, ← place.1, ← place.2, clearFd_same s y.node (held.held y claimed).1] at used
      exact absurd rfl used
    · rw [table, clearFd_other s fun is => place ⟨is.1.symm, is.2.symm⟩] at used
      have was := h n fd used
      rw [weigh_some, if_neg fun is => place (isAt_iff.mp is)] at moved
      omega
  | makes y room file free eq table =>
    have moved := eq (isAt n fd)
    by_cases place : y.node = n ∧ y.fd = fd
    · rw [weigh_some _ y, if_pos (isAt_iff.mpr place)] at moved
      simp only [weigh, Option.any_none, Bool.false_eq_true, if_false] at moved
      omega
    · rw [table, setFd_other s y.file fun is => place ⟨is.1.symm, is.2.symm⟩] at used
      have was := h n fd used
      rw [weigh_some _ y, if_neg fun is => place (isAt_iff.mp is)] at moved
      simp only [weigh, Option.any_none, Bool.false_eq_true, if_false] at moved
      omega

/-- The live handles to an index, and the calls that have a reply that grants it. -/
def owners (s : State) (n fd : ℕ) : List Handle :=
  (s.handles ++ s.calls.filterMap Call.claim).filter (isAt n fd)

/-- When no message is under way, each index in use has exactly one owner, who has the file that is
there, and an index that is not in use has none. -/
def Settled (s : State) : Prop :=
  s.wire = [] → ∀ n fd,
    (s.table n fd = none → owners s n fd = []) ∧
      ∀ f, s.table n fd = some f → ∃ h, owners s n fd = [h] ∧ h.file = some f

theorem claimed_of_tally {s : State} {h : Handle}
    (mem : h ∈ s.handles ++ s.calls.filterMap Call.claim) : Claimed s h := by
  cases List.mem_append.mp mem with
  | inl live =>
    have pos : 0 < s.handles.countP (· == h) := List.countP_pos_iff.mpr ⟨h, live, by simp⟩
    unfold Claimed tally
    omega
  | inr granted =>
    obtain ⟨c, called, claim⟩ := List.mem_filterMap.mp granted
    have pos : 0 < s.calls.countP (fun c => c.claim.any (· == h)) :=
      List.countP_pos_iff.mpr ⟨c, called, by simp [claim]⟩
    unfold Claimed tally
    omega

instance (s : State) (p : Packet) (err : ℤ) (sent : Bool) : Decidable (Reaches s p err sent) := by
  cases p with
  | mk src dst conn msg => cases msg <;> unfold Reaches <;> infer_instance

instance (s : State) (e : Event) : Decidable (Complete s e) :=
  match e with
  | .finish c _ alloc sent =>
    inferInstanceAs (Decidable (c.want = .open → c.error = 0 → alloc = false →
      Posts s c.client c.server sent))
  | .close h sent => inferInstanceAs (Decidable (h.node ≠ h.client → Posts s h.client h.node sent))
  | .deliver i err sent => inferInstanceAs (Decidable (∀ p ∈ s.wire[i]?, Reaches s p err sent))
  | .lose i => inferInstanceAs (Decidable (∀ p ∈ s.wire[i]?, p.claim = none))
  | .setHpc .. | .relink .. | .open .. | .use .. | .other .. => isTrue trivial

/-- Node 1 has a connection to node 2 and opens a file there. -/
def openThere : List Event :=
  [.relink 1 2 (some 0), .relink 2 1 (some 0), .open 1 2 [] 0 true true, .deliver 0 0 true,
    .deliver 0 0 true, .finish ⟨1, firstSlot, 1, 2, .open, true, 0, 0, some 0⟩ false true true]

end MattX.VfsHandles
