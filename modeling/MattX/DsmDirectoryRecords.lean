import MattX.DsmDirectoryLaws

set_option autoImplicit false

namespace MattX.DsmDirectoryRecords
open WordMask DsmDirectory DsmDirectoryLaws

/-- The state, owner and mask that the segment's entry has for the page. -/
def record (dir : GlobalDir) (shmid : ℕ) (p : PageIdx) : Option (PageState × ℕ × NodeMask) :=
  (findEntry dir shmid).map fun d =>
    ((dir d).pageState p, (dir d).pageOwnerPid p, (dir d).pageSharedMask p)

def Owned (dir : GlobalDir) (shmid : ℕ) (p : PageIdx) (pid : ℕ) : Prop :=
  ∃ mask, record dir shmid p = some (.exclusive, pid, mask)

def Reader (dir : GlobalDir) (shmid : ℕ) (p : PageIdx) (n : Node) : Prop :=
  ∃ st owner mask, record dir shmid p = some (st, owner, mask) ∧ mask.test n = true

instance (dir : GlobalDir) (shmid : ℕ) (p : PageIdx) (pid : ℕ) :
    Decidable (Owned dir shmid p pid) :=
  decidable_of_iff ((record dir shmid p).any fun r => r.1 == .exclusive && r.2.1 == pid) (by
    cases found : record dir shmid p with
    | none => simp [Owned, found]
    | some r => simp [Owned, found, Prod.ext_iff])

instance (dir : GlobalDir) (shmid : ℕ) (p : PageIdx) (n : Node) :
    Decidable (Reader dir shmid p n) :=
  decidable_of_iff ((record dir shmid p).any fun r => r.2.2.test n) (by
    cases found : record dir shmid p with
    | none => simp [Reader, found]
    | some r => simp [Reader, found, Prod.ext_iff])

/-- The operation forgets what the entry of the segment had on the page. -/
def Resets (dir : GlobalDir) : DirOp → ℕ → PageIdx → Prop
  | .flushDowngrade shmid q, s, p | .writeAcquire shmid q _, s, p => shmid = s ∧ q = p
  | .nativeDowngrade d q, s, p | .nativeClaim d q, s, p => findEntry dir s = some d ∧ q = p
  | .bombCleanup shmid q pid, s, p => shmid = s ∧ q = p ∧ Owned dir s p pid
  | .removeSegment shmid, s, _ => shmid = s
  | .faultService .., _, _ => False

theorem Owned.unique {dir : GlobalDir} {shmid : ℕ} {p : PageIdx} {pid pid' : ℕ}
    (h : Owned dir shmid p pid) (h' : Owned dir shmid p pid') : pid = pid' := by
  obtain ⟨mask, found⟩ := h
  obtain ⟨mask', found'⟩ := h'
  rw [found] at found'
  exact (Prod.mk.inj (Prod.mk.inj (Option.some.inj found')).2).1

/-- An entry keeps the page unless the operation writes that page of that entry. -/
theorem setPage_page (dir : GlobalDir) {d e : Slot} {p q : PageIdx} (other : e ≠ d ∨ q ≠ p)
    (st : PageState) (owner : ℕ) (mask : NodeMask) :
    (setPage dir d p st owner mask e).pageState q = (dir e).pageState q ∧
    (setPage dir d p st owner mask e).pageOwnerPid q = (dir e).pageOwnerPid q ∧
    (setPage dir d p st owner mask e).pageSharedMask q = (dir e).pageSharedMask q := by
  rw [setPage_apply]
  split_ifs with here
  · have hq : q ≠ p := other.resolve_left (fun h => h here)
    simp [MasterDir.setPage, hq, here]
  · exact ⟨rfl, rfl, rfl⟩

theorem setPage_self (dir : GlobalDir) (d : Slot) (p : PageIdx) (st : PageState) (owner : ℕ)
    (mask : NodeMask) :
    (setPage dir d p st owner mask d).pageState p = st ∧
    (setPage dir d p st owner mask d).pageOwnerPid p = owner ∧
    (setPage dir d p st owner mask d).pageSharedMask p = mask := by
  simp [setPage_apply, MasterDir.setPage]

theorem record_setPage_other {dir : GlobalDir} {d : Slot} {shmid : ℕ} {p q : PageIdx}
    (other : findEntry dir shmid = some d → q ≠ p) (st : PageState) (owner : ℕ)
    (mask : NodeMask) : record (setPage dir d p st owner mask) shmid q = record dir shmid q := by
  unfold record
  rw [findEntry_setPage]
  cases found : findEntry dir shmid with
  | none => rfl
  | some e =>
    have apart : e ≠ d ∨ q ≠ p := by
      by_cases he : e = d
      · exact Or.inr (other (he ▸ found))
      · exact Or.inl he
    obtain ⟨hs, ho, hm⟩ := setPage_page dir apart st owner mask
    simp only [Option.map_some, hs, ho, hm]

theorem record_setPage_self {dir : GlobalDir} {d : Slot} {shmid : ℕ}
    (found : findEntry dir shmid = some d) (p : PageIdx) (st : PageState) (owner : ℕ)
    (mask : NodeMask) :
    record (setPage dir d p st owner mask) shmid p = some (st, owner, mask) := by
  obtain ⟨hs, ho, hm⟩ := setPage_self dir d p st owner mask
  simp only [record, findEntry_setPage, found, Option.map_some, hs, ho, hm]

theorem owned_setPage {dir : GlobalDir} {d : Slot} {shmid : ℕ}
    (found : findEntry dir shmid = some d) (p : PageIdx) (pid : ℕ) (mask : NodeMask) :
    Owned (setPage dir d p .exclusive pid mask) shmid p pid :=
  ⟨mask, record_setPage_self found p .exclusive pid mask⟩

/-- Entries of other segments are none of a registration's business. -/
theorem record_register_other {dir : GlobalDir} {d : Slot} {shmid s : ℕ} (homePid : ℕ)
    (free : (dir d).inUse = false) (other : shmid ≠ s) (p : PageIdx) :
    record (register dir d shmid homePid) s p = record dir s p := by
  have same : findEntry (register dir d shmid homePid) s = findEntry dir s := by
    refine findEntry_congr fun e => ?_
    by_cases he : e = d
    · subst e
      simp [register, free, other]
    · simp [register, he]
  unfold record
  rw [same]
  cases found : findEntry dir s with
  | none => rfl
  | some e =>
    have he : e ≠ d := by
      rintro rfl
      exact Bool.false_ne_true (free.symm.trans (findEntry_some found).1)
    simp [register, he]

theorem record_removeSegment_other {dir : GlobalDir} {shmid s : ℕ} (other : shmid ≠ s)
    (p : PageIdx) : record (removeSegment dir shmid) s p = record dir s p := by
  unfold removeSegment
  cases removed : findEntry dir shmid with
  | none => rfl
  | some d =>
    obtain ⟨-, segment⟩ := findEntry_some removed
    have same : findEntry (Function.update dir d { dir d with inUse := false }) s =
        findEntry dir s := by
      refine findEntry_congr fun e => ?_
      by_cases he : e = d
      · subst e
        simp [segment, other]
      · simp [he]
    unfold record
    simp only [same]
    cases found : findEntry dir s with
    | none => rfl
    | some e =>
      have he : e ≠ d := by
        rintro rfl
        exact other (segment.symm.trans (findEntry_some found).2)
      simp [he]

/-- A page is recorded as before unless the operation resets it or serves a fault on it. -/
theorem record_kept {dir : GlobalDir} {op : DirOp} {s : ℕ} {p : PageIdx}
    (known : record dir s p ≠ none) (no : ¬ Resets dir op s p)
    (unserved : ∀ homePid n, op ≠ .faultService s homePid p n) :
    record (op.apply dir) s p = record dir s p := by
  cases op with
  | faultService shmid homePid q n =>
    change record (recordReader dir shmid homePid q n) s p = _
    have apart : shmid = s → p ≠ q := by
      rintro rfl rfl
      exact unserved homePid n rfl
    unfold recordReader
    cases found : findEntry dir shmid with
    | some d =>
      refine record_setPage_other (fun here => apart ?_) _ _ _
      exact (findEntry_some found).2.symm.trans (findEntry_some here).2
    | none =>
      cases free : freeSlot dir with
      | none => rfl
      | some d =>
        have other : shmid ≠ s := by
          rintro rfl
          exact known (by rw [record, found]; rfl)
        rw [← record_register_other homePid (freeSlot_some free) other]
        refine record_setPage_other (fun here => absurd (findEntry_some here).2 ?_) _ _ _
        simpa [register] using other
  | flushDowngrade shmid q =>
    change record (flushDowngrade dir shmid q) s p = _
    unfold flushDowngrade
    cases found : findEntry dir shmid with
    | none => rfl
    | some d =>
      refine record_setPage_other (fun here => fun hq => no ⟨?_, hq.symm⟩) _ _ _
      exact (findEntry_some found).2.symm.trans (findEntry_some here).2
  | writeAcquire shmid q pid =>
    change record (writeAcquire dir shmid q pid).1 s p = _
    unfold writeAcquire
    cases found : findEntry dir shmid with
    | none => rfl
    | some d =>
      refine record_setPage_other (fun here => fun hq => no ⟨?_, hq.symm⟩) _ _ _
      exact (findEntry_some found).2.symm.trans (findEntry_some here).2
  | nativeDowngrade d q =>
    exact record_setPage_other (fun here => fun hq => no ⟨here, hq.symm⟩) _ _ _
  | nativeClaim d q =>
    exact record_setPage_other (fun here => fun hq => no ⟨here, hq.symm⟩) _ _ _
  | bombCleanup shmid q pid =>
    change record (bombCleanup dir shmid q pid) s p = _
    unfold bombCleanup
    cases found : findEntry dir shmid with
    | none => rfl
    | some d =>
      simp only
      split_ifs with owner
      · refine record_setPage_other (fun here => fun hq => ?_) _ _ _
        have segment := (findEntry_some found).2.symm.trans (findEntry_some here).2
        refine no ⟨segment, hq.symm, (dir d).pageSharedMask p, ?_⟩
        rw [record, here, Option.map_some, hq, owner.1, owner.2]
      · rfl
  | removeSegment shmid => exact record_removeSegment_other no p

/-- Serving a fault adds the node to the mask and turns INVALID into SHARED. -/
theorem record_served {dir : GlobalDir} {s : ℕ} {p : PageIdx} {st : PageState} {owner : ℕ}
    {mask : NodeMask} (known : record dir s p = some (st, owner, mask)) (homePid : ℕ) (n : Node) :
    record ((DirOp.faultService s homePid p n).apply dir) s p =
      some (if st = .invalid then .shared else st, owner, mask.set n) := by
  obtain ⟨d, found, same⟩ := Option.map_eq_some_iff.mp known
  obtain ⟨rfl, rest⟩ := Prod.mk.inj same
  obtain ⟨rfl, rfl⟩ := Prod.mk.inj rest
  change record (recordReader dir s homePid p n) s p = _
  simp only [recordReader, found]
  exact record_setPage_self found _ _ _ _

theorem record_registered {dir : GlobalDir} {s : ℕ} {d : Slot}
    (found : findEntry dir s = none) (free : freeSlot dir = some d) (homePid : ℕ) (p : PageIdx)
    (n : Node) : record ((DirOp.faultService s homePid p n).apply dir) s p =
      some (.shared, 0, empty.set n) := by
  change record (recordReader dir s homePid p n) s p = _
  simp only [recordReader, found, free]
  refine (record_setPage_self (findEntry_register found d homePid) _ _ _ _).trans ?_
  simp [register, MasterDir.zero]

theorem Owned.kept {dir : GlobalDir} {op : DirOp} {s : ℕ} {p : PageIdx} {pid : ℕ}
    (h : Owned dir s p pid) (no : ¬ Resets dir op s p) : Owned (op.apply dir) s p pid := by
  obtain ⟨mask, known⟩ := h
  by_cases served : ∃ homePid n, op = .faultService s homePid p n
  · obtain ⟨homePid, n, rfl⟩ := served
    exact ⟨mask.set n, record_served known homePid n⟩
  · push Not at served
    exact ⟨mask, (record_kept (by simp [known]) no served).trans known⟩

theorem Reader.kept {dir : GlobalDir} {op : DirOp} {s : ℕ} {p : PageIdx} {n : Node}
    (h : Reader dir s p n) (no : ¬ Resets dir op s p) : Reader (op.apply dir) s p n := by
  obtain ⟨st, owner, mask, known, bit⟩ := h
  by_cases served : ∃ homePid m, op = .faultService s homePid p m
  · obtain ⟨homePid, m, rfl⟩ := served
    exact ⟨_, owner, mask.set m, record_served known homePid m, (test_set ..).mpr (Or.inl bit)⟩
  · push Not at served
    exact ⟨st, owner, mask, (record_kept (by simp [known]) no served).trans known, bit⟩

/-- The node is in the mask once its fault is served, if there was an entry or room for one. -/
theorem reader_served {dir : GlobalDir} {s : ℕ} (homePid : ℕ) (p : PageIdx) (n : Node)
    (room : findEntry dir s = none → freeSlot dir ≠ none) :
    Reader ((DirOp.faultService s homePid p n).apply dir) s p n := by
  have bit : ∀ mask : NodeMask, (mask.set n).test n = true :=
    fun mask => (test_set ..).mpr (Or.inr rfl)
  cases found : findEntry dir s with
  | some d =>
    exact ⟨_, _, _, record_served (by rw [record, found]; rfl) homePid n, bit _⟩
  | none =>
    obtain ⟨d, free⟩ := Option.ne_none_iff_exists'.mp (room found)
    exact ⟨_, _, _, record_registered found free homePid p n, bit _⟩

/-- No two active slots are for one segment. -/
def UniqueEntries (dir : GlobalDir) : Prop :=
  ∀ d e, (dir d).inUse = true → (dir e).inUse = true → (dir d).shmid = (dir e).shmid → d = e

/-- A slot in use was in use for the same segment, or has just been registered. -/
theorem slot_apply (dir : GlobalDir) (op : DirOp) (e : Slot) :
    ((op.apply dir e).inUse = true →
      (dir e).inUse = true ∧ (op.apply dir e).shmid = (dir e).shmid) ∨
    ∃ shmid homePid p n, op = .faultService shmid homePid p n ∧ findEntry dir shmid = none ∧
      freeSlot dir = some e ∧ (op.apply dir e).shmid = shmid := by
  have page : ∀ d p st owner mask, (setPage dir d p st owner mask e).inUse = true →
      (dir e).inUse = true ∧ (setPage dir d p st owner mask e).shmid = (dir e).shmid := by
    intro d p st owner mask used
    exact ⟨by rwa [setPage_inUse] at used, setPage_shmid ..⟩
  have same : (dir e).inUse = true → (dir e).inUse = true ∧ (dir e).shmid = (dir e).shmid :=
    fun used => ⟨used, rfl⟩
  cases op with
  | faultService shmid homePid p n =>
    simp only [DirOp.apply, recordReader]
    cases found : findEntry dir shmid with
    | some d => exact Or.inl (page d p _ _ _)
    | none =>
      cases free : freeSlot dir with
      | none => exact Or.inl same
      | some d =>
        by_cases he : e = d
        · exact Or.inr ⟨shmid, homePid, p, n, rfl, found, by rw [he], by
            simp [markReader, register, he]⟩
        · refine Or.inl fun used => ?_
          simp only [markReader, setPage_inUse, setPage_shmid, register,
            Function.update_of_ne he] at used ⊢
          exact ⟨used, trivial⟩
  | flushDowngrade shmid p =>
    simp only [DirOp.apply, flushDowngrade]
    cases findEntry dir shmid with
    | some d => exact Or.inl (page d p _ _ _)
    | none => exact Or.inl same
  | writeAcquire shmid p pid =>
    simp only [DirOp.apply, writeAcquire]
    cases findEntry dir shmid with
    | some d => exact Or.inl (page d p _ _ _)
    | none => exact Or.inl same
  | nativeDowngrade d p => exact Or.inl (page d p _ _ _)
  | nativeClaim d p => exact Or.inl (page d p _ _ _)
  | bombCleanup shmid p pid =>
    simp only [DirOp.apply, bombCleanup]
    cases findEntry dir shmid with
    | some d =>
      simp only
      split_ifs
      · exact Or.inl (page d p _ _ _)
      · exact Or.inl same
    | none => exact Or.inl same
  | removeSegment shmid =>
    simp only [DirOp.apply, removeSegment]
    cases findEntry dir shmid with
    | some d =>
      by_cases he : e = d
      · exact Or.inl fun used => by simp [he] at used
      · simp only [Function.update_of_ne he]
        exact Or.inl fun used => ⟨used, trivial⟩
    | none => exact Or.inl same

theorem UniqueEntries.apply {dir : GlobalDir} (unique : UniqueEntries dir) (op : DirOp) :
    UniqueEntries (op.apply dir) := by
  intro e f he hf same
  rcases slot_apply dir op e with old | ⟨shmid, homePid, p, n, rfl, missing, free, new⟩
  · obtain ⟨used, segment⟩ := old he
    rcases slot_apply dir op f with old' | ⟨shmid, homePid, p, n, rfl, missing, free, new⟩
    · obtain ⟨used', segment'⟩ := old' hf
      exact unique e f used used' (segment.symm.trans (same.trans segment'))
    · exact absurd (segment.symm.trans (same.trans new)) (findEntry_none missing e used)
  · rcases slot_apply dir (.faultService shmid homePid p n) f with
      old' | ⟨_, _, _, _, -, -, free', -⟩
    · obtain ⟨used', segment'⟩ := old' hf
      exact absurd (segment'.symm.trans (same.symm.trans new)) (findEntry_none missing f used')
    · exact Option.some.inj (free.symm.trans free')

theorem Owned.needsSync {dir : GlobalDir} {s : ℕ} {p : PageIdx} {pid : ℕ}
    (h : Owned dir s p pid) (process : pid ≠ 0) (w : Bool) : needsSync dir s p w = true := by
  obtain ⟨mask, known⟩ := h
  obtain ⟨d, found, entry⟩ := Option.map_eq_some_iff.mp known
  obtain ⟨state, rest⟩ := Prod.mk.inj entry
  have remote : (dir d).pageState p = .exclusive ∧ (dir d).pageOwnerPid p ≠ 0 :=
    ⟨state, by rw [(Prod.mk.inj rest).1]; exact process⟩
  simp only [DsmDirectory.needsSync, found, if_pos remote]

theorem Owned.exclusiveOwner {dir : GlobalDir} {s : ℕ} {p : PageIdx} {pid : ℕ}
    (h : Owned dir s p pid) : exclusiveOwner dir s p = pid := by
  obtain ⟨mask, known⟩ := h
  obtain ⟨d, found, entry⟩ := Option.map_eq_some_iff.mp known
  obtain ⟨state, rest⟩ := Prod.mk.inj entry
  simp only [DsmDirectory.exclusiveOwner, found, if_pos state]
  exact (Prod.mk.inj rest).1

/-- In a well-formed table a mask bit stands beside the state SHARED. -/
theorem Reader.copyRecorded {dir : GlobalDir} (wf : WellFormed dir) {s : ℕ} {p : PageIdx} {n : Node}
    (h : Reader dir s p n) : CopyRecorded dir s p n := by
  obtain ⟨st, owner, mask, known, bit⟩ := h
  obtain ⟨d, found, entry⟩ := Option.map_eq_some_iff.mp known
  obtain ⟨state, rest⟩ := Prod.mk.inj entry
  rw [← (Prod.mk.inj rest).2] at bit
  have nonempty : (dir d).pageSharedMask p ≠ empty := by
    intro none
    rw [none, test_empty] at bit
    exact Bool.false_ne_true bit
  refine ⟨d, found, ?_, bit⟩
  obtain ⟨exclusive, -, invalid⟩ := wf d p
  cases here : (dir d).pageState p with
  | invalid => exact absurd (invalid here) nonempty
  | shared => rfl
  | exclusive => exact absurd (exclusive here) nonempty

theorem reader_iff {dir : GlobalDir} {s : ℕ} {p : PageIdx} {n : Node} {st : PageState} {owner : ℕ}
    {mask : NodeMask} (known : record dir s p = some (st, owner, mask)) :
    Reader dir s p n ↔ mask.test n = true := by
  constructor
  · rintro ⟨_, _, _, found, bit⟩
    rw [known] at found
    cases Option.some.inj found
    exact bit
  · exact fun bit => ⟨st, owner, mask, known, bit⟩

theorem unread_blank {dir : GlobalDir} {s : ℕ} {p : PageIdx} {st : PageState} {owner : ℕ}
    (known : record dir s p = some (st, owner, empty)) (n : Node) : ¬ Reader dir s p n := by
  rw [reader_iff known, test_empty]
  exact Bool.false_ne_true

theorem unread_unlisted {dir : GlobalDir} {s : ℕ} (missing : findEntry dir s = none) (p : PageIdx)
    (n : Node) : ¬ Reader dir s p n := by
  rintro ⟨_, _, _, found, -⟩
  rw [record, missing] at found
  exact nomatch found

/-- After a reset no reader of the page is on record. -/
theorem unread_reset {dir : GlobalDir} (unique : UniqueEntries dir) {op : DirOp} {s : ℕ}
    {p : PageIdx} (resets : Resets dir op s p) (n : Node) : ¬ Reader (op.apply dir) s p n := by
  cases op with
  | faultService => exact resets.elim
  | writeAcquire shmid q pid =>
    obtain ⟨rfl, rfl⟩ := resets
    change ¬ Reader (writeAcquire dir shmid q pid).1 shmid q n
    unfold writeAcquire
    cases found : findEntry dir shmid with
    | none => exact unread_unlisted found q n
    | some d => exact unread_blank (record_setPage_self found _ _ _ _) n
  | flushDowngrade shmid q =>
    obtain ⟨rfl, rfl⟩ := resets
    change ¬ Reader (flushDowngrade dir shmid q) shmid q n
    unfold flushDowngrade
    cases found : findEntry dir shmid with
    | none => exact unread_unlisted found q n
    | some d => exact unread_blank (record_setPage_self found _ _ _ _) n
  | nativeDowngrade d q =>
    obtain ⟨found, rfl⟩ := resets
    exact unread_blank (record_setPage_self found _ _ _ _) n
  | nativeClaim d q =>
    obtain ⟨found, rfl⟩ := resets
    exact unread_blank (record_setPage_self found _ _ _ _) n
  | bombCleanup shmid q pid =>
    obtain ⟨rfl, rfl, mask, owned⟩ := resets
    obtain ⟨d, found, entry⟩ := Option.map_eq_some_iff.mp owned
    obtain ⟨state, rest⟩ := Prod.mk.inj entry
    change ¬ Reader (bombCleanup dir shmid q pid) shmid q n
    simp only [bombCleanup, found, state, (Prod.mk.inj rest).1, and_self, if_true]
    exact unread_blank (record_setPage_self found _ _ _ _) n
  | removeSegment shmid =>
    obtain rfl := resets
    refine unread_unlisted ?_ p n
    change findEntry (removeSegment dir shmid) shmid = none
    unfold removeSegment
    cases found : findEntry dir shmid with
    | none => exact found
    | some d =>
      obtain ⟨used, segment⟩ := findEntry_some found
      by_contra listed
      obtain ⟨e, listed⟩ := Option.ne_none_iff_exists'.mp listed
      obtain ⟨used', segment'⟩ := findEntry_some listed
      by_cases he : e = d
      · simp [he] at used'
      · simp only [Function.update_of_ne he] at used' segment'
        exact he (unique e d used' used (segment'.trans segment.symm))

/-- A segment without an entry gets one with the first reader of a page of it. -/
theorem unread_listed {dir : GlobalDir} {op : DirOp} {s : ℕ} {p : PageIdx} {n : Node}
    (missing : findEntry dir s = none) (other : ∀ homePid, op ≠ .faultService s homePid p n) :
    ¬ Reader (op.apply dir) s p n := by
  cases found : findEntry (op.apply dir) s with
  | none => exact unread_unlisted found p n
  | some e =>
    obtain ⟨used, segment⟩ := findEntry_some found
    rcases slot_apply dir op e with old | ⟨shmid, homePid, q, m, rfl, -, free, new⟩
    · obtain ⟨used', same⟩ := old used
      exact absurd (same.symm.trans segment) (findEntry_none missing e used')
    · obtain rfl := new.symm.trans segment
      by_cases page : p = q
      · subst q
        have node : n ≠ m := fun same => other homePid (by rw [same])
        rw [reader_iff (record_registered missing free homePid p m), test_set, test_empty]
        simp [node]
      · change ¬ Reader (recordReader dir shmid homePid q m) shmid p n
        simp only [recordReader, missing, free, markReader]
        have kept : record (register dir e shmid homePid) shmid p = some (.invalid, 0, empty) := by
          rw [record, findEntry_register missing]
          simp [register, MasterDir.zero]
        exact unread_blank ((record_setPage_other (fun _ => page) _ _ _).trans kept) n

/-- A node becomes a reader by having its fault served. -/
theorem Reader.origin {dir : GlobalDir} (unique : UniqueEntries dir) {op : DirOp} {s : ℕ}
    {p : PageIdx} {n : Node} (h : Reader (op.apply dir) s p n) :
    Reader dir s p n ∨ ∃ homePid, op = .faultService s homePid p n := by
  by_cases served : ∃ homePid, op = .faultService s homePid p n
  · exact Or.inr served
  · push Not at served
    refine Or.inl ?_
    by_cases resets : Resets dir op s p
    · exact absurd h (unread_reset unique resets n)
    · cases known : record dir s p with
      | none => exact absurd h (unread_listed (Option.map_eq_none_iff.mp known) served)
      | some r =>
        by_cases another : ∃ homePid m, op = .faultService s homePid p m
        · obtain ⟨homePid, m, rfl⟩ := another
          have node : n ≠ m := fun same => served homePid (by rw [same])
          rw [reader_iff (record_served known homePid m), test_set] at h
          exact (reader_iff known).mpr (h.resolve_right node)
        · push Not at another
          obtain ⟨st, owner, mask, found, bit⟩ := h
          rw [record_kept (by rw [known]; nofun) resets another] at found
          exact ⟨st, owner, mask, found, bit⟩

end MattX.DsmDirectoryRecords
