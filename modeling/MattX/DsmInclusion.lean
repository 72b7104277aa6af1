import MattX.DsmCopies

set_option autoImplicit false

/-!
# The directory against the copies it should know of

The home node can invalidate no copy that its directory does not have. The
result is about runs: as long as every step keeps the record, every copy is
recorded or an INVALIDATE is on its way to it.
-/
namespace MattX.DsmInclusion
open GuestRegistry GuestRegistryFrames GuestHost DsmDirectory DsmDirectoryLaws DsmCluster DsmSteps
open DsmMoves DsmEffects DsmDirectoryRecords DsmCopies GuardedRuns Machine

/-- Every copy of the page is about to be invalidated. -/
def Freed (c : Cluster) (h : Node) (shmid : ℕ) (p : PageIdx) : Prop :=
  ∀ x, Copy c x → x.home = h → x.shmid = shmid → x.page = p → Doomed c x

/-- The mapping found by address is the one the fault is about. -/
def OwnCell (r : Registry) (tgid base : ℕ) (x : PageKey) : Prop :=
  ∀ o ∈ cellAt r tgid base, (r.slot o.1).homeNode = x.home ∧ (r.slot o.1).origPid = x.origPid ∧
    (mapping r o.1 o.2).shmid = x.shmid

/-- What a step must find so that the directory still knows of every copy after it. -/
def KeepsRecord (c : Cluster) : Event → Prop
  | .fault k .record => ∀ t ∈ c.faults[k]?,
      findEntry (c.dir t.key.home) t.key.shmid = none → freeSlot (c.dir t.key.home) ≠ none
  | .fault k .downgrade => ∀ t ∈ c.faults[k]?, Freed c t.key.home t.key.shmid t.key.page
  | .fault k .mark => ∀ t ∈ c.faults[k]?, OwnCell (c.guests t.key.node) t.tgid t.base t.key
  | .fault k (.interrupt (some _)) => ∀ t ∈ c.faults[k]?, Recorded c t.key ∨ Doomed c t.key
  | .acquire k .grant => ∀ a ∈ c.acquires[k]?, findEntry (c.dir a.key.home) a.key.shmid ≠ none ∧
      ∀ d ∈ findEntry (c.dir a.key.home) a.key.shmid, ∀ x, Copy c x → x.home = a.key.home →
        x.shmid = a.key.shmid → x.page = a.key.page → x.origPid ≠ a.key.origPid → Doomed c x ∨
          ((c.dir x.home d).pageSharedMask x.page).test x.node = true ∧ c.link x.home x.node = true
  | .acquire k .upgrade => ∀ a ∈ c.acquires[k]?, OwnCell (c.guests a.key.node) a.tgid a.base a.key
  | .update k .cleanup => ∀ u ∈ c.updates[k]?,
      Owned (c.dir u.key.home) u.key.shmid u.key.page u.key.origPid →
        Freed c u.key.home u.key.shmid u.key.page
  | .sync k .downgrade => ∀ y ∈ c.syncs[k]?, ∀ d ∈ y.dirIdx,
      findEntry (c.dir y.home) (c.dir y.home d).shmid = some d →
        Freed c y.home (c.dir y.home d).shmid y.page
  | .sync k .claim => ∀ y ∈ c.syncs[k]?, y.isWrite = true → ∀ d ∈ y.dirIdx, ∀ x, Copy c x →
      x.home = y.home → findEntry (c.dir y.home) x.shmid = some d → x.page = y.page →
        Doomed c x ∨ x.shmid = y.shmid ∧ x.origPid ≠ 0 ∧
          ((c.dir x.home d).pageSharedMask x.page).test x.node = true ∧ c.link x.home x.node = true
  | .removeSegment h s => ∀ x, Copy c x → x.home = h → x.shmid = s → Doomed c x
  | .invalidate k => ∀ v ∈ c.invalidates[k]?, ∀ x, Granted c x → v.home = x.home →
      Invalidate.hits v x → Recorded c x ∨ DoomedBy (c.invalidates.eraseIdx k) x
  | .invalidateLost k => ∀ v ∈ c.invalidates[k]?, ∀ x, Copy c x → v.home = x.home →
      Invalidate.hits v x → Recorded c x ∨ DoomedBy (c.invalidates.eraseIdx k) x
  | .shmat n tgid _ _ _ => ∀ i ∈ guestOf (c.guests n) tgid,
      ((c.guests n).slot i).dsmMap.count < maxDsmSegments →
        ∀ p, (mapping (c.guests n) i ((c.guests n).slot i).dsmMap.count).pageStates p = .invalid
  | .populate n tgid vmas => ∀ i ∈ guestOf (c.guests n) tgid,
      ∀ d < min vmas.length maxDsmSegments, ∀ p,
        (mapping (c.guests n) i d).pageStates p = .invalid
  | _ => True

instance (c : Cluster) (h : Node) (shmid : ℕ) (p : PageIdx) : Decidable (Freed c h shmid p) := by
  unfold Freed
  infer_instance

instance (r : Registry) (tgid base : ℕ) (x : PageKey) : Decidable (OwnCell r tgid base x) := by
  unfold OwnCell
  infer_instance

instance (c : Cluster) (e : Event) : Decidable (KeepsRecord c e) := by
  unfold KeepsRecord
  split <;> infer_instance

def flushedNode : FaultStage → Option Node
  | .flushing _ n => some n
  | _ => none

def syncedNode : SyncStage → Option Node
  | .flushing _ n => some n
  | _ => none

/-- A FLUSH of the page is on its way to the node. -/
def Flushing (c : Cluster) (x : PageKey) : Prop :=
  (∃ t ∈ c.faults, flushedNode t.stage = some x.node ∧ t.key.home = x.home ∧
    t.key.shmid = x.shmid ∧ t.key.page = x.page) ∨
  ∃ y ∈ c.syncs, syncedNode y.stage = some x.node ∧ y.home = x.home ∧ y.shmid = x.shmid ∧
    y.page = x.page

instance (c : Cluster) (x : PageKey) : Decidable (Flushing c x) := by
  unfold Flushing
  infer_instance

/-- Every copy is recorded, unless a message that takes it is on its way. -/
def Included (c : Cluster) : Prop :=
  ∀ x st, st ≠ .invalid → Cell c x st → Recorded c x ∨ Doomed c x ∨ Flushing c x

/-- The invariant behind it, for replies in flight as well. -/
def Tracked (c : Cluster) : Prop := ∀ x, Copy c x → Recorded c x ∨ Doomed c x

theorem OwnCell.key {r : Registry} {tgid base : ℕ} {x y : PageKey} (own : OwnCell r tgid base x)
    (key : CellKey r tgid base y) (node : y.node = x.node) (page : y.page = x.page) : x = y := by
  obtain ⟨i, d, found, home, pid, segment⟩ := key
  obtain ⟨home', pid', segment'⟩ := own (i, d) found
  exact PageKey.ext (home'.symm.trans home) node.symm (pid'.symm.trans pid)
    (segment'.symm.trans segment) page.symm

/-- A copy was there before, or the home node or an old reply hands it out now. -/
theorem copy_origin {c c' : Cluster} {e : Event} (move : Move c e c') (ok : KeepsRecord c e)
    {x : PageKey} (h : Copy c' x) : Copy c x ∨ Serves c e x ∨ Resumes c e x ∨ Grants c e x := by
  rcases h with ⟨st, active, cell⟩ | reads | writes
  · rcases cell_origin move active cell with old | marks
    · exact Or.inl (Or.inl ⟨st, active, old⟩)
    · refine Or.inl ?_
      cases marks with
      | @shared k t _ found stage node page key =>
        have same := OwnCell.key (ok t found) (node ▸ key) node page
        exact Or.inr (Or.inl ⟨t, List.mem_of_getElem? found, same, by rw [reads, stage]⟩)
      | @exclusive k a _ found stage waiting node page key =>
        have same := OwnCell.key (ok a found) (node ▸ key) node page
        exact Or.inr (Or.inr ⟨a, List.mem_of_getElem? found, same, by rw [writes, stage, waiting]⟩)
      | attached node guest room left => exact absurd (left.symm.trans (ok _ guest room _)) active
      | imported node guest taken left => exact absurd (left.symm.trans (ok _ guest _ taken _)) active
  · rcases readGrant_step move reads with old | new
    · exact Or.inl (Or.inr (Or.inl old))
    · exact Or.inr (new.imp_right Or.inl)
  · rcases writeGrant_step move writes with old | new
    · exact Or.inl (Or.inr (Or.inr old))
    · exact Or.inr (Or.inr (Or.inr new))

/-- What a step makes the directory forget, it replaces by an INVALIDATE. -/
theorem forgotten_doomed {c c' : Cluster} {e : Event} (move : Move c e c') (ok : KeepsRecord c e)
    {x : PageKey} (h : Copy c x) (forgets : Forgets c e x) : Recorded c' x ∨ Doomed c' x := by
  have still : (∀ k, e ≠ .invalidate k ∧ e ≠ .invalidateLost k) → Doomed c x →
      Recorded c' x ∨ Doomed c' x := by
    intro other doomed
    rcases doomed_step move doomed with doomed | ⟨k, v, event, -⟩
    · exact Or.inr doomed
    · exact absurd event (not_or.mpr (other k))
  have sent : ∀ {v}, Sends c e v → v.home = x.home → Invalidate.hits v x → Doomed c' x := by
    intro v sends home hits
    rcases invalidates_kept move (Or.inr sends) with member | ⟨k, rfl | rfl, -⟩
    · exact ⟨v, member, home, hits⟩
    · exact nomatch sends
    · exact nomatch sends
  cases forgets with
  | downgraded found home segment page =>
    exact still (fun _ => ⟨nofun, nofun⟩) (ok _ found x h home segment page)
  | @granted k a _ found stage home segment page =>
    obtain ⟨d, listed⟩ := Option.ne_none_iff_exists'.mp (ok a found).1
    by_cases mine : x.origPid = a.key.origPid
    · have owned := granted_owned move found stage (ok a found).1
      rw [← home, ← segment, ← page, ← mine] at owned
      exact Or.inl (Or.inl owned)
    · rcases (ok a found).2 d listed x h home segment page mine with doomed | ⟨bit, linked⟩
      · exact still (fun _ => ⟨nofun, nofun⟩) doomed
      · rw [home] at bit linked
        rw [page] at bit
        exact Or.inr (sent (.granted found stage listed bit linked) home.symm
          ⟨rfl, segment.symm, page.symm, fun same => mine same.symm⟩)
  | cleaned found home segment page owned =>
    exact still (fun _ => ⟨nofun, nofun⟩) (ok _ found owned x h home segment page)
  | lowered found idx home listed page =>
    obtain ⟨-, segment⟩ := findEntry_some listed
    exact still (fun _ => ⟨nofun, nofun⟩)
      (ok _ found _ idx (segment.symm ▸ listed) x h home segment.symm page)
  | @claimed k y d _ found stage write idx home listed page =>
    rcases ok y found write d idx x h home listed page with
      doomed | ⟨segment, process, bit, linked⟩
    · exact still (fun _ => ⟨nofun, nofun⟩) doomed
    · rw [home] at bit linked
      rw [page] at bit
      exact Or.inr (sent (.claimed found stage write idx bit linked) home.symm
        ⟨rfl, segment.symm, page.symm, process.symm⟩)
  | removed home segment => exact still (fun _ => ⟨nofun, nofun⟩) (ok x h home segment)

/-- A copy that an INVALIDATE was to take is still accounted for once that is gone. -/
theorem lifted_tracked {c c' : Cluster} {e : Event} (move : Move c e c') (ok : KeepsRecord c e)
    {x : PageKey} (h : Copy c' x) {k : ℕ} {v : Invalidate}
    (event : e = .invalidate k ∨ e = .invalidateLost k) (found : c.invalidates[k]? = some v)
    (home : v.home = x.home) (hits : Invalidate.hits v x) :
    Recorded c x ∨ DoomedBy (c.invalidates.eraseIdx k) x := by
  rcases event with rfl | rfl
  · refine ok v found x ?_ home hits
    rcases h with ⟨st, active, cell⟩ | reads | writes
    · exact absurd hits (cell_invalidate move found active cell)
    · rcases readGrant_step move reads with old | ⟨_, _, _, no, -⟩ | ⟨_, _, _, no, -⟩
      · exact Or.inl old
      · exact nomatch no
      · exact nomatch no
    · rcases writeGrant_step move writes with old | ⟨_, _, no, -⟩
      · exact Or.inr old
      · exact nomatch no
  · refine ok v found x ?_ home hits
    rcases copy_origin move ok h with old | ⟨_, _, _, no, -⟩ | ⟨_, _, _, no, -⟩ | ⟨_, _, no, -⟩
    · exact old
    · exact nomatch no
    · exact nomatch no
    · exact nomatch no

theorem served_recorded {c c' : Cluster} {e : Event} (move : Move c e c') (mode : c.mode = 2)
    (ok : KeepsRecord c e) {x : PageKey} (serves : Serves c e x) : Recorded c' x := by
  obtain ⟨k, t, data, rfl, found, stage, rfl⟩ := serves
  refine Or.inr ?_
  rw [dir_step move]
  simp only [dirOp, found, Option.bind_some, faultDirOp, stage, if_pos mode, dirAfter, if_true]
  exact reader_served _ _ _ (ok t found)

theorem tracked_step {c c' : Cluster} {e : Event} (move : Move c e c') (mode : c.mode = 2)
    (ok : KeepsRecord c e) (tracked : Tracked c) : Tracked c' := by
  have kept : ∀ {x}, Recorded c x → Copy c x → Recorded c' x ∨ Doomed c' x := by
    intro x recorded copy
    rcases recorded_step move recorded with kept | forgets
    · exact Or.inl kept
    · exact forgotten_doomed move ok copy forgets
  intro x copy'
  rcases copy_origin move ok copy' with old | serves | resumes | grants
  · rcases tracked x old with recorded | doomed
    · exact kept recorded old
    · rcases doomed_step move doomed with still | ⟨k, v, event, found, home, hits, erased⟩
      · exact Or.inr still
      · rcases lifted_tracked move ok copy' event found home hits with recorded | rest
        · exact kept recorded old
        · exact Or.inr (by rw [Doomed, erased]; exact rest)
  · exact Or.inl (served_recorded move mode ok serves)
  · obtain ⟨k, t, data, rfl, found, rfl⟩ := resumes
    rcases ok t found with recorded | doomed
    · rcases recorded_step move recorded with kept | forgets
      · exact Or.inl kept
      · exact nomatch forgets
    · rcases doomed_step move doomed with still | ⟨_, _, no | no, -⟩
      · exact Or.inr still
      · exact nomatch no
      · exact nomatch no
  · obtain ⟨k, a, rfl, found, stage, rfl⟩ := grants
    exact Or.inl (Or.inl (granted_owned move found stage (ok a found).1))

/-- Two deputies of home 0 that have the one page of segment 7 attached. -/
def twoDeputies : Boot where
  link _ _ := true
  phys _ _ _ := 0
  tasks h pid := if h = 0 ∧ (pid = 100 ∨ pid = 101) then some ⟨[⟨7, 4096⟩], false⟩ else none
  ram _ _ _ _ := 0
  resident _ _ _ := true
  mapped _ _ _ _ := false

def arrival (n : Node) (tgid origPid : ℕ) : List Event :=
  [.importGuest n tgid origPid 0, .exportAdd 0 origPid n, .shmat n tgid 4096 4096 7]

/-- A read fault that finds nobody to flush, from the trap to the last cell. -/
def readFault (n : Node) (tgid : ℕ) (f : Frame) : List Event :=
  [.faultStart n tgid 4096, .fault 0 .hunt, .fault 0 .lookup, .fault 0 (.route true),
    .fault 0 (.pump true), .fault 0 .record, .fault 0 (.place (some f)), .fault 0 .copy,
    .fault 0 .inject, .fault 0 .mark, .fault 0 .present]

/-- A fault on a page that is EXCLUSIVE at another guest. -/
def flushFault (n : Node) (tgid : ℕ) (f : Frame) : List Event :=
  [.faultStart n tgid 4096, .fault 0 .hunt, .fault 0 .lookup, .fault 0 (.route true),
    .fault 0 .flushCopy, .fault 0 .flushZap, .fault 0 .ram, .fault 0 .downgrade,
    .fault 0 (.pump true), .fault 0 .record, .fault 0 (.place (some f)), .fault 0 .copy,
    .fault 0 .inject, .fault 0 .mark, .fault 0 .present]

/-- A write-protect fault whose INVALIDATEs are all applied before the reply. -/
def writeFault (n : Node) (tgid invalidates : ℕ) : List Event :=
  [.acquireStart n tgid 4096, .acquire 0 .grant, .acquire 0 .shoot] ++
    List.replicate invalidates (.invalidate 0) ++ [.acquire 0 .upgrade, .acquire 0 .writable]

/-- Two guests that take turns: read, write, read of the written page, read, write. -/
def turns : List Event :=
  arrival 1 500 100 ++ readFault 1 500 1 ++ writeFault 1 500 1 ++ arrival 2 501 101 ++
    flushFault 2 501 1 ++ readFault 1 500 2 ++ writeFault 2 501 2

theorem tracked_boot (b : Boot) : Tracked (b.cluster 2) := by
  rintro x (⟨st, active, g, ⟨i, no, -⟩, -⟩ | ⟨t, no, -⟩ | ⟨a, no, -⟩)
  · exact absurd no (Nat.not_lt_zero i)
  · exact nomatch no
  · exact nomatch no

/-- In mode 2, as long as every step keeps the record, the directory knows of every copy that no
message on its way will take. -/
theorem copies_included (b : Boot) (es : List Event)
    (run : clusterMachine.Follows KeepsRecord (b.cluster 2) es) :
    clusterMachine.Always Included (b.cluster 2) es := by
  refine Always.mono (I := fun c => c.mode = 2 ∧ Tracked c) ?_
    (run.always ?_ ⟨rfl, tracked_boot b⟩)
  · rintro c ⟨-, tracked⟩ x st active cell
    exact (tracked x (Or.inl ⟨st, active, cell⟩)).imp_right Or.inl
  · rintro c e ⟨mode, tracked⟩ enabled ok
    have move := step_move (step_of_enabled enabled)
    exact ⟨(mode_step move).trans mode, tracked_step move mode ok tracked⟩

theorem copies_included_turns : clusterMachine.Always Included (twoDeputies.cluster 2) turns :=
  copies_included twoDeputies turns (by decide +kernel)

/-- Both guests read the page and write to it. The second grant finds the page EXCLUSIVE, takes
it without a flush or an INVALIDATE, and the first writer then goes on unrecorded. -/
theorem second_grant_forgets_first :
    let es := arrival 1 500 100 ++ readFault 1 500 1 ++ arrival 2 501 101 ++ readFault 2 501 1 ++
      [.acquireStart 1 500 4096, .acquireStart 2 501 4096, .acquire 0 .grant, .acquire 1 .grant,
        .invalidate 0, .invalidate 0, .acquire 0 .shoot, .acquire 0 .upgrade]
    let c := clusterMachine.after (twoDeputies.cluster 2) es
    clusterMachine.Runs (twoDeputies.cluster 2) es ∧ c.invalidates.length = 0 ∧ ¬ Included c := by
  refine ⟨by decide +kernel, by decide +kernel, fun included => ?_⟩
  have cell := included ⟨0, 1, 100, 7, 0⟩ .exclusive (by decide) (by decide +kernel)
  revert cell
  decide +kernel

end MattX.DsmInclusion
