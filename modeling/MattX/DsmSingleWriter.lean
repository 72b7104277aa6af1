import MattX.DsmInclusion
import MattX.GuestResidents

set_option autoImplicit false

/-!
# One writer at a time

The reply to a write acquire is all the right to write there is: it waits for
no INVALIDATE and asks no earlier owner. The result names what each step must
find for that to be enough.
-/
namespace MattX.DsmSingleWriter
open GuestRegistry GuestRegistryFrames GuestResidents GuestHost DsmDirectory DsmDirectoryLaws DsmCluster
open DsmSteps DsmMoves DsmEffects DsmDirectoryRecords DsmCopies DsmInclusion GuardedRuns Machine

/-- No reply that grants the page for writing is on its way. -/
def NoGrant (c : Cluster) (h : Node) (shmid : ℕ) (p : PageIdx) : Prop :=
  ∀ a ∈ c.acquires, writes a = true →
    ¬ (a.key.home = h ∧ a.key.shmid = shmid ∧ a.key.page = p)

/-- What a step must find, besides a kept record, to leave at most one writer. -/
def KeepsWriter (c : Cluster) : Event → Prop
  | .fault k .record => ∀ t ∈ c.faults[k]?,
      canRecord (c.dir t.key.home) t.key.shmid t.key.page = true
  | .fault k .downgrade => ∀ t ∈ c.faults[k]?, NoGrant c t.key.home t.key.shmid t.key.page
  | .acquire k .grant => ∀ a ∈ c.acquires[k]?, ∀ b ∈ c.acquires, writes b = true →
      b.key.home = a.key.home → b.key.shmid = a.key.shmid → b.key.page = a.key.page →
        b.key.origPid = a.key.origPid
  | .acquire k .upgrade => ∀ a ∈ c.acquires[k]?, ∀ v ∈ c.invalidates,
      ¬ (v.home = a.key.home ∧ v.shmid = a.key.shmid ∧ v.page = a.key.page)
  | .update k .cleanup => ∀ u ∈ c.updates[k]?,
      Owned (c.dir u.key.home) u.key.shmid u.key.page u.key.origPid →
        NoGrant c u.key.home u.key.shmid u.key.page
  | .sync k .downgrade => ∀ y ∈ c.syncs[k]?, ∀ d ∈ y.dirIdx,
      NoGrant c y.home (c.dir y.home d).shmid y.page
  | .sync k .claim => ∀ y ∈ c.syncs[k]?, y.isWrite = true → ∀ d ∈ y.dirIdx,
      findEntry (c.dir y.home) y.shmid = some d ∧ NoGrant c y.home y.shmid y.page
  | .removeSegment h s => ∀ a ∈ c.acquires, writes a = true → ¬ (a.key.home = h ∧ a.key.shmid = s)
  | .importGuest _ _ origPid h => ∀ m, ∀ j < (c.guests m).count,
      resident (c.guests m) j ≠ (h, origPid)
  | _ => True

def KeepsOrder (c : Cluster) (e : Event) : Prop := KeepsRecord c e ∧ KeepsWriter c e

instance (c : Cluster) (h : Node) (shmid : ℕ) (p : PageIdx) : Decidable (NoGrant c h shmid p) := by
  unfold NoGrant
  infer_instance

instance (c : Cluster) (e : Event) : Decidable (KeepsWriter c e) := by
  induction e using Event.casesOn with
  | fault k s => induction s using FaultStep.casesOn <;> unfold KeepsWriter <;> infer_instance
  | acquire k s => induction s using AcquireStep.casesOn <;> unfold KeepsWriter <;> infer_instance
  | update k s => induction s using UpdateStep.casesOn <;> unfold KeepsWriter <;> infer_instance
  | sync k s => induction s using SyncStep.casesOn <;> unfold KeepsWriter <;> infer_instance
  | _ => unfold KeepsWriter; infer_instance

instance (c : Cluster) (e : Event) : Decidable (KeepsOrder c e) :=
  inferInstanceAs (Decidable (_ ∧ _))

/-- A guest that has the page EXCLUSIVE is the only one that has it. -/
def SingleWriter (c : Cluster) : Prop :=
  ∀ n i d m j e p, Live (c.guests n) i d → Live (c.guests m) j e →
    ((c.guests n).slot i).homeNode = ((c.guests m).slot j).homeNode →
    (mapping (c.guests n) i d).shmid = (mapping (c.guests m) j e).shmid →
    (mapping (c.guests n) i d).pageStates p = .exclusive →
    (mapping (c.guests m) j e).pageStates p ≠ .invalid → n = m ∧ i = j

/-- A process is a guest in one place only. -/
def Distinct (c : Cluster) : Prop :=
  ∀ n i m j, i < (c.guests n).count → j < (c.guests m).count →
    resident (c.guests n) i = resident (c.guests m) j → n = m ∧ i = j

/-- No INVALIDATE is on its way for a page that somebody has EXCLUSIVE. -/
def Settled (c : Cluster) : Prop :=
  ∀ x, Cell c x .exclusive → ∀ v ∈ c.invalidates,
    ¬ (v.home = x.home ∧ v.shmid = x.shmid ∧ v.page = x.page)

structure Ordered (c : Cluster) : Prop where
  mode : c.mode = 2
  tracked : Tracked c
  tables : ∀ h, WellFormed (c.dir h)
  owners : ∀ x, Writer c x → Owned (c.dir x.home) x.shmid x.page x.origPid
  settled : Settled c
  distinct : Distinct c

theorem Owned.unread {dir : GlobalDir} {shmid pid : ℕ} {p : PageIdx} (wf : WellFormed dir)
    (owned : Owned dir shmid p pid) (n : Node) : ¬ Reader dir shmid p n := by
  rintro ⟨st, owner, mask, found, bit⟩
  obtain ⟨mask', found'⟩ := owned
  obtain ⟨d, -, entry⟩ := Option.map_eq_some_iff.mp found'
  rw [found'] at found
  obtain ⟨-, rest⟩ := Prod.mk.inj (Option.some.inj found)
  obtain ⟨state, rest'⟩ := Prod.mk.inj entry
  have empty := (wf d p).1 state
  rw [(Prod.mk.inj rest').2, (Prod.mk.inj rest).2] at empty
  rw [empty, WordMask.test_empty] at bit
  exact Bool.false_ne_true bit

theorem reader_of_bit {dir : GlobalDir} {shmid : ℕ} {d : Slot} {p : PageIdx} {n : Node}
    (listed : findEntry dir shmid = some d) (bit : ((dir d).pageSharedMask p).test n = true) :
    Reader dir shmid p n :=
  ⟨_, _, _, by rw [record, listed]; rfl, bit⟩

theorem Settled.undoomed {c : Cluster} (settled : Settled c) {x : PageKey}
    (cell : Cell c x .exclusive) : ¬ Doomed c x := by
  rintro ⟨v, member, home, -, segment, page, -⟩
  exact settled x cell v member ⟨home, segment, page⟩

theorem NoGrant.none {c : Cluster} {x : PageKey} (h : NoGrant c x.home x.shmid x.page) :
    ¬ WriteGrant c x := by
  rintro ⟨a, member, rfl, marks⟩
  exact h a member marks ⟨rfl, rfl, rfl⟩

theorem recordable_of_ok {c : Cluster} {e : Event} (ok : KeepsWriter c e) {h : Node} {op : DirOp}
    (does : dirOp c e = some (h, op)) : Recordable (c.dir h) op := by
  unfold dirOp at does
  split at does
  · obtain ⟨t, found, does⟩ := Option.bind_eq_some_iff.mp does
    unfold faultDirOp at does
    split at does
    · obtain ⟨-, rfl⟩ := Prod.mk.inj (Option.some.inj does)
      trivial
    · split_ifs at does
      obtain ⟨rfl, rfl⟩ := Prod.mk.inj (Option.some.inj does)
      exact ok t found
    · exact nomatch does
  · obtain ⟨a, found, does⟩ := Option.bind_eq_some_iff.mp does
    split_ifs at does
    obtain ⟨-, rfl⟩ := Prod.mk.inj (Option.some.inj does)
    trivial
  · obtain ⟨u, found, does⟩ := Option.bind_eq_some_iff.mp does
    split_ifs at does
    obtain ⟨-, rfl⟩ := Prod.mk.inj (Option.some.inj does)
    trivial
  · obtain ⟨y, found, does⟩ := Option.bind_eq_some_iff.mp does
    unfold syncDirOp at does
    split at does
    · obtain ⟨-, rfl⟩ := Prod.mk.inj (Option.some.inj does)
      trivial
    · split_ifs at does
      obtain ⟨-, rfl⟩ := Prod.mk.inj (Option.some.inj does)
      trivial
    · exact nomatch does
  · obtain ⟨-, rfl⟩ := Prod.mk.inj (Option.some.inj does)
    trivial
  · exact nomatch does

theorem tables_step {c c' : Cluster} {e : Event} (move : Move c e c') (ok : KeepsWriter c e)
    (tables : ∀ h, WellFormed (c.dir h)) (h : Node) : WellFormed (c'.dir h) := by
  rw [dir_step move]
  unfold dirAfter
  split
  · rename_i h' op does
    split_ifs with here
    · subst here
      exact ((sound_iff_recordable (tables h) op).mpr (recordable_of_ok ok does)).1
    · exact tables h
  · exact tables h

/-- The directory does not forget a writer, except for the grant it gets itself. -/
theorem writer_forgotten {c c' : Cluster} {e : Event} (move : Move c e c') (inv : Ordered c)
    (ok : KeepsOrder c e) {x : PageKey} (h : Writer c x) (forgets : Forgets c e x) :
    Owned (c'.dir x.home) x.shmid x.page x.origPid := by
  have copy : Copy c x := h.imp (fun cell => ⟨.exclusive, nofun, cell⟩) Or.inr
  have absurd : Doomed c x → ¬ WriteGrant c x → False := by
    intro doomed none
    rcases h with cell | grant
    · exact inv.settled.undoomed cell doomed
    · exact none grant
  have unread := Owned.unread (inv.tables x.home) (inv.owners x h) x.node
  obtain ⟨record, writer⟩ := ok
  cases forgets with
  | downgraded found home segment page =>
    have none := writer _ found
    rw [← home, ← segment, ← page] at none
    exact (absurd (record _ found x copy home segment page) none.none).elim
  | @granted k a _ found stage home segment page =>
    obtain ⟨d, listed⟩ := Option.ne_none_iff_exists'.mp (record a found).1
    by_cases mine : x.origPid = a.key.origPid
    · have owned := granted_owned move found stage (record a found).1
      rwa [← home, ← segment, ← page, ← mine] at owned
    · rcases (record a found).2 d listed x copy home segment page mine with doomed | ⟨bit, -⟩
      · refine (absurd doomed ?_).elim
        rintro ⟨b, member, rfl, marks⟩
        exact mine (writer a found b member marks home segment page)
      · rw [← home, ← segment] at listed
        exact (unread (reader_of_bit listed bit)).elim
  | cleaned found home segment page owned =>
    have none := writer _ found owned
    rw [← home, ← segment, ← page] at none
    exact (absurd (record _ found owned x copy home segment page) none.none).elim
  | lowered found idx home listed page =>
    obtain ⟨-, segment⟩ := findEntry_some listed
    have none := writer _ found _ idx
    rw [segment, ← home, ← page] at none
    exact (absurd (record _ found _ idx (segment.symm ▸ listed) x copy home segment.symm page)
      none.none).elim
  | @claimed k y d _ found stage write idx home listed page =>
    obtain ⟨current, none⟩ := writer y found write d idx
    rcases record y found write d idx x copy home listed page with doomed | ⟨-, -, bit, -⟩
    · have segment := (findEntry_some listed).2.symm.trans (findEntry_some current).2
      rw [← home, ← segment, ← page] at none
      exact (absurd doomed none.none).elim
    · rw [← home] at listed
      exact (unread (reader_of_bit listed bit)).elim
  | removed home segment =>
    refine (absurd (record x copy home segment) ?_).elim
    rintro ⟨a, member, rfl, marks⟩
    exact writer a member marks ⟨home, segment⟩

theorem owners_step {c c' : Cluster} {e : Event} (move : Move c e c') (inv : Ordered c)
    (ok : KeepsOrder c e) {x : PageKey} (h : Writer c' x) :
    Owned (c'.dir x.home) x.shmid x.page x.origPid := by
  have kept : Writer c x → Owned (c'.dir x.home) x.shmid x.page x.origPid := by
    intro old
    rcases owned_step move (inv.owners x old) with owned | forgets
    · exact owned
    · exact writer_forgotten move inv ok old forgets
  rcases h with cell | grant
  · rcases cell_origin move (by decide) cell with old | marks
    · exact kept (Or.inl old)
    · cases marks with
      | @exclusive k a _ found stage waiting node page key =>
        have same := OwnCell.key (ok.1 a found) (node ▸ key) node page
        exact kept (Or.inr ⟨a, List.mem_of_getElem? found, same, by rw [writes, stage, waiting]⟩)
      | attached node guest room left => exact absurd (left.symm.trans (ok.1 _ guest room _)) (by simp)
      | imported node guest taken left => exact absurd (left.symm.trans (ok.1 _ guest _ taken _)) (by simp)
  · rcases writeGrant_step move grant with old | ⟨k, a, rfl, found, stage, rfl⟩
    · exact kept (Or.inr old)
    · exact granted_owned move found stage (ok.1 a found).1

/-- INVALIDATEs go to the nodes on record. -/
theorem sent_reader {c : Cluster} {e : Event} (ok : KeepsWriter c e) {v : Invalidate}
    (sends : Sends c e v) : Reader (c.dir v.home) v.shmid v.page v.node := by
  cases sends with
  | granted found stage listed bit linked => exact reader_of_bit listed bit
  | claimed found stage write idx bit linked =>
    exact reader_of_bit (ok _ found write _ idx).1 bit

theorem settled_step {c c' : Cluster} {e : Event} (move : Move c e c') (inv : Ordered c)
    (ok : KeepsOrder c e) : Settled c' := by
  rintro x cell v member ⟨home, segment, page⟩
  have origin := invalidates_step move member
  rcases cell_origin move (by decide) cell with old | marks
  · rcases origin with member | sends
    · exact inv.settled x old v member ⟨home, segment, page⟩
    · have reads := sent_reader ok.2 sends
      rw [home, segment, page] at reads
      exact Owned.unread (inv.tables x.home) (inv.owners x (Or.inl old)) _ reads
  · cases marks with
    | @exclusive k a _ found stage waiting node page' key =>
      have same := OwnCell.key (ok.1 a found) (node ▸ key) node page'
      subst same
      rcases origin with member | sends
      · exact ok.2 a found v member ⟨home, segment, page⟩
      · cases sends
    | attached node guest room left => exact absurd (left.symm.trans (ok.1 _ guest room _)) (by simp)
    | imported node guest taken left => exact absurd (left.symm.trans (ok.1 _ guest _ taken _)) (by simp)

theorem arrives_imported {c : Cluster} {e : Event} {n : Node} {op : RegistryOp} {x : Node × ℕ}
    (does : poolOp c e = some (n, op)) (arrives : Arrives op x) :
    ∃ l, e = .importGuest n l x.2 x.1 := by
  cases e with
  | importGuest m l origPid h =>
    obtain ⟨rfl, rfl⟩ := Prod.mk.inj (Option.some.inj does)
    obtain rfl := arrives
    exact ⟨l, rfl⟩
  | fault k s =>
    obtain ⟨t, -, does⟩ := Option.bind_eq_some_iff.mp does
    unfold faultOp at does
    split at does
    · obtain ⟨-, rfl⟩ := Prod.mk.inj (Option.some.inj does)
      exact arrives.elim
    · split_ifs at does
      obtain ⟨-, rfl⟩ := Prod.mk.inj (Option.some.inj does)
      exact arrives.elim
    · obtain ⟨-, rfl⟩ := Prod.mk.inj (Option.some.inj does)
      exact arrives.elim
    · obtain ⟨-, rfl⟩ := Prod.mk.inj (Option.some.inj does)
      exact arrives.elim
    · exact nomatch does
  | acquire k s =>
    obtain ⟨a, -, does⟩ := Option.bind_eq_some_iff.mp does
    unfold acquireOp at does
    split at does
    · split_ifs at does
      obtain ⟨-, rfl⟩ := Prod.mk.inj (Option.some.inj does)
      exact arrives.elim
    · exact nomatch does
  | sync k s =>
    obtain ⟨y, -, does⟩ := Option.bind_eq_some_iff.mp does
    unfold syncOp at does
    split at does
    · obtain ⟨-, rfl⟩ := Prod.mk.inj (Option.some.inj does)
      exact arrives.elim
    · exact nomatch does
  | invalidate k =>
    obtain ⟨v, -, does⟩ := Option.map_eq_some_iff.mp does
    obtain ⟨-, rfl⟩ := Prod.mk.inj does
    exact arrives.elim
  | killSurrogate m h origPid =>
    obtain ⟨i, -, does⟩ := Option.map_eq_some_iff.mp does
    obtain ⟨-, rfl⟩ := Prod.mk.inj does
    exact arrives.elim
  | sweepSnapshot | populate | setMigrating | shmat | shmdt | reap =>
    obtain ⟨-, rfl⟩ := Prod.mk.inj (Option.some.inj does)
    exact arrives.elim
  | _ => exact nomatch does

theorem origins_step {c c' : Cluster} {e : Event} (move : Move c e c') (n : Node) :
    ∃ o, Origins (c.guests n) (c'.guests n) (fun x => ∃ l, e = .importGuest n l x.2 x.1) o := by
  have pool := pool_step move n
  unfold Cluster.guests Host.guests
  rw [pool]
  unfold poolAfter
  split
  · rename_i m op does
    split_ifs with here
    · subst here
      obtain ⟨o, origins⟩ := origins_apply (c.host n).pool op
      refine ⟨o, origins.inj, fun i hi => (origins.here i hi).imp_right (And.imp_right ?_)⟩
      exact arrives_imported does
    · exact ⟨id, .refl ..⟩
  · exact ⟨id, .refl ..⟩

theorem distinct_step {c c' : Cluster} {e : Event} (move : Move c e c') (ok : KeepsWriter c e)
    (distinct : Distinct c) : Distinct c' := by
  choose o origins using origins_step move
  intro n i m j hi hj same
  rcases (origins n).here i hi with ⟨hi', old⟩ | ⟨last, l, rfl⟩
  · rcases (origins m).here j hj with ⟨hj', old'⟩ | ⟨-, l', rfl⟩
    · obtain ⟨rfl, slot⟩ := distinct n _ m _ hi' hj' (old.symm.trans (same.trans old'))
      exact ⟨rfl, (origins n).inj i hi j hj slot⟩
    · exact absurd (old.symm.trans same) (ok n _ hi')
  · rcases (origins m).here j hj with ⟨hj', old'⟩ | ⟨last', l', event⟩
    · exact absurd (old'.symm.trans same.symm) (ok m _ hj')
    · obtain rfl : n = m := by injection event
      exact ⟨rfl, (origins n).inj i hi j hj (last.trans last'.symm)⟩

theorem ordered_step {c c' : Cluster} {e : Event} (move : Move c e c') (ok : KeepsOrder c e)
    (inv : Ordered c) : Ordered c' where
  mode := (mode_step move).trans inv.mode
  tracked := tracked_step move inv.mode ok.1 inv.tracked
  tables := tables_step move ok.2 inv.tables
  owners _ := owners_step move inv ok
  settled := settled_step move inv ok
  distinct := distinct_step move ok.2 inv.distinct

/-- A second copy would be recorded beside the owner, or about to be invalidated. -/
theorem Ordered.singleWriter {c : Cluster} (inv : Ordered c) : SingleWriter c := by
  intro n i d m j e p live live' home segment state state'
  let x : PageKey := ⟨((c.guests n).slot i).homeNode, n, ((c.guests n).slot i).origPid,
    (mapping (c.guests n) i d).shmid, p⟩
  let y : PageKey := ⟨((c.guests m).slot j).homeNode, m, ((c.guests m).slot j).origPid,
    (mapping (c.guests m) j e).shmid, p⟩
  have writer : Cell c x .exclusive :=
    ⟨_, SlotTable.slot_mem live.1, rfl, rfl, _, SlotTable.slot_mem live.2, rfl, state⟩
  have reader : Copy c y :=
    Or.inl ⟨_, state', _, SlotTable.slot_mem live'.1, rfl, rfl, _, SlotTable.slot_mem live'.2, rfl,
      rfl⟩
  have owned := inv.owners x (Or.inl writer)
  have pid : ((c.guests n).slot i).origPid = ((c.guests m).slot j).origPid := by
    rcases inv.tracked y reader with (owned' | reads) | ⟨v, member, home', -, segment', page, -⟩
    · simp only [x, y, home, segment] at owned owned'
      exact owned.unique owned'
    · simp only [x, y, home, segment] at owned reads
      exact absurd reads (Owned.unread (inv.tables _) owned m)
    · exact absurd ⟨home'.trans home.symm, segment'.trans segment.symm, page⟩
        (inv.settled x writer v member)
  exact inv.distinct n i m j live.1 live'.1 (Prod.ext home pid)

theorem ordered_boot (b : Boot) : Ordered (b.cluster 2) := by
  have empty : ∀ n i, ¬ i < ((b.cluster 2).guests n).count := fun _ i => Nat.not_lt_zero i
  refine ⟨rfl, tracked_boot b, fun _ => zeroDir_wellFormed, ?_, ?_, ?_⟩
  · rintro x (⟨g, ⟨i, no, -⟩, -⟩ | ⟨a, no, -⟩)
    · exact absurd no (empty _ i)
    · exact nomatch no
  · rintro x - v no
    exact nomatch no
  · intro n i m j no
    exact absurd no (empty _ i)

/-- In mode 2, no run whose steps all keep the order shows a writer beside another copy. -/
theorem one_writer_per_page (b : Boot) (es : List Event)
    (run : clusterMachine.Follows KeepsOrder (b.cluster 2) es) :
    clusterMachine.Always SingleWriter (b.cluster 2) es := by
  refine Always.mono (fun _ => Ordered.singleWriter) (run.always ?_ (ordered_boot b))
  intro c e inv enabled ok
  exact ordered_step (step_move (step_of_enabled enabled)) ok inv

theorem one_writer_per_page_turns :
    clusterMachine.Always SingleWriter (twoDeputies.cluster 2) turns :=
  one_writer_per_page twoDeputies turns (by decide +kernel)

/-- Two readers ask for the page, both are granted it, and both end up EXCLUSIVE with nothing left
on its way. -/
theorem two_writers_granted :
    let es := arrival 1 500 100 ++ readFault 1 500 1 ++ arrival 2 501 101 ++ readFault 2 501 1 ++
      [.acquireStart 1 500 4096, .acquireStart 2 501 4096, .acquire 0 .grant, .acquire 1 .grant,
        .invalidate 0, .invalidate 0, .acquire 0 .shoot, .acquire 0 .upgrade, .acquire 1 .shoot,
        .acquire 1 .upgrade]
    let c := clusterMachine.after (twoDeputies.cluster 2) es
    clusterMachine.Runs (twoDeputies.cluster 2) es ∧ c.invalidates.length = 0 ∧
      ¬ SingleWriter c := by
  refine ⟨by decide +kernel, by decide +kernel, fun single => ?_⟩
  have same := single 1 0 0 2 0 0 0 ⟨by decide +kernel, by decide +kernel⟩
    ⟨by decide +kernel, by decide +kernel⟩ (by decide +kernel) (by decide +kernel)
    (by decide +kernel) (by decide +kernel)
  exact absurd same.1 (by decide)

end MattX.DsmSingleWriter
