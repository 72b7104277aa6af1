import MattX.DsmFuneral

set_option autoImplicit false

/-!
# Data bombs that come late

The update kworker writes first and looks at the directory afterwards. The
result says when it can only ever write for the recorded owner.
-/
namespace MattX.DsmDataBomb
open GuestRegistry GuestRegistryFrames GuestHost DsmDirectory DsmCluster DsmSteps DsmMoves DsmEffects
open DsmDirectoryRecords DsmCopies DsmInclusion DsmFuneral GuardedRuns Machine

/-- A data bomb changes a home page only if its sender is on record as the owner. -/
def Harmless (c : Cluster) (e : Event) : Prop :=
  ∀ k u, e = .update k .store → c.updates[k]? = some u → ∀ h s p,
    ((clusterMachine.next c e).home h).ram s p ≠ (c.home h).ram s p →
      Owned (c.dir h) s p u.key.origPid

/-- A data bomb of process `pid` for the page is on its way. -/
def Bombed (c : Cluster) (x : PageKey) : Prop :=
  ∃ u ∈ c.updates, u.stored = false ∧ u.key = x

/-- The dirty bytes of the page are out of the home node. -/
def Out (c : Cluster) (x : PageKey) : Prop := Writer c x ∨ Bombed c x

def Home (c : Cluster) (h : Node) (shmid : ℕ) (p : PageIdx) : Prop :=
  ∀ x, Out c x → ¬ (x.home = h ∧ x.shmid = shmid ∧ x.page = p)

/-- What a step must find so that ownership never moves while dirty bytes are out. -/
def KeepsOwner (c : Cluster) : Event → Prop
  | .fault k .downgrade => ∀ t ∈ c.faults[k]?, Home c t.key.home t.key.shmid t.key.page
  | .acquire k .grant => ∀ a ∈ c.acquires[k]?, findEntry (c.dir a.key.home) a.key.shmid ≠ none ∧
      ∀ x, Out c x → x.home = a.key.home → x.shmid = a.key.shmid → x.page = a.key.page →
        x.origPid = a.key.origPid
  | .acquire k .upgrade => ∀ a ∈ c.acquires[k]?, OwnCell (c.guests a.key.node) a.tgid a.base a.key
  | .update k .cleanup => ∀ u ∈ c.updates[k]?,
      Owned (c.dir u.key.home) u.key.shmid u.key.page u.key.origPid →
        Home c u.key.home u.key.shmid u.key.page
  | .sync k .downgrade => ∀ y ∈ c.syncs[k]?, ∀ d ∈ y.dirIdx,
      findEntry (c.dir y.home) (c.dir y.home d).shmid = some d →
        Home c y.home (c.dir y.home d).shmid y.page
  | .sync k .claim => ∀ y ∈ c.syncs[k]?, y.isWrite = true → ∀ d ∈ y.dirIdx,
      findEntry (c.dir y.home) (c.dir y.home d).shmid = some d →
        Home c y.home (c.dir y.home d).shmid y.page
  | .removeSegment h s => ∀ x, Out c x → ¬ (x.home = h ∧ x.shmid = s)
  | .shmat n tgid _ _ _ => ∀ i ∈ guestOf (c.guests n) tgid,
      ((c.guests n).slot i).dsmMap.count < maxDsmSegments →
        ∀ p, (mapping (c.guests n) i ((c.guests n).slot i).dsmMap.count).pageStates p ≠ .exclusive
  | .populate n tgid vmas => ∀ i ∈ guestOf (c.guests n) tgid,
      ∀ d < min vmas.length maxDsmSegments, ∀ p,
        (mapping (c.guests n) i d).pageStates p ≠ .exclusive
  | _ => True

instance (c : Cluster) (P : PageKey → Prop) [DecidablePred P] : Decidable (∀ x, Out c x → P x) :=
  decidable_of_iff ((∀ x, Writer c x → P x) ∧ ∀ u ∈ c.updates, u.stored = false → P u.key) (by
    constructor
    · rintro ⟨writers, bombs⟩ x (writer | ⟨u, member, pending, rfl⟩)
      · exact writers x writer
      · exact bombs u member pending
    · intro h
      exact ⟨fun x writer => h x (Or.inl writer),
        fun u member pending => h _ (Or.inr ⟨u, member, pending, rfl⟩)⟩)

instance (c : Cluster) (h : Node) (shmid : ℕ) (p : PageIdx) : Decidable (Home c h shmid p) := by
  unfold Home
  infer_instance

instance (c : Cluster) (e : Event) : Decidable (KeepsOwner c e) := by
  induction e using Event.casesOn with
  | fault k s => induction s using FaultStep.casesOn <;> unfold KeepsOwner <;> infer_instance
  | acquire k s => induction s using AcquireStep.casesOn <;> unfold KeepsOwner <;> infer_instance
  | update k s => induction s using UpdateStep.casesOn <;> unfold KeepsOwner <;> infer_instance
  | sync k s => induction s using SyncStep.casesOn <;> unfold KeepsOwner <;> infer_instance
  | _ => unfold KeepsOwner; infer_instance

structure Accounted (c : Cluster) : Prop where
  mode : c.mode = 2
  sweeps : ∀ n, c.sweeps n = []
  owners : ∀ x, Out c x → Owned (c.dir x.home) x.shmid x.page x.origPid

theorem sweeps_step {c c' : Cluster} {e : Event} (move : Move c e c') (mode : c.mode = 2)
    (idle : ∀ n, c.sweeps n = []) (n : Node) : c'.sweeps n = [] := by
  cases move with
  | fault found move => cases move <;> exact idle n
  | acquire found move => cases move <;> exact idle n
  | update found move => cases move <;> exact idle n
  | sync found move => cases move <;> exact idle n
  | sweepSnapshot lazy => exact absurd (lazy.symm.trans mode) (by decide)
  | sweepSend next | sweepZap next => exact nomatch (idle _).symm.trans next
  | _ => exact idle n

/-- In mode 2 a new data bomb carries a page that was EXCLUSIVE. -/
theorem bombed_origin {c c' : Cluster} {e : Event} (move : Move c e c')
    (idle : ∀ n, c.sweeps n = []) {x : PageKey} (h : Bombed c' x) :
    Bombed c x ∨ Cell c x .exclusive := by
  obtain ⟨u, member, pending, rfl⟩ := h
  have old : u ∈ c.updates → Bombed c u.key ∨ Cell c u.key .exclusive :=
    fun member => Or.inl ⟨u, member, pending, rfl⟩
  have fresh : ∀ {n g m h}, g ∈ c.guests n → m ∈ g.dsmMap → u ∈ funeralFlush h g n m →
      Cell c u.key .exclusive := by
    intro n g m h guest inside sent
    obtain ⟨p, f, state, -, rfl⟩ := mem_funeralFlush.mp sent
    exact ⟨g, guest, rfl, rfl, m, inside, rfl, state⟩
  cases move with
  | update found move =>
    cases move with
    | written | unwritten =>
      rcases List.mem_or_eq_of_mem_set member with member | rfl
      · exact old member
      · exact nomatch pending
    | undeliverable | lost | cleaned | finished => exact old (List.mem_of_mem_eraseIdx member)
  | shmdt found =>
    rcases List.mem_append.mp member with member | sent
    · exact old member
    · obtain ⟨hi, hd, -, -⟩ := cellAt_some found
      split_ifs at sent
      · exact Or.inr (fresh (SlotTable.slot_mem hi) (SlotTable.slot_mem hd) sent)
      · exact nomatch sent
  | reap live =>
    rcases List.mem_append.mp member with member | sent
    · exact old member
    · split_ifs at sent
      · obtain ⟨m, inside, sent⟩ := List.mem_flatMap.mp sent
        exact Or.inr (fresh (SlotTable.slot_mem live) (mem_liveMappings.mp inside) sent)
      · exact nomatch sent
  | sweepSend next => exact nomatch (idle _).symm.trans next
  | fault found move => cases move <;> exact old member
  | acquire found move => cases move <;> exact old member
  | sync found move => cases move <;> exact old member
  | _ => exact old member

theorem out_origin {c c' : Cluster} {e : Event} (move : Move c e c') (ok : KeepsOwner c e)
    (idle : ∀ n, c.sweeps n = []) {x : PageKey} (h : Out c' x) : Out c x ∨ Grants c e x := by
  rcases h with (cell | grant) | bombed
  · rcases cell_origin move (by decide) cell with old | marks
    · exact Or.inl (Or.inl (Or.inl old))
    · refine Or.inl (Or.inl ?_)
      cases marks with
      | @exclusive k a _ found stage waiting node page key =>
        have same := OwnCell.key (ok a found) (node ▸ key) node page
        exact Or.inr ⟨a, List.mem_of_getElem? found, same, by rw [writes, stage, waiting]⟩
      | attached node guest room left => exact absurd left (ok _ guest room _)
      | imported node guest taken left => exact absurd left (ok _ guest _ taken _)
  · exact (writeGrant_step move grant).imp_left fun old => Or.inl (Or.inr old)
  · rcases bombed_origin move idle bombed with old | cell
    · exact Or.inl (Or.inr old)
    · exact Or.inl (Or.inl (Or.inl cell))

theorem out_unforgotten {c c' : Cluster} {e : Event} (move : Move c e c') (ok : KeepsOwner c e)
    {x : PageKey} (h : Out c x) (forgets : Forgets c e x) :
    Owned (c'.dir x.home) x.shmid x.page x.origPid := by
  cases forgets with
  | downgraded found home segment page => exact absurd ⟨home, segment, page⟩ (ok _ found x h)
  | @granted k a _ found stage home segment page =>
    obtain ⟨listed, mine⟩ := ok a found
    have owned := granted_owned move found stage listed
    rwa [← home, ← segment, ← page, ← mine x h home segment page] at owned
  | cleaned found home segment page owned =>
    exact absurd ⟨home, segment, page⟩ (ok _ found owned x h)
  | lowered found idx home listed page =>
    obtain ⟨-, segment⟩ := findEntry_some listed
    exact absurd ⟨home, segment.symm, page⟩ (ok _ found _ idx (segment.symm ▸ listed) x h)
  | claimed found stage write idx home listed page =>
    obtain ⟨-, segment⟩ := findEntry_some listed
    exact absurd ⟨home, segment.symm, page⟩ (ok _ found write _ idx (segment.symm ▸ listed) x h)
  | removed home segment => exact absurd ⟨home, segment⟩ (ok x h)

theorem accounted_step {c c' : Cluster} {e : Event} (move : Move c e c') (ok : KeepsOwner c e)
    (inv : Accounted c) : Accounted c' where
  mode := (mode_step move).trans inv.mode
  sweeps := sweeps_step move inv.mode inv.sweeps
  owners x h := by
    rcases out_origin move ok inv.sweeps h with old | ⟨k, a, rfl, found, stage, rfl⟩
    · rcases owned_step move (inv.owners x old) with owned | forgets
      · exact owned
      · exact out_unforgotten move ok old forgets
    · exact granted_owned move found stage (ok a found).1

theorem Accounted.harmless {c : Cluster} (inv : Accounted c) {e : Event}
    (enabled : clusterMachine.enabled c e) : Harmless c e := by
  rintro k u rfl found h s p changed
  have move := step_move (step_of_enabled enabled)
  generalize clusterMachine.next c (.update k .store) = c' at move changed
  cases move with
  | update found' move =>
    cases Option.some.inj (found.symm.trans found')
    cases move with
    | written pending =>
      rw [ram_storeRam] at changed
      split_ifs at changed with here
      · obtain ⟨rfl, rfl, rfl⟩ := here
        exact inv.owners _ (Or.inr ⟨u, List.mem_of_getElem? found, pending, rfl⟩)
      · exact absurd rfl changed
    | unwritten | undeliverable => exact absurd rfl changed

/-- In mode 2, while no step moves ownership of bytes that are out, every data bomb that changes
a home page comes from its recorded owner. -/
theorem bombs_from_owners (b : Boot) (es : List Event)
    (run : clusterMachine.Follows KeepsOwner (b.cluster 2) es) :
    clusterMachine.Follows Harmless (b.cluster 2) es := by
  have start : Accounted (b.cluster 2) := by
    refine ⟨rfl, fun _ => rfl, ?_⟩
    rintro x ((⟨g, ⟨i, no, -⟩, -⟩ | ⟨a, no, -⟩) | ⟨u, no, -⟩)
    · exact absurd no (Nat.not_lt_zero i)
    · exact nomatch no
    · exact nomatch no
  refine run.entails ?_ (fun c e inv enabled _ => Accounted.harmless inv enabled) start
  intro c e inv enabled ok
  exact accounted_step (step_move (step_of_enabled enabled)) ok inv

/-- The dying writer's bytes arrive before anybody else asks for the page. -/
theorem bombs_from_owners_in_time : clusterMachine.Follows Harmless (twoDeputies.cluster 2)
    (arrival 1 500 100 ++ readFault 1 500 1 ++ writeFault 1 500 1 ++
      [.guestStore 1 500 4096 0 0 5, .guestExit 1 500, .reap 1 0 true, .update 0 .store,
        .update 0 .cleanup, .processExit 0] ++ arrival 2 501 101 ++ readFault 2 501 1 ++
      writeFault 2 501 1) :=
  bombs_from_owners twoDeputies _ (by decide +kernel)

/-- A writer dies, and before its data bomb is applied another guest reads and acquires the page:
the flush finds no guest any more, which the kworker takes for bytes already delivered. -/
theorem late_bomb_overwrites :
    let es := arrival 1 500 100 ++ readFault 1 500 1 ++ writeFault 1 500 1 ++
      [.guestStore 1 500 4096 0 0 5, .guestExit 1 500, .reap 1 0 true] ++ arrival 2 501 101 ++
      [.faultStart 2 501 4096, .fault 0 .hunt, .fault 0 .lookup, .fault 0 (.route true),
        .fault 0 .flushCopy, .fault 0 .ram, .fault 0 .downgrade, .fault 0 (.pump true),
        .fault 0 .record, .fault 0 (.place (some 1)), .fault 0 .copy, .fault 0 .inject,
        .fault 0 .mark, .fault 0 .present] ++ writeFault 2 501 1
    let c := clusterMachine.after (twoDeputies.cluster 2) es
    clusterMachine.Runs (twoDeputies.cluster 2) es ∧
      clusterMachine.enabled c (.update 0 .store) ∧ ¬ Harmless c (.update 0 .store) := by
  intro es c
  refine ⟨by decide +kernel, by decide +kernel, fun harmless => ?_⟩
  have sender : (c.updates[0]?).map (fun u => u.key.origPid) = some 100 := by decide +kernel
  obtain ⟨u, found, pid⟩ := Option.map_eq_some_iff.mp sender
  have before : (c.home 0).ram 7 0 0 = 0 := by decide +kernel
  have after : ((clusterMachine.next c (.update 0 .store)).home 0).ram 7 0 0 = 5 := by
    decide +kernel
  have owned := harmless 0 u rfl found 0 7 0 fun same => by
    rw [same, before] at after
    exact absurd after (by decide)
  rw [pid] at owned
  revert owned
  decide +kernel

end MattX.DsmDataBomb
