import MattX.DsmSingleWriter

set_option autoImplicit false

/-!
# The trap for native accesses

The hook sees a native access only if the page is not mapped. The sweeper and
the write acquires take the mappings away, native faults and pumps bring them
back, and none of them waits for another.
-/
namespace MattX.DsmNativeTrap
open GuestRegistry DsmDirectory DsmDirectoryLaws DsmCluster DsmSteps DsmMoves DsmEffects
open DsmDirectoryRecords DsmCopies DsmInclusion DsmSingleWriter GuardedRuns Machine

/-- The process runs on the home node itself. -/
def Native (hm : HomeState) (pid : ℕ) : Prop :=
  hm.exportNode pid = none ∧ ∃ t ∈ hm.tasks pid, t.exiting = false

/-- Whatever the process does to the page, the hook does not see it. -/
def Maps (hm : HomeState) (pid shmid : ℕ) (p : PageIdx) : Prop :=
  Native hm pid ∧ hm.nativePte pid shmid p = true

def Mapped (c : Cluster) (h : Node) (shmid : ℕ) (p : PageIdx) : Prop :=
  ∃ pid, Maps (c.home h) pid shmid p

/-- `round h n s p`: the copy of node `n` was out when the running round of home `h` collected the
page. `swept h n s p`: a round like that is complete. -/
structure Rounds where
  round : Node → Node → ℕ → PageIdx → Bool
  swept : Node → Node → ℕ → PageIdx → Bool

def Rounds.start : Rounds := ⟨fun _ _ _ _ => false, fun _ _ _ _ => false⟩

def Rounds.collect (w : Rounds) (h : Node) (pages : List (ℕ × ℕ × PageIdx)) : Rounds :=
  { w with round := fun g n s p =>
      if g = h then pages.any fun o => o.1 == s && o.2.2 == p else w.round g n s p }

def Rounds.complete (w : Rounds) (h : Node) : Rounds where
  round g n s p := g != h && w.round g n s p
  swept g n s p := w.swept g n s p || (g == h && w.round g n s p)

/-- The node has just got a copy, which no round so far was about. -/
def Rounds.restart (w : Rounds) (x : PageKey) : Rounds where
  round h n s p := w.round h n s p && !(h == x.home && n == x.node && s == x.shmid && p == x.page)
  swept h n s p := w.swept h n s p && !(h == x.home && n == x.node && s == x.shmid && p == x.page)

def watchRounds (w : Rounds) (c : Cluster) : Event → Rounds
  | .sweepCollect h => w.collect h (c.home h).sharedPages
  | .sweepShoot h => if (c.home h).toShoot.length ≤ 1 then w.complete h else w
  | .fault k .record | .fault k (.interrupt (some _)) => match c.faults[k]? with
    | some t => w.restart t.key
    | none => w
  | _ => w

def trapMachine : Machine (Cluster × Rounds) Event := clusterMachine.observed watchRounds

instance (x : Cluster × Rounds) (e : Event) : Decidable (trapMachine.enabled x e) :=
  inferInstanceAs (Decidable (clusterMachine.enabled x.1 e))

/-- The copy of the node was out when a round collected the page that has been through with it. -/
def armed (x : Cluster × Rounds) (h n : Node) (s : ℕ) (p : PageIdx) : Bool :=
  x.2.swept h n s p || (x.2.round h n s p &&
    !((x.1.home h).toShoot.any fun o => o.1 == s && o.2.2 == p))

/-- No native process need be kept from the page: nobody owns it, and no node whose copy has been
swept is on record or about to be invalidated. -/
def Unguarded (x : Cluster × Rounds) (h : Node) (s : ℕ) (p : PageIdx) : Prop :=
  exclusiveOwner (x.1.dir h) s p = 0 ∧
    (∀ n, armed x h n s p = true → ¬ Reader (x.1.dir h) s p n) ∧
    ∀ v ∈ x.1.invalidates, v.home = h → v.shmid = s → v.page = p →
      armed x h v.node s p = false

/-- A read copy of the page, or a reply that brings one. -/
def SharedCopy (c : Cluster) (x : PageKey) : Prop := Cell c x .shared ∨ ReadGrant c x

/-- What a step must find so that no native mapping gets or stays where it must not. -/
def KeepsTrap (x : Cluster × Rounds) : Event → Prop
  | .nativeInstall k => ∀ t ∈ x.1.nativeFaults[k]?, Unguarded x t.home t.shmid t.page
  | .fault k (.pump true) => ∀ t ∈ x.1.faults[k]?,
      (x.1.home t.key.home).exportNode t.key.origPid = none →
        Unguarded x t.key.home t.key.shmid t.key.page
  | .exportRemove h pid => ∀ y, Copy x.1 y → y.home = h →
      (x.1.home h).nativePte pid y.shmid y.page = true → Unguarded x h y.shmid y.page
  | .acquire k .shoot => ∀ a ∈ x.1.acquires[k]?, a.stage = .granted true ∧
      (x.1.home a.key.home).hasArea a.key.origPid a.key.shmid = true
  | .sweepCollect h => (x.1.home h).sharedPages.length ≤ 16
  | .sweepShoot h => ∀ o ∈ (x.1.home h).toShoot.head?,
      ((x.1.home h).tasks o.2.1).any (fun t => !t.exiting) = true ∧
        (x.1.home h).hasArea o.2.1 o.1 = true
  | _ => True

structure Trapped (x : Cluster × Rounds) : Prop where
  owners : ∀ y, y.origPid ≠ 0 → Cell x.1 y .exclusive → ¬ Mapped x.1 y.home y.shmid y.page ∧
    ∀ w, needsSync (x.1.dir y.home) y.shmid y.page w = true
  readers : ∀ y, y.origPid ≠ 0 → SharedCopy x.1 y →
    x.2.swept y.home y.node y.shmid y.page = true → ¬ Mapped x.1 y.home y.shmid y.page ∧
      (Doomed x.1 y ∨ needsSync (x.1.dir y.home) y.shmid y.page true = true)

instance (x : Cluster × Rounds) (h : Node) (s : ℕ) (p : PageIdx) : Decidable (Unguarded x h s p) := by
  unfold Unguarded
  infer_instance

instance (x : Cluster × Rounds) (e : Event) : Decidable (KeepsTrap x e) := by
  unfold KeepsTrap
  split <;> infer_instance

theorem field_setHome {α : Type*} (F : HomeState → α) {c : Cluster} {h : Node} {hm : HomeState}
    (same : F hm = F (c.home h)) (g : Node) : F ((c.setHome h hm).home g) = F (c.home g) := by
  simp only [Cluster.setHome, Function.update_apply]
  split_ifs with here
  · subst g
    exact same
  · rfl

theorem exportNode_none {hm : HomeState} {pid : ℕ} :
    hm.exportNode pid = none ↔ ∀ e ∈ hm.exports, e.origPid ≠ pid := by
  rw [HomeState.exportNode, Option.map_eq_none_iff, SlotTable.find?_eq_none]
  constructor
  · rintro missing _ ⟨i, hi, rfl⟩ same
    exact missing i hi (by simpa using same)
  · intro missing i hi same
    exact missing _ (SlotTable.slot_mem hi) (by simpa using same)

theorem mapped_tasks {hm : HomeState} {pid shmid : ℕ} {p : PageIdx}
    (covers : hm.covers pid shmid p = true) : hm.tasks pid ≠ none := by
  intro none
  simp [HomeState.covers, HomeState.areaOf, none] at covers

/-- Only a process that is there has anything mapped. -/
def Backed (c : Cluster) : Prop :=
  ∀ h pid s p, (c.home h).nativePte pid s p = true → (c.home h).tasks pid ≠ none

theorem touch_pte {c : Cluster} {h g : Node} {pid shmid q s : ℕ} {p r : PageIdx}
    (h' : ((touch c h pid shmid p).home g).nativePte q s r = true) :
    (c.home g).nativePte q s r = true ∨ h = g ∧ pid = q ∧ shmid = s ∧ p = r := by
  unfold touch at h'
  by_cases here : g = h
  · subst g
    simp only [Cluster.setHome, Function.update_self, HomeState.install, HomeState.writeRam,
      Bool.or_eq_true, Bool.and_eq_true, beq_iff_eq] at h'
    exact h'.imp_right fun same => ⟨rfl, same.1.1.symm, same.1.2.symm, same.2.symm⟩
  · simp only [Cluster.setHome, Function.update_of_ne here] at h'
    exact Or.inl h'

theorem touch_tasks (c : Cluster) (h g : Node) (pid shmid : ℕ) (p : PageIdx) :
    ((touch c h pid shmid p).home g).tasks = (c.home g).tasks :=
  field_setHome HomeState.tasks (by rfl) g

theorem backed_step {c c' : Cluster} {e : Event} (move : Move c e c') (backed : Backed c) :
    Backed c' := by
  have same : ∀ {h hm}, (∀ pid s p, hm.nativePte pid s p = true →
      (c.home h).nativePte pid s p = true) → hm.tasks = (c.home h).tasks → Backed (c.setHome h hm) := by
    intro h hm fewer tasks g pid s p mapped
    by_cases here : g = h
    · subst g
      simp only [Cluster.setHome, Function.update_self] at mapped ⊢
      rw [tasks]
      exact backed h pid s p (fewer pid s p mapped)
    · simp only [Cluster.setHome, Function.update_of_ne here] at mapped ⊢
      exact backed g pid s p mapped
  have touched : ∀ {h pid shmid p}, (c.home h).covers pid shmid p = true →
      Backed (touch c h pid shmid p) := by
    intro h pid shmid p covers g q s r mapped
    rw [touch_tasks]
    rcases touch_pte mapped with old | ⟨rfl, rfl, -, -⟩
    · exact backed g q s r old
    · exact mapped_tasks covers
  cases move with
  | fault found move =>
    cases move with
    | pumped stage covers => exact touched covers
    | stored | downgraded | recorded => exact same (fun _ _ _ => id) rfl
    | hunted | absent | looked | lazy | sent | skipped | copied | missed | zapped | unstored | failed
    | unrecorded | placed | dropped | filled | injected | raced | marked | presented | aborted
    | resumed => exact backed
  | acquire found move =>
    cases move with
    | granted => exact same (fun _ _ _ => id) rfl
    | shot => exact same (fun _ _ _ mapped => (Bool.and_eq_true_iff.mp mapped).1) rfl
    | unlisted | unshot | upgraded | abandoned | writable | retried | interrupted => exact backed
  | update found move =>
    cases move with
    | written => exact same (fun _ _ _ => id) rfl
    | cleaned => exact same (fun _ _ _ => id) rfl
    | unwritten | undeliverable | finished | lost => exact backed
  | sync found move =>
    cases move with
    | stored | downgraded | claimed => exact same (fun _ _ _ => id) rfl
    | looked | sent | skipped | copied | missed | zapped | unstored | unlisted | woken => exact backed
  | nativeInstall found covers => exact touched covers
  | sweepShot => exact same (fun _ _ _ mapped => (Bool.and_eq_true_iff.mp mapped).1) rfl
  | nativeStore | sweepCollect | sweepSkipped | exportAdd | exportRemove | removeSegment | evict =>
    exact same (fun _ _ _ => id) rfl
  | @setTask h pid t dying =>
    intro g q s p mapped
    by_cases here : g = h
    · subst g
      simp only [Cluster.setHome, Function.update_self] at mapped ⊢
      obtain ⟨mapped, kept⟩ := Bool.and_eq_true_iff.mp mapped
      by_cases mine : q = pid
      · subst q
        rw [Function.update_self]
        rintro rfl
        simp at kept
      · rw [Function.update_of_ne mine]
        exact backed h q s p mapped
    · simp only [Cluster.setHome, Function.update_of_ne here] at mapped ⊢
      exact backed g q s p mapped
  | @processExit k x exports found removed =>
    intro g q s p mapped
    by_cases here : g = x.1
    · subst g
      simp only [Cluster.setHome, Function.update_self] at mapped ⊢
      have old := backed _ q s p mapped
      by_cases mine : q = x.2
      · subst mine
        rw [Function.update_self]
        simpa using old
      · rwa [Function.update_of_ne mine]
    · simp only [Cluster.setHome, Function.update_of_ne here] at mapped ⊢
      exact backed g q s p mapped
  | invalidate | killSurrogate | sweepSnapshot | importGuest | populate | setMigrating | shmat
  | shmdt | reap | sweepZap | guestExit | guestStore | faultStart | acquireStart | invalidateLost
  | hookCaught | hookPassed | sweepSend | setLink => exact backed

/-- The step maps the page in a native process. -/
inductive Opens (c : Cluster) : Event → Node → ℕ → ℕ → PageIdx → Prop where
  | installed {k : ℕ} {t : NativeFault} (found : c.nativeFaults[k]? = some t) :
    Opens c (.nativeInstall k) t.home t.pid t.shmid t.page
  | pumped {k : ℕ} {t : Fault} (found : c.faults[k]? = some t)
      (native : (c.home t.key.home).exportNode t.key.origPid = none) :
    Opens c (.fault k (.pump true)) t.key.home t.key.origPid t.key.shmid t.key.page
  | recalled {h : Node} {pid s : ℕ} {p : PageIdx} (mapped : (c.home h).nativePte pid s p = true) :
    Opens c (.exportRemove h pid) h pid s p

theorem native_swapRemove {hm : HomeState} {pid q i : ℕ} {tasks : ℕ → Option Task}
    (found : (hm.exports.find? fun e => e.origPid == q) = some i) (other : pid ≠ q)
    (h : { hm with tasks := tasks, exports := hm.exports.swapRemove i }.exportNode pid = none) :
    hm.exportNode pid = none := by
  rw [exportNode_none] at h ⊢
  intro e member mine
  rcases SlotTable.mem_swapRemove_or (SlotTable.find?_lt found) member with kept | rfl
  · exact h e kept mine
  · have removed := SlotTable.find?_holds found
    exact other (mine.symm.trans (by simpa using removed))

/-- A native mapping was there before, or the step makes it. -/
theorem maps_step {c c' : Cluster} {e : Event} (move : Move c e c') (backed : Backed c) {h : Node}
    {pid s : ℕ} {p : PageIdx} (maps : Maps (c'.home h) pid s p) :
    Maps (c.home h) pid s p ∨ Opens c e h pid s p := by
  have fewer : ∀ {g hm}, (c.setHome g hm).home h = c'.home h → (Maps hm pid s p →
      Maps (c.home g) pid s p ∨ Opens c e g pid s p) → Maps (c.home h) pid s p ∨ Opens c e h pid s p := by
    intro g hm same less
    rw [← same] at maps
    by_cases here : h = g
    · subst h
      simp only [Cluster.setHome, Function.update_self] at maps
      exact less maps
    · simp only [Cluster.setHome, Function.update_of_ne here] at maps
      exact Or.inl maps
  have touched : ∀ {g q r t}, (touch c g q r t).home h = c'.home h → (c.home g).covers q r t = true →
      ((c.home g).exportNode q = none → Opens c e g q r t) →
      Maps (c.home h) pid s p ∨ Opens c e h pid s p := by
    intro g q r t same covers opens
    rw [← same] at maps
    obtain ⟨⟨local_, alive⟩, mapped⟩ := maps
    rw [touch_tasks] at alive
    have exports : ((touch c g q r t).home h).exports = (c.home h).exports :=
      field_setHome HomeState.exports (by rfl) h
    rw [HomeState.exportNode, exports] at local_
    rcases touch_pte mapped with old | ⟨rfl, rfl, rfl, rfl⟩
    · exact Or.inl ⟨⟨local_, alive⟩, old⟩
    · exact Or.inr (opens local_)
  cases move with
  | fault found move =>
    cases move with
    | pumped stage covers => exact touched rfl covers (.pumped found)
    | stored | downgraded | recorded => exact fewer rfl Or.inl
    | hunted | absent | looked | lazy | sent | skipped | copied | missed | zapped | unstored | failed
    | unrecorded | placed | dropped | filled | injected | raced | marked | presented | aborted
    | resumed => exact Or.inl maps
  | acquire found move =>
    cases move with
    | granted => exact fewer rfl Or.inl
    | shot =>
      exact fewer rfl fun maps => Or.inl ⟨maps.1, (Bool.and_eq_true_iff.mp maps.2).1⟩
    | unlisted | unshot | upgraded | abandoned | writable | retried | interrupted =>
      exact Or.inl maps
  | update found move =>
    cases move with
    | written | cleaned => exact fewer rfl Or.inl
    | unwritten | undeliverable | finished | lost => exact Or.inl maps
  | sync found move =>
    cases move with
    | stored | downgraded | claimed => exact fewer rfl Or.inl
    | looked | sent | skipped | copied | missed | zapped | unstored | unlisted | woken =>
      exact Or.inl maps
  | nativeInstall found covers => exact touched rfl covers fun _ => .installed found
  | sweepShot =>
    exact fewer rfl fun maps => Or.inl ⟨maps.1, (Bool.and_eq_true_iff.mp maps.2).1⟩
  | nativeStore | sweepCollect | sweepSkipped | removeSegment | evict => exact fewer rfl Or.inl
  | exportAdd =>
    refine fewer rfl fun maps => ?_
    obtain ⟨⟨local_, alive⟩, mapped⟩ := maps
    refine Or.inl ⟨⟨?_, alive⟩, mapped⟩
    rw [exportNode_none] at local_ ⊢
    exact fun e member => local_ e (SlotTable.mem_push.mpr (Or.inl member))
  | @exportRemove g q i found =>
    refine fewer rfl fun maps => ?_
    obtain ⟨⟨local_, alive⟩, mapped⟩ := maps
    by_cases mine : pid = q
    · subst q
      exact Or.inr (.recalled mapped)
    · exact Or.inl ⟨⟨native_swapRemove found mine local_, alive⟩, mapped⟩
  | @setTask g q t dying =>
    refine fewer rfl fun maps => Or.inl ?_
    obtain ⟨⟨local_, alive⟩, kept⟩ := maps
    have mapped := (Bool.and_eq_true_iff.mp kept).1
    refine ⟨⟨local_, ?_⟩, mapped⟩
    obtain ⟨t', found, living⟩ := alive
    by_cases mine : pid = q
    · subst q
      simp only [Function.update_self, Option.mem_def] at found
      obtain ⟨u, there⟩ := Option.ne_none_iff_exists'.mp (backed g pid s p mapped)
      refine ⟨u, there, ?_⟩
      by_contra exiting
      have no := dying (by simpa [there] using exiting)
      simp [found, living] at no
    · simp only [Function.update_of_ne mine] at found
      exact ⟨t', found, living⟩
  | @processExit k x exports found removed =>
    refine fewer rfl fun maps => Or.inl ?_
    obtain ⟨⟨local_, alive⟩, mapped⟩ := maps
    obtain ⟨t, there, living⟩ := alive
    by_cases mine : pid = x.2
    · simp only [mine, Function.update_self, Option.mem_def, Option.map_eq_some_iff] at there
      obtain ⟨_, -, rfl⟩ := there
      simp at living
    · simp only [Function.update_of_ne mine] at there
      refine ⟨⟨?_, t, there, living⟩, mapped⟩
      rcases removed with ⟨-, rfl⟩ | ⟨i, listed, rfl⟩
      · exact local_
      · exact native_swapRemove listed mine local_
  | invalidate | killSurrogate | sweepSnapshot | importGuest | populate | setMigrating | shmat
  | shmdt | reap | sweepZap | guestExit | guestStore | faultStart | acquireStart | invalidateLost
  | hookCaught | hookPassed | sweepSend | setLink => exact Or.inl maps

theorem toShoot_step {c c' : Cluster} {e : Event} (move : Move c e c') (h : Node)
    (other : e ≠ .sweepCollect h ∧ e ≠ .sweepShoot h) :
    (c'.home h).toShoot = (c.home h).toShoot := by
  have same : ∀ {g hm}, hm.toShoot = (c.home g).toShoot →
      ((c.setHome g hm).home h).toShoot = (c.home h).toShoot :=
    fun same => field_setHome HomeState.toShoot same h
  have apart : ∀ {g hm}, h ≠ g → ((c.setHome g hm).home h).toShoot = (c.home h).toShoot := by
    intro g hm here
    simp only [Cluster.setHome, Function.update_of_ne here]
  cases move with
  | fault found move =>
    cases move with
    | pumped | stored | downgraded | recorded => exact same rfl
    | hunted | absent | looked | lazy | sent | skipped | copied | missed | zapped | unstored | failed
    | unrecorded | placed | dropped | filled | injected | raced | marked | presented | aborted
    | resumed => rfl
  | acquire found move =>
    cases move with
    | granted | shot => exact same rfl
    | unlisted | unshot | upgraded | abandoned | writable | retried | interrupted => rfl
  | update found move =>
    cases move with
    | written | cleaned => exact same rfl
    | unwritten | undeliverable | finished | lost => rfl
  | sync found move =>
    cases move with
    | stored | downgraded | claimed => exact same rfl
    | looked | sent | skipped | copied | missed | zapped | unstored | unlisted | woken => rfl
  | sweepCollect => exact apart fun here => other.1 (by rw [here])
  | sweepShot | sweepSkipped => exact apart fun here => other.2 (by rw [here])
  | nativeInstall | nativeStore | exportAdd | exportRemove | setTask | processExit | removeSegment
  | evict => exact same rfl
  | invalidate | killSurrogate | sweepSnapshot | importGuest | populate | setMigrating | shmat
  | shmdt | reap | sweepZap | guestExit | guestStore | faultStart | acquireStart | invalidateLost
  | hookCaught | hookPassed | sweepSend | setLink => rfl

/-- Only the sweeper of home `h` takes its rounds further. -/
theorem watchRounds_less (w : Rounds) (c : Cluster) {e : Event} {h : Node}
    (other : e ≠ .sweepCollect h ∧ e ≠ .sweepShoot h) (n : Node) (s : ℕ) (p : PageIdx) :
    ((watchRounds w c e).swept h n s p = true → w.swept h n s p = true) ∧
      ((watchRounds w c e).round h n s p = true → w.round h n s p = true) := by
  have restarted : ∀ x, ((w.restart x).swept h n s p = true → w.swept h n s p = true) ∧
      ((w.restart x).round h n s p = true → w.round h n s p = true) :=
    fun x => ⟨fun on => (Bool.and_eq_true_iff.mp on).1, fun on => (Bool.and_eq_true_iff.mp on).1⟩
  unfold watchRounds
  split
  · rename_i g
    have apart : h ≠ g := fun here => other.1 (by rw [here])
    exact ⟨id, fun on => by simpa [Rounds.collect, apart] using on⟩
  · rename_i g
    have apart : h ≠ g := fun here => other.2 (by rw [here])
    split_ifs
    · exact ⟨fun on => by simpa [Rounds.complete, apart] using on,
        fun on => (Bool.and_eq_true_iff.mp on).2⟩
    · exact ⟨id, id⟩
  · split
    · exact restarted _
    · exact ⟨id, id⟩
  · split
    · exact restarted _
    · exact ⟨id, id⟩
  · exact ⟨id, id⟩

theorem armed_iff {x : Cluster × Rounds} {h n : Node} {s : ℕ} {p : PageIdx} :
    armed x h n s p = true ↔ x.2.swept h n s p = true ∨ x.2.round h n s p = true ∧
      ∀ o ∈ (x.1.home h).toShoot, ¬ (o.1 = s ∧ o.2.2 = p) := by
  simp [armed]

/-- A node is armed by the sweeper shooting the page down. -/
theorem armed_origin {c c' : Cluster} {w : Rounds} {e : Event} (move : Move c e c')
    (ok : KeepsTrap (c, w) e) {h n : Node} {s : ℕ} {p : PageIdx}
    (arm : armed (c', watchRounds w c e) h n s p = true) :
    armed (c, w) h n s p = true ∨
      ∃ pid rest, e = .sweepShoot h ∧ (c.home h).toShoot = (s, pid, p) :: rest := by
  by_cases other : e ≠ .sweepCollect h ∧ e ≠ .sweepShoot h
  · refine Or.inl (armed_iff.mpr ?_)
    obtain ⟨swept, round⟩ := watchRounds_less w c other n s p
    have same := toShoot_step move h other
    exact (armed_iff.mp arm).imp swept fun both => ⟨round both.1, same ▸ both.2⟩
  · have shot : ∀ {pid q r rest}, (c.home h).toShoot = (q, pid, r) :: rest →
        e = .sweepShoot h → (c'.home h).toShoot = rest → armed (c, w) h n s p = true ∨
          ∃ pid rest, e = .sweepShoot h ∧ (c.home h).toShoot = (s, pid, p) :: rest := by
      intro pid q r rest next event left
      subst event
      by_cases head : q = s ∧ r = p
      · obtain ⟨rfl, rfl⟩ := head
        exact Or.inr ⟨pid, rest, rfl, next⟩
      · refine Or.inl (armed_iff.mpr ?_)
        have through : (∀ o ∈ rest, ¬ (o.1 = s ∧ o.2.2 = p)) →
            ∀ o ∈ (c.home h).toShoot, ¬ (o.1 = s ∧ o.2.2 = p) := by
          intro gone o member
          rw [next] at member
          rcases List.mem_cons.mp member with rfl | member
          · exact head
          · exact gone o member
        have arm := armed_iff.mp arm
        simp only [watchRounds, next, left] at arm
        split_ifs at arm with last
        · obtain rfl : rest = [] := by
            cases rest with
            | nil => rfl
            | cons o rest => simp at last
          simp only [Rounds.complete, beq_self_eq_true, Bool.true_and, Bool.or_eq_true,
            bne_self_eq_false, Bool.false_and, Bool.false_eq_true, false_and, or_false] at arm
          exact arm.imp_right fun on => ⟨on, through (by simp)⟩
        · exact arm.imp_right fun both => ⟨both.1, through both.2⟩
    cases move with
    | sweepCollect mode idle =>
      rename_i g
      obtain rfl : g = h := by
        by_contra here
        exact other ⟨fun same => here (by injection same), by simp⟩
      refine Or.inl (armed_iff.mpr ((armed_iff.mp arm).imp id fun both => ?_))
      obtain ⟨on, gone⟩ := both
      have collected : (c.home g).sharedPages.any (fun o => o.1 == s && o.2.2 == p) = true := by
        simpa [watchRounds, Rounds.collect] using on
      obtain ⟨o, member, same⟩ := List.any_eq_true.mp collected
      have all : (c.home g).sharedPages.take 16 = (c.home g).sharedPages := List.take_of_length_le ok
      simp only [Cluster.setHome, Function.update_self, all] at gone
      exact absurd (by simpa using same) (gone o member)
    | sweepShot next =>
      rename_i g q pid r rest
      obtain rfl : g = h := by
        by_contra here
        exact other ⟨by simp, fun same => here (by injection same)⟩
      exact shot next rfl (by simp [Cluster.setHome, HomeState.shootDown])
    | sweepSkipped next =>
      rename_i g q pid r rest no
      obtain rfl : g = h := by
        by_contra here
        exact other ⟨by simp, fun same => here (by injection same)⟩
      exact shot next rfl (by simp [Cluster.setHome])
    | _ => exact absurd (by simp) other

/-- `y` owns the page or has its write acquire answered. -/
def Held (c : Cluster) (y : PageKey) : Prop :=
  Cell c y .exclusive ∨ ∃ a ∈ c.acquires, a.key = y ∧ a.stage = .replied ∧ a.waiting = true

theorem Held.writer {c : Cluster} {y : PageKey} (held : Held c y) : Writer c y := by
  refine held.imp_right ?_
  rintro ⟨a, member, key, stage, waiting⟩
  exact ⟨a, member, key, by rw [writes, stage, waiting]⟩

theorem SharedCopy.copy {c : Cluster} {y : PageKey} (shared : SharedCopy c y) : Copy c y :=
  shared.elim (fun cell => Or.inl ⟨.shared, nofun, cell⟩) fun grant => Or.inr (Or.inl grant)

theorem replied_step {c c' : Cluster} {e : Event} (move : Move c e c') {b : Acquire}
    (member : b ∈ c'.acquires) (stage : b.stage = .replied) (waiting : b.waiting = true) :
    b ∈ c.acquires ∨ ∃ k a, e = .acquire k .shoot ∧ c.acquires[k]? = some a ∧ a.key = b.key := by
  cases move with
  | acquire found move =>
    rename_i k a s
    have moved : ∀ {st : AcquireStage}, b ∈ c.acquires.set k { a with stage := st } →
        b ∈ c.acquires ∨ st = .replied ∧ a.key = b.key := by
      intro st member
      rcases List.mem_or_eq_of_mem_set member with old | rfl
      · exact Or.inl old
      · exact Or.inr ⟨stage, rfl⟩
    cases move with
    | granted | unlisted | upgraded => exact Or.inl ((moved member).resolve_right fun no => nomatch no.1)
    | shot | unshot => exact (moved member).imp_right fun ⟨_, key⟩ => ⟨k, a, rfl, found, key⟩
    | abandoned | writable | retried => exact Or.inl (List.mem_of_mem_eraseIdx member)
    | interrupted =>
      rcases List.mem_or_eq_of_mem_set member with old | rfl
      · exact Or.inl old
      · exact nomatch waiting
  | acquireStart =>
    rcases List.mem_append.mp member with old | fresh
    · exact Or.inl old
    · rw [List.mem_singleton.mp fresh] at stage
      exact nomatch stage
  | fault found move => cases move <;> exact Or.inl member
  | update found move => cases move <;> exact Or.inl member
  | sync found move => cases move <;> exact Or.inl member
  | _ => exact Or.inl member

theorem held_origin {c c' : Cluster} {e : Event} (move : Move c e c') (ok : KeepsOrder c e)
    {y : PageKey} (held : Held c' y) :
    Held c y ∨ ∃ k a, e = .acquire k .shoot ∧ c.acquires[k]? = some a ∧ a.key = y := by
  rcases held with cell | ⟨a, member, rfl, stage, waiting⟩
  · rcases cell_origin move (by decide) cell with old | marks
    · exact Or.inl (Or.inl old)
    · cases marks with
      | @exclusive k a _ found stage waiting node page key =>
        have same := OwnCell.key (ok.1 a found) (node ▸ key) node page
        exact Or.inl (Or.inr ⟨a, List.mem_of_getElem? found, same, stage, waiting⟩)
      | attached node guest room left => exact absurd (left.symm.trans (ok.1 _ guest room _)) (by simp)
      | imported node guest taken left => exact absurd (left.symm.trans (ok.1 _ guest _ taken _)) (by simp)
  · exact (replied_step move member stage waiting).imp_left fun old =>
      Or.inr ⟨a, old, rfl, stage, waiting⟩

theorem sharedCopy_origin {c c' : Cluster} {e : Event} (move : Move c e c') (ok : KeepsOrder c e)
    {y : PageKey} (shared : SharedCopy c' y) : SharedCopy c y ∨ Serves c e y ∨ Resumes c e y := by
  rcases shared with cell | grant
  · rcases cell_origin move (by decide) cell with old | marks
    · exact Or.inl (Or.inl old)
    · cases marks with
      | @shared k t _ found stage node page key =>
        have same := OwnCell.key (ok.1 t found) (node ▸ key) node page
        exact Or.inl (Or.inr ⟨t, List.mem_of_getElem? found, same, by rw [reads, stage]⟩)
      | attached node guest room left => exact absurd (left.symm.trans (ok.1 _ guest room _)) (by simp)
      | imported node guest taken left => exact absurd (left.symm.trans (ok.1 _ guest _ taken _)) (by simp)
  · exact (readGrant_step move grant).imp_left Or.inr

/-- A node that has just got a copy is armed only by the rounds to come. -/
theorem fresh_unarmed {c c' : Cluster} {w : Rounds} {e : Event} {y : PageKey}
    (fresh : Serves c e y ∨ Resumes c e y) :
    armed (c', watchRounds w c e) y.home y.node y.shmid y.page = false := by
  rcases fresh with ⟨k, t, data, rfl, found, -, rfl⟩ | ⟨k, t, data, rfl, found, rfl⟩
  · simp [armed, watchRounds, found, Rounds.restart]
  · simp [armed, watchRounds, found, Rounds.restart]

theorem unmapped_shot {c : Cluster} {h : Node} {hm : HomeState} {s : ℕ} {p : PageIdx} :
    ¬ Mapped (c.setHome h (hm.shootDown s p)) h s p := by
  rintro ⟨pid, -, mapped⟩
  simp [Cluster.setHome, HomeState.shootDown] at mapped

theorem opens_unguarded {c : Cluster} {w : Rounds} {e : Event} (ok : KeepsTrap (c, w) e) {pid : ℕ}
    {y : PageKey} (copy : Copy c y) (opens : Opens c e y.home pid y.shmid y.page) :
    Unguarded (c, w) y.home y.shmid y.page := by
  obtain ⟨home, node, origPid, shmid, page⟩ := y
  cases opens with
  | installed found => exact ok _ found
  | pumped found native => exact ok _ found native
  | recalled mapped => exact ok _ copy rfl mapped

structure Guarded (x : Cluster × Rounds) : Prop where
  ordered : Ordered x.1
  backed : Backed x.1
  held : ∀ y, y.origPid ≠ 0 → Held x.1 y → ¬ Mapped x.1 y.home y.shmid y.page
  readers : ∀ y, y.origPid ≠ 0 → SharedCopy x.1 y →
    armed x y.home y.node y.shmid y.page = true → ¬ Mapped x.1 y.home y.shmid y.page

theorem held_step {c c' : Cluster} {w : Rounds} {e : Event} (move : Move c e c')
    (ok : KeepsOrder c e ∧ KeepsTrap (c, w) e) (inv : Guarded (c, w)) {y : PageKey}
    (process : y.origPid ≠ 0) (held' : Held c' y) : ¬ Mapped c' y.home y.shmid y.page := by
  rcases held_origin move ok.1 held' with held | ⟨k, a, rfl, found, rfl⟩
  · rintro ⟨pid, maps⟩
    rcases maps_step move inv.backed maps with old | opens
    · exact inv.held y process held ⟨pid, old⟩
    · have copy : Copy c y := held.writer.imp (fun cell => ⟨.exclusive, nofun, cell⟩) Or.inr
      have owned := inv.ordered.owners y held.writer
      exact process (owned.exclusiveOwner.symm.trans (opens_unguarded ok.2 copy opens).1)
  · obtain ⟨stage, area⟩ := ok.2 a found
    cases move with
    | acquire found' move =>
      cases Option.some.inj (found.symm.trans found')
      cases move with
      | shot => exact unmapped_shot
      | unshot stage' no =>
        rw [stage] at stage'
        obtain rfl : true = _ := by injection stage'
        exact absurd (area.symm.trans (no rfl)) (by decide)

theorem readers_step {c c' : Cluster} {w : Rounds} {e : Event} (move : Move c e c')
    (ok : KeepsOrder c e ∧ KeepsTrap (c, w) e) (inv : Guarded (c, w)) {y : PageKey}
    (process : y.origPid ≠ 0) (shared' : SharedCopy c' y)
    (arm' : armed (c', watchRounds w c e) y.home y.node y.shmid y.page = true) :
    ¬ Mapped c' y.home y.shmid y.page := by
  rcases sharedCopy_origin move ok.1 shared' with shared | fresh
  · rcases armed_origin move ok.2 arm' with arm | ⟨pid, rest, rfl, next⟩
    · rintro ⟨pid, maps⟩
      rcases maps_step move inv.backed maps with old | opens
      · exact inv.readers y process shared arm ⟨pid, old⟩
      · obtain ⟨unowned, unread, undoomed⟩ := opens_unguarded ok.2 shared.copy opens
        rcases inv.ordered.tracked y shared.copy with (owned | reader) |
          ⟨v, member, home, node, segment, page, -⟩
        · exact process (owned.exclusiveOwner.symm.trans unowned)
        · exact unread _ arm reader
        · have off := undoomed v member home segment page
          rw [node] at off
          exact absurd (arm.symm.trans off) (by decide)
    · obtain ⟨alive, area⟩ := ok.2 (y.shmid, pid, y.page) (by rw [next]; rfl)
      cases move with
      | sweepShot next' =>
        rw [next] at next'
        cases next'
        exact unmapped_shot
      | sweepSkipped next' no =>
        rw [next] at next'
        cases next'
        rcases no with dead | bare
        · exact absurd (alive.symm.trans dead) (by decide)
        · exact absurd (area.symm.trans bare) (by decide)
  · exact absurd (arm'.symm.trans (fresh_unarmed fresh)) (by decide)

theorem guarded_step {c c' : Cluster} {w : Rounds} {e : Event} (move : Move c e c')
    (ok : KeepsOrder c e ∧ KeepsTrap (c, w) e) (inv : Guarded (c, w)) :
    Guarded (c', watchRounds w c e) where
  ordered := ordered_step move ok.1 inv.ordered
  backed := backed_step move inv.backed
  held _ process := held_step move ok inv process
  readers _ process := readers_step move ok inv process

theorem Guarded.trapped {x : Cluster × Rounds} (inv : Guarded x) : Trapped x where
  owners y process cell := by
    have owned := inv.ordered.owners y (Or.inl cell)
    exact ⟨inv.held y process (Or.inl cell), owned.needsSync process⟩
  readers y process shared swept := by
    refine ⟨inv.readers y process shared (armed_iff.mpr (Or.inl swept)), ?_⟩
    rcases inv.ordered.tracked y shared.copy with (owned | reader) | doomed
    · exact Or.inr (owned.needsSync process true)
    · exact Or.inr (reader.copyRecorded (inv.ordered.tables y.home)).nextWriteCaught.1
    · exact Or.inl doomed

theorem guarded_boot (b : Boot) : Guarded (b.cluster 2, Rounds.start) where
  ordered := ordered_boot b
  backed h pid s p mapped gone := by
    change b.tasks h pid = none at gone
    simp [Boot.cluster, gone] at mapped
  held y _ held := by
    rcases held with ⟨g, ⟨i, no, -⟩, -⟩ | ⟨a, no, -⟩
    · exact absurd no (Nat.not_lt_zero i)
    · exact nomatch no
  readers y _ _ arm := by simp [armed, Rounds.start] at arm

/-- In mode 2, as long as every step keeps the order and the trap, no native process reaches a page
past its remote owner, nor a page of which a copy has been out for a whole round. -/
theorem native_accesses_trapped (b : Boot) (es : List Event)
    (run : trapMachine.Follows (fun x e => KeepsOrder x.1 e ∧ KeepsTrap x e)
      (b.cluster 2, Rounds.start) es) :
    trapMachine.Always Trapped (b.cluster 2, Rounds.start) es := by
  refine Always.mono (fun _ => Guarded.trapped) (run.always ?_ (guarded_boot b))
  rintro ⟨c, w⟩ e inv enabled ok
  exact guarded_step (step_move (step_of_enabled enabled)) ok inv

/-- Two deputies and a native process that has the page mapped. -/
def nativeNeighbour : Boot :=
  { twoDeputies with
    tasks := fun h pid => if h = 0 ∧ (pid = 100 ∨ pid = 101 ∨ pid = 200) then
      some ⟨[⟨7, 4096⟩], false⟩ else none
    mapped := fun _ pid _ _ => pid == 200 }

def sweepOne : List Event := [.sweepCollect 0, .sweepShoot 0]

/-- A native access that the hook catches while process 100 owns the page. -/
def syncOwner (w : Bool) : List Event :=
  [.nativeHook 0 200 7 0 w, .sync 0 .lookup, .sync 0 (.route true), .sync 0 .flushCopy,
    .sync 0 .flushZap, .sync 0 .ram, .sync 0 .downgrade, .sync 0 .claim]

theorem native_accesses_trapped_sync :
    trapMachine.Always Trapped (nativeNeighbour.cluster 2, Rounds.start)
      (arrival 1 500 100 ++ readFault 1 500 1 ++ sweepOne ++ writeFault 1 500 1 ++
        [.guestStore 1 500 4096 0 0 5] ++ syncOwner false ++
        [.nativeHook 0 200 7 0 true, .nativeInstall 0, .nativeStore 0 200 7 0 0 6]) :=
  native_accesses_trapped nativeNeighbour _ (by decide +kernel)

/-- The entry remembers the deputy that asked for the segment first. Once that is gone the sweeper
passes the page by, whoever else has a copy. -/
theorem first_reader_gone_untraps :
    let es := arrival 1 500 100 ++ readFault 1 500 1 ++ arrival 2 501 101 ++ readFault 2 501 1 ++
      [.guestExit 1 500, .reap 1 0 true, .processExit 0] ++ sweepOne
    let x := trapMachine.after (nativeNeighbour.cluster 2, Rounds.start) es
    trapMachine.Runs (nativeNeighbour.cluster 2, Rounds.start) es ∧
      trapMachine.enabled x (.nativeStore 0 200 7 0 0 6) ∧ ¬ Trapped x := by
  intro es x
  refine ⟨by decide +kernel, by decide +kernel, fun trapped => ?_⟩
  have mapped : Mapped x.1 0 7 0 := by
    have alive : ((x.1.home 0).tasks 200).any (fun t => !t.exiting) = true := by decide +kernel
    obtain ⟨t, there, living⟩ := (Option.any_eq_true ..).mp alive
    exact ⟨200, ⟨by decide +kernel, t, there, by simpa using living⟩, by decide +kernel⟩
  exact (trapped.readers ⟨0, 2, 101, 7, 0⟩ (by decide) (Or.inl (by decide +kernel))
    (by decide +kernel)).1 mapped

end MattX.DsmNativeTrap
