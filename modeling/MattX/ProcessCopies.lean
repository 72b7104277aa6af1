import MattX.ProcessWorld
import Mathlib.Data.List.Nodup

set_option autoImplicit false

/-!
# At most one running copy

The registries are keyed by pids and nobody looks for an entry before adding
one, so a process must be captured only when nothing is left of its last
migration. Then its deputy is held from the capture until its surrogate is
stopped for good.
-/
namespace MattX.ProcessCopies
open GuardedRuns MigrationHandoff MigrationPairing MigrationPhases ProcessWorld

/-- The hand-off or what follows its DONE on the source is not through. -/
def Under (s : World) (x : Transfer) : Prop := UnderWay s.cluster x ∨ x ∈ s.commits

instance (s : World) (x : Transfer) : Decidable (Under s x) :=
  inferInstanceAs (Decidable (_ ∨ _))

/-- No transfer of the process is under way, and on its way out it is neither a guest nor a stub, is
not exported, and no node has a guest entry of it. -/
def Captures (s : World) (x : Transfer) : Prop :=
  (∀ y ∈ s.cluster.begun, Under s y → place y ≠ place x ∧ original y ≠ original x) ∧
    (x.isReturning = false → (s.procs (place x)).all (fun p => decide (p.role = .plain)) = true ∧
      (∀ e ∈ s.exports, e.key ≠ original x) ∧ ∀ g ∈ s.guests, g.key ≠ original x)

instance (s : World) (x : Transfer) : Decidable (Captures s x) := by
  unfold Captures
  infer_instance

/-- What a step must find besides what the hand-offs need of each other. A surrogate is captured with
no SIGCONT for it on the way; the guest registry has room; a new process has a new pid; and a deputy
that is woken for a call has one thread. -/
def clears (s : World) : ProcessWorld.Event → Prop
  | .handoff (.begin x) => Captures s x
  | .handoff (.store x _) => x.isReturning = true → place x ∉ s.wakes
  | .handoff (.receiveDone _ _ dst _ false) =>
    (s.guests.filter fun g => g.node == dst).length < maxGuests
  | .receive _ _ dst x alloc prepared pid =>
    x.isReturning = false → alloc = true → prepared = true → (dst, pid) ∉ s.used
  | .spawn a => a ∉ s.used
  | .receiveReq l => (s.procs (l.dst, l.pid)).all (fun p => decide (p.threads ≤ 1)) = true
  | _ => True

def ok (s : World) (e : ProcessWorld.Event) : Prop :=
  (∀ h ∈ handoffOf e, MigrationPairing.ok s.cluster h) ∧ clears s e

instance (s : World) : DecidablePred (clears s) := by
  intro e
  induction e using ProcessWorld.Event.casesOn with
  | handoff e =>
    induction e using MigrationHandoff.Event.casesOn with
    | receiveDone i src dst x isReturning =>
      induction isReturning using Bool.casesOn <;> unfold clears <;> infer_instance
    | _ => unfold clears; infer_instance
  | _ => unfold clears; infer_instance

instance (s : World) : DecidablePred (ok s) := fun e =>
  match h : handoffOf e with
  | some f =>
    decidable_of_iff (MigrationPairing.ok s.cluster f ∧ clears s e) (by simp [ok, h])
  | none => decidable_of_iff (clears s e) (by simp [ok, h])

/-- Every place that something still names has been used, so no new process is taken for another. -/
structure Named (s : World) : Prop where
  proc : ∀ a p, s.procs a = some p → a ∈ s.used
  image : ∀ a p o, s.procs a = some p → p.role = .surrogate o → o ∈ s.used
  guest : ∀ g ∈ s.guests, g.place ∈ s.used
  task : ∀ x, Under s x → place x ∈ s.used
  home : ∀ x, Under s x → original x ∈ s.used
  stub : ∀ x, x.isReturning = false → Spawned s.cluster x → (x.target, s.stubPid x) ∈ s.used
  letter : ∀ l ∈ s.letters, l.notice = .sysReq → (l.dst, l.pid) ∈ s.used
  wake : ∀ a ∈ s.wakes, a ∈ s.used
  back : ∀ a ∈ s.back, a ∈ s.used

structure Registered (s : World) : Prop where
  exports : (s.exports.map Export.key).Nodup
  guests : (s.guests.map Guest.key).Nodup
  places : (s.guests.map Guest.place).Nodup
  entry : ∀ a p o, s.procs a = some p → p.role = .surrogate o →
    ∃ g ∈ s.guests, g.place = a ∧ g.key = o
  role : ∀ g ∈ s.guests, ∀ p, s.procs g.place = some p → p.role = .surrogate g.key

structure Roles (s : World) : Prop where
  deputy : ∀ a p o, s.procs a = some p → p.role = .surrogate o →
    ∀ d, s.procs o = some d → d.role = .plain
  letter : ∀ l ∈ s.letters, l.notice = .sysReq →
    ∀ d, s.procs (l.dst, l.pid) = some d → d.role = .plain
  wake : ∀ a ∈ s.wakes, ∀ p, s.procs a = some p → ∃ o, p.role = .surrogate o
  leaving : ∀ x, x.isReturning = false → Under s x →
    ∀ p, s.procs (place x) = some p → p.role = .plain
  stub : ∀ x, x.isReturning = false → Spawned s.cluster x →
    ∀ p, s.procs (x.target, s.stubPid x) = some p → p.role = .stub
  returning : ∀ x, x.isReturning = true → Under s x →
    ∀ p, s.procs (place x) = some p → p.role = .surrogate (original x)
  home : ∀ x, x.isReturning = true → Under s x →
    ∀ d, s.procs (original x) = some d → d.role = .plain

/-- Its pump has yet to register the export. -/
def Unregistered (s : World) (x : Transfer) : Prop :=
  isOpen (s.cluster.stage x) = true ∨ x ∈ s.commits

/-- The process is frozen, or its pump is through and has yet to kill it. -/
def Bound (s : World) (x : Transfer) : Prop := Frozen s.cluster x ∨ x ∈ s.commits

/-- A process on its way out. -/
structure Leaving (s : World) : Prop where
  own : ∀ x, x.isReturning = false → Under s x → original x = place x
  held : ∀ x, x.isReturning = false → Frozen s.cluster x →
    ∀ d, s.procs (place x) = some d → ¬ d.Executes
  noGuest : ∀ x, x.isReturning = false → UnderWay s.cluster x → ∀ g ∈ s.guests, g.key ≠ original x
  noExport : ∀ x, x.isReturning = false → Unregistered s x → ∀ e ∈ s.exports, e.key ≠ original x
  noPlace : ∀ x, x.isReturning = false → Spawned s.cluster x →
    ∀ g ∈ s.guests, g.place ≠ (x.target, s.stubPid x)

/-- A surrogate on its way home. -/
structure Returning (s : World) : Prop where
  only : ∀ x, x.isReturning = true → Under s x →
    ∀ g ∈ s.guests, g.key = original x → g.place = place x
  marked : ∀ x, x.isReturning = true → Under s x → ∀ p, s.procs (place x) = some p →
    ∀ g ∈ s.guests, g.place = place x → g.isMigrating = true
  stopped : ∀ x, x.isReturning = true → Bound s x →
    ∀ p, s.procs (place x) = some p → p.stopped = true
  quiet : ∀ x, x.isReturning = true → Bound s x →
    ∀ p, s.procs (place x) = some p → place x ∉ s.wakes
  landing : ∀ x, x.isReturning = true → Landing s.cluster x →
    ∀ p, s.procs (place x) = some p → x ∈ s.commits

/-- The surrogate's deputy is told to run again, or about to grow for it. -/
def Lent (s : World) (a : Place) : Prop := a ∈ s.back ∨ ∃ x ∈ s.growing, place x = a

structure Kept (s : World) : Prop where
  sound : Sound s.cluster
  labelled : Labelled s.cluster
  named : Named s
  registered : Registered s
  roles : Roles s
  leaving : Leaving s
  returning : Returning s
  one : ∀ x y, Under s x → Under s y → place x = place y ∨ original x = original y → x = y
  held : ∀ a p o, s.procs a = some p → p.role = .surrogate o → ¬ Lent s a →
    ∀ d, s.procs o = some d → ¬ d.Executes
  back : ∀ a ∈ s.back, ∀ p, s.procs a = some p → ∃ x ∈ s.commits, x.isReturning = true ∧ place x = a
  once : s.commits.Nodup
  committed : ∀ x ∈ s.commits, s.cluster.stage x = .over
  growing : ∀ x ∈ s.growing, x.isReturning = true ∧ s.cluster.stage x = .received

theorem Under.of_frozen {s : World} {x : Transfer} (h : Frozen s.cluster x) : Under s x :=
  .inl (Frozen.underWay h)

theorem Bound.under {s : World} {x : Transfer} (h : Bound s x) : Under s x :=
  h.imp_left Frozen.underWay

/-- The hand-offs go on to `c` and the pumps to `commits` without taking up anything new. -/
structure Recedes (s : World) (c : Cluster) (commits : List Transfer) : Prop where
  sound : Sound c
  labelled : Labelled c
  underWay : ∀ x, UnderWay c x → UnderWay s.cluster x
  under : ∀ x ∈ commits, Under s x
  frozen : ∀ x, Frozen c x → Frozen s.cluster x
  bound : ∀ x ∈ commits, Bound s x
  unregistered : ∀ x, isOpen (c.stage x) = true ∨ x ∈ commits → Unregistered s x
  spawned : ∀ x, x.isReturning = false → Spawned c x → Spawned s.cluster x
  landing : ∀ x, x.isReturning = true → Landing c x → ∀ p, s.procs (place x) = some p → x ∈ commits
  still : ∀ x ∈ s.commits, x.isReturning = true → ∀ p, s.procs (place x) = some p → x ∈ commits
  once : commits.Nodup
  committed : ∀ x ∈ commits, c.stage x = .over
  growing : ∀ x ∈ s.growing, c.stage x = .received

section Primitives
variable {s : World} {a : Place} {x : Transfer}

theorem Kept.recede (h : Kept s) {c : Cluster} {commits : List Transfer} (r : Recedes s c commits) :
    Kept { s with cluster := c, commits } := by
  have under : ∀ x, Under { s with cluster := c, commits } x → Under s x := by
    intro x is
    cases is with
    | inl way => exact .inl (r.underWay x way)
    | inr mem => exact r.under x mem
  have bound : ∀ x, Bound { s with cluster := c, commits } x → Bound s x := by
    intro x is
    cases is with
    | inl frozen => exact .inl (r.frozen x frozen)
    | inr mem => exact r.bound x mem
  exact
    { sound := r.sound
      labelled := r.labelled
      named :=
        { h.named with
          task := fun x is => h.named.task x (under x is)
          home := fun x is => h.named.home x (under x is)
          stub := fun x out is => h.named.stub x out (r.spawned x out is) }
      registered := { h.registered with }
      roles :=
        { h.roles with
          leaving := fun x out is => h.roles.leaving x out (under x is)
          stub := fun x out is => h.roles.stub x out (r.spawned x out is)
          returning := fun x ret is => h.roles.returning x ret (under x is)
          home := fun x ret is => h.roles.home x ret (under x is) }
      leaving :=
        { own := fun x out is => h.leaving.own x out (under x is)
          held := fun x out is => h.leaving.held x out (r.frozen x is)
          noGuest := fun x out is => h.leaving.noGuest x out (r.underWay x is)
          noExport := fun x out is => h.leaving.noExport x out (r.unregistered x is)
          noPlace := fun x out is => h.leaving.noPlace x out (r.spawned x out is) }
      returning :=
        { only := fun x ret is => h.returning.only x ret (under x is)
          marked := fun x ret is => h.returning.marked x ret (under x is)
          stopped := fun x ret is => h.returning.stopped x ret (bound x is)
          quiet := fun x ret is => h.returning.quiet x ret (bound x is)
          landing := r.landing }
      one := fun x y hx hy => h.one x y (under x hx) (under y hy)
      held := h.held
      back := fun a mem p is => by
        obtain ⟨x, commit, ret, place⟩ := h.back a mem p is
        exact ⟨x, r.still x commit ret p (by rw [place]; exact is), ret, place⟩
      once := r.once
      committed := r.committed
      growing := fun x mem => ⟨(h.growing x mem).1, r.growing x mem⟩ }

/-- Processes end or change in all but their roles. -/
theorem Kept.reproc (h : Kept s) {procs : Place → Option Proc}
    (origin : ∀ b p', procs b = some p' → ∃ p, s.procs b = some p ∧ p'.role = p.role)
    (out : ∀ x, x.isReturning = false → Frozen s.cluster x →
      ∀ d, procs (place x) = some d → ¬ d.Executes)
    (stopped : ∀ x, x.isReturning = true → Bound s x →
      ∀ p, procs (place x) = some p → p.stopped = true)
    (held : ∀ b p o, s.procs b = some p → p.role = .surrogate o → ¬ Lent s b →
      ∀ d, procs o = some d → ¬ d.Executes) : Kept { s with procs } := by
  have roleOf : ∀ b r, (∀ p, s.procs b = some p → p.role = r) →
      ∀ p', procs b = some p' → p'.role = r := by
    intro b r all p' is
    obtain ⟨p, before, role⟩ := origin b p' is
    rw [role]
    exact all p before
  have surrogateOf : ∀ b p' o, procs b = some p' → p'.role = .surrogate o →
      ∃ p, s.procs b = some p ∧ p.role = .surrogate o := by
    intro b p' o is role'
    obtain ⟨p, before, role⟩ := origin b p' is
    exact ⟨p, before, role.symm.trans role'⟩
  exact
    { sound := h.sound
      labelled := h.labelled
      named :=
        { h.named with
          proc := fun b p' is => by
            obtain ⟨p, before, _⟩ := origin b p' is
            exact h.named.proc b p before
          image := fun b p' o is role' => by
            obtain ⟨p, before, role⟩ := surrogateOf b p' o is role'
            exact h.named.image b p o before role }
      registered :=
        { h.registered with
          entry := fun b p' o is role' => by
            obtain ⟨p, before, role⟩ := surrogateOf b p' o is role'
            exact h.registered.entry b p o before role
          role := fun g mem => roleOf g.place _ (h.registered.role g mem) }
      roles :=
        { deputy := fun b p' o is role' => by
            obtain ⟨p, before, role⟩ := surrogateOf b p' o is role'
            exact roleOf o _ (h.roles.deputy b p o before role)
          letter := fun l mem req => roleOf _ _ (h.roles.letter l mem req)
          wake := fun b mem p' is => by
            obtain ⟨p, before, role⟩ := origin b p' is
            obtain ⟨o, surrogate⟩ := h.roles.wake b mem p before
            exact ⟨o, role.trans surrogate⟩
          leaving := fun x out is => roleOf _ _ (h.roles.leaving x out is)
          stub := fun x out is => roleOf _ _ (h.roles.stub x out is)
          returning := fun x ret is => roleOf _ _ (h.roles.returning x ret is)
          home := fun x ret is => roleOf _ _ (h.roles.home x ret is) }
      leaving := { h.leaving with held := out }
      returning :=
        { only := h.returning.only
          marked := fun x ret is p' at' => by
            obtain ⟨p, before, _⟩ := origin _ p' at'
            exact h.returning.marked x ret is p before
          stopped
          quiet := fun x ret is p' at' => by
            obtain ⟨p, before, _⟩ := origin _ p' at'
            exact h.returning.quiet x ret is p before
          landing := fun x ret is p' at' => by
            obtain ⟨p, before, _⟩ := origin _ p' at'
            exact h.returning.landing x ret is p before }
      one := h.one
      held := fun b p' o is role' lent => by
        obtain ⟨p, before, role⟩ := surrogateOf b p' o is role'
        exact held b p o before role lent
      back := fun b mem p' is => by
        obtain ⟨p, before, _⟩ := origin b p' is
        exact h.back b mem p before
      once := h.once
      committed := h.committed
      growing := h.growing }

/-- What may happen to a process at any time: it stops, or it is the deputy that runs a call. -/
structure Tamer (p p' : Proc) : Prop where
  role : p'.role = p.role
  held : ¬ p.Executes → ¬ p'.Executes
  stopped : ∀ o, p.role = .surrogate o → p.stopped = true → p'.stopped = true

theorem Tamer.refl (p : Proc) : Tamer p p := ⟨rfl, id, fun _ _ => id⟩

theorem Kept.tame (h : Kept s) {procs : Place → Option Proc}
    (tamer : ∀ b p', procs b = some p' → ∃ p, s.procs b = some p ∧ Tamer p p') :
    Kept { s with procs } := by
  have heldOf : ∀ b, (∀ d, s.procs b = some d → ¬ d.Executes) →
      ∀ d', procs b = some d' → ¬ d'.Executes := by
    intro b all d' is
    obtain ⟨d, before, tame⟩ := tamer b d' is
    exact tame.held (all d before)
  refine h.reproc ?_ ?_ ?_ ?_
  · intro b p' is
    obtain ⟨p, before, tame⟩ := tamer b p' is
    exact ⟨p, before, tame.role⟩
  · intro x out is
    exact heldOf _ (h.leaving.held x out is)
  · intro x ret is p' at'
    obtain ⟨p, before, tame⟩ := tamer _ p' at'
    have role := h.roles.returning x ret is.under p before
    exact tame.stopped _ role (h.returning.stopped x ret is p before)
  · intro b p o before role lent
    exact heldOf o (h.held b p o before role lent)

theorem modifyProc_eq {f : Proc → Proc} {b : Place} {p' : Proc}
    (is : (s.modifyProc a f).procs b = some p') :
    ∃ p, s.procs b = some p ∧ p' = if b = a then f p else p := by
  by_cases here : b = a
  · subst here
    have mapped : (s.procs b).map f = some p' := by
      simpa [World.modifyProc, World.setProc] using is
    obtain ⟨p, before, result⟩ := Option.map_eq_some_iff.mp mapped
    exact ⟨p, before, by simp [result]⟩
  · refine ⟨p', ?_, by simp [here]⟩
    simpa [World.modifyProc, World.setProc, here] using is

theorem Kept.modify (h : Kept s) {f : Proc → Proc}
    (tamer : ∀ p, s.procs a = some p → Tamer p (f p)) : Kept (s.modifyProc a f) := by
  refine h.tame ?_
  intro b p' is
  obtain ⟨p, before, result⟩ := modifyProc_eq is
  refine ⟨p, before, ?_⟩
  rw [result]
  split
  · rename_i here
    exact tamer p (here ▸ before)
  · exact .refl p

theorem Kept.stop (h : Kept s) (a : Place) : Kept (s.stop a) :=
  h.modify fun _ _ => ⟨rfl, fun _ runs => by simp [Proc.Executes] at runs, fun _ _ _ => rfl⟩

theorem Kept.kill (h : Kept s) (a : Place) : Kept (s.kill a) := by
  refine h.tame ?_
  intro b p' is
  have survives : b ≠ a := by
    intro here
    simp [here] at is
  refine ⟨p', ?_, .refl p'⟩
  simpa [World.kill, World.setProc, survives] using is

/-- The process is not on its way out, is no surrogate on its way home, and no surrogate needs it
held. -/
structure Loose (s : World) (a : Place) : Prop where
  out : ∀ x, x.isReturning = false → Frozen s.cluster x → place x ≠ a
  home : ∀ x, x.isReturning = true → Bound s x → place x ≠ a
  free : ∀ b p, s.procs b = some p → p.role = .surrogate a → Lent s b

theorem Kept.cont (h : Kept s) (loose : ∀ d, s.procs a = some d → Loose s a) : Kept (s.cont a) := by
  have kept : ∀ b p', b ≠ a → (s.cont a).procs b = some p' → s.procs b = some p' := by
    intro b p' other is
    obtain ⟨p, before, result⟩ := modifyProc_eq is
    rw [result, if_neg other]
    exact before
  have loose' : ∀ {b p'}, b = a → (s.cont a).procs b = some p' → Loose s a := by
    intro b p' here is
    obtain ⟨p, before, _⟩ := modifyProc_eq is
    exact loose p (here ▸ before)
  refine h.reproc ?_ ?_ ?_ ?_
  · intro b p' is
    obtain ⟨p, before, result⟩ := modifyProc_eq is
    refine ⟨p, before, ?_⟩
    rw [result]
    split <;> rfl
  · intro x leaves is d' at'
    have other : place x ≠ a := fun here => (loose' here at').out x leaves is here
    exact h.leaving.held x leaves is d' (kept _ d' other at')
  · intro x ret is p' at'
    have other : place x ≠ a := fun here => (loose' here at').home x ret is here
    exact h.returning.stopped x ret is p' (kept _ p' other at')
  · intro b p o before role lent d' at'
    have other : o ≠ a := by
      intro here
      exact lent ((loose' here at').free b p before (here ▸ role))
    exact h.held b p o before role lent d' (kept o d' other at')

theorem Kept.reguest (h : Kept s) {guests : List Guest}
    (keys : (guests.map Guest.key).Nodup) (places : (guests.map Guest.place).Nodup)
    (old : ∀ g ∈ guests, ∃ g' ∈ s.guests, g'.place = g.place ∧ g'.key = g.key)
    (entry : ∀ g ∈ s.guests, ∀ p, s.procs g.place = some p →
      ∃ g' ∈ guests, g'.place = g.place ∧ g'.key = g.key)
    (marked : ∀ x, x.isReturning = true → Under s x → ∀ p, s.procs (place x) = some p →
      ∀ g ∈ guests, g.place = place x → g.isMigrating = true) : Kept { s with guests } where
  sound := h.sound
  labelled := h.labelled
  named :=
    { h.named with
      guest := fun g mem => by
        obtain ⟨g', mem', place, _⟩ := old g mem
        exact place ▸ h.named.guest g' mem' }
  registered :=
    { exports := h.registered.exports
      guests := keys
      places
      entry := fun a p o is role => by
        obtain ⟨g, mem, place, key⟩ := h.registered.entry a p o is role
        obtain ⟨g', mem', place', key'⟩ := entry g mem p (by rw [place]; exact is)
        exact ⟨g', mem', place'.trans place, key'.trans key⟩
      role := fun g mem p is => by
        obtain ⟨g', mem', place, key⟩ := old g mem
        rw [← key]
        exact h.registered.role g' mem' p (by rw [place]; exact is) }
  roles := { h.roles with }
  leaving :=
    { h.leaving with
      noGuest := fun x out is g mem key => by
        obtain ⟨g', mem', _, key'⟩ := old g mem
        exact h.leaving.noGuest x out is g' mem' (key'.trans key)
      noPlace := fun x out is g mem place => by
        obtain ⟨g', mem', place', _⟩ := old g mem
        exact h.leaving.noPlace x out is g' mem' (place'.trans place) }
  returning :=
    { h.returning with
      only := fun x ret is g mem key => by
        obtain ⟨g', mem', place, key'⟩ := old g mem
        exact place ▸ h.returning.only x ret is g' mem' (key'.trans key)
      marked }
  one := h.one
  held := h.held
  back := h.back
  once := h.once
  committed := h.committed
  growing := h.growing

/-- The entry of a process that is gone is removed. -/
theorem Kept.removeGuest (h : Kept s) {g : Guest} (gone : s.procs g.place = none) :
    Kept { s with guests := s.guests.erase g } := by
  have shorter : (s.guests.erase g).Sublist s.guests := List.erase_sublist
  refine h.reguest (h.registered.guests.sublist (shorter.map _))
    (h.registered.places.sublist (shorter.map _)) ?_ ?_ ?_
  · intro g' mem
    exact ⟨g', shorter.subset mem, rfl, rfl⟩
  · intro g' mem p is
    have other : g' ≠ g := by
      intro same
      rw [same, gone] at is
      simp at is
    exact ⟨g', (List.mem_erase_of_ne other).mpr mem, rfl, rfl⟩
  · intro x ret is p at' g' mem
    exact h.returning.marked x ret is p at' g' (shorter.subset mem)

theorem Kept.addExport (h : Kept s) {e : Export} (free : ∀ k ∈ s.exports, k.key ≠ e.key)
    (ended : ∀ x, x.isReturning = false → Unregistered s x → original x ≠ e.key) :
    Kept (s.addExportProcess e) := by
  have registered : ((s.exports ++ [e]).map Export.key).Nodup := by
    rw [List.map_append, List.nodup_append]
    refine ⟨h.registered.exports, by simp, ?_⟩
    intro k mem k' mem'
    obtain ⟨i, memI, is⟩ := List.mem_map.mp mem
    rw [List.map_singleton, List.mem_singleton] at mem'
    rw [mem', ← is]
    exact free i memI
  unfold World.addExportProcess
  split
  · exact
      { h with
        named := { h.named with }
        registered := { h.registered with exports := registered }
        roles := { h.roles with }
        leaving :=
          { h.leaving with
            noExport := fun x out is k mem => by
              cases List.mem_append.mp mem with
              | inl old => exact h.leaving.noExport x out is k old
              | inr new =>
                rw [List.mem_singleton.mp new]
                exact (ended x out is).symm }
        returning := { h.returning with } }
  · exact h

theorem Kept.reletter (h : Kept s) {letters : List Letter}
    (fine : ∀ l ∈ letters, l.notice = .sysReq → l ∈ s.letters ∨ (l.dst, l.pid) ∈ s.used ∧
      ∀ d, s.procs (l.dst, l.pid) = some d → d.role = .plain) : Kept { s with letters } :=
  { h with
    named :=
      { h.named with
        letter := fun l mem req => by
          cases fine l mem req with
          | inl old => exact h.named.letter l old req
          | inr new => exact new.1 }
    registered := { h.registered with }
    roles :=
      { h.roles with
        letter := fun l mem req => by
          cases fine l mem req with
          | inl old => exact h.roles.letter l old req
          | inr new => exact new.2 }
    leaving := { h.leaving with }
    returning := { h.returning with } }

theorem Kept.take (h : Kept s) (l : Letter) : Kept (s.take l) :=
  h.reletter fun _ mem _ => .inl (List.mem_of_mem_erase mem)

theorem Kept.post (h : Kept s) {l : Letter} (fine : l.notice = .sysReq → (l.dst, l.pid) ∈ s.used ∧
    ∀ d, s.procs (l.dst, l.pid) = some d → d.role = .plain) : Kept (s.post l) := by
  refine h.reletter ?_
  intro l' mem req
  cases List.mem_cons.mp mem with
  | inl new =>
    rw [new] at req ⊢
    exact .inr (fine req)
  | inr old => exact .inl old

theorem setProc_used {p : Option Proc} {b : Place} (fresh : a ∉ s.used) (used : b ∈ s.used) :
    (s.setProc a p).procs b = s.procs b := by
  have other : b ≠ a := fun here => fresh (here ▸ used)
  simp [World.setProc, other]

/-- A new process, which is no surrogate yet. -/
theorem Kept.spawn (h : Kept s) {p : Proc} (fresh : a ∉ s.used)
    (role : ∀ o, p.role ≠ .surrogate o) :
    Kept { s.setProc a (some p) with used := a :: s.used } := by
  have more : ∀ {b}, b ∈ s.used → b ∈ a :: s.used := fun mem => List.mem_cons_of_mem a mem
  have same : ∀ {b q}, b ∈ s.used → (s.setProc a (some p)).procs b = some q → s.procs b = some q := by
    intro b q used is
    rw [← is, setProc_used fresh used]
  have surrogate : ∀ {b q o}, (s.setProc a (some p)).procs b = some q → q.role = .surrogate o →
      s.procs b = some q := by
    intro b q o is role'
    by_cases here : b = a
    · have new : p = q := by simpa [World.setProc, here] using is
      exact absurd (new ▸ role') (role o)
    · simpa [World.setProc, here] using is
  exact
    { sound := h.sound
      labelled := h.labelled
      named :=
        { proc := fun b q is => by
            by_cases here : b = a
            · exact here ▸ List.mem_cons_self
            · exact more (h.named.proc b q (by simpa [World.setProc, here] using is))
          image := fun b q o is role' => more (h.named.image b q o (surrogate is role') role')
          guest := fun g mem => more (h.named.guest g mem)
          task := fun x is => more (h.named.task x is)
          home := fun x is => more (h.named.home x is)
          stub := fun x out is => more (h.named.stub x out is)
          letter := fun l mem req => more (h.named.letter l mem req)
          wake := fun b mem => more (h.named.wake b mem)
          back := fun b mem => more (h.named.back b mem) }
      registered :=
        { h.registered with
          entry := fun b q o is role' => h.registered.entry b q o (surrogate is role') role'
          role := fun g mem q is => h.registered.role g mem q (same (h.named.guest g mem) is) }
      roles :=
        { deputy := fun b q o is role' d at' =>
            have before := surrogate is role'
            h.roles.deputy b q o before role' d (same (h.named.image b q o before role') at')
          letter := fun l mem req d is =>
            h.roles.letter l mem req d (same (h.named.letter l mem req) is)
          wake := fun b mem q is => h.roles.wake b mem q (same (h.named.wake b mem) is)
          leaving := fun x out is q at' =>
            h.roles.leaving x out is q (same (h.named.task x is) at')
          stub := fun x out is q at' => h.roles.stub x out is q (same (h.named.stub x out is) at')
          returning := fun x ret is q at' =>
            h.roles.returning x ret is q (same (h.named.task x is) at')
          home := fun x ret is q at' => h.roles.home x ret is q (same (h.named.home x is) at') }
      leaving :=
        { h.leaving with
          held := fun x out is d at' =>
            h.leaving.held x out is d (same (h.named.task x (.of_frozen is)) at') }
      returning :=
        { only := h.returning.only
          marked := fun x ret is q at' =>
            h.returning.marked x ret is q (same (h.named.task x is) at')
          stopped := fun x ret is q at' =>
            h.returning.stopped x ret is q (same (h.named.task x is.under) at')
          quiet := fun x ret is q at' =>
            h.returning.quiet x ret is q (same (h.named.task x is.under) at')
          landing := fun x ret is q at' =>
            h.returning.landing x ret is q (same (h.named.task x (.of_frozen (.inr is))) at') }
      one := h.one
      held := fun b q o is role' lent d at' =>
        have before := surrogate is role'
        h.held b q o before role' lent d (same (h.named.image b q o before role') at')
      back := fun b mem q is => h.back b mem q (same (h.named.back b mem) is)
      once := h.once
      committed := h.committed
      growing := h.growing }

end Primitives

section Marks
variable {s : World} {a : Place} {b : Bool} {gs : List Guest}

/-- A mark changes nothing else of the registry. -/
theorem markGuest_map {α : Type*} (a : Place) (gs : List Guest) (f : Guest → α)
    (same : ∀ g, f { g with isMigrating := b } = f g) :
    (markGuest a b gs).map f = gs.map f := by
  induction gs with
  | nil => rfl
  | cons g gs ih =>
    rw [markGuest]
    split
    · simp [same]
    · simp [ih]

theorem mem_markGuest {g : Guest} (mem : g ∈ markGuest a b gs) :
    g ∈ gs ∨ g.place = a ∧ g.isMigrating = b := by
  induction gs with
  | nil => simp [markGuest] at mem
  | cons k gs ih =>
    rw [markGuest] at mem
    split at mem
    · rename_i here
      cases List.mem_cons.mp mem with
      | inl new =>
        rw [new]
        exact .inr ⟨here, rfl⟩
      | inr old => exact .inl (List.mem_cons_of_mem k old)
    · cases List.mem_cons.mp mem with
      | inl same => exact .inl (same ▸ List.mem_cons_self)
      | inr rest => exact (ih rest).imp_left (List.mem_cons_of_mem k)

/-- With one entry for a place, that one is marked. -/
theorem markGuest_marked (places : (gs.map Guest.place).Nodup) {g : Guest}
    (mem : g ∈ markGuest a b gs) (here : g.place = a) : g.isMigrating = b := by
  induction gs with
  | nil => simp [markGuest] at mem
  | cons k gs ih =>
    have split := List.nodup_cons.mp places
    rw [markGuest] at mem
    split at mem
    · rename_i first
      cases List.mem_cons.mp mem with
      | inl new => rw [new]
      | inr old =>
        have again : k.place ∈ gs.map Guest.place :=
          List.mem_map.mpr ⟨g, old, here.trans first.symm⟩
        exact absurd again split.1
    · rename_i other
      cases List.mem_cons.mp mem with
      | inl same =>
        rw [same] at here
        exact absurd here other
      | inr rest => exact ih split.2 rest

theorem Kept.mark (h : Kept s) (fine : ∀ x, x.isReturning = true → Under s x → place x = a → b = true) :
    Kept (s.mark a b) := by
  have keys := markGuest_map (b := b) a s.guests Guest.key fun _ => rfl
  have places := markGuest_map (b := b) a s.guests Guest.place fun _ => rfl
  have both := markGuest_map (b := b) a s.guests (fun g => (g.place, g.key)) fun _ => rfl
  have found : ∀ {gs gs' : List Guest} {g : Guest}, g ∈ gs →
      gs.map (fun g => (g.place, g.key)) = gs'.map (fun g => (g.place, g.key)) →
      ∃ g' ∈ gs', g'.place = g.place ∧ g'.key = g.key := by
    intro gs gs' g mem same
    have listed : (g.place, g.key) ∈ gs'.map fun g => (g.place, g.key) :=
      same ▸ List.mem_map.mpr ⟨g, mem, rfl⟩
    obtain ⟨g', mem', is⟩ := List.mem_map.mp listed
    rw [Prod.mk.injEq] at is
    exact ⟨g', mem', is⟩
  refine h.reguest (by rw [keys]; exact h.registered.guests) (by rw [places]; exact h.registered.places)
    (fun g mem => found mem both) (fun g mem _ _ => found mem both.symm) ?_
  intro x ret is p at' g mem here
  by_cases own : place x = a
  · rw [markGuest_marked h.registered.places mem (here.trans own)]
    exact fine x ret is own
  · cases mem_markGuest mem with
    | inl old => exact h.returning.marked x ret is p at' g old here
    | inr new => exact absurd (here.symm.trans new.1) own

end Marks

section Phases
variable {s : World} {x : Transfer}

theorem Kept.begun (h : Kept s) (is : Under s x) : x ∈ s.cluster.begun := by
  have born : s.cluster.stage x ≠ .unborn := by
    intro unborn
    cases is with
    | inl way =>
      cases way with
      | inl stage => simp [unborn, isOpen] at stage
      | inr lands => simp [lands.over h.sound] at unborn
    | inr mem => simp [h.committed x mem] at unborn
  exact h.sound.begun x born

theorem Kept.committed_next (h : Kept s) {e : MigrationHandoff.Event}
    (en : MigrationHandoff.enabled s.cluster e) :
    ∀ x ∈ s.commits, (MigrationHandoff.next s.cluster e).stage x = .over := by
  intro x mem
  have ended := h.committed x mem
  rw [stage_stays h.sound en (.inl ended), ended]

theorem Kept.growing_next (h : Kept s) {e : MigrationHandoff.Event}
    (en : MigrationHandoff.enabled s.cluster e)
    (rest : ∀ x ∈ s.growing, ∀ n g, e = .hijack n g ∨ e = .quit n g → g.transfer ≠ x) :
    ∀ x ∈ s.growing, (MigrationHandoff.next s.cluster e).stage x = .received := by
  intro x mem
  have received := (h.growing x mem).2
  rw [stage_stays h.sound en (.inr ⟨received, rest x mem⟩), received]

/-- A capture begins. -/
theorem Kept.begin (h : Kept s) (en : x ∉ s.cluster.begun)
    (hok : MigrationPairing.ok s.cluster (.begin x))
    (apart : ∀ y, Under s y → place y ≠ place x ∧ original y ≠ original x)
    (task : place x ∈ s.used) (home : original x ∈ s.used)
    (out : x.isReturning = false → original x = place x ∧
      (∀ p, s.procs (place x) = some p → p.role = .plain) ∧
      (∀ e ∈ s.exports, e.key ≠ original x) ∧ ∀ g ∈ s.guests, g.key ≠ original x)
    (ret : x.isReturning = true →
      (∀ p, s.procs (place x) = some p → p.role = .surrogate (original x)) ∧
      (∀ d, s.procs (original x) = some d → d.role = .plain) ∧
      (∀ g ∈ s.guests, g.key = original x → g.place = place x) ∧
      ∀ g ∈ s.guests, g.place = place x → g.isMigrating = true) :
    Kept { s with cluster := MigrationHandoff.next s.cluster (.begin x) } := by
  have enabled : MigrationHandoff.enabled s.cluster (.begin x) := en
  have way : ∀ y, UnderWay (MigrationHandoff.next s.cluster (.begin x)) y →
      UnderWay s.cluster y ∨ y = x := fun y is => (of_begin is).imp_right And.right
  have under : ∀ y, Under { s with cluster := MigrationHandoff.next s.cluster (.begin x) } y →
      Under s y ∨ y = x := by
    intro y is
    cases is with
    | inl is => exact (way y is).imp_left .inl
    | inr mem => exact .inl (.inr mem)
  have frozen : ∀ y, Frozen (MigrationHandoff.next s.cluster (.begin x)) y → Frozen s.cluster y :=
    fun y is => (of_begin is).resolve_right (by simp [exporting])
  have spawned : ∀ y, Spawned (MigrationHandoff.next s.cluster (.begin x)) y →
      Spawned s.cluster y := fun y is => (of_begin is).resolve_right (by simp [importing])
  have bound : ∀ y, Bound { s with cluster := MigrationHandoff.next s.cluster (.begin x) } y →
      Bound s y := fun y is => is.imp_left (frozen y)
  exact
    { sound := sound_next h.sound _ enabled hok
      labelled := h.labelled.next h.sound enabled
      named :=
        { h.named with
          task := fun y is => by
            cases under y is with
            | inl old => exact h.named.task y old
            | inr own => exact own ▸ task
          home := fun y is => by
            cases under y is with
            | inl old => exact h.named.home y old
            | inr own => exact own ▸ home
          stub := fun y leaves is => h.named.stub y leaves (spawned y is) }
      registered := { h.registered with }
      roles :=
        { h.roles with
          leaving := fun y leaves is => by
            cases under y is with
            | inl old => exact h.roles.leaving y leaves old
            | inr own =>
              subst own
              exact (out leaves).2.1
          stub := fun y leaves is => h.roles.stub y leaves (spawned y is)
          returning := fun y returns is => by
            cases under y is with
            | inl old => exact h.roles.returning y returns old
            | inr own =>
              subst own
              exact (ret returns).1
          home := fun y returns is => by
            cases under y is with
            | inl old => exact h.roles.home y returns old
            | inr own =>
              subst own
              exact (ret returns).2.1 }
      leaving :=
        { own := fun y leaves is => by
            cases under y is with
            | inl old => exact h.leaving.own y leaves old
            | inr own =>
              subst own
              exact (out leaves).1
          held := fun y leaves is => h.leaving.held y leaves (frozen y is)
          noGuest := fun y leaves is => by
            cases way y is with
            | inl old => exact h.leaving.noGuest y leaves old
            | inr own =>
              subst own
              exact (out leaves).2.2.2
          noExport := fun y leaves is => by
            by_cases own : y = x
            · subst own
              exact (out leaves).2.2.1
            · refine h.leaving.noExport y leaves (is.imp_left fun stage => ?_)
              have moved : isOpen ((s.cluster.setStage x .capturing).stage y) = true := stage
              rwa [setStage_other _ _ own] at moved
          noPlace := fun y leaves is => h.leaving.noPlace y leaves (spawned y is) }
      returning :=
        { only := fun y returns is => by
            cases under y is with
            | inl old => exact h.returning.only y returns old
            | inr own =>
              subst own
              exact (ret returns).2.2.1
          marked := fun y returns is p at' => by
            cases under y is with
            | inl old => exact h.returning.marked y returns old p at'
            | inr own =>
              subst own
              exact (ret returns).2.2.2
          stopped := fun y returns is => h.returning.stopped y returns (bound y is)
          quiet := fun y returns is => h.returning.quiet y returns (bound y is)
          landing := h.returning.landing }
      one := fun y z hy hz same => by
        cases under y hy with
        | inl oldY =>
          cases under z hz with
          | inl oldZ => exact h.one y z oldY oldZ same
          | inr own =>
            rw [own] at same
            exact absurd same (by simp [apart y oldY])
        | inr ownY =>
          cases under z hz with
          | inl oldZ =>
            rw [ownY] at same
            exact absurd same (by simp [(apart z oldZ).1.symm, (apart z oldZ).2.symm])
          | inr own => exact ownY.trans own.symm
      held := h.held
      back := h.back
      once := h.once
      committed := h.committed_next enabled
      growing := fun y mem => ⟨(h.growing y mem).1, h.growing_next enabled (by simp) y mem⟩ }

/-- The captured process is stopped. -/
theorem Kept.freeze (h : Kept s) {copied : Bool} (en : s.cluster.stage x = .capturing)
    (hok : MigrationPairing.ok s.cluster (.store x copied))
    (out : x.isReturning = false → ∀ d, s.procs (place x) = some d → ¬ d.Executes)
    (ret : x.isReturning = true →
      (∀ p, s.procs (place x) = some p → p.stopped = true) ∧ place x ∉ s.wakes) :
    Kept { s with cluster := MigrationHandoff.next s.cluster (.store x copied) } := by
  have enabled : MigrationHandoff.enabled s.cluster (.store x copied) := en
  have way : ∀ y, UnderWay (MigrationHandoff.next s.cluster (.store x copied)) y →
      UnderWay s.cluster y := by
    intro y is
    cases of_store is with
    | inl old => exact old
    | inr own => exact .inl (by rw [own.2, en]; rfl)
  have under : ∀ y, Under { s with cluster := MigrationHandoff.next s.cluster (.store x copied) } y →
      Under s y := fun y is => is.imp_left (way y)
  have frozen : ∀ y, Frozen (MigrationHandoff.next s.cluster (.store x copied)) y →
      Frozen s.cluster y ∨ y = x := fun y is => (of_store is).imp_right And.right
  have spawned : ∀ y, Spawned (MigrationHandoff.next s.cluster (.store x copied)) y →
      Spawned s.cluster y := fun y is => (of_store is).resolve_right (by simp [importing])
  have bound : ∀ y, Bound { s with cluster := MigrationHandoff.next s.cluster (.store x copied) } y →
      Bound s y ∨ y = x := by
    intro y is
    cases is with
    | inl is => exact (frozen y is).imp_left .inl
    | inr mem => exact .inl (.inr mem)
  exact
    { sound := sound_next h.sound _ enabled hok
      labelled := h.labelled.next h.sound enabled
      named :=
        { h.named with
          task := fun y is => h.named.task y (under y is)
          home := fun y is => h.named.home y (under y is)
          stub := fun y leaves is => h.named.stub y leaves (spawned y is) }
      registered := { h.registered with }
      roles :=
        { h.roles with
          leaving := fun y leaves is => h.roles.leaving y leaves (under y is)
          stub := fun y leaves is => h.roles.stub y leaves (spawned y is)
          returning := fun y returns is => h.roles.returning y returns (under y is)
          home := fun y returns is => h.roles.home y returns (under y is) }
      leaving :=
        { own := fun y leaves is => h.leaving.own y leaves (under y is)
          held := fun y leaves is => by
            cases frozen y is with
            | inl old => exact h.leaving.held y leaves old
            | inr own =>
              subst own
              exact out leaves
          noGuest := fun y leaves is => h.leaving.noGuest y leaves (way y is)
          noExport := fun y leaves is => by
            refine h.leaving.noExport y leaves (is.imp_left fun stage => ?_)
            have moved : isOpen ((s.cluster.setStage x .stored).stage y) = true := stage
            refine of_setStage (fun _ => ?_) moved
            rw [en]
            rfl
          noPlace := fun y leaves is => h.leaving.noPlace y leaves (spawned y is) }
      returning :=
        { only := fun y returns is => h.returning.only y returns (under y is)
          marked := fun y returns is => h.returning.marked y returns (under y is)
          stopped := fun y returns is => by
            cases bound y is with
            | inl old => exact h.returning.stopped y returns old
            | inr own =>
              subst own
              exact (ret returns).1
          quiet := fun y returns is p at' => by
            cases bound y is with
            | inl old => exact h.returning.quiet y returns old p at'
            | inr own =>
              subst own
              exact (ret returns).2
          landing := h.returning.landing }
      one := fun y z hy hz => h.one y z (under y hy) (under z hz)
      held := h.held
      back := h.back
      once := h.once
      committed := h.committed_next enabled
      growing := fun y mem => ⟨(h.growing y mem).1, h.growing_next enabled (by simp) y mem⟩ }

theorem landing_of_next (h : Kept s) {e : MigrationHandoff.Event}
    (en : MigrationHandoff.enabled s.cluster e) (pumps : ∀ n, e ≠ .pumpDone n)
    (lands : Landing (MigrationHandoff.next s.cluster e) x) : Landing s.cluster x := by
  refine (landing_next h.sound en lands).resolve_right ?_
  intro ⟨⟨n, is, _⟩, _⟩
  exact pumps n is

/-- A stub is there for the blueprint. -/
theorem Kept.host (h : Kept s) {i src dst pid : ℕ} {alloc prepared : Bool}
    (en : MigrationHandoff.enabled s.cluster (.receiveBlueprint i src dst x alloc prepared))
    (hok : MigrationPairing.ok s.cluster (.receiveBlueprint i src dst x alloc prepared))
    (used : (x.target, pid) ∈ s.used)
    (stub : ∀ p, s.procs (x.target, pid) = some p → p.role = .stub)
    (noPlace : ∀ g ∈ s.guests, g.place ≠ (x.target, pid)) :
    Kept { s with
      cluster := MigrationHandoff.next s.cluster (.receiveBlueprint i src dst x alloc prepared)
      stubPid := Function.update s.stubPid x pid } := by
  have way := fun y => closing_isOpen.of_next (y := y) h.sound en (by simp [Enters, isOpen])
  have frozen := fun y => closing_exporting.of_next (y := y) h.sound en (by simp [Enters, exporting])
  have under : ∀ y, Under { s with
      cluster := MigrationHandoff.next s.cluster (.receiveBlueprint i src dst x alloc prepared)
      stubPid := Function.update s.stubPid x pid } y → Under s y := fun y is => is.imp_left (way y)
  have bound : ∀ y, Bound { s with
      cluster := MigrationHandoff.next s.cluster (.receiveBlueprint i src dst x alloc prepared)
      stubPid := Function.update s.stubPid x pid } y → Bound s y :=
    fun y is => is.imp_left (frozen y)
  have spawned : ∀ y, Spawned
      (MigrationHandoff.next s.cluster (.receiveBlueprint i src dst x alloc prepared)) y →
      y ≠ x → Spawned s.cluster y :=
    fun y is other => (of_received is).resolve_right fun own => other own.2
  have pidOf : ∀ y, y ≠ x → Function.update s.stubPid x pid y = s.stubPid y :=
    fun y other => by simp [other]
  have own : Function.update s.stubPid x pid x = pid := by simp
  exact
    { sound := sound_next h.sound _ en hok
      labelled := h.labelled.next h.sound en
      named :=
        { h.named with
          task := fun y is => h.named.task y (under y is)
          home := fun y is => h.named.home y (under y is)
          stub := fun y leaves is => by
            by_cases same : y = x
            · rw [same]
              simpa only [own] using used
            · simpa only [pidOf y same] using h.named.stub y leaves (spawned y is same) }
      registered := { h.registered with }
      roles :=
        { h.roles with
          leaving := fun y leaves is => h.roles.leaving y leaves (under y is)
          stub := fun y leaves is => by
            by_cases same : y = x
            · rw [same]
              simpa only [own] using stub
            · simpa only [pidOf y same] using h.roles.stub y leaves (spawned y is same)
          returning := fun y returns is => h.roles.returning y returns (under y is)
          home := fun y returns is => h.roles.home y returns (under y is) }
      leaving :=
        { own := fun y leaves is => h.leaving.own y leaves (under y is)
          held := fun y leaves is => h.leaving.held y leaves (frozen y is)
          noGuest := fun y leaves is => h.leaving.noGuest y leaves (way y is)
          noExport := fun y leaves is => h.leaving.noExport y leaves
            (is.imp_left (closing_isOpen.stage_next h.sound en (by simp [Enters, isOpen])))
          noPlace := fun y leaves is => by
            by_cases same : y = x
            · rw [same]
              simpa only [own] using noPlace
            · simpa only [pidOf y same] using h.leaving.noPlace y leaves (spawned y is same) }
      returning :=
        { only := fun y returns is => h.returning.only y returns (under y is)
          marked := fun y returns is => h.returning.marked y returns (under y is)
          stopped := fun y returns is => h.returning.stopped y returns (bound y is)
          quiet := fun y returns is => h.returning.quiet y returns (bound y is)
          landing := fun y returns is =>
            h.returning.landing y returns (landing_of_next h en (by simp) is) }
      one := fun y z hy hz => h.one y z (under y hy) (under z hz)
      held := h.held
      back := h.back
      once := h.once
      committed := h.committed_next en
      growing := fun y mem => ⟨(h.growing y mem).1, h.growing_next en (by simp) y mem⟩ }

/-- Most steps of the hand-offs take up nothing. -/
theorem Kept.recedes (h : Kept s) {e : MigrationHandoff.Event}
    (en : MigrationHandoff.enabled s.cluster e) (hok : MigrationPairing.ok s.cluster e)
    (keeps : ¬ Enters exporting e)
    (spawned : ∀ x, x.isReturning = false → Spawned (MigrationHandoff.next s.cluster e) x →
      Spawned s.cluster x)
    (pumps : ∀ n, e ≠ .pumpDone n)
    (rest : ∀ x ∈ s.growing, ∀ n g, e = .hijack n g ∨ e = .quit n g → g.transfer ≠ x) :
    Recedes s (MigrationHandoff.next s.cluster e) s.commits := by
  have keeps' : ¬ Enters isOpen e := by
    intro enters
    apply keeps
    cases e <;> simp_all [Enters, isOpen]
  exact
    { sound := sound_next h.sound _ en hok
      labelled := h.labelled.next h.sound en
      underWay := fun x => closing_isOpen.of_next h.sound en keeps'
      under := fun x mem => .inr mem
      frozen := fun x => closing_exporting.of_next h.sound en keeps
      bound := fun x mem => .inr mem
      unregistered := fun x is => is.imp_left (closing_isOpen.stage_next h.sound en keeps')
      spawned
      landing := fun x ret lands =>
        h.returning.landing x ret (landing_of_next h en pumps lands)
      still := fun x mem _ _ _ => mem
      once := h.once
      committed := h.committed_next en
      growing := h.growing_next en rest }

theorem Kept.step (h : Kept s) {e : MigrationHandoff.Event}
    (en : MigrationHandoff.enabled s.cluster e) (hok : MigrationPairing.ok s.cluster e)
    (keeps : ¬ Enters importing e) (pumps : ∀ n, e ≠ .pumpDone n)
    (rest : ∀ x ∈ s.growing, ∀ n g, e = .hijack n g ∨ e = .quit n g → g.transfer ≠ x) :
    Kept { s with cluster := MigrationHandoff.next s.cluster e } := by
  have keeps' : ¬ Enters exporting e := by
    intro enters
    apply keeps
    cases e <;> simp_all [Enters, importing]
  exact h.recede (h.recedes en hok keeps' (fun x _ => closing_importing.of_next h.sound en keeps)
    pumps rest)

end Phases

section Handoffs
variable {s : World} {x : Transfer}

theorem kept_begin (h : Kept s) (en : ProcessWorld.enabled s (.handoff (.begin x)))
    (hok : ok s (.handoff (.begin x))) : Kept (ProcessWorld.next s (.handoff (.begin x))) := by
  obtain ⟨fresh, _, alive, begins⟩ := en
  have captures : Captures s x := hok.2
  obtain ⟨p, here⟩ := Option.isSome_iff_exists.mp alive
  have paired := hok.1 _ rfl
  have apart : ∀ y, Under s y → place y ≠ place x ∧ original y ≠ original x :=
    fun y is => captures.1 y (h.begun is) is
  have task := h.named.proc _ p here
  cases dir : x.isReturning with
  | false =>
    rw [dir] at begins
    have own : original x = place x := by simp_all [original, place]
    obtain ⟨role, noExport, noGuest⟩ := captures.2 dir
    rw [here] at role
    have plain : p.role = .plain := by simpa using role
    have started := h.begin fresh paired apart task (own ▸ task)
      (fun _ => ⟨own, fun q at' => Option.some.inj (here.symm.trans at') ▸ plain, noExport, noGuest⟩)
      (by simp [dir])
    have same : effect s (.begin x) = s := by simp [effect, dir]
    change Kept { effect s (.begin x) with cluster := MigrationHandoff.next s.cluster (.begin x) }
    rw [same]
    exact started
  | true =>
    rw [dir] at begins
    obtain ⟨g, mem, there, key⟩ := begins
    have surrogate : p.role = .surrogate (original x) := by
      rw [← key]
      exact h.registered.role g mem p (by rw [there]; exact here)
    have marked : Kept (s.mark (place x) true) := h.mark fun _ _ _ _ => rfl
    obtain ⟨g', mem', there', key'⟩ := marked.registered.entry _ p _ here surrogate
    have started := marked.begin fresh paired apart task (h.named.image _ p _ here surrogate)
      (by simp [dir]) fun _ => ⟨?_, ?_, ?_, ?_⟩
    · have same : effect s (.begin x) = s.mark (place x) true := by simp [effect, dir]
      change Kept { effect s (.begin x) with cluster := MigrationHandoff.next s.cluster (.begin x) }
      rw [same]
      exact started
    · intro q at'
      exact Option.some.inj (here.symm.trans at') ▸ surrogate
    · exact h.roles.deputy _ p _ here surrogate
    · intro k memK keyK
      have same : k = g' :=
        List.inj_on_of_nodup_map marked.registered.guests memK mem' (keyK.trans key'.symm)
      rw [same, there']
    · intro k memK hereK
      exact markGuest_marked h.registered.places memK hereK

/-- Nobody is the surrogate of a process that is captured. -/
theorem Kept.unsurrogated (h : Kept s) (way : UnderWay s.cluster x) {d : Proc}
    (alive : s.procs (place x) = some d) :
    ∀ b p, s.procs b = some p → p.role ≠ .surrogate (place x) := by
  intro b p is role
  cases dir : x.isReturning with
  | false =>
    obtain ⟨g, mem, _, key⟩ := h.registered.entry b p _ is role
    exact h.leaving.noGuest x dir way g mem (key.trans (h.leaving.own x dir (.inl way)).symm)
  | true =>
    have plain := h.roles.deputy b p _ is role d alive
    rw [h.roles.returning x dir (.inl way) d alive] at plain
    simp at plain

/-- A process whose transfer has just been given up. -/
theorem Kept.loose (h : Kept s) {c : Cluster} (way : UnderWay s.cluster x)
    (under : ∀ y, Under { s with cluster := c } y → Under s y)
    (ended : ¬ Under { s with cluster := c } x) {d : Proc} (alive : s.procs (place x) = some d) :
    Loose { s with cluster := c } (place x) where
  out := fun y _ is same => by
    have own : y = x := h.one y x (under y (.of_frozen is)) (.inl way) (.inl same)
    exact ended (own ▸ Under.of_frozen is)
  home := fun y _ is same => by
    have own : y = x := h.one y x (under y is.under) (.inl way) (.inl same)
    exact ended (own ▸ is.under)
  free := fun b p is role => absurd role (h.unsurrogated way alive b p is)

/-- A transfer that fails before its DONE is no longer under way. -/
theorem Kept.failed (h : Kept s) {e : MigrationHandoff.Event}
    (en : MigrationHandoff.enabled s.cluster e) (pumps : ∀ n, e ≠ .pumpDone n)
    (was : s.cluster.stage x ≠ .over) (ended : (MigrationHandoff.next s.cluster e).stage x = .over) :
    ¬ Under { s with cluster := MigrationHandoff.next s.cluster e } x := by
  intro is
  cases is with
  | inl way =>
    cases way with
    | inl stage =>
      rw [ended] at stage
      simp [isOpen] at stage
    | inr lands => exact was ((landing_of_next h en pumps lands).over h.sound)
  | inr mem => exact was (h.committed x mem)

end Handoffs

section Ends
variable {s : World} {x : Transfer} {b o : Place}

/-- A stub becomes the surrogate of a process that is held, and gets its entry. -/
theorem Kept.settle (h : Kept s) {g : Guest} (here : g.place = b) (key : g.key = o)
    (stub : ∀ p, s.procs b = some p → p.role = .stub) (used : b ∈ s.used) (home : o ∈ s.used)
    (plain : ∀ d, s.procs o = some d → d.role = .plain)
    (held : ∀ d, s.procs o = some d → ¬ d.Executes)
    (noGuest : ∀ k ∈ s.guests, k.key ≠ o) (noPlace : ∀ k ∈ s.guests, k.place ≠ b)
    (leaves : ∀ y, y.isReturning = false → UnderWay s.cluster y → original y ≠ o)
    (returns : ∀ y, y.isReturning = true → Under s y → original y ≠ o)
    (noStub : ∀ y, y.isReturning = false → Spawned s.cluster y → (y.target, s.stubPid y) ≠ b) :
    Kept { s.modifyProc b (transplant o) with guests := s.guests ++ [g] } := by
  have origin : ∀ {c p'}, (s.modifyProc b (transplant o)).procs c = some p' →
      c = b ∧ p'.role = .surrogate o ∨ s.procs c = some p' := by
    intro c p' is
    obtain ⟨p, before, result⟩ := modifyProc_eq is
    by_cases same : c = b
    · rw [if_pos same] at result
      exact .inl ⟨same, by rw [result]; rfl⟩
    · rw [if_neg same] at result
      exact .inr (result ▸ before)
  -- a place whose process is no stub is another one
  have other : ∀ {c p'}, (s.modifyProc b (transplant o)).procs c = some p' →
      (∀ p, s.procs c = some p → p.role ≠ .stub) → s.procs c = some p' := by
    intro c p' is noStub'
    obtain ⟨p, before, result⟩ := modifyProc_eq is
    have apart : c ≠ b := by
      intro same
      subst same
      exact noStub' p before (stub p before)
    rw [if_neg apart] at result
    exact result ▸ before
  have plainOf : ∀ {c p'}, (∀ p, s.procs c = some p → p.role = .plain) →
      (s.modifyProc b (transplant o)).procs c = some p' → s.procs c = some p' :=
    fun all is => other is fun p before => by simp [all p before]
  have surrogateOf : ∀ {c p'}, (∀ p, s.procs c = some p → ∃ o, p.role = .surrogate o) →
      (s.modifyProc b (transplant o)).procs c = some p' → s.procs c = some p' := by
    intro c p' all is
    refine other is fun p before => ?_
    obtain ⟨o', role⟩ := all p before
    simp [role]
  have taskOf : ∀ {y p'}, y.isReturning = true → Under s y →
      (s.modifyProc b (transplant o)).procs (place y) = some p' →
      s.procs (place y) = some p' :=
    fun ret is => surrogateOf fun p before => ⟨_, h.roles.returning _ ret is p before⟩
  exact
    { sound := h.sound
      labelled := h.labelled
      named :=
        { h.named with
          proc := fun c p' is => by
            cases origin is with
            | inl new => exact new.1 ▸ used
            | inr old => exact h.named.proc c p' old
          image := fun c p' o' is role => by
            cases origin is with
            | inl new =>
              have same : o = o' := Role.surrogate.inj (new.2.symm.trans role)
              exact same ▸ home
            | inr old => exact h.named.image c p' o' old role
          guest := fun k mem => by
            cases List.mem_append.mp mem with
            | inl old => exact h.named.guest k old
            | inr new =>
              rw [List.mem_singleton.mp new, here]
              exact used }
      registered :=
        { exports := h.registered.exports
          guests := by
            rw [List.map_append, List.nodup_append]
            refine ⟨h.registered.guests, by simp, ?_⟩
            intro k mem k' mem'
            obtain ⟨e, memE, is⟩ := List.mem_map.mp mem
            rw [List.map_singleton, List.mem_singleton] at mem'
            rw [mem', key, ← is]
            exact noGuest e memE
          places := by
            rw [List.map_append, List.nodup_append]
            refine ⟨h.registered.places, by simp, ?_⟩
            intro k mem k' mem'
            obtain ⟨e, memE, is⟩ := List.mem_map.mp mem
            rw [List.map_singleton, List.mem_singleton] at mem'
            rw [mem', here, ← is]
            exact noPlace e memE
          entry := fun c p' o' is role => by
            cases origin is with
            | inl new =>
              have same : o = o' := Role.surrogate.inj (new.2.symm.trans role)
              exact ⟨g, by simp, here.trans new.1.symm, key.trans same⟩
            | inr old =>
              obtain ⟨k, mem, is⟩ := h.registered.entry c p' o' old role
              exact ⟨k, List.mem_append_left _ mem, is⟩
          role := fun k mem p' is => by
            cases List.mem_append.mp mem with
            | inl old =>
              cases origin is with
              | inl new => exact absurd new.1 (noPlace k old)
              | inr before => exact h.registered.role k old p' before
            | inr new =>
              have own := List.mem_singleton.mp new
              subst own
              rw [here] at is
              obtain ⟨p, before, result⟩ := modifyProc_eq is
              rw [if_pos rfl] at result
              rw [result, key]
              rfl }
      roles :=
        { deputy := fun c p' o' is role d at' => by
            cases origin is with
            | inl new =>
              have same : o = o' := Role.surrogate.inj (new.2.symm.trans role)
              subst same
              exact plain d (plainOf plain at')
            | inr old =>
              have deputy := h.roles.deputy c p' o' old role
              exact deputy d (plainOf deputy at')
          letter := fun l mem req d is => by
            have role := h.roles.letter l mem req
            exact role d (plainOf role is)
          wake := fun c mem p' is => by
            have role := h.roles.wake c mem
            exact role p' (surrogateOf role is)
          leaving := fun y out is p' at' => by
            have role := h.roles.leaving y out is
            exact role p' (plainOf role at')
          stub := fun y out is p' at' => by
            cases origin at' with
            | inl new => exact absurd new.1 (noStub y out is)
            | inr old => exact h.roles.stub y out is p' old
          returning := fun y ret is p' at' => h.roles.returning y ret is p' (taskOf ret is at')
          home := fun y ret is d at' => by
            have role := h.roles.home y ret is
            exact role d (plainOf role at') }
      leaving :=
        { own := h.leaving.own
          held := fun y out is d at' =>
            h.leaving.held y out is d (plainOf (h.roles.leaving y out (.of_frozen is)) at')
          noGuest := fun y out is k mem => by
            cases List.mem_append.mp mem with
            | inl old => exact h.leaving.noGuest y out is k old
            | inr new =>
              rw [List.mem_singleton.mp new, key]
              exact (leaves y out is).symm
          noExport := h.leaving.noExport
          noPlace := fun y out is k mem => by
            cases List.mem_append.mp mem with
            | inl old => exact h.leaving.noPlace y out is k old
            | inr new =>
              rw [List.mem_singleton.mp new, here]
              exact (noStub y out is).symm }
      returning :=
        { only := fun y ret is k mem same => by
            cases List.mem_append.mp mem with
            | inl old => exact h.returning.only y ret is k old same
            | inr new =>
              rw [List.mem_singleton.mp new, key] at same
              exact absurd same.symm (returns y ret is)
          marked := fun y ret is p' at' k mem there => by
            have before := taskOf ret is at'
            cases List.mem_append.mp mem with
            | inl old => exact h.returning.marked y ret is p' before k old there
            | inr new =>
              rw [List.mem_singleton.mp new, here] at there
              rw [← there] at before
              have role := h.roles.returning y ret is p' (by rw [← there]; exact before)
              rw [stub p' before] at role
              simp at role
          stopped := fun y ret is p' at' =>
            h.returning.stopped y ret is p' (taskOf ret is.under at')
          quiet := fun y ret is p' at' => h.returning.quiet y ret is p' (taskOf ret is.under at')
          landing := fun y ret is p' at' =>
            h.returning.landing y ret is p' (taskOf ret (.of_frozen (.inr is)) at') }
      one := h.one
      held := fun c p' o' is role lent d at' => by
        cases origin is with
        | inl new =>
          have same : o = o' := Role.surrogate.inj (new.2.symm.trans role)
          subst same
          exact held d (plainOf plain at')
        | inr old =>
          exact h.held c p' o' old role lent d (plainOf (h.roles.deputy c p' o' old role) at')
      back := fun c mem p' is => by
        cases origin is with
        | inl new =>
          obtain ⟨p, before, _⟩ := modifyProc_eq is
          obtain ⟨y, commit, ret, there⟩ := h.back c mem p before
          exact ⟨y, commit, ret, there⟩
        | inr old => exact h.back c mem p' old
      once := h.once
      committed := h.committed
      growing := h.growing }

/-- The grower is through, and the deputy stopped again. -/
theorem Kept.grown (h : Kept s) (mem : x ∈ s.growing)
    (held : ∀ d, s.procs (original x) = some d → ¬ d.Executes) :
    Kept { s with growing := s.growing.erase x } :=
  { h with
    named := { h.named with }
    registered := { h.registered with }
    roles := { h.roles with }
    leaving := { h.leaving with }
    returning := { h.returning with }
    held := fun a p o is role lent => by
      by_cases before : Lent s a
      · have own : place x = a := by
          cases before with
          | inl back => exact absurd (.inl back) lent
          | inr growing =>
            obtain ⟨y, memY, there⟩ := growing
            by_contra other
            have rest : y ≠ x := fun same => other (same ▸ there)
            exact lent (.inr ⟨y, (List.mem_erase_of_ne rest).mpr memY, there⟩)
        obtain ⟨ret, received⟩ := h.growing x mem
        have frozen : Frozen s.cluster x := .inl (by rw [received]; rfl)
        have image := h.roles.returning x ret (.of_frozen frozen) p (by rw [own]; exact is)
        have same : original x = o := Role.surrogate.inj (image.symm.trans role)
        exact same ▸ held
      · exact h.held a p o is role before
    growing := fun y memY => h.growing y (List.mem_of_mem_erase memY) }

end Ends

section Events
variable {s : World} {x : Transfer}

theorem executes_of_any {a : Place} {p : Proc} (is : s.procs a = some p)
    (runs : (s.procs a).any (fun p => decide p.Executes) = true) : p.Executes := by
  rw [is] at runs
  simpa using runs

/-- A thread that is in user code clones or exits. -/
theorem Kept.threads (h : Kept s) {a : Place} {f : ℕ → ℕ}
    (runs : (s.procs a).any (fun p => decide p.Executes) = true) :
    Kept (s.modifyProc a fun p => { p with threads := f p.threads }) :=
  h.modify fun _ is => ⟨rfl, fun idle => absurd (executes_of_any is runs) idle, fun _ _ => id⟩

end Events

end MattX.ProcessCopies
