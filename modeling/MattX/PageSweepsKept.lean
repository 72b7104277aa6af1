import MattX.PageSweeps
import Mathlib.Data.List.Perm.Basic

set_option autoImplicit false

/-!
# Stores that survive mode 1

Every page is the outcome of the stores up to some point: the writer's up to
now, the home page's up to the copy of the last update applied, and a reader's
up to what the home page had when it was fetched.
-/
namespace MattX.PageSweeps
open GuardedRuns

/-! ### Pages and the stores they are from -/

/-- The number of the last store to a byte. -/
def stamp : List Store → Fin pageSize → ℕ
  | [], _ => 0
  | x :: l, i => if x.off = i then l.length + 1 else stamp l i

/-- The page is what the stores made of it. -/
def Stamped (page : Cells) (l : List Store) : Prop := ∀ i, (page i).stamp = stamp l i

theorem stamp_le_length (l : List Store) (i : Fin pageSize) : stamp l i ≤ l.length := by
  induction l with
  | nil => exact Nat.le_refl 0
  | cons x l ih =>
    rw [stamp, List.length_cons]
    split_ifs
    · exact Nat.le_refl _
    · omega

theorem stamp_mono {l l' : List Store} (h : l <:+ l') (i : Fin pageSize) :
    stamp l i ≤ stamp l' i := by
  obtain ⟨t, rfl⟩ := h
  induction t with
  | nil => exact Nat.le_refl _
  | cons x t ih =>
    rw [List.cons_append, stamp]
    split_ifs
    · have short := stamp_le_length l i
      rw [List.length_append]
      omega
    · exact ih

theorem stamp_head (x : Store) (l : List Store) : stamp (x :: l) x.off = l.length + 1 := by
  rw [stamp, if_pos rfl]

theorem contains_of_stamped {page : Cells} {l : List Store} (h : Stamped page l) {l' : List Store}
    (part : l' <:+ l) : Contains page l' := by
  induction l' with
  | nil => trivial
  | cons x t ih =>
    refine ⟨?_, ih ((List.suffix_cons x t).trans part)⟩
    rw [h, ← stamp_head x t]
    exact stamp_mono part x.off

theorem arrived_of_stamped {ram : Cells} {home : List Store} (h : Stamped ram home)
    {out : List (List Store)} {l : List Store} (part : l <:+ home ∨ ∃ asOf ∈ out, l <:+ asOf) :
    Arrived ram out l := by
  induction l with
  | nil => trivial
  | cons x t ih =>
    have tail := List.suffix_cons x t
    refine ⟨fun none_out => ?_, ih ?_⟩
    · rcases part with here | ⟨asOf, waits, later⟩
      · rw [h, ← stamp_head x t]
        exact stamp_mono here x.off
      · exact absurd later (none_out asOf waits)
    · rcases part with here | ⟨asOf, waits, later⟩
      · exact Or.inl (tail.trans here)
      · exact Or.inr ⟨asOf, waits, tail.trans later⟩

theorem stamped_store {page : Cells} {l : List Store} (h : Stamped page l) (off : Fin pageSize)
    (byte : BitVec 8) :
    Stamped (Function.update page off ⟨byte, l.length + 1⟩) (⟨off, byte⟩ :: l) := by
  intro i
  rw [stamp]
  by_cases here : off = i
  · subst i
    rw [Function.update_self, if_pos rfl]
  · rw [Function.update_of_ne (Ne.symm here), if_neg here]
    exact h i

theorem stamped_unwritten (page : Page) : Stamped (fun i => ⟨page i, 0⟩) [] := fun _ => rfl

/-! ### The invariant -/

structure Inv (s : State) : Prop where
  ram : Stamped s.ram s.home
  home : s.home <:+ s.stores
  writer : Stamped (s.guests s.writer).copy s.stores
  readers : ∀ g, g ≠ s.writer → Stamped (s.guests g).copy (s.guests g).fetched
  faults : ∀ f ∈ s.faults, ∀ page fetched since, f.stage = .replied page fetched since →
    Stamped page fetched ∧ (f.guest = s.writer → fetched = since)
  updates : ∀ u ∈ s.updates, (u.guest = s.writer → Stamped u.page u.asOf ∧ u.asOf <:+ s.stores) ∧
    (u.guest ≠ s.writer → Stamped u.page u.fetched)
  last : s.sent <:+ s.home ∨ s.sent ∈ outstanding s

theorem boot_inv (writer : ℕ) (ram : Page) (frames : ℕ → Page) : Inv (boot writer ram frames) := by
  refine ⟨stamped_unwritten ram, List.suffix_refl _, stamped_unwritten _,
    fun g _ => stamped_unwritten _, ?_, ?_, Or.inl (List.suffix_refl _)⟩
  · intro f member
    cases member
  · intro u member
    cases member

theorem Inv.homeRight {s : State} (h : Inv s) : HomeRight s := by
  refine arrived_of_stamped h.ram ?_
  rcases h.last with here | waits
  · exact Or.inl here
  · exact Or.inr ⟨s.sent, waits, List.suffix_refl _⟩

theorem mem_outstanding {s : State} {asOf : List Store} :
    asOf ∈ outstanding s ↔ ∃ u ∈ s.updates, u.guest = s.writer ∧ u.asOf = asOf := by
  simp only [outstanding, List.mem_map, List.mem_filter, beq_iff_eq, and_assoc]

/-! ### Steps that only move a fault or a guest -/

/-- Faults that were there before, or have no reply. -/
def FaultsFrom (s : State) (faults : List Fault) : Prop :=
  ∀ f ∈ faults, f ∈ s.faults ∨ f.stage.reached ≠ 1

theorem Inv.withFaults {s : State} (h : Inv s) {faults : List Fault} (old : FaultsFrom s faults) :
    Inv { s with faults := faults } := by
  refine ⟨h.ram, h.home, h.writer, h.readers, fun f member page fetched since replied => ?_,
    h.updates, h.last⟩
  rcases old f member with there | other
  · exact h.faults f there page fetched since replied
  · rw [replied] at other
    exact absurd rfl other

theorem faultsFrom_set {s : State} (k g : ℕ) {stage : FaultStage} (other : stage.reached ≠ 1) :
    FaultsFrom s (s.faults.set k ⟨g, stage⟩) := by
  intro f member
  rcases List.mem_or_eq_of_mem_set member with there | rfl
  · exact Or.inl there
  · exact Or.inr other

theorem faultsFrom_eraseIdx (s : State) (k : ℕ) : FaultsFrom s (s.faults.eraseIdx k) :=
  fun _ member => Or.inl (List.mem_of_mem_eraseIdx member)

/-- The guest's page may change as long as it stays what some stores made of it. -/
theorem Inv.withGuest {s : State} (h : Inv s) (g : ℕ) {x : Guest}
    (writer : g = s.writer → Stamped x.copy s.stores)
    (reader : g ≠ s.writer → Stamped x.copy x.fetched) : Inv (s.setGuest g x) := by
  refine ⟨h.ram, h.home, ?_, fun j other => ?_, h.faults, h.updates, h.last⟩
  · by_cases here : s.writer = g
    · subst g
      simpa [State.setGuest] using writer rfl
    · simpa [State.setGuest, here] using h.writer
  · by_cases here : j = g
    · subst g
      simpa [State.setGuest] using reader other
    · simpa [State.setGuest, here] using h.readers j other

/-- Bits, the page table entry and the sweeper's place are not part of the page. -/
theorem Inv.sameCopy {s : State} (h : Inv s) (g : ℕ) {x : Guest}
    (copy : x.copy = (s.guests g).copy) (fetched : x.fetched = (s.guests g).fetched) :
    Inv (s.setGuest g x) := by
  refine h.withGuest g (fun is => ?_) (fun other => ?_)
  · rw [copy, is]
    exact h.writer
  · rw [copy, fetched]
    exact h.readers g other

theorem insert_inv {s : State} (h : Inv s) (k : ℕ) : Inv (s.insert k) := by
  unfold State.insert
  split
  · rename_i f found
    have moved := h.sameCopy f.guest (x := { s.guests f.guest with mapped := true }) rfl rfl
    exact moved.withFaults (faultsFrom_set k f.guest (by decide))
  · exact h

theorem mark_inv {s : State} (h : Inv s) (k : ℕ) : Inv (s.mark k) := by
  unfold State.mark
  split
  · rename_i f found
    have moved := h.sameCopy f.guest (x := { s.guests f.guest with present := true }) rfl rfl
    exact moved.withFaults (faultsFrom_eraseIdx _ k)
  · exact h

/-! ### Faults -/

theorem serve_inv {s : State} (h : Inv s) (k : ℕ) (met : Met s (.serve k)) :
    Inv (s.mattxDsmFaultKworker k) := by
  unfold State.mattxDsmFaultKworker
  split
  · rename_i f found
    refine ⟨h.ram, h.home, h.writer, h.readers, fun f' member page fetched since replied => ?_,
      h.updates, h.last⟩
    rcases List.mem_or_eq_of_mem_set member with there | rfl
    · exact h.faults f' there page fetched since replied
    · cases replied
      refine ⟨h.ram, fun is => ?_⟩
      obtain ⟨all, applied⟩ := met f found is
      -- every store has been sent, and what was sent is at home
      have whole : s.stores <:+ s.home := by
        rcases h.last with here | waits
        · rwa [all] at here
        · rw [all] at waits
          exact applied _ waits
      exact h.home.eq_of_length_le whole.length_le
  · exact h

theorem fill_inv {s : State} (h : Inv s) (k : ℕ) (met : Met s (.fill k)) : Inv (s.fill k) := by
  unfold State.fill
  split
  · rename_i g page fetched since found
    obtain ⟨stamped, writers⟩ := h.faults _ (List.mem_of_getElem? found) page fetched since rfl
    have moved := h.withGuest g (x := { s.guests g with copy := page, fetched := fetched })
      (fun is => by
        have none_since : since = s.stores := met _ found is
        rw [← none_since, ← writers is]
        exact stamped)
      (fun _ => stamped)
    exact moved.withFaults (faultsFrom_set k g (by decide))
  · exact h

theorem wake_inv {s : State} (h : Inv s) (k : ℕ) (garbage : Page) (met : Met s (.wake k garbage)) :
    Inv (s.wake k garbage) := by
  unfold State.wake
  split
  · rename_i f found
    have moved := h.withGuest f.guest
      (x := { s.guests f.guest with copy := fun i => ⟨garbage i, 0⟩, fetched := [] })
      (fun is => by
        rw [met f found is]
        exact stamped_unwritten garbage)
      (fun _ => stamped_unwritten garbage)
    exact moved.withFaults (faultsFrom_set k f.guest (by decide))
  · exact h

/-! ### Stores, sweeps and updates -/

theorem store_inv {s : State} (h : Inv s) (off : Fin pageSize) (byte : BitVec 8) :
    Inv (s.store off byte) := by
  have later := List.suffix_cons (⟨off, byte⟩ : Store) s.stores
  refine ⟨h.ram, h.home.trans later, ?_, fun g other => ?_, h.faults, fun u member => ?_, h.last⟩
  · simpa [State.store, State.setGuest] using stamped_store h.writer off byte
  · have same : (s.store off byte).guests g = s.guests g := by
      simp only [State.store, State.setGuest]
      exact Function.update_of_ne other _ _
    rw [same]
    exact h.readers g other
  · obtain ⟨writers, readers⟩ := h.updates u member
    exact ⟨fun is => ⟨(writers is).1, (writers is).2.trans later⟩, readers⟩

theorem grab_inv {s : State} (h : Inv s) (g : ℕ) : Inv (s.grab g) := h.sameCopy g rfl rfl

theorem zap_inv {s : State} (h : Inv s) (g : ℕ) : Inv (s.zap g) := h.sameCopy g rfl rfl

theorem copy_inv {s : State} (h : Inv s) (g : ℕ) (ok : Bool) : Inv (s.copy g ok) := by
  have swept := h.sameCopy g (x := { s.guests g with sweep := .swept }) rfl rfl
  unfold State.copy
  cases ok with
  | false => exact swept
  | true =>
    refine ⟨swept.ram, swept.home, swept.writer, swept.readers, swept.faults,
      fun u member => ?_, ?_⟩
    · rcases List.mem_append.mp member with there | new
      · exact swept.updates u there
      · rw [List.mem_singleton.mp new]
        refine ⟨fun is => ?_, fun other => h.readers g other⟩
        refine ⟨?_, List.suffix_refl _⟩
        have writer := h.writer
        rwa [← (show g = s.writer from is)] at writer
    · by_cases is : g = s.writer
      · refine Or.inr (mem_outstanding.mpr ⟨_, List.mem_append_right _ (List.mem_singleton_self _),
          is, ?_⟩)
        exact (if_pos is).symm
      · have kept : (s.copy g true).sent = s.sent := by simp only [State.copy, if_true, if_neg is]
        change (s.copy g true).sent <:+ s.home ∨ (s.copy g true).sent ∈ outstanding (s.copy g true)
        rw [kept]
        refine h.last.imp id fun waits => ?_
        obtain ⟨u, there, writers, asOf⟩ := mem_outstanding.mp waits
        exact mem_outstanding.mpr ⟨u, List.mem_append_left _ there, writers, asOf⟩

/-- Another update than the one applied is still there. -/
theorem mem_eraseIdx_of_ne {l : List Update} {k : ℕ} {u v : Update} (here : l[k]? = some u)
    (member : v ∈ l) (other : v ≠ u) : v ∈ l.eraseIdx k := by
  obtain ⟨small, rfl⟩ := List.getElem?_eq_some_iff.mp here
  have perm := List.getElem_cons_eraseIdx_perm small
  rcases List.mem_cons.mp (perm.mem_iff.mpr member) with rfl | rest
  · exact absurd rfl other
  · exact rest

theorem apply_inv {s : State} (h : Inv s) (k : ℕ) (met : Met s (.apply k)) :
    Inv (s.mattxDsmUpdateKworker k) := by
  unfold State.mattxDsmUpdateKworker
  split
  · rename_i u found
    obtain ⟨writers, readers⟩ := h.updates u (List.mem_of_getElem? found)
    have fits := met u found
    by_cases is : u.guest = s.writer
    · obtain ⟨stamped, old⟩ := writers is
      rw [if_pos is] at fits
      refine ⟨?_, ?_, h.writer, h.readers, h.faults,
        fun v member => h.updates v (List.mem_of_mem_eraseIdx member), ?_⟩
      · simpa [is] using stamped
      · simpa [is] using old
      · simp only [is, if_true]
        rcases h.last with here | waits
        · exact Or.inl (here.trans fits)
        · obtain ⟨v, there, writers', asOf⟩ := mem_outstanding.mp waits
          by_cases same : v.asOf = u.asOf
          · refine Or.inl ?_
            rw [← asOf, same]
          · have other : v ≠ u := fun e => same (congrArg Update.asOf e)
            exact Or.inr (mem_outstanding.mpr ⟨v, mem_eraseIdx_of_ne found there other, writers',
              asOf⟩)
    · rw [if_neg is] at fits
      refine ⟨?_, ?_, h.writer, h.readers, h.faults,
        fun v member => h.updates v (List.mem_of_mem_eraseIdx member), ?_⟩
      · simpa [is, ← fits] using readers is
      · simpa [is] using h.home
      · simp only [is, if_false]
        refine h.last.imp id fun waits => ?_
        obtain ⟨v, there, writers', asOf⟩ := mem_outstanding.mp waits
        have other : v ≠ u := fun e => is (e ▸ writers')
        exact mem_outstanding.mpr ⟨v, mem_eraseIdx_of_ne found there other, writers', asOf⟩
  · exact h

/-! ### Runs -/

theorem next_inv {s : State} (h : Inv s) (e : Event) (met : Met s e) : Inv (next s e) := by
  cases e with
  | fault g =>
    refine h.withFaults fun f member => ?_
    rcases List.mem_append.mp member with there | new
    · exact Or.inl there
    · rw [List.mem_singleton.mp new]
      exact Or.inr Nat.zero_ne_one
  | serve k => exact serve_inv h k met
  | fill k => exact fill_inv h k met
  | wake k garbage => exact wake_inv h k garbage met
  | abort k => exact h.withFaults (faultsFrom_eraseIdx s k)
  | insert k => exact insert_inv h k
  | mark k => exact mark_inv h k
  | store off byte => exact store_inv h off byte
  | grab g => exact grab_inv h g
  | copy g ok => exact copy_inv h g ok
  | zap g => exact zap_inv h g
  | apply k => exact apply_inv h k met

theorem Inv.writerRight {s : State} (h : Inv s) : WriterRight s :=
  contains_of_stamped h.writer (List.suffix_refl _)

theorem Inv.right {s : State} (h : Inv s) (e : Event) (met : Met s e) : Right s e := by
  have after := next_inv h e met
  refine ⟨after.homeRight, ?_⟩
  cases e with
  | fill k => exact fun _ _ _ => after.writerRight
  | wake k garbage => exact fun _ _ _ => after.writerRight
  | apply k =>
    intro u found other i
    have stamped := (h.updates u (List.mem_of_getElem? found)).2 other i
    have fits := met u found
    rw [if_neg other] at fits
    rw [stamped, fits, h.ram i]
  | fault _ | serve _ | abort _ | insert _ | mark _ | store _ _ | grab _ | copy _ _ | zap _ =>
    trivial

/-- No run that meets the conditions loses a store. -/
theorem sweeps_lose_nothing (writer : ℕ) (ram : Page) (frames : ℕ → Page) {es : List Event}
    (met : machine.Follows Met (boot writer ram frames) es) :
    machine.Follows Right (boot writer ram frames) es :=
  met.entails (fun _ e h _ fits => next_inv h e fits) (fun _ e h _ fits => h.right e fits)
    (boot_inv writer ram frames)

/-- The writer stores, is swept, and gets its page back with the store in it, also after a reader
has been swept. -/
def keptRun : List Event :=
  [.fault 0, .serve 0, .fill 0, .insert 0, .mark 0, .store ⟨3, by decide⟩ 7,
    .grab 0, .copy 0 true, .zap 0, .apply 0,
    .fault 1, .serve 0, .fill 0, .insert 0, .mark 0, .grab 1, .copy 1 true, .zap 1, .apply 0,
    .fault 0, .serve 0, .fill 0]

theorem sweeps_lose_nothing_kept :
    machine.Follows Met (boot 0 (fun _ => 0) fun _ _ => 0) keptRun ∧
      machine.Follows Right (boot 0 (fun _ => 0) fun _ _ => 0) keptRun := by
  have met : machine.Follows Met (boot 0 (fun _ => 0) fun _ _ => 0) keptRun := by decide +kernel
  exact ⟨met, sweeps_lose_nothing 0 (fun _ => 0) (fun _ _ => 0) met⟩

/-- The second store falls between the copy and the zap, and the next fault fetches the page
without it. -/
def lostRun : List Event :=
  [.fault 0, .serve 0, .fill 0, .insert 0, .mark 0, .store ⟨3, by decide⟩ 7,
    .grab 0, .copy 0 true, .store ⟨5, by decide⟩ 9, .zap 0, .apply 0, .fault 0, .serve 0, .fill 0]

theorem store_after_copy_is_lost :
    machine.Runs (boot 0 (fun _ => 0) fun _ _ => 0) lostRun ∧
      ¬machine.Follows Right (boot 0 (fun _ => 0) fun _ _ => 0) lostRun := by
  decide +kernel

end MattX.PageSweeps
