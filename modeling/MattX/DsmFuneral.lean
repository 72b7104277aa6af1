import MattX.DsmInclusion

set_option autoImplicit false

/-!
# What becomes of the dirty pages of a guest or a mapping that goes away

An observer notes every EXCLUSIVE page that is dropped and crosses it off once
its bytes are written to the home segment.
-/
namespace MattX.DsmFuneral
open GuestRegistry GuestRegistryFrames GuestHost DsmDirectory DsmCluster DsmSteps DsmMoves DsmEffects
open DsmCopies DsmInclusion GuardedRuns Machine

/-- The data bombs of a guest with all its mappings. -/
def guestFlush (c : Cluster) (n : Node) (i : ℕ) : List Update :=
  (liveMappings ((c.guests n).slot i)).flatMap (funeralFlush (c.host n) ((c.guests n).slot i) n)

/-- The data bombs for all the pages a step drops, whether it sends them or not. -/
def buried (c : Cluster) : Event → List Update
  | .shmdt n tgid base _ => match cellAt (c.guests n) tgid base with
    | some (i, d) => funeralFlush (c.host n) ((c.guests n).slot i) n (mapping (c.guests n) i d)
    | none => []
  | .reap n i _ => guestFlush c n i
  | .killSurrogate n h origPid => match surrogateOf (c.guests n) origPid h with
    | some i => guestFlush c n i
    | none => []
  | .populate n tgid _ => match guestOf (c.guests n) tgid with
    | some i => guestFlush c n i
    | none => []
  | _ => []

/-- The page and bytes a step writes to a home segment for a data bomb. -/
def delivered (c : Cluster) : Event → Option (PageKey × Page)
  | .update k .store => (c.updates[k]?).bind fun u =>
    if u.stored = false ∧ (c.home u.key.home).covers u.key.origPid u.key.shmid u.key.page = true ∧
        (c.home u.key.home).resident u.key.shmid u.key.page = true then some (u.key, u.data)
    else none
  | _ => none

/-- The pages dropped and not stored yet, with their bytes. -/
abbrev Debts := Set (PageKey × Page)

def settle (debts : Debts) (c : Cluster) (e : Event) : Debts :=
  { o | o ∈ debts ∧ delivered c e ≠ some o ∨ ∃ u ∈ buried c e, (u.key, u.data) = o }

def funeralMachine : Machine (Cluster × Debts) Event := clusterMachine.observed settle

instance (x : Cluster × Debts) (e : Event) : Decidable (funeralMachine.enabled x e) :=
  inferInstanceAs (Decidable (clusterMachine.enabled x.1 e))

/-- Every dropped page that is not stored yet is on its way. -/
def Owing (x : Cluster × Debts) : Prop :=
  ∀ o ∈ x.2, ∃ u ∈ x.1.updates, u.stored = false ∧ (u.key, u.data) = o

/-- What a step must find so that no dropped page is lost by it. -/
def KeepsFuneral (c : Cluster) : Event → Prop
  | .shmdt n tgid base packed => (buried c (.shmdt n tgid base packed)).isEmpty = true ∨
      packed = true ∧ ∀ o ∈ cellAt (c.guests n) tgid base,
        c.link n ((c.guests n).slot o.1).homeNode = true
  | .reap n i packed => (buried c (.reap n i packed)).isEmpty = true ∨
      packed = true ∧ c.link n ((c.guests n).slot i).homeNode = true
  | .killSurrogate n h origPid => (buried c (.killSurrogate n h origPid)).isEmpty = true
  | .populate n tgid vmas => (buried c (.populate n tgid vmas)).isEmpty = true
  | .update k .store => ∀ u ∈ c.updates[k]?,
      (c.home u.key.home).covers u.key.origPid u.key.shmid u.key.page = true ∧
        (c.home u.key.home).resident u.key.shmid u.key.page = true
  | .update _ .lost => False
  | _ => True

instance (c : Cluster) (e : Event) : Decidable (KeepsFuneral c e) := by
  induction e using Event.casesOn with
  | fault k s => induction s using FaultStep.casesOn <;> unfold KeepsFuneral <;> infer_instance
  | acquire k s => induction s using AcquireStep.casesOn <;> unfold KeepsFuneral <;> infer_instance
  | update k s => induction s using UpdateStep.casesOn <;> unfold KeepsFuneral <;> infer_instance
  | sync k s => induction s using SyncStep.casesOn <;> unfold KeepsFuneral <;> infer_instance
  | _ => unfold KeepsFuneral; infer_instance

theorem mem_funeralFlush {h : Host} {g : GuestInfo} {n : Node} {m : DsmMapping} {u : Update} :
    u ∈ funeralFlush h g n m ↔ ∃ p f, m.pageStates p = .exclusive ∧ m.pages p = some f ∧
      ⟨⟨g.homeNode, n, g.origPid, m.shmid, p⟩, h.phys f, false⟩ = u := by
  simp only [funeralFlush, List.mem_filterMap, DsmMapping.dirtyPages, List.mem_filter,
    List.mem_finRange, true_and, beq_iff_eq, Option.map_eq_some_iff]
  constructor
  · rintro ⟨p, state, f, page, same⟩
    exact ⟨p, f, state, page, same⟩
  · rintro ⟨p, f, state, page, same⟩
    exact ⟨p, state, f, page, same⟩

theorem mem_liveMappings {g : GuestInfo} {m : DsmMapping} : m ∈ liveMappings g ↔ m ∈ g.dsmMap := by
  simp only [liveMappings, List.mem_map, List.mem_range]
  rfl

theorem buried_pending {c : Cluster} {e : Event} {u : Update} (h : u ∈ buried c e) :
    u.stored = false := by
  have pending : ∀ {h g n m}, u ∈ funeralFlush h g n m → u.stored = false := by
    intro h g n m member
    obtain ⟨p, f, -, -, rfl⟩ := mem_funeralFlush.mp member
    rfl
  have all : ∀ {n i}, u ∈ guestFlush c n i → u.stored = false := by
    intro n i member
    obtain ⟨m, -, member⟩ := List.mem_flatMap.mp member
    exact pending member
  unfold buried at h
  split at h
  · split at h
    · exact pending h
    · exact nomatch h
  · exact all h
  · split at h
    · exact all h
    · exact nomatch h
  · split at h
    · exact all h
    · exact nomatch h
  · exact nomatch h

/-- A data bomb stays on its way until it is stored or lost. -/
theorem updates_kept {c c' : Cluster} {e : Event} (move : Move c e c') {u : Update}
    (h : u ∈ c.updates) (pending : u.stored = false) : u ∈ c'.updates ∨
      ∃ k, (e = .update k .store ∨ e = .update k .lost) ∧ c.updates[k]? = some u := by
  cases move with
  | update found move =>
    rename_i k w s
    cases move with
    | written | unwritten =>
      exact (mem_set_or h k _).imp_right fun here => ⟨k, Or.inl rfl, here⟩
    | undeliverable => exact (mem_eraseIdx_or h k).imp_right fun here => ⟨k, Or.inl rfl, here⟩
    | lost => exact (mem_eraseIdx_or h k).imp_right fun here => ⟨k, Or.inr rfl, here⟩
    | cleaned stored | finished stored =>
      refine Or.inl ((mem_eraseIdx_or h k).resolve_right fun here => ?_)
      cases Option.some.inj (found.symm.trans here)
      exact absurd (stored.symm.trans pending) (by decide)
  | shmdt | reap | sweepSend => exact Or.inl (List.mem_append_left _ h)
  | fault found move => cases move <;> exact Or.inl h
  | acquire found move => cases move <;> exact Or.inl h
  | sync found move => cases move <;> exact Or.inl h
  | _ => exact Or.inl h

/-- Every data bomb that should be sent is sent. -/
theorem buried_sent {c c' : Cluster} {e : Event} (move : Move c e c') (mode : c.mode = 2)
    (ok : KeepsFuneral c e) {u : Update} (h : u ∈ buried c e) : u ∈ c'.updates := by
  have some : (buried c e).isEmpty = true → False := by
    intro empty
    rw [List.isEmpty_iff.mp empty] at h
    simp at h
  cases move with
  | shmdt found =>
    obtain ⟨packed, linked⟩ := ok.resolve_left some
    simp only [buried, found] at h
    have linked := linked _ found
    simp only [sendUpdates, Cluster.act, Cluster.setHost, mode, packed, linked, and_self, if_true]
    exact List.mem_append_right _ h
  | reap live =>
    obtain ⟨packed, linked⟩ := ok.resolve_left some
    simp only [sendUpdates, Cluster.act, Cluster.setHost, mode, packed, linked, and_self, if_true]
    exact List.mem_append_right _ h
  | killSurrogate | populate => exact (some ok).elim
  | _ => simp [buried] at h

theorem owing_step {c c' : Cluster} {debts : Debts} {e : Event} (move : Move c e c')
    (mode : c.mode = 2) (ok : KeepsFuneral c e) (owing : Owing (c, debts)) :
    Owing (c', settle debts c e) := by
  rintro o (⟨old, unpaid⟩ | ⟨u, new, same⟩)
  · obtain ⟨u, member, pending, rfl⟩ := owing o old
    rcases updates_kept move member pending with kept | ⟨k, rfl | rfl, found⟩
    · exact ⟨u, kept, pending, rfl⟩
    · refine absurd ?_ unpaid
      simp only [delivered, found, Option.bind_some]
      exact if_pos ⟨pending, ok u found⟩
    · exact ok.elim
  · exact ⟨u, buried_sent move mode ok new, buried_pending new, same⟩

/-- In mode 2, every EXCLUSIVE page that goes away with its mapping or its guest is on its way
home until its bytes are in the home segment. -/
theorem dropped_pages_delivered (b : Boot) (es : List Event)
    (run : funeralMachine.Follows (fun x e => KeepsFuneral x.1 e) (b.cluster 2, ∅) es) :
    funeralMachine.Always Owing (b.cluster 2, ∅) es := by
  refine Always.mono (I := fun x => x.1.mode = 2 ∧ Owing x) (fun _ => And.right)
    (run.always ?_ ⟨rfl, fun o no => nomatch no⟩)
  rintro ⟨c, debts⟩ e ⟨mode, owing⟩ enabled ok
  have move := step_move (step_of_enabled enabled)
  exact ⟨(mode_step move).trans mode, owing_step move mode ok owing⟩

/-- A guest takes the page for itself, writes to it and dies. -/
theorem dropped_pages_delivered_reap : funeralMachine.Always Owing (twoDeputies.cluster 2, ∅)
    (arrival 1 500 100 ++ readFault 1 500 1 ++ writeFault 1 500 1 ++
      [.guestStore 1 500 4096 0 0 5, .guestExit 1 500, .reap 1 0 true, .update 0 .store,
        .processExit 0, .update 0 .cleanup]) :=
  dropped_pages_delivered twoDeputies _ (by decide +kernel)

/-- `shmdt` detaches the deputy before the guest's mapping goes, so that the data bomb finds no
area to write to. -/
theorem detached_page_lost :
    let es : List Event := arrival 1 500 100 ++ readFault 1 500 1 ++ writeFault 1 500 1 ++
      [.guestStore 1 500 4096 0 0 5, .setTask 0 100 (some ⟨[], false⟩)]
    let x := funeralMachine.after (twoDeputies.cluster 2, ∅) es
    let y := funeralMachine.after x [.shmdt 1 500 4096 true, .update 0 .store]
    funeralMachine.Runs (twoDeputies.cluster 2, ∅) es ∧
      funeralMachine.Runs x [.shmdt 1 500 4096 true, .update 0 .store] ∧ ¬ Owing y := by
  intro es x y
  refine ⟨by decide +kernel, by decide +kernel, fun owing => ?_⟩
  have one : (buried x.1 (.shmdt 1 500 4096 true)).length = 1 := by decide +kernel
  obtain ⟨u, only⟩ := List.length_eq_one_iff.mp one
  have undelivered : (delivered (funeralMachine.next x (.shmdt 1 500 4096 true)).1
      (.update 0 .store)).isNone = true := by decide +kernel
  have owed : (u.key, u.data) ∈ y.2 := by
    refine Or.inl ⟨Or.inr ⟨u, ?_, rfl⟩, ?_⟩
    · rw [only]
      exact List.mem_singleton_self u
    · rw [Option.isNone_iff_eq_none.mp undelivered]
      exact nofun
  obtain ⟨w, member, -⟩ := owing _ owed
  have empty : y.1.updates.length = 0 := by decide +kernel
  rw [List.length_eq_zero_iff.mp empty] at member
  exact nomatch member

end MattX.DsmFuneral
