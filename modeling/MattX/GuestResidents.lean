import MattX.GuestRegistryFrames

set_option autoImplicit false

/-!
# Which processes are guests of a host

Only `add_guest_process` brings a process in; everything else moves guests
around or takes them away.
-/
namespace MattX.GuestResidents
open GuestRegistry GuestRegistryFrames

/-- The process a guest was before it came: its home node and its pid there. -/
def resident (r : Registry) (i : ℕ) : Node × ℕ := ((r.slot i).homeNode, (r.slot i).origPid)

/-- `o` says which slot each guest of `r'` was in; a guest that was in none is `fresh`. -/
structure Origins (r r' : Registry) (fresh : Node × ℕ → Prop) (o : ℕ → ℕ) : Prop where
  inj : ∀ i < r'.count, ∀ j < r'.count, o i = o j → i = j
  here : ∀ i < r'.count, o i < r.count ∧ resident r' i = resident r (o i) ∨
    o i = r.count ∧ fresh (resident r' i)

theorem resident_modify {r : Registry} {i : ℕ} {f : GuestInfo → GuestInfo}
    (home : ∀ g, (f g).homeNode = g.homeNode) (pid : ∀ g, (f g).origPid = g.origPid) (j : ℕ) :
    resident (r.modify i f) j = resident r j := by
  unfold resident
  rw [SlotTable.modify_slot]
  split_ifs with here
  · subst j
    rw [home, pid]
  · rfl

theorem Origins.refl (r : Registry) (fresh : Node × ℕ → Prop) : Origins r r fresh id :=
  ⟨fun _ _ _ _ same => same, fun _ hi => Or.inl ⟨hi, rfl⟩⟩

theorem Origins.modify {r : Registry} {i : ℕ} {f : GuestInfo → GuestInfo}
    (home : ∀ g, (f g).homeNode = g.homeNode) (pid : ∀ g, (f g).origPid = g.origPid)
    (fresh : Node × ℕ → Prop) : Origins r (r.modify i f) fresh id :=
  ⟨fun _ _ _ _ same => same, fun j hj => Or.inl ⟨hj, resident_modify home pid j⟩⟩

theorem register_resident (g : GuestInfo) (base size shmid : ℕ) :
    (g.register base size shmid).homeNode = g.homeNode ∧
    (g.register base size shmid).origPid = g.origPid := by
  unfold GuestInfo.register
  split_ifs <;> exact ⟨rfl, rfl⟩

theorem registerAll_resident (g : GuestInfo) (vmas : List (ℕ × ℕ × ℕ)) :
    (registerAll g vmas).homeNode = g.homeNode ∧ (registerAll g vmas).origPid = g.origPid := by
  induction vmas generalizing g with
  | nil => exact ⟨rfl, rfl⟩
  | cons v vmas ih =>
    have first := register_resident g v.1 v.2.1 v.2.2
    have rest := ih (g.register v.1 v.2.1 v.2.2)
    exact ⟨rest.1.trans first.1, rest.2.trans first.2⟩

theorem origins_modifyCell (r : Registry) (tgid base : ℕ) (f : DsmMapping → DsmMapping)
    (fresh : Node × ℕ → Prop) : Origins r (modifyCell r tgid base f) fresh id := by
  unfold modifyCell
  cases cellAt r tgid base with
  | none => exact .refl r fresh
  | some o => exact .modify (by intro g; rfl) (by intro g; rfl) fresh

theorem origins_addGuest (r : Registry) (localPid origPid : ℕ) (homeNode : Node) :
    Origins r (addGuest r localPid origPid homeNode) (· = (homeNode, origPid)) id := by
  unfold addGuest
  split_ifs
  · refine ⟨fun _ _ _ _ same => same, fun i hi => ?_⟩
    unfold resident
    rw [SlotTable.push_slot]
    rw [SlotTable.push_count] at hi
    split_ifs with new
    · exact Or.inr ⟨new, rfl⟩
    · exact Or.inl ⟨by simp only [id]; omega, rfl⟩
  · exact .refl r _

theorem origins_removeGuest (r : Registry) (k : ℕ) (fresh : Node × ℕ → Prop) :
    ∃ o, Origins r (removeGuest r k) fresh o := by
  unfold removeGuest
  split_ifs
  · refine ⟨fun i => if i = k then r.count - 1 else i, ?_, ?_⟩
    · intro i hi j hj same
      exact SlotTable.origin_inj hi hj same
    · intro i hi
      refine Or.inl ⟨SlotTable.origin_lt hi, ?_⟩
      have kept := resident_modify (r := r) (i := k)
        (f := fun g => { g with dsmMap := g.dsmMap.mapLive .freePages })
        (by intro g; rfl) (by intro g; rfl) (if i = k then r.count - 1 else i)
      rw [← kept]
      unfold resident
      rw [SlotTable.swapRemove_slot]
      rfl
  · exact ⟨id, .refl r fresh⟩

/-- The processes a registry operation may bring in. -/
def Arrives : RegistryOp → Node × ℕ → Prop
  | .addGuest _ origPid homeNode, x => x = (homeNode, origPid)
  | _, _ => False

theorem origins_apply (s : PagePool) (op : RegistryOp) :
    ∃ o, Origins s.guests (op.apply s).guests (Arrives op) o := by
  cases op with
  | addGuest localPid origPid homeNode => exact ⟨id, origins_addGuest ..⟩
  | removeGuest k => exact origins_removeGuest ..
  | populate tgid vmas =>
    refine ⟨id, ?_⟩
    change Origins s.guests (populate s.guests tgid vmas) _ id
    unfold populate
    split
    · refine .modify ?_ ?_ _
      · intro g
        exact (registerAll_resident _ vmas).1
      · intro g
        exact (registerAll_resident _ vmas).2
    · exact .refl ..
  | shmat tgid base size shmid =>
    refine ⟨id, ?_⟩
    change Origins s.guests (shmat s.guests tgid base size shmid) _ id
    unfold shmat
    split
    · exact .modify (fun g => (register_resident g base size shmid).1)
        (fun g => (register_resident g base size shmid).2) _
    · exact .refl ..
  | shmdt tgid base =>
    refine ⟨id, ?_⟩
    change Origins s.guests (shmdt s.guests tgid base) _ id
    unfold shmdt
    split
    · exact .modify (by intro g; rfl) (by intro g; rfl) _
    · exact .refl ..
  | backPage | markShared | upgrade | markPresent => exact ⟨id, origins_modifyCell ..⟩
  | clearPresent i =>
    refine ⟨id, ?_⟩
    change Origins s.guests (clearPresent s.guests i) _ id
    exact .modify (by intro g; rfl) (by intro g; rfl) _
  | setMigrating tgid b =>
    refine ⟨id, ?_⟩
    change Origins s.guests (setMigrating s.guests tgid b) _ id
    unfold setMigrating
    split
    · exact .modify (by intro g; rfl) (by intro g; rfl) _
    · exact .refl ..
  | invalidate shmid p acquirer =>
    refine ⟨id, fun _ _ _ _ same => same, fun i hi => Or.inl ⟨hi, ?_⟩⟩
    change resident (invalidate s.guests shmid p acquirer) i = resident s.guests i
    change i < s.guests.count at hi
    unfold resident GuestRegistry.invalidate
    rw [SlotTable.mapLive_slot hi]
    split_ifs <;> rfl
  | flush origPid shmid p =>
    refine ⟨id, ?_⟩
    change Origins s.guests (flush s.guests origPid shmid p) _ id
    unfold flush
    split
    · exact .modify (by intro g; rfl) (by intro g; rfl) _
    · exact .refl ..

end MattX.GuestResidents
