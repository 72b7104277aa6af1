import MattX.MigrationPairing

set_option autoImplicit false

/-!
# What a hand-off holds

Seen from the processes a transfer only has to begin and to be stored; every
other step of the hand-off keeps it where it is or ends it. A transfer whose
pump is through lasts until its DONE is taken or lost.
-/
namespace MattX.MigrationPhases
open MigrationHandoff MigrationPairing

def isDoneOf (x : Transfer) : Msg → Bool
  | .done y _ => x == y
  | _ => false

/-- The DONE of the transfer is on the wire. -/
def Landing (c : Cluster) (x : Transfer) : Prop := ∃ p ∈ c.wire, isDoneOf x p.msg = true

/-- The transfer is at one of the stages, or its DONE is still to come. -/
def Holds (P : Stage → Bool) (c : Cluster) (x : Transfer) : Prop :=
  P (c.stage x) = true ∨ Landing c x

/-- The process is frozen for the transfer. -/
abbrev Frozen : Cluster → Transfer → Prop := Holds exporting

abbrev UnderWay : Cluster → Transfer → Prop := Holds isOpen

/-- A stub was started for it, or its deputy found. -/
abbrev Spawned : Cluster → Transfer → Prop := Holds importing

instance (c : Cluster) (x : Transfer) : Decidable (Landing c x) :=
  inferInstanceAs (Decidable (∃ p ∈ c.wire, isDoneOf x p.msg = true))

instance (P : Stage → Bool) (c : Cluster) (x : Transfer) : Decidable (Holds P c x) :=
  inferInstanceAs (Decidable (_ ∨ _))

theorem exporting_isOpen {st : Stage} (h : exporting st = true) : isOpen st = true := by
  cases st <;> simp_all [exporting, isOpen]

theorem importing_exporting {st : Stage} (h : importing st = true) : exporting st = true := by
  cases st <;> simp_all [importing, exporting]

theorem Holds.mono {P Q : Stage → Bool} (weaker : ∀ st, P st = true → Q st = true) {c : Cluster}
    {x : Transfer} (h : Holds P c x) : Holds Q c x :=
  h.imp_left (weaker _)

theorem Frozen.underWay {c : Cluster} {x : Transfer} (h : Frozen c x) : UnderWay c x :=
  h.mono fun _ => exporting_isOpen

theorem Spawned.frozen {c : Cluster} {x : Transfer} (h : Spawned c x) : Frozen c x :=
  h.mono fun _ => importing_exporting

/-- What the stages of a phase must satisfy for the phase not to be entered on the way. -/
structure Closing (P : Stage → Bool) : Prop where
  posted : P .posted = true → P .stored = true
  hijacked : P .hijacked = true → P .received = true
  announced : P .announced = true → P .hijacked = true
  pumping : P .pumping = true → P .announced = true
  done : P .pumping = true
  ended : P .over = false

theorem closing_exporting : Closing exporting := by
  constructor <;> simp [exporting]

theorem closing_isOpen : Closing isOpen := by
  constructor <;> simp [isOpen]

theorem closing_importing : Closing importing := by
  constructor <;> simp [importing]

/-- The steps that may enter a phase: the first two for all, the third for those that begin with a
blueprint's arrival. -/
def Enters (P : Stage → Bool) : Event → Prop
  | .begin _ | .store _ _ => True
  | .receiveBlueprint _ _ _ _ _ _ => P .posted = false
  | _ => False

section Steps
variable {P : Stage → Bool} {c : Cluster} {x y : Transfer}

theorem of_setStage {st : Stage} (enters : P st = true → P (c.stage x) = true)
    (h : P ((c.setStage x st).stage y) = true) : P (c.stage y) = true := by
  by_cases same : y = x
  · rw [same, setStage_self] at h
    rw [same]
    exact enters h
  · rw [setStage_other c st same] at h
    exact h

theorem Closing.of_over (k : Closing P) (h : P ((c.setStage x .over).stage y) = true) :
    P (c.stage y) = true := by
  refine of_setStage ?_ h
  intro is
  rw [k.ended] at is
  exact absurd is (by simp)

theorem helper_received (sound : Sound c) {n : ℕ} {g : Helper} (en : enabled c (.hijack n g)) :
    c.stage g.transfer = .received := by
  have stage := (sound.atNode n).stage g en.1
  rw [en.2.1] at stage
  exact stage

theorem helper_hijacked (sound : Sound c) {n : ℕ} {g : Helper} {link : Bool}
    (en : enabled c (.announce n g link)) : c.stage g.transfer = .hijacked := by
  have stage := (sound.atNode n).stage g en.1
  rw [en.2] at stage
  exact stage

/-- The slot a READY finds is its own transfer's. -/
theorem ready_finds (sound : Sound c) {i src dst : ℕ} {task : Transfer}
    (en : Delivers c.wire i ⟨src, dst, .ready x⟩) (found : (c.nodes dst).migratingTask = some task) :
    task = x ∧ c.stage x = .announced := by
  obtain ⟨_, source, announced⟩ := sound.fits _ en.mem
  change dst = x.source at source
  have is := (sound.atSource x).task (by rw [announced]; rfl)
  rw [← source] at is
  exact ⟨Option.some.inj (found.symm.trans is), announced⟩

/-- A transfer enters no phase but by beginning, being stored, or being received. -/
theorem Closing.stage_next (k : Closing P) (sound : Sound c) {e : Event} (en : enabled c e)
    (enters : ¬ Enters P e) (h : P ((next c e).stage y) = true) : P (c.stage y) = true := by
  cases e with
  | begin x => exact absurd trivial enters
  | store x copied => exact absurd trivial enters
  | abort x => exact k.of_over h
  | post x link =>
    have stored : c.stage x = .stored := en
    cases link with
    | false => exact k.of_over h
    | true =>
      have moved : P ((c.setStage x .posted).stage y) = true := h
      refine of_setStage (fun is => ?_) moved
      rw [stored]
      exact k.posted is
  | receiveBlueprint i src dst x alloc prepared =>
    have posted : P .posted = true := by
      by_contra none
      exact enters (Bool.eq_false_iff.mpr none)
    have at' : c.stage x = .posted := (sound.fits _ en.mem).2.2
    have moved : P ((c.setStage x (if alloc && prepared then .received else .over)).stage y) = true :=
      h
    refine of_setStage (fun _ => ?_) moved
    rw [at']
    exact posted
  | receiveReady i src dst x link =>
    simp only [next, handleReadyForData] at h
    split at h
    · rename_i req task target _ found _
      obtain ⟨own, announced⟩ := ready_finds sound en found
      subst own
      have moved : P (((c.setStage task .over).setStage task .pumping).stage y) = true := h
      have collapse : (c.setStage task .over).setStage task .pumping = c.setStage task .pumping := by
        simp [Cluster.setStage]
      rw [collapse] at moved
      refine of_setStage (fun is => ?_) moved
      rw [announced]
      exact k.pumping is
    · have moved : P ((c.setStage x .over).stage y) = true := h
      exact k.of_over moved
  | receivePage i src dst x =>
    simp only [next, handlePageTransfer] at h
    split at h <;> exact h
  | receiveDone i src dst x isReturning => exact h
  | lose i p =>
    simp only [next, lost] at h
    split at h
    · rename_i z _
      have moved : P ((c.setStage z .over).stage y) = true := h
      exact k.of_over moved
    · rename_i z _
      have moved : P ((c.setStage z .over).stage y) = true := h
      exact k.of_over moved
    · exact h
    · exact h
  | fetch n g => exact h
  | hijack n g =>
    have moved : P ((c.setStage g.transfer .hijacked).stage y) = true := h
    refine of_setStage (fun is => ?_) moved
    rw [helper_received sound en]
    exact k.hijacked is
  | announce n g link =>
    simp only [next, announce] at h
    split at h
    · have moved : P ((c.setStage g.transfer .announced).stage y) = true := h
      refine of_setStage (fun is => ?_) moved
      rw [helper_hijacked sound en]
      exact k.announced is
    · have moved : P ((c.setStage g.transfer .over).stage y) = true := h
      exact k.of_over moved
  | quit n g =>
    have moved : P ((c.setStage g.transfer .over).stage y) = true := h
    exact k.of_over moved
  | pumpPage n =>
    simp only [next, sendPage] at h
    split at h <;> exact h
  | pumpDone n =>
    simp only [next, finishPump] at h
    split at h
    · rename_i z m _ _
      have moved : P ((c.setStage z .over).stage y) = true := h
      exact k.of_over moved
    · exact h

theorem landing_send {p : Packet} (h : Landing (c.send p) y) :
    Landing c y ∨ isDoneOf y p.msg = true := by
  obtain ⟨q, mem, is⟩ := h
  have old : q ∈ c.wire ∨ q = p := by simpa [Cluster.send] using mem
  cases old with
  | inl old => exact .inl ⟨q, old, is⟩
  | inr new =>
    rw [new] at is
    exact .inr is

theorem landing_drop {i : ℕ} (h : Landing (c.drop i) y) : Landing c y := by
  obtain ⟨p, mem, is⟩ := h
  exact ⟨p, List.mem_of_mem_eraseIdx mem, is⟩

/-- Only the end of its pump sends a transfer's DONE. -/
theorem landing_next (sound : Sound c) {e : Event} (en : enabled c e) (h : Landing (next c e) y) :
    Landing c y ∨ (∃ n, e = .pumpDone n ∧ (c.nodes n).migratingTask = some y) ∧
      c.stage y = .pumping := by
  cases e with
  | begin x | abort x | store x copied | fetch n g | hijack n g | quit n g => exact .inl h
  | post x link =>
    cases link with
    | false => exact .inl h
    | true =>
      have moved : Landing (c.send ⟨x.source, x.target, .blueprint x⟩) y := h
      exact .inl ((landing_send moved).resolve_right (by simp [isDoneOf]))
  | receiveBlueprint i src dst x alloc prepared =>
    have moved : Landing (c.drop i) y := h
    exact .inl (landing_drop moved)
  | receiveReady i src dst x link =>
    simp only [next, handleReadyForData] at h
    split at h
    all_goals
      have moved : Landing (c.drop i) y := h
      exact .inl (landing_drop moved)
  | receivePage i src dst x =>
    simp only [next, handlePageTransfer] at h
    split at h
    all_goals
      have moved : Landing (c.drop i) y := h
      exact .inl (landing_drop moved)
  | receiveDone i src dst x isReturning =>
    have moved : Landing (c.drop i) y := h
    exact .inl (landing_drop moved)
  | lose i p =>
    simp only [next, lost] at h
    split at h
    all_goals
      have moved : Landing (c.drop i) y := h
      exact .inl (landing_drop moved)
  | announce n g link =>
    simp only [next, announce] at h
    split at h
    · rename_i m _
      have moved : Landing (c.send ⟨n, m, .ready g.transfer⟩) y := h
      exact .inl ((landing_send moved).resolve_right (by simp [isDoneOf]))
    · exact .inl h
  | pumpPage n =>
    simp only [next, sendPage] at h
    split at h
    · rename_i z m _ _
      have moved : Landing (c.send ⟨n, m, .page z⟩) y := h
      exact .inl ((landing_send moved).resolve_right (by simp [isDoneOf]))
    · exact .inl h
  | pumpDone n =>
    obtain ⟨z, _, pumping, task, _⟩ := sound.pumped en.1
    simp only [next, finishPump] at h
    split at h
    · rename_i z' m found _
      have own : z' = z := Option.some.inj (found.symm.trans task)
      have moved : Landing (c.send ⟨n, m, .done z' (c.nodes n).isReturning⟩) y := h
      refine (landing_send moved).imp_right ?_
      intro is
      have same : y = z' := by simpa [isDoneOf] using is
      rw [same]
      exact ⟨⟨n, rfl, found⟩, own ▸ pumping⟩
    · exact .inl h

/-- A hand-off enters no phase but by beginning, being stored, or being received. -/
theorem Closing.of_next (k : Closing P) (sound : Sound c) {e : Event} (en : enabled c e)
    (enters : ¬ Enters P e) (h : Holds P (next c e) y) : Holds P c y := by
  cases h with
  | inl is => exact .inl (k.stage_next sound en enters is)
  | inr lands =>
    cases landing_next sound en lands with
    | inl old => exact .inr old
    | inr fresh =>
      left
      rw [fresh.2]
      exact k.done

theorem stage_setStage {st : Stage} (h : P ((c.setStage x st).stage y) = true) :
    P (c.stage y) = true ∨ P st = true ∧ y = x := by
  by_cases same : y = x
  · rw [same, setStage_self] at h
    exact .inr ⟨h, same⟩
  · rw [setStage_other c _ same] at h
    exact .inl h

theorem of_begin (h : Holds P (next c (.begin x)) y) :
    Holds P c y ∨ P .capturing = true ∧ y = x := by
  cases h with
  | inl is =>
    have moved : P ((c.setStage x .capturing).stage y) = true := is
    exact (stage_setStage moved).imp_left .inl
  | inr lands => exact .inl (.inr lands)

theorem of_store {copied : Bool} (h : Holds P (next c (.store x copied)) y) :
    Holds P c y ∨ P .stored = true ∧ y = x := by
  cases h with
  | inl is =>
    have moved : P ((c.setStage x .stored).stage y) = true := is
    exact (stage_setStage moved).imp_left .inl
  | inr lands => exact .inl (.inr lands)

theorem of_received {i src dst : ℕ} {alloc prepared : Bool}
    (h : Holds P (next c (.receiveBlueprint i src dst x alloc prepared)) y) :
    Holds P c y ∨ P (if alloc && prepared then .received else .over) = true ∧ y = x := by
  cases h with
  | inl is =>
    have moved : P ((c.setStage x (if alloc && prepared then .received else .over)).stage y) = true :=
      is
    exact (stage_setStage moved).imp_left .inl
  | inr lands =>
    have moved : Landing (c.drop i) y := lands
    exact .inl (.inr (landing_drop moved))

/-- Nothing moves a transfer that is over, and only its helper one that is received. -/
theorem stage_stays (sound : Sound c) {e : Event} (en : enabled c e)
    (rest : c.stage y = .over ∨ c.stage y = .received ∧
      ∀ n g, e = .hijack n g ∨ e = .quit n g → g.transfer ≠ y) :
    (next c e).stage y = c.stage y := by
  have other : ∀ {z : Transfer}, c.stage z ≠ .over → c.stage z ≠ .received → y ≠ z := by
    intro z open' early is
    rw [is] at rest
    cases rest with
    | inl ended => exact open' ended
    | inr received => exact early received.1
  have helped : ∀ {n : ℕ} {g : Helper}, c.stage g.transfer = .received →
      e = .hijack n g ∨ e = .quit n g → y ≠ g.transfer := by
    intro n g at' is same
    cases rest with
    | inl ended => simp [same, at'] at ended
    | inr received => exact received.2 n g is same.symm
  have still : ∀ {d : Cluster} {z : Transfer} {st : Stage}, y ≠ z →
      (d.setStage z st).stage y = d.stage y := fun ne => setStage_other _ _ ne
  cases e with
  | begin x =>
    have unborn : c.stage x = .unborn := sound.unborn en
    exact still (other (by simp [unborn]) (by simp [unborn]))
  | store x copied | abort x =>
    have capturing : c.stage x = .capturing := en
    exact still (other (by simp [capturing]) (by simp [capturing]))
  | post x link =>
    have stored : c.stage x = .stored := en
    have apart : y ≠ x := other (by simp [stored]) (by simp [stored])
    cases link with
    | false => exact still apart
    | true => exact still apart
  | receiveBlueprint i src dst x alloc prepared =>
    have posted : c.stage x = .posted := (sound.fits _ en.mem).2.2
    exact still (other (by simp [posted]) (by simp [posted]))
  | receiveReady i src dst x link =>
    have announced : c.stage x = .announced := (sound.fits _ en.mem).2.2
    have apart : y ≠ x := other (by simp [announced]) (by simp [announced])
    simp only [next, handleReadyForData]
    split
    · rename_i req task target _ found _
      obtain ⟨own, _⟩ := ready_finds sound en found
      rw [own]
      exact (still apart).trans (still apart)
    · exact still apart
  | receivePage i src dst x =>
    simp only [next, handlePageTransfer]
    split <;> rfl
  | receiveDone i src dst x isReturning => rfl
  | lose i p =>
    have fits := sound.fits p (List.mem_of_getElem? en)
    unfold Fits at fits
    simp only [next, lost]
    split
    · rename_i z msg
      rw [msg] at fits
      exact still (other (by simp [fits.2.2]) (by simp [fits.2.2]))
    · rename_i z msg
      rw [msg] at fits
      exact still (other (by simp [fits.2.2]) (by simp [fits.2.2]))
    · rfl
    · rfl
  | fetch n g => rfl
  | hijack n g => exact still (helped (helper_received sound en) (.inl rfl))
  | quit n g =>
    have received := (sound.atNode n).stage g en.1
    rw [en.2.1] at received
    exact still (helped received (.inr rfl))
  | announce n g link =>
    have hijacked := helper_hijacked sound en
    have apart : y ≠ g.transfer := other (by simp [hijacked]) (by simp [hijacked])
    simp only [next, announce]
    split
    · exact still apart
    · exact still apart
  | pumpPage n =>
    simp only [next, sendPage]
    split <;> rfl
  | pumpDone n =>
    obtain ⟨z, _, pumping, task, _⟩ := sound.pumped en.1
    simp only [next, finishPump]
    split
    · rename_i z' m found _
      have own : z' = z := Option.some.inj (found.symm.trans task)
      have apart : y ≠ z' := other (by simp [own, pumping]) (by simp [own, pumping])
      exact still apart
    · rfl

/-- A DONE says which way its transfer goes. -/
def Labelled (c : Cluster) : Prop :=
  ∀ p ∈ c.wire, ∀ x b, p.msg = .done x b → b = x.isReturning

theorem Labelled.next (h : Labelled c) (sound : Sound c) {e : Event} (en : enabled c e) :
    Labelled (next c e) := by
  have dropped : ∀ i, Labelled (c.drop i) :=
    fun i p mem => h p (List.mem_of_mem_eraseIdx mem)
  have posted : ∀ {q : Packet}, (∀ x b, q.msg = .done x b → b = x.isReturning) →
      Labelled (c.send q) := by
    intro q own p mem
    have old : p ∈ c.wire ∨ p = q := by simpa [Cluster.send] using mem
    cases old with
    | inl old => exact h p old
    | inr new =>
      rw [new]
      exact own
  cases e with
  | begin x | abort x | store x copied | fetch n g | hijack n g | quit n g => exact h
  | post x link =>
    cases link with
    | false => exact h
    | true => exact posted (q := ⟨x.source, x.target, .blueprint x⟩) (by simp)
  | receiveBlueprint i src dst x alloc prepared => exact dropped i
  | receiveReady i src dst x link =>
    simp only [MigrationHandoff.next, handleReadyForData]
    split <;> exact dropped i
  | receivePage i src dst x =>
    simp only [MigrationHandoff.next, handlePageTransfer]
    split <;> exact dropped i
  | receiveDone i src dst x isReturning => exact dropped i
  | lose i p =>
    simp only [MigrationHandoff.next, lost]
    split <;> exact dropped i
  | announce n g link =>
    simp only [MigrationHandoff.next, announce]
    split
    · rename_i m _
      exact posted (q := ⟨n, m, .ready g.transfer⟩) (by simp)
    · exact h
  | pumpPage n =>
    simp only [MigrationHandoff.next, sendPage]
    split
    · rename_i z m _ _
      exact posted (q := ⟨n, m, .page z⟩) (by simp)
    · exact h
  | pumpDone n =>
    obtain ⟨z, src, pumping, task, _⟩ := sound.pumped en.1
    have direction := (sound.atSource z).direction (by rw [pumping]; rfl)
    simp only [MigrationHandoff.next, finishPump]
    split
    · rename_i z' m found _
      have own : z' = z := Option.some.inj (found.symm.trans task)
      have label : (c.nodes n).isReturning = z'.isReturning := by
        rw [own, ← src]
        exact direction
      exact posted (q := ⟨n, m, .done z' (c.nodes n).isReturning⟩) (by simp_all)
    · exact h

/-- What is on the wire is over. -/
theorem Landing.over (sound : Sound c) (h : Landing c x) : c.stage x = .over := by
  obtain ⟨p, mem, is⟩ := h
  have fits := sound.fits p mem
  unfold Fits at fits
  cases msg : p.msg with
  | blueprint | ready | page => simp [msg, isDoneOf] at is
  | done y b =>
    have own : x = y := by simpa [msg, isDoneOf] using is
    rw [msg] at fits
    rw [own]
    exact fits.2.2

end Steps
end MattX.MigrationPhases
