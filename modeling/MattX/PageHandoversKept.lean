import MattX.PageHandovers

set_option autoImplicit false

/-!
# Writes that survive every hand-over of mode 2

The last write is where the directory says: at home while nobody has the page
EXCLUSIVE, else at home, with the owner, or on its way home. A copy is good as
long as nobody else was granted the lock after it was read.
-/
namespace MattX.PageHandovers
open GuardedRuns

/-- The pages that have been read for replies. -/
def pages (s : State) : List (Page × ℕ) := s.faults.filterMap fun f => f.stage.page

structure Inv (s : State) : Prop where
  exclusive : ∀ g, (s.guests g).attached = true → (s.guests g).state = .exclusive →
    s.Owns g ∧ (s.guests g).readAt.isSome = true
  owner : ∀ g, s.Owns g → (s.guests g).attached = true → (s.guests g).readAt.isSome = true →
    (s.guests g).copy = s.latest
  fresh : ∀ g, (s.guests g).attached = true → Fresh s g → (s.guests g).copy = s.latest
  granted : ∀ g, s.Owns g → ∃ rest, s.grants = g :: rest
  copyBefore : ∀ o, s.Owns o → ∀ g, g ≠ o → ∀ r ∈ (s.guests g).readAt, r < s.grants.length
  pageBefore : ∀ o, s.Owns o → ∀ p ∈ pages s, p.2 < s.grants.length
  readAt : ∀ g, ∀ r ∈ (s.guests g).readAt, r ≤ s.grants.length
  pageAt : ∀ p ∈ pages s, p.2 ≤ s.grants.length ∧ (p.2 = s.grants.length → p.1 = s.latest)
  carried : ∀ c ∈ carriers s, c.2 = s.grants.length → c.1 = s.latest ∧
    ∀ g, (s.guests g).attached = true → (s.guests g).state ≠ .exclusive
  home : (∀ g, ¬s.Owns g) → s.ram = s.latest
  away : ∀ o, s.Owns o → s.ram = s.latest ∨
    ((s.guests o).attached = true ∧ (s.guests o).state = .exclusive) ∨
      ∃ c ∈ carriers s, c.2 = s.grants.length

theorem boot_inv (node : ℕ → ℕ) (ram : Page) (frames : ℕ → Page) : Inv (boot node ram frames) := by
  have nobody : ∀ g, ¬(boot node ram frames).Owns g := by
    rintro g ⟨e, none_there, -⟩
    cases none_there
  refine ⟨fun g _ state => ?_, fun g owns => absurd owns (nobody g), fun g _ read => ?_,
    fun g owns => absurd owns (nobody g), fun o owns => absurd owns (nobody o),
    fun o owns => absurd owns (nobody o), fun g r read => ?_, fun p member => ?_,
    fun c member => ?_, fun _ => rfl, fun o owns => absurd owns (nobody o)⟩
  · cases state
  · obtain ⟨r, none_read, -⟩ := read
    cases none_read
  · cases read
  · cases member
  · cases member

theorem owns_unique {s : State} {g h : ℕ} (first : s.Owns g) (second : s.Owns h) : g = h := by
  obtain ⟨e, there, -, rfl⟩ := first
  obtain ⟨e', there', -, rfl⟩ := second
  rw [there] at there'
  cases there'
  rfl

/-! ### Steps that leave the page where it is -/

/-- Two guests with the same copy. Their page table entries may differ. -/
structure Guest.Alike (x y : Guest) : Prop where
  attached : x.attached = y.attached
  copy : x.copy = y.copy
  readAt : x.readAt = y.readAt
  exclusive : x.state = .exclusive ↔ y.state = .exclusive

theorem Guest.Alike.refl (x : Guest) : x.Alike x := ⟨rfl, rfl, rfl, Iff.rfl⟩

/-- Two states with the same pages in the same places. -/
structure Alike (s t : State) : Prop where
  guests : ∀ g, (t.guests g).Alike (s.guests g)
  owns : ∀ g, t.Owns g ↔ s.Owns g
  ram : t.ram = s.ram
  latest : t.latest = s.latest
  grants : t.grants = s.grants
  pages : ∀ p ∈ pages t, p ∈ pages s
  carriers : ∀ c, c ∈ carriers t ↔ c ∈ carriers s

theorem Inv.alike {s t : State} (h : Inv s) (same : Alike s t) : Inv t := by
  have fresh : ∀ g, Fresh t g → Fresh s g := by
    rintro g ⟨r, read, only⟩
    rw [(same.guests g).readAt] at read
    rw [same.grants] at only
    exact ⟨r, read, only⟩
  refine ⟨fun g attached state => ?_, fun g owns attached read => ?_, fun g attached read => ?_,
    fun g owns => ?_, fun o owns g other r read => ?_, fun o owns p member => ?_,
    fun g r read => ?_, fun p member => ?_, fun c member at_last => ?_, fun nobody => ?_,
    fun o owns => ?_⟩
  · rw [(same.guests g).attached] at attached
    rw [(same.guests g).exclusive] at state
    rw [(same.guests g).readAt, same.owns]
    exact h.exclusive g attached state
  · rw [(same.guests g).attached] at attached
    rw [(same.guests g).readAt] at read
    rw [(same.guests g).copy, same.latest]
    exact h.owner g ((same.owns g).mp owns) attached read
  · rw [(same.guests g).attached] at attached
    rw [(same.guests g).copy, same.latest]
    exact h.fresh g attached (fresh g read)
  · rw [same.grants]
    exact h.granted g ((same.owns g).mp owns)
  · rw [(same.guests g).readAt] at read
    rw [same.grants]
    exact h.copyBefore o ((same.owns o).mp owns) g other r read
  · rw [same.grants]
    exact h.pageBefore o ((same.owns o).mp owns) p (same.pages p member)
  · rw [(same.guests g).readAt] at read
    rw [same.grants]
    exact h.readAt g r read
  · rw [same.grants, same.latest]
    exact h.pageAt p (same.pages p member)
  · rw [same.grants] at at_last
    obtain ⟨value, none_exclusive⟩ := h.carried c ((same.carriers c).mp member) at_last
    refine ⟨value.trans same.latest.symm, fun g attached => ?_⟩
    rw [(same.guests g).attached] at attached
    exact fun state => none_exclusive g attached ((same.guests g).exclusive.mp state)
  · rw [same.ram, same.latest]
    exact h.home fun g owns => nobody g ((same.owns g).mpr owns)
  · rw [same.ram, same.latest, same.grants, (same.guests o).attached, (same.guests o).exclusive]
    rcases h.away o ((same.owns o).mp owns) with here | there | ⟨c, member, at_last⟩
    · exact Or.inl here
    · exact Or.inr (Or.inl there)
    · exact Or.inr (Or.inr ⟨c, (same.carriers c).mpr member, at_last⟩)

theorem alike_guests {s : State} {guests : ℕ → Guest} (same : ∀ g, (guests g).Alike (s.guests g)) :
    Alike s { s with guests := guests } :=
  ⟨same, fun _ => Iff.rfl, rfl, rfl, rfl, fun _ member => member, fun _ => Iff.rfl⟩

theorem alike_setGuest {s : State} {g : ℕ} {x : Guest} (same : x.Alike (s.guests g)) :
    Alike s (s.setGuest g x) := by
  refine alike_guests fun h => ?_
  by_cases here : h = g
  · subst h
    simpa using same
  · simpa [here] using Guest.Alike.refl _

/-- Page table entries are not part of the page. -/
theorem alike_pte (s : State) (g : ℕ) (pte : Pte) :
    Alike s (s.setGuest g { s.guests g with pte := pte }) :=
  alike_setGuest ⟨rfl, rfl, rfl, Iff.rfl⟩

theorem alike_dir {s : State} {dir : Option Entry}
    (owns : ∀ g, { s with dir := dir }.Owns g ↔ s.Owns g) : Alike s { s with dir := dir } :=
  ⟨fun _ => Guest.Alike.refl _, owns, rfl, rfl, rfl, fun _ member => member, fun _ => Iff.rfl⟩

/-- Neither acquires nor invalidates carry pages. -/
theorem alike_queues (s : State) (acquires : List Acquire) (invalidates : List Invalidate) :
    Alike s { s with acquires := acquires, invalidates := invalidates } :=
  ⟨fun _ => Guest.Alike.refl _, fun _ => Iff.rfl, rfl, rfl, rfl, fun _ member => member,
    fun _ => Iff.rfl⟩

/-! ### Lists of work -/

theorem mem_pages {s : State} {p : Page × ℕ} :
    p ∈ pages s ↔ ∃ f ∈ s.faults, f.stage.page = some p := by
  simp only [pages, List.mem_filterMap]

theorem mem_carriers {s : State} {c : Page × ℕ} :
    c ∈ carriers s ↔ (∃ f ∈ s.faults, f.stage.data = some c) ∨
      ∃ u ∈ s.updates, u.stage = .sent ∧ (u.page, u.madeAt) = c := by
  simp only [carriers, List.mem_append, List.mem_filterMap, List.mem_map, List.mem_filter,
    beq_iff_eq, and_assoc]

/-- What else is in a list is in it after a place has changed. -/
theorem mem_set_of_ne {α : Type*} {l : List α} {k : ℕ} {a b x : α} (here : l[k]? = some a)
    (member : b ∈ l) (other : b ≠ a) : b ∈ l.set k x := by
  obtain ⟨i, there⟩ := List.mem_iff_getElem?.mp member
  have apart : k ≠ i := by
    rintro rfl
    exact other (Option.some.inj (there.symm.trans here))
  exact List.mem_of_getElem? ((List.getElem?_set_ne apart).trans there)

theorem mem_set_self {α : Type*} {l : List α} {k : ℕ} {a x : α} (here : l[k]? = some a) :
    x ∈ l.set k x :=
  List.mem_set (List.getElem?_eq_some_iff.mp here).1 _

section Faults
variable {s : State} {k : ℕ} {f f' : Fault}

theorem pages_set {p : Page × ℕ} (member : p ∈ pages { s with faults := s.faults.set k f' }) :
    p ∈ pages s ∨ f'.stage.page = some p := by
  obtain ⟨x, there, page⟩ := mem_pages.mp member
  rcases List.mem_or_eq_of_mem_set there with old | rfl
  · exact Or.inl (mem_pages.mpr ⟨x, old, page⟩)
  · exact Or.inr page

theorem carriers_set {c : Page × ℕ}
    (member : c ∈ carriers { s with faults := s.faults.set k f' }) :
    c ∈ carriers s ∨ f'.stage.data = some c := by
  rcases mem_carriers.mp member with ⟨x, there, data⟩ | bomb
  · rcases List.mem_or_eq_of_mem_set there with old | rfl
    · exact Or.inl (mem_carriers.mpr (Or.inl ⟨x, old, data⟩))
    · exact Or.inr data
  · exact Or.inl (mem_carriers.mpr (Or.inr bomb))

theorem carriers_set_of (found : s.faults[k]? = some f) {c : Page × ℕ}
    (kept : f.stage.data = none ∨ f'.stage.data = f.stage.data) (member : c ∈ carriers s) :
    c ∈ carriers { s with faults := s.faults.set k f' } := by
  rcases mem_carriers.mp member with ⟨x, there, data⟩ | bomb
  · refine mem_carriers.mpr (Or.inl ?_)
    by_cases same : x = f
    · subst x
      rcases kept with empty | as_before
      · rw [empty] at data
        cases data
      · exact ⟨f', mem_set_self found, as_before.trans data⟩
    · exact ⟨x, mem_set_of_ne found there same, data⟩
  · exact mem_carriers.mpr (Or.inr bomb)

/-- A fault that neither takes up nor drops a page. -/
theorem alike_set (found : s.faults[k]? = some f)
    (page : f'.stage.page = none ∨ f'.stage.page = f.stage.page)
    (data : f'.stage.data = f.stage.data) : Alike s { s with faults := s.faults.set k f' } := by
  have there := List.mem_of_getElem? found
  refine ⟨fun g => Guest.Alike.refl _, fun g => Iff.rfl, rfl, rfl, rfl, fun p member => ?_,
    fun c => ⟨fun member => ?_, carriers_set_of found (Or.inr data)⟩⟩
  · rcases pages_set member with old | new
    · exact old
    · rcases page with empty | as_before
      · rw [empty] at new
        cases new
      · exact mem_pages.mpr ⟨f, there, as_before.symm.trans new⟩
  · rcases carriers_set member with old | new
    · exact old
    · exact mem_carriers.mpr (Or.inl ⟨f, there, data.symm.trans new⟩)

/-- A fault without flushed data moves on without a page. -/
theorem Inv.move (h : Inv s) (found : s.faults[k]? = some f) (empty : f.stage.data = none)
    {stage : FaultStage} (page : stage.page = none) (data : stage.data = none) :
    Inv (s.moveFault k f stage) :=
  h.alike (alike_set found (Or.inl page) (data.trans empty.symm))

end Faults

/-! ### The home node -/

section Home
variable {s : State} {k : ℕ} {f : Fault}

theorem look_inv (h : Inv s) (found : s.faults[k]? = some f) (empty : f.stage.data = none)
    (route : Bool) : Inv (s.look k f route) := by
  unfold State.look
  split
  · refine h.move found empty ?_ ?_ <;> split <;> rfl
  · exact h.move found empty rfl rfl

/-- The directory lets go of an owner whose writes are at home. -/
theorem Inv.disowned (h : Inv s) (quiet : Quiet s) {dir : Option Entry}
    (nobody : ∀ e ∈ dir, e.state ≠ .exclusive) : Inv { s with dir := dir } := by
  have none_owns : ∀ g, ¬{ s with dir := dir }.Owns g := by
    rintro g ⟨e, there, exclusive, -⟩
    exact nobody e there exclusive
  have none_exclusive : ∀ g, (s.guests g).attached = true → (s.guests g).state ≠ .exclusive := by
    intro g attached state
    obtain ⟨⟨e, there, exclusive, rfl⟩, -⟩ := h.exclusive g attached state
    exact (quiet e there exclusive).2 ⟨attached, state⟩
  have ram : s.ram = s.latest := by
    by_cases owned : ∃ o, s.Owns o
    · obtain ⟨o, owns⟩ := owned
      rcases h.away o owns with here | ⟨attached, state⟩ | ⟨c, member, -⟩
      · exact here
      · exact absurd state (none_exclusive o attached)
      · obtain ⟨e, there, exclusive, -⟩ := owns
        rw [List.isEmpty_iff.mp (quiet e there exclusive).1] at member
        cases member
    · exact h.home fun g owns => owned ⟨g, owns⟩
  exact ⟨fun g attached state => absurd state (none_exclusive g attached),
    fun g owns => absurd owns (none_owns g), h.fresh, fun g owns => absurd owns (none_owns g),
    fun o owns => absurd owns (none_owns o), fun o owns => absurd owns (none_owns o), h.readAt,
    h.pageAt, h.carried, fun _ => ram, fun o owns => absurd owns (none_owns o)⟩

theorem downgrade_inv (h : Inv s) (found : s.faults[k]? = some f) (empty : f.stage.data = none)
    (quiet : Quiet s) : Inv (s.downgrade k f) := by
  have free : Inv { s with dir := s.dir.map fun _ => ⟨.shared, 0, []⟩ } := by
    refine h.disowned quiet fun e there => ?_
    obtain ⟨old, -, rfl⟩ := Option.map_eq_some_iff.mp there
    decide
  exact free.move found empty rfl rfl

/-- The last page on its way arrives. -/
theorem Inv.arrived (h : Inv s) {c : Page × ℕ} (member : c ∈ carriers s)
    (at_last : c.2 = s.grants.length) {faults : List Fault} {updates : List Update}
    (fewer : ∀ p ∈ pages { s with faults := faults, updates := updates }, p ∈ pages s)
    (lighter : ∀ d ∈ carriers { s with faults := faults, updates := updates }, d ∈ carriers s) :
    Inv { s with ram := c.1, faults := faults, updates := updates } := by
  have value := (h.carried c member at_last).1
  exact ⟨h.exclusive, h.owner, h.fresh, h.granted, h.copyBefore,
    fun o owns p there => h.pageBefore o owns p (fewer p there), h.readAt,
    fun p there => h.pageAt p (fewer p there), fun d there => h.carried d (lighter d there),
    fun _ => value, fun _ _ => Or.inl value⟩

theorem writeRam_inv (h : Inv s) (found : s.faults[k]? = some f)
    {data : Option (Page × ℕ)} (answered : f.stage = .answered data) {ok : Bool}
    (met : ∀ d ∈ data, ok = true ∧ d.2 = s.grants.length) : Inv (s.writeRam k f data ok) := by
  have there := List.mem_of_getElem? found
  cases data with
  | none => exact h.move found (congrArg FaultStage.data answered) rfl rfl
  | some d =>
    obtain ⟨rfl, at_last⟩ := met d rfl
    refine h.arrived (c := d) ?_ at_last (fun p member => ?_) (fun c member => ?_)
    · exact mem_carriers.mpr (Or.inl ⟨f, there, congrArg FaultStage.data answered⟩)
    · rcases pages_set member with old | new
      · exact old
      · cases new
    · rcases carriers_set member with old | new
      · exact old
      · cases new

theorem pump_inv (h : Inv s) (free : ∀ e ∈ s.dir, e.state ≠ .exclusive) :
    Inv (s.moveFault k f (.read s.ram s.grants.length)) := by
  have nobody : ∀ g, ¬s.Owns g := by
    rintro g ⟨e, there, exclusive, -⟩
    exact free e there exclusive
  have same : ∀ c, c ∈ carriers (s.moveFault k f (.read s.ram s.grants.length)) →
      c ∈ carriers s := by
    intro c member
    rcases carriers_set member with old | new
    · exact old
    · cases new
  refine ⟨h.exclusive, h.owner, h.fresh, h.granted, h.copyBefore,
    fun o owns => absurd owns (nobody o), h.readAt, fun p member => ?_,
    fun c member => h.carried c (same c member), h.home, fun o owns => absurd owns (nobody o)⟩
  rcases pages_set member with old | new
  · exact h.pageAt p old
  · cases new
    exact ⟨Nat.le_refl _, fun _ => h.home nobody⟩

theorem record_inv (h : Inv s) (found : s.faults[k]? = some f) {page : Page} {readAt : ℕ}
    (read : f.stage = .read page readAt) (room : Bool) :
    Inv (s.record k f page readAt room) := by
  have moved : Inv (s.moveFault k f (.replied page readAt)) :=
    h.alike (alike_set found (Or.inr (by rw [read]; rfl)) (by rw [read]; rfl))
  refine moved.alike (alike_dir fun g => ?_)
  constructor
  · rintro ⟨e, there, exclusive, owner⟩
    cases entry : s.dir with
    | some old =>
      rw [entry] at there
      cases there
      dsimp only at exclusive owner
      split at exclusive
      · cases exclusive
      · exact ⟨old, entry, exclusive, owner⟩
    | none =>
      rw [entry] at there
      cases room with
      | true =>
        cases there
        cases exclusive
      | false => cases there
  · rintro ⟨e, there, exclusive, owner⟩
    have entry : s.dir = some e := there
    refine ⟨{ e with
      state := if e.state = .invalid then .shared else e.state
      mask := e.mask.insert (s.node f.guest) }, ?_, ?_, owner⟩
    · simp only [entry]
      rfl
    · dsimp only
      rw [if_neg (by rw [exclusive]; decide)]
      exact exclusive

theorem register_inv (h : Inv s) (unused : s.dir.isNone = true) :
    Inv { s with dir := some ⟨.invalid, 0, []⟩ } := by
  refine h.alike (alike_dir fun g => ⟨?_, ?_⟩)
  · rintro ⟨e, there, exclusive, -⟩
    cases there
    cases exclusive
  · rintro ⟨e, there, -⟩
    rw [Option.isNone_iff_eq_none.mp unused] at there
    cases there

theorem remove_inv (h : Inv s) (quiet : Quiet s) : Inv { s with dir := none } :=
  h.disowned quiet fun e there => by cases there

end Home

theorem mem_setUpdate {s : State} {k : ℕ} {u : Update} {c : Page × ℕ} (done : u.stage ≠ .sent)
    (member : c ∈ carriers { s with updates := s.updates.set k u }) : c ∈ carriers s := by
  rcases mem_carriers.mp member with fault | ⟨v, there, sent, is⟩
  · exact mem_carriers.mpr (Or.inl fault)
  · rcases List.mem_or_eq_of_mem_set there with old | rfl
    · exact mem_carriers.mpr (Or.inr ⟨v, old, sent, is⟩)
    · exact absurd sent done

theorem applyUpdate_inv {s : State} {k : ℕ} {u : Update} (h : Inv s)
    (found : s.updates[k]? = some u) (sent : u.stage = .sent)
    (at_last : u.madeAt = s.grants.length) : Inv (s.applyUpdate k u true) := by
  have there := List.mem_of_getElem? found
  have carrier : (u.page, u.madeAt) ∈ carriers s :=
    mem_carriers.mpr (Or.inr ⟨u, there, sent, rfl⟩)
  exact h.arrived carrier at_last (fun _ member => member)
    (fun _ member => mem_setUpdate (by simp) member)

theorem cleanup_inv {s : State} {k : ℕ} {u : Update} (h : Inv s)
    (found : s.updates[k]? = some u) (stored : u.stage = .stored)
    (met : s.Owns u.guest → Quiet s) : Inv (s.cleanup k u) := by
  have moved : ∀ t : State, t.updates = s.updates → Inv t → Inv (t.moveUpdate k u .done) := by
    intro t same inv
    refine inv.alike ⟨fun g => Guest.Alike.refl _, fun _ => Iff.rfl, rfl, rfl, rfl,
      fun _ member => member, fun c => ⟨mem_setUpdate (by simp), fun member => ?_⟩⟩
    rcases mem_carriers.mp member with fault | ⟨v, there, sent, is⟩
    · exact mem_carriers.mpr (Or.inl fault)
    · have other : v ≠ u := by
        rintro rfl
        rw [stored] at sent
        cases sent
      rw [same] at there
      refine mem_carriers.mpr (Or.inr ⟨v, ?_, sent, is⟩)
      change v ∈ t.updates.set k _
      rw [same]
      exact mem_set_of_ne found there other
  by_cases owns : s.Owns u.guest
  · have free : Inv { s with dir := s.dir.map fun e =>
        if e.state = .exclusive ∧ e.owner = u.guest then ⟨.shared, 0, []⟩ else e } := by
      refine h.disowned (met owns) fun e there => ?_
      obtain ⟨old, entry, rfl⟩ := Option.map_eq_some_iff.mp there
      obtain ⟨e', there', exclusive, owner⟩ := owns
      rw [entry] at there'
      cases there'
      rw [if_pos ⟨exclusive, owner⟩]
      decide
    exact moved { s with dir := s.dir.map _ } rfl free
  · have kept : (s.dir.map fun e =>
        if e.state = .exclusive ∧ e.owner = u.guest then ⟨.shared, 0, []⟩ else e) = s.dir := by
      cases entry : s.dir with
      | none => rfl
      | some e =>
        have other : ¬(e.state = .exclusive ∧ e.owner = u.guest) :=
          fun both => owns ⟨e, entry, both⟩
        simp only [Option.map_some, if_neg other]
    unfold State.cleanup
    rw [kept]
    exact moved s rfl h

/-- The lock goes to a guest whose copy is as good as the home page. -/
theorem grant_inv {s : State} {k : ℕ} {a : Acquire} (h : Inv s) (link : ℕ → Bool)
    (met : ∀ e ∈ s.dir, (e.state = .exclusive → e.owner = a.guest) ∧
      (carriers s).isEmpty = true ∧ Fresh s a.guest) : Inv (s.grant k a link) := by
  unfold State.grant
  split
  · rename_i e entry
    obtain ⟨same_owner, none_out, fresh⟩ := met e entry
    have only : ∀ g, s.Owns g → g = a.guest := by
      rintro g ⟨e', there, exclusive, rfl⟩
      rw [entry] at there
      cases there
      exact same_owner exclusive
    refine ⟨fun g attached state => ?_, fun g owns attached _ => ?_, fun g attached read => ?_,
      fun g owns => ?_, fun o _ g _ r read => ?_, fun o _ p member => ?_, fun g r read => ?_,
      fun p member => ?_, fun c member => ?_, fun nobody => ?_, fun o owns => ?_⟩
    · obtain ⟨owns, read⟩ := h.exclusive g attached state
      exact ⟨⟨_, rfl, rfl, (only g owns).symm⟩, read⟩
    · obtain ⟨e', there, -, rfl⟩ := owns
      cases there
      exact h.fresh a.guest attached fresh
    · obtain ⟨r, there, all⟩ := read
      have small : r ≤ s.grants.length := h.readAt g r there
      refine h.fresh g attached ⟨r, there, fun x member => all x ?_⟩
      change x ∈ (a.guest :: s.grants).take (s.grants.length + 1 - r)
      rw [Nat.sub_add_comm small, List.take_succ_cons]
      exact List.mem_cons_of_mem _ member
    · obtain ⟨e', there, -, rfl⟩ := owns
      cases there
      exact ⟨s.grants, rfl⟩
    · exact Nat.lt_succ_of_le (h.readAt g r read)
    · exact Nat.lt_succ_of_le (h.pageAt p member).1
    · exact Nat.le_succ_of_le (h.readAt g r read)
    · have small := (h.pageAt p member).1
      refine ⟨Nat.le_succ_of_le small, fun at_last => ?_⟩
      exact absurd at_last (Nat.ne_of_lt (Nat.lt_succ_of_le small))
    · have old : c ∈ carriers s := member
      rw [List.isEmpty_iff.mp none_out] at old
      cases old
    · exact absurd ⟨_, rfl, rfl, rfl⟩ (nobody a.guest)
    · obtain ⟨e', there, -, rfl⟩ := owns
      cases there
      by_cases owned : ∃ g, s.Owns g
      · obtain ⟨g, owns⟩ := owned
        obtain rfl := only g owns
        rcases h.away _ owns with here | there | ⟨c, member, -⟩
        · exact Or.inl here
        · exact Or.inr (Or.inl there)
        · rw [List.isEmpty_iff.mp none_out] at member
          cases member
      · exact Or.inl (h.home fun g owns => owned ⟨g, owns⟩)
  · exact h.alike (alike_queues s _ _)

/-! ### The guests -/

/-- A guest may change if its copy is as good as before, or is what was written last while nobody
has the page EXCLUSIVE. -/
theorem Inv.withGuest {s : State} {g : ℕ} {x : Guest} (h : Inv s)
    (exclusive : x.attached = true → x.state = .exclusive →
      s.Owns g ∧ x.readAt.isSome = true ∧ (carriers s).isEmpty = true)
    (copy : x.attached = true → ∀ r ∈ x.readAt, x.copy = s.latest ∨
      (s.guests g).attached = true ∧ (s.guests g).copy = x.copy ∧ r ∈ (s.guests g).readAt)
    (readAt : ∀ r ∈ x.readAt, r ∈ (s.guests g).readAt ∨
      r ≤ s.grants.length ∧ ∀ o, ¬s.Owns o)
    (kept : (s.guests g).attached = true → (s.guests g).state = .exclusive →
      x.attached = true ∧ x.state = .exclusive) : Inv (s.setGuest g x) := by
  refine ⟨fun g' attached state => ?_, fun g' owns attached read => ?_,
    fun g' attached read => ?_, h.granted, fun o owns g' other r read => ?_, h.pageBefore,
    fun g' r read => ?_, h.pageAt, fun c member at_last => ?_, h.home, fun o owns => ?_⟩
  · by_cases here : g' = g
    · subst g'
      rw [State.setGuest_self] at attached state ⊢
      obtain ⟨owns, read, -⟩ := exclusive attached state
      exact ⟨owns, read⟩
    · rw [State.setGuest_other s here] at attached state ⊢
      exact h.exclusive g' attached state
  · by_cases here : g' = g
    · subst g'
      rw [State.setGuest_self] at attached read ⊢
      obtain ⟨r, there⟩ := Option.isSome_iff_exists.mp read
      rcases copy attached r there with last | ⟨before, same, old⟩
      · exact last
      · exact same.symm.trans (h.owner g owns before (Option.isSome_iff_exists.mpr ⟨r, old⟩))
    · rw [State.setGuest_other s here] at attached read ⊢
      exact h.owner g' owns attached read
  · obtain ⟨r, there, all⟩ := read
    by_cases here : g' = g
    · subst g'
      rw [State.setGuest_self] at attached there ⊢
      rcases copy attached r there with last | ⟨before, same, old⟩
      · exact last
      · exact same.symm.trans (h.fresh g before ⟨r, old, all⟩)
    · rw [State.setGuest_other s here] at attached there ⊢
      exact h.fresh g' attached ⟨r, there, all⟩
  · by_cases here : g' = g
    · subst g'
      rw [State.setGuest_self] at read
      rcases readAt r read with old | ⟨-, nobody⟩
      · exact h.copyBefore o owns g other r old
      · exact absurd owns (nobody o)
    · rw [State.setGuest_other s here] at read
      exact h.copyBefore o owns g' other r read
  · by_cases here : g' = g
    · subst g'
      rw [State.setGuest_self] at read
      rcases readAt r read with old | ⟨small, -⟩
      · exact h.readAt g r old
      · exact small
    · rw [State.setGuest_other s here] at read
      exact h.readAt g' r read
  · obtain ⟨value, none_exclusive⟩ := h.carried c member at_last
    refine ⟨value, fun g' attached state => ?_⟩
    by_cases here : g' = g
    · subst g'
      rw [State.setGuest_self] at attached state
      obtain ⟨-, -, none_out⟩ := exclusive attached state
      have there : c ∈ carriers s := member
      rw [List.isEmpty_iff.mp none_out] at there
      cases there
    · rw [State.setGuest_other s here] at attached state
      exact none_exclusive g' attached state
  · rcases h.away o owns with home | ⟨attached, state⟩ | out
    · exact Or.inl home
    · refine Or.inr (Or.inl ?_)
      by_cases here : o = g
      · subst o
        rw [State.setGuest_self]
        exact kept attached state
      · rw [State.setGuest_other s here]
        exact ⟨attached, state⟩
    · exact Or.inr (Or.inr out)

/-- A flush or a bomb takes the page from its owner, with what was written last. -/
theorem Inv.taken {s : State} {o : ℕ} {x : Guest} (h : Inv s)
    (attached : (s.guests o).attached = true) (state : (s.guests o).state = .exclusive)
    (copy : x.copy = (s.guests o).copy) (readAt : x.readAt = (s.guests o).readAt)
    (gone : x.attached = true → x.state ≠ .exclusive)
    {faults : List Fault} {updates : List Update}
    (fewer : ∀ p ∈ pages { s with faults := faults, updates := updates }, p ∈ pages s)
    (out : ((s.guests o).copy, s.grants.length) ∈
      carriers { s with faults := faults, updates := updates })
    (others : ∀ c ∈ carriers { s with faults := faults, updates := updates },
      c ∈ carriers s ∨ c = ((s.guests o).copy, s.grants.length)) :
    Inv { s.setGuest o x with faults := faults, updates := updates } := by
  obtain ⟨owns, read⟩ := h.exclusive o attached state
  have latest := h.owner o owns attached read
  have none_exclusive : ∀ g, ((s.setGuest o x).guests g).attached = true →
      ((s.setGuest o x).guests g).state ≠ .exclusive := by
    intro g attached_g state_g
    by_cases here : g = o
    · subst g
      rw [State.setGuest_self] at attached_g state_g
      exact gone attached_g state_g
    · rw [State.setGuest_other s here] at attached_g state_g
      exact here (owns_unique (h.exclusive g attached_g state_g).1 owns)
  have copies : ∀ g, ((s.setGuest o x).guests g).copy = (s.guests g).copy ∧
      ((s.setGuest o x).guests g).readAt = (s.guests g).readAt ∧
      (((s.setGuest o x).guests g).attached = true → (s.guests g).attached = true) := by
    intro g
    by_cases here : g = o
    · subst g
      rw [State.setGuest_self]
      exact ⟨copy, readAt, fun _ => attached⟩
    · rw [State.setGuest_other s here]
      exact ⟨rfl, rfl, id⟩
  refine ⟨fun g attached_g state_g => absurd state_g (none_exclusive g attached_g),
    fun g owns_g attached_g read_g => ?_, fun g attached_g read_g => ?_, h.granted,
    fun p owns_p g other r read_g => ?_, fun p owns_p q member => h.pageBefore p owns_p q
      (fewer q member), fun g r read_g => ?_, fun p member => h.pageAt p (fewer p member),
    fun c member _ => ⟨?_, none_exclusive⟩, h.home, fun p _ => Or.inr (Or.inr ⟨_, out, rfl⟩)⟩
  · obtain ⟨same, same_read, back⟩ := copies g
    exact same.trans (h.owner g owns_g (back attached_g) (same_read ▸ read_g))
  · obtain ⟨same, same_read, back⟩ := copies g
    obtain ⟨r, there, all⟩ := read_g
    exact same.trans (h.fresh g (back attached_g) ⟨r, same_read ▸ there, all⟩)
  · exact h.copyBefore p owns_p g other r ((copies g).2.1 ▸ read_g)
  · exact h.readAt g r ((copies g).2.1 ▸ read_g)
  · rename_i at_last
    rcases others c member with old | rfl
    · exact (h.carried c old at_last).1
    · exact latest

theorem flush_inv {s : State} {k : ℕ} {f : Fault} (h : Inv s) (found : s.faults[k]? = some f)
    (empty : f.stage.data = none) (owner : ℕ) : Inv (s.flush k f owner) := by
  unfold State.flush
  dsimp only
  split
  · rename_i holds
    refine h.taken (x := { s.guests owner with state := .invalid }) holds.1 holds.2 rfl rfl nofun
      (fun p member => ?_) ?_ (fun c member => ?_)
    · rcases pages_set member with old | new
      · exact old
      · cases new
    · exact mem_carriers.mpr (Or.inl ⟨_, mem_set_self found, rfl⟩)
    · rcases carriers_set member with old | new
      · exact Or.inl old
      · exact Or.inr (Option.some.inj new).symm
  · exact h.move found empty rfl rfl

theorem leave_inv {s : State} (h : Inv s) (g : ℕ) {packed : Bool}
    (attached : (s.guests g).attached = true)
    (met : (s.guests g).state = .exclusive → packed = true) : Inv (s.leave g packed) := by
  unfold State.leave
  dsimp only
  by_cases state : (s.guests g).state = .exclusive
  · rw [if_pos ⟨state, met state⟩]
    refine h.taken (x := { s.guests g with attached := false }) attached state rfl rfl nofun
      (fun _ member => member) ?_ (fun c member => ?_)
    · exact mem_carriers.mpr (Or.inr ⟨_, List.mem_append_right _ (List.mem_singleton_self _), rfl,
        rfl⟩)
    · rcases mem_carriers.mp member with fault | ⟨u, there, sent, rfl⟩
      · exact Or.inl (mem_carriers.mpr (Or.inl fault))
      · rcases List.mem_append.mp there with old | new
        · exact Or.inl (mem_carriers.mpr (Or.inr ⟨u, old, sent, rfl⟩))
        · rw [List.mem_singleton.mp new]
          exact Or.inr rfl
  · rw [if_neg fun both => state both.1]
    exact h.withGuest (x := { s.guests g with attached := false }) nofun nofun
      (fun r read => Or.inl read) (fun _ exclusive => absurd exclusive state)

theorem attach_inv {s : State} (h : Inv s) {g : ℕ} (away : (s.guests g).attached = false)
    (frame : Page) {state : PageState} (met : state ≠ .exclusive) :
    Inv (s.attach g frame state) := by
  refine h.withGuest (fun _ exclusive => absurd exclusive met) (fun _ r read => ?_)
    (fun r read => ?_) (fun attached _ => ?_)
  · cases read
  · cases read
  · rw [away] at attached
    cases attached

/-- A page that nobody can have changed since it was read. -/
theorem nobody_owns {s : State} (h : Inv s) {p : Page × ℕ} (member : p ∈ pages s)
    (at_last : p.2 = s.grants.length) : ∀ o, ¬s.Owns o :=
  fun o owns => absurd at_last (Nat.ne_of_lt (h.pageBefore o owns p member))

section Guests
variable {s : State} {k : ℕ} {f : Fault}

theorem fill_inv (h : Inv s) (found : s.faults[k]? = some f) {page : Page} {readAt : ℕ}
    (replied : f.stage = .replied page readAt) (met : readAt = s.grants.length) :
    Inv (s.fill k f page readAt) := by
  have empty : f.stage.data = none := by rw [replied]; rfl
  have member : (page, readAt) ∈ pages s :=
    mem_pages.mpr ⟨f, List.mem_of_getElem? found, by rw [replied]; rfl⟩
  have nobody := nobody_owns h member met
  obtain ⟨small, last⟩ := h.pageAt _ member
  unfold State.fill
  dsimp only
  split
  · rename_i attached
    refine (h.withGuest (x := { s.guests f.guest with copy := page, readAt := some readAt })
      (fun _ state => ?_) (fun _ _ _ => Or.inl (last met)) (fun r read => ?_)
      (fun attached state => ⟨attached, state⟩)).move found empty rfl rfl
    · exact absurd (h.exclusive f.guest attached state).1 (nobody f.guest)
    · cases read
      exact Or.inr ⟨small, nobody⟩
  · exact h.move found empty rfl rfl

theorem flushZap_inv (h : Inv s) (found : s.faults[k]? = some f) {owner : ℕ} {data : Page}
    {madeAt : ℕ} (copied : f.stage = .copied owner data madeAt) (zapped : Bool) :
    Inv (s.flushZap k f owner data madeAt zapped) := by
  have left := h.alike (alike_pte s owner (if zapped then .absent else (s.guests owner).pte))
  exact left.alike (alike_set found (Or.inl rfl) (by rw [copied]; rfl))

theorem interrupt_inv (h : Inv s) (found : s.faults[k]? = some f) :
    Inv (s.interrupt k f none) :=
  h.alike (alike_set found (Or.inr rfl) rfl)

theorem insert_inv (h : Inv s) (found : s.faults[k]? = some f) (empty : f.stage.data = none)
    (trap : Bool) : Inv (s.insert k f trap) := by
  have entered := h.alike (alike_pte s f.guest (if (s.guests f.guest).pte = .absent then
    (if trap then .readOnly else .writable) else (s.guests f.guest).pte))
  exact entered.move found empty (by split <;> rfl) (by split <;> rfl)

theorem note_inv (h : Inv s) (found : s.faults[k]? = some f) (empty : f.stage.data = none)
    (met : (s.guests f.guest).attached = true → (s.guests f.guest).state ≠ .exclusive) :
    Inv (s.note k f) := by
  unfold State.note State.setState
  split
  · rename_i attached
    have noted := h.alike (alike_setGuest (g := f.guest)
      (x := { s.guests f.guest with state := .shared })
      ⟨rfl, rfl, rfl, nofun, fun state => absurd state (met attached)⟩)
    exact noted.move found empty rfl rfl
  · exact h.move found empty rfl rfl

theorem upgrade_inv (h : Inv s) (k : ℕ) (a : Acquire)
    (met : (s.guests a.guest).attached = true →
      s.Owns a.guest ∧ (carriers s).isEmpty = true ∧ Fresh s a.guest) :
    Inv (s.upgrade k a) := by
  unfold State.upgrade State.setState
  split
  · rename_i attached
    obtain ⟨owns, none_out, r, read, all⟩ := met attached
    have upgraded := h.withGuest (g := a.guest)
      (x := { s.guests a.guest with state := .exclusive })
      (fun _ _ => ⟨owns, Option.isSome_iff_exists.mpr ⟨r, read⟩, none_out⟩)
      (fun _ r there => Or.inr ⟨attached, rfl, there⟩) (fun r there => Or.inl there)
      (fun attached _ => ⟨attached, rfl⟩)
    exact upgraded.alike (alike_queues _ _ _)
  · exact h.alike (alike_queues _ _ _)

theorem makeWritable_inv (h : Inv s) (k : ℕ) (a : Acquire) : Inv (s.makeWritable k a) := by
  have entered := h.alike (alike_pte s a.guest
    (if (s.guests a.guest).pte = .readOnly then .writable else (s.guests a.guest).pte))
  exact entered.alike (alike_queues _ _ _)

theorem invalidate_inv (h : Inv s) (k : ℕ) (v : Invalidate)
    (met : ∀ e ∈ s.dir, e.state = .exclusive → s.node e.owner = v.node → e.owner = v.acquirer) :
    Inv (s.invalidate k v) := by
  have struck : Alike s { s with
      guests := fun g =>
        if s.Strikes v g then { s.guests g with state := .invalid } else s.guests g } := by
    refine alike_guests fun g => ?_
    split
    · rename_i hit
      obtain ⟨attached, here, other⟩ := hit
      refine ⟨rfl, rfl, rfl, nofun, fun state => ?_⟩
      obtain ⟨⟨e, there, exclusive, rfl⟩, -⟩ := h.exclusive g attached state
      exact absurd (met e there exclusive here) other
    · exact Guest.Alike.refl _
  exact (h.alike struck).alike (alike_queues _ _ _)

theorem invalidateZap_inv (h : Inv s) (k : ℕ) (v : Invalidate) (zapped : ℕ → Bool) :
    Inv (s.invalidateZap k v zapped) := by
  have left : Alike s { s with
      guests := fun g => if s.Strikes v g ∧ zapped g = true then { s.guests g with pte := .absent }
        else s.guests g } := by
    refine alike_guests fun g => ?_
    split
    · exact ⟨rfl, rfl, rfl, Iff.rfl⟩
    · exact Guest.Alike.refl _
  exact (h.alike left).alike (alike_queues _ _ _)

/-- Nobody but the owner has a copy that is good, and no page on its way has the store. -/
theorem store_inv (h : Inv s) {g : ℕ} (attached : (s.guests g).attached = true)
    (state : (s.guests g).state = .exclusive) (off : Fin pageSize) (byte : BitVec 8) :
    Inv (s.store g off byte) := by
  obtain ⟨owns, read⟩ := h.exclusive g attached state
  obtain ⟨rest, history⟩ := h.granted g owns
  have latest := h.owner g owns attached read
  have same : ∀ g', g' ≠ g → (s.store g off byte).guests g' = s.guests g' :=
    fun g' other => State.setGuest_other s other _
  have here : (s.store g off byte).guests g =
      { s.guests g with copy := Function.update (s.guests g).copy off byte } :=
    State.setGuest_self s g _
  have own : ((s.store g off byte).guests g).copy = (s.store g off byte).latest := by
    rw [here, latest]
    rfl
  have not_fresh : ∀ g', g' ≠ g → ¬Fresh s g' := by
    rintro g' other ⟨r, there, all⟩
    have before := h.copyBefore g owns g' other r there
    refine other (all g ?_).symm
    obtain ⟨n, more⟩ := Nat.exists_eq_add_of_lt before
    rw [more, history, Nat.add_assoc, Nat.add_sub_cancel_left, List.take_succ_cons]
    exact List.mem_cons_self
  refine ⟨fun g' attached' state' => ?_, fun g' owns' attached' read' => ?_,
    fun g' attached' fresh => ?_, h.granted, fun o owns' g' other r there => ?_, h.pageBefore,
    fun g' r there => ?_, fun p member => ?_, fun c member at_last => ?_, fun nobody => ?_,
    fun o owns' => ?_⟩
  · by_cases me : g' = g
    · subst g'
      rw [here]
      exact ⟨owns, read⟩
    · rw [same g' me] at attached' state' ⊢
      exact h.exclusive g' attached' state'
  · obtain rfl : g' = g := owns_unique (s := s) owns' owns
    exact own
  · by_cases me : g' = g
    · subst g'
      exact own
    · obtain ⟨r, there, all⟩ := fresh
      rw [same g' me] at there
      exact absurd ⟨r, there, all⟩ (not_fresh g' me)
  · by_cases me : g' = g
    · subst g'
      rw [here] at there
      exact h.copyBefore o owns' g other r there
    · rw [same g' me] at there
      exact h.copyBefore o owns' g' other r there
  · by_cases me : g' = g
    · subst g'
      rw [here] at there
      exact h.readAt g r there
    · rw [same g' me] at there
      exact h.readAt g' r there
  · have before := h.pageBefore g owns p member
    exact ⟨Nat.le_of_lt before, fun at_last => absurd at_last (Nat.ne_of_lt before)⟩
  · exact absurd state ((h.carried c member at_last).2 g attached)
  · exact absurd owns (nobody g)
  · obtain rfl : o = g := owns_unique (s := s) owns' owns
    rw [here]
    exact Or.inr (Or.inl ⟨attached, state⟩)

end Guests

/-! ### Runs -/

theorem FaultStage.data_none {stage : FaultStage} (early : stage.rank ≠ 2) (late : stage.rank ≠ 3) :
    stage.data = none := by
  cases stage with
  | copied owner data madeAt => exact absurd rfl early
  | answered data => exact absurd rfl late
  | asked | flushing owner | written | ready | read page readAt | replied page readAt | filled
  | inserted | done => rfl

theorem next_inv {s : State} (h : Inv s) (e : Event) (on : enabled s e) (met : Met s e) :
    Inv (next s e) := by
  have empty : ∀ {f : Fault} {n : ℕ}, f.stage.rank = n → n ≠ 2 → n ≠ 3 → f.stage.data = none := by
    rintro f n rfl early late
    exact FaultStage.data_none early late
  cases e with
  | fault g =>
    refine h.alike ⟨fun g => Guest.Alike.refl _, fun _ => Iff.rfl, rfl, rfl, rfl,
      fun p member => ?_, fun c => ?_⟩
    · simpa [next, pages, FaultStage.page] using member
    · simp [next, carriers, FaultStage.data]
  | look k route =>
    obtain ⟨f, found, rank⟩ := on
    simp only [next, Option.mem_def.mp found]
    exact look_inv h found (empty rank (by decide) (by decide)) route
  | flush k =>
    obtain ⟨f, found, rank⟩ := on
    simp only [next, Option.mem_def.mp found]
    split
    · exact flush_inv h found (empty rank (by decide) (by decide)) _
    · exact h
  | flushZap k zapped =>
    obtain ⟨f, found, -⟩ := on
    simp only [next, Option.mem_def.mp found]
    split
    · rename_i copied
      exact flushZap_inv h found copied zapped
    · exact h
  | writeRam k ok =>
    obtain ⟨f, found, -⟩ := on
    simp only [next, Option.mem_def.mp found]
    split
    · rename_i data answered
      refine writeRam_inv h found answered fun d there => met f found d ?_
      rw [answered]
      exact there
    · exact h
  | downgrade k =>
    obtain ⟨f, found, rank⟩ := on
    simp only [next, Option.mem_def.mp found]
    exact downgrade_inv h found (empty rank (by decide) (by decide)) met
  | pump k =>
    obtain ⟨f, found, -⟩ := on
    simp only [next, Option.mem_def.mp found]
    exact pump_inv h met
  | record k room =>
    obtain ⟨f, found, -⟩ := on
    simp only [next, Option.mem_def.mp found]
    split
    · rename_i page readAt read
      exact record_inv h found read room
    · exact h
  | fill k =>
    obtain ⟨f, found, -⟩ := on
    simp only [next, Option.mem_def.mp found]
    split
    · rename_i page readAt replied
      refine fill_inv h found replied (met f found (page, readAt) ?_)
      rw [replied]
      rfl
    · exact h
  | interrupt k stale =>
    obtain ⟨f, found, -⟩ := on
    simp only [next, Option.mem_def.mp found]
    rw [Option.isNone_iff_eq_none.mp met]
    exact interrupt_inv h found
  | insert k trap =>
    obtain ⟨f, found, rank⟩ := on
    simp only [next, Option.mem_def.mp found]
    exact insert_inv h found (empty rank (by decide) (by decide)) trap
  | note k =>
    obtain ⟨f, found, rank⟩ := on
    simp only [next, Option.mem_def.mp found]
    exact note_inv h found (empty rank (by decide) (by decide)) (met f found)
  | acquire g => exact h.alike (alike_queues s _ _)
  | grant k link =>
    obtain ⟨a, found, -⟩ := on
    simp only [next, Option.mem_def.mp found]
    exact grant_inv h link (met a found)
  | upgrade k =>
    obtain ⟨a, found, -⟩ := on
    simp only [next, Option.mem_def.mp found]
    exact upgrade_inv h k a (met a found)
  | retry k =>
    obtain ⟨a, found, -⟩ := on
    simp only [next, Option.mem_def.mp found]
    exact h.alike (alike_queues s _ _)
  | makeWritable k =>
    obtain ⟨a, found, -⟩ := on
    simp only [next, Option.mem_def.mp found]
    exact makeWritable_inv h k a
  | store g off byte => exact store_inv h met.1 met.2 off byte
  | invalidate k =>
    obtain ⟨v, found, -⟩ := on
    simp only [next, Option.mem_def.mp found]
    exact invalidate_inv h k v (met v found)
  | invalidateZap k zapped =>
    obtain ⟨v, found, -⟩ := on
    simp only [next, Option.mem_def.mp found]
    exact invalidateZap_inv h k v zapped
  | leave g packed => exact leave_inv h g on met
  | unmap g => exact h.alike (alike_pte s g .absent)
  | attach g frame state => exact attach_inv h on.1 frame met
  | applyUpdate k ok =>
    obtain ⟨u, found, sent⟩ := on
    obtain ⟨rfl, at_last⟩ := met u found
    simp only [next, Option.mem_def.mp found]
    exact applyUpdate_inv h found sent at_last
  | cleanup k =>
    obtain ⟨u, found, stored⟩ := on
    simp only [next, Option.mem_def.mp found]
    exact cleanup_inv h found stored (met u found)
  | register => exact register_inv h on
  | remove => exact remove_inv h met

theorem Inv.right {s : State} (h : Inv s) (e : Event) (on : enabled s e) (met : Met s e) :
    Right s e := by
  cases e with
  | fill k =>
    intro f found attached
    obtain ⟨f', found', rank, -⟩ := on
    obtain rfl : f = f' := Option.some.inj (found.symm.trans found')
    cases replied : f.stage with
    | replied page readAt =>
      have at_last : readAt = s.grants.length := by
        refine met f found (page, readAt) ?_
        rw [replied]
        rfl
      have member : (page, readAt) ∈ pages s := by
        refine mem_pages.mpr ⟨f, List.mem_of_getElem? found, ?_⟩
        rw [replied]
        rfl
      simp only [next, Option.mem_def.mp found, replied, State.fill, if_pos attached]
      exact (congrArg Guest.copy (State.setGuest_self s f.guest _)).trans
        ((h.pageAt _ member).2 at_last)
    | asked | flushing owner | copied owner data madeAt | answered data | written | ready
    | read page readAt | filled | inserted | done =>
      rw [replied] at rank
      cases rank
  | upgrade k =>
    intro a found attached
    exact h.fresh a.guest attached (met a found attached).2.2
  | grant k link =>
    intro a found there other
    obtain ⟨e, entry⟩ := Option.isSome_iff_exists.mp there
    obtain ⟨same_owner, -, fresh⟩ := met a found e entry
    refine ⟨h.home ?_, fun attached => h.fresh a.guest attached fresh⟩
    rintro g ⟨e', entry', exclusive, rfl⟩
    obtain rfl : e = e' := Option.some.inj (entry.symm.trans entry')
    exact other ⟨e, entry, exclusive, same_owner exclusive⟩
  | fault | look | flush | flushZap | writeRam | downgrade | pump | record | interrupt | insert
  | note | acquire | retry | makeWritable | store | invalidate | invalidateZap | leave | unmap
  | attach | applyUpdate | cleanup | register | remove => trivial

/-- No run that meets the conditions hands over the page without its last write. -/
theorem handovers_keep_writes (node : ℕ → ℕ) (ram : Page) (frames : ℕ → Page) {es : List Event}
    (met : machine.Follows Met (boot node ram frames) es) :
    machine.Follows Right (boot node ram frames) es :=
  met.entails (fun _ e h on fits => next_inv h e on fits) (fun _ e h on fits => h.right e on fits)
    (boot_inv node ram frames)

/-- The first guest writes, the second gets the page by a flush and writes, and the first gets it
back after the bomb of the second. -/
def keptRun : List Event :=
  [.fault 1, .look 0 false, .pump 0, .record 0 true, .fill 0, .insert 0 true, .note 0,
    .acquire 1, .grant 0 fun _ => true, .upgrade 0, .makeWritable 0, .store 1 ⟨1207, by decide⟩ 7,
    .invalidate 0, .invalidateZap 0 fun _ => true,
    .fault 2, .look 1 true, .flush 1, .flushZap 1 true, .writeRam 1 true, .downgrade 1, .pump 1,
    .record 1 true, .fill 1, .insert 1 true, .note 1,
    .acquire 2, .grant 1 fun _ => true, .upgrade 1, .makeWritable 1, .store 2 ⟨2310, by decide⟩ 9,
    .leave 2 true, .unmap 2, .applyUpdate 0 true, .cleanup 0,
    .fault 1, .look 2 false, .pump 2, .record 2 true, .fill 2]

theorem handovers_keep_writes_kept :
    machine.Follows Met (boot id (fun _ => 0) fun _ _ => 0) keptRun ∧
      machine.Follows Right (boot id (fun _ => 0) fun _ _ => 0) keptRun := by
  have met : machine.Follows Met (boot id (fun _ => 0) fun _ _ => 0) keptRun := by decide +kernel
  exact ⟨met, handovers_keep_writes id (fun _ => 0) (fun _ _ => 0) met⟩

/-- Both guests have read the page and ask for the lock. The second gets it while the first has
written and has the page EXCLUSIVE. -/
def lostRun : List Event :=
  [.fault 1, .look 0 false, .pump 0, .record 0 true, .fill 0, .insert 0 true, .note 0,
    .fault 2, .look 1 false, .pump 1, .record 1 true, .fill 1, .insert 1 true, .note 1,
    .acquire 1, .acquire 2, .grant 0 fun _ => true, .upgrade 0, .makeWritable 0,
    .store 1 ⟨1207, by decide⟩ 7, .grant 1 fun _ => true]

theorem second_lock_loses_write :
    machine.Runs (boot id (fun _ => 0) fun _ _ => 0) (lostRun ++ [.upgrade 1]) ∧
      ¬machine.Follows Right (boot id (fun _ => 0) fun _ _ => 0) (lostRun ++ [.upgrade 1]) := by
  refine ⟨by decide +kernel, fun right => ?_⟩
  obtain ⟨-, last⟩ := Machine.follows_append.mp right
  have handed := last.2.1 ⟨2, true, .replied⟩ (by decide +kernel) (by decide +kernel)
  have stored := congrFun handed ⟨1207, by decide⟩
  revert stored
  decide +kernel

end MattX.PageHandovers
