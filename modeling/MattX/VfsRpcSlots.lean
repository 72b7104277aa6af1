import MattX.VfsRpc

set_option autoImplicit false

/-!
# Who has which slot

Every slot in use belongs to one call that is not over, and the messages with
that call's id are its own. Nothing here depends on how a wait ends.
-/
namespace MattX.VfsRpcSlots
open VfsRpc

theorem pour_of_kind {b : Body} (h : b.kind.setsDataBuf = false) (buf : Bytes) :
    b.pour buf = buf := by
  cases b <;> first | rfl | cases h

theorem list_of_kind {b : Body} (h : b.kind ≠ .readdir) (entries : List Dirent) :
    b.list entries = entries := by
  cases b <;> first | rfl | exact absurd rfl h

theorem fill_reqId (b : Body) (c : Ctx) : (b.fill c).reqId = c.reqId := by
  cases b <;> simp only [Body.fill] <;> try split <;> rfl

theorem fill_inUse (b : Body) (c : Ctx) : (b.fill c).inUse = c.inUse := by
  cases b <;> simp only [Body.fill] <;> try split <;> rfl

theorem fill_dataBuf (b : Body) (c : Ctx) : (b.fill c).dataBuf = c.dataBuf := by
  cases b <;> simp only [Body.fill] <;> try split <;> rfl

theorem fill_dirents (b : Body) (c : Ctx) : (b.fill c).dirents = c.dirents := by
  cases b <;> simp only [Body.fill] <;> try split <;> rfl

/-- The slot is the caller's: its id, and its buffers where the call has any. -/
structure Holds (t : ℕ) (c : Caller) (x : Ctx) : Prop where
  inUse : x.inUse = true
  reqId : x.reqId = c.reqId
  dataBuf : c.kind.setsDataBuf = true → x.dataBuf = some t
  dirents : c.kind = .readdir → x.dirents = some t

/-- Each slot in use is one call's, and what is under way with the id of a call is of its kind. -/
structure Slotted (s : State) : Prop where
  single : ∀ i j, (s.registry i).inUse = true → (s.registry j).inUse = true →
    (s.registry i).reqId = (s.registry j).reqId → i = j
  apart : ∀ t u, (s.callers t).phase.Active → (s.callers u).phase.Active →
    (s.callers t).slot = (s.callers u).slot → t = u
  owned : ∀ i, (s.registry i).inUse = true →
    ∃ t, (s.callers t).phase.Active ∧ (s.callers t).slot = i
  holds : ∀ t, (s.callers t).phase.Active →
    Holds t (s.callers t) (s.registry (s.callers t).slot)
  asked : ∀ t, (s.callers t).phase.Active → ∀ q ∈ s.requests,
    q.reqId = (s.callers t).reqId → q.kind = (s.callers t).kind
  served : ∀ t, (s.callers t).phase.Active → ∀ r ∈ s.replies,
    r.reqId = (s.callers t).reqId → r.body.kind = (s.callers t).kind ∧ r.body.WellFormed

theorem slotted_boot : Slotted boot where
  single _ _ h := by cases h
  apart _ _ h := h.elim
  owned _ h := by cases h
  holds _ h := h.elim
  asked _ h := h.elim
  served _ h := h.elim

/-- Two calls that are not over never carry the same id. -/
theorem Slotted.ids_apart {s : State} (h : Slotted s) {t u : ℕ}
    (ht : (s.callers t).phase.Active) (hu : (s.callers u).phase.Active)
    (id : (s.callers t).reqId = (s.callers u).reqId) : t = u := by
  have holdsT := h.holds t ht
  have holdsU := h.holds u hu
  have slot := h.single _ _ holdsT.inUse holdsU.inUse
    (holdsT.reqId.trans (id.trans holdsU.reqId.symm))
  exact h.apart t u ht hu slot

/-! ### Steps that move one call along -/

section Phases
variable (s : State) (t : ℕ) (p : Phase) (u : ℕ)

@[simp] theorem setPhase_registry : (setPhase s t p).registry = s.registry := rfl

@[simp] theorem setPhase_requests : (setPhase s t p).requests = s.requests := rfl

@[simp] theorem setPhase_replies : (setPhase s t p).replies = s.replies := rfl

theorem setPhase_callers : (setPhase s t p).callers u =
    { s.callers u with phase := if u = t then p else (s.callers u).phase } := by
  by_cases h : u = t
  · subst u
    simp [setPhase]
  · simp [setPhase, h]

theorem setPhase_active (active : (s.callers t).phase.Active) (stays : p.Active) :
    ((setPhase s t p).callers u).phase.Active ↔ (s.callers u).phase.Active := by
  rw [setPhase_callers]
  by_cases h : u = t
  · subst u
    simp [active, stays]
  · simp [h]

end Phases

theorem Slotted.rephase {s : State} (h : Slotted s) {t : ℕ} {p : Phase}
    (active : (s.callers t).phase.Active) (stays : p.Active) : Slotted (setPhase s t p) := by
  have same (u : ℕ) := setPhase_active s t p u active stays
  constructor
  case single => exact h.single
  case apart =>
    intro a b ha hb slot
    simp only [setPhase_callers] at slot
    exact h.apart a b ((same a).mp ha) ((same b).mp hb) slot
  case owned =>
    intro i hi
    obtain ⟨u, hu, slot⟩ := h.owned i hi
    exact ⟨u, (same u).mpr hu, by simpa only [setPhase_callers] using slot⟩
  case holds =>
    intro u hu
    have held := h.holds u ((same u).mp hu)
    simp only [setPhase_callers]
    exact ⟨held.inUse, held.reqId, held.dataBuf, held.dirents⟩
  case asked =>
    intro u hu q hq id
    simp only [setPhase_callers] at id ⊢
    exact h.asked u ((same u).mp hu) q hq id
  case served =>
    intro u hu r hr id
    simp only [setPhase_callers] at id ⊢
    exact h.served u ((same u).mp hu) r hr id

theorem Slotted.send {s : State} (h : Slotted s) {t : ℕ}
    (start : (s.callers t).phase = .allocated) (sent : Bool) : Slotted (VfsRpc.send s t sent) := by
  have active : (s.callers t).phase.Active := by rw [start]; trivial
  have waits : Slotted (setPhase s t .waiting) := h.rephase active trivial
  cases sent with
  | false => exact waits
  | true =>
    refine { waits with asked := fun u hu q hq id => ?_ }
    rcases List.mem_append.mp hq with hq | hq
    · exact waits.asked u hu q hq id
    · obtain rfl := List.mem_singleton.mp hq
      have active' := (setPhase_active s t .waiting t active trivial).mpr active
      have sameId : ((setPhase s t .waiting).callers t).reqId = (s.callers t).reqId := by
        simp only [setPhase_callers]
      obtain rfl := waits.ids_apart active' hu (sameId.trans id)
      change (s.callers t).kind = ((setPhase s t .waiting).callers t).kind
      simp only [setPhase_callers]

/-! ### Replies -/

theorem Slotted.serve {s : State} (h : Slotted s) {q : Request} {b : Body} (hq : q ∈ s.requests)
    (kind : b.kind = q.kind) (sized : b.WellFormed) : Slotted (VfsRpc.serve s q b) :=
  { h with
    asked := fun t ht q' hq' id => h.asked t ht q' (List.mem_of_mem_erase hq') id
    served := fun t ht r hr id => by
      rcases List.mem_append.mp hr with hr | hr
      · exact h.served t ht r hr id
      · obtain rfl := List.mem_singleton.mp hr
        exact ⟨kind.trans (h.asked t ht q hq id), sized⟩ }

/-- The owner of the slot a reply goes to is the caller that waits for it. -/
theorem Slotted.addressee {s : State} (h : Slotted s) {r : Reply}
    {i : Fin maxVfsRpc} (found : pendingSlot s r.reqId = some i) :
    ∃ t, (s.callers t).phase.Active ∧ (s.callers t).slot = i ∧ r.reqId = (s.callers t).reqId := by
  have hit := List.find?_some found
  simp only [Bool.and_eq_true, beq_iff_eq] at hit
  obtain ⟨t, ht, slot⟩ := h.owned i hit.1
  have held := h.holds t ht
  rw [slot] at held
  exact ⟨t, ht, slot, hit.2.symm.trans held.reqId⟩

theorem pourInto_owner {b : Body} {p : Option ℕ} {callers : ℕ → Caller} {t : ℕ}
    (own : b.kind.setsDataBuf = true → p = some t) :
    pourInto b p callers =
      Function.update callers t { callers t with buf := b.pour (callers t).buf } := by
  by_cases sets : b.kind.setsDataBuf = true
  · rw [own sets]
    rfl
  · have stays (buf : Bytes) : b.pour buf = buf := pour_of_kind (by simpa using sets) buf
    cases p <;> simp [pourInto, stays]

theorem listInto_owner {b : Body} {p : Option ℕ} {callers : ℕ → Caller} {t : ℕ}
    (own : b.kind = .readdir → p = some t) :
    listInto b p callers =
      Function.update callers t { callers t with entries := b.list (callers t).entries } := by
  by_cases lists : b.kind = .readdir
  · rw [own lists]
    rfl
  · have stays (entries : List Dirent) : b.list entries = entries := list_of_kind lists entries
    cases p <;> simp [listInto, stays]

/-- A reply `b` written to the slot and the buffers of caller `t`. -/
def deposit (s : State) (t : ℕ) (b : Body) : State :=
  let c := s.callers t
  { s with
    registry := Function.update s.registry c.slot (b.fill (s.registry c.slot))
    callers := Function.update s.callers t { c with buf := b.pour c.buf, entries := b.list c.entries } }

theorem Slotted.handleReply_eq {s : State} (h : Slotted s) {r : Reply} (hr : r ∈ s.replies) :
    handleReply s r = s ∨ ∃ t, (s.callers t).phase.Active ∧ r.reqId = (s.callers t).reqId ∧
      handleReply s r = deposit s t r.body := by
  cases found : pendingSlot s r.reqId with
  | none => exact Or.inl (by simp only [handleReply, found])
  | some i =>
    obtain ⟨t, ht, slot, id⟩ := h.addressee found
    have held := h.holds t ht
    have kind := (h.served t ht r hr id).1
    subst slot
    refine Or.inr ⟨t, ht, id, ?_⟩
    simp only [handleReply, found, deposit]
    rw [pourInto_owner (fun sets => held.dataBuf (kind ▸ sets)),
      listInto_owner (fun lists => held.dirents (kind ▸ lists))]
    simp

section Deposit
variable (s : State) (t : ℕ) (b : Body)

theorem deposit_callers (u : ℕ) : (deposit s t b).callers u =
    { s.callers u with
      buf := if u = t then b.pour (s.callers u).buf else (s.callers u).buf
      entries := if u = t then b.list (s.callers u).entries else (s.callers u).entries } := by
  by_cases h : u = t
  · subst u
    simp [deposit]
  · simp [deposit, h]

theorem deposit_registry (i : Fin maxVfsRpc) : (deposit s t b).registry i =
    if i = (s.callers t).slot then b.fill (s.registry i) else s.registry i := by
  by_cases h : i = (s.callers t).slot
  · subst i
    simp [deposit]
  · simp [deposit, h]

theorem deposit_inUse (i : Fin maxVfsRpc) :
    ((deposit s t b).registry i).inUse = (s.registry i).inUse := by
  rw [deposit_registry]
  split_ifs
  · exact fill_inUse b _
  · rfl

theorem deposit_reqId (i : Fin maxVfsRpc) :
    ((deposit s t b).registry i).reqId = (s.registry i).reqId := by
  rw [deposit_registry]
  split_ifs
  · exact fill_reqId b _
  · rfl

end Deposit

theorem Slotted.deposit {s : State} (h : Slotted s) (t : ℕ) (b : Body) :
    Slotted (VfsRpcSlots.deposit s t b) := by
  constructor
  case single =>
    intro i j hi hj
    simp only [deposit_inUse] at hi hj
    simp only [deposit_reqId]
    exact h.single i j hi hj
  case apart =>
    intro a b ha hb slot
    simp only [deposit_callers] at ha hb slot
    exact h.apart a b ha hb slot
  case owned =>
    intro i hi
    simp only [deposit_inUse] at hi
    simp only [deposit_callers]
    exact h.owned i hi
  case holds =>
    intro u hu
    simp only [deposit_callers] at hu ⊢
    have held := h.holds u hu
    simp only [deposit_registry]
    by_cases slot : (s.callers u).slot = (s.callers t).slot
    · rw [if_pos slot]
      exact ⟨(fill_inUse _ _).trans held.inUse, (fill_reqId _ _).trans held.reqId,
        fun sets => (fill_dataBuf _ _).trans (held.dataBuf sets),
        fun lists => (fill_dirents _ _).trans (held.dirents lists)⟩
    · rw [if_neg slot]
      exact ⟨held.inUse, held.reqId, held.dataBuf, held.dirents⟩
  case asked =>
    intro u hu q hq own
    simp only [deposit_callers] at hu own ⊢
    exact h.asked u hu q hq own
  case served =>
    intro u hu r hr own
    simp only [deposit_callers] at hu own ⊢
    exact h.served u hu r hr own

/-! ### Taking a slot and giving it back -/

section Refused
variable {s : State} {t : ℕ} {c : Caller}

/-- A caller that has no slot and takes none. -/
theorem callers_of_active (ended : ¬ c.phase.Active) {u : ℕ}
    (hu : (Function.update s.callers t c u).phase.Active) :
    u ≠ t ∧ Function.update s.callers t c u = s.callers u := by
  have ne : u ≠ t := by
    rintro rfl
    rw [Function.update_self] at hu
    exact ended hu
  exact ⟨ne, Function.update_of_ne ne _ _⟩

theorem Slotted.refuse (h : Slotted s) (idle : ¬ (s.callers t).phase.Active)
    (ended : ¬ c.phase.Active) : Slotted { s with callers := Function.update s.callers t c } := by
  constructor
  case single => exact h.single
  case apart =>
    intro a b ha hb slot
    simp only [(callers_of_active ended ha).2, (callers_of_active ended hb).2] at ha hb slot
    exact h.apart a b ha hb slot
  case owned =>
    intro i hi
    obtain ⟨u, hu, slot⟩ := h.owned i hi
    have ne : u ≠ t := by rintro rfl; exact idle hu
    have same : Function.update s.callers t c u = s.callers u := Function.update_of_ne ne _ _
    exact ⟨u, by simpa only [same] using hu, by simpa only [same] using slot⟩
  case holds =>
    intro u hu
    simp only [(callers_of_active ended hu).2] at hu ⊢
    exact h.holds u hu
  case asked =>
    intro u hu
    simp only [(callers_of_active ended hu).2] at hu ⊢
    exact h.asked u hu
  case served =>
    intro u hu
    simp only [(callers_of_active ended hu).2] at hu ⊢
    exact h.served u hu

end Refused

/-- Caller `t` on its way with slot `i`. -/
def taken (s : State) (t : ℕ) (i : Fin maxVfsRpc) (k : Kind) (buf : Bytes)
    (entries : List Dirent) : State :=
  { s with
    registry := Function.update s.registry i (claimSlot k t s.nextReqId (s.registry i))
    nextReqId := (s.nextReqId + 1) % 2 ^ 64
    callers := Function.update s.callers t
      { kind := k, reqId := s.nextReqId, slot := i, buf, entries, phase := .allocated } }

section Taken
variable (s : State) (t : ℕ) (i : Fin maxVfsRpc) (k : Kind) (buf : Bytes) (entries : List Dirent)

theorem taken_own : (taken s t i k buf entries).callers t =
    { kind := k, reqId := s.nextReqId, slot := i, buf, entries, phase := .allocated } :=
  Function.update_self ..

theorem taken_other {u : ℕ} (hu : u ≠ t) :
    (taken s t i k buf entries).callers u = s.callers u := Function.update_of_ne hu _ _

theorem taken_claimed : (taken s t i k buf entries).registry i =
    claimSlot k t s.nextReqId (s.registry i) := Function.update_self ..

theorem taken_kept {j : Fin maxVfsRpc} (hj : j ≠ i) :
    (taken s t i k buf entries).registry j = s.registry j := Function.update_of_ne hj _ _

end Taken

/-- A free slot is no caller's. -/
theorem Slotted.busy {s : State} (h : Slotted s) {i : Fin maxVfsRpc}
    (free : (s.registry i).inUse = false) {u : ℕ} (hu : (s.callers u).phase.Active) :
    (s.callers u).slot ≠ i := by
  rintro rfl
  rw [(h.holds u hu).inUse] at free
  cases free

theorem Slotted.take {s : State} (h : Slotted s) {t : ℕ} {i : Fin maxVfsRpc}
    (idle : ¬ (s.callers t).phase.Active) (free : (s.registry i).inUse = false)
    (unasked : ∀ q ∈ s.requests, q.reqId ≠ s.nextReqId)
    (unserved : ∀ r ∈ s.replies, r.reqId ≠ s.nextReqId)
    (unheld : ∀ j, (s.registry j).inUse = true → (s.registry j).reqId ≠ s.nextReqId) (k : Kind)
    (buf : Bytes) (entries : List Dirent) : Slotted (taken s t i k buf entries) := by
  have own := taken_own s t i k buf entries
  have same {u : ℕ} (hu : u ≠ t) := taken_other s t i k buf entries hu
  have claimed := taken_claimed s t i k buf entries
  have kept {j : Fin maxVfsRpc} (hj : j ≠ i) := taken_kept s t i k buf entries hj
  constructor
  case single =>
    intro j l hj hl id
    by_cases ej : j = i <;> by_cases el : l = i
    · exact ej.trans el.symm
    · subst j
      rw [claimed, kept el] at id
      rw [kept el] at hl
      exact absurd id.symm (unheld l hl)
    · subst l
      rw [claimed, kept ej] at id
      rw [kept ej] at hj
      exact absurd id (unheld j hj)
    · rw [kept ej] at hj id
      rw [kept el] at hl id
      exact h.single j l hj hl id
  case apart =>
    intro a b ha hb slot
    by_cases ea : a = t <;> by_cases eb : b = t
    · exact ea.trans eb.symm
    · subst a
      rw [own, same eb] at slot
      rw [same eb] at hb
      exact absurd slot.symm (h.busy free hb)
    · subst b
      rw [own, same ea] at slot
      rw [same ea] at ha
      exact absurd slot (h.busy free ha)
    · rw [same ea] at ha slot
      rw [same eb] at hb slot
      exact h.apart a b ha hb slot
  case owned =>
    intro j hj
    by_cases ej : j = i
    · exact ⟨t, by rw [own]; trivial, by rw [own, ej]⟩
    · rw [kept ej] at hj
      obtain ⟨u, hu, slot⟩ := h.owned j hj
      have ne : u ≠ t := by rintro rfl; exact idle hu
      exact ⟨u, by rw [same ne]; exact hu, by rw [same ne]; exact slot⟩
  case holds =>
    intro u hu
    by_cases eu : u = t
    · subst u
      rw [own, claimed]
      exact ⟨rfl, rfl, fun sets => if_pos sets, fun lists => if_pos lists⟩
    · rw [same eu] at hu ⊢
      rw [kept (h.busy free hu)]
      exact h.holds u hu
  case asked =>
    intro u hu q hq id
    by_cases eu : u = t
    · subst u
      rw [own] at id
      exact absurd id (unasked q hq)
    · rw [same eu] at hu id ⊢
      exact h.asked u hu q hq id
  case served =>
    intro u hu r hr id
    by_cases eu : u = t
    · subst u
      rw [own] at id
      exact absurd id (unserved r hr)
    · rw [same eu] at hu id ⊢
      exact h.served u hu r hr id

section Released
variable (s : State) (t : ℕ) (interrupted : Bool) (seen : Ctx)

theorem release_own : (VfsRpc.release s t interrupted seen).callers t = { s.callers t with
    phase := .returned ((s.callers t).kind.conclude interrupted seen (s.callers t).buf
      (s.callers t).entries) interrupted } := Function.update_self ..

theorem release_other {u : ℕ} (hu : u ≠ t) :
    (VfsRpc.release s t interrupted seen).callers u = s.callers u := Function.update_of_ne hu _ _

theorem release_active {u : ℕ}
    (hu : ((VfsRpc.release s t interrupted seen).callers u).phase.Active) : u ≠ t := by
  rintro rfl
  rw [release_own] at hu
  exact hu

theorem release_freed : (VfsRpc.release s t interrupted seen).registry (s.callers t).slot =
    { s.registry (s.callers t).slot with inUse := false } := Function.update_self ..

theorem release_kept {j : Fin maxVfsRpc} (hj : j ≠ (s.callers t).slot) :
    (VfsRpc.release s t interrupted seen).registry j = s.registry j := Function.update_of_ne hj _ _

theorem release_used {j : Fin maxVfsRpc}
    (hj : ((VfsRpc.release s t interrupted seen).registry j).inUse = true) :
    j ≠ (s.callers t).slot := by
  rintro rfl
  rw [release_freed] at hj
  cases hj

end Released

theorem Slotted.release {s : State} (h : Slotted s) {t : ℕ} (active : (s.callers t).phase.Active)
    (interrupted : Bool) (seen : Ctx) : Slotted (VfsRpc.release s t interrupted seen) := by
  have same {u : ℕ} (hu : u ≠ t) := release_other s t interrupted seen hu
  have kept {j : Fin maxVfsRpc} (hj : j ≠ (s.callers t).slot) := release_kept s t interrupted seen hj
  constructor
  case single =>
    intro j l hj hl id
    have usedJ := release_used s t interrupted seen hj
    have usedL := release_used s t interrupted seen hl
    rw [kept usedJ] at hj id
    rw [kept usedL] at hl id
    exact h.single j l hj hl id
  case apart =>
    intro a b ha hb slot
    have awayA := release_active s t interrupted seen ha
    have awayB := release_active s t interrupted seen hb
    rw [same awayA] at ha slot
    rw [same awayB] at hb slot
    exact h.apart a b ha hb slot
  case owned =>
    intro j hj
    have ne := release_used s t interrupted seen hj
    rw [kept ne] at hj
    obtain ⟨u, hu, slot⟩ := h.owned j hj
    have away : u ≠ t := by rintro rfl; exact ne slot.symm
    exact ⟨u, by rw [same away]; exact hu, by rw [same away]; exact slot⟩
  case holds =>
    intro u hu
    have ne := release_active s t interrupted seen hu
    rw [same ne] at hu ⊢
    rw [kept fun slot => ne (h.apart u t hu active slot)]
    exact h.holds u hu
  case asked =>
    intro u hu
    have ne := release_active s t interrupted seen hu
    rw [same ne] at hu ⊢
    exact h.asked u hu
  case served =>
    intro u hu
    have ne := release_active s t interrupted seen hu
    rw [same ne] at hu ⊢
    exact h.served u hu

end MattX.VfsRpcSlots
