import MattX.VfsRpcSlots

set_option autoImplicit false

namespace MattX.VfsRpcResults
open GuardedRuns VfsRpc VfsRpcSlots

/-- What the call makes of its reply when it sees nothing else. -/
def answer : Body → Outcome
  | .dsmPageFault error data =>
    if error = 0 then { ret := .noPage, data := some data } else { ret := .sigsegv }
  | .writeAcquire error => if error = 0 then { ret := .upgraded } else { ret := .sigbus }
  | .flush error data =>
    if error = 0 then { ret := .status 0, data := some data } else { ret := .status error }
  | .getattr error stat =>
    if error = 0 then { ret := .status 0, stat := some stat } else { ret := .status error }
  | .readdir error newOffset entries =>
    if error = 0 then { ret := .status 0, offset := some newOffset, entries := some entries }
    else { ret := .status error }
  | .open remoteFd error =>
    if error = 0 then { ret := .status 0, remoteFd := some remoteFd } else { ret := .status error }
  | .read n _ data => if 0 < n then { ret := .count n, data := some data } else { ret := .count n }
  | .write n _ => { ret := .count n }
  | .lseek offset error => { ret := .count (if error = 0 then offset else error) }
  | .fsync error => { ret := .status error }
  | .unlink error => { ret := .status error }

/-- The observer keeps the replies that have reached this node. -/
def watchDelivered (d : List Reply) (_ : State) : Event → List Reply
  | .deliver r => r :: d
  | _ => d

def rpcMachine : Machine (State × List Reply) Event := machine.observed watchDelivered

instance (x : State × List Reply) : DecidablePred (rpcMachine.enabled x) :=
  inferInstanceAs (DecidablePred (Enabled x.1))

/-- A call that is over: its outcome is the answer of a reply with its request id, or its wait
ended without one and it fails. -/
def Belongs (d : List Reply) (c : Caller) : Prop :=
  match c.phase with
  | .returned o interrupted =>
    (∃ r ∈ d, r.reqId = c.reqId ∧ r.body.kind = c.kind ∧ o = answer r.body) ∨
      (interrupted = true ∧ o.Failed)
  | .refused o => o.Failed
  | _ => True

def ResultsBelong (x : State × List Reply) : Prop := ∀ t, Belongs x.2 (x.1.callers t)

/-- No message under way and no slot in use carries the id. -/
def Fresh (s : State) (id : ℕ) : Prop :=
  (∀ q ∈ s.requests, q.reqId ≠ id) ∧ (∀ r ∈ s.replies, r.reqId ≠ id) ∧
    ∀ i, (s.registry i).inUse = true → (s.registry i).reqId ≠ id

instance (s : State) (id : ℕ) : Decidable (Fresh s id) := by unfold Fresh; infer_instance

/-- Ids do not come round again while one is about, and a caller reads its slot only after the
reply; the write acquire may also give up, as it looks at what the wait returned. -/
def Awaited (x : State × List Reply) : Event → Prop
  | .allocate .. => Fresh x.1 x.1.nextReqId
  | .collect t interrupted =>
    (x.1.registry (x.1.callers t).slot).done = true ∨
      ((x.1.callers t).kind = .writeAcquire ∧ interrupted = true)
  | _ => True

instance (x : State × List Reply) : DecidablePred (Awaited x) := fun e => by
  induction e using Event.casesOn <;> unfold Awaited <;> infer_instance

/-- An open is answered with descriptor 5; the next one takes the same slot, and a signal ends
its wait while its request is still under way. -/
def staleOpen : List Event :=
  let seen : Ctx := { blankCtx with inUse := true, reqId := 1, remoteFd := 5, done := true }
  [.allocate 0 .open [] [], .send 0 true, .serve ⟨1, .open⟩ (.open 5 0), .deliver ⟨1, .open 5 0⟩,
    .wake 0, .collect 0 false, .release 0 false seen,
    .allocate 1 .open [] [], .send 1 true, .signal 1, .collect 1 true,
    .release 1 true { seen with reqId := 2, done := false }]

theorem interrupted_open_takes_last_fd :
    rpcMachine.Runs (boot, []) staleOpen ∧
      (rpcMachine.after (boot, []) staleOpen).1.requests = [⟨2, .open⟩] ∧
      ((rpcMachine.after (boot, []) staleOpen).1.callers 1).phase =
        .returned { ret := .status 0, remoteFd := some 5 } true ∧
      ¬ ResultsBelong (rpcMachine.after (boot, []) staleOpen) := by
  have returned : ((rpcMachine.after (boot, []) staleOpen).1.callers 1).phase =
      .returned { ret := .status 0, remoteFd := some 5 } true := by decide +kernel
  have noReply : ∀ r ∈ (rpcMachine.after (boot, []) staleOpen).2,
      r.reqId ≠ ((rpcMachine.after (boot, []) staleOpen).1.callers 1).reqId := by decide +kernel
  refine ⟨by decide +kernel, by decide +kernel, returned, ?_⟩
  intro h
  have own := h 1
  simp only [Belongs, returned] at own
  rcases own with ⟨r, hr, same, _⟩ | ⟨_, failed⟩
  · exact noReply r hr same
  · exact absurd failed (by decide)

/-! ### What one reply leaves behind -/

theorem take_memcpy {α : Type} (dst src : List α) {n : ℕ} (h : src.length = n) :
    (memcpy dst src n).take n = src := by
  subst h
  simp [memcpy]

/-- A caller that reads a slot and buffers a reply was copied to concludes that reply's answer. -/
theorem conclude_fill {k : Kind} {b : Body} (kind : b.kind = k) (sized : b.WellFormed)
    (interrupted : Bool) (stays : ¬ (k = .writeAcquire ∧ interrupted = true)) (c : Ctx)
    (buf : Bytes) (entries : List Dirent) :
    k.conclude interrupted (b.fill c) (b.pour buf) (b.list entries) = answer b := by
  subst kind
  cases b with
  | dsmPageFault error data =>
    have whole := take_memcpy buf data sized
    by_cases h : error = 0
    · simp [Body.kind, Kind.conclude, Body.fill, Body.pour, answer, h, whole]
    · simp [Body.kind, Kind.conclude, Body.fill, answer, h]
  | writeAcquire error =>
    have waited : interrupted = false := by simpa [Body.kind] using stays
    by_cases h : error = 0 <;> simp [Body.kind, Kind.conclude, Body.fill, answer, h, waited]
  | flush error data =>
    have whole := take_memcpy buf data sized
    by_cases h : error = 0
    · simp [Body.kind, Kind.conclude, Body.fill, Body.pour, answer, h, whole]
    · simp [Body.kind, Kind.conclude, Body.fill, answer, h]
  | getattr error stat =>
    by_cases h : error = 0 <;> simp [Body.kind, Kind.conclude, Body.fill, answer, h]
  | readdir error newOffset sent =>
    have whole := take_memcpy entries sent rfl
    by_cases h : error = 0
    · simp [Body.kind, Kind.conclude, Body.fill, Body.list, answer, h, whole]
    · simp [Body.kind, Kind.conclude, Body.fill, answer, h]
  | «open» remoteFd error =>
    by_cases h : error = 0 <;> simp [Body.kind, Kind.conclude, Body.fill, answer, h]
  | read n error data =>
    have whole := take_memcpy buf data sized
    by_cases h : 0 < n
    · simp [Body.kind, Kind.conclude, Body.fill, Body.pour, answer, h, whole]
    · simp [Body.kind, Kind.conclude, Body.fill, answer, h]
  | write n error => rfl
  | lseek offset error => rfl
  | fsync error => rfl
  | unlink error => rfl

/-! ### Which reply accounts for what a caller reads -/

/-- Ids of the requests and replies under way. -/
def ids (s : State) : List ℕ := s.requests.map Request.reqId ++ s.replies.map Reply.reqId

/-- One delivered reply to the caller accounts for the fields of `x` and for its buffers. -/
def Answered (s : State) (d : List Reply) (c : Caller) (x : Ctx) : Prop :=
  ∃ r ∈ d, r ∈ s.replies ∧ r.reqId = c.reqId ∧ (∃ old, x = r.body.fill old) ∧
    (∃ old, c.buf = r.body.pour old) ∧ ∃ old, c.entries = r.body.list old

structure Tied (x : State × List Reply) : Prop where
  slots : Slotted x.1
  once : ∀ t, (x.1.callers t).phase.Active → (ids x.1).count (x.1.callers t).reqId ≤ 1
  unsent : ∀ t, (x.1.callers t).phase = .allocated → (x.1.callers t).reqId ∉ ids x.1
  filled : ∀ t, (x.1.callers t).phase.Active →
    (x.1.registry (x.1.callers t).slot).done = true →
    Answered x.1 x.2 (x.1.callers t) (x.1.registry (x.1.callers t).slot)
  read : ∀ t interrupted seen, (x.1.callers t).phase = .collected interrupted seen →
    Answered x.1 x.2 (x.1.callers t) seen ∨
      ((x.1.callers t).kind = .writeAcquire ∧ interrupted = true)
  results : ResultsBelong x

theorem tied_boot : Tied (boot, []) where
  slots := slotted_boot
  once _ h := h.elim
  unsent _ h := by cases h
  filled _ h := h.elim
  read _ _ _ h := by cases h
  results _ := trivial

theorem eq_of_count_le_one {α β : Type} [DecidableEq β] {f : α → β} {l : List α} {a b : α}
    (ha : a ∈ l) (hb : b ∈ l) (same : f a = f b) (once : (l.map f).count (f a) ≤ 1) : a = b := by
  induction l with
  | nil => cases ha
  | cons x l ih =>
    have tail (c : α) (hc : c ∈ l) (hf : f c = f a) : 1 ≤ (l.map f).count (f a) :=
      List.one_le_count_iff.mpr (hf ▸ List.mem_map_of_mem hc)
    rw [List.map_cons, List.count_cons] at once
    rcases List.mem_cons.mp ha with rfl | ha'
    · rcases List.mem_cons.mp hb with rfl | hb'
      · rfl
      · have := tail b hb' same.symm
        rw [if_pos (beq_self_eq_true _)] at once
        omega
    · rcases List.mem_cons.mp hb with rfl | hb'
      · have := tail a ha' rfl
        rw [if_pos (beq_iff_eq.mpr same.symm)] at once
        omega
      · exact ih ha' hb' (by omega)

/-- Only one reply with the id of a call that is not over is ever under way. -/
theorem Tied.sameReply {x : State × List Reply} (h : Tied x) {t : ℕ}
    (active : (x.1.callers t).phase.Active) {r r' : Reply} (hr : r ∈ x.1.replies)
    (hr' : r' ∈ x.1.replies) (id : r.reqId = (x.1.callers t).reqId)
    (id' : r'.reqId = (x.1.callers t).reqId) : r = r' := by
  have once := h.once t active
  rw [ids, List.count_append] at once
  exact eq_of_count_le_one (f := Reply.reqId) hr hr' (id.trans id'.symm) (by rw [id]; omega)

/-! ### Steps that move one call along -/

@[simp] theorem ids_setPhase (s : State) (t : ℕ) (p : Phase) : ids (setPhase s t p) = ids s := rfl

theorem Tied.rephase {s : State} {d : List Reply} (h : Tied (s, d)) {t : ℕ} {p : Phase}
    (active : (s.callers t).phase.Active) (stays : p.Active) (moved : p ≠ .allocated)
    (read : ∀ interrupted seen, p = .collected interrupted seen →
      Answered s d (s.callers t) seen ∨ ((s.callers t).kind = .writeAcquire ∧ interrupted = true)) :
    Tied (setPhase s t p, d) := by
  have same (u : ℕ) := setPhase_active s t p u active stays
  constructor
  case slots => exact h.slots.rephase active stays
  case once =>
    intro u hu
    simpa [setPhase_callers] using h.once u ((same u).mp hu)
  case unsent =>
    intro u hu
    simp only [setPhase_callers] at hu ⊢
    split_ifs at hu with eq
    · exact absurd hu moved
    · exact h.unsent u hu
  case filled =>
    intro u hu done
    simp only [setPhase_callers] at done ⊢
    exact h.filled u ((same u).mp hu) done
  case read =>
    intro u interrupted seen hu
    simp only [setPhase_callers] at hu ⊢
    split_ifs at hu with eq
    · subst u
      exact read interrupted seen hu
    · exact h.read u interrupted seen hu
  case results =>
    intro u
    have own := h.results u
    simp only [Belongs, setPhase_callers]
    split_ifs with eq
    · cases p <;> trivial
    · exact own

theorem count_ids_request (s : State) (q : Request) (id : ℕ) :
    (ids { s with requests := s.requests ++ [q] }).count id =
      (ids s).count id + if q.reqId = id then 1 else 0 := by
  simp only [ids, List.map_append, List.map_cons, List.map_nil, List.count_append,
    List.count_singleton, beq_iff_eq]
  omega

theorem Tied.send {s : State} {d : List Reply} (h : Tied (s, d)) {t : ℕ} {sent : Bool}
    (start : (s.callers t).phase = .allocated) : Tied (VfsRpc.send s t sent, d) := by
  have active : (s.callers t).phase.Active := by rw [start]; trivial
  have h' : Tied (setPhase s t .waiting, d) := h.rephase active trivial (by simp) (by simp)
  have active' : ((setPhase s t .waiting).callers t).phase.Active :=
    (setPhase_active s t .waiting t active trivial).mpr active
  have sameId : ((setPhase s t .waiting).callers t).reqId = (s.callers t).reqId := by
    simp only [setPhase_callers]
  cases sent with
  | false => exact h'
  | true =>
    have new : (ids s).count (s.callers t).reqId = 0 := List.count_eq_zero.mpr (h.unsent t start)
    have count (id : ℕ) : (ids (VfsRpc.send s t true)).count id =
        (ids s).count id + if (s.callers t).reqId = id then 1 else 0 :=
      count_ids_request (setPhase s t .waiting) ⟨(s.callers t).reqId, (s.callers t).kind⟩ id
    constructor
    case slots => exact h.slots.send start true
    case once =>
      intro u hu
      have once := h'.once u hu
      change (ids (VfsRpc.send s t true)).count ((setPhase s t .waiting).callers u).reqId ≤ 1
      rw [count]
      split_ifs with eq
      · rw [← eq, new]
      · exact once
    case unsent =>
      intro u hu
      have old := h'.unsent u hu
      have other : (s.callers t).reqId ≠ ((setPhase s t .waiting).callers u).reqId := by
        intro eq
        have hu' : ((setPhase s t .waiting).callers u).phase = .allocated := hu
        have eq' := h'.slots.ids_apart active' (by rw [hu']; trivial) (sameId.trans eq)
        subst u
        simp [setPhase_callers] at hu'
      change ((setPhase s t .waiting).callers u).reqId ∉ ids (VfsRpc.send s t true)
      rw [← List.count_eq_zero, count, if_neg other]
      exact List.count_eq_zero.mpr old
    case filled => exact h'.filled
    case read => exact h'.read
    case results => exact h'.results

/-! ### Replies -/

theorem Answered.mono {s s' : State} {d d' : List Reply} {c : Caller} {x : Ctx}
    (h : Answered s d c x) (replies : ∀ r ∈ s.replies, r ∈ s'.replies) (log : ∀ r ∈ d, r ∈ d') :
    Answered s' d' c x := by
  obtain ⟨r, hr, way, rest⟩ := h
  exact ⟨r, log r hr, replies r way, rest⟩

theorem Belongs.mono {d d' : List Reply} {c : Caller} (h : Belongs d c)
    (log : ∀ r ∈ d, r ∈ d') : Belongs d' c := by
  unfold Belongs at h ⊢
  split at h
  · rcases h with ⟨r, hr, own⟩ | failed
    · exact Or.inl ⟨r, log r hr, own⟩
    · exact Or.inr failed
  · exact h
  · trivial

theorem count_ids_serve {s : State} {q : Request} (b : Body) (hq : q ∈ s.requests) (id : ℕ) :
    (ids (serve s q b)).count id = (ids s).count id := by
  have perm := (List.perm_cons_erase hq).map Request.reqId
  have count := perm.count_eq id
  simp only [List.map_cons, List.count_cons] at count
  simp only [ids, serve, List.map_append, List.map_cons, List.map_nil, List.count_append,
    List.count_singleton]
  omega

theorem Tied.serve {s : State} {d : List Reply} (h : Tied (s, d)) {q : Request} {b : Body}
    (hq : q ∈ s.requests) (kind : b.kind = q.kind) (sized : b.WellFormed) :
    Tied (VfsRpc.serve s q b, d) := by
  have kept (r : Reply) (hr : r ∈ s.replies) : r ∈ (VfsRpc.serve s q b).replies :=
    List.mem_append_left _ hr
  constructor
  case slots => exact h.slots.serve hq kind sized
  case once =>
    intro t ht
    change (ids (VfsRpc.serve s q b)).count (s.callers t).reqId ≤ 1
    rw [count_ids_serve b hq]
    exact h.once t ht
  case unsent =>
    intro t ht
    change (s.callers t).reqId ∉ ids (VfsRpc.serve s q b)
    rw [← List.count_eq_zero, count_ids_serve b hq]
    exact List.count_eq_zero.mpr (h.unsent t ht)
  case filled =>
    intro t ht done
    exact (h.filled t ht done).mono kept fun _ => id
  case read =>
    intro t interrupted seen ht
    exact (h.read t interrupted seen ht).imp_left fun a => a.mono kept fun _ => id
  case results => exact h.results

theorem Tied.heard {s : State} {d : List Reply} (h : Tied (s, d)) (r : Reply) :
    Tied (s, r :: d) := by
  have kept (r' : Reply) (hr : r' ∈ d) : r' ∈ r :: d := List.mem_cons_of_mem r hr
  exact { h with
    filled := fun t ht done => (h.filled t ht done).mono (fun _ => id) kept
    read := fun t interrupted seen ht =>
      (h.read t interrupted seen ht).imp_left fun a => a.mono (fun _ => id) kept
    results := fun t => (h.results t).mono kept }

/-- The copy of a second delivery leaves what the first one left. -/
theorem Answered.again {s s' : State} {d : List Reply} {c c' : Caller} {x : Ctx} {r : Reply}
    (h : Answered s d c x) (replies : s'.replies = s.replies) (only : ∀ r' ∈ s.replies,
      r'.reqId = c.reqId → r' = r) (id : c'.reqId = c.reqId) (buf : c'.buf = r.body.pour c.buf)
    (entries : c'.entries = r.body.list c.entries) : Answered s' d c' x := by
  obtain ⟨r', hr, way, own, fields, _, _⟩ := h
  obtain rfl := only r' way own
  exact ⟨r', hr, replies ▸ way, own.trans id.symm, fields, ⟨_, buf⟩, ⟨_, entries⟩⟩

theorem Tied.deposit {s : State} {d : List Reply} (h : Tied (s, d)) {t : ℕ} {r : Reply}
    (hr : r ∈ s.replies) (hd : r ∈ d) (active : (s.callers t).phase.Active)
    (id : r.reqId = (s.callers t).reqId) : Tied (VfsRpcSlots.deposit s t r.body, d) := by
  have only (r' : Reply) (hr' : r' ∈ s.replies) (id' : r'.reqId = (s.callers t).reqId) :
      r' = r := h.sameReply active hr' hr id' id
  have elsewhere (u : ℕ) (hu : (s.callers u).phase.Active) (other : u ≠ t) :
      (s.callers u).slot ≠ (s.callers t).slot := fun slot => other (h.slots.apart u t hu active slot)
  constructor
  case slots => exact h.slots.deposit t r.body
  case once =>
    intro u hu
    simp only [deposit_callers] at hu ⊢
    exact h.once u hu
  case unsent =>
    intro u hu
    simp only [deposit_callers] at hu ⊢
    exact h.unsent u hu
  case filled =>
    intro u hu done
    have hu' : (s.callers u).phase.Active := by simpa only [deposit_callers] using hu
    simp only [deposit_callers, deposit_registry] at done ⊢
    by_cases eq : u = t
    · subst u
      exact ⟨r, hd, hr, id, ⟨_, if_pos rfl⟩, ⟨_, if_pos rfl⟩, ⟨_, if_pos rfl⟩⟩
    · rw [if_neg (elsewhere u hu' eq)] at done
      simp only [if_neg eq, if_neg (elsewhere u hu' eq)]
      exact h.filled u hu' done
  case read =>
    intro u interrupted seen hu
    simp only [deposit_callers] at hu
    refine (h.read u interrupted seen hu).imp ?_ fun a => by simpa only [deposit_callers] using a
    intro old
    by_cases eq : u = t
    · subst u
      refine old.again rfl only ?_ ?_ ?_ <;> simp [deposit_callers]
    · simp only [deposit_callers, if_neg eq]
      exact old.mono (fun _ way => way) fun _ log => log
  case results =>
    intro u
    have own := h.results u
    simp only [deposit_callers]
    exact own

theorem Tied.deliver {s : State} {d : List Reply} (h : Tied (s, d)) {r : Reply}
    (hr : r ∈ s.replies) : Tied (handleReply s r, r :: d) := by
  rcases h.slots.handleReply_eq hr with same | ⟨t, ht, id, done⟩
  · rw [same]
    exact h.heard r
  · rw [done]
    exact (h.heard r).deposit hr (List.mem_cons_self ..) ht id

/-! ### Taking a slot and giving it back -/

theorem refused_failed (k : Kind) : k.refused.Failed := by
  cases k <;> decide

theorem Tied.refuse {s : State} {d : List Reply} (h : Tied (s, d)) {t : ℕ} {c : Caller}
    (idle : ¬ (s.callers t).phase.Active) {o : Outcome} (refused : c.phase = .refused o)
    (failed : o.Failed) : Tied ({ s with callers := Function.update s.callers t c }, d) := by
  have ended : ¬ c.phase.Active := by
    rw [refused]
    exact id
  constructor
  case slots => exact h.slots.refuse idle ended
  case once =>
    intro u hu
    simp only [(callers_of_active ended hu).2] at hu ⊢
    exact h.once u hu
  case unsent =>
    intro u hu
    have same := (callers_of_active ended (by rw [hu]; trivial)).2
    simp only [same] at hu ⊢
    exact h.unsent u hu
  case filled =>
    intro u hu
    simp only [(callers_of_active ended hu).2] at hu ⊢
    exact h.filled u hu
  case read =>
    intro u interrupted seen hu
    have same := (callers_of_active ended (by rw [hu]; trivial)).2
    simp only [same] at hu ⊢
    exact h.read u interrupted seen hu
  case results =>
    intro u
    by_cases eq : u = t
    · subst u
      simp only [Belongs, Function.update_self, refused]
      exact failed
    · have same : Function.update s.callers t c u = s.callers u := Function.update_of_ne eq _ _
      simp only [same]
      exact h.results u

theorem Tied.take {s : State} {d : List Reply} (h : Tied (s, d)) {t : ℕ} {i : Fin maxVfsRpc}
    (idle : ¬ (s.callers t).phase.Active) (free : (s.registry i).inUse = false)
    (fresh : Fresh s s.nextReqId) (k : Kind) (buf : Bytes) (entries : List Dirent) :
    Tied (taken s t i k buf entries, d) := by
  have own := taken_own s t i k buf entries
  have same {u : ℕ} (hu : u ≠ t) := taken_other s t i k buf entries hu
  have claimed := taken_claimed s t i k buf entries
  have kept {j : Fin maxVfsRpc} (hj : j ≠ i) := taken_kept s t i k buf entries hj
  have absent : s.nextReqId ∉ ids s := by
    rintro mem
    rcases List.mem_append.mp mem with mem | mem
    · obtain ⟨q, hq, id⟩ := List.mem_map.mp mem
      exact fresh.1 q hq id
    · obtain ⟨r, hr, id⟩ := List.mem_map.mp mem
      exact fresh.2.1 r hr id
  constructor
  case slots => exact h.slots.take idle free fresh.1 fresh.2.1 fresh.2.2 k buf entries
  case once =>
    intro u hu
    by_cases eu : u = t
    · subst u
      rw [own]
      exact (List.count_eq_zero.mpr absent).trans_le (Nat.zero_le 1)
    · rw [same eu] at hu ⊢
      exact h.once u hu
  case unsent =>
    intro u hu
    by_cases eu : u = t
    · subst u
      rw [own]
      exact absent
    · rw [same eu] at hu ⊢
      exact h.unsent u hu
  case filled =>
    intro u hu done
    by_cases eu : u = t
    · subst u
      rw [own, claimed] at done
      cases done
    · rw [same eu] at hu done ⊢
      rw [kept (h.slots.busy free hu)] at done ⊢
      exact h.filled u hu done
  case read =>
    intro u interrupted seen hu
    by_cases eu : u = t
    · subst u
      rw [own] at hu
      cases hu
    · rw [same eu] at hu ⊢
      exact h.read u interrupted seen hu
  case results =>
    intro u
    by_cases eu : u = t
    · subst u
      simp only [own, Belongs]
    · simp only [same eu]
      exact h.results u

theorem Tied.allocate {s : State} {d : List Reply} (h : Tied (s, d)) {t : ℕ}
    (idle : ¬ (s.callers t).phase.Active) (fresh : Fresh s s.nextReqId) (k : Kind) (buf : Bytes)
    (entries : List Dirent) : Tied (VfsRpc.allocate s t k buf entries, d) := by
  cases found : freeSlot s with
  | none =>
    simp only [VfsRpc.allocate, found]
    exact h.refuse idle rfl (refused_failed k)
  | some i =>
    have free := List.find?_some found
    simp only [VfsRpc.allocate, found]
    exact h.take idle (by simpa using free) fresh k buf entries

/-- What a call that has read its slot concludes is its own. -/
theorem Tied.concluded {s : State} {d : List Reply} (h : Tied (s, d)) {t : ℕ}
    {interrupted : Bool} {seen : Ctx} (phase : (s.callers t).phase = .collected interrupted seen) :
    (∃ r ∈ d, r.reqId = (s.callers t).reqId ∧ r.body.kind = (s.callers t).kind ∧
      (s.callers t).kind.conclude interrupted seen (s.callers t).buf (s.callers t).entries =
        answer r.body) ∨
    (interrupted = true ∧
      ((s.callers t).kind.conclude interrupted seen (s.callers t).buf (s.callers t).entries).Failed) := by
  have active : (s.callers t).phase.Active := by rw [phase]; trivial
  by_cases gaveUp : (s.callers t).kind = .writeAcquire ∧ interrupted = true
  · refine Or.inr ⟨gaveUp.2, ?_⟩
    rw [gaveUp.1, gaveUp.2]
    exact ⟨trivial, rfl, rfl, rfl, rfl, rfl⟩
  · obtain ⟨r, hr, way, id, ⟨c, fields⟩, ⟨buf, hbuf⟩, entries, hentries⟩ :=
      (h.read t interrupted seen phase).resolve_right gaveUp
    obtain ⟨kind, sized⟩ := h.slots.served t active r way id
    refine Or.inl ⟨r, hr, id, kind, ?_⟩
    have own := conclude_fill kind sized interrupted gaveUp c buf entries
    rwa [← fields, ← hbuf, ← hentries] at own

theorem Tied.release {s : State} {d : List Reply} (h : Tied (s, d)) {t : ℕ}
    {interrupted : Bool} {seen : Ctx} (phase : (s.callers t).phase = .collected interrupted seen) :
    Tied (VfsRpc.release s t interrupted seen, d) := by
  have active : (s.callers t).phase.Active := by rw [phase]; trivial
  have concluded := h.concluded phase
  have own := release_own s t interrupted seen
  have same {u : ℕ} (hu : u ≠ t) := release_other s t interrupted seen hu
  have other {u : ℕ} (hu : ((VfsRpc.release s t interrupted seen).callers u).phase.Active) :=
    release_active s t interrupted seen hu
  have kept {j : Fin maxVfsRpc} (hj : j ≠ (s.callers t).slot) :=
    release_kept s t interrupted seen hj
  have apart {u : ℕ} (ne : u ≠ t) (hu : (s.callers u).phase.Active) :
      (s.callers u).slot ≠ (s.callers t).slot := fun slot => ne (h.slots.apart u t hu active slot)
  constructor
  case slots => exact h.slots.release active interrupted seen
  case once =>
    intro u hu
    have ne := other hu
    rw [same ne] at hu ⊢
    exact h.once u hu
  case unsent =>
    intro u hu
    have ne := other (by rw [hu]; trivial)
    rw [same ne] at hu ⊢
    exact h.unsent u hu
  case filled =>
    intro u hu done
    have ne := other hu
    rw [same ne] at hu done ⊢
    rw [kept (apart ne hu)] at done ⊢
    exact h.filled u hu done
  case read =>
    intro u interrupted' seen' hu
    have ne := other (by rw [hu]; trivial)
    rw [same ne] at hu ⊢
    exact h.read u interrupted' seen' hu
  case results =>
    intro u
    by_cases eu : u = t
    · subst u
      simp only [own, Belongs]
      exact concluded
    · simp only [same eu]
      exact h.results u

theorem Tied.next {x : State × List Reply} (h : Tied x) {e : Event}
    (enabled : rpcMachine.enabled x e) (ok : Awaited x e) : Tied (rpcMachine.next x e) := by
  obtain ⟨s, d⟩ := x
  have active {t : ℕ} {p : Phase} (at_ : (s.callers t).phase = p) (busy : p.Active) :
      (s.callers t).phase.Active := at_ ▸ busy
  cases e with
  | allocate t k buf entries => exact h.allocate enabled ok k buf entries
  | send t sent => exact h.send enabled
  | serve q b => exact h.serve enabled.1 enabled.2.1 enabled.2.2
  | deliver r => exact h.deliver enabled
  | wake t => exact h.rephase (active enabled.1 trivial) trivial (by simp) (by simp)
  | signal t => exact h.rephase (active enabled.1 trivial) trivial (by simp) (by simp)
  | collect t interrupted =>
    have busy := active enabled trivial
    refine h.rephase busy trivial (by simp) ?_
    intro interrupted' seen eq
    cases eq
    exact ok.imp_left (h.filled t busy)
  | release t interrupted seen => exact h.release enabled

/-- From boot, as long as every caller waits for its reply, every result is its own. -/
theorem results_belong_to_request {es : List Event} (run : rpcMachine.Follows Awaited (boot, []) es) :
    rpcMachine.Always ResultsBelong (boot, []) es := by
  have always := run.always (fun _ _ h enabled ok => Tied.next h enabled ok) tied_boot
  exact always.mono fun _ h => h.results

/-- Two opens at once answered out of order, a reply delivered twice, and a write acquire that
gives up. -/
def answeredCalls : List Event :=
  let seen0 : Ctx := { blankCtx with inUse := true, reqId := 1, remoteFd := 5, done := true }
  let seen1 : Ctx := { blankCtx with inUse := true, reqId := 2, error := -2, done := true }
  let seen2 : Ctx := { blankCtx with inUse := true, reqId := 3, remoteFd := 5 }
  [.allocate 0 .open [] [], .allocate 1 .open [] [], .send 1 true, .send 0 true,
    .serve ⟨2, .open⟩ (.open 0 (-2)), .serve ⟨1, .open⟩ (.open 5 0), .deliver ⟨2, .open 0 (-2)⟩,
    .deliver ⟨1, .open 5 0⟩, .wake 0, .collect 0 false, .deliver ⟨1, .open 5 0⟩,
    .release 0 false seen0, .wake 1, .collect 1 false, .release 1 false seen1,
    .allocate 0 .writeAcquire [] [], .deliver ⟨1, .open 5 0⟩, .send 0 false, .signal 0,
    .collect 0 true, .release 0 true seen2]

theorem results_belong_to_request_answered :
    rpcMachine.Follows Awaited (boot, []) answeredCalls ∧
      rpcMachine.Always ResultsBelong (boot, []) answeredCalls := by
  have run : rpcMachine.Follows Awaited (boot, []) answeredCalls := by decide +kernel
  exact ⟨run, results_belong_to_request run⟩

end MattX.VfsRpcResults
