import MattX.VfsRpcSlots
import Mathlib.Tactic.NormNum.Basic

set_option autoImplicit false

/-!
# Where replies are copied

Request ids come from a 64 bit counter. Until it comes round, a reply reaches
the buffers of the one call that asked for it, while that call has its slot.
-/
namespace MattX.VfsRpcBuffers
open GuardedRuns VfsRpc VfsRpcSlots

/-- How many bytes a handler copies to `data_buf`. -/
def copied : Body → ℕ
  | .dsmPageFault error _ | .flush error _ => if error = 0 then pageSize else 0
  | .read n _ _ => n.toNat
  | _ => 0

/-- How many entries a handler copies to `dirents`. -/
def listed : Body → ℕ
  | .readdir error _ sent => if error = 0 then sent.length else 0
  | _ => 0

/-- Calls that are not over share neither an id nor a slot; whatever a reply that may still come
is copied to is a buffer of the call with its id, which has its slot and has room; and no reply
changes anything of another caller. -/
structure Safe (s : State) : Prop where
  apart : ∀ t u, (s.callers t).phase.Active → (s.callers u).phase.Active →
    (s.callers t).reqId = (s.callers u).reqId ∨ (s.callers t).slot = (s.callers u).slot → t = u
  data : ∀ r ∈ s.replies, ∀ i, pendingSlot s r.reqId = some i → 0 < copied r.body →
    ∀ t, (s.registry i).dataBuf = some t → (s.callers t).phase.Active ∧
      (s.callers t).reqId = r.reqId ∧ (s.callers t).slot = i ∧
      (s.callers t).kind.setsDataBuf = true ∧ copied r.body ≤ (s.callers t).buf.length
  dirents : ∀ r ∈ s.replies, ∀ i, pendingSlot s r.reqId = some i → 0 < listed r.body →
    ∀ t, (s.registry i).dirents = some t → (s.callers t).phase.Active ∧
      (s.callers t).reqId = r.reqId ∧ (s.callers t).slot = i ∧
      (s.callers t).kind = .readdir ∧ listed r.body ≤ (s.callers t).entries.length
  untouched : ∀ r ∈ s.replies, ∀ t,
    ¬ ((s.callers t).phase.Active ∧ (s.callers t).reqId = r.reqId) →
      (handleReply s r).callers t = s.callers t

/-- How many ids were handed out, and how many bytes and entries were asked for with each. -/
structure Ledger where
  taken : ℕ
  asked : ℕ → ℕ × ℕ

def watchAsked (l : Ledger) (s : State) : Event → Ledger
  | .allocate _ _ buf entries =>
    if (freeSlot s).isSome then
      ⟨l.taken + 1, Function.update l.asked s.nextReqId (buf.length, entries.length)⟩
    else l
  | _ => l

def ledgerMachine : Machine (State × Ledger) Event := machine.observed watchAsked

instance (x : State × Ledger) : DecidablePred (ledgerMachine.enabled x) :=
  inferInstanceAs (DecidablePred (Enabled x.1))

/-- The counter has not come round, and no reply has more than was asked for. -/
def Modest (x : State × Ledger) : Event → Prop
  | .allocate .. => x.2.taken < 2 ^ 64
  | .serve q b => copied b ≤ (x.2.asked q.reqId).1 ∧ listed b ≤ (x.2.asked q.reqId).2
  | _ => True

instance (x : State × Ledger) : DecidablePred (Modest x) := fun e => by
  induction e using Event.casesOn <;> unfold Modest <;> infer_instance

def noLedger : Ledger := ⟨0, fun _ => (0, 0)⟩

/-! ### The invariant -/

/-- One of the first `n` ids. -/
def Issued (n id : ℕ) : Prop := ∃ k, 1 ≤ k ∧ k ≤ n ∧ id = k % 2 ^ 64

theorem Issued.more {n id : ℕ} (h : Issued n id) : Issued (n + 1) id := by
  obtain ⟨k, first, last, eq⟩ := h
  exact ⟨k, first, by omega, eq⟩

theorem issued_new (n : ℕ) : Issued (n + 1) ((n + 1) % 2 ^ 64) := ⟨n + 1, by omega, le_refl _, rfl⟩

/-- The next id is none of those before it, as long as there are at most `2 ^ 64`. -/
theorem Issued.ne {n id : ℕ} (h : Issued n id) (few : n < 2 ^ 64) : id ≠ (n + 1) % 2 ^ 64 := by
  obtain ⟨k, first, last, eq⟩ := h
  omega

structure Accounted (x : State × Ledger) : Prop where
  slots : Slotted x.1
  counter : x.1.nextReqId = (x.2.taken + 1) % 2 ^ 64
  slotIds : ∀ i, (x.1.registry i).inUse = true → Issued x.2.taken (x.1.registry i).reqId
  requestIds : ∀ q ∈ x.1.requests, Issued x.2.taken q.reqId
  replyIds : ∀ r ∈ x.1.replies, Issued x.2.taken r.reqId
  room : ∀ t, (x.1.callers t).phase.Active →
    (x.2.asked (x.1.callers t).reqId).1 ≤ (x.1.callers t).buf.length ∧
      (x.2.asked (x.1.callers t).reqId).2 ≤ (x.1.callers t).entries.length
  modest : ∀ r ∈ x.1.replies, copied r.body ≤ (x.2.asked r.reqId).1 ∧
    listed r.body ≤ (x.2.asked r.reqId).2

theorem accounted_boot : Accounted (boot, noLedger) where
  slots := slotted_boot
  counter := by decide
  slotIds _ h := by cases h
  requestIds _ h := by cases h
  replyIds _ h := by cases h
  room _ h := h.elim
  modest _ h := by cases h

theorem memcpy_length {α : Type} (dst src : List α) {n : ℕ} (h : src.length = n) :
    dst.length ≤ (memcpy dst src n).length := by
  simp only [memcpy, List.length_append, List.length_take, List.length_drop]
  omega

theorem pour_length {b : Body} (sized : b.WellFormed) (buf : Bytes) :
    buf.length ≤ (b.pour buf).length := by
  cases b with
  | dsmPageFault error data =>
    simp only [Body.pour]
    split
    · exact memcpy_length buf data sized
    · exact le_refl _
  | flush error data =>
    simp only [Body.pour]
    split
    · exact memcpy_length buf data sized
    · exact le_refl _
  | read n error data =>
    simp only [Body.pour]
    split
    · exact memcpy_length buf data sized
    · exact le_refl _
  | _ => exact le_refl _

theorem list_length (b : Body) (entries : List Dirent) :
    entries.length ≤ (b.list entries).length := by
  cases b with
  | readdir error offset sent =>
    simp only [Body.list]
    split
    · exact memcpy_length entries sent rfl
    · exact le_refl _
  | _ => exact le_refl _

theorem Accounted.rephase {s : State} {l : Ledger} (h : Accounted (s, l)) {t : ℕ} {p : Phase}
    (active : (s.callers t).phase.Active) (stays : p.Active) : Accounted (setPhase s t p, l) :=
  { h with
    slots := h.slots.rephase active stays
    room := fun u hu => by
      simp only [setPhase_callers]
      exact h.room u ((setPhase_active s t p u active stays).mp hu) }

theorem Accounted.send {s : State} {l : Ledger} (h : Accounted (s, l)) {t : ℕ}
    (start : (s.callers t).phase = .allocated) (sent : Bool) :
    Accounted (VfsRpc.send s t sent, l) := by
  have active : (s.callers t).phase.Active := by rw [start]; trivial
  have waits := h.rephase active (p := .waiting) trivial
  cases sent with
  | false => exact waits
  | true =>
    refine { waits with slots := h.slots.send start true, requestIds := fun q hq => ?_ }
    rcases List.mem_append.mp hq with hq | hq
    · exact h.requestIds q hq
    · obtain rfl := List.mem_singleton.mp hq
      have held := h.slots.holds t active
      have issued := h.slotIds _ held.inUse
      rwa [held.reqId] at issued

theorem Accounted.serve {s : State} {l : Ledger} (h : Accounted (s, l)) {q : Request} {b : Body}
    (hq : q ∈ s.requests) (kind : b.kind = q.kind) (sized : b.WellFormed)
    (modest : copied b ≤ (l.asked q.reqId).1 ∧ listed b ≤ (l.asked q.reqId).2) :
    Accounted (VfsRpc.serve s q b, l) :=
  { h with
    slots := h.slots.serve hq kind sized
    requestIds := fun q' hq' => h.requestIds q' (List.mem_of_mem_erase hq')
    replyIds := fun r hr => by
      rcases List.mem_append.mp hr with hr | hr
      · exact h.replyIds r hr
      · obtain rfl := List.mem_singleton.mp hr
        exact h.requestIds q hq
    modest := fun r hr => by
      rcases List.mem_append.mp hr with hr | hr
      · exact h.modest r hr
      · obtain rfl := List.mem_singleton.mp hr
        exact modest }

theorem Accounted.deliver {s : State} {l : Ledger} (h : Accounted (s, l)) {r : Reply}
    (hr : r ∈ s.replies) : Accounted (handleReply s r, l) := by
  rcases h.slots.handleReply_eq hr with same | ⟨t, ht, id, done⟩
  · rw [same]
    exact h
  · have sized := (h.slots.served t ht r hr id).2
    rw [done]
    exact
      { h with
        slots := h.slots.deposit t r.body
        slotIds := fun i hi => by
          simp only [deposit_inUse] at hi
          simp only [deposit_reqId]
          exact h.slotIds i hi
        room := fun u hu => by
          simp only [deposit_callers] at hu ⊢
          have room := h.room u hu
          by_cases eq : u = t
          · simp only [if_pos eq]
            exact ⟨room.1.trans (pour_length sized _), room.2.trans (list_length _ _)⟩
          · simp only [if_neg eq]
            exact room }

theorem Accounted.allocate {s : State} {l : Ledger} (h : Accounted (s, l)) {t : ℕ}
    (idle : ¬ (s.callers t).phase.Active) (few : l.taken < 2 ^ 64) (k : Kind) (buf : Bytes)
    (entries : List Dirent) :
    Accounted (VfsRpc.allocate s t k buf entries, watchAsked l s (.allocate t k buf entries)) := by
  cases found : freeSlot s with
  | none =>
    have ended : ¬ (Phase.refused k.refused).Active := id
    simp only [VfsRpc.allocate, watchAsked, found, Option.isSome_none, Bool.false_eq_true, if_false]
    exact
      { h with
        slots := h.slots.refuse idle ended
        room := fun u hu => by
          simp only [(callers_of_active ended hu).2] at hu ⊢
          exact h.room u hu }
  | some i =>
    have free : (s.registry i).inUse = false := by simpa using List.find?_some found
    have counter : s.nextReqId = (l.taken + 1) % 2 ^ 64 := h.counter
    have new {id : ℕ} (issued : Issued l.taken id) : id ≠ s.nextReqId := by
      rw [counter]
      exact issued.ne few
    have unheld (j : Fin maxVfsRpc) (hj : (s.registry j).inUse = true) := new (h.slotIds j hj)
    simp only [VfsRpc.allocate, watchAsked, found, Option.isSome_some, if_true]
    exact
      { slots := h.slots.take idle free (fun q hq => new (h.requestIds q hq))
          (fun r hr => new (h.replyIds r hr)) unheld k buf entries
        counter := by
          change (s.nextReqId + 1) % 2 ^ 64 = (l.taken + 1 + 1) % 2 ^ 64
          omega
        slotIds := fun j hj => by
          by_cases eq : j = i
          · subst j
            simp only [Function.update_self, claimSlot, counter]
            exact issued_new l.taken
          · simp only [Function.update_of_ne eq] at hj ⊢
            exact (h.slotIds j hj).more
        requestIds := fun q hq => (h.requestIds q hq).more
        replyIds := fun r hr => (h.replyIds r hr).more
        room := fun u hu => by
          by_cases eq : u = t
          · subst u
            simp
          · simp only [Function.update_of_ne eq] at hu ⊢
            have held := h.slots.holds u hu
            have other := unheld _ held.inUse
            rw [held.reqId] at other
            rw [Function.update_of_ne other]
            exact h.room u hu
        modest := fun r hr => by
          have other := new (h.replyIds r hr)
          simp only [Function.update_of_ne other]
          exact h.modest r hr }

theorem Accounted.release {s : State} {l : Ledger} (h : Accounted (s, l)) {t : ℕ}
    (active : (s.callers t).phase.Active) (interrupted : Bool) (seen : Ctx) :
    Accounted (VfsRpc.release s t interrupted seen, l) :=
  { h with
    slots := h.slots.release active interrupted seen
    slotIds := fun j hj => by
      have kept := release_kept s t interrupted seen (release_used s t interrupted seen hj)
      simp only [kept] at hj ⊢
      exact h.slotIds j hj
    room := fun u hu => by
      have same := release_other s t interrupted seen (release_active s t interrupted seen hu)
      simp only [same] at hu ⊢
      exact h.room u hu }

theorem Accounted.next {x : State × Ledger} (h : Accounted x) {e : Event}
    (enabled : ledgerMachine.enabled x e) (ok : Modest x e) : Accounted (ledgerMachine.next x e) := by
  obtain ⟨s, l⟩ := x
  have active {t : ℕ} {p : Phase} (at_ : (s.callers t).phase = p) (busy : p.Active) :
      (s.callers t).phase.Active := at_ ▸ busy
  cases e with
  | allocate t k buf entries => exact h.allocate enabled ok k buf entries
  | send t sent => exact h.send enabled sent
  | serve q b => exact h.serve enabled.1 enabled.2.1 enabled.2.2 ok
  | deliver r => exact h.deliver enabled
  | wake t => exact h.rephase (active enabled.1 trivial) trivial
  | signal t => exact h.rephase (active enabled.1 trivial) trivial
  | collect t interrupted => exact h.rephase (active enabled trivial) trivial
  | release t interrupted seen => exact h.release (active enabled trivial) interrupted seen

/-! ### Where a reply goes -/

theorem kind_of_copied {b : Body} (h : 0 < copied b) : b.kind.setsDataBuf = true := by
  cases b <;> first | rfl | exact absurd h (lt_irrefl 0)

theorem kind_of_listed {b : Body} (h : 0 < listed b) : b.kind = .readdir := by
  cases b <;> first | rfl | exact absurd h (lt_irrefl 0)

theorem Accounted.safe {x : State × Ledger} (h : Accounted x) : Safe x.1 where
  apart t u ht hu same := by
    cases same with
    | inl id => exact h.slots.ids_apart ht hu id
    | inr slot => exact h.slots.apart t u ht hu slot
  data r hr i found some t pointer := by
    obtain ⟨u, hu, slot, id⟩ := h.slots.addressee found
    have kind := (h.slots.served u hu r hr id).1
    have sets : (x.1.callers u).kind.setsDataBuf = true := by
      rw [← kind]
      exact kind_of_copied some
    have own := (h.slots.holds u hu).dataBuf sets
    rw [slot, pointer] at own
    obtain rfl := Option.some.inj own
    have room := (h.modest r hr).1
    rw [id] at room
    exact ⟨hu, id.symm, slot, sets, room.trans (h.room t hu).1⟩
  dirents r hr i found some t pointer := by
    obtain ⟨u, hu, slot, id⟩ := h.slots.addressee found
    have kind := (h.slots.served u hu r hr id).1
    have lists : (x.1.callers u).kind = .readdir := by
      rw [← kind]
      exact kind_of_listed some
    have own := (h.slots.holds u hu).dirents lists
    rw [slot, pointer] at own
    obtain rfl := Option.some.inj own
    have room := (h.modest r hr).2
    rw [id] at room
    exact ⟨hu, id.symm, slot, lists, room.trans (h.room t hu).2⟩
  untouched r hr t other := by
    cases h.slots.handleReply_eq hr with
    | inl same => rw [same]
    | inr done =>
      obtain ⟨u, hu, id, done⟩ := done
      have ne : t ≠ u := by
        rintro rfl
        exact other ⟨hu, id.symm⟩
      rw [done, deposit_callers]
      simp only [if_neg ne]

/-- Late and repeated replies, interrupted calls and slots used again included. -/
theorem replies_reach_their_buffers {es : List Event}
    (run : ledgerMachine.Follows Modest (boot, noLedger) es) :
    ledgerMachine.Always (fun x => Safe x.1) (boot, noLedger) es :=
  (run.always (fun _ _ h enabled ok => Accounted.next h enabled ok) accounted_boot).mono
    fun _ h => h.safe

/-- A read is interrupted and gives its slot back before its reply; another read takes the slot. -/
theorem replies_reach_their_buffers_late :
    ledgerMachine.Always (fun x => Safe x.1) (boot, noLedger)
      [.allocate 0 .read [1, 2] [], .send 0 true, .signal 0, .collect 0 true,
        .release 0 true { blankCtx with inUse := true, reqId := 1, dataBuf := some 0 },
        .allocate 1 .read [3, 4, 5] [], .serve ⟨1, .read⟩ (.read 2 0 [6, 7]), .send 1 true,
        .deliver ⟨1, .read 2 0 [6, 7]⟩, .serve ⟨2, .read⟩ (.read 1 0 [8]),
        .deliver ⟨2, .read 1 0 [8]⟩, .deliver ⟨1, .read 2 0 [6, 7]⟩, .wake 1] :=
  replies_reach_their_buffers (by decide +kernel)

/-! ### The counter comes round -/

def lapSeen (id : ℕ) : Ctx := { blankCtx with inUse := true, reqId := id }

/-- A call that takes id `id` and is interrupted. -/
def lap (id : ℕ) : List Event :=
  [.allocate 1 .fsync [] [], .send 1 false, .signal 1, .collect 1 true, .release 1 true (lapSeen id)]

/-- The calls with the `n` ids after the first. -/
def laps : ℕ → List Event
  | 0 => []
  | n + 1 => laps n ++ lap ((n + 2) % 2 ^ 64)

/-- A read that waits in slot 0 while another thread makes one call after the other. -/
def roundTrip (n : ℕ) : List Event :=
  .allocate 0 .read [] [] :: (laps n ++ [.allocate 1 .fsync [] []])

/-- Thread 0 waits with id 1 and slot 0, slot 1 is free, and `id` is the next id. -/
structure Lapping (s : State) (id : ℕ) : Prop where
  busy : (s.registry 0).inUse = true
  idle : ∃ old, s.registry 1 = { blankCtx with reqId := old }
  counter : s.nextReqId = id
  waiting : (s.callers 0).phase = .allocated
  first : (s.callers 0).reqId = 1
  second : ¬ (s.callers 1).phase.Active

theorem Lapping.free {s : State} {id : ℕ} (h : Lapping s id) : freeSlot s = some 1 := by
  obtain ⟨old, idle⟩ := h.idle
  have order : List.finRange maxVfsRpc = 0 :: 1 :: (List.finRange maxVfsRpc).drop 2 := by
    decide +kernel
  rw [freeSlot, order]
  simp only [List.find?, h.busy, idle, blankCtx, Bool.not_true, Bool.not_false]

theorem Lapping.allocate {s : State} {id : ℕ} (h : Lapping s id) :
    machine.next s (.allocate 1 .fsync [] []) = taken s 1 1 .fsync [] [] := by
  simp only [machine, next, VfsRpc.allocate, h.free, taken]

theorem Lapping.around {s : State} {id : ℕ} (h : Lapping s id) :
    machine.Runs s (lap id) ∧ Lapping (machine.after s (lap id)) ((id + 1) % 2 ^ 64) := by
  obtain ⟨old, idle⟩ := h.idle
  have claimed : (taken s 1 1 .fsync [] []).registry 1 = lapSeen id := by
    rw [taken_claimed, idle, h.counter]
    rfl
  have own := taken_own s 1 1 .fsync [] []
  constructor
  · refine ⟨h.second, trivial, ?_⟩
    rw [h.allocate]
    simp [Machine.Follows, machine, next, Enabled, VfsRpc.send, collect, setPhase_callers, own,
      claimed, lapSeen, blankCtx]
  · let given := taken s 1 1 .fsync [] []
    let read := collect (setPhase (VfsRpc.send given 1 false) 1 (.woken true)) 1 true
    have ended : machine.after s (lap id) = VfsRpc.release read 1 true (lapSeen id) := by
      simp only [Machine.after, lap, List.foldl_cons, List.foldl_nil, h.allocate]
      rfl
    have slot : (read.callers 1).slot = 1 := by
      simp [read, collect, VfsRpc.send, setPhase_callers, given, own]
    have freed := release_freed read 1 true (lapSeen id)
    rw [slot] at freed
    have kept := release_kept read 1 true (lapSeen id) (j := 0) (by rw [slot]; decide)
    have first : (VfsRpc.release read 1 true (lapSeen id)).callers 0 = s.callers 0 := by
      rw [release_other read 1 true (lapSeen id) (by decide)]
      simp [read, collect, VfsRpc.send, setPhase_callers, given,
        taken_other s 1 1 .fsync [] [] (by decide : (0 : ℕ) ≠ 1)]
    rw [ended]
    exact
      { busy := by
          rw [kept]
          change (given.registry 0).inUse = true
          rw [taken_kept s 1 1 .fsync [] [] (by decide)]
          exact h.busy
        idle := ⟨id, by
          rw [freed]
          change { given.registry 1 with inUse := false } = _
          rw [claimed]
          rfl⟩
        counter := by
          change (s.nextReqId + 1) % 2 ^ 64 = (id + 1) % 2 ^ 64
          rw [h.counter]
        waiting := by rw [first, h.waiting]
        first := by rw [first, h.first]
        second := by
          rw [release_own]
          exact fun active => active }

theorem lapping_laps (n : ℕ) {s : State} (h : Lapping s 2) :
    machine.Runs s (laps n) ∧ Lapping (machine.after s (laps n)) ((n + 2) % 2 ^ 64) := by
  induction n with
  | zero => exact ⟨trivial, h⟩
  | succ n ih =>
    obtain ⟨runs, lapping⟩ := ih
    have more := lapping.around
    have after : machine.after s (laps (n + 1)) =
        machine.after (machine.after s (laps n)) (lap ((n + 2) % 2 ^ 64)) :=
      List.foldl_append
    refine ⟨Machine.follows_append.mpr ⟨runs, more.1⟩, ?_⟩
    rw [after, show (n + 1 + 2) % 2 ^ 64 = ((n + 2) % 2 ^ 64 + 1) % 2 ^ 64 by omega]
    exact more.2

theorem lapping_start : Lapping (machine.next boot (.allocate 0 .read [] [])) 2 where
  busy := by decide +kernel
  idle := ⟨0, by decide +kernel⟩
  counter := by decide +kernel
  waiting := by decide +kernel
  first := by decide +kernel
  second := by decide +kernel

theorem lapping_roundTrip {n : ℕ} (full : (n + 2) % 2 ^ 64 = 1) :
    machine.Runs boot (roundTrip n) ∧ ¬ Safe (machine.after boot (roundTrip n)) := by
  obtain ⟨runs, lapping⟩ := lapping_laps n lapping_start
  rw [full] at lapping
  let near := machine.after (machine.next boot (.allocate 0 .read [] [])) (laps n)
  have ended : machine.after boot (roundTrip n) = taken near 1 1 .fsync [] [] := by
    have whole : machine.after boot (roundTrip n) =
        machine.next near (.allocate 1 .fsync [] []) := List.foldl_append
    rw [whole]
    exact lapping.allocate
  constructor
  · have idle : machine.enabled boot (.allocate 0 .read [] []) := fun active => active
    exact ⟨idle, trivial, Machine.follows_append.mpr ⟨runs, lapping.second, trivial, trivial⟩⟩
  · rw [ended]
    intro safe
    have first := taken_other near 1 1 .fsync [] [] (by decide : (0 : ℕ) ≠ 1)
    have second := taken_own near 1 1 .fsync [] []
    have same := safe.apart 0 1 (by rw [first, lapping.waiting]; trivial) (by rw [second]; trivial)
      (.inl (by rw [first, second, lapping.first, lapping.counter]))
    exact absurd same (by decide)

/-- After `2 ^ 64` calls the id of the first one is handed out again while it still waits. -/
theorem counter_comes_round : machine.Runs boot (roundTrip (2 ^ 64 - 1)) ∧
    ¬ Safe (machine.after boot (roundTrip (2 ^ 64 - 1))) :=
  lapping_roundTrip (by decide)

end MattX.VfsRpcBuffers
