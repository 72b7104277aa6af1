import MattX.RecallCalls

set_option autoImplicit false

/-!
# What a recall sends home of the calls

The group may be continued in the middle of a call here, so the invariant of
the calls is used on the group as if it stayed stopped.
-/
namespace MattX.RecallCalls
open GuardedRuns WormholeCalls WormholeReplies WormholeGang WormholeStops

/-! ### The gang and the home node -/

/-- What the home node has executed, and what came of it. -/
structure Accounted (g : Gang) (served : List (ℕ × Kind × Body)) : Prop where
  replies : ∀ r ∈ g.replies, r ∈ served
  arrived : ∀ a ∈ g.arrived, ∃ kind, (a.tag, kind, a.body) ∈ served
  once : ∀ tag, (g.requests.countP fun r => r.1 == tag) +
    (served.countP fun x => x.1 == tag) ≤ 1
  below : ∀ x ∈ served, x.1 < g.next
  begun : ∀ c ∈ g.callers, c.phase = .begun → Unserved served c.tag
  aborted : ∀ c ∈ g.callers, c.phase = .aborted → Unserved served c.tag
  returned : ∀ r ∈ g.returned, (r.outcome = none → Unserved served r.tag) ∧
    ∀ o, r.outcome = some o → ∃ body alloc, ⟨r.tag, body, alloc⟩ ∈ g.arrived ∧ Delivers body o

theorem unserved_count {served : List (ℕ × Kind × Body)} {tag : ℕ} (none : Unserved served tag) :
    (served.countP fun x => x.1 == tag) = 0 := by
  apply List.countP_eq_zero.mpr
  intro x mem
  simpa using none x mem

/-- An erased request no longer counts. -/
theorem count_erase {requests : List (ℕ × Kind)} {tag : ℕ} {kind : Kind}
    (mem : (tag, kind) ∈ requests) (t : ℕ) :
    ((requests.erase (tag, kind)).countP fun r => r.1 == t) + (if tag = t then 1 else 0) =
      requests.countP fun r => r.1 == t := by
  have perm := List.perm_cons_erase mem
  rw [perm.countP_eq, List.countP_cons]
  simp only [beq_iff_eq]

/-- The right result, once the reply is known to be the home node's. -/
theorem Accounted.right {g : Gang} {served : List (ℕ × Kind × Body)} (h : Accounted g served)
    (r : Returned) (mem : r ∈ g.returned) : Right served r := by
  have ⟨aborted, delivered⟩ := h.returned r mem
  simp only [Right]
  cases outcome : r.outcome with
  | none => exact aborted outcome
  | some o =>
    obtain ⟨body, alloc, arrived, delivers⟩ := delivered o outcome
    obtain ⟨kind, done⟩ := h.arrived _ arrived
    refine ⟨?_, kind, body, done, delivers⟩
    have once := h.once r.tag
    have positive : 0 < served.countP fun x => x.1 == r.tag :=
      List.countP_pos_iff.mpr ⟨_, done, by simp⟩
    omega

/-- A caller in another phase, and nothing else, where the new phase says nothing. -/
theorem Accounted.callers {g : Gang} {served : List (ℕ × Kind × Body)} (h : Accounted g served)
    {callers : List Caller}
    (begun : ∀ c ∈ callers, c.phase = .begun → Unserved served c.tag)
    (aborted : ∀ c ∈ callers, c.phase = .aborted → Unserved served c.tag) :
    Accounted { g with callers } served :=
  ⟨h.replies, h.arrived, h.once, h.below, begun, aborted, h.returned⟩

theorem accounted_begin {g : Gang} {served : List (ℕ × Kind × Body)} (h : Accounted g served)
    (thread : ℕ) (call : Call) :
    Accounted (WormholeGang.next g (.begin thread call)) served := by
  refine ⟨h.replies, h.arrived, h.once, ?_, ?_, ?_, h.returned⟩
  · intro x mem
    exact Nat.lt_succ_of_lt (h.below x mem)
  · intro c mem begun
    cases mem with
    | head =>
      intro x served same
      have below := h.below x served
      simp only at same
      omega
    | tail _ mem => exact h.begun c mem begun
  · intro c mem aborted
    cases mem with
    | head => cases aborted
    | tail _ mem => exact h.aborted c mem aborted

theorem accounted_send {g : Gang} {served : List (ℕ × Kind × Body)} (h : Accounted g served)
    (single : Single g) (c : Caller) (link : Bool) (en : WormholeGang.enabled g (.send c link)) :
    Accounted (WormholeGang.next g (.send c link)) served := by
  obtain ⟨mem, begun⟩ := en
  have moved : Accounted { g with callers := { c with phase := .waiting } :: g.callers.erase c }
      served := by
    apply h.callers
    · intro d hd is
      cases hd with
      | head => cases is
      | tail _ hd => exact h.begun d (List.mem_of_mem_erase hd) is
    · intro d hd is
      cases hd with
      | head => cases is
      | tail _ hd => exact h.aborted d (List.mem_of_mem_erase hd) is
  simp only [WormholeGang.next]
  split_ifs
  · exact ⟨moved.replies, moved.arrived, moved.once, moved.below, moved.begun, moved.aborted,
      moved.returned⟩
  · refine ⟨moved.replies, moved.arrived, ?_, moved.below, moved.begun, moved.aborted,
      moved.returned⟩
    intro tag
    have stage := single.stage c mem
    simp only [WormholeGang.Stage, begun] at stage
    have none := unserved_count (h.begun c mem begun)
    have old := h.once tag
    simp only [List.countP_cons, stage.2.1, List.countP_nil, beq_iff_eq]
    split_ifs with same
    · rw [← same, none]
    · rw [stage.2.1, List.countP_nil] at old
      exact old
  · exact moved

theorem accounted_serve {g : Gang} {served : List (ℕ × Kind × Body)} (h : Accounted g served)
    (numbered : Numbered g) (tag : ℕ) (kind : Kind) (body : Body)
    (mem : (tag, kind) ∈ g.requests)
    (begun : ∀ c ∈ g.callers, c.tag = tag → c.phase ≠ .begun)
    (callers : ∀ c ∈ g.callers, c.tag = tag → c.phase ≠ .aborted)
    (returned : ∀ r ∈ g.returned, r.tag = tag → r.outcome ≠ none) :
    Accounted (WormholeGang.next g (.serve tag kind body)) ((tag, kind, body) :: served) := by
  have other : ∀ t, Unserved served t → t ≠ tag → Unserved ((tag, kind, body) :: served) t := by
    intro t none apart x hx
    cases hx with
    | head => exact fun same => apart same.symm
    | tail _ hx => exact none x hx
  refine ⟨?_, ?_, ?_, ?_, ?_, ?_, ?_⟩
  · intro r hr
    cases hr with
    | head => exact List.mem_cons_self
    | tail _ hr => exact List.mem_cons_of_mem _ (h.replies r hr)
  · intro a ha
    obtain ⟨kind, done⟩ := h.arrived a ha
    exact ⟨kind, List.mem_cons_of_mem _ done⟩
  · intro t
    have moved := count_erase mem t
    have old := h.once t
    simp only [WormholeGang.next, List.countP_cons, beq_iff_eq]
    omega
  · intro x hx
    cases hx with
    | head => exact numbered.requests _ mem
    | tail _ hx => exact h.below x hx
  · intro c hc is
    exact other _ (h.begun c hc is) fun same => begun c hc same is
  · intro c hc is
    exact other _ (h.aborted c hc is) fun same => callers c hc same is
  · intro r hr
    obtain ⟨aborted, delivered⟩ := h.returned r hr
    exact ⟨fun is => other _ (aborted is) fun same => returned r hr same is, delivered⟩

theorem accounted_arrive {g : Gang} {served : List (ℕ × Kind × Body)} (h : Accounted g served)
    (tag : ℕ) (kind : Kind) (body : Body) (alloc : Bool) (mem : (tag, kind, body) ∈ g.replies) :
    Accounted (WormholeGang.next g (.arrive tag kind body alloc)) served := by
  refine ⟨?_, ?_, h.once, h.below, h.begun, h.aborted, ?_⟩
  · intro r hr
    exact h.replies r (List.mem_of_mem_erase hr)
  · intro a ha
    cases ha with
    | head => exact ⟨kind, h.replies _ mem⟩
    | tail _ ha => exact h.arrived a ha
  · intro r hr
    have ⟨aborted, delivered⟩ := h.returned r hr
    refine ⟨aborted, fun o outcome => ?_⟩
    obtain ⟨body, alloc, arrived, delivers⟩ := delivered o outcome
    exact ⟨body, alloc, List.mem_cons_of_mem _ arrived, delivers⟩

theorem accounted_lose {g : Gang} {served : List (ℕ × Kind × Body)} (h : Accounted g served)
    (tag : ℕ) (kind : Kind) (mem : (tag, kind) ∈ g.requests) :
    Accounted (WormholeGang.next g (.loseRequest tag kind)) served := by
  refine ⟨h.replies, h.arrived, ?_, h.below, h.begun, h.aborted, h.returned⟩
  intro t
  have moved := count_erase mem t
  have old := h.once t
  simp only [WormholeGang.next]
  omega

theorem accounted_look {g : Gang} {served : List (ℕ × Kind × Body)} (h : Accounted g served)
    (c : Caller) (clean : g.isMigrating = true → Unserved served c.tag) :
    Accounted (WormholeGang.next g (.look c)) served := by
  refine ⟨h.replies, h.arrived, h.once, h.below, ?_, ?_, h.returned⟩
  · intro d hd is
    cases hd with
    | head =>
      simp only at is
      split_ifs at is
    | tail _ hd => exact h.begun d (List.mem_of_mem_erase hd) is
  · intro d hd is
    cases hd with
    | head =>
      simp only at is
      split_ifs at is with migrating
      exact clean migrating
    | tail _ hd => exact h.aborted d (List.mem_of_mem_erase hd) is

theorem returned_conclude (g : Gang) (c : Caller) (env : Env) :
    (WormholeGang.next g (.conclude c env)).returned = result g c env :: g.returned := by
  simp only [WormholeGang.next, result]
  split_ifs <;> rfl

theorem accounted_conclude {g : Gang} {served : List (ℕ × Kind × Body)} (h : Accounted g served)
    (c : Caller) (env : Env) (mem : c ∈ g.callers)
    (delivered : ∀ o, (result g c env).outcome = some o →
      ∃ body alloc, ⟨c.tag, body, alloc⟩ ∈ g.arrived ∧ Delivers body o) :
    Accounted (WormholeGang.next g (.conclude c env)) served := by
  have rest : ∀ d ∈ (WormholeGang.next g (.conclude c env)).callers, d ∈ g.callers := by
    intro d hd
    have erased : (WormholeGang.next g (.conclude c env)).callers = g.callers.erase c := by
      simp only [WormholeGang.next]
      split_ifs <;> rfl
    rw [erased] at hd
    exact List.mem_of_mem_erase hd
  have same : (WormholeGang.next g (.conclude c env)).replies = g.replies ∧
      (WormholeGang.next g (.conclude c env)).arrived = g.arrived ∧
      (WormholeGang.next g (.conclude c env)).requests = g.requests ∧
      (WormholeGang.next g (.conclude c env)).next = g.next := by
    simp only [WormholeGang.next]
    split_ifs <;> exact ⟨rfl, rfl, rfl, rfl⟩
  refine ⟨?_, ?_, ?_, ?_, ?_, ?_, ?_⟩
  · rw [same.1]
    exact h.replies
  · rw [same.2.1]
    exact h.arrived
  · rw [same.2.2.1]
    exact h.once
  · rw [same.2.2.2]
    exact h.below
  · exact fun d hd => h.begun d (rest d hd)
  · exact fun d hd => h.aborted d (rest d hd)
  · rw [returned_conclude, same.2.1]
    intro r hr
    cases hr with
    | head =>
      refine ⟨fun none => ?_, delivered⟩
      simp only [result] at none
      split_ifs at none with aborted
      exact h.aborted c mem aborted
    | tail _ hr => exact h.returned r hr

/-! ### The calls -/

/-- The group, taken as stopped. -/
def stilled (s : Stops) : Stops := { s with stopped := true }

/-- What holds of the calls whoever continues the group. -/
structure Kept (s : Stops) (served : List (ℕ × Kind × Body)) : Prop where
  settled : Settled (stilled s)
  accounted : Accounted s.gang served
  held : ∀ h ∈ s.held, ∀ r, h.register = .injected r → r ∈ s.gang.returned
  resumed : ∀ h ∈ s.resumed, Shows s.gang.returned h

theorem settled_stilled {s : Stops} (h : Settled s) : Settled (stilled s) := by
  refine ⟨h.single, h.numbered, h.addressed, h.notWrite, h.own, ?_, h.resumed⟩
  intro x mem
  rcases h.held x mem with proper | ⟨native, -, waits⟩
  · exact .inl proper
  · exact .inr ⟨native, rfl, waits⟩

/-- A register that is not as the local call left it shows what its call returned. -/
theorem Kept.shows {s : Stops} {served : List (ℕ × Kind × Body)} (h : Kept s served) {x : Held}
    (mem : x ∈ s.held) (injected : x.register ≠ .native) : Shows s.gang.returned x := by
  rcases h.settled.held x mem with ⟨r, register, tag, -⟩ | ⟨native, -⟩
  · exact ⟨r, h.held x mem r register, register, tag⟩
  · exact absurd native injected

/-- With no call under way every thread shows what its call returned. -/
theorem Kept.idle {s : Stops} {served : List (ℕ × Kind × Body)} (h : Kept s served)
    (none : s.gang.callers = []) (x : Held) (mem : x ∈ s.held) : Shows s.gang.returned x := by
  obtain ⟨r, register, tag, -⟩ := h.settled.idle none x mem
  exact ⟨r, h.held x mem r register, register, tag⟩

theorem Shows.grows {returned : List Returned} {h : Held} (shows : Shows returned h)
    (more : List Returned) : Shows (more ++ returned) h := by
  obtain ⟨r, mem, rest⟩ := shows
  exact ⟨r, List.mem_append_right _ mem, rest⟩

/-- What an event adds to the results. -/
theorem returned_next (g : Gang) (e : WormholeGang.Event) :
    ∃ more, (WormholeGang.next g e).returned = more ++ g.returned := by
  cases e with
  | conclude c env => exact ⟨[result g c env], returned_conclude g c env⟩
  | send c link =>
    refine ⟨[], ?_⟩
    simp only [WormholeGang.next]
    split_ifs <;> rfl
  | _ => exact ⟨[], rfl⟩

theorem kept_begin {s : Stops} {served : List (ℕ × Kind × Body)} (h : Kept s served)
    (thread : ℕ) (call : Call) (en : WormholeStops.enabled s (.gang (.begin thread call)))
    (hok : WormholeStops.ok s (.gang (.begin thread call))) :
    Kept (WormholeStops.next s (.gang (.begin thread call))) served := by
  have settled := settled_begin h.settled thread call en hok
  have accounted := accounted_begin h.accounted thread call
  simp only [WormholeStops.next] at settled ⊢
  cases file : isFileOperation call.kind with
  | true =>
    rw [file] at settled
    exact ⟨settled, accounted, h.held, h.resumed⟩
  | false =>
    rw [file] at settled
    refine ⟨settled, accounted, ?_, h.resumed⟩
    intro x mem r register
    cases mem with
    | head => cases register
    | tail _ mem => exact h.held x mem r register

theorem kept_conclude {s : Stops} {served : List (ℕ × Kind × Body)} (h : Kept s served)
    (c : Caller) (env : Env) (en : WormholeStops.enabled s (.gang (.conclude c env)))
    (hok : WormholeStops.ok s (.gang (.conclude c env))) :
    Kept (WormholeStops.next s (.gang (.conclude c env))) served := by
  have settled := settled_stilled (settled_conclude h.settled c env ⟨en.1, fun _ => rfl⟩ hok)
  have accounted := accounted_conclude h.accounted c env en.1.1
    fun o outcome => h.settled.result_delivers en.1 hok.1 hok.2 outcome
  have resumed : ∀ x ∈ s.resumed,
      Shows (WormholeGang.next s.gang (.conclude c env)).returned x := by
    intro x mem
    rw [returned_conclude]
    exact (h.resumed x mem).grows [_]
  simp only [WormholeStops.next] at settled ⊢
  cases file : isFileOperation c.call.kind with
  | true =>
    rw [file] at settled
    refine ⟨settled, accounted, ?_, resumed⟩
    intro x mem r register
    change r ∈ (WormholeGang.next s.gang (.conclude c env)).returned
    rw [returned_conclude]
    exact List.mem_cons_of_mem _ (h.held x mem r register)
  | false =>
    rw [file] at settled
    refine ⟨settled, accounted, ?_, resumed⟩
    intro y mem r register
    obtain ⟨x, hx, rfl⟩ := List.mem_map.mp mem
    change r ∈ (WormholeGang.next s.gang (.conclude c env)).returned
    rw [returned_conclude]
    simp only [inject] at register
    split_ifs at register
    · rw [Register.injected.inj register]
      exact List.mem_cons_self
    · exact List.mem_cons_of_mem _ (h.held x hx r register)

/-- The events of the gang in the middle of a call. -/
theorem Kept.mid {s : Stops} {served : List (ℕ × Kind × Body)} (h : Kept s served)
    (e : WormholeGang.Event) (more : List (ℕ × Kind × Body)) (mid : midCall e = true)
    (en : WormholeGang.enabled s.gang e) (hok : WormholeGang.ok s.gang e)
    (accounted : Accounted (WormholeGang.next s.gang e) (more ++ served)) :
    Kept { s with gang := WormholeGang.next s.gang e } (more ++ served) := by
  obtain ⟨results, returned⟩ := returned_next s.gang e
  refine ⟨h.settled.mid mid en hok, accounted, ?_, ?_⟩
  · intro x mem r register
    dsimp only
    rw [returned]
    exact List.mem_append_right _ (h.held x mem r register)
  · intro x mem
    dsimp only
    rw [returned]
    exact (h.resumed x mem).grows _

theorem kept_gang {s : Stops} {served : List (ℕ × Kind × Body)} (h : Kept s served)
    (e : WormholeGang.Event) (en : WormholeStops.enabled s (.gang e))
    (hok : WormholeStops.ok s (.gang e))
    (look : ∀ c, e = .look c → s.gang.isMigrating = true → Unserved served c.tag)
    (serve : ∀ tag kind body, e = .serve tag kind body →
      (∀ c ∈ s.gang.callers, c.tag = tag → c.phase ≠ .aborted) ∧
        ∀ r ∈ s.gang.returned, r.tag = tag → r.outcome ≠ none) :
    Kept (WormholeStops.next s (.gang e)) (serving (.gang e) ++ served) := by
  have single := h.settled.single
  cases e with
  | begin thread call => exact kept_begin h thread call en hok
  | conclude c env => exact kept_conclude h c env en hok
  | send c link => exact h.mid _ [] rfl en hok (accounted_send h.accounted single c link en)
  | serve tag kind body =>
    obtain ⟨callers, returned⟩ := serve tag kind body rfl
    have begun : ∀ c ∈ s.gang.callers, c.tag = tag → c.phase ≠ .begun := by
      intro c mem _ begun
      have stage := single.stage c mem
      simp only [WormholeGang.Stage, begun] at stage
      have request := en.1
      change (tag, kind) ∈ s.gang.requests at request
      have empty : s.gang.requests = [] := stage.2.1
      simp [empty] at request
    exact h.mid _ [(tag, kind, body)] rfl en hok
      (accounted_serve h.accounted h.settled.numbered tag kind body en.1 begun callers returned)
  | loseRequest tag kind =>
    exact h.mid _ [] rfl en hok (accounted_lose h.accounted tag kind en)
  | arrive tag kind body alloc =>
    exact h.mid _ [] rfl en hok (accounted_arrive h.accounted tag kind body alloc en)
  | loseReply tag kind body =>
    have accounted : Accounted (WormholeGang.next s.gang (.loseReply tag kind body)) served := by
      refine ⟨?_, h.accounted.arrived, h.accounted.once, h.accounted.below, h.accounted.begun,
        h.accounted.aborted, h.accounted.returned⟩
      intro r mem
      exact h.accounted.replies r (List.mem_of_mem_erase mem)
    exact h.mid _ [] rfl en hok accounted
  | look c =>
    exact h.mid _ [] rfl en hok (accounted_look h.accounted c (look c rfl))
  | setMigrating b =>
    have accounted : Accounted (WormholeGang.next s.gang (.setMigrating b)) served :=
      ⟨h.accounted.replies, h.accounted.arrived, h.accounted.once, h.accounted.below,
        h.accounted.begun, h.accounted.aborted, h.accounted.returned⟩
    exact h.mid _ [] rfl en hok accounted

/-- Who continues or stops the group does not matter. -/
theorem Kept.stops {s : Stops} {served : List (ℕ × Kind × Body)} (h : Kept s served) (b : Bool) :
    Kept { s with stopped := b } served := ⟨h.settled, h.accounted, h.held, h.resumed⟩

/-- A thread with the result of its call goes on in user mode. -/
theorem kept_resume {s : Stops} {served : List (ℕ × Kind × Body)} (h : Kept s served) (x : Held)
    (mem : x ∈ s.held) (injected : x.register ≠ .native) :
    Kept (WormholeStops.next s (.resume x)) served := by
  have shows := h.shows mem injected
  have settled := h.settled
  refine ⟨⟨settled.single, settled.numbered, settled.addressed, settled.notWrite, ?_, ?_, ?_⟩,
    h.accounted, ?_, ?_⟩
  · intro c hc notFile y hy
    exact settled.own c hc notFile y (List.mem_of_mem_erase hy)
  · intro y hy
    exact settled.held y (List.mem_of_mem_erase hy)
  · intro y hy
    cases hy with
    | head =>
      rcases settled.held x mem with proper | ⟨native, -⟩
      · exact proper
      · exact absurd native injected
    | tail _ hy => exact settled.resumed y hy
  · intro y hy
    exact h.held y (List.mem_of_mem_erase hy)
  · intro y hy
    cases hy with
    | head => exact shows
    | tail _ hy => exact h.resumed y hy

/-! ### The recall -/

structure Sound (s : Recall) : Prop where
  kept : Kept s.stops s.served
  registers : ∀ h ∈ s.registers, Shows s.stops.gang.returned h
  memory : s.stage = .pumped → ∀ h ∈ s.registers, Shows s.memory h
  stopped : s.stage.still = true → s.stops.stopped = true
  migrating : s.stage ≠ .idle → s.stops.gang.isMigrating = true
  finished : s.stage = .copied ∨ s.stage = .pumped → s.stops.gang.callers = []

theorem still_marked {stage : Stage} (still : stage.still = true) : stage ≠ .idle := by
  intro idle
  rw [idle] at still
  cases still

theorem gang_next (s : Stops) (e : WormholeGang.Event) :
    (WormholeStops.next s (.gang e)).gang = WormholeGang.next s.gang e := by
  cases e with
  | begin thread call =>
    simp only [WormholeStops.next]
    split_ifs <;> rfl
  | conclude c env =>
    simp only [WormholeStops.next]
    split_ifs <;> rfl
  | _ => rfl

/-- No event of the calls continues a group that is being migrated. -/
theorem stopped_gang {s : Stops} (stopped : s.stopped = true)
    (migrating : s.gang.isMigrating = true) (e : WormholeGang.Event) :
    (WormholeStops.next s (.gang e)).stopped = true := by
  cases e with
  | begin thread call =>
    simp only [WormholeStops.next]
    split_ifs
    · exact stopped
    · rfl
  | conclude c env =>
    simp only [WormholeStops.next]
    split_ifs
    · exact stopped
    · exact migrating
  | _ => exact stopped

theorem migrating_next {g : Gang} (migrating : g.isMigrating = true) {e : WormholeGang.Event}
    (kept : ∀ b, e ≠ .setMigrating b) : (WormholeGang.next g e).isMigrating = true := by
  cases e with
  | send c link =>
    simp only [WormholeGang.next]
    split_ifs <;> exact migrating
  | conclude c env =>
    simp only [WormholeGang.next]
    split_ifs <;> exact migrating
  | setMigrating b => exact absurd rfl (kept b)
  | _ => exact migrating

/-- Where no call is under way only the beginning of one adds a caller. -/
theorem callers_next {g : Gang} (none : g.callers = []) {e : WormholeGang.Event}
    (en : WormholeGang.enabled g e) (begins : ∀ thread call, e ≠ .begin thread call) :
    (WormholeGang.next g e).callers = [] := by
  cases e with
  | begin thread call => exact absurd rfl (begins thread call)
  | send c link => simp [WormholeGang.enabled, none] at en
  | look c => simp [WormholeGang.enabled, none] at en
  | conclude c env => simp [WormholeGang.enabled, none] at en
  | _ => exact none

theorem sound_gang {s : Recall} (h : Sound s) (e : WormholeGang.Event)
    (en : enabled s (.call (.gang e))) (hok : ok s (.call (.gang e))) :
    Sound (next s (.call (.gang e))) := by
  have runs : WormholeStops.enabled s.stops (.gang e) := by
    cases e with
    | begin thread call => exact en.1
    | setMigrating b => cases en
    | _ => exact en
  have allowed : WormholeStops.ok s.stops (.gang e) := by
    cases e with
    | look c => trivial
    | serve tag kind body => trivial
    | _ => exact hok
  have inner : WormholeGang.enabled s.stops.gang e := by
    cases e with
    | begin thread call => exact runs.1
    | conclude c env => exact runs.1
    | _ => exact runs
  have kept := kept_gang h.kept e runs allowed
    (fun c is => by subst is; exact hok) (fun tag kind body is => by subst is; exact hok)
  obtain ⟨results, returned⟩ := returned_next s.stops.gang e
  refine ⟨kept, ?_, h.memory, ?_, ?_, ?_⟩
  · intro x mem
    simp only [next, gang_next, returned]
    exact (h.registers x mem).grows results
  · intro still
    exact stopped_gang (h.stopped still) (h.migrating (still_marked still)) e
  · intro marked
    simp only [next, gang_next]
    apply migrating_next (h.migrating marked)
    intro b is
    subst is
    exact en
  · intro done
    have still : s.stage.still = true := by
      rcases done with is | is
      · change s.stage = .copied at is
        rw [is]
        rfl
      · change s.stage = .pumped at is
        rw [is]
        rfl
    simp only [next, gang_next]
    apply callers_next (h.finished done) inner
    intro thread call is
    subst is
    have running := en.2 still
    rw [h.stopped still] at running
    cases running

theorem sound_call {s : Recall} (h : Sound s) (e : WormholeStops.Event)
    (en : enabled s (.call e)) (hok : ok s (.call e)) : Sound (next s (.call e)) := by
  cases e with
  | gang e => exact sound_gang h e en hok
  | giveUp c => cases hok
  | cont =>
    refine ⟨h.kept.stops false, h.registers, h.memory, ?_, h.migrating, h.finished⟩
    intro still
    simp only [ok] at hok
    simp only [next] at still
    rw [hok] at still
    cases still
  | stop => exact ⟨h.kept.stops true, h.registers, h.memory, fun _ => rfl, h.migrating, h.finished⟩
  | resume x =>
    exact ⟨kept_resume h.kept x en.1 hok, h.registers, h.memory, h.stopped, h.migrating, h.finished⟩

/-- Whether the guest is marked says nothing about its calls so far. -/
theorem Kept.setMigrating {s : Stops} {served : List (ℕ × Kind × Body)} (h : Kept s served)
    (b : Bool) : Kept (setMigrating s b) served := by
  have single := single_next h.settled.single (.setMigrating b) trivial trivial
  have settled := h.settled
  have accounted := h.accounted
  exact ⟨⟨single, ⟨settled.numbered.requests, settled.numbered.replies, settled.numbered.arrived,
      settled.numbered.callers⟩, fun c mem => ⟨(settled.addressed c mem).requests,
      (settled.addressed c mem).replies, (settled.addressed c mem).arrived⟩, settled.notWrite,
      settled.own, settled.held, settled.resumed⟩,
    ⟨accounted.replies, accounted.arrived, accounted.once, accounted.below, accounted.begun,
      accounted.aborted, accounted.returned⟩, h.held, h.resumed⟩

theorem sound_next {s : Recall} (h : Sound s) (e : Event) (en : enabled s e) (hok : ok s e) :
    Sound (next s e) := by
  cases e with
  | call e => exact sound_call h e en hok
  | mark =>
    refine ⟨h.kept.setMigrating true, h.registers, ?_, ?_, ?_, ?_⟩
    · intro none
      cases none
    · intro none
      cases none
    · exact fun _ => rfl
    · rintro (none | none) <;> cases none
  | thaw thread stopped =>
    have marked : s.stage ≠ .idle := by
      rcases en with is | ⟨is, -⟩ <;> simp [is]
    refine ⟨h.kept.stops _, h.registers, ?_, ?_, fun _ => h.migrating marked, ?_⟩
    · intro none
      cases none
    · intro none
      cases none
    · rintro (none | none) <;> cases none
  | freeze =>
    obtain ⟨thread, thawed, -⟩ := en
    have marked : s.stage ≠ .idle := by simp [thawed]
    refine ⟨h.kept.stops true, h.registers, ?_, fun _ => rfl, fun _ => h.migrating marked, ?_⟩
    · intro none
      cases none
    · rintro (none | none) <;> cases none
  | copy =>
    have frozen : s.stage = .frozen := en
    have still : s.stage.still = true := by
      rw [frozen]
      rfl
    refine ⟨h.kept, h.kept.idle hok, ?_, fun _ => h.stopped still,
      fun _ => h.migrating (still_marked still), fun _ => hok⟩
    intro none
    cases none
  | sendFails =>
    refine ⟨(h.kept.setMigrating false).stops false, ?_, ?_, ?_, ?_, ?_⟩
    · intro x mem
      cases mem
    · intro none
      cases none
    · intro none
      cases none
    · exact fun marked => absurd rfl marked
    · rintro (none | none) <;> cases none
  | pump =>
    have copied : s.stage = .copied := en
    have still : s.stage.still = true := by
      rw [copied]
      rfl
    exact ⟨h.kept, h.registers, fun _ => h.registers, fun _ => h.stopped still,
      fun _ => h.migrating (still_marked still), fun _ => h.finished (.inl copied)⟩

theorem sound_start (record : Record) (leader : ℕ) : Sound (start record leader) := by
  have settled : Settled (stilled (WormholeStops.start record)) := by
    refine ⟨⟨?_, ?_, ?_⟩, ⟨?_, ?_, ?_, ?_⟩, ?_, ?_, ?_, ?_, ?_⟩ <;>
      simp [stilled, WormholeStops.start, WormholeGang.start, OwnResults, NoEarlyResume]
  have accounted : Accounted (WormholeGang.start record) [] := by
    constructor <;> simp [WormholeGang.start]
  refine ⟨⟨settled, accounted, ?_, ?_⟩, ?_, ?_, ?_, ?_, ?_⟩ <;>
    simp [start, WormholeStops.start, Stage.still]

def recvfrom : Call := ⟨.recvfrom, true, 2⟩

/-- The home node takes two bytes from the socket before the worker looks again. -/
def consumed : List Event :=
  [.call (.gang (.begin 1 recvfrom)), .call (.gang (.send ⟨1, 0, recvfrom, .begun⟩ true)), .mark,
    .call (.gang (.serve 0 .recvfrom (.data 2 0 [7, 8]))),
    .call (.gang (.arrive 0 .recvfrom (.data 2 0 [7, 8]) true)),
    .call (.gang (.look ⟨1, 0, recvfrom, .waiting⟩)), .thaw 1 true, .freeze,
    .call (.gang (.conclude ⟨1, 0, recvfrom, .aborted⟩ env)), .copy]

end MattX.RecallCalls
