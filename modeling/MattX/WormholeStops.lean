import MattX.WormholeGang

set_option autoImplicit false

/-!
# Stopping the gang for a call

A return handler stops the thread group before it schedules the worker of the
call, and the worker, once it has put the result in the return register,
continues it. Any SIGCONT continues all threads, those in other calls too.
-/
namespace MattX.WormholeStops
open GuardedRuns WormholeCalls WormholeReplies WormholeGang

/-- A return register: what the sabotaged local call left (or the `-EINTR` some return handlers put
there at once), or what the worker of some call put there. -/
inductive Register where
  | native
  | injected (r : Returned)
  deriving DecidableEq

/-- A thread in an intercepted call. -/
structure Held where
  thread : ℕ
  tag : ℕ
  register : Register
  deriving DecidableEq

/-- The gang, whether its thread group is stopped, the threads in intercepted calls, and those
calls that went back to user mode. -/
structure Stops where
  gang : Gang
  stopped : Bool
  held : List Held
  resumed : List Held

/-- `cont` and `stop`: signals from elsewhere. `giveUp`: the thread did not stop within two
seconds, or is exiting. -/
inductive Event where
  | gang (e : WormholeGang.Event)
  | giveUp (c : Caller)
  | cont
  | stop
  | resume (h : Held)

/-- A thread that the stop of another one has not reached yet may begin a call; a worker injects a
result only while the group is stopped. -/
def enabled (s : Stops) : Event → Prop
  | .gang (.begin thread call) => WormholeGang.enabled s.gang (.begin thread call) ∧
      ∀ h ∈ s.held, h.thread ≠ thread
  | .gang (.conclude c env) => WormholeGang.enabled s.gang (.conclude c env) ∧
      (isFileOperation c.call.kind = false → s.stopped = true)
  | .gang e => WormholeGang.enabled s.gang e
  | .giveUp c => c ∈ s.gang.callers ∧ c.phase ≠ .begun ∧ c.phase ≠ .waiting
  | .cont | .stop => True
  | .resume h => h ∈ s.held ∧ s.stopped = false

/-- What the end of a worker leaves in the return register. -/
def result (g : Gang) (c : Caller) (env : Env) : Returned :=
  ⟨c.tag, c.call, env, if c.phase = .aborted then none
    else some (awakening c.call.kind c.call c.phase.remoteFd env g.record).1⟩

/-- The worker knows its thread by the pid. -/
def inject (c : Caller) (r : Returned) (h : Held) : Held :=
  if h.thread = c.thread then { h with register := .injected r } else h

def next (s : Stops) : Event → Stops
  | .gang (.begin thread call) =>
    let s' := { s with gang := WormholeGang.next s.gang (.begin thread call) }
    if isFileOperation call.kind then s'
    else { s' with stopped := true, held := ⟨thread, s.gang.next, .native⟩ :: s.held }
  | .gang (.conclude c env) =>
    let s' := { s with gang := WormholeGang.next s.gang (.conclude c env) }
    if isFileOperation c.call.kind then s'
    else
      { s' with
        stopped := s.gang.isMigrating, held := s.held.map (inject c (result s.gang c env)) }
  | .gang e => { s with gang := WormholeGang.next s.gang e }
  | .giveUp c => { s with gang := { s.gang with callers := s.gang.callers.erase c } }
  | .cont => { s with stopped := false }
  | .stop => { s with stopped := true }
  | .resume h => { s with held := s.held.erase h, resumed := h :: s.resumed }

def machine : Machine Stops Event := ⟨enabled, next⟩

instance (s : Stops) : DecidablePred (enabled s)
  | .gang (.begin thread call) =>
    inferInstanceAs (Decidable (WormholeGang.enabled s.gang (.begin thread call) ∧
      ∀ h ∈ s.held, h.thread ≠ thread))
  | .gang (.conclude c env) =>
    inferInstanceAs (Decidable (WormholeGang.enabled s.gang (.conclude c env) ∧
      (isFileOperation c.call.kind = false → s.stopped = true)))
  | .gang (.send c link) => inferInstanceAs (Decidable (WormholeGang.enabled s.gang (.send c link)))
  | .gang (.serve tag kind body) =>
    inferInstanceAs (Decidable (WormholeGang.enabled s.gang (.serve tag kind body)))
  | .gang (.loseRequest tag kind) =>
    inferInstanceAs (Decidable (WormholeGang.enabled s.gang (.loseRequest tag kind)))
  | .gang (.arrive tag kind body alloc) =>
    inferInstanceAs (Decidable (WormholeGang.enabled s.gang (.arrive tag kind body alloc)))
  | .gang (.loseReply tag kind body) =>
    inferInstanceAs (Decidable (WormholeGang.enabled s.gang (.loseReply tag kind body)))
  | .gang (.look c) => inferInstanceAs (Decidable (WormholeGang.enabled s.gang (.look c)))
  | .gang (.setMigrating b) =>
    inferInstanceAs (Decidable (WormholeGang.enabled s.gang (.setMigrating b)))
  | .giveUp c =>
    inferInstanceAs (Decidable (c ∈ s.gang.callers ∧ c.phase ≠ .begun ∧ c.phase ≠ .waiting))
  | .cont | .stop => isTrue trivial
  | .resume h => inferInstanceAs (Decidable (h ∈ s.held ∧ s.stopped = false))

instance (s : Stops) : DecidablePred (machine.enabled s) :=
  inferInstanceAs (DecidablePred (enabled s))

def start (record : Record) : Stops := ⟨WormholeGang.start record, false, [], []⟩

/-- The register has the home node's result for this very call, or the `-EINTR` of an abort. -/
def Proper (arrived : List Arrival) (h : Held) : Prop :=
  ∃ r, h.register = .injected r ∧ r.tag = h.tag ∧ ∀ o, r.outcome = some o →
    ∃ body alloc, ⟨h.tag, body, alloc⟩ ∈ arrived ∧ Delivers body o

/-- No call came back to user mode with anything else. -/
def NoEarlyResume (s : Stops) : Prop := ∀ h ∈ s.resumed, Proper s.gang.arrived h

/-- One call at a time, whose worker waits until the thread has stopped, decodes the reply and is
the one to continue the group. A write has no reply to wait for. -/
def ok (s : Stops) : Event → Prop
  | .gang (.begin thread call) =>
    WormholeGang.ok s.gang (.begin thread call) ∧ call.kind ≠ .write
  | .gang (.conclude c env) => WormholeGang.ok s.gang (.conclude c env) ∧
      ∀ a ∈ s.gang.arrived, a.tag = c.tag →
        Decoded ⟨c.call, { env with handlerAlloc := a.alloc }, a.body⟩
  | .gang e => WormholeGang.ok s.gang e
  | .giveUp _ => False
  | .cont => ∀ h ∈ s.held, h.register ≠ .native
  | .stop | .resume _ => True

instance (x : Exchange) : Decidable (Decoded x) := by
  unfold Decoded CanMap
  split <;> infer_instance

instance (s : Stops) : DecidablePred (ok s)
  | .gang (.begin thread call) =>
    inferInstanceAs (Decidable (WormholeGang.ok s.gang (.begin thread call) ∧ call.kind ≠ .write))
  | .gang (.conclude c env) =>
    inferInstanceAs (Decidable (WormholeGang.ok s.gang (.conclude c env) ∧
      ∀ a ∈ s.gang.arrived, a.tag = c.tag →
        Decoded ⟨c.call, { env with handlerAlloc := a.alloc }, a.body⟩))
  | .gang (.send c link) => inferInstanceAs (Decidable (WormholeGang.ok s.gang (.send c link)))
  | .gang (.serve tag kind body) =>
    inferInstanceAs (Decidable (WormholeGang.ok s.gang (.serve tag kind body)))
  | .gang (.loseRequest tag kind) =>
    inferInstanceAs (Decidable (WormholeGang.ok s.gang (.loseRequest tag kind)))
  | .gang (.arrive tag kind body alloc) =>
    inferInstanceAs (Decidable (WormholeGang.ok s.gang (.arrive tag kind body alloc)))
  | .gang (.loseReply tag kind body) =>
    inferInstanceAs (Decidable (WormholeGang.ok s.gang (.loseReply tag kind body)))
  | .gang (.look c) => inferInstanceAs (Decidable (WormholeGang.ok s.gang (.look c)))
  | .gang (.setMigrating b) =>
    inferInstanceAs (Decidable (WormholeGang.ok s.gang (.setMigrating b)))
  | .giveUp _ => isFalse id
  | .cont => inferInstanceAs (Decidable (∀ h ∈ s.held, h.register ≠ .native))
  | .stop | .resume _ => isTrue trivial

/-! ### Numbers -/

/-- Every number that is about was given out. -/
structure Numbered (g : Gang) : Prop where
  requests : ∀ r ∈ g.requests, r.1 < g.next
  replies : ∀ r ∈ g.replies, r.1 < g.next
  arrived : ∀ a ∈ g.arrived, a.tag < g.next
  callers : ∀ c ∈ g.callers, c.tag < g.next

theorem numbered_next {g : Gang} (h : Numbered g) (e : WormholeGang.Event)
    (en : WormholeGang.enabled g e) : Numbered (WormholeGang.next g e) := by
  cases e with
  | begin thread call =>
    refine ⟨?_, ?_, ?_, ?_⟩
    · exact fun r hr => Nat.lt_succ_of_lt (h.requests r hr)
    · exact fun r hr => Nat.lt_succ_of_lt (h.replies r hr)
    · exact fun a ha => Nat.lt_succ_of_lt (h.arrived a ha)
    · intro c hc
      cases hc with
      | head => exact Nat.lt_succ_self _
      | tail _ hc => exact Nat.lt_succ_of_lt (h.callers c hc)
  | send c link =>
    obtain ⟨mem, -⟩ := en
    have callers : ∀ d ∈ { c with phase := .waiting } :: g.callers.erase c, d.tag < g.next := by
      intro d hd
      cases hd with
      | head => exact h.callers c mem
      | tail _ hd => exact h.callers d (List.mem_of_mem_erase hd)
    simp only [WormholeGang.next]
    split_ifs
    · exact ⟨h.requests, h.replies, h.arrived, callers⟩
    · refine ⟨?_, h.replies, h.arrived, callers⟩
      intro r hr
      cases hr with
      | head => exact h.callers c mem
      | tail _ hr => exact h.requests r hr
    · exact ⟨h.requests, h.replies, h.arrived, callers⟩
  | serve tag kind body =>
    refine ⟨fun r hr => h.requests r (List.mem_of_mem_erase hr), ?_, h.arrived, h.callers⟩
    intro r hr
    cases hr with
    | head => exact h.requests _ en.1
    | tail _ hr => exact h.replies r hr
  | loseRequest tag kind =>
    exact ⟨fun r hr => h.requests r (List.mem_of_mem_erase hr), h.replies, h.arrived, h.callers⟩
  | arrive tag kind body alloc =>
    refine ⟨h.requests, fun r hr => h.replies r (List.mem_of_mem_erase hr), ?_, h.callers⟩
    intro a ha
    cases ha with
    | head => exact h.replies _ en
    | tail _ ha => exact h.arrived a ha
  | loseReply tag kind body =>
    exact ⟨h.requests, fun r hr => h.replies r (List.mem_of_mem_erase hr), h.arrived, h.callers⟩
  | look c =>
    refine ⟨h.requests, h.replies, h.arrived, ?_⟩
    intro d hd
    cases hd with
    | head => exact h.callers c en.1
    | tail _ hd => exact h.callers d (List.mem_of_mem_erase hd)
  | conclude c env =>
    have callers : ∀ d ∈ g.callers.erase c, d.tag < g.next :=
      fun d hd => h.callers d (List.mem_of_mem_erase hd)
    simp only [WormholeGang.next]
    split_ifs
    · exact ⟨h.requests, h.replies, h.arrived, callers⟩
    · exact ⟨h.requests, h.replies, h.arrived, callers⟩
  | setMigrating b => exact ⟨h.requests, h.replies, h.arrived, h.callers⟩

/-! ### Messages and callers -/

/-- All that carries the number of the caller is about its call. -/
structure Addressed (g : Gang) (c : Caller) : Prop where
  requests : ∀ r ∈ g.requests, r.1 = c.tag → r.2 = c.call.kind
  replies : ∀ r ∈ g.replies, r.1 = c.tag → r.2.1 = c.call.kind ∧ Sends c.call.kind r.2.2
  arrived : ∀ a ∈ g.arrived, a.tag = c.tag → Sends c.call.kind a.body

/-- The same call, maybe in another phase. -/
def SameCall (d c : Caller) : Prop := d.thread = c.thread ∧ d.tag = c.tag ∧ d.call = c.call

theorem SameCall.addressed {g : Gang} {d c : Caller} (same : SameCall d c) (h : Addressed g c) :
    Addressed g d := by
  obtain ⟨-, tag, call⟩ := same
  refine ⟨?_, ?_, ?_⟩ <;> rw [tag, call]
  · exact h.requests
  · exact h.replies
  · exact h.arrived

/-- Events that neither begin nor end a call. -/
def midCall : WormholeGang.Event → Bool
  | .begin .. | .conclude .. => false
  | _ => true

theorem callers_mid {g : Gang} {e : WormholeGang.Event} (mid : midCall e = true)
    (en : WormholeGang.enabled g e) :
    (∀ d ∈ (WormholeGang.next g e).callers, ∃ c ∈ g.callers, SameCall d c) ∧
      ∀ c ∈ g.callers, ∃ d ∈ (WormholeGang.next g e).callers, SameCall d c := by
  have moved (c : Caller) (mem : c ∈ g.callers) (phase : Phase) :
      (∀ d ∈ { c with phase } :: g.callers.erase c, ∃ c ∈ g.callers, SameCall d c) ∧
        ∀ d ∈ g.callers, ∃ d' ∈ { c with phase } :: g.callers.erase c, SameCall d' d := by
    constructor
    · intro d hd
      cases hd with
      | head => exact ⟨c, mem, rfl, rfl, rfl⟩
      | tail _ hd => exact ⟨d, List.mem_of_mem_erase hd, rfl, rfl, rfl⟩
    · intro d hd
      by_cases same : d = c
      · exact ⟨_, List.mem_cons_self, by rw [same]; exact ⟨rfl, rfl, rfl⟩⟩
      · exact ⟨d, List.mem_cons_of_mem _ ((List.mem_erase_of_ne same).mpr hd), rfl, rfl, rfl⟩
  have still : (∀ d ∈ g.callers, ∃ c ∈ g.callers, SameCall d c) ∧
      ∀ c ∈ g.callers, ∃ d ∈ g.callers, SameCall d c :=
    ⟨fun d hd => ⟨d, hd, rfl, rfl, rfl⟩, fun c hc => ⟨c, hc, rfl, rfl, rfl⟩⟩
  cases e with
  | begin | conclude => cases mid
  | send c link =>
    have callers : (WormholeGang.next g (.send c link)).callers =
        { c with phase := .waiting } :: g.callers.erase c := by
      simp only [WormholeGang.next]
      split_ifs <;> rfl
    rw [callers]
    exact moved c en.1 .waiting
  | look c => exact moved c en.1 _
  | serve | loseRequest | arrive | loseReply | setMigrating => exact still

theorem addressed_mid {g : Gang} {e : WormholeGang.Event} (mid : midCall e = true)
    (en : WormholeGang.enabled g e) (single : Single g) {c : Caller} (mem : c ∈ g.callers)
    (h : Addressed g c) : Addressed (WormholeGang.next g e) c := by
  cases e with
  | begin | conclude => cases mid
  | send d link =>
    have only := single.alone en.1
    have same : c = d := by simpa [only] using mem
    simp only [WormholeGang.next]
    split_ifs
    · exact ⟨h.requests, h.replies, h.arrived⟩
    · refine ⟨?_, h.replies, h.arrived⟩
      intro r hr tag
      cases hr with
      | head => rw [same]
      | tail _ hr => exact h.requests r hr tag
    · exact ⟨h.requests, h.replies, h.arrived⟩
  | serve tag kind body =>
    refine ⟨fun r hr => h.requests r (List.mem_of_mem_erase hr), ?_, h.arrived⟩
    intro r hr own
    cases hr with
    | head =>
      have kinds : kind = c.call.kind := h.requests _ en.1 own
      exact ⟨kinds, kinds ▸ en.2⟩
    | tail _ hr => exact h.replies r hr own
  | loseRequest tag kind =>
    exact ⟨fun r hr => h.requests r (List.mem_of_mem_erase hr), h.replies, h.arrived⟩
  | arrive tag kind body alloc =>
    refine ⟨h.requests, fun r hr => h.replies r (List.mem_of_mem_erase hr), ?_⟩
    intro a ha own
    cases ha with
    | head => exact (h.replies _ en own).2
    | tail _ ha => exact h.arrived a ha own
  | loseReply tag kind body =>
    exact ⟨h.requests, fun r hr => h.replies r (List.mem_of_mem_erase hr), h.arrived⟩
  | look | setMigrating => exact ⟨h.requests, h.replies, h.arrived⟩

/-! ### The result of a worker -/

/-- The branches do not look at what the handler could allocate. -/
theorem awakening_handlerAlloc (k : Kind) (c : Call) (r : ℤ) (env : Env) (alloc : Bool)
    (g : Record) :
    awakening k c r { env with handlerAlloc := alloc } g = awakening k c r env g := by
  cases k <;> rfl

theorem withGap_own (b : Body) : ∃ gap, withGap gap b = b := by
  cases b with
  | sent gap n error => exact ⟨gap, rfl⟩
  | _ => exact ⟨0, rfl⟩

/-- A worker that sees the reply to its own call gives the thread what the reply says. -/
theorem landed_delivers {g : Gang} {c : Caller} (landed : Landed g c)
    (notWrite : c.call.kind ≠ .write) (addressed : Addressed g c) (env : Env)
    (decoded : ∀ a ∈ g.arrived, a.tag = c.tag →
      Decoded ⟨c.call, { env with handlerAlloc := a.alloc }, a.body⟩) :
    ∃ body alloc, ⟨c.tag, body, alloc⟩ ∈ g.arrived ∧
      Delivers body (awakening c.call.kind c.call g.record.remoteFd env g.record).1 := by
  obtain ⟨-, -, body, alloc, g₀, record, whose, settled⟩ := landed
  have mem : ⟨c.tag, body, alloc⟩ ∈ g.arrived := whose.resolve_left notWrite
  have sends := addressed.arrived _ mem rfl
  have fits := decoded _ mem rfl
  have clear : ¬ Garbled ⟨c.call, { env with handlerAlloc := alloc }, body⟩ :=
    fun garbled => (garbled.not_faithful sends).2 fits
  obtain ⟨gap, own⟩ := withGap_own body
  have delivers := (delivers_iff _ sends clear g₀ gap).mpr fits
  refine ⟨body, alloc, mem, ?_⟩
  simp only [own] at delivers
  have outcome : (exchange g₀ ⟨c.call, { env with handlerAlloc := alloc }, body⟩).1 =
      resultOn c.call env body alloc (beginCall c.call g₀) := by
    simp only [exchange, answered, if_neg notWrite, resultOn, WormholeGang.landed,
      awakening_handlerAlloc]
  rw [outcome, settled env] at delivers
  rw [record]
  exact delivers

/-! ### Stopped until the result is in -/

/-- The register is as the local call left it, the group is stopped, and the worker of the call is
still to come. -/
def Waits (s : Stops) (h : Held) : Prop :=
  h.register = .native ∧ s.stopped = true ∧
    ∃ c ∈ s.gang.callers, isFileOperation c.call.kind = false ∧ c.thread = h.thread

structure Settled (s : Stops) : Prop where
  single : Single s.gang
  numbered : Numbered s.gang
  addressed : ∀ c ∈ s.gang.callers, Addressed s.gang c
  notWrite : ∀ c ∈ s.gang.callers, c.call.kind ≠ .write
  own : ∀ c ∈ s.gang.callers, isFileOperation c.call.kind = false →
    ∀ h ∈ s.held, h.thread = c.thread → h.tag = c.tag
  held : ∀ h ∈ s.held, Proper s.gang.arrived h ∨ Waits s h
  resumed : NoEarlyResume s

theorem Proper.grows {arrived arrived' : List Arrival} {h : Held} (proper : Proper arrived h)
    (more : ∀ a ∈ arrived, a ∈ arrived') : Proper arrived' h := by
  obtain ⟨r, register, tag, delivered⟩ := proper
  refine ⟨r, register, tag, ?_⟩
  intro o outcome
  obtain ⟨body, alloc, mem, delivers⟩ := delivered o outcome
  exact ⟨body, alloc, more _ mem, delivers⟩

/-- With no call under way every register is settled. -/
theorem Settled.idle {s : Stops} (h : Settled s) (none : s.gang.callers = []) :
    ∀ x ∈ s.held, Proper s.gang.arrived x := by
  intro x mem
  rcases h.held x mem with proper | ⟨-, -, c, caller, -⟩
  · exact proper
  · simp [none] at caller

theorem settled_begin {s : Stops} (h : Settled s) (thread : ℕ) (call : Call)
    (en : enabled s (.gang (.begin thread call))) (hok : ok s (.gang (.begin thread call))) :
    Settled (next s (.gang (.begin thread call))) := by
  obtain ⟨free, notWrite⟩ := hok
  obtain ⟨begun, apart⟩ := en
  have proper := h.idle free.1
  have only : ∀ c ∈ (WormholeGang.next s.gang (.begin thread call)).callers,
      c = ⟨thread, s.gang.next, call, .begun⟩ := by
    intro c mem
    simpa [WormholeGang.next, free.1] using mem
  have single := single_begin h.single thread call free
  have numbered := numbered_next h.numbered _ begun
  have addressed : ∀ c ∈ (WormholeGang.next s.gang (.begin thread call)).callers,
      Addressed (WormholeGang.next s.gang (.begin thread call)) c := by
    intro c mem
    rw [only c mem]
    refine ⟨?_, ?_, ?_⟩
    · intro r hr tag
      have old := h.numbered.requests r hr
      simp only at tag
      omega
    · intro r hr tag
      have old := h.numbered.replies r hr
      simp only at tag
      omega
    · intro a ha tag
      have old := h.numbered.arrived a ha
      simp only at tag
      omega
  have kinds : ∀ c ∈ (WormholeGang.next s.gang (.begin thread call)).callers,
      c.call.kind ≠ .write := by
    intro c mem
    rw [only c mem]
    exact notWrite
  simp only [next]
  cases file : isFileOperation call.kind with
  | true =>
    refine ⟨single, numbered, addressed, kinds, ?_, fun x mem => .inl (proper x mem), h.resumed⟩
    intro c mem notFile
    rw [only c mem] at notFile
    simp [file] at notFile
  | false =>
    refine ⟨single, numbered, addressed, kinds, ?_, ?_, h.resumed⟩
    · intro c mem _ x hx same
      rw [only c mem] at same ⊢
      cases hx with
      | head => rfl
      | tail _ hx => exact absurd same (apart x hx)
    · intro x hx
      cases hx with
      | head => exact .inr ⟨rfl, rfl, _, List.mem_cons_self, file, rfl⟩
      | tail _ hx => exact .inl (proper x hx)

/-- A step of the gang in the middle of a call. -/
theorem Settled.mid {s : Stops} (h : Settled s) {e : WormholeGang.Event} (mid : midCall e = true)
    (en : WormholeGang.enabled s.gang e) (hok : WormholeGang.ok s.gang e) :
    Settled { s with gang := WormholeGang.next s.gang e } := by
  obtain ⟨from', to'⟩ := callers_mid mid en
  have grows : ∀ a ∈ s.gang.arrived, a ∈ (WormholeGang.next s.gang e).arrived := by
    intro a mem
    cases e with
    | begin | conclude => cases mid
    | send c link =>
      simp only [WormholeGang.next]
      split_ifs <;> exact mem
    | arrive => exact List.mem_cons_of_mem _ mem
    | serve | loseRequest | loseReply | look | setMigrating => exact mem
  refine ⟨single_next h.single e en hok, numbered_next h.numbered e en, ?_, ?_, ?_, ?_, ?_⟩
  · intro d hd
    obtain ⟨c, mem, same⟩ := from' d hd
    exact same.addressed (addressed_mid mid en h.single mem (h.addressed c mem))
  · intro d hd
    obtain ⟨c, mem, -, -, call⟩ := from' d hd
    rw [call]
    exact h.notWrite c mem
  · intro d hd notFile x hx thread
    obtain ⟨c, mem, sameThread, tag, call⟩ := from' d hd
    rw [call] at notFile
    rw [tag]
    exact h.own c mem notFile x hx (thread.trans sameThread)
  · intro x hx
    rcases h.held x hx with proper | ⟨native, stopped, c, mem, notFile, thread⟩
    · exact .inl (proper.grows grows)
    · obtain ⟨d, hd, sameThread, -, call⟩ := to' c mem
      exact .inr ⟨native, stopped, d, hd, by rwa [call], sameThread.trans thread⟩
  · intro x hx
    exact (h.resumed x hx).grows grows

/-- What the end of the only call returns is what its reply says. -/
theorem Settled.result_delivers {s : Stops} (h : Settled s) {c : Caller} {env : Env}
    (en : WormholeGang.enabled s.gang (.conclude c env))
    (hok : WormholeGang.ok s.gang (.conclude c env))
    (decoded : ∀ a ∈ s.gang.arrived, a.tag = c.tag →
      Decoded ⟨c.call, { env with handlerAlloc := a.alloc }, a.body⟩) {o : Outcome}
    (outcome : (result s.gang c env).outcome = some o) :
    ∃ body alloc, ⟨c.tag, body, alloc⟩ ∈ s.gang.arrived ∧ Delivers body o := by
  obtain ⟨mem, phases⟩ := en
  simp only [result] at outcome
  split_ifs at outcome with aborted
  rw [← Option.some.inj outcome]
  rcases phases with is | ⟨r, seen⟩ | ⟨waiting, file⟩
  · exact absurd is aborted
  · have stage := h.single.stage c mem
    simp only [Stage, seen] at stage
    have remoteFd : c.phase.remoteFd = s.gang.record.remoteFd := by
      rw [seen]
      exact stage.2
    rw [remoteFd]
    exact landed_delivers stage.1 (h.notWrite c mem) (h.addressed c mem) env decoded
  · rw [fileOperation_remoteFd file c.call c.phase.remoteFd s.gang.record.remoteFd]
    have landed := h.single.landed mem waiting (hok waiting)
    exact landed_delivers landed (h.notWrite c mem) (h.addressed c mem) env decoded

/-- What the worker of the only call injects is proper for that call. -/
theorem Settled.injects {s : Stops} (h : Settled s) {c : Caller} {env : Env}
    (en : WormholeGang.enabled s.gang (.conclude c env))
    (hok : WormholeGang.ok s.gang (.conclude c env))
    (decoded : ∀ a ∈ s.gang.arrived, a.tag = c.tag →
      Decoded ⟨c.call, { env with handlerAlloc := a.alloc }, a.body⟩) {x : Held}
    (tag : x.tag = c.tag) :
    Proper s.gang.arrived { x with register := .injected (result s.gang c env) } := by
  refine ⟨_, rfl, tag.symm, ?_⟩
  intro o outcome
  dsimp only
  rw [tag]
  exact h.result_delivers en hok decoded outcome

theorem settled_conclude {s : Stops} (h : Settled s) (c : Caller) (env : Env)
    (en : enabled s (.gang (.conclude c env))) (hok : ok s (.gang (.conclude c env))) :
    Settled (next s (.gang (.conclude c env))) := by
  obtain ⟨concludes, -⟩ := en
  obtain ⟨gangOk, decoded⟩ := hok
  have alone := h.single.alone concludes.1
  have gone : (WormholeGang.next s.gang (.conclude c env)).callers = [] := by
    simp only [WormholeGang.next, alone, List.erase_cons_head]
    split_ifs <;> rfl
  have arrived : (WormholeGang.next s.gang (.conclude c env)).arrived = s.gang.arrived := by
    simp only [WormholeGang.next]
    split_ifs <;> rfl
  have single := single_next h.single _ concludes gangOk
  have numbered := numbered_next h.numbered _ concludes
  have resumed :
      ∀ x ∈ s.resumed, Proper (WormholeGang.next s.gang (.conclude c env)).arrived x := by
    rw [arrived]
    exact h.resumed
  simp only [next]
  cases file : isFileOperation c.call.kind with
  | true =>
    refine ⟨single, numbered, by simp [gone], by simp [gone], by simp [gone], ?_, resumed⟩
    intro x hx
    rcases h.held x hx with proper | ⟨-, -, d, mem, notFile, -⟩
    · exact .inl (arrived.symm ▸ proper)
    · have same : d = c := by simpa [alone] using mem
      simp [same, file] at notFile
  | false =>
    refine ⟨single, numbered, by simp [gone], by simp [gone], by simp [gone], ?_, resumed⟩
    intro y hy
    obtain ⟨x, hx, rfl⟩ := List.mem_map.mp hy
    left
    change Proper (WormholeGang.next s.gang (.conclude c env)).arrived _
    rw [arrived]
    by_cases same : x.thread = c.thread
    · have tag := h.own c concludes.1 file x hx same
      rw [inject, if_pos same]
      exact h.injects concludes gangOk decoded tag
    · rw [inject, if_neg same]
      rcases h.held x hx with proper | ⟨-, -, d, mem, -, thread⟩
      · exact proper
      · have only : d = c := by simpa [alone] using mem
        exact absurd (only ▸ thread.symm) same

theorem settled_next {s : Stops} (h : Settled s) (e : Event) (en : enabled s e) (hok : ok s e) :
    Settled (next s e) := by
  cases e with
  | gang e =>
    cases e with
    | begin thread call => exact settled_begin h thread call en hok
    | conclude c env => exact settled_conclude h c env en hok
    | send | serve | loseRequest | arrive | loseReply | look | setMigrating =>
      exact h.mid rfl en hok
  | giveUp c => exact hok.elim
  | cont =>
    refine ⟨h.single, h.numbered, h.addressed, h.notWrite, h.own, ?_, h.resumed⟩
    intro x hx
    exact .inl ((h.held x hx).resolve_right fun waits => hok x hx waits.1)
  | stop =>
    refine ⟨h.single, h.numbered, h.addressed, h.notWrite, h.own, ?_, h.resumed⟩
    intro x hx
    exact (h.held x hx).imp_right fun waits => ⟨waits.1, rfl, waits.2.2⟩
  | resume x =>
    obtain ⟨mem, running⟩ := en
    have proper : Proper s.gang.arrived x := by
      refine (h.held x mem).resolve_right fun waits => ?_
      exact absurd waits.2.1 (by simp [running])
    refine ⟨h.single, h.numbered, h.addressed, h.notWrite, ?_, ?_, ?_⟩
    · exact fun c hc notFile y hy => h.own c hc notFile y (List.mem_of_mem_erase hy)
    · exact fun y hy => h.held y (List.mem_of_mem_erase hy)
    · intro y hy
      cases hy with
      | head => exact proper
      | tail _ hy => exact h.resumed y hy

/-- What the worker of a read injects. -/
def seven : Returned := ⟨0, read, env, some { ax := 2, wrote := [.bytes [7, 8]] }⟩

def poll : Call := ⟨.poll, true, 1⟩

/-- A read that is answered, then a poll that a migration aborts. The user stops and continues the
group in between. -/
def oneByOne : List Event :=
  [.gang (.begin 1 read), .gang (.send ⟨1, 0, read, .begun⟩ true),
    .gang (.serve 0 .read (.data 2 0 [7, 8])), .gang (.arrive 0 .read (.data 2 0 [7, 8]) true),
    .gang (.look ⟨1, 0, read, .waiting⟩), .gang (.conclude ⟨1, 0, read, .seen 0⟩ env),
    .stop, .cont, .resume ⟨1, 0, .injected seven⟩,
    .gang (.begin 2 poll), .gang (.send ⟨2, 1, poll, .begun⟩ true), .gang (.setMigrating true),
    .gang (.look ⟨2, 1, poll, .waiting⟩), .gang (.conclude ⟨2, 1, poll, .aborted⟩ env), .cont,
    .resume ⟨2, 1, .injected ⟨1, poll, env, none⟩⟩]

end MattX.WormholeStops
