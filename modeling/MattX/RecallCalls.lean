import MattX.WormholeStops

set_option autoImplicit false

/-!
# A recall in the middle of intercepted calls

`mattx_capture_and_return_state` marks the guest, freezes its threads one
after the other, copies their registers and later their memory, while calls
run their course. The freeze continues a stopped group for a moment.
-/
namespace MattX.RecallCalls
open GuardedRuns WormholeCalls WormholeReplies WormholeGang WormholeStops

/-- `marked`: `is_migrating` is set. `thawed`: the drain callback of the thread is queued, and a
stopped group has been continued for it. `frozen`: it has run, and the group has been stopped.
`copied`: the return blueprint is on its way. `pumped`: the pages as well. -/
inductive Stage where
  | idle
  | marked
  | thawed (thread : ℕ)
  | frozen
  | copied
  | pumped
  deriving DecidableEq

/-- `served`: the calls that the home node has executed, and its replies. `registers`: the threads
of the blueprint that are in an intercepted call. `memory`: the calls whose data were in memory
when the pages were read. -/
structure Recall where
  stops : Stops
  served : List (ℕ × Kind × Body)
  leader : ℕ
  stage : Stage
  registers : List Held
  memory : List Returned

/-- `stopped`: the freeze of a thread finds it stopped. `sendFails`: the blueprint cannot be sent,
and all threads are continued. -/
inductive Event where
  | call (e : WormholeStops.Event)
  | mark
  | thaw (thread : ℕ) (stopped : Bool)
  | freeze
  | copy
  | sendFails
  | pump

/-- A freeze has seen its thread stopped. -/
def Stage.still : Stage → Bool
  | .frozen | .copied | .pumped => true
  | _ => false

/-- Only the freeze of the leader waits for file operations (`is_rpc_pending`), but no thread gets
to its drain callback in one. -/
def enabled (s : Recall) : Event → Prop
  | .call (.gang (.setMigrating _)) => False
  | .call (.gang (.begin thread call)) =>
    WormholeStops.enabled s.stops (.gang (.begin thread call)) ∧
      (s.stage.still = true → s.stops.stopped = false)
  | .call e => WormholeStops.enabled s.stops e
  | .mark => s.stage = .idle
  | .thaw thread _ => s.stage = .frozen ∨ (s.stage = .marked ∧ thread = s.leader ∧
      ∀ c ∈ s.stops.gang.callers, isFileOperation c.call.kind = false)
  | .freeze => ∃ thread, s.stage = .thawed thread ∧
      ∀ c ∈ s.stops.gang.callers, c.thread = thread → isFileOperation c.call.kind = false
  | .copy => s.stage = .frozen
  | .sendFails | .pump => s.stage = .copied

instance (s : Recall) : DecidablePred (enabled s)
  | .call (.gang (.setMigrating _)) => isFalse id
  | .call (.gang (.begin thread call)) =>
    inferInstanceAs (Decidable (WormholeStops.enabled s.stops (.gang (.begin thread call)) ∧
      (s.stage.still = true → s.stops.stopped = false)))
  | .call (.gang (.send c link)) =>
    inferInstanceAs (Decidable (WormholeStops.enabled s.stops (.gang (.send c link))))
  | .call (.gang (.serve tag kind body)) =>
    inferInstanceAs (Decidable (WormholeStops.enabled s.stops (.gang (.serve tag kind body))))
  | .call (.gang (.loseRequest tag kind)) =>
    inferInstanceAs (Decidable (WormholeStops.enabled s.stops (.gang (.loseRequest tag kind))))
  | .call (.gang (.arrive tag kind body alloc)) => inferInstanceAs (Decidable
      (WormholeStops.enabled s.stops (.gang (.arrive tag kind body alloc))))
  | .call (.gang (.loseReply tag kind body)) =>
    inferInstanceAs (Decidable (WormholeStops.enabled s.stops (.gang (.loseReply tag kind body))))
  | .call (.gang (.look c)) =>
    inferInstanceAs (Decidable (WormholeStops.enabled s.stops (.gang (.look c))))
  | .call (.gang (.conclude c env)) =>
    inferInstanceAs (Decidable (WormholeStops.enabled s.stops (.gang (.conclude c env))))
  | .call (.giveUp c) => inferInstanceAs (Decidable (WormholeStops.enabled s.stops (.giveUp c)))
  | .call .cont | .call .stop => isTrue trivial
  | .call (.resume h) => inferInstanceAs (Decidable (WormholeStops.enabled s.stops (.resume h)))
  | .mark => inferInstanceAs (Decidable (s.stage = .idle))
  | .thaw thread _ => inferInstanceAs (Decidable (s.stage = .frozen ∨ (s.stage = .marked ∧
      thread = s.leader ∧ ∀ c ∈ s.stops.gang.callers, isFileOperation c.call.kind = false)))
  | .freeze =>
    match eq : s.stage with
    | .thawed thread =>
      decidable_of_iff (∀ c ∈ s.stops.gang.callers, c.thread = thread →
        isFileOperation c.call.kind = false) (by simp [enabled, eq])
    | .idle | .marked | .frozen | .copied | .pumped => isFalse (by simp [enabled, eq])
  | .copy => inferInstanceAs (Decidable (s.stage = .frozen))
  | .sendFails | .pump => inferInstanceAs (Decidable (s.stage = .copied))

/-- What the home node does when a request is served. -/
def serving : WormholeStops.Event → List (ℕ × Kind × Body)
  | .gang (.serve tag kind body) => [(tag, kind, body)]
  | _ => []

def setMigrating (s : Stops) (b : Bool) : Stops :=
  { s with gang := WormholeGang.next s.gang (.setMigrating b) }

def next (s : Recall) : Event → Recall
  | .call e => { s with stops := WormholeStops.next s.stops e, served := serving e ++ s.served }
  | .mark => { s with stops := setMigrating s.stops true, stage := .marked }
  | .thaw thread stopped =>
    { s with
      stops := { s.stops with stopped := s.stops.stopped && !stopped }, stage := .thawed thread }
  | .freeze => { s with stops := { s.stops with stopped := true }, stage := .frozen }
  | .copy => { s with stage := .copied, registers := s.stops.held }
  | .sendFails =>
    { s with
      stops := { setMigrating s.stops false with stopped := false }
      stage := .idle
      registers := [] }
  | .pump => { s with stage := .pumped, memory := s.stops.gang.returned }

def machine : Machine Recall Event := ⟨enabled, next⟩

instance (s : Recall) : DecidablePred (machine.enabled s) :=
  inferInstanceAs (DecidablePred (enabled s))

def start (record : Record) (leader : ℕ) : Recall :=
  ⟨WormholeStops.start record, [], leader, .idle, [], []⟩

/-- `-EINTR` and nothing at home, or the home node's result of the one execution. -/
def Right (served : List (ℕ × Kind × Body)) (r : Returned) : Prop :=
  match r.outcome with
  | none => ∀ x ∈ served, x.1 ≠ r.tag
  | some o => (served.countP fun x => x.1 == r.tag) = 1 ∧
      ∃ kind body, (r.tag, kind, body) ∈ served ∧ Delivers body o

/-- The register has what its own call has returned. -/
def Shows (returned : List Returned) (h : Held) : Prop :=
  ∃ r ∈ returned, h.register = .injected r ∧ r.tag = h.tag

/-- The home node has not executed the call. -/
def Unserved (served : List (ℕ × Kind × Body)) (tag : ℕ) : Prop := ∀ x ∈ served, x.1 ≠ tag

/-- The worker of a call that has been executed does not see `is_migrating`, a call that was
aborted is not executed, no thread goes on before its result is in, no call is under way when the
registers are copied, and nobody else continues the group after that. -/
def ok (s : Recall) : Event → Prop
  | .call (.gang (.look c)) => s.stops.gang.isMigrating = true → Unserved s.served c.tag
  | .call (.gang (.serve tag _ _)) =>
    (∀ c ∈ s.stops.gang.callers, c.tag = tag → c.phase ≠ .aborted) ∧
      ∀ r ∈ s.stops.gang.returned, r.tag = tag → r.outcome ≠ none
  | .call (.gang e) => WormholeStops.ok s.stops (.gang e)
  | .call (.giveUp _) => False
  | .call .cont => s.stage.still = false
  | .call (.resume h) => h.register ≠ .native
  | .copy => s.stops.gang.callers = []
  | _ => True

instance (served : List (ℕ × Kind × Body)) (tag : ℕ) : Decidable (Unserved served tag) :=
  inferInstanceAs (Decidable (∀ x ∈ served, x.1 ≠ tag))

instance (s : Recall) : DecidablePred (ok s)
  | .call (.gang (.look c)) => inferInstanceAs (Decidable
      (s.stops.gang.isMigrating = true → Unserved s.served c.tag))
  | .call (.gang (.serve tag _ _)) => inferInstanceAs (Decidable
      ((∀ c ∈ s.stops.gang.callers, c.tag = tag → c.phase ≠ .aborted) ∧
        ∀ r ∈ s.stops.gang.returned, r.tag = tag → r.outcome ≠ none))
  | .call (.gang (.begin thread call)) =>
    inferInstanceAs (Decidable (WormholeStops.ok s.stops (.gang (.begin thread call))))
  | .call (.gang (.send c link)) =>
    inferInstanceAs (Decidable (WormholeStops.ok s.stops (.gang (.send c link))))
  | .call (.gang (.loseRequest tag kind)) =>
    inferInstanceAs (Decidable (WormholeStops.ok s.stops (.gang (.loseRequest tag kind))))
  | .call (.gang (.arrive tag kind body alloc)) =>
    inferInstanceAs (Decidable (WormholeStops.ok s.stops (.gang (.arrive tag kind body alloc))))
  | .call (.gang (.loseReply tag kind body)) =>
    inferInstanceAs (Decidable (WormholeStops.ok s.stops (.gang (.loseReply tag kind body))))
  | .call (.gang (.conclude c env)) =>
    inferInstanceAs (Decidable (WormholeStops.ok s.stops (.gang (.conclude c env))))
  | .call (.gang (.setMigrating b)) =>
    inferInstanceAs (Decidable (WormholeStops.ok s.stops (.gang (.setMigrating b))))
  | .call (.giveUp _) => isFalse id
  | .call .cont => inferInstanceAs (Decidable (s.stage.still = false))
  | .call .stop => isTrue trivial
  | .call (.resume h) => inferInstanceAs (Decidable (h.register ≠ .native))
  | .copy => inferInstanceAs (Decidable (s.stops.gang.callers = []))
  | .mark | .thaw .. | .freeze | .sendFails | .pump => isTrue trivial

end MattX.RecallCalls
