import MattX.GuardedRuns
import MattX.WormholeReplies

set_option autoImplicit false

/-!
# The calls of a gang

All threads of a guest share its record. A call begins in its thread's hook,
its request and its reply travel, and a worker that looks at the record every
100 ms, or the thread itself in a file operation, takes the result. Requests
and replies name the guest only; the numbers here are for telling them apart.
-/
namespace MattX.WormholeGang
open GuardedRuns WormholeCalls WormholeReplies

inductive Phase where
  | begun
  | waiting
  | seen (remoteFd : ℤ)
  | aborted
  deriving DecidableEq

structure Caller where
  thread : ℕ
  tag : ℕ
  call : Call
  phase : Phase
  deriving DecidableEq

/-- A reply that a handler has put in the record. -/
structure Arrival where
  tag : ℕ
  body : Body
  alloc : Bool
  deriving DecidableEq

/-- What a call came back with; none for the `-EINTR` of an aborted one. -/
structure Returned where
  tag : ℕ
  call : Call
  env : Env
  outcome : Option Outcome
  deriving DecidableEq

structure Gang where
  record : Record
  isMigrating : Bool
  callers : List Caller
  requests : List (ℕ × Kind)
  replies : List (ℕ × Kind × Body)
  next : ℕ
  arrived : List Arrival
  returned : List Returned
  deriving DecidableEq

inductive Event where
  | begin (thread : ℕ) (call : Call)
  | send (c : Caller) (link : Bool)
  | serve (tag : ℕ) (kind : Kind) (body : Body)
  | loseRequest (tag : ℕ) (kind : Kind)
  | arrive (tag : ℕ) (kind : Kind) (body : Body) (alloc : Bool)
  | loseReply (tag : ℕ) (kind : Kind) (body : Body)
  | look (c : Caller)
  | conclude (c : Caller) (env : Env)
  | setMigrating (b : Bool)
  deriving DecidableEq

/-- A file operation sleeps in its own thread, where a signal can wake it. -/
def isFileOperation : Kind → Bool
  | .fakeGetattr | .fakeLlseek | .fakeFsync | .fakeRead => true
  | _ => false

def enabled (s : Gang) : Event → Prop
  | .begin thread _ => ∀ c ∈ s.callers, c.thread ≠ thread
  | .send c _ => c ∈ s.callers ∧ c.phase = .begun
  | .serve tag kind body => (tag, kind) ∈ s.requests ∧ Sends kind body
  | .loseRequest tag kind => (tag, kind) ∈ s.requests
  | .arrive tag kind body _ => (tag, kind, body) ∈ s.replies
  | .loseReply tag kind body => (tag, kind, body) ∈ s.replies
  | .look c => c ∈ s.callers ∧ c.phase = .waiting ∧ isFileOperation c.call.kind = false ∧
      (s.record.done = true ∨ s.isMigrating = true)
  | .conclude c _ => c ∈ s.callers ∧ (c.phase = .aborted ∨ (∃ r, c.phase = .seen r) ∨
      (c.phase = .waiting ∧ isFileOperation c.call.kind = true))
  | .setMigrating _ => True

/-- The descriptor a branch goes by: the worker's copy, or none in a file operation. -/
def Phase.remoteFd : Phase → ℤ
  | .seen r => r
  | _ => 0

def next (s : Gang) : Event → Gang
  | .begin thread call =>
    { s with
      record := beginCall call s.record, next := s.next + 1
      callers := ⟨thread, s.next, call, .begun⟩ :: s.callers }
  | .send c link =>
    let s := { s with callers := { c with phase := .waiting } :: s.callers.erase c }
    if c.call.kind = .write then { s with record := writeSent c.call s.record }
    else if link then { s with requests := (c.tag, c.call.kind) :: s.requests } else s
  | .serve tag kind body =>
    { s with requests := s.requests.erase (tag, kind), replies := (tag, kind, body) :: s.replies }
  | .loseRequest tag kind => { s with requests := s.requests.erase (tag, kind) }
  | .arrive tag kind body alloc =>
    { s with
      record := replyHandler kind body alloc s.record
      replies := s.replies.erase (tag, kind, body), arrived := ⟨tag, body, alloc⟩ :: s.arrived }
  | .loseReply tag kind body => { s with replies := s.replies.erase (tag, kind, body) }
  | .look c =>
    let phase := if s.isMigrating then .aborted else .seen s.record.remoteFd
    { s with
      record := { s.record with done := true }
      callers := { c with phase } :: s.callers.erase c }
  | .conclude c env =>
    let s := { s with callers := s.callers.erase c }
    if c.phase = .aborted then { s with returned := ⟨c.tag, c.call, env, none⟩ :: s.returned }
    else
      let (o, record) := awakening c.call.kind c.call c.phase.remoteFd env s.record
      { s with record, returned := ⟨c.tag, c.call, env, some o⟩ :: s.returned }
  | .setMigrating b => { s with isMigrating := b }

def machine : Machine Gang Event := ⟨enabled, next⟩

instance (s : Gang) : DecidablePred (enabled s)
  | .begin thread _ => inferInstanceAs (Decidable (∀ c ∈ s.callers, c.thread ≠ thread))
  | .send c _ => inferInstanceAs (Decidable (c ∈ s.callers ∧ c.phase = .begun))
  | .serve tag kind body =>
    inferInstanceAs (Decidable ((tag, kind) ∈ s.requests ∧ Sends kind body))
  | .loseRequest tag kind => inferInstanceAs (Decidable ((tag, kind) ∈ s.requests))
  | .arrive tag kind body _ => inferInstanceAs (Decidable ((tag, kind, body) ∈ s.replies))
  | .loseReply tag kind body => inferInstanceAs (Decidable ((tag, kind, body) ∈ s.replies))
  | .look c => inferInstanceAs (Decidable (c ∈ s.callers ∧ c.phase = .waiting ∧
      isFileOperation c.call.kind = false ∧ (s.record.done = true ∨ s.isMigrating = true)))
  | .conclude c _ =>
    have : Decidable (∃ r, c.phase = .seen r) :=
      match c.phase with
      | .seen r => isTrue ⟨r, rfl⟩
      | .begun | .waiting | .aborted => isFalse (by simp)
    inferInstanceAs (Decidable (c ∈ s.callers ∧ (c.phase = .aborted ∨ (∃ r, c.phase = .seen r) ∨
      (c.phase = .waiting ∧ isFileOperation c.call.kind = true))))
  | .setMigrating _ => isTrue trivial

instance (s : Gang) : DecidablePred (machine.enabled s) :=
  inferInstanceAs (DecidablePred (enabled s))

def start (record : Record) : Gang := ⟨record, false, [], [], [], 0, [], []⟩

/-- The record once the reply to a call is in, or a write has been sent. -/
def landed (c : Call) (b : Body) (alloc : Bool) (g : Record) : Record :=
  if c.kind = .write then writeSent c g else replyHandler c.kind b alloc g

/-- The outcome of a call whose reply finds the record `g`. -/
def resultOn (c : Call) (env : Env) (b : Body) (alloc : Bool) (g : Record) : Outcome :=
  (awakening c.kind c (landed c b alloc g).remoteFd env (landed c b alloc g)).1

/-- The outcome is the one its own reply gives, on whatever record. -/
def Own (arrived : List Arrival) (r : Returned) : Prop :=
  ∀ o, r.outcome = some o → ∃ body alloc,
    (r.call.kind = .write ∨ ⟨r.tag, body, alloc⟩ ∈ arrived) ∧
      ∀ g, resultOn r.call r.env body alloc g = o

/-- Every call that came back with a result has that of its own reply. -/
def OwnResults (s : Gang) : Prop := ∀ r ∈ s.returned, Own s.arrived r

/-- Replies whose handler sets all that the branch reads. -/
def Settles (k : Kind) (b : Body) : Prop :=
  match k, b with
  | .statx, _ => False
  | .accept, .accept _ error _ => error = 0
  | _, _ => True

instance (k : Kind) (b : Body) : Decidable (Settles k b) := by
  induction k using Kind.casesOn with
  | accept => induction b using Body.casesOn <;> unfold Settles <;> infer_instance
  | _ => unfold Settles; infer_instance

/-- A call begins when nothing of another one is under way, and a file operation is not woken by a
signal. -/
def ok (s : Gang) : Event → Prop
  | .begin _ _ => s.callers = [] ∧ s.requests = [] ∧ s.replies = []
  | .arrive _ kind body _ => Settles kind body
  | .conclude c _ => c.phase = .waiting → s.record.done = true
  | _ => True

instance (s : Gang) : DecidablePred (ok s)
  | .begin _ _ => inferInstanceAs (Decidable (s.callers = [] ∧ s.requests = [] ∧ s.replies = []))
  | .arrive _ kind body _ => inferInstanceAs (Decidable (Settles kind body))
  | .conclude c _ => inferInstanceAs (Decidable (c.phase = .waiting → s.record.done = true))
  | .send .. | .serve .. | .loseRequest .. | .loseReply .. | .look _ | .setMigrating _ =>
    isTrue trivial

/-! ### A branch reads what its own reply set -/

theorem copyOut_empty {n : ℤ} (empty : ¬ 0 < n) (buf : Option Payload) (env : Env) :
    copyOut n buf env = { ax := n } := by
  cases buf with
  | none => rfl
  | some data => simp [copyOut, empty]

theorem copyOnZero_nothing {wanted : Bool} {g : Record} (done : g.done = true)
    (nothing : g.fsyncRes ≠ 0 ∨ wanted = false) (env : Env) :
    copyOnZero wanted env g = { ax := g.fsyncRes } := by
  have unread : ¬ (g.fsyncRes = 0 ∧ wanted = true ∧ env.copied = true) := by
    rintro ⟨zero, yes, -⟩
    cases nothing with
    | inl failed => exact failed zero
    | inr unwanted => simp [unwanted] at yes
  simp only [copyOnZero, done, if_true]
  cases g.readBuf with
  | none => rfl
  | some data => simp only [if_neg unread]

theorem meta_nothing {c : Call} {g : Record} (done : g.done = true)
    (nothing : ¬ (0 ≤ g.fsyncRes ∧ 0 < g.lseekRes ∧ c.hasPtr = true)) (r : ℤ) (env : Env) :
    (metaAwakening c r env g).1 = { ax := g.fsyncRes } := by
  simp only [metaAwakening, done, if_true]
  cases g.readBuf with
  | none => rfl
  | some data => simp only [if_neg nothing]

theorem epollWait_settles (c : Call) (r r' : ℤ) (env : Env) (n : ℤ) (events : Bytes) (alloc : Bool)
    (g g' : Record) :
    (epollWaitAwakening c r env (handleSysEpollWaitReply (.epollWait n events) alloc g)).1 =
      (epollWaitAwakening c r' env (handleSysEpollWaitReply (.epollWait n events) alloc g')).1 := by
  by_cases pos : 0 < n
  · simp only [epollWaitAwakening, handleSysEpollWaitReply, if_pos pos, if_true]
  · simp only [epollWaitAwakening, handleSysEpollWaitReply, if_neg pos, if_true, copyOut_empty pos]

theorem sockname_settles (c : Call) (r r' : ℤ) (env : Env) (error : ℤ) (addr : Bytes)
    (alloc : Bool) (g g' : Record) :
    (socknameAwakening c r env (handleSysSocknameReply (.sockname error addr) alloc g)).1 =
      (socknameAwakening c r' env (handleSysSocknameReply (.sockname error addr) alloc g')).1 := by
  by_cases zero : error = 0
  · simp only [socknameAwakening, handleSysSocknameReply, if_pos zero, copyOnZero]
  · simp only [socknameAwakening, handleSysSocknameReply, if_neg zero]
    rw [copyOnZero_nothing rfl (.inl zero), copyOnZero_nothing rfl (.inl zero)]

theorem getsockopt_settles (c : Call) (r r' : ℤ) (env : Env) (error : ℤ) (optval : Bytes)
    (alloc : Bool) (g g' : Record) :
    (getsockoptAwakening c r env (handleSysGetsockoptReply (.sockopt error optval) alloc g)).1 =
      (getsockoptAwakening c r' env (handleSysGetsockoptReply (.sockopt error optval) alloc g')).1 := by
  by_cases kept : error = 0 ∧ optval ≠ []
  · simp only [getsockoptAwakening, handleSysGetsockoptReply, if_pos kept, copyOnZero]
  · have nothing : error ≠ 0 ∨ decide (0 < (optval.length : ℤ)) = false := by
      by_cases zero : error = 0
      · have empty : optval = [] := not_not.mp fun some => kept ⟨zero, some⟩
        simp [empty]
      · exact .inl zero
    simp only [getsockoptAwakening, handleSysGetsockoptReply, if_neg kept]
    rw [copyOnZero_nothing rfl nothing, copyOnZero_nothing rfl nothing]

/-- For uname, prlimit64 and shmctl. -/
theorem uname_settles (wanted : Bool) (env : Env) (error : ℤ) (buf : Bytes) (alloc : Bool)
    (g g' : Record) :
    copyOnZero wanted env (handleSysUnameReply (.struct error buf) alloc g) =
      copyOnZero wanted env (handleSysUnameReply (.struct error buf) alloc g') := by
  by_cases zero : error = 0
  · simp only [handleSysUnameReply, if_pos zero, copyOnZero]
  · simp only [handleSysUnameReply, if_neg zero]
    rw [copyOnZero_nothing rfl (.inl zero), copyOnZero_nothing rfl (.inl zero)]

theorem recvmsg_settles (c : Call) (r r' : ℤ) (env : Env) (n error : ℤ) (addr data : Bytes)
    (alloc : Bool) (g g' : Record) :
    (recvmsgAwakening c r env (handleSysRecvmsgReply (.message n error addr data) alloc g)).1 =
      (recvmsgAwakening c r' env
        (handleSysRecvmsgReply (.message n error addr data) alloc g')).1 := by
  simp only [recvmsgAwakening, handleSysRecvmsgReply]
  split_ifs <;> rfl

theorem read_settles (c : Call) (r r' : ℤ) (env : Env) (n error : ℤ) (data : Bytes) (alloc : Bool)
    (g g' : Record) :
    (readAwakening c r env (handleSysReadReply (.data n error data) alloc g)).1 =
      (readAwakening c r' env (handleSysReadReply (.data n error data) alloc g')).1 := by
  simp only [readAwakening, handleSysReadReply]
  split_ifs <;> rfl

theorem pread64_settles (c : Call) (r r' : ℤ) (env : Env) (n error : ℤ) (data : Bytes)
    (alloc : Bool) (g g' : Record) :
    (pread64Awakening c r env (handleSysReadReply (.data n error data) alloc g)).1 =
      (pread64Awakening c r' env (handleSysReadReply (.data n error data) alloc g')).1 := by
  simp only [pread64Awakening, handleSysReadReply]
  split_ifs <;> rfl

theorem statfs_settles (c : Call) (r r' : ℤ) (env : Env) {error : ℤ} (sends : error ≤ 0)
    (buf : Bytes) (alloc : Bool) (g g' : Record) :
    (metaAwakening c r env (handleSysStatfsReply (.struct error buf) alloc g)).1 =
      (metaAwakening c r' env (handleSysStatfsReply (.struct error buf) alloc g')).1 := by
  by_cases zero : error = 0
  · simp only [metaAwakening, handleSysStatfsReply, handleSysUnameReply, if_pos zero]
  · have failed : ¬ 0 ≤ error := by omega
    simp only [handleSysStatfsReply, handleSysUnameReply, if_neg zero]
    rw [meta_nothing rfl fun h => failed h.1, meta_nothing rfl fun h => failed h.1]

theorem readlink_settles (c : Call) (r r' : ℤ) (env : Env) (n : ℤ) (data : Bytes) (alloc : Bool)
    (g g' : Record) :
    (metaAwakening c r env (handleSysReadlinkReply (.counted n data) alloc g)).1 =
      (metaAwakening c r' env (handleSysReadlinkReply (.counted n data) alloc g')).1 := by
  by_cases pos : 0 < n
  · simp only [metaAwakening, handleSysReadlinkReply, if_pos pos]
  · simp only [handleSysReadlinkReply, if_neg pos]
    rw [meta_nothing rfl fun h => absurd h.2.1 (by simp), meta_nothing rfl fun h => absurd h.2.1 (by simp)]

theorem faccessat2_settles (c : Call) (r r' : ℤ) (env : Env) (error : ℤ) (alloc : Bool)
    (g g' : Record) :
    (faccessat2Awakening c r env (handleSysGenericIntReply (.int error) alloc g)).1 =
      (faccessat2Awakening c r' env (handleSysGenericIntReply (.int error) alloc g')).1 := by
  simp only [faccessat2Awakening, handleSysGenericIntReply]
  rw [meta_nothing rfl fun h => absurd h.2.2 (by simp), meta_nothing rfl fun h => absurd h.2.2 (by simp)]

theorem pipe2_settles (c : Call) (r r' : ℤ) (env : Env) (error fd0 fd1 : ℤ) (alloc : Bool)
    (g g' : Record) :
    (pipe2Awakening c r env (handleSysPipe2Reply (.pipe2 error fd0 fd1) alloc g)).1 =
      (pipe2Awakening c r' env (handleSysPipe2Reply (.pipe2 error fd0 fd1) alloc g')).1 := by
  by_cases zero : error = 0
  · simp only [pipe2Awakening, handleSysPipe2Reply, if_pos zero]
  · simp only [pipe2Awakening, handleSysPipe2Reply, if_neg zero, if_true]
    cases g.readBuf <;> cases g'.readBuf <;> rfl

theorem accept_no_address (c : Call) (fd : ℤ) (env : Env) {g : Record} (empty : g.fsyncRes = 0) :
    (acceptAwakening c fd env g).1 = if 0 ≤ fd then mapProxy fd env else { ax := fd } := by
  have bare : { mapProxy fd env with wrote := [] } = mapProxy fd env := by
    simp only [mapProxy]
    cases env.alloc <;> cases env.proxy <;> cases env.freeFds <;> rfl
  have noAddress : ¬ (0 : ℤ) < 0 := by omega
  simp only [acceptAwakening, empty, if_neg noAddress]
  by_cases new : 0 ≤ fd
  · simp only [if_pos new]
    by_cases wanted : (mapProxy fd env).installed ≠ [] ∧ c.hasPtr = true
    · rw [if_pos wanted]
      cases g.readBuf with
      | none => rfl
      | some addr => exact bare
    · rw [if_neg wanted]
  · simp only [if_neg new]

theorem accept_settles (c : Call) (env : Env) (fd : ℤ) (addr : Bytes) (alloc : Bool)
    (g g' : Record) :
    (acceptAwakening c fd env (handleSysAcceptReply (.accept fd 0 addr) alloc g)).1 =
      (acceptAwakening c fd env (handleSysAcceptReply (.accept fd 0 addr) alloc g')).1 := by
  by_cases given : addr ≠ []
  · cases alloc with
    | true =>
      simp only [acceptAwakening, handleSysAcceptReply, if_pos given, if_true]
      split_ifs <;> rfl
    | false =>
      simp only [acceptAwakening, handleSysAcceptReply, if_pos given, if_true]
      split_ifs <;> rfl
  · simp only [handleSysAcceptReply, if_neg given, if_true]
    rw [accept_no_address c fd env rfl, accept_no_address c fd env rfl]

/-- The branch reads nothing that its own reply did not set. -/
theorem settles_resultOn {c : Call} {b : Body} (sends : Sends c.kind b) (settles : Settles c.kind b)
    (env : Env) (alloc : Bool) (g g' : Record) :
    resultOn c env b alloc g = resultOn c env b alloc g' := by
  rcases call : c with ⟨k, hasPtr, len⟩
  simp only [call] at sends settles
  cases k <;> cases b <;> try exact sends.elim
  all_goals try rfl
  case accept.accept fd error addr =>
    have accepted : error = 0 := settles
    subst accepted
    have keep := accept_keeps fd addr alloc
    have same := accept_settles ⟨.accept, hasPtr, len⟩ env fd addr alloc g g'
    simpa only [resultOn, landed, awakening, replyHandler, reduceCtorEq, if_false, keep] using same
  case statx.statx => exact settles.elim
  case read.data n error data | recvfrom.data n error data | fakeRead.data n error data =>
    exact read_settles c g.remoteFd g'.remoteFd env n error data alloc g g'
  case pread64.data n error data =>
    exact pread64_settles c g.remoteFd g'.remoteFd env n error data alloc g g'
  case poll.poll | select.poll | pselect6.poll => cases alloc <;> rfl
  case epollWait.epollWait n events =>
    exact epollWait_settles c g.remoteFd g'.remoteFd env n events alloc g g'
  case getsockname.sockname error addr | getpeername.sockname error addr =>
    exact sockname_settles c g.remoteFd g'.remoteFd env error addr alloc g g'
  case getsockopt.sockopt error optval =>
    exact getsockopt_settles c g.remoteFd g'.remoteFd env error optval alloc g g'
  case recvmsg.message n error addr data =>
    exact recvmsg_settles c g.remoteFd g'.remoteFd env n error addr data alloc g g'
  case uname.struct error buf | prlimit64.struct error buf | shmctl.struct error buf =>
    exact uname_settles _ env error buf alloc g g'
  case statfs.struct error buf | fstatfs.struct error buf | newfstatat.struct error buf =>
    exact statfs_settles _ g.remoteFd g'.remoteFd env sends buf alloc g g'
  case faccessat2.int error =>
    exact faccessat2_settles c g.remoteFd g'.remoteFd env error alloc g g'
  case readlink.counted n data | readlinkat.counted n data | getdents64.counted n data =>
    exact readlink_settles _ g.remoteFd g'.remoteFd env n data alloc g g'
  case pipe2.pipe2 error fd0 fd1 =>
    exact pipe2_settles c g.remoteFd g'.remoteFd env error fd0 fd1 alloc g g'

/-! ### One call at a time -/

/-- The record holds the reply to the call, or a write's result, and nothing is under way. -/
def Landed (s : Gang) (c : Caller) : Prop :=
  s.requests = [] ∧ s.replies = [] ∧ ∃ body alloc g,
    s.record = landed c.call body alloc g ∧
      (c.call.kind = .write ∨ ⟨c.tag, body, alloc⟩ ∈ s.arrived) ∧
      ∀ env h, resultOn c.call env body alloc h = resultOn c.call env body alloc g

/-- At most the request or the reply of the call is under way. -/
def Pending (s : Gang) (c : Caller) : Prop :=
  s.record.done = false ∧ c.call.kind ≠ .write ∧
    (∀ r ∈ s.requests, r = (c.tag, c.call.kind)) ∧
    (∀ r ∈ s.replies, ∃ body, r = (c.tag, c.call.kind, body) ∧ Sends c.call.kind body) ∧
    s.requests.length + s.replies.length ≤ 1

def Stage (s : Gang) (c : Caller) : Prop :=
  match c.phase with
  | .begun => s.record.done = false ∧ s.requests = [] ∧ s.replies = []
  | .waiting => Pending s c ∨ Landed s c
  | .seen r => Landed s c ∧ r = s.record.remoteFd
  | .aborted => True

structure Single (s : Gang) : Prop where
  stage : ∀ c ∈ s.callers, Stage s c
  single : s.callers.length ≤ 1
  own : OwnResults s

theorem Single.alone {s : Gang} (h : Single s) {c : Caller} (mem : c ∈ s.callers) :
    s.callers = [c] := by
  have single := h.single
  match eq : s.callers with
  | [] => simp [eq] at mem
  | [d] =>
    rw [eq, List.mem_singleton] at mem
    rw [mem]
  | _ :: _ :: _ => simp [eq] at single

theorem Own.grows {arrived : List Arrival} {r : Returned} (own : Own arrived r) (a : Arrival) :
    Own (a :: arrived) r := by
  intro o result
  obtain ⟨body, alloc, whose, settled⟩ := own o result
  exact ⟨body, alloc, whose.imp_right (List.mem_cons_of_mem a), settled⟩

theorem beginCall_done (c : Call) (g : Record) : (beginCall c g).done = false := by
  obtain ⟨k, hasPtr, len⟩ := c
  cases k <;> rfl

theorem single_begin {s : Gang} (h : Single s) (thread : ℕ) (call : Call)
    (hok : ok s (.begin thread call)) : Single (next s (.begin thread call)) := by
  obtain ⟨noCaller, noRequest, noReply⟩ := hok
  refine ⟨?_, by simp [next, noCaller], h.own⟩
  intro c mem
  have new : c = ⟨thread, s.next, call, .begun⟩ := by simpa [next, noCaller] using mem
  rw [new]
  exact ⟨beginCall_done call s.record, noRequest, noReply⟩

theorem single_send {s : Gang} (h : Single s) (c : Caller) (link : Bool)
    (en : enabled s (.send c link)) : Single (next s (.send c link)) := by
  obtain ⟨mem, begun⟩ := en
  have alone := h.alone mem
  have stage := h.stage c mem
  simp only [Stage, begun] at stage
  obtain ⟨notDone, noRequest, noReply⟩ := stage
  by_cases write : c.call.kind = .write
  · refine ⟨?_, by simp [next, write, alone], ?_⟩
    case refine_2 =>
      simp only [next, if_pos write]
      exact h.own
    intro d hd
    have same : d = { c with phase := .waiting } := by simpa [next, write, alone] using hd
    have landed : landed c.call (.int 0) true s.record = writeSent c.call s.record := if_pos write
    have settled (env : Env) (g g' : Record) :
        resultOn c.call env (.int 0) true g = resultOn c.call env (.int 0) true g' := by
      simp only [resultOn, WormholeGang.landed, write, if_true, awakening, writeAwakening,
        genericAwakening, writeSent]
    rw [same]
    refine .inr ⟨by simpa [next, write] using noRequest, by simpa [next, write] using noReply,
      .int 0, true, s.record, by simp [next, write, landed], .inl write, ?_⟩
    intro env g
    exact settled env g s.record
  · refine ⟨?_, ?_, ?_⟩
    · intro d hd
      cases link with
      | true =>
        have same : d = { c with phase := .waiting } := by simpa [next, write, alone] using hd
        rw [same]
        refine .inl ⟨?_, write, ?_, ?_, ?_⟩ <;> simp [next, write, notDone, noRequest, noReply]
      | false =>
        have same : d = { c with phase := .waiting } := by simpa [next, write, alone] using hd
        rw [same]
        refine .inl ⟨?_, write, ?_, ?_, ?_⟩ <;> simp [next, write, notDone, noRequest, noReply]
    · cases link <;> simp [next, write, alone]
    · simp only [next, if_neg write]
      cases link <;> exact h.own

/-- When only the messages under way change, what matters is what a waiting call may expect. -/
theorem Single.messages {s : Gang} (h : Single s) (requests : List (ℕ × Kind))
    (replies : List (ℕ × Kind × Body)) (busy : s.requests ≠ [] ∨ s.replies ≠ [])
    (keeps : ∀ c ∈ s.callers, Pending s c → Pending { s with requests, replies } c) :
    Single { s with requests, replies } := by
  refine ⟨?_, h.single, h.own⟩
  intro c mem
  have stage := h.stage c mem
  have idle : ¬ (s.requests = [] ∧ s.replies = []) := by
    rintro ⟨noRequest, noReply⟩
    exact busy.elim (fun some => some noRequest) fun some => some noReply
  simp only [Stage] at stage ⊢
  cases phase : c.phase with
  | begun =>
    simp only [phase] at stage
    exact absurd stage.2 idle
  | waiting =>
    simp only [phase] at stage
    cases stage with
    | inl pending => exact .inl (keeps c mem pending)
    | inr landed => exact absurd ⟨landed.1, landed.2.1⟩ idle
  | seen r =>
    simp only [phase] at stage
    exact absurd ⟨stage.1.1, stage.1.2.1⟩ idle
  | aborted => trivial

theorem single_serve {s : Gang} (h : Single s) (tag : ℕ) (kind : Kind) (body : Body)
    (en : enabled s (.serve tag kind body)) : Single (next s (.serve tag kind body)) := by
  obtain ⟨mem, sends⟩ := en
  refine h.messages _ _ (.inl (List.ne_nil_of_mem mem)) ?_
  rintro c - ⟨notDone, notWrite, requests, replies, one⟩
  have own := requests _ mem
  have fewer := List.length_erase_of_mem mem
  have some := List.length_pos_of_mem mem
  refine ⟨notDone, notWrite, fun r hr => requests r (List.mem_of_mem_erase hr), ?_, ?_⟩
  · intro r hr
    cases hr with
    | head =>
      obtain ⟨rfl, rfl⟩ := Prod.mk.inj own
      exact ⟨body, rfl, sends⟩
    | tail _ hr => exact replies r hr
  · simp only [List.length_cons]
    omega

theorem single_loseRequest {s : Gang} (h : Single s) (tag : ℕ) (kind : Kind)
    (en : enabled s (.loseRequest tag kind)) : Single (next s (.loseRequest tag kind)) := by
  have mem : (tag, kind) ∈ s.requests := en
  refine h.messages _ _ (.inl (List.ne_nil_of_mem mem)) ?_
  rintro c - ⟨notDone, notWrite, requests, replies, one⟩
  have fewer := List.length_erase_of_mem mem
  refine ⟨notDone, notWrite, fun r hr => requests r (List.mem_of_mem_erase hr), replies, ?_⟩
  change (s.requests.erase (tag, kind)).length + s.replies.length ≤ 1
  omega

theorem single_loseReply {s : Gang} (h : Single s) (tag : ℕ) (kind : Kind) (body : Body)
    (en : enabled s (.loseReply tag kind body)) : Single (next s (.loseReply tag kind body)) := by
  have mem : (tag, kind, body) ∈ s.replies := en
  refine h.messages _ _ (.inr (List.ne_nil_of_mem mem)) ?_
  rintro c - ⟨notDone, notWrite, requests, replies, one⟩
  have fewer := List.length_erase_of_mem mem
  refine ⟨notDone, notWrite, requests, fun r hr => replies r (List.mem_of_mem_erase hr), ?_⟩
  change s.requests.length + (s.replies.erase (tag, kind, body)).length ≤ 1
  omega

theorem Pending.lands {s : Gang} {c : Caller} (pending : Pending s c) {tag : ℕ} {kind : Kind}
    {body : Body} (alloc : Bool) (mem : (tag, kind, body) ∈ s.replies) (settles : Settles kind body) :
    Landed (next s (.arrive tag kind body alloc)) c := by
  obtain ⟨-, notWrite, -, replies, one⟩ := pending
  obtain ⟨body', own, sends⟩ := replies _ mem
  simp only [Prod.mk.injEq] at own
  obtain ⟨rfl, rfl, rfl⟩ := own
  have some := List.length_pos_of_mem mem
  have noRequest : s.requests = [] := List.length_eq_zero_iff.mp (by omega)
  have noReply : s.replies.erase (c.tag, c.call.kind, body) = [] := by
    have fewer := List.length_erase_of_mem mem
    exact List.length_eq_zero_iff.mp (by omega)
  refine ⟨noRequest, noReply, body, alloc, s.record, (if_neg notWrite).symm,
    .inr List.mem_cons_self, ?_⟩
  intro env g
  exact settles_resultOn sends settles env alloc g s.record

theorem single_arrive {s : Gang} (h : Single s) (tag : ℕ) (kind : Kind) (body : Body) (alloc : Bool)
    (en : enabled s (.arrive tag kind body alloc)) (hok : ok s (.arrive tag kind body alloc)) :
    Single (next s (.arrive tag kind body alloc)) := by
  have mem : (tag, kind, body) ∈ s.replies := en
  refine ⟨?_, h.single, fun r hr => (h.own r hr).grows _⟩
  intro c hc
  have stage := h.stage c hc
  have busy : s.replies ≠ [] := List.ne_nil_of_mem mem
  simp only [Stage] at stage ⊢
  cases phase : c.phase with
  | begun =>
    simp only [phase] at stage
    exact absurd stage.2.2 busy
  | waiting =>
    simp only [phase] at stage
    cases stage with
    | inl pending => exact .inr (pending.lands alloc mem hok)
    | inr landed => exact absurd landed.2.1 busy
  | seen r =>
    simp only [phase] at stage
    exact absurd stage.1.2.1 busy
  | aborted => trivial

/-- A call that finds `rpc_done` set finds its own reply. -/
theorem Single.landed {s : Gang} (h : Single s) {c : Caller} (mem : c ∈ s.callers)
    (waiting : c.phase = .waiting) (done : s.record.done = true) : Landed s c := by
  have stage := h.stage c mem
  simp only [Stage, waiting] at stage
  cases stage with
  | inl pending => simp [pending.1] at done
  | inr landed => exact landed

theorem single_look {s : Gang} (h : Single s) (c : Caller) (en : enabled s (.look c)) :
    Single (next s (.look c)) := by
  obtain ⟨mem, waiting, -, woken⟩ := en
  have alone := h.alone mem
  refine ⟨?_, by simp [next, alone], h.own⟩
  intro d hd
  cases migrating : s.isMigrating with
  | true =>
    have same : d = { c with phase := .aborted } := by simpa [next, alone, migrating] using hd
    rw [same]
    trivial
  | false =>
    have same : d = { c with phase := .seen s.record.remoteFd } := by
      simpa [next, alone, migrating] using hd
    have done : s.record.done = true := by simpa [migrating] using woken
    have kept : { s.record with done := true } = s.record := by rw [← done]
    obtain ⟨noRequest, noReply, own⟩ := h.landed mem waiting done
    rw [same]
    refine ⟨⟨noRequest, noReply, ?_⟩, rfl⟩
    simpa only [next, kept] using own

/-- A file operation has no use for a descriptor. -/
theorem fileOperation_remoteFd {k : Kind} (file : isFileOperation k = true) (c : Call) (r r' : ℤ)
    (env : Env) (g : Record) : awakening k c r env g = awakening k c r' env g := by
  cases k <;> first | rfl | exact absurd file (by decide)

theorem Landed.own {s : Gang} {c : Caller} (landed : Landed s c) (env : Env) :
    Own s.arrived ⟨c.tag, c.call, env,
      some (awakening c.call.kind c.call s.record.remoteFd env s.record).1⟩ := by
  obtain ⟨-, -, body, alloc, g, record, whose, settled⟩ := landed
  intro o result
  refine ⟨body, alloc, whose, ?_⟩
  intro g'
  rw [settled env g', ← Option.some.inj result, record]
  rfl

theorem single_conclude {s : Gang} (h : Single s) (c : Caller) (env : Env)
    (en : enabled s (.conclude c env)) (hok : ok s (.conclude c env)) :
    Single (next s (.conclude c env)) := by
  obtain ⟨mem, phases⟩ := en
  have alone := h.alone mem
  have gone : (next s (.conclude c env)).callers = [] := by
    simp only [next, alone, List.erase_cons_head]
    split_ifs <;> rfl
  have arrived : (next s (.conclude c env)).arrived = s.arrived := by
    simp only [next]
    split_ifs <;> rfl
  refine ⟨by simp [gone], by simp [gone], ?_⟩
  by_cases aborted : c.phase = .aborted
  · have returned : (next s (.conclude c env)).returned = ⟨c.tag, c.call, env, none⟩ :: s.returned := by
      simp only [next, if_pos aborted]
    intro r hr
    rw [returned] at hr
    rw [arrived]
    cases hr with
    | head =>
      intro o result
      cases result
    | tail _ hr => exact h.own r hr
  · have returned : (next s (.conclude c env)).returned = ⟨c.tag, c.call, env,
        some (awakening c.call.kind c.call c.phase.remoteFd env s.record).1⟩ :: s.returned := by
      simp only [next, if_neg aborted]
    have own : Own s.arrived ⟨c.tag, c.call, env,
        some (awakening c.call.kind c.call c.phase.remoteFd env s.record).1⟩ := by
      rcases phases with is | ⟨r, seen⟩ | ⟨waiting, file⟩
      · exact absurd is aborted
      · have stage := h.stage c mem
        simp only [Stage, seen] at stage
        have remoteFd : c.phase.remoteFd = s.record.remoteFd := by rw [seen]; exact stage.2
        rw [remoteFd]
        exact stage.1.own env
      · rw [fileOperation_remoteFd file c.call c.phase.remoteFd s.record.remoteFd]
        exact (h.landed mem waiting (hok waiting)).own env
    intro r hr
    rw [returned] at hr
    rw [arrived]
    cases hr with
    | head => exact own
    | tail _ hr => exact h.own r hr

theorem single_next {s : Gang} (h : Single s) (e : Event) (en : enabled s e) (hok : ok s e) :
    Single (next s e) := by
  cases e with
  | begin thread call => exact single_begin h thread call hok
  | send c link => exact single_send h c link en
  | serve tag kind body => exact single_serve h tag kind body en
  | loseRequest tag kind => exact single_loseRequest h tag kind en
  | arrive tag kind body alloc => exact single_arrive h tag kind body alloc en hok
  | loseReply tag kind body => exact single_loseReply h tag kind body en
  | look c => exact single_look h c en
  | conclude c env => exact single_conclude h c env en hok
  | setMigrating b => exact ⟨h.stage, h.single, h.own⟩

/-- A gang whose calls do not overlap gets, for each one, the result of its own reply. -/
theorem results_are_own (record : Record) {events : List Event}
    (run : machine.Follows ok (start record) events) :
    machine.Always OwnResults (start record) events := by
  have fresh : Single (start record) := ⟨by simp [start], by simp [start], by simp [start, OwnResults]⟩
  have single := run.always (fun s e h en hok => single_next h e en hok) fresh
  exact single.mono fun s h => h.own

def env : Env := ⟨0, [3], true, true, true, true, 0⟩

def read : Call := ⟨.read, true, 2⟩

/-- A read that is answered, then a poll that a migration aborts. -/
def oneByOne : List Event :=
  [.begin 1 read, .send ⟨1, 0, read, .begun⟩ true, .serve 0 .read (.data 2 0 [7, 8]),
    .arrive 0 .read (.data 2 0 [7, 8]) true, .look ⟨1, 0, read, .waiting⟩,
    .conclude ⟨1, 0, read, .seen 0⟩ env,
    .begin 2 ⟨.poll, true, 1⟩, .send ⟨2, 1, ⟨.poll, true, 1⟩, .begun⟩ true, .setMigrating true,
    .look ⟨2, 1, ⟨.poll, true, 1⟩, .waiting⟩, .conclude ⟨2, 1, ⟨.poll, true, 1⟩, .aborted⟩ env]

theorem results_are_own_oneByOne :
    machine.Always OwnResults (start (registered 0)) oneByOne :=
  results_are_own (registered 0) (by decide +kernel)

/-- Two threads read at once. The reply to the second wakes the worker of the first, which takes
the second one's bytes. -/
def overlapping : List Event :=
  [.begin 1 read, .send ⟨1, 0, read, .begun⟩ true, .begin 2 read,
    .send ⟨2, 1, read, .begun⟩ true, .serve 1 .read (.data 2 0 [7, 8]),
    .arrive 1 .read (.data 2 0 [7, 8]) true, .look ⟨1, 0, read, .waiting⟩,
    .conclude ⟨1, 0, read, .seen 0⟩ env]

theorem overlapping_reads_share_reply :
    machine.Runs (start (registered 0)) overlapping ∧
      (machine.after (start (registered 0)) overlapping).returned =
        [⟨0, read, env, some { ax := 2, wrote := [.bytes [7, 8]] }⟩] ∧
      ¬ OwnResults (machine.after (start (registered 0)) overlapping) := by
  have returned : (machine.after (start (registered 0)) overlapping).returned =
      [⟨0, read, env, some { ax := 2, wrote := [.bytes [7, 8]] }⟩] := by decide +kernel
  have arrived : (machine.after (start (registered 0)) overlapping).arrived =
      [⟨1, .data 2 0 [7, 8], true⟩] := by decide +kernel
  refine ⟨by decide +kernel, returned, ?_⟩
  intro own
  obtain ⟨body, alloc, whose, -⟩ := own _ (by rw [returned]; exact List.mem_singleton_self _) _ rfl
  rw [arrived] at whose
  simp [read] at whose

end MattX.WormholeGang
