import MattX.SlotReuse
import Mathlib.Data.List.Find

set_option autoImplicit false

/-!
# Two histories that end with the same live entries

What the new occupant of a slot is told differs between them only where it
reads a field that no operation has written for it.
-/
namespace MattX.SlotReuse
open GuardedRuns GuestRegistry WormholeCalls

/-! ### The descriptor of the record -/

def withFd (x : ℤ) (r : Record) : Record := { r with remoteFd := x }

/-- A handler that neither looks at the descriptor nor stores one. -/
def Blind (handler : Body → Bool → Record → Record) : Prop :=
  ∀ b alloc x r, handler b alloc (withFd x r) = withFd x (handler b alloc r)

theorem blind_genericInt : Blind handleSysGenericIntReply := by
  intro b alloc x r
  cases b <;> rfl

theorem blind_read : Blind handleSysReadReply := by
  intro b alloc x r
  cases b with
  | data bytes error data =>
    simp only [handleSysReadReply]
    split_ifs <;> rfl
  | _ => rfl

theorem blind_lseek : Blind handleSysLseekReply := by
  intro b alloc x r
  cases b <;> rfl

theorem blind_statx : Blind handleSysStatxReply := by
  intro b alloc x r
  cases b <;> rfl

theorem blind_poll : Blind handleSysPollReply := by
  intro b alloc x r
  cases b <;> rfl

theorem blind_epollWait : Blind handleSysEpollWaitReply := by
  intro b alloc x r
  cases b with
  | epollWait retval events =>
    simp only [handleSysEpollWaitReply]
    split_ifs <;> rfl
  | _ => rfl

theorem blind_sockname : Blind handleSysSocknameReply := by
  intro b alloc x r
  cases b with
  | sockname error addr =>
    simp only [handleSysSocknameReply]
    split_ifs <;> rfl
  | _ => rfl

theorem blind_getsockopt : Blind handleSysGetsockoptReply := by
  intro b alloc x r
  cases b with
  | sockopt error optval =>
    simp only [handleSysGetsockoptReply]
    split_ifs <;> rfl
  | _ => rfl

theorem blind_sendmsg : Blind handleSysSendmsgReply := by
  intro b alloc x r
  cases b <;> rfl

theorem blind_recvmsg : Blind handleSysRecvmsgReply := by
  intro b alloc x r
  cases b with
  | message bytesRecv error addr data =>
    simp only [handleSysRecvmsgReply]
    split_ifs <;> rfl
  | _ => rfl

theorem blind_uname : Blind handleSysUnameReply := by
  intro b alloc x r
  cases b with
  | struct error buf =>
    simp only [handleSysUnameReply]
    split_ifs <;> rfl
  | _ => rfl

theorem blind_fio : Blind handleSysFioReply := by
  intro b alloc x r
  cases b <;> rfl

theorem blind_statfs : Blind handleSysStatfsReply := by
  intro b alloc x r
  cases b with
  | struct error buf =>
    simp only [handleSysStatfsReply, blind_uname _ _ x]
    rfl
  | _ => rfl

theorem blind_readlink : Blind handleSysReadlinkReply := by
  intro b alloc x r
  cases b with
  | counted error data =>
    simp only [handleSysReadlinkReply]
    split_ifs <;> rfl
  | _ => rfl

theorem blind_pipe2 : Blind handleSysPipe2Reply := by
  intro b alloc x r
  cases b with
  | pipe2 error fd0 fd1 =>
    simp only [handleSysPipe2Reply]
    split_ifs <;> rfl
  | _ => rfl

theorem blind_shmget : Blind handleSysShmgetReply := by
  intro b alloc x r
  cases b <;> rfl

theorem blind_shmat : Blind handleSysShmatReply := by
  intro b alloc x r
  cases b <;> rfl

theorem blind_write : Blind fun _ _ r => r := fun _ _ _ _ => rfl

/-- The kinds whose handler stores no descriptor. -/
theorem replyHandler_blind {k : Kind} (other : usesFd k = false) : Blind (replyHandler k) := by
  cases k with
  | «open» | dup | socket | epollCreate | accept => cases other
  | unlink | connect | bind | listen | sendto | epollCtl | setsockopt | prctl | faccessat2
  | fsync | fakeFsync | shmdt => exact blind_genericInt
  | lseek | fakeLlseek => exact blind_lseek
  | statx | fakeGetattr => exact blind_statx
  | read | pread64 | fakeRead | recvfrom => exact blind_read
  | write => exact blind_write
  | poll | select | pselect6 => exact blind_poll
  | epollWait => exact blind_epollWait
  | getsockname | getpeername => exact blind_sockname
  | getsockopt => exact blind_getsockopt
  | sendmsg => exact blind_sendmsg
  | recvmsg => exact blind_recvmsg
  | uname | prlimit64 | shmctl => exact blind_uname
  | fcntl | ioctl => exact blind_fio
  | statfs | fstatfs | newfstatat => exact blind_statfs
  | readlink | readlinkat | getdents64 => exact blind_readlink
  | pipe2 => exact blind_pipe2
  | shmget => exact blind_shmget
  | shmat => exact blind_shmat

theorem storesFd_other {k : Kind} (other : usesFd k = false) (b : Body) : storesFd k b = false := by
  cases k <;> first | rfl | cases other

/-- Of the descriptor that was there nothing is left, or all. -/
theorem replyHandler_fd (k : Kind) (b : Body) (alloc : Bool) (x : ℤ) (r : Record) :
    replyHandler k b alloc (withFd x r) =
      withFd (if storesFd k b then (replyHandler k b alloc r).remoteFd else x)
        (replyHandler k b alloc r) := by
  cases uses : usesFd k with
  | false =>
    rw [storesFd_other uses, replyHandler_blind uses]
    rfl
  | true =>
    cases k with
    | «open» | dup | socket | epollCreate => cases b <;> rfl
    | accept =>
      cases b with
      | accept remoteFd error addr =>
        simp only [replyHandler, handleSysAcceptReply, storesFd, beq_iff_eq]
        split_ifs <;> rfl
      | _ => rfl
    | _ => cases uses

theorem beginCall_fd (c : Call) (x : ℤ) (r : Record) :
    beginCall c (withFd x r) = withFd x (beginCall c r) := by
  simp only [beginCall]
  split <;> rfl

theorem writeSent_fd (c : Call) (x : ℤ) (r : Record) :
    writeSent c (withFd x r) = withFd x (writeSent c r) := rfl

/-- The branch works on the worker's copy, not on the descriptor of the record. -/
theorem awakening_fd (k : Kind) (c : Call) (fd : ℤ) (env : Env) (x : ℤ) (r : Record) :
    awakening k c fd env (withFd x r) =
      ((awakening k c fd env r).1, withFd x (awakening k c fd env r).2) := by
  obtain ⟨remoteFd, done, readBuf, readBytes, lseekRes, statxBuf, fsyncRes⟩ := r
  cases k with
  | accept =>
    by_cases own : 0 ≤ fd
    · by_cases asked : (mapProxy fd env).installed ≠ [] ∧ c.hasPtr
      · cases readBuf with
        | none => simp only [awakening, acceptAwakening, withFd, if_pos own, if_pos asked]
        | some addr =>
          simp only [awakening, acceptAwakening, withFd, if_pos own, if_pos asked]
          rfl
      · simp only [awakening, acceptAwakening, withFd, if_pos own, if_neg asked]
    · simp only [awakening, acceptAwakening, withFd, if_neg own]
  | statx =>
    cases done with
    | false => rfl
    | true =>
      cases statxBuf with
      | none => rfl
      | some buf =>
        by_cases ok : fsyncRes = 0
        · cases copied : env.copied <;> simp [awakening, statxAwakening, withFd, ok, copied]
        · simp [awakening, statxAwakening, withFd, ok]
  | poll => cases readBuf <;> rfl
  | select | pselect6 => cases readBuf <;> rfl
  | _ => rfl

theorem awakening_other {k : Kind} (other : usesFd k = false) (c : Call) (fd fd' : ℤ) (env : Env)
    (r : Record) : awakening k c fd env r = awakening k c fd' env r := by
  cases k <;> first | rfl | cases other

/-! ### One operation on one entry -/

theorem Alike.refl (g : Guest) : Alike g g :=
  ⟨rfl, rfl, rfl, rfl, fun _ => rfl, fun _ _ => ⟨rfl, fun _ _ => ⟨rfl, rfl⟩⟩,
    fun _ => ⟨rfl, fun _ => rfl⟩⟩

theorem AlikeWorker.refl (w : Worker) : AlikeWorker w w := ⟨rfl, fun _ => rfl⟩

/-- A change of the record that leaves the descriptor where it was. -/
theorem Alike.record {g h : Guest} (same : Alike g h) {f : Record → Record}
    (blind : ∀ x r, f (withFd x r) = withFd x (f r)) (wq : Bool → Bool) :
    Alike { g with rpc := f g.rpc, rpcWq := wq g.rpcWq }
      { h with rpc := f h.rpc, rpcWq := wq h.rpcWq } := by
  have kept : ∀ r, (f r).remoteFd = r.remoteFd := by
    intro r
    have self := congrArg Record.remoteFd (blind r.remoteFd r)
    exact self
  refine ⟨same.own, same.info, congrArg wq same.rpcWq, ?_, ?_, same.tids, same.step⟩
  · have moved : f h.rpc = withFd h.rpc.remoteFd (f g.rpc) := by
      rw [← blind]
      exact congrArg f same.rpc
    dsimp only
    rw [kept h.rpc]
    exact moved
  · intro own
    dsimp only
    rw [kept, kept]
    exact same.fd own

theorem alike_reply {g h : Guest} (same : Alike g h) (k : Kind) (b : Body) (alloc : Bool) :
    Alike
      { g with
        rpc := replyHandler k b alloc g.rpc
        own := { g.own with fd := g.own.fd || storesFd k b } }
      { h with
        rpc := replyHandler k b alloc h.rpc
        own := { h.own with fd := h.own.fd || storesFd k b } } := by
  have moved := replyHandler_fd k b alloc h.rpc.remoteFd g.rpc
  have eta : withFd h.rpc.remoteFd g.rpc = h.rpc := same.rpc.symm
  rw [eta] at moved
  refine ⟨?_, same.info, same.rpcWq, ?_, ?_, same.tids, same.step⟩
  · dsimp only
    rw [same.own]
  · dsimp only
    rw [moved]
    rfl
  · intro own
    dsimp only at own ⊢
    rw [moved]
    cases stores : storesFd k b with
    | true => rfl
    | false =>
      rw [stores, Bool.or_false] at own
      have self := replyHandler_fd k b alloc g.rpc.remoteFd g.rpc
      rw [stores] at self
      have kept := congrArg Record.remoteFd self
      exact (same.fd own).trans kept.symm

theorem alike_mapTids {g h : Guest} (same : Alike g h) (n : ℕ) (threads : List (ℕ × ℕ)) :
    Alike (g.mapTids n threads) (h.mapTids n threads) := by
  refine ⟨?_, same.info, same.rpcWq, same.rpc, same.fd, ?_, same.step⟩
  · simp only [Guest.mapTids, same.own]
  · intro k hk
    simp only [Guest.mapTids, Option.mem_def, Option.some.injEq] at hk
    refine ⟨rfl, fun j hj => ?_⟩
    simp only [Guest.mapTids]
    cases found : (threads.take n)[j]? with
    | some pair => exact ⟨rfl, rfl⟩
    | none =>
      have past : (threads.take n).length ≤ j := List.getElem?_eq_none_iff.mp found
      cases before : g.own.tids with
      | none =>
        rw [before] at hk
        simp only [Option.getD_none] at hk
        omega
      | some m =>
        rw [before] at hk
        simp only [Option.getD_some] at hk
        exact (same.tids m before).2 j (by omega)

theorem alike_note {g h : Guest} (same : Alike g h) (n : Note) :
    Alike { g with stepPending := true, step := n, own := { g.own with step := true } }
      { h with stepPending := true, step := n, own := { h.own with step := true } } := by
  refine ⟨?_, same.info, same.rpcWq, same.rpc, same.fd, same.tids, ?_⟩
  · dsimp only
    rw [same.own]
  · intro _
    exact ⟨rfl, fun _ => rfl⟩

/-- A trap leaves no pending step, whosever it was. -/
theorem trap_entry (g : Guest) :
    g.trap.1 = { g with stepPending := false, own := { g.own with step := true } } := by
  obtain ⟨info, rpcWq, rpc, threadCount, origTids, localTids, stepPending, step, own⟩ := g
  cases stepPending <;> rfl

theorem alike_trap {g h : Guest} (same : Alike g h) : Alike g.trap.1 h.trap.1 := by
  rw [trap_entry g, trap_entry h]
  refine ⟨?_, same.info, same.rpcWq, same.rpc, same.fd, same.tids, ?_⟩
  · dsimp only
    rw [same.own]
  · intro _
    exact ⟨rfl, fun none => absurd none (by simp)⟩

theorem trap_result {g h : Guest} (same : Alike g h) (own : g.own.step = true) :
    g.trap.2 = h.trap.2 := by
  obtain ⟨pending, note⟩ := same.step own
  simp only [Guest.trap, pending]
  cases was : g.stepPending with
  | false => rfl
  | true => simp only [if_true, note was, same.info]

/-- A thread among the pairs of the occupant is found at the same place. -/
theorem tidAt_same {g h : Guest} {ids ids' : ℕ → ℕ} {k tid : ℕ}
    (count : h.threadCount = g.threadCount) (equal : ∀ j < k, ids' j = ids j)
    (own : g.threadCount ≤ k ∨ ∃ j < k, j < g.threadCount ∧ ids j = tid) :
    tidAt h ids' tid = tidAt g ids tid ∧ ∀ j ∈ tidAt g ids tid, j < k := by
  have first : ∀ j ∈ tidAt g ids tid, j < k := by
    intro j found
    obtain ⟨holds, mem, before⟩ := List.find?_range_eq_some.mp found
    rcases own with all | ⟨i, low, live, hit⟩
    · have inside := List.mem_range.mp mem
      omega
    · by_contra late
      have missed := before i (by omega)
      simp [hit] at missed
  refine ⟨?_, first⟩
  cases found : tidAt g ids tid with
  | some j =>
    obtain ⟨holds, mem, before⟩ := List.find?_range_eq_some.mp found
    have low := first j found
    simp only [tidAt, count]
    refine List.find?_range_eq_some.mpr ⟨?_, mem, ?_⟩
    · rw [equal j low]
      exact holds
    · intro i hi
      rw [equal i (by omega)]
      exact before i hi
  | none =>
    have missed := List.find?_eq_none.mp found
    simp only [tidAt, count]
    refine List.find?_eq_none.mpr fun j mem => ?_
    rcases own with all | ⟨i, low, live, hit⟩
    · have inside := List.mem_range.mp mem
      rw [equal j (by omega)]
      exact missed j mem
    · exact absurd (by simp [hit]) (missed i (List.mem_range.mpr live))

/-- So the translation of an own thread is the same. -/
theorem translate_same {g h : Guest} {ids ids' image image' : ℕ → ℕ} {k tid : ℕ}
    (count : h.threadCount = g.threadCount) (equal : ∀ j < k, ids' j = ids j)
    (images : ∀ j < k, image' j = image j)
    (own : g.threadCount ≤ k ∨ ∃ j < k, j < g.threadCount ∧ ids j = tid) :
    (tidAt g ids tid).map image = (tidAt h ids' tid).map image' := by
  have ⟨place, low⟩ := tidAt_same count equal own
  rw [place]
  cases found : tidAt g ids tid with
  | none => rfl
  | some j =>
    have image := images j (low j found)
    simp only [Option.map_some, image]

theorem gettid_same {g h : Guest} (same : Alike g h) {tid : ℕ} (own : OwnTid g g.localTids tid) :
    g.gettid tid = h.gettid tid := by
  obtain ⟨k, mapped, own⟩ := own
  have ⟨count, equal⟩ := same.tids k mapped
  have translated :=
    translate_same count (fun j hj => (equal j hj).2) (fun j hj => (equal j hj).1) own
  simp only [Guest.gettid, translated]

theorem tgkill_same {g h : Guest} (same : Alike g h) {tgid tid : ℕ}
    (own : OwnTid g g.origTids tid) : g.tgkill tgid tid = h.tgkill tgid tid := by
  obtain ⟨k, mapped, own⟩ := own
  have ⟨count, equal⟩ := same.tids k mapped
  have translated :=
    translate_same count (fun j hj => (equal j hj).1) (fun j hj => (equal j hj).2) own
  have elim : ∀ (o : Option ℕ) (image : ℕ → ℕ), o.elim tid image = (o.map image).getD tid := by
    intro o image
    cases o <;> rfl
  simp only [Guest.tgkill, elim, translated, same.info]

theorem pollDone_same {g h : Guest} {v w : Worker} (same : Alike g h) (worker : AlikeWorker v w) :
    (g.pollDone v).2.2 = (h.pollDone w).2.2 ∧ Alike (g.pollDone v).1 (h.pollDone w).1 ∧
      AlikeWorker (g.pollDone v).2.1 (h.pollDone w).2.1 := by
  have done : h.rpc.done = g.rpc.done := by rw [same.rpc]
  have aborted : h.info.isMigrating = g.info.isMigrating := by rw [same.info]
  refine ⟨?_, ?_, ?_⟩
  · simp only [Guest.pollDone, done, aborted]
  · simp only [Guest.pollDone, aborted]
    exact same.record (f := fun r => { r with done := r.done || g.info.isMigrating })
      (fun _ _ => rfl) id
  · simp only [Guest.pollDone, done]
    split_ifs with replied
    · exact ⟨congrArg Own.fd same.own, same.fd⟩
    · exact worker

theorem awaken_same {g h : Guest} {v w : Worker} (same : Alike g h) (worker : AlikeWorker v w)
    {c : Call} (env : Env) (clean : usesFd c.kind = true → v.own = true) :
    (g.awaken c env v).2.2 = (h.awaken c env w).2.2 ∧
      Alike (g.awaken c env v).1 (h.awaken c env w).1 := by
  have copy : ∀ r, awakening c.kind c w.remoteFd env r = awakening c.kind c v.remoteFd env r := by
    intro r
    cases uses : usesFd c.kind with
    | false => exact awakening_other uses c _ _ env r
    | true => rw [worker.fd (clean uses)]
  constructor
  · have moved := awakening_fd c.kind c v.remoteFd env h.rpc.remoteFd g.rpc
    have eta : withFd h.rpc.remoteFd g.rpc = h.rpc := same.rpc.symm
    rw [eta] at moved
    simp only [Guest.awaken, copy, moved]
  · simp only [Guest.awaken, copy]
    have blind : ∀ x r, (awakening c.kind c v.remoteFd env (withFd x r)).2 =
        withFd x (awakening c.kind c v.remoteFd env r).2 := by
      intro x r
      rw [awakening_fd]
    exact same.record (f := fun r => (awakening c.kind c v.remoteFd env r).2) blind
      (· && !isFake c.kind)

/-- What one operation tells and leaves, when it reads nothing of an earlier occupant. -/
theorem act_same {g h : Guest} {v w : Worker} {a : Act} (same : Alike g h)
    (worker : AlikeWorker v w) (clean : Clean v g a) :
    (act v g a).2.2 = (act w h a).2.2 ∧ Alike (act v g a).1 (act w h a).1 ∧
      AlikeWorker (act v g a).2.1 (act w h a).2.1 := by
  cases a with
  | mapTids n threads => exact ⟨rfl, alike_mapTids same n threads, worker⟩
  | begin c =>
    exact ⟨rfl, same.record (beginCall_fd c) (· || isFake c.kind), AlikeWorker.refl _⟩
  | reply k b alloc => exact ⟨rfl, alike_reply same k b alloc, worker⟩
  | writeSent c => exact ⟨rfl, same.record (writeSent_fd c) id, worker⟩
  | pollDone => exact pollDone_same same worker
  | awaken c env =>
    have ⟨told, left⟩ := awaken_same same worker env clean
    exact ⟨told, left, worker⟩
  | isRpcPending => exact ⟨congrArg Result.pending same.rpcWq.symm, same, worker⟩
  | gettid tid => exact ⟨gettid_same same clean, same, worker⟩
  | tgkill tgid tid => exact ⟨tgkill_same same clean, same, worker⟩
  | note n => exact ⟨rfl, alike_note same n, worker⟩
  | trap => exact ⟨trap_result same clean, alike_trap same, worker⟩
  | edit e =>
    have info : e.edit h.info = e.edit g.info := congrArg e.edit same.info
    exact ⟨congrArg Result.entry info.symm,
      ⟨same.own, info, same.rpcWq, same.rpc, same.fd, same.tids, same.step⟩, worker⟩

end MattX.SlotReuse
