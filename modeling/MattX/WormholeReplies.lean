import MattX.WormholeCalls
import Mathlib.Algebra.Order.Group.Int

set_option autoImplicit false

namespace MattX.WormholeReplies
open WormholeCalls

def esrch : ℤ := -3

/-- What the home node sends back for a request of each kind. For a write it is the result of
`kernel_write`, which stays at home. -/
def Sends : Kind → Body → Prop
  | .open, .fd fd error | .socket, .fd fd error => (error = 0 ∧ 0 ≤ fd) ∨ (error < 0 ∧ fd = -1)
  | .dup, .fd fd error | .epollCreate, .fd fd error =>
    (error = 0 ∧ 0 ≤ fd) ∨ (error < 0 ∧ fd = error)
  | .accept, .accept fd error addr => (error = 0 ∧ 0 ≤ fd) ∨ (error < 0 ∧ fd = -1 ∧ addr = [])
  | .unlink, .int _ | .connect, .int _ | .bind, .int _ | .listen, .int _ | .fsync, .int _
  | .fakeFsync, .int _ | .epollCtl, .int _ | .setsockopt, .int _ | .prctl, .int _
  | .faccessat2, .int _ | .shmdt, .int _ | .write, .int _ => True
  | .sendto, .sent _ n error | .sendmsg, .sent _ n error => error = min n 0
  | .lseek, .lseek n error | .fakeLlseek, .lseek n error => error = min n 0
  | .statx, .statx error _ | .fakeGetattr, .statx error _ => error ≤ 0
  | .read, .data n error data | .recvfrom, .data n error data | .pread64, .data n error data
  | .fakeRead, .data n error data => error = min n 0 ∧ data.length = n.toNat
  | .poll, .poll error n _ | .select, .poll error n _ | .pselect6, .poll error n _ =>
    (error = 0 ∧ 0 ≤ n) ∨ (error = esrch ∧ n = 0)
  | .epollWait, .epollWait n events => events.length = 12 * n.toNat
  | .getsockname, .sockname .. | .getpeername, .sockname .. => True
  | .getsockopt, .sockopt error optval => error = 0 ∨ optval = []
  | .recvmsg, .message n error _ data => error = min n 0 ∧ data.length = n.toNat
  | .uname, .struct .. | .prlimit64, .struct .. | .fcntl, .struct .. | .ioctl, .struct ..
  | .shmctl, .struct .. => True
  | .statfs, .struct error _ | .fstatfs, .struct error _ | .newfstatat, .struct error _ => error ≤ 0
  | .readlink, .counted n data | .readlinkat, .counted n data | .getdents64, .counted n data =>
    data.length = n.toNat
  | .pipe2, .pipe2 .. => True
  | .shmget, .shmget shmid error => error = min shmid 0
  | .shmat, .shmat addr size error =>
    (error = 0 ∧ 0 < addr ∧ 0 ≤ size) ∨ (error < 0 ∧ addr = 0 ∧ size = 0)
  | _, _ => False

instance (k : Kind) (b : Body) : Decidable (Sends k b) := by
  unfold Sends
  split <;> infer_instance

/-- The home node's result: non-negative, or a negative errno. -/
def homeResult : Body → ℤ
  | .fd fd error => if error = 0 then fd else error
  | .int error => error
  | .sent _ n _ => n
  | .data n _ _ => n
  | .lseek n _ => n
  | .statx error _ => error
  | .accept fd error _ => if error = 0 then fd else error
  | .poll error n _ => if error < 0 then error else n
  | .epollWait n _ => n
  | .sockname error _ => error
  | .sockopt error _ => error
  | .message n _ _ _ => n
  | .struct error _ => error
  | .counted n _ => n
  | .pipe2 error _ _ => error
  | .shmget shmid error => if error < 0 then error else shmid
  | .shmat addr _ error => if error < 0 then error else addr

/-- The remote descriptor that a local one is made for and returned. -/
def created : Body → Option ℤ
  | .fd fd error => if error = 0 then some fd else none
  | .accept fd error _ => if error = 0 then some fd else none
  | _ => none

/-- The remote ends of a new pipe. -/
def pipeEnds : Body → List ℤ
  | .pipe2 error fd0 fd1 => if error = 0 then [fd0, fd1] else []
  | _ => []

/-- The call gave the guest the home node's result. -/
def Delivers (b : Body) (o : Outcome) : Prop :=
  match created b with
  | some fd => ∃ l : ℕ, o.installed = [(l, fd)] ∧ o.ax = l
  | none => o.ax = homeResult b ∧ o.installed.map Prod.snd = pipeEnds b

/-- One call and the reply to it. -/
structure Exchange where
  call : Call
  env : Env
  body : Body
  deriving DecidableEq

/-- The record as the branch of the call finds it. -/
def answered (g : Record) (x : Exchange) : Record :=
  if x.call.kind = .write then writeSent x.call (beginCall x.call g)
  else replyHandler x.call.kind x.body x.env.handlerAlloc (beginCall x.call g)

def exchange (g : Record) (x : Exchange) : Outcome × Record :=
  awakening x.call.kind x.call (answered g x).remoteFd x.env (answered g x)

/-- The record after one call at a time. -/
def history (g : Record) (past : List Exchange) : Record :=
  past.foldl (fun g x => (exchange g x).2) g

/-- What `add_guest_process` makes of a record; `rpc_remote_fd` keeps what the slot held before. -/
def registered (remoteFd : ℤ) : Record := ⟨remoteFd, false, none, 0, 0, none, 0⟩

/-- The same reply with other bytes where the home node sets none. -/
def withGap (gap : ℤ) : Body → Body
  | .sent _ n error => .sent gap n error
  | b => b

/-- Whatever calls came before and whatever the unset bytes hold, the guest gets the home node's
result of this call. -/
def Faithful (x : Exchange) : Prop :=
  ∀ remoteFd past gap, (∀ p ∈ past, Sends p.call.kind p.body) →
    Delivers x.body
      (exchange (history (registered remoteFd) past) { x with body := withGap gap x.body }).1

/-- A proxy file can be made and put in a free slot. -/
def CanMap (env : Env) : Prop := env.alloc = true ∧ env.proxy = true ∧ env.freeFds ≠ []

/-- Where the handler and the branch of a kind fit the reply. -/
def Decoded (x : Exchange) : Prop :=
  match x.call.kind, x.body with
  | .open, .fd _ error | .socket, .fd _ error | .dup, .fd _ error =>
    if error = 0 then
      x.env.alloc = true ∧ x.env.proxy = true ∧ (0 ≤ x.env.nativeAx ∨ x.env.freeFds ≠ [])
    else x.env.nativeAx = error
  | .epollCreate, .fd _ error => error = 0 → CanMap x.env
  | .accept, .accept _ error _ => error = 0 ∧ CanMap x.env
  | .write, .int n => n = min x.call.len 4096
  | .sendto, _ => False
  | .statx, _ => False
  | .read, .data n .. | .recvfrom, .data n .. | .pread64, .data n .. | .fakeRead, .data n .. =>
    0 < n → x.env.handlerAlloc = true ∧ x.env.copied = true
  | .poll, .poll error .. => error = 0 ∧ x.env.handlerAlloc = true ∧ x.env.copied = true
  | .select, .poll error .. | .pselect6, .poll error .. => error = 0 ∧ x.env.handlerAlloc = true
  | .epollWait, .epollWait n _ => 0 < n → x.env.handlerAlloc = true → x.env.copied = true
  | .statfs, .struct error buf | .fstatfs, .struct error buf | .newfstatat, .struct error buf =>
    error = 0 → buf ≠ [] → x.call.hasPtr = true → x.env.handlerAlloc = true → x.env.copied = true
  | .readlink, .counted n _ | .readlinkat, .counted n _ | .getdents64, .counted n _ =>
    0 < n → x.call.hasPtr = true → x.env.handlerAlloc = true → x.env.copied = true
  | .pipe2, .pipe2 error .. =>
    error = 0 → x.env.handlerAlloc = true ∧ x.env.alloc = true ∧ x.env.proxy = true ∧
      x.env.copied = true ∧ 2 ≤ x.env.freeFds.length
  | .shmat, .shmat addr size error =>
    error = 0 → x.env.handlerAlloc = true ∧ 0 < size ∧ x.env.hollow = addr
  | .fakeGetattr, .statx error _ => (error = 0 ∧ x.env.handlerAlloc = true) ∨ error = ebadf
  | _, _ => True

/-! ### What each branch makes of its reply -/

theorem value_delivers {b : Body} (plain : created b = none) (noPipe : pipeEnds b = []) (ax : ℤ)
    (wrote : List Payload) : Delivers b { ax, wrote } ↔ ax = homeResult b := by
  simp [Delivers, plain, noPipe]

theorem mapProxy_delivers {b : Body} {fd : ℤ} (new : created b = some fd) (env : Env)
    (wrote : List Payload) : Delivers b { mapProxy fd env with wrote } ↔ CanMap env := by
  simp only [Delivers, new, CanMap, mapProxy]
  cases env.alloc <;> cases env.proxy <;> cases env.freeFds <;> simp

theorem open_delivers (c : Call) (env : Env) (g : Record) {fd error : ℤ}
    (sends : (error = 0 ∧ 0 ≤ fd) ∨ (error < 0 ∧ fd < 0)) :
    Delivers (.fd fd error) (openAwakening c fd env g).1 ↔
      if error = 0 then
        env.alloc = true ∧ env.proxy = true ∧ (0 ≤ env.nativeAx ∨ env.freeFds ≠ [])
      else env.nativeAx = error := by
  rcases sends with ⟨rfl, hfd⟩ | ⟨he, hfd⟩
  · simp only [Delivers, created, openAwakening, if_pos hfd, if_true]
    by_cases hn : env.nativeAx < 0
    · have notNative : ¬ 0 ≤ env.nativeAx := by omega
      simp only [if_pos hn, notNative, false_or]
      cases env.alloc <;> cases env.proxy <;> cases env.freeFds <;> simp
    · have native : 0 ≤ env.nativeAx := by omega
      simp only [if_neg hn, native, true_or]
      cases env.alloc <;> cases env.proxy <;> simp
  · have noFd : ¬ 0 ≤ fd := by omega
    have failed : error ≠ 0 := by omega
    simp [Delivers, created, openAwakening, homeResult, pipeEnds, noFd, failed]

theorem epollCreate_delivers (c : Call) (env : Env) (g : Record) {fd error : ℤ}
    (sends : (error = 0 ∧ 0 ≤ fd) ∨ (error < 0 ∧ fd = error)) :
    Delivers (.fd fd error) (epollCreateAwakening c fd env g).1 ↔ (error = 0 → CanMap env) := by
  rcases sends with ⟨rfl, hfd⟩ | ⟨he, rfl⟩
  · simp only [epollCreateAwakening, if_pos hfd, true_imp_iff]
    exact mapProxy_delivers (b := .fd fd 0) rfl env (mapProxy fd env).wrote
  · have noFd : ¬ 0 ≤ fd := by omega
    have failed : fd ≠ 0 := by omega
    simp [epollCreateAwakening, Delivers, created, homeResult, pipeEnds, noFd, failed]

theorem accept_delivers (c : Call) (env : Env) (g : Record) {fd : ℤ} (hfd : 0 ≤ fd) (addr : Bytes) :
    Delivers (.accept fd 0 addr) (acceptAwakening c fd env g).1 ↔ CanMap env := by
  have mapped (wrote : List Payload) := mapProxy_delivers (b := .accept fd 0 addr) rfl env wrote
  simp only [acceptAwakening, if_pos hfd]
  by_cases taken : (mapProxy fd env).installed ≠ [] ∧ c.hasPtr = true
  · rw [if_pos taken]
    cases g.readBuf with
    | some buf => exact mapped _
    | none => exact mapped (mapProxy fd env).wrote
  · rw [if_neg taken]
    exact mapped (mapProxy fd env).wrote

theorem accept_keeps (fd : ℤ) (addr : Bytes) (alloc : Bool) (g : Record) :
    (handleSysAcceptReply (.accept fd 0 addr) alloc g).remoteFd = fd := by
  simp only [handleSysAcceptReply]
  split_ifs <;> rfl

/-- Without a new descriptor the record's own value is returned. -/
theorem accept_failed (c : Call) (env : Env) (g : Record) {remoteFd error : ℤ}
    (failed : error ≠ 0) (addr : Bytes) (fd : ℤ) (old : remoteFd < 0) :
    Delivers (.accept fd error addr) (acceptAwakening c remoteFd env g).1 ↔ remoteFd = error := by
  have noFd : ¬ 0 ≤ remoteFd := by omega
  simp [acceptAwakening, Delivers, created, homeResult, pipeEnds, noFd, failed]

theorem copyOut_delivers {b : Body} (plain : created b = none) (noPipe : pipeEnds b = [])
    (env : Env) {n : ℤ} (result : homeResult b = n) (buf : Option Payload) :
    Delivers b (copyOut n buf env) ↔ (0 < n → buf.isSome = true → env.copied = true) := by
  have value := value_delivers plain noPipe
  simp only [result] at value
  cases buf with
  | none => simp [copyOut, value]
  | some data =>
    by_cases pos : 0 < n
    · cases copied : env.copied with
      | true => simp [copyOut, copied, pos, value]
      | false =>
        have other : efault ≠ n := by simp only [efault]; omega
        simp [copyOut, copied, pos, value, other]
    · simp [copyOut, pos, value]

theorem read_delivers (c : Call) (env : Env) (g : Record) (r : ℤ) (n error : ℤ) (data : Bytes) :
    Delivers (.data n error data)
        (readAwakening c r env (handleSysReadReply (.data n error data) env.handlerAlloc g)).1 ↔
      (0 < n → env.handlerAlloc = true ∧ env.copied = true) := by
  have copied (buf : Option Payload) :
      Delivers (.data n error data) (copyOut n buf env) ↔
        (0 < n → buf.isSome = true → env.copied = true) :=
    copyOut_delivers rfl rfl env rfl buf
  by_cases pos : 0 < n
  · cases alloc : env.handlerAlloc with
    | true =>
      simp only [readAwakening, handleSysReadReply, if_pos pos, if_true, copied]
      simp
    | false =>
      have value := value_delivers (b := .data n error data) rfl rfl enomem []
      have other : enomem ≠ n := by simp only [enomem]; omega
      simp only [readAwakening, handleSysReadReply, if_pos pos, copyOut]
      simp [value, homeResult, other, pos]
  · simp only [readAwakening, handleSysReadReply, if_neg pos, copied]
    simp [pos]

theorem pread64_delivers (c : Call) (env : Env) (g : Record) (r : ℤ) (n error : ℤ) (data : Bytes) :
    Delivers (.data n error data)
        (pread64Awakening c r env (handleSysReadReply (.data n error data) env.handlerAlloc g)).1 ↔
      (0 < n → env.handlerAlloc = true ∧ env.copied = true) := by
  have done : (handleSysReadReply (.data n error data) env.handlerAlloc g).done = true := by
    simp only [handleSysReadReply]
    split_ifs <;> rfl
  have read := read_delivers c env g r n error data
  simp only [pread64Awakening, done, if_true]
  exact read

theorem poll_delivers (c : Call) (env : Env) (g : Record) (r : ℤ) {n error : ℤ}
    (fds : List PollFd) (sends : (error = 0 ∧ 0 ≤ n) ∨ (error = esrch ∧ n = 0)) :
    Delivers (.poll error n fds)
        (pollAwakening c r env (handleSysPollReply (.poll error n fds) env.handlerAlloc g)).1 ↔
      error = 0 ∧ env.handlerAlloc = true ∧ env.copied = true := by
  have value (ax : ℤ) (wrote : List Payload) :=
    value_delivers (b := .poll error n fds) rfl rfl ax wrote
  rcases sends with ⟨rfl, hn⟩ | ⟨rfl, rfl⟩
  · have missing : ebadf ≠ n := by simp only [ebadf]; omega
    have fault : efault ≠ n := by simp only [efault]; omega
    cases alloc : env.handlerAlloc <;> cases copied : env.copied <;>
      simp [pollAwakening, handleSysPollReply, copied, value, homeResult, missing, fault]
  · have failed : esrch ≠ 0 := by decide
    have result : homeResult (.poll esrch 0 fds) = esrch := rfl
    have missing : ebadf ≠ esrch := by decide
    have fault : efault ≠ esrch := by decide
    cases alloc : env.handlerAlloc <;> cases copied : env.copied <;>
      simp [pollAwakening, handleSysPollReply, copied, value, result, missing, fault, failed,
        failed.symm]

theorem select_delivers (c : Call) (env : Env) (g : Record) (r : ℤ) {n error : ℤ}
    (fds : List PollFd) (sends : (error = 0 ∧ 0 ≤ n) ∨ (error = esrch ∧ n = 0)) :
    Delivers (.poll error n fds)
        (selectAwakening c r env (handleSysPollReply (.poll error n fds) env.handlerAlloc g)).1 ↔
      error = 0 ∧ env.handlerAlloc = true := by
  have value (ax : ℤ) (wrote : List Payload) :=
    value_delivers (b := .poll error n fds) rfl rfl ax wrote
  rcases sends with ⟨rfl, hn⟩ | ⟨rfl, rfl⟩
  · have missing : ebadf ≠ n := by simp only [ebadf]; omega
    cases alloc : env.handlerAlloc <;>
      simp [selectAwakening, handleSysPollReply, value, homeResult, missing]
  · have failed : esrch ≠ 0 := by decide
    have result : homeResult (.poll esrch 0 fds) = esrch := rfl
    have missing : ebadf ≠ esrch := by decide
    cases alloc : env.handlerAlloc <;>
      simp [selectAwakening, handleSysPollReply, value, result, missing, failed, failed.symm]

theorem epollWait_delivers (c : Call) (env : Env) (g : Record) (r : ℤ) (n : ℤ) (events : Bytes) :
    Delivers (.epollWait n events)
        (epollWaitAwakening c r env (handleSysEpollWaitReply (.epollWait n events) env.handlerAlloc g)).1 ↔
      (0 < n → env.handlerAlloc = true → env.copied = true) := by
  have copied (buf : Option Payload) :
      Delivers (.epollWait n events) (copyOut n buf env) ↔
        (0 < n → buf.isSome = true → env.copied = true) :=
    copyOut_delivers rfl rfl env rfl buf
  by_cases pos : 0 < n
  · simp only [epollWaitAwakening, handleSysEpollWaitReply, if_pos pos, if_true, copied]
    cases env.handlerAlloc <;> simp
  · simp only [epollWaitAwakening, handleSysEpollWaitReply, if_neg pos, if_true, copied]
    simp [pos]

/-- A branch that only returns a number delivers it. -/
theorem returns {b : Body} (plain : created b = none) (noPipe : pipeEnds b = []) {o : Outcome}
    (ax : o.ax = homeResult b) (installed : o.installed = []) : Delivers b o := by
  simp [Delivers, plain, noPipe, ax, installed]

theorem copyOnZero_returns {b : Body} (plain : created b = none) (noPipe : pipeEnds b = [])
    (wanted : Bool) (env : Env) {g : Record} (done : g.done = true)
    (result : g.fsyncRes = homeResult b) : Delivers b (copyOnZero wanted env g) := by
  simp only [copyOnZero, done, if_true]
  cases g.readBuf with
  | some data => exact returns plain noPipe result rfl
  | none => exact returns plain noPipe result rfl

theorem sockname_delivers (c : Call) (env : Env) (g : Record) (r : ℤ) (error : ℤ) (addr : Bytes) :
    Delivers (.sockname error addr)
      (socknameAwakening c r env (handleSysSocknameReply (.sockname error addr) env.handlerAlloc g)).1 := by
  refine copyOnZero_returns rfl rfl true env ?_ ?_ <;>
    simp only [handleSysSocknameReply] <;> split_ifs <;> rfl

theorem getsockopt_delivers (c : Call) (env : Env) (g : Record) (r : ℤ) (error : ℤ)
    (optval : Bytes) :
    Delivers (.sockopt error optval)
      (getsockoptAwakening c r env
        (handleSysGetsockoptReply (.sockopt error optval) env.handlerAlloc g)).1 := by
  refine copyOnZero_returns rfl rfl _ env ?_ ?_ <;>
    simp only [handleSysGetsockoptReply] <;> split_ifs <;> rfl

/-- For uname, prlimit64 and shmctl. -/
theorem uname_delivers (wanted : Bool) (env : Env) (g : Record) (error : ℤ) (buf : Bytes) :
    Delivers (.struct error buf)
      (copyOnZero wanted env (handleSysUnameReply (.struct error buf) env.handlerAlloc g)) := by
  refine copyOnZero_returns rfl rfl _ env ?_ ?_ <;>
    simp only [handleSysUnameReply] <;> split_ifs <;> rfl

theorem recvmsg_delivers (c : Call) (env : Env) (g : Record) (r : ℤ) {n error : ℤ}
    (addr data : Bytes) (sends : error = min n 0) :
    Delivers (.message n error addr data)
      (recvmsgAwakening c r env
        (handleSysRecvmsgReply (.message n error addr data) env.handlerAlloc g)).1 := by
  have result : (if 0 ≤ n then n else error) = n := by split_ifs <;> omega
  simp only [recvmsgAwakening, handleSysRecvmsgReply, result]
  by_cases pos : 0 < n
  · simp only [if_pos pos, if_true]
    cases env.handlerAlloc with
    | true => exact returns rfl rfl rfl rfl
    | false => exact returns rfl rfl rfl rfl
  · simp only [if_neg pos, if_true]
    exact returns rfl rfl rfl rfl

theorem sendmsg_delivers (c : Call) (env : Env) (g : Record) (r : ℤ) {n error : ℤ} (gap : ℤ)
    (sends : error = min n 0) :
    Delivers (.sent gap n error)
      (fsyncAwakening c r env (handleSysSendmsgReply (.sent gap n error) env.handlerAlloc g)).1 := by
  have result : (if 0 ≤ n then n else error) = n := by split_ifs <;> omega
  simp only [fsyncAwakening, handleSysSendmsgReply, result, if_true]
  exact returns rfl rfl rfl rfl

theorem fcntl_delivers (c : Call) (env : Env) (g : Record) (r : ℤ) (error : ℤ) (buf : Bytes) :
    Delivers (.struct error buf)
      (fcntlAwakening c r env (handleSysFioReply (.struct error buf) env.handlerAlloc g)).1 := by
  simp only [fcntlAwakening, handleSysFioReply, if_true]
  cases env.handlerAlloc with
  | true => exact returns rfl rfl rfl rfl
  | false => exact returns rfl rfl rfl rfl

/-- What the shared branch of the metadata calls makes of the record. -/
theorem meta_delivers {b : Body} (plain : created b = none) (noPipe : pipeEnds b = []) (c : Call)
    (r : ℤ) (env : Env) {g : Record} (done : g.done = true) (result : g.fsyncRes = homeResult b) :
    Delivers b (metaAwakening c r env g).1 ↔
      (0 ≤ homeResult b → 0 < g.lseekRes → c.hasPtr = true → g.readBuf.isSome = true →
        env.copied = true) := by
  have value := value_delivers plain noPipe
  simp only [metaAwakening, done, if_true]
  cases g.readBuf with
  | none => simp [value, result]
  | some data =>
    by_cases given : 0 ≤ g.fsyncRes ∧ 0 < g.lseekRes ∧ c.hasPtr = true
    · obtain ⟨nonneg, sized, ptr⟩ := given
      rw [result] at nonneg
      have fault : efault ≠ homeResult b := by simp only [efault]; omega
      cases copied : env.copied <;> simp [value, result, nonneg, sized, ptr, fault]
    · simp only [if_neg given]
      rw [value, result]
      rw [result] at given
      constructor
      · intro _ nonneg sized ptr
        exact absurd ⟨nonneg, sized, ptr⟩ given
      · intro _
        rfl

theorem statfs_delivers (c : Call) (env : Env) (g : Record) (r : ℤ) {error : ℤ} (buf : Bytes)
    (sends : error ≤ 0) :
    Delivers (.struct error buf)
        (metaAwakening c r env (handleSysStatfsReply (.struct error buf) env.handlerAlloc g)).1 ↔
      (error = 0 → buf ≠ [] → c.hasPtr = true → env.handlerAlloc = true → env.copied = true) := by
  have done : (handleSysStatfsReply (.struct error buf) env.handlerAlloc g).done = true := by
    simp only [handleSysStatfsReply, handleSysUnameReply]
    split_ifs <;> rfl
  have result : (handleSysStatfsReply (.struct error buf) env.handlerAlloc g).fsyncRes = error := by
    simp only [handleSysStatfsReply, handleSysUnameReply]
    split_ifs <;> rfl
  rw [meta_delivers (b := .struct error buf) rfl rfl c r env done result]
  by_cases zero : error = 0
  · simp only [handleSysStatfsReply, handleSysUnameReply, homeResult, zero, if_true]
    cases env.handlerAlloc <;> cases buf <;> simp
  · have failed : ¬ 0 ≤ error := by omega
    simp [homeResult, failed, zero]

theorem readlink_delivers (c : Call) (env : Env) (g : Record) (r : ℤ) (n : ℤ) (data : Bytes) :
    Delivers (.counted n data)
        (metaAwakening c r env (handleSysReadlinkReply (.counted n data) env.handlerAlloc g)).1 ↔
      (0 < n → c.hasPtr = true → env.handlerAlloc = true → env.copied = true) := by
  have done : (handleSysReadlinkReply (.counted n data) env.handlerAlloc g).done = true := by
    simp only [handleSysReadlinkReply]
    split_ifs <;> rfl
  have result : (handleSysReadlinkReply (.counted n data) env.handlerAlloc g).fsyncRes = n := by
    simp only [handleSysReadlinkReply]
    split_ifs <;> rfl
  rw [meta_delivers (b := .counted n data) rfl rfl c r env done result]
  by_cases pos : 0 < n
  · have nonneg : 0 ≤ n := by omega
    simp only [handleSysReadlinkReply, homeResult, if_pos pos]
    cases env.handlerAlloc <;> simp [pos, nonneg]
  · simp [handleSysReadlinkReply, pos]

theorem faccessat2_delivers (c : Call) (env : Env) (g : Record) (r : ℤ) (error : ℤ) :
    Delivers (.int error)
      (faccessat2Awakening c r env
        (handleSysGenericIntReply (.int error) env.handlerAlloc g)).1 := by
  have fits := meta_delivers (b := .int error) rfl rfl { c with hasPtr := false } r env
    (g := handleSysGenericIntReply (.int error) env.handlerAlloc g) rfl rfl
  exact fits.mpr (fun _ _ noPtr => absurd noPtr (by simp))

theorem pipe2_delivers (c : Call) (env : Env) (g : Record) (r : ℤ) (error fd0 fd1 : ℤ) :
    Delivers (.pipe2 error fd0 fd1)
        (pipe2Awakening c r env (handleSysPipe2Reply (.pipe2 error fd0 fd1) env.handlerAlloc g)).1 ↔
      (error = 0 → env.handlerAlloc = true ∧ env.alloc = true ∧ env.proxy = true ∧
        env.copied = true ∧ 2 ≤ env.freeFds.length) := by
  by_cases zero : error = 0
  · subst zero
    simp only [pipe2Awakening, handleSysPipe2Reply, if_true, true_imp_iff]
    cases env.handlerAlloc with
    | false => simp [Delivers, created, homeResult, pipeEnds]
    | true =>
      rcases env.freeFds with _ | ⟨l0, _ | ⟨l1, rest⟩⟩
      · simp [Delivers, created, homeResult, pipeEnds, emfile]
      · cases env.alloc <;> cases env.proxy <;>
          simp [Delivers, created, homeResult, pipeEnds, emfile]
      · cases env.alloc <;> cases env.proxy <;> cases env.copied <;>
          simp [Delivers, created, homeResult, pipeEnds, emfile, efault]
  · have value (ax : ℤ) : Delivers (.pipe2 error fd0 fd1) { ax } ↔ ax = error :=
      value_delivers rfl (by simp [pipeEnds, zero]) ax []
    simp only [pipe2Awakening, handleSysPipe2Reply, if_neg zero, if_true]
    cases g.readBuf <;> simp [value, zero]

theorem shmget_delivers (c : Call) (env : Env) (g : Record) (r : ℤ) (shmid error : ℤ) :
    Delivers (.shmget shmid error)
      (fsyncAwakening c r env
        (handleSysShmgetReply (.shmget shmid error) env.handlerAlloc g)).1 :=
  returns rfl rfl rfl rfl

theorem shmat_delivers (c : Call) (env : Env) (g : Record) (r : ℤ) {addr size error : ℤ}
    (sends : (error = 0 ∧ 0 < addr ∧ 0 ≤ size) ∨ (error < 0 ∧ addr = 0 ∧ size = 0)) :
    Delivers (.shmat addr size error)
        (shmatAwakening c r env (handleSysShmatReply (.shmat addr size error) env.handlerAlloc g)).1 ↔
      (error = 0 → env.handlerAlloc = true ∧ 0 < size ∧ env.hollow = addr) := by
  have value (ax : ℤ) := value_delivers (b := .shmat addr size error) rfl rfl ax []
  simp only [shmatAwakening, handleSysShmatReply, if_true]
  rcases sends with ⟨rfl, haddr, hsize⟩ | ⟨he, rfl, rfl⟩
  · have other : (0 : ℤ) ≠ addr := by omega
    cases env.handlerAlloc with
    | false => simp [value, homeResult, other]
    | true =>
      by_cases sized : 0 < size <;> simp [value, homeResult, sized, other]
  · have failed : error ≠ 0 := by omega
    cases env.handlerAlloc <;> simp [value, homeResult, he, failed]

theorem fakeGetattr_delivers (c : Call) (env : Env) (g : Record) (r : ℤ) (error : ℤ) (buf : Bytes) :
    Delivers (.statx error buf)
        (fakeGetattr c r env (handleSysStatxReply (.statx error buf) env.handlerAlloc g)).1 ↔
      (error = 0 ∧ env.handlerAlloc = true) ∨ error = ebadf := by
  have value (ax : ℤ) (wrote : List Payload) :=
    value_delivers (b := .statx error buf) rfl rfl ax wrote
  simp only [fakeGetattr, handleSysStatxReply]
  by_cases kept : error = 0 ∧ env.handlerAlloc = true
  · obtain ⟨rfl, alloc⟩ := kept
    simp [alloc, value, homeResult]
  · have lost : ebadf = error ↔ error = ebadf := eq_comm
    rw [if_neg kept, value]
    simpa only [homeResult, kept, false_or] using lost

/-! ### Every call -/

/-- The kinds and replies whose result the record hides. -/
def Garbled (x : Exchange) : Prop :=
  match x.call.kind, x.body with
  | .sendto, _ | .statx, _ => True
  | .accept, .accept _ error _ => error ≠ 0
  | _, _ => False

/-- Elsewhere the record found does not matter. -/
theorem delivers_iff (x : Exchange) (sends : Sends x.call.kind x.body) (clear : ¬ Garbled x)
    (g : Record) (gap : ℤ) :
    Delivers x.body (exchange g { x with body := withGap gap x.body }).1 ↔ Decoded x := by
  obtain ⟨c, env, b⟩ := x
  rcases call : c with ⟨k, hasPtr, len⟩
  simp only [call] at sends clear
  cases k <;> cases b <;> try exact sends.elim
  case «open».fd fd error | socket.fd fd error =>
    have sends : (error = 0 ∧ 0 ≤ fd) ∨ (error < 0 ∧ fd < 0) :=
      sends.imp_right fun h => ⟨h.1, by omega⟩
    exact open_delivers c env g sends
  case dup.fd fd error =>
    have sends : (error = 0 ∧ 0 ≤ fd) ∨ (error < 0 ∧ fd < 0) :=
      sends.imp_right fun h => ⟨h.1, by omega⟩
    exact open_delivers c env g sends
  case epollCreate.fd fd error => exact epollCreate_delivers c env g sends
  case accept.accept fd error addr =>
    have accepted : error = 0 := not_not.mp clear
    subst accepted
    have hfd : 0 ≤ fd := sends.elim (fun h => h.2) fun h => absurd h.1 (by omega)
    have kept := accept_keeps fd addr env.handlerAlloc (beginCall ⟨.accept, hasPtr, len⟩ g)
    have fits := accept_delivers ⟨.accept, hasPtr, len⟩ env
      (handleSysAcceptReply (.accept fd 0 addr) env.handlerAlloc (beginCall ⟨.accept, hasPtr, len⟩ g))
      hfd addr
    simp only [exchange, answered, withGap, awakening, replyHandler, reduceCtorEq, if_false, kept, fits,
      Decoded, true_and]
  case unlink.int | connect.int | bind.int | listen.int | fsync.int | fakeFsync.int | epollCtl.int
    | setsockopt.int | prctl.int | shmdt.int =>
    exact iff_of_true (returns rfl rfl rfl rfl) trivial
  case lseek.lseek | fakeLlseek.lseek =>
    exact iff_of_true (returns rfl rfl rfl rfl) trivial
  case faccessat2.int error => exact iff_of_true (faccessat2_delivers c env _ g.remoteFd error) trivial
  case write.int n =>
    have value := value_delivers (b := .int n) rfl rfl (min len 4096 : ℕ) []
    exact value.trans eq_comm
  case sendto.sent | statx.statx => exact absurd trivial clear
  case sendmsg.sent n error => exact iff_of_true (sendmsg_delivers c env _ g.remoteFd gap sends) trivial
  case read.data n error data | recvfrom.data n error data | fakeRead.data n error data =>
    exact read_delivers c env _ g.remoteFd n error data
  case pread64.data n error data => exact pread64_delivers c env _ g.remoteFd n error data
  case poll.poll error n fds => exact poll_delivers c env _ g.remoteFd fds sends
  case select.poll error n fds | pselect6.poll error n fds =>
    exact select_delivers c env _ g.remoteFd fds sends
  case epollWait.epollWait n events => exact epollWait_delivers c env _ g.remoteFd n events
  case getsockname.sockname error addr | getpeername.sockname error addr =>
    exact iff_of_true (sockname_delivers c env _ g.remoteFd error addr) trivial
  case getsockopt.sockopt error optval =>
    exact iff_of_true (getsockopt_delivers c env _ g.remoteFd error optval) trivial
  case recvmsg.message n error addr data =>
    exact iff_of_true (recvmsg_delivers c env _ g.remoteFd addr data sends.1) trivial
  case uname.struct error buf | prlimit64.struct error buf | shmctl.struct error buf =>
    exact iff_of_true (uname_delivers _ env _ error buf) trivial
  case fcntl.struct error buf | ioctl.struct error buf =>
    exact iff_of_true (fcntl_delivers _ env _ g.remoteFd error buf) trivial
  case statfs.struct error buf | fstatfs.struct error buf | newfstatat.struct error buf =>
    exact statfs_delivers _ env _ g.remoteFd buf sends
  case readlink.counted n data | readlinkat.counted n data | getdents64.counted n data =>
    exact readlink_delivers _ env _ g.remoteFd n data
  case pipe2.pipe2 error fd0 fd1 => exact pipe2_delivers c env _ g.remoteFd error fd0 fd1
  case shmget.shmget shmid error =>
    exact iff_of_true (shmget_delivers c env _ g.remoteFd shmid error) trivial
  case shmat.shmat addr size error => exact shmat_delivers c env _ g.remoteFd sends
  case fakeGetattr.statx error buf => exact fakeGetattr_delivers c env _ g.remoteFd error buf

/-- The reply to a sendto is read as a plain int, which is where its unset bytes are. -/
theorem sendto_garbled {x : Exchange} (kind : x.call.kind = .sendto) {old n error : ℤ}
    (body : x.body = .sent old n error) : ¬ Faithful x := by
  intro faithful
  have delivered := faithful 0 [] (n + 1) (by simp)
  simp [exchange, answered, history, kind, body, withGap, awakening, replyHandler,
    handleSysGenericIntReply, genericAwakening, Delivers, created, homeResult] at delivered

/-- Leaves 5 in `rpc_fsync_res`. -/
def leftover : Exchange := ⟨⟨.prctl, false, 0⟩, ⟨0, [], true, true, true, true, 0⟩, .int 5⟩

/-- A statx returns the last `rpc_fsync_res`, which its own reply does not set. -/
theorem statx_garbled {x : Exchange} (kind : x.call.kind = .statx) {error : ℤ} {buf : Bytes}
    (body : x.body = .statx error buf) (sends : error ≤ 0) : ¬ Faithful x := by
  intro faithful
  have past : ∀ p ∈ [leftover], Sends p.call.kind p.body := by simp [leftover, Sends]
  have delivered := faithful 0 [leftover] 0 past
  have other : (5 : ℤ) ≠ error := by omega
  rw [body] at delivered
  simp only [exchange, answered, history, leftover, kind, withGap, awakening, replyHandler,
    List.foldl, reduceCtorEq, if_false, fsyncAwakening, handleSysGenericIntReply, beginCall,
    statxAwakening, handleSysStatxReply, if_true] at delivered
  by_cases kept : error = 0 ∧ x.env.handlerAlloc = true
  · simp [kept, Delivers, created, homeResult] at delivered
  · simp [kept, other, Delivers, created, homeResult] at delivered

/-- A failed accept returns the descriptor of an earlier call. -/
theorem accept_garbled {x : Exchange} (kind : x.call.kind = .accept) {fd error : ℤ} {addr : Bytes}
    (body : x.body = .accept fd error addr) (failed : error ≠ 0) : ¬ Faithful x := by
  intro faithful
  have stale (remoteFd : ℤ) (old : remoteFd < 0) : remoteFd = error := by
    have delivered := faithful remoteFd [] 0 (by simp)
    have fits := accept_failed x.call x.env
      (handleSysAcceptReply (.accept fd error addr) x.env.handlerAlloc
        (beginCall x.call (registered remoteFd))) failed addr fd old
    rw [← fits]
    simpa [exchange, answered, history, kind, body, withGap, awakening, replyHandler,
      handleSysAcceptReply, failed, beginCall, registered] using delivered
  have one := stale (-1) (by omega)
  have two := stale (-2) (by omega)
  omega

theorem Garbled.not_faithful {x : Exchange} (sends : Sends x.call.kind x.body)
    (garbled : Garbled x) : ¬ Faithful x ∧ ¬ Decoded x := by
  obtain ⟨⟨k, hasPtr, len⟩, env, b⟩ := x
  cases k <;> try exact garbled.elim
  case sendto =>
    cases b <;> try exact sends.elim
    exact ⟨sendto_garbled rfl rfl, id⟩
  case statx =>
    cases b <;> try exact sends.elim
    exact ⟨statx_garbled rfl rfl sends, id⟩
  case accept =>
    cases b <;> try exact sends.elim
    exact ⟨accept_garbled rfl rfl garbled, fun decoded => garbled decoded.1⟩

/-- The guest gets the home node's result of each call, whatever came before, exactly when the
reply handler and the branch of the kind fit the reply. -/
theorem faithful_iff_decoded (x : Exchange) (sends : Sends x.call.kind x.body) :
    Faithful x ↔ Decoded x := by
  by_cases garbled : Garbled x
  · have wrong := garbled.not_faithful sends
    exact iff_of_false wrong.1 wrong.2
  · have fits := delivers_iff x sends garbled
    constructor
    · intro faithful
      have delivered := faithful 0 [] 0 (by simp)
      exact (fits _ 0).mp delivered
    · intro decoded remoteFd past gap _
      exact (fits _ gap).mpr decoded

/-- A node with everything at hand and descriptor 3 free. -/
def ready : Env := ⟨-2, [3], true, true, true, true, 0⟩

theorem faithful_iff_decoded_read : Faithful ⟨⟨.read, true, 2⟩, ready, .data 2 0 [7, 8]⟩ :=
  (faithful_iff_decoded ⟨⟨.read, true, 2⟩, ready, .data 2 0 [7, 8]⟩ (by simp [Sends])).mpr
    (by simp [Decoded, ready])

/-- An open gives remote descriptor 5; then an accept fails with `-EAGAIN`, and the guest gets a
second proxy for descriptor 5. -/
theorem failed_accept_reuses_descriptor :
    let opened : Exchange := ⟨⟨.open, false, 0⟩, ready, .fd 5 0⟩
    let accepted : Exchange := ⟨⟨.accept, false, 0⟩, ready, .accept (-1) (-11) []⟩
    Sends opened.call.kind opened.body ∧ Sends accepted.call.kind accepted.body ∧
      (exchange (history (registered 0) [opened]) accepted).1 = { ax := 3, installed := [(3, 5)] } ∧
      ¬ Faithful accepted := by
  refine ⟨by simp [Sends], by simp [Sends], by decide, ?_⟩
  exact accept_garbled rfl rfl (by decide)

end MattX.WormholeReplies
