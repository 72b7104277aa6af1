import MattX.HomePolls
import MattX.InterceptionHandlers

set_option autoImplicit false

/-!
# poll through the wormhole

An entry of the caller's array has 8 bytes, one of the array in the request 16:
`fd`, `events` and `revents`, then `user_data`. The hook copies the caller's
array to the start of the larger one, and the awakening copies as much back.
-/
namespace MattX.WormholePolls
open WormholeCalls (PollFd)
open RequestHandlers (Home ExportInfo Env asInt asU32 pollFile)
open InterceptionHandlers
open HomePolls

def pollErr : ℕ := 8
def pollHup : ℕ := 16
def pollNval : ℕ := 32

/-- `mattx_fake_poll`: POLLIN, POLLOUT, POLLERR and POLLHUP. -/
def mattxFakePoll : ℕ := 29

/-- `stale`: what an earlier call has left in `data->fds`, by halves of entries. `node`: what else
the home node has. -/
structure Setting where
  world : World
  stale : ℕ → PollFd
  home : Home
  origPid : ℕ
  node : Env

/-! ### poll as the kernel does it -/

/-- POLLERR and POLLHUP are always asked for. -/
def filter (events : ℕ) : ℕ := events ||| (pollErr ||| pollHup)

def withRevents (revents : PollFd → ℕ) (p : PollFd) : PollFd := (p.1, p.2.1, revents p)

/-- `do_poll` on an array. -/
def doPoll (revents : ℕ → PollFd → ℕ) (u : List PollFd) (timeout : ℤ) (expired : ℕ → Bool)
    (looks : ℕ) : Option (ℤ × List PollFd) :=
  (waitLoop timeout expired
    (fun i => (u.countP fun p => revents i p != 0, u.map (withRevents (revents i)))) looks 0).map
      fun r => ((r.1 : ℤ), r.2)

/-- The caller's array after the awakening: `user_data` has come back as it was. -/
def copyBack (u reply : List PollFd) : List PollFd :=
  u.mapIdx fun k p => if k % 2 = 0 then reply.getD (k / 2) p else p

/-- The poll has no timeout and nothing to wait for. -/
def Endless (u : List PollFd) (timeout : ℤ) : Prop := timeout < 0 ∧ ∀ q ∈ u, asInt q.1 < 0

namespace Setting

def wormhole (s : Setting) (p : PollFd) : Bool := (isWormholeFd s.world (asInt p.1) (-1)).1

/-- The number at home. -/
def remote (s : Setting) (p : PollFd) : ℕ := asU32 (isWormholeFd s.world (asInt p.1) (-1)).2

def isOpen (s : Setting) (number : ℕ) : Bool := HomePolls.isOpen s.home s.origPid number

/-- An entry polled on its own node: a wormhole's is the file at home. -/
def nativeRevents (s : Setting) (r : Readiness) (i : ℕ) (p : PollFd) : ℕ :=
  if asInt p.1 < 0 then 0
  else if s.wormhole p then
    if s.isOpen (s.remote p) then r.home i (s.remote p) &&& filter p.2.1 else pollNval
  else r.here i (asInt p.1) &&& filter p.2.1

def nativePoll (s : Setting) (r : Readiness) : List PollFd → ℤ → ℕ → Option (ℤ × List PollFd) :=
  fun u timeout looks => doPoll (s.nativeRevents r) u timeout r.expired looks

/-! ### poll of a surrogate -/

/-- An entry polled on the surrogate's node. -/
def localRevents (s : Setting) (r : Readiness) (i : ℕ) (p : PollFd) : ℕ :=
  if asInt p.1 < 0 then 0
  else match s.world.file (asInt p.1) with
    | .closed => pollNval
    | .proxy _ => mattxFakePoll &&& filter p.2.1
    | .pipeOrSocket | .other => r.here i (asInt p.1) &&& filter p.2.1

/-- `data->fds` by halves. -/
def half (s : Setting) (u : List PollFd) (k : ℕ) : PollFd := u.getD k (s.stale k)

/-- The number is translated if it is known. -/
def translate (s : Setting) (p : PollFd) : PollFd :=
  match isWormholeFd s.world (asInt p.1) (-1) with
  | (true, remote) => if remote = -1 then p else (asU32 remote, p.2)
  | (false, _) => p

/-- The entries `data->fds[j]`, of which the first halves count. -/
def entries (s : Setting) (u : List PollFd) : List PollFd :=
  (List.range u.length).map fun j => s.half u (2 * j)

def intercepted (s : Setting) (u : List PollFd) : Bool :=
  decide (0 < u.length) && decide (u.length ≤ 16) && (s.entries u).any s.wormhole

/-- What the caller of poll gets, and its array; the request and the reply get through. -/
def surrogatePoll (s : Setting) (r : Readiness) (u : List PollFd) (timeout : ℤ) (looks : ℕ) :
    Option (ℤ × List PollFd) :=
  if s.intercepted u then
    (homePoll s.node s.home s.origPid timeout r.home r.expired ((s.entries u).map s.translate)
      looks).map fun reply => (reply.1, copyBack u reply.2)
  else doPoll (s.localRevents r) u timeout r.expired looks

/-- The surrogate's poll is the one on the native descriptors in every state of readiness, after
every number of looks. -/
def Agrees (s : Setting) (u : List PollFd) (timeout : ℤ) : Prop :=
  ∀ r looks, s.surrogatePoll r u timeout looks = s.nativePoll r u timeout looks

/-! ### When it is -/

/-- A wormhole entry in a place with a first half, open under the caller's own number, with POLLERR
and POLLHUP asked for. -/
structure Shown (s : Setting) (k : ℕ) (p : PollFd) : Prop where
  place : k % 2 = 0
  wormhole : s.wormhole p = true
  open' : s.isOpen (s.remote p) = true
  number : s.remote p = p.1
  asks : filter p.2.1 = p.2.1

/-- A stale entry that is polled can never be ready. -/
def StaleSilent (s : Setting) (u : List PollFd) : Prop :=
  ∀ j < u.length, u.length ≤ 2 * j →
    s.isOpen (s.translate (s.stale (2 * j))).1 = true → (s.stale (2 * j)).2.1 = 0

structure Fits (s : Setting) (u : List PollFd) (timeout : ℤ) : Prop where
  exported : (s.home.exportOf s.origPid).isSome = true
  entry : ∀ k p, u[k]? = some p → asInt p.1 < 0 ∨ s.Shown k p
  ignored : ∀ p ∈ u, asInt p.1 < 0 → p.2.2 = 0 ∨ Endless u timeout
  stale : s.StaleSilent u

end Setting

/-- The hook takes just the arrays that are intercepted. -/
theorem entryHandlerPoll_intercepts (s : Setting) (u : List PollFd) (t : Thread) (w : World)
    (args : Args) (d : Data) (guest : isGuestProcess w t.pid = true)
    (on : w.migrateNetworkIo = true) (files : w.file = s.world.file)
    (fds : w.pollFds = some ((s.entries u).map fun p => asInt p.1))
    (nfds : int args.si = u.length) :
    (entryHandlerPoll t w args d).sabotaged = s.intercepted u := by
  have detector : (fun p : PollFd => (isWormholeFd w (asInt p.1) (-1)).1) = s.wormhole := by
    funext p
    simp only [Setting.wormhole, isWormholeFd, files]
  have ghost : ((if 0 < int args.si ∧ int args.si ≤ 16 then w.pollFds.getD [] else []).any
      fun fd => (isWormholeFd w fd (-1)).1) = s.intercepted u := by
    rw [nfds, fds]
    by_cases few : 0 < u.length ∧ u.length ≤ 16
    · have few' : 0 < (u.length : ℤ) ∧ (u.length : ℤ) ≤ 16 := by omega
      rw [if_pos few', Option.getD_some, List.any_map, Setting.intercepted, ← Bool.decide_and,
        decide_eq_true few, Bool.true_and, ← detector]
      rfl
    · have few' : ¬ (0 < (u.length : ℤ) ∧ (u.length : ℤ) ≤ 16) := by omega
      rw [if_neg few', Setting.intercepted, ← Bool.decide_and, decide_eq_false few,
        Bool.false_and]
      rfl
  simp only [entryHandlerPoll, guest, on, Bool.and_self, if_true, ghost]
  cases s.intercepted u with
  | false => rfl
  | true => rfl

/-! ### Polls that are not intercepted -/

variable {s : Setting} {u : List PollFd} {timeout : ℤ} {p : PollFd}

variable {h : Home} {x : ExportInfo} {mask : ℕ → ℕ} {k : ℕ}

end MattX.WormholePolls
