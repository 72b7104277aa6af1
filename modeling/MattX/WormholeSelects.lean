import MattX.HomePolls
import MattX.InterceptionHandlers
import Mathlib.Algebra.Order.BigOperators.Group.Finset
import Mathlib.Algebra.BigOperators.Group.Finset.Piecewise

set_option autoImplicit false

/-!
# select and pselect6 through the wormhole

The worker makes an array for poll of the proxy files among the requested
descriptors, and the awakening makes the three sets of the reply's `revents`.
-/
namespace MattX.WormholeSelects
open WormholeCalls (PollFd ebadf)
open RequestHandlers (Home ExportInfo Env asInt asU32 pollFile)
open InterceptionHandlers (World isWormholeFd)
open HomePolls

def einval : ℤ := -22

def pollIn : ℕ := 1
def pollPri : ℕ := 2
def pollOut : ℕ := 4

/-- POLLERR and POLLHUP -/
def pollErrHup : ℕ := 24

/-- The bits that make a descriptor readable, writable and exceptional: POLLIN_SET, POLLOUT_SET and
POLLEX_SET. -/
def pollInSet : ℕ := 217
def pollOutSet : ℕ := 780
def pollExSet : ℕ := 2

/-- The bits of an `fd_set`. -/
def fdSetSize : ℕ := 1024

/-- The sets that the three pointers lead to, if they are given. -/
structure Sets where
  inp : Option (ℕ → Bool)
  outp : Option (ℕ → Bool)
  exp : Option (ℕ → Bool)

def bit (set : Option (ℕ → Bool)) (fd : ℕ) : Bool := set.any (· fd)

def Sets.events (t : Sets) (fd : ℕ) : ℕ :=
  (if bit t.inp fd then pollIn else 0) ||| (if bit t.outp fd then pollOut else 0) |||
    (if bit t.exp fd then pollPri else 0)

def Sets.given (t : Sets) : Bool := t.inp.isSome || t.outp.isSome || t.exp.isSome

/-- The first n bits of a set. -/
def upTo (n : ℕ) (set : ℕ → Bool) (fd : ℕ) : Bool := decide (fd < n) && set fd

/-- `node`: what else the home node has. -/
structure Setting where
  world : World
  home : Home
  origPid : ℕ
  node : Env

namespace Setting

/-! ### select on the native descriptors -/

def wormhole (s : Setting) (fd : ℕ) : Bool := (isWormholeFd s.world fd (-1)).1

def remote (s : Setting) (fd : ℕ) : ℕ := asU32 (isWormholeFd s.world fd (-1)).2

def openFd (s : Setting) (fd : ℕ) : Bool :=
  if s.wormhole fd then isOpen s.home s.origPid (s.remote fd) else true

/-- What the descriptor's own file says. -/
def mask (s : Setting) (r : Readiness) (i : ℕ) (fd : ℕ) : ℕ :=
  if s.wormhole fd then r.home i (s.remote fd) else r.here i fd

def isIn (s : Setting) (r : Readiness) (t : Sets) (i fd : ℕ) : Bool :=
  bit t.inp fd && s.mask r i fd &&& pollInSet != 0

def isOut (s : Setting) (r : Readiness) (t : Sets) (i fd : ℕ) : Bool :=
  bit t.outp fd && s.mask r i fd &&& pollOutSet != 0

def isEx (s : Setting) (r : Readiness) (t : Sets) (i fd : ℕ) : Bool :=
  bit t.exp fd && s.mask r i fd &&& pollExSet != 0

/-- How many of the result sets have the descriptor. -/
def weight (s : Setting) (r : Readiness) (t : Sets) (i fd : ℕ) : ℕ :=
  (s.isIn r t i fd).toNat + (s.isOut r t i fd).toNat + (s.isEx r t i fd).toNat

def nativeLook (s : Setting) (r : Readiness) (t : Sets) (n i : ℕ) : ℕ × Sets :=
  (∑ fd ∈ Finset.range n, s.weight r t i fd,
    ⟨t.inp.map fun _ => upTo n (s.isIn r t i), t.outp.map fun _ => upTo n (s.isOut r t i),
      t.exp.map fun _ => upTo n (s.isEx r t i)⟩)

/-- `do_select`, after its checks. -/
def nativeSelect (s : Setting) (r : Readiness) (t : Sets) (n : ℤ) (timeout : ℤ) (looks : ℕ) :
    Option (ℤ × Sets) :=
  if n < 0 then some (einval, t)
  else if ∃ fd < n.toNat, t.events fd ≠ 0 ∧ s.openFd fd = false then some (ebadf, t)
  else
    (waitLoop timeout r.expired (s.nativeLook r t n.toNat) looks 0).map fun a => ((a.1 : ℤ), a.2)

/-! ### select of a surrogate -/

/-- A requested proxy file. -/
def entry (s : Setting) (t : Sets) (fd : ℕ) : Option PollFd :=
  match s.world.file fd with
  | .proxy (some remote) =>
    if t.events fd = 0 then none else some (asU32 remote, t.events fd, 0)
  | _ => none

/-- The loop of the worker, `left` descriptors from `fd` on with `room` places left in the request;
none: it tests a bit outside the copied sets. -/
def collect (s : Setting) (t : Sets) : ℕ → ℕ → ℕ → Option (List (ℕ × PollFd))
  | 0, _, _ => some []
  | _ + 1, _, 0 => some []
  | left + 1, fd, room + 1 =>
    if fdSetSize ≤ fd ∧ t.given = true then none
    else match s.entry t fd with
      | some p => (s.collect t left (fd + 1) room).map ((fd, p) :: ·)
      | none => s.collect t left (fd + 1) (room + 1)

def request (s : Setting) (t : Sets) (n : ℤ) : Option (List (ℕ × PollFd)) :=
  s.collect t n.toNat 0 16

end Setting

/-- The bits that the awakening sets. -/
def told (fds : List (ℕ × PollFd)) (reply : List PollFd) (events : ℕ) (fd : ℕ) : Bool :=
  (fds.zip reply).any fun e => e.1.1 == fd && e.2.2.2 &&& events != 0

/-- The caller's set after the copy, which is never longer than an `fd_set`. -/
def copyOut (n : ℕ) (asked bits : ℕ → Bool) : ℕ → Bool :=
  upTo n fun fd => if fd < fdSetSize then bits fd else asked fd

def awakening (t : Sets) (n : ℕ) (fds : List (ℕ × PollFd)) (reply : List PollFd) : Sets :=
  ⟨t.inp.map fun asked => copyOut n asked (told fds reply (pollIn ||| pollErrHup)),
    t.outp.map fun asked => copyOut n asked (told fds reply (pollOut ||| pollErrHup)),
    t.exp.map fun asked => copyOut n asked (told fds reply (pollPri ||| pollErrHup))⟩

namespace Setting

def surrogateSelect (s : Setting) (r : Readiness) (t : Sets) (n : ℤ) (timeout : ℤ)
    (fds : List (ℕ × PollFd)) (looks : ℕ) : Option (ℤ × Sets) :=
  (homePoll s.node s.home s.origPid timeout r.home r.expired (fds.map Prod.snd) looks).map
    fun reply => (reply.1, awakening t n.toNat fds reply.2)

/-- The worker stays inside the sets, and after every number of looks the surrogate has what select
on the native descriptors gives. -/
def Agrees (s : Setting) (r : Readiness) (t : Sets) (n timeout : ℤ) : Prop :=
  ∃ fds, s.request t n = some fds ∧
    ∀ looks, s.surrogateSelect r t n timeout fds looks = s.nativeSelect r t n timeout looks

/-! ### When it does -/

/-- The requested proxy files that find a place in the request. -/
def listed (s : Setting) (t : Sets) (n : ℕ) : List ℕ :=
  ((List.range n).filter fun fd => (s.entry t fd).isSome).take 16

/-- The worker's loop ends inside the sets: they have all the descriptors, or the request is full
before. -/
def Inside (s : Setting) (t : Sets) (n : ℕ) : Prop :=
  t.given = false ∨ n ≤ fdSetSize ∨
    16 ≤ ((List.range fdSetSize).filter fun fd => (s.entry t fd).isSome).length

/-- A ready descriptor is a listed proxy, ready for one of its sets only, and by POLLIN, POLLOUT or
POLLPRI itself. -/
def Plain (s : Setting) (r : Readiness) (t : Sets) (n i : ℕ) : Prop :=
  ∀ fd < n, s.weight r t i fd ≠ 0 →
    fd ∈ s.listed t n ∧ s.weight r t i fd = 1 ∧ s.mask r i fd &&& t.events fd ≠ 0

structure Fits (s : Setting) (r : Readiness) (t : Sets) (n timeout : ℤ) : Prop where
  count : 0 ≤ n
  opened : ∀ fd < n.toNat, t.events fd ≠ 0 → s.openFd fd = true
  inside : s.Inside t n.toNat
  exported : (s.home.exportOf s.origPid).isSome = true ∨
    ((∀ fd < n.toNat, s.weight r t 0 fd = 0) ∧ 0 ≤ timeout ∧ r.expired 0 = true)
  plain : ∀ i, Returns timeout r.expired (s.nativeLook r t n.toNat) i → s.Plain r t n.toNat i
  small : ∀ i, Returns timeout r.expired (s.nativeLook r t n.toNat) i →
    ∀ fd < n.toNat, fdSetSize ≤ fd → t.events fd = 0

end Setting

/-! ### The request -/

section
variable (s : Setting) (t : Sets)

def Setting.isListable (fd : ℕ) : Bool := (s.entry t fd).isSome

/-- A place of the request, with the descriptor that the worker remembers for it. -/
def Setting.place (fd : ℕ) : ℕ × PollFd := (fd, (s.entry t fd).getD (0, 0, 0))

/-- What the loop collects from a range. -/
def Setting.collected (left fd room : ℕ) : List (ℕ × PollFd) :=
  (((List.range' fd left).filter (s.isListable t)).take room).map (s.place t)

theorem collected_succ (left fd room : ℕ) :
    s.collected t (left + 1) fd (room + 1) =
      if s.isListable t fd then s.place t fd :: s.collected t left (fd + 1) room
      else s.collected t left (fd + 1) (room + 1) := by
  simp only [Setting.collected, List.range'_succ, List.filter_cons]
  split_ifs
  · rw [List.take_succ_cons, List.map_cons]
  · rfl

theorem collect_step (left fd room : ℕ) (below : ¬ (fdSetSize ≤ fd ∧ t.given = true)) :
    s.collect t (left + 1) fd (room + 1) =
      if s.isListable t fd then (s.collect t left (fd + 1) room).map (s.place t fd :: ·)
      else s.collect t left (fd + 1) (room + 1) := by
  rw [Setting.collect, if_neg below]
  cases found : s.entry t fd with
  | none => simp [Setting.isListable, found]
  | some p => simp [Setting.isListable, Setting.place, found]

/-- Without sets no bit is tested. -/
theorem collect_ungiven (none : t.given = false) (left fd room : ℕ) :
    s.collect t left fd room = some (s.collected t left fd room) := by
  induction left generalizing fd room with
  | zero => simp [Setting.collect, Setting.collected]
  | succ left ih =>
    cases room with
    | zero => rfl
    | succ room =>
      rw [collect_step s t left fd room (by simp [none]), collected_succ, ih, ih]
      split_ifs <;> rfl

theorem collect_given (given : t.given = true) (left fd room : ℕ) (below : fd ≤ fdSetSize) :
    s.collect t left fd room =
      if fd + left ≤ fdSetSize ∨
          room ≤ ((List.range' fd (fdSetSize - fd)).filter (s.isListable t)).length then
        some (s.collected t left fd room)
      else none := by
  induction left generalizing fd room with
  | zero =>
    rw [if_pos (.inl (by omega))]
    simp [Setting.collect, Setting.collected]
  | succ left ih =>
    cases room with
    | zero =>
      rw [if_pos (.inr (Nat.zero_le _))]
      rfl
    | succ room =>
      by_cases last : fd = fdSetSize
      · have outside : ¬ (fd + (left + 1) ≤ fdSetSize ∨
            room + 1 ≤ ((List.range' fd (fdSetSize - fd)).filter (s.isListable t)).length) := by
          rw [last, Nat.sub_self]
          simp
        rw [if_neg outside, Setting.collect, if_pos ⟨by omega, given⟩]
      · have size : fdSetSize - fd = fdSetSize - (fd + 1) + 1 := by omega
        have shift : fd + (left + 1) = fd + 1 + left := by omega
        rw [collect_step s t left fd room (by omega), collected_succ, ih _ _ (by omega),
          ih _ _ (by omega), size, List.range'_succ, List.filter_cons, shift]
        by_cases found : s.isListable t fd = true
        · simp only [found, if_true, List.length_cons, Nat.add_le_add_iff_right]
          split_ifs <;> rfl
        · simp only [found, if_false, Bool.false_eq_true]

theorem collected_listed (n : ℕ) : s.collected t n 0 16 = (s.listed t n).map (s.place t) := by
  rw [Setting.collected, Setting.listed, List.range_eq_range']
  rfl

theorem request_inside {n : ℤ} (inside : s.Inside t n.toNat) :
    s.request t n = some ((s.listed t n.toNat).map (s.place t)) := by
  rw [Setting.request, ← collected_listed]
  cases given : t.given with
  | false => exact collect_ungiven s t given _ _ _
  | true =>
    rw [collect_given s t given _ _ _ (Nat.zero_le _), if_pos]
    rcases inside with none | few | full
    · rw [given] at none
      cases none
    · exact .inl (by omega)
    · refine .inr ?_
      rw [Nat.sub_zero, ← List.range_eq_range']
      exact full

theorem request_outside {n : ℤ} (outside : ¬ s.Inside t n.toNat) : s.request t n = none := by
  simp only [Setting.Inside, not_or, Bool.not_eq_false] at outside
  obtain ⟨given, many, free⟩ := outside
  rw [Setting.request, collect_given s t given _ _ _ (Nat.zero_le _), if_neg]
  rw [Nat.sub_zero, ← List.range_eq_range', not_or]
  exact ⟨by omega, free⟩

variable {s t}

end

/-! ### One look -/

section
variable {s : Setting} {r : Readiness} {t : Sets} {x : ExportInfo} {n i fd : ℕ}

/-- What the reply says of a listed descriptor. -/
def Setting.shown (s : Setting) (r : Readiness) (t : Sets) (i fd : ℕ) : ℕ :=
  s.mask r i fd &&& t.events fd

/-- What comes back of one descriptor is right: it is counted once for each of its bits, and the
three bits are those of a native select. -/
structure Setting.Right (s : Setting) (r : Readiness) (t : Sets) (n i fd : ℕ) : Prop where
  counted : (if fd ∈ s.listed t n ∧ (s.shown r t i fd != 0) = true then 1 else 0) =
    s.weight r t i fd
  inp : (fd < fdSetSize → (decide (fd ∈ s.listed t n) &&
        s.shown r t i fd &&& (pollIn ||| pollErrHup) != 0) = s.isIn r t i fd) ∧
      (fdSetSize ≤ fd → t.inp ≠ none → bit t.inp fd = s.isIn r t i fd)
  outp : (fd < fdSetSize → (decide (fd ∈ s.listed t n) &&
        s.shown r t i fd &&& (pollOut ||| pollErrHup) != 0) = s.isOut r t i fd) ∧
      (fdSetSize ≤ fd → t.outp ≠ none → bit t.outp fd = s.isOut r t i fd)
  exp : (fd < fdSetSize → (decide (fd ∈ s.listed t n) &&
        s.shown r t i fd &&& (pollPri ||| pollErrHup) != 0) = s.isEx r t i fd) ∧
      (fdSetSize ≤ fd → t.exp ≠ none → bit t.exp fd = s.isEx r t i fd)

end

/-! ### The whole call -/

section
variable {s : Setting} {r : Readiness} {t : Sets} {x : ExportInfo} {n timeout : ℤ}

end

end MattX.WormholeSelects
