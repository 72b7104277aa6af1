import MattX.RequestHandlers

set_option autoImplicit false

/-!
# The waiting loop of a poll

A poll looks at its descriptors again and again until one is ready or the
timer has run out. The loop of `mattx_poll_worker` is such a loop over the
descriptors of the request, as long as the deputy is exported and its
descriptors stay open.
-/
namespace MattX.HomePolls
open WormholeCalls (PollFd)
open RequestHandlers

/-! ### Waiting loops -/

section
variable {α : Type*}

/-- `looked i`: how many are ready at the i-th look, and the result if it ends there. None: the loop
has not ended after so many looks. -/
def waitLoop (timeout : ℤ) (expired : ℕ → Bool) (looked : ℕ → ℕ × α) : ℕ → ℕ → Option (ℕ × α)
  | 0, _ => none
  | n + 1, i =>
    if 0 < (looked i).1 then some (looked i)
    else if 0 ≤ timeout ∧ expired i = true then some (0, (looked i).2)
    else waitLoop timeout expired looked n (i + 1)

/-- The look after which the wait is over. -/
def Ends (timeout : ℤ) (expired : ℕ → Bool) (ready : ℕ) (i : ℕ) : Prop :=
  0 < ready ∨ (0 ≤ timeout ∧ expired i = true)

instance (timeout : ℤ) (expired : ℕ → Bool) (ready i : ℕ) :
    Decidable (Ends timeout expired ready i) :=
  inferInstanceAs (Decidable (_ ∨ _))

variable {timeout : ℤ} {expired : ℕ → Bool}

/-- The loop ends at the i-th look. -/
def Returns (timeout : ℤ) (expired : ℕ → Bool) (looked : ℕ → ℕ × α) (i : ℕ) : Prop :=
  Ends timeout expired (looked i).1 i ∧ ∀ j < i, ¬ Ends timeout expired (looked j).1 j

end

/-- What the files of the home node, by number, and those of the surrogate's node say at each look,
and when the timer has run out. -/
structure Readiness where
  home : ℕ → ℕ → ℕ
  here : ℕ → ℤ → ℕ
  expired : ℕ → Bool

/-! ### The loop on the home node -/

/-- The deputy has an open file with the number. -/
def isOpen (h : Home) (pid number : ℕ) : Bool :=
  (h.exportOf pid).any fun x => pollFile h x number

/-- What a look makes of an entry. `mask`: what `vfs_poll` says of the file of a number. -/
def polled (h : Home) (x : ExportInfo) (mask : ℕ → ℕ) (p : PollFd) : PollFd :=
  if pollFile h x p.1 then (p.1, p.2.1, mask p.1 &&& p.2.1) else p

def isReady (h : Home) (x : ExportInfo) (mask : ℕ → ℕ) (p : PollFd) : Bool :=
  pollFile h x p.1 && mask p.1 &&& p.2.1 != 0

/-- Masks by position are masks by number. -/
def byPosition (mask : ℕ → ℕ) (fds : List PollFd) (j : ℕ) : ℕ := mask (fds.getD j (0, 0, 0)).1

/-- The home node, its tables fixed, with the readiness of each number at each look. -/
def homeEnv (e : Env) (h : Home) (mask : ℕ → ℕ → ℕ) (expired : ℕ → Bool) (fds : List PollFd) :
    Env :=
  { e with home := fun _ => h, mask := fun i => byPosition (mask i) fds, expired }

def pollReq (pid : ℕ) (timeout : ℤ) (fds : List PollFd) : Request :=
  ⟨.poll, 0, pid, 0, 0, 0, timeout, fds⟩

/-- The return value and the entries of the reply. -/
def homePoll (e : Env) (h : Home) (pid : ℕ) (timeout : ℤ) (mask : ℕ → ℕ → ℕ) (expired : ℕ → Bool)
    (fds : List PollFd) (looks : ℕ) : Option (ℤ × List PollFd) :=
  (pollLoop (pollReq pid timeout fds) (homeEnv e h mask expired fds) looks 0 fds).map Prod.snd

end MattX.HomePolls
