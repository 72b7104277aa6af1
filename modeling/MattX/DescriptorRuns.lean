import MattX.GuardedRuns
import MattX.DescriptorTables
import MattX.MigrationCapture

set_option autoImplicit false

/-!
# The descriptors of a surrogate against those of the process itself

The two stay the same as long as the three tables give out the same numbers, so
that every proxy stands for its own number. Then all the hooks name the same
descriptor at home, whether they send a proxy's number or the caller's.
-/
namespace MattX.DescriptorRuns
open GuardedRuns DescriptorTables
open InterceptionHandlers
open MigrationCapture (maxFds)

/-- `own`: the table of the process, had it not been migrated. -/
structure State where
  sys : System
  own : Native

def next (c : Config) (limit : ℕ) (s : State) (e : Event) : State :=
  ⟨(surrogate c limit s.sys e).2, (native limit s.own e).2⟩

def machine (c : Config) (limit : ℕ) : Machine State Event := ⟨fun _ _ => True, next c limit⟩

/-! ### The start -/

/-- `deputy`, `homeSize`, `homeNext`: the process when it is frozen. `stub`: the files that the stub
has. `alloc`: the proxy file for a number can be allocated. -/
structure Import where
  deputy : ℕ → Option ℕ
  homeSize : ℕ
  homeNext : ℤ
  exports : ℤ → Option ℕ
  stub : ℕ → Slot
  stubSize : ℕ
  alloc : ℕ → Bool

namespace Import

/-- `open_fds` of the blueprint. -/
def openFds (i : Import) : List ℕ :=
  ((List.range i.homeSize).filter fun d => (i.deputy d).isSome).take maxFds

/-- `handle_migrate_done` -/
def installed (i : Import) (d : ℕ) : Bool :=
  decide (d ∈ i.openFds) && decide (d < i.stubSize) && i.alloc d

def guest (i : Import) (d : ℤ) : Slot :=
  if d < 0 then .closed
  else if i.installed d.toNat then .file (.proxy d.toNat d) else i.stub d.toNat

def home (i : Import) (d : ℤ) : Option ℕ := if d < 0 then none else i.deputy d.toNat

def state (i : Import) : State where
  sys := ⟨i.guest, i.stubSize, i.stubSize, i.home, i.homeSize, i.homeNext, i.exports⟩
  own := i.home

/-- No file of the stub is left, and the numbers that are looked up in the export entry have there
what the process has. -/
structure Clean (i : Import) : Prop where
  stub : ∀ d, i.installed d = false → i.stub d = .closed
  exports : ∀ d, 1000 ≤ d → i.exports (d - 1000) = i.home d

end Import

/-! ### What the claim is about -/

/-- The open file that a number leads to, under the routing of the hooks. -/
def denotes (s : System) (d : ℤ) : Option ℕ :=
  match s.guest d with
  | .closed | .reserved | .file (.own true _) => s.lookup d
  | .file (.proxy _ remoteFd) => s.lookup remoteFd
  | .file (.own false f) => some f

/-- The hooks that take one descriptor home. -/
def byDescriptor : List Hook :=
  [.connect, .bind, .listen, .sendto, .recvfrom, .accept, .read, .write, .lseek, .fsync, .statx,
    .epollCtl, .epollWait, .getsockname, .getpeername, .setsockopt, .getsockopt, .sendmsg, .recvmsg,
    .fcntl, .ioctl, .pread64, .fstatfs, .getdents64]

structure Agrees (s : State) : Prop where
  denotes : ∀ d, denotes s.sys d = s.own d
  names : ∀ h ∈ byDescriptor, ∀ c : Call, c.later = c.before → c.before.file = s.sys.fileAt →
    ∀ rpc, c.ret (kretprobe h) = .scheduled rpc →
      s.sys.lookup rpc.remoteFd = s.own (int c.args.di)

/-- The call returns what it would have returned, a failed one leaves the home node alone, and all
numbers lead where they should afterwards. -/
structure Kept (c : Config) (limit : ℕ) (s : State) (e : Event) : Prop where
  result : (surrogate c limit s.sys e).1 = (native limit s.own e).1
  failed : (surrogate c limit s.sys e).1 = none →
    (surrogate c limit s.sys e).2.home = s.sys.home ∧
      (surrogate c limit s.sys e).2.exports = s.sys.exports
  agrees : Agrees (next c limit s e)

/-! ### The condition -/

/-- The number that the process itself would be given. -/
def State.lowest (limit : ℕ) (s : State) : Option ℤ := free limit 0 fun d => (s.own d).isSome

/-- The lowest number that the surrogate has free, for a call that runs there. -/
def State.lowestHere (limit : ℕ) (s : State) : Option ℤ :=
  free limit 0 fun d => (s.sys.guest d).isOpen

/-- The lowest number from 3 on that the deputy has free. -/
def State.homeFree (s : State) : Option ℤ := free s.sys.homeSize 3 fun d => (s.sys.home d).isSome

def Maker.homeFree (limit : ℕ) (s : State) : Maker → Option ℤ
  | .openat _ _ | .socket => s.homeFree
  | .epollCreate _ => free limit s.sys.homeNext fun d => (s.sys.home d).isSome

/-- The process, the deputy and the surrogate give out the same number, below 1000. -/
def aligned (limit : ℕ) (s : State) (homeFree : Option ℤ) (alloc : Bool) : Bool :=
  s.lowest limit == homeFree &&
    match homeFree with
    | none => true
    | some d => s.sys.freeSlot == some d && decide (d < 1000) && alloc

def isOwn : Slot → Bool
  | .file (.own _ _) => true
  | .closed | .reserved | .file (.proxy _ _) => false

def met (c : Config) (limit : ℕ) (s : State) : Event → Bool
  | .make k leader f alloc =>
    match f, c.route leader k with
    | none, _ => true
    | some _, .home => aligned limit s (Maker.homeFree limit s k) alloc
    | some _, .own => s.lowestHere limit == s.lowest limit &&
      (s.lowest limit == none || !k.special)
    | some _, .spoiled => s.lowest limit == none
  | .accept fd leader answer alloc =>
    match (s.own fd).bind answer with
    | none => true
    | some _ =>
      if (c.networked leader s.sys fd).isSome then aligned limit s s.homeFree alloc
      else s.lowest limit == none && (s.lowestHere limit == none || !isOwn (s.sys.guest fd))
  | .pipe2 ends writable alloc =>
    match ends, freePair limit s.sys.homeNext fun d => (s.sys.home d).isSome with
    | none, _ => true
    | some _, none => !writable || freePair limit 0 (fun d => (s.own d).isSome) == none
    | some _, some (d, e) =>
      writable && freePair limit 0 (fun d => (s.own d).isSome) == some (d, e) &&
        freePair s.sys.guestSize 3 (fun d => (s.sys.guest d).isFile || !alloc d) == some (d, e) &&
          decide (d < 1000) && decide (e < 1000)
  | .dup fd leader alloc =>
    match s.own fd, c.hooked leader s.sys fd with
    | none, _ => true
    | some _, some _ => aligned limit s s.homeFree alloc
    | some _, none =>
      if isOwn (s.sys.guest fd) then s.lowestHere limit == s.lowest limit
      else s.lowest limit == none && (s.lowestHere limit == none || !(s.sys.guest fd).isFile)
  | .dup2 fd newfd leader alloc =>
    match s.own fd, c.hooked leader s.sys fd with
    | none, _ => true
    | some _, some _ =>
      if fd = newfd then false
      else if 0 ≤ newfd ∧ newfd < limit then
        s.sys.freeSlot == some newfd && decide (newfd < s.sys.homeSize) && decide (newfd < 1000) &&
          alloc
      else if newfd < 0 then s.homeFree == none
      else decide (s.sys.homeSize ≤ newfd)
    | some _, none =>
      if fd = newfd then (s.sys.guest fd).isFile
      else if 0 ≤ newfd ∧ newfd < limit then
        isOwn (s.sys.guest fd) && s.sys.guest newfd != .reserved
      else true
  | .close fd =>
    match s.own fd, s.sys.guest fd with
    | none, _ => true
    | some _, .closed => false
    | some _, .reserved => false
    | some _, .file (.proxy _ _) => true
    | some _, .file (.own _ _) => s.sys.lookup fd == none
  | .grow _ _ => true

def Met (c : Config) (limit : ℕ) (s : State) (e : Event) : Prop := met c limit s e = true

instance (c : Config) (limit : ℕ) (s : State) (e : Event) : Decidable (Met c limit s e) :=
  inferInstanceAs (Decidable (_ = _))

/-! ### The invariant -/

/-- What a slot may be under `d`, where the process has `v`. -/
def Fits (s : System) (slot : Slot) (d : ℤ) (v : Option ℕ) : Prop :=
  match slot with
  | .closed | .reserved => s.lookup d = v
  | .file (.proxy id remoteFd) => remoteFd = d ∧ s.lookup d = v ∧ v ≠ none ∧ id < s.serial
  | .file (.own special f) => special = false ∧ v = some f

structure Inv (s : State) : Prop where
  fits : ∀ d, Fits s.sys (s.sys.guest d) d (s.own d)
  once : ∀ d e id r q, s.sys.guest d = .file (.proxy id r) → s.sys.guest e = .file (.proxy id q) →
    d = e

theorem Fits.frame {s s' : System} {slot : Slot} {d : ℤ} {v : Option ℕ} (h : Fits s slot d v)
    (same : s'.lookup d = s.lookup d) (serial : s.serial ≤ s'.serial) : Fits s' slot d v := by
  cases slot with
  | closed | reserved => exact same.trans h
  | file o =>
    cases o with
    | proxy id r => exact ⟨h.1, same.trans h.2.1, h.2.2.1, lt_of_lt_of_le h.2.2.2 serial⟩
    | own special f => exact h

/-- A step that changes one number. -/
theorem Inv.update {s s' : State} {d : ℤ} {slot : Slot} {v : Option ℕ} (h : Inv s)
    (guest : s'.sys.guest = Function.update s.sys.guest d slot)
    (own : s'.own = Function.update s.own d v)
    (others : ∀ x, x ≠ d → s'.sys.lookup x = s.sys.lookup x)
    (serial : s.sys.serial ≤ s'.sys.serial) (fits : Fits s'.sys slot d v)
    (fresh : ∀ id r, slot = .file (.proxy id r) → s.sys.serial ≤ id) : Inv s' := by
  have older : ∀ x id r, s.sys.guest x = .file (.proxy id r) → id < s.sys.serial := by
    intro x id r here
    have fit := h.fits x
    rw [here] at fit
    exact fit.2.2.2
  constructor
  · intro x
    rw [guest, own]
    by_cases here : x = d
    · rw [here, Function.update_self, Function.update_self]
      exact fits
    · rw [Function.update_of_ne here, Function.update_of_ne here]
      exact (h.fits x).frame (others x here) serial
  · intro x y id r q hx hy
    rw [guest] at hx hy
    by_cases x_d : x = d
    · by_cases y_d : y = d
      · exact x_d.trans y_d.symm
      · rw [x_d, Function.update_self] at hx
        rw [Function.update_of_ne y_d] at hy
        have late := fresh id r hx
        have early := older y id q hy
        omega
    · rw [Function.update_of_ne x_d] at hx
      by_cases y_d : y = d
      · rw [y_d, Function.update_self] at hy
        have late := fresh id q hy
        have early := older x id r hx
        omega
      · rw [Function.update_of_ne y_d] at hy
        exact h.once x y id r q hx hy

theorem Inv.congr {s s' : State} (h : Inv s) (guest : s'.sys.guest = s.sys.guest)
    (own : s'.own = s.own) (lookup : ∀ x, s'.sys.lookup x = s.sys.lookup x)
    (serial : s'.sys.serial = s.sys.serial) : Inv s' := by
  constructor
  · intro d
    rw [guest, own]
    exact (h.fits d).frame (lookup d) serial.ge
  · rw [guest]
    exact h.once

theorem lookup_home {s s' : System} {d : ℤ} {v : Option ℕ} (small : d < 1000)
    (home : s'.home = Function.update s.home d v) (exports : s'.exports = s.exports) (x : ℤ) :
    s'.lookup x = if x = d then v else s.lookup x := by
  rw [System.lookup, System.lookup, home, exports]
  by_cases here : x = d
  · rw [if_neg (by omega), if_pos here, here, Function.update_self]
  · rw [if_neg here, Function.update_of_ne here]

/-- A proxy for its own number, and the file at home. -/
theorem Inv.place {s : State} (h : Inv s) {sys : System} {d : ℤ} {f : ℕ} (small : d < 1000)
    (guest : sys.guest = s.sys.guest) (serial : sys.serial = s.sys.serial)
    (home : sys.home = Function.update s.sys.home d (some f))
    (exports : sys.exports = s.sys.exports) :
    Inv ⟨sys.install d d, Function.update s.own d (some f)⟩ := by
  have looked : ∀ x, (sys.install d d).lookup x = if x = d then some f else s.sys.lookup x :=
    lookup_home small home exports
  refine h.update (by rw [System.install, guest]) rfl ?_ ?_ ?_ ?_
  · intro x other
    rw [looked, if_neg other]
  · change s.sys.serial ≤ sys.serial + 1
    omega
  · refine ⟨rfl, ?_, Option.some_ne_none f, Nat.lt_succ_self _⟩
    rw [looked, if_pos rfl]
  · intro id r same
    cases same
    exact serial.ge

/-- A file of the surrogate's own. -/
theorem Inv.put {s : State} (h : Inv s) {sys : System} {d : ℤ} {f : ℕ}
    (guest : sys.guest = Function.update s.sys.guest d (.file (.own false f)))
    (others : ∀ x, x ≠ d → sys.lookup x = s.sys.lookup x) (serial : sys.serial = s.sys.serial) :
    Inv ⟨sys, Function.update s.own d (some f)⟩ := by
  refine h.update guest rfl others serial.ge ⟨rfl, rfl⟩ ?_
  intro id r same
  cases same

/-- A call returns what it should, keeps the invariant, and fails without effect. -/
structure Good (s : State) (x : Result × System) (y : Result × Native) : Prop where
  result : x.1 = y.1
  failed : x.1 = none → x.2.home = s.sys.home ∧ x.2.exports = s.sys.exports
  inv : Inv ⟨x.2, y.2⟩

theorem Good.fails {s : State} (h : Inv s) : Good s (none, s.sys) (none, s.own) :=
  ⟨rfl, fun _ => ⟨rfl, rfl⟩, h⟩

theorem Inv.own {s : State} (h : Inv s) {d : ℤ} {special : Bool} {f : ℕ}
    (here : s.sys.guest d = .file (.own special f)) : special = false ∧ s.own d = some f := by
  have fit := h.fits d
  rw [here] at fit
  exact fit

theorem Inv.proxy {s : State} (h : Inv s) {d r : ℤ} {id : ℕ}
    (here : s.sys.guest d = .file (.proxy id r)) :
    r = d ∧ s.sys.lookup d = s.own d ∧ s.own d ≠ none := by
  have fit := h.fits d
  rw [here] at fit
  exact ⟨fit.1, fit.2.1, fit.2.2.1⟩

theorem Inv.file {s : State} (h : Inv s) {d : ℤ} {o : Obj} (here : s.sys.guest d = .file o) :
    s.own d ≠ none := by
  cases o with
  | proxy id r => exact (h.proxy here).2.2
  | own special f =>
    rw [(h.own here).2]
    exact Option.some_ne_none f

theorem Inv.wormhole {s : State} (h : Inv s) {fd r : ℤ} (sent : s.sys.wormhole fd = some r) :
    s.sys.lookup r = s.own fd := by
  rw [System.wormhole] at sent
  have fit := h.fits fd
  split_ifs at sent with negative
  cases here : s.sys.guest fd with
  | closed | reserved =>
    rw [here] at sent fit
    cases sent
    exact fit
  | file o =>
    rw [here] at sent fit
    cases o with
    | proxy id q =>
      cases sent
      rw [fit.1]
      exact fit.2.1
    | own special f =>
      rw [fit.1] at sent
      cases sent

theorem Inv.hooked {s : State} (h : Inv s) {c : Config} {leader : Bool} {fd r : ℤ}
    (sent : c.hooked leader s.sys fd = some r) :
    r = fd ∧ s.sys.lookup fd = s.own fd ∧ ∃ id, s.sys.guest fd = .file (.proxy id fd) := by
  rw [Config.hooked] at sent
  split_ifs at sent
  cases here : s.sys.guest fd with
  | closed | reserved =>
    rw [here] at sent
    cases sent
  | file o =>
    rw [here] at sent
    cases o with
    | proxy id q =>
      cases sent
      obtain ⟨same, there, _⟩ := h.proxy here
      exact ⟨same, there, id, by rw [same]⟩
    | own special f => cases sent

/-! ### The calls one by one -/

section
variable {c : Config} {limit : ℕ} {s : State}

end

/-! ### What the hooks send -/

theorem Inv.denotes {s : State} (h : Inv s) (d : ℤ) : denotes s.sys d = s.own d := by
  have fit := h.fits d
  rw [DescriptorRuns.denotes]
  cases here : s.sys.guest d with
  | closed | reserved =>
    rw [here] at fit
    exact fit
  | file o =>
    rw [here] at fit
    cases o with
    | proxy id r =>
      simp only
      rw [fit.1]
      exact fit.2.1
    | own special f =>
      have plain := fit.1
      subst plain
      exact fit.2.symm

/-- A descriptor that is sent home is sent under its own number. -/
theorem Inv.sent_own {s : State} (h : Inv s) {w : World}
    (files : w.file = s.sys.fileAt) {fd old : ℤ}
    (ghost : (isWormholeFd w fd old).1 = true) :
    (isWormholeFd w fd old).2 = fd ∧ s.sys.lookup fd = s.own fd := by
  have fit := h.fits fd
  rw [isWormholeFd, files] at ghost ⊢
  split_ifs at ghost ⊢ with nonnegative
  rw [System.fileAt] at ghost ⊢
  cases here : s.sys.guest fd with
  | closed | reserved =>
    rw [here] at fit
    exact ⟨rfl, fit⟩
  | file o =>
    rw [here] at fit ghost
    cases o with
    | proxy id r => exact ⟨fit.1, fit.2.1⟩
    | own special f =>
      have plain := fit.1
      subst plain
      exact absurd ghost Bool.false_ne_true

theorem isWormholeFd_of_native {w : World} {fd : ℤ} (old : ℤ)
    (ghost : isNativeWormhole w fd = true) :
    (isWormholeFd w fd old).1 = true := by
  rw [isNativeWormhole] at ghost
  rw [isWormholeFd]
  split_ifs at ghost ⊢ with nonnegative
  cases file : w.file fd with
  | closed | pipeOrSocket | proxy => rfl
  | other =>
    rw [file] at ghost
    exact absurd ghost Bool.false_ne_true

/-- What is sent for a descriptor that leads home. -/
def Sent (c : Call) (rpc : Rpc) : Prop :=
  ∃ old, (isWormholeFd c.before (int c.args.di) old).1 = true ∧
    (rpc.remoteFd = int c.args.di ∨ rpc.remoteFd = (isWormholeFd c.before (int c.args.di) old).2)

theorem intercept_remote {k : WormholeCalls.Kind} {t : Thread} {w : World} {d : Data} {rpc : Rpc}
    (sent : intercept k t w d = .scheduled rpc) : rpc.remoteFd = d.remoteFd := by
  rw [intercept] at sent
  cases guest : guestOf w t with
  | none =>
    rw [guest] at sent
    cases sent
  | some g =>
    rw [guest] at sent
    simp only at sent
    split_ifs at sent
    cases sent
    rfl

section
variable {c : Call} {rpc : Rpc} {k : WormholeCalls.Kind} (steady : c.later = c.before)
include steady

theorem connect_sent (sent : c.ret ⟨entryHandlerConnect, retHandlerConnect k⟩ = .scheduled rpc) :
    Sent c rpc := by
  rw [Call.ret, steady] at sent
  simp only [retHandlerConnect] at sent
  split_ifs at sent with asked
  have remote := intercept_remote sent
  simp only [Bool.and_eq_true] at asked
  obtain ⟨⟨guest, net⟩, ghost⟩ := asked
  simp only [Call.entry, entryHandlerConnect, guest, net, Bool.and_self, if_true] at ghost remote
  split_ifs at ghost remote with is
  · exact ⟨-1, is, .inr remote⟩
  · exact absurd ghost is

theorem read_sent (sent : c.ret ⟨entryHandlerRead, retHandlerRead k⟩ = .scheduled rpc) :
    Sent c rpc := by
  rw [Call.ret, steady] at sent
  simp only [retHandlerRead] at sent
  split_ifs at sent with asked
  have remote := intercept_remote sent
  simp only [Bool.and_eq_true] at asked
  obtain ⟨guest, ghost⟩ := asked
  simp only [Call.entry, entryHandlerRead, guest, if_true] at ghost remote
  split_ifs at ghost remote with is
  · exact ⟨-1, isWormholeFd_of_native (-1) is, .inl remote⟩
  · exact absurd ghost is

theorem fcntl_sent (sent : c.ret ⟨entryHandlerFcntl, retHandlerFcntl k⟩ = .scheduled rpc) :
    Sent c rpc := by
  rw [Call.ret, steady] at sent
  simp only [retHandlerFcntl] at sent
  split_ifs at sent with asked
  have remote := intercept_remote sent
  simp only [Bool.and_eq_true] at asked
  obtain ⟨guest, ghost⟩ := asked
  simp only [Call.entry, entryHandlerFcntl, guest, if_true] at ghost remote
  split_ifs at ghost remote with is
  · exact ⟨_, is, .inr remote⟩
  · exact absurd ghost is

theorem fstatfs_sent (sent : c.ret ⟨entryHandlerFstatfs, retHandlerFcntl k⟩ = .scheduled rpc) :
    Sent c rpc := by
  let stale := { c.stale with remoteFd := int c.args.di }
  have again : ({ c with stale } : Call).ret ⟨entryHandlerFcntl, retHandlerFcntl k⟩ =
      .scheduled rpc := sent
  exact fcntl_sent (c := { c with stale }) steady again

omit steady in
theorem fileio_sent (sent : c.ret ⟨entryHandlerFileio, retHandlerGhost k⟩ = .scheduled rpc) :
    Sent c rpc := by
  rw [Call.ret] at sent
  simp only [retHandlerGhost] at sent
  split_ifs at sent with ghost
  have remote := intercept_remote sent
  simp only [Call.entry, entryHandlerFileio] at ghost remote
  split_ifs at ghost remote with guest is
  · refine ⟨-1, ?_, .inl remote⟩
    rcases Bool.or_eq_true_iff.mp is with proxy | native
    · rw [isWormholeFd]
      cases file : c.before.file (int c.args.di) with
      | proxy remoteFd =>
        simp only [file, Bool.and_eq_true, decide_eq_true_iff] at proxy
        rw [if_pos proxy.1]
      | closed | pipeOrSocket | other =>
        simp only [file, Bool.false_eq_true] at proxy
    · exact isWormholeFd_of_native (-1) native
  · exact absurd ghost is
  · exact absurd ghost Bool.false_ne_true

omit steady in
theorem epollCtl_sent (sent : c.ret ⟨entryHandlerEpollCtl, retHandlerGhost k⟩ = .scheduled rpc) :
    Sent c rpc := by
  rw [Call.ret] at sent
  simp only [retHandlerGhost] at sent
  split_ifs at sent with ghost
  have remote := intercept_remote sent
  simp only [Call.entry, entryHandlerEpollCtl] at ghost remote
  split_ifs at ghost remote with guest is
  · exact ⟨0, is, .inl remote⟩
  · exact absurd ghost Bool.false_ne_true
  · exact absurd ghost Bool.false_ne_true

omit steady in
theorem ghost_sent (sent : c.ret ⟨entryHandlerGhost, retHandlerGhost k⟩ = .scheduled rpc) :
    Sent c rpc := by
  rw [Call.ret] at sent
  simp only [retHandlerGhost] at sent
  split_ifs at sent with ghost
  have remote := intercept_remote sent
  simp only [Call.entry, entryHandlerGhost] at ghost remote
  split_ifs at ghost remote with guest is
  · exact ⟨_, is, .inr remote⟩
  · exact absurd ghost Bool.false_ne_true
  · exact absurd ghost Bool.false_ne_true

theorem byDescriptor_sent {h : Hook} (mem : h ∈ byDescriptor)
    (sent : c.ret (kretprobe h) = .scheduled rpc) : Sent c rpc := by
  cases h with
  | connect | bind | listen | sendto | recvfrom | accept => exact connect_sent steady sent
  | read | write => exact read_sent steady sent
  | lseek | fsync | statx => exact fileio_sent sent
  | epollCtl | epollWait => exact epollCtl_sent sent
  | getsockname | getpeername | setsockopt | getsockopt | sendmsg | recvmsg => exact ghost_sent sent
  | fcntl | ioctl | pread64 | getdents64 => exact fcntl_sent steady sent
  | fstatfs => exact fstatfs_sent steady sent
  | _ => simp [byDescriptor] at mem

end

theorem Inv.agrees {s : State} (h : Inv s) : Agrees s := by
  refine ⟨h.denotes, ?_⟩
  intro hook mem c steady files rpc sent
  obtain ⟨old, ghost, own | named⟩ := byDescriptor_sent steady mem sent
  · rw [own]
    exact (h.sent_own files ghost).2
  · rw [named, (h.sent_own files ghost).1]
    exact (h.sent_own files ghost).2

end MattX.DescriptorRuns
