import MattX.InterceptionHandlers
import Mathlib.Data.Int.Notation
import Mathlib.Logic.Function.Basic

set_option autoImplicit false

/-!
# The descriptors of a surrogate and of its deputy

Calls that make a descriptor put a file into the deputy's table and a proxy
file with its number into the surrogate's; some run on the surrogate alone. The
same calls made by the process itself, had it not been migrated, are run beside
them on a table of its own.
-/
namespace MattX.DescriptorTables
open InterceptionHandlers (File)

/-- `config_mattxfs_enabled`, `config_migrate_file_io` and `config_migrate_network_io`. -/
structure Config where
  mattxfs : Bool
  fileIo : Bool
  networkIo : Bool

/-- An open file of the surrogate: a proxy with the number it stands for, told from others by `id`,
or a file of its own. `special`: a pipe or a socket. -/
inductive Obj where
  | proxy (id : ℕ) (remoteFd : ℤ)
  | own (special : Bool) (f : ℕ)
  deriving DecidableEq

/-- `reserved`: the bit in `open_fds` is set and there is no file. -/
inductive Slot where
  | closed
  | reserved
  | file (o : Obj)
  deriving DecidableEq

def Slot.isFile : Slot → Bool
  | .file _ => true
  | .closed | .reserved => false

def Slot.isOpen : Slot → Bool
  | .closed => false
  | .reserved | .file _ => true

/-- `homeNext`: the deputy's `next_fd`. `exports`: the slots of its export entry. -/
structure System where
  guest : ℤ → Slot
  guestSize : ℕ
  serial : ℕ
  home : ℤ → Option ℕ
  homeSize : ℕ
  homeNext : ℤ
  exports : ℤ → Option ℕ

/-- The lowest number from `low` on, below `n`, that is not in use. -/
def free (n : ℕ) (low : ℤ) (used : ℤ → Bool) : Option ℤ :=
  ((List.range n).map Int.ofNat).find? fun d => decide (low ≤ d) && !used d

/-- The two lowest. -/
def freePair (n : ℕ) (low : ℤ) (used : ℤ → Bool) : Option (ℤ × ℤ) :=
  (free n low used).bind fun d => (free n (d + 1) used).map fun e => (d, e)

namespace System

/-- Where the handlers of the home node look for a number. -/
def lookup (s : System) (r : ℤ) : Option ℕ := if 1000 ≤ r then s.exports (r - 1000) else s.home r

/-! ### The home node -/

/-- The native injector of the open, socket and accept kworkers. -/
def insertHome (s : System) (f : ℕ) : Option ℤ × System :=
  match free s.homeSize 3 fun d => (s.home d).isSome with
  | none => (none, s)
  | some d => (some d, { s with home := Function.update s.home d (some f) })

/-- `epoll_create1` in the deputy itself. -/
def allocHome (limit : ℕ) (s : System) (f : ℕ) : Option ℤ × System :=
  match free limit s.homeNext fun d => (s.home d).isSome with
  | none => (none, s)
  | some d =>
    (some d, { s with
      home := Function.update s.home d (some f)
      homeSize := max s.homeSize (d.toNat + 1)
      homeNext := d + 1 })

/-- `mattx_dup_kworker` -/
def dupHome (s : System) (oldRemoteFd newLocalFd : ℤ) : Option ℤ × System :=
  match s.lookup oldRemoteFd with
  | none => (none, s)
  | some f =>
    let target := if newLocalFd < 0 then free s.homeSize 3 fun d => (s.home d).isSome
      else some newLocalFd
    match target with
    | none => (none, s)
    | some d =>
      if d < s.homeSize then (some d, { s with home := Function.update s.home d (some f) })
      else (none, s)

/-- `handle_sys_close_req` -/
def closeReq (s : System) (remoteFd : ℤ) : System :=
  if 1000 ≤ remoteFd then { s with exports := Function.update s.exports (remoteFd - 1000) none }
  else { s with home := Function.update s.home remoteFd none }

/-! ### The surrogate -/

def install (s : System) (d remoteFd : ℤ) : System :=
  { s with
    guest := Function.update s.guest d (.file (.proxy s.serial remoteFd))
    serial := s.serial + 1 }

def freeSlot (s : System) : Option ℤ := free s.guestSize 3 fun d => (s.guest d).isFile

/-- The awakening of open, socket and dup: the slot is reserved before the proxy is allocated. -/
def adopt (alloc : Bool) (s : System) (remoteFd : ℤ) : Option ℤ × System :=
  match s.freeSlot with
  | none => (none, s)
  | some d =>
    if alloc then (some d, s.install d remoteFd)
    else (none, { s with guest := Function.update s.guest d .reserved })

/-- The awakening of accept and epoll_create: a proxy that finds no slot is released again. -/
def adoptOrRelease (alloc : Bool) (s : System) (remoteFd : ℤ) : Option ℤ × System :=
  if alloc then
    match s.freeSlot with
    | none => (none, s.closeReq remoteFd)
    | some d => (some d, s.install d remoteFd)
  else (none, s)

def holds (s : System) (o : Obj) : Bool :=
  (List.range s.guestSize).any fun d => s.guest d == .file o

/-- `fput` of a file that a slot has lost: the last one of a proxy closes it at home. -/
def release (s : System) : Obj → System
  | .proxy id remoteFd => if s.holds (.proxy id remoteFd) then s else s.closeReq remoteFd
  | .own _ _ => s

/-- `alloc_fd` and `fd_install` of a call that runs on the surrogate. -/
def allocFd (limit : ℕ) (s : System) (o : Obj) : Option ℤ × System :=
  match free limit 0 fun d => (s.guest d).isOpen with
  | none => (none, s)
  | some d =>
    (some d, { s with
      guest := Function.update s.guest d (.file o)
      guestSize := max s.guestSize (d.toNat + 1) })

/-- What `fget` finds under a number. -/
def fileAt (s : System) (fd : ℤ) : File :=
  match s.guest fd with
  | .closed | .reserved => .closed
  | .file (.proxy _ remoteFd) => .proxy (some remoteFd)
  | .file (.own true _) => .pipeOrSocket
  | .file (.own false _) => .other

/-- `is_wormhole_fd` -/
def wormhole (s : System) (fd : ℤ) : Option ℤ :=
  if fd < 0 then none
  else match s.guest fd with
    | .closed | .reserved | .file (.own true _) => some fd
    | .file (.proxy _ remoteFd) => some remoteFd
    | .file (.own false _) => none

end System

/-! ### The calls -/

/-- `fast`: a path of a local library. `fifo`: the path of a named pipe. `epolltest`: the name of
the process. -/
inductive Maker where
  | openat (fast fifo : Bool)
  | socket
  | epollCreate (epolltest : Bool)
  deriving DecidableEq

def Maker.special : Maker → Bool
  | .openat _ fifo => fifo
  | .socket => true
  | .epollCreate _ => false

/-- `spoiled`: the local call has been made to fail, and nothing takes its place. -/
inductive Route where
  | home
  | own
  | spoiled
  deriving DecidableEq

/-- Opens and sockets are taken home for the leader of the gang only. -/
def Config.route (c : Config) (leader : Bool) : Maker → Route
  | .openat fast _ =>
    if !leader || c.mattxfs || fast then .own else if c.fileIo then .home else .spoiled
  | .socket => if leader && c.networkIo then .home else .own
  | .epollCreate epolltest => if epolltest then .home else .own

/-- `f`, `ends`, `answer`: what the call makes, if it succeeds; of an accept, for the listening
socket. `alloc`: a proxy and its record can be allocated, for a pipe under the number. `writable`:
the pair of numbers can be stored. `grow`: the tables of the two processes have grown. -/
inductive Event where
  | make (k : Maker) (leader : Bool) (f : Option ℕ) (alloc : Bool)
  | accept (fd : ℤ) (leader : Bool) (answer : ℕ → Option ℕ) (alloc : Bool)
  | pipe2 (ends : Option (ℕ × ℕ)) (writable : Bool) (alloc : ℤ → Bool)
  | dup (fd : ℤ) (leader alloc : Bool)
  | dup2 (fd newfd : ℤ) (leader alloc : Bool)
  | close (fd : ℤ)
  | grow (guestSize homeSize : ℕ)

/-- The numbers a call returns; none if it fails. -/
abbrev Result := Option (List ℤ)

def one (x : Option ℤ × System) : Result × System := (x.1.map fun d => [d], x.2)

def Maker.adopt : Maker → Bool → System → ℤ → Option ℤ × System
  | .openat _ _ | .socket => System.adopt
  | .epollCreate _ => System.adoptOrRelease

def Maker.insert (limit : ℕ) : Maker → System → ℕ → Option ℤ × System
  | .openat _ _ | .socket => System.insertHome
  | .epollCreate _ => System.allocHome limit

/-- What the home node replies, and what the awakening makes of it. -/
def awaken (reply : Option ℤ × System) (adopt : System → ℤ → Option ℤ × System) :
    Result × System :=
  match reply with
  | (none, s) => (none, s)
  | (some r, s) => one (adopt s r)

/-- A descriptor that the accept hook takes home, and the number it is sent as. -/
def Config.networked (c : Config) (leader : Bool) (s : System) (fd : ℤ) : Option ℤ :=
  if leader && c.networkIo then s.wormhole fd else none

/-- A descriptor that the dup hook takes home, and the number it stands for. -/
def Config.hooked (c : Config) (leader : Bool) (s : System) (fd : ℤ) : Option ℤ :=
  if leader && !c.mattxfs then
    match s.guest fd with
    | .file (.proxy _ remoteFd) => some remoteFd
    | .closed | .reserved | .file (.own _ _) => none
  else none

/-- `do_dup2` on the surrogate. -/
def System.replace (s : System) (newfd : ℤ) (o : Obj) : Result × System :=
  let s' := { s with
    guest := Function.update s.guest newfd (.file o)
    guestSize := max s.guestSize (newfd.toNat + 1) }
  match s.guest newfd with
  | .reserved => (none, s)
  | .closed => (some [newfd], s')
  | .file old => (some [newfd], s'.release old)

def System.pipe2 (limit : ℕ) (s : System) (f g : ℕ) (writable : Bool) (alloc : ℤ → Bool) :
    Result × System :=
  match freePair limit s.homeNext fun d => (s.home d).isSome with
  | none => (none, s)
  | some (r, q) =>
    let s' := { s with
      home := Function.update (Function.update s.home r (some f)) q (some g)
      homeSize := max s.homeSize (q.toNat + 1)
      homeNext := q + 1 }
    match free s.guestSize 3 fun d => (s.guest d).isFile || !alloc d with
    | none => (none, s')
    | some d =>
      match free s.guestSize (d + 1) fun d => (s.guest d).isFile || !alloc d with
      | none => (none, s'.install d r)
      | some e => (if writable then some [d, e] else none, (s'.install d r).install e q)

def surrogate (c : Config) (limit : ℕ) (s : System) : Event → Result × System
  | .make k leader f alloc =>
    match f, c.route leader k with
    | none, _ => (none, s)
    | some _, .spoiled => (none, s)
    | some f, .own => one (s.allocFd limit (.own k.special f))
    | some f, .home => awaken (k.insert limit s f) (k.adopt alloc)
  | .accept fd leader answer alloc =>
    match c.networked leader s fd with
    | some r =>
      match (s.lookup r).bind answer with
      | none => (none, s)
      | some f => awaken (s.insertHome f) (System.adoptOrRelease alloc)
    | none =>
      match s.guest fd with
      | .file (.own _ g) =>
        match answer g with
        | none => (none, s)
        | some f => one (s.allocFd limit (.own true f))
      | .closed | .reserved | .file (.proxy _ _) => (none, s)
  | .pipe2 ends writable alloc =>
    match ends with
    | none => (none, s)
    | some (f, g) => s.pipe2 limit f g writable alloc
  | .dup fd leader alloc =>
    match c.hooked leader s fd with
    | some r => awaken (s.dupHome r (-1)) (System.adopt alloc)
    | none =>
      match s.guest fd with
      | .file o => one (s.allocFd limit o)
      | .closed | .reserved => (none, s)
  | .dup2 fd newfd leader alloc =>
    match c.hooked leader s fd with
    | some r => awaken (s.dupHome r newfd) (System.adopt alloc)
    | none =>
      match s.guest fd with
      | .file o =>
        if fd = newfd then (some [newfd], s)
        else if 0 ≤ newfd ∧ newfd < limit then s.replace newfd o
        else (none, s)
      | .closed | .reserved => (none, s)
  | .close fd =>
    match s.guest fd with
    | .file o => (some [], { s with guest := Function.update s.guest fd .closed }.release o)
    | .closed | .reserved => (none, s)
  | .grow guestSize homeSize =>
    (some [], { s with
      guestSize := max s.guestSize guestSize, homeSize := max s.homeSize homeSize })

/-! ### The process itself -/

abbrev Native := ℤ → Option ℕ

def place (limit : ℕ) (n : Native) (f : ℕ) : Result × Native :=
  match free limit 0 fun d => (n d).isSome with
  | none => (none, n)
  | some d => (some [d], Function.update n d (some f))

def native (limit : ℕ) (n : Native) : Event → Result × Native
  | .make _ _ f _ =>
    match f with
    | none => (none, n)
    | some f => place limit n f
  | .accept fd _ answer _ =>
    match (n fd).bind answer with
    | none => (none, n)
    | some f => place limit n f
  | .pipe2 ends writable _ =>
    match ends, writable, freePair limit 0 fun d => (n d).isSome with
    | some (f, g), true, some (d, e) =>
      (some [d, e], Function.update (Function.update n d (some f)) e (some g))
    | _, _, _ => (none, n)
  | .dup fd _ _ =>
    match n fd with
    | none => (none, n)
    | some f => place limit n f
  | .dup2 fd newfd _ _ =>
    match n fd with
    | none => (none, n)
    | some f =>
      if fd = newfd then (some [newfd], n)
      else if 0 ≤ newfd ∧ newfd < limit then (some [newfd], Function.update n newfd (some f))
      else (none, n)
  | .close fd =>
    match n fd with
    | none => (none, n)
    | some _ => (some [], Function.update n fd none)
  | .grow _ _ => (some [], n)

end MattX.DescriptorTables
