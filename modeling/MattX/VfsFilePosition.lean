import MattX.DsmTypes
import Mathlib.Data.Int.Notation
import Mathlib.Tactic.Common
import Mathlib.Algebra.Order.Group.Nat

set_option autoImplicit false

/-!
# The position of a MattXFS file

The client keeps a position for the file and passes it with every read and
write; the open file on the owning node has one of its own, which only seeks
use. Both are compared with the one position of a file that is opened there.
-/
namespace MattX.VfsFilePosition

def einval : ℤ := -22
def enomem : ℤ := -12

/-- `MAX_RW_COUNT` -/
def maxRwCount : ℕ := 2147479552

/-- The most that `kmalloc` can give. -/
def kmallocMax : ℕ := 4 * 1024 * 1024

/-- `sizeof(struct mattx_vfs_write_req)` -/
def vfsWriteReqSize : ℕ := 32

/-! ### A file on its own node -/

/-- What the file system does with a read or write: it takes so many bytes at most, or fails. -/
inductive Io where
  | upTo (n : ℕ)
  | fails (errno : ℕ)

inductive Whence where
  | set | cur | fromEnd
  deriving DecidableEq

inductive Call where
  | read (count : ℕ) (io : Io)
  | write (data : Bytes) (io : Io)
  | llseek (offset : ℤ) (whence : Whence)

/-- `struct file` of a regular file, and what the file has. -/
structure OpenFile where
  content : Bytes
  pos : ℕ
  append : Bool

structure Result where
  ret : ℤ
  data : Bytes

/-- `kernel_read` at a position. -/
def kernelRead (content : Bytes) (pos count : ℕ) : Io → Result
  | .upTo n =>
    ⟨((content.drop pos).take (min count n)).length, (content.drop pos).take (min count n)⟩
  | .fails errno => ⟨-errno, []⟩

/-- Bytes in a file that is extended with zeros where it is too short. -/
def overwrite (content : Bytes) (pos : ℕ) (put : Bytes) : Bytes :=
  (content ++ List.replicate (pos - content.length) 0).take pos ++ put ++
    content.drop (pos + put.length)

/-- The bytes that a write puts into the file. -/
def taken (data : Bytes) : Io → Bytes
  | .upTo n => data.take n
  | .fails _ => []

def writePos (f : OpenFile) (pos : ℕ) : ℕ := if f.append then f.content.length else pos

/-- `kernel_write` at a position: what it returns, the content, and the position it leaves. -/
def kernelWrite (f : OpenFile) (pos : ℕ) (data : Bytes) (io : Io) : ℤ × Bytes × ℕ :=
  if taken data io = [] then
    (match io with
      | .upTo _ => 0
      | .fails errno => if data = [] then 0 else -errno, f.content, pos)
  else
    ((taken data io).length, overwrite f.content (writePos f pos) (taken data io),
      writePos f pos + (taken data io).length)

/-- Where a seek would go. -/
def target (f : OpenFile) (offset : ℤ) : Whence → ℤ
  | .set => offset
  | .cur => f.pos + offset
  | .fromEnd => f.content.length + offset

/-- `vfs_llseek`; `maxBytes` is that of the file system. -/
def vfsLlseek (maxBytes : ℕ) (f : OpenFile) (offset : ℤ) (whence : Whence) : ℤ :=
  if whence = .cur ∧ offset = 0 then f.pos
  else if 0 ≤ target f offset whence ∧ target f offset whence ≤ maxBytes then target f offset whence
  else einval

def seeked (f : OpenFile) (ret : ℤ) : OpenFile := if 0 ≤ ret then { f with pos := ret.toNat } else f

/-- A call on the node that has the file. -/
def native (maxBytes : ℕ) (f : OpenFile) : Call → Result × OpenFile
  | .read count io =>
    let r := kernelRead f.content f.pos (min count maxRwCount) io
    (r, { f with pos := f.pos + r.data.length })
  | .write data io =>
    let w := kernelWrite f f.pos (data.take maxRwCount) io
    (⟨w.1, []⟩, { f with content := w.2.1, pos := w.2.2 })
  | .llseek offset whence =>
    let ret := vfsLlseek maxBytes f offset whence
    (⟨ret, []⟩, seeked f ret)

/-! ### The same through MattXFS -/

/-- `file` is the open file in the table of the owning node, `pos` the position in the client's
`struct file`. `onHome`: client and owning node are one. -/
structure RemoteFile where
  file : OpenFile
  pos : ℕ
  onHome : Bool

/-- `mattxfs_remote_file_read`, which never returns if `handle_vfs_read_req` has no buffer. -/
def mattxfsRead (r : RemoteFile) (count : ℕ) (io : Io) : Option (Result × RemoteFile) :=
  if r.onHome = false ∧ kmallocMax < count then none
  else
    let got := kernelRead r.file.content r.pos count io
    some (got, { r with pos := r.pos + got.data.length })

/-- `mattxfs_remote_file_write`: the reply of another node has no position. -/
def mattxfsWrite (r : RemoteFile) (data : Bytes) (io : Io) : Result × RemoteFile :=
  if kmallocMax < vfsWriteReqSize + data.length then (⟨enomem, []⟩, r)
  else
    let w := kernelWrite r.file r.pos data io
    (⟨w.1, []⟩, { r with
      file := { r.file with content := w.2.1 }
      pos := if r.onHome then w.2.2 else if 0 < w.1 then r.pos + w.1.toNat else r.pos })

/-- `mattxfs_remote_file_llseek` -/
def mattxfsLlseek (maxBytes : ℕ) (r : RemoteFile) (offset : ℤ) (whence : Whence) :
    Result × RemoteFile :=
  let ret := vfsLlseek maxBytes r.file offset whence
  (⟨ret, []⟩, { r with
    file := seeked r.file ret
    pos := if 0 ≤ ret then ret.toNat else r.pos })

/-- A call on the client; `none` where it does not return. -/
def remote (maxBytes : ℕ) (r : RemoteFile) : Call → Option (Result × RemoteFile)
  | .read count io => mattxfsRead r (min count maxRwCount) io
  | .write data io => some (mattxfsWrite r (data.take maxRwCount) io)
  | .llseek offset whence => some (mattxfsLlseek maxBytes r offset whence)

/-! ### Agreement -/

/-- The client has the file and the position that the process would have on the owning node. -/
structure Matches (f : OpenFile) (r : RemoteFile) : Prop where
  content : f.content = r.file.content
  pos : f.pos = r.pos
  append : f.append = r.file.append

/-- The call returns, and nothing differs. -/
def Agrees (maxBytes : ℕ) (f : OpenFile) (r : RemoteFile) (c : Call) : Prop :=
  ∃ r', remote maxBytes r c = some ((native maxBytes f c).1, r') ∧
    Matches (native maxBytes f c).2 r'

/-- A file that was just opened, on its own node and through MattXFS. -/
def opened (content : Bytes) (append : Bool) : OpenFile := ⟨content, 0, append⟩

end MattX.VfsFilePosition
