import MattX.UserBuffers
import Mathlib.Tactic.Common

set_option autoImplicit false

/-!
# When the caller's buffers are kept

Lengths of replies are bounded by what the request asked for, and the request
does not always ask for what the caller declared.
-/
namespace MattX.UserBuffers
open RequestHandlers

/-! ### What is sent -/

section
variable {r : Request} {e : Env} {k : RequestHandlers.Kind} {P : WormholeCalls.Body → Prop}

end

/-- Fewer bytes come than the caller has room for, or memory ends there, wherever the request does
not carry the caller's size. -/
def Fits (c : Call) (f : Found) : Prop :=
  match c with
  | .recvfrom size trunc mapped =>
    f.error < 0 ∨ (trunc && f.datagram) = false ∨ min f.data.length mapped ≤ size
  | .select n sets | .pselect6 n sets => -15 < argInt n ∨ ∀ mapped ∈ sets, mapped = 0
  | .getsockname addrlen mapped | .getpeername addrlen mapped =>
    f.error < 0 ∨ sizeofSockaddrStorage < f.addr.length ∨ min f.addr.length mapped ≤ addrlen.toNat
  | .recvmsg iovs namelen name trunc =>
    iovs = [] ∨ f.error < 0 ∨ f.received trunc (datalen iovs) = 0 ∨ namelen ≤ 0 ∨
      ∀ mapped, name = some mapped → min f.addr.length mapped ≤ namelen.toNat
  | .fcntl arg buf | .ioctl arg buf => arg ≤ 4096 ∨ min 256 buf.mapped ≤ buf.size
  | .readlink bufsiz buf | .readlinkat bufsiz buf =>
    f.error < 0 ∨ ∀ mapped, buf = some mapped →
      min (min (min bufsiz 4096) f.data.length) mapped ≤ (argInt bufsiz).toNat
  | .shmctl buf =>
    f.error < 0 ∨ f.value ≠ 0 ∨ ∀ b, buf = some b → min 128 b.mapped ≤ b.size
  | _ => True

/-! ### The records -/

open WormholeCalls hiding Env Kind

section
variable {n error : ℤ} {bytes a : Bytes} {alloc : Bool} {g : Record}

end

/-- A deputy in good health with one open file, and nobody in its way. -/
def deputy : Task := ⟨true, some ⟨1, fun _ => true⟩, true, true⟩

end MattX.UserBuffers
