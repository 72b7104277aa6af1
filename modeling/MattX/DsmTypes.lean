import MattX.WordMask

set_option autoImplicit false

/-!
# Names and sizes shared by the shared-memory modules
-/
namespace MattX

abbrev maxNodes : ℕ := 1024
abbrev maxGuests : ℕ := 1024
abbrev maxDsmPages : ℕ := 256
abbrev maxDsmSegments : ℕ := 16
abbrev pageSize : ℕ := 4096

abbrev Node := Fin (64 * (maxNodes / 64))
instance : @NeZero ℕ Zero.ofOfNat0 (64 * (maxNodes / 64)) := ⟨by decide⟩

abbrev NodeMask := WordMask (maxNodes / 64)

/-- A page number that fits the per-segment arrays. -/
abbrev PageIdx := Fin maxDsmPages

instance : @NeZero ℕ Zero.ofOfNat0 maxDsmPages := ⟨by decide⟩

abbrev Bytes := List (BitVec 8)

/-- The bytes of one page. -/
abbrev Page := Fin pageSize → BitVec 8

/-- `enum mattx_dsm_page_state`. -/
inductive PageState where
  | invalid
  | shared
  | exclusive
  deriving DecidableEq, Repr

end MattX
