/-
  File:      ModalRs/Rust/Time.lean
  Subject:   `std::time`: durations and instants, in nanoseconds.

  The conversions to `f32` that the requests make of their timeouts are left
  out; a request carries the exact duration.
-/
import ModalRs.Rust.Outcome

namespace ModalRs.Rust

/-- `std::time::Duration`, in nanoseconds. -/
abbrev Duration : Type := Nat

/-- `std::time::Instant`, in nanoseconds from the clock's origin. -/
abbrev Instant : Type := Nat

namespace Duration

def fromSecs (secs : Nat) : Duration := secs * 1000000000

def fromMillis (millis : Nat) : Duration := millis * 1000000

/-- `Duration::MAX`: `u64::MAX` seconds and 999 999 999 nanoseconds. -/
def max : Duration := 2 ^ 64 * 1000000000 - 1

def saturatingMul (d : Duration) (k : Nat) : Duration := min (d * k) max

/-- `d * k`, which panics past the largest duration. -/
def mul {ε : Type} (d : Duration) (k : Nat) : Res ε Duration :=
  if d * k ≤ max then .ok (d * k) else .error (.panic .mulOverflow)

def asSecs (d : Duration) : Nat := d / 1000000000

/-- The digits behind the decimal point, without trailing zeros: `part` is a multiple of the
    unit's `places` decimal places. -/
def fraction (part places : Nat) : String :=
  let digits := (Nat.toDigits 10 part)
  let padded := List.replicate (places - digits.length) '0' ++ digits
  let shown := (padded.reverse.dropWhile (· == '0')).reverse
  if shown.isEmpty then "" else "." ++ String.ofList shown

/-- `{:?}` of a duration: the largest unit with a whole part. -/
def debug (d : Duration) : String :=
  if 1000000000 ≤ d then toString (d / 1000000000) ++ fraction (d % 1000000000) 9 ++ "s"
  else if 1000000 ≤ d then toString (d / 1000000) ++ fraction (d % 1000000) 6 ++ "ms"
  else if 1000 ≤ d then toString (d / 1000) ++ fraction (d % 1000) 3 ++ "µs"
  else toString d ++ "ns"

end Duration

namespace Instant

/-- The largest instant: `i64::MAX` seconds and 999 999 999 nanoseconds. -/
def max : Instant := 2 ^ 63 * 1000000000 - 1

/-- `instant + duration`, which panics past the largest instant. -/
def add {ε : Type} (i : Instant) (d : Duration) : Res ε Instant :=
  if i + d ≤ max then .ok (i + d) else .error (.panic .addOverflow)

/-- `later.saturating_duration_since(earlier)`. -/
def saturatingDurationSince (later earlier : Instant) : Duration := later - earlier

theorem add_eq_ok {ε : Type} {i : Instant} {d : Duration} {j : Instant}
    (h : (add i d : Res ε Instant) = .ok j) : j = i + d := by
  unfold add at h
  split at h
  · cases h
    rfl
  · cases h

end Instant

end ModalRs.Rust
