/-
  File:      ModalRs/Router/Expiry.lean
  Subject:   The decision to refresh a token, and the subtraction it is made by.

  The expiry comes from the server as it is, and the time is taken off it in 64 bits.
  Where the difference does not fit, a build with overflow checks panics, and one
  without them wraps, as the methods of Session.lean do.

  * `timeLeft`: the seconds to the expiry, as an integer.
  * `DifferenceExact`: the machine's difference is that; `differenceExact_iff`.
  * `SkipsRefresh`: a refresh asks for no token; `skipsRefresh_iff`.
  * `refreshExact_iff`: when the decision is the one of the integers.
-/
import ModalRs.Router.Pairing

namespace ModalRs

open ModalRs.Lib ModalRs.Rust

/-! ## 1. The difference -/

/-- The seconds from now to the expiry. -/
def timeLeft (exp now : Int64) : Int := exp.toInt - now.toInt

/-- The difference fits 64 bits: nothing overflows, and nothing wraps. -/
def DifferenceExact (exp now : Int64) : Prop := (exp - now).toInt = timeLeft exp now

/-- **When the difference fits**: unless the expiry is too far back. -/
theorem differenceExact_iff {exp now : Int64} (hnow : 0 < now) :
    DifferenceExact exp now ↔ -2 ^ 63 ≤ timeLeft exp now := by
  have hpos : 0 < now.toInt := Int64.lt_iff_toInt_lt.mp hnow
  have hhigh := exp.toInt_lt
  have hlow := (exp - now).le_toInt
  constructor
  · intro hexact
    rw [DifferenceExact] at hexact
    rw [← hexact]
    exact hlow
  · intro hfits
    rw [DifferenceExact, Int64.toInt_sub]
    rw [timeLeft] at hfits ⊢
    exact Int.bmod_eq_of_le_mul_two (by omega) (by omega)

/-! ## 2. The decision -/

namespace TaskCommandRouterClient

/-- A world that counts the requests for a token, all answered alike; it is `now` all the time. -/
def accessWorld (reply : Except ModalError TaskGetCommandRouterAccessResponse) (now : Int64) :
    RouterWorld Nat where
  access _ n := (reply, n + 1)
  rpc _ _ n := (.error (.other "no operation"), n)
  utcNow _ := now
  instantNow _ := 0

/-- A refresh asks for no token, whatever it would be answered. -/
def SkipsRefresh (lib : JwtLibs) (c : TaskCommandRouterClient) (now : Int64) : Prop :=
  ∀ reply, (alone (accessWorld reply now) (refreshJwtIfNeeded lib c.taskId c.serverUrl) c 0).2.2 = 0

section Decision

variable {lib : JwtLibs} {c : TaskCommandRouterClient} {exp now : Int64}

/-- A new token is asked for once. -/
theorem replaceJwt_asks (reply : Except ModalError TaskGetCommandRouterAccessResponse) :
    (alone (accessWorld reply now) (replaceJwt lib c.taskId c.serverUrl) c 0).2.2 = 1 := by
  rw [alone_replaceJwt]
  cases reply with
  | error e => rfl
  | ok resp =>
    by_cases hurl : resp.url ≠ c.serverUrl
    · simp only [accessWorld, if_pos hurl]
    · simp only [accessWorld, if_neg hurl]

/-- **The decision is made by the machine's difference.** -/
theorem skipsRefresh_iff (hopen : c.closed = false) (hexp : c.jwtExp = some exp) :
    SkipsRefresh lib c now ↔ exp - now > jwtRefreshBufferSeconds := by
  have hload : ∀ reply, alone (accessWorld reply now) (act .loadClosed) c 0 = (.ok false, c, 0) := by
    intro reply
    rw [← hopen]
    rfl
  have hread : ∀ reply,
      alone (accessWorld reply now) (act .readJwtExp) c 0 = (.ok (some exp, now), c, 0) := by
    intro reply
    rw [← hexp]
    rfl
  have hrun : ∀ reply, alone (accessWorld reply now)
      (refreshJwtIfNeeded lib c.taskId c.serverUrl) c 0 =
      if exp - now > jwtRefreshBufferSeconds then (.ok (), c, 0)
      else alone (accessWorld reply now) (replaceJwt lib c.taskId c.serverUrl) c 0 := by
    intro reply
    rw [refreshJwtIfNeeded, alone_bind, hload]
    simp only [Bool.false_eq_true, if_false]
    rw [alone_bind, hread]
    by_cases hfar : exp - now > jwtRefreshBufferSeconds
    · simp only [if_pos hfar]
      rfl
    · simp only [if_neg hfar]
  by_cases hfar : exp - now > jwtRefreshBufferSeconds
  · refine ⟨fun _ => hfar, fun _ reply => ?_⟩
    rw [hrun, if_pos hfar]
  · refine ⟨fun hskips => ?_, fun h => absurd h hfar⟩
    have hasked := hskips (.error (.other ""))
    rw [hrun, if_neg hfar, replaceJwt_asks] at hasked
    cases hasked

end Decision

end TaskCommandRouterClient

/-! ## 3. When it is exact -/

open TaskCommandRouterClient

/-- A refresh is skipped exactly when more than the buffer is left, in the integers, and the
    difference fits 64 bits. -/
structure RefreshExact (lib : JwtLibs) (c : TaskCommandRouterClient) (exp now : Int64) : Prop where
  decision : SkipsRefresh lib c now ↔ jwtRefreshBufferSeconds.toInt < timeLeft exp now
  arithmetic : DifferenceExact exp now

/-- **When the refresh decision is exact**: for an open client that holds a token with its expiry,
    at all times, exactly when the expiry is not more than 2^63 seconds in the past. -/
theorem refreshExact_iff {lib : JwtLibs} {c : TaskCommandRouterClient} {exp now : Int64}
    (hopen : c.closed = false) (hheld : Paired lib c)
    (hparse : parseJwtExpiration lib c.jwt = .ok (some exp)) (hnow : 0 < now) :
    RefreshExact lib c exp now ↔ -2 ^ 63 ≤ exp.toInt - now.toInt := by
  have hexp : c.jwtExp = some exp := hheld.trans (expiryOf_ok hparse)
  constructor
  · intro hexact
    exact (differenceExact_iff hnow).mp hexact.arithmetic
  · intro hfits
    have harithmetic : DifferenceExact exp now := (differenceExact_iff hnow).mpr hfits
    refine ⟨?_, harithmetic⟩
    rw [skipsRefresh_iff hopen hexp, ← harithmetic]
    exact Int64.lt_iff_toInt_lt

/-- Libraries that can read one payload, whose expiry is the number -1e19. -/
def floatLibs : JwtLibs where
  Value := Option F64
  decodeUrlSafeNoPad payload :=
    if payload = "eyJleHAiOi0xZTE5fQ".toList then
      .ok [0x7b, 0x22, 0x65, 0x78, 0x70, 0x22, 0x3a, 0x2d, 0x31, 0x65, 0x31, 0x39, 0x7d]
    else .error "not a sample"
  fromSlice bytes :=
    if bytes = [0x7b, 0x22, 0x65, 0x78, 0x70, 0x22, 0x3a, 0x2d, 0x31, 0x65, 0x31, 0x39, 0x7d] then
      .ok (some 0xC3E158E460913D00)
    else .error "not a sample"
  get value key := if key = "exp" then value.map some else none
  asI64 _ := none
  asF64 value := value
  display _ := "-1e+19"

/-- The token of that payload, whose expiry is cast to the least `i64`. -/
def longExpired : TaskCommandRouterClient where
  taskId := "ta-1"
  serverUrl := "https://router"
  jwt := "h.eyJleHAiOi0xZTE5fQ.s"
  jwtExp := some Int64.minValue
  closed := false

theorem longExpired_parses :
    parseJwtExpiration floatLibs longExpired.jwt = .ok (some Int64.minValue) := by
  have hcast : F64.asI64 0xC3E158E460913D00 = Int64.minValue := by decide +kernel
  rw [← hcast]
  rfl

/-- A token that expires at 2, at the time 1: it is asked for another one. -/
theorem refreshExact_soon :
    RefreshExact sampleLibs ⟨"ta-1", "https://router", "h.eyJleHAiOjJ9.s", some 2, false⟩ 2 1 := by
  have hparse : parseJwtExpiration sampleLibs "h.eyJleHAiOjJ9.s" = .ok (some 2) := rfl
  have hheld : Paired sampleLibs ⟨"ta-1", "https://router", "h.eyJleHAiOjJ9.s", some 2, false⟩ :=
    (expiryOf_ok hparse).symm
  exact (refreshExact_iff rfl hheld hparse (by decide)).mpr (by decide)

/-- **A token that expired long ago is kept**: its expiry is the least `i64`, and the difference
    wraps to more than the buffer. -/
theorem refresh_skipped_wrapped :
    let now : Int64 := 1700000000
    (parseJwtExpiration floatLibs longExpired.jwt = .ok (some Int64.minValue) ∧
      SkipsRefresh floatLibs longExpired now ∧ timeLeft Int64.minValue now < 0) ∧
    ¬ ∀ (lib : JwtLibs) (c : TaskCommandRouterClient) (exp now : Int64),
      c.closed = false → Paired lib c → parseJwtExpiration lib c.jwt = .ok (some exp) → 0 < now →
      RefreshExact lib c exp now := by
  intro now
  have hheld : Paired floatLibs longExpired := (expiryOf_ok longExpired_parses).symm
  refine ⟨⟨longExpired_parses, (skipsRefresh_iff rfl rfl).mpr (by decide), by decide⟩, fun hall => ?_⟩
  have hexact := hall floatLibs longExpired Int64.minValue now rfl hheld longExpired_parses (by decide)
  have hpast : ¬ -2 ^ 63 ≤ timeLeft Int64.minValue now := by decide
  exact hpast ((differenceExact_iff (by decide)).mp hexact.arithmetic)

end ModalRs
