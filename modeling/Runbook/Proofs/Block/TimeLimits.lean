import Mathlib.Algebra.Order.Field.Power
import Mathlib.Algebra.Order.Field.Rat
import Mathlib.Data.Rat.Cast.Order
import Mathlib.Tactic.FieldSimp
import Mathlib.Tactic.Linarith
import Mathlib.Tactic.Positivity
import Mathlib.Tactic.Ring
import Runbook.Block.Command
import Runbook.Block.Server
import Runbook.Proofs.Block.Picture
/-!
# Time limits

A time limit is given in seconds, as a number, and held in whole nanoseconds. The number is exact
(`Binary64.value`), and the span is the whole number of nanoseconds nearest to it (`IsNearest`), so
what is known of one is known of the other: a number that is not above zero is refused, and so is
one of `2 ^ 64` seconds or more; every other number gives a span (`span?_rounds`).

The check that a limit is above zero is made of the number and not of the span. A number above zero
of at most half a nanosecond passes it and rounds to no time at all (`IsNegligible`). So a block
that is accepted can have a limit of no time, and it has one exactly when it is given such a number
(`command_withoutTime`).
-/

set_option autoImplicit false

namespace Runbook

/-! ### Exact values -/

namespace Number

namespace Binary64

variable {x : Binary64} {numerator denominator : ℕ}

/-- The rational number that a double-precision number is. -/
def value (x : Binary64) : ℚ :=
  (if x.negative then -1 else 1) * (x.significand * 2 ^ x.exponent)

theorem magnitude_snd_pos (x : Binary64) : 0 < x.magnitude.2 := by
  rw [magnitude]
  split
  · exact Nat.one_pos
  · rw [Nat.one_shiftLeft]
    exact Nat.two_pow_pos _

theorem magnitude_div (x : Binary64) :
    (x.magnitude.1 : ℚ) / x.magnitude.2 = x.significand * 2 ^ x.exponent := by
  rw [magnitude]
  split
  · next hexponent =>
    obtain ⟨n, hn⟩ := Int.eq_ofNat_of_zero_le hexponent
    simp only [hn, Int.toNat_natCast, Nat.shiftLeft_eq, Nat.cast_mul, Nat.cast_pow,
      Nat.cast_ofNat, Nat.cast_one, div_one, zpow_natCast]
  · next hexponent =>
    obtain ⟨n, hn⟩ := Int.eq_ofNat_of_zero_le (a := -x.exponent) (by omega)
    have hn' : x.exponent = -(n : ℤ) := by omega
    simp only [hn', neg_neg, Int.toNat_natCast, Nat.one_shiftLeft, Nat.cast_pow, Nat.cast_ofNat,
      zpow_neg, zpow_natCast, div_eq_mul_inv]

/-- Whether a number is above zero can be told from its sign and whether it is a zero. -/
theorem value_pos_iff : 0 < x.value ↔ (x.isZero || x.isBelowZero) = false := by
  have hpower : (0 : ℚ) < 2 ^ x.exponent := zpow_pos two_pos _
  rw [value, isBelowZero, isZero]
  rcases Nat.eq_zero_or_pos x.significand with hzero | hpos
  · simp [hzero]
  · have hmagnitude : (0 : ℚ) < x.significand * 2 ^ x.exponent :=
      mul_pos (Nat.cast_pos.2 hpos) hpower
    cases x.negative <;> simp [hpos.ne', hmagnitude, hmagnitude.le]

/-- A number above zero is its magnitude. -/
theorem value_eq_of_pos (h : 0 < x.value) :
    x.value = (x.magnitude.1 : ℚ) / x.magnitude.2 := by
  have hsign : x.negative = false := by
    rw [value_pos_iff, Bool.or_eq_false_iff, isBelowZero] at h
    simpa [h.1] using h.2
  rw [magnitude_div, value, hsign]
  simp

theorem wholePart_lt_iff (h : 0 < x.value) {bound : ℕ} : x.wholePart < bound ↔ x.value < bound := by
  have hpos : (0 : ℚ) < x.magnitude.2 := Nat.cast_pos.2 x.magnitude_snd_pos
  rw [wholePart, Nat.div_lt_iff_lt_mul x.magnitude_snd_pos, value_eq_of_pos h, div_lt_iff₀ hpos]
  exact_mod_cast Iff.rfl

end Binary64

/-! ### Rounding -/

/-- A whole number is nearest to a rational one, and even when another one is as near. -/
structure IsNearest (n : ℕ) (q : ℚ) : Prop where
  abs_sub_le : |q - n| ≤ 1 / 2
  even : |q - n| = 1 / 2 → Even n

/-- A number that is not below zero rounds to zero up to a half. -/
theorem IsNearest.eq_zero_iff {n : ℕ} {q : ℚ} (h : IsNearest n q) (hq : 0 ≤ q) :
    n = 0 ↔ q ≤ 1 / 2 := by
  constructor
  · rintro rfl
    simpa [abs_of_nonneg hq] using h.abs_sub_le
  · intro hhalf
    by_contra hne
    have hone : (1 : ℚ) ≤ n := Nat.one_le_cast.2 (Nat.one_le_iff_ne_zero.2 hne)
    have hdistance : |q - n| = n - q := by
      rw [abs_of_nonpos (by linarith)]
      ring
    have hle := h.abs_sub_le
    rw [hdistance] at hle
    -- A half rounds to one only when one is even.
    have hn : (n : ℚ) = 1 := by linarith
    have heven : Even n := h.even (by rw [hdistance]; linarith)
    rw [Nat.cast_eq_one.1 hn] at heven
    exact absurd heven (by decide)

/-- A quotient is rounded to the whole number below it or to the next one, whichever is nearer. -/
theorem isNearest_divideToEven (n : ℕ) {d : ℕ} (hd : 0 < d) :
    IsNearest (Binary64.divideToEven n d) ((n : ℚ) / d) := by
  have hpos : (0 : ℚ) < d := Nat.cast_pos.2 hd
  have hdivided : (n : ℚ) / d = (n / d : ℕ) + (n % d : ℕ) / (d : ℚ) := by
    have hn : (n : ℚ) = d * (n / d : ℕ) + (n % d : ℕ) := by
      exact_mod_cast (Nat.div_add_mod n d).symm
    rw [div_eq_iff hpos.ne', hn]
    field_simp
  have hlt : n % d < d := Nat.mod_lt n hd
  rw [Binary64.divideToEven, hdivided]
  generalize n / d = q at *
  generalize n % d = r at *
  simp only [Bool.or_eq_true, decide_eq_true_iff, Bool.and_eq_true, beq_iff_eq]
  -- The remainder is half of the denominator exactly when both neighbours are as near.
  have htie (h : (r : ℚ) / d = 1 / 2) : 2 * r = d := by
    rw [div_eq_div_iff hpos.ne' two_ne_zero, one_mul, mul_comm] at h
    exact_mod_cast h
  split
  · next hup =>
    have hhalf : 1 / 2 ≤ (r : ℚ) / d := by
      rw [div_le_div_iff₀ two_pos hpos, one_mul, mul_comm]
      exact_mod_cast (show d ≤ 2 * r by omega)
    have hbelow : (r : ℚ) / d ≤ 1 := (div_le_one hpos).2 (by exact_mod_cast hlt.le)
    have hdistance : |(q : ℚ) + r / d - (q + 1 : ℕ)| = 1 - r / d := by
      rw [Nat.cast_succ, abs_of_nonpos (by linarith)]
      ring
    refine ⟨by rw [hdistance]; linarith, fun heq ↦ ?_⟩
    rw [hdistance] at heq
    have hequal : 2 * r = d := htie (by linarith)
    rw [Nat.even_iff]
    omega
  · next hdown =>
    have hhalf : (r : ℚ) / d ≤ 1 / 2 := by
      rw [div_le_div_iff₀ hpos two_pos, one_mul, mul_comm]
      exact_mod_cast (show 2 * r ≤ d by omega)
    have hdistance : |(q : ℚ) + r / d - q| = r / d := by
      rw [add_sub_cancel_left, abs_of_nonneg (by positivity)]
    refine ⟨by rwa [hdistance], fun heq ↦ ?_⟩
    rw [hdistance] at heq
    have hequal : 2 * r = d := htie heq
    rw [Nat.even_iff]
    omega

/-- Half a nanosecond, in seconds. -/
def halfNano : ℚ := 1 / 2000000000

/-- A number of seconds that is above zero but rounds to no time. -/
def Binary64.IsNegligible (x : Binary64) : Prop := 0 < x.value ∧ x.value ≤ halfNano

namespace Duration

variable {x : Binary64}

/-- A number above zero that is not too large gives the nearest span, which is no time when the
number is negligible. -/
theorem exists_ofSeconds?_eq (hpos : 0 < x.value) (hlt : x.value < 2 ^ 64) :
    ∃ d, ofSeconds? x = some d ∧ IsNearest d.nanos (x.value * 10 ^ 9) ∧
      (d.nanos = 0 ↔ x.IsNegligible) := by
  obtain ⟨hzero, hbelow⟩ := Bool.or_eq_false_iff.1 (Binary64.value_pos_iff.1 hpos)
  have hfits : x.wholePart < 2 ^ 64 := (Binary64.wholePart_lt_iff hpos).2 (by exact_mod_cast hlt)
  have hnearest : IsNearest
      (Binary64.divideToEven (x.magnitude.1 * nanosPerSecond) x.magnitude.2)
      (x.value * 10 ^ 9) := by
    have hscaled : x.value * 10 ^ 9 =
        ((x.magnitude.1 * nanosPerSecond : ℕ) : ℚ) / x.magnitude.2 := by
      rw [Binary64.value_eq_of_pos hpos, nanosPerSecond]
      push_cast
      ring
    rw [hscaled]
    exact isNearest_divideToEven _ x.magnitude_snd_pos
  refine ⟨⟨Binary64.divideToEven (x.magnitude.1 * nanosPerSecond) x.magnitude.2⟩, ?_, hnearest, ?_⟩
  · rw [ofSeconds?, if_neg (by simp [hbelow])]
    exact if_pos hfits
  · rw [hnearest.eq_zero_iff (by positivity), Binary64.IsNegligible, and_iff_right hpos, halfNano,
      ← le_div_iff₀ (by norm_num)]
    norm_num

theorem ofSeconds?_eq_none (h : 2 ^ 64 ≤ x.value) : ofSeconds? x = none := by
  have hpos : 0 < x.value := lt_of_lt_of_le (by norm_num) h
  obtain ⟨hzero, hbelow⟩ := Bool.or_eq_false_iff.1 (Binary64.value_pos_iff.1 hpos)
  have hover : ¬x.wholePart < 2 ^ 64 := fun hlt ↦
    absurd ((Binary64.wholePart_lt_iff hpos).1 hlt) (not_lt.2 (by exact_mod_cast h))
  rw [ofSeconds?, if_neg (by simp [hbelow])]
  exact if_neg hover

end Duration

end Number

/-! ### Limits of blocks -/

namespace Block

open Number

section Spans

variable {given : Arguments} {field : String} {x : Binary64}

/-- A number that is not above zero is refused as such. -/
theorem span?_of_nonpos (hx : given.number? field = some x) (h : x.value ≤ 0) :
    span? given field = .error (.notPositive field x) := by
  have hrefused : (x.isZero || x.isBelowZero) = true := by
    by_contra hgranted
    exact absurd (Binary64.value_pos_iff.2 (Bool.not_eq_true _ ▸ hgranted)) (not_lt.2 h)
  rw [span?, hx]
  exact if_pos hrefused

/-- A number above zero is refused exactly when no span is that long. -/
theorem span?_of_pos (hx : given.number? field = some x) (h : 0 < x.value) :
    span? given field = match Duration.ofSeconds? x with
      | some span => .ok (some span)
      | none => .error (.outOfRange field x) := by
  have hgranted : ¬(x.isZero || x.isBelowZero) = true := by
    rw [Binary64.value_pos_iff.1 h]
    exact Bool.false_ne_true
  rw [span?, hx]
  exact if_neg hgranted

/-- A span of no time comes of a negligible number, and of no other. -/
theorem span?_eq_zero_iff :
    span? given field = .ok (some ⟨0⟩) ↔ ∃ x, given.number? field = some x ∧ x.IsNegligible := by
  constructor
  · intro h
    cases hx : given.number? field with
    | none =>
      rw [span?, hx] at h
      cases h
    | some x =>
      refine ⟨x, rfl, ?_⟩
      rcases le_or_gt x.value 0 with hnonpos | hpos
      · cases (span?_of_nonpos hx hnonpos).symm.trans h
      rw [span?_of_pos hx hpos] at h
      rcases lt_or_ge x.value (2 ^ 64) with hlt | hge
      · obtain ⟨d, hd, -, hzero⟩ := Duration.exists_ofSeconds?_eq hpos hlt
        rw [hd] at h
        cases h
        exact hzero.1 rfl
      · rw [Duration.ofSeconds?_eq_none hge] at h
        cases h
  · rintro ⟨x, hx, hnegligible⟩
    have hlt : x.value < 2 ^ 64 := lt_of_le_of_lt hnegligible.2 (by norm_num [halfNano])
    obtain ⟨d, hd, -, hzero⟩ := Duration.exists_ofSeconds?_eq hnegligible.1 hlt
    obtain rfl : d = ⟨0⟩ := congrArg Duration.mk (hzero.2 hnegligible)
    rw [span?_of_pos hx hnegligible.1, hd]

/-- A limit that some time stands in for is no time exactly when a negligible number is given. -/
theorem getD_eq_zero_iff {span : Option Duration} {default : Duration}
    (h : span? given field = .ok span) (hdefault : default ≠ ⟨0⟩) :
    span.getD default = ⟨0⟩ ↔ ∃ x, given.number? field = some x ∧ x.IsNegligible := by
  rw [← span?_eq_zero_iff, h]
  cases span with
  | none => exact iff_of_false hdefault nofun
  | some d => rw [Option.getD_some, Except.ok.injEq, Option.some.injEq]

end Spans

section Limits

variable {arguments body : String}

/-- Arguments give a field a negligible number. -/
def GivesNegligible (schema : Arguments.Schema) (arguments field : String) : Prop :=
  ∃ given, Arguments.parse schema arguments = .ok given ∧
    ∃ x, given.number? field = some x ∧ x.IsNegligible

theorem givesNegligible_iff {schema : Arguments.Schema} {field : String} {given : Arguments}
    (h : Arguments.parse schema arguments = .ok given) :
    GivesNegligible schema arguments field ↔
      ∃ x, given.number? field = some x ∧ x.IsNegligible := by
  refine ⟨fun ⟨other, hother, hnegligible⟩ ↦ ?_, fun hnegligible ↦ ⟨given, h, hnegligible⟩⟩
  rw [h] at hother
  cases hother
  exact hnegligible

theorem Command.timeout_eq_zero_iff {block : Command}
    (h : Command.parse arguments body = .ok block) :
    block.timeout = some ⟨0⟩ ↔ GivesNegligible Command.schema arguments "timeout" := by
  unfold Command.parse at h
  obtain ⟨given, hgiven, h⟩ := exists_of_bind_ok h
  obtain ⟨-, h⟩ := of_guard_ok h
  obtain ⟨span, hspan, h⟩ := exists_of_bind_ok h
  cases h
  rw [givesNegligible_iff (of_mapError_ok hgiven), ← span?_eq_zero_iff, of_mapError_ok hspan,
    Except.ok.injEq]

theorem StartServer.timeout_eq_zero_iff {block : StartServer}
    (h : StartServer.parse arguments body = .ok block) :
    block.timeout = ⟨0⟩ ↔ GivesNegligible StartServer.schema arguments "timeout" := by
  unfold StartServer.parse at h
  obtain ⟨given, hgiven, h⟩ := exists_of_bind_ok h
  obtain ⟨-, h⟩ := of_guard_ok h
  obtain ⟨span, hspan, h⟩ := exists_of_bind_ok h
  cases h
  rw [givesNegligible_iff (of_mapError_ok hgiven)]
  exact getD_eq_zero_iff (of_mapError_ok hspan) (by decide)

theorem StopServer.grace_eq_zero_iff {block : StopServer}
    (h : StopServer.parse arguments body = .ok block) :
    block.grace = ⟨0⟩ ↔ GivesNegligible StopServer.schema arguments "grace" := by
  unfold StopServer.parse at h
  obtain ⟨given, hgiven, h⟩ := exists_of_bind_ok h
  obtain ⟨-, h⟩ := of_guard_ok h
  obtain ⟨span, hspan, h⟩ := exists_of_bind_ok h
  cases h
  rw [givesNegligible_iff (of_mapError_ok hgiven)]
  exact getD_eq_zero_iff (of_mapError_ok hspan) (by decide)

end Limits

/-- A number of seconds that is not above zero is refused, and so is one of `2 ^ 64` or more; both
refusals are faults of the text. Every other number gives the span nearest to it, which is no time
exactly when the number is negligible. So a block that is accepted has a limit of no time exactly
when a negligible number is given for it. -/
theorem span?_rounds (given : Arguments) (field arguments body : String) :
    (∀ x, given.number? field = some x →
      (x.value ≤ 0 → span? given field = .error (.notPositive field x)) ∧
      (2 ^ 64 ≤ x.value → span? given field = .error (.outOfRange field x)) ∧
      (0 < x.value → x.value < 2 ^ 64 → ∃ d, span? given field = .ok (some d) ∧
        IsNearest d.nanos (x.value * 10 ^ 9) ∧ (d.nanos = 0 ↔ x.IsNegligible))) ∧
    (∀ error : FieldError,
      (Refusal.field error).message = "validation error: " ++ error.message) ∧
    (∀ block, Command.parse arguments body = .ok block →
      (block.timeout = some ⟨0⟩ ↔ GivesNegligible Command.schema arguments "timeout")) ∧
    (∀ block, StartServer.parse arguments body = .ok block →
      (block.timeout = ⟨0⟩ ↔ GivesNegligible StartServer.schema arguments "timeout")) ∧
    ∀ block, StopServer.parse arguments body = .ok block →
      (block.grace = ⟨0⟩ ↔ GivesNegligible StopServer.schema arguments "grace") := by
  refine ⟨fun x hx ↦ ⟨span?_of_nonpos hx, fun hge ↦ ?_, fun hpos hlt ↦ ?_⟩, fun _ ↦ rfl,
    fun _ ↦ Command.timeout_eq_zero_iff, fun _ ↦ StartServer.timeout_eq_zero_iff,
    fun _ ↦ StopServer.grace_eq_zero_iff⟩
  · rw [span?_of_pos hx (lt_of_lt_of_le (by norm_num) hge), Duration.ofSeconds?_eq_none hge]
  · obtain ⟨d, hd, hnearest⟩ := Duration.exists_ofSeconds?_eq hpos hlt
    exact ⟨d, by rw [span?_of_pos hx hpos, hd], hnearest⟩

/-- One and a half seconds is a span of that length, the largest span is refused from `2 ^ 64`
seconds on, and a tenth of a nanosecond is given to a server that is stopped as no time. -/
theorem span?_rounds_sizes :
    (∃ d, span? ⟨[("timeout", .number ⟨false, 3, -1⟩)]⟩ "timeout" = .ok (some d) ∧
      IsNearest d.nanos (3 / 2 * 10 ^ 9) ∧ d.nanos ≠ 0) ∧
    span? ⟨[("timeout", .number ⟨false, 1, 64⟩)]⟩ "timeout" =
      .error (.outOfRange "timeout" ⟨false, 1, 64⟩) ∧
    ∃ block, StopServer.parse "name=a grace=1e-10" "" = .ok block ∧ block.grace = ⟨0⟩ ∧
      GivesNegligible StopServer.schema "name=a grace=1e-10" "grace" := by
  refine ⟨?_, ?_, ?_⟩
  · obtain ⟨hspan, -⟩ := span?_rounds ⟨[("timeout", .number ⟨false, 3, -1⟩)]⟩ "timeout" "" ""
    have hvalue : Binary64.value ⟨false, 3, -1⟩ = 3 / 2 := by norm_num [Binary64.value]
    obtain ⟨d, hd, hnearest, hzero⟩ :=
      (hspan _ rfl).2.2 (by rw [hvalue]; norm_num) (by rw [hvalue]; norm_num)
    rw [hvalue] at hnearest
    refine ⟨d, hd, hnearest, fun hnone ↦ ?_⟩
    obtain ⟨-, hle⟩ := hzero.1 hnone
    rw [hvalue] at hle
    norm_num [halfNano] at hle
  · obtain ⟨hspan, -⟩ := span?_rounds ⟨[("timeout", .number ⟨false, 1, 64⟩)]⟩ "timeout" "" ""
    have hvalue : Binary64.value ⟨false, 1, 64⟩ = 2 ^ 64 := by norm_num [Binary64.value]
    exact (hspan _ rfl).2.1 hvalue.ge
  · obtain ⟨-, -, -, -, hstop⟩ := span?_rounds ⟨[]⟩ "" "name=a grace=1e-10" ""
    have hevaluated : (StopServer.parse "name=a grace=1e-10" "").toOption.map StopServer.grace =
        some ⟨0⟩ := by decide +kernel
    obtain ⟨block, hblock, hgrace⟩ := exists_of_toOption_map hevaluated
    exact ⟨block, hblock, hgrace, (hstop _ hblock).1 hgrace⟩

/-- A command block with a limit of a tenth of a nanosecond is accepted with no time, and so are
blocks that start and stop a server. -/
theorem command_withoutTime :
    (Command.parse "timeout=1e-10" "true").toOption.map Command.timeout = some (some ⟨0⟩) ∧
    (StartServer.parse "timeout=1e-10" "true").toOption.map StartServer.timeout = some ⟨0⟩ ∧
    (StopServer.parse "name=a grace=1e-10" "").toOption.map StopServer.grace = some ⟨0⟩ := by
  decide +kernel

end Block

end Runbook
