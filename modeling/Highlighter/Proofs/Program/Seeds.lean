import Mathlib.Algebra.Group.Units.Basic
import Mathlib.Data.LawfulXor.Basic
import Mathlib.Data.UInt
import Highlighter.Program.Fuzz
import Highlighter.Proofs.Registry.Registrations

/-!
# Seeds of samples

The seed of a sample is its iteration times an odd factor, masked with the seed of the run. Modulo 2^64 the
factor has an inverse (`factor`), and a mask is taken off by itself, so every word is the seed of just one
iteration below 2^64 (`caseSeed_eq_iff`). The environment cannot ask for more iterations than that
(`iterations_ofEnvironment_lt`), and the seed is read back from what is saved of a sample
(`natural?_record`). Main statement: `distinct_seeds`.
-/

namespace Highlighter

/-! ### Numbers as texts -/

/-- A number is read back from its digits. -/
lemma Text.digitsValue?_toString (n : Nat) : digitsValue? (toString n).toList = some n := by
  have hdigits : (Nat.toDigits 10 n).all Char.isDigit = true :=
    List.all_eq_true.mpr fun c hc => Nat.isDigit_of_mem_toDigits (by decide) (by decide) hc
  have hnonempty : (Nat.toDigits 10 n).isEmpty = false :=
    List.isEmpty_eq_false_iff.mpr Nat.toDigits_ne_nil
  have hvalue : Nat.ofDigitChars 10 (Nat.toDigits 10 n) 0 = n := Nat.ofDigitChars_ten_toDigits
  rw [Nat.ofDigitChars] at hvalue
  simp only [Nat.toString_eq_repr, Nat.toList_repr, digitsValue?, hdigits, hnonempty,
    Nat.mul_comm _ 10, hvalue]
  rfl

/-- A number that is read is below 2^64. -/
lemma Text.lt_of_numeral? {text : List Char} {n : Nat} (h : numeral? text = some n) : n < 2 ^ 64 :=
  of_decide_eq_true (Option.filter_eq_some_iff.mp h).2

/-- A number of the environment is below 2^64, if the default is. -/
lemma Environment.number_lt (env : Environment) (name : String) {default : Nat}
    (h : default < 2 ^ 64) : env.number name default < 2 ^ 64 := by
  rw [number]
  cases hread : (env.text? name).bind fun v => Text.numeral? v.toList with
  | none => exact h
  | some n =>
    obtain ⟨v, -, hv⟩ := Option.bind_eq_some_iff.mp hread
    exact Text.lt_of_numeral? hv

/-- The number in a field of a record. -/
def Json.natural? (name : String) : Json String → Option Nat
  | record fields =>
    match fields.lookup name with
    | some (number spelling) => Text.digitsValue? spelling.toList
    | _ => none
  | _ => none

namespace Program.Fuzz

/-! ### Seeds and iterations -/

/-- The factor of the seeds. It is odd, and so it has an inverse. -/
def factor : UInt64ˣ where
  val := SplitMix.increment
  inv := 0xF1DE83E19937733D
  val_inv := by decide
  inv_val := by decide

/-- The iteration below 2^64 that a seed belongs to in a run. -/
def iterationOf (seed saved : UInt64) : Nat := ((seed ^^^ saved) * factor⁻¹).toNat

/-- Every word is the seed of one iteration below 2^64, whatever the seed of the run. -/
theorem caseSeed_eq_iff {seed saved : UInt64} {i : Nat} (h : i < 2 ^ 64) :
    caseSeed seed i.toUInt64 = saved ↔ iterationOf seed saved = i := by
  constructor
  · rintro rfl
    change ((seed ^^^ (seed ^^^ i.toUInt64 * factor)) * factor⁻¹).toNat = i
    rw [xor_cancel_left, Units.mul_inv_cancel_right]
    exact UInt64.toNat_ofNat_of_lt' h
  · rintro rfl
    change seed ^^^ UInt64.ofNat ((seed ^^^ saved) * factor⁻¹).toNat * factor = saved
    rw [UInt64.ofNat_toNat, Units.inv_mul_cancel_right, xor_cancel_left]

/-- Iteration 3 with the seed that a run has by itself. -/
example : caseSeed 42 3 = 15755400384260043797 ∧ iterationOf 42 15755400384260043797 = 3 := by decide

/-- The seed of an iteration in terms of numbers. -/
lemma toNat_caseSeed (seed : UInt64) (i : Nat) :
    (caseSeed seed i.toUInt64).toNat = seed.toNat ^^^ (i * 0x9E3779B97F4A7C15 % 2 ^ 64) := by
  have hfactor : SplitMix.increment.toNat = 0x9E3779B97F4A7C15 := rfl
  have hi : i.toUInt64.toNat = i % 2 ^ 64 := UInt64.toNat_ofNat'
  rw [caseSeed, UInt64.toNat_xor, UInt64.toNat_mul, hi, hfactor, Nat.mod_mul_mod]

/-- Two iterations below 2^64 have different seeds. -/
lemma caseSeed_ne {i j : Nat} (hi : i < 2 ^ 64) (hj : j < 2 ^ 64) (h : i ≠ j) (seed : UInt64) :
    caseSeed seed i.toUInt64 ≠ caseSeed seed j.toUInt64 := by
  intro heq
  have hiteration : iterationOf seed (caseSeed seed j.toUInt64) = i := (caseSeed_eq_iff hi).mp heq
  exact h (hiteration.symm.trans ((caseSeed_eq_iff hj).mp rfl))

/-! ### The samples of a run -/

/-- The environment asks for fewer than 2^64 iterations. -/
lemma iterations_ofEnvironment_lt (env : Environment) :
    (Plan.ofEnvironment env).iterations < 2 ^ 64 :=
  env.number_lt "FUZZ_ITERS" (by decide)

namespace Plan

variable {plan : Plan}

/-- The cases of a plan are those of each built-in language and each iteration. -/
lemma mem_cases {language : String} {i : Nat} :
    (language, i) ∈ plan.cases ↔ language ∈ Registry.builtin.names ∧ i < plan.iterations := by
  simp [cases]

/-- Each language has every iteration once, and different ones have different seeds. -/
lemma pairwise_cases (h : plan.iterations ≤ 2 ^ 64) :
    plan.cases.Pairwise fun a b => a.1 = b.1 → plan.seedOf a.2 ≠ plan.seedOf b.2 := by
  rw [cases, List.pairwise_flatMap]
  constructor
  · intro language _
    rw [List.pairwise_map]
    refine List.nodup_range.imp_of_mem fun hi hj hne _ => ?_
    exact caseSeed_ne ((List.mem_range.mp hi).trans_le h) ((List.mem_range.mp hj).trans_le h) hne _
  · -- samples of two languages are not compared
    refine Registry.nodup_names_builtin.imp fun hne a ha b hb heq => ?_
    obtain ⟨_, -, rfl⟩ := List.mem_map.mp ha
    obtain ⟨_, -, rfl⟩ := List.mem_map.mp hb
    exact absurd heq hne

/-- The seed is read back from what is saved of a sample. -/
lemma natural?_record (f : Failure) (time : Nat) :
    (plan.record f time).natural? "case_seed" = some (plan.seedOf f.iteration).toNat :=
  Text.digitsValue?_toString _

end Plan

/-- No two samples of a language have the same seed. With the product taken modulo 2^64, different
iterations below 2^64 have different seeds, whatever the seed of the run. So the samples that a run makes for
one language are all drawn from different seeds, whatever the environment asks for. What is saved of one of
them has its seed in it, and this and the seed of the run tell its iteration. -/
theorem distinct_seeds (env : Environment) :
    let plan := Plan.ofEnvironment env
    (∀ (seed : UInt64) (i : Nat),
      (caseSeed seed i.toUInt64).toNat = seed.toNat ^^^ (i * 0x9E3779B97F4A7C15 % 2 ^ 64)) ∧
    (∀ (seed : UInt64) (i j : Nat), i < 2 ^ 64 → j < 2 ^ 64 → i ≠ j →
      caseSeed seed i.toUInt64 ≠ caseSeed seed j.toUInt64) ∧
    (plan.cases.Pairwise fun a b => a.1 = b.1 → plan.seedOf a.2 ≠ plan.seedOf b.2) ∧
    ∀ f : Failure, (f.language, f.iteration) ∈ plan.cases → ∀ time,
      ∃ saved, (plan.record f time).natural? "case_seed" = some saved ∧
        iterationOf plan.seed.toUInt64 saved.toUInt64 = f.iteration := by
  intro plan
  have hiterations : plan.iterations < 2 ^ 64 := iterations_ofEnvironment_lt env
  refine ⟨toNat_caseSeed, fun seed i j hi hj h => caseSeed_ne hi hj h seed,
    Plan.pairwise_cases hiterations.le, fun f hf time => ?_⟩
  refine ⟨_, Plan.natural?_record f time, ?_⟩
  rw [← caseSeed_eq_iff ((Plan.mem_cases.mp hf).2.trans hiterations)]
  exact UInt64.ofNat_toNat.symm

/-- An environment that asks for four samples of each language. -/
def fourEach : Environment := fun name =>
  if name = "FUZZ_ITERS" then some (Utf8.ofString "4") else none

/-- Two iterations with products beyond 2^64, and what is saved of the last sample of a language. -/
theorem distinct_seeds_wrapping :
    let plan := Plan.ofEnvironment fourEach
    let f : Failure := ⟨"SQL", 3, "'", .contentLost 0 "" "'"⟩
    (3 < 2 ^ 64 ∧ 2 ^ 64 - 1 < 2 ^ 64 ∧ 3 ≠ 2 ^ 64 - 1 ∧
      caseSeed 42 (Nat.toUInt64 3) ≠ caseSeed 42 (Nat.toUInt64 (2 ^ 64 - 1))) ∧
    (f.language, f.iteration) ∈ plan.cases ∧
    ∃ saved, (plan.record f 0).natural? "case_seed" = some saved ∧
      iterationOf plan.seed.toUInt64 saved.toUInt64 = 3 := by
  intro plan f
  obtain ⟨-, hne, -, hsaved⟩ := distinct_seeds fourEach
  have hf : (f.language, f.iteration) ∈ plan.cases := by
    rw [Plan.mem_cases, Registry.names_builtin]
    exact ⟨by decide, by decide +kernel⟩
  exact ⟨⟨by decide, by decide, by decide, hne 42 3 (2 ^ 64 - 1) (by decide) (by decide) (by decide)⟩,
    hf, hsaved f hf 0⟩

end Program.Fuzz
end Highlighter
