import SqlSearch.Options

/-!
# Outcomes of checks

A compilation is a sequence of steps, each of which returns a result or stops with an error.
Two relations carry every statement about such sequences, and both pass through `>>=`.

* **Errors.**  `Reports outcome faults` says which error an outcome is: the first of a list of
  faults, where the list holds *all* the faults of the input in the order in which they are
  looked for.  Composition is concatenation (`Reports.bind`), so the order of checks in the
  code becomes the order of a list.
* **Results.**  `Refines first second` says that every result of `first` is the result of
  `second`.

## Main definitions

* `Reports`, `Refines`: the two relations
* `Strictness.enforce`: the faults that are looked for in strict mode only

## Main statements

* `bind_eq_ok_iff`: the results of a sequence
* `Reports.bind`, `Refines.bind`: the two relations pass through a sequence
* `Reports.exists_ok_iff`: a sequence returns a result exactly if there are no faults
-/

namespace SqlSearch

variable {ε α β : Type}

/-! ## Results of a sequence -/

/-- A sequence returns what its second step makes of the result of its first. -/
theorem bind_eq_ok_iff {step : Except ε α} {next : α → Except ε β} {result : β} :
    (step >>= next) = .ok result ↔ ∃ a, step = .ok a ∧ next a = .ok result := by
  cases step with
  | error error =>
    constructor
    · intro impossible
      cases impossible
    · rintro ⟨a, impossible, -⟩
      cases impossible
  | ok a =>
    constructor
    · intro returned
      exact ⟨a, rfl, returned⟩
    · rintro ⟨b, same, returned⟩
      cases same
      exact returned

/-! ## Faults in the order in which they are looked for -/

/-- The outcome **reports** the faults: it is the error of the first of them, and a result if
there is none. -/
def Reports (outcome : Except ε α) (faults : List ε) : Prop :=
  ∀ error, outcome = .error error ↔ faults.head? = some error

/-- A result reports no fault. -/
theorem reports_ok (a : α) : Reports (.ok a : Except ε α) [] := by
  intro error
  simp

/-- An error reports itself, whatever else is at fault. -/
theorem reports_error (error : ε) (others : List ε) :
    Reports (.error error : Except ε α) (error :: others) := by
  intro other
  simp

namespace Reports

variable {outcome : Except ε α} {faults : List ε}

/-- An outcome is a result exactly if there is nothing to report. -/
theorem exists_ok_iff (reports : Reports outcome faults) :
    (∃ a, outcome = .ok a) ↔ faults = [] := by
  cases outcome with
  | error error =>
    have first : faults.head? = some error := (reports error).mp rfl
    constructor
    · rintro ⟨a, impossible⟩
      cases impossible
    · rintro rfl
      cases first
  | ok a =>
    constructor
    · intro _
      cases faults with
      | nil => rfl
      | cons error others => exact absurd ((reports error).mpr rfl) (by simp)
    · intro _
      exact ⟨a, rfl⟩

/-- The faults of a sequence are those of its steps, one after the other. The faults of the
second step matter only where the first one returns a result. -/
theorem bind {next : α → Except ε β} {others : List ε} (first : Reports outcome faults)
    (second : ∀ a, outcome = .ok a → Reports (next a) others) :
    Reports (outcome >>= next) (faults ++ others) := by
  cases outcome with
  | error error =>
    obtain ⟨rest, rfl⟩ := List.head?_eq_some_iff.mp ((first error).mp rfl)
    exact reports_error error (rest ++ others)
  | ok a =>
    have none : faults = [] := first.exists_ok_iff.mp ⟨a, rfl⟩
    rw [none, List.nil_append]
    exact second a rfl

/-- A last step that always returns a result adds no fault. -/
theorem map (reports : Reports outcome faults) (f : α → β) :
    Reports (outcome >>= fun a => pure (f a)) faults := by
  have sequence := reports.bind fun a _ => reports_ok (f a)
  rwa [List.append_nil] at sequence

end Reports

/-! ## Faults of strict mode -/

/-- The faults that count: all of them in strict mode, none in permissive mode. -/
def Strictness.enforce (strictness : Strictness) (faults : List ε) : List ε :=
  match strictness with
  | .permissive => []
  | .strict => faults

namespace Strictness

@[simp] theorem enforce_permissive (faults : List ε) : permissive.enforce faults = [] := rfl

@[simp] theorem enforce_strict (faults : List ε) : strict.enforce faults = faults := rfl

@[simp] theorem enforce_nil (strictness : Strictness) :
    strictness.enforce ([] : List ε) = [] := by
  cases strictness <;> rfl

theorem enforce_append (strictness : Strictness) (faults others : List ε) :
    strictness.enforce (faults ++ others) =
      strictness.enforce faults ++ strictness.enforce others := by
  cases strictness <;> rfl

end Strictness

/-! ## Results that two sequences share -/

/-- The outcome `first` **refines** `second`: a result of `first` is the result of `second`. -/
def Refines (first second : Except ε α) : Prop :=
  ∀ a, first = .ok a → second = .ok a

namespace Refines

theorem refl (outcome : Except ε α) : Refines outcome outcome := fun _ returned => returned

/-- An error refines everything. -/
theorem error (error : ε) (outcome : Except ε α) : Refines (.error error) outcome := by
  intro a impossible
  cases impossible

/-- Sequences refine each other step by step. -/
theorem bind {first second : Except ε α} {next after : α → Except ε β}
    (steps : Refines first second) (rest : ∀ a, Refines (next a) (after a)) :
    Refines (first >>= next) (second >>= after) := by
  intro result returned
  obtain ⟨a, firstOk, nextOk⟩ := bind_eq_ok_iff.mp returned
  exact bind_eq_ok_iff.mpr ⟨a, steps a firstOk, rest a result nextOk⟩

end Refines

end SqlSearch
