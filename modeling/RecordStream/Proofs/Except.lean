import Mathlib.Data.List.Forall2

/-!
Computations that end well: each of their steps did, and a fold keeps what its step keeps. And what
holds of a computation either way, step by step.
-/

namespace RecordStream

variable {ε α β : Type}

theorem exists_of_bind {x : Except ε α} {f : α → Except ε β} {b : β} (h : (x >>= f) = .ok b) :
    ∃ a, x = .ok a ∧ f a = .ok b := by
  cases x with
  | error => cases h
  | ok a => exact ⟨a, rfl, h⟩

theorem exists_of_map {x : Except ε α} {f : α → β} {b : β} (h : x.map f = .ok b) :
    ∃ a, x = .ok a ∧ f a = b := by
  cases x with
  | error => cases h
  | ok a =>
    cases h
    exact ⟨a, rfl, rfl⟩

theorem foldlM_keeps {f : β → α → Except ε β} {P : β → Prop} {as : List α}
    (hstep : ∀ a ∈ as, ∀ b b', P b → f b a = .ok b' → P b') {b b' : β} (hb : P b)
    (h : as.foldlM f b = .ok b') : P b' := by
  induction as generalizing b with
  | nil =>
    cases h
    exact hb
  | cons a as ih =>
    rw [List.foldlM_cons] at h
    obtain ⟨mid, hmid, h⟩ := exists_of_bind h
    exact ih (fun a' ha' => hstep a' (List.mem_cons_of_mem _ ha'))
      (hstep a List.mem_cons_self b mid hb hmid) h

theorem toOption_eq_some_iff {x : Except ε α} {a : α} : x.toOption = some a ↔ x = .ok a := by
  cases x <;> simp [Except.toOption]

theorem mapM_eq_some_iff {f : α → Option β} {as : List α} {bs : List β} :
    as.mapM f = some bs ↔ List.Forall₂ (fun a b => f a = some b) as bs := by
  induction as generalizing bs with
  | nil => simp [eq_comm]
  | cons a as ih =>
    rw [List.mapM_cons, List.forall₂_cons_left_iff]
    simp only [Option.bind_eq_bind, Option.bind_eq_some_iff, Option.pure_def, Option.some.injEq, ih]
    constructor
    · rintro ⟨b, hb, bs', hbs, rfl⟩
      exact ⟨b, bs', hb, hbs, rfl⟩
    · rintro ⟨b, bs', hb, hbs, rfl⟩
      exact ⟨b, hb, bs', hbs, rfl⟩

/-- The computation gives something good, or stops with a fault that is accounted for. -/
def Yields (x : Except ε α) (good : α → Prop) (fault : ε → Prop) : Prop :=
  match x with
  | .ok a => good a
  | .error e => fault e

namespace Yields

variable {x : Except ε α} {f : α → Except ε β} {good good' : α → Prop} {best : β → Prop}
  {fault fault' : ε → Prop}

@[simp] theorem yields_ok {a : α} : Yields (.ok a) good fault ↔ good a := Iff.rfl

theorem mono (h : Yields x good fault) (hgood : ∀ a, good a → good' a)
    (hfault : ∀ e, fault e → fault' e) : Yields x good' fault' := by
  cases x with
  | ok a => exact hgood a h
  | error e => exact hfault e h

theorem bind (h : Yields x good fault) (hf : ∀ a, good a → Yields (f a) best fault) :
    Yields (x >>= f) best fault := by
  cases x with
  | ok a => exact hf a h
  | error e => exact h

theorem bind_mono (h : Yields x good fault') (hf : ∀ a, good a → Yields (f a) best fault)
    (hfault : ∀ e, fault' e → fault e) : Yields (x >>= f) best fault :=
  (h.mono (fun _ => id) hfault).bind hf

end Yields

end RecordStream
