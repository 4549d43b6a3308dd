import Mathlib.Data.List.TakeWhile

/-! # Longest fronts

A scanner that takes characters while a test holds cuts its input in one way only. -/
namespace Spans
set_option autoImplicit false

variable {T : Type} {p : T → Bool}

/-- `w` is the longest front of `w ++ s` in which `p` holds. -/
structure Span (p : T → Bool) (w s : List T) : Prop where
  all : ∀ c ∈ w, p c = true
  stop : ∀ c, s.head? = some c → p c = false

theorem span_takeWhile (p : T → Bool) (s : List T) : Span p (s.takeWhile p) (s.dropWhile p) where
  all _ hc := List.mem_takeWhile_imp hc
  stop c hc := by
    have h := List.head?_dropWhile_not p s
    rw [hc] at h
    exact h

theorem exists_span (p : T → Bool) (s : List T) : ∃ w t, Span p w t ∧ w ++ t = s :=
  ⟨_, _, span_takeWhile p s, List.takeWhile_append_dropWhile⟩

theorem Span.takeWhile_eq {w s : List T} (h : Span p w s) : (w ++ s).takeWhile p = w := by
  rw [List.takeWhile_append_of_pos h.all]
  cases s with
  | nil => simp
  | cons c s => simp [h.stop c rfl]

theorem Span.dropWhile_eq {w s : List T} (h : Span p w s) : (w ++ s).dropWhile p = s := by
  rw [List.dropWhile_append_of_pos h.all]
  cases s with
  | nil => simp
  | cons c s => simp [h.stop c rfl]

theorem Span.nil {w : List T} (h : ∀ c ∈ w, p c = true) : Span p w [] := ⟨h, nofun⟩

theorem Span.cons {w s : List T} {c : T} (h : ∀ d ∈ w, p d = true) (hc : p c = false) :
    Span p w (c :: s) :=
  ⟨h, fun _ hd => Option.some.inj hd ▸ hc⟩

end Spans
