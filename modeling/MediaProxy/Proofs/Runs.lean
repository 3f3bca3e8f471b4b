/-!
# Runs

What a system with several parties may go through: one step after another, each with a name for what
others see of it.
-/

namespace MediaProxy

variable {σ α : Type}

/-- Some **steps in a row**, the latest last. -/
inductive Run (step : σ → α → σ → Prop) : σ → List α → σ → Prop where
  | here (x : σ) : Run step x [] x
  | next {x y z : σ} {done : List α} {act : α} (run : Run step x done y) (last : step y act z) :
      Run step x (done ++ [act]) z

namespace Run

variable {step : σ → α → σ → Prop} {x y z : σ} {done more : List α} {act : α}

theorem single (h : step x act y) : Run step x [act] y := .next (.here x) h

theorem trans (h : Run step x done y) (h' : Run step y more z) : Run step x (done ++ more) z := by
  induction h' with
  | here => simpa using h
  | next _ hlast ih =>
    rw [← List.append_assoc]
    exact .next ih hlast

theorem cons (h : step x act y) (h' : Run step y more z) : Run step x (act :: more) z :=
  (single h).trans h'

end Run

end MediaProxy
