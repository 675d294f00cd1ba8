/-!
Machines that read one item at a time and write as they go. `run_append` says that a run may be
interrupted anywhere and taken up again from the state it had reached.
-/

namespace MatchedLines.Transducer

variable {σ α β : Type}

/-- The state after one more item, with what was written so far, last item first. -/
def advance (step : σ → α → σ × List β) (reached : σ × List β) (x : α) : σ × List β :=
  ((step reached.1 x).1, (step reached.1 x).2.reverse ++ reached.2)

/-- Reads all items: the state after them and what was written. -/
def run (step : σ → α → σ × List β) (s : σ) (xs : List α) : σ × List β :=
  let (final, written) := xs.foldl (advance step) (s, [])
  (final, written.reverse)

variable {step : σ → α → σ × List β}

@[simp] theorem run_nil (s : σ) : run step s [] = (s, []) := rfl

theorem foldl_advance (xs : List α) (s : σ) (written : List β) :
    xs.foldl (advance step) (s, written) =
      ((run step s xs).1, (run step s xs).2.reverse ++ written) := by
  induction xs generalizing s written with
  | nil => simp
  | cons x xs ih =>
    have whole : run step s (x :: xs) =
        ((run step (step s x).1 xs).1, (step s x).2 ++ (run step (step s x).1 xs).2) := by
      rw [run, List.foldl_cons, advance, ih]
      simp
    rw [List.foldl_cons, advance, ih, whole]
    simp

theorem run_cons (s : σ) (x : α) (xs : List α) :
    run step s (x :: xs) =
      ((run step (step s x).1 xs).1, (step s x).2 ++ (run step (step s x).1 xs).2) := by
  rw [run, List.foldl_cons, advance, foldl_advance]
  simp

theorem run_append (s : σ) (front back : List α) :
    run step s (front ++ back) =
      ((run step (run step s front).1 back).1,
        (run step s front).2 ++ (run step (run step s front).1 back).2) := by
  induction front generalizing s with
  | nil => simp
  | cons x front ih => simp [run_cons, ih]

theorem run_concat (s : σ) (xs : List α) (x : α) :
    run step s (xs ++ [x]) =
      ((step (run step s xs).1 x).1, (run step s xs).2 ++ (step (run step s xs).1 x).2) := by
  rw [run_append, run_cons, run_nil, List.append_nil]

end MatchedLines.Transducer
