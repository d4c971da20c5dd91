import DynamicBinding.Proofs.Machine.Client
import DynamicBinding.Proofs.Machine.Course
/-!
# How deep a run goes

The depth of a run is a limit on evaluation and no part of what is evaluated.  A run that ends
within a limit comes to the same within every larger one, so what a task comes to can be said
without a limit.

* `Exec.Below` compares computations that stop as `Stop.diverged` where they are not given enough.
  There is a rule for each way of putting computations together, and `run_below_of_le` is the
  comparison of two limits.
* `Task.ComesTo` says what a task comes to, and `Task.ComesTo.unique` that it comes to one thing at
  most.
* `Task.Alike` relates tasks that do the same where nothing is kept, but for some steps at the
  beginning.  By `Task.Alike.sameOutcome` they come to the same where bindings are kept.
* `Client.Sees` says without a limit what a user sees whose requests all come to an end.
-/

namespace DynamicBinding

variable {α β : Type}

/-! ## Computations with different limits -/

/-- The second computation does what the first does, unless the first was not given enough. -/
def Exec.Below (x y : Exec α) : Prop :=
  ∀ m : Machine, (x.run.run m).1 ≠ .error .diverged → y.run.run m = x.run.run m

namespace Exec.Below

/-- A computation is enough for itself. -/
theorem refl (x : Exec α) : x.Below x := fun _ _ => rfl

/-- What is enough for the first is enough for the last, through the one between. -/
theorem trans {x y z : Exec α} (h : x.Below y) (h' : y.Below z) : x.Below z := by
  intro m hx
  have hy := h m hx
  rw [← hy] at hx ⊢
  exact h' m hx

/-- A computation that was given nothing promises nothing. -/
theorem diverged (y : Exec α) : Below (throw .diverged) y := fun _ h => (h rfl).elim

/-- The second part is only compared where the first one was given enough. -/
theorem bind {x y : Exec α} {f g : α → Exec β} (hx : x.Below y)
    (hf : ∀ a, (f a).Below (g a)) : (x >>= f).Below (y >>= g) := by
  intro m h
  have hfirst := hx m
  rw [run_bind] at h ⊢
  rw [run_bind]
  rcases hrun : x.run.run m with ⟨r, n⟩
  rw [hrun] at h hfirst
  cases r with
  | ok a =>
    rw [hfirst nofun]
    exact hf a n h
  | error e =>
    have he : e ≠ .diverged := fun heq => h (congrArg Except.error heq)
    rw [hfirst fun heq => he (Except.error.inj heq)]

/-- What comes after a reading starts from the machine that was read. -/
theorem get_at {f g : Machine → Exec β}
    (h : ∀ m : Machine, ((f m).run.run m).1 ≠ .error .diverged →
      (g m).run.run m = (f m).run.run m) :
    (get >>= f).Below (get >>= g) := h

/-- A change at the end is made by both. -/
theorem afterwards {x y : Exec α} (h : x.Below y) (change : Machine → Machine) :
    (afterwards x change).Below (Exec.afterwards y change) := by
  intro m hx
  have hrun := h m hx
  show ((y.run.run m).1, change (y.run.run m).2) = ((x.run.run m).1, change (x.run.run m).2)
  rw [hrun]

end Exec.Below

open Exec

/-! ## Tasks -/

/-- The second way of performing tasks does what the first does, unless the first was not given
enough. -/
def Perform.Below (p q : Perform) : Prop := ∀ task, (p task).Below (q task)

variable {p q : Perform}

/-- A course does the same wherever its tasks do. -/
theorem Course.run_below (hp : p.Below q) (course : Course α) :
    (course.run p).Below (course.run q) := by
  induction course with
  | done a => exact .refl _
  | act x hx next ih => exact .bind (.refl x) ih
  | perform task next ih => exact .bind (hp task) ih

/-- What has a course needs no more than its tasks. -/
theorem HasCourse.below {F : Perform → Exec α} (h : HasCourse F) (hp : p.Below q) :
    (F p).Below (F q) := by
  obtain ⟨course, hcourse⟩ := h
  rw [hcourse, hcourse]
  exact course.run_below hp

/-- A site is looked at alike, so only its plan makes a difference. -/
theorem invokeSite_below (hp : p.Below q) (id : Nat) (args : List Value) :
    (invokeSite p id args).Below (invokeSite q id args) := by
  apply Below.get_at
  intro m
  cases hlookup : (m.site id).lookup? args with
  | some found =>
    simp only [hlookup]
    exact Below.bind (.refl _) (fun _ => hp _) m
  | none =>
    simp only [hlookup]
    have hplan : ∀ binding : Binding, _ := fun binding =>
      (hp (.execute binding.plan args)).afterwards (·.modifySite id (·.install binding))
    exact Below.bind (.refl _) (fun _ => .bind (.refl _) hplan) m

/-- The same is true of every way to invoke a binder. -/
theorem invoke_below (hp : p.Below q) (caching : Caching) (binder : Binder) (site : Option Nat)
    (args : List Value) : (invoke caching p binder site args).Below
      (invoke caching q binder site args) := by
  by_cases hacc : binder.operation.Accepts args
  · rw [invoke_of_accepts hacc, invoke_of_accepts hacc]
    unfold invoke.answer
    split
    · exact invokeSite_below hp _ args
    · exact hp _
  · obtain ⟨expected, -, -, hrefused⟩ := invoke_of_not_accepts hacc
    rw [hrefused, hrefused]
    exact .refl _

/-- A task does the same if its parts do. -/
theorem step_below (hp : p.Below q) (caching : Caching) :
    Perform.Below (step caching p) (step caching q) := by
  intro task
  cases task with
  | invoke binder site args => exact invoke_below hp caching binder site args
  | execute plan args => exact (execute_hasCourse plan args).below hp
  | callValue callee args => exact (callValue_hasCourse callee args).below hp
  | callFunction f args => exact (callFunction_hasCourse f args).below hp
  | instantiate c args => exact (instantiate_hasCourse c args).below hp

/-- **One more level changes nothing,** where there were enough. -/
theorem run_below (caching : Caching) (depth : Nat) :
    Perform.Below (run caching depth) (run caching (depth + 1)) := by
  induction depth with
  | zero => exact fun task => .diverged _
  | succ depth ih => exact step_below ih caching

/-- **A larger limit changes nothing** about a run that ends within a smaller one. -/
theorem run_below_of_le (caching : Caching) {depth more : Nat} (h : depth ≤ more) :
    Perform.Below (run caching depth) (run caching more) := by
  induction h with
  | refl => exact fun task => .refl _
  | step _ ih => exact fun task => (ih task).trans (run_below caching _ task)

/-- Through no site in particular, a call with arguments that the operation takes is one step ahead
of the plan that it is resolved to. -/
theorem run_invoke_none {binder : Binder} {args : List Value} (h : binder.operation.Accepts args)
    (caching : Caching) (depth : Nat) :
    run caching (depth + 1) (.invoke binder none args) =
      run caching depth (.execute (binder.resolve args).plan args) := by
  show invoke caching (run caching depth) binder none args = _
  rw [invoke_of_accepts h]
  cases caching <;> rfl

/-! ## What tasks come to -/

namespace Task

variable {caching : Caching} {m n : Machine} {t u v : Task} {answer answer' : Answer} {s s' : Store}

/-- On the machine, the task comes to an end with the answer, and leaves the store. -/
def ComesTo (caching : Caching) (m : Machine) (task : Task) (answer : Answer) (s : Store) : Prop :=
  answer ≠ .error .diverged ∧
    ∃ depth, ((run caching depth task).run.run m).1 = answer ∧
      ((run caching depth task).run.run m).2.store = s

/-- Two limits that are enough by themselves come to what the larger one comes to. -/
theorem ComesTo.unique (h : t.ComesTo caching m answer s) (h' : t.ComesTo caching m answer' s') :
    answer = answer' ∧ s = s' := by
  obtain ⟨hanswer, depth, rfl, rfl⟩ := h
  obtain ⟨hanswer', depth', rfl, rfl⟩ := h'
  have hmore := run_below_of_le caching (Nat.le_max_left depth depth') t m hanswer
  have hmore' := run_below_of_le caching (Nat.le_max_right depth depth') t m hanswer'
  rw [← hmore, ← hmore']
  exact ⟨rfl, rfl⟩

/-- Whether bindings are kept or not, a task comes to the same. -/
theorem comesTo_kept_iff (htracks : m.Tracks n) (hmatches : Matches m t u) :
    t.ComesTo .kept m answer s ↔ u.ComesTo .fresh n answer s := by
  refine and_congr_right fun _ => exists_congr fun depth => ?_
  have hagree := run_agree depth htracks hmatches
  rw [hagree.same, hagree.tracks.store_eq]

/-- Where nothing is kept, the first task does on the first machine what the second does on the
second, but for some steps at the beginning. -/
def Alike (m : Machine) (t : Task) (n : Machine) (u : Task) : Prop :=
  ∃ i j, ∀ depth,
    (run .fresh (depth + i) t).run.run m = (run .fresh (depth + j) u).run.run n

/-- Either task can come first. -/
theorem Alike.symm (h : Alike m t n u) : Alike n u m t := by
  obtain ⟨i, j, h⟩ := h
  exact ⟨j, i, fun depth => (h depth).symm⟩

/-- The steps at the beginning add up. -/
theorem Alike.trans {o : Machine} (h : Alike m t n u) (h' : Alike n u o v) : Alike m t o v := by
  obtain ⟨i, j, h⟩ := h
  obtain ⟨k, l, h'⟩ := h'
  refine ⟨k + i, j + l, fun depth => ?_⟩
  calc (run .fresh (depth + (k + i)) t).run.run m
      = (run .fresh (depth + k + i) t).run.run m := by rw [Nat.add_assoc]
    _ = (run .fresh (depth + k + j) u).run.run n := h (depth + k)
    _ = (run .fresh (depth + j + k) u).run.run n := by rw [Nat.add_right_comm]
    _ = (run .fresh (depth + j + l) v).run.run o := h' (depth + j)
    _ = (run .fresh (depth + (j + l)) v).run.run o := by rw [Nat.add_assoc]

/-- A call with arguments that the operation takes runs the plan that it is resolved to. -/
theorem alike_invoke (binder : Binder) {args : List Value} (h : binder.operation.Accepts args)
    (m : Machine) :
    Alike m (.invoke binder none args) m (.execute (binder.resolve args).plan args) :=
  ⟨1, 0, fun depth => by rw [run_invoke_none h, Nat.add_zero]⟩

/-- Steps at the beginning make no difference to what a task comes to. -/
theorem ComesTo.of_alike (halike : Alike m t n u) (h : t.ComesTo .fresh m answer s) :
    u.ComesTo .fresh n answer s := by
  obtain ⟨i, j, halike⟩ := halike
  obtain ⟨hanswer, depth, rfl, rfl⟩ := h
  have hmore := run_below_of_le .fresh (Nat.le_add_right depth i) t m hanswer
  rw [halike] at hmore
  exact ⟨hanswer, depth + j, by rw [hmore], by rw [hmore]⟩

/-- The first task on the first machine comes to an end as the second does on the second: with the
same answer, be it a value or an error, and the same store. -/
def SameOutcome (m : Machine) (t : Task) (n : Machine) (u : Task) : Prop :=
  ∀ answer s, t.ComesTo .kept m answer s ↔ u.ComesTo .kept n answer s

/-- **Tasks that are alike come to the same**, wherever bindings are kept. -/
theorem Alike.sameOutcome {m' n' : Machine} {t' u' : Task} (halike : Alike m' t' n' u')
    (hm : m.Tracks m') (ht : Matches m t t') (hn : n.Tracks n') (hu : Matches n u u') :
    SameOutcome m t n u := by
  intro answer s
  rw [comesTo_kept_iff hm ht, comesTo_kept_iff hn hu]
  exact ⟨.of_alike halike, .of_alike halike.symm⟩

end Task

/-! ## What users see -/

namespace Client

variable {client : Client} {m n : Machine} {shown : List (Answer × Store)}

/-- Every request of the user comes to an end, and this is what is shown: the answers, with the
store after each. -/
def Sees (caching : Caching) (m : Machine) (client : Client) (shown : List (Answer × Store)) :
    Prop :=
  (∀ entry ∈ shown, entry.1 ≠ .error .diverged) ∧
    ∃ depth, (client.run caching depth m).1 = shown

/-- Whether bindings are kept or not, a user sees the same. -/
theorem sees_kept_iff (h : client.RecordFree) (htracks : m.Tracks n) :
    client.Sees .kept m shown ↔ client.Sees .fresh n shown := by
  refine and_congr_right fun _ => exists_congr fun depth => ?_
  have hagree := run_agree (fun _ capacity => capacity) depth h htracks
  rw [resize_self] at hagree
  rw [hagree.1]

end Client

end DynamicBinding
