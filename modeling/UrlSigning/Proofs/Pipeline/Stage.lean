import UrlSigning.Pipeline.Interceptor

/-!
# Running stages

A stage is run by `Stage.exec`, which gives what came of it together with the pass that it leaves,
also when it fails. The first section says what `exec` does to each way of building a stage; nothing
after it opens the monad again.

`Stage.Sim R m n` says that `m` and `n`, begun in passes that are related by `R`, come to the same
and leave passes that are related by `R`. It is kept by everything that stages are built with, so it
carries both an invariant of one run (`Stage.Keeps`) and the comparison of two runs.
-/

namespace UrlSigning.Pipeline

namespace Stage

variable {α β : Type}

/-- What comes of a stage that is begun in a pass, and the pass that it leaves. -/
def exec (m : Stage α) (p : Pass) : Except Failure α × Pass := m.run.run p

/-- Goes on after what came of a stage, if that ended well. -/
def andThen (r : Except Failure α × Pass) (k : α → Pass → Except Failure β × Pass) :
    Except Failure β × Pass :=
  match r with
  | (.ok a, q) => k a q
  | (.error e, q) => (.error e, q)

/-! ## Execution -/

@[simp] theorem andThen_ok (a : α) (q : Pass) (k : α → Pass → Except Failure β × Pass) :
    andThen (.ok a, q) k = k a q := rfl

@[simp] theorem andThen_error (e : Failure) (q : Pass) (k : α → Pass → Except Failure β × Pass) :
    andThen (.error e, q) k = (.error e, q) := rfl

@[simp] theorem exec_pure (a : α) (p : Pass) : (pure a : Stage α).exec p = (.ok a, p) := rfl

@[simp] theorem exec_throw (e : Failure) (p : Pass) :
    (throw e : Stage α).exec p = (.error e, p) := rfl

@[simp] theorem exec_get (p : Pass) : (get : Stage Pass).exec p = (.ok p, p) := rfl

@[simp] theorem exec_set (q p : Pass) : (set q : Stage Unit).exec p = (.ok (), q) := rfl

@[simp] theorem exec_modify (f : Pass → Pass) (p : Pass) :
    (modify f : Stage Unit).exec p = (.ok (), f p) := rfl

theorem exec_bind (m : Stage α) (f : α → Stage β) (p : Pass) :
    (m >>= f).exec p = andThen (m.exec p) fun a q => (f a).exec q := by
  show (match m.run.run p with | (r, q) => (ExceptT.bindCont f r).run q) = andThen (m.run.run p) _
  rcases m.run.run p with ⟨_ | _, _⟩ <;> rfl

@[simp] theorem exec_get_bind (f : Pass → Stage β) (p : Pass) :
    ((get : Stage Pass) >>= f).exec p = (f p).exec p :=
  exec_bind get f p

@[simp] theorem exec_forM_nil {ι : Type} (f : ι → Stage Unit) (p : Pass) :
    (([] : List ι).forM f).exec p = (.ok (), p) := rfl

theorem exec_forM_cons {ι : Type} (f : ι → Stage Unit) (x : ι) (xs : List ι) (p : Pass) :
    ((x :: xs).forM f).exec p = andThen ((f x).exec p) fun _ q => (xs.forM f).exec q :=
  exec_bind (f x) (fun _ => xs.forM f) p

/-- A list of stages in two parts: the second part is begun where the first one ended well. -/
theorem exec_forM_append {ι : Type} (f : ι → Stage Unit) (xs ys : List ι) (p : Pass) :
    ((xs ++ ys).forM f).exec p = andThen ((xs.forM f).exec p) fun _ q => (ys.forM f).exec q := by
  induction xs generalizing p with
  | nil => rfl
  | cons x xs ih =>
      rw [List.cons_append, exec_forM_cons, exec_forM_cons]
      rcases (f x).exec p with ⟨_ | _, q⟩
      · rfl
      · exact ih q

theorem exec_forM_append_ok {ι : Type} {f : ι → Stage Unit} {xs ys : List ι} {p q : Pass}
    (h : ((xs ++ ys).forM f).exec p = (.ok (), q)) :
    ∃ r, (xs.forM f).exec p = (.ok (), r) ∧ (ys.forM f).exec r = (.ok (), q) := by
  rw [exec_forM_append] at h
  rcases hx : (xs.forM f).exec p with ⟨e | _, r⟩ <;> rw [hx] at h
  · cases h
  · exact ⟨r, rfl, h⟩

/-- A list of stages fails with the failure of the first stage that fails, which is begun where the
stages before it ended well. -/
theorem exec_forM_error_iff {ι : Type} {f : ι → Stage Unit} {xs : List ι} {p q : Pass}
    {e : Failure} :
    (xs.forM f).exec p = (.error e, q) ↔
      ∃ done x rest r, xs = done ++ x :: rest ∧ (done.forM f).exec p = (.ok (), r) ∧
        (f x).exec r = (.error e, q) := by
  constructor
  · intro h
    induction xs generalizing p with
    | nil => cases h
    | cons x xs ih =>
        -- the first stage fails, or it ended well and a later one fails
        rw [exec_forM_cons] at h
        rcases hx : (f x).exec p with ⟨e' | _, r⟩ <;> rw [hx] at h
        · cases h
          exact ⟨[], x, xs, p, rfl, rfl, hx⟩
        · obtain ⟨done, y, rest, s, rfl, hdone, hy⟩ := ih h
          refine ⟨x :: done, y, rest, s, rfl, ?_, hy⟩
          rw [exec_forM_cons, hx]
          exact hdone
  · rintro ⟨done, x, rest, r, rfl, hdone, hx⟩
    rw [exec_forM_append, hdone]
    rw [andThen_ok, exec_forM_cons, hx, andThen_error]

/-! ## Stages that agree -/

/-- Begun in related passes, the two stages come to the same and leave related passes. -/
def Sim (R : Pass → Pass → Prop) (m n : Stage α) : Prop :=
  ∀ p q, R p q → (m.exec p).1 = (n.exec q).1 ∧ R (m.exec p).2 (n.exec q).2

variable {R : Pass → Pass → Prop}

theorem sim_pure (a : α) : Sim R (pure a : Stage α) (pure a) :=
  fun _ _ h => ⟨rfl, h⟩

theorem sim_modify {f g : Pass → Pass} (h : ∀ p q, R p q → R (f p) (g q)) :
    Sim R (modify f) (modify g) :=
  fun p q hpq => ⟨rfl, h p q hpq⟩

theorem sim_bind {m n : Stage α} {f g : α → Stage β} (hm : Sim R m n)
    (hf : ∀ a, Sim R (f a) (g a)) : Sim R (m >>= f) (n >>= g) := by
  intro p q h
  obtain ⟨hr, hpq⟩ := hm p q h
  rw [exec_bind, exec_bind]
  rcases hp : m.exec p with ⟨e | a, p'⟩ <;> rcases hq : n.exec q with ⟨e' | a', q'⟩ <;>
    rw [hp, hq] at hr hpq <;> cases hr
  · exact ⟨rfl, hpq⟩
  · exact hf a p' q' hpq

theorem sim_forM {ι : Type} {f g : ι → Stage Unit} {xs : List ι}
    (h : ∀ x ∈ xs, Sim R (f x) (g x)) : Sim R (xs.forM f) (xs.forM g) := by
  induction xs with
  | nil => exact sim_pure ()
  | cons x xs ih =>
      exact sim_bind (h x List.mem_cons_self) fun _ =>
        ih fun y hy => h y (List.mem_cons_of_mem x hy)

/-- The invariant holds of the pass that the stage leaves when it held before, also when the stage
fails. -/
def Keeps (I : Pass → Prop) (m : Stage α) : Prop :=
  Sim (fun p q => p = q ∧ I p) m m

theorem Keeps.of_exec {I : Pass → Prop} {m : Stage α} (h : Keeps I m) {p q : Pass}
    {r : Except Failure α} (hp : I p) (hm : m.exec p = (r, q)) : I q := by
  have hq := (h p p ⟨rfl, hp⟩).2.2
  rwa [hm] at hq

end Stage

end UrlSigning.Pipeline
