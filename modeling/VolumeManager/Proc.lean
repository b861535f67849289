import Mathlib.Data.List.Basic

/-!
# Requests as resumptions over a shared state

The control plane serves every request in its own goroutine. What a request does to shared state is
a sequence of atomic steps (one etcd `Get`, `Put` or `Txn`; one `MemoryStore` call under its mutex;
one host file-system call), with local computation in between. `Proc σ α` is such a request: either
finished with a result, or about to take one atomic step, which reads the shared state `s`, replaces
it by `upd s` and continues with `next s`.

* `Proc.run` runs a request to completion with nothing interleaved (the sequential semantics);
  `Proc.bind` makes `Proc σ` a monad, so handlers are written in `do` notation as the Go code is;
  `Proc.onFst` and `Proc.onSnd` run a request on one half of a product state (the metadata store
  beside the host file system). `Proc.KeepsSnd`: a request that leaves the second half alone, kept
  by `bind` and true of every request on the first half.
* `Config` is a list of requests in flight over one shared state. `Config.stepAt c i` lets request `i`
  take its next atomic step and `Config.exec c sched` follows a schedule, so every interleaving of
  the requests' atomic steps is `exec` of some schedule.
* `Config.exec_induction`: a property of configurations kept by every single step holds after every
  schedule. Invariants over all interleavings are proved through it, from one step lemma per
  program point of the request.
* `Points` names a request's continuations by program points, with `move` its next step at each.
  `Points.exec_toConfig`: the requests follow their points, so an invariant proved on the
  first-order machine of points holds of the requests. `Points.Admits` restricts the schedules to
  those whose every step meets a condition, and `Points.exec_induction_admits` is the induction over
  them.
-/

namespace VolumeManager

/-- A request in flight: finished with a result, or about to take one atomic step that reads the
shared state `s`, replaces it by `upd s` and continues with `next s`. -/
inductive Proc (σ α : Type) where
  | done : α → Proc σ α
  | step : (upd : σ → σ) → (next : σ → Proc σ α) → Proc σ α

namespace Proc

variable {σ τ α β γ : Type}

/-- Run `p`, then the request its result selects. -/
def bind : Proc σ α → (α → Proc σ β) → Proc σ β
  | done a, k => k a
  | step u n, k => step u fun s => (n s).bind k

/-- Requests form a monad: a value is a finished request, and bind runs one request after another. -/
instance : Monad (Proc σ) where
  pure := done
  bind := bind

/-- One atomic step that computes a result and the next state from the current one. -/
def atomic (f : σ → α × σ) : Proc σ α :=
  step (fun s => (f s).2) fun s => done (f s).1

/-- Run a request to completion with no other request interleaved. -/
def run : Proc σ α → σ → α × σ
  | done a, s => (a, s)
  | step u n, s => (n s).run (u s)

/-- The result of a finished request. -/
def result? : Proc σ α → Option α
  | done a => some a
  | step _ _ => none

/-- Run a request on the first half of a product state. -/
def onFst : Proc σ α → Proc (σ × τ) α
  | done a => done a
  | step u n => step (fun w => (u w.1, w.2)) fun w => (n w.1).onFst

/-- Run a request on the second half of a product state. -/
def onSnd : Proc τ α → Proc (σ × τ) α
  | done a => done a
  | step u n => step (fun w => (w.1, u w.2)) fun w => (n w.2).onSnd

/-- Equation lemma: the monad's pure is a finished request. -/
@[simp] theorem pure_eq (a : α) : (pure a : Proc σ α) = done a := rfl

/-- Equation lemma: the monad's bind is Proc.bind. -/
@[simp] theorem bind_eq (p : Proc σ α) (k : α → Proc σ β) : p >>= k = p.bind k := rfl

/-- Equation lemma: binding a finished request runs the continuation on its result. -/
@[simp] theorem done_bind (a : α) (k : α → Proc σ β) : (done a).bind k = k a := rfl

/-- Equation lemma: binding after a step takes that step first. -/
@[simp] theorem step_bind (u : σ → σ) (n : σ → Proc σ α) (k : α → Proc σ β) :
    (step u n).bind k = step u fun s => (n s).bind k := rfl

/-- Binding is associative. -/
theorem bind_assoc (p : Proc σ α) (k : α → Proc σ β) (l : β → Proc σ γ) :
    (p.bind k).bind l = p.bind fun a => (k a).bind l := by
  induction p with
  | done a => rfl
  | step u n ih => exact congrArg (step u) (funext ih)

/-- Equation lemma: a finished request returns its result and leaves the state. -/
@[simp] theorem run_done (a : α) (s : σ) : (done a).run s = (a, s) := rfl

/-- Equation lemma: a step updates the state and runs what it selects from the old state. -/
@[simp] theorem run_step (u : σ → σ) (n : σ → Proc σ α) (s : σ) :
    (step u n).run s = (n s).run (u s) := rfl

/-- An atomic step runs as its function. -/
@[simp] theorem run_atomic (f : σ → α × σ) (s : σ) : (atomic f).run s = f s := rfl

/-- Running a bind runs the first request, then the continuation from the state it leaves. -/
theorem run_bind (p : Proc σ α) (k : α → Proc σ β) (s : σ) :
    (p.bind k).run s = (k (p.run s).1).run (p.run s).2 := by
  induction p generalizing s with
  | done a => rfl
  | step u n ih => exact ih s (u s)

/-- Running on the first half runs on that half and keeps the second. -/
@[simp] theorem run_onFst (p : Proc σ α) (w : σ × τ) :
    p.onFst.run w = ((p.run w.1).1, ((p.run w.1).2, w.2)) := by
  induction p generalizing w with
  | done a => rfl
  | step u n ih => exact ih w.1 (u w.1, w.2)

/-- Running on the second half runs on that half and keeps the first. -/
@[simp] theorem run_onSnd (p : Proc τ α) (w : σ × τ) :
    p.onSnd.run w = ((p.run w.2).1, (w.1, (p.run w.2).2)) := by
  induction p generalizing w with
  | done a => rfl
  | step u n ih => exact ih w.2 (w.1, u w.2)

/-- Equation lemma: a finished request on the first half. -/
@[simp] theorem onFst_done (a : α) : (done a : Proc σ α).onFst (τ := τ) = done a := rfl

/-- Equation lemma: a finished request on the second half. -/
@[simp] theorem onSnd_done (a : α) : (done a : Proc τ α).onSnd (σ := σ) = done a := rfl

/-- Equation lemma: a step on the first half updates only that half. -/
@[simp] theorem onFst_step (u : σ → σ) (n : σ → Proc σ α) :
    (step u n).onFst (τ := τ) = step (fun w => (u w.1, w.2)) fun w => (n w.1).onFst := rfl

/-- Equation lemma: a step on the second half updates only that half. -/
@[simp] theorem onSnd_step (u : τ → τ) (n : τ → Proc τ α) :
    (step u n).onSnd (σ := σ) = step (fun w => (w.1, u w.2)) fun w => (n w.2).onSnd := rfl

/-- An atomic step on the first half is an atomic step of the product. -/
theorem onFst_atomic (f : σ → α × σ) :
    (atomic f).onFst (τ := τ) = atomic fun w => ((f w.1).1, ((f w.1).2, w.2)) := rfl

/-- Moving to the first half commutes with bind. -/
theorem onFst_bind (p : Proc σ α) (k : α → Proc σ β) :
    (p.bind k).onFst (τ := τ) = p.onFst.bind fun a => (k a).onFst := by
  induction p with
  | done a => rfl
  | step u n ih => exact congrArg (step _) (funext fun w => ih w.1)

/-- Equation lemma: a finished request has its result. -/
@[simp] theorem result?_done (a : α) : (done a : Proc σ α).result? = some a := rfl

/-- Equation lemma: a request about to step has no result yet. -/
@[simp] theorem result?_step (u : σ → σ) (n : σ → Proc σ α) : (step u n).result? = none := rfl

/-- A request on a product state that never changes its second half. -/
def KeepsSnd (p : Proc (σ × τ) α) : Prop := ∀ w, (p.run w).2.2 = w.2

/-- A finished request keeps the second half. -/
theorem keepsSnd_done (a : α) : KeepsSnd (done a : Proc (σ × τ) α) := fun _ => rfl

/-- A request on the first half keeps the second half. -/
theorem keepsSnd_onFst (p : Proc σ α) : KeepsSnd (p.onFst (τ := τ)) := fun w => by
  rw [run_onFst]

/-- A request on the second half that leaves it as it was. -/
theorem keepsSnd_onSnd {p : Proc τ α} (hp : ∀ s, (p.run s).2 = s) : KeepsSnd (p.onSnd (σ := σ)) :=
  fun w => by rw [run_onSnd, hp]

/-- A bind of requests that each keep the second half keeps it. -/
theorem KeepsSnd.bind {p : Proc (σ × τ) α} {k : α → Proc (σ × τ) β} (hp : KeepsSnd p)
    (hk : ∀ a, KeepsSnd (k a)) : KeepsSnd (p.bind k) := fun w => by
  rw [run_bind, hk, hp]

/-! ## Rely and guarantee

A request that runs beside others sees the shared state change between its own steps.
`Guards R G Q P p`: started where `P` holds, every step `p` takes is in `G`; the assertion it holds
at each point is kept by every step in `R`, which is what the other requests may do; and it finishes
with a result `a` where `Q a` holds. The rules follow the monad (`Guards.bind`, `Guards.atomic`,
`Guards.onSnd`), so a handler's guarantee is read off its `do` block. -/

section Guards

variable (R G : σ → σ → Prop)

/-- An assertion that every step in `R` keeps. -/
def Stable (P : σ → Prop) : Prop := ∀ s s', P s → R s s' → P s'

/-- Started where `P` holds, `p` takes only steps in `G`, holds an assertion that `R` keeps at each
point, and finishes with `a` where `Q a` holds. -/
inductive Guards (Q : α → σ → Prop) : (σ → Prop) → Proc σ α → Prop
  | done {P : σ → Prop} {a : α} : Stable R P → (∀ s, P s → Q a s) → Guards Q P (.done a)
  | step {P : σ → Prop} {u : σ → σ} {n : σ → Proc σ α} (M : σ → σ → Prop) : Stable R P →
      (∀ s, P s → G s (u s) ∧ M s (u s)) → (∀ s, P s → Guards Q (M s) (n s)) → Guards Q P (.step u n)

variable {R G}

/-- A request's assertion is kept by the other requests' steps. -/
theorem Guards.stable {Q : α → σ → Prop} {P : σ → Prop} {p : Proc σ α} (h : Guards R G Q P p) :
    Stable R P := by
  cases h <;> assumption

/-- A stronger assertion that `R` keeps will do as the start. -/
theorem Guards.pre {Q : α → σ → Prop} {P P' : σ → Prop} {p : Proc σ α} (h : Guards R G Q P' p)
    (hP : Stable R P) (hPP : ∀ s, P s → P' s) : Guards R G Q P p := by
  cases h with
  | done _ hQ => exact .done hP fun s hs => hQ s (hPP s hs)
  | step M _ hstep hn => exact .step M hP (fun s hs => hstep s (hPP s hs)) fun s hs => hn s (hPP s hs)

/-- Guarded requests compose: the first's postcondition at each result is the start of the second. -/
theorem Guards.bind {Q : α → σ → Prop} {S : β → σ → Prop} {P : σ → Prop} {p : Proc σ α}
    {k : α → Proc σ β} (hp : Guards R G Q P p) (hk : ∀ a, Guards R G S (Q a) (k a)) :
    Guards R G S P (p.bind k) := by
  induction hp with
  | done hP hQ => exact (hk _).pre hP hQ
  | step M hP hstep _ ih => exact .step M hP hstep ih

/-- One atomic step in `G`, after which `Q` holds of its result and `R` keeps it. -/
theorem Guards.atomic {Q : α → σ → Prop} {P : σ → Prop} {f : σ → α × σ} (hP : Stable R P)
    (hQ : ∀ a, Stable R (Q a)) (h : ∀ s, P s → G s (f s).2 ∧ Q (f s).1 (f s).2) :
    Guards R G Q P (atomic f) :=
  .step (fun s => Q (f s).1) hP h fun _ _ => .done (hQ _) fun _ => id

/-- A request on the second half of a product state keeps an assertion about the first half, when
`G` allows any change of the second half. -/
theorem Guards.onSnd {R G : σ × τ → σ × τ → Prop} {P : σ × τ → Prop} (hP : Stable R P)
    (hsnd : ∀ w x, P w → P (w.1, x)) (hG : ∀ w x, G w (w.1, x)) (p : Proc τ α) :
    Guards R G (fun _ => P) P p.onSnd := by
  induction p with
  | done a => exact .done hP fun _ => id
  | step u n ih => exact .step (fun _ => P) hP (fun w hw => ⟨hG w _, hsnd w _ hw⟩) fun w _ => ih w.2

end Guards

end Proc

/-- Requests in flight over one shared state. -/
structure Config (σ α : Type) where
  shared : σ
  reqs : List (Proc σ α)

namespace Config

variable {σ α : Type}

/-- Request `i` takes its next atomic step. A finished request, or an index past the end, leaves the
configuration as it is. -/
def stepAt (c : Config σ α) (i : Nat) : Config σ α :=
  match c.reqs[i]? with
  | some (.step u n) => ⟨u c.shared, c.reqs.set i (n c.shared)⟩
  | _ => c

/-- Follow a schedule: the requests take their atomic steps in the order it lists their indices. -/
def exec (c : Config σ α) (sched : List Nat) : Config σ α := sched.foldl stepAt c

/-- Every request has finished. -/
def Finished (c : Config σ α) : Prop := ∀ p ∈ c.reqs, p.result?.isSome

/-- Equation lemma: the empty schedule changes nothing. -/
@[simp] theorem exec_nil (c : Config σ α) : c.exec [] = c := rfl

/-- Equation lemma: a schedule steps the request it names first, then follows the rest. -/
@[simp] theorem exec_cons (c : Config σ α) (i : Nat) (sched : List Nat) :
    c.exec (i :: sched) = (c.stepAt i).exec sched := rfl

/-- A property kept by every single step holds after every schedule. -/
theorem exec_induction {P : Config σ α → Prop} (hstep : ∀ c i, P c → P (c.stepAt i)) :
    ∀ (sched : List Nat) (c : Config σ α), P c → P (c.exec sched)
  | [], _, h => h
  | i :: sched, c, h => exec_induction hstep sched _ (hstep c i h)

end Config

/-! ## Requests given by their program points

A request whose continuations are named by program points `ι`: `toProc` is the request at a point,
and `move` says what its next atomic step does there (`none` once it has finished). The
configuration of requests then follows the configuration of points (`Points.exec_toConfig`), a
first-order machine on which invariants are proved. -/

namespace Proc

/-- The next atomic step of a request, if it has one: the state it leaves and what remains. -/
def next? : Proc σ α → σ → Option (σ × Proc σ α)
  | done _, _ => none
  | step u n, s => some (u s, n s)

/-- Equation lemma: a finished request has no next step. -/
@[simp] theorem next?_done (a : α) (s : σ) : (done a : Proc σ α).next? s = none := rfl

/-- Equation lemma: a step's next state and remainder. -/
@[simp] theorem next?_step (u : σ → σ) (n : σ → Proc σ α) (s : σ) :
    (step u n).next? s = some (u s, n s) := rfl

end Proc

/-- Requests named by program points: at each point the request is `toProc`, and its next step is
`move`. -/
structure Points (σ α ι : Type) where
  toProc : ι → Proc σ α
  move : ι → σ → Option (σ × ι)
  next?_toProc : ∀ p s, (toProc p).next? s = (move p s).map fun r => (r.1, toProc r.2)

namespace Points

variable {σ α ι : Type} (P : Points σ α ι)

/-- Point `i` takes its step. -/
def stepAt (c : σ × List ι) (i : Nat) : σ × List ι :=
  match c.2[i]? with
  | some p =>
    match P.move p c.1 with
    | some (s, q) => (s, c.2.set i q)
    | none => c
  | none => c

/-- Follow a schedule. -/
def exec (c : σ × List ι) (sched : List Nat) : σ × List ι := sched.foldl P.stepAt c

/-- The configuration of requests at the given points. -/
def toConfig (c : σ × List ι) : Config σ α := ⟨c.1, c.2.map P.toProc⟩

/-- Equation lemma: the empty schedule changes nothing. -/
@[simp] theorem exec_nil (c : σ × List ι) : P.exec c [] = c := rfl

/-- Equation lemma: a schedule steps the point it names first, then follows the rest. -/
@[simp] theorem exec_cons (c : σ × List ι) (i : Nat) (sched : List Nat) :
    P.exec c (i :: sched) = P.exec (P.stepAt c i) sched := rfl

/-- One step of the points is one step of the requests they stand for. -/
theorem stepAt_toConfig (c : σ × List ι) (i : Nat) :
    (P.toConfig c).stepAt i = P.toConfig (P.stepAt c i) := by
  unfold stepAt
  cases hp : c.2[i]? with
  | none => simp [Config.stepAt, toConfig, hp]
  | some p =>
    have hn := P.next?_toProc p c.1
    simp only
    cases hm : P.move p c.1 with
    | none =>
      cases hq : P.toProc p with
      | done a => simp [Config.stepAt, toConfig, hp, hq]
      | step u n => simp [hq, hm] at hn
    | some r =>
      cases hq : P.toProc p with
      | done a => simp [hq, hm] at hn
      | step u n =>
        simp only [hq, hm, Proc.next?_step, Option.map_some', Option.some.injEq, Prod.mk.injEq] at hn
        simp [Config.stepAt, toConfig, hp, hq, hn, List.map_set]

/-- The requests follow their points: running the requests is running the points. -/
theorem exec_toConfig (c : σ × List ι) (sched : List Nat) :
    (P.toConfig c).exec sched = P.toConfig (P.exec c sched) := by
  induction sched generalizing c with
  | nil => rfl
  | cons i sched ih => rw [Config.exec_cons, stepAt_toConfig, ih, exec_cons]

/-- A property kept by every step of the points holds after every schedule. -/
theorem exec_induction {Q : σ × List ι → Prop} (hstep : ∀ c i, Q c → Q (P.stepAt c i)) :
    ∀ (sched : List Nat) (c : σ × List ι), Q c → Q (P.exec c sched)
  | [], _, h => h
  | i :: sched, c, h => exec_induction hstep sched _ (hstep c i h)

/-- The schedule takes each of its steps where `ok` allows it. -/
def Admits (ok : σ × List ι → Nat → Prop) : σ × List ι → List Nat → Prop
  | _, [] => True
  | c, i :: sched => ok c i ∧ Admits ok (P.stepAt c i) sched

/-- A property kept by every step that `ok` allows holds after every schedule it admits. -/
theorem exec_induction_admits {ok : σ × List ι → Nat → Prop} {Q : σ × List ι → Prop}
    (hstep : ∀ c i, ok c i → Q c → Q (P.stepAt c i)) :
    ∀ (sched : List Nat) (c : σ × List ι), P.Admits ok c sched → Q c → Q (P.exec c sched)
  | [], _, _, h => h
  | i :: sched, c, ⟨hi, hrest⟩, h => exec_induction_admits hstep sched _ hrest (hstep c i hi h)

/-- An entry of a list after `set`: the new one at `i`, or an old one elsewhere. -/
theorem getElem?_set_cases {l : List ι} {i j : Nat} {q p : ι} (h : (l.set i q)[j]? = some p) :
    (j = i ∧ p = q) ∨ (j ≠ i ∧ l[j]? = some p) := by
  by_cases hji : j = i
  · subst hji
    rw [List.getElem?_set] at h
    split_ifs at h <;> simp_all
  · rw [List.getElem?_set_ne (Ne.symm hji)] at h
    exact .inr ⟨hji, h⟩

/-- What one step of the points does: either nothing, or point `i` moves as `move` says. -/
theorem stepAt_cases (c : σ × List ι) (i : Nat) :
    P.stepAt c i = c ∨ ∃ p s q, c.2[i]? = some p ∧ P.move p c.1 = some (s, q) ∧
      P.stepAt c i = (s, c.2.set i q) := by
  unfold stepAt
  split
  · next p hp =>
    split
    · next s q hm => exact .inr ⟨p, s, q, hp, hm, rfl⟩
    · exact .inl rfl
  · exact .inl rfl

/-- A step keeps the number of points. -/
@[simp] theorem length_stepAt (c : σ × List ι) (i : Nat) : (P.stepAt c i).2.length = c.2.length := by
  rcases P.stepAt_cases c i with h | ⟨p, s, q, -, -, h⟩ <;> simp [h]

/-- A schedule keeps the number of points. -/
@[simp] theorem length_exec (c : σ × List ι) (sched : List Nat) :
    (P.exec c sched).2.length = c.2.length :=
  P.exec_induction (Q := fun c' => c'.2.length = c.2.length) (fun _ _ h => (P.length_stepAt _ _).trans h)
    sched c rfl

/-! ## Points beside other requests

`withProcs` runs the points beside requests given as they are. `Guarded`: each of those requests
keeps to `G`, holding an assertion that steps in `R` keep; every step of the points that is in `R`,
and every step of the requests, keeps that (`Guarded.stepAt_inl`, `Guarded.stepAt_inr`). -/

/-- The points `ι` beside requests in flight, each either. -/
def withProcs : Points σ α (ι ⊕ Proc σ α) where
  toProc := Sum.elim P.toProc id
  move
    | .inl p, s => (P.move p s).map fun r => (r.1, .inl r.2)
    | .inr q, s => (q.next? s).map fun r => (r.1, .inr r.2)
  next?_toProc := by
    rintro (p | (_ | _)) s
    · simp [P.next?_toProc, Option.map_map, Function.comp_def]
    · rfl
    · rfl

/-- What a step of the points beside requests does: nothing, or a point moves as `move` says, or a
request takes its next step. -/
theorem withProcs_stepAt_cases (c : σ × List (ι ⊕ Proc σ α)) (i : Nat) :
    P.withProcs.stepAt c i = c ∨
    (∃ p s q, c.2[i]? = some (.inl p) ∧ P.move p c.1 = some (s, q) ∧
      P.withProcs.stepAt c i = (s, c.2.set i (.inl q))) ∨
    (∃ u n, c.2[i]? = some (.inr (.step u n)) ∧
      P.withProcs.stepAt c i = (u c.1, c.2.set i (.inr (n c.1)))) := by
  rcases P.withProcs.stepAt_cases c i with h | ⟨p, s, q, hp, hm, h⟩
  · exact .inl h
  rcases p with p | (_ | ⟨u, n⟩)
  · obtain ⟨⟨s', q'⟩, hm', he⟩ := Option.map_eq_some'.1 hm
    cases he
    exact .inr (.inl ⟨p, s', q', hp, hm', h⟩)
  · cases hm
  · obtain ⟨⟨⟩⟩ := hm
    exact .inr (.inr ⟨u, n, hp, h⟩)

variable {P}

/-- Every request beside the points keeps to `G` and holds an assertion that `R` keeps. -/
def Guarded (R G : σ → σ → Prop) (c : σ × List (ι ⊕ Proc σ α)) : Prop :=
  ∀ (j : Nat) (q : Proc σ α), c.2[j]? = some (.inr q) →
    ∃ (Q : α → σ → Prop) (P : σ → Prop), Proc.Guards R G Q P q ∧ P c.1

/-- A step of a point in `R` keeps the requests' assertions. -/
theorem Guarded.stepAt_inl {R G : σ → σ → Prop} {c : σ × List (ι ⊕ Proc σ α)} (h : Guarded R G c)
    {i : Nat} {s : σ} {q : ι} (hR : R c.1 s) : Guarded R G (s, c.2.set i (.inl q)) := by
  intro j r hj
  rcases Points.getElem?_set_cases hj with ⟨-, he⟩ | ⟨-, hj⟩
  · cases he
  · obtain ⟨Q, P, hg, hP⟩ := h j r hj
    exact ⟨Q, P, hg, hg.stable _ _ hP hR⟩

/-- A step of a request keeps to `G`, which `R` contains: the others' assertions still hold, and the
request holds its next one. -/
theorem Guarded.stepAt_inr {R G : σ → σ → Prop} (hGR : ∀ s s', G s s' → R s s')
    {c : σ × List (ι ⊕ Proc σ α)} (h : Guarded R G c) {i : Nat} {u : σ → σ} {n : σ → Proc σ α}
    (hi : c.2[i]? = some (.inr (.step u n))) :
    G c.1 (u c.1) ∧ Guarded R G (u c.1, c.2.set i (.inr (n c.1))) := by
  obtain ⟨Q, P, hg, hP⟩ := h i _ hi
  cases hg with
  | step M _ hstep hn =>
    refine ⟨(hstep _ hP).1, ?_⟩
    intro j r hj
    rcases Points.getElem?_set_cases hj with ⟨rfl, he⟩ | ⟨-, hj⟩
    · cases he
      exact ⟨Q, M c.1, hn _ hP, (hstep _ hP).2⟩
    · obtain ⟨Q', P', hg', hP'⟩ := h j r hj
      exact ⟨Q', P', hg', hg'.stable _ _ hP' (hGR _ _ (hstep _ hP).1)⟩

end Points

end VolumeManager
