import Mathlib.Tactic.TypeStar
import Mathlib.Tactic.Basic

/-! # Programs over an effect signature

A program is a finite tree of *calls*: every node names an operation of a signature and
continues with the answer.  What an operation does is not part of the program; it is given
by a *handler* on a state.  The same program can thus be run from start to end
(`Prog.run`), or one call at a time among the calls of other programs (`Pool.lean`), or
under a handler that makes some of its calls fail. -/

namespace Effects

/-- An effect signature: the operations, and the type of the answer to each. -/
structure Sig where
  Op : Type
  Res : Op → Type

/-- Programs over `S` with a result in `α`. -/
inductive Prog (S : Sig) (α : Type) : Type where
  | pure (a : α)
  | call (op : S.Op) (k : S.Res op → Prog S α)

/-- The meaning of the operations on a state. -/
abbrev Handler (S : Sig) (σ : Type) : Type := (op : S.Op) → σ → S.Res op × σ

namespace Prog

variable {S : Sig} {α β γ σ : Type}

def bind : Prog S α → (α → Prog S β) → Prog S β
  | pure a, f => f a
  | call op k, f => call op fun r => (k r).bind f

instance : Monad (Prog S) where
  pure := Prog.pure
  bind := Prog.bind

/-- The program that calls one operation and returns its answer. -/
def perform (op : S.Op) : Prog S (S.Res op) := call op pure

@[simp] theorem pure_eq (a : α) : (Pure.pure a : Prog S α) = .pure a := rfl

@[simp] theorem pure_bind (a : α) (f : α → Prog S β) : (Prog.pure a >>= f) = f a := rfl

@[simp] theorem call_bind (op : S.Op) (k : S.Res op → Prog S α) (f : α → Prog S β) :
    (call op k >>= f) = call op fun r => k r >>= f := rfl

@[simp] theorem perform_bind (op : S.Op) (f : S.Res op → Prog S β) :
    (perform op >>= f) = call op f := rfl

theorem bind_pure (p : Prog S α) : (p >>= fun a => Prog.pure a) = p := by
  induction p with
  | pure a => rfl
  | call op k ih => rw [call_bind, funext ih]

theorem bind_assoc (p : Prog S α) (f : α → Prog S β) (g : β → Prog S γ) :
    (p >>= f >>= g) = p >>= fun a => f a >>= g := by
  induction p with
  | pure a => rfl
  | call op k ih => simp only [call_bind, ih]

instance : LawfulMonad (Prog S) :=
  LawfulMonad.mk' (Prog S) bind_pure (fun _ _ => rfl) bind_assoc

/-- The result of a program that makes no more calls. -/
def result? : Prog S α → Option α
  | pure a => some a
  | call _ _ => none

theorem result?_eq_some {p : Prog S α} {a : α} : p.result? = some a ↔ p = pure a := by
  cases p with
  | pure b => simp [result?]
  | call op k => simp [result?]

/-! ### Running a program alone -/

/-- Run `p` from start to end under the handler `h`. -/
def run (h : Handler S σ) : Prog S α → σ → α × σ
  | pure a, s => (a, s)
  | call op k, s => (k (h op s).1).run h (h op s).2

variable (h : Handler S σ)

@[simp] theorem run_pure (a : α) (s : σ) : (Prog.pure a : Prog S α).run h s = (a, s) := rfl

@[simp] theorem run_call (op : S.Op) (k : S.Res op → Prog S α) (s : σ) :
    (call op k).run h s = (k (h op s).1).run h (h op s).2 := rfl

@[simp] theorem run_perform (op : S.Op) (s : σ) : (perform op).run h s = h op s := rfl

@[simp] theorem run_bind (p : Prog S α) (f : α → Prog S β) (s : σ) :
    (p >>= f).run h s = (f (p.run h s).1).run h (p.run h s).2 := by
  induction p generalizing s with
  | pure a => rfl
  | call op k ih => rw [call_bind, run_call, run_call, ih]

@[simp] theorem run_map (f : α → β) (p : Prog S α) (s : σ) :
    (f <$> p).run h s = (f (p.run h s).1, (p.run h s).2) := run_bind h p _ s

/-! ### The calls that a program makes -/

/-- Every call that `p` can make satisfies `C`, whatever it is answered. -/
def Only (C : S.Op → Prop) : Prog S α → Prop
  | pure _ => True
  | call op k => C op ∧ ∀ r, (k r).Only C

theorem Only.perform {C : S.Op → Prop} {op : S.Op} (h : C op) : (Prog.perform op).Only C :=
  ⟨h, fun _ => trivial⟩

theorem Only.mono {C C' : S.Op → Prop} (h : ∀ op, C op → C' op) {p : Prog S α} (hp : p.Only C) :
    p.Only C' := by
  induction p with
  | pure a => trivial
  | call op k ih =>
      obtain ⟨hop, hk⟩ := hp
      exact ⟨h op hop, fun r => ih r (hk r)⟩

/-- The rule of a call that is followed by a program. -/
theorem Only.step {C : S.Op → Prop} {op : S.Op} {f : S.Res op → Prog S β} (h : C op)
    (hf : ∀ r, (f r).Only C) : (Prog.perform op >>= f).Only C := ⟨h, hf⟩

theorem Only.bind {C : S.Op → Prop} {p : Prog S α} {f : α → Prog S β} (hp : p.Only C)
    (hf : ∀ a, (f a).Only C) : (p >>= f).Only C := by
  induction p with
  | pure a => exact hf a
  | call op k ih =>
      obtain ⟨hop, hk⟩ := hp
      exact ⟨hop, fun r => ih r (hk r)⟩

theorem Only.map {C : S.Op → Prop} {p : Prog S α} (hp : p.Only C) (f : α → β) :
    (f <$> p).Only C := hp.bind fun _ => trivial

theorem only_true (p : Prog S α) : p.Only fun _ => True := by
  induction p with
  | pure a => trivial
  | call op k ih => exact ⟨trivial, ih⟩

/-- Every result that `p` can have satisfies `R`, whatever its calls are answered. -/
def Returns (R : α → Prop) : Prog S α → Prop
  | pure a => R a
  | call _ k => ∀ r, (k r).Returns R

theorem Returns.step {R : β → Prop} {op : S.Op} {f : S.Res op → Prog S β}
    (hf : ∀ r, (f r).Returns R) : (Prog.perform op >>= f).Returns R := hf

theorem Returns.bind {R : α → Prop} {R' : β → Prop} {p : Prog S α} {f : α → Prog S β}
    (hp : p.Returns R) (hf : ∀ a, R a → (f a).Returns R') : (p >>= f).Returns R' := by
  induction p with
  | pure a => exact hf a hp
  | call op k ih => exact fun r => ih r (hp r)

theorem returns_true (p : Prog S α) : p.Returns fun _ => True := by
  induction p with
  | pure a => trivial
  | call op k ih => exact ih

/-- What every call of the kind that `p` makes keeps, a whole run of `p` keeps. -/
theorem Only.run {C : S.Op → Prop} {h : Handler S σ} {I : σ → Prop}
    (hI : ∀ op s, C op → I s → I (h op s).2) {p : Prog S α} (hp : p.Only C) {s : σ} (hs : I s) :
    I (p.run h s).2 := by
  induction p generalizing s with
  | pure a => exact hs
  | call op k ih =>
      obtain ⟨hop, hk⟩ := hp
      rw [run_call]
      exact ih _ (hk _) (hI op s hop hs)

/-- Two runs of a program return the same and end in related states. -/
def Agree {τ : Type} (h : Handler S σ) (h' : Handler S τ) (R : σ → τ → Prop) (p : Prog S α) (s : σ)
    (t : τ) : Prop :=
  (p.run h s).1 = (p.run h' t).1 ∧ R (p.run h s).2 (p.run h' t).2

section agree

variable {τ : Type} {h : Handler S σ} {h' : Handler S τ} {R : σ → τ → Prop} {s : σ} {t : τ}

theorem Agree.pure (hst : R s t) (a : α) : (Prog.pure a : Prog S α).Agree h h' R s t := ⟨rfl, hst⟩

/-- A call that is answered alike, and what follows it. -/
theorem Agree.step {op : S.Op} {f : S.Res op → Prog S α} (hanswer : (h op s).1 = (h' op t).1)
    (hrest : (f (h op s).1).Agree h h' R (h op s).2 (h' op t).2) : (perform op >>= f).Agree h h' R s t := by
  show (Prog.run _ (f _) _).1 = (Prog.run _ (f _) _).1 ∧ R (Prog.run _ (f _) _).2 (Prog.run _ (f _) _).2
  rw [← hanswer]
  exact hrest

theorem Agree.bind {p : Prog S α} {f : α → Prog S β} (hp : p.Agree h h' R s t)
    (hf : ∀ a s' t', R s' t' → (f a).Agree h h' R s' t') : (p >>= f).Agree h h' R s t := by
  obtain ⟨hresult, hnext⟩ := hp
  have hrest := hf (p.run h s).1 _ _ hnext
  unfold Agree
  rw [run_bind, run_bind, ← hresult]
  exact hrest

theorem Agree.map {p : Prog S α} (hp : p.Agree h h' R s t) (f : α → β) : (f <$> p).Agree h h' R s t :=
  hp.bind fun a _ _ hst => .pure hst (f a)

/-- Two runs of a program from related states: as long as its calls are answered alike and keep the
relation, it returns the same and ends in related states. -/
theorem Only.related {C : S.Op → Prop}
    (hR : ∀ op s t, C op → R s t → (h op s).1 = (h' op t).1 ∧ R (h op s).2 (h' op t).2)
    {p : Prog S α} (hp : p.Only C) {s : σ} {t : τ} (hst : R s t) : p.Agree h h' R s t := by
  induction p generalizing s t with
  | pure a => exact .pure hst a
  | call op k ih =>
      obtain ⟨hop, hk⟩ := hp
      obtain ⟨hanswer, hnext⟩ := hR op s t hop hst
      unfold Agree
      rw [run_call, run_call, ← hanswer]
      exact ih _ (hk _) hnext

end agree

/-- A program runs alike under two handlers that agree on the calls it makes. -/
theorem Only.run_congr {C : S.Op → Prop} {h h' : Handler S σ} (hh : ∀ op s, C op → h op s = h' op s)
    {p : Prog S α} (hp : p.Only C) (s : σ) : p.run h s = p.run h' s := by
  induction p generalizing s with
  | pure a => rfl
  | call op k ih =>
      obtain ⟨hop, hk⟩ := hp
      rw [run_call, run_call, hh op s hop]
      exact ih _ (hk _) _

/-- Every call that the run of `p` from a state makes satisfies `C`. -/
def Calls (h : Handler S σ) (C : S.Op → Prop) : Prog S α → σ → Prop
  | pure _, _ => True
  | call op k, s => C op ∧ (k (h op s).1).Calls h C (h op s).2

instance decidableCalls (h : Handler S σ) (C : S.Op → Prop) [DecidablePred C] :
    (p : Prog S α) → (s : σ) → Decidable (p.Calls h C s)
  | pure _, _ => isTrue trivial
  | call op k, s =>
      have := decidableCalls h C (k (h op s).1) (h op s).2
      inferInstanceAs (Decidable (C op ∧ (k (h op s).1).Calls h C (h op s).2))

/-- A program runs alike under two handlers that agree on the calls of its run. -/
theorem Calls.run_congr {C : S.Op → Prop} {h h' : Handler S σ} (hh : ∀ op s, C op → h op s = h' op s)
    {p : Prog S α} {s : σ} (hp : p.Calls h C s) : p.run h s = p.run h' s := by
  induction p generalizing s with
  | pure a => rfl
  | call op k ih =>
      obtain ⟨hop, hk⟩ := hp
      rw [run_call, run_call, ← hh op s hop]
      exact ih _ hk

/-! ### Programs whose calls are answered within a condition -/

/-- Every call that `p` makes satisfies `C`, and its result satisfies `R`, as long as its calls are
answered within `A`. -/
def Meets (C : S.Op → Prop) (A : (op : S.Op) → S.Res op → Prop) (R : α → Prop) : Prog S α → Prop
  | pure a => R a
  | call op k => C op ∧ ∀ r, A op r → (k r).Meets C A R

section meets

variable {C : S.Op → Prop} {A : (op : S.Op) → S.Res op → Prop} {R : α → Prop} {R' : β → Prop}

theorem Meets.step {op : S.Op} {f : S.Res op → Prog S β} (h : C op)
    (hf : ∀ r, A op r → (f r).Meets C A R') : (Prog.perform op >>= f).Meets C A R' := ⟨h, hf⟩

theorem Meets.bind {p : Prog S α} {f : α → Prog S β} (hp : p.Meets C A R)
    (hf : ∀ a, R a → (f a).Meets C A R') : (p >>= f).Meets C A R' := by
  induction p with
  | pure a => exact hf a hp
  | call op k ih =>
      obtain ⟨hop, hk⟩ := hp
      exact ⟨hop, fun r hr => ih r (hk r hr)⟩

theorem Meets.mono {C' : S.Op → Prop} {R' : α → Prop} (hC : ∀ op, C op → C' op)
    (hR : ∀ a, R a → R' a) {p : Prog S α} (hp : p.Meets C A R) : p.Meets C' A R' := by
  induction p with
  | pure a => exact hR a hp
  | call op k ih =>
      obtain ⟨hop, hk⟩ := hp
      exact ⟨hC op hop, fun r hr => ih r (hk r hr)⟩

theorem Meets.narrow {A' : (op : S.Op) → S.Res op → Prop} (hA : ∀ op r, A' op r → A op r)
    {p : Prog S α} (hp : p.Meets C A R) : p.Meets C A' R := by
  induction p with
  | pure a => exact hp
  | call op k ih =>
      obtain ⟨hop, hk⟩ := hp
      exact ⟨hop, fun r hr => ih r (hk r (hA op r hr))⟩

theorem meets_true (p : Prog S α) : p.Meets (fun _ => True) A fun _ => True := by
  induction p with
  | pure a => trivial
  | call op k ih => exact ⟨trivial, fun r _ => ih r⟩

/-- Where every answer is within the condition, it is none. -/
theorem Meets.only (hA : ∀ op r, A op r) {p : Prog S α} (hp : p.Meets C A R) : p.Only C := by
  induction p with
  | pure a => trivial
  | call op k ih =>
      obtain ⟨hop, hk⟩ := hp
      exact ⟨hop, fun r => ih r (hk r (hA op r))⟩

/-- `p` can return `a` if its calls are answered within `A`. -/
def CanReturn (A : (op : S.Op) → S.Res op → Prop) : Prog S α → α → Prop
  | pure a, b => a = b
  | call op k, b => ∃ r, A op r ∧ (k r).CanReturn A b

theorem Meets.canReturn {p : Prog S α} (hp : p.Meets C A R) {a : α} (h : p.CanReturn A a) : R a := by
  induction p with
  | pure b =>
      obtain rfl : b = a := h
      exact hp
  | call op k ih =>
      obtain ⟨r, hr, hreturn⟩ := h
      exact ih r (hp.2 r hr) hreturn

theorem Returns.canReturn {p : Prog S α} (hp : p.Returns R) {a : α} (h : p.CanReturn A a) : R a := by
  induction p with
  | pure b =>
      obtain rfl : b = a := h
      exact hp
  | call op k ih =>
      obtain ⟨r, -, hreturn⟩ := h
      exact ih r (hp r) hreturn

theorem CanReturn.step {op : S.Op} {f : S.Res op → Prog S β} {b : β} (r : S.Res op) (hr : A op r)
    (h : (f r).CanReturn A b) : (Prog.perform op >>= f).CanReturn A b := ⟨r, hr, h⟩

theorem CanReturn.bind {p : Prog S α} {f : α → Prog S β} {a : α} {b : β} (hp : p.CanReturn A a)
    (hf : (f a).CanReturn A b) : (p >>= f).CanReturn A b := by
  induction p with
  | pure a' =>
      obtain rfl : a' = a := hp
      exact hf
  | call op k ih =>
      obtain ⟨r, hr, hk⟩ := hp
      exact ⟨r, hr, ih r hk⟩

/-- A handler that answers within `A` makes `p` return what it can return. -/
theorem canReturn_run {h : Handler S σ} (hA : ∀ op s, A op (h op s).1) (p : Prog S α) (s : σ) :
    p.CanReturn A (p.run h s).1 := by
  induction p generalizing s with
  | pure a => rfl
  | call op k ih => exact ⟨_, hA op s, ih _ _⟩

end meets

end Prog

end Effects
