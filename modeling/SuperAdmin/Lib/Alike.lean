import SuperAdmin.Lib.Pool
import Mathlib.Data.List.Forall2

/-! # Two runs side by side

A relation on the answers of every call, a *kinship*, says how much of an answer a program may act on:
programs are *alike* if kindred answers lead them to the same calls and to related results.  Handlers that
*mirror* each other answer kindred from related states.  Then what alike programs do from related states is
the same but for the kinship, alone (`Alike.run`) and in every interleaving (`Pool.Run.mirrored`). -/

namespace Effects

variable {S : Sig} {σ τ ι α β : Type}

/-- How the answers to one call may differ. -/
abbrev Kinship (S : Sig) : Type := (op : S.Op) → S.Res op → S.Res op → Prop

/-! ### Alike programs -/

/-- The programs make the same calls and end in related results, as long as the answers are kindred. -/
inductive Prog.Alike (K : Kinship S) (Q : α → α → Prop) : Prog S α → Prog S α → Prop
  | pure {a b : α} (h : Q a b) : Alike K Q (.pure a) (.pure b)
  | call (op : S.Op) {k l : S.Res op → Prog S α} (h : ∀ r s, K op r s → Alike K Q (k r) (l s)) :
      Alike K Q (.call op k) (.call op l)

namespace Prog

variable {K : Kinship S} {Q : α → α → Prop} {Q' : β → β → Prop} {p q : Prog S α}

/-- The rule of a call that is followed by programs. -/
theorem Alike.step {op : S.Op} {f g : S.Res op → Prog S β} (h : ∀ r s, K op r s → (f r).Alike K Q' (g s)) :
    (Prog.perform op >>= f).Alike K Q' (Prog.perform op >>= g) := .call op h

/-- A call whose answers are kindred only if they are the same. -/
theorem Alike.perform {op : S.Op} (hop : ∀ r s, K op r s → r = s) : (perform op).Alike K Eq (perform op) :=
  .call op fun r s h => .pure (hop r s h)

/-- Such a call, and what follows. -/
theorem Alike.same {op : S.Op} {f g : S.Res op → Prog S β} (hop : ∀ r s, K op r s → r = s)
    (h : ∀ r, (f r).Alike K Q' (g r)) : (Prog.perform op >>= f).Alike K Q' (Prog.perform op >>= g) :=
  .step fun r s hrs => hop r s hrs ▸ h r

theorem Alike.bind {f g : α → Prog S β} (hp : p.Alike K Q q)
    (hf : ∀ a b, Q a b → (f a).Alike K Q' (g b)) : (p >>= f).Alike K Q' (q >>= g) := by
  induction hp with
  | pure h => exact hf _ _ h
  | call op _ ih => exact .call op fun r s hrs => ih r s hrs

/-- Results that are related only if they are the same. -/
theorem Alike.bind_eq {f g : α → Prog S β} (hp : p.Alike K Eq q) (hf : ∀ a, (f a).Alike K Q' (g a)) :
    (p >>= f).Alike K Q' (q >>= g) :=
  hp.bind fun a _ hab => hab ▸ hf a

/-- A program that is at its end ends alike. -/
theorem Alike.pure_iff (h : p.Alike K Eq q) (a : α) : p = .pure a ↔ q = .pure a := by
  cases h with
  | pure h =>
      rw [h]
  | call op _ =>
      constructor <;> intro h <;> cases h

end Prog

/-! ### Handlers that mirror each other -/

/-- From related states every call is answered kindred and leads to related states. -/
def Mirrors (K : Kinship S) (R : σ → τ → Prop) (h : Handler S σ) (h' : Handler S τ) : Prop :=
  ∀ op s t, R s t → K op (h op s).1 (h' op t).1 ∧ R (h op s).2 (h' op t).2

section mirrors

variable {K : Kinship S} {R : σ → τ → Prop}

/-- Alike programs, each alone from one of two related states. -/
theorem Prog.Alike.run {h : Handler S σ} {h' : Handler S τ} (hm : Mirrors K R h h') {Q : α → α → Prop}
    {p q : Prog S α} (hp : p.Alike K Q q) {s : σ} {t : τ} (hst : R s t) :
    Q (p.run h s).1 (q.run h' t).1 ∧ R (p.run h s).2 (q.run h' t).2 := by
  induction hp generalizing s t with
  | pure h => exact ⟨h, hst⟩
  | call op _ ih =>
      obtain ⟨hanswer, hnext⟩ := hm op s t hst
      exact ih _ _ hanswer hnext

/-- The calls of a trace, without the states that they found. -/
def callsOf (tr : List (Event S σ ι)) : List (ι × S.Op) := tr.map fun e => (e.tid, e.op)

variable [DecidableEq ι]

/-- Two pools in which everything is the same but for the kinship. -/
structure Pool.Mirrored (K : Kinship S) (R : σ → τ → Prop) (P : Pool S (Recorded S σ ι) ι α)
    (Q : Pool S (Recorded S τ ι) ι α) : Prop where
  state : R P.state.now Q.state.now
  calls : callsOf P.state.trace = callsOf Q.state.trace
  threads : ∀ i, (P.thread i).Alike K Eq (Q.thread i)

/-- To every run there is one of the other side that mirrors it. -/
theorem Pool.Run.mirrored {h : ι → Handler S σ} {h' : ι → Handler S τ} {env : σ → σ → Prop} {env' : τ → τ → Prop}
    (hm : ∀ i, Mirrors K R (h i) (h' i)) (henv : ∀ s s' t, env s s' → R s t → ∃ t', env' t t' ∧ R s' t')
    {P P' : Pool S (Recorded S σ ι) ι α} {Q : Pool S (Recorded S τ ι) ι α}
    (hr : Pool.Run (record h) (recordEnv env) (fun _ _ _ => True) P P') (hPQ : P.Mirrored K R Q) :
    ∃ Q', Pool.Run (record h') (recordEnv env') (fun _ _ _ => True) Q Q' ∧ P'.Mirrored K R Q' := by
  induction hr with
  | refl => exact ⟨Q, .refl, hPQ⟩
  | tail _ hs ih =>
      obtain ⟨Q₁, hrun, hsame⟩ := ih
      cases hs with
      | env s he =>
          obtain ⟨hnow, htrace⟩ := he
          obtain ⟨t, ht, hst⟩ := henv _ _ _ hnow hsame.state
          refine ⟨⟨⟨t, Q₁.state.trace⟩, Q₁.thread⟩, hrun.tail (.env _ _ ⟨ht, rfl⟩), hst, ?_, hsame.threads⟩
          rw [htrace]
          exact hsame.calls
      | act i op k hk hC =>
          have hi := hsame.threads i
          rw [hk] at hi
          generalize hl : Q₁.thread i = q at hi
          cases hi with
          | call op hkl =>
              obtain ⟨hanswer, hnext⟩ := hm i op _ _ hsame.state
              refine ⟨_, hrun.tail (.act _ i op _ hl trivial), hnext, ?_, fun j => ?_⟩
              · exact congrArg ((i, op) :: ·) hsame.calls
              · by_cases hj : j = i
                · subst hj
                  simp only [Function.update_self]
                  exact hkl _ _ hanswer
                · simp only [Function.update_of_ne hj]
                  exact hsame.threads j

end mirrors

end Effects
