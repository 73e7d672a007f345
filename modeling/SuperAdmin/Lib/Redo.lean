import SuperAdmin.Lib.Prog
import Mathlib.Order.Defs.Unbundled

/-! # Programs that find what they have made

A program that makes what it does not find can be run again.  `Redone p q` says so of two programs, since
the second run has a clock, random values and a handler of its own: whenever `p` succeeds, `q` returns the
same from every good state that is later and changes nothing.  What is later is up to a preorder on the states
that the steps of `p` climb; in a good state the second handler finds what is there. -/

namespace Effects.Prog

variable {S : Sig} {σ E F α β A : Type} {h h' : Handler S σ} {le : σ → σ → Prop} {good : σ → Prop}

/-- A program only climbs. -/
def Climbs (h : Handler S σ) (le : σ → σ → Prop) (p : Prog S α) : Prop := ∀ s, le s (p.run h s).2

/-- Where `p` has succeeded, `q` finds what `p` has made. -/
def Redone (h h' : Handler S σ) (le : σ → σ → Prop) (good : σ → Prop) (p q : Prog S (Except E α)) : Prop :=
  ∀ s a s', p.run h s = (.ok a, s') → ∀ t, le s' t → good t → q.run h' t = (.ok a, t)

section climbs

variable [IsPreorder σ le]

theorem Climbs.pure (a : α) : (Prog.pure a : Prog S α).Climbs h le := fun s => refl_of le s

theorem Climbs.bind {p : Prog S α} {f : α → Prog S β} (hp : p.Climbs h le) (hf : ∀ a, (f a).Climbs h le) :
    (p >>= f).Climbs h le := by
  intro s
  rw [run_bind]
  exact trans_of le (hp s) (hf _ _)

theorem Only.climbs {C : S.Op → Prop} (hC : ∀ op s, C op → le s (h op s).2) {p : Prog S α}
    (hp : p.Only C) : p.Climbs h le :=
  fun s => Only.run (I := le s) (fun op _ hop hs => trans_of le hs (hC op _ hop)) hp (refl_of le s)

end climbs

theorem Redone.ok (a : α) : Redone h h' le good (Prog.pure (.ok a) : Prog S (Except E α)) (Prog.pure (.ok a)) := by
  rintro s _ s' hrun t - -
  cases hrun
  rfl

/-- A program that fails has nothing to be found. -/
theorem Redone.error (e : E) (q : Prog S (Except E α)) : Redone h h' le good (Prog.pure (.error e)) q := by
  intro s a s' hrun
  cases hrun

/-- What is done after a result is found after the same result. -/
theorem Redone.bind [IsPreorder σ le] {p q : Prog S (Except E α)} {f g : Except E α → Prog S (Except F β)}
    (hp : Redone h h' le good p q) (herror : ∀ e, ∃ e', f (.error e) = .pure (.error e'))
    (hclimbs : ∀ a, (f (.ok a)).Climbs h le) (hok : ∀ a, Redone h h' le good (f (.ok a)) (g (.ok a))) :
    Redone h h' le good (p >>= f) (q >>= g) := by
  intro s b s' hrun t ht hgood
  rw [run_bind] at hrun
  cases hfirst : p.run h s with
  | mk res s₁ =>
      rw [hfirst] at hrun
      cases res with
      | error e =>
          obtain ⟨e', he⟩ := herror e
          rw [he] at hrun
          cases hrun
      | ok a =>
          have hlater : le s₁ s' := by
            have hle := hclimbs a s₁
            rwa [hrun] at hle
          rw [run_bind, hp s a s₁ hfirst t (trans_of le hlater ht) hgood]
          exact hok a s₁ b s' hrun t ht hgood

/-- A call that may be answered otherwise in the second run, and that changes nothing. -/
theorem Redone.call {op : S.Op} {f g : S.Res op → Prog S (Except F β)} (hsame : ∀ s, (h op s).2 = s)
    (hsame' : ∀ t, (h' op t).2 = t) (hfg : ∀ x y, Redone h h' le good (f x) (g y)) :
    Redone h h' le good (perform op >>= f) (perform op >>= g) := by
  intro s b s' hrun t ht hgood
  rw [run_bind, run_perform] at hrun ⊢
  rw [hsame] at hrun
  rw [hsame']
  exact hfg _ _ s b s' hrun t ht hgood

/-- Look something up, and make it if it is not there: what is there stays, and is found in every good state. -/
theorem Redone.lookup {B : Type} {op : S.Op} {f g : S.Res op → Prog S (Except F β)}
    (make : Prog S (Except F β)) (There : B → σ → Prop) (done : B → β) (hsame : ∀ s, (h op s).2 = s)
    (hsame' : ∀ t, (h' op t).2 = t)
    (hlook : ∀ s, f (h op s).1 = make ∨ ∃ b, There b s ∧ f (h op s).1 = .pure (.ok (done b)))
    (hmade : ∀ s c s', make.run h s = (.ok c, s') → ∃ b, There b s' ∧ c = done b)
    (hkept : ∀ s t b, le s t → There b s → There b t)
    (hfound : ∀ t b, good t → There b t → g (h' op t).1 = .pure (.ok (done b))) :
    Redone h h' le good (perform op >>= f) (perform op >>= g) := by
  intro s c s' hrun t ht hgood
  rw [run_bind, run_perform] at hrun ⊢
  rw [hsame] at hrun
  rw [hsame']
  have hthere : ∃ b, There b s' ∧ c = done b := by
    rcases hlook s with hmake | ⟨b, hb, hdone⟩
    · rw [hmake] at hrun
      exact hmade s c s' hrun
    · rw [hdone] at hrun
      cases hrun
      exact ⟨b, hb, rfl⟩
  obtain ⟨b, hb, rfl⟩ := hthere
  rw [hfound t b hgood (hkept s' t b ht hb)]
  rfl

/-- A loop that carries what it has found. -/
def loop (step : A → α → Prog S (Except E α)) : List A → α → Prog S (Except E α)
  | [], acc => .pure (.ok acc)
  | x :: xs, acc => step x acc >>= fun res =>
      match res with
      | .error e => .pure (.error e)
      | .ok acc => loop step xs acc

theorem Climbs.loop [IsPreorder σ le] {step : A → α → Prog S (Except E α)}
    (hstep : ∀ x acc, (step x acc).Climbs h le) (l : List A) (acc : α) : (loop step l acc).Climbs h le := by
  induction l generalizing acc with
  | nil => exact .pure _
  | cons x xs ih =>
      refine .bind (hstep x acc) fun res => ?_
      cases res with
      | error e => exact .pure _
      | ok acc => exact ih acc

/-- A loop is found if each of its steps is. -/
theorem Redone.loop [IsPreorder σ le] {step step' : A → α → Prog S (Except E α)}
    (hclimbs : ∀ x acc, (step x acc).Climbs h le) {l : List A}
    (hstep : ∀ x ∈ l, ∀ acc, Redone h h' le good (step x acc) (step' x acc)) (acc : α) :
    Redone h h' le good (Prog.loop step l acc) (Prog.loop step' l acc) := by
  induction l generalizing acc with
  | nil => exact .ok acc
  | cons x xs ih =>
      refine .bind (hstep x List.mem_cons_self acc) (fun e => ⟨e, rfl⟩) (Climbs.loop hclimbs xs) ?_
      exact ih fun y hy => hstep y (List.mem_cons_of_mem x hy)

end Effects.Prog
