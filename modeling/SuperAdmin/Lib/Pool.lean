import SuperAdmin.Lib.Prog
import Mathlib.Logic.Relation
import Mathlib.Logic.Function.Basic

/-! # Interleavings of programs and rely–guarantee reasoning

A *pool* is a shared state with one program per thread.  A step of the pool executes the next
call of one thread atomically, or lets the environment change the state.  `Pool.Run` relates
two pools by any number of steps; its parameter `C` restricts the calls that the run may
execute (`C i op s`: thread `i` may execute `op` in state `s`), so that "every run whose steps
meet a condition" is a run for that `C`.

`Prog.Safe` is the rely–guarantee triple of one program: whatever the others do within `rely`,
each call that it makes satisfies `guar` in the state that it finds, and its result satisfies the
postcondition.  `Pool.Run.safe` is the parallel rule: when the calls that each thread guarantees
are within the rely of the others, the triples of all threads hold together along every run, and
the run makes no other calls (`Pool.Run.guaranteed`).

`record` makes any handler keep a trace of the executed calls, each with the thread that
called and the state that it found. -/

namespace Effects

variable {S : Sig} {σ ι α β : Type}

/-! ### Pools -/

/-- Threads over one shared state. -/
structure Pool (S : Sig) (σ ι α : Type) where
  state : σ
  thread : ι → Prog S α

namespace Pool

variable [DecidableEq ι]

/-- One step: the next call of a thread, or a step of the environment. -/
inductive Step (h : ι → Handler S σ) (env : σ → σ → Prop) (C : ι → S.Op → σ → Prop) :
    Pool S σ ι α → Pool S σ ι α → Prop
  | act (P : Pool S σ ι α) (i : ι) (op : S.Op) (k : S.Res op → Prog S α)
      (hk : P.thread i = .call op k) (hC : C i op P.state) :
      Step h env C P
        ⟨(h i op P.state).2, Function.update P.thread i (k (h i op P.state).1)⟩
  | env (P : Pool S σ ι α) (s : σ) (he : env P.state s) : Step h env C P ⟨s, P.thread⟩

/-- Any number of steps. -/
abbrev Run (h : ι → Handler S σ) (env : σ → σ → Prop) (C : ι → S.Op → σ → Prop) :
    Pool S σ ι α → Pool S σ ι α → Prop :=
  Relation.ReflTransGen (Step h env C)

variable {h : ι → Handler S σ} {env : σ → σ → Prop} {C : ι → S.Op → σ → Prop}
variable {P P' : Pool S σ ι α}

/-- A state predicate kept by every call that `C` allows and by the environment holds along
every run. -/
theorem Run.invariant {I : σ → Prop} (hact : ∀ i op s, C i op s → I s → I (h i op s).2)
    (henv : ∀ s s', env s s' → I s → I s') (hr : Run h env C P P') (hI : I P.state) :
    I P'.state := by
  induction hr with
  | refl => exact hI
  | tail _ hs ih =>
      cases hs with
      | act i op k hk hC => exact hact i op _ hC ih
      | env s he => exact henv _ _ he ih

/-- Along a run an invariant may be added to the condition on the calls. -/
theorem Run.with_invariant {I : σ → Prop} (hact : ∀ i op s, C i op s → I s → I (h i op s).2)
    (henv : ∀ s s', env s s' → I s → I s') (hr : Run h env C P P') (hI : I P.state) :
    Run h env (fun i op s => C i op s ∧ I s) P P' := by
  induction hr with
  | refl => exact .refl
  | tail hr hs ih =>
      have hb := Run.invariant hact henv hr hI
      refine .tail ih ?_
      cases hs with
      | act i op k hk hC => exact .act _ i op k hk ⟨hC, hb⟩
      | env s he => exact .env _ s he

/-- A weaker condition on the calls allows more runs. -/
theorem Run.mono {C' : ι → S.Op → σ → Prop} (hC : ∀ i op s, C i op s → C' i op s)
    (hr : Run h env C P P') : Run h env C' P P' := by
  induction hr with
  | refl => exact .refl
  | tail _ hs ih =>
      refine .tail ih ?_
      cases hs with
      | act i op k hk hc => exact .act _ i op k hk (hC i op _ hc)
      | env s he => exact .env _ s he

/-- The calls of a run are of the kinds that its threads make. -/
theorem Run.only {K : ι → S.Op → Prop} (hr : Run h env C P P')
    (h0 : ∀ i, (P.thread i).Only (K i)) :
    Run h env (fun i op s => C i op s ∧ K i op) P P' ∧ ∀ i, (P'.thread i).Only (K i) := by
  induction hr with
  | refl => exact ⟨.refl, h0⟩
  | tail _ hs ih =>
      obtain ⟨hrun, honly⟩ := ih
      cases hs with
      | env s he => exact ⟨.tail hrun (.env _ s he), honly⟩
      | act i op k hk hc =>
          have hi := honly i
          rw [hk] at hi
          obtain ⟨hop, hnext⟩ := hi
          refine ⟨.tail hrun (.act _ i op k hk ⟨hc, hop⟩), fun j => ?_⟩
          by_cases hj : j = i
          · subst hj
            simpa using hnext _
          · simpa only [Function.update_of_ne hj] using honly j

/-! ### Scheduled runs -/

/-- Let thread `i` execute its next call, if it has one. -/
def act (h : ι → Handler S σ) (i : ι) (P : Pool S σ ι α) : Pool S σ ι α :=
  match P.thread i with
  | .pure _ => P
  | .call op k => ⟨(h i op P.state).2, Function.update P.thread i (k (h i op P.state).1)⟩

/-- Let the threads of a schedule act one after the other. -/
def play (h : ι → Handler S σ) (l : List ι) (P : Pool S σ ι α) : Pool S σ ι α :=
  l.foldl (fun P i => P.act h i) P

/-- Every call that a schedule executes meets `C`. -/
def Meets (h : ι → Handler S σ) (C : ι → S.Op → σ → Prop) : List ι → Pool S σ ι α → Prop
  | [], _ => True
  | i :: l, P =>
      (match P.thread i with
        | .pure _ => True
        | .call op _ => C i op P.state) ∧ Meets h C l (P.act h i)

instance decidableMeets [∀ i op s, Decidable (C i op s)] :
    (l : List ι) → (P : Pool S σ ι α) → Decidable (Meets h C l P)
  | [], _ => inferInstanceAs (Decidable True)
  | i :: l, P =>
      have hrest := decidableMeets l (P.act h i)
      match hi : P.thread i with
      | .pure _ => decidable_of_iff (Meets h C l (P.act h i)) (by simp [Meets, hi])
      | .call op _ =>
          decidable_of_iff (C i op P.state ∧ Meets h C l (P.act h i)) (by simp [Meets, hi])

theorem play_meets {l : List ι} {P : Pool S σ ι α} (hm : Meets h C l P) :
    Run h env C P (P.play h l) := by
  induction l generalizing P with
  | nil => exact .refl
  | cons i l ih =>
      obtain ⟨hi, hm⟩ := hm
      refine Relation.ReflTransGen.trans ?_ (ih hm)
      cases hk : P.thread i with
      | pure a =>
          simp only [act, hk]
          exact .refl
      | call op k =>
          rw [hk] at hi
          simp only [act, hk]
          exact .single (.act P i op k hk hi)

theorem meets_true (l : List ι) (P : Pool S σ ι α) : Meets h (fun _ _ _ => True) l P := by
  induction l generalizing P with
  | nil => trivial
  | cons i l ih =>
      refine ⟨?_, ih _⟩
      split <;> trivial

theorem play_run (l : List ι) (P : Pool S σ ι α) :
    Run h env (fun _ _ _ => True) P (P.play h l) := play_meets (meets_true l P)

end Pool

/-! ### Rely–guarantee triples -/

/-- What a thread may assume at its calls, what the others may do between them, and what it
guarantees about each of its calls. -/
structure Rules (S : Sig) (σ : Type) where
  assume : S.Op → σ → Prop
  rely : σ → σ → Prop
  guar : S.Op → σ → Prop
  rely_refl : ∀ s, rely s s
  rely_trans : ∀ {a b c}, rely a b → rely b c → rely a c

namespace Prog

/-- The triple of a program under `Γ`, started in a state and ended in `Q`. -/
def Safe (h : Handler S σ) (Γ : Rules S σ) (Q : α → σ → Prop) : Prog S α → σ → Prop
  | pure a, s => ∀ s', Γ.rely s s' → Q a s'
  | call op k, s => ∀ s', Γ.rely s s' → Γ.assume op s' →
      Γ.guar op s' ∧ (k (h op s').1).Safe h Γ Q (h op s').2

variable {h : Handler S σ} {Γ : Rules S σ}

/-- A triple survives the steps of the others. -/
theorem Safe.rely {Q : α → σ → Prop} {p : Prog S α} {s s' : σ} (hp : p.Safe h Γ Q s)
    (hs : Γ.rely s s') : p.Safe h Γ Q s' := by
  cases p with
  | pure a => exact fun s'' hr => hp s'' (Γ.rely_trans hs hr)
  | call op k => exact fun s'' hr => hp s'' (Γ.rely_trans hs hr)

/-- The rule of a call: it is guaranteed, and the rest goes on from its answer. -/
theorem Safe.step {Q : β → σ → Prop} {op : S.Op} {f : S.Res op → Prog S β} {s : σ}
    (hk : ∀ s', Γ.rely s s' → Γ.assume op s' →
      Γ.guar op s' ∧ (f (h op s').1).Safe h Γ Q (h op s').2) :
    (Prog.perform op >>= f).Safe h Γ Q s := hk

/-- The rule of a result: what it claims stays true whatever the others do. -/
theorem Safe.pure {Q : α → σ → Prop} {a : α} {s : σ} (ha : ∀ s', Γ.rely s s' → Q a s') :
    (Prog.pure a : Prog S α).Safe h Γ Q s := ha

theorem Safe.result {Q : α → σ → Prop} {a : α} {s : σ}
    (hp : (Prog.pure a : Prog S α).Safe h Γ Q s) : Q a s := hp s (Γ.rely_refl s)

theorem Safe.mono {Q Q' : α → σ → Prop} (hQ : ∀ a s, Q a s → Q' a s) {p : Prog S α} {s : σ}
    (hp : p.Safe h Γ Q s) : p.Safe h Γ Q' s := by
  induction p generalizing s with
  | pure a => exact fun s' hr => hQ a s' (hp s' hr)
  | call op k ih =>
      intro s' hr ha
      obtain ⟨hg, hk⟩ := hp s' hr ha
      exact ⟨hg, ih _ hk⟩

/-- Sequential composition: the postcondition of the first program starts the second. -/
theorem Safe.bind {Q : β → σ → Prop} {p : Prog S α} {f : α → Prog S β} {s : σ}
    (hp : p.Safe h Γ (fun a s' => (f a).Safe h Γ Q s') s) : (p >>= f).Safe h Γ Q s := by
  induction p generalizing s with
  | pure a => exact hp s (Γ.rely_refl s)
  | call op k ih =>
      intro s' hr ha
      obtain ⟨hg, hk⟩ := hp s' hr ha
      exact ⟨hg, ih _ hk⟩

theorem Safe.map {Q : β → σ → Prop} {p : Prog S α} {f : α → β} {s : σ}
    (hp : p.Safe h Γ (fun a s' => Q (f a) s') s) : (f <$> p).Safe h Γ Q s := by
  refine Safe.bind ?_
  induction p generalizing s with
  | pure a => exact fun s' hr s'' hr' => hp s'' (Γ.rely_trans hr hr')
  | call op k ih =>
      intro s' hr ha
      obtain ⟨hg, hk⟩ := hp s' hr ha
      exact ⟨hg, ih _ hk⟩

/-- A program whose calls are all of a kind that is guaranteed and keeps an invariant. -/
theorem Only.safe {C : S.Op → Prop} {R : α → Prop} {I : σ → Prop} {p : Prog S α} (hp : p.Only C)
    (hres : p.Returns R) (hrely : ∀ s s', Γ.rely s s' → I s → I s')
    (hstep : ∀ op s, C op → Γ.assume op s → I s → Γ.guar op s ∧ I (h op s).2) {s : σ}
    (hI : I s) : p.Safe h Γ (fun a s' => R a ∧ I s') s := by
  induction p generalizing s with
  | pure a => exact fun s' hr => ⟨hres, hrely s s' hr hI⟩
  | call op k ih =>
      obtain ⟨hop, hk⟩ := hp
      intro s' hr ha
      obtain ⟨hg, hI'⟩ := hstep op s' hop ha (hrely s s' hr hI)
      exact ⟨hg, ih _ (hk _) (hres _) hI'⟩

end Prog

namespace Pool

variable [DecidableEq ι] {h : ι → Handler S σ} {env : σ → σ → Prop} {C : ι → S.Op → σ → Prop}
variable {P P' : Pool S σ ι α}

/-- The triple of one thread holds along every run whose other steps are within its rely. -/
theorem Run.thread_safe {Γ : Rules S σ} {Q : α → σ → Prop} {j : ι}
    (hC : ∀ op s, C j op s → Γ.assume op s)
    (hrely : ∀ i op s, i ≠ j → C i op s → Γ.rely s (h i op s).2)
    (henv : ∀ s s', env s s' → Γ.rely s s') (hr : Run h env C P P')
    (h0 : (P.thread j).Safe (h j) Γ Q P.state) : (P'.thread j).Safe (h j) Γ Q P'.state := by
  induction hr with
  | refl => exact h0
  | tail _ hs ih =>
      cases hs with
      | env s he => exact ih.rely (henv _ _ he)
      | act i op k hk hc =>
          by_cases hj : i = j
          · subst hj
            rw [hk] at ih
            obtain ⟨-, hnext⟩ := ih _ (Γ.rely_refl _) (hC op _ hc)
            simpa using hnext
          · simpa only [Function.update_of_ne (Ne.symm hj)] using ih.rely (hrely i op _ hj hc)

/-- The calls of one thread are those that it guarantees, in a run whose other steps are within its
rely. -/
theorem Run.thread_guaranteed {Γ : Rules S σ} {Q : α → σ → Prop} {j : ι}
    (hC : ∀ op s, C j op s → Γ.assume op s)
    (hrely : ∀ i op s, i ≠ j → C i op s → Γ.rely s (h i op s).2)
    (henv : ∀ s s', env s s' → Γ.rely s s') (hr : Run h env C P P')
    (h0 : (P.thread j).Safe (h j) Γ Q P.state) :
    Run h env (fun i op s => C i op s ∧ (i = j → Γ.guar op s)) P P' := by
  induction hr with
  | refl => exact .refl
  | tail hr hs ih =>
      have hsafe := Run.thread_safe hC hrely henv hr h0
      refine .tail ih ?_
      cases hs with
      | env s he => exact .env _ s he
      | act i op k hk hc =>
          refine .act _ i op k hk ⟨hc, fun hi => ?_⟩
          subst hi
          rw [hk] at hsafe
          exact (hsafe _ (Γ.rely_refl _) (hC op _ hc)).1

/-- The result of a finished thread, in a run whose other steps are within its rely. -/
theorem Run.thread_result {Γ : Rules S σ} {Q : α → σ → Prop} {j : ι}
    (hC : ∀ op s, C j op s → Γ.assume op s)
    (hrely : ∀ i op s, i ≠ j → C i op s → Γ.rely s (h i op s).2)
    (henv : ∀ s s', env s s' → Γ.rely s s') (hr : Run h env C P P')
    (h0 : (P.thread j).Safe (h j) Γ Q P.state) {a : α} (hj : P'.thread j = .pure a) :
    Q a P'.state := by
  have hs := Run.thread_safe hC hrely henv hr h0
  rw [hj] at hs
  exact hs.result

section parallel

variable {Γ : ι → Rules S σ} {Q : ι → α → σ → Prop}
variable (hC : ∀ i op s, C i op s → (Γ i).assume op s)
variable (hpar : ∀ i j, i ≠ j → ∀ op s, C i op s → (Γ i).guar op s → (Γ j).rely s (h i op s).2)
variable (henv : ∀ j s s', env s s' → (Γ j).rely s s')
include hC hpar henv

/-- **Parallel rule.** The triples of all threads hold along every run, when what one thread
guarantees and what the environment does is within what the others rely on. -/
theorem Run.safe (hr : Run h env C P P')
    (h0 : ∀ i, (P.thread i).Safe (h i) (Γ i) (Q i) P.state) :
    ∀ i, (P'.thread i).Safe (h i) (Γ i) (Q i) P'.state := by
  induction hr with
  | refl => exact h0
  | tail _ hs ih =>
      cases hs with
      | env s he => exact fun j => (ih j).rely (henv j _ _ he)
      | act i op k hk hc =>
          have hi := ih i
          rw [hk] at hi
          obtain ⟨hg, hnext⟩ := hi _ ((Γ i).rely_refl _) (hC i op _ hc)
          intro j
          by_cases hj : j = i
          · subst hj
            simpa using hnext
          · have hothers := (ih j).rely (hpar i j (Ne.symm hj) op _ hc hg)
            simpa only [Function.update_of_ne hj] using hothers

/-- The calls of a run are those that its threads guarantee. -/
theorem Run.guaranteed (hr : Run h env C P P')
    (h0 : ∀ i, (P.thread i).Safe (h i) (Γ i) (Q i) P.state) :
    Run h env (fun i op s => C i op s ∧ (Γ i).guar op s) P P' := by
  induction hr with
  | refl => exact .refl
  | tail hr hs ih =>
      have hsafe := Run.safe hC hpar henv hr h0
      refine .tail ih ?_
      cases hs with
      | env s he => exact .env _ s he
      | act i op k hk hc =>
          have hi := hsafe i
          rw [hk] at hi
          obtain ⟨hg, -⟩ := hi _ ((Γ i).rely_refl _) (hC i op _ hc)
          exact .act _ i op k hk ⟨hc, hg⟩

end parallel

end Pool

/-! ### Recorded executions -/

/-- An executed call: the thread, the operation, and the state in which it was executed. -/
structure Event (S : Sig) (σ ι : Type) where
  tid : ι
  op : S.Op
  before : σ

/-- A state with the trace of the calls that led to it, latest first. -/
structure Recorded (S : Sig) (σ ι : Type) where
  now : σ
  trace : List (Event S σ ι)

/-- The handlers of `h`, keeping the trace. -/
def record (h : ι → Handler S σ) (i : ι) : Handler S (Recorded S σ ι) :=
  fun op s => ((h i op s.now).1, ⟨(h i op s.now).2, ⟨i, op, s.now⟩ :: s.trace⟩)

section record

variable (h : ι → Handler S σ) (i : ι) (op : S.Op) (s : Recorded S σ ι)

@[simp] theorem record_answer : (record h i op s).1 = (h i op s.now).1 := rfl

@[simp] theorem record_now : (record h i op s).2.now = (h i op s.now).2 := rfl

@[simp] theorem record_trace : (record h i op s).2.trace = ⟨i, op, s.now⟩ :: s.trace := rfl

end record

/-- A step of the environment, which leaves the trace alone. -/
def recordEnv (env : σ → σ → Prop) (s s' : Recorded S σ ι) : Prop :=
  env s.now s'.now ∧ s'.trace = s.trace

/-- Every run has a recorded version. -/
theorem Pool.Run.recorded [DecidableEq ι] {h : ι → Handler S σ} {env : σ → σ → Prop}
    {C : ι → S.Op → σ → Prop} {P P' : Pool S σ ι α} (hr : Run h env C P P') :
    ∃ tr, Run (record h) (recordEnv env) (fun i op s => C i op s.now)
      ⟨⟨P.state, []⟩, P.thread⟩ ⟨⟨P'.state, tr⟩, P'.thread⟩ := by
  induction hr with
  | refl => exact ⟨[], .refl⟩
  | @tail b _ _ hs ih =>
      obtain ⟨tr, ih⟩ := ih
      cases hs with
      | act i op k hk hc => exact ⟨_, .tail ih (.act _ i op k hk hc)⟩
      | env s he =>
          have hrec : recordEnv env (⟨b.state, tr⟩ : Recorded S σ ι) ⟨s, tr⟩ := ⟨he, rfl⟩
          exact ⟨tr, .tail ih (.env _ _ hrec)⟩

end Effects
