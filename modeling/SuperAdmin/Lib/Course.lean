import Mathlib.Data.List.Basic
import SuperAdmin.Lib.Pool

/-! # The course of a program

The calls of a program with their answers, oldest first.  What holds of them whatever the answers are, is
proved for the program alone; along every run of a pool it holds of what a thread has called. -/

namespace Effects

variable {S : Sig} {σ ι α β : Type}

/-- A call with its answer. -/
abbrev Answered (S : Sig) : Type := (op : S.Op) × S.Res op

namespace Prog

/-- Whatever the calls of a program are answered: `I` holds of the calls so far, and `Q` of a result and
all calls before it. -/
def Traces (I : List (Answered S) → Prop) (Q : α → List (Answered S) → Prop) : Prog S α → Prop
  | pure a => I [] ∧ Q a []
  | call op k => I [] ∧
      ∀ r, (k r).Traces (fun l => I (⟨op, r⟩ :: l)) fun a l => Q a (⟨op, r⟩ :: l)

variable {I I' : List (Answered S) → Prop} {Q Q' : α → List (Answered S) → Prop}

theorem Traces.now {p : Prog S α} (hp : p.Traces I Q) : I [] := by
  cases p with
  | pure a => exact hp.1
  | call op k => exact hp.1

theorem Traces.mono {p : Prog S α} (hp : p.Traces I Q) (hI : ∀ l, I l → I' l) (hQ : ∀ a l, Q a l → Q' a l) :
    p.Traces I' Q' := by
  induction p generalizing I I' Q Q' with
  | pure a => exact ⟨hI _ hp.1, hQ _ _ hp.2⟩
  | call op k ih =>
      obtain ⟨hnow, hk⟩ := hp
      exact ⟨hI _ hnow, fun r => ih r (hk r) (fun l => hI _) fun a l => hQ a _⟩

/-- The rule of a call that is followed by a program. -/
theorem Traces.step {R : β → List (Answered S) → Prop} {op : S.Op} {f : S.Res op → Prog S β} (hnow : I [])
    (hf : ∀ r, (f r).Traces (fun l => I (⟨op, r⟩ :: l)) fun b l => R b (⟨op, r⟩ :: l)) :
    (Prog.perform op >>= f).Traces I R := ⟨hnow, hf⟩

/-- Sequential composition: the second program goes on where the first has returned. -/
theorem Traces.bind {R : β → List (Answered S) → Prop} {p : Prog S α} {f : α → Prog S β} (hp : p.Traces I Q)
    (hf : ∀ a l, Q a l → (f a).Traces (fun l' => I (l ++ l')) fun b l' => R b (l ++ l')) :
    (p >>= f).Traces I R := by
  induction p generalizing I Q R with
  | pure a => exact hf a [] hp.2
  | call op k ih =>
      obtain ⟨hnow, hk⟩ := hp
      exact ⟨hnow, fun r => ih r (hk r) fun a l h => hf a (⟨op, r⟩ :: l) h⟩

/-- What a program only calls, it has called. -/
theorem Only.traces {C : S.Op → Prop} {p : Prog S α} (hp : p.Only C) :
    p.Traces (fun l => ∀ c ∈ l, C c.1) fun _ l => ∀ c ∈ l, C c.1 := by
  have hnil : ∀ c ∈ ([] : List (Answered S)), C c.1 := by simp
  induction p with
  | pure a => exact ⟨hnil, hnil⟩
  | call op k ih =>
      obtain ⟨hop, hk⟩ := hp
      have hcons : ∀ (r : S.Res op) (l : List (Answered S)), (∀ c ∈ l, C c.1) →
          ∀ c ∈ (⟨op, r⟩ :: l : List (Answered S)), C c.1 := by
        intro r l hl c hc
        rcases List.mem_cons.mp hc with rfl | hc
        · exact hop
        · exact hl c hc
      exact ⟨hnil, fun r => (ih r (hk r)).mono (hcons r) fun _ => hcons r⟩

end Prog

/-! ### The calls of a thread -/

section calls

variable [DecidableEq ι] (h : ι → Handler S σ) (i : ι)

/-- What a thread has called, and what it was answered, oldest first. -/
def calls (tr : List (Event S σ ι)) : List (Answered S) :=
  ((tr.filter (·.tid = i)).map fun e => (⟨e.op, (h i e.op e.before).1⟩ : Answered S)).reverse

theorem calls_cons_self (op : S.Op) (s : σ) (tr : List (Event S σ ι)) :
    calls h i (⟨i, op, s⟩ :: tr) = calls h i tr ++ [⟨op, (h i op s).1⟩] := by
  simp [calls]

theorem calls_cons_ne {j : ι} (hj : j ≠ i) (op : S.Op) (s : σ) (tr : List (Event S σ ι)) :
    calls h i (⟨j, op, s⟩ :: tr) = calls h i tr := by
  simp [calls, hj]

theorem mem_calls {tr : List (Event S σ ι)} {c : Answered S} :
    c ∈ calls h i tr ↔ ∃ e ∈ tr, e.tid = i ∧ c = ⟨e.op, (h i e.op e.before).1⟩ := by
  simp [calls, and_assoc, eq_comm (a := c)]

/-- Two calls of a thread, and what it has called before, between and after them. -/
theorem calls_split {tr l₁ l₂ l₃ : List (Event S σ ι)} {e e' : Event S σ ι}
    (htr : tr = l₁ ++ e' :: (l₂ ++ e :: l₃)) (he : e.tid = i) (he' : e'.tid = i) :
    calls h i tr = calls h i l₃ ++ ⟨e.op, (h i e.op e.before).1⟩ ::
      (calls h i l₂ ++ ⟨e'.op, (h i e'.op e'.before).1⟩ :: calls h i l₁) := by
  subst htr
  simp [calls, he, he']

variable {h i} {env : σ → σ → Prop} {C : ι → S.Op → Recorded S σ ι → Prop}
  {P P' : Pool S (Recorded S σ ι) ι α} {I : List (Answered S) → Prop} {Q : α → List (Answered S) → Prop}

/-- Along a run a thread goes on as its program does after what it has called. -/
theorem Pool.Run.traces (hr : Run (record h) (recordEnv env) C P P') (htrace : P.state.trace = [])
    (hp : (P.thread i).Traces I Q) :
    (P'.thread i).Traces (fun l => I (calls h i P'.state.trace ++ l)) fun a l =>
      Q a (calls h i P'.state.trace ++ l) := by
  induction hr with
  | refl =>
      rw [htrace]
      exact hp
  | tail _ hs ih =>
      cases hs with
      | env s he =>
          rw [he.2]
          exact ih
      | act j op k hk hc =>
          rw [record_trace]
          by_cases hj : j = i
          · subst hj
            rw [hk] at ih
            simpa [calls_cons_self] using ih.2 _
          · rw [calls_cons_ne h i hj]
            simpa only [Function.update_of_ne (Ne.symm hj)] using ih

/-- What holds along every course of a program holds of what its thread has called. -/
theorem Pool.Run.calls_traced (hr : Run (record h) (recordEnv env) C P P') (htrace : P.state.trace = [])
    (hp : (P.thread i).Traces I Q) : I (calls h i P'.state.trace) := by
  simpa using (hr.traces htrace hp).now

end calls

/-! ### The history of a run -/

/-- Every call met `C` in its state, with the trace that led to it. -/
def Always (C : ι → S.Op → Recorded S σ ι → Prop) (s : Recorded S σ ι) : Prop :=
  ∀ l₁ e l₂, s.trace = l₁ ++ e :: l₂ → C e.tid e.op ⟨e.before, l₂⟩

theorem Pool.Run.always [DecidableEq ι] {h : ι → Handler S σ} {env : σ → σ → Prop}
    {C : ι → S.Op → Recorded S σ ι → Prop} {P P' : Pool S (Recorded S σ ι) ι α}
    (hr : Run (record h) (recordEnv env) C P P') (htrace : P.state.trace = []) : Always C P'.state := by
  induction hr with
  | refl =>
      intro l₁ e l₂ hsplit
      rw [htrace] at hsplit
      simp at hsplit
  | tail _ hs ih =>
      cases hs with
      | env s he =>
          intro l₁ e l₂ hsplit
          rw [he.2] at hsplit
          exact ih l₁ e l₂ hsplit
      | act i op k hk hc =>
          intro l₁ e l₂ hsplit
          rw [record_trace] at hsplit
          rcases List.cons_eq_append_iff.mp hsplit with ⟨-, hhead⟩ | ⟨l, -, hold⟩
          · cases hhead
            exact hc
          · exact ih l e l₂ hold

end Effects
