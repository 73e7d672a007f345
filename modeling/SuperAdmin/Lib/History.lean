import SuperAdmin.Lib.Pool

/-! # Runs that climb

An order of the states that no call of a run goes back in: what a call has reached is below the states of
all later calls and below the last one.  A fact that every call keeps is such an order, `Kept`; it holds in
every state after the call that establishes it.  The other way round, a fact that holds in the end held at the
start or was established by a call.  And threads whose calls have changed nothing can be left out of a run. -/

namespace Effects

variable {S : Sig} {σ ι α : Type}

/-- No executed call goes back in `le`, and nothing does between the calls. -/
def Climbing (h : ι → Handler S σ) (le : σ → σ → Prop) : σ → List (Event S σ ι) → Prop
  | _, [] => True
  | s, e :: older =>
      le e.before (h e.tid e.op e.before).2 ∧ le (h e.tid e.op e.before).2 s ∧ Climbing h le e.before older

/-- A fact is not lost. -/
def Kept (I : σ → Prop) (s s' : σ) : Prop := I s → I s'

theorem Kept.trans {I : σ → Prop} {s₁ s₂ s₃ : σ} (h₁ : Kept I s₁ s₂) (h₂ : Kept I s₂ s₃) : Kept I s₁ s₃ :=
  fun h => h₂ (h₁ h)

section climbing

variable {h : ι → Handler S σ} {le : σ → σ → Prop} {s s' : σ} {newer older : List (Event S σ ι)}
  {e e' : Event S σ ι}

theorem Climbing.rise (htrans : ∀ a b c, le a b → le b c → le a c) (hle : le s s')
    {tr : List (Event S σ ι)} (hc : Climbing h le s tr) : Climbing h le s' tr := by
  cases tr with
  | nil => trivial
  | cons e older => exact ⟨hc.1, htrans _ _ _ hc.2.1 hle, hc.2.2⟩

/-- What a call has reached is below the last state. -/
theorem Climbing.reached (htrans : ∀ a b c, le a b → le b c → le a c)
    (hc : Climbing h le s (newer ++ e :: older)) : le (h e.tid e.op e.before).2 s := by
  induction newer generalizing s with
  | nil => exact hc.2.1
  | cons e' newer ih => exact htrans _ _ _ (ih hc.2.2) (htrans _ _ _ hc.1 hc.2.1)

/-- What a call has reached is below the state of every later call. -/
theorem Climbing.between (htrans : ∀ a b c, le a b → le b c → le a c)
    (hc : Climbing h le s (newer ++ e :: older)) (he' : e' ∈ newer) :
    le (h e.tid e.op e.before).2 e'.before := by
  induction newer generalizing s with
  | nil => cases he'
  | cons f newer ih =>
      rcases List.mem_cons.mp he' with rfl | he'
      · exact hc.2.2.reached htrans
      · exact ih hc.2.2 he'

end climbing

/-- Two events of a trace, found by what a function says of all of them. -/
theorem exists_two_events {β : Type} (f : Event S σ ι → β) {tr : List (Event S σ ι)} {l₁ l₂ l₃ : List β} {b b' : β}
    (h : tr.map f = l₁ ++ (b' :: l₂ ++ b :: l₃)) : ∃ newer e' mid e older,
      tr = newer ++ e' :: mid ++ e :: older ∧ f e' = b' ∧ f e = b ∧ older.map f = l₃ := by
  obtain ⟨newer, tr', rfl, -, h'⟩ := List.map_eq_append_iff.mp h
  obtain ⟨first, tr'', rfl, hfirst, h''⟩ := List.map_eq_append_iff.mp h'
  obtain ⟨e', mid, rfl, he', -⟩ := List.map_eq_cons_iff.mp hfirst
  obtain ⟨e, older, rfl, he, holder⟩ := List.map_eq_cons_iff.mp h''
  exact ⟨newer, e', mid, e, older, by simp, he', he, holder⟩

/-- A run whose calls and whose environment climb. -/
theorem Pool.Run.climbing [DecidableEq ι] (le : σ → σ → Prop) {h : ι → Handler S σ} {env : σ → σ → Prop}
    {C : ι → S.Op → Recorded S σ ι → Prop} {P P' : Pool S (Recorded S σ ι) ι α}
    (hr : Run (record h) (recordEnv env) C P P') (htrace : P.state.trace = [])
    (hrefl : ∀ s, le s s) (htrans : ∀ a b c, le a b → le b c → le a c)
    (hact : ∀ i op s, C i op s → le s.now (h i op s.now).2) (henv : ∀ s s', env s s' → le s s') :
    Climbing h le P'.state.now P'.state.trace := by
  induction hr with
  | refl =>
      rw [htrace]
      trivial
  | tail _ hs ih =>
      cases hs with
      | env s he =>
          rw [he.2]
          exact ih.rise htrans (henv _ _ he.1)
      | act i op k hk hc => exact ⟨hact i op _ hc, hrefl _, ih⟩

/-- What holds at the end of a run held at its start, or some call of the run established it. -/
theorem Pool.Run.since [DecidableEq ι] {h : ι → Handler S σ} {env : σ → σ → Prop}
    {C : ι → S.Op → Recorded S σ ι → Prop} {P P' : Pool S (Recorded S σ ι) ι α} (F : σ → Prop)
    (G : S.Op → σ → Prop) (hr : Run (record h) (recordEnv env) C P P')
    (hact : ∀ i op s, C i op s → F (h i op s.now).2 → F s.now ∨ G op s.now) (henv : ∀ s s', env s s' → F s' → F s)
    (hF : F P'.state.now) :
    F P.state.now ∨ ∃ newer e older, P'.state.trace = newer ++ e :: older ∧ G e.op e.before := by
  induction hr with
  | refl => exact .inl hF
  | @tail Q _ _ hs ih =>
      cases hs with
      | env s he =>
          rw [he.2]
          exact ih (henv _ _ he.1 hF)
      | act i op k hk hc =>
          rcases hact i op _ hc hF with hold | hnew
          · rcases ih hold with hstart | ⟨newer, e, older, htrace, hG⟩
            · exact .inl hstart
            · refine .inr ⟨⟨i, op, Q.state.now⟩ :: newer, e, older, ?_, hG⟩
              rw [record_trace, htrace]
              rfl
          · exact .inr ⟨[], ⟨i, op, Q.state.now⟩, Q.state.trace, rfl, hnew⟩

/-- Threads whose calls have all changed nothing might as well not have begun: there is a run without their
calls, in which all others do the same. -/
theorem Pool.Run.erase [DecidableEq ι] {h : ι → Handler S σ} {env : σ → σ → Prop}
    {P P' : Pool S (Recorded S σ ι) ι α} (hr : Run (record h) (recordEnv env) (fun _ _ _ => True) P P')
    (htrace : P.state.trace = []) (K : ι → Prop) [DecidablePred K]
    (hK : ∀ e ∈ P'.state.trace, K e.tid → (h e.tid e.op e.before).2 = e.before) :
    ∃ Q, Run (record h) (recordEnv env) (fun _ _ _ => True) P Q ∧ Q.state.now = P'.state.now ∧
      Q.state.trace = P'.state.trace.filter (fun e => ¬ K e.tid) ∧
      ∀ i, Q.thread i = if K i then P.thread i else P'.thread i := by
  induction hr with
  | refl => exact ⟨P, .refl, rfl, by rw [htrace]; rfl, fun i => (ite_self _).symm⟩
  | @tail b _ _ hs ih =>
      cases hs with
      | env s he =>
          obtain ⟨Q, hrun, hnow, hfilter, hthread⟩ := ih (he.2 ▸ hK)
          have hstep : recordEnv env Q.state ⟨s.now, Q.state.trace⟩ := ⟨hnow ▸ he.1, rfl⟩
          exact ⟨_, .tail hrun (.env _ _ hstep), rfl, hfilter.trans (by rw [he.2]), hthread⟩
      | act i op k hk hc =>
          rw [record_trace] at hK
          obtain ⟨Q, hrun, hnow, hfilter, hthread⟩ := ih fun e he => hK e (List.mem_cons_of_mem _ he)
          by_cases hi : K i
          · -- its call has changed nothing: the other run stays where it is
            have hsame : (h i op b.state.now).2 = b.state.now := hK _ List.mem_cons_self hi
            refine ⟨Q, hrun, hnow.trans hsame.symm, ?_, fun j => ?_⟩
            · rw [record_trace, List.filter_cons_of_neg (by simpa using hi)]
              exact hfilter
            · rw [hthread]
              by_cases hj : K j
              · rw [if_pos hj, if_pos hj]
              · have hne : j ≠ i := fun hji => hj (by rwa [hji])
                rw [if_neg hj, if_neg hj]
                exact (Function.update_of_ne hne _ _).symm
          · have hcall : Q.thread i = .call op k := by rw [hthread, if_neg hi, hk]
            refine ⟨_, .tail hrun (.act _ i op k hcall trivial), ?_, ?_, fun j => ?_⟩
            · rw [record_now, record_now, hnow]
            · rw [record_trace, record_trace, List.filter_cons_of_pos (by simpa using hi), hfilter, hnow]
            · rw [record_answer, record_answer, hnow]
              dsimp only
              by_cases hj : j = i
              · subst hj
                rw [if_neg hi, Function.update_self, Function.update_self]
              · rw [Function.update_of_ne hj, Function.update_of_ne hj, hthread]

end Effects
