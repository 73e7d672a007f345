import SuperAdmin.Lib.Course

/-! # A tally of the calls

Something is counted along the calls of a program and their answers.  What is known of the tally where a
program returns is proved for the program alone, by one rule for each way to put programs together
(`Tallied`); along every run of a pool it holds of the calls that the thread has made (`Run.tallied`). -/

namespace Effects

variable {S : Sig} {σ ι τ α β : Type}

namespace Prog

/-- Whatever the calls of a program are answered, counted on from `t`: `Q` holds of a result and the tally
there. -/
def Tallied (count : τ → Answered S → τ) (Q : α → τ → Prop) : Prog S α → τ → Prop
  | pure a, t => Q a t
  | call op k, t => ∀ r, (k r).Tallied count Q (count t ⟨op, r⟩)

variable {count : τ → Answered S → τ} {Q : α → τ → Prop} {Q' : β → τ → Prop} {t : τ} {p : Prog S α}
  {op : S.Op} {C : S.Op → Prop}

/-- The rule of a call that is followed by a program. -/
theorem Tallied.step {f : S.Res op → Prog S β} (hf : ∀ r, (f r).Tallied count Q' (count t ⟨op, r⟩)) :
    (perform op >>= f).Tallied count Q' t := hf

/-- The rule of a call that does not count. -/
theorem Tallied.skip {f : S.Res op → Prog S β} (hop : ∀ r, count t ⟨op, r⟩ = t)
    (hf : ∀ r, (f r).Tallied count Q' t) : (perform op >>= f).Tallied count Q' t := by
  intro r
  rw [hop]
  exact hf r

/-- Sequential composition: the second program goes on counting. -/
theorem Tallied.bind {f : α → Prog S β} (hp : p.Tallied count Q t)
    (hf : ∀ a t, Q a t → (f a).Tallied count Q' t) : (p >>= f).Tallied count Q' t := by
  induction p generalizing t with
  | pure a => exact hf a t hp
  | call op k ih => exact fun r => ih r (hp r)

/-- A program none of whose calls counts, and what is known of its result. -/
theorem Only.tallied_meets {C' : S.Op → Prop} {R : α → Prop} (hp : p.Only C)
    (hC : ∀ op r, C op → count t ⟨op, r⟩ = t) (hm : p.Meets C' (fun _ _ => True) R) :
    p.Tallied count (fun a t' => t' = t ∧ R a) t := by
  induction p with
  | pure a => exact ⟨rfl, hm⟩
  | call op k ih =>
      obtain ⟨hop, hk⟩ := hp
      intro r
      rw [hC op r hop]
      exact ih r (hk r) (hm.2 r trivial)

theorem Only.tallied (hp : p.Only C) (hC : ∀ op r, C op → count t ⟨op, r⟩ = t) :
    p.Tallied count (fun _ t' => t' = t ∧ True) t := hp.tallied_meets hC (meets_true p)

/-- The tally of the calls of a course. -/
theorem Tallied.traces (hp : p.Tallied count Q t) :
    p.Traces (fun _ => True) fun a l => Q a (l.foldl count t) := by
  induction p generalizing t with
  | pure a => exact ⟨trivial, hp⟩
  | call op k ih => exact ⟨trivial, fun r => ih r (hp r)⟩

end Prog

section calls

variable [DecidableEq ι] {h : ι → Handler S σ} {i : ι} {tr : List (Event S σ ι)}

/-- What holds of the calls of a thread, read off the trace. -/
theorem forall_mem_calls {Q : Answered S → Prop} :
    (∀ c ∈ calls h i tr, Q c) ↔ ∀ e ∈ tr, e.tid = i → Q ⟨e.op, (h e.tid e.op e.before).1⟩ := by
  constructor
  · rintro hQ e he rfl
    exact hQ _ ((mem_calls h e.tid).mpr ⟨e, he, rfl, rfl⟩)
  · intro hQ c hc
    obtain ⟨e, he, rfl, rfl⟩ := (mem_calls h i).mp hc
    exact hQ e he rfl

theorem exists_mem_calls {Q : Answered S → Prop} :
    (∃ c ∈ calls h i tr, Q c) ↔ ∃ e ∈ tr, e.tid = i ∧ Q ⟨e.op, (h e.tid e.op e.before).1⟩ := by
  constructor
  · rintro ⟨c, hc, hQ⟩
    obtain ⟨e, he, rfl, rfl⟩ := (mem_calls h i).mp hc
    exact ⟨e, he, rfl, hQ⟩
  · rintro ⟨e, he, rfl, hQ⟩
    exact ⟨_, (mem_calls h e.tid).mpr ⟨e, he, rfl, rfl⟩, hQ⟩

/-- The number of the calls of a kind. -/
theorem length_filter_calls (q : S.Op → Bool) :
    ((calls h i tr).filter fun c => q c.1).length = (tr.filter fun e => e.tid = i ∧ q e.op).length := by
  unfold calls
  rw [List.filter_reverse, List.length_reverse, List.filter_map, List.length_map, List.filter_filter]
  congr 1
  refine List.filter_congr fun e _ => ?_
  simp [Bool.and_comm]

end calls

section run

variable [DecidableEq ι] {h : ι → Handler S σ} {env : σ → σ → Prop} {C : ι → S.Op → Recorded S σ ι → Prop}
  {P P' : Pool S (Recorded S σ ι) ι α} {count : τ → Answered S → τ} {Q : α → τ → Prop} {t : τ} {i : ι}

/-- What a thread that has returned has counted. -/
theorem Pool.Run.tallied (hr : Run (record h) (recordEnv env) C P P') (htrace : P.state.trace = [])
    (hp : (P.thread i).Tallied count Q t) {a : α} (ha : (P'.thread i).result? = some a) :
    Q a ((calls h i P'.state.trace).foldl count t) := by
  have hcourse := hr.traces htrace hp.traces
  rw [Prog.result?_eq_some.mp ha] at hcourse
  simpa using hcourse.2

end run

end Effects
