import SuperAdmin.Lib.Pool

/-! # Reads that agree with one instant

A thread reads a state piece by piece while others change it.  What it has read is *held* as long as some
instant since its first call agrees both with what it has read and, in what it still has to read, with the
present.  A step of another thread keeps that if it leaves what has been read right, or leaves what is still
to be read as it is.  After the last read some instant agrees with all of them. -/

namespace Effects

variable {S : Sig} {σ ι X Y : Type}

/-- A state in which a call was executed at or after some call of thread `j`. -/
def Since (j : ι) (tr : List (Event S σ ι)) (w : σ) : Prop :=
  ∃ l₁ e l₂, tr = l₁ ++ e :: l₂ ∧ e.before = w ∧ ∃ f ∈ e :: l₂, f.tid = j

/-- A state in which a call was executed at or after some call of thread `j`, and at or before some call of
it. -/
def During (j : ι) (tr : List (Event S σ ι)) (w : σ) : Prop :=
  ∃ l₁ e l₂, tr = l₁ ++ e :: l₂ ∧ e.before = w ∧ (∃ f ∈ e :: l₂, f.tid = j) ∧ ∃ g ∈ l₁ ++ [e], g.tid = j

variable {j : ι} {tr : List (Event S σ ι)} {w : σ}

theorem Since.cons (h : Since j tr w) (e : Event S σ ι) : Since j (e :: tr) w := by
  obtain ⟨l₁, e', l₂, rfl, hbefore, hstarted⟩ := h
  exact ⟨e :: l₁, e', l₂, rfl, hbefore, hstarted⟩

/-- Once the thread has made a call, every call is executed since then. -/
theorem Since.of_started (h : ∃ f ∈ tr, f.tid = j) (e : Event S σ ι) : Since j (e :: tr) e.before := by
  obtain ⟨f, hf, htid⟩ := h
  exact ⟨[], e, tr, rfl, rfl, f, List.mem_cons_of_mem e hf, htid⟩

/-- The next call of the thread closes what went on since its first. -/
theorem Since.during (h : Since j tr w) {e : Event S σ ι} (he : e.tid = j) : During j (e :: tr) w := by
  obtain ⟨l₁, e', l₂, rfl, hbefore, hstarted⟩ := h
  exact ⟨e :: l₁, e', l₂, rfl, hbefore, hstarted, e, List.mem_cons_self, he⟩

theorem During.cons (h : During j tr w) (e : Event S σ ι) : During j (e :: tr) w := by
  obtain ⟨l₁, e', l₂, rfl, hbefore, hstarted, g, hg, hlater⟩ := h
  exact ⟨e :: l₁, e', l₂, rfl, hbefore, hstarted, g, List.mem_cons_of_mem e hg, hlater⟩

/-- A call of the thread is executed during its calls. -/
theorem During.self {e : Event S σ ι} (he : e.tid = j) : During j (e :: tr) e.before :=
  ⟨[], e, tr, rfl, rfl, ⟨e, List.mem_cons_self, he⟩, e, List.mem_singleton_self e, he⟩

/-- Every such state was met by some call. -/
theorem During.exists_event (h : During j tr w) : ∃ e ∈ tr, e.before = w := by
  obtain ⟨l₁, e, l₂, rfl, hbefore, -⟩ := h
  exact ⟨e, List.mem_append_right l₁ List.mem_cons_self, hbefore⟩

/-- What thread `j` has read, `A`, and what it still has to read, `U`, are those of one instant. -/
structure Held (j : ι) (A : σ → Prop) (U : σ → X) (s : Recorded S σ ι) : Prop where
  started : ∃ f ∈ s.trace, f.tid = j
  instant : A s.now ∨ ∃ w, Since j s.trace w ∧ A w ∧ U w = U s.now

namespace Held

variable {h : ι → Handler S σ} {A : σ → Prop} {U : σ → X} {V : σ → Y} {s : Recorded S σ ι} {op : S.Op}

/-- The first read holds what it reads. -/
theorem first (hj : (h j op s.now).2 = s.now) (hA : A s.now) : Held j A U (record h j op s).2 where
  started := ⟨_, List.mem_cons_self, rfl⟩
  instant := by
    left
    rw [record_now, hj]
    exact hA

/-- A step of another thread that leaves what was read right, or what is to be read as it is. -/
theorem other (hheld : Held j A U s) (i : ι)
    (hstep : A (h i op s.now).2 ∨ U (h i op s.now).2 = U s.now) : Held j A U (record h i op s).2 where
  started := by
    obtain ⟨f, hf, htid⟩ := hheld.started
    exact ⟨f, List.mem_cons_of_mem _ hf, htid⟩
  instant := by
    rcases hstep with hright | hsame
    · exact .inl hright
    · right
      rw [record_now, record_trace, hsame]
      rcases hheld.instant with hnow | ⟨w, hsince, hA, hU⟩
      · exact ⟨s.now, Since.of_started hheld.started ⟨i, op, s.now⟩, hnow, rfl⟩
      · exact ⟨w, hsince.cons _, hA, hU⟩

/-- A step of the environment that shows in nothing that is read. -/
theorem env (hheld : Held j A U s) {s' : Recorded S σ ι} (htrace : s'.trace = s.trace)
    (hA : A s.now → A s'.now) (hU : U s'.now = U s.now) : Held j A U s' where
  started := by
    rw [htrace]
    exact hheld.started
  instant := by
    rw [htrace, hU]
    exact hheld.instant.imp_left hA

/-- A read of one more piece. -/
theorem read {U : σ → X × Y} (hheld : Held j A U s) (hj : (h j op s.now).2 = s.now) :
    Held j (fun w => A w ∧ (U w).1 = (U s.now).1) (fun w => (U w).2) (record h j op s).2 where
  started := ⟨_, List.mem_cons_self, rfl⟩
  instant := by
    rw [record_now, record_trace, hj]
    rcases hheld.instant with hnow | ⟨w, hsince, hA, hU⟩
    · exact .inl ⟨hnow, rfl⟩
    · exact .inr ⟨w, hsince.cons _, ⟨hA, congrArg Prod.fst hU⟩, congrArg Prod.snd hU⟩

/-- A call of the thread that reads nothing of the state. -/
theorem skip (hheld : Held j A U s) (hj : (h j op s.now).2 = s.now) : Held j A U (record h j op s).2 :=
  hheld.other j (.inr (congrArg U hj))

/-- The last read: some instant during the calls agrees with all that was read. -/
theorem last (hheld : Held j A U s) (op : S.Op) :
    ∃ w, During j (⟨j, op, s.now⟩ :: s.trace) w ∧ A w ∧ U w = U s.now := by
  rcases hheld.instant with hnow | ⟨w, hsince, hA, hU⟩
  · exact ⟨s.now, During.self (e := ⟨j, op, s.now⟩) rfl, hnow, rfl⟩
  · exact ⟨w, hsince.during rfl, hA, hU⟩

end Held

end Effects
