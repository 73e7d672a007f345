import SuperAdmin.Lib.Prog

/-! # A log that tells the state

A log *tells* a view of the state if whoever knows the view at some moment and reads the entries that
were added since then knows the view again.  The steps that do so compose: over the calls of a program
(`Told.only`) and over a run of any length (`Told.foldl`). -/

namespace Effects

/-- Every step of a run meets a condition where it is taken. -/
def Along {σ A : Type} (step : σ → A → σ) (C : σ → A → Prop) : List A → σ → Prop
  | [], _ => True
  | x :: l, s => C s x ∧ Along step C l (step s x)

instance decidableAlong {σ A : Type} (step : σ → A → σ) (C : σ → A → Prop) [∀ s x, Decidable (C s x)] :
    (l : List A) → (s : σ) → Decidable (Along step C l s)
  | [], _ => isTrue trivial
  | x :: l, s =>
      have := decidableAlong step C l (step s x)
      inferInstanceAs (Decidable (C s x ∧ Along step C l (step s x)))

/-- What the log of a state is, what it is to tell, and how an entry is read. -/
structure Telling (σ V E : Type) where
  log : σ → List E
  view : σ → V
  tell : V → E → V

namespace Telling

variable {σ V E A : Type} {T : Telling σ V E} {a b c : σ}

/-- Between two states entries were only added, and they tell what has changed. -/
def Told (T : Telling σ V E) (a b : σ) : Prop :=
  ∃ added, T.log b = T.log a ++ added ∧ T.view b = added.foldl T.tell (T.view a)

theorem Told.silent (hlog : T.log b = T.log a) (hview : T.view b = T.view a) : T.Told a b :=
  ⟨[], by rw [hlog, List.append_nil], hview⟩

theorem Told.refl (a : σ) : T.Told a a := .silent rfl rfl

theorem Told.entry {e : E} (hlog : T.log b = T.log a ++ [e]) (hview : T.view b = T.tell (T.view a) e) :
    T.Told a b := ⟨[e], hlog, hview⟩

theorem Told.trans (hab : T.Told a b) (hbc : T.Told b c) : T.Told a c := by
  obtain ⟨l, hl, hvl⟩ := hab
  obtain ⟨m, hm, hvm⟩ := hbc
  refine ⟨l ++ m, ?_, ?_⟩
  · rw [hm, hl, List.append_assoc]
  · rw [hvm, hvl, List.foldl_append]

/-- A program each of whose calls is told. -/
theorem Told.only {S : Sig} {C : S.Op → Prop} {h : Handler S σ} {p : Prog S A} (hp : p.Only C)
    (hC : ∀ op s, C op → T.Told s (h op s).2) (s : σ) : T.Told s (p.run h s).2 :=
  Prog.Only.run (I := T.Told s) (fun op s' hop hs => hs.trans (hC op s' hop)) hp (.refl s)

/-- Steps that are told wherever they meet `C` and `I` holds, which they keep. -/
theorem Told.foldl {I : σ → Prop} {step : σ → A → σ} {C : σ → A → Prop} {l : List A}
    (hstep : ∀ x ∈ l, ∀ s, I s → C s x → T.Told s (step s x) ∧ I (step s x)) {s : σ} (hs : I s)
    (hl : Along step C l s) : T.Told s (l.foldl step s) := by
  induction l generalizing s with
  | nil => exact .refl s
  | cons x l ih =>
      obtain ⟨hx, hrest⟩ := hl
      obtain ⟨htold, hnext⟩ := hstep x List.mem_cons_self s hs hx
      exact htold.trans (ih (fun y hy => hstep y (List.mem_cons_of_mem x hy)) hnext hrest)

/-- Reading what was added to the log. -/
theorem Told.read (h : T.Told a b) :
    T.log a <+: T.log b ∧ T.view b = ((T.log b).drop (T.log a).length).foldl T.tell (T.view a) := by
  obtain ⟨added, hlog, hview⟩ := h
  rw [hlog, List.drop_left]
  exact ⟨List.prefix_append _ _, hview⟩

end Telling

end Effects
