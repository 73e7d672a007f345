import SuperAdmin.Lib.Course

/-! # Calls that need a permit

A permit lets a program make a call once certain calls have been answered in a certain way; further
calls take no permit back.  A program is *mediated* when it makes no call without its permit, whatever its
calls are answered.  Along every run of a pool of mediated programs, whatever the others do in between,
each executed call had its permit from the calls of its own thread (`Pool.Run.permitted`). -/

namespace Effects

variable {S : Sig} {σ ι α β : Type}

/-- Which calls may be made after some calls. -/
structure Permits (S : Sig) where
  allows : List (Answered S) → S.Op → Prop
  /-- More calls take no permit back. -/
  grows : ∀ {l : List (Answered S)} (c : Answered S) {op : S.Op}, allows l op → allows (l ++ [c]) op

namespace Prog

/-- After the calls `l`, every call that `p` makes is permitted, and `R` holds of its result and all calls
before it. -/
def Mediated (M : Permits S) (R : α → List (Answered S) → Prop) : Prog S α → List (Answered S) → Prop
  | pure a, l => R a l
  | call op k, l => M.allows l op ∧ ∀ r, (k r).Mediated M R (l ++ [⟨op, r⟩])

variable {M : Permits S} {R R' : α → List (Answered S) → Prop} {l : List (Answered S)}

theorem Mediated.pure {a : α} (ha : R a l) : (Prog.pure a : Prog S α).Mediated M R l := ha

/-- The rule of a call that is followed by a program. -/
theorem Mediated.step {Q : β → List (Answered S) → Prop} {op : S.Op} {f : S.Res op → Prog S β}
    (hop : M.allows l op) (hf : ∀ r, (f r).Mediated M Q (l ++ [⟨op, r⟩])) :
    (perform op >>= f).Mediated M Q l := ⟨hop, hf⟩

theorem Mediated.mono {p : Prog S α} (hp : p.Mediated M R l) (hR : ∀ a l, R a l → R' a l) :
    p.Mediated M R' l := by
  induction p generalizing l with
  | pure a => exact hR a l hp
  | call op k ih =>
      obtain ⟨hop, hk⟩ := hp
      exact ⟨hop, fun r => ih r (hk r)⟩

/-- What two monitors show of a program. -/
theorem Mediated.and {M' : Permits S} {p : Prog S α} (hp : p.Mediated M R l) (hp' : p.Mediated M' R' l) :
    p.Mediated M (fun a l => R a l ∧ R' a l) l := by
  induction p generalizing l with
  | pure a => exact ⟨hp, hp'⟩
  | call op k ih =>
      obtain ⟨hop, hk⟩ := hp
      obtain ⟨-, hk'⟩ := hp'
      exact ⟨hop, fun r => ih r (hk r) (hk' r)⟩

/-- Sequential composition: the permits of the second program come from the calls of the first. -/
theorem Mediated.bind {Q : β → List (Answered S) → Prop} {p : Prog S α} {f : α → Prog S β}
    (hp : p.Mediated M R l) (hf : ∀ a l, R a l → (f a).Mediated M Q l) : (p >>= f).Mediated M Q l := by
  induction p generalizing l with
  | pure a => exact hf a l hp
  | call op k ih =>
      obtain ⟨hop, hk⟩ := hp
      exact ⟨hop, fun r => ih r (hk r)⟩

/-- The calls before a program stay the first ones. -/
theorem Mediated.extends {p : Prog S α} (hp : p.Mediated M R l) :
    p.Mediated M (fun a l' => R a l' ∧ l <+: l') l := by
  have hextends : ∀ (p : Prog S α) (l₁ : List (Answered S)), p.Mediated M R l₁ → l <+: l₁ →
      p.Mediated M (fun a l' => R a l' ∧ l <+: l') l₁ := by
    intro p
    induction p with
    | pure a => exact fun l₁ ha hl => ⟨ha, hl⟩
    | call op k ih =>
        intro l₁ h hl
        obtain ⟨hop, hk⟩ := h
        exact ⟨hop, fun r => ih r _ (hk r) (hl.trans (List.prefix_append _ _))⟩
  exact hextends p l hp (List.prefix_refl l)

/-- Sequential composition where the second program may look back at the calls before the first. -/
theorem Mediated.seq {Q : β → List (Answered S) → Prop} {p : Prog S α} {f : α → Prog S β}
    (hp : p.Mediated M R l) (hf : ∀ a l', l <+: l' → R a l' → (f a).Mediated M Q l') :
    (p >>= f).Mediated M Q l :=
  hp.extends.bind fun a l' h => hf a l' h.2 h.1

/-- A program all of whose calls are permitted before it starts. -/
theorem Only.mediated {C : S.Op → Prop} {p : Prog S α} (hp : p.Only C) (hC : ∀ op, C op → M.allows l op) :
    p.Mediated M (fun _ _ => True) l := by
  induction p generalizing l with
  | pure a => trivial
  | call op k ih =>
      obtain ⟨hop, hk⟩ := hp
      exact ⟨hC op hop, fun r => ih r (hk r) fun op h => M.grows _ (hC op h)⟩

end Prog

/-! ### Runs of mediated programs -/

section run

variable [DecidableEq ι] {h : ι → Handler S σ} {env : σ → σ → Prop}
  {C : ι → S.Op → Recorded S σ ι → Prop} {P P' : Pool S (Recorded S σ ι) ι α}
  {M : ι → Permits S} {R : ι → α → List (Answered S) → Prop}

/-- Every executed call had its permit. -/
def Permitted (h : ι → Handler S σ) (M : ι → Permits S) : List (Event S σ ι) → Prop
  | [] => True
  | e :: older => (M e.tid).allows (calls h e.tid older) e.op ∧ Permitted h M older

theorem Permitted.split {tr newer older : List (Event S σ ι)} {e : Event S σ ι} (hp : Permitted h M tr)
    (htr : tr = newer ++ e :: older) : (M e.tid).allows (calls h e.tid older) e.op := by
  subst htr
  induction newer with
  | nil => exact hp.1
  | cons e' newer ih => exact ih hp.2

/-- Along a run a mediated thread stays mediated after what it has called. -/
theorem Pool.Run.mediated (hr : Run (record h) (recordEnv env) C P P')
    (h0 : ∀ i, (P.thread i).Mediated (M i) (R i) (calls h i P.state.trace)) (i : ι) :
    (P'.thread i).Mediated (M i) (R i) (calls h i P'.state.trace) := by
  induction hr with
  | refl => exact h0 i
  | tail _ hs ih =>
      cases hs with
      | env s he =>
          rw [he.2]
          exact ih
      | act j op k hk hc =>
          rw [record_trace]
          by_cases hj : j = i
          · subst hj
            rw [hk] at ih
            simpa [calls_cons_self] using ih.2 _
          · rw [calls_cons_ne h i hj]
            simpa only [Function.update_of_ne (Ne.symm hj)] using ih

/-- **Complete mediation.** Along every run of mediated programs each executed call had its permit. -/
theorem Pool.Run.permitted (hr : Run (record h) (recordEnv env) C P P') (htrace : P.state.trace = [])
    (h0 : ∀ i, (P.thread i).Mediated (M i) (R i) []) : Permitted h M P'.state.trace := by
  have hstart : ∀ i, (P.thread i).Mediated (M i) (R i) (calls h i P.state.trace) := by
    intro i
    rw [htrace]
    exact h0 i
  induction hr with
  | refl =>
      rw [htrace]
      trivial
  | tail hr hs ih =>
      cases hs with
      | env s he =>
          rw [he.2]
          exact ih
      | act i op k hk hc =>
          have hi := Run.mediated hr hstart i
          rw [hk] at hi
          exact ⟨hi.1, ih⟩

end run

end Effects
