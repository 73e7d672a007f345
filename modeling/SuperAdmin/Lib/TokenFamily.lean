import Mathlib.Data.Option.Basic

/-! # Families of one-time keys

What a manager of sessions with rotating keys is for.  A family belongs to one user.  At most one key of
it is good: presenting that key exchanges it for a new one, and presenting any other key that the family
was ever given ends the family.  So a key that is not the good one of its family, because it was exchanged
or because the family has ended, is never exchanged again, whatever else is done with the families
(`Spent.run`, `Spent.not_renewed`). -/

namespace TokenFamily

variable {S U K T : Type}

/-! ### The machine -/

/-- A family: whose it is, and the good key with the time until which it is, unless the family has
ended. -/
structure Family (U K T : Type) where
  user : U
  current : Option (K × T)

/-- The families, and to which of them a key was ever given. -/
structure State (S U K T : Type) where
  family : S → Option (Family U K T)
  owner : K → Option S

/-- What is done with the families. -/
inductive Use (S U K T : Type) where
  /-- Open a family with its first key. -/
  | start (s : S) (u : U) (k : K) (until_ : T)
  /-- Present a key, given which times are not over, who may go on, and which key could come next. -/
  | present (k : K) (alive : T → Bool) (may : U → Bool) (next : S → U → Option (K × T))
  | stop (s : S)
  | stopAll (u : U)
  | skip

/-- What the caller gets to know. -/
inductive Answer (K : Type) where
  | renewed (k : K)
  /-- The key was good once, or its family has ended. -/
  | stale
  | refused
  | failed
  | done
deriving DecidableEq

namespace State

variable {σ : State S U K T} {s : S} {u : U} {k : K}

/-- No family and no key. -/
def empty : State S U K T := ⟨fun _ => none, fun _ => none⟩

/-- The families that satisfy `q` end. -/
def endIf (σ : State S U K T) (q : S → Family U K T → Bool) : State S U K T where
  family s := (σ.family s).map fun f => if q s f then { f with current := none } else f
  owner := σ.owner

@[simp] theorem endIf_owner (q : S → Family U K T → Bool) : (σ.endIf q).owner = σ.owner := rfl

@[simp] theorem endIf_family (q : S → Family U K T → Bool) (s : S) : (σ.endIf q).family s =
    (σ.family s).map fun f => if q s f then { f with current := none } else f := rfl

/-- A key that its family has had and that is not its good one. -/
def Spent (σ : State S U K T) (k : K) : Prop :=
  ∃ s, σ.owner k = some s ∧ ∀ f, σ.family s = some f → ∀ t, f.current ≠ some (k, t)

section present

variable [DecidableEq S] [DecidableEq K]

/-- A family gets its good key. -/
def give (σ : State S U K T) (s : S) (u : U) (k : K) (until_ : T) : State S U K T where
  family s' := if s' = s then some ⟨u, some (k, until_)⟩ else σ.family s'
  owner k' := if k' = k then some s else σ.owner k'

@[simp] theorem give_family (until_ : T) (s' : S) : (σ.give s u k until_).family s' =
    if s' = s then some ⟨u, some (k, until_)⟩ else σ.family s' := rfl

@[simp] theorem give_owner (until_ : T) (k' : K) : (σ.give s u k until_).owner k' =
    if k' = k then some s else σ.owner k' := rfl

/-- A spent key stays spent when a new key is given out. -/
theorem Spent.give {s' : S} {k' : K} {until_ : T} (h : σ.Spent k) (hk' : σ.owner k' = none) :
    (σ.give s' u k' until_).Spent k := by
  obtain ⟨s, howner, hcurrent⟩ := h
  have hne : k ≠ k' := by
    rintro rfl
    rw [howner] at hk'
    cases hk'
  refine ⟨s, by rw [give_owner, if_neg hne, howner], fun f hf t ht => ?_⟩
  rw [give_family] at hf
  split at hf
  · cases hf
    cases ht
    exact hne rfl
  · exact hcurrent f hf t ht

def stop (σ : State S U K T) (s : S) : State S U K T := σ.endIf fun s' _ => decide (s' = s)

/-- A family that gets a good key loses the one it had. -/
theorem give_stop (until_ : T) : (σ.stop s).give s u k until_ = σ.give s u k until_ := by
  unfold give
  congr 1
  funext s'
  by_cases hs : s' = s
  · rw [if_pos hs, if_pos hs]
  · rw [if_neg hs, if_neg hs]
    unfold stop
    rw [endIf_family, decide_eq_false hs]
    simp

/-- The good key of a family is presented. -/
def renew (σ : State S U K T) (s : S) (u : U) (next : Option (K × T)) : Answer K × State S U K T :=
  match next with
  | none => (.failed, σ)
  | some (k, until_) =>
      if (σ.owner k).isNone then (.renewed k, σ.give s u k until_) else (.failed, σ)

/-- A key of a family is presented. -/
def presentIn (σ : State S U K T) (s : S) (f : Family U K T) (k : K) (alive : T → Bool) (may : U → Bool)
    (next : S → U → Option (K × T)) : Answer K × State S U K T :=
  match f.current with
  | none => (.stale, σ.stop s)
  | some (k', until_) =>
      if k' = k then
        if alive until_ then
          if may f.user then σ.renew s f.user (next s f.user) else (.refused, σ.stop s)
        else (.refused, σ)
      else (.stale, σ.stop s)

def present (σ : State S U K T) (k : K) (alive : T → Bool) (may : U → Bool)
    (next : S → U → Option (K × T)) : Answer K × State S U K T :=
  match σ.owner k with
  | none => (.refused, σ)
  | some s =>
      match σ.family s with
      | none => (.refused, σ)
      | some f => σ.presentIn s f k alive may next

section presentIn

variable {f : Family U K T} {alive : T → Bool} {may : U → Bool} {next : S → U → Option (K × T)}

theorem present_of (howner : σ.owner k = some s) (hf : σ.family s = some f) :
    σ.present k alive may next = σ.presentIn s f k alive may next := by
  unfold present
  rw [howner]
  dsimp only
  rw [hf]

theorem present_unknown (howner : σ.owner k = none) : σ.present k alive may next = (.refused, σ) := by
  unfold present
  rw [howner]

/-- Another key is good, or none. -/
theorem presentIn_stale (h : ∀ t, f.current ≠ some (k, t)) :
    σ.presentIn s f k alive may next = (.stale, σ.stop s) := by
  unfold presentIn
  cases hcurrent : f.current with
  | none => rfl
  | some p =>
      have hne : p.1 ≠ k := fun hp => h p.2 (hp ▸ hcurrent)
      exact if_neg hne

theorem presentIn_current {t : T} (h : f.current = some (k, t)) : σ.presentIn s f k alive may next =
    if alive t then if may f.user then σ.renew s f.user (next s f.user) else (.refused, σ.stop s)
    else (.refused, σ) := by
  unfold presentIn
  rw [h]
  exact if_pos rfl

end presentIn

/-! ### What a step can do -/

/-- The ways in which a step changes the families; a key is given out only if it is new. -/
inductive Moves (σ : State S U K T) : Use S U K T → Answer K → State S U K T → Prop
  | same (a : Use S U K T) (b : Answer K) (hb : ∀ k, b ≠ .renewed k) : Moves σ a b σ
  | ended (a : Use S U K T) (b : Answer K) (hb : ∀ k, b ≠ .renewed k) (q : S → Family U K T → Bool) :
      Moves σ a b (σ.endIf q)
  | opened (s : S) (u : U) (k : K) (until_ : T) (hs : σ.family s = none) (hk : σ.owner k = none) :
      Moves σ (.start s u k until_) .done (σ.give s u k until_)
  | renewed (s : S) (f : Family U K T) (k k' : K) (t until_ : T) (alive : T → Bool) (may : U → Bool)
      (next : S → U → Option (K × T)) (howner : σ.owner k = some s) (hs : σ.family s = some f)
      (hcurrent : f.current = some (k, t)) (hk : σ.owner k' = none) :
      Moves σ (.present k alive may next) (.renewed k') (σ.give s f.user k' until_)

theorem moves_presentIn {f : Family U K T} {alive : T → Bool} {may : U → Bool}
    {next : S → U → Option (K × T)} (howner : σ.owner k = some s) (hs : σ.family s = some f) :
    Moves σ (.present k alive may next) (σ.presentIn s f k alive may next).1
      (σ.presentIn s f k alive may next).2 := by
  have hstale : ∀ k', (Answer.stale : Answer K) ≠ .renewed k' := fun _ h => by cases h
  have hrefused : ∀ k', (Answer.refused : Answer K) ≠ .renewed k' := fun _ h => by cases h
  have hfailed : ∀ k', (Answer.failed : Answer K) ≠ .renewed k' := fun _ h => by cases h
  unfold presentIn
  cases hcurrent : f.current with
  | none => exact .ended _ _ hstale _
  | some p =>
      obtain ⟨k', t⟩ := p
      dsimp only
      by_cases hk : k' = k
      · subst hk
        rw [if_pos rfl]
        cases alive t with
        | false => exact .same _ _ hrefused
        | true =>
            rw [if_pos rfl]
            cases may f.user with
            | false => exact .ended _ _ hrefused _
            | true =>
                rw [if_pos rfl]
                unfold renew
                cases next s f.user with
                | none => exact .same _ _ hfailed
                | some p =>
                    dsimp only
                    cases hnew : σ.owner p.1 with
                    | none => exact .renewed s f k' p.1 t p.2 alive may next howner hs hcurrent hnew
                    | some s' => exact .same _ _ hfailed
      · rw [if_neg hk]
        exact .ended _ _ hstale _

end present

section step

variable [DecidableEq S] [DecidableEq U] [DecidableEq K]

def stopAll (σ : State S U K T) (u : U) : State S U K T := σ.endIf fun _ f => decide (f.user = u)

/-- One step of the machine. -/
def step (σ : State S U K T) : Use S U K T → Answer K × State S U K T
  | .start s u k until_ =>
      if (σ.family s).isNone && (σ.owner k).isNone then (.done, σ.give s u k until_) else (.failed, σ)
  | .present k alive may next => σ.present k alive may next
  | .stop s => (.done, σ.stop s)
  | .stopAll u => (.done, σ.stopAll u)
  | .skip => (.done, σ)

/-- The state after some steps. -/
def after (σ : State S U K T) (l : List (Use S U K T)) : State S U K T :=
  l.foldl (fun σ a => (σ.step a).2) σ

/-- The answers to some steps. -/
def answers (σ : State S U K T) : List (Use S U K T) → List (Answer K)
  | [] => []
  | a :: l => (σ.step a).1 :: (σ.step a).2.answers l

theorem moves_step (σ : State S U K T) (a : Use S U K T) : Moves σ a (σ.step a).1 (σ.step a).2 := by
  have hdone : ∀ k, (Answer.done : Answer K) ≠ .renewed k := fun _ h => by cases h
  cases a with
  | start s u k until_ =>
      unfold step
      dsimp only
      by_cases hfresh : ((σ.family s).isNone && (σ.owner k).isNone) = true
      · rw [if_pos hfresh]
        rw [Bool.and_eq_true, Option.isNone_iff_eq_none, Option.isNone_iff_eq_none] at hfresh
        exact .opened s u k until_ hfresh.1 hfresh.2
      · rw [if_neg hfresh]
        exact .same _ _ fun _ h => by cases h
  | present k alive may next =>
      show Moves σ _ (σ.present k alive may next).1 (σ.present k alive may next).2
      unfold present
      cases howner : σ.owner k with
      | none => exact .same _ _ fun _ h => by cases h
      | some s =>
          dsimp only
          cases hs : σ.family s with
          | none => exact .same _ _ fun _ h => by cases h
          | some f => exact moves_presentIn howner hs
  | stop s => exact .ended _ _ hdone _
  | stopAll u => exact .ended _ _ hdone _
  | skip => exact .same _ _ hdone

/-! ### What no step takes back -/

theorem Spent.step (h : σ.Spent k) (a : Use S U K T) : (σ.step a).2.Spent k := by
  have hmoves := moves_step σ a
  generalize (σ.step a).1 = b at hmoves
  generalize (σ.step a).2 = σ' at hmoves ⊢
  cases hmoves with
  | same a b hb => exact h
  | ended a b hb q =>
      obtain ⟨s, howner, hcurrent⟩ := h
      refine ⟨s, howner, fun f hf t ht => ?_⟩
      rw [endIf_family, Option.map_eq_some_iff] at hf
      obtain ⟨f', hf', rfl⟩ := hf
      split at ht
      · cases ht
      · exact hcurrent f' hf' t ht
  | opened s' u k' until_ hs hk => exact h.give hk
  | renewed s' f k₁ k' t until_ alive may next howner hs hcurrent hk => exact h.give hk

/-- Once spent, a key stays spent along every run. -/
theorem Spent.run (h : σ.Spent k) (l : List (Use S U K T)) : (σ.after l).Spent k := by
  induction l generalizing σ with
  | nil => exact h
  | cons a l ih => exact ih (h.step a)

variable {alive : T → Bool} {may : U → Bool} {next : S → U → Option (K × T)}

/-- A spent key is not exchanged. -/
theorem Spent.not_renewed (h : σ.Spent k) (k' : K) :
    (σ.step (.present k alive may next)).1 ≠ .renewed k' := by
  intro hrenewed
  obtain ⟨s, howner, hcurrent⟩ := h
  have hmoves := moves_step σ (.present k alive may next)
  rw [hrenewed] at hmoves
  generalize (σ.step (.present k alive may next)).2 = σ' at hmoves
  cases hmoves with
  | same a b hb => exact hb k' rfl
  | ended a b hb q => exact hb k' rfl
  | renewed s' f k k' t until_ alive may next howner' hs hcurrent' hk =>
      rw [howner] at howner'
      cases howner'
      exact hcurrent f hs t hcurrent'

end step

end State

end TokenFamily
