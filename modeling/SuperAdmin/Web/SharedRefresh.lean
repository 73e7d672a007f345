import SuperAdmin.Lib.Course
import SuperAdmin.Web.Promises

/-! # One refresh for all that wait

Of a page at most one refresh is on its way; whoever asks for a refresh meanwhile gets what that one comes
to; and a request is sent a second time only after a refresh that has succeeded. -/

namespace SuperAdmin.SingleFlight

open Effects Http Web

variable {σ ι κ μ : Type}

/-! ### How often a request is sent -/

/-- A call that sends a request to a path. -/
def sendsTo (path : String) : WebOp → Bool
  | .fetch f => f.path == path
  | _ => false

/-- The number of requests to a path among some calls. -/
def sent (path : String) (l : List (Answered WebEff)) : ℕ := l.countP fun c => sendsTo path c.1

/-- An awaited refresh that was resolved with `true`. -/
def Renewed (c : Answered WebEff) : Prop := ∃ id, c = ⟨.awaitRefresh id, .ok true⟩

/-- Calls with one request to a path, or with one before and one after an awaited refresh. -/
def Retried (path : String) (l : List (Answered WebEff)) : Prop :=
  sent path l ≤ 1 ∨
    ∃ l₁ c l₂, l = l₁ ++ c :: l₂ ∧ Renewed c ∧ sent path l₁ ≤ 1 ∧ sent path l₂ ≤ 1

section counting

variable {path : String} {l l' l₁ l₂ : List (Answered WebEff)} {c c' : Answered WebEff}

theorem sent_append : sent path (l ++ l') = sent path l + sent path l' := List.countP_append

theorem sent_cons_of_sends (h : sendsTo path c.1 = true) : sent path (c :: l) = sent path l + 1 :=
  List.countP_cons_of_pos h

theorem sent_cons_of_not (h : sendsTo path c.1 = false) : sent path (c :: l) = sent path l := by
  simp [sent, h]

theorem Renewed.not_sends (h : Renewed c) : sendsTo path c.1 = false := by
  obtain ⟨id, rfl⟩ := h
  rfl

theorem Retried.append_right (h : Retried path l) (h' : sent path l' = 0) : Retried path (l ++ l') := by
  rcases h with h | ⟨l₁, c, l₂, rfl, hc, h₁, h₂⟩
  · left
    rw [sent_append]
    omega
  · refine .inr ⟨l₁, c, l₂ ++ l', by simp, hc, h₁, ?_⟩
    rw [sent_append]
    omega

theorem Retried.append_left (h : Retried path l) (h' : sent path l' = 0) : Retried path (l' ++ l) := by
  rcases h with h | ⟨l₁, c, l₂, rfl, hc, h₁, h₂⟩
  · left
    rw [sent_append]
    omega
  · refine .inr ⟨l' ++ l₁, c, l₂, by simp, hc, ?_, h₂⟩
    rw [sent_append]
    omega

theorem Retried.sent_le (h : Retried path l) : sent path l ≤ 2 := by
  rcases h with h | ⟨l₁, c, l₂, rfl, hc, h₁, h₂⟩
  · omega
  · rw [sent_append, sent_cons_of_not hc.not_sends]
    omega

/-- Between two requests a refresh was awaited. -/
theorem Retried.between (h : Retried path (l₁ ++ c :: (l ++ c' :: l₂))) (hc : sendsTo path c.1 = true)
    (hc' : sendsTo path c'.1 = true) : ∃ x ∈ l, Renewed x := by
  rcases h with h | ⟨a, x, b, hsplit, hx, ha, hb⟩
  · rw [sent_append, sent_cons_of_sends hc, sent_append, sent_cons_of_sends hc'] at h
    omega
  · -- the awaited refresh is neither of the two requests
    have hne : c ≠ x := by
      rintro rfl
      rw [hx.not_sends] at hc
      cases hc
    have hne' : c' ≠ x := by
      rintro rfl
      rw [hx.not_sends] at hc'
      cases hc'
    rcases List.append_eq_append_iff.mp hsplit with ⟨as, rfl, htail⟩ | ⟨bs, rfl, htail⟩
    · rcases List.cons_eq_append_iff.mp htail with ⟨rfl, h⟩ | ⟨as', rfl, htail'⟩
      · exact absurd (List.cons.inj h).1.symm hne
      · rcases List.append_eq_append_iff.mp htail' with ⟨bs, rfl, h⟩ | ⟨bs, rfl, h⟩
        · rcases List.cons_eq_append_iff.mp h with ⟨rfl, h⟩ | ⟨bs', rfl, h⟩
          · exact absurd (List.cons.inj h).1 hne'
          · rw [sent_append, sent_cons_of_sends hc, sent_append, sent_cons_of_sends hc'] at ha
            omega
        · rcases List.cons_eq_append_iff.mp h with ⟨rfl, h⟩ | ⟨bs', rfl, h⟩
          · exact absurd (List.cons.inj h).1.symm hne'
          · exact ⟨x, by simp, hx⟩
    · rcases List.cons_eq_append_iff.mp htail with ⟨rfl, h⟩ | ⟨bs', rfl, h⟩
      · exact absurd (List.cons.inj h).1 hne
      · rw [h, sent_append, sent_cons_of_sends hc, sent_append, sent_cons_of_sends hc'] at hb
        omega

end counting

/-! ### The requests of the flows -/

section requests

variable {path : String}

/-- A program that sends nothing to a path. -/
theorem silent_traces {α : Type} {p : WebProc α} (hp : p.Only fun op : WebOp => sendsTo path op = false) :
    p.Traces (fun l => sent path l = 0) fun _ l => sent path l = 0 := by
  have hzero : ∀ l : List (Answered WebEff), (∀ c ∈ l, sendsTo path c.1 = false) → sent path l = 0 := by
    intro l hl
    apply List.countP_eq_zero.mpr
    intro c hc
    rw [hl c hc]
    exact Bool.false_ne_true
  exact hp.traces.mono hzero fun _ => hzero

theorem send_traces (init : RequestInit) :
    (send path init).Traces (fun l => sent path l ≤ 1) fun _ l => sent path l ≤ 1 := by
  have hone : ∀ (auth : AuthState) (n : ℕ) (l : List (Answered WebEff)), sent path l = 0 →
      sent path (⟨.getAuthState, auth⟩ :: ⟨.fetch (fetchOf path init auth.accessToken), n⟩ :: l) ≤ 1 := by
    intro auth n l hl
    have hsends : sendsTo path (.fetch (fetchOf path init auth.accessToken)) = true := beq_self_eq_true path
    rw [sent_cons_of_not rfl, sent_cons_of_sends hsends, hl]
  refine ⟨Nat.zero_le 1, fun auth => ⟨Nat.zero_le 1, fun n => ⟨hone auth n [] rfl, fun status => ?_⟩⟩⟩
  exact ⟨hone auth n [⟨.response n, status⟩] rfl, hone auth n [⟨.response n, status⟩] rfl⟩

theorem unwrap_silent (response : FetchResponse) :
    (unwrap response).Only fun op : WebOp => sendsTo path op = false := by
  refine (unwrap_only response).mono fun op hop => ?_
  cases op with
  | json n => rfl
  | _ => exact hop.elim

theorem retry_traces (init : RequestInit) :
    (retry path init).Traces (fun l => sent path l ≤ 1) fun _ l => sent path l ≤ 1 := by
  refine (send_traces init).bind fun res l hl => ?_
  have hmore : ∀ l', sent path l' = 0 → sent path (l ++ l') ≤ 1 := by
    intro l' hl'
    rw [sent_append]
    omega
  cases res with
  | error e => exact ⟨hmore [] rfl, hmore [] rfl⟩
  | ok response => exact (silent_traces (unwrap_silent response)).mono hmore fun _ => hmore

/-- A refresh sends nothing to the path, and its last call awaits it. -/
theorem refreshAccessToken_traces (hpath : path ≠ "/auth/refresh") :
    refreshAccessToken.Traces (fun l => sent path l = 0) fun outcome l =>
      sent path l = 0 ∧ (outcome = .ok true → ∃ l' c, l = l' ++ [c] ∧ Renewed c) := by
  have hsilent : ∀ op : WebOp, op.ofRefresh → sendsTo path op = false := by
    intro op hop
    cases op with
    | fetch f =>
        obtain rfl : f = refreshFetch := hop
        exact beq_false_of_ne fun h => hpath h.symm
    | _ => rfl
  have hawait : ∀ (id : ℕ) (l : List (Answered WebEff)), sent path l = 0 →
      (Web.perform (.awaitRefresh id)).Traces (fun l' => sent path (l ++ l') = 0) fun outcome l' =>
        sent path (l ++ l') = 0 ∧ (outcome = .ok true → ∃ l₁ c, l ++ l' = l₁ ++ [c] ∧ Renewed c) := by
    intro id l hl
    have hone : ∀ r, sent path (l ++ [⟨.awaitRefresh id, r⟩]) = 0 := by
      intro r
      rw [sent_append, hl]
      rfl
    refine ⟨by simpa using hl, fun r => ⟨hone r, hone r, ?_⟩⟩
    rintro rfl
    exact ⟨l, _, rfl, id, rfl⟩
  refine .step rfl fun ⟨started, id⟩ => ?_
  cases started with
  | false => exact hawait id [_] rfl
  | true =>
      have hstart : (startRefresh id).Only fun op : WebOp => sendsTo path op = false :=
        .bind (doRefresh_only.mono hsilent) fun outcome => .perform rfl
      have hjoined : ∀ l, sent path l = 0 →
          sent path ((⟨.joinRefresh, (true, id)⟩ : Answered WebEff) :: l) = 0 := by
        intro l hl
        rw [sent_cons_of_not rfl, hl]
      refine ((silent_traces hstart).mono hjoined fun _ => hjoined).bind fun _ l hl => ?_
      exact hawait id (⟨.joinRefresh, (true, id)⟩ :: l) hl

theorem request_traces (init : RequestInit) :
    (request path init).Traces (Retried path) fun _ l => Retried path l := by
  refine ((send_traces init).mono (fun l => Or.inl) fun _ _ h => h).bind fun res l hl => ?_
  have hmore : ∀ l', sent path l' = 0 → Retried path (l ++ l') := by
    intro l' hl'
    left
    rw [sent_append]
    omega
  have hunwrap : ∀ response, (unwrap response).Traces (fun l' => Retried path (l ++ l')) fun _ l' =>
      Retried path (l ++ l') := fun response =>
    (silent_traces (unwrap_silent response)).mono hmore fun _ => hmore
  cases res with
  | error e => exact ⟨hmore [] rfl, hmore [] rfl⟩
  | ok response =>
      dsimp only
      split
      · rename_i hcond
        have hpath : path ≠ "/auth/refresh" := by
          rintro rfl
          exact absurd hcond.2 (by decide)
        refine ((refreshAccessToken_traces hpath).mono hmore fun _ _ h => h).bind fun outcome l' h => ?_
        obtain ⟨hzero, hrenewed⟩ := h
        rcases outcome with e | ok
        · have hnil : Retried path (l ++ (l' ++ [])) := by simpa using hmore l' hzero
          exact ⟨hnil, hnil⟩
        · cases ok with
          | true =>
              -- the refresh that was awaited stands between the two
              obtain ⟨l₁, c, rfl, hc⟩ := hrenewed rfl
              have hbefore : sent path (l ++ l₁) ≤ 1 := by
                rw [sent_append] at hzero ⊢
                omega
              have hafter : ∀ l₂, sent path l₂ ≤ 1 → Retried path (l ++ (l₁ ++ [c] ++ l₂)) :=
                fun l₂ hl₂ => .inr ⟨l ++ l₁, c, l₂, by simp, hc, hbefore, hl₂⟩
              exact (retry_traces init).mono hafter fun _ => hafter
          | false =>
              have hsilent : (Web.perform .clearSession >>= fun _ => unwrap response).Only
                  fun op : WebOp => sendsTo path op = false := .step rfl fun _ => unwrap_silent response
              have hlast : ∀ l₂, sent path l₂ = 0 → Retried path (l ++ (l' ++ l₂)) := by
                intro l₂ hl₂
                apply hmore
                rw [sent_append]
                omega
              exact (silent_traces hsilent).mono hlast fun _ => hlast
      · exact hunwrap response

/-- The path that a flow requests. -/
def pathOf : Flow → String
  | .login _ _ => "/auth/login"
  | .logout => "/auth/logout"
  | .restoreSession => "/me"
  | .request path _ => path

theorem flow_traces (flow : Flow) :
    flow.prog.Traces (Retried (pathOf flow)) fun _ l => Retried (pathOf flow) l := by
  -- a request, and what sends nothing after it
  have hthen : ∀ {α β : Type} {path : String} {p : WebProc α} {f : α → WebProc β},
      p.Traces (Retried path) (fun _ l => Retried path l) →
        (∀ a, (f a).Only fun op : WebOp => sendsTo path op = false) →
          (p >>= f).Traces (Retried path) fun _ l => Retried path l := by
    intro α β path p f hp hf
    refine hp.bind fun a l hl => (silent_traces (hf a)).mono ?_ ?_
    · exact fun l' hl' => hl.append_right hl'
    · exact fun _ l' hl' => hl.append_right hl'
  cases flow with
  | request path init => exact request_traces init
  | logout => exact hthen (hthen (request_traces _) fun _ => .step rfl fun _ => trivial) fun _ => trivial
  | login email password =>
      refine hthen (hthen (request_traces _) fun res => ?_) fun _ => trivial
      cases res with
      | error e => trivial
      | ok body =>
          dsimp only
          cases loginSession body with
          | error e => trivial
          | ok session => exact .step rfl fun _ => trivial
  | restoreSession =>
      have hpath : "/me" ≠ "/auth/refresh" := by decide
      refine hthen (p := restoreSession) ?_ fun _ => trivial
      refine ((refreshAccessToken_traces hpath).mono ?_ fun _ _ h => h.1).bind fun outcome l hl => ?_
      · exact fun l hl => .inl (le_of_eq_of_le hl (Nat.zero_le 1))
      · have hfirst : ∀ l', Retried "/me" l' → Retried "/me" (l ++ l') := fun l' h => h.append_left hl
        have hsilent : ∀ l', sent "/me" l' = 0 → Retried "/me" (l ++ l') :=
          fun l' hl' => hfirst l' (.inl (by omega))
        rcases outcome with e | ok
        · exact ⟨hsilent [] rfl, hsilent [] rfl⟩
        · cases ok with
          | false =>
              have hclear : (Web.perform .clearSession >>= fun _ =>
                  (pure (.ok ()) : WebProc (Except Failure Unit))).Only
                    fun op : WebOp => sendsTo "/me" op = false := .step rfl fun _ => trivial
              exact (silent_traces hclear).mono hsilent fun _ => hsilent
          | true =>
              refine Prog.Traces.mono (hthen (request_traces {}) fun res => ?_) hfirst fun _ => hfirst
              cases res with
              | error e => exact .step rfl fun _ => trivial
              | ok me =>
                  refine .bind (.step rfl fun auth => ?_) fun _ => trivial
                  cases toAuthUser me with
                  | error e => exact .perform rfl
                  | ok user => exact .perform rfl

end requests

/-! ### Whoever joins a refresh awaits it -/

/-- A refresh that is joined is awaited by the next call. -/
def Awaits (l : List (Answered WebEff)) : Prop :=
  ∀ l₁ id c l₂, l = l₁ ++ ⟨.joinRefresh, (false, id)⟩ :: c :: l₂ → c.1 = .awaitRefresh id

/-- The last call has joined no refresh. -/
def Done (l : List (Answered WebEff)) : Prop := ∀ l₁ id, l ≠ l₁ ++ [⟨.joinRefresh, (false, id)⟩]

section awaits

variable {l l' : List (Answered WebEff)}

theorem Awaits.append (h : Awaits l) (hdone : Done l) (h' : Awaits l') : Awaits (l ++ l') := by
  intro l₁ id c l₂ hsplit
  rcases List.append_eq_append_iff.mp hsplit with ⟨as, rfl, htail⟩ | ⟨bs, rfl, htail⟩
  · exact h' as id c l₂ htail
  · rcases List.cons_eq_append_iff.mp htail with ⟨rfl, hnext⟩ | ⟨bs', rfl, hnext⟩
    · exact h' [] id c l₂ hnext
    · rcases List.cons_eq_append_iff.mp hnext with ⟨rfl, -⟩ | ⟨bs'', rfl, -⟩
      · exact absurd rfl (hdone l₁ id)
      · exact h l₁ id c bs'' rfl

theorem Done.append (h : Done l) (h' : Done l') : Done (l ++ l') := by
  intro l₁ id hsplit
  rcases List.eq_nil_or_concat l' with rfl | ⟨l'', c, rfl⟩
  · rw [List.append_nil] at hsplit
    exact h l₁ id hsplit
  · rw [List.concat_eq_append, ← List.append_assoc] at hsplit
    obtain ⟨-, hlast⟩ := List.append_inj' hsplit rfl
    exact h' l'' id (by rw [List.concat_eq_append, hlast])

/-- Calls that join nothing. -/
theorem awaits_of_not_joins (h : ∀ c ∈ l, c.1 ≠ .joinRefresh) : Awaits l ∧ Done l := by
  constructor
  · rintro l₁ id c l₂ rfl
    exact absurd rfl (h ⟨.joinRefresh, (false, id)⟩ (by simp))
  · rintro l₁ id rfl
    exact absurd rfl (h ⟨.joinRefresh, (false, id)⟩ (by simp))

theorem awaits_singleton (c : Answered WebEff) : Awaits [c] := by
  intro l₁ id c' l₂ hsplit
  have hlength := congrArg List.length hsplit
  simp at hlength
  omega

theorem only_awaits {α : Type} {p : WebProc α} (hp : p.Only fun op : WebOp => op ≠ .joinRefresh) :
    p.Traces Awaits fun _ l => Awaits l ∧ Done l :=
  hp.traces.mono (fun _ h => (awaits_of_not_joins h).1) fun _ _ h => awaits_of_not_joins h

theorem refreshAccessToken_awaits : refreshAccessToken.Traces Awaits fun _ l => Awaits l ∧ Done l := by
  have hnil : Awaits [] := (awaits_of_not_joins (by simp)).1
  refine .step hnil fun ⟨started, id⟩ => ?_
  cases started with
  | false =>
      have hawaited : ∀ r, Awaits [⟨.joinRefresh, (false, id)⟩, ⟨.awaitRefresh id, r⟩] ∧
          Done [⟨.joinRefresh, (false, id)⟩, ⟨.awaitRefresh id, r⟩] := by
        intro r
        constructor
        · intro l₁ id' c l₂ hsplit
          rcases List.cons_eq_append_iff.mp hsplit with ⟨-, h⟩ | ⟨l, -, h⟩
          · cases h
            rfl
          · rcases List.cons_eq_append_iff.mp h with ⟨-, h⟩ | ⟨l, -, h⟩
            · cases h
            · simp at h
        · intro l₁ id' hsplit
          have hsplit : [_] ++ [(⟨.awaitRefresh id, r⟩ : Answered WebEff)] = l₁ ++ [_] := hsplit
          obtain ⟨-, hlast⟩ := List.append_inj' hsplit rfl
          cases hlast
      exact ⟨awaits_singleton _, fun r => ⟨(hawaited r).1, hawaited r⟩⟩
  | true =>
      have hrest : (startRefresh id >>= fun _ => Web.perform (.awaitRefresh id)).Only
          fun op : WebOp => op ≠ .joinRefresh := by
        have hrefresh : doRefresh.Only fun op : WebOp => op ≠ .joinRefresh := by
          refine doRefresh_calls.mono ?_
          rintro op hop rfl
          rcases hop with h | h
          · cases h
          · exact h
        exact .bind (.bind hrefresh fun outcome => .perform fun h => by cases h) fun _ => .perform fun h => by cases h
      have hstarted : Awaits [⟨.joinRefresh, (true, id)⟩] ∧ Done [⟨.joinRefresh, (true, id)⟩] := by
        refine ⟨awaits_singleton _, fun l₁ id' hsplit => ?_⟩
        have hsplit : [] ++ [(⟨.joinRefresh, (true, id)⟩ : Answered WebEff)] = l₁ ++ [_] := hsplit
        obtain ⟨-, hlast⟩ := List.append_inj' hsplit rfl
        cases hlast
      refine (only_awaits hrest).mono (fun l h => ?_) fun _ l h => ?_
      · exact hstarted.1.append hstarted.2 h
      · exact ⟨hstarted.1.append hstarted.2 h.1, hstarted.2.append h.2⟩

theorem flow_awaits (flow : Flow) : flow.prog.Traces Awaits fun _ l => Awaits l ∧ Done l := by
  have hnil : Awaits [] ∧ Done [] := awaits_of_not_joins (by simp)
  refine flow_rule (M := fun α p => p.Traces Awaits fun _ l => Awaits l ∧ Done l) ?_ ?_ ?_ ?_ flow
  · exact fun α a => ⟨hnil.1, hnil⟩
  · intro α β p f hp hf
    refine hp.bind fun a l hl => (hf a).mono (fun l' h => ?_) fun _ l' h => ?_
    · exact hl.1.append hl.2 h
    · exact ⟨hl.1.append hl.2 h.1, hl.2.append h.2⟩
  · intro op hop
    apply only_awaits
    apply Prog.Only.perform
    rintro rfl
    cases hop
  · exact refreshAccessToken_awaits

end awaits

/-! ### All runs -/

section runs

variable [DecidableEq ι] [DecidableEq κ] {page : ι → κ}

/-- At most one refresh of each page is on its way. -/
def OneRefresh (page : ι → κ) (s : Browser σ ι κ μ) : Prop :=
  ∀ k, {n : ℕ | ∃ f : Flight ι μ, s.flights[n]? = some f ∧ IsRefresh f.request ∧ page f.thread = k ∧
    f.outcome = .pending}.Subsingleton

/-- Whoever asks for a refresh while the refresh `n` of its page is on its way, awaits it next, and gets what
that one has come to. -/
def SharesOutcome (page : ι → κ) (s : Traced σ ι κ μ) : Prop :=
  ∀ l₁ e' mid e l₂, s.trace = l₁ ++ e' :: (mid ++ e :: l₂) → e.op = .joinRefresh → e'.tid = e.tid →
    (∀ x ∈ mid, x.tid ≠ e.tid) →
    ∀ (n : ℕ) (f : Flight ι μ), e.before.flights[n]? = some f → IsRefresh f.request →
      page f.thread = page e.tid → f.outcome = .pending →
      ∃ id, e'.op = .awaitRefresh id ∧ Landed n e'.before ∧
        (Browser.exec page e'.tid (.awaitRefresh id) e'.before).1 = refreshOutcome e'.before n

/-- A thread has awaited a refresh of its page, which has succeeded. -/
def Succeeded (page : ι → κ) (i : ι) (s : Traced σ ι κ μ) (e : Effects.Event WebEff (Browser σ ι κ μ) ι) : Prop :=
  e.tid = i ∧ ∃ id n, e.op = .awaitRefresh id ∧ SentFor page (page i) id n s ∧ Landed n e.before ∧
    refreshOutcome e.before n = .ok true

/-- A thread sends at most two requests to a path, the second only after a refresh that has succeeded. -/
structure RetriesOnce (page : ι → κ) (i : ι) (path : String) (s : Traced σ ι κ μ) : Prop where
  twice : s.trace.countP (fun e => decide (e.tid = i) && sendsTo path e.op) ≤ 2
  renewed : ∀ l₁ e' mid e l₂, s.trace = l₁ ++ e' :: (mid ++ e :: l₂) → e.tid = i → e'.tid = i →
    sendsTo path e.op = true → sendsTo path e'.op = true → ∃ x ∈ mid, Succeeded page i s x

variable {serves : Browser σ ι κ μ → Flight ι μ → Response → μ → σ → Prop}
  {others : Browser σ ι κ μ → σ → Prop} {flow : ι → Flow} {s : Traced σ ι κ μ}
  {P P' : Pool WebEff (Traced σ ι κ μ) ι (Except Failure (Option Json))}

omit [DecidableEq ι] in
/-- What an awaited promise gives. -/
theorem awaited (hhistory : Always (fun i op (s : Traced σ ι κ μ) =>
      s.now.Ready page i op ∧ Honoured page s ∧ Current page s) s)
    {l₁ l₂ : List (Effects.Event WebEff (Browser σ ι κ μ) ι)} {e : Effects.Event WebEff (Browser σ ι κ μ) ι} {id : ℕ}
    (hsplit : s.trace = l₁ ++ e :: l₂) (hop : e.op = .awaitRefresh id) :
    ∃ n, Sole page (page e.tid) id n ⟨e.before, l₂⟩ ∧ Landed n e.before ∧
      (Browser.exec page e.tid (.awaitRefresh id) e.before).1 = refreshOutcome e.before n := by
  obtain ⟨hready, hhonoured, -⟩ := hhistory l₁ e l₂ hsplit
  rw [hop] at hready
  obtain ⟨outcome, houtcome⟩ := Option.isSome_iff_exists.mp hready
  obtain ⟨n, hsole, hlanded, hsame⟩ := hhonoured _ id outcome houtcome
  refine ⟨n, hsole, hlanded, ?_⟩
  have hanswer : (Browser.exec page e.tid (.awaitRefresh id) e.before).1 =
      (e.before.settled (page e.tid) id).getD (.error .network) := rfl
  rw [hanswer, houtcome, hsame]
  rfl

theorem shares_outcome (hhistory : Always (fun i op (s : Traced σ ι κ μ) =>
      s.now.Ready page i op ∧ Honoured page s ∧ Current page s) s)
    (hawaits : ∀ i, Awaits (calls (Browser.exec page) i s.trace)) : SharesOutcome page s := by
  intro l₁ e' mid e l₂ hsplit hjoin hsame hmid n f hf hrefresh hpage hpending
  have hsplit' : s.trace = (l₁ ++ e' :: mid) ++ e :: l₂ := by simp [hsplit]
  obtain ⟨-, -, hcurrent⟩ := hhistory _ e l₂ hsplit'
  obtain ⟨id, hpromise, hsent⟩ := hcurrent n f hf hrefresh hpending
  rw [hpage] at hpromise hsent
  -- the promise is joined, so the next call awaits it
  obtain ⟨i, op, before⟩ := e
  obtain rfl : op = .joinRefresh := hjoin
  obtain ⟨j, op', before'⟩ := e'
  obtain rfl : j = i := hsame
  have hcalls := calls_split (Browser.exec page) j hsplit rfl rfl
  have hnone : calls (Browser.exec page) j mid = [] := by simpa [calls] using hmid
  have hanswer : (Browser.exec page j .joinRefresh before).1 = (false, id) := by
    rw [exec_joinRefresh_some hpromise]
  dsimp only at hcalls
  rw [hnone, hanswer, List.nil_append] at hcalls
  have hop : op' = .awaitRefresh id := hawaits j _ id _ _ hcalls
  subst hop
  refine ⟨id, rfl, ?_⟩
  obtain ⟨m, hsole, hlanded, houtcome⟩ := awaited hhistory hsplit rfl
  have hearlier : SentFor page (page j) id n ⟨before', mid ++ ⟨j, .joinRefresh, before⟩ :: l₂⟩ :=
    hsent.mono fun x hx => by simp [hx]
  obtain rfl := (hsole n).mp hearlier
  exact ⟨hlanded, houtcome⟩

theorem retries_once (hhistory : Always (fun i op (s : Traced σ ι κ μ) =>
      s.now.Ready page i op ∧ Honoured page s ∧ Current page s) s) {i : ι} {path : String}
    (hretried : Retried path (calls (Browser.exec page) i s.trace)) : RetriesOnce page i path s where
  twice := by
    have hcount : sent path (calls (Browser.exec page) i s.trace) =
        s.trace.countP fun e => decide (e.tid = i) && sendsTo path e.op := by
      unfold sent calls
      rw [List.countP_reverse, List.countP_map, List.countP_filter]
      apply List.countP_congr
      intro e _
      simp [and_comm]
    rw [← hcount]
    exact hretried.sent_le
  renewed l₁ e' mid e l₂ hsplit he he' hsends hsends' := by
    rw [calls_split (Browser.exec page) i hsplit he he'] at hretried
    obtain ⟨c, hc, id, rfl⟩ := hretried.between hsends hsends'
    obtain ⟨x, hx, hxi, hcall⟩ := (mem_calls (Browser.exec page) i).mp hc
    refine ⟨x, hx, hxi, id, ?_⟩
    obtain ⟨mid₁, mid₂, rfl⟩ := List.append_of_mem hx
    have hsplit' : s.trace = (l₁ ++ e' :: mid₁) ++ x :: (mid₂ ++ e :: l₂) := by simp [hsplit]
    obtain ⟨j, op, before⟩ := x
    obtain rfl : j = i := hxi
    obtain rfl : op = .awaitRefresh id := (congrArg Sigma.fst hcall).symm
    have hanswer : (Browser.exec page j (.awaitRefresh id) before).1 = .ok true :=
      (eq_of_heq (Sigma.mk.inj hcall).2).symm
    obtain ⟨n, hsole, hlanded, houtcome⟩ := awaited hhistory hsplit' rfl
    refine ⟨n, rfl, ((hsole n).mpr rfl).mono ?_, hlanded, houtcome.symm.trans hanswer⟩
    intro y hy
    rw [hsplit']
    exact List.mem_append_right _ (List.mem_cons_of_mem _ hy)

/-- **Single flight.**  In every run of flows that refresh only through `refreshAccessToken`, on pages that
were just loaded: at most one refresh of a page is on its way, whoever asks for a refresh meanwhile gets what
that one comes to, and a flow sends its request at most twice, the second time only after a refresh that has
succeeded. -/
theorem single_flight_shared
    (hr : Pool.Run (record (Browser.exec page)) (recordEnv (Browser.Network serves others))
      (fun i op s => s.now.Ready page i op) P P')
    (hflow : ∀ i, P.thread i = (flow i).prog) (hguards : ∀ i, Guards (flow i)) (hloaded : Loaded P.state) :
    OneRefresh page P'.state.now ∧ SharesOutcome page P'.state ∧
      ∀ i, RetriesOnce page i (pathOf (flow i)) P'.state := by
  have hhistory := (promises_run hr hflow hguards hloaded).always hloaded.trace
  obtain ⟨-, howned, hsingle⟩ := guarded_recorded (fun _ _ h => h) (fun _ _ _ h => h) hr hflow hguards
    hloaded.trace hloaded.flights
  refine ⟨?_, shares_outcome hhistory fun i => ?_, fun i => retries_once hhistory ?_⟩
  · rintro k n ⟨f, hf, hfetch, hpage, hpending⟩ m ⟨g, hg, hfetch', hpage', hpending'⟩
    exact hsingle.flight howned hf hg (hpage.trans hpage'.symm) hfetch hfetch' hpending hpending'
  · have htraces := flow_awaits (flow i)
    rw [← hflow i] at htraces
    exact hr.calls_traced hloaded.trace htraces
  · have htraces := flow_traces (flow i)
    rw [← hflow i] at htraces
    exact hr.calls_traced hloaded.trace htraces

end runs

/-! ### Two callers of one page -/

/-- A page that restores its session and asks for the team. -/
def restoreAndRequest (i : Fin 2) : Flow := if i = 0 then .restoreSession else .request "/team" {}

def bothCall : Pool WebEff (Browser Unit (Fin 2) Unit Unit) (Fin 2) (Except Failure (Option Json)) where
  state := { server := (), jar := none, page := fun _ => {}, flights := [] }
  thread i := (restoreAndRequest i).prog

/-- The second caller joins the refresh of the first, which comes to nothing. -/
def joined : List (Event Unit (Fin 2) Unit) := [
  .act 0, .act 0, .act 1, .act 1, .serve 1 Sample.unauthorized () (), .arrive 1 true, .act 1, .act 1,
  .serve 0 Sample.unauthorized () (), .arrive 0 true, .act 0, .act 0, .act 1, .act 0]

theorem joined_allowed : Event.AllAllowed (fun _ => ()) (fun i op s => s.Ready (fun _ => ()) i op)
    (fun _ _ _ _ _ => True) joined bothCall := by
  refine ⟨trivial, trivial, trivial, trivial, ⟨_, rfl, rfl, trivial⟩, ⟨_, _, rfl, rfl, rfl⟩, ?_, trivial,
    ⟨_, rfl, rfl, trivial⟩, ⟨_, _, rfl, rfl, rfl⟩, ?_, trivial, rfl, rfl, trivial⟩
  all_goals
    rintro f ⟨⟩ hpending
    cases hpending

theorem single_flight_joined :
    ∃ tr, OneRefresh (fun _ => ()) (Event.play (fun _ => ()) joined bothCall).state ∧
      SharesOutcome (fun _ => ()) ⟨(Event.play (fun _ => ()) joined bothCall).state, tr⟩ ∧
      ∀ i, RetriesOnce (fun _ => ()) i (pathOf (restoreAndRequest i))
        ⟨(Event.play (fun _ => ()) joined bothCall).state, tr⟩ := by
  have hrun : Pool.Run (Browser.exec fun _ => ()) (Browser.Network (fun _ _ _ _ _ => True) fun _ _ => False)
      (fun i op s => s.Ready (fun _ => ()) i op) bothCall _ := Event.play_run joined_allowed
  obtain ⟨tr, hrecorded⟩ := hrun.recorded
  have hteam : ∀ id, matchRoute .get "/team" ≠ some (.refresh, id) := by
    have hmatch : matchRoute .get "/team" = some (.teamList, "") := by decide
    rw [hmatch]
    rintro id ⟨⟩
  refine ⟨tr, single_flight_shared hrecorded (fun _ => rfl) (fun i => ?_) ⟨rfl, rfl, fun _ => rfl, fun _ => rfl⟩⟩
  unfold restoreAndRequest
  split
  · trivial
  · exact hteam

end SuperAdmin.SingleFlight
