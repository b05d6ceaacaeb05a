import ClusterKeeper.Proofs.Tolerance

/-!
# Courses of programs

How far a program has come after some replies, and what has come of it. Unlike a
transcript from the beginning to the end, this covers programs that were left off.
-/

set_option autoImplicit false

namespace ClusterKeeper

variable {S : Signature} {α β : Type}

namespace Program

inductive After : Program S α → List (Entry S) → Program S α → Prop where
  | start (p : Program S α) : After p [] p
  | request {c : S.Call} {next : S.Reply c → Program S α} {r : S.Reply c} {t : List (Entry S)}
      {q : Program S α} (h : After (next r) t q) : After (.request c next) (⟨c, r⟩ :: t) q

def Comes (p : Program S α) (t : List (Entry S)) : Option α → Prop
  | some a => p.Ends t a
  | none => ∃ q, p.After t q

variable {p q : Program S α} {f : α → Program S β} {t t₁ t₂ : List (Entry S)} {a : α} {b : β}

theorem Ends.after (h : p.Ends t a) : p.After t (.pure a) := by
  induction h with
  | pure a => exact .start _
  | request _ ih => exact .request ih

theorem ends_of_after (h : p.After t (.pure a)) : p.Ends t a := by
  generalize hq : Program.pure a = q at h
  induction h with
  | start p => exact hq ▸ .pure a
  | request _ ih => exact .request (ih hq)

theorem Ends.left (h : p.Ends t a) : p.Comes t none := ⟨_, h.after⟩

theorem Comes.left {o : Option α} (h : p.Comes t o) : p.Comes t none := by
  cases o with
  | some a => exact Ends.left h
  | none => exact h

theorem comes_start (p : Program S α) : p.Comes [] none := ⟨p, .start p⟩

theorem After.bind (h : p.After t q) (f : α → Program S β) : (p.bind f).After t (q.bind f) := by
  induction h with
  | start p => exact .start _
  | request _ ih => exact .request ih

theorem Ends.bind_after {q : Program S β} (h : p.Ends t₁ a) (hf : (f a).After t₂ q) :
    (p.bind f).After (t₁ ++ t₂) q := by
  induction h with
  | pure a => exact hf
  | request _ ih => exact .request (ih hf)

theorem Ends.bind (h : p.Ends t₁ a) (hf : (f a).Ends t₂ b) : (p.bind f).Ends (t₁ ++ t₂) b :=
  ends_of_after (h.bind_after hf.after)

theorem after_request {c : S.Call} {next : S.Reply c → Program S α}
    (h : (Program.request c next).After t q) :
    t = [] ∧ q = .request c next ∨ ∃ r t', t = ⟨c, r⟩ :: t' ∧ (next r).After t' q := by
  cases h with
  | start => exact .inl ⟨rfl, rfl⟩
  | request h => exact .inr ⟨_, _, rfl, h⟩

theorem after_pure (h : (Program.pure a).After t q) : t = [] ∧ q = .pure a := by
  cases h
  exact ⟨rfl, rfl⟩

theorem after_nil (h : p.After [] q) : q = p := by
  cases h
  rfl

/-- A program of two parts is in the first one, or it is through with it. -/
theorem after_bind {q : Program S β} (h : (p.bind f).After t q) :
    (∃ q', p.After t q' ∧ q = q'.bind f) ∨
      ∃ t₁ a t₂, t = t₁ ++ t₂ ∧ p.Ends t₁ a ∧ (f a).After t₂ q := by
  induction p generalizing t with
  | pure a => exact .inr ⟨[], a, t, rfl, .pure a, h⟩
  | request c next ih =>
    rcases after_request h with ⟨rfl, rfl⟩ | ⟨r, t', rfl, hr⟩
    · exact .inl ⟨_, .start _, rfl⟩
    · rcases ih r hr with ⟨q', hq', rfl⟩ | ⟨t₁, a, t₂, rfl, h₁, h₂⟩
      · exact .inl ⟨q', .request hq', rfl⟩
      · exact .inr ⟨⟨c, r⟩ :: t₁, a, t₂, rfl, .request h₁, h₂⟩
  | unfinished =>
    cases h
    exact .inl ⟨_, .start _, rfl⟩

theorem comes_pure {o : Option α} :
    (Program.pure a : Program S α).Comes t o ↔ t = [] ∧ (o = none ∨ o = some a) := by
  cases o with
  | some a' =>
    refine ⟨fun h => ?_, fun ⟨ht, ho⟩ => ?_⟩
    · obtain ⟨rfl, rfl⟩ := ends_pure h
      exact ⟨rfl, .inr rfl⟩
    · obtain rfl := Option.some.inj (ho.resolve_left nofun)
      exact ht ▸ .pure a'
  | none =>
    refine ⟨fun ⟨q, h⟩ => ⟨(after_pure h).1, .inl rfl⟩, ?_⟩
    rintro ⟨rfl, -⟩
    exact ⟨_, .start _⟩

theorem comes_request {c : S.Call} {next : S.Reply c → Program S α} {o : Option α} :
    (Program.request c next).Comes t o ↔
      t = [] ∧ o = none ∨ ∃ r t', t = ⟨c, r⟩ :: t' ∧ (next r).Comes t' o := by
  cases o with
  | some a =>
    refine ⟨fun h => .inr (ends_request h), ?_⟩
    rintro (⟨-, heq⟩ | ⟨r, t', rfl, h⟩)
    · cases heq
    · exact .request h
  | none =>
    constructor
    · rintro ⟨q, h⟩
      rcases after_request h with ⟨rfl, -⟩ | ⟨r, t', rfl, hr⟩
      · exact .inl ⟨rfl, rfl⟩
      · exact .inr ⟨r, t', rfl, q, hr⟩
    · rintro (⟨rfl, -⟩ | ⟨r, t', rfl, q, h⟩)
      · exact ⟨_, .start _⟩
      · exact ⟨q, .request h⟩

theorem comes_request_cons {c : S.Call} {next : S.Reply c → Program S α} {r : S.Reply c}
    {o : Option α} : (Program.request c next).Comes (⟨c, r⟩ :: t) o ↔ (next r).Comes t o := by
  rw [comes_request]
  constructor
  · rintro (⟨ht, -⟩ | ⟨r', t', ht, h⟩)
    · cases ht
    · cases ht
      exact h
  · exact fun h => .inr ⟨r, t, rfl, h⟩

theorem comes_bind {o : Option β} :
    (p.bind f).Comes t o ↔
      (∃ t₁ a t₂, t = t₁ ++ t₂ ∧ p.Ends t₁ a ∧ (f a).Comes t₂ o) ∨ o = none ∧ p.Comes t none := by
  cases o with
  | some b =>
    refine ⟨fun h => .inl (ends_bind h), ?_⟩
    rintro (⟨t₁, a, t₂, rfl, h₁, h₂⟩ | ⟨heq, -⟩)
    · exact h₁.bind h₂
    · cases heq
  | none =>
    constructor
    · rintro ⟨q, h⟩
      rcases after_bind h with ⟨q', hq', -⟩ | ⟨t₁, a, t₂, rfl, h₁, h₂⟩
      · exact .inr ⟨rfl, q', hq'⟩
      · exact .inl ⟨t₁, a, t₂, rfl, h₁, q, h₂⟩
    · rintro (⟨t₁, a, t₂, rfl, h₁, q, h₂⟩ | ⟨-, q, h⟩)
      · exact ⟨q, h₁.bind_after h₂⟩
      · exact ⟨_, h.bind f⟩

/-- What is done with the value in the end asks for nothing. -/
theorem comes_map {f : α → β} {o : Option β} :
    (p.bind fun a => .pure (f a)).Comes t o ↔ ∃ o', p.Comes t o' ∧ o = o'.map f := by
  rw [comes_bind]
  constructor
  · rintro (⟨t₁, a, t₂, rfl, h₁, h₂⟩ | ⟨rfl, h⟩)
    · obtain ⟨rfl, ho⟩ := comes_pure.mp h₂
      rw [List.append_nil]
      rcases ho with rfl | rfl
      · exact ⟨none, h₁.left, rfl⟩
      · exact ⟨some a, h₁, rfl⟩
    · exact ⟨none, h, rfl⟩
  · rintro ⟨o' | a, h, rfl⟩
    · exact .inr ⟨rfl, h⟩
    · exact .inl ⟨t, a, [], (List.append_nil t).symm, h, comes_pure.mpr ⟨rfl, .inr rfl⟩⟩

end Program

namespace Action

variable {c : Cancellation} {t : Transcript S} {o : Option (Except Error α × Cancellation)}

theorem comes_bind {a : Action S β} {f : β → Action S α} :
    ((a >>= f).run c).Comes t o ↔
      (∃ t₁ b c₁ t₂, t = t₁ ++ t₂ ∧ (a.run c).Ends t₁ (.ok b, c₁) ∧ ((f b).run c₁).Comes t₂ o) ∨
      (∃ e c₁, o = some (.error e, c₁) ∧ (a.run c).Ends t (.error e, c₁)) ∨
      o = none ∧ (a.run c).Comes t none := by
  rw [run_bind, Program.comes_bind]
  constructor
  · rintro (⟨t₁, ⟨e | b, c₁⟩, t₂, rfl, h₁, h₂⟩ | h)
    · obtain ⟨rfl, ho⟩ := Program.comes_pure.mp h₂
      rw [List.append_nil]
      rcases ho with rfl | rfl
      · exact .inr (.inr ⟨rfl, h₁.left⟩)
      · exact .inr (.inl ⟨e, c₁, rfl, h₁⟩)
    · exact .inl ⟨t₁, b, c₁, t₂, rfl, h₁, h₂⟩
    · exact .inr (.inr h)
  · rintro (⟨t₁, b, c₁, t₂, rfl, h₁, h₂⟩ | ⟨e, c₁, rfl, h⟩ | h)
    · exact .inl ⟨t₁, _, t₂, rfl, h₁, h₂⟩
    · exact .inl ⟨t, _, [], (List.append_nil t).symm, h,
        Program.comes_pure.mpr ⟨rfl, .inr rfl⟩⟩
    · exact .inr h

end Action

/-! Histories are transcripts of which only the exchanges with the cloud are kept. -/

namespace Recording

variable {p : Program (Engine Cloud) α} {o : Option α} {h h' : List Exchange}

theorem comes_of_leads (hl : p.Leads anyCloud.environment.engine h o h') :
    ∃ t, p.Comes t o ∧ h' = h ++ exchanges t := by
  induction hl with
  | ended a h => exact ⟨[], .pure a, (List.append_nil h).symm⟩
  | left p h => exact ⟨[], ⟨p, .start p⟩, (List.append_nil h).symm⟩
  | @answered x _ h _ _ reply _ hr _ ih =>
    obtain ⟨t, ht, rfl⟩ := ih
    refine ⟨_, Program.comes_request.mpr (.inr ⟨reply, t, rfl, ht⟩), ?_⟩
    cases x with
    | call x =>
      cases hr
      exact List.append_assoc _ _ _
    | patience => rw [hr.1]; rfl
    | _ => cases hr; rfl

/-- And a transcript is a history in any cloud. -/
theorem leads_of_comes {t : Transcript Cloud} (ht : p.Comes t o) :
    p.Leads anyCloud.environment.engine h o (h ++ exchanges t) := by
  induction p generalizing h t with
  | pure a =>
    obtain ⟨rfl, rfl | rfl⟩ := Program.comes_pure.mp ht
    · rw [exchanges_nil, List.append_nil]
      exact .left _ h
    · rw [exchanges_nil, List.append_nil]
      exact .ended a h
  | request x next ih =>
    rcases Program.comes_request.mp ht with ⟨rfl, rfl⟩ | ⟨reply, t, rfl, hnext⟩
    · rw [exchanges_nil, List.append_nil]
      exact .left _ h
    · have hrest := ih reply (h := h) hnext
      cases x with
      | call x =>
        have hrest := ih reply (h := h ++ [⟨x, reply⟩]) hnext
        rw [List.append_assoc] at hrest
        exact .answered rfl hrest
      | patience => exact .answered ⟨rfl, .inl trivial⟩ hrest
      | _ => exact .answered rfl hrest
  | unfinished =>
    cases o with
    | some a => cases ht
    | none =>
      obtain ⟨q, hq⟩ := ht
      cases hq
      rw [exchanges_nil, List.append_nil]
      exact .left _ h

/-- Whatever comes of an action that can be done, its calls are taken. -/
theorem heeded_of_does {takes : Cloud.Call → List Exchange → Prop} {a : Action Cloud β}
    {F : β → List Exchange → Prop} {c : Cancellation} {t : Transcript Cloud}
    {o : Option (Except Error β × Cancellation)} (ha : (recording takes).Does True a F c [])
    (ht : (a.run c).Comes t o) : Heeded takes (exchanges t) := heeded ha (leads_of_comes ht)

/-- What a history says of an end comes from a transcript of the program. -/
theorem meets_ends {takes : Cloud.Call → List Exchange → Prop} {post : α → List Exchange → Prop}
    (hp : p.Meets (recording takes).environment.engine post h) :
    p.Meets (recording takes).environment.engine
      (fun a h' => post a h' ∧ ∃ t, p.Ends t a ∧ h' = h ++ exchanges t) h := by
  induction p generalizing h with
  | pure a => exact ⟨hp, [], .pure a, (List.append_nil h).symm⟩
  | request x next ih =>
    refine ⟨hp.1, fun reply h₁ hr => Program.Meets.mono (ih reply (hp.2 reply h₁ hr)) ?_⟩
    rintro a h₂ ⟨hpost, t, ht, rfl⟩
    refine ⟨hpost, ⟨x, reply⟩ :: t, .request ht, ?_⟩
    cases x with
    | call x =>
      cases hr
      exact List.append_assoc _ _ _
    | patience => rw [hr.1]; rfl
    | _ => cases hr; rfl
  | unfinished => exact hp

/-- An action that can be done does what its transcripts say. -/
theorem does_of_yields {takes : Cloud.Call → List Exchange → Prop} {a : Action Cloud β}
    {Q : Transcript Cloud → Except Error β → Prop} {c : Cancellation}
    (ha : Admits takes a h) (hy : a.Yields c Q) :
    (recording takes).Does True a
      (fun b h' => ∃ t, h' = h ++ exchanges t ∧ Q t (.ok b)) c h := by
  refine Program.Meets.mono (meets_ends (ha c h (List.prefix_refl h))) ?_
  rintro ⟨e | b, c'⟩ h' ⟨⟨hc, hm, -⟩, t, ht, heq⟩
  · exact ⟨hc, hm, trivial⟩
  · exact ⟨hc, hm, t, heq, (hy t (.ok b) c' ht).2⟩

end Recording

end ClusterKeeper
