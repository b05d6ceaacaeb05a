import ClusterKeeper.Proofs.Courses
import ClusterKeeper.Proofs.StackTransitions

/-!
# The resources of a pass, one after the other

Which resources run, from what state, and what ends a pass, for resources that do
what they like. One pass does not notice another.
-/

set_option autoImplicit false

namespace ClusterKeeper

variable {S : Signature} {K : Type}

section

variable (direction : Direction) (context : PassContext) (object : K)

structure Turn where
  resource : Resource S K
  transcript : Transcript S
  after : Cancellation
  ends : ((resource.ensure direction context object).run .none).Ends transcript (.ok (), after)
  onward : after.pass = false

/-- Where a pass ends: after the last resource, or with the first of those that are
left, if it fails, whatever it cancels, or cancels the pass. A pass can be left off
anywhere. -/
inductive Stops : List (Resource S K) → Transcript S → Option (Except Error Unit) → Prop where
  | through : Stops [] [] (some (.ok ()))
  | failed {resource : Resource S K} {rest : List (Resource S K)} {t : Transcript S} {e : Error}
      {c : Cancellation}
      (h : ((resource.ensure direction context object).run .none).Ends t (.error e, c)) :
      Stops (resource :: rest) t (some (.error e))
  | canceled {resource : Resource S K} {rest : List (Resource S K)} {t : Transcript S}
      {c : Cancellation}
      (h : ((resource.ensure direction context object).run .none).Ends t (.ok (), c))
      (hc : c.pass = true) : Stops (resource :: rest) t (some (.ok ()))
  | between (rest : List (Resource S K)) : Stops rest [] none
  | within {resource : Resource S K} {rest : List (Resource S K)} {t : Transcript S}
      (h : ((resource.ensure direction context object).run .none).Comes t none) :
      Stops (resource :: rest) t none

def Course (resources : List (Resource S K)) (t : Transcript S) (o : Option (Except Error Unit)) :
    Prop :=
  ∃ (turns : List (Turn (S := S) direction context object)) (rest : List (Resource S K))
    (t' : Transcript S), resources = turns.map Turn.resource ++ rest ∧
      t = turns.flatMap Turn.transcript ++ t' ∧ Stops direction context object rest t' o

end

section Resources

variable {direction : Direction} {context : PassContext} {object : K} {resource : Resource S K}
  {rest resources : List (Resource S K)} {t : Transcript S} {o : Option (Except Error Unit)}
  {c : Cancellation}

theorem course_cons : Course direction context object (resource :: rest) t o ↔
    Stops direction context object (resource :: rest) t o ∨
      ∃ (turn : Turn (S := S) direction context object) (t' : Transcript S),
        turn.resource = resource ∧ t = turn.transcript ++ t' ∧
          Course direction context object rest t' o := by
  constructor
  · rintro ⟨turns, rest', t', heq, rfl, hstops⟩
    cases turns with
    | nil =>
      obtain rfl : resource :: rest = rest' := heq
      exact .inl hstops
    | cons turn turns =>
      obtain ⟨rfl, rfl⟩ := List.cons.inj heq
      exact .inr ⟨turn, _, rfl, List.append_assoc _ _ _, turns, rest', t', rfl, rfl, hstops⟩
  · rintro (hstops | ⟨turn, _, rfl, rfl, turns, rest', t', rfl, rfl, hstops⟩)
    · exact ⟨[], _, t, rfl, rfl, hstops⟩
    · exact ⟨turn :: turns, rest', t', rfl, (List.append_assoc _ _ _).symm, hstops⟩

theorem course_nil : Course direction context object ([] : List (Resource S K)) t o ↔
    t = [] ∧ (o = none ∨ o = some (.ok ())) := by
  constructor
  · rintro ⟨turns, rest, t', heq, rfl, hstops⟩
    obtain ⟨hnil, rfl⟩ := List.append_eq_nil_iff.mp heq.symm
    obtain rfl := List.map_eq_nil_iff.mp hnil
    cases hstops with
    | through => exact ⟨rfl, .inr rfl⟩
    | between => exact ⟨rfl, .inl rfl⟩
  · rintro ⟨rfl, rfl | rfl⟩
    · exact ⟨[], [], [], rfl, rfl, .between []⟩
    · exact ⟨[], [], [], rfl, rfl, .through⟩

/-- The head starts with the resource reset. Only what it did to the pass is looked at. -/
theorem comes_runResources_cons {o : Option (Except Error Unit × Cancellation)}
    (hc : c.pass = false) :
    ((runResources direction context object (resource :: rest)).run c).Comes t o ↔
      (∃ t₁ c₁ t₂, t = t₁ ++ t₂ ∧
        ((resource.ensure direction context object).run .none).Ends t₁ (.ok (), c₁) ∧
        ((if c₁.pass then pure () else runResources direction context object rest :
          Action S Unit).run c₁).Comes t₂ o) ∨
      (∃ e c₁, o = some (.error e, c₁) ∧
        ((resource.ensure direction context object).run .none).Ends t (.error e, c₁)) ∨
      o = none ∧ ((resource.ensure direction context object).run .none).Comes t none := by
  have hreset : c.resetResource = .none := by
    rw [Cancellation.resetResource, hc]
    rfl
  have hrun : (runResources direction context object (resource :: rest)).run c =
      (resource.ensure direction context object >>= fun _ =>
        (get >>= fun c => if c.pass then pure () else runResources direction context object rest :
          Action S Unit)).run c.resetResource := rfl
  rw [hrun, hreset, Action.comes_bind]
  exact or_congr ⟨fun ⟨t₁, _, h⟩ => ⟨t₁, h⟩, fun ⟨t₁, h⟩ => ⟨t₁, (), h⟩⟩ Iff.rfl

theorem comes_runResources (hc : c.pass = false) :
    (∃ o', ((runResources direction context object resources).run c).Comes t o' ∧
      o = o'.map Prod.fst) ↔ Course direction context object resources t o := by
  induction resources generalizing c t o with
  | nil =>
    have hnil : ∀ o', ((runResources direction context object ([] : List (Resource S K))).run
        c).Comes t o' ↔ t = [] ∧ (o' = none ∨ o' = some (.ok (), c)) := fun o' =>
      Program.comes_pure
    rw [course_nil]
    constructor
    · rintro ⟨o', h, rfl⟩
      obtain ⟨rfl, rfl | rfl⟩ := (hnil o').mp h
      · exact ⟨rfl, .inl rfl⟩
      · exact ⟨rfl, .inr rfl⟩
    · rintro ⟨ht, rfl | rfl⟩
      · exact ⟨none, (hnil _).mpr ⟨ht, .inl rfl⟩, rfl⟩
      · exact ⟨some (.ok (), c), (hnil _).mpr ⟨ht, .inr rfl⟩, rfl⟩
  | cons resource rest ih =>
    rw [course_cons]
    constructor
    · rintro ⟨o', h, rfl⟩
      rcases (comes_runResources_cons hc).mp h with
        ⟨t₁, c₁, t₂, rfl, h₁, h₂⟩ | ⟨e, c₁, rfl, h₁⟩ | ⟨rfl, h₁⟩
      · cases hc₁ : c₁.pass with
        | true =>
          rw [hc₁] at h₂
          obtain ⟨rfl, rfl | rfl⟩ := Program.comes_pure.mp h₂
          · rw [List.append_nil]
            exact .inl (.within h₁.left)
          · rw [List.append_nil]
            exact .inl (.canceled h₁ hc₁)
        | false =>
          rw [hc₁] at h₂
          exact .inr ⟨⟨resource, t₁, c₁, h₁, hc₁⟩, t₂, rfl, rfl, (ih hc₁).mp ⟨o', h₂, rfl⟩⟩
      · exact .inl (.failed h₁)
      · exact .inl (.within h₁)
    · rintro (hstops | ⟨⟨_, t₁, c₁, h₁, hc₁⟩, t₂, rfl, rfl, hrest⟩)
      · cases hstops with
        | failed h =>
          exact ⟨_, (comes_runResources_cons hc).mpr (.inr (.inl ⟨_, _, rfl, h⟩)), rfl⟩
        | @canceled _ _ _ c₁ h hc₁ =>
          refine ⟨some (.ok (), c₁), (comes_runResources_cons hc).mpr
            (.inl ⟨t, c₁, [], (List.append_nil t).symm, h, ?_⟩), rfl⟩
          rw [hc₁]
          exact .pure _
        | between =>
          exact ⟨none, (comes_runResources_cons hc).mpr (.inr (.inr ⟨rfl, _, .start _⟩)), rfl⟩
        | within h => exact ⟨none, (comes_runResources_cons hc).mpr (.inr (.inr ⟨rfl, h⟩)), rfl⟩
      · obtain ⟨o', h, rfl⟩ := (ih hc₁).mpr hrest
        refine ⟨o', (comes_runResources_cons hc).mpr (.inl ⟨t₁, c₁, t₂, rfl, h₁, ?_⟩), rfl⟩
        rw [hc₁]
        exact h

end Resources

/-- What comes of a pass. Without a set of resources, or without access to the account of
the cluster, no resource runs. -/
inductive PassRun (r : Reconciler Cloud Cluster) (direction : Direction) (cluster : Cluster) :
    Transcript Cloud → Option (Except Error Unit) → Prop where
  | unrouted {e : Error} (h : r.router.route cluster = .error e) :
      PassRun r direction cluster [] (some (.error e))
  | refused {set : ResourceSet Cloud Cluster} {allowed : Bool}
      (h : r.router.route cluster = .ok set) (hstart : set.start = Operator.startPass allowed)
      (failure : CloudError) : PassRun r direction cluster
        [.call (S := Cloud) (.guestClients cluster.id) (Except.error failure)]
        (some (.error
          (.executionFailed ("create AWS clients for cluster " ++ cluster.id) failure)))
  | served {set : ResourceSet Cloud Cluster} {allowed : Bool} {t : Transcript Cloud}
      {o : Option (Except Error Unit)} (h : r.router.route cluster = .ok set)
      (hstart : set.start = Operator.startPass allowed)
      (hcourse : Course direction ⟨allowed⟩ cluster set.resources t o) :
      PassRun r direction cluster
        (.call (S := Cloud) (.guestClients cluster.id) (Except.ok ()) :: t) o
  | unstarted : PassRun r direction cluster [] none
  | left {t : Transcript Cloud} {result : Except Error Unit}
      (h : PassRun r direction cluster t (some result)) : PassRun r direction cluster t none

section Passes

variable {r : Reconciler Cloud Cluster} {direction : Direction} {cluster : Cluster}
  {t : Transcript Cloud} {o : Option (Except Error Unit)}

theorem Router.mem_of_route {router : Router Cloud Cluster} {set : ResourceSet Cloud Cluster}
    (h : router.route cluster = .ok set) : set ∈ router.sets := by
  rw [Router.route] at h
  split at h
  · cases h
  · next found hf =>
    cases h
    exact (List.mem_filter.mp (hf ▸ List.mem_singleton_self set)).1
  · cases h

theorem comes_ensure : (r.ensure direction cluster).Comes t o ↔
    ∃ o', ((r.pass direction cluster).run .none).Comes t o' ∧ o = o'.map Prod.fst :=
  Program.comes_map

theorem run_pass_of_error {e : Error} (h : r.router.route cluster = .error e) :
    (r.pass direction cluster).run .none = .pure (.error e, .none) := by
  rw [Reconciler.pass, h]
  rfl

theorem run_pass_of_ok {set : ResourceSet Cloud Cluster} {allowed : Bool}
    (h : r.router.route cluster = .ok set) (hstart : set.start = Operator.startPass allowed) :
    (r.pass direction cluster).run .none =
      .request (S := Engine Cloud) (.call (.guestClients cluster.id))
        fun (answer : Except CloudError Unit) => match answer with
          | .ok _ => (runResources direction ⟨allowed⟩ cluster set.resources).run .none
          | .error failure => .pure (.error (.executionFailed
            ("create AWS clients for cluster " ++ cluster.id) failure), .none) := by
  rw [Reconciler.pass, h]
  show (set.start cluster >>= fun context =>
    runResources direction context cluster set.resources).run .none = _
  rw [hstart]
  show Program.request _ _ = Program.request _ _
  congr 1
  funext answer
  cases (answer : Except CloudError Unit) <;> rfl

theorem PassRun.comes (h : PassRun r direction cluster t o) :
    (r.ensure direction cluster).Comes t o := by
  induction h with
  | unrouted h =>
    rw [comes_ensure, run_pass_of_error h]
    exact ⟨some _, .pure _, rfl⟩
  | refused h hstart failure =>
    rw [comes_ensure, run_pass_of_ok h hstart]
    exact ⟨some _, Program.comes_request.mpr (.inr ⟨_, _, rfl, .pure _⟩), rfl⟩
  | served h hstart hcourse =>
    obtain ⟨o', hrun, rfl⟩ := (comes_runResources (c := .none) rfl).mpr hcourse
    rw [comes_ensure, run_pass_of_ok h hstart]
    exact ⟨o', Program.comes_request.mpr (.inr ⟨_, _, rfl, hrun⟩), rfl⟩
  | unstarted => exact Program.comes_start _
  | left _ ih => exact ih.left

theorem passRun_of_comes
    (hinit : ∀ set ∈ r.router.sets, ∃ allowed, set.start = Operator.startPass allowed)
    (h : (r.ensure direction cluster).Comes t o) : PassRun r direction cluster t o := by
  obtain ⟨o', hrun, rfl⟩ := comes_ensure.mp h
  cases hroute : r.router.route cluster with
  | error e =>
    rw [run_pass_of_error hroute] at hrun
    obtain ⟨rfl, rfl | rfl⟩ := Program.comes_pure.mp hrun
    · exact .unstarted
    · exact .unrouted hroute
  | ok set =>
    obtain ⟨allowed, hstart⟩ := hinit set (Router.mem_of_route hroute)
    rw [run_pass_of_ok hroute hstart] at hrun
    rcases Program.comes_request.mp hrun with ⟨rfl, rfl⟩ | ⟨answer, t', rfl, hnext⟩
    · exact .unstarted
    · rcases (answer : Except CloudError Unit) with failure | ⟨⟩
      · obtain ⟨rfl, rfl | rfl⟩ := Program.comes_pure.mp hnext
        · exact .left (.refused hroute hstart failure)
        · exact .refused hroute hstart failure
      · exact .served hroute hstart ((comes_runResources (c := .none) rfl).mp ⟨o', hnext, rfl⟩)

end Passes

inductive Successive {β γ : Type} (P : β → Transcript S → γ → Prop) :
    List β → Transcript S → List γ → Prop where
  | nil : Successive P [] [] []
  | cons {b : β} {x : γ} {rest : List β} {xs : List γ} {t t' : Transcript S} (h : P b t x)
      (hrest : Successive P rest t' xs) : Successive P (b :: rest) (t ++ t') (x :: xs)

theorem Successive.imp {β γ : Type} {P Q : β → Transcript S → γ → Prop} {bs : List β}
    {t : Transcript S} {xs : List γ} (h : Successive P bs t xs)
    (hPQ : ∀ b t x, P b t x → Q b t x) : Successive Q bs t xs := by
  induction h with
  | nil => exact .nil
  | cons h _ ih => exact .cons (hPQ _ _ _ h) ih

end ClusterKeeper
