import ClusterKeeper.Proofs.Repertoire
import ClusterKeeper.Proofs.Turns

/-!
# Portions of a pass

What each resource of a pass called for, as far as the pass came, and where the
calls took what they are about from.
-/

set_option autoImplicit false

namespace ClusterKeeper

section

variable {K : Type} {direction : Direction} {context : PassContext} {object : K} {ended : Prop}
  {resource : Resource Cloud K} {rest resources : List (Resource Cloud K)} {h : List Exchange}
  {t : Transcript Cloud} {o : Option (Except Error Unit)}

structure Portion (direction : Direction) (context : PassContext) (object : K) (ended : Prop)
    (resource : Resource Cloud K) (h : List Exchange) : Prop where
  comes : ∃ t, ((resource.ensure direction context object).run .none).Comes t none ∧
    h = exchanges t
  ends : ended → h = [] ∨ ∃ t x,
    ((resource.ensure direction context object).run .none).Ends t x ∧ h = exchanges t

theorem Portion.missed : Portion direction context object ended resource [] :=
  ⟨⟨[], Program.comes_start _, rfl⟩, fun _ => .inl rfl⟩

theorem Portion.of_ends {x : Except Error Unit × Cancellation}
    (ht : ((resource.ensure direction context object).run .none).Ends t x) :
    Portion direction context object ended resource (exchanges t) :=
  ⟨⟨t, ht.left, rfl⟩, fun _ => .inr ⟨t, x, ht, rfl⟩⟩

/-- The resource that the pass stops at is the last one that it has anything of. -/
theorem Stops.portion (ht : Stops direction context object (resource :: rest) t o) :
    Portion direction context object (o.isSome = true) resource (exchanges t) := by
  cases ht with
  | failed ht => exact .of_ends ht
  | canceled ht => exact .of_ends ht
  | between => exact .missed
  | within ht => exact ⟨⟨t, ht, rfl⟩, nofun⟩

theorem Stops.left {resources : List (Resource Cloud K)}
    (ht : Stops direction context object resources t o) :
    Stops direction context object resources t none := by
  cases ht with
  | through => exact .between []
  | failed ht => exact .within ht.left
  | canceled ht => exact .within ht.left
  | between => exact .between _
  | within ht => exact .within ht

theorem Course.left (ht : Course direction context object resources t o) :
    Course direction context object resources t none := by
  obtain ⟨turns, rest, t', heq, rfl, hstops⟩ := ht
  exact ⟨turns, rest, t', heq, rfl, hstops.left⟩

theorem each_missed (resources : List (Resource Cloud K)) :
    Each (Portion direction context object ended) resources [] := by
  induction resources with
  | nil => exact .nil
  | cons resource rest ih => exact .cons (h := []) .missed ih

theorem Course.portions (ht : Course direction context object resources t o) :
    Each (Portion direction context object (o.isSome = true)) resources (exchanges t) := by
  induction resources generalizing t with
  | nil =>
    rw [(course_nil.mp ht).1]
    exact .nil
  | cons resource rest ih =>
    rcases course_cons.mp ht with hstops | ⟨turn, t', rfl, rfl, hrest⟩
    · have hportions := Each.cons hstops.portion (each_missed rest)
      rwa [List.append_nil] at hportions
    · rw [exchanges_append]
      exact .cons (.of_ends turn.ends) (ih hrest)

theorem each_cons {β : Type} {P : β → List Exchange → Prop} {b : β} {rest : List β}
    (he : Each P (b :: rest) h) : ∃ h₁ h₂, h = h₁ ++ h₂ ∧ P b h₁ ∧ Each P rest h₂ := by
  cases he with
  | cons hb hrest => exact ⟨_, _, rfl, hb, hrest⟩

theorem each_nil {β : Type} {P : β → List Exchange → Prop} (he : Each P [] h) : h = [] := by
  cases he
  rfl

end

section

variable {config : Config} {r : Reconciler Cloud Cluster} {direction : Direction}
  {cluster : Cluster} {o : Option (Except Error Unit)} {h : List Exchange}

theorem PassRun.course {t : Transcript Cloud} (ht : PassRun r direction cluster t o) :
    (∀ e ∈ exchanges t, e.call = .guestClients cluster.id) ∨
      ∃ set context t', r.router.route cluster = .ok set ∧
        exchanges t = ⟨.guestClients cluster.id, Except.ok ()⟩ :: exchanges t' ∧
        Course direction context cluster set.resources t' o := by
  induction ht with
  | unrouted => exact .inl fun _ he => absurd he List.not_mem_nil
  | refused => exact .inl fun e he => List.mem_singleton.mp he ▸ rfl
  | served hroute _ hcourse => exact .inr ⟨_, _, _, hroute, rfl, hcourse⟩
  | unstarted => exact .inl fun _ he => absurd he List.not_mem_nil
  | left _ ih =>
    exact ih.imp_right fun ⟨set, context, t', hroute, heq, hcourse⟩ =>
      ⟨set, context, t', hroute, heq, hcourse.left⟩

/-- A pass runs the resources of the bundle for the cluster, if it gets access to the
account. -/
theorem course_of_leads (hr : Operator.reconciler config = .ok r)
    (hl : (r.ensure direction cluster).Leads anyCloud.environment.engine [] o h) :
    (∀ e ∈ h, e.call = .guestClients cluster.id) ∨ ∃ bundle context t,
      h = ⟨.guestClients cluster.id, Except.ok ()⟩ :: exchanges t ∧
      Course direction context cluster (Operator.bundleSet config bundle).resources t o := by
  obtain ⟨t, ht, rfl⟩ := Recording.comes_of_leads hl
  rw [List.nil_append]
  have hrun := passRun_of_comes (fun set hset => by
    rw [Operator.sets_of_reconciler hr] at hset
    obtain ⟨bundle, -, rfl⟩ := List.mem_map.mp hset
    exact ⟨_, rfl⟩) ht
  refine hrun.course.imp_right fun ⟨set, context, t', hroute, heq, hcourse⟩ => ?_
  rw [Operator.route_of_reconciler hr] at hroute
  cases hb : config.bundleFor cluster with
  | error e => rw [hb] at hroute; cases hroute
  | ok bundle =>
    rw [hb] at hroute
    cases hroute
    exact ⟨bundle, context, t', heq, hcourse⟩

theorem portions_of_leads (hr : Operator.reconciler config = .ok r)
    (hl : (r.ensure direction cluster).Leads anyCloud.environment.engine [] o h) :
    (∀ e ∈ h, e.call = .guestClients cluster.id) ∨ ∃ bundle context h',
      h = ⟨.guestClients cluster.id, Except.ok ()⟩ :: h' ∧
      Each (Portion direction context cluster (o.isSome = true))
        (Operator.bundleSet config bundle).resources h' :=
  (course_of_leads hr hl).imp_right fun ⟨bundle, context, t, heq, hcourse⟩ =>
    ⟨bundle, context, exchanges t, heq, hcourse.portions⟩

end

/-! What is called for is looked up in the repertoire of the resource, with all answers
at hand. -/

def witnessing (h : List Exchange) (P : Cloud.Call → Prop) : Discipline Unit where
  environment := {
    Takes := fun x _ => P x
    Answers := fun x _ r _ => ⟨x, r⟩ ∈ h
    repeats := True }
  Moves _ _ := True
  refl _ := trivial
  trans _ _ := trivial

namespace Witnessing

open Discipline

variable {α : Type} {h : List Exchange} {P : Cloud.Call → Prop} {t : Transcript Cloud}

theorem taken_of_after {p q : Program (Engine Cloud) α} {post : α → Unit → Prop}
    (hp : p.Meets (witnessing h P).environment.engine post ()) (hq : p.After t q)
    (ht : exchanges t ⊆ h) : ∀ e ∈ exchanges t, P e.call := by
  induction hq with
  | start => exact fun _ he => absurd he List.not_mem_nil
  | @request x _ reply t _ _ ih =>
    have hnext : exchanges t ⊆ h →
        (witnessing h P).environment.engine.Answers x () reply () → ∀ e ∈ exchanges t, P e.call :=
      fun ht hr => ih (hp.2 _ () hr) ht
    cases x with
    | call x =>
      have hcons : exchanges (⟨.call x, reply⟩ :: t) = ⟨x, reply⟩ :: exchanges t := rfl
      rw [hcons] at ht ⊢
      obtain ⟨hx, hrest⟩ := List.cons_subset.mp ht
      exact List.forall_mem_cons.mpr ⟨hp.1, hnext hrest hx⟩
    | patience => exact hnext ht ⟨rfl, .inl trivial⟩
    | _ => exact hnext ht rfl

theorem allows {x : Cloud.Call} {Q : Except x.Fault x.Value → Prop} (hx : P x)
    (hQ : ∀ r, ⟨x, r⟩ ∈ h → Q r) :
    (witnessing h P).Allows (Action.call (S := Cloud) x) Q () := fun _ _ _ =>
  .call hx fun r _ hr => ⟨trivial, hQ r hr⟩

theorem calls_of_portion {K : Type} {direction : Direction} {context : PassContext} {object : K}
    {ended : Prop} {resource : Resource Cloud K} {h₀ : List Exchange}
    {post : Except Error Unit → Cancellation → Unit → Prop}
    (hportion : Portion direction context object ended resource h₀) (hsub : h₀ ⊆ h)
    (hm : (resource.ensure direction context object).Meets (witnessing h P).environment post
      .none ()) : ∀ e ∈ h₀, P e.call := by
  obtain ⟨t, ⟨q, hq⟩, rfl⟩ := hportion.comes
  exact taken_of_after hm hq hsub

end Witnessing

def LearnsAccount (h : List Exchange) (account : String) : Prop :=
  (⟨.accountId, Except.ok account⟩ : Exchange) ∈ h

def ListsVolume (cluster : Cluster) (h : List Exchange) (v : Volume) : Prop :=
  ∃ volumes : List Volume, v ∈ volumes ∧
    (⟨.describeVolumes [.tag (Names.ownershipTag cluster.id) Names.owned], Except.ok volumes⟩ :
      Exchange) ∈ h

section Resources

open Discipline Witnessing

variable {direction : Direction} {context : PassContext} {cluster : Cluster} {ended : Prop}
  {policy volumePolicy : RetryPolicy} {project : String} {h h₀ : List Exchange}

theorem calls_of_key (hportion : Portion direction context cluster ended
      (EncryptionKey.resource.managed policy project).toResource h) :
    ∀ e ∈ h, e.call ∈ EncryptionKey.calls cluster.id direction :=
  calls_of_portion (P := (· ∈ EncryptionKey.calls cluster.id direction)) hportion
    (List.Subset.refl h)
    (Allows.key trivial (fun _ hx => allows hx fun _ _ => trivial) _ _ trivial)

theorem calls_of_bucket (hsub : h ⊆ h₀) (hportion : Portion direction context cluster ended
      (Bucket.resource.managed policy project).toResource h) :
    ∀ e ∈ h, e.call = .accountId ∨ ∃ account, LearnsAccount h₀ account ∧
      Bucket.Makes (Names.bucket account cluster.id) direction e.call :=
  calls_of_portion (P := fun x => x = .accountId ∨ ∃ account, LearnsAccount h₀ account ∧
      Bucket.Makes (Names.bucket account cluster.id) direction x) hportion hsub
    (Allows.bucket (A := LearnsAccount h₀) trivial
      (allows (.inl rfl) fun _ hr account ha => by subst ha; exact hr)
      (fun account ha _ hx => allows (.inr ⟨account, ha, hx⟩) fun _ _ => trivial) _ _ trivial)

theorem allows_listing {P : Cloud.Call → Prop}
    (hlist : P (.describeVolumes [.tag (Names.ownershipTag cluster.id) Names.owned])) :
    (witnessing h₀ P).Allows (Action.call (S := Cloud)
      (.describeVolumes [.tag (Names.ownershipTag cluster.id) Names.owned]))
      (fun answer => ∀ volumes : List Volume, answer = .ok volumes →
        ∀ v ∈ volumes, ListsVolume cluster h₀ v) () :=
  allows hlist fun _ hr volumes ha v hv => by
    subst ha
    exact ⟨volumes, hv, hr⟩

def LooseVolumes.Makes (cluster : Cluster) (h : List Exchange) (x : Cloud.Call) : Prop :=
  x = .describeVolumes [.tag (Names.ownershipTag cluster.id) Names.owned] ∨
    ∃ v, ListsVolume cluster h v ∧
      Volumes.isLoose cluster.id v.tags = true ∧
      x ∈ Volumes.removeCalls v

theorem calls_of_volumes (hsub : h ⊆ h₀) (hportion : Portion direction context cluster ended
      (((LooseVolumes.resource volumePolicy).wrap (.retrying policy)).wrap (.measuring project))
      h) :
    ∀ e ∈ h, direction = .delete ∧ LooseVolumes.Makes cluster h₀ e.call :=
  calls_of_portion (P := fun x => direction = .delete ∧ LooseVolumes.Makes cluster h₀ x)
    hportion hsub
    (Allows.volumes (G := ListsVolume cluster h₀) trivial
      (fun hd => allows_listing ⟨hd, .inl rfl⟩)
      (fun hd v hv hkind _ hx => allows ⟨hd, .inr ⟨v, hv, hkind, hx⟩⟩ fun _ _ => trivial)
      _ _ trivial)

def MainStack.Clears (cluster : Cluster) (h : List Exchange) (x : Cloud.Call) : Prop :=
  ∃ v, ListsVolume cluster h v ∧ Volumes.holdsEtcd cluster.id v.tags = true ∧
    x ∈ Volumes.retireCalls v

def MainStack.Retires (cluster : Cluster) (h : List Exchange) (x : Cloud.Call) : Prop :=
  x = .describeVolumes [.tag (Names.ownershipTag cluster.id) Names.owned] ∨ Clears cluster h x

theorem calls_of_stack {cloudConfigVersion : String} (hsub : h ⊆ h₀)
    (hportion : Portion direction context cluster ended
      ((MainStack.resource cloudConfigVersion volumePolicy).managed policy project).toResource h) :
    ∀ e ∈ h, MainStack.Makes cluster direction e.call ∨
      direction = .create ∧ MainStack.Retires cluster h₀ e.call :=
  calls_of_portion (P := fun x => MainStack.Makes cluster direction x ∨
      direction = .create ∧ MainStack.Retires cluster h₀ x) hportion hsub
    (Allows.stack (G := ListsVolume cluster h₀) (fun _ hx => allows (.inl hx) fun _ _ => trivial)
      trivial (fun hd => allows_listing (.inr ⟨hd, .inl rfl⟩))
      (fun hd v hv hkind _ hx => allows (.inr ⟨hd, .inr ⟨v, hv, hkind, hx⟩⟩) fun _ _ => trivial)
      _ _ trivial)

theorem calls_of_drainer (hportion : Portion direction context cluster ended
      (Drainer.resource.managed policy project).toResource h) :
    ∀ e ∈ h, e.call = .describeStack .guest (Names.guestMainStack cluster.id) ∨
      ∃ group, Drainer.Makes group direction e.call := by
  refine calls_of_portion (h := h) (P := fun x =>
      x = .describeStack .guest (Names.guestMainStack cluster.id) ∨
        ∃ group, Drainer.Makes group direction x) hportion (List.Subset.refl h)
    (Ensures.drainer (N := fun _ => True) trivial ?_
      (fun _ _ name _ _ hx => allows (.inr ⟨name, hx⟩) fun _ _ => trivial))
  exact .bind (allows (.inl rfl) fun _ _ => trivial) fun _ _ => .except fun _ _ _ _ => trivial

end Resources

end ClusterKeeper
