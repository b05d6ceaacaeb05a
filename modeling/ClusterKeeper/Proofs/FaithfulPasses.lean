import ClusterKeeper.Proofs.CandidResources
import ClusterKeeper.Proofs.Results
import ClusterKeeper.Proofs.Teardown

/-!
# Passes that tell how they ended

A pass succeeds if all answers that count are tolerated, and only then. A pass
that succeeds has been through all of its resources.
-/

set_option autoImplicit false

namespace ClusterKeeper

open Memory

variable {K : Type} {direction : Direction} {context : PassContext} {object : K}
  {resource : Resource Cloud K} {rest : List (Resource Cloud K)}

inductive Completed (direction : Direction) (context : PassContext) (object : K) :
    List (Resource Cloud K) → Transcript Cloud → Prop where
  | nil : Completed direction context object [] []
  | cons {resource : Resource Cloud K} {rest : List (Resource Cloud K)} {t t' : Transcript Cloud}
      {c : Cancellation}
      (h : ((resource.ensure direction context object).run .none).Ends t (.ok (), c))
      (hrest : Completed direction context object rest t') :
      Completed direction context object (resource :: rest) (t ++ t')

def Faithful (direction : Direction) (context : PassContext) (object : K)
    (resources : List (Resource Cloud K)) : Prop :=
  ∀ t r c', ((runResources direction context object resources).run .none).Ends t (r, c') →
    (∃ h, Adds direction.counts t h ∧ r.isOk = h.all Exchange.tolerated) ∧
      (r.isOk = true → Completed direction context object resources t)

theorem ends_runResources {t : Transcript Cloud} {r : Except Error Unit} {c' : Cancellation}
    (ht : ((runResources direction context object (resource :: rest)).run .none).Ends t (r, c')) :
    (∃ t₁ c₁ t₂, t = t₁ ++ t₂ ∧
      ((resource.ensure direction context object).run .none).Ends t₁ (.ok (), c₁) ∧
      ((if c₁.pass then pure () else runResources direction context object rest :
        Action Cloud Unit).run c₁).Ends t₂ (r, c')) ∨
    ∃ e, r = .error e ∧
      ((resource.ensure direction context object).run .none).Ends t (.error e, c') := by
  have ht : ((resource.ensure direction context object >>= fun _ =>
      (get >>= fun c => if c.pass then pure () else runResources direction context object rest :
        Action Cloud Unit)).run .none).Ends t (r, c') := ht
  rcases Action.ends_bind ht with ⟨t₁, ⟨⟩, c₁, t₂, rfl, h₁, h₂⟩ | h
  · exact .inl ⟨t₁, c₁, t₂, rfl, h₁, h₂⟩
  · exact .inr h

/-- A resource that is candid hands on to the next one. -/
theorem Faithful.cons
    (hr : Candid direction.counts (resource.ensure direction context object) (fun _ => True) .none)
    (hrest : Faithful direction context object rest) :
    Faithful direction context object (resource :: rest) := by
  intro t r c' ht
  rcases ends_runResources ht with ⟨t₁, c₁, t₂, rfl, h₁, h₂⟩ | ⟨e, rfl, h₁⟩
  · obtain ⟨rfl, h, hadds, hok, -⟩ := hr t₁ _ c₁ h₁
    obtain ⟨⟨h', hadds', hok'⟩, hdone⟩ := hrest t₂ r c' h₂
    refine ⟨⟨h ++ h', hadds.append hadds', ?_⟩, fun hr => .cons h₁ (hdone hr)⟩
    rw [List.all_append, ← hok, ← hok']
    rfl
  · obtain ⟨-, h, hadds, hok, -⟩ := hr t _ c' h₁
    exact ⟨⟨h, hadds, hok⟩, fun hr => absurd hr Bool.false_ne_true⟩

/-- The last resource may cancel the pass. -/
theorem Faithful.last
    (hr : ∀ t r c', ((resource.ensure direction context object).run .none).Ends t (r, c') →
      ∃ h, Adds direction.counts t h ∧ r.isOk = h.all Exchange.tolerated) :
    Faithful direction context object [resource] := by
  intro t r c' ht
  rcases ends_runResources ht with ⟨t₁, c₁, t₂, rfl, h₁, h₂⟩ | ⟨e, rfl, h₁⟩
  · have hend : (if c₁.pass then pure () else runResources direction context object [] :
        Action Cloud Unit).run c₁ = .pure (.ok (), c₁) := by
      cases c₁.pass <;> rfl
    rw [hend] at h₂
    obtain ⟨rfl, heq⟩ := Program.ends_pure h₂
    cases heq
    refine ⟨?_, fun _ => .cons h₁ .nil⟩
    rw [List.append_nil]
    exact hr t₁ _ _ h₁
  · exact ⟨hr t _ c' h₁, nofun⟩

variable {config : Config} {bundle : VersionBundle} {cluster : Cluster}

/-- The five resources of every version bundle. -/
theorem faithful_resources (config : Config) (bundle : VersionBundle) :
    Faithful direction context cluster (Operator.resources config bundle).resources :=
  .cons (EncryptionKey.candid rfl) <| .cons (Bucket.candid rfl) <| .cons LooseVolumes.candid <|
  .cons (MainStack.candid rfl) <| .last fun _ _ _ ht => Drainer.ends rfl ht

theorem startPass_candid (allowed : Bool) :
    Candid direction.counts (Operator.startPass allowed cluster)
      (fun context => context = ⟨allowed⟩) .none :=
  .exchange_bind (x := .guestClients cluster.id) (direction.counts_of_harmless rfl)
    (.of_cases (fun _ => rfl) fun _ => rfl) fun _ => .pure rfl

/-- What the answers of a pass that count have to say. -/
theorem faithful_ensure {r : Reconciler Cloud Cluster}
    (hroute : r.router.route cluster = .ok (Operator.bundleSet config bundle))
    {t : Transcript Cloud} {result : Except Error Unit}
    (ht : (r.ensure direction cluster).Ends t result) :
    (∃ h, Adds direction.counts t h ∧ result.isOk = h.all Exchange.tolerated) ∧
      (result.isOk = true → ∃ started rest, t = started ++ rest ∧
        Completed direction ⟨config.guestUpdateEnabled⟩ cluster
          (Operator.resources config bundle).resources rest) := by
  obtain ⟨t, ⟨result, c'⟩, t', rfl, hpass, hend⟩ := Program.ends_bind ht
  obtain ⟨rfl, rfl⟩ := Program.ends_pure hend
  rw [List.append_nil]
  have hpass : ((Operator.startPass config.guestUpdateEnabled cluster >>= fun context =>
      runResources direction context cluster (Operator.resources config bundle).resources).run
        .none).Ends t (result, c') := by
    have h := hpass
    rw [Reconciler.pass, hroute] at h
    exact h
  rcases Action.ends_bind hpass with ⟨t₁, context, c₁, t₂, rfl, h₁, h₂⟩ | ⟨e, rfl, h₁⟩
  · obtain ⟨rfl, h, hadds, hok, hcontext⟩ := startPass_candid _ t₁ _ c₁ h₁
    obtain rfl := hcontext context rfl
    obtain ⟨⟨h', hadds', hok'⟩, hdone⟩ := faithful_resources config bundle t₂ _ c' h₂
    refine ⟨⟨h ++ h', hadds.append hadds', ?_⟩, fun hr => ⟨t₁, t₂, rfl, hdone hr⟩⟩
    rw [List.all_append, ← hok, ← hok']
    rfl
  · obtain ⟨-, h, hadds, hok, -⟩ := startPass_candid _ t _ c' h₁
    exact ⟨⟨h, hadds, hok⟩, fun hr => absurd hr Bool.false_ne_true⟩

/-- Whatever is replied, a pass over a configured cluster that ends has lost no error
and made none up, and one that ends well has been through all of its resources. -/
theorem no_lost_error {r : Reconciler Cloud Cluster} (hr : Operator.reconciler config = .ok r)
    (hb : config.bundleFor cluster = .ok bundle) {t : Transcript Cloud}
    {result : Except Error Unit} (ht : (r.ensure direction cluster).Ends t result) :
    (result = .ok () ↔ ∀ e ∈ counted direction.counts t, e.tolerated = true) ∧
      (result = .ok () → ∃ started rest, t = started ++ rest ∧
        Completed direction ⟨config.guestUpdateEnabled⟩ cluster
          (Operator.resources config bundle).resources rest) := by
  have hroute : r.router.route cluster = .ok (Operator.bundleSet config bundle) := by
    rw [Operator.route_of_reconciler hr cluster, hb]
    rfl
  obtain ⟨⟨h, hadds, hok⟩, hdone⟩ := faithful_ensure hroute ht
  refine ⟨?_, fun hr => hdone (eq_ok_iff.mp hr)⟩
  rw [hadds.counted_eq, eq_ok_iff, hok, List.all_eq_true]

theorem no_lost_error_trial :
    ∃ r, Operator.reconciler Trial.config = .ok r ∧
      ∃ bundle, Trial.config.bundleFor Trial.cluster = .ok bundle ∧
        ∃ t, (r.ensure .delete Trial.cluster).Ends t (.ok ()) ∧
          (∀ e ∈ counted Direction.delete.counts t, e.tolerated = true) ∧
          ∃ started rest, t = started ++ rest ∧
            Completed .delete ⟨true⟩ Trial.cluster
              (Operator.resources Trial.config bundle).resources rest := by
  obtain ⟨r, hr, -⟩ := Operator.reconciler_of_validate Trial.config_valid
  obtain ⟨bundle, hb⟩ := Operator.bundleFor_of_validate Trial.config_valid Trial.config_covers
  have hroute : r.router.route Trial.cluster = .ok (Operator.bundleSet Trial.config bundle) := by
    rw [Operator.route_of_reconciler hr Trial.cluster, hb]
    rfl
  have halone : (teardown (Sandbox.conduct false) Trial.cluster fun _ => False).Reaches False
      (r.ensure .delete Trial.cluster) (Gone (Sandbox.conduct false) Trial.cluster) Trial.stores :=
    (Teardown.reaches_gone hroute Trial.volumes_nodup).mono fun ⟨_, hx⟩ => hx
  obtain ⟨s', hrun, -⟩ := halone.runAlone fun _ h => h
  obtain ⟨t, ht⟩ := Program.ends_of_run hrun
  obtain ⟨hiff, hdone⟩ := no_lost_error hr hb ht
  exact ⟨r, hr, bundle, hb, t, ht, hiff.mp rfl, hdone rfl⟩

end ClusterKeeper
