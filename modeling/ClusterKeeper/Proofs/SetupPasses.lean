import ClusterKeeper.Proofs.Routing
import ClusterKeeper.Proofs.Setup

/-!
# Passes that create a cluster

What each resource brings about, whatever others do at the same time and
whichever calls are tampered with.
-/

set_option autoImplicit false

namespace ClusterKeeper.Memory

structure Orderly (a : Aim) (tampered : Cloud.Call → Prop) : Prop where
  renders : a.conduct.render a.conduct.accountId a.cluster a.desired = .ok a.body
  leavesStacks : a.conduct.updatesInPlace = false
  machines : ∀ x, IsMachineCall x → ¬tampered x

namespace Setup

open Regime Discipline

abbrev Excuse (tampered : Cloud.Call → Prop) : Prop := ∃ x, tampered x

variable {a : Aim} {tampered : Cloud.Call → Prop} {c : Cancellation} {s : Stores}
  {context : PassContext} {policy volumePolicy : RetryPolicy} {project : String}

theorem thinning (a : Aim) (tampered : Cloud.Call → Prop) :
    Thinning (setup a tampered) a.isEtcd fun s => a.due s = true where
  stays hm h := hm.due.trans h
  thins hm := hm.volumes
  allows h ht := .of_volumes h ht

theorem does_createKey (key : String) :
    (setup a tampered).Does (Excuse tampered)
      (EncryptionKey.resource.applyCreate context a.cluster key)
      (fun _ s => a.cluster.id ∈ s.keys) c s := by
  refine .exchange (.createKey a.cluster.id) (fun s₁ _ => ?_) ⟨rfl, fun _ _ => rfl⟩ fun h => ⟨_, h⟩
  have ha : s₁.answer a.conduct (.createKey a.cluster.id) =
      s₁.settle () (s₁.createKey a.cluster.id) := Stores.answer_of_change rfl
  rw [Stores.createKey] at ha
  split at ha
  · next h => exact .of_answer ha (Settling.refl a s₁) trivial h
  · exact .of_answer ha (Settling.of_keys a s₁) trivial Std.ExtTreeSet.mem_insert_self

theorem does_key :
    (setup a tampered).Does (Excuse tampered)
      ((EncryptionKey.resource.managed policy project).toResource.ensure .create context a.cluster)
      (fun _ s => a.cluster.id ∈ s.keys) .none s := by
  apply Does.ensureCreated (C := fun key s => key ≠ "" → a.cluster.id ∈ s.keys)
    (D := fun key _ s => key ≠ "" → a.cluster.id ∈ s.keys)
    (M := fun _ _ s => a.cluster.id ∈ s.keys) rfl (fun h => h)
  · apply (does_currentKey fun h => h).imp
    intro key s₁ _ hkey h
    by_contra hm
    exact h (hkey.trans (if_neg hm))
  · intro key s₁ _ h
    exact (does_desiredKey fun h => h).imp fun _ s₂ hm _ hk => hm.key (h hk)
  · intro key desired s₁ _ h
    apply Does.pure
    split
    · exact .create _ fun s₂ _ => does_createKey desired
    · next hk => exact .empty (h hk)
  · exact fun _ _ s₁ _ h => .pure (.empty h)

theorem does_createBucket :
    (setup a tampered).Does (Excuse tampered)
      (Bucket.resource.applyCreate context a.cluster (a.conduct.bucket a.cluster))
      (fun _ s => a.conduct.bucket a.cluster ∈ s.buckets) c s := by
  refine .exchange (.createBucket (a.conduct.bucket a.cluster)) (fun s₁ _ => ?_)
    ⟨rfl, fun _ _ => rfl⟩ fun h => ⟨_, h⟩
  have ha : s₁.answer a.conduct (.createBucket (a.conduct.bucket a.cluster)) =
      s₁.settle () (s₁.createBucket (a.conduct.bucket a.cluster)) := Stores.answer_of_change rfl
  rw [Stores.createBucket] at ha
  split at ha
  · next h => exact .of_answer ha (Settling.refl a s₁) trivial h
  · next h => exact .of_answer ha (Settling.of_buckets h) trivial Std.ExtTreeMap.mem_insert_self

theorem does_bucket :
    (setup a tampered).Does (Excuse tampered)
      ((Bucket.resource.managed policy project).toResource.ensure .create context a.cluster)
      (fun _ s => a.conduct.bucket a.cluster ∈ s.buckets) .none s := by
  apply Does.ensureCreated
    (C := fun current s => current ≠ "" → a.conduct.bucket a.cluster ∈ s.buckets)
    (D := fun current desired s => desired = a.conduct.bucket a.cluster ∧
      (current ≠ "" → a.conduct.bucket a.cluster ∈ s.buckets))
    (M := fun _ _ s => a.conduct.bucket a.cluster ∈ s.buckets) rfl (fun h => h)
  · apply (does_currentBucket fun h => h).imp
    intro current s₁ _ hb h
    by_contra hm
    exact h (hb.trans (if_neg hm))
  · intro current s₁ _ h
    exact (does_bucketName fun h => h).imp fun _ s₂ hm hb =>
      ⟨hb, fun hc => hm.bucket (h hc)⟩
  · rintro current _ s₁ _ ⟨rfl, h⟩
    apply Does.pure
    split
    · exact .create _ fun s₂ _ => does_createBucket
    · next hc => exact .empty (h hc)
  · exact fun _ _ s₁ _ h => .pure (.empty h)

theorem does_volumes {F : Unit → Stores → Prop}
    (hF : ∀ s', Settling a s s' → F () s') :
    (setup a tampered).Does (Excuse tampered)
      ((((LooseVolumes.resource volumePolicy).wrap (.retrying policy)).wrap
        (.measuring project)).ensure .create context a.cluster) F .none s :=
  Does.change policy .ensureCreated (fun h => h) fun s₁ hm => .pure (hF s₁ hm)

theorem does_render (o : Orderly a tampered) :
    (setup a tampered).Does (Excuse tampered)
      (MainStack.render a.cluster a.desired a.conduct.accountId) (fun body _ => body = a.body)
      c s := by
  refine .bind (Does.expect (.renderTemplate a.conduct.accountId a.cluster a.desired)
    (f := id) (F := fun body _ => body = a.body) (fun s₁ _ => .of_unchanging rfl ?_)
    ⟨rfl, fun _ _ => rfl⟩ fun h => ⟨_, h⟩) fun answer s₁ _ h => ?_
  · rw [Stores.answer_of_reading rfl]
    exact .of_ok o.renders rfl
  · cases answer with
    | ok body => exact .pure h
    | error source => exact .throw h

theorem does_createStack {cloudConfigVersion : String} (o : Orderly a tampered) :
    (setup a tampered).Does (Excuse tampered)
      ((MainStack.resource cloudConfigVersion volumePolicy).applyCreate context a.cluster a.desired)
      (fun _ s => a.stackName ∈ s.guest.present) c s := by
  apply Does.bind (does_lookUpAccount fun h => h)
  intro account s₁ _ haccount
  cases haccount
  apply Does.bind (does_render o)
  intro body s₂ _ hbody
  cases hbody
  refine Does.exchange (.createStack .guest a.stackName a.body
    [(Names.ownershipTag a.cluster.id, Names.owned)]) (fun s₃ _ => ?_) ⟨rfl, fun _ _ => rfl⟩
    fun h => ⟨_, h⟩
  have ha : s₃.answer a.conduct (.createStack .guest a.stackName a.body
      [(Names.ownershipTag a.cluster.id, Names.owned)]) =
      s₃.settle () (s₃.createStack .guest a.creation) := Stores.answer_of_change rfl
  rw [Stores.createStack] at ha
  split at ha
  · next h => exact .of_answer ha (Settling.refl a s₃) trivial h
  · next h => exact .of_answer ha (Settling.of_creation h) trivial Std.ExtTreeMap.mem_insert_self

theorem does_submit (o : Orderly a tampered) (request : UpdateRequest) {F : Unit → Stores → Prop}
    (hF : ∀ s', Settling a s s' → F () s') :
    (setup a tampered).Does (Excuse tampered) (MainStack.submit request) F c s := by
  refine .exchange (.updateStack .guest request.stack request.body) (fun s₁ hm => ?_)
    ⟨rfl, fun _ _ => rfl⟩ fun h => ⟨_, h⟩
  have ha : s₁.answer a.conduct (.updateStack .guest request.stack request.body) =
      s₁.settle () (s₁.updateStack a.conduct .guest request) := Stores.answer_of_change rfl
  rw [Stores.updateStack, o.leavesStacks] at ha
  have hm' := Settling.of_updated a s₁ (s₁.guest.updated ++ [request])
  exact .of_answer ha hm' trivial (hF _ (hm.trans hm'))

/-- An update retires the volumes first, a scaling leaves them. -/
theorem does_applyUpdate (o : Orderly a tampered) {decision : Decision}
    (hdecision : decision = .update ↔ a.due s = true) (body : String)
    (hn : (s.volumes.map (·.id)).Nodup) :
    (setup a tampered).Does (Excuse tampered) (MainStack.applyUpdate volumePolicy a.cluster
      (MainStack.updateChange a.desired decision body))
      (fun _ s => a.due s = true → Thinning.Spared a.isEtcd s) c s := by
  have hspared : ∀ {s₁ s₂ : Stores}, Settling a s₁ s₂ → Thinning.Spared a.isEtcd s₁ →
      a.due s₂ = true → Thinning.Spared a.isEtcd s₂ := fun hm h _ => h.thins hm.volumes
  cases decision with
  | keep => exact .pure fun hdue => nomatch hdecision.mpr hdue
  | scale => exact does_submit o _ fun s₁ hm hdue => nomatch hdecision.mpr (hm.due ▸ hdue)
  | update =>
    apply Does.bind ((thinning a tampered).does_retireEtcd o.machines (hdecision.mp rfl) hn)
    exact fun _ s₁ _ h => does_submit o _ fun s₂ hm => hspared hm h

structure Seen (a : Aim) (current : StackState) (s : Stores) : Prop where
  stack : current.exists? = true → a.stackName ∈ s.guest.present
  due : a.due s = (current.hasOutputs &&
    decide (current.decide a.desired a.updatesAllowed = .update))

theorem seen_current (a : Aim) (s : Stores) : Seen a (a.current s) s where
  stack h := by
    by_contra hm
    rw [Aim.current, Std.ExtTreeMap.getElem?_eq_none hm] at h
    cases h
  due := rfl

theorem Seen.moves {current : StackState} {s s' : Stores} (h : Seen a current s)
    (hm : Settling a s s') : Seen a current s' :=
  ⟨fun he => hm.stack (h.stack he), hm.due.trans h.due⟩

theorem does_updatePatch {cloudConfigVersion : String} (o : Orderly a tampered)
    {current : StackState} (hn : (s.volumes.map (·.id)).Nodup) (h : Seen a current s)
    (hs : a.stackName ∈ s.guest.present) :
    (setup a tampered).Does (Excuse tampered)
      ((MainStack.resource cloudConfigVersion volumePolicy).updatePatch ⟨a.updatesAllowed⟩ a.cluster
        current a.desired)
      (fun p s => (setup a tampered).discipline.Carries (Excuse tampered)
        (MainStack.resource cloudConfigVersion volumePolicy) ⟨a.updatesAllowed⟩ a.cluster
        (fun _ s => a.stackName ∈ s.guest.present ∧ (a.due s = true → Thinning.Spared a.isEtcd s))
        c s p) c s := by
  have hbody : (setup a tampered).Does (Excuse tampered)
      (lookUpAccount >>= MainStack.render a.cluster a.desired) (fun _ _ => True) c s := by
    apply Does.bind (does_lookUpAccount fun h => h)
    intro account s₁ _ haccount
    cases haccount
    exact (does_render o).imp fun _ _ _ _ => trivial
  have hkeep : (current.hasOutputs = true →
      current.decide a.desired a.updatesAllowed = .keep) → ¬a.due s = true := by
    intro hkeep hdue
    rw [h.due, Bool.and_eq_true, decide_eq_true_eq] at hdue
    cases (hkeep hdue.1).symm.trans hdue.2
  apply mainStack_updatePatch (fun hk => ⟨hs, fun hdue => absurd hdue (hkeep hk)⟩) hbody
  intro ho body s₀ s₁ hm₀ _ hm₁
  have hm := hm₀.trans hm₁
  have hdue : current.decide a.desired a.updatesAllowed = .update ↔ a.due s₁ = true := by
    rw [(h.moves hm).due, ho, Bool.true_and, decide_eq_true_eq]
  exact (does_applyUpdate o hdue body (hm.volumes.nodup hn)).imp fun _ s₂ hm' hs₂ =>
    ⟨(hm.trans hm').stack hs, hs₂⟩

theorem does_stack (o : Orderly a tampered) (hn : (s.volumes.map (·.id)).Nodup) :
    (setup a tampered).Does (Excuse tampered)
      (((MainStack.resource a.cloudConfigVersion volumePolicy).managed policy
        project).toResource.ensure .create ⟨a.updatesAllowed⟩ a.cluster)
      (fun _ s => a.stackName ∈ s.guest.present ∧
        (a.due s = true → Thinning.Spared a.isEtcd s)) .none s := by
  apply Does.ensureCreated (C := Seen a)
    (D := fun current desired s => desired = a.desired ∧ Seen a current s)
    (M := fun current desired s => desired = a.desired ∧ Seen a current s ∧
      a.stackName ∈ s.guest.present) rfl (fun h => h)
  · apply (does_currentStack fun h => h).imp
    intro current s₁ _ h
    rw [h]
    exact seen_current a s₁
  · exact fun current s₁ _ h => .pure ⟨rfl, h⟩
  · rintro current _ s₁ _ ⟨rfl, h⟩
    apply Does.pure
    split
    · next he => exact .empty ⟨rfl, h, h.stack he⟩
    · exact .create _ fun s₂ hm => (does_createStack o).imp fun _ s₃ hm' hs =>
        ⟨rfl, h.moves (hm.trans hm'), hs⟩
  · rintro current _ s₁ hm ⟨rfl, h, hs⟩
    exact does_updatePatch o (hm.volumes.nodup hn) h hs

structure Draining (a : Aim) (group : String) (rest : List LifecycleAction) (s : Stores) :
    Prop where
  named : a.group s = some group
  known : group ∈ s.groups
  own : ∀ action ∈ rest, action.group = group
  waiting : ∀ id, s.waiting group id ≤ rest.countP fun action => decide (action.instanceId = id)

theorem Draining.moves {group : String} {rest : List LifecycleAction} {s s' : Stores}
    (h : Draining a group rest s) (hm : Settling a s s') : Draining a group rest s' where
  named := hm.group.trans h.named
  known := (hm.groups group).mpr h.known
  own := h.own
  waiting id := Nat.le_trans (hm.waiting group id) (h.waiting id)

/-- The last release may have been made by someone else. -/
theorem answer_complete_cases {group : String} {action : LifecycleAction}
    {rest : List LifecycleAction} (h : Draining a group (action :: rest) s) :
    Settling a s (s.answer a.conduct (.completeLifecycleAction action)).2 ∧
    Cloud.accept CloudError.isNotFound () (s.answer a.conduct (.completeLifecycleAction action)).1 =
      .ok () ∧
    Draining a group rest (s.answer a.conduct (.completeLifecycleAction action)).2 := by
  have hown : action.group = group := h.own action List.mem_cons_self
  have hrest : ∀ action ∈ rest, action.group = group :=
    fun other ho => h.own other (List.mem_cons_of_mem _ ho)
  have hwaiting : ∀ id, (s.answer a.conduct (.completeLifecycleAction action)).2.waiting group id ≤
      rest.countP fun other => decide (other.instanceId = id) := by
    intro id
    have hw := h.waiting id
    rw [List.countP_cons] at hw
    rw [s.waiting_complete]
    simp only [hown, true_and, decide_eq_true_iff] at hw ⊢
    omega
  cases hg : s.groups[action.group]? with
  | none => exact absurd (hown ▸ h.known) (Table.not_mem_of_none hg)
  | some members =>
    cases hr : release action.instanceId members with
    | none =>
      rw [Stores.answer_complete_of_none (by rw [hg]; exact hr)] at hwaiting ⊢
      exact ⟨.refl a s, rfl, h.named, h.known, hrest, hwaiting⟩
    | some after =>
      have hm : Settling a s { s with
          groups := s.groups.insert action.group after
          completed := s.completed ++ [action] } := .of_release (hown ▸ h.named) hg hr
      rw [Stores.answer_complete_of_some hg hr] at hwaiting ⊢
      exact ⟨hm, rfl, hm.group.trans h.named, (hm.groups group).mpr h.known, hrest, hwaiting⟩

theorem does_complete {group : String} {action : LifecycleAction} {rest : List LifecycleAction}
    (h : Draining a group (action :: rest) s) :
    (setup a tampered).Does (Excuse tampered) (Drainer.complete action)
      (fun _ => Draining a group rest) c s := by
  refine .exchange (.completeLifecycleAction action) (fun s₁ hm => ?_) ⟨rfl, fun _ _ => rfl⟩
    fun h => ⟨_, h⟩
  obtain ⟨hm', hok, hrest⟩ := answer_complete_cases (h.moves hm)
  exact ⟨hm', trivial, .of_ok hok hrest⟩

/-- The group that the outputs name has to exist, unless the pass may fail. -/
theorem does_describeGroup {group : String} (hg : a.group s = some group)
    (hgroup : group ∈ s.groups ∨ Excuse tampered) :
    (setup a tampered).Does (Excuse tampered) (do
      let answer ← Cloud.describeGroup group
      let members ← Cloud.orFail ("describe instances of auto scaling group " ++ group) answer
      pure (Drainer.parked group members))
      (fun actions s => Draining a group actions s) c s := by
  refine .exchange_bind (.describeGroup group) (f := id)
    (F := fun members s => Draining a group (Drainer.parked group members) s)
    (fun s₁ hm => .of_unchanging rfl ?_) ⟨rfl, fun _ _ => rfl⟩ (fun h => ⟨_, h⟩)
    fun _ _ _ h => .pure h
  rw [Stores.answer_of_reading rfl, Stores.describeGroup]
  cases hr : s₁.groups[group]? with
  | none =>
    rcases hgroup with hin | hP
    · exact absurd ((hm.groups group).mpr hin) (Table.not_mem_of_none hr)
    · exact hP
  | some members =>
    refine ⟨hm.group.trans hg, Table.mem_of_some hr, fun action ha => ?_, fun id => ?_⟩
    · obtain ⟨m, -, rfl⟩ := List.mem_map.mp ha
      rfl
    · apply Nat.le_of_eq
      rw [countP_parked, Stores.waiting, hr, Option.elim_some]

theorem ensures_drainer (hgroup : (∀ group, a.group s = some group → group ∈ s.groups) ∨
    Excuse tampered) (h : Prepared a s) :
    (setup a tampered).Ensures (Excuse tampered)
      ((Drainer.resource.managed policy project).toResource.ensure .create context a.cluster)
      (fun _ => Settled a) .none s := by
  refine Ensures.withStates (C := fun actions s => ∃ group, Draining a group actions s)
    (D := fun actions _ s => ∃ group, Draining a group actions s) rfl
    (drainer_currentState (F := fun _ => Settled a) (does_groupOf fun h => h) ?_ ?_) ?_ ?_
  · intro s₁ hm hg
    constructor
    · exact hm.prepared h
    · intro group hg'
      cases hg.trans hg'
  · intro s₁ group hm hg
    have hg : a.group s₁ = some group := hg.symm
    have hknown : group ∈ s₁.groups ∨ Excuse tampered :=
      hgroup.imp_left fun hin => (hm.groups group).mpr (hin group (hm.group.symm.trans hg))
    exact (does_describeGroup hg hknown).imp fun _ _ _ h => ⟨group, h⟩
  · exact fun actions s₁ _ h => .pure h
  · rintro actions _ s₁ hm ⟨group, hd⟩
    have hsettled : ∀ s', Settling a s₁ s' → Draining a group [] s' → Settled a s' := by
      intro s' hm' hd'
      constructor
      · exact (hm.trans hm').prepared h
      · intro group' hg'
        cases hd'.named.symm.trans hg'
        exact ⟨hd'.known, fun id => Nat.le_zero.mp (hd'.waiting id)⟩
    apply Does.patches (M := Draining a group actions) rfl (fun h => h) (.pure (.empty hd))
    intro s₂ hm₂ hd₂
    apply Does.pure
    split
    · next ha => exact .empty (hsettled s₂ hm₂ (ha ▸ hd₂))
    · apply Carries.update _
      intro s₃ hm₃
      refine (Does.forM (I := Draining a group) actions (fun action rest s h => does_complete h)
        (hd₂.moves hm₃)).imp fun _ s₄ hm₄ hd₄ => ?_
      exact hsettled s₄ (hm₂.trans (hm₃.trans hm₄)) hd₄

/-- A pass that creates a cluster leaves everything as it should be, wherever
others are with creating it. -/
theorem reaches_settled {config : Config} {bundle : VersionBundle} {r : Reconciler Cloud Cluster}
    (o : Orderly a tampered)
    (hr : r.router.route a.cluster = .ok (Operator.bundleSet config bundle))
    (hversion : a.cloudConfigVersion = bundle.cloudConfigVersion)
    (hallowed : a.updatesAllowed = config.guestUpdateEnabled)
    (hgroup : (∀ group, a.group s = some group → group ∈ s.groups) ∨ Excuse tampered)
    (hn : (s.volumes.map (·.id)).Nodup) :
    (setup a tampered).Reaches (Excuse tampered) (r.ensure .create a.cluster) (Settled a) s := by
  have hstart : (setup a tampered).Does (Excuse tampered)
      ((Operator.bundleSet config bundle).start a.cluster)
      (fun context _ => context = ⟨a.updatesAllowed⟩) .none s := by
    rw [hallowed]
    exact does_startPass _ _ fun h => h
  apply Reaches.ensure hr hstart
  intro s₀ hm₀
  apply Ensures.runResources_cons does_key
  intro s₁ hm₁ h₁
  apply Ensures.runResources_cons does_bucket
  intro s₂ hm₂ h₂
  refine Ensures.runResources_cons (does_volumes (F := fun _ => Settling a s₂) fun _ h => h)
    fun s₃ hm₃ _ => ?_
  have hm := hm₀.trans (hm₁.trans (hm₂.trans hm₃))
  rw [← hversion]
  apply Ensures.runResources_cons (does_stack o (hm.volumes.nodup hn))
  intro s₄ hm₄ h₄
  have hgroup₄ : (∀ group, a.group s₄ = some group → group ∈ s₄.groups) ∨ Excuse tampered :=
    hgroup.imp_left fun hin group hg => ((hm.trans hm₄).groups group).mpr
      (hin group ((hm.trans hm₄).group.symm.trans hg))
  refine Ensures.runResources_last (ensures_drainer hgroup₄ ⟨?_, ?_, h₄.1, h₄.2⟩)
  · exact (hm₂.trans (hm₃.trans hm₄)).key h₁
  · exact (hm₃.trans hm₄).bucket h₂

end Setup

end ClusterKeeper.Memory
