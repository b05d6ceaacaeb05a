import ClusterKeeper.Proofs.History
import ClusterKeeper.Proofs.Repertoire
import ClusterKeeper.Proofs.UnreliableCloud

/-!
# What can be done at any time

Passes that create are made of calls that are of no consequence for the machines
and the stacks, and of a few that are. What a discipline has to take so that
their parts can be run at any time.
-/

set_option autoImplicit false

namespace ClusterKeeper

open Memory

namespace Cloud.Call

def isQuiet (x : Cloud.Call) : Bool :=
  match Sandbox.service? x with
  | some .guestStacks | some .hostStacks | some .machines => false
  | _ => true

def isStackCreation : Cloud.Call → Bool
  | createStack _ _ _ _ => true
  | _ => false

def isStackUpdate : Cloud.Call → Bool
  | updateStack _ _ _ => true
  | _ => false

def isDescription : Cloud.Call → Bool
  | describeStack _ _ => true
  | _ => false

theorem not_machine_of_quiet {x : Cloud.Call} (hx : x.isQuiet = true) : ¬IsMachineCall x := by
  intro hm
  rw [isQuiet, hm] at hx
  cases hx

theorem not_stackChange_of_machine {x : Cloud.Call} (hx : IsMachineCall x) :
    x.isStackCreation = false ∧ x.isStackUpdate = false := by
  cases x with
  | createStack account | updateStack account => cases account <;> cases hx
  | _ => exact ⟨rfl, rfl⟩

theorem not_stackChange_of_quiet {x : Cloud.Call} (hx : x.isQuiet = true) :
    x.isStackCreation = false ∧ x.isStackUpdate = false := by
  cases x with
  | createStack account | updateStack account => cases account <;> cases hx
  | _ => exact ⟨rfl, rfl⟩

theorem not_description_of_quiet {x : Cloud.Call} (hx : x.isQuiet = true) :
    x.isDescription = false := by
  cases x with
  | describeStack account _ => cases account <;> cases hx
  | _ => rfl

end Cloud.Call

theorem Volumes.isMachineCall_of_concerns {volume : String} {x : Cloud.Call}
    (hx : Concerns volume x) : IsMachineCall x := by
  cases x with
  | stopInstance | waitUntilInstanceStopped | detachVolume | waitUntilVolumeAvailable
  | deleteVolume => rfl
  | _ => exact hx.elim

def firstDescription (h : List Exchange) : Option Exchange :=
  h.find? fun e => e.call.isDescription

theorem firstDescription_moves {h h' : List Exchange} {e : Exchange}
    (he : firstDescription h = some e) (hm : h <+: h') : firstDescription h' = some e :=
  hm.find?_eq_some he

theorem firstDescription_append {h : List Exchange} {e : Exchange}
    (hn : firstDescription h = none) :
    firstDescription (h ++ [e]) = if e.call.isDescription then some e else none := by
  unfold firstDescription at hn ⊢
  rw [List.find?_append, hn, Option.none_or, List.find?_singleton]

namespace Recording

open Discipline

variable {takes : Cloud.Call → List Exchange → Prop} {h h' : List Exchange} {cluster : Cluster}
  {policy volumePolicy : RetryPolicy} {project : String} {context : PassContext}

def Takes (takes : Cloud.Call → List Exchange → Prop) (C : Cloud.Call → Prop)
    (h : List Exchange) : Prop :=
  ∀ x, C x → ∀ h', h <+: h' → takes x h'

theorem Takes.moves {C : Cloud.Call → Prop} (ht : Takes takes C h) (hm : h <+: h') :
    Takes takes C h' := fun x hx _ hm' => ht x hx _ (hm.trans hm')

/-- What keeps quiet describes no stack. -/
theorem Does.unseen {α : Type} {a : Action Cloud α} {F : α → List Exchange → Prop}
    {c : Cancellation} (ha : (recording fun x _ => x.isQuiet = true).Does True a F c h)
    (hq : Takes takes (fun x => x.isQuiet = true) h) (hn : firstDescription h = none) :
    (recording takes).Does True a (fun r h' => F r h' ∧ firstDescription h' = none) c h := by
  refine Program.Meets.mono (Program.Meets.widen
    (I := fun h' => h <+: h' ∧ firstDescription h' = none) ha ⟨List.prefix_refl h, hn⟩ id ?_
    (fun x h₁ r h₂ hr => hr) ?_) ?_
  rotate_left 2
  · rintro ⟨r | r, c'⟩ h' ⟨⟨hc, hm, hr⟩, -, hn'⟩
    · exact ⟨hc, hm, hr⟩
    · exact ⟨hc, hm, hr, hn'⟩
  · rintro (x | _ | _ | _ | _) h₁ ⟨hm, -⟩ hx
    · exact hq x hx h₁ hm
    · exact hx
    · exact hx
    · trivial
    · trivial
  · rintro (x | _ | _ | _ | _) h₁ r h₂ ⟨hm, hn₁⟩ hx hr
    · cases hr
      refine ⟨hm.trans (List.prefix_append _ _), ?_⟩
      rw [firstDescription_append hn₁, Cloud.Call.not_description_of_quiet hx]
      rfl
    · cases hr; exact ⟨hm, hn₁⟩
    · cases hr; exact ⟨hm, hn₁⟩
    · cases hr.1; exact ⟨hm, hn₁⟩
    · cases hr; exact ⟨hm, hn₁⟩

section Quiet

variable (hq : Takes takes (fun x => x.isQuiet = true) h)
include hq

theorem Admits.quiet {x : Cloud.Call} (hx : x.isQuiet = true) :
    Admits takes (Action.call (S := Cloud) x) h := .call (hq x hx)

theorem admits_lookUpAccount : Admits takes lookUpAccount h :=
  .bind (.quiet hq rfl) fun _ => .orFail _

theorem admits_render (state : StackState) (account : String) :
    Admits takes (MainStack.render cluster state account) h := .render (Admits.quiet hq rfl)

theorem admits_key : Admits takes
    ((EncryptionKey.resource.managed policy project).toResource.ensure .create context cluster)
    h := by
  refine .key trivial fun x hx => Admits.quiet hq ?_
  simp only [EncryptionKey.calls, List.mem_cons, List.not_mem_nil, or_false] at hx
  rcases hx with rfl | rfl | rfl <;> rfl

theorem admits_bucket : Admits takes
    ((Bucket.resource.managed policy project).toResource.ensure .create context cluster) h := by
  refine .bucket (A := fun _ => True) trivial
    ((Admits.quiet hq rfl).imp fun _ _ _ _ => trivial) fun account _ x hx => Admits.quiet hq ?_
  cases x with
  | headBucket | createBucket => rfl
  | _ => exact hx.elim

/-- The drainer looks at the stack once more. -/
theorem ensures_drainer (hd : ∀ name h', h <+: h' → takes (.describeStack .guest name) h') :
    (recording takes).Ensures True
      ((Drainer.resource.managed policy project).toResource.ensure .create context cluster)
      (fun _ _ => True) .none h := by
  refine .drainer (N := fun _ => True) trivial
    (.bind (Admits.call (hd _)) fun _ _ => .except fun _ _ _ _ => trivial)
    fun h' hm name _ x hx => Admits.quiet (hq.moves hm) ?_
  cases x with
  | describeGroup | completeLifecycleAction => rfl
  | _ => exact hx.elim

end Quiet

theorem admits_volumes : Admits takes
    ((((LooseVolumes.resource volumePolicy).wrap (.retrying policy)).wrap
      (.measuring project)).ensure .create context cluster) h :=
  .managed policy .ensureCreated (.pure _)

/-- What an update does to the machines. -/
theorem admits_retireEtcd (hm : Takes takes IsMachineCall h) (id : String) :
    Admits takes (Volumes.retireEtcd policy id) h := by
  have hlist : Admits takes (Action.call (S := Cloud)
      (.describeVolumes [.tag (Names.ownershipTag id) Names.owned])) h := .call (hm _ rfl)
  exact Discipline.Allows.retireEtcd (G := fun _ => True) (hlist.imp fun _ _ _ _ _ _ => trivial)
    trivial fun v _ _ x hx =>
      Admits.call (hm x (Volumes.isMachineCall_of_concerns (Volumes.concerns_of_mem hx)))

end Recording

end ClusterKeeper
