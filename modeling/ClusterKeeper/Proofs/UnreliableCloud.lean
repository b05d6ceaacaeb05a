import ClusterKeeper.Memory.Sandbox
import ClusterKeeper.Pass.Engine
import ClusterKeeper.Proofs.PassRules

/-!
# A cloud in memory with unreliable answers

Some calls can be tampered with: such a call is carried out or not, and in
either case answered with a condition that passes. All other calls are
answered truthfully.
-/

set_option autoImplicit false

namespace ClusterKeeper

def CloudError.isTransient : CloudError → Bool
  | throttled | api _ _ => true
  | _ => false

namespace Memory

def IsMachineCall (x : Cloud.Call) : Prop := Sandbox.service? x = some .machines

def IsGroupCall (x : Cloud.Call) : Prop := Sandbox.service? x = some .groups

theorem IsGroupCall.cases {x : Cloud.Call} (h : IsGroupCall x) :
    (∃ group, x = .describeGroup group) ∨ ∃ action, x = .completeLifecycleAction action := by
  cases x with
  | describeGroup group => exact .inl ⟨group, rfl⟩
  | completeLifecycleAction action => exact .inr ⟨action, rfl⟩
  | describeStack account | createStack account | updateStack account | deleteStack account =>
    cases account <;> cases h
  | _ => cases h

inductive Answered (k : Conduct) (tampered : Cloud.Call → Prop) (c : Cloud.Call) (s : Stores) :
    Except c.Fault c.Value → Stores → Prop where
  | truthful : Answered k tampered c s (s.answer k c).1 (s.answer k c).2
  | lost {e : CloudError} (ht : tampered c) (he : e.isTransient = true) :
      Answered k tampered c s (Cloud.failWith c e) (s.answer k c).2
  | refused {e : CloudError} (ht : tampered c) (he : e.isTransient = true) :
      Answered k tampered c s (Cloud.failWith c e) s

def unreliable (k : Conduct) (tampered : Cloud.Call → Prop) : Environment Cloud Stores where
  Takes _ _ := True
  Answers c s r s' := Answered k tampered c s r s'
  repeats := ∃ c, tampered c

abbrev truthful (k : Conduct) : Environment Cloud Stores := unreliable k fun _ => False

namespace Stores

def runAlone {α : Type} (k : Conduct) (p : Program (Engine Cloud) α) (s : Stores) :
    Option α × Stores :=
  p.run (Engine.rehearse (S := Cloud) (answer k) fun _ s => s) s

def Clear (s : Stores) : Cloud.Call → Prop
  | .deleteBucket bucket => ∀ objects, s.buckets[bucket]? = some objects → objects = []
  | .deleteVolume id => ∀ v ∈ s.volumes, v.id = id → v.attachments = []
  | _ => True

def settle {ε α : Type} (s : Stores) (value : α) : Except ε Stores → Except ε α × Stores
  | .ok s' => (.ok value, s')
  | .error e => (.error e, s)

variable {k : Conduct} {s : Stores} {x : Cloud.Call}

theorem answer_of_change {value : x.Value} {r : Except x.Fault Stores}
    (h : s.attempt k x = r.map (value, ·)) : s.answer k x = s.settle value r := by
  rw [answer, h]
  cases r <;> rfl

theorem answer_of_reading {r : Except x.Fault x.Value} (h : s.attempt k x = r.map (·, s)) :
    s.answer k x = (r, s) := by
  rw [answer, h]
  cases r <;> rfl

end Stores

end Memory

namespace Cloud.Call

def changes : Call → Bool
  | createStack _ _ _ _ | updateStack _ _ _ | deleteStack _ _ | detachVolume _ _ _
  | deleteVolume _ | completeLifecycleAction _ | createBucket _ | deleteObjects _ _
  | deleteBucket _ | createKey _ | deleteKey _ => true
  | _ => false

end Cloud.Call

namespace Memory.Stores

theorem map_keeps {ε α β : Type} {s s' : Stores} {r : Except ε α} {f : α → β × Stores} {b : β}
    (h : r.map f = .ok (b, s')) (hf : ∀ a, (f a).2 = s) : s' = s := by
  cases r with
  | ok a =>
    have hp : f a = (b, s') := Except.ok.inj h
    exact (congrArg Prod.snd hp).symm.trans (hf a)
  | error e => cases h

theorem answer_of_unchanging {x : Cloud.Call} (h : x.changes = false) (k : Conduct) (s : Stores) :
    (s.answer k x).2 = s := by
  rw [answer]
  split
  · next value s' ha =>
    cases x with
    | describeStack | describeGroup | headBucket | listObjects | renderTemplate =>
      exact map_keeps ha fun _ => rfl
    | guestClients | accountId | describeVolumes | stopInstance | waitUntilInstanceStopped
    | waitUntilVolumeAvailable | currentKey | desiredKey => cases ha; rfl
    | _ => cases h
  · rfl

theorem clear_of_unchanging {x : Cloud.Call} (h : x.changes = false) (s : Stores) :
    s.Clear x := by
  cases x <;> trivial

end Memory.Stores

end ClusterKeeper
