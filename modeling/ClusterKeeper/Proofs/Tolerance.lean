import ClusterKeeper.Proofs.History
import ClusterKeeper.Proofs.Transcripts

/-!
# Tolerated answers

Which conditions of a call stand for a state that is as good as the wanted one.
What is gone need not be deleted, and what is there need not be created.
-/

set_option autoImplicit false

namespace ClusterKeeper

namespace Cloud.Call

def tolerates : Cloud.Call → CloudError → Bool
  | createKey _, e | createBucket _, e | createStack _ _ _ _, e => e.isAlreadyExists
  | updateStack _ _ _, e => e.isNoUpdatesToPerform
  | describeStack _ _, e | headBucket _, e | listObjects _, e | deleteObjects _ _, e
  | deleteBucket _, e | deleteKey _, e | deleteStack _ _, e | deleteVolume _, e
  | stopInstance _ _, e | waitUntilInstanceStopped _, e | waitUntilVolumeAvailable _, e
  | completeLifecycleAction _, e => e.isNotFound
  | detachVolume _ _ _, e => e.isNotFound || e.isIncorrectState
  | _, _ => false

def condition? : (x : Cloud.Call) → x.Fault → Option CloudError
  | renderTemplate _ _ _, _ => none
  | guestClients _, e | accountId, e | describeStack _ _, e | createStack _ _ _ _, e
  | updateStack _ _ _, e | deleteStack _ _, e | describeVolumes _, e
  | stopInstance _ _, e | waitUntilInstanceStopped _, e | detachVolume _ _ _, e
  | waitUntilVolumeAvailable _, e | deleteVolume _, e | describeGroup _, e
  | completeLifecycleAction _, e | headBucket _, e | createBucket _, e
  | listObjects _, e | deleteObjects _ _, e | deleteBucket _, e | currentKey _, e
  | desiredKey _, e | createKey _, e | deleteKey _, e => some e

end Cloud.Call

def Exchange.tolerated (e : Exchange) : Bool :=
  match e.reply with
  | .ok _ => true
  | .error fault => (e.call.condition? fault).any e.call.tolerates

theorem Cloud.isOk_accept_error {α : Type} (expected : CloudError → Bool) (value : α)
    (e : CloudError) : (Cloud.accept expected value (.error e)).isOk = expected e := by
  dsimp only [Cloud.accept]
  cases expected e <;> rfl

def Judges {α ε : Type} (x : Cloud.Call) (f : Except x.Fault x.Value → Except ε α) : Prop :=
  ∀ answer, (f answer).isOk = (Exchange.mk x answer).tolerated

theorem Judges.of_cases {α ε : Type} {x : Cloud.Call} {f : Except x.Fault x.Value → Except ε α}
    (hok : ∀ value, (f (.ok value)).isOk = true)
    (herror : ∀ fault, (f (.error fault)).isOk = (x.condition? fault).any x.tolerates) :
    Judges x f := by
  intro answer
  cases answer with
  | ok value => exact hok value
  | error fault => exact herror fault

def Entry.exchange? : Entry (Engine Cloud) → Option Exchange
  | ⟨.call x, r⟩ => some ⟨x, r⟩
  | _ => none

def exchanges (t : Transcript Cloud) : List Exchange := t.filterMap Entry.exchange?

@[simp] theorem exchanges_nil : exchanges [] = [] := rfl

@[simp] theorem exchanges_append (t t' : Transcript Cloud) :
    exchanges (t ++ t') = exchanges t ++ exchanges t' := List.filterMap_append

@[simp] theorem exchanges_call (x : Cloud.Call) (r : Except x.Fault x.Value)
    (t : Transcript Cloud) : exchanges (.call (S := Cloud) x r :: t) = ⟨x, r⟩ :: exchanges t := rfl

@[simp] theorem exchanges_reported (r : Report) (t : Transcript Cloud) :
    exchanges (.reported r :: t) = exchanges t := rfl

@[simp] theorem exchanges_turned (turn : RetryPolicy.Turn) (delay : Option Duration)
    (t : Transcript Cloud) : exchanges (.turned turn delay :: t) = exchanges t := rfl

@[simp] theorem exchanges_slept (d : Duration) (t : Transcript Cloud) :
    exchanges (.slept d :: t) = exchanges t := rfl

@[simp] theorem exchanges_patience (n : Nat) (t : Transcript Cloud) :
    exchanges (.patience n :: t) = exchanges t := rfl

@[simp] theorem exchanges_measured (ms : List Measurement) :
    exchanges (ms.map fun m => .reported (.measured m)) = [] := by
  induction ms with
  | nil => rfl
  | cons m ms ih => exact ih

theorem Volumes.ends_deleteOnce {volume : String} {t : Transcript Cloud}
    {r : Except CloudError Unit} (h : (deleteOnce volume).Ends t r) :
    ∃ answer : Except CloudError Unit, t = [.call (S := Cloud) (.deleteVolume volume) answer] ∧
      r.isOk = (Exchange.mk (.deleteVolume volume) answer).tolerated := by
  have hjudges : Judges (.deleteVolume volume) (Cloud.accept CloudError.isNotFound ()) :=
    .of_cases (fun _ => rfl) (Cloud.isOk_accept_error _ _)
  obtain ⟨t₁, answer, t₂, rfl, h₁, h₂⟩ := Program.ends_bind h
  obtain ⟨rfl, rfl⟩ := Program.ends_pure h₂
  cases Engine.ends_call (S := Cloud) h₁
  exact ⟨answer, rfl, hjudges answer⟩

end ClusterKeeper
