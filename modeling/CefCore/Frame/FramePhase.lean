import CefCore.Frame.BrowserInfo

/-!
# The order of the notifications about a frame

`include/cef_frame_handler.h` says in which order a client hears about a frame object: it is
created, attached and detached in turn, and destroyed.

## Main definitions

* `LifeCycle`, `FramePhase.next`: the order for a log, and the automaton.

## Main results

* `lifeCycle_of_monitored`: it accepts a log only if the order is kept.

## Implementation notes

* A frame object that is destroyed may be mentioned once more, as the old main frame.
* A log has the newest notification first.
-/

namespace CefCore.Frame

open EventLog

def FrameNotification.Mentions (f : FrameId) : FrameNotification → Prop
  | .created g | .attached g _ | .detached g | .destroyed g => g = f
  | .mainFrameChanged oldFrame newFrame => oldFrame = some f ∨ newFrame = some f

instance (f : FrameId) (n : FrameNotification) : Decidable (n.Mentions f) := by
  cases n <;> unfold FrameNotification.Mentions <;> infer_instance

def FrameNotification.Presumes (f : FrameId) : FrameNotification → Prop
  | .created g | .attached g _ | .detached g | .destroyed g => g = f
  | .mainFrameChanged _ newFrame => newFrame = some f

/-- Whether the frame object has been attached and not been detached since. -/
def isConnected (f : FrameId) : List FrameNotification → Bool
  | [] => false
  | .attached g _ :: log => g = f || isConnected f log
  | .detached g :: log => g ≠ f && isConnected f log
  | _ :: log => isConnected f log

/-- A notification is in order for a frame object, behind the earlier ones. -/
structure InOrder (f : FrameId) (n : FrameNotification) (earlier : List FrameNotification) : Prop where
  /-- `OnFrameCreated` is the first notification about the frame object, and no later one. -/
  created : n.Mentions f → (n = .created f ↔ ∀ e ∈ earlier, ¬ e.Mentions f)
  attached : ∀ reattached, n = .attached f reattached → isConnected f earlier = false
  detached : n = .detached f → isConnected f earlier = true
  destroyed : .destroyed f ∈ earlier → ¬ n.Presumes f

/-- The notifications about a frame object are in the documented order. -/
def LifeCycle (f : FrameId) (log : List FrameNotification) : Prop :=
  Each (InOrder f) log

inductive FramePhase where
  /-- It has not been heard of. -/
  | unborn
  /-- It is not connected to the renderer process. -/
  | idle
  /-- It is connected to the renderer process. -/
  | live
  /-- It has been destroyed. -/
  | dead

def FramePhase.after (f : FrameId) : FramePhase → FrameNotification → Option FramePhase
  | .unborn, .created _ => some .idle
  | .idle, .attached _ _ => some .live
  | .live, .detached _ => some .idle
  | .idle, .destroyed _ => some .dead
  | .live, .destroyed _ => some .dead
  | .idle, .mainFrameChanged _ _ => some .idle
  | .live, .mainFrameChanged _ _ => some .live
  | .dead, .mainFrameChanged _ newFrame => if newFrame = some f then none else some .dead
  | _, _ => none

def FramePhase.next (f : FrameId) (p : FramePhase) (n : FrameNotification) : Option FramePhase :=
  if n.Mentions f then p.after f n else some p

structure FramePhase.Reflects (f : FrameId) (p : FramePhase) (log : List FrameNotification) :
    Prop where
  unborn : p = .unborn ↔ ∀ e ∈ log, ¬ e.Mentions f
  live : p ≠ .dead → (isConnected f log = true ↔ p = .live)
  dead : .destroyed f ∈ log ↔ p = .dead

variable {f : FrameId} {log : List FrameNotification} {p : FramePhase}

lemma FramePhase.Reflects.of_not_mentions {n : FrameNotification} (h : p.Reflects f log)
    (hn : ¬ n.Mentions f) : InOrder f n log ∧ p.Reflects f (n :: log) := by
  have hconnected : isConnected f (n :: log) = isConnected f log := by
    cases n <;> simp_all [isConnected, FrameNotification.Mentions]
  refine ⟨⟨fun hm => absurd hm hn, ?_, ?_, ?_⟩, ?_, ?_, ?_⟩
  · rintro reattached rfl
    exact absurd rfl hn
  · rintro rfl
    exact absurd rfl hn
  · intro _ hpresumes
    refine hn ?_
    cases n with
    | mainFrameChanged oldFrame newFrame => exact .inr hpresumes
    | _ => exact hpresumes
  · simp [hn, h.unborn]
  · rw [hconnected]
    exact h.live
  · have hne : FrameNotification.destroyed f ≠ n := by
      rintro rfl
      exact hn rfl
    simp [hne, h.dead]

/-- A notification about the frame object that the automaton accepts.

**Proof sketch.** One case for each transition of the automaton. Only `OnFrameCreated` is accepted
for a frame object that the log does not mention. -/
lemma FramePhase.Reflects.of_after {p' : FramePhase} {n : FrameNotification} (h : p.Reflects f log)
    (hn : n.Mentions f) (hafter : p.after f n = some p') :
    InOrder f n log ∧ p'.Reflects f (n :: log) := by
  obtain ⟨hunborn, hlive, hdead⟩ := h
  have hseen : p ≠ .unborn → ¬ ∀ e ∈ log, ¬ e.Mentions f := mt hunborn.mpr
  unfold after at hafter
  split at hafter
  case h_1 g =>
    obtain rfl : g = f := hn
    cases hafter
    have hnone := hunborn.mp rfl
    refine ⟨⟨fun _ => iff_of_true rfl hnone, nofun, nofun, ?_⟩, ?_, ?_, ?_⟩
    · intro hdestroyed
      exact absurd (hdead.mp hdestroyed) nofun
    all_goals simp_all [isConnected, FrameNotification.Mentions]
  case h_8 oldFrame newFrame =>
    split at hafter
    · exact nomatch hafter
    · rename_i hnew
      cases hafter
      refine ⟨⟨fun _ => iff_of_false nofun (hseen nofun), nofun, nofun, fun _ => hnew⟩, ?_, ?_, ?_⟩
      all_goals simp_all [isConnected, FrameNotification.Mentions]
  case h_9 => exact nomatch hafter
  all_goals
    cases hafter
    refine ⟨⟨fun _ => iff_of_false ?_ (hseen nofun), ?_, ?_, ?_⟩, ?_, ?_, ?_⟩
    all_goals simp_all [isConnected, FrameNotification.Mentions]

/-- **The notifications about a frame object are in order if the automaton accepts them.** -/
theorem lifeCycle_of_monitored (h : monitored (FramePhase.next f) .unborn log = some p) :
    LifeCycle f log := by
  refine (each_of_monitored (R := FramePhase.Reflects f) ?_ ?_ h).1
  · exact ⟨by simp, by simp [isConnected], by simp⟩
  · intro p log n p' hreflects hnext
    unfold FramePhase.next at hnext
    split at hnext
    · rename_i hn
      exact hreflects.of_after hn hnext
    · rename_i hn
      exact Option.some.inj hnext ▸ hreflects.of_not_mentions hn

lemma FramePhase.monitored_of_not_mentions (p : FramePhase)
    {notes : List FrameNotification} (h : ∀ n ∈ notes, ¬ n.Mentions f) :
    monitored (FramePhase.next f) p notes = some p :=
  monitored_eq_self fun n hn => if_neg (h n hn)

end CefCore.Frame
