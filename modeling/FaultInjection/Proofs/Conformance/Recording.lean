import FaultInjection.Conformance.Actions
import FaultInjection.Proofs.Injection.Run

namespace FaultInjection.Conformance

open Injector

def dispatch? (o : Outcome) : Option Dispatch :=
  match o.decision with
  | .fired r => some ⟨o.asked.target, r.identifier, o.answered.flags.entries⟩
  | _ => none

/-- Whoever lets the call go on writes down one entry, and no one else writes. -/
def Candid (x : Executor Recording) : Prop :=
  ∀ call r recording, (x call r recording).host = recording ++
    match (x call r recording).ending with
    | .ok (.ok ()) => [⟨call.target, r.identifier, (x call r recording).call.flags.entries⟩]
    | _ => []

theorem candid_ofEnding {f : Call → Rule → Except Crash (Except ActionError Unit)}
    (h : ∀ call r, f call r ≠ .ok (.ok ())) : Candid (Executor.ofEnding f) := by
  intro call r recording
  change recording = recording ++ match f call r with
    | .ok (.ok ()) => _
    | _ => []
  split
  · next hf => exact absurd hf (h call r)
  · exact (List.append_nil recording).symm

theorem every_candid : actionTable.Every Candid := by
  have hrecord : Candid record := fun _ _ _ => rfl
  unfold actionTable
  refine ((((((((ActionTable.every_empty _).withAction _ hrecord).withAction _ hrecord).withAction
    _ ?_).withAction _ ?_).withAction _ ?_).withAction _ ?_).withAction _ ?_)
  all_goals exact candid_ofEnding fun _ _ => nofun

def Booked (before : Recording) (call : Call) (a : Attempt Recording) : Prop :=
  a.settle.injector.host = before ++ (dispatch? ⟨call, a.settle.decision, a.settle.call⟩).toList

@[simp] theorem host_settle {σ : Type} (a : Attempt σ) :
    a.settle.injector.host = a.injector.host := by
  obtain ⟨ending, selected, admitted, call, inj⟩ := a
  match ending, selected, admitted with
  | .ok d, _, _ => rfl
  | .error c, none, _ => rfl
  | .error c, some e, true => rfl
  | .error c, some e, false => rfl

variable {inj : Injector Recording}

theorem booked_of_quiet {before : Recording} {call : Call} {a : Attempt Recording}
    (hh : a.injector.host = before)
    (hd : dispatch? ⟨call, a.settle.decision, a.settle.call⟩ = none) : Booked before call a := by
  unfold Booked
  rw [host_settle, hh, hd]
  exact (List.append_nil before).symm

theorem booked_conclude {x : Executor Recording} (hx : Candid x) (e : Experiment) (call : Call) :
    Booked inj.host call (inj.conclude e (x (call.merge e.rule) e.rule inj.host)) := by
  have hhost := hx (call.merge e.rule) e.rule inj.host
  generalize x (call.merge e.rule) e.rule inj.host = reaction at hhost ⊢
  obtain ⟨answered, ending, recording⟩ := reaction
  match ending with
  | .ok (.ok ()) => exact hhost
  | .ok (.error (.interrupted i)) => exact booked_of_quiet (hhost.trans (List.append_nil _)) rfl
  | .ok (.error (.unsupported action reason)) =>
    exact booked_of_quiet (hhost.trans (List.append_nil _)) rfl
  | .ok (.error (.failed message)) => exact booked_of_quiet (hhost.trans (List.append_nil _)) rfl
  | .error c => exact booked_of_quiet (hhost.trans (List.append_nil _)) rfl

theorem booked_dispatch (h : inj.actions = actionTable) (e : Experiment) (call : Call) :
    Booked inj.host call (inj.dispatch e call) := by
  unfold Injector.dispatch
  simp only
  split
  · exact booked_of_quiet rfl rfl
  · next x hx =>
    rw [h] at hx
    exact booked_conclude (every_candid _ _ x hx) e call

theorem booked_askLimit (h : inj.actions = actionTable) (e : Experiment) (call : Call) :
    Booked inj.host call (inj.askLimit e call) := by
  unfold Injector.askLimit
  simp only
  split
  · apply booked_dispatch
    exact h
  · exact booked_of_quiet rfl rfl
  · exact booked_of_quiet rfl rfl

theorem booked_consider (h : inj.actions = actionTable) (e : Experiment) (call : Call) :
    Booked inj.host call (inj.consider e call) := by
  unfold Injector.consider
  simp only
  split
  · apply booked_askLimit
    exact h
  · exact booked_of_quiet rfl rfl
  · exact booked_of_quiet rfl rfl

theorem booked_attempt (h : inj.actions = actionTable) (call : Call) :
    Booked inj.host call (inj.attempt call) := by
  obtain ⟨ps, ha⟩ := inj.attempt_eq call
  rw [ha]
  match inj.found call with
  | .ok (some e) =>
    have hactions : ({ inj with patterns := ps } : Injector Recording).actions = actionTable := h
    exact booked_consider hactions e call
  | .ok none => exact booked_of_quiet rfl rfl
  | .error c => exact booked_of_quiet rfl rfl

theorem recording_inject (h : inj.actions = actionTable) (call : Call) :
    (inj.inject call).injector.host = inj.host ++ (dispatch? (inj.outcome call)).toList :=
  booked_attempt h call

theorem recording_after (h : inj.actions = actionTable) (events : List Event) :
    (inj.run events).host = inj.host ++ (inj.outcomes events).filterMap dispatch? := by
  induction events generalizing inj with
  | nil => exact (List.append_nil inj.host).symm
  | cons event events ih =>
    cases event with
    | call c =>
      have hrest := ih ((kept_actions actionTable).inject h c)
      rw [recording_inject h] at hrest
      rw [outcomes, List.filterMap_cons]
      cases hd : dispatch? (inj.outcome c) with
      | none =>
        rw [hd, Option.toList_none, List.append_nil] at hrest
        exact hrest
      | some d =>
        rw [hd, Option.toList_some, List.append_assoc] at hrest
        exact hrest
    | upkeep u =>
      have hu : (inj.upkeep u).host = inj.host := by cases u <;> rfl
      have hrest := ih ((inj.actions_upkeep u).trans h)
      rw [hu] at hrest
      exact hrest

/-- The recording grows by one entry for each call that is decided as fired, in the order of the
calls, with what the call asked for, the rule that decided it and the flags that it was given. -/
theorem recording_eq_dispatches (ttl capacity : Nat) (registry : Registry) (recording : Recording)
    (draws : Draws) (events : List Event) :
    let inj := start ttl capacity actionTable registry recording draws
    (inj.outcomes events).map (·.asked) = Event.calls events ∧
      (inj.run events).host = recording ++ (inj.outcomes events).filterMap dispatch? := by
  intro inj
  exact ⟨asked_outcomes inj events, recording_after rfl events⟩

end FaultInjection.Conformance
