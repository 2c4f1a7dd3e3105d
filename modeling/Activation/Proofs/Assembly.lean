import Activation.Proofs.History

/-!
# Putting a registry together

A registry is put together in steps: a registration is added, or everything that was linked into the
program is added at once (`AssemblyStep`).  Steps of both kinds may come in any order, and linking
may be done again and again.

Steps register what they register, one after the other, so a sequence of them has a history
(`historyOf`), and its registry is the registry of that history (`Registry.result_assemble`).  The
log has more than that, for linking reports how much it has linked.  But that is no warning, and the
warnings of the steps are those of their history (`Registry.warnings_assemble`).
-/

namespace Activation

/-- A step in putting a registry together. -/
inductive AssemblyStep
  | register (registration : Registration)
  /-- Everything that was linked into the program is registered. -/
  | link (records : LinkedRecords)

/-- What a step registers, in order. -/
def AssemblyStep.registrations : AssemblyStep → List Registration
  | register registration => [registration]
  | link records => records.registrations

/-- All that the steps register, in order. -/
def historyOf (steps : List AssemblyStep) : List Registration := steps.flatMap (·.registrations)

lemma historyOf_cons (step : AssemblyStep) (rest : List AssemblyStep) :
    historyOf (step :: rest) = step.registrations ++ historyOf rest := List.flatMap_cons

lemma historyOf_append (steps later : List AssemblyStep) :
    historyOf (steps ++ later) = historyOf steps ++ historyOf later := List.flatMap_append

/-- Whether the event asks for the attention of whoever runs the program. -/
def Event.isWarning (e : Event) : Bool := e.level == .warn

/-- The warnings among the events, in order. -/
def warningsIn (events : List Event) : List Event := events.filter (·.isWarning)

lemma warningsIn_append (events later : List Event) :
    warningsIn (events ++ later) = warningsIn events ++ warningsIn later := List.filter_append ..

namespace Registry

/-- Does one step. -/
def assembleStep (r : Registry) : AssemblyStep → Logged Registry
  | .register registration => r.register registration
  | .link records => r.link records

/-- Does several steps, in order. -/
def assemble (r : Registry) : List AssemblyStep → Logged Registry
  | [] => pure r
  | step :: rest => do (← r.assembleStep step).assemble rest

/-- The registry that steps put together. -/
def ofSteps (steps : List AssemblyStep) : Logged Registry := empty.assemble steps

/-! ## One step -/

lemma result_assembleStep (r : Registry) (step : AssemblyStep) :
    (r.assembleStep step).result = (r.registerAll step.registrations).result := by
  cases step with
  | register registration => rfl
  | link records => rfl

/-- What linking reports besides is no warning. -/
lemma warnings_assembleStep (r : Registry) (step : AssemblyStep) :
    warningsIn (r.assembleStep step).events =
      warningsIn (r.registerAll step.registrations).events := by
  cases step with
  | register registration =>
    have alone : (r.registerAll [registration]).events = (r.register registration).events :=
      List.append_nil _
    exact congrArg warningsIn alone.symm
  | link records =>
    have reported : (r.link records).events =
        (r.registerAll records.registrations).events ++
          [.linked records.types.length records.constructors.length] := rfl
    have quiet : warningsIn [.linked records.types.length records.constructors.length] = [] := rfl
    show warningsIn (r.link records).events = _
    rw [reported, warningsIn_append, quiet, List.append_nil]
    rfl

/-! ## All steps -/

lemma events_registerAll_append (r : Registry) (history later : List Registration) :
    (r.registerAll (history ++ later)).events =
      (r.registerAll history).events ++
        ((r.registerAll history).result.registerAll later).events := by
  induction history generalizing r with
  | nil => rfl
  | cons registration rest ih =>
    show (r.register registration).events ++
        ((r.register registration).result.registerAll (rest ++ later)).events = _
    rw [ih, ← List.append_assoc]
    rfl

/-- Steps put together the registry of their history. -/
lemma result_assemble (r : Registry) (steps : List AssemblyStep) :
    (r.assemble steps).result = (r.registerAll (historyOf steps)).result := by
  induction steps generalizing r with
  | nil => rfl
  | cons step rest ih =>
    show ((r.assembleStep step).result.assemble rest).result = _
    rw [ih, result_assembleStep, historyOf_cons, registerAll_append]

/-- The warnings of steps are those of their history. -/
lemma warnings_assemble (r : Registry) (steps : List AssemblyStep) :
    warningsIn (r.assemble steps).events =
      warningsIn (r.registerAll (historyOf steps)).events := by
  induction steps generalizing r with
  | nil => rfl
  | cons step rest ih =>
    show warningsIn ((r.assembleStep step).events ++
      ((r.assembleStep step).result.assemble rest).events) = _
    rw [warningsIn_append, warnings_assembleStep, ih, result_assembleStep, historyOf_cons,
      events_registerAll_append, warningsIn_append]

lemma result_ofSteps (steps : List AssemblyStep) :
    (ofSteps steps).result = (ofRegistrations (historyOf steps)).result :=
  result_assemble empty steps

lemma warnings_ofSteps (steps : List AssemblyStep) :
    warningsIn (ofSteps steps).events =
      warningsIn (ofRegistrations (historyOf steps)).events :=
  warnings_assemble empty steps

end Registry

end Activation
