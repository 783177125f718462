import Mathlib
import RecordListing.CommandLine.Session
import RecordListing.Proofs.Layering
import RecordListing.Proofs.Registration

namespace RecordListing

/-!
# Which logging setting counts

The form of the log lines and their destination may be named by a flag, by a variable of the
environment and by the settings. A flag takes the place of the setting before any variable is
looked at, so it counts only where no variable does. A variable that names no form does not count;
one that names no destination does, and then nothing is logged and the run fails.
-/

namespace Logging

/-! ## One choice by name -/

section Named

variable {α : Type} (ofName? : String → Option α) (unknown : String → LogError)

/-- What a name stands for. -/
def named (name : String) : Except LogError α :=
  match ofName? name with
  | some a => .ok a
  | none => .error (unknown name)

/-- A choice by the name in a variable, else by the one in a flag, else by the one in the
settings. -/
structure Follows (inVariable inFlag : Option String) (inSettings : String)
    (choice : Except LogError α) : Prop where
  byVariable : ∀ name, inVariable = some name → choice = named ofName? unknown name
  byFlag : ∀ name, inVariable = none → inFlag = some name → choice = named ofName? unknown name
  bySettings : inVariable = none → inFlag = none → choice = named ofName? unknown inSettings
  flagPrevails_iff : ∀ name a, inFlag = some name → ofName? name = some a →
    (choice = .ok a ↔ ∀ other, inVariable = some other → ofName? other = some a)

variable {ofName? unknown}

theorem named_eq_ok_iff {name : String} {a : α} :
    named ofName? unknown name = .ok a ↔ ofName? name = some a := by
  unfold named
  cases ofName? name with
  | none => simp
  | some b => simp

theorem follows_named (inVariable inFlag : Option String) (inSettings : String) :
    Follows ofName? unknown inVariable inFlag inSettings
      (named ofName? unknown (inVariable.getD (inFlag.getD inSettings))) where
  byVariable := by
    rintro name rfl
    rfl
  byFlag := by
    rintro name rfl rfl
    rfl
  bySettings := by
    rintro rfl rfl
    rfl
  flagPrevails_iff := by
    rintro name a rfl ha
    rw [named_eq_ok_iff]
    cases inVariable with
    | none => simp [ha]
    | some other => simp

end Named

/-! ## The form and the destination -/

/-- A variable that counts names a form. -/
def formatVariable? (here : Surroundings) : Option String :=
  (here.get? "SLTABLE_LOG_FORMAT").filter fun name => (Format.ofName? name).isSome

theorem chooseFormat_eq_named (here : Surroundings) (s : LoggingSettings) :
    chooseFormat here s =
      named Format.ofName? .unknownFormat ((formatVariable? here).getD s.format) := by
  unfold chooseFormat formatVariable? named
  cases here.get? "SLTABLE_LOG_FORMAT" with
  | none =>
      simp only [Option.bind_none, Option.filter_none, Option.getD_none]
      cases Format.ofName? s.format <;> rfl
  | some name =>
      rw [Option.bind_some]
      cases hname : Format.ofName? name with
      | none =>
          -- The variable is passed over on both sides, so the settings decide.
          simp only [Option.filter_some, hname, Option.isSome_none, Bool.false_eq_true, if_false,
            Option.getD_none]
          cases Format.ofName? s.format <;> rfl
      | some f => simp [Option.filter_some, hname]

theorem chooseDestination_eq_named (here : Surroundings) (s : LoggingSettings) :
    chooseDestination here s = named Destination.ofName? .unknownDestination
      ((here.get? "SLTABLE_LOG_OUTPUT").getD s.output) := by
  unfold chooseDestination named
  dsimp only
  cases Destination.ofName? ((here.get? "SLTABLE_LOG_OUTPUT").getD s.output) <;> rfl

/-- A logger has the form and the destination that are chosen. -/
theorem of_chooseLogger {here : Surroundings} {s : LoggingSettings} {logger : Option Logger}
    (henabled : s.enabled = true) (h : chooseLogger here s = .ok logger) :
    ∃ l, logger = some l ∧ chooseFormat here s = .ok l.format ∧
      chooseDestination here s = .ok l.destination := by
  unfold chooseLogger at h
  rw [if_neg (not_not_intro henabled)] at h
  simp only [bind_eq_ok_iff] at h
  obtain ⟨filter, -, format, hformat, destination, hdestination, h⟩ := h
  -- A file is chosen for one destination only, and that choice may fail on its own.
  split_ifs at h
  · simp only [bind_eq_ok_iff] at h
    obtain ⟨file, -, hlogger⟩ := h
    cases hlogger
    exact ⟨_, rfl, hformat, hdestination⟩
  · cases h
    exact ⟨_, rfl, hformat, hdestination⟩

end Logging

namespace CommandLine

open Logging

namespace Session

theorem logger_ofExecution (logger : Option Logger) (x : Execution) :
    (ofExecution logger x).logger = logger := by
  unfold ofExecution
  cases x.outcome with
  | ok text => rfl
  | error e => rfl

/-- A run logs as it is chosen, or fails before it does anything. -/
theorem logger_ofLine {here : Surroundings} {line : Line} {s : Settings}
    (hload : line.load here = .ok s)
    (henabled : (line.options.logging s.logging).enabled = true) :
    (∃ l, (ofLine here line).logger = some l ∧
      chooseFormat here (line.options.logging s.logging) = .ok l.format ∧
      chooseDestination here (line.options.logging s.logging) = .ok l.destination) ∨
    ∃ e, chooseLogger here (line.options.logging s.logging) = .error e ∧
      (ofLine here line).events = [] ∧ (ofLine here line).exitCode = 1 ∧
      (ofLine here line).errors = "Failed to initialize logging: " ++ e.message ++ "\n" := by
  unfold ofLine
  rw [hload]
  cases hlogger : chooseLogger here (line.options.logging s.logging) with
  | error e => exact .inr ⟨e, rfl, by simp [hlogger]⟩
  | ok logger =>
      obtain ⟨l, rfl, hchosen⟩ := of_chooseLogger henabled hlogger
      left
      refine ⟨l, ?_, hchosen⟩
      simp only [hlogger]
      exact logger_ofExecution _ _

end Session

/-- The form and the destination that a run logs with are those of the flags, except where a
variable that counts names others; without a flag they are those of the variable, and then those
of the settings. -/
theorem logging_follows {here : Surroundings} {line : Line} {s : Settings}
    (hload : line.load here = .ok s) :
    let logging := line.options.logging s.logging
    let session := Session.ofLine here line
    Follows Format.ofName? .unknownFormat (formatVariable? here) line.options.logFormat
      s.logging.format (chooseFormat here logging) ∧
    Follows Destination.ofName? .unknownDestination (here.get? "SLTABLE_LOG_OUTPUT")
      line.options.logOutput s.logging.output (chooseDestination here logging) ∧
    (s.logging.enabled = true → line.options.quiet = false →
      (∃ l, session.logger = some l ∧ chooseFormat here logging = .ok l.format ∧
        chooseDestination here logging = .ok l.destination) ∨
      ∃ e, chooseLogger here logging = .error e ∧ session.events = [] ∧ session.exitCode = 1 ∧
        session.errors = "Failed to initialize logging: " ++ e.message ++ "\n") := by
  intro logging session
  refine ⟨?_, ?_, ?_⟩
  · rw [chooseFormat_eq_named]
    exact follows_named _ _ _
  · rw [chooseDestination_eq_named]
    exact follows_named _ _ _
  · intro henabled hquiet
    apply Session.logger_ofLine hload
    simp [CommonOptions.logging, henabled, hquiet]

/-- A flag for the form, and a variable against a flag for the destination. -/
theorem logging_follows_variable :
    let here := Surroundings.fileAndVariable "c.toml" "[logging]\nformat = \"json\"\n"
      "SLTABLE_LOG_OUTPUT" "stdout"
    let o : CommonOptions :=
      { settingsFile := some "c.toml", logFormat := some "text", logOutput := some "stderr" }
    ∃ s, Line.load here ⟨o, .config⟩ = .ok s ∧
      chooseFormat here (o.logging s.logging) = .ok .text ∧
      chooseDestination here (o.logging s.logging) = .ok .stdout := by
  intro here o
  have hsettings : Settings.load here (some "c.toml") =
      .ok { logging := { format := "json" } } := by
    decide +kernel
  have hload : Line.load here ⟨o, .config⟩ = .ok { logging := { format := "json" } } :=
    congrArg (Except.mapError RunError.load) hsettings
  obtain ⟨hformat, hdestination, -⟩ := logging_follows hload
  refine ⟨_, hload, ?_, ?_⟩
  · exact (hformat.flagPrevails_iff "text" .text rfl (by decide)).mpr
      (fun other hother => nomatch hother)
  · exact hdestination.byVariable "stdout" rfl

/-- A variable that names another form than the flag. -/
theorem logging_disregards_flag :
    ¬ ∀ (here : Surroundings) (line : Line) (s : Settings) (name : String) (f : Format),
      line.load here = .ok s → s.logging.enabled = true → line.options.quiet = false →
      line.options.logFormat = some name → Format.ofName? name = some f →
      chooseFormat here (line.options.logging s.logging) = .ok f := by
  intro hprevails
  let here := Surroundings.onlyVariable "SLTABLE_LOG_FORMAT" "json"
  let line : Line := ⟨{ logFormat := some "text" }, .config⟩
  have hsettings : Settings.load here none = .ok {} := by decide +kernel
  have hload : line.load here = .ok {} := congrArg (Except.mapError RunError.load) hsettings
  have htext := hprevails here line {} "text" .text hload rfl rfl rfl (by decide)
  have hjson : chooseFormat here (line.options.logging {}) = .ok .json := by decide
  rw [hjson] at htext
  cases htext

end CommandLine

end RecordListing
