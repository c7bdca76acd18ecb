import ExecutorRegistration.CommandLine
import Mathlib.Data.List.Basic

/-!
# What a run tells beside its log

The log has no part in the status of a run, in its result and in what is told about its course:
these stay the same behind other events and with any filter.
-/

namespace ExecutorRegistration.Completion

variable {completion : Completion} {admits : LogFilter} {exitCode : UInt8} {stdout told : String}

@[simp]
theorem told_admitted (admits : LogFilter) (completion : Completion) :
    (completion.admitted admits).told = completion.told := by
  have remarks : (completion.stderr.filter (Remark.isWritten admits)).filterMap Remark.told? =
      completion.stderr.filterMap Remark.told? := by
    rw [List.filterMap_filter]
    refine List.filterMap_congr fun remark _ => ?_
    cases remark with
    | logged event => exact ite_self none
    | told text => rfl
  rw [Completion.told, admitted, remarks, ← Completion.told]

@[simp]
theorem told_behind (events : List LogEvent) (completion : Completion) :
    (completion.behind events).told = completion.told := by
  have silent : (events.map Remark.logged).filterMap Remark.told? = [] := by
    simp [List.filterMap_map, Remark.told?, Function.comp_def]
  rw [Completion.told, behind, List.filterMap_append, silent, List.nil_append, ← Completion.told]

theorem behind_append (earlier later : List LogEvent) (completion : Completion) :
    completion.behind (earlier ++ later) = (completion.behind later).behind earlier := by
  rw [behind, behind, behind, List.map_append, List.append_assoc]

/-- A completion has a status, a result, and what was told about the course of the run. -/
structure Tells (completion : Completion) (exitCode : UInt8) (stdout told : String) : Prop where
  exitCode_eq : completion.exitCode = exitCode
  stdout_eq : completion.stdout = stdout
  told_eq : completion.told = told

theorem Tells.behind (tells : completion.Tells exitCode stdout told) (events : List LogEvent) :
    (completion.behind events).Tells exitCode stdout told :=
  ⟨tells.exitCode_eq, tells.stdout_eq, (told_behind events completion).trans tells.told_eq⟩

theorem Tells.admitted (tells : completion.Tells exitCode stdout told) (admits : LogFilter) :
    (completion.admitted admits).Tells exitCode stdout told :=
  ⟨tells.exitCode_eq, tells.stdout_eq, (told_admitted admits completion).trans tells.told_eq⟩

theorem failure_tells (written message : String) :
    (failure written message).Tells 1 written ("Error: " ++ message ++ "\n") :=
  ⟨rfl, rfl, String.empty_append⟩

end ExecutorRegistration.Completion
