import SchemaSeed.Database.Connection

/-! A server that follows a script: rules say which actions it refuses, how often and
with what. -/

namespace SchemaSeed

namespace Database

/-- Refuses actions whose name starts with `start`, as long as uses are left. -/
structure Rule where
  start : Text
  uses : Nat
  failure : Failure

structure ScriptedServer where
  affected : Int
  warnings : List (List Datum)
  rules : List Rule

namespace ScriptedServer

/-- The first rule that applies to an action, and all rules after its use. -/
def use? (name : Text) : List Rule → Option (Failure × List Rule)
  | [] => none
  | rule :: rest =>
      if 0 < rule.uses ∧ Text.startsWith name rule.start then
        some (rule.failure, { rule with uses := rule.uses - 1 } :: rest)
      else
        (use? name rest).map fun (failure, rest) => (failure, rule :: rest)

/-- Leaving a cursor is never refused. -/
def perform (action : Action) (script : ScriptedServer) : Except Fault Int × ScriptedServer :=
  match action with
  | .leaveCursor => (.ok 0, script)
  | _ =>
      match use? action.name script.rules with
      | some (failure, rules) => (.error (.failed failure), { script with rules })
      | none => (.ok script.affected, script)

def server : Server ScriptedServer where
  perform := perform
  fetch script := (.ok script.warnings, script)

end ScriptedServer

end Database

end SchemaSeed
