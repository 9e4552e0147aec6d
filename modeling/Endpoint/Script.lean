import Endpoint.Binder
import Endpoint.Failure

/-!
# Scripted attempts

A script says in advance what comes of trying ports: for some ports by their number, then for one attempt after the
other, and then for all that are left.
-/

namespace Endpoint

/-- What comes of one attempt in a script. -/
inductive Reply (α : Type) where
  | bound (handle : α)
  /-- A refusal with what it tells about itself; one by the system tells a code and a text. -/
  | refused (bySystem : Bool) (about : List Value)
  /-- All candidates of another scan failed. -/
  | exhausted (address attempts : String)
  | interrupted (isExit : Bool) (about : List Value)

namespace Reply

/-- The wording of a refusal: one thing told about it is shown bare, and several stand in parentheses. -/
def wording? (bySystem : Bool) : List Value → Except TextFault String
  | [] => .ok ""
  | [v] => v.display
  | v :: w :: r =>
    if bySystem && r.isEmpty then v.display.bind fun a => w.display.map fun b => "[Errno " ++ a ++ "] " ++ b
    else (Value.literals (v :: w :: r)).map fun ls => "(" ++ String.intercalate ", " ls ++ ")"

/-- The wording of a refusal, or of the failure to write it. -/
def wording (bySystem : Bool) (about : List Value) : String :=
  match wording? bySystem about with
  | .ok s => s
  | .error f => f.message

/-- The attempt that a reply stands for. -/
def attempt {α : Type} : Reply α → Attempt α Interruption
  | .bound a => .bound a
  | .refused bySystem about => .refused (wording bySystem about)
  | .exhausted address attempts => .refused (PortsExhausted.wording address attempts)
  | .interrupted isExit about => .interrupted ⟨isExit, wording false about⟩

end Reply

/-- Replies for some ports, replies in the order of attempts, and the reply to all other attempts. -/
structure Script (α : Type) where
  byPort : List (String × Reply α)
  replies : List (Reply α)
  otherwise : Reply α

namespace Script

/-- The reply to an attempt, by the number of attempts before it and the port. -/
def reply {α : Type} (s : Script α) (k : Nat) (port : Int) : Reply α :=
  ((s.byPort.lookup (toString port)).or s.replies[k]?).getD s.otherwise

/-- A factory that follows a script and counts the attempts. -/
def factory {α : Type} (s : Script α) : Factory Nat α Interruption :=
  fun _ port k => ((s.reply k port).attempt, k + 1)

end Script

end Endpoint
