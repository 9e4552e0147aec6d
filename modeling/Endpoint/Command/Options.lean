import Endpoint.Text.Resemblance

/-!
# Options and arguments

An argument that begins with a hyphen and is longer than one character is an option, up to a double hyphen that stands
alone. A long option may be given its value after an equals sign, or else takes the next argument. Letters after a
single hyphen are short options.
-/

namespace Endpoint.Command

/-- An option that a command takes. -/
structure OptionSpec where
  /-- The long name, with its two hyphens. -/
  name : String
  short : Option Char
  takesValue : Bool

/-- Why options cannot be taken apart. -/
inductive OptionError where
  /-- An option that the command does not take, with the long options that resemble it. -/
  | unknown (name : String) (near : List String)
  | valueMissing (name : String)
  | valueGiven (name : String)
  deriving DecidableEq, Repr

/-- Options, in the order they are given and with their values, and the arguments besides them. -/
structure Parsed where
  options : List (String × Option String)
  arguments : List String

namespace Parsed

/-- Whether an option is given. -/
def has (p : Parsed) (name : String) : Bool :=
  p.options.any fun o => o.1 == name

/-- The value that an option is given last. -/
def value? (p : Parsed) (name : String) : Option String :=
  (p.options.reverse.find? fun o => o.1 == name).bind (·.2)

/-- An option put before the others. -/
def withOption (p : Parsed) (name : String) (value : Option String) : Parsed :=
  { p with options := (name, value) :: p.options }

end Parsed

/-- The name of a long option and the value after its first equals sign. -/
def splitValue (arg : List Char) : String × Option String :=
  let name := arg.takeWhile (· != '=')
  (String.ofList name, if arg.contains '=' then some (String.ofList (arg.drop (name.length + 1))) else none)

/-- The long options that resemble a name. -/
def nearNames (specs : List OptionSpec) (name : String) : List String :=
  (specs.map OptionSpec.name).filter fun s => Text.resembles s name

/-- The long names of the short options in a cluster of letters. -/
def cluster (specs : List OptionSpec) : List Char → Except OptionError (List String)
  | [] => .ok []
  | c :: r => match specs.find? fun s => s.short == some c with
    | none => .error (.unknown (String.ofList ['-', c]) [])
    | some s => (cluster specs r).map (s.name :: ·)

/-- Whether an argument has the form of an option. -/
def isOption (arg : List Char) : Bool :=
  arg.head? == some '-' && 1 < arg.length

/-- Options and arguments taken apart. Unless they may be mixed, all is an argument from the first argument on. -/
def parse (specs : List OptionSpec) (mixed : Bool) : List String → Except OptionError Parsed
  | [] => .ok ⟨[], []⟩
  | arg :: rest =>
    let chars := arg.toList
    if arg = "--" then .ok ⟨[], rest⟩
    else if isOption chars then
      let (name, explicit) := splitValue chars
      match specs.find? fun s => s.name == name with
      | some s =>
        if s.takesValue then
          match explicit with
          | some v => (parse specs mixed rest).map (·.withOption name (some v))
          | none => match rest with
            | [] => .error (.valueMissing name)
            | v :: rest => (parse specs mixed rest).map (·.withOption name (some v))
        else if explicit.isSome then .error (.valueGiven name)
        else (parse specs mixed rest).map (·.withOption name none)
      | none =>
        if chars.take 2 = ['-', '-'] then .error (.unknown name (nearNames specs name))
        else match cluster specs (chars.drop 1) with
          | .error e => .error e
          | .ok names => (parse specs mixed rest).map fun p =>
            names.foldr (fun n p => p.withOption n none) p
    else if mixed then
      (parse specs mixed rest).map fun p => { p with arguments := arg :: p.arguments }
    else .ok ⟨[], arg :: rest⟩

end Endpoint.Command
